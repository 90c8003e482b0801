import GatedStore.Table

namespace GatedStore

structure Permission where
  text : String
  deriving DecidableEq, Repr

namespace Permission

instance : Ord Permission :=
  ⟨fun a b => compare a.text b.text⟩

instance : Std.TransOrd Permission where
  eq_swap {a b} := Std.OrientedOrd.eq_swap (a := a.text) (b := b.text)
  isLE_trans {a b c} := Std.TransOrd.isLE_trans (a := a.text) (b := b.text) (c := c.text)

instance : Std.LawfulEqOrd Permission where
  compare_self {a} := Std.ReflOrd.compare_self (a := a.text)
  eq_of_compare {a b} h := by
    cases a
    cases b
    exact congrArg mk (Std.LawfulEqOrd.eq_of_compare h)

def parts (p : Permission) : List (List Char) :=
  p.text.toList.splitOn ':'

def isWildcard (p : Permission) : Bool :=
  p.text == "*"

def partCovers (granted wanted : List Char) : Bool :=
  granted == ['*'] || granted == wanted

def partsCover : List (List Char) → List (List Char) → Bool
  | [], [] => true
  | g :: gs, w :: ws => partCovers g w && partsCover gs ws
  | _, _ => false

/-- Whether holding `p` satisfies a requirement for `required`; a `*` on its own satisfies all. -/
def grants (p required : Permission) : Bool :=
  p.isWildcard || p == required || partsCover p.parts required.parts

end Permission

end GatedStore
