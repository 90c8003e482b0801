import GatedStore.Access.Principal

namespace GatedStore

inductive Decision
  | allowed
  | denied
  deriving DecidableEq, Repr

structure Forbidden where
  permission : Permission
  deriving DecidableEq

def Forbidden.message (f : Forbidden) : String :=
  "forbidden: missing permission '" ++ f.permission.text ++ "'"

structure Policy where
  check : Principal → Permission → Decision

namespace Policy

def byGrants : Policy where
  check caller required := if caller.held.any (·.grants required) then .allowed else .denied

def always (d : Decision) : Policy where
  check _ _ := d

def require (p : Policy) (caller : Principal) : Option Permission → Except Forbidden Unit
  | none => .ok ()
  | some required =>
    match p.check caller required with
    | .allowed => .ok ()
    | .denied => .error ⟨required⟩

end Policy

end GatedStore
