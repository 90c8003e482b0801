import GatedStore.Table

namespace GatedStore

def Number.Exact (n : Int) : Prop :=
  -0x8000000000000000 ≤ n ∧ n < 0x10000000000000000

instance (n : Int) : Decidable (Number.Exact n) :=
  inferInstanceAs (Decidable (_ ∧ _))

inductive Number
  | integer (n : Int) (exact : Number.Exact n)
  | float (x : Float)

inductive Json
  | null
  | bool (b : Bool)
  | number (n : Number)
  | string (s : String)
  | array (items : List Json)
  | object (members : List (String × Json))

namespace Json

instance : Inhabited Json := ⟨.null⟩

theorem exact_of_lt {n : Nat} (h : n < UInt64.size) : Number.Exact n := by
  have hn : (n : Int) < 0x10000000000000000 := Int.ofNat_lt.mpr h
  exact ⟨by omega, hn⟩

def ofUInt64 (n : UInt64) : Json :=
  .number (.integer n.toNat (exact_of_lt n.toNat_lt_size))

def natural? : Json → Option UInt64
  | .number (.integer n _) => if 0 ≤ n then some (UInt64.ofNat n.toNat) else none
  | _ => none

def member? (name : String) : Json → Option Json
  | .object members => members.reverse.lookup name
  | _ => none

mutual

def IsCanonical : Json → Prop
  | .array items => AllCanonical items
  | .object members => Increasing members ∧ MembersCanonical members
  | _ => True

def AllCanonical : List Json → Prop
  | [] => True
  | v :: items => v.IsCanonical ∧ AllCanonical items

def MembersCanonical : List (String × Json) → Prop
  | [] => True
  | (_, v) :: members => v.IsCanonical ∧ MembersCanonical members

end

mutual

/-- The members of every object put in order; of several with one name the last one stays. -/
def canonical : Json → Json
  | .array items => .array (canonicalItems items)
  | .object members => .object (canonicalMembers [] members)
  | v => v

def canonicalItems : List Json → List Json
  | [] => []
  | v :: items => v.canonical :: canonicalItems items

def canonicalMembers (done : List (String × Json)) : List (String × Json) → List (String × Json)
  | [] => done
  | (name, v) :: members => canonicalMembers (put name v.canonical done) members

end

theorem membersCanonical_iff (members : List (String × Json)) :
    MembersCanonical members ↔ ∀ p ∈ members, p.2.IsCanonical := by
  induction members with
  | nil => simp [MembersCanonical]
  | cons p members ih =>
    obtain ⟨name, v⟩ := p
    simp [MembersCanonical, ih]

theorem MembersCanonical.put {members : List (String × Json)} (h : MembersCanonical members)
    (name : String) {v : Json} (hv : v.IsCanonical) : MembersCanonical (put name v members) := by
  rw [membersCanonical_iff] at h ⊢
  intro p hp
  rcases mem_put hp with rfl | hp
  · exact hv
  · exact h p hp

mutual

theorem isCanonical_canonical : (v : Json) → v.canonical.IsCanonical
  | .null => trivial
  | .bool _ => trivial
  | .number _ => trivial
  | .string _ => trivial
  | .array items => by
    simp only [canonical, IsCanonical]
    exact allCanonical_canonicalItems items
  | .object members => by
    simp only [canonical, IsCanonical]
    exact canonicalMembers_canonical [] members List.Pairwise.nil trivial

theorem allCanonical_canonicalItems : (items : List Json) → AllCanonical (canonicalItems items)
  | [] => trivial
  | v :: items => ⟨isCanonical_canonical v, allCanonical_canonicalItems items⟩

theorem canonicalMembers_canonical : (done members : List (String × Json)) → Increasing done →
    MembersCanonical done →
    Increasing (canonicalMembers done members) ∧ MembersCanonical (canonicalMembers done members)
  | _, [], hi, hc => ⟨hi, hc⟩
  | done, (name, v) :: members, hi, hc => by
    simp only [canonicalMembers]
    exact canonicalMembers_canonical _ members (increasing_put name _ hi)
      (hc.put name (isCanonical_canonical v))

end

end Json

structure Payload where
  members : Table String Json
  canonical : Json.MembersCanonical members.pairs

namespace Payload

def toJson (p : Payload) : Json :=
  .object p.members.pairs

def ofMembers (members : List (String × Json)) : Payload :=
  let h := Json.canonicalMembers_canonical [] members List.Pairwise.nil trivial
  ⟨⟨Json.canonicalMembers [] members, h.1⟩, h.2⟩

def empty : Payload :=
  ofMembers []

def ofJson? : Json → Option Payload
  | .object members => some (ofMembers members)
  | _ => none

end Payload

end GatedStore
