import GatedStore.Proofs.EditGrammar
import GatedStore.Proofs.RemovalShapes

namespace GatedStore.Body

open Json.Reader (ofBytes)

def HoldsPayload (body : List UInt8) (p : Payload) : Prop :=
  ∃ v, ofBytes body = .ok v ∧ v.Denotes (.object p.members.pairs)

def HoldsEdit (body : List UInt8) (n : ResourceId) (p : Payload) : Prop :=
  ∃ id payload, EditText body id payload ∧ Names id n ∧ payload.Denotes (.object p.members.pairs)

def HoldsIds (body : List UInt8) (ids : List ResourceId) : Prop :=
  ∃ v, ofBytes body = .ok v ∧ Removal.Removes v (.ok ids)

variable {body : List UInt8} {p : Payload} {ids : List ResourceId}

theorem holdsPayload_iff : HoldsPayload body p ↔ payload body = .ok p := by
  simp only [HoldsPayload, payload_eq_ok_iff, ← Payload.ofJson?_eq_some_iff]
  constructor
  · rintro ⟨v, hv, hp⟩
    cases v with
    | object ms => exact ⟨ms, hv, Option.some.inj hp⟩
    | null | bool _ | number _ | string _ | array _ => cases hp
  · rintro ⟨ms, hv, rfl⟩
    exact ⟨_, hv, rfl⟩

theorem holdsEdit_iff {n : ResourceId} : HoldsEdit body n p ↔ edit body = .ok (n, p) :=
  edit_eq_ok_iff.symm

theorem holdsIds_iff : HoldsIds body ids ↔ remove body = .ok ids := by
  constructor
  · rintro ⟨v, hv, h⟩
    exact (remove_eq_iff hv).mpr h
  · intro h
    cases hv : ofBytes body with
    | error f =>
      obtain ⟨problem, herror⟩ := exists_problem_of_unread hv
      cases h.symm.trans herror
    | ok v => exact ⟨v, hv, (remove_eq_iff hv).mp h⟩

end GatedStore.Body
