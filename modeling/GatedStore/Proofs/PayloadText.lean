import GatedStore.Proofs.BodyIds

namespace GatedStore

open Text.Utf8

namespace Json

theorem put_of_increasing {done members : List (String × Json)} {name : String} {v : Json}
    (h : Increasing (done ++ (name, v) :: members)) : put name v done = done ++ [(name, v)] := by
  induction done with
  | nil => rfl
  | cons p done ih =>
    obtain ⟨name', v'⟩ := p
    have hp := List.pairwise_cons.mp h
    have hlt : compare name' name = .lt := hp.1 (name, v) (by simp)
    have hgt : compare name name' = .gt := Std.OrientedCmp.gt_of_lt hlt
    simp only [put, hgt, ih hp.2, List.cons_append]

mutual

theorem canonical_of_isCanonical : (v : Json) → v.IsCanonical → v.canonical = v
  | .null, _ => rfl
  | .bool _, _ => rfl
  | .number _, _ => rfl
  | .string _, _ => rfl
  | .array items, h => by rw [canonical, canonicalItems_of_allCanonical items h]
  | .object members, h => by
    rw [canonical, canonicalMembers_of_increasing [] members h.1 h.2, List.nil_append]

theorem canonicalItems_of_allCanonical : (items : List Json) → AllCanonical items → canonicalItems items = items
  | [], _ => rfl
  | v :: items, h => by
    rw [canonicalItems, canonical_of_isCanonical v h.1, canonicalItems_of_allCanonical items h.2]

theorem canonicalMembers_of_increasing : (done members : List (String × Json)) → Increasing (done ++ members) →
    MembersCanonical members → canonicalMembers done members = done ++ members
  | done, [], _, _ => by rw [canonicalMembers, List.append_nil]
  | done, (name, v) :: members, hi, hc => by
    have happend : done ++ (name, v) :: members = (done ++ [(name, v)]) ++ members := by simp
    have hput : put name v.canonical done = done ++ [(name, v)] := by
      rw [canonical_of_isCanonical v hc.1, put_of_increasing hi]
    rw [canonicalMembers, hput, canonicalMembers_of_increasing _ members (happend ▸ hi) hc.2, happend]

end

end Json

namespace Payload

theorem ofMembers_pairs (p : Payload) : ofMembers p.members.pairs = p := by
  have h := Json.canonicalMembers_of_increasing [] p.members.pairs p.members.increasing p.canonical
  obtain ⟨members, canonical⟩ := p
  rw [ofMembers]
  congr

@[simp] theorem ofJson?_toJson (p : Payload) : ofJson? p.toJson = some p :=
  congrArg some p.ofMembers_pairs

end Payload

theorem Json.Reader.document_of_takes {α : Type} {read : Reader α} {cs : List Char} {a : α} (h : Takes read cs a) :
    document read (encode cs) = .ok a := by
  have hread := h [] stops_nil
  rw [List.append_nil] at hread
  rw [document, hread]
  rfl

theorem Json.Reader.ofBytes_chars {v : Json} (hv : v.Integral) (hd : v.nesting ≤ depthLimit) :
    ofBytes (encode v.chars) = .ok v :=
  document_of_takes (value_chars v hv hd)

namespace Body

open Json.Reader
open Results

theorem IdEntry.ofJson?_ofUInt64 (n : UInt64) : IdEntry.ofJson? (Json.ofUInt64 n) = some (.number n) := by
  simp [ofJson?, Json.natural?, Json.ofUInt64]

theorem payload_eq_ok_iff {body : List UInt8} {p : Payload} :
    payload body = .ok p ↔ ∃ ms, ofBytes body = .ok (.object ms) ∧ Payload.ofMembers ms = p := by
  rw [payload, bind_eq_ok_iff]
  constructor
  · rintro ⟨v, hv, h⟩
    obtain ⟨-, hv⟩ := parse_eq_ok_iff.mp hv
    cases v with
    | object ms =>
      cases h
      exact ⟨ms, hv, rfl⟩
    | null | bool _ | number _ | string _ | array _ => cases h
  · rintro ⟨ms, hv, rfl⟩
    exact ⟨_, parse_eq_ok_iff.mpr ⟨not_blank_of_ofBytes hv, hv⟩, rfl⟩

theorem payload_text {p : Payload} (hp : p.toJson.Integral) (hd : p.toJson.nesting ≤ depthLimit) :
    payload (encode p.toJson.chars) = .ok p :=
  payload_eq_ok_iff.mpr ⟨_, ofBytes_chars hp hd, p.ofMembers_pairs⟩

end Body

end GatedStore
