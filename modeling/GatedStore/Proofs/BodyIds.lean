import GatedStore.Body
import GatedStore.Proofs.IdText
import GatedStore.Proofs.JsonAgreement

namespace GatedStore

theorem Json.natural?_eq_some_iff {v : Json} {n : UInt64} : v.natural? = some n ↔ v = .ofUInt64 n := by
  constructor
  · intro h
    cases v with
    | number x =>
      cases x with
      | integer i hi =>
        simp only [natural?] at h
        split at h
        · obtain rfl := Option.some.inj h
          have hlt : i.toNat < UInt64.size := by
            have hhigh := hi.2
            simp only [UInt64.size]
            omega
          have hback : ((UInt64.ofNat i.toNat).toNat : Int) = i := by
            rw [UInt64.toNat_ofNat_of_lt' hlt]
            omega
          simp only [ofUInt64, hback]
        · cases h
      | float x => cases h
    | null | bool _ | string _ | array _ | object _ => cases h
  · rintro rfl
    simp [natural?, ofUInt64]

namespace Body

open Results

theorem parse_eq_ok_iff {α : Type} {read : Json.Reader α} {expected : String} {body : List UInt8} {a : α} :
    parse read expected body = .ok a ↔ body.all isBlank = false ∧ Json.Reader.document read body = .ok a := by
  rw [parse]
  split
  · rename_i hblank
    simp [hblank]
  · rename_i hblank
    rw [mapError_eq_ok_iff]
    simp [hblank]

theorem not_blank_of_skipBlanks {body s : List UInt8} {b : UInt8} (h : Json.Reader.skipBlanks body = b :: s)
    (hb : isBlank b = false) : body.all isBlank = false := by
  have hmem : b ∈ body := (List.dropWhile_sublist _).subset (h ▸ List.mem_cons_self : b ∈ body.dropWhile _)
  rw [List.all_eq_false]
  exact ⟨b, hmem, by simp [hb]⟩

theorem not_blank_of_head {body : List UInt8} {r : Json.Found × List UInt8} (h : Json.Reader.head body = .ok r) :
    body.all isBlank = false := by
  cases hs : Json.Reader.skipBlanks body with
  | nil =>
    rw [Json.Reader.head, hs] at h
    cases h
  | cons b s =>
    refine not_blank_of_skipBlanks hs (Bool.eq_false_iff.mpr fun hb => ?_)
    simp only [isBlank, Bool.or_eq_true, beq_iff_eq] at hb
    rcases hb with (((rfl | rfl) | rfl) | rfl) | rfl <;>
      · rw [Json.Reader.head, hs] at h
        cases h

theorem not_blank_of_ofBytes {body : List UInt8} {v : Json} (h : Json.Reader.ofBytes body = .ok v) :
    body.all isBlank = false := by
  obtain ⟨s, hvalue, -⟩ := Json.Reader.document_eq_ok_iff.mp h
  obtain ⟨r, hhead⟩ := Json.Reader.exists_head_of_value hvalue
  exact not_blank_of_head hhead

namespace IdEntry

theorem ofJson?_eq_some_iff {v : Json} {e : IdEntry} : ofJson? v = some e ↔
    (∃ id, v = .ofUInt64 id ∧ e = .number id) ∨ ∃ t, v = .string t ∧ e = .text t := by
  have hother : (v.natural?.map .number = some e) ↔ ∃ id, v = .ofUInt64 id ∧ e = .number id := by
    simp only [Option.map_eq_some_iff, Json.natural?_eq_some_iff]
    exact exists_congr fun id => and_congr_right fun _ => eq_comm
  cases v with
  | string t => simp [ofJson?, Json.ofUInt64, eq_comm]
  | null | bool _ | number _ | array _ | object _ => simpa [ofJson?] using hother

inductive Spells : IdEntry → List ResourceId → Prop
  | number (id : ResourceId) : Spells (.number id) [id]
  | text {s : String} {ids : List ResourceId}
      (h : List.Forall₂ (fun part id => readPart part = .ok id) (s.toList.splitOn ',') ids) : Spells (.text s) ids

theorem readParts_eq_ok_iff {parts : List (List Char)} {ids : List ResourceId} :
    readParts parts = .ok ids ↔ List.Forall₂ (fun part id => readPart part = .ok id) parts ids := by
  induction parts generalizing ids with
  | nil => simp [readParts, eq_comm]
  | cons part parts ih =>
    simp only [readParts, bind_eq_ok_iff, List.forall₂_cons_left_iff, ih, Except.ok.injEq]
    constructor
    · rintro ⟨id, hid, rest, hrest, rfl⟩
      exact ⟨id, rest, hid, hrest, rfl⟩
    · rintro ⟨id, rest, hid, hrest, rfl⟩
      exact ⟨id, hid, rest, hrest, rfl⟩

theorem ids_eq_ok_iff {e : IdEntry} {ids : List ResourceId} : e.ids = .ok ids ↔ e.Spells ids := by
  constructor
  · intro h
    cases e with
    | number id =>
      cases h
      exact .number id
    | text s => exact .text (readParts_eq_ok_iff.mp h)
  · intro h
    cases h with
    | number id => rfl
    | text h => exact readParts_eq_ok_iff.mpr h

theorem readPart_eq_ok_iff {part : List Char} {id : ResourceId} :
    readPart part = .ok id ↔ ResourceId.read (String.ofList part) = .ok id := by
  rw [readPart, mapError_eq_ok_iff]

theorem ids_text_eq_singleton_iff {t : String} {id : ResourceId} :
    (text t).ids = .ok [id] ↔ ResourceId.read t = .ok id := by
  rw [ids_eq_ok_iff]
  constructor
  · rintro (_ | h)
    obtain ⟨part, rest, hpart, hrest, hsplit⟩ := List.forall₂_cons_right_iff.mp h
    obtain rfl := List.forall₂_nil_right_iff.mp hrest
    have hwhole : [','].intercalate (t.toList.splitOn ',') = t.toList := List.intercalate_splitOn ','
    rw [hsplit, List.intercalate_singleton] at hwhole
    rwa [readPart_eq_ok_iff, hwhole, String.ofList_toList] at hpart
  · intro h
    have hcomma := (ResourceId.read_eq_ok_iff.mp h).no_comma
    refine .text ?_
    rw [List.splitOn_eq_singleton hcomma]
    exact .cons (readPart_eq_ok_iff.mpr (by rwa [String.ofList_toList])) .nil

end IdEntry

namespace Removal

def entries : Removal → List IdEntry
  | .one id => [id]
  | .many ids => ids

theorem concat_eq_ok_iff {vs : List IdEntry} {ids : List ResourceId} :
    concat vs = .ok ids ↔ ∃ parts, List.Forall₂ IdEntry.Spells vs parts ∧ parts.flatten = ids := by
  induction vs generalizing ids with
  | nil => simp [concat]
  | cons v vs ih =>
    simp only [concat, bind_eq_ok_iff, List.forall₂_cons_left_iff, ih, Except.ok.injEq, IdEntry.ids_eq_ok_iff]
    constructor
    · rintro ⟨part, hpart, _, ⟨parts, hparts, rfl⟩, rfl⟩
      exact ⟨part :: parts, ⟨part, parts, hpart, hparts, rfl⟩, rfl⟩
    · rintro ⟨_, ⟨part, parts, hpart, hparts, rfl⟩, rfl⟩
      exact ⟨part, hpart, _, ⟨parts, hparts, rfl⟩, rfl⟩

theorem ids_eq_ok_iff {r : Removal} {ids : List ResourceId} :
    r.ids = .ok ids ↔ ∃ parts, List.Forall₂ IdEntry.Spells r.entries parts ∧ parts.flatten = ids := by
  cases r with
  | one id => simp [Removal.ids, entries, IdEntry.ids_eq_ok_iff, List.forall₂_cons_left_iff]
  | many ids => exact concat_eq_ok_iff

end Removal

theorem remove_eq_ok {body : List UInt8} {ids : List ResourceId} (h : remove body = .ok ids) :
    ids ≠ [] ∧ ∃ r parts, Json.Reader.document (Removal.read Json.Reader.depthLimit) body = .ok r ∧
      List.Forall₂ IdEntry.Spells r.entries parts ∧ parts.flatten = ids := by
  obtain ⟨r, hr, h⟩ := bind_eq_ok_iff.mp h
  obtain ⟨ids', hids', h⟩ := bind_eq_ok_iff.mp h
  split at h
  · cases h
  · rename_i hne
    cases h
    obtain ⟨parts, hparts⟩ := Removal.ids_eq_ok_iff.mp hids'
    exact ⟨by simpa using hne, r, parts, (parse_eq_ok_iff.mp hr).2, hparts⟩

end Body

end GatedStore
