import GatedStore.Proofs.PatternText

namespace GatedStore

def Segment.part : Segment → List Char
  | .literal text => text.toList
  | .param name => '\x7b' :: (name.toList ++ ['\x7d'])

namespace Segment

theorem chars_eq (s : Segment) : s.chars = '/' :: s.part := by
  cases s <;> rfl

theorem Valid.part_ne_nil {s : Segment} (h : s.Valid) : s.part ≠ [] ∧ '/' ∉ s.part := by
  cases s with
  | literal text => exact ⟨h.1, h.2.1⟩
  | param name => simpa [part] using h.2.1

end Segment

namespace Pattern

theorem braced?_of_no_brace {part : List Char} (h : ∀ c ∈ part, Segment.isReserved c = false) :
    braced? part = none := by
  cases part with
  | nil => rfl
  | cons c cs =>
    refine if_neg fun hb => ?_
    have hc := h c List.mem_cons_self
    rw [hb.1] at hc
    cases hc

theorem braced?_braced (name : List Char) : braced? ('\x7b' :: (name ++ ['\x7d'])) = some name := by
  simp [braced?]

theorem braced?_eq_some {part name : List Char} (h : braced? part = some name) :
    part = '\x7b' :: (name ++ ['\x7d']) := by
  cases part with
  | nil => cases h
  | cons c cs =>
    rw [braced?] at h
    split at h
    · rename_i hb
      obtain rfl := Option.some.inj h
      rw [hb.1, List.dropLast_append_getLast? _ hb.2]
    · cases h

theorem eq_part_of_denotes {part : List Char} {s : Segment} (h : Denotes part s) : part = s.part := by
  rw [Denotes, readSegment] at h
  split at h
  · rename_i name hname
    split at h
    · cases h
    · rw [if_neg List.not_mem_nil] at h
      obtain rfl := Except.ok.inj h
      rw [braced?_eq_some hname, Segment.part, String.toList_ofList]
  · split at h
    · cases h
    · obtain rfl := Except.ok.inj h
      exact String.toList_ofList.symm

theorem denotes_part {s : Segment} (h : s.Valid) : Denotes s.part s := by
  cases s with
  | literal text =>
    have hplain : text.toList.any Segment.isReserved = false := List.any_eq_false.mpr fun c hc => by simp [h.2.2 c hc]
    rw [Denotes, Segment.part, readSegment, braced?_of_no_brace h.2.2]
    simp [hplain]
  | param name =>
    have hplain : name.toList.any Segment.isBrace = false := List.any_eq_false.mpr fun c hc => by simp [h.2.2 c hc]
    have hne : name.toList ≠ [] := h.1
    rw [Denotes, Segment.part, readSegment, braced?_braced]
    simp [hplain, hne]

theorem toList_text (p : Pattern) : p.text.toList = '/' :: ['/'].intercalate (p.segments.map Segment.part) := by
  rw [text]
  split
  · rename_i h
    rw [List.isEmpty_iff.mp h]
    rfl
  · rename_i h
    have hne : p.segments.map Segment.part ≠ [] := by simpa using h
    rw [Path.intercalate_slash hne, String.toList_ofList, List.flatMap_map]
    exact congrArg (p.segments.flatMap ·) (funext Segment.chars_eq)

theorem parts_text (p : Pattern) : Path.parts p.text.toList = p.segments.map Segment.part := by
  rw [toList_text]
  refine Path.parts_intercalate fun part hp => ?_
  obtain ⟨s, hs, rfl⟩ := List.mem_map.mp hp
  exact (p.valid s hs).part_ne_nil

@[simp] theorem parse_text (p : Pattern) : parse p.text = .ok p := by
  rw [parse_eq_ok_iff, parts_text, List.forall₂_map_left_iff, List.forall₂_same]
  exact fun s hs => denotes_part (p.valid s hs)

theorem text_eq_iff {p q : Pattern} : p.text = q.text ↔ p.segments = q.segments := by
  constructor
  · intro h
    have hp := p.parse_text
    rw [h, parse_text] at hp
    rw [Except.ok.inj hp]
  · intro h
    rw [ext h]

end Pattern

end GatedStore
