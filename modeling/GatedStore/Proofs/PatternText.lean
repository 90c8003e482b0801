import GatedStore.Proofs.ListPairs
import GatedStore.Proofs.PathText
import GatedStore.Routing.Pattern
import Mathlib.Data.List.Nodup

namespace GatedStore.Pattern

def Denotes (part : List Char) (s : Segment) : Prop :=
  readSegment [] part = .ok s

theorem readSegment_eq_ok_iff {seen : List String} {part : List Char} {s : Segment} :
    readSegment seen part = .ok s ↔ Denotes part s ∧ ∀ n ∈ s.name?, n ∉ seen := by
  simp only [Denotes, readSegment]
  cases braced? part with
  | none =>
    simp only
    split
    · simp
    · constructor
      · intro h
        obtain rfl := Except.ok.inj h
        exact ⟨rfl, by simp [Segment.name?]⟩
      · exact fun h => h.1
  | some name =>
    simp only
    split
    · simp
    · simp only [List.not_mem_nil, if_false]
      constructor
      · intro h
        split at h
        · cases h
        · rename_i hseen
          obtain rfl := Except.ok.inj h
          exact ⟨rfl, by simpa [Segment.name?] using hseen⟩
      · rintro ⟨h, hseen⟩
        obtain rfl := Except.ok.inj h
        rw [if_neg (hseen _ rfl)]

theorem readSegments_cons_eq_ok_iff {seen : List String} {part : List Char} {rest : List (List Char)}
    {ss : List Segment} :
    readSegments seen (part :: rest) = .ok ss ↔
      ∃ s ss', readSegment seen part = .ok s ∧
        readSegments (s.name?.toList ++ seen) rest = .ok ss' ∧ ss = s :: ss' := by
  simp only [readSegments, bind, Except.bind]
  constructor
  · intro h
    split at h
    · cases h
    · rename_i s hs
      split at h
      · cases h
      · rename_i ss' hss
        exact ⟨s, ss', hs, hss, (Except.ok.inj h).symm⟩
  · rintro ⟨s, ss', hs, hss, rfl⟩
    simp [hs, hss]

theorem readSegments_eq_ok_iff {seen : List String} {parts : List (List Char)} {ss : List Segment} :
    readSegments seen parts = .ok ss ↔
      List.Forall₂ Denotes parts ss ∧ (ss.filterMap Segment.name?).Nodup ∧
        ∀ n ∈ ss.filterMap Segment.name?, n ∉ seen := by
  induction parts generalizing seen ss with
  | nil => cases ss <;> simp [readSegments]
  | cons part parts ih =>
    rw [readSegments_cons_eq_ok_iff, List.forall₂_cons_left_iff]
    constructor
    · rintro ⟨s, ss', hs, hss, rfl⟩
      obtain ⟨hd, hseen⟩ := readSegment_eq_ok_iff.mp hs
      obtain ⟨hds, hnodup, hseens⟩ := ih.mp hss
      refine ⟨⟨s, ss', hd, hds, rfl⟩, ?_⟩
      cases s with
      | literal text => exact ⟨hnodup, hseens⟩
      | param name =>
        have hfresh : name ∉ ss'.filterMap Segment.name? := fun hm => hseens name hm List.mem_cons_self
        refine ⟨List.nodup_cons.mpr ⟨hfresh, hnodup⟩, fun n hn => ?_⟩
        rcases List.mem_cons.mp hn with rfl | hn
        · exact hseen n rfl
        · exact fun hm => hseens n hn (List.mem_cons_of_mem _ hm)
    · rintro ⟨⟨s, ss', hd, hds, rfl⟩, hnodup, hseen⟩
      cases s with
      | literal text =>
        exact ⟨_, ss', readSegment_eq_ok_iff.mpr ⟨hd, by simp [Segment.name?]⟩, ih.mpr ⟨hds, hnodup, hseen⟩, rfl⟩
      | param name =>
        obtain ⟨hfresh, hnodup⟩ := List.nodup_cons.mp hnodup
        refine ⟨_, ss', readSegment_eq_ok_iff.mpr ⟨hd, ?_⟩, ih.mpr ⟨hds, hnodup, ?_⟩, rfl⟩
        · rintro n ⟨⟩
          exact hseen name List.mem_cons_self
        · intro n hn hm
          rcases List.mem_cons.mp hm with rfl | hm
          · exact hfresh hn
          · exact hseen n (List.mem_cons_of_mem _ hn) hm

theorem ext {p q : Pattern} (h : p.segments = q.segments) : p = q := by
  cases p
  cases q
  cases h
  rfl

theorem parse_eq_ok_iff {text : String} {p : Pattern} :
    parse text = .ok p ↔ List.Forall₂ Denotes (Path.parts text.toList) p.segments := by
  have hp : List.Forall₂ Denotes (Path.parts text.toList) p.segments →
      readSegments [] (Path.parts text.toList) = .ok p.segments :=
    fun h => readSegments_eq_ok_iff.mpr ⟨h, p.distinct, fun _ _ => List.not_mem_nil⟩
  unfold parse
  split
  · rename_i segments hread
    constructor
    · intro h
      obtain rfl := Except.ok.inj h
      exact (readSegments_eq_ok_iff.mp hread).1
    · intro h
      exact congrArg Except.ok (ext (Except.ok.inj (hread.symm.trans (hp h))))
  · rename_i flaw hread
    refine ⟨nofun, fun h => ?_⟩
    rw [hp h] at hread
    cases hread

theorem parse_eq_error_iff {text : String} {flaw : Flaw} :
    parse text = .error flaw ↔ readSegments [] (Path.parts text.toList) = .error flaw := by
  unfold parse
  split
  · rename_i segments hread
    refine iff_of_false nofun fun h => ?_
    cases hread.symm.trans h
  · rename_i flaw' hread
    constructor
    · intro h
      cases h
      exact hread
    · exact fun h => congrArg Except.error (Except.error.inj (hread.symm.trans h))

theorem parse_congr {text text' : String} (h : Path.parts text.toList = Path.parts text'.toList) :
    parse text = parse text' := by
  cases hread : parse text' with
  | ok p => rw [parse_eq_ok_iff, h, ← parse_eq_ok_iff, hread]
  | error flaw => rw [parse_eq_error_iff, h, ← parse_eq_error_iff, hread]

def take (p : Pattern) (a : List Segment) (h : a.Sublist p.segments) : Pattern :=
  ⟨a, fun s hs => p.valid s (h.subset hs), p.distinct.sublist (h.filterMap _)⟩

theorem exists_parse_iff {text : String} {ss : List Segment} :
    (∃ p, parse text = .ok p ∧ p.segments = ss) ↔
      List.Forall₂ Denotes (Path.parts text.toList) ss ∧ (ss.filterMap Segment.name?).Nodup := by
  constructor
  · rintro ⟨p, hp, rfl⟩
    exact ⟨parse_eq_ok_iff.mp hp, p.distinct⟩
  · rintro ⟨hall, hnodup⟩
    have hread : readSegments [] (Path.parts text.toList) = .ok ss :=
      readSegments_eq_ok_iff.mpr ⟨hall, hnodup, fun _ _ => List.not_mem_nil⟩
    obtain ⟨hvalid, -, -⟩ := readSegments_valid (fun _ hp => Path.mem_parts hp) hread
    exact ⟨⟨ss, hvalid, hnodup⟩, parse_eq_ok_iff.mpr hall, rfl⟩

@[simp] theorem parts_joinText (base text : String) :
    Path.parts (joinText base text).toList = Path.parts base.toList ++ Path.parts text.toList :=
  Path.parts_joined base text

theorem join_eq_ok_iff {base text : String} {p : Pattern} : parse (joinText base text) = .ok p ↔
    ∃ a b, parse base = .ok a ∧ parse text = .ok b ∧ p.segments = a.segments ++ b.segments := by
  rw [parse_eq_ok_iff, parts_joinText, forall₂_append_iff]
  constructor
  · rintro ⟨a, b, hp, ha, hb⟩
    have hsa : a.Sublist p.segments := hp ▸ List.sublist_append_left a b
    have hsb : b.Sublist p.segments := hp ▸ List.sublist_append_right a b
    exact ⟨p.take a hsa, p.take b hsb, parse_eq_ok_iff.mpr ha, parse_eq_ok_iff.mpr hb, hp⟩
  · rintro ⟨a, b, ha, hb, hp⟩
    exact ⟨_, _, hp, parse_eq_ok_iff.mp ha, parse_eq_ok_iff.mp hb⟩

theorem exists_join_iff {base text : String} {a b : Pattern} (ha : parse base = .ok a) (hb : parse text = .ok b) :
    (∃ p, parse (joinText base text) = .ok p) ↔
      (a.segments.filterMap Segment.name?).Disjoint (b.segments.filterMap Segment.name?) := by
  constructor
  · rintro ⟨p, hp⟩
    obtain ⟨a', b', ha', hb', hsegments⟩ := join_eq_ok_iff.mp hp
    obtain rfl := Except.ok.inj (ha.symm.trans ha')
    obtain rfl := Except.ok.inj (hb.symm.trans hb')
    have hdistinct := p.distinct
    rw [hsegments, List.filterMap_append] at hdistinct
    exact List.disjoint_of_nodup_append hdistinct
  · intro h
    have hparts : List.Forall₂ Denotes (Path.parts (joinText base text).toList) (a.segments ++ b.segments) := by
      rw [parts_joinText, forall₂_append_iff]
      exact ⟨_, _, rfl, parse_eq_ok_iff.mp ha, parse_eq_ok_iff.mp hb⟩
    have hnodup : ((a.segments ++ b.segments).filterMap Segment.name?).Nodup := by
      rw [List.filterMap_append]
      exact a.distinct.append b.distinct h
    obtain ⟨p, hp, -⟩ := exists_parse_iff.mpr ⟨hparts, hnodup⟩
    exact ⟨p, hp⟩

end GatedStore.Pattern
