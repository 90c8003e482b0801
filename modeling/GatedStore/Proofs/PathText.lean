import GatedStore.Routing.Path

namespace GatedStore.Path

theorem parts_slash (a b : List Char) : parts (a ++ '/' :: b) = parts a ++ parts b := by
  rw [parts, List.splitOn_append_cons_self, List.filter_append]
  rfl

theorem parts_joined (a b : String) : parts (a ++ "/" ++ b).toList = parts a.toList ++ parts b.toList := by
  rw [String.toList_append, String.toList_append, List.append_assoc]
  exact parts_slash a.toList b.toList

theorem parts_single {part : List Char} (hne : part ≠ []) (hslash : '/' ∉ part) : parts part = [part] := by
  rw [parts, List.splitOn_eq_singleton hslash]
  simp [hne]

theorem intercalate_slash {ps : List (List Char)} (h : ps ≠ []) :
    '/' :: ['/'].intercalate ps = ps.flatMap ('/' :: ·) := by
  induction ps with
  | nil => exact absurd rfl h
  | cons part ps ih =>
    cases ps with
    | nil => simp
    | cons part' ps =>
      rw [List.intercalate_cons_cons, List.flatMap_cons, ← ih (List.cons_ne_nil _ _)]
      simp

theorem mem_intercalate {c : Char} {ps : List (List Char)} (h : c ∈ ['/'].intercalate ps) :
    c = '/' ∨ ∃ part ∈ ps, c ∈ part := by
  by_cases hps : ps = []
  · rw [hps] at h
    cases h
  · have hcons := List.mem_cons_of_mem '/' h
    rw [intercalate_slash hps, List.mem_flatMap] at hcons
    obtain ⟨part, hp, hc⟩ := hcons
    exact (List.mem_cons.mp hc).imp_right fun hc => ⟨part, hp, hc⟩

theorem slash_or_mem_parts {c : Char} {cs : List Char} (h : c ∈ cs) : c = '/' ∨ ∃ part ∈ parts cs, c ∈ part := by
  have hsplit : ['/'].intercalate (cs.splitOn '/') = cs := List.intercalate_splitOn '/'
  rw [← hsplit] at h
  refine (mem_intercalate h).imp_right ?_
  rintro ⟨part, hp, hc⟩
  exact ⟨part, List.mem_filter.mpr ⟨hp, by simpa using List.ne_nil_of_mem hc⟩, hc⟩

theorem mem_of_mem_parts {c : Char} {part cs : List Char} (h : part ∈ parts cs) (hc : c ∈ part) : c ∈ cs := by
  have hsplit : ['/'].intercalate (cs.splitOn '/') = cs := List.intercalate_splitOn '/'
  have hpart : part ∈ cs.splitOn '/' := (List.mem_filter.mp h).1
  have hcons : c ∈ '/' :: ['/'].intercalate (cs.splitOn '/') := by
    rw [intercalate_slash (List.ne_nil_of_mem hpart), List.mem_flatMap]
    exact ⟨part, hpart, List.mem_cons_of_mem _ hc⟩
  rw [hsplit] at hcons
  refine (List.mem_cons.mp hcons).resolve_left ?_
  rintro rfl
  exact (mem_parts h).2 hc

theorem parts_intercalate {ps : List (List Char)} (h : ∀ part ∈ ps, part ≠ [] ∧ '/' ∉ part) :
    parts ('/' :: ['/'].intercalate ps) = ps := by
  by_cases hps : ps = []
  · rw [hps]
    rfl
  · have hslash : parts ('/' :: ['/'].intercalate ps) = parts (['/'].intercalate ps) := parts_slash [] _
    rw [hslash, parts, List.splitOn_intercalate '/' (fun part hp => (h part hp).2) hps]
    refine List.filter_eq_self.mpr fun part hp => ?_
    simpa using (h part hp).1

def ofSegments (vs : List String) : String :=
  "/" ++ "/".intercalate vs

theorem toList_ofSegments (vs : List String) :
    (ofSegments vs).toList = '/' :: ['/'].intercalate (vs.map String.toList) := by
  rw [ofSegments, String.toList_append, String.toList_intercalate]
  rfl

theorem parts_ofSegments {vs : List String} (h : ∀ v ∈ vs, v.toList ≠ [] ∧ '/' ∉ v.toList) :
    parts (ofSegments vs).toList = vs.map String.toList := by
  rw [toList_ofSegments]
  refine parts_intercalate fun part hp => ?_
  obtain ⟨v, hv, rfl⟩ := List.mem_map.mp hp
  exact h v hv

theorem no_end_of_parts {cs : List Char} (h : ∀ part ∈ parts cs, ∀ c ∈ part, isEnd c = false) :
    ∀ c ∈ cs, isEnd c = false := by
  intro c hc
  rcases slash_or_mem_parts hc with rfl | ⟨part, hp, hc⟩
  · rfl
  · exact h part hp c hc

theorem takeWhile_append {a : List Char} (b : List Char) (h : ∀ c ∈ a, isEnd c = false) :
    (a ++ b).takeWhile (fun c => !isEnd c) = a ++ b.takeWhile fun c => !isEnd c := by
  apply List.takeWhile_append_of_pos
  intro c hc
  rw [h c hc]
  rfl

theorem segments_of_no_end {path : String} (h : ∀ c ∈ path.toList, isEnd c = false) :
    segments path = (parts path.toList).map String.ofList := by
  have htake := takeWhile_append [] h
  rw [List.append_nil, List.takeWhile_nil, List.append_nil] at htake
  rw [segments, htake]

theorem segments_slash {p : String} (q : String) (h : ∀ c ∈ p.toList, isEnd c = false) :
    segments (p ++ "/" ++ q) = segments p ++ segments q := by
  have htake : (p ++ "/" ++ q).toList.takeWhile (fun c => !isEnd c) =
      p.toList ++ '/' :: q.toList.takeWhile fun c => !isEnd c := by
    rw [String.toList_append, String.toList_append, List.append_assoc, takeWhile_append _ h]
    rfl
  rw [segments, htake, parts_slash, List.map_append, segments_of_no_end h, segments]

structure IsSegment (v : String) : Prop where
  ne_nil : v.toList ≠ []
  no_slash : '/' ∉ v.toList
  no_end : ∀ c ∈ v.toList, isEnd c = false

theorem no_end_iff {cs : List Char} : (∀ c ∈ cs, isEnd c = false) ↔ '?' ∉ cs ∧ '#' ∉ cs := by
  constructor
  · intro h
    refine ⟨fun hc => ?_, fun hc => ?_⟩
    · cases h '?' hc
    · cases h '#' hc
  · rintro ⟨hquery, hfragment⟩ c hc
    have hne : c ≠ '?' ∧ c ≠ '#' := ⟨fun h => hquery (h ▸ hc), fun h => hfragment (h ▸ hc)⟩
    simpa [isEnd] using hne

theorem isSegment_iff {v : String} : IsSegment v ↔ v ≠ "" ∧ '/' ∉ v.toList ∧ '?' ∉ v.toList ∧ '#' ∉ v.toList := by
  rw [← no_end_iff, ne_eq, ← String.toList_eq_nil_iff]
  exact ⟨fun h => ⟨h.ne_nil, h.no_slash, h.no_end⟩, fun h => ⟨h.1, h.2.1, h.2.2⟩⟩

theorem isSegment_of_mem {v path : String} (h : v ∈ segments path) : IsSegment v := by
  obtain ⟨part, hpart, rfl⟩ := List.mem_map.mp h
  obtain ⟨hne, hslash⟩ := mem_parts hpart
  refine ⟨by simpa using hne, by simpa using hslash, fun c hc => ?_⟩
  rw [String.toList_ofList] at hc
  simpa using List.all_eq_true.mp List.all_takeWhile c (mem_of_mem_parts hpart hc)

theorem segments_single {s : String} (h : IsSegment s) : segments s = [s] := by
  rw [segments_of_no_end h.no_end, parts_single h.ne_nil h.no_slash]
  simp

theorem segments_ofSegments {vs : List String} (h : ∀ v ∈ vs, IsSegment v) : segments (ofSegments vs) = vs := by
  have hparts := parts_ofSegments fun v hv => ⟨(h v hv).ne_nil, (h v hv).no_slash⟩
  have hend : ∀ c ∈ (ofSegments vs).toList, isEnd c = false := by
    refine no_end_of_parts fun part hp => ?_
    rw [hparts] at hp
    obtain ⟨v, hv, rfl⟩ := List.mem_map.mp hp
    exact (h v hv).no_end
  rw [segments_of_no_end hend, hparts, List.map_map]
  exact List.map_id'' (fun v => String.ofList_toList) vs

theorem takeWhile_end {c : Char} (hc : isEnd c = true) (a b : List Char) :
    (a ++ c :: b).takeWhile (fun c => !isEnd c) = a.takeWhile fun c => !isEnd c := by
  induction a with
  | nil => simp [hc]
  | cons d a ih => rw [List.cons_append, List.takeWhile_cons, List.takeWhile_cons, ih]

theorem segments_end {c : Char} (hc : isEnd c = true) {mark : String} (hmark : mark.toList = [c]) (p q : String) :
    segments (p ++ mark ++ q) = segments p := by
  rw [segments, String.toList_append, String.toList_append, hmark, List.append_assoc, List.singleton_append,
    takeWhile_end hc, segments]

theorem segments_query (p q : String) : segments (p ++ "?" ++ q) = segments p :=
  segments_end (show isEnd '?' = true from rfl) rfl p q

theorem segments_fragment (p q : String) : segments (p ++ "#" ++ q) = segments p :=
  segments_end (show isEnd '#' = true from rfl) rfl p q

end GatedStore.Path
