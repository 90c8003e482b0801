import GatedStore.Proofs.PathText
import Mathlib.Logic.Relation

/-! The spellings of a path. Slashes that part nothing, a query and a fragment leave its segments alone; and nothing
else does, since every path can be respelled as its segments with one slash in front of each. -/

namespace GatedStore.Path

inductive ExtraSlash : String → String → Prop
  | leading (p : String) : ExtraSlash ("/" ++ p) p
  | trailing (p : String) : ExtraSlash (p ++ "/") p
  | doubled (p q : String) : ExtraSlash (p ++ "//" ++ q) (p ++ "/" ++ q)

inductive Extra : String → String → Prop
  | slash {p q : String} (h : ExtraSlash p q) : Extra p q
  | query (p q : String) : Extra (p ++ "?" ++ q) p
  | fragment (p q : String) : Extra (p ++ "#" ++ q) p

def Reslashed : String → String → Prop :=
  Relation.EqvGen ExtraSlash

def Respelled : String → String → Prop :=
  Relation.EqvGen Extra

variable {p q : String}

theorem eq_of_eqvGen {α β : Type} {r : α → α → Prop} {f : α → β} (hr : ∀ a b, r a b → f a = f b) {a b : α}
    (h : Relation.EqvGen r a b) : f a = f b := by
  induction h with
  | rel a b hab => exact hr a b hab
  | refl a => rfl
  | symm a b _ ih => exact ih.symm
  | trans a b c _ _ ihab ihbc => exact ihab.trans ihbc

theorem doubled_eq (a b : String) : a ++ "//" ++ b = a ++ "/" ++ ("/" ++ b) := by
  rw [← String.append_assoc]
  exact congrArg (· ++ b) (String.toList_inj.mp (by simp))

theorem parts_leading (p : String) : parts ("/" ++ p).toList = parts p.toList := by
  rw [String.toList_append]
  exact parts_slash [] _

theorem ExtraSlash.parts_eq (h : ExtraSlash p q) : parts p.toList = parts q.toList := by
  cases h with
  | leading => exact parts_leading q
  | trailing =>
    have h := parts_joined q ""
    rwa [String.append_empty, show parts "".toList = [] from rfl, List.append_nil] at h
  | doubled a b =>
    rw [doubled_eq, parts_joined, parts_joined, parts_leading]

theorem segments_append_of_end (h : ∃ c ∈ p.toList, isEnd c = true) (q : String) :
    segments (p ++ q) = segments p := by
  obtain ⟨c, hc, hend⟩ := h
  obtain ⟨a, b, hp⟩ := List.append_of_mem hc
  rw [segments, segments, String.toList_append, hp, List.append_assoc, List.cons_append, takeWhile_end hend,
    takeWhile_end hend]

theorem no_end_or_exists (p : String) : (∀ c ∈ p.toList, isEnd c = false) ∨ ∃ c ∈ p.toList, isEnd c = true := by
  by_cases h : ∃ c ∈ p.toList, isEnd c = true
  · exact Or.inr h
  · exact Or.inl fun c hc => Bool.eq_false_iff.mpr fun hend => h ⟨c, hc, hend⟩

theorem segments_leading (p : String) : segments ("/" ++ p) = segments p := by
  have h := segments_slash (p := "") p nofun
  rwa [String.empty_append] at h

theorem ExtraSlash.segments_eq (h : ExtraSlash p q) : segments p = segments q := by
  cases h with
  | leading => exact segments_leading q
  | trailing =>
    rcases no_end_or_exists q with hplain | hend
    · have h := segments_slash "" hplain
      rwa [String.append_empty, show segments "" = [] from rfl, List.append_nil] at h
    · exact segments_append_of_end hend _
  | doubled a b =>
    rcases no_end_or_exists a with hplain | hend
    · have h := segments_slash ("/" ++ b) hplain
      rw [doubled_eq, h, segments_leading, segments_slash b hplain]
    · rw [String.append_assoc, String.append_assoc, segments_append_of_end hend, segments_append_of_end hend]

theorem Extra.segments_eq (h : Extra p q) : segments p = segments q := by
  cases h with
  | slash h => exact h.segments_eq
  | query => exact segments_query _ _
  | fragment => exact segments_fragment _ _

theorem Reslashed.parts_eq (h : Reslashed p q) : parts p.toList = parts q.toList :=
  eq_of_eqvGen (f := fun p => parts p.toList) (fun _ _ h => h.parts_eq) h

theorem Respelled.segments_eq (h : Respelled p q) : segments p = segments q :=
  eq_of_eqvGen (fun _ _ h => h.segments_eq) h

theorem Reslashed.respelled (h : Reslashed p q) : Respelled p q :=
  Relation.EqvGen.mono (fun _ _ h => Extra.slash h) p q h

theorem ExtraSlash.behind (a : String) (h : ExtraSlash p q) : ExtraSlash (a ++ "/" ++ p) (a ++ "/" ++ q) := by
  cases h with
  | leading =>
    rw [← doubled_eq]
    exact .doubled a q
  | trailing =>
    rw [← String.append_assoc]
    exact .trailing _
  | doubled b c =>
    simp only [← String.append_assoc]
    exact .doubled _ c

theorem Reslashed.behind (a : String) (h : Reslashed p q) : Reslashed (a ++ "/" ++ p) (a ++ "/" ++ q) := by
  induction h with
  | rel p q h => exact .rel _ _ (h.behind a)
  | refl p => exact .refl _
  | symm p q _ ih => exact .symm _ _ ih
  | trans p q r _ _ ihpq ihqr => exact .trans _ _ _ ihpq ihqr

theorem ofSegments_cons_cons (v w : String) (vs : List String) :
    ofSegments (v :: w :: vs) = "/" ++ (v ++ ofSegments (w :: vs)) := by
  rw [ofSegments, String.intercalate_cons_cons, String.append_assoc, ofSegments]

theorem reslashed_leading (p : String) : Reslashed p ("/" ++ p) :=
  .symm _ _ (.rel _ _ (.leading p))

theorem reslashed_cons (v : String) (vs : List String) : Reslashed (v ++ ofSegments vs) (ofSegments (v :: vs)) := by
  cases vs with
  | nil =>
    have hlast : Reslashed (v ++ "/") v := .rel _ _ (.trailing v)
    rw [ofSegments, ofSegments, String.intercalate_nil, String.append_empty, String.intercalate_singleton]
    exact .trans _ _ _ hlast (reslashed_leading v)
  | cons w vs =>
    rw [ofSegments_cons_cons]
    exact reslashed_leading _

theorem reslashed_filter_cons (p : String) (ps : List String) :
    Reslashed (p ++ ofSegments (ps.filter (· ≠ ""))) (ofSegments ((p :: ps).filter (· ≠ ""))) := by
  by_cases hp : p = ""
  · rw [List.filter_cons_of_neg (by simpa using hp), hp, String.empty_append]
    exact .refl _
  · rw [List.filter_cons_of_pos (by simpa using hp)]
    exact reslashed_cons p _

theorem reslashed_intercalate (ps : List String) :
    Reslashed ("/".intercalate ps) (ofSegments (ps.filter (· ≠ ""))) := by
  induction ps with
  | nil => exact reslashed_leading ""
  | cons p ps ih =>
    refine .trans _ _ _ ?_ (reslashed_filter_cons p ps)
    cases ps with
    | nil => exact .symm _ _ (.rel _ _ (.trailing p))
    | cons w ps =>
      rw [String.intercalate_cons_cons]
      -- What follows `p` is respelled with a slash in front, which stands behind another one here.
      refine .trans _ _ _ (ih.behind p) (.rel _ _ ?_)
      rw [ofSegments, ← doubled_eq, ← String.append_assoc]
      exact .doubled p _

theorem reslashed_parts (p : String) : Reslashed p (ofSegments ((parts p.toList).map String.ofList)) := by
  have hlist : (((p.toList.splitOn '/').map String.ofList).map String.toList) = p.toList.splitOn '/' := by
    rw [List.map_map]
    exact List.map_id'' (fun _ => String.toList_ofList) _
  have hjoin : "/".intercalate ((p.toList.splitOn '/').map String.ofList) = p := by
    rw [← String.toList_inj, String.toList_intercalate, hlist]
    exact List.intercalate_splitOn '/'
  have hfilter : ((p.toList.splitOn '/').map String.ofList).filter (· ≠ "") =
      (parts p.toList).map String.ofList := by
    rw [List.filter_map, parts]
    refine congrArg _ (List.filter_congr fun part _ => ?_)
    cases part <;> simp
  have hsplit := reslashed_intercalate ((p.toList.splitOn '/').map String.ofList)
  rwa [hjoin, hfilter] at hsplit

theorem isEnd_cases {c : Char} (h : isEnd c = true) : c = '?' ∨ c = '#' := by
  simpa [isEnd] using h

theorem respelled_takeWhile (p : String) : Respelled p (String.ofList (p.toList.takeWhile fun c => !isEnd c)) := by
  have hend := List.head?_dropWhile_not (fun c => !isEnd c) p.toList
  have hp : String.ofList (p.toList.takeWhile (fun c => !isEnd c) ++ p.toList.dropWhile fun c => !isEnd c) = p := by
    rw [List.takeWhile_append_dropWhile, String.ofList_toList]
  generalize p.toList.takeWhile (fun c => !isEnd c) = before at hp ⊢
  cases hrest : p.toList.dropWhile fun c => !isEnd c with
  | nil =>
    rw [hrest, List.append_nil] at hp
    rw [hp]
    exact .refl p
  | cons c rest =>
    rw [hrest] at hp hend
    have hc : isEnd c = true := by simpa using hend
    rw [← hp, String.ofList_append, String.ofList_cons, ← String.append_assoc]
    rcases isEnd_cases hc with rfl | rfl
    · exact .rel _ _ (.query _ _)
    · exact .rel _ _ (.fragment _ _)

theorem respelled_segments (p : String) : Respelled p (ofSegments (segments p)) := by
  have h := reslashed_parts (String.ofList (p.toList.takeWhile fun c => !isEnd c))
  rw [String.toList_ofList] at h
  exact .trans _ _ _ (respelled_takeWhile p) h.respelled

theorem respelled_iff : Respelled p q ↔ segments p = segments q := by
  refine ⟨Respelled.segments_eq, fun h => ?_⟩
  have hp := respelled_segments p
  rw [h] at hp
  exact .trans _ _ _ hp (.symm _ _ (respelled_segments q))

end GatedStore.Path
