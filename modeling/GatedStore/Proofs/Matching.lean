import GatedStore.Routing.Pattern
import Mathlib.Data.List.Forall2

namespace GatedStore

def Segment.Admits : Segment → String → Prop
  | .literal text, v => text = v
  | .param _, _ => True

namespace Pattern

theorem bindings_cons {s : Segment} {ss : List Segment} {v : String} {vs : List String} (h : s.Admits v) :
    bindings (s :: ss) (v :: vs) = (bindings ss vs).map ((s.name?.map (·, v)).toList ++ ·) := by
  cases s with
  | literal text =>
    have ht : text = v := h
    simp [bindings, Segment.name?, ht]
  | param name => rfl

theorem bindings_cons_none {s : Segment} {ss : List Segment} {v : String} {vs : List String}
    (h : ¬ s.Admits v) : bindings (s :: ss) (v :: vs) = none := by
  cases s with
  | literal text => exact if_neg h
  | param name => exact absurd trivial h

@[simp] theorem bindings_nil_left {vs : List String} : bindings [] vs = if vs = [] then some [] else none := by
  cases vs <;> rfl

@[simp] theorem bindings_nil_right {ss : List Segment} : bindings ss [] = if ss = [] then some [] else none := by
  rcases ss with _ | ⟨_ | _, ss⟩ <;> rfl

theorem bindings_isSome_iff {ss : List Segment} {vs : List String} :
    (bindings ss vs).isSome = true ↔ List.Forall₂ Segment.Admits ss vs := by
  induction ss generalizing vs with
  | nil => cases vs <;> simp
  | cons s ss ih =>
    cases vs with
    | nil => simp
    | cons v vs =>
      rw [List.forall₂_cons, ← ih]
      by_cases hs : s.Admits v
      · simp [bindings_cons hs, hs]
      · simp [bindings_cons_none hs, hs]

theorem bind?_isSome_iff {p : Pattern} {path : List String} :
    (p.bind? path).isSome = true ↔ List.Forall₂ Segment.Admits p.segments path := by
  rw [bind?, Option.isSome_map, bindings_isSome_iff]

theorem admits_of_bindings {ss : List Segment} {vs : List String} {bs : List (String × String)}
    (h : bindings ss vs = some bs) : List.Forall₂ Segment.Admits ss vs :=
  bindings_isSome_iff.mp (h ▸ rfl)

theorem bindings_append_iff {a b : List Segment} {path : List String} {bs : List (String × String)} :
    bindings (a ++ b) path = some bs ↔
      ∃ u v bu bv, path = u ++ v ∧ bindings a u = some bu ∧ bindings b v = some bv ∧ bs = bu ++ bv := by
  induction a generalizing path bs with
  | nil =>
    constructor
    · intro h
      exact ⟨[], path, [], bs, rfl, rfl, h, rfl⟩
    · rintro ⟨u, v, bu, bv, rfl, hu, hv, rfl⟩
      cases u with
      | nil =>
        cases hu
        exact hv
      | cons w u => cases hu
  | cons s a ih =>
    cases path with
    | nil =>
      rw [List.cons_append, bindings_nil_right, if_neg (List.cons_ne_nil _ _)]
      refine ⟨nofun, ?_⟩
      rintro ⟨u, v, bu, bv, hp, hu, -, -⟩
      obtain ⟨rfl, rfl⟩ := List.append_eq_nil_iff.mp hp.symm
      simp at hu
    | cons w path =>
      by_cases hs : s.Admits w
      · rw [List.cons_append, bindings_cons hs, Option.map_eq_some_iff]
        constructor
        · rintro ⟨bs, h, rfl⟩
          obtain ⟨u, v, bu, bv, rfl, hu, hv, rfl⟩ := ih.mp h
          exact ⟨w :: u, v, _, bv, rfl, by rw [bindings_cons hs, hu]; rfl, hv, by simp⟩
        · rintro ⟨u, v, bu, bv, hp, hu, hv, rfl⟩
          cases u with
          | nil => simp at hu
          | cons w' u =>
            obtain ⟨rfl, rfl⟩ := List.cons.inj hp
            rw [bindings_cons hs, Option.map_eq_some_iff] at hu
            obtain ⟨bu, hu, rfl⟩ := hu
            exact ⟨bu ++ bv, ih.mpr ⟨u, v, bu, bv, rfl, hu, hv, rfl⟩, by simp⟩
      · rw [List.cons_append, bindings_cons_none hs]
        refine ⟨nofun, ?_⟩
        rintro ⟨u, v, bu, bv, hp, hu, -, -⟩
        cases u with
        | nil => simp at hu
        | cons w' u =>
          obtain ⟨rfl, rfl⟩ := List.cons.inj hp
          rw [bindings_cons_none hs] at hu
          cases hu

end Pattern

end GatedStore
