import Mathlib.Data.List.Forall2

namespace GatedStore

variable {α β : Type} {R : α → β → Prop}

@[simp] theorem forall₂_append_iff {a b : List α} {l : List β} :
    List.Forall₂ R (a ++ b) l ↔ ∃ u v, l = u ++ v ∧ List.Forall₂ R a u ∧ List.Forall₂ R b v := by
  induction a generalizing l with
  | nil => simp
  | cons x a ih =>
    rw [List.cons_append, List.forall₂_cons_left_iff]
    constructor
    · rintro ⟨y, l, hxy, hl, rfl⟩
      obtain ⟨u, v, rfl, hu, hv⟩ := ih.mp hl
      exact ⟨y :: u, v, rfl, .cons hxy hu, hv⟩
    · rintro ⟨_, v, rfl, hu, hv⟩
      cases hu with
      | cons hxy hu => exact ⟨_, _, hxy, ih.mpr ⟨_, v, rfl, hu, hv⟩, rfl⟩

theorem exists_right_of_forall₂ {a : List α} {b : List β} (h : List.Forall₂ R a b) {x : α} (hx : x ∈ a) :
    ∃ y ∈ b, R x y := by
  induction h with
  | nil => cases hx
  | cons hxy _ ih =>
    rcases List.mem_cons.mp hx with rfl | hx
    · exact ⟨_, List.mem_cons_self, hxy⟩
    · obtain ⟨y, hy, hr⟩ := ih hx
      exact ⟨y, List.mem_cons_of_mem _ hy, hr⟩

theorem exists_left_of_forall₂ {a : List α} {b : List β} (h : List.Forall₂ R a b) {y : β} (hy : y ∈ b) :
    ∃ x ∈ a, R x y :=
  exists_right_of_forall₂ (R := flip R) h.flip hy

end GatedStore
