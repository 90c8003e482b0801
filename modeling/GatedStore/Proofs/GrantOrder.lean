import GatedStore.Proofs.Privilege
import Mathlib.Data.List.Forall2

/-! Permissions are ordered by what they grant. The lone `*` is above all others, and of these each grants what is
left when something is written in place of every part that is a `*`. -/

namespace GatedStore.Permission

def ofParts (ps : List (List Char)) : Permission :=
  ⟨String.ofList ([':'].intercalate ps)⟩

/-- What may be written in place of a part: anything without a colon for `*`, and nothing new for the others. -/
inductive Replaces : List Char → List Char → Prop
  | wildcard {w : List Char} (h : ':' ∉ w) : Replaces ['*'] w
  | same {g : List Char} (h : g ≠ ['*']) : Replaces g g

theorem ofParts_parts (p : Permission) : ofParts p.parts = p := by
  have htext : [':'].intercalate p.parts = p.text.toList := List.intercalate_splitOn ':'
  rw [ofParts, htext, String.ofList_toList]

theorem parts_ofParts {ps : List (List Char)} (hne : ps ≠ []) (h : ∀ part ∈ ps, ':' ∉ part) :
    (ofParts ps).parts = ps := by
  rw [parts, ofParts, String.toList_ofList, List.splitOn_intercalate ':' h hne]

theorem parts_ne_nil (p : Permission) : p.parts ≠ [] :=
  List.splitOn_ne_nil ':' _

theorem not_mem_of_mem_parts {p : Permission} {part : List Char} (h : part ∈ p.parts) : ':' ∉ part :=
  Path.not_mem_of_mem_splitOn h

theorem replaces_iff {g w : List Char} (hg : ':' ∉ g) : Replaces g w ↔ partCovers g w = true ∧ ':' ∉ w := by
  rw [partCovers_iff]
  constructor
  · rintro (hw | hstar)
    · exact ⟨Or.inl rfl, hw⟩
    · exact ⟨Or.inr rfl, hg⟩
  · rintro ⟨rfl | rfl, hw⟩
    · exact .wildcard hw
    · by_cases hstar : g = ['*']
      · subst hstar
        exact .wildcard hw
      · exact .same hstar

theorem partsCover_iff {gs ws : List (List Char)} :
    partsCover gs ws = true ↔ List.Forall₂ (fun g w => partCovers g w = true) gs ws := by
  induction gs generalizing ws with
  | nil => cases ws <;> simp [partsCover]
  | cons g gs ih => cases ws <;> simp [partsCover, ih]

theorem partsCover_antisymm {a b : List (List Char)} (hab : partsCover a b = true) (hba : partsCover b a = true) :
    a = b := by
  rw [partsCover_iff] at hab hba
  induction hab with
  | nil => rfl
  | @cons g w gs ws hgw _ ih =>
    obtain ⟨hwg, hrest⟩ := List.forall₂_cons.mp hba
    have hpart : g = w := by
      rcases partCovers_iff.mp hgw with rfl | rfl
      · rcases partCovers_iff.mp hwg with rfl | rfl <;> rfl
      · rfl
    rw [hpart, ih hrest]

theorem forall₂_replaces_iff {gs ws : List (List Char)} (hgs : ∀ g ∈ gs, ':' ∉ g) :
    List.Forall₂ Replaces gs ws ↔ partsCover gs ws = true ∧ ∀ w ∈ ws, ':' ∉ w := by
  rw [partsCover_iff]
  induction gs generalizing ws with
  | nil => cases ws <;> simp
  | cons g gs ih =>
    obtain ⟨hg, hgs⟩ := List.forall_mem_cons.mp hgs
    cases ws with
    | nil => simp
    | cons w ws =>
      simp only [List.forall₂_cons, replaces_iff hg, ih hgs, List.forall_mem_cons]
      exact and_and_and_comm

theorem grants_wildcard_iff {p : Permission} : p.grants ⟨"*"⟩ = true ↔ p = ⟨"*"⟩ := by
  rw [grants_iff]
  exact ⟨fun h => h.elim id eq_wildcard_of_partsCover, Or.inl⟩

theorem wildcard_grants (p : Permission) : grants ⟨"*"⟩ p = true :=
  grants_iff.mpr (Or.inl rfl)

theorem grants_antisymm {p q : Permission} (hpq : p.grants q = true) (hqp : q.grants p = true) : p = q := by
  rcases grants_iff.mp hpq with rfl | hcover
  · exact (grants_wildcard_iff.mp hqp).symm
  · rcases grants_iff.mp hqp with rfl | hcover'
    · exact grants_wildcard_iff.mp hpq
    · exact eq_of_parts_eq (partsCover_antisymm hcover hcover')

theorem grants_iff_replaces {p q : Permission} (hp : p ≠ ⟨"*"⟩) :
    p.grants q = true ↔ ∃ ws, List.Forall₂ Replaces p.parts ws ∧ q = ofParts ws := by
  have hplain : ∀ part ∈ p.parts, ':' ∉ part := fun _ => not_mem_of_mem_parts
  rw [grants_iff, or_iff_right hp]
  constructor
  · intro h
    exact ⟨q.parts, (forall₂_replaces_iff hplain).mpr ⟨h, fun _ => not_mem_of_mem_parts⟩, (ofParts_parts q).symm⟩
  · rintro ⟨ws, hws, rfl⟩
    obtain ⟨hcover, hcolon⟩ := (forall₂_replaces_iff hplain).mp hws
    have hne : ws ≠ [] := fun h => p.parts_ne_nil (List.forall₂_nil_right_iff.mp (h ▸ hws))
    rwa [parts_ofParts hne hcolon]

theorem grants_order :
    (∀ a : Permission, a.grants a = true) ∧
    (∀ a b c : Permission, a.grants b = true → b.grants c = true → a.grants c = true) ∧
    (∀ a b : Permission, a.grants b = true → b.grants a = true → a.text = b.text) ∧
    (∀ b : Permission, grants ⟨"*"⟩ b = true) ∧ (∀ a : Permission, a.grants ⟨"*"⟩ = true → a.text = "*") ∧
    ∀ a b : Permission, a.text ≠ "*" →
      (a.grants b = true ↔ ∃ ws, List.Forall₂ Replaces a.parts ws ∧ b = ofParts ws) := by
  refine ⟨grants_refl, fun a b c => grants_trans, fun a b hab hba => ?_, wildcard_grants, fun a h => ?_,
    fun a b ha => ?_⟩
  · rw [grants_antisymm hab hba]
  · rw [grants_wildcard_iff.mp h]
  · exact grants_iff_replaces fun h => ha (congrArg text h)

theorem wildcards_grant_empty_action :
    grants ⟨"*:*"⟩ ⟨"orders:*"⟩ = true ∧ grants ⟨"orders:*"⟩ ⟨"orders:"⟩ = true ∧ grants ⟨"*:*"⟩ ⟨"orders:"⟩ = true ∧
      "*:*" ≠ "*" ∧ ∃ ws, List.Forall₂ Replaces (parts ⟨"*:*"⟩) ws ∧ ⟨"orders:"⟩ = ofParts ws := by
  obtain ⟨-, htrans, -, -, -, hreplace⟩ := grants_order
  have hkind : grants ⟨"*:*"⟩ ⟨"orders:*"⟩ = true := by decide
  have haction : grants ⟨"orders:*"⟩ ⟨"orders:"⟩ = true := by decide
  have hboth := htrans _ _ _ hkind haction
  exact ⟨hkind, haction, hboth, by decide, (hreplace _ _ (by decide)).mp hboth⟩

end GatedStore.Permission
