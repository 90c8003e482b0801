import GatedStore.Proofs.Matching

namespace GatedStore

def Segment.SameKind : Segment → Segment → Prop
  | .literal _, .literal _ => True
  | .param _, .param _ => True
  | _, _ => False

namespace Pattern

theorem segmentsMoreSpecific_irrefl (a : List Segment) : segmentsMoreSpecific a a = false := by
  induction a with
  | nil => rfl
  | cons s a ih => cases s <;> exact ih

theorem segmentsMoreSpecific_trans {a b c : List Segment} (hab : segmentsMoreSpecific a b = true)
    (hbc : segmentsMoreSpecific b c = true) : segmentsMoreSpecific a c = true := by
  induction a generalizing b c with
  | nil => simp [segmentsMoreSpecific] at hab
  | cons s a ih =>
    cases b with
    | nil => simp [segmentsMoreSpecific] at hab
    | cons s' b =>
      cases c with
      | nil => simp [segmentsMoreSpecific] at hbc
      | cons s'' c =>
        cases s <;> cases s' <;> cases s'' <;>
          simp only [segmentsMoreSpecific, Bool.false_eq_true] at hab hbc ⊢ <;> exact ih hab hbc

theorem segmentsMoreSpecific_append (base a b : List Segment) :
    segmentsMoreSpecific (base ++ a) (base ++ b) = segmentsMoreSpecific a b := by
  induction base with
  | nil => rfl
  | cons s base ih => cases s <;> exact ih

theorem sameSegments_append (base a b : List Segment) :
    sameSegments (base ++ a) (base ++ b) = sameSegments a b := by
  induction base with
  | nil => rfl
  | cons s base ih => cases s <;> simp [sameSegments, ih]

theorem sameSegments_refl (a : List Segment) : sameSegments a a = true := by
  have h := sameSegments_append a [] []
  rwa [List.append_nil] at h

theorem sameSegments_symm {a b : List Segment} (h : sameSegments a b = true) : sameSegments b a = true := by
  induction a generalizing b with
  | nil =>
    cases b with
    | nil => rfl
    | cons s b => cases h
  | cons s a ih =>
    cases b with
    | nil => cases s <;> cases h
    | cons s' b =>
      cases s <;> cases s' <;> simp only [sameSegments, Bool.and_eq_true, beq_iff_eq, Bool.false_eq_true] at h ⊢
      · exact ⟨h.1.symm, ih h.2⟩
      · exact ih h

theorem not_moreSpecific_of_sameSegments {a b : List Segment} (h : sameSegments a b = true) :
    segmentsMoreSpecific a b = false := by
  induction a generalizing b with
  | nil => rfl
  | cons s a ih =>
    cases b with
    | nil => cases s <;> cases h
    | cons s' b =>
      cases s <;> cases s' <;> simp only [sameSegments, Bool.and_eq_true, Bool.false_eq_true] at h
      · exact ih h.2
      · exact ih h

/-- Where the kinds of segments first differ, `a` has a literal and `b` a parameter. -/
def LiteralFirst (a b : List Segment) : Prop :=
  ∃ u text a' v name b', a = u ++ .literal text :: a' ∧ b = v ++ .param name :: b' ∧
    List.Forall₂ Segment.SameKind u v

theorem segmentsMoreSpecific_iff {a b : List Segment} : segmentsMoreSpecific a b = true ↔ LiteralFirst a b := by
  constructor
  · intro h
    induction a generalizing b with
    | nil => cases h
    | cons s a ih =>
      cases b with
      | nil => cases s <;> cases h
      | cons s' b =>
        cases s with
        | literal text =>
          cases s' with
          | literal text' =>
            obtain ⟨u, t, a', v, name, b', rfl, rfl, hkinds⟩ := ih h
            exact ⟨_ :: u, t, a', _ :: v, name, b', rfl, rfl, .cons trivial hkinds⟩
          | param name => exact ⟨[], text, a, [], name, b, rfl, rfl, .nil⟩
        | param name =>
          cases s' with
          | literal text => cases h
          | param name' =>
            obtain ⟨u, t, a', v, n, b', rfl, rfl, hkinds⟩ := ih h
            exact ⟨_ :: u, t, a', _ :: v, n, b', rfl, rfl, .cons trivial hkinds⟩
  · rintro ⟨u, text, a', v, name, b', rfl, rfl, hkinds⟩
    induction hkinds with
    | nil => rfl
    | @cons s s' u v hkind _ ih =>
      cases s with
      | literal t =>
        cases s' with
        | literal t' => exact ih
        | param n' => cases hkind
      | param n =>
        cases s' with
        | literal t' => cases hkind
        | param n' => exact ih

theorem segments_trichotomy {a b : List Segment} {path : List String}
    (ha : List.Forall₂ Segment.Admits a path) (hb : List.Forall₂ Segment.Admits b path) :
    segmentsMoreSpecific a b = true ∨ segmentsMoreSpecific b a = true ∨ sameSegments a b = true := by
  induction ha generalizing b with
  | nil =>
    cases hb
    exact Or.inr (Or.inr rfl)
  | @cons s v a path hs _ ih =>
    cases hb with
    | @cons s' _ b _ hs' hb =>
      have hrest := ih hb
      cases s with
      | literal text =>
        cases s' with
        | literal text' =>
          have he : text = text' := Eq.trans hs (Eq.symm hs')
          simpa [segmentsMoreSpecific, sameSegments, he] using hrest
        | param name' => exact Or.inl rfl
      | param name =>
        cases s' with
        | literal text' => exact Or.inr (Or.inl rfl)
        | param name' => exact hrest

theorem moreSpecific_irrefl (p : Pattern) : p.moreSpecific p = false :=
  segmentsMoreSpecific_irrefl p.segments

theorem moreSpecific_trans {p q r : Pattern} (hpq : p.moreSpecific q = true) (hqr : q.moreSpecific r = true) :
    p.moreSpecific r = true :=
  segmentsMoreSpecific_trans hpq hqr

theorem moreSpecific_asymm {p q : Pattern} (h : p.moreSpecific q = true) : q.moreSpecific p = false := by
  rw [← Bool.not_eq_true]
  intro h'
  have hp := moreSpecific_trans h h'
  rw [moreSpecific_irrefl] at hp
  cases hp

theorem trichotomy {p q : Pattern} {path : List String} (hp : (p.bind? path).isSome = true)
    (hq : (q.bind? path).isSome = true) :
    p.moreSpecific q = true ∨ q.moreSpecific p = true ∨ p.sameShape q = true :=
  segments_trichotomy (bind?_isSome_iff.mp hp) (bind?_isSome_iff.mp hq)

theorem sameShape_of_not_moreSpecific {p q : Pattern} {path : List String}
    (hp : (p.bind? path).isSome = true) (hq : (q.bind? path).isSome = true)
    (hpq : p.moreSpecific q = false) (hqp : q.moreSpecific p = false) : p.sameShape q = true := by
  rcases trichotomy hp hq with h | h | h
  · rw [hpq] at h
    cases h
  · rw [hqp] at h
    cases h
  · exact h

theorem not_sameShape_of_moreSpecific {p q : Pattern} (h : p.moreSpecific q = true ∨ q.moreSpecific p = true) :
    p.sameShape q = false := by
  rw [← Bool.not_eq_true]
  intro hshape
  have hpq : p.moreSpecific q = false := not_moreSpecific_of_sameSegments hshape
  have hqp : q.moreSpecific p = false := not_moreSpecific_of_sameSegments (sameSegments_symm hshape)
  simp [hpq, hqp] at h

theorem count_comparisons {p q : Pattern} {path : List String} (hp : (p.bind? path).isSome = true)
    (hq : (q.bind? path).isSome = true) :
    [p.moreSpecific q, q.moreSpecific p, p.sameShape q].count true = 1 := by
  rcases trichotomy hp hq with h | h | h
  · rw [h, moreSpecific_asymm h, not_sameShape_of_moreSpecific (Or.inl h)]
    rfl
  · rw [h, moreSpecific_asymm h, not_sameShape_of_moreSpecific (Or.inr h)]
    rfl
  · have hpq : p.moreSpecific q = false := not_moreSpecific_of_sameSegments h
    have hqp : q.moreSpecific p = false := not_moreSpecific_of_sameSegments (sameSegments_symm h)
    rw [h, hpq, hqp]
    rfl

theorem moreSpecific_order (p q r : Pattern) :
    (p.moreSpecific q = true ↔ LiteralFirst p.segments q.segments) ∧
    p.moreSpecific p = false ∧
    (p.moreSpecific q = true → q.moreSpecific r = true → p.moreSpecific r = true) ∧
    (p.moreSpecific q = true → q.moreSpecific p = false) ∧
    ∀ path, (p.bind? path).isSome = true → (q.bind? path).isSome = true →
      [p.moreSpecific q, q.moreSpecific p, p.sameShape q].count true = 1 :=
  ⟨segmentsMoreSpecific_iff, moreSpecific_irrefl p, moreSpecific_trans, moreSpecific_asymm,
    fun _ => count_comparisons⟩

end Pattern

end GatedStore
