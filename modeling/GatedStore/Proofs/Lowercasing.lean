import GatedStore.Text.Lowercase
import Mathlib.Data.List.Infix

/-! Lower case of a part of a text. Only a capital sigma looks at the text around it, so a part has the lower case that
it has alone exactly where each of its sigmas takes the same form. -/

namespace GatedStore.Text.Lowercase

open Casing

/-- The lower case of a text that stands behind `before`, which is read backwards, and in front of `after`. -/
def lowerWithin (before : List Char) : List Char → List Char → List Char
  | [], _ => []
  | c :: cs, after =>
    (if c = 'Σ' then [if endsWord before (cs ++ after) then 'ς' else 'σ'] else lowerChar c) ++
      lowerWithin (c :: before) cs after

theorem lowerAfter_append (before cs after : List Char) :
    lowerAfter before (cs ++ after) = lowerWithin before cs after ++ lowerAfter (cs.reverse ++ before) after := by
  induction cs generalizing before with
  | nil => rfl
  | cons c cs ih =>
    rw [List.cons_append, lowerAfter, lowerWithin, ih, List.append_assoc, List.reverse_cons, List.append_assoc]
    rfl

theorem lowerWithin_alone (cs : List Char) : lowerWithin [] cs [] = lower cs := by
  have h := lowerAfter_append [] cs []
  rwa [List.append_nil, lowerAfter, List.append_nil, eq_comm] at h

theorem lowerWithin_infix_lower (u cs v : List Char) : lowerWithin u.reverse cs v <:+: lower (u ++ cs ++ v) := by
  rw [lower, List.append_assoc, lowerAfter_append, List.append_nil, lowerAfter_append, ← List.append_assoc]
  exact ⟨_, _, rfl⟩

theorem length_lowerWithin (cs before after before' after' : List Char) :
    (lowerWithin before cs after).length = (lowerWithin before' cs after').length := by
  induction cs generalizing before before' with
  | nil => rfl
  | cons c cs ih =>
    rw [lowerWithin, lowerWithin, List.length_append, List.length_append, ih (c :: before) (c :: before')]
    split <;> rfl

theorem sigma_mem_lower {cs : List Char} (h : 'Σ' ∈ cs) : 'σ' ∈ lower cs ∨ 'ς' ∈ lower cs := by
  obtain ⟨x, y, rfl⟩ := List.append_of_mem h
  rw [lower, lowerAfter_append, lowerAfter, if_pos rfl]
  split <;> simp

theorem forall_cut_cons_iff {α : Type} {a c : α} {cs : List α} {P : List α → List α → Prop} :
    (∀ x y, c :: cs = x ++ a :: y → P x y) ↔ (c = a → P [] cs) ∧ ∀ x y, cs = x ++ a :: y → P (c :: x) y := by
  constructor
  · intro h
    refine ⟨?_, fun x y hcs => h (c :: x) y (congrArg (c :: ·) hcs)⟩
    rintro rfl
    exact h [] cs rfl
  · rintro ⟨hhead, htail⟩ x y hcs
    cases x with
    | nil =>
      obtain ⟨rfl, rfl⟩ := List.cons.inj hcs
      exact hhead rfl
    | cons d x =>
      obtain ⟨rfl, rfl⟩ := List.cons.inj hcs
      exact htail x y rfl

theorem lowerWithin_eq_iff {cs before after before' after' : List Char} :
    lowerWithin before cs after = lowerWithin before' cs after' ↔ ∀ x y, cs = x ++ 'Σ' :: y →
      endsWord (x.reverse ++ before) (y ++ after) = endsWord (x.reverse ++ before') (y ++ after') := by
  induction cs generalizing before before' with
  | nil => simp [lowerWithin]
  | cons c cs ih =>
    rw [forall_cut_cons_iff, lowerWithin, lowerWithin]
    simp only [List.reverse_cons, List.append_assoc, List.singleton_append, List.reverse_nil, List.nil_append]
    rw [← ih]
    by_cases hc : c = 'Σ'
    · have hform : ∀ b b' : Bool, (if b then 'ς' else 'σ') = (if b' then 'ς' else 'σ') ↔ b = b' := by decide
      simp [hc, hform]
    · simp [hc]

def KeepsForms (u cs v : List Char) : Prop :=
  ∀ x y, cs = x ++ 'Σ' :: y → endsWord (u ++ x).reverse (y ++ v) = endsWord x.reverse y

theorem lowerWithin_eq_lower_iff {u cs v : List Char} :
    lowerWithin u.reverse cs v = lower cs ↔ KeepsForms u cs v := by
  simp only [← lowerWithin_alone, lowerWithin_eq_iff, KeepsForms, List.reverse_append, List.append_nil]

/-- A capital sigma between `before`, which is read backwards, and `after` takes its form from beyond them: behind a cased
character it waits for what follows, and with no cased one after it for what stands before. -/
def Loose (before after : List Char) : Prop :=
  meetsCased before = true ∧ after.all isIgnorable = true ∨
    before.all isIgnorable = true ∧ meetsCased after = false

/-- No capital sigma takes its form from beyond the ends of the text. -/
def FixesForms (cs : List Char) : Prop :=
  ∀ x y, cs = x ++ 'Σ' :: y → ¬ Loose x.reverse y

theorem exists_loose {cs : List Char} (h : ¬ FixesForms cs) : ∃ x y, cs = x ++ 'Σ' :: y ∧ Loose x.reverse y := by
  simpa only [FixesForms, not_forall, not_not, exists_prop] using h

theorem sigma_mem_of_not_fixesForms {cs : List Char} (h : ¬ FixesForms cs) : 'Σ' ∈ cs := by
  obtain ⟨x, y, rfl, -⟩ := exists_loose h
  exact List.mem_append_right _ List.mem_cons_self

theorem meetsCased_append (cs rest : List Char) :
    meetsCased (cs ++ rest) = if cs.all isIgnorable then meetsCased rest else meetsCased cs := by
  induction cs with
  | nil => rfl
  | cons c cs ih =>
    by_cases hc : isIgnorable c = true
    · simpa [meetsCased, hc] using ih
    · simp [meetsCased, hc]

theorem meetsCased_of_all {cs : List Char} (h : cs.all isIgnorable = true) : meetsCased cs = false := by
  have happend := meetsCased_append cs []
  rwa [List.append_nil, if_pos h] at happend

theorem not_all_of_meetsCased {cs : List Char} (h : meetsCased cs = true) : cs.all isIgnorable = false := by
  rw [← Bool.not_eq_true]
  intro hall
  rw [meetsCased_of_all hall] at h
  cases h

theorem endsWord_append_of_not_loose {before after : List Char} (h : ¬ Loose before after) (u v : List Char) :
    endsWord (before ++ u) (after ++ v) = endsWord before after := by
  simp only [Loose, not_or, not_and, Bool.not_eq_true, Bool.not_eq_false] at h
  obtain ⟨hcased, hignorable⟩ := h
  rw [endsWord, endsWord, meetsCased_append, meetsCased_append]
  cases hbefore : before.all isIgnorable with
  | true =>
    have hfollows : meetsCased after = true := hignorable hbefore
    simp [hfollows, not_all_of_meetsCased hfollows]
  | false =>
    cases hmeets : meetsCased before with
    | false => simp
    | true => simp [hcased hmeets]

theorem Loose.turns {before after : List Char} (h : Loose before after) :
    (∀ c, meetsCased [c] = true → endsWord before (after ++ [c]) ≠ endsWord before after) ∨
      ∀ c, meetsCased [c] = true → endsWord (before ++ [c]) after ≠ endsWord before after := by
  rcases h with ⟨hmeets, hall⟩ | ⟨hall, hmeets⟩
  · refine Or.inl fun c hcased => ?_
    simp [endsWord, meetsCased_append, hmeets, hall, hcased, meetsCased_of_all hall]
  · refine Or.inr fun c hcased => ?_
    simp [endsWord, meetsCased_append, hmeets, hall, hcased, meetsCased_of_all hall]

theorem keepsForms_of_fixesForms {cs : List Char} (h : FixesForms cs) (u v : List Char) : KeepsForms u cs v := by
  intro x y hcs
  rw [List.reverse_append]
  exact endsWord_append_of_not_loose (h x y hcs) u.reverse v

theorem not_keepsForms_of_not_fixesForms {cs : List Char} (h : ¬ FixesForms cs) :
    (∀ c, meetsCased [c] = true → ¬ KeepsForms [] cs [c]) ∨ ∀ c, meetsCased [c] = true → ¬ KeepsForms [c] cs [] := by
  obtain ⟨x, y, hcs, hloose⟩ := exists_loose h
  refine hloose.turns.imp (fun hturns c hc hkeeps => hturns c hc (hkeeps x y hcs)) fun hturns c hc hkeeps => ?_
  have hform := hkeeps x y hcs
  rw [List.reverse_append, List.append_nil] at hform
  exact hturns c hc hform

theorem not_infix_cons {α : Type} {w w' : List α} {c : α} (hlength : w.length = w'.length) (hne : w ≠ w')
    (hhead : w.head? ≠ some c) : ¬ w <:+: c :: w' := by
  rw [List.infix_cons_iff, not_or]
  refine ⟨fun hpre => ?_, fun hinside => hne (hinside.eq_of_length hlength)⟩
  cases w with
  | nil => exact hne (List.eq_nil_of_length_eq_zero hlength.symm).symm
  | cons d w =>
    obtain ⟨rfl, -⟩ := List.cons_prefix_cons.mp hpre
    exact hhead rfl

theorem not_infix_concat {α : Type} {w w' : List α} {c : α} (hlength : w.length = w'.length) (hne : w ≠ w')
    (hlast : w.getLast? ≠ some c) : ¬ w <:+: w' ++ [c] := by
  rw [← List.reverse_infix, List.reverse_concat]
  refine not_infix_cons ?_ (fun h => hne (List.reverse_injective h)) ?_
  · rw [List.length_reverse, List.length_reverse, hlength]
  · rwa [List.head?_reverse]

structure Plain (c : Char) : Prop where
  ne_sigma : c ≠ 'Σ'
  lowerChar_eq : lowerChar c = [c]
  cased : meetsCased [c] = true

theorem exists_plain_ne (o : Option Char) : ∃ c, Plain c ∧ o ≠ some c := by
  by_cases ho : o = some 'a'
  · subst ho
    exact ⟨'b', ⟨by decide, by decide, by decide +kernel⟩, by decide⟩
  · exact ⟨'a', ⟨by decide, by decide, by decide +kernel⟩, ho⟩

theorem lower_behind {c : Char} (hc : Plain c) (cs : List Char) :
    lower (c :: cs) = c :: lowerWithin [c] cs [] := by
  have h := lowerAfter_append [c] cs []
  rw [List.append_nil, lowerAfter, List.append_nil] at h
  rw [lower, lowerAfter, if_neg hc.ne_sigma, hc.lowerChar_eq, h]
  rfl

theorem lower_before {c : Char} (hc : Plain c) (cs : List Char) :
    lower (cs ++ [c]) = lowerWithin [] cs [c] ++ [c] := by
  rw [lower, lowerAfter_append, lowerAfter, lowerAfter, if_neg hc.ne_sigma, hc.lowerChar_eq]
  rfl

theorem exists_lower_not_infix {cs : List Char} (h : ¬ FixesForms cs) :
    ∃ text, cs <:+: text ∧ ¬ lower cs <:+: lower text := by
  -- One letter at an end turns a sigma, and it is chosen so that the lower case is not found one place further either.
  rcases not_keepsForms_of_not_fixesForms h with hturns | hturns
  · obtain ⟨c, hc, hlast⟩ := exists_plain_ne (lower cs).getLast?
    refine ⟨cs ++ [c], (List.prefix_append cs [c]).isInfix, ?_⟩
    rw [lower_before hc]
    refine not_infix_concat ?_ (fun heq => hturns c hc.cased (lowerWithin_eq_lower_iff.mp heq.symm)) hlast
    rw [← lowerWithin_alone, length_lowerWithin]
  · obtain ⟨c, hc, hhead⟩ := exists_plain_ne (lower cs).head?
    refine ⟨c :: cs, (List.suffix_cons c cs).isInfix, ?_⟩
    rw [lower_behind hc]
    refine not_infix_cons ?_ (fun heq => hturns c hc.cased (lowerWithin_eq_lower_iff.mp heq.symm)) hhead
    rw [← lowerWithin_alone, length_lowerWithin]

theorem fixesForms_iff {cs : List Char} : FixesForms cs ↔ ∀ text, cs <:+: text → lower cs <:+: lower text := by
  constructor
  · rintro h text ⟨u, v, rfl⟩
    rw [← lowerWithin_eq_lower_iff.mpr (keepsForms_of_fixesForms h u v)]
    exact lowerWithin_infix_lower u cs v
  · intro h
    by_contra hloose
    obtain ⟨text, hinside, hlost⟩ := exists_lower_not_infix hloose
    exact hlost (h text hinside)

end GatedStore.Text.Lowercase
