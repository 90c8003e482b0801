import GatedStore.Store.Script
import Mathlib.Data.List.Forall2

/-! Scripts under any interleaving of expectations and requests: nothing expected is lost or moved, a request
is answered by the expectation in front or not at all, and a script is verified exactly when the requests
were the expected ones. -/

namespace GatedStore

variable {S : Schema}

namespace Expectation

inductive Gives : Expectation S → (r : Request S) → Answer r → Prop
  | list (a : Except (StoreError S.Refusal) (List S.Item)) : Gives (.list a) .list a
  | get (id : S.Id) (a : Except (StoreError S.Refusal) S.Item) : Gives (.get id a) (.get id) a
  | create (a : Except (StoreError S.Refusal) S.Item) (draft : S.Draft) : Gives (.create a) (.create draft) a
  | update (id : S.Id) (a : Except (StoreError S.Refusal) S.Item) (change : S.Change) :
      Gives (.update id a) (.update id change) a
  | remove (ids : List S.Id) (a : Except (StoreError S.Refusal) (List S.Id)) : Gives (.remove ids a) (.remove ids) a

def Expects (e : Expectation S) (r : Request S) : Prop :=
  ∃ a, e.Gives r a

theorem answer?_eq_some_iff {e : Expectation S} {r : Request S} {a : Answer r} :
    e.answer? r = some a ↔ e.Gives r a := by
  constructor
  · intro h
    cases e <;> cases r <;> simp only [answer?, reduceCtorEq, Option.ite_none_right_eq_some] at h
    case list.list =>
      obtain rfl := Option.some.inj h
      exact .list _
    case get.get =>
      obtain ⟨rfl, h⟩ := h
      obtain rfl := Option.some.inj h
      exact .get _ _
    case create.create =>
      obtain rfl := Option.some.inj h
      exact .create _ _
    case update.update =>
      obtain ⟨rfl, h⟩ := h
      obtain rfl := Option.some.inj h
      exact .update _ _ _
    case remove.remove =>
      obtain ⟨rfl, h⟩ := h
      obtain rfl := Option.some.inj h
      exact .remove _ _
  · intro h
    cases h <;> simp [answer?]

theorem expects_iff {e : Expectation S} {r : Request S} : e.Expects r ↔ (e.answer? r).isSome = true := by
  rw [Option.isSome_iff_exists]
  exact exists_congr fun a => answer?_eq_some_iff.symm

end Expectation

namespace Script

inductive Step (S : Schema)
  | expect (e : Expectation S)
  | ask (r : Request S)

def step (s : Script S) : Step S → Script S
  | .expect e => s.expect e
  | .ask r => (send r s).2

def after (s : Script S) (steps : List (Step S)) : Script S :=
  steps.foldl step s

def expected : List (Step S) → List (Expectation S)
  | [] => []
  | .expect e :: steps => e :: expected steps
  | .ask _ :: steps => expected steps

def asked : List (Step S) → List (Request S)
  | [] => []
  | .expect _ :: steps => asked steps
  | .ask r :: steps => r :: asked steps

def next? (s : Script S) (r : Request S) : Option (Expectation S) :=
  s.queue.head?.filter fun e => (e.answer? r).isSome

def consumed (s : Script S) : List (Step S) → List (Expectation S)
  | [] => []
  | .expect e :: steps => consumed (s.expect e) steps
  | .ask r :: steps => (s.next? r).toList ++ consumed (send r s).2 steps

theorem send_cases (s : Script S) (r : Request S) :
    (∃ e queue a, s.queue = e :: queue ∧ e.Gives r a ∧ s.next? r = some e ∧
      send r s = (a, ⟨queue, s.unexpected⟩)) ∨
    ((∀ e ∈ s.queue.head?, ¬ e.Expects r) ∧ s.next? r = none ∧
      send r s = (.error .dropped, ⟨s.queue, s.unexpected + 1⟩)) := by
  obtain ⟨queue, unexpected⟩ := s
  cases queue with
  | nil => exact Or.inr ⟨nofun, rfl, rfl⟩
  | cons e queue =>
    cases ha : e.answer? r with
    | some a =>
      exact Or.inl ⟨e, queue, a, rfl, Expectation.answer?_eq_some_iff.mp ha, by simp [next?, ha], by simp [send, ha]⟩
    | none =>
      refine Or.inr ⟨fun e' he' => ?_, by simp [next?, ha], by simp [send, ha]⟩
      obtain rfl := Option.some.inj he'
      rw [Expectation.expects_iff, ha]
      exact Bool.false_ne_true

theorem consumed_append (s : Script S) (steps steps' : List (Step S)) :
    s.consumed (steps ++ steps') = s.consumed steps ++ (s.after steps).consumed steps' := by
  induction steps generalizing s with
  | nil => rfl
  | cons x steps ih =>
    cases x with
    | expect e => exact ih (s.expect e)
    | ask r =>
      rw [List.cons_append, consumed, ih, consumed, List.append_assoc]
      rfl

theorem consumed_append_queue (s : Script S) (steps : List (Step S)) :
    s.consumed steps ++ (s.after steps).queue = s.queue ++ expected steps := by
  induction steps generalizing s with
  | nil => exact (List.append_nil _).symm
  | cons x steps ih =>
    cases x with
    | expect e =>
      have hrest : (s.expect e).consumed steps ++ ((s.expect e).after steps).queue =
          (s.queue ++ [e]) ++ expected steps := ih (s.expect e)
      rw [List.append_assoc] at hrest
      exact hrest
    | ask r =>
      have hrest := ih (send r s).2
      rw [consumed, List.append_assoc]
      refine (congrArg _ hrest).trans ?_
      rcases s.send_cases r with ⟨e, queue, a, hqueue, -, hnext, hsend⟩ | ⟨-, hnext, hsend⟩
      · rw [hnext, hsend, hqueue]
        rfl
      · rw [hnext, hsend]
        rfl

theorem verify_eq_ok_iff {s : Script S} : s.verify = .ok () ↔ s.queue = [] ∧ s.unexpected = 0 := by
  obtain ⟨queue, unexpected⟩ := s
  cases queue with
  | nil => cases unexpected <;> simp [verify]
  | cons e queue => simp [verify]

/-- Every request has an expectation before it that no earlier one used up, `waiting` of them from the start. -/
def Timely (waiting : Nat) (steps : List (Step S)) : Prop :=
  ∀ before, before <+: steps → (asked before).length ≤ waiting + (expected before).length

theorem timely_cons_iff {waiting : Nat} {x : Step S} {steps : List (Step S)} :
    Timely waiting (x :: steps) ↔ ∀ before, before <+: steps →
      (asked (x :: before)).length ≤ waiting + (expected (x :: before)).length := by
  constructor
  · intro h before hbefore
    exact h (x :: before) (List.cons_prefix_cons.mpr ⟨rfl, hbefore⟩)
  · intro h before hbefore
    rcases List.prefix_cons_iff.mp hbefore with rfl | ⟨rest, rfl, hrest⟩
    · exact Nat.zero_le _
    · exact h rest hrest

theorem timely_expect_iff {waiting : Nat} {e : Expectation S} {steps : List (Step S)} :
    Timely waiting (.expect e :: steps) ↔ Timely (waiting + 1) steps := by
  rw [timely_cons_iff]
  refine forall₂_congr fun before _ => ?_
  rw [expected, asked, List.length_cons]
  omega

theorem timely_ask_iff {waiting : Nat} {r : Request S} {steps : List (Step S)} :
    Timely (waiting + 1) (.ask r :: steps) ↔ Timely waiting steps := by
  rw [timely_cons_iff]
  refine forall₂_congr fun before _ => ?_
  rw [expected, asked, List.length_cons]
  omega

theorem not_timely_ask {r : Request S} {steps : List (Step S)} : ¬ Timely 0 (.ask r :: steps) := by
  intro h
  have hfirst := timely_cons_iff.mp h [] List.nil_prefix
  simp [asked, expected] at hfirst

theorem exists_front {queue : List (Expectation S)} {r : Request S} {steps : List (Step S)}
    (htimely : Timely queue.length (.ask r :: steps))
    (hall : List.Forall₂ Expectation.Expects (queue ++ expected steps) (r :: asked steps)) :
    ∃ e ∈ queue.head?, e.Expects r := by
  cases queue with
  | nil => exact absurd htimely not_timely_ask
  | cons e queue =>
    rw [List.cons_append, List.forall₂_cons] at hall
    exact ⟨e, rfl, hall.1⟩

theorem verify_after_iff (s : Script S) (steps : List (Step S)) :
    (s.after steps).verify = .ok () ↔ s.unexpected = 0 ∧
      List.Forall₂ Expectation.Expects (s.queue ++ expected steps) (asked steps) ∧
      Timely s.queue.length steps := by
  induction steps generalizing s with
  | nil =>
    have htimely : Timely s.queue.length ([] : List (Step S)) := fun before hbefore => by
      rw [List.prefix_nil.mp hbefore]
      exact Nat.zero_le _
    rw [expected, asked, List.append_nil, List.forall₂_nil_right_iff]
    exact verify_eq_ok_iff.trans ⟨fun h => ⟨h.2, h.1, htimely⟩, fun h => ⟨h.2.1, h.1⟩⟩
  | cons x steps ih =>
    cases x with
    | expect e =>
      have hqueue : (s.expect e).queue ++ expected steps = s.queue ++ e :: expected steps :=
        List.append_assoc s.queue [e] (expected steps)
      have hlength : (s.expect e).queue.length = s.queue.length + 1 := List.length_append
      have hrest := ih (s.expect e)
      rw [hqueue, hlength, ← timely_expect_iff] at hrest
      exact hrest
    | ask r =>
      have hrest := ih (send r s).2
      have hstep : s.after (.ask r :: steps) = after (send r s).2 steps := rfl
      rw [hstep]
      rcases s.send_cases r with ⟨e, queue, a, hqueue, hgives, -, hsend⟩ | ⟨hnot, -, hsend⟩
      · have hexpects : e.Expects r := ⟨a, hgives⟩
        rw [hsend] at hrest ⊢
        rw [hqueue, List.length_cons, timely_ask_iff, List.cons_append, expected, asked, List.forall₂_cons,
          and_iff_right hexpects]
        exact hrest
      · rw [hsend] at hrest ⊢
        refine iff_of_false (fun h => Nat.succ_ne_zero _ (hrest.mp h).1) ?_
        rintro ⟨-, hall, htimely⟩
        obtain ⟨e, he, hexpects⟩ := exists_front htimely hall
        exact hnot e he hexpects

theorem script_faithful (steps : List (Step S)) :
    let s := empty.after steps
    empty.consumed steps ++ s.queue = expected steps ∧
    (∀ e, empty.consumed (steps ++ [.expect e]) = empty.consumed steps) ∧
    (∀ r, (∃ e queue a, s.queue = e :: queue ∧ e.Gives r a ∧ send r s = (a, ⟨queue, s.unexpected⟩) ∧
          empty.consumed (steps ++ [.ask r]) = empty.consumed steps ++ [e]) ∨
        ((∀ e ∈ s.queue.head?, ¬ e.Expects r) ∧ send r s = (.error .dropped, ⟨s.queue, s.unexpected + 1⟩) ∧
          empty.consumed (steps ++ [.ask r]) = empty.consumed steps)) ∧
    (s.verify = .ok () ↔ List.Forall₂ Expectation.Expects (expected steps) (asked steps) ∧
      ∀ before, before <+: steps → (asked before).length ≤ (expected before).length) := by
  intro s
  refine ⟨consumed_append_queue empty steps, fun e => ?_, fun r => ?_, ?_⟩
  · rw [consumed_append]
    exact List.append_nil _
  · have hconsumed : empty.consumed (steps ++ [.ask r]) = empty.consumed steps ++ (s.next? r).toList := by
      rw [consumed_append, consumed, consumed, List.append_nil]
    rcases s.send_cases r with ⟨e, queue, a, hqueue, hgives, hnext, hsend⟩ | ⟨hnot, hnext, hsend⟩
    · rw [hnext] at hconsumed
      exact Or.inl ⟨e, queue, a, hqueue, hgives, hsend, hconsumed⟩
    · rw [hnext, Option.toList_none, List.append_nil] at hconsumed
      exact Or.inr ⟨hnot, hsend, hconsumed⟩
  · have hverify := verify_after_iff empty steps
    simp only [empty, List.nil_append, List.length_nil, Timely, Nat.zero_add, true_and] at hverify
    exact hverify

end Script

end GatedStore
