import GatedStore.Proofs.ResourceStore
import GatedStore.Proofs.Runs

/-! The numbers of a store. Every attempt to create takes the next one, whatever comes of it, until the
last number is reached and nothing more is created. -/

namespace GatedStore

variable {S : Schema}

def Request.creates : Request S → Bool
  | .create _ => true
  | .list => false
  | .get _ => false
  | .update _ _ => false
  | .remove _ => false

namespace Store

/-- The number that an entity is about to be made for. -/
def handed? (st : Store S) : Request S → Option UInt64
  | .create _ => if st.next = lastNumber ∨ st.items.contains (S.ofNumber st.next) = true then none else some st.next
  | _ => none

def settle (st : Store S) (id : S.Id) : Except S.Refusal S.Item → Outcome S S.Item
  | .error reason => fail (.refused reason) st
  | .ok item =>
    match S.onCreate st.context item with
    | (item, .accepted) => ok item (st.keep id item)
    | (_, .refused reason) => fail (.refused reason) st
    | (_, .crashed) => .crashed

def turnAway (st : Store S) : Outcome S S.Item :=
  if st.next = lastNumber then fail .idsExhausted st
  else fail (.duplicateId (S.idText (S.ofNumber st.next))) st.counted

theorem create_eq (st : Store S) (draft : S.Draft) :
    st.create draft = match st.handed? (.create draft) with
      | some n => st.counted.settle (S.ofNumber n) (S.construct (S.ofNumber n) draft)
      | none => st.turnAway := by
  by_cases hnext : st.next = lastNumber
  · simp [create, handed?, turnAway, hnext]
  · cases hget : st.items.contains (S.ofNumber st.next) with
    | true => simp [create, handed?, turnAway, hnext, hget, counted]
    | false =>
      simp only [create, handed?, hnext, hget, if_false, Bool.false_eq_true, or_self]
      rfl

theorem handed?_eq_some_iff {st : Store S} {r : Request S} {n : UInt64} :
    st.handed? r = some n ↔ r.creates = true ∧ n = st.next ∧ st.next ≠ lastNumber ∧
      st.items.get? (S.ofNumber st.next) = none := by
  cases r with
  | create draft =>
    by_cases hnext : st.next = lastNumber
    · simp [handed?, hnext]
    · cases hget : st.items.get? (S.ofNumber st.next) with
      | some item => simp [handed?, Table.contains, hget]
      | none => simp [handed?, Table.contains, Request.creates, hnext, hget, eq_comm]
  | list | get _ | update _ _ | remove _ => simp [handed?, Request.creates]

theorem Effect.toNat_next {st st' : Store S} {r : Request S} {a : Answer r} (h : st.Effect r a st') :
    st'.next.toNat = if r.creates then min (st.next.toNat + 1) (2 ^ 64 - 1) else st.next.toNat := by
  have hlt := st.next.toNat_lt
  cases h with
  | exhausted hnext =>
    have hlast : st.next.toNat = 2 ^ 64 - 1 := congrArg UInt64.toNat hnext
    simp only [Request.creates, if_true]
    omega
  | taken hnext _ | unmade hnext _ | unwanted hnext _ _ | created hnext _ _ _ =>
    have hcount : st.counted.next.toNat = st.next.toNat + 1 := toNat_next_counted hnext
    have hlast := toNat_lt_last hnext
    simp only [Request.creates, if_true, keep]
    omega
  | _ => rfl

theorem Effect.next_lt {st st' : Store S} {r : Request S} {a : Answer r} (h : st.Effect r a st')
    (hr : r.creates = true) (hlast : st.next ≠ lastNumber) : st.next < st'.next := by
  have hnext := h.toNat_next
  have hlt := toNat_lt_last hlast
  rw [hr, if_pos rfl] at hnext
  rw [UInt64.lt_iff_toNat_lt]
  omega

theorem Effect.next_le {st st' : Store S} {r : Request S} {a : Answer r} (h : st.Effect r a st') :
    st.next ≤ st'.next := by
  have hnext := h.toNat_next
  have hlt := st.next.toNat_lt
  rw [UInt64.le_iff_toNat_le]
  split at hnext <;> omega

theorem Effect.toNat_next_concat {st st' : Store S} {r : Request S} {a : Answer r} (h : st.Effect r a st')
    {m : Nat} {es : List (Event S)} (hst : st.next.toNat = min (m + es.countP (·.request.creates)) (2 ^ 64 - 1)) :
    st'.next.toNat = min (m + (es ++ [Event.mk r a]).countP (·.request.creates)) (2 ^ 64 - 1) := by
  rw [h.toNat_next, hst, List.countP_append, List.countP_singleton]
  cases r.creates with
  | false => simp
  | true =>
    simp only [if_true]
    omega

def renumber (st : Store S) (n : UInt64) : Store S :=
  { st with next := n }

end Store

def Outcome.renumber {A : Type} (n : UInt64) : Outcome S A → Outcome S A
  | .answered a st => .answered a (st.renumber n)
  | .crashed => .crashed

def Line.renumber (n : UInt64) : Line S → Line S
  | .running st => .running (st.renumber n)
  | .closed => .closed

namespace Store

theorem checkRemovals_renumber (st : Store S) (n : UInt64) (ids : List S.Id) :
    (st.renumber n).checkRemovals ids = st.checkRemovals ids := by
  induction ids with
  | nil => rfl
  | cons id ids ih =>
    rw [checkRemovals, checkRemovals, ih]
    rfl

theorem answer_renumber {r : Request S} (hr : r.creates = false) (st : Store S) (n : UInt64) :
    (st.renumber n).answer r = (st.answer r).renumber n := by
  have hitems : (st.renumber n).items = st.items := rfl
  have hcontext : (st.renumber n).context = st.context := rfl
  cases r with
  | list => rfl
  | get id =>
    simp only [answer, get, hitems]
    cases st.items.get? id <;> rfl
  | create draft => cases hr
  | update id change =>
    simp only [answer, update, hitems, hcontext]
    cases st.items.get? id with
    | none => rfl
    | some item =>
      dsimp only
      obtain ⟨item', verdict⟩ := S.onUpdate st.context change item
      cases verdict <;> rfl
  | remove ids =>
    simp only [answer, remove, checkRemovals_renumber]
    cases st.checkRemovals ids.eraseDups <;> rfl

end Store

namespace Line

theorem send_renumber {r : Request S} (hr : r.creates = false) (line : Line S) (n : UInt64) :
    Line.send r (line.renumber n) = ((Line.send r line).1, (Line.send r line).2.renumber n) := by
  cases line with
  | closed => rfl
  | running st =>
    simp only [send, renumber, Store.answer_renumber hr]
    cases st.answer r <;> rfl

theorem send_create_of_last {st : Store S} (hnext : st.next = Store.lastNumber) (draft : S.Draft) :
    Line.send (.create draft) (.running st) = (.error .idsExhausted, .running st) := by
  simp only [send, Store.answer, Store.create, if_pos hnext]
  rfl

theorem toNat_next_of_run {st₀ st : Store S} {rs : List (Request S)}
    (h : Line.send.after (.running st₀) rs = .running st) :
    st.next.toNat = min (st₀.next.toNat + rs.countP Request.creates) (2 ^ 64 - 1) := by
  have hcount : st.next.toNat = min (st₀.next.toNat +
      (Line.send.history (.running st₀) rs).countP (·.request.creates)) (2 ^ 64 - 1) := by
    refine run_induction (P := fun es st => st.next.toNat = min (st₀.next.toNat +
      es.countP (·.request.creates)) (2 ^ 64 - 1)) ?_ (fun hst heff => heff.toNat_next_concat hst) h
    have hlt := st₀.next.toNat_lt
    rw [List.countP_nil]
    omega
  -- The induction counts in the history, whose requests are those of the run.
  have hmap := congrArg (List.countP Request.creates) (Send.map_request_history Line.send (.running st₀) rs)
  rw [List.countP_map] at hmap
  rw [hcount, ← hmap]
  rfl

def handed? : Line S → Request S → Option UInt64
  | .running st, r => st.handed? r
  | .closed, _ => none

def handed (line : Line S) : List (Request S) → List UInt64
  | [] => []
  | r :: rs => (line.handed? r).toList ++ handed (Line.send r line).2 rs

theorem handed_closed (rs : List (Request S)) : handed (.closed : Line S) rs = [] := by
  induction rs with
  | nil => rfl
  | cons r rs ih => exact ih

theorem handed_bounds {st : Store S} {rs : List (Request S)} {n : UInt64} (h : n ∈ handed (.running st) rs) :
    st.next ≤ n ∧ n ≠ Store.lastNumber := by
  induction rs generalizing st with
  | nil => cases h
  | cons r rs ih =>
    rcases List.mem_append.mp h with h | h
    · obtain ⟨-, rfl, hlast, -⟩ := Store.handed?_eq_some_iff.mp (Option.mem_toList.mp h)
      exact ⟨UInt64.le_refl _, hlast⟩
    · rcases send_cases st r with ⟨a, st', hsend, heff⟩ | hsend
      · rw [hsend] at h
        obtain ⟨hle, hlast⟩ := ih h
        exact ⟨UInt64.le_trans heff.next_le hle, hlast⟩
      · rw [hsend, handed_closed] at h
        cases h

theorem handed_pairwise (st : Store S) (rs : List (Request S)) : (handed (.running st) rs).Pairwise (· < ·) := by
  induction rs generalizing st with
  | nil => exact .nil
  | cons r rs ih =>
    have hfirst : (handed? (.running st) r).toList.Pairwise (· < ·) := by
      cases handed? (.running st) r with
      | none => exact .nil
      | some n => exact List.pairwise_singleton _ _
    rw [handed]
    rcases send_cases st r with ⟨a, st', hsend, heff⟩ | hsend
    · rw [hsend]
      refine List.pairwise_append.mpr ⟨hfirst, ih st', fun m hm n hn => ?_⟩
      obtain ⟨hcreates, rfl, hlast, -⟩ := Store.handed?_eq_some_iff.mp (Option.mem_toList.mp hm)
      exact UInt64.lt_of_lt_of_le (heff.next_lt hcreates hlast) (handed_bounds hn).1
    · rw [hsend, handed_closed, List.append_nil]
      exact hfirst

theorem run_numbers (context : S.Context) (rs : List (Request S)) :
    let line := Line.send.after (Line.new context) rs
    let numbers := (Line.new context).handed rs
    (S.Steady → ∃ st, line = .running st) ∧
    numbers.Pairwise (· < ·) ∧ (∀ n ∈ numbers, 1 ≤ n.toNat ∧ n.toNat ≤ 2 ^ 64 - 2) ∧
    (∀ st, line = .running st → st.next.toNat = min (1 + rs.countP Request.creates) (2 ^ 64 - 1) ∧
      ∀ draft, st.create draft = match st.handed? (.create draft) with
        | some n => st.counted.settle (S.ofNumber n) (S.construct (S.ofNumber n) draft)
        | none => st.turnAway) ∧
    (∀ st later st', line = .running st → st.next = Store.lastNumber →
      Line.send.after line later = .running st' → st'.next = Store.lastNumber ∧
        ∀ draft, Line.send (.create draft) (.running st') = (.error .idsExhausted, .running st')) ∧
    (∀ r n, r.creates = false →
      Line.send r (line.renumber n) = ((Line.send r line).1, (Line.send r line).2.renumber n)) := by
  intro line numbers
  refine ⟨fun hS => after_steady hS _ rs, handed_pairwise _ rs, fun n hn => ?_, fun st hst => ?_,
    fun st later st' hst hlast hlater => ?_, fun r n hr => send_renumber hr line n⟩
  · obtain ⟨hle, hne⟩ := handed_bounds hn
    have hfirst : 1 ≤ n.toNat := UInt64.le_iff_toNat_le.mp hle
    have hlast := Store.toNat_lt_last hne
    omega
  · exact ⟨toNat_next_of_run hst, st.create_eq⟩
  · rw [hst] at hlater
    have hcount := toNat_next_of_run hlater
    have htop : Store.lastNumber.toNat = 2 ^ 64 - 1 := rfl
    have hnext : st'.next = Store.lastNumber := by
      apply UInt64.toNat_inj.mp
      rw [hcount, hlast, htop]
      omega
    exact ⟨hnext, send_create_of_last hnext⟩

theorem numbers_past_refused_creation :
    let rs : List (Request Resource.schema) := [.create ⟨.orders, .empty⟩, .create ⟨.bom, .empty⟩,
      .remove [(1 : ResourceId)], .create ⟨.orders, .empty⟩]
    let line : Line Resource.schema := Line.new Kind.orders
    ∃ st, Line.send.after line rs = .running st ∧ st.next.toNat = 4 ∧
      line.handed rs = [1, 2, 3] ∧ (line.handed rs).Pairwise (· < ·) := by
  intro rs line
  obtain ⟨hrunning, hpairwise, -, hnumbers, -⟩ := run_numbers (S := Resource.schema) Kind.orders rs
  obtain ⟨st, hst⟩ := hrunning Resource.schema_steady
  exact ⟨st, hst, (hnumbers st hst).1, by decide +kernel, hpairwise⟩

end Line

end GatedStore
