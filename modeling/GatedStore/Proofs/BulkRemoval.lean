import GatedStore.Proofs.ResourceStore
import GatedStore.Proofs.StoreAtomicity

/-! Removing several entities at once is removing them one by one, with every objection heard before the
first of them goes. -/

namespace GatedStore

theorem eraseDups_concat {α : Type} [DecidableEq α] (xs : List α) (x : α) :
    (xs ++ [x]).eraseDups = if x ∈ xs then xs.eraseDups else xs.eraseDups ++ [x] := by
  have hsingle : [x].eraseDups = [x] := rfl
  rw [List.eraseDups_append]
  by_cases hx : x ∈ xs <;> simp [List.removeAll, hx, hsingle]

theorem pairwise_idxOf_eraseDups {α : Type} [DecidableEq α] (xs : List α) :
    xs.eraseDups.Pairwise fun a b => xs.idxOf a < xs.idxOf b := by
  induction xs using List.reverseRecOn with
  | nil => exact .nil
  | append_singleton xs x ih =>
    have hkept : xs.eraseDups.Pairwise fun a b => (xs ++ [x]).idxOf a < (xs ++ [x]).idxOf b := by
      refine ih.imp_of_mem fun {a b} ha hb hlt => ?_
      rw [List.idxOf_append_of_mem (List.mem_eraseDups.mp ha), List.idxOf_append_of_mem (List.mem_eraseDups.mp hb)]
      exact hlt
    rw [eraseDups_concat]
    split
    · exact hkept
    · rename_i hx
      refine List.pairwise_append.mpr ⟨hkept, List.pairwise_singleton _ _, fun a ha b hb => ?_⟩
      have ha' := List.mem_eraseDups.mp ha
      have hlt := List.idxOf_lt_length_of_mem ha'
      rw [List.mem_singleton.mp hb, List.idxOf_append_of_mem ha', List.idxOf_append, if_neg hx]
      omega

variable {S : Schema}

namespace Store

variable {st : Store S} {id : S.Id} {ids ids' : List S.Id}

/-- The entity is there and may go. -/
def Removable (st : Store S) (id : S.Id) : Prop :=
  ∃ item, st.items.get? id = some item ∧ S.onRemove st.context item = .accepted

theorem checkRemoval_eq_accepted_iff : st.checkRemoval id = .accepted ↔ st.Removable id := by
  refine ⟨checkRemoval_accepted, ?_⟩
  rintro ⟨item, hget, hook⟩
  simp [checkRemoval, hget, hook]

theorem checkRemovals_append_of_accepted (h : st.checkRemovals ids = .accepted) (ids' : List S.Id) :
    st.checkRemovals (ids ++ ids') = st.checkRemovals ids' := by
  induction ids with
  | nil => rfl
  | cons id ids ih =>
    have hfirst := checkRemovals_accepted h id List.mem_cons_self
    simp only [checkRemovals, hfirst] at h
    simp only [List.cons_append, checkRemovals, hfirst, ih h]

theorem checkRemovals_append_of_ne (h : st.checkRemovals ids ≠ .accepted) (ids' : List S.Id) :
    st.checkRemovals (ids ++ ids') = st.checkRemovals ids := by
  induction ids with
  | nil => exact absurd rfl h
  | cons id ids ih =>
    simp only [checkRemovals, List.cons_append] at h ⊢
    split
    · rename_i hfirst
      simp only [hfirst] at h
      exact ih h
    · rfl

theorem checkRemovals_eq_accepted_iff : st.checkRemovals ids = .accepted ↔ ∀ id ∈ ids, st.Removable id := by
  constructor
  · intro h id hid
    exact checkRemoval_eq_accepted_iff.mp (checkRemovals_accepted h id hid)
  · intro h
    induction ids with
    | nil => rfl
    | cons id ids ih =>
      have hfirst := checkRemoval_eq_accepted_iff.mpr (h id List.mem_cons_self)
      simp only [checkRemovals, hfirst]
      exact ih fun id hid => h id (List.mem_cons_of_mem _ hid)

theorem checkRemovals_eraseDups (st : Store S) (ids : List S.Id) :
    st.checkRemovals ids.eraseDups = st.checkRemovals ids := by
  induction ids using List.reverseRecOn with
  | nil => rfl
  | append_singleton ids id ih =>
    rw [eraseDups_concat]
    by_cases hall : st.checkRemovals ids = .accepted
    · split
      · rename_i hid
        have hlast : st.checkRemovals [id] = .accepted :=
          checkRemovals_eq_accepted_iff.mpr (List.forall_mem_singleton.mpr
            (checkRemovals_eq_accepted_iff.mp hall id hid))
        rw [ih, checkRemovals_append_of_accepted hall, hall, hlast]
      · rw [checkRemovals_append_of_accepted (ih.trans hall), checkRemovals_append_of_accepted hall]
    · have hall' : st.checkRemovals ids.eraseDups ≠ .accepted := fun h => hall (ih.symm.trans h)
      rw [checkRemovals_append_of_ne hall, ← ih]
      split
      · rfl
      · exact checkRemovals_append_of_ne hall' _

theorem exists_first_objection (h : st.checkRemovals ids ≠ .accepted) :
    ∃ before id after, ids = before ++ id :: after ∧ (∀ id' ∈ before, st.Removable id') ∧
      ¬ st.Removable id ∧ st.checkRemovals ids = st.checkRemoval id := by
  induction ids with
  | nil => exact absurd rfl h
  | cons id ids ih =>
    by_cases hfirst : st.checkRemoval id = .accepted
    · simp only [checkRemovals, hfirst] at h ⊢
      obtain ⟨before, id', after, rfl, hbefore, hid', hcheck⟩ := ih h
      refine ⟨id :: before, id', after, rfl, ?_, hid', hcheck⟩
      exact List.forall_mem_cons.mpr ⟨checkRemoval_eq_accepted_iff.mp hfirst, hbefore⟩
    · refine ⟨[], id, ids, rfl, fun _ h => absurd h List.not_mem_nil, ?_, ?_⟩
      · rwa [← checkRemoval_eq_accepted_iff]
      · rw [checkRemovals]
        split
        · rename_i haccepted
          exact absurd haccepted hfirst
        · rfl

theorem eraseAll_congr (st : Store S) (h : ∀ id, id ∈ ids ↔ id ∈ ids') : st.eraseAll ids = st.eraseAll ids' := by
  refine congrArg (fun items => { st with items := items }) (Table.eq_of_get? fun id => ?_)
  simp [h id]

theorem eraseAll_of_absent (h : st.items.get? id = none) : st.eraseAll [id] = st := by
  refine congrArg (fun items => { st with items := items }) (Table.eq_of_get? fun id' => ?_)
  by_cases hid : id' = id <;> simp [hid, h]

theorem Removable.eraseAll_other {id' : S.Id} (h : st.Removable id) (hne : id ≠ id') :
    (st.eraseAll [id']).Removable id := by
  obtain ⟨item, hget, hook⟩ := h
  exact ⟨item, by simp [hne, hget], hook⟩

end Store

def Send.removeEach {σ : Type} (send : Send S σ) : List S.Id → σ → List (Except (StoreError S.Refusal) Unit) × σ
  | [], s => ([], s)
  | id :: ids, s =>
    let (a, s) := send.removeOne id s
    let (as, s) := removeEach send ids s
    (a :: as, s)

namespace Line

variable {st : Store S} {id : S.Id} {ids : List S.Id}

theorem send_remove (st : Store S) (ids : List S.Id) :
    Line.send (.remove ids) (.running st) =
      match st.checkRemovals ids with
      | .accepted => (.ok ids.eraseDups, .running (st.eraseAll ids))
      | .refused e => (.error e, .running st)
      | .crashed => (.error .dropped, .closed) := by
  have herase : st.eraseAll ids.eraseDups = st.eraseAll ids := st.eraseAll_congr fun _ => List.mem_eraseDups
  simp only [send, Store.answer, Store.remove, Store.checkRemovals_eraseDups, herase]
  cases st.checkRemovals ids <;> rfl

theorem removeOne_eq (st : Store S) (id : S.Id) :
    Line.send.removeOne id (.running st) =
      match st.checkRemoval id with
      | .accepted => (.ok (), .running (st.eraseAll [id]))
      | .refused e => (.error e, .running st)
      | .crashed => (.error .dropped, .closed) := by
  rw [Send.removeOne, send_remove, Store.checkRemovals]
  cases st.checkRemoval id <;> rfl

theorem send_remove_of_removable (h : ∀ id ∈ ids, st.Removable id) :
    Line.send (.remove ids) (.running st) = (.ok ids.eraseDups, .running (st.eraseAll ids)) := by
  rw [send_remove, Store.checkRemovals_eq_accepted_iff.mpr h]

theorem removeOne_of_removable (h : st.Removable id) :
    Line.send.removeOne id (.running st) = (.ok (), .running (st.eraseAll [id])) := by
  rw [removeOne_eq, Store.checkRemoval_eq_accepted_iff.mpr h]

theorem removeEach_of_removable (hids : ids.Nodup) (h : ∀ id ∈ ids, st.Removable id) :
    Line.send.removeEach ids (.running st) = (ids.map fun _ => .ok (), .running (st.eraseAll ids)) := by
  induction ids generalizing st with
  | nil => rfl
  | cons id ids ih =>
    obtain ⟨hid, hids⟩ := List.nodup_cons.mp hids
    obtain ⟨hfirst, hrest⟩ := List.forall_mem_cons.mp h
    have hlater := ih hids fun id' hid' => (hrest id' hid').eraseAll_other fun heq => by
      rw [heq] at hid'
      exact hid hid'
    simp only [Send.removeEach, removeOne_of_removable hfirst, hlater]
    rfl

theorem removeEach_of_gone (h : ∀ id ∈ ids, st.Removable id ∨ st.items.get? id = none) :
    (Line.send.removeEach ids (.running st)).2 = .running (st.eraseAll ids) := by
  induction ids generalizing st with
  | nil => rfl
  | cons id ids ih =>
    obtain ⟨hfirst, hrest⟩ := List.forall_mem_cons.mp h
    have hstep : (Line.send.removeOne id (.running st)).2 = .running (st.eraseAll [id]) := by
      rcases hfirst with hfirst | hfirst
      · rw [removeOne_of_removable hfirst]
      · rw [Store.eraseAll_of_absent hfirst, removeOne_eq, Store.checkRemoval, hfirst]
    have hlater : (Line.send.removeEach ids (.running (st.eraseAll [id]))).2 =
        .running ((st.eraseAll [id]).eraseAll ids) := by
      apply ih
      intro id' hid'
      by_cases heq : id' = id
      · exact Or.inr (by simp [heq])
      · refine (hrest id' hid').imp (fun h => h.eraseAll_other heq) fun h => ?_
        simp [heq, h]
    simp only [Send.removeEach, hstep, hlater]
    rfl

theorem exists_remove_ok_iff :
    (∃ removed : List S.Id, (Line.send (.remove ids) (.running st)).1 = .ok removed) ↔
      ∀ id ∈ ids, st.Removable id := by
  rw [← Store.checkRemovals_eq_accepted_iff, send_remove]
  cases st.checkRemovals ids with
  | accepted => exact iff_of_true ⟨_, rfl⟩ rfl
  | refused e => simp
  | crashed => simp

theorem remove_error {e : StoreError S.Refusal} (h : (Line.send (.remove ids) (.running st)).1 = .error e) :
    ∃ before id after, ids = before ++ id :: after ∧ (∀ id' ∈ before, st.Removable id') ∧ ¬ st.Removable id ∧
      Line.send.removeOne id (.running st) = (.error e, (Line.send (.remove ids) (.running st)).2) := by
  have hne : st.checkRemovals ids ≠ .accepted := by
    intro hall
    rw [send_remove, hall] at h
    cases h
  obtain ⟨before, id, after, hids, hbefore, hid, hcheck⟩ := Store.exists_first_objection hne
  refine ⟨before, id, after, hids, hbefore, hid, ?_⟩
  rw [← Store.checkRemoval_eq_accepted_iff] at hid
  rw [send_remove, hcheck] at h ⊢
  rw [removeOne_eq]
  cases hverdict : st.checkRemoval id with
  | accepted => exact absurd hverdict hid
  | refused e' =>
    rw [hverdict] at h
    cases h
    rfl
  | crashed =>
    rw [hverdict] at h
    cases h
    rfl

theorem remove_bulk (st : Store S) (ids : List S.Id) :
    let out := Line.send (.remove ids) (.running st)
    ((∃ removed : List S.Id, out.1 = .ok removed) ↔ ∀ id ∈ ids, st.Removable id) ∧
    (∀ removed : List S.Id, out.1 = .ok removed →
      ((∀ id, id ∈ removed ↔ id ∈ ids) ∧ removed.Pairwise fun a b => ids.idxOf a < ids.idxOf b) ∧
      Line.send.removeEach removed (.running st) = (removed.map fun _ => .ok (), out.2) ∧
      (∀ ids', (∀ id, id ∈ ids' ↔ id ∈ ids) →
        (∃ removed' : List S.Id, Line.send (.remove ids') (.running st) = (.ok removed', out.2)) ∧
          (Line.send.removeEach ids' (.running st)).2 = out.2) ∧
      ∃ st', out.2 = .running st' ∧ st'.next = st.next ∧ st'.context = st.context ∧
        ∀ id, st'.items.get? id = if id ∈ ids then none else st.items.get? id) ∧
    (∀ e, out.1 = .error e → (S.Steady → out.2 = .running st) ∧
      ∃ before id after, ids = before ++ id :: after ∧ (∀ id' ∈ before, st.Removable id') ∧ ¬ st.Removable id ∧
        Line.send.removeOne id (.running st) = (.error e, out.2)) ∧
    Line.send (.remove []) (.running st) = (.ok [], .running st) := by
  intro out
  refine ⟨exists_remove_ok_iff, fun removed hok => ?_, fun e herror => ⟨fun hS => ?_, remove_error herror⟩, rfl⟩
  · have hall := exists_remove_ok_iff.mp ⟨removed, hok⟩
    have hout : out = (.ok ids.eraseDups, .running (st.eraseAll ids)) := send_remove_of_removable hall
    rw [hout] at hok ⊢
    cases hok
    have hpairwise := pairwise_idxOf_eraseDups ids
    have hnodup : ids.eraseDups.Nodup := by
      apply hpairwise.imp
      rintro a _ hlt rfl
      exact Nat.lt_irrefl _ hlt
    have herase : st.eraseAll ids.eraseDups = st.eraseAll ids := st.eraseAll_congr fun _ => List.mem_eraseDups
    refine ⟨⟨fun id => List.mem_eraseDups, hpairwise⟩, ?_, fun ids' hids' => ⟨?_, ?_⟩, st.eraseAll ids, rfl, rfl, rfl,
      st.get?_eraseAll ids⟩
    · rw [removeEach_of_removable hnodup fun id hid => hall id (List.mem_eraseDups.mp hid), herase]
    · refine ⟨ids'.eraseDups, ?_⟩
      rw [send_remove_of_removable fun id hid => hall id ((hids' id).mp hid), st.eraseAll_congr hids']
    · rw [removeEach_of_gone fun id hid => Or.inl (hall id ((hids' id).mp hid)), st.eraseAll_congr hids']
  · obtain ⟨a, st', hsend, heff⟩ := send_steady hS st (.remove ids)
    have hout : out = (a, .running st') := hsend
    rw [hout] at herror ⊢
    cases herror
    rcases heff.eq_or_counted_of_error with rfl | ⟨⟨draft, hdraft⟩, -⟩
    · rfl
    · cases hdraft

theorem remove_repeated_as_each_once :
    let items : List (ResourceId × Resource) := [(1, ⟨1, .orders, .empty⟩), (2, ⟨2, .orders, .empty⟩)]
    let line : Line Resource.schema := .running ⟨Kind.orders, Table.ofList items, 3⟩
    let twice : List ResourceId := [2, 1, 2]
    let unknown : List ResourceId := [1, 7]
    let once : List ResourceId := [2, 1]
    Line.send.removeEach once line = ([.ok (), .ok ()], (Line.send (.remove twice) line).2) ∧
      (Line.send (.remove unknown) line).2 = line := by
  intro items line twice unknown once
  obtain ⟨-, hgone, -, -⟩ := remove_bulk (S := Resource.schema) ⟨Kind.orders, Table.ofList items, 3⟩ twice
  obtain ⟨-, -, hrefused, -⟩ := remove_bulk (S := Resource.schema) ⟨Kind.orders, Table.ofList items, 3⟩ unknown
  exact ⟨(hgone once rfl).2.1, (hrefused (.notFound "7") rfl).1 Resource.schema_steady⟩

end Line

end GatedStore
