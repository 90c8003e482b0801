import GatedStore.Resource
import Mathlib.Data.List.Basic
import Mathlib.Data.List.Induction

namespace GatedStore

inductive Entry
  | created (id : ResourceId) (payload : Payload)
  | edited (id : ResourceId) (payload : Payload)
  | removed (ids : List ResourceId)

abbrev Ledger := List Entry

def Entry.written? (id : ResourceId) : Entry → Option Payload
  | .created id' payload => if id' = id then some payload else none
  | .edited id' payload => if id' = id then some payload else none
  | .removed _ => none

namespace Ledger

def Present (log : Ledger) (id : ResourceId) : Prop :=
  ∃ before payload later, log = before ++ .created id payload :: later ∧ ∀ ids, .removed ids ∈ later → id ∉ ids

def latest? (log : Ledger) (id : ResourceId) : Option Payload :=
  (log.filterMap (Entry.written? id)).getLast?

def apply (id : ResourceId) (current : Option Payload) : Entry → Option Payload
  | .created id' payload => if id' = id then some payload else current
  | .edited id' payload => if id' = id then current.map fun _ => payload else current
  | .removed ids => if id ∈ ids then none else current

def current? (log : Ledger) (id : ResourceId) : Option Payload :=
  log.foldl (apply id) none

@[simp] theorem current?_concat (log : Ledger) (id : ResourceId) (e : Entry) :
    current? (log ++ [e]) id = apply id (log.current? id) e :=
  List.foldl_concat ..

@[simp] theorem latest?_concat (log : Ledger) (id : ResourceId) (e : Entry) :
    latest? (log ++ [e]) id = (e.written? id).or (log.latest? id) := by
  cases he : e.written? id with
  | none => simp [latest?, he]
  | some payload => simp [latest?, he]

theorem present_concat {log : Ledger} {id : ResourceId} {e : Entry} :
    Present (log ++ [e]) id ↔
      (∃ payload, e = .created id payload) ∨ Present log id ∧ ∀ ids, e = .removed ids → id ∉ ids := by
  constructor
  · rintro ⟨before, payload, later, hlog, hlater⟩
    rcases List.eq_nil_or_concat later with rfl | ⟨later, e', rfl⟩
    · obtain ⟨-, he⟩ := List.append_inj' hlog rfl
      exact Or.inl ⟨payload, List.head_eq_of_cons_eq he⟩
    · rw [List.concat_eq_append] at hlog hlater
      rw [← List.cons_append, ← List.append_assoc] at hlog
      obtain ⟨hfront, he⟩ := List.append_inj' hlog rfl
      obtain rfl := List.head_eq_of_cons_eq he
      refine Or.inr ⟨⟨before, payload, later, hfront, fun ids hids => hlater ids ?_⟩, fun ids he => hlater ids ?_⟩
      · exact List.mem_append_left _ hids
      · exact he ▸ List.mem_append_right _ List.mem_cons_self
  · rintro (⟨payload, rfl⟩ | ⟨⟨before, payload, later, rfl, hlater⟩, he⟩)
    · exact ⟨log, payload, [], rfl, fun _ h => absurd h List.not_mem_nil⟩
    · refine ⟨before, payload, later ++ [e], by simp, fun ids hids => ?_⟩
      rcases List.mem_append.mp hids with h | h
      · exact hlater ids h
      · exact he ids (List.mem_singleton.mp h).symm

@[simp] theorem not_present_nil (id : ResourceId) : ¬ Present [] id := by
  rintro ⟨before, payload, later, hlog, -⟩
  exact List.append_ne_nil_of_right_ne_nil before (List.cons_ne_nil _ _) hlog.symm

theorem Present.exists_latest {log : Ledger} {id : ResourceId} (h : log.Present id) :
    ∃ payload, log.latest? id = some payload := by
  obtain ⟨before, payload, later, rfl, -⟩ := h
  have hmem : payload ∈ (before ++ .created id payload :: later).filterMap (Entry.written? id) :=
    List.mem_filterMap.mpr ⟨.created id payload, by simp, by simp [Entry.written?]⟩
  exact ⟨_, List.getLast?_eq_some_getLast (List.ne_nil_of_mem hmem)⟩

theorem current?_eq_some_iff {log : Ledger} {id : ResourceId} {payload : Payload} :
    log.current? id = some payload ↔ log.Present id ∧ log.latest? id = some payload := by
  induction log using List.reverseRecOn generalizing payload with
  | nil => simp [current?]
  | append_singleton log e ih =>
    rw [current?_concat, latest?_concat, present_concat]
    cases e with
    | created id' new =>
      by_cases hid : id' = id
      · subst hid
        simp [apply, Entry.written?]
      · simp [apply, Entry.written?, hid, ih]
    | edited id' new =>
      by_cases hid : id' = id
      · -- An edit keeps what is there, and what is there has a payload.
        have hpresent : (∃ p, current? log id = some p) ↔ Present log id :=
          ⟨fun ⟨_, hp⟩ => (ih.mp hp).1, fun h => h.exists_latest.imp fun _ hp => ih.mpr ⟨h, hp⟩⟩
        simp [apply, Entry.written?, hid, ← hpresent]
      · simp [apply, Entry.written?, hid, ih]
    | removed ids =>
      by_cases hid : id ∈ ids
      · simp [apply, Entry.written?, hid]
      · simp [apply, Entry.written?, hid, ih]

end Ledger

end GatedStore
