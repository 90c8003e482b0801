import GatedStore.Proofs.TableFacts
import GatedStore.Store.Basic
import Mathlib.Algebra.Group.Nat.Defs

namespace GatedStore

structure Schema.Steady (S : Schema) : Prop where
  onCreate : ∀ context item, (S.onCreate context item).2 ≠ .crashed
  onUpdate : ∀ context change item, (S.onUpdate context change item).2 ≠ .crashed
  onRemove : ∀ context item, S.onRemove context item ≠ .crashed

namespace Store

variable {S : Schema}

def counted (s : Store S) : Store S :=
  { s with next := s.next + 1 }

def keep (s : Store S) (id : S.Id) (item : S.Item) : Store S :=
  { s with items := s.items.insert id item }

theorem toNat_lt_last {n : UInt64} (h : n ≠ lastNumber) : n.toNat < 2 ^ 64 - 1 := by
  have hne : n.toNat ≠ 2 ^ 64 - 1 := fun hn => h (UInt64.toNat_inj.mp hn)
  have hlt := n.toNat_lt
  omega

theorem toNat_next_counted {s : Store S} (h : s.next ≠ lastNumber) :
    s.counted.next.toNat = s.next.toNat + 1 := by
  have hlt := toNat_lt_last h
  change (s.next + 1).toNat = _
  rw [UInt64.toNat_add]
  exact Nat.mod_eq_of_lt (by simp; omega)

@[simp] theorem counted_items (s : Store S) : s.counted.items = s.items :=
  rfl

@[simp] theorem get?_keep (s : Store S) (id id' : S.Id) (item : S.Item) :
    (s.keep id item).items.get? id' = if id' = id then some item else s.items.get? id' :=
  s.items.get?_insert id id' item

@[simp] theorem get?_eraseAll (s : Store S) (ids : List S.Id) (id : S.Id) :
    (s.eraseAll ids).items.get? id = if id ∈ ids then none else s.items.get? id :=
  Table.get?_foldl_erase ids s.items id

inductive Effect (s : Store S) : (r : Request S) → Answer r → Store S → Prop
  | listed : Effect s .list (.ok s.items.values) s
  | found {id : S.Id} {item : S.Item} (hget : s.items.get? id = some item) : Effect s (.get id) (.ok item) s
  | missing {id : S.Id} (hget : s.items.get? id = none) :
      Effect s (.get id) (.error (.notFound (S.idText id))) s
  | exhausted {draft : S.Draft} (hnext : s.next = lastNumber) :
      Effect s (.create draft) (.error .idsExhausted) s
  | taken {draft : S.Draft} {item : S.Item} (hnext : s.next ≠ lastNumber)
      (hget : s.items.get? (S.ofNumber s.next) = some item) :
      Effect s (.create draft) (.error (.duplicateId (S.idText (S.ofNumber s.next)))) s.counted
  | unmade {draft : S.Draft} {reason : S.Refusal} (hnext : s.next ≠ lastNumber)
      (hmake : S.construct (S.ofNumber s.next) draft = .error reason) :
      Effect s (.create draft) (.error (.refused reason)) s.counted
  | unwanted {draft : S.Draft} {item item' : S.Item} {reason : S.Refusal} (hnext : s.next ≠ lastNumber)
      (hmake : S.construct (S.ofNumber s.next) draft = .ok item)
      (hook : S.onCreate s.context item = (item', .refused reason)) :
      Effect s (.create draft) (.error (.refused reason)) s.counted
  | created {draft : S.Draft} {item item' : S.Item} (hnext : s.next ≠ lastNumber)
      (hget : s.items.get? (S.ofNumber s.next) = none)
      (hmake : S.construct (S.ofNumber s.next) draft = .ok item)
      (hook : S.onCreate s.context item = (item', .accepted)) :
      Effect s (.create draft) (.ok item') (s.counted.keep (S.ofNumber s.next) item')
  | unknown {id : S.Id} {change : S.Change} (hget : s.items.get? id = none) :
      Effect s (.update id change) (.error (.notFound (S.idText id))) s
  | unedited {id : S.Id} {change : S.Change} {item item' : S.Item} {reason : S.Refusal}
      (hget : s.items.get? id = some item) (hook : S.onUpdate s.context change item = (item', .refused reason)) :
      Effect s (.update id change) (.error (.refused reason)) s
  | edited {id : S.Id} {change : S.Change} {item item' : S.Item} (hget : s.items.get? id = some item)
      (hook : S.onUpdate s.context change item = (item', .accepted)) :
      Effect s (.update id change) (.ok item') (s.keep id item')
  | absent {ids : List S.Id} {id : S.Id} (hid : id ∈ ids) (hget : s.items.get? id = none) :
      Effect s (.remove ids) (.error (.notFound (S.idText id))) s
  | unremoved {ids : List S.Id} {id : S.Id} {item : S.Item} {reason : S.Refusal} (hid : id ∈ ids)
      (hget : s.items.get? id = some item) (hook : S.onRemove s.context item = .refused reason) :
      Effect s (.remove ids) (.error (.refused reason)) s
  | removed {ids : List S.Id}
      (hook : ∀ id ∈ ids, ∃ item, s.items.get? id = some item ∧ S.onRemove s.context item = .accepted) :
      Effect s (.remove ids) (.ok ids.eraseDups) (s.eraseAll ids.eraseDups)

theorem checkRemoval_accepted {s : Store S} {id : S.Id} (h : s.checkRemoval id = .accepted) :
    ∃ item, s.items.get? id = some item ∧ S.onRemove s.context item = .accepted := by
  rw [checkRemoval] at h
  split at h
  · cases h
  · rename_i item hget
    refine ⟨item, hget, ?_⟩
    split at h
    · assumption
    · cases h
    · cases h

theorem checkRemoval_refused {s : Store S} {id : S.Id} {e : StoreError S.Refusal}
    (h : s.checkRemoval id = .refused e) {ids : List S.Id} (hid : id ∈ ids) :
    s.Effect (.remove ids) (.error e) s := by
  rw [checkRemoval] at h
  split at h
  · rename_i hget
    cases h
    exact .absent hid hget
  · rename_i item hget
    split at h
    · cases h
    · rename_i hook
      cases h
      exact .unremoved hid hget hook
    · cases h

theorem checkRemovals_accepted {s : Store S} {ids : List S.Id} (h : s.checkRemovals ids = .accepted) :
    ∀ id ∈ ids, s.checkRemoval id = .accepted := by
  induction ids with
  | nil => exact fun _ h => absurd h List.not_mem_nil
  | cons id ids ih =>
    rw [checkRemovals] at h
    split at h
    · rename_i hid
      exact List.forall_mem_cons.mpr ⟨hid, ih h⟩
    · rename_i hne
      exact absurd h hne

theorem checkRemovals_refused {s : Store S} {ids : List S.Id} {e : StoreError S.Refusal}
    (h : s.checkRemovals ids = .refused e) : ∃ id ∈ ids, s.checkRemoval id = .refused e := by
  induction ids with
  | nil => cases h
  | cons id ids ih =>
    rw [checkRemovals] at h
    split at h
    · obtain ⟨id', hmem, hid'⟩ := ih h
      exact ⟨id', List.mem_cons_of_mem _ hmem, hid'⟩
    · exact ⟨id, List.mem_cons_self, h⟩

theorem create_effect {s s' : Store S} {draft : S.Draft} {a : Except (StoreError S.Refusal) S.Item}
    (h : s.create draft = .answered a s') : s.Effect (.create draft) a s' := by
  by_cases hnext : s.next = lastNumber
  · rw [create, if_pos hnext] at h
    cases h
    exact .exhausted hnext
  · simp only [create, if_neg hnext, Table.contains] at h
    cases hget : s.items.get? (S.ofNumber s.next) with
    | some item =>
      simp only [hget, Option.isSome_some, if_true] at h
      cases h
      exact .taken hnext hget
    | none =>
      simp only [hget, Option.isSome_none, Bool.false_eq_true, if_false] at h
      split at h
      · rename_i hmake
        cases h
        exact .unmade hnext hmake
      · rename_i hmake
        split at h
        · rename_i hook
          cases h
          exact .created hnext hget hmake hook
        · rename_i hook
          cases h
          exact .unwanted hnext hmake hook
        · cases h

theorem update_effect {s s' : Store S} {id : S.Id} {change : S.Change}
    {a : Except (StoreError S.Refusal) S.Item} (h : s.update id change = .answered a s') :
    s.Effect (.update id change) a s' := by
  rw [update] at h
  split at h
  · rename_i hget
    cases h
    exact .unknown hget
  · rename_i hget
    split at h
    · rename_i hook
      cases h
      exact .edited hget hook
    · rename_i hook
      cases h
      exact .unedited hget hook
    · cases h

theorem remove_effect {s s' : Store S} {ids : List S.Id} {a : Except (StoreError S.Refusal) (List S.Id)}
    (h : s.remove ids = .answered a s') : s.Effect (.remove ids) a s' := by
  rw [remove] at h
  split at h
  · rename_i hcheck
    cases h
    exact .removed fun id hid =>
      checkRemoval_accepted (checkRemovals_accepted hcheck id (List.mem_eraseDups.mpr hid))
  · rename_i hcheck
    cases h
    obtain ⟨id, hid, he⟩ := checkRemovals_refused hcheck
    exact checkRemoval_refused he (List.mem_eraseDups.mp hid)
  · cases h

theorem answer_effect {s s' : Store S} {r : Request S} {a : Answer r} (h : s.answer r = .answered a s') :
    s.Effect r a s' := by
  cases r with
  | list =>
    cases h
    exact .listed
  | get id =>
    rw [answer, get] at h
    split at h
    · rename_i hget
      cases h
      exact .found hget
    · rename_i hget
      cases h
      exact .missing hget
  | create draft => exact create_effect h
  | update id change => exact update_effect h
  | remove ids => exact remove_effect h

theorem checkRemovals_ne_crashed (hS : S.Steady) (s : Store S) (ids : List S.Id) :
    s.checkRemovals ids ≠ .crashed := by
  induction ids with
  | nil => exact fun h => by cases h
  | cons id ids ih =>
    rw [checkRemovals]
    split
    · exact ih
    · rw [checkRemoval]
      split
      · exact fun h => by cases h
      · split
        · exact fun h => by cases h
        · exact fun h => by cases h
        · rename_i hook
          exact absurd hook (hS.onRemove _ _)

theorem create_ne_crashed (hS : S.Steady) (s : Store S) (draft : S.Draft) : s.create draft ≠ .crashed := by
  intro h
  by_cases hnext : s.next = lastNumber
  · rw [create, if_pos hnext] at h
    cases h
  · simp only [create, if_neg hnext] at h
    cases hc : s.items.contains (S.ofNumber s.next) with
    | true =>
      simp only [hc, if_true] at h
      cases h
    | false =>
      simp only [hc, Bool.false_eq_true, if_false] at h
      split at h
      · cases h
      · split at h
        · cases h
        · cases h
        · rename_i hook
          exact hS.onCreate _ _ (congrArg Prod.snd hook)

theorem update_ne_crashed (hS : S.Steady) (s : Store S) (id : S.Id) (change : S.Change) :
    s.update id change ≠ .crashed := by
  intro h
  rw [update] at h
  split at h
  · cases h
  · split at h
    · cases h
    · cases h
    · rename_i hook
      exact hS.onUpdate _ _ _ (congrArg Prod.snd hook)

theorem remove_ne_crashed (hS : S.Steady) (s : Store S) (ids : List S.Id) : s.remove ids ≠ .crashed := by
  intro h
  rw [remove] at h
  split at h
  · cases h
  · cases h
  · rename_i hcheck
    exact checkRemovals_ne_crashed hS s _ hcheck

theorem exists_effect (hS : S.Steady) (s : Store S) (r : Request S) :
    ∃ a s', s.answer r = .answered a s' ∧ s.Effect r a s' := by
  cases h : s.answer r with
  | answered a s' => exact ⟨a, s', rfl, answer_effect h⟩
  | crashed =>
    cases r with
    | list => cases h
    | get id =>
      rw [answer, get] at h
      split at h <;> cases h
    | create draft => exact absurd h (create_ne_crashed hS s draft)
    | update id change => exact absurd h (update_ne_crashed hS s id change)
    | remove ids => exact absurd h (remove_ne_crashed hS s ids)

end Store

end GatedStore
