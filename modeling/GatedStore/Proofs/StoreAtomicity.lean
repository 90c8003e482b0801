import GatedStore.Proofs.Runs

namespace GatedStore

variable {S : Schema}

namespace Store.Effect

variable {st st' : Store S} {r : Request S}

theorem eq_or_counted_of_error {e : StoreError S.Refusal} (h : st.Effect r (.error e) st') :
    st' = st ∨ (∃ draft, r = .create draft) ∧ st.next ≠ lastNumber ∧ st' = st.counted := by
  cases h with
  | taken hnext _ | unmade hnext _ | unwanted hnext _ _ => exact Or.inr ⟨⟨_, rfl⟩, hnext, rfl⟩
  | missing _ | exhausted _ | unknown _ | unedited _ _ | absent _ _ | unremoved _ _ _ => exact Or.inl rfl

theorem items_eq_of_error {e : StoreError S.Refusal} (h : st.Effect r (.error e) st') : st'.items = st.items := by
  rcases h.eq_or_counted_of_error with rfl | ⟨-, -, rfl⟩
  · rfl
  · rfl

theorem of_create_ok {draft : S.Draft} {item : S.Item} (h : st.Effect (.create draft) (.ok item) st') :
    st.next ≠ lastNumber ∧ st.items.get? (S.ofNumber st.next) = none ∧
      st' = st.counted.keep (S.ofNumber st.next) item := by
  cases h with
  | created hnext hget _ _ => exact ⟨hnext, hget, rfl⟩

theorem of_update_ok {id : S.Id} {change : S.Change} {item : S.Item}
    (h : st.Effect (.update id change) (.ok item) st') :
    (∃ old, st.items.get? id = some old) ∧ st' = st.keep id item := by
  cases h with
  | edited hget _ => exact ⟨⟨_, hget⟩, rfl⟩

theorem of_remove_ok {ids removed : List S.Id} (h : st.Effect (.remove ids) (.ok removed) st') :
    (∀ id ∈ ids, ∃ old, st.items.get? id = some old) ∧ removed = ids.eraseDups ∧
      st' = st.eraseAll ids.eraseDups := by
  cases h with
  | removed hook => exact ⟨fun id hid => (hook id hid).imp fun _ h => h.1, rfl, rfl⟩

end Store.Effect

namespace Line

variable {st st' : Store S} {r : Request S} {a : Answer r}

theorem effect_of_send_eq (h : Line.send r (.running st) = (a, .running st')) : st.Effect r a st' := by
  obtain ⟨st₁, a₁, hst, ha, heff⟩ := effect_of_send (congrArg Prod.snd h)
  cases hst
  have haa : a₁ = a := ha.symm.trans (congrArg Prod.fst h)
  exact haa ▸ heff

theorem send_get (st : Store S) (id : S.Id) : (Line.send (.get id) (.running st)).2 = .running st := by
  cases hget : st.items.get? id with
  | none => simp [send, Store.answer, Store.get, Store.fail, hget]
  | some item => simp [send, Store.answer, Store.get, Store.ok, hget]

theorem send_atomic (st : Store S) :
    (S.Steady → ∀ r, ∃ a st', Line.send r (.running st) = (a, .running st')) ∧
    ((Line.send .list (.running st)).2 = .running st ∧
      ∀ id, (Line.send (.get id) (.running st)).2 = .running st) ∧
    (∀ r e st', Line.send r (.running st) = (.error e, .running st') →
      st'.items = st.items ∧
        (st' = st ∨ (∃ draft, r = .create draft) ∧ st.next ≠ Store.lastNumber ∧ st' = st.counted)) ∧
    (∀ id change item st', Line.send (.update id change) (.running st) = (.ok item, .running st') →
      (∃ old, st.items.get? id = some old) ∧ st'.next = st.next ∧ st'.context = st.context ∧
        ∀ id', st'.items.get? id' = if id' = id then some item else st.items.get? id') ∧
    (∀ draft item st', Line.send (.create draft) (.running st) = (.ok item, .running st') →
      ∃ id, st.items.get? id = none ∧ st'.next.toNat = st.next.toNat + 1 ∧ st'.context = st.context ∧
        ∀ id', st'.items.get? id' = if id' = id then some item else st.items.get? id') ∧
    (∀ ids removed st', Line.send (.remove ids) (.running st) = (.ok removed, .running st') →
      (∀ id ∈ ids, ∃ old, st.items.get? id = some old) ∧ st'.next = st.next ∧ st'.context = st.context ∧
        ∀ id', st'.items.get? id' = if id' ∈ ids then none else st.items.get? id') := by
  refine ⟨fun hS r => ?_, ⟨rfl, send_get st⟩, fun r e st' h => ?_, fun id change item st' h => ?_,
    fun draft item st' h => ?_, fun ids removed st' h => ?_⟩
  · obtain ⟨a, st', hsend, -⟩ := send_steady hS st r
    exact ⟨a, st', hsend⟩
  · have heff := effect_of_send_eq h
    exact ⟨heff.items_eq_of_error, heff.eq_or_counted_of_error⟩
  · have heff := effect_of_send_eq h
    obtain ⟨hold, rfl⟩ := heff.of_update_ok
    exact ⟨hold, rfl, rfl, fun id' => st.get?_keep id id' item⟩
  · have heff := effect_of_send_eq h
    obtain ⟨hnext, hfree, rfl⟩ := heff.of_create_ok
    exact ⟨S.ofNumber st.next, hfree, Store.toNat_next_counted hnext, rfl,
      fun id' => st.counted.get?_keep _ id' item⟩
  · have heff := effect_of_send_eq h
    obtain ⟨hold, -, rfl⟩ := heff.of_remove_ok
    exact ⟨hold, rfl, rfl, fun id' => by simp⟩

end Line

end GatedStore
