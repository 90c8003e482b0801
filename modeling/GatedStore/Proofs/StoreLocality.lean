import GatedStore.Proofs.Runs

/-! A request about given ids looks at their entities alone and leaves all others as they are, whatever it is
answered with. Requests about different entities may therefore change places. -/

namespace GatedStore

/-- Of two steps neither can tell whether the other comes before it, and of their order nothing is left. -/
structure Swaps {σ A B : Type} (f : σ → A × σ) (g : σ → B × σ) (s : σ) : Prop where
  first : (f (g s).2).1 = (f s).1
  second : (g (f s).2).1 = (g s).1
  state : (g (f s).2).2 = (f (g s).2).2

theorem Swaps.symm {σ A B : Type} {f : σ → A × σ} {g : σ → B × σ} {s : σ} (h : Swaps f g s) : Swaps g f s :=
  ⟨h.second, h.first, h.state.symm⟩

variable {S : Schema}

def Request.ids? : Request S → Option (List S.Id)
  | .list => none
  | .get id => some [id]
  | .create _ => none
  | .update id _ => some [id]
  | .remove ids => some ids

namespace Store

structure AgreesOn (ids : List S.Id) (s t : Store S) : Prop where
  context_eq : s.context = t.context
  get?_eq : ∀ id ∈ ids, s.items.get? id = t.items.get? id

/-- `t'` is `s'` at the ids and `t` everywhere else. -/
structure Patches (ids : List S.Id) (s' t t' : Store S) : Prop where
  context_eq : t'.context = t.context
  next_eq : t'.next = t.next
  inside : ∀ id ∈ ids, t'.items.get? id = s'.items.get? id
  outside : ∀ id, id ∉ ids → t'.items.get? id = t.items.get? id

variable {s s' t t' : Store S} {id : S.Id} {ids ids' : List S.Id}

theorem ext_get? (hcontext : s.context = t.context) (hnext : s.next = t.next)
    (hget : ∀ id, s.items.get? id = t.items.get? id) : s = t := by
  obtain ⟨context, items, next⟩ := s
  obtain ⟨context', items', next'⟩ := t
  obtain rfl : context = context' := hcontext
  obtain rfl : next = next' := hnext
  obtain rfl : items = items' := Table.eq_of_get? hget
  rfl

theorem AgreesOn.refl (ids : List S.Id) (s : Store S) : AgreesOn ids s s :=
  ⟨rfl, fun _ _ => rfl⟩

theorem AgreesOn.patches (h : AgreesOn ids s t) : Patches ids s t t :=
  ⟨rfl, rfl, fun id hid => (h.get?_eq id hid).symm, fun _ _ => rfl⟩

theorem patches_keep (id : S.Id) (item : S.Item) (s t : Store S) :
    Patches [id] (s.keep id item) t (t.keep id item) := by
  refine ⟨rfl, rfl, fun id' hid' => ?_, fun id' hid' => ?_⟩
  · obtain rfl := List.mem_singleton.mp hid'
    simp
  · simp [List.mem_singleton.not.mp hid']

theorem patches_eraseAll (ids : List S.Id) (s t : Store S) :
    Patches ids (s.eraseAll ids.eraseDups) t (t.eraseAll ids.eraseDups) := by
  refine ⟨rfl, rfl, fun id hid => ?_, fun id hid => ?_⟩
  · simp [hid]
  · simp [hid]

theorem Patches.eq_of_disjoint {s₁ s₂ s₁₂ s₂₁ : Store S} (hids : ids.Disjoint ids') (h₁ : Patches ids s₁ s s₁)
    (h₂ : Patches ids' s₂ s s₂) (h₁₂ : Patches ids' s₂ s₁ s₁₂) (h₂₁ : Patches ids s₁ s₂ s₂₁) : s₁₂ = s₂₁ := by
  apply ext_get?
  · rw [h₁₂.context_eq, h₁.context_eq, h₂₁.context_eq, h₂.context_eq]
  · rw [h₁₂.next_eq, h₁.next_eq, h₂₁.next_eq, h₂.next_eq]
  · intro id
    by_cases hid' : id ∈ ids'
    · rw [h₁₂.inside id hid', h₂₁.outside id fun hid => hids hid hid']
    · rw [h₁₂.outside id hid']
      by_cases hid : id ∈ ids
      · rw [h₂₁.inside id hid]
      · rw [h₂₁.outside id hid, h₁.outside id hid, h₂.outside id hid']

theorem Patches.agreesOn (h : Patches ids s' s t) (hids : ids.Disjoint ids') : AgreesOn ids' s t :=
  ⟨h.context_eq.symm, fun id hid' => (h.outside id fun hid => hids hid hid').symm⟩

theorem checkRemoval_congr (hcontext : s.context = t.context) (hget : s.items.get? id = t.items.get? id) :
    s.checkRemoval id = t.checkRemoval id := by
  rw [checkRemoval, checkRemoval, hget, hcontext]

theorem checkRemovals_congr (h : AgreesOn ids s t) : s.checkRemovals ids = t.checkRemovals ids := by
  induction ids with
  | nil => rfl
  | cons id ids ih =>
    have hrest := ih ⟨h.context_eq, fun id' hid' => h.get?_eq id' (List.mem_cons_of_mem _ hid')⟩
    rw [checkRemovals, checkRemovals, checkRemoval_congr h.context_eq (h.get?_eq id List.mem_cons_self), hrest]

theorem get_local {a : Except (StoreError S.Refusal) S.Item} (ht : AgreesOn [id] s t)
    (h : s.get id = .answered a s') : ∃ t', t.get id = .answered a t' ∧ Patches [id] s' t t' := by
  have hget := ht.get?_eq id List.mem_cons_self
  rw [get, hget] at h
  rw [get]
  cases hitem : t.items.get? id with
  | none =>
    rw [hitem] at h
    cases h
    exact ⟨t, rfl, ht.patches⟩
  | some item =>
    rw [hitem] at h
    cases h
    exact ⟨t, rfl, ht.patches⟩

theorem update_local {change : S.Change} {a : Except (StoreError S.Refusal) S.Item} (ht : AgreesOn [id] s t)
    (h : s.update id change = .answered a s') :
    ∃ t', t.update id change = .answered a t' ∧ Patches [id] s' t t' := by
  have hget := ht.get?_eq id List.mem_cons_self
  rw [update, hget] at h
  rw [update]
  cases hitem : t.items.get? id with
  | none =>
    rw [hitem] at h
    cases h
    exact ⟨t, rfl, ht.patches⟩
  | some item =>
    simp only [hitem] at h ⊢
    split at h
    · rename_i item' hook
      cases h
      rw [ht.context_eq] at hook
      rw [hook]
      exact ⟨_, rfl, patches_keep id item' s t⟩
    · rename_i hook
      cases h
      rw [ht.context_eq] at hook
      rw [hook]
      exact ⟨t, rfl, ht.patches⟩
    · cases h

theorem remove_local {a : Except (StoreError S.Refusal) (List S.Id)} (ht : AgreesOn ids s t)
    (h : s.remove ids = .answered a s') : ∃ t', t.remove ids = .answered a t' ∧ Patches ids s' t t' := by
  have hcheck : s.checkRemovals ids.eraseDups = t.checkRemovals ids.eraseDups :=
    checkRemovals_congr ⟨ht.context_eq, fun id hid => ht.get?_eq id (List.mem_eraseDups.mp hid)⟩
  simp only [remove, hcheck] at h
  simp only [remove]
  split at h
  · cases h
    exact ⟨_, rfl, patches_eraseAll ids s t⟩
  · cases h
    exact ⟨t, rfl, ht.patches⟩
  · cases h

theorem answer_local {r : Request S} {a : Answer r} (hids : r.ids? = some ids) (ht : AgreesOn ids s t)
    (h : s.answer r = .answered a s') : ∃ t', t.answer r = .answered a t' ∧ Patches ids s' t t' := by
  cases r with
  | list => cases hids
  | get id =>
    cases hids
    exact get_local ht h
  | create draft => cases hids
  | update id change =>
    cases hids
    exact update_local ht h
  | remove ids =>
    cases hids
    exact remove_local ht h

end Store

theorem Line.send_swaps (hS : S.Steady) (line : Line S) {r r' : Request S} {ids ids' : List S.Id}
    (hids : r.ids? = some ids) (hids' : r'.ids? = some ids') (hdisjoint : ids.Disjoint ids') :
    Swaps (Line.send r) (Line.send r') line := by
  cases line with
  | closed => exact ⟨rfl, rfl, rfl⟩
  | running s =>
    obtain ⟨a₁, s₁, h₁, -⟩ := Store.exists_effect hS s r
    obtain ⟨a₂, s₂, h₂, -⟩ := Store.exists_effect hS s r'
    obtain ⟨_, hself₁, hp₁⟩ := Store.answer_local hids (.refl ids s) h₁
    obtain ⟨_, hself₂, hp₂⟩ := Store.answer_local hids' (.refl ids' s) h₂
    cases h₁.symm.trans hself₁
    cases h₂.symm.trans hself₂
    obtain ⟨s₁₂, h₁₂, hp₁₂⟩ := Store.answer_local hids' (hp₁.agreesOn hdisjoint) h₂
    obtain ⟨s₂₁, h₂₁, hp₂₁⟩ := Store.answer_local hids (hp₂.agreesOn fun _ hid' hid => hdisjoint hid hid') h₁
    have hstate : s₁₂ = s₂₁ := Store.Patches.eq_of_disjoint hdisjoint hp₁ hp₂ hp₁₂ hp₂₁
    subst hstate
    constructor
    · simp only [send, h₂, h₂₁, h₁]
    · simp only [send, h₁, h₁₂, h₂]
    · simp only [send, h₁, h₁₂, h₂, h₂₁]

end GatedStore
