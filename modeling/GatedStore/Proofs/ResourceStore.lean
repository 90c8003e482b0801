import GatedStore.Proofs.StoreSteps
import GatedStore.Resource

namespace GatedStore

open Resource (schema)

namespace Store

def ofKind (kind : Kind) : Store schema :=
  Store.new kind

def resource? (st : Store schema) (id : ResourceId) : Option Resource :=
  st.items.get? id

def resources (st : Store schema) : List Resource :=
  st.items.values

@[simp] theorem resource?_counted (st : Store schema) (id : ResourceId) :
    st.counted.resource? id = st.resource? id :=
  rfl

@[simp] theorem resource?_keep (st : Store schema) (id id' : ResourceId) (r : Resource) :
    (st.keep id r).resource? id' = if id' = id then some r else st.resource? id' :=
  st.get?_keep id id' r

@[simp] theorem resource?_eraseAll (st : Store schema) (ids : List ResourceId) (id : ResourceId) :
    (st.eraseAll ids).resource? id = if id ∈ ids then none else st.resource? id :=
  st.get?_eraseAll ids id

theorem resource?_keep_cases {st : Store schema} {id id' : ResourceId} {r r' : Resource}
    (h : (st.keep id r).resource? id' = some r') : id' = id ∧ r' = r ∨ st.resource? id' = some r' := by
  rw [resource?_keep] at h
  split at h
  · rename_i hid
    exact Or.inl ⟨hid, (Option.some.inj h).symm⟩
  · exact Or.inr h

theorem resource?_of_eraseAll {st : Store schema} {ids : List ResourceId} {id : ResourceId} {r : Resource}
    (h : (st.eraseAll ids).resource? id = some r) : st.resource? id = some r := by
  rw [resource?_eraseAll] at h
  split at h
  · cases h
  · exact h

theorem mem_resources_iff {st : Store schema} {r : Resource} :
    r ∈ st.resources ↔ ∃ id, st.resource? id = some r :=
  Table.mem_values_iff

end Store

namespace Resource

theorem onCreate_own {kind : Kind} {r : Resource} (h : r.kind = kind) :
    schema.onCreate kind r = (r, .accepted) :=
  congrArg (Prod.mk r) (if_pos h)

theorem onCreate_other {kind : Kind} {r : Resource} (h : r.kind ≠ kind) :
    schema.onCreate kind r = (r, .refused (Misplaced.message ⟨kind, r.kind⟩)) :=
  congrArg (Prod.mk r) (if_neg h)

theorem schema_steady : schema.Steady where
  onCreate kind r := by
    by_cases hk : Resource.kind r = kind
    · rw [onCreate_own hk]
      exact fun h => by cases h
    · rw [onCreate_other hk]
      exact fun h => by cases h
  onUpdate _ _ _ := fun h => by cases h
  onRemove _ _ := fun h => by cases h

/-- A store of one kind, whose resources go by numbers that the counter has passed. -/
structure Sound (kind : Kind) (st : Store schema) : Prop where
  context_eq : st.context = kind
  item_eq : ∀ {id : ResourceId} {r : Resource}, st.resource? id = some r → r.id = id ∧ r.kind = kind
  lt_next : ∀ {id : ResourceId} {r : Resource}, st.resource? id = some r → id.toNat < st.next.toNat

inductive Effect (kind : Kind) (st : Store schema) : (r : Request schema) → Answer r → Store schema → Prop
  | listed : Effect kind st .list (.ok st.resources) st
  | found {id : ResourceId} {r : Resource} (hget : st.resource? id = some r) :
      Effect kind st (.get id) (.ok r) st
  | missing {id : ResourceId} (hget : st.resource? id = none) :
      Effect kind st (.get id) (.error (.notFound id.text)) st
  | exhausted {draft : ResourceDraft} (hnext : st.next = Store.lastNumber) :
      Effect kind st (.create draft) (.error .idsExhausted) st
  | created {payload : Payload} (hnext : st.next ≠ Store.lastNumber) :
      Effect kind st (.create ⟨kind, payload⟩) (.ok ⟨st.next, kind, payload⟩)
        (st.counted.keep st.next ⟨st.next, kind, payload⟩)
  | unknown {id : ResourceId} {payload : Payload} (hget : st.resource? id = none) :
      Effect kind st (.update id payload) (.error (.notFound id.text)) st
  | edited {id : ResourceId} {payload : Payload} {r : Resource} (hget : st.resource? id = some r) :
      Effect kind st (.update id payload) (.ok ⟨id, kind, payload⟩) (st.keep id ⟨id, kind, payload⟩)
  | unremoved {ids : List ResourceId} {id : ResourceId} (hid : id ∈ ids) (hget : st.resource? id = none) :
      Effect kind st (.remove ids) (.error (.notFound id.text)) st
  | removed {ids : List ResourceId} (hget : ∀ id ∈ ids, ∃ r, st.resource? id = some r) :
      Effect kind st (.remove ids) (.ok ids.eraseDups) (st.eraseAll ids.eraseDups)

def Fits (kind : Kind) : Request schema → Prop
  | .create draft => draft.kind = kind
  | _ => True

variable {kind : Kind} {st st' : Store schema}

theorem Sound.resource?_next (h : Sound kind st) : st.resource? st.next = none := by
  cases hget : st.resource? st.next with
  | none => rfl
  | some r => exact absurd (h.lt_next hget) (Nat.lt_irrefl _)

theorem effect_of_store {r : Request schema} {a : Answer r} (hs : Sound kind st) (hr : Fits kind r)
    (h : st.Effect r a st') : Effect kind st r a st' := by
  cases h with
  | listed => exact .listed
  | found hget => exact .found hget
  | missing hget => exact .missing hget
  | exhausted hnext => exact .exhausted hnext
  | taken hnext hget => cases hs.resource?_next.symm.trans hget
  | unmade hnext hmake => cases hmake
  | @unwanted draft _ _ _ hnext hmake hook =>
    cases hmake
    obtain ⟨k, payload⟩ := draft
    obtain rfl : k = kind := hr
    rw [hs.context_eq] at hook
    cases (onCreate_own rfl).symm.trans hook
  | @created draft _ _ hnext hget hmake hook =>
    cases hmake
    obtain ⟨k, payload⟩ := draft
    obtain rfl : k = kind := hr
    rw [hs.context_eq] at hook
    cases (onCreate_own rfl).symm.trans hook
    exact .created hnext
  | unknown hget => exact .unknown hget
  | unedited hget hook => cases hook
  | @edited id payload r r' hget hook =>
    obtain ⟨rfl, rfl⟩ := hs.item_eq hget
    cases hook
    exact .edited hget
  | absent hid hget => exact .unremoved hid hget
  | unremoved hid hget hook => cases hook
  | removed hook => exact .removed fun id hid => (hook id hid).imp fun _ h => h.1

theorem Sound.change (hs : Sound kind st) (hcontext : st'.context = st.context)
    (hnext : st.next.toNat ≤ st'.next.toNat)
    (hget : ∀ id r, st'.resource? id = some r →
      st.resource? id = some r ∨ r.id = id ∧ r.kind = kind ∧ id.toNat < st'.next.toNat) : Sound kind st' := by
  refine ⟨hcontext.trans hs.context_eq, fun {id r} h => ?_, fun {id r} h => ?_⟩
  · rcases hget id r h with hold | ⟨hid, hkind, -⟩
    · exact hs.item_eq hold
    · exact ⟨hid, hkind⟩
  · rcases hget id r h with hold | ⟨-, -, hlt⟩
    · exact Nat.lt_of_lt_of_le (hs.lt_next hold) hnext
    · exact hlt

theorem Sound.counted_keep (hs : Sound kind st) (hnext : st.next ≠ Store.lastNumber) (payload : Payload) :
    Sound kind (st.counted.keep st.next ⟨st.next, kind, payload⟩) := by
  have hcount : (st.counted.keep st.next ⟨st.next, kind, payload⟩).next.toNat = st.next.toNat + 1 :=
    Store.toNat_next_counted hnext
  refine hs.change rfl (by omega) fun id r hget => ?_
  rcases Store.resource?_keep_cases hget with ⟨rfl, rfl⟩ | hold
  · exact Or.inr ⟨rfl, rfl, by omega⟩
  · exact Or.inl hold

theorem Sound.counted (hs : Sound kind st) (hnext : st.next ≠ Store.lastNumber) : Sound kind st.counted := by
  have hcount : st.counted.next.toNat = st.next.toNat + 1 := Store.toNat_next_counted hnext
  exact hs.change rfl (by omega) fun _ _ hget => Or.inl hget

theorem Sound.keep (hs : Sound kind st) {id : ResourceId} {r : Resource} (hget : st.resource? id = some r)
    (payload : Payload) : Sound kind (st.keep id ⟨id, kind, payload⟩) := by
  refine hs.change rfl (Nat.le_refl _) fun id' r' hget' => ?_
  rcases Store.resource?_keep_cases hget' with ⟨rfl, rfl⟩ | hold
  · exact Or.inr ⟨rfl, rfl, hs.lt_next hget⟩
  · exact Or.inl hold

theorem Sound.eraseAll (hs : Sound kind st) (ids : List ResourceId) : Sound kind (st.eraseAll ids) := by
  exact hs.change rfl (Nat.le_refl _) fun _ _ hget => Or.inl (Store.resource?_of_eraseAll hget)

theorem Effect.sound {r : Request schema} {a : Answer r} (h : Effect kind st r a st') (hs : Sound kind st) :
    Sound kind st' := by
  cases h with
  | created hnext => exact hs.counted_keep hnext _
  | edited hget => exact hs.keep hget _
  | removed _ => exact hs.eraseAll _
  | listed | found _ | missing _ | exhausted _ | unknown _ | unremoved _ _ => exact hs

theorem Sound.step {r : Request schema} {a : Answer r} (hs : Sound kind st) (h : st.Effect r a st') :
    Sound kind st' := by
  by_cases hr : Fits kind r
  · exact (effect_of_store hs hr h).sound hs
  · cases h with
    | exhausted _ => exact hs
    | taken hnext _ | unmade hnext _ | unwanted hnext _ _ => exact hs.counted hnext
    | @created draft _ _ _ _ hmake hook =>
      have hother : (⟨st.next, draft.kind, draft.payload⟩ : Resource).kind ≠ kind := hr
      cases hmake
      rw [hs.context_eq] at hook
      cases (onCreate_other hother).symm.trans hook
    | _ => exact absurd trivial hr

theorem sound_ofKind (kind : Kind) : Sound kind (Store.ofKind kind) := by
  refine ⟨rfl, fun {id r} h => ?_, fun {id r} h => ?_⟩
  · cases h
  · cases h

theorem exists_effect {r : Request schema} (hs : Sound kind st) (hr : Fits kind r) :
    ∃ a st', st.answer r = .answered a st' ∧ Effect kind st r a st' := by
  obtain ⟨a, st', ha, h⟩ := Store.exists_effect schema_steady st r
  exact ⟨a, st', ha, effect_of_store hs hr h⟩

theorem Sound.mem_resources_iff (hs : Sound kind st) {r : Resource} :
    r ∈ st.resources ↔ st.resource? r.id = some r := by
  rw [Store.mem_resources_iff]
  constructor
  · rintro ⟨id, hget⟩
    rw [(hs.item_eq hget).1]
    exact hget
  · exact fun hget => ⟨r.id, hget⟩

theorem Sound.resources_pairwise (hs : Sound kind st) : st.resources.Pairwise fun a b => a.id < b.id := by
  refine List.pairwise_map.mpr (st.items.increasing.imp_of_mem fun {p q} hp hq hlt => ?_)
  have hidp := (hs.item_eq (Table.mem_pairs_iff.mp hp)).1
  have hidq := (hs.item_eq (Table.mem_pairs_iff.mp hq)).1
  rw [hidp, hidq]
  exact compareOfLessAndEq_eq_lt.mp hlt

end Resource

end GatedStore
