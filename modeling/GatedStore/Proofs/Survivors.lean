import GatedStore.Proofs.Numbering
import Mathlib.Data.List.Range

/-! What a history leaves behind: the entities that were created in it and not removed since, in the order
of their creation. A store holds these and lists them so. -/

namespace GatedStore

variable {S : Schema}

def Schema.Monotone (S : Schema) : Prop :=
  ∀ m n : UInt64, m < n → compare (S.ofNumber m) (S.ofNumber n) = .lt

theorem Schema.Monotone.ne (hS : S.Monotone) {m n : UInt64} (h : m < n) : S.ofNumber m ≠ S.ofNumber n := by
  intro heq
  have hlt := hS m n h
  rw [heq, Std.ReflOrd.compare_self] at hlt
  cases hlt

namespace Event

def made? : Event S → Option S.Item
  | ⟨.create _, .ok item⟩ => some item
  | _ => none

def fate (id : S.Id) (current : Option S.Item) : Event S → Option S.Item
  | ⟨.update id' _, .ok item⟩ => if id = id' then current.map fun _ => item else current
  | ⟨.remove ids, .ok _⟩ => if id ∈ ids then none else current
  | _ => current

def carry (e : Event S) (p : S.Id × S.Item) : Option (S.Id × S.Item) :=
  (e.fate p.1 (some p.2)).map (p.1, ·)

theorem fate_none (e : Event S) (id : S.Id) : e.fate id none = none := by
  obtain ⟨r, a⟩ := e
  cases r with
  | list | get _ | create _ => rfl
  | update _ _ | remove _ =>
    cases a with
    | error _ => rfl
    | ok _ =>
      simp only [fate]
      split <;> rfl

theorem carry_eq_some_iff {e : Event S} {p q : S.Id × S.Item} :
    e.carry p = some q ↔ q.1 = p.1 ∧ e.fate p.1 (some p.2) = some q.2 := by
  obtain ⟨id, item⟩ := q
  simp only [carry, Option.map_eq_some_iff, Prod.mk.injEq]
  constructor
  · rintro ⟨item', h, rfl, rfl⟩
    exact ⟨rfl, h⟩
  · rintro ⟨rfl, h⟩
    exact ⟨item, h, rfl, rfl⟩

end Event

def idAt (es : List (Event S)) (t : Nat) : S.Id :=
  S.ofNumber (UInt64.ofNat (1 + (es.take t).countP (·.request.creates)))

def survivor? (es : List (Event S)) (t : Nat) : Option (S.Id × S.Item) :=
  ((es[t]?.bind Event.made?).bind fun item =>
    (es.drop (t + 1)).foldl (Event.fate (idAt es t)) (some item)).map (idAt es t, ·)

def survivors (es : List (Event S)) : List (S.Id × S.Item) :=
  (List.range es.length).filterMap (survivor? es)

theorem survivor?_concat {es : List (Event S)} {t : Nat} (h : t < es.length) (e : Event S) :
    survivor? (es ++ [e]) t = (survivor? es t).bind e.carry := by
  have hid : idAt (es ++ [e]) t = idAt es t := by
    rw [idAt, List.take_append_of_le_length (Nat.le_of_lt h), idAt]
  rw [survivor?, survivor?, hid, List.getElem?_append_left h, List.drop_append_of_le_length h]
  cases es[t]?.bind Event.made? with
  | none => rfl
  | some item =>
    simp only [Option.bind_some, List.foldl_append, List.foldl_cons, List.foldl_nil]
    cases (es.drop (t + 1)).foldl (Event.fate (idAt es t)) (some item) with
    | none => simp [Event.fate_none]
    | some item' => rfl

theorem survivor?_last (es : List (Event S)) (e : Event S) :
    survivor? (es ++ [e]) es.length = e.made?.map (idAt es es.length, ·) := by
  have hid : idAt (es ++ [e]) es.length = idAt es es.length := by
    rw [idAt, idAt, List.take_left, List.take_length]
  have hdrop : (es ++ [e]).drop (es.length + 1) = [] := List.drop_eq_nil_of_le (by simp)
  rw [survivor?, hid, hdrop, List.getElem?_concat_length, Option.bind_some]
  cases e.made? <;> rfl

theorem survivors_concat (es : List (Event S)) (e : Event S) :
    survivors (es ++ [e]) =
      (survivors es).filterMap e.carry ++ (e.made?.map (idAt es es.length, ·)).toList := by
  rw [survivors, List.length_append, List.length_singleton, List.range_succ, List.filterMap_append]
  congr 1
  · rw [survivors, List.filterMap_filterMap]
    exact List.filterMap_congr fun t ht => survivor?_concat (List.mem_range.mp ht) e
  · rw [List.filterMap_cons, survivor?_last]
    cases e.made? <;> rfl

theorem mem_survivors_concat {es : List (Event S)} {e : Event S} {id : S.Id} {item : S.Item} :
    (id, item) ∈ survivors (es ++ [e]) ↔
      (∃ old, (id, old) ∈ survivors es ∧ e.fate id (some old) = some item) ∨
        e.made? = some item ∧ id = idAt es es.length := by
  rw [survivors_concat, List.mem_append, List.mem_filterMap]
  refine or_congr ⟨?_, ?_⟩ ?_
  · rintro ⟨⟨id', old⟩, hp, hcarry⟩
    obtain ⟨rfl, hfate⟩ := Event.carry_eq_some_iff.mp hcarry
    exact ⟨old, hp, hfate⟩
  · rintro ⟨old, hp, hfate⟩
    exact ⟨(id, old), hp, Event.carry_eq_some_iff.mpr ⟨rfl, hfate⟩⟩
  · simp only [Option.mem_toList, Option.map_eq_some_iff, Prod.mk.injEq]
    constructor
    · rintro ⟨item', h, rfl, rfl⟩
      exact ⟨h, rfl⟩
    · rintro ⟨h, rfl⟩
      exact ⟨item, h, rfl, rfl⟩

theorem Store.Effect.next_of_made {st st' : Store S} {r : Request S} {a : Answer r} (h : st.Effect r a st')
    {item : S.Item} (hmade : (⟨r, a⟩ : Event S).made? = some item) :
    r.creates = true ∧ st.next ≠ lastNumber := by
  cases h with
  | created hnext _ _ _ => exact ⟨rfl, hnext⟩
  | _ => cases hmade

/-- A store holds what a history left behind, under ids that its counter has passed. -/
structure Store.Chronicles (es : List (Event S)) (st : Store S) : Prop where
  next_eq : st.next.toNat = min (1 + es.countP (·.request.creates)) (2 ^ 64 - 1)
  get?_iff : ∀ {id item}, st.items.get? id = some item ↔ (id, item) ∈ survivors es
  number : ∀ {p}, p ∈ survivors es → ∃ n : UInt64, 1 ≤ n ∧ n < st.next ∧ p.1 = S.ofNumber n
  increasing : Increasing (survivors es)

namespace Store.Chronicles

variable {es : List (Event S)} {st st' : Store S} {r : Request S} {a : Answer r}

theorem new (context : S.Context) : Chronicles [] (Store.new context : Store S) where
  next_eq := rfl
  get?_iff := iff_of_false (fun h => by cases h) List.not_mem_nil
  number h := absurd h List.not_mem_nil
  increasing := .nil

theorem idAt_eq (h : Chronicles es st) (hnext : st.next ≠ lastNumber) :
    idAt es es.length = S.ofNumber st.next := by
  have hcount : 1 + es.countP (·.request.creates) = st.next.toNat := by
    have hcounter := h.next_eq
    have hlast := toNat_lt_last hnext
    omega
  rw [idAt, List.take_length, hcount, UInt64.ofNat_toNat]

theorem one_le_next (h : Chronicles es st) : 1 ≤ st.next := by
  have hnext := h.next_eq
  rw [UInt64.le_iff_toNat_le]
  change 1 ≤ st.next.toNat
  omega

theorem get?_next (hS : S.Monotone) (h : Chronicles es st) : st.items.get? (S.ofNumber st.next) = none := by
  cases hget : st.items.get? (S.ofNumber st.next) with
  | none => rfl
  | some item =>
    obtain ⟨n, -, hlt, hn⟩ := h.number (h.get?_iff.mp hget)
    exact absurd hn.symm (hS.ne hlt)

theorem get?_step (h : Chronicles es st) (heff : st.Effect r a st') {id : S.Id} {item : S.Item} :
    st'.items.get? id = some item ↔ (id, item) ∈ survivors (es ++ [⟨r, a⟩]) := by
  rw [mem_survivors_concat]
  simp only [← h.get?_iff]
  cases heff with
  | @created draft made made' hnext hget hmake hook =>
    rw [get?_keep, counted_items, h.idAt_eq hnext]
    by_cases hid : id = S.ofNumber st.next
    · subst hid
      simp [Event.made?, hget]
    · simp [Event.fate, hid]
  | @edited id' change old new hget hook =>
    by_cases hid : id = id'
    · subst hid
      simp [Event.fate, Event.made?, hget]
    · simp [Event.fate, Event.made?, hid]
  | @removed ids hook =>
    by_cases hid : id ∈ ids
    · simp [Event.fate, Event.made?, hid]
    · simp [Event.fate, Event.made?, hid]
  | _ => simp [Event.fate, Event.made?, counted]

theorem step (hS : S.Monotone) (h : Chronicles es st) (heff : st.Effect r a st') :
    Chronicles (es ++ [⟨r, a⟩]) st' where
  next_eq := heff.toNat_next_concat h.next_eq
  get?_iff := h.get?_step heff
  number := by
    rintro ⟨id, item⟩ hp
    rcases mem_survivors_concat.mp hp with ⟨old, hold, -⟩ | ⟨hmade, hid⟩
    · obtain ⟨n, hn, hlt, hid⟩ := h.number hold
      exact ⟨n, hn, UInt64.lt_of_lt_of_le hlt heff.next_le, hid⟩
    · obtain ⟨hcreates, hlast⟩ := heff.next_of_made hmade
      exact ⟨st.next, h.one_le_next, heff.next_lt hcreates hlast, hid.trans (h.idAt_eq hlast)⟩
  increasing := by
    rw [survivors_concat]
    refine List.pairwise_append.mpr ⟨?_, ?_, fun p hp q hq => ?_⟩
    · refine h.increasing.filterMap _ fun p p' hlt q hq q' hq' => ?_
      rw [(Event.carry_eq_some_iff.mp hq).1, (Event.carry_eq_some_iff.mp hq').1]
      exact hlt
    · cases (⟨r, a⟩ : Event S).made? with
      | none => exact .nil
      | some item => exact List.pairwise_singleton _ _
    · -- What is made last has the greatest number, so that it comes last in both orders.
      obtain ⟨p', hp', hcarry⟩ := List.mem_filterMap.mp hp
      obtain ⟨n, -, hlt, hn⟩ := h.number hp'
      obtain ⟨item, hmade, rfl⟩ := Option.map_eq_some_iff.mp (Option.mem_toList.mp hq)
      rw [(Event.carry_eq_some_iff.mp hcarry).1, hn, h.idAt_eq (heff.next_of_made hmade).2]
      exact hS n st.next hlt

theorem pairs_eq (h : Chronicles es st) : st.items.pairs = survivors es :=
  Increasing.eq_of_mem_iff st.items.increasing h.increasing fun _ => Table.mem_pairs_iff.trans h.get?_iff

end Store.Chronicles

theorem Resource.schema_monotone : Resource.schema.Monotone :=
  fun _ _ h => compareOfLessAndEq_eq_lt.mpr h

namespace Line

theorem send_create_ne_duplicateId {line : Line S}
    (hfree : ∀ st, line = .running st → st.items.get? (S.ofNumber st.next) = none) (draft : S.Draft)
    (text : String) : (Line.send (.create draft) line).1 ≠ .error (.duplicateId text) := by
  cases line with
  | closed => exact fun h => by cases h
  | running st =>
    rcases send_cases st (.create draft) with ⟨a, st', hsend, heff⟩ | hsend
    · rw [hsend]
      rintro rfl
      cases heff with
      | taken _ hget => cases (hfree st rfl).symm.trans hget
    · rw [hsend]
      exact fun h => by cases h

theorem run_survivors :
    (∀ S : Schema, S.Monotone → ∀ (context : S.Context) (rs : List (Request S)),
      let line := Line.send.after (Line.new context) rs
      let es := Line.send.history (Line.new context) rs
      (∀ draft text, (⟨.create draft, .error (.duplicateId text)⟩ : Event S) ∉ es) ∧
      (S.Steady → ∃ st, line = .running st) ∧
      ∀ st, line = .running st → (∀ id ∈ st.items.keys, ∃ n, 1 ≤ n ∧ n < st.next ∧ id = S.ofNumber n) ∧
        st.items.keys.Nodup ∧ st.items.pairs = survivors es ∧
        (Line.send .list line).1 = .ok ((survivors es).map (·.2))) ∧
    (∀ (kind : Kind) (rs : List (Request Resource.schema)),
      ∃ st : Store Resource.schema, Line.send.after (Line.new kind) rs = .running st ∧
        ∀ id r, st.resource? id = some r → r.id = id ∧ r.kind = kind) := by
  refine ⟨fun S hS context rs => ?_, fun kind rs => ?_⟩
  · intro line es
    have hrun : ∀ {rs st}, Line.send.after (Line.new context) rs = .running st →
        st.Chronicles (Line.send.history (Line.new context) rs) :=
      fun h => run_induction (Store.Chronicles.new context) (fun h heff => h.step hS heff) h
    refine ⟨fun draft text he => ?_, fun hsteady => after_steady hsteady _ rs, fun st hst => ?_⟩
    · obtain ⟨before, r, he⟩ := Send.exists_of_mem_history Line.send he
      obtain rfl : Request.create draft = r := congrArg Event.request he
      exact send_create_ne_duplicateId (fun st hst => (hrun hst).get?_next hS) draft text
        (eq_of_heq (Event.mk.inj he).2).symm
    · have hpairs := (hrun hst).pairs_eq
      refine ⟨fun id hid => ?_, st.items.increasing.nodup_keys, hpairs, ?_⟩
      · obtain ⟨p, hp, rfl⟩ := List.mem_map.mp hid
        exact (hrun hst).number (hpairs ▸ hp)
      · have hlist : (Line.send .list (.running st)).1 = .ok (st.items.pairs.map (·.2)) := rfl
        rw [hpairs] at hlist
        exact (congrArg (fun line => (Line.send .list line).1) hst).trans hlist
  · obtain ⟨st, hst⟩ := after_steady Resource.schema_steady (Store.ofKind kind) rs
    have hsound := run_induction (P := fun _ st => Resource.Sound kind st) (Resource.sound_ofKind kind)
      (fun hs heff => hs.step heff) hst
    exact ⟨st, hst, fun id r hget => hsound.item_eq hget⟩

theorem survivors_past_refused_creation :
    let paid := Payload.ofMembers [("paid", .bool true)]
    let rs : List (Request Resource.schema) := [.create ⟨.orders, .empty⟩, .create ⟨.bom, .empty⟩,
      .create ⟨.orders, .empty⟩, .create ⟨.orders, .empty⟩, .update (1 : ResourceId) paid,
      .remove [(3 : ResourceId)]]
    Resource.schema.Monotone ∧ (Line.send .list (Line.send.after (Line.new Kind.orders) rs)).1 =
      .ok ([⟨1, .orders, paid⟩, ⟨4, .orders, .empty⟩] : List Resource) := by
  intro paid rs
  obtain ⟨-, hrunning, hstore⟩ := run_survivors.1 Resource.schema Resource.schema_monotone Kind.orders rs
  obtain ⟨st, hst⟩ := hrunning Resource.schema_steady
  exact ⟨Resource.schema_monotone, (hstore st hst).2.2.2⟩

end Line

end GatedStore
