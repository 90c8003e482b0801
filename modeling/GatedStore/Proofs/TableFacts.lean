import GatedStore.Table
import Mathlib.Data.List.Sort

namespace GatedStore

variable {K V : Type}

theorem Increasing.eq_of_mem_iff [Ord K] [Std.TransOrd K] {xs ys : List (K × V)} (hx : Increasing xs)
    (hy : Increasing ys) (h : ∀ p, p ∈ xs ↔ p ∈ ys) : xs = ys := by
  have hirrefl : Std.Irrefl fun a b : K × V => compare a.1 b.1 = .lt :=
    ⟨fun a hlt => by
      rw [Std.ReflOrd.compare_self] at hlt
      cases hlt⟩
  have hantisymm : Std.Antisymm fun a b : K × V => compare a.1 b.1 = .lt :=
    ⟨fun a b hab hba => absurd (Std.TransCmp.lt_trans hab hba) (hirrefl.irrefl a)⟩
  exact List.Pairwise.eq_of_mem_iff hx hy h

theorem Increasing.nodup_keys [Ord K] [Std.ReflOrd K] {pairs : List (K × V)} (h : Increasing pairs) :
    (pairs.map (·.1)).Nodup := by
  refine List.pairwise_map.mpr (h.imp fun {a b} hlt heq => ?_)
  rw [heq, Std.ReflOrd.compare_self] at hlt
  cases hlt

variable [DecidableEq K]

theorem lookup_mem {k : K} {v : V} {pairs : List (K × V)} (h : pairs.lookup k = some v) : (k, v) ∈ pairs := by
  induction pairs with
  | nil => cases h
  | cons p rest ih =>
    obtain ⟨a, b⟩ := p
    rw [lookup_cons_if] at h
    split at h
    · rename_i hk
      obtain rfl := Option.some.inj h
      rw [hk]
      exact List.mem_cons_self
    · exact List.mem_cons_of_mem _ (ih h)

variable [Ord K]

theorem lookup_of_mem [Std.ReflOrd K] {k : K} {v : V} {pairs : List (K × V)} (hi : Increasing pairs)
    (h : (k, v) ∈ pairs) : pairs.lookup k = some v := by
  induction pairs with
  | nil => cases h
  | cons p rest ih =>
    obtain ⟨a, b⟩ := p
    obtain ⟨hfirst, hrest⟩ := List.pairwise_cons.mp hi
    rw [lookup_cons_if]
    rcases List.mem_cons.mp h with hhead | htail
    · obtain ⟨rfl, rfl⟩ := Prod.mk.inj hhead
      exact if_pos rfl
    · have hne : k ≠ a := by
        rintro rfl
        have hlt : compare k k = .lt := hfirst (k, v) htail
        rw [Std.ReflOrd.compare_self] at hlt
        cases hlt
      rw [if_neg hne]
      exact ih hrest htail

namespace Table

theorem mem_pairs_iff [Std.ReflOrd K] {t : Table K V} {k : K} {v : V} :
    (k, v) ∈ t.pairs ↔ t.get? k = some v :=
  ⟨lookup_of_mem t.increasing, lookup_mem⟩

theorem eq_of_get? [Std.TransOrd K] {s t : Table K V} (h : ∀ k, s.get? k = t.get? k) : s = t := by
  apply Table.ext
  apply s.increasing.eq_of_mem_iff t.increasing
  rintro ⟨k, v⟩
  rw [mem_pairs_iff, mem_pairs_iff, h k]

theorem mem_values_iff [Std.ReflOrd K] {t : Table K V} {v : V} : v ∈ t.values ↔ ∃ k, t.get? k = some v := by
  simp only [values, List.mem_map]
  constructor
  · rintro ⟨⟨k, v⟩, hp, rfl⟩
    exact ⟨k, mem_pairs_iff.mp hp⟩
  · rintro ⟨k, hk⟩
    exact ⟨(k, v), mem_pairs_iff.mpr hk, rfl⟩

@[simp] theorem mem_keys_iff [Std.ReflOrd K] {t : Table K V} {k : K} : k ∈ t.keys ↔ ∃ v, t.get? k = some v := by
  simp only [keys, List.mem_map]
  constructor
  · rintro ⟨⟨k, v⟩, hp, rfl⟩
    exact ⟨v, mem_pairs_iff.mp hp⟩
  · rintro ⟨v, hv⟩
    exact ⟨(k, v), mem_pairs_iff.mpr hv, rfl⟩

@[simp] theorem get?_foldl_erase (ids : List K) (t : Table K V) (k : K) :
    (ids.foldl erase t).get? k = if k ∈ ids then none else t.get? k := by
  induction ids generalizing t with
  | nil => simp
  | cons id ids ih =>
    rw [List.foldl_cons, ih]
    by_cases hk : k = id <;> by_cases hm : k ∈ ids <;> simp [hk, hm]

theorem get?_foldl_insert_map [Std.TransOrd K] [Std.LawfulEqOrd K] (f : K → V) (ks : List K) (t : Table K V)
    (k : K) : ((ks.map fun k => (k, f k)).foldl (fun t p => t.insert p.1 p.2) t).get? k =
      if k ∈ ks then some (f k) else t.get? k := by
  induction ks generalizing t with
  | nil => rfl
  | cons k₁ ks ih =>
    rw [List.map_cons, List.foldl_cons, ih]
    by_cases hk : k = k₁ <;> simp [hk]

theorem get?_ofList_map [Std.TransOrd K] [Std.LawfulEqOrd K] (f : K → V) (ks : List K) (k : K) :
    (ofList (ks.map fun k => (k, f k))).get? k = if k ∈ ks then some (f k) else none :=
  get?_foldl_insert_map f ks empty k

theorem pairs_ofList_map_perm [Std.TransOrd K] [Std.LawfulEqOrd K] (f : K → V) {ks : List K} (h : ks.Nodup) :
    (ofList (ks.map fun k => (k, f k))).pairs.Perm (ks.map fun k => (k, f k)) := by
  have hleft := (ofList (ks.map fun k => (k, f k))).increasing.nodup_keys.of_map
  have hright : (ks.map fun k => (k, f k)).Nodup := h.map fun _ _ heq => congrArg Prod.fst heq
  refine (List.perm_ext_iff_of_nodup hleft hright).mpr ?_
  rintro ⟨k, v⟩
  rw [mem_pairs_iff, get?_ofList_map, List.mem_map]
  constructor
  · intro h
    split at h
    · rename_i hk
      exact ⟨k, hk, congrArg _ (Option.some.inj h)⟩
    · cases h
  · rintro ⟨k', hk, heq⟩
    obtain ⟨rfl, rfl⟩ := Prod.mk.inj heq
    exact if_pos hk

end Table

end GatedStore
