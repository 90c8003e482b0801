/-! Finite maps as lists of pairs in increasing order of their keys, each key once. -/

namespace GatedStore

def Increasing {K V : Type} [Ord K] (pairs : List (K × V)) : Prop :=
  pairs.Pairwise fun a b => compare a.1 b.1 = .lt

variable {K V : Type}

theorem lookup_cons_if [DecidableEq K] (k a : K) (b : V) (rest : List (K × V)) :
    ((a, b) :: rest).lookup k = if k = a then some b else rest.lookup k := by
  by_cases h : k = a
  · subst h
    simp
  · have hf : (k == a) = false := by simpa using h
    simp [List.lookup_cons, hf, h]

theorem lookup_filter_ne [DecidableEq K] (k k' : K) (pairs : List (K × V)) :
    (pairs.filter fun p => p.1 ≠ k).lookup k' = if k' = k then none else pairs.lookup k' := by
  induction pairs with
  | nil => simp
  | cons q rest ih =>
    obtain ⟨a, b⟩ := q
    by_cases ha : a = k
    · have hf : ((a, b) :: rest).filter (fun p => p.1 ≠ k) = rest.filter fun p => p.1 ≠ k := by simp [ha]
      rw [hf, ih, lookup_cons_if]
      by_cases hk : k' = k
      · simp [hk]
      · simp [hk, ha]
    · have hf : ((a, b) :: rest).filter (fun p => p.1 ≠ k) = (a, b) :: rest.filter fun p => p.1 ≠ k := by
        simp [ha]
      rw [hf, lookup_cons_if, lookup_cons_if, ih]
      by_cases hk : k' = k
      · have hne : k' ≠ a := fun h => ha (h.symm.trans hk)
        simp [hk, hk ▸ hne]
      · simp [hk]

variable [Ord K]

def put (k : K) (v : V) : List (K × V) → List (K × V)
  | [] => [(k, v)]
  | (k', v') :: rest =>
    match compare k k' with
    | .lt => (k, v) :: (k', v') :: rest
    | .eq => (k, v) :: rest
    | .gt => (k', v') :: put k v rest

theorem mem_put {k : K} {v : V} {pairs : List (K × V)} {p : K × V} (h : p ∈ put k v pairs) :
    p = (k, v) ∨ p ∈ pairs := by
  induction pairs with
  | nil => exact Or.inl (by simpa [put] using h)
  | cons q rest ih =>
    obtain ⟨k', v'⟩ := q
    simp only [put] at h
    split at h
    · simpa using h
    · rcases List.mem_cons.mp h with h | h
      · exact Or.inl h
      · exact Or.inr (List.mem_cons_of_mem _ h)
    · rcases List.mem_cons.mp h with h | h
      · exact Or.inr (h ▸ List.mem_cons_self)
      · exact (ih h).imp_right (List.mem_cons_of_mem _)

theorem increasing_put [Std.TransOrd K] [Std.LawfulEqOrd K] (k : K) (v : V) {pairs : List (K × V)}
    (h : Increasing pairs) : Increasing (put k v pairs) := by
  induction pairs with
  | nil => exact List.pairwise_singleton _ _
  | cons q rest ih =>
    obtain ⟨k', v'⟩ := q
    have hq := List.pairwise_cons.mp h
    simp only [put]
    split
    · rename_i hlt
      refine List.pairwise_cons.mpr ⟨fun p hp => ?_, h⟩
      rcases List.mem_cons.mp hp with rfl | hp
      · exact hlt
      · exact Std.TransCmp.lt_trans hlt (hq.1 p hp)
    · rename_i heq
      obtain rfl := Std.LawfulEqOrd.eq_of_compare heq
      exact List.pairwise_cons.mpr ⟨hq.1, hq.2⟩
    · rename_i hgt
      refine List.pairwise_cons.mpr ⟨fun p hp => ?_, ih hq.2⟩
      rcases mem_put hp with rfl | hp
      · exact Std.OrientedCmp.lt_of_gt hgt
      · exact hq.1 p hp

@[simp] theorem lookup_put [DecidableEq K] [Std.LawfulEqOrd K] (k k' : K) (v : V) (pairs : List (K × V)) :
    (put k v pairs).lookup k' = if k' = k then some v else pairs.lookup k' := by
  induction pairs with
  | nil => rw [put, lookup_cons_if]
  | cons q rest ih =>
    obtain ⟨a, b⟩ := q
    simp only [put]
    split
    · rw [lookup_cons_if]
    · rename_i heq
      obtain rfl := Std.LawfulEqOrd.eq_of_compare heq
      rw [lookup_cons_if, lookup_cons_if]
      by_cases hk : k' = k <;> simp [hk]
    · rename_i hgt
      have hne : k ≠ a := by
        intro h
        rw [h, Std.ReflOrd.compare_self] at hgt
        cases hgt
      rw [lookup_cons_if, lookup_cons_if, ih]
      by_cases hk : k' = k
      · simp [hk, hne]
      · simp [hk]

structure Table (K V : Type) [Ord K] where
  pairs : List (K × V)
  increasing : Increasing pairs

namespace Table

def empty : Table K V :=
  ⟨[], List.Pairwise.nil⟩

def isEmpty (t : Table K V) : Bool :=
  t.pairs.isEmpty

def keys (t : Table K V) : List K :=
  t.pairs.map (·.1)

def values (t : Table K V) : List V :=
  t.pairs.map (·.2)

def get? [DecidableEq K] (t : Table K V) (k : K) : Option V :=
  t.pairs.lookup k

def contains [DecidableEq K] (t : Table K V) (k : K) : Bool :=
  (t.get? k).isSome

def insert [Std.TransOrd K] [Std.LawfulEqOrd K] (t : Table K V) (k : K) (v : V) : Table K V :=
  ⟨put k v t.pairs, increasing_put k v t.increasing⟩

def erase [DecidableEq K] (t : Table K V) (k : K) : Table K V :=
  ⟨t.pairs.filter fun p => p.1 ≠ k, t.increasing.filter _⟩

def ofList [Std.TransOrd K] [Std.LawfulEqOrd K] (pairs : List (K × V)) : Table K V :=
  pairs.foldl (fun t p => t.insert p.1 p.2) empty

@[simp] theorem get?_insert [DecidableEq K] [Std.TransOrd K] [Std.LawfulEqOrd K] (t : Table K V) (k k' : K) (v : V) :
    (t.insert k v).get? k' = if k' = k then some v else t.get? k' :=
  lookup_put k k' v t.pairs

@[simp] theorem get?_erase [DecidableEq K] (t : Table K V) (k k' : K) :
    (t.erase k).get? k' = if k' = k then none else t.get? k' :=
  lookup_filter_ne k k' t.pairs

theorem ext {s t : Table K V} (h : s.pairs = t.pairs) : s = t := by
  cases s
  cases t
  cases h
  rfl

end Table

end GatedStore
