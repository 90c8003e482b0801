/-! Request paths: the segments between slashes, without a query or fragment and without empty segments. -/

namespace GatedStore.Path

def isEnd (c : Char) : Bool :=
  c == '?' || c == '#'

def parts (cs : List Char) : List (List Char) :=
  (cs.splitOn '/').filter fun part => !part.isEmpty

def segments (path : String) : List String :=
  (parts (path.toList.takeWhile fun c => !isEnd c)).map String.ofList

theorem not_mem_of_mem_splitOn {sep : Char} {part cs : List Char} (h : part ∈ cs.splitOn sep) : sep ∉ part := by
  induction cs generalizing part with
  | nil =>
    simp only [List.splitOn_nil, List.mem_singleton] at h
    simp [h]
  | cons c cs ih =>
    rw [List.splitOn_cons_eq_if_modifyHead] at h
    split at h
    · rcases List.mem_cons.mp h with rfl | h
      · exact List.not_mem_nil
      · exact ih h
    · rename_i hc
      generalize hp : cs.splitOn sep = ps at h ih
      cases ps with
      | nil => cases h
      | cons p ps =>
        simp only [List.modifyHead_cons, List.mem_cons] at h
        rcases h with rfl | h
        · intro hm
          rcases List.mem_cons.mp hm with rfl | hm
          · simp at hc
          · exact ih List.mem_cons_self hm
        · exact ih (List.mem_cons_of_mem _ h)

theorem mem_parts {part cs : List Char} (h : part ∈ parts cs) : part ≠ [] ∧ '/' ∉ part := by
  simp only [parts, List.mem_filter, Bool.not_eq_eq_eq_not, Bool.not_true, List.isEmpty_eq_false_iff] at h
  exact ⟨h.2, not_mem_of_mem_splitOn h.1⟩

end GatedStore.Path
