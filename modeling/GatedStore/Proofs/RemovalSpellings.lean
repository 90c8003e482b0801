import GatedStore.Proofs.IdText
import GatedStore.Proofs.RemovalShapes

namespace GatedStore

theorem Results.InOrder.of_forall₂ {ε α β : Type} {f : α → Except ε β → Prop} {as : List α} {bs : List β}
    (h : List.Forall₂ (fun a b => f a (.ok b)) as bs) : InOrder f as (.ok bs) := by
  induction h with
  | nil => exact .nil
  | cons h _ ih => exact .cons h ih

namespace Body

open Json.Reader (depthLimit ofBytes)
open Results
open Text.Utf8 (encode)

/-- Ids next to each other: one as a number, or several as a text with commas between their spellings. -/
inductive Chunk : List ResourceId → Json → Prop
  | number (id : ResourceId) : Chunk [id] (.ofUInt64 id)
  | text {ids : List ResourceId} {parts : List (List Char)} {t : String} (hne : ids ≠ [])
      (hparts : List.Forall₂ ResourceId.Spelling ids parts) (ht : t.toList = [','].intercalate parts) :
      Chunk ids (.string t)

inductive Encodes : List ResourceId → Json → Prop
  | alone {ids : List ResourceId} {v : Json} (h : Chunk ids v) : Encodes ids v
  | inside {ids : List ResourceId} {v : Json} (h : Chunk ids v) : Encodes ids (.object [("id", v)])
  | listed {chunks : List (List ResourceId)} {vs : List Json} (h : List.Forall₂ Chunk chunks vs) :
      Encodes chunks.flatten (.object [("ids", .array vs)])

variable {ids : List ResourceId} {v : Json} {chunks : List (List ResourceId)} {vs : List Json}

theorem splitOn_spellings {parts : List (List Char)} (hne : ids ≠ [])
    (hparts : List.Forall₂ ResourceId.Spelling ids parts) : ([','].intercalate parts).splitOn ',' = parts := by
  refine List.splitOn_intercalate _ ?_ ?_
  · intro part hpart
    obtain ⟨id, -, hspelling⟩ := exists_left_of_forall₂ hparts hpart
    exact hspelling.no_comma
  · rintro rfl
    exact hne (List.forall₂_nil_right_iff.mp hparts)

theorem Chunk.expands (h : Chunk ids v) : Expands v (.ok ids) := by
  cases h with
  | number id => exact .number id
  | text hne hparts ht =>
    refine .text (.of_forall₂ ?_)
    rw [ht, splitOn_spellings hne hparts]
    refine hparts.flip.imp fun part id hspelling => .id (ResourceId.read_eq_ok_iff.mpr ?_)
    rwa [String.toList_ofList]

theorem Chunk.isId (h : Chunk ids v) : IsId v := by
  cases h with
  | number id => exact Or.inl ⟨id, rfl⟩
  | text _ _ _ => exact Or.inr ⟨_, rfl⟩

theorem Chunk.plain (h : Chunk ids v) : v.Integral ∧ v.nesting = 0 := by
  cases h with
  | number id => exact ⟨trivial, rfl⟩
  | text _ _ _ => exact ⟨trivial, rfl⟩

theorem chunks_plain (h : List.Forall₂ Chunk chunks vs) : Json.AllIntegral vs ∧ Json.itemsNesting vs = 0 := by
  induction h with
  | nil => exact ⟨trivial, rfl⟩
  | cons h _ ih =>
    obtain ⟨hintegral, hnesting⟩ := h.plain
    exact ⟨⟨hintegral, ih.1⟩, by rw [Json.itemsNesting, hnesting, ih.2, Nat.max_self]⟩

theorem Encodes.ofBytes_chars (h : Encodes ids v) : ofBytes (encode v.chars) = .ok v := by
  cases h with
  | alone h =>
    obtain ⟨hintegral, hnesting⟩ := h.plain
    exact Json.Reader.ofBytes_chars hintegral (hnesting ▸ Nat.zero_le _)
  | inside h =>
    obtain ⟨hintegral, hnesting⟩ := h.plain
    refine Json.Reader.ofBytes_chars ⟨hintegral, trivial⟩ ?_
    simp [Json.nesting, Json.membersNesting, hnesting, depthLimit]
  | listed h =>
    obtain ⟨hintegral, hnesting⟩ := chunks_plain h
    refine Json.Reader.ofBytes_chars ⟨hintegral, trivial⟩ ?_
    simp [Json.nesting, Json.membersNesting, hnesting, depthLimit]

theorem Encodes.removes (h : Encodes ids v) (hne : ids ≠ []) : Removal.Removes v (.ok ids) := by
  cases h with
  | alone h => exact .alone h.isId h.expands
  | inside h => exact .id (Removal.hasId_of_single h.isId) h.expands
  | @listed chunks vs h =>
    have hids : ∀ w ∈ vs, IsId w := by
      intro w hw
      obtain ⟨chunk, -, hchunk⟩ := exists_left_of_forall₂ h hw
      exact hchunk.isId
    have hvs : vs ≠ [] := by
      rintro rfl
      cases h
      exact hne rfl
    exact Removal.removes_listed hids hvs (.of_forall₂ (h.flip.imp fun w chunk hchunk => hchunk.expands))

theorem remove_of_encodes (hne : ids ≠ []) (h : Encodes ids v) :
    remove (encode v.chars) = .ok ids ∧ ∀ body, ofBytes body = .ok v → remove body = .ok ids := by
  have hbody : ∀ body, ofBytes body = .ok v → remove body = .ok ids := fun body hbytes =>
    (remove_eq_iff hbytes).mpr (h.removes hne)
  exact ⟨hbody _ h.ofBytes_chars, hbody⟩

theorem remove_of_padded_and_number :
    remove (encode (Json.object
        [("ids", .array [.string "+007,\u2003 8\t", .ofUInt64 18446744073709551615])]).chars) =
        .ok [7, 8, 18446744073709551615] ∧
      remove (encode ['"', '\\', 'u', '0', '0', '3', '7', '"']) = .ok [7] := by
  have hspelling : ∀ {id : ResourceId} {s : String}, ResourceId.read s = .ok id → id.Spelling s.toList :=
    ResourceId.read_eq_ok_iff.mp
  have hseven : ResourceId.Spelling 7 "+007".toList := hspelling rfl
  have height : ResourceId.Spelling 8 "\u2003 8\t".toList := hspelling rfl
  have hplain : ResourceId.Spelling 7 "7".toList := hspelling rfl
  have hpair : Chunk [7, 8] (.string "+007,\u2003 8\t") :=
    .text (List.cons_ne_nil _ _) (.cons hseven (.cons height .nil)) rfl
  have halone : Chunk [7] (.string "7") :=
    .text (List.cons_ne_nil _ _) (.cons hplain .nil) rfl
  exact ⟨(remove_of_encodes (List.cons_ne_nil _ _) (.listed (.cons hpair (.cons (.number _) .nil)))).1,
    (remove_of_encodes (List.cons_ne_nil _ _) (.alone halone)).2 _ rfl⟩

end Body

end GatedStore
