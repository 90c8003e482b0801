import GatedStore.Proofs.JsonDepth
import GatedStore.Proofs.JsonExtension
import GatedStore.Proofs.PayloadText

/-! What can be created can be written by an edit, in the same bytes, if it leaves the edit one container to put around
it. -/

namespace GatedStore

open Text.Utf8 (encode)

namespace Json.Reader

variable {Parts α : Type} {shape : Shape Parts α} {depth fuel : Nat} {first : Bool} {d : Parts} {s t : List UInt8}

theorem fromMembers_field {name : String} {field : Field Parts}
    (hfield : shape.fields.find? (·.name == name) = some field) (hnew : field.present d = false)
    (hmore : anotherMember first s = .ok (true, encode (stringChars name) ++ ':'.toUInt8 :: t)) :
    fromMembers shape depth first (fuel + 1) d s =
      field.read depth d t >>= fun (d, s) => fromMembers shape depth false fuel d s := by
  simp only [fromMembers, hmore, string_stringChars, hfield, hnew, colon_colon, bind, Except.bind, if_true,
    Bool.false_eq_true, if_false]

theorem record_of_brace {b : UInt8} (hhead : head s = .ok (.map, b :: t)) : record shape (depth + 1) s =
    closing closeObject leaveObject (fromMembers shape depth true (t.length + 1) shape.start t) := by
  rw [record, hhead]
  rfl

end Json.Reader

namespace Body

open Json.Reader
open Results

def editAround (id : ResourceId) (payload : List UInt8) : List UInt8 :=
  encode ("\x7b\"id\":" ++ id.text ++ ",\"payload\":").toList ++ payload ++ encode ['\x7d']

theorem editAround_eq (id : ResourceId) (b : List UInt8) :
    editAround id b = '\x7b'.toUInt8 :: (encode (Json.stringChars "id") ++ ':'.toUInt8 ::
      (encode (Json.ofUInt64 id).chars ++ ','.toUInt8 ::
        (encode (Json.stringChars "payload") ++ ':'.toUInt8 :: (b ++ ['\x7d'.toUInt8])))) := by
  have hid : id.text.toList = (Json.ofUInt64 id).chars := ResourceId.toList_text id
  simp only [editAround, String.toList_append, Text.Utf8.encode_append, hid, List.append_assoc]
  rfl

theorem IdEntry.read_ofUInt64 (depth : Nat) (id : ResourceId) (s : List UInt8) :
    IdEntry.read depth (encode (Json.ofUInt64 id).chars ++ ','.toUInt8 :: s) =
      .ok (.number id, ','.toUInt8 :: s) := by
  have hstops : Stops (','.toUInt8 :: s) := by
    rintro _ ⟨⟩
    decide
  have hvalue : value depth (encode (Json.ofUInt64 id).chars ++ ','.toUInt8 :: s) =
      .ok (Json.ofUInt64 id, ','.toUInt8 :: s) :=
    value_chars (Json.ofUInt64 id) trivial (Nat.zero_le _) _ hstops
  refine bind_eq_ok_iff.mpr ⟨_, hvalue, ?_⟩
  simp only [IdEntry.ofJson?_ofUInt64]

theorem record_editAround (depth : Nat) (id : ResourceId) (b : List UInt8) :
    ∃ fuel, record Edit.shape (depth + 1) (editAround id b) =
      closing closeObject leaveObject (Json.Reader.payload depth (b ++ ['\x7d'.toUInt8]) >>= fun (p, s) =>
        fromMembers Edit.shape depth false (fuel + 1) ⟨some (.number id), some p⟩ s) := by
  have hid : Edit.shape.fields.find? (·.name == "id") = some
      (.slot "id" (·.id) (fun d id => { d with id := some id }) IdEntry.read) := rfl
  have hpayload : Edit.shape.fields.find? (·.name == "payload") = some
      (.slot "payload" (·.payload) (fun d p => { d with payload := some p }) Json.Reader.payload) := rfl
  have hbrace : ∀ s, head ('\x7b'.toUInt8 :: s) = .ok (.map, '\x7b'.toUInt8 :: s) := fun _ => rfl
  rw [editAround_eq, record_of_brace (hbrace _)]
  generalize hrest : encode (Json.stringChars "id") ++ ':'.toUInt8 :: _ = rest
  obtain ⟨fuel, hfuel⟩ : ∃ fuel, rest.length + 1 = fuel + 1 + 1 + 1 := by
    refine ⟨rest.length - 2, ?_⟩
    rw [← hrest, Json.encode_stringChars]
    simp only [List.length_cons, List.length_append]
    omega
  refine ⟨fuel, ?_⟩
  rw [hfuel, ← hrest, fromMembers_field hid rfl (anotherMember_first "id" _)]
  simp only [Field.slot, IdEntry.read_ofUInt64, bind, Except.bind]
  rw [fromMembers_field hpayload rfl (anotherMember_next "payload" _)]
  simp only [Field.slot, bind, Except.bind]
  cases Json.Reader.payload depth (b ++ ['\x7d'.toUInt8]) <;> rfl

variable {b : List UInt8} {p : Payload}

theorem all_isBlank_editAround (id : ResourceId) (b : List UInt8) : (editAround id b).all isBlank = false := by
  rw [editAround_eq]
  rfl

theorem edit_editAround {ms : List (String × Json)} (h : ofBytes b = .ok (.object ms))
    (hd : (Json.object ms).nesting < depthLimit) (id : ResourceId) :
    edit (editAround id b) = .ok (id, .ofMembers ms) := by
  obtain ⟨s, hvalue, hend⟩ := document_eq_ok_iff.mp h
  have hpayload : Json.Reader.payload 126 (b ++ ['\x7d'.toUInt8]) = .ok (.ofMembers ms, s ++ ['\x7d'.toUInt8]) :=
    payload_readsAs rfl (Nat.le_of_lt_succ hd) (object_append hvalue _)
  have hmore : anotherMember false (s ++ ['\x7d'.toUInt8]) = .ok (false, ['\x7d'.toUInt8]) :=
    anotherMember_eq_false_iff.mpr ⟨skipBlanks_append_of_nil hend _, _, rfl⟩
  obtain ⟨fuel, hrecord⟩ := record_editAround 126 id b
  have hdocument : document (record Edit.shape depthLimit) (editAround id b) = .ok ⟨.number id, .ofMembers ms⟩ := by
    refine document_eq_ok_iff.mpr ⟨[], ?_, rfl⟩
    simp only [depthLimit, hrecord, hpayload, fromMembers, hmore, bind, Except.bind]
    rfl
  exact bind_eq_ok_iff.mpr ⟨_, parse_eq_ok_iff.mpr ⟨all_isBlank_editAround id b, hdocument⟩, rfl⟩

theorem edit_editAround_tooDeep {ms : List (String × Json)} (h : ofBytes b = .ok (.object ms))
    (hd : depthLimit ≤ (Json.object ms).nesting) (id : ResourceId) : ∃ rest, edit (editAround id b) =
      .error (.unreadable "\x7b\"id\": n, \"payload\": \x7b...\x7d\x7d"
        (Json.Fault.text (editAround id b) (.placed .tooDeep rest))) := by
  obtain ⟨s, hvalue, -⟩ := document_eq_ok_iff.mp h
  have hpayload : TooDeep (Json.Reader.payload 126 (b ++ ['\x7d'.toUInt8])) :=
    payload_tooDeep (object_append hvalue _) hd
  obtain ⟨fuel, hrecord⟩ := record_editAround 126 id b
  have hdocument : TooDeep (document (record Edit.shape depthLimit) (editAround id b)) := by
    refine TooDeep.bind ?_ _
    rw [depthLimit, hrecord]
    exact (hpayload.bind _).closing _ _
  obtain ⟨rest, hdocument⟩ := hdocument
  refine ⟨rest, bind_eq_error_iff.mpr (Or.inl ?_)⟩
  rw [parse, all_isBlank_editAround, hdocument]
  rfl

theorem edit_of_creation {b : List UInt8} {p : Payload} (h : payload b = .ok p) :
    ∃ v, ofBytes b = .ok v ∧ Payload.ofJson? v = some p ∧ v.nesting ≤ depthLimit ∧
      (v.nesting < depthLimit → ∀ id, edit (editAround id b) = .ok (id, p)) ∧
      (v.nesting = depthLimit → ∀ id, ∃ rest, edit (editAround id b) =
        .error (.unreadable "\x7b\"id\": n, \"payload\": \x7b...\x7d\x7d"
          (Json.Fault.text (editAround id b) (.placed .tooDeep rest)))) := by
  obtain ⟨ms, hms, rfl⟩ := payload_eq_ok_iff.mp h
  obtain ⟨s, hvalue, -⟩ := document_eq_ok_iff.mp hms
  exact ⟨_, hms, rfl, nesting_le_of_value hvalue, edit_editAround hms,
    fun hd => edit_editAround_tooDeep hms (Nat.le_of_eq hd.symm)⟩

def nested (lists : Nat) : List UInt8 :=
  encode ("\x7b\"a\":".toList ++ List.replicate lists '[' ++ List.replicate lists ']' ++ ['\x7d'])

theorem edit_of_deepest : ∃ p, payload (nested 126) = .ok p ∧ edit (editAround 1 (nested 126)) ≠ .ok (1, p) := by
  have hcreate : (payload (nested 126)).toOption.isSome = true := by decide +kernel
  have hedit : (edit (editAround 1 (nested 126))).toOption.isSome = false := by decide +kernel
  obtain ⟨p, hp⟩ := toOption_isSome_iff.mp hcreate
  refine ⟨p, hp, fun hok => ?_⟩
  rw [hok] at hedit
  cases hedit

theorem edit_of_creation_nested :
    let spaced := encode " \x7b\"a\": -1, \"b\":\"\\u007d\", \"a\":[null]\x7d\n".toList
    (∃ p, payload spaced = .ok p ∧ edit (editAround 7 spaced) = .ok (7, p)) ∧
      ∃ rest, edit (editAround 7 (nested 126)) = .error (.unreadable "\x7b\"id\": n, \"payload\": \x7b...\x7d\x7d"
        (Json.Fault.text (editAround 7 (nested 126)) (.placed .tooDeep rest))) := by
  intro spaced
  constructor
  · have hcreate : (payload spaced).toOption.isSome = true := by decide +kernel
    have hnesting : (ofBytes spaced).toOption.map Json.nesting = some 2 := by decide +kernel
    obtain ⟨p, hp⟩ := toOption_isSome_iff.mp hcreate
    obtain ⟨v, hv, -, -, hedit, -⟩ := edit_of_creation hp
    rw [hv] at hnesting
    have hd : v.nesting = 2 := Option.some.inj hnesting
    exact ⟨p, hp, hedit (by rw [hd]; decide) 7⟩
  · have hcreate : (payload (nested 126)).toOption.isSome = true := by decide +kernel
    have hnesting : (ofBytes (nested 126)).toOption.map Json.nesting = some 127 := by decide +kernel
    obtain ⟨p, hp⟩ := toOption_isSome_iff.mp hcreate
    obtain ⟨v, hv, -, -, -, hedit⟩ := edit_of_creation hp
    rw [hv] at hnesting
    exact hedit (Option.some.inj hnesting) 7

end Body

end GatedStore
