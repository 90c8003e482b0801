import GatedStore.Proofs.JsonMeaning
import GatedStore.Proofs.PayloadText
import GatedStore.Proofs.RecordParts
import GatedStore.Service.Desk

namespace GatedStore.Body

open Json (OnlyMember Slot slot_cons_of_ne slot_cons_self_iff slot_nil_iff slot_none_iff)
open Json.Reader
open Results
open Text.Utf8 (encode)

theorem IdEntry.read_readsBy (depth : Nat) : ReadsBy depth (IdEntry.read depth) IdEntry.ofJson? := by
  intro s e s'
  constructor
  · intro h
    obtain ⟨⟨v, s₁⟩, hv, h⟩ := bind_eq_ok_iff.mp h
    simp only at h
    split at h
    · rename_i htake
      cases h
      exact ⟨v, hv, htake⟩
    · cases h
  · rintro ⟨v, hv, htake⟩
    refine bind_eq_ok_iff.mpr ⟨_, hv, ?_⟩
    simp only [htake]

namespace Edit

def take (name : String) (d : EditParts) (v : Json) : Option EditParts :=
  if name = "id" then (IdEntry.ofJson? v).map fun id => { d with id := some id }
  else (Payload.ofJson? v).map fun p => { d with payload := some p }

theorem readsBy (depth : Nat) : Edit.shape.ReadsBy depth take := by
  intro field hfield d
  simp only [Edit.shape, List.mem_cons, List.not_mem_nil, or_false] at hfield
  rcases hfield with rfl | rfl
  · exact Json.Reader.slot_readsBy (IdEntry.read_readsBy depth) d
  · exact Json.Reader.slot_readsBy (Json.Reader.payload_readsBy depth) d

theorem gathers_iff {ms : List (String × Option Json)} {d d' : EditParts}
    (hknown : ∀ p ∈ ms, p.2.isSome = true ↔ p.1 ∈ ["id", "payload"]) : Gathers Edit.shape take d ms d' ↔
      Slot "id" IdEntry.ofJson? d.id ms d'.id ∧ Slot "payload" Payload.ofJson? d.payload ms d'.payload := by
  induction ms generalizing d with
  | nil =>
    obtain ⟨id, p⟩ := d
    obtain ⟨id', p'⟩ := d'
    simp
  | cons m ms ih =>
    obtain ⟨hfirst, hrest⟩ := List.forall_mem_cons.mp hknown
    obtain ⟨name, part⟩ := m
    by_cases hid : name = "id"
    · subst hid
      obtain ⟨v, rfl⟩ := Option.isSome_iff_exists.mp (hfirst.mpr (by simp))
      rw [gathers_slot_iff rfl rfl, slot_cons_self_iff, slot_cons_of_ne (by decide)]
      simp only [ih hrest]
      constructor
      · rintro ⟨hnone, id, hid, hslot, hother⟩
        exact ⟨⟨hnone, id, hid, hslot⟩, hother⟩
      · rintro ⟨⟨hnone, id, hid, hslot⟩, hother⟩
        exact ⟨hnone, id, hid, hslot, hother⟩
    by_cases hpayload : name = "payload"
    · subst hpayload
      obtain ⟨v, rfl⟩ := Option.isSome_iff_exists.mp (hfirst.mpr (by simp))
      rw [gathers_slot_iff rfl rfl, slot_cons_self_iff, slot_cons_of_ne (by decide)]
      simp only [ih hrest]
      constructor
      · rintro ⟨hnone, p, hp, hother, hslot⟩
        exact ⟨hother, hnone, p, hp, hslot⟩
      · rintro ⟨hother, hnone, p, hp, hslot⟩
        exact ⟨hnone, p, hp, hother, hslot⟩
    · have hunknown : ¬ part.isSome = true := fun h => by simpa [hid, hpayload] using hfirst.mp h
      obtain rfl := Option.not_isSome_iff_eq_none.mp hunknown
      rw [gathers_skipped_iff, slot_cons_of_ne hid, slot_cons_of_ne hpayload, ih hrest]

theorem finish_eq_ok_iff {d : EditParts} {e : Edit} :
    Edit.shape.finish d = .ok e ↔ d.id = some e.id ∧ d.payload = some e.payload := by
  obtain ⟨id, p⟩ := d
  cases id with
  | none => exact iff_of_false nofun nofun
  | some id =>
    cases p with
    | none => exact iff_of_false nofun nofun
    | some p =>
      constructor
      · intro h
        cases h
        exact ⟨rfl, rfl⟩
      · rintro ⟨hid, hp⟩
        cases hid
        cases hp
        rfl

theorem gathers_finish_iff {ms : List (String × Option Json)} {e : Edit}
    (hknown : ∀ p ∈ ms, p.2.isSome = true ↔ p.1 ∈ ["id", "payload"]) :
    (∃ d, Gathers Edit.shape take Edit.shape.start ms d ∧ Edit.shape.finish d = .ok e) ↔
      ∃ id payload, OnlyMember "id" (some id) ms ∧ OnlyMember "payload" (some payload) ms ∧
        IdEntry.ofJson? id = some e.id ∧ Payload.ofJson? payload = some e.payload := by
  simp only [gathers_iff hknown, finish_eq_ok_iff]
  constructor
  · rintro ⟨d, ⟨hid, hpayload⟩, heq, heq'⟩
    rw [heq] at hid
    rw [heq'] at hpayload
    obtain ⟨id, hid, hread⟩ := slot_none_iff.mp hid
    obtain ⟨payload, hpayload, hread'⟩ := slot_none_iff.mp hpayload
    exact ⟨id, payload, hid, hpayload, hread, hread'⟩
  · rintro ⟨id, payload, hid, hpayload, hread, hread'⟩
    exact ⟨⟨some e.id, some e.payload⟩,
      ⟨slot_none_iff.mpr ⟨id, hid, hread⟩, slot_none_iff.mpr ⟨payload, hpayload, hread'⟩⟩, rfl, rfl⟩

theorem gathersItems_finish_iff {vs : List Json} {e : Edit} :
    (∃ d, GathersItems take Edit.shape.fields Edit.shape.start vs d ∧ Edit.shape.finish d = .ok e) ↔
      ∃ id payload, vs = [id, payload] ∧
        IdEntry.ofJson? id = some e.id ∧ Payload.ofJson? payload = some e.payload := by
  simp only [finish_eq_ok_iff]
  constructor
  · rintro ⟨d, hgathers, hid, hpayload⟩
    cases hgathers with
    | nil => cases hid
    | cons htake hrest =>
      obtain ⟨id, hread, rfl⟩ := Option.map_eq_some_iff.mp htake
      cases hrest with
      | nil => cases hpayload
      | cons htake hrest =>
        obtain ⟨p, hread', rfl⟩ := Option.map_eq_some_iff.mp htake
        cases hrest
        cases hid
        cases hpayload
        exact ⟨_, _, rfl, hread, hread'⟩
  · rintro ⟨id, payload, rfl, hread, hread'⟩
    exact ⟨_, .cons (Option.map_eq_some_iff.mpr ⟨_, hread, rfl⟩)
      (.cons (Option.map_eq_some_iff.mpr ⟨_, hread', rfl⟩) .nil), rfl, rfl⟩

end Edit

/-- The text of an edit of one id with one payload: an object with both of them and any other members, or the list of
the two. Nothing but blanks is behind it. -/
inductive EditText (body : List UInt8) (id payload : Json) : Prop
  | object {ms : List (String × Option Json)} {s : List UInt8}
      (htext : ObjectText ["id", "payload"] (depthLimit - 1) ms body s) (hid : OnlyMember "id" (some id) ms)
      (hpayload : OnlyMember "payload" (some payload) ms) (hend : skipBlanks s = []) : EditText body id payload
  | list {s : List UInt8} (htext : ListText (depthLimit - 1) [id, payload] body s) (hend : skipBlanks s = []) :
      EditText body id payload

inductive Names : Json → ResourceId → Prop
  | number (n : ResourceId) : Names (.ofUInt64 n) n
  | text {t : String} {n : ResourceId} (h : ResourceId.read t = .ok n) : Names (.string t) n

variable {body body' : List UInt8} {id id' payload payload' : Json} {n : ResourceId} {p : Payload}

theorem names_iff : Names id n ↔ ∃ e, IdEntry.ofJson? id = some e ∧ e.ids = .ok [n] := by
  constructor
  · intro h
    cases h with
    | number n => exact ⟨_, IdEntry.ofJson?_ofUInt64 n, rfl⟩
    | text h => exact ⟨_, rfl, IdEntry.ids_text_eq_singleton_iff.mpr h⟩
  · rintro ⟨e, he, hids⟩
    rcases IdEntry.ofJson?_eq_some_iff.mp he with ⟨m, rfl, rfl⟩ | ⟨t, rfl, rfl⟩
    · cases hids
      exact .number n
    · exact .text (IdEntry.ids_text_eq_singleton_iff.mp hids)

theorem EditText.unique (h : EditText body id payload) (h' : EditText body id' payload') :
    id = id' ∧ payload = payload' := by
  cases h with
  | object htext hid hpayload _ =>
    cases h' with
    | object htext' hid' hpayload' _ =>
      obtain ⟨rfl, -⟩ := htext.unique htext'
      exact ⟨Option.some.inj (hid.unique hid'), Option.some.inj (hpayload.unique hpayload')⟩
    | list htext' _ => exact absurd htext' htext.not_listText
  | list htext _ =>
    cases h' with
    | object htext' _ _ _ => exact absurd htext htext'.not_listText
    | list htext' _ =>
      obtain ⟨heq, -⟩ := htext.unique htext'
      cases heq
      exact ⟨rfl, rfl⟩

theorem EditText.not_blank (h : EditText body id payload) : body.all isBlank = false := by
  cases h with
  | object htext _ _ _ =>
    obtain ⟨rest, hs, -⟩ := htext
    exact not_blank_of_skipBlanks hs rfl
  | list htext _ =>
    obtain ⟨rest, hs, -⟩ := htext
    exact not_blank_of_skipBlanks hs rfl

theorem document_edit_iff {e : Edit} : document (record Edit.shape depthLimit) body = .ok e ↔
    ∃ id payload, EditText body id payload ∧
      IdEntry.ofJson? id = some e.id ∧ Payload.ofJson? payload = some e.payload := by
  have hrecord : ∀ s, record Edit.shape depthLimit body = .ok (e, s) ↔ _ := fun s =>
    record_eq_ok_iff (Edit.readsBy (depthLimit - 1))
  simp only [document_eq_ok_iff, hrecord]
  constructor
  · rintro ⟨s, ⟨ms, d, htext, hd⟩ | ⟨vs, d, htext, hd⟩, hend⟩
    · have hknown := htext.choose_spec.2.isSome_iff
      obtain ⟨id, payload, hid, hpayload, htake⟩ := (Edit.gathers_finish_iff hknown).mp ⟨d, hd⟩
      exact ⟨id, payload, .object htext hid hpayload hend, htake⟩
    · obtain ⟨id, payload, rfl, htake⟩ := Edit.gathersItems_finish_iff.mp ⟨d, hd⟩
      exact ⟨id, payload, .list htext hend, htake⟩
  · rintro ⟨id, payload, h, htake⟩
    cases h with
    | @object ms s htext hid hpayload hend =>
      have hknown := htext.choose_spec.2.isSome_iff
      obtain ⟨d, hd⟩ := (Edit.gathers_finish_iff hknown).mpr ⟨id, payload, hid, hpayload, htake⟩
      exact ⟨s, Or.inl ⟨ms, d, htext, hd⟩, hend⟩
    | @list s htext hend =>
      obtain ⟨d, hd⟩ := Edit.gathersItems_finish_iff.mpr ⟨id, payload, rfl, htake⟩
      exact ⟨s, Or.inr ⟨_, d, htext, hd⟩, hend⟩

theorem edit_eq_ok_iff_of_entry : edit body = .ok (n, p) ↔ ∃ e : Edit, body.all isBlank = false ∧
    document (record Edit.shape depthLimit) body = .ok e ∧ e.id.ids = .ok [n] ∧ e.payload = p := by
  simp only [edit, bind_eq_ok_iff, parse_eq_ok_iff]
  constructor
  · rintro ⟨e, ⟨hblank, he⟩, ids, hids, h⟩
    split at h
    · cases h
      exact ⟨e, hblank, he, hids, rfl⟩
    · cases h
  · rintro ⟨e, hblank, he, hids, rfl⟩
    exact ⟨e, ⟨hblank, he⟩, [n], hids, rfl⟩

theorem edit_eq_ok_iff : edit body = .ok (n, p) ↔
    ∃ id payload, EditText body id payload ∧ Names id n ∧ payload.Denotes (.object p.members.pairs) := by
  simp only [← Payload.ofJson?_eq_some_iff]
  rw [edit_eq_ok_iff_of_entry]
  constructor
  · rintro ⟨e, -, he, hids, rfl⟩
    obtain ⟨id, payload, htext, hid, hpayload⟩ := document_edit_iff.mp he
    exact ⟨id, payload, htext, names_iff.mpr ⟨e.id, hid, hids⟩, hpayload⟩
  · rintro ⟨id, payload, htext, hid, hpayload⟩
    obtain ⟨e, he, hids⟩ := names_iff.mp hid
    exact ⟨⟨e, p⟩, htext.not_blank, document_edit_iff.mpr ⟨id, payload, htext, he, hpayload⟩, hids, rfl⟩

theorem EditText.edit_eq_ok_iff (h : EditText body id payload) :
    edit body = .ok (n, p) ↔ Names id n ∧ payload.Denotes (.object p.members.pairs) := by
  rw [Body.edit_eq_ok_iff]
  constructor
  · rintro ⟨id', payload', h', hid, hpayload⟩
    obtain ⟨rfl, rfl⟩ := h.unique h'
    exact ⟨hid, hpayload⟩
  · exact fun hnames => ⟨id, payload, h, hnames⟩

theorem editText_of_ofBytes {v : Json} (h : ofBytes body = .ok v)
    (hv : (∃ ms, v = .object ms ∧ OnlyMember "id" id ms ∧ OnlyMember "payload" payload ms) ∨
      v = .array [id, payload]) : EditText body id payload := by
  obtain ⟨s, hvalue, hend⟩ := document_eq_ok_iff.mp h
  rcases hv with ⟨ms, rfl, hid, hpayload⟩ | rfl
  · have hid' := onlyMember_asPart hid (show "id" ∈ ["id", "payload"] by simp)
    have hpayload' := onlyMember_asPart hpayload (show "payload" ∈ ["id", "payload"] by simp)
    exact .object (objectText_of_value hvalue) hid' hpayload' hend
  · exact .list (listText_of_value hvalue) hend

def editJson (id : ResourceId) (p : Payload) : Json :=
  .object [("id", .ofUInt64 id), ("payload", p.toJson)]

theorem edit_text (id : ResourceId) {p : Payload} (hp : p.toJson.Integral) (hd : p.toJson.nesting < depthLimit) :
    edit (encode (editJson id p).chars) = .ok (id, p) := by
  have hdepth : (editJson id p).nesting ≤ depthLimit := by
    have hpayload : max p.toJson.nesting 0 + 1 ≤ depthLimit := Nat.succ_le_of_lt (Nat.max_lt.mpr ⟨hd, by decide⟩)
    simpa [editJson, Json.ofUInt64, Json.nesting, Json.membersNesting] using hpayload
  have hbytes : ofBytes (encode (editJson id p).chars) = .ok (editJson id p) :=
    ofBytes_chars ⟨trivial, hp, trivial⟩ hdepth
  have htext := editText_of_ofBytes hbytes
    (Or.inl ⟨_, rfl, Json.onlyMember_iff.mpr rfl, Json.onlyMember_iff.mpr rfl⟩)
  exact htext.edit_eq_ok_iff.mpr ⟨.number id, Payload.ofJson?_eq_some_iff.mp p.ofJson?_toJson⟩

theorem edit_grammar :
    (∀ body n p, edit body = .ok (n, p) ↔
      ∃ id payload, EditText body id payload ∧ Names id n ∧ payload.Denotes (.object p.members.pairs)) ∧
    (∀ body v id payload, ofBytes body = .ok v →
      (∃ ms, v = .object ms ∧ OnlyMember "id" id ms ∧ OnlyMember "payload" payload ms) ∨ v = .array [id, payload] →
        EditText body id payload) ∧
    (∀ body body' id payload, EditText body id payload → EditText body' id payload →
      ∀ r, edit body = .ok r ↔ edit body' = .ok r) ∧
    (∀ body t payload, EditText body (.string t) payload → ',' ∈ t.toList → ∀ r, edit body ≠ .ok r) ∧
    ∀ body f, Desk.ofBody (edit body) = .error f → ∃ reason, f = .invalidPayload reason := by
  refine ⟨fun body n p => edit_eq_ok_iff, fun body v id payload => editText_of_ofBytes,
    fun body body' id payload h h' r => ?_, fun body t payload h hcomma r hr => ?_, fun body f hf => ?_⟩
  · obtain ⟨n, p⟩ := r
    rw [h.edit_eq_ok_iff, h'.edit_eq_ok_iff]
  · obtain ⟨n, p⟩ := r
    obtain ⟨e, he, hids⟩ := names_iff.mp (h.edit_eq_ok_iff.mp hr).1
    obtain rfl := Option.some.inj he
    exact (ResourceId.read_eq_ok_iff.mp (IdEntry.ids_text_eq_singleton_iff.mp hids)).no_comma hcomma
  · obtain ⟨p, -, rfl⟩ := mapError_eq_error_iff.mp hf
    exact ⟨_, rfl⟩

theorem edit_spellings_of_seven :
    let payload : Json := .object [("b", .null), ("a", .array []), ("b", .object [("c", .bool true)])]
    let members := Json.object [("note", .null), ("payload", payload), ("id", .string " +07")]
    ∃ p : Payload, p.members.pairs = [("a", .array []), ("b", .object [("c", .bool true)])] ∧
      edit (encode members.chars) = .ok (7, p) ∧
      edit (encode (Json.array [.string " +07", payload]).chars) = .ok (7, p) ∧
      edit (encode (Json.object [("id", .string "7,8"), ("payload", payload)]).chars) ≠ .ok (7, p) ∧
      ∃ reason, Failure.invalidPayload "empty body" = .invalidPayload reason := by
  intro payload members
  obtain ⟨hedit, htext, hsame, hcomma, hinvalid⟩ := edit_grammar
  let p := Payload.ofMembers [("b", .null), ("a", .array []), ("b", .object [("c", .bool true)])]
  have hpayload : payload.Denotes (.object p.members.pairs) := Payload.ofJson?_eq_some_iff.mp rfl
  have hbytes : ∀ v : Json, v.Integral → v.nesting ≤ depthLimit → ofBytes (encode v.chars) = .ok v :=
    fun _ => ofBytes_chars
  have hintegral : payload.Integral := ⟨trivial, trivial, ⟨trivial, trivial⟩, trivial⟩
  have hmembers : EditText (encode members.chars) (.string " +07") payload :=
    htext _ _ _ _ (hbytes _ ⟨trivial, hintegral, trivial, trivial⟩ (by decide))
      (Or.inl ⟨_, rfl, Json.onlyMember_iff.mpr rfl, Json.onlyMember_iff.mpr rfl⟩)
  have hitems : EditText (encode (Json.array [.string " +07", payload]).chars) (.string " +07") payload :=
    htext _ _ _ _ (hbytes _ ⟨trivial, hintegral, trivial⟩ (by decide)) (Or.inr rfl)
  have hboth : EditText (encode (Json.object [("id", .string "7,8"), ("payload", payload)]).chars)
      (.string "7,8") payload :=
    htext _ _ _ _ (hbytes _ ⟨trivial, hintegral, trivial⟩ (by decide))
      (Or.inl ⟨_, rfl, Json.onlyMember_iff.mpr rfl, Json.onlyMember_iff.mpr rfl⟩)
  have hseven := (hedit _ _ _).mpr ⟨_, _, hmembers, .text rfl, hpayload⟩
  exact ⟨p, rfl, hseven, (hsame _ _ _ _ hmembers hitems _).mp hseven, hcomma _ _ _ hboth (by decide) _,
    hinvalid [] _ rfl⟩

end GatedStore.Body
