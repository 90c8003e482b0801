import GatedStore.Proofs.Privilege
import GatedStore.Proofs.PayloadText
import GatedStore.Proofs.RecordReading
import GatedStore.Wire

/-! Callers, resources and settings are read back from their JSON texts, and from every text of an object with
the same members, in whatever order they stand and whatever stands beside them. -/

namespace GatedStore

namespace Principal

@[simp] theorem id_allowAll (p : Principal) (ps : List Permission) : (p.allowAll ps).id = p.id := by
  induction ps generalizing p with
  | nil => rfl
  | cons q ps ih => exact ih (p.allow q)

theorem eq_of_held {p q : Principal} (hid : p.id = q.id) (hheld : ∀ r, r ∈ p.held ↔ r ∈ q.held) : p = q := by
  obtain ⟨id, permissions⟩ := p
  obtain ⟨id', permissions'⟩ := q
  obtain rfl : id = id' := hid
  refine congrArg (mk id) (Table.eq_of_get? fun r => Option.ext fun u => ?_)
  have hr : (∃ v, permissions.get? r = some v) ↔ ∃ v, permissions'.get? r = some v := by
    rw [← Table.mem_keys_iff, ← Table.mem_keys_iff]
    exact hheld r
  exact ⟨fun h => (hr.mp ⟨u, h⟩).choose_spec, fun h => (hr.mpr ⟨u, h⟩).choose_spec⟩

end Principal

namespace Wire

open Json (OnlyMember)
open Json.Reader
open Text.Utf8 (ofString encode)

/-- The text is one of an object in which each of the members stands once. What else stands in it is passed over. -/
def Shows (t : String) (known : List (String × Json)) : Prop :=
  ∃ depth ms s, ObjectText (known.map (·.1)) depth ms (ofString t) s ∧
    (∀ p ∈ known, OnlyMember p.1 (some p.2) ms) ∧ skipBlanks s = []

theorem shows_of_document {depth : Nat} {t : String} {ms known : List (String × Json)}
    (ht : document (value depth) (ofString t) = .ok (.object ms)) (h : ∀ p ∈ known, OnlyMember p.1 p.2 ms) :
    Shows t known := by
  obtain ⟨s, hvalue, hend⟩ := document_eq_ok_iff.mp ht
  cases depth with
  | zero => cases opened_of_value hvalue with | object hdepth _ _ => cases hdepth
  | succ depth =>
    exact ⟨depth, _, s, objectText_of_value hvalue,
      fun p hp => onlyMember_asPart (h p hp) (List.mem_map_of_mem hp), hend⟩

theorem shows_text {ms known : List (String × Json)} (hms : (Json.object ms).Integral)
    (h : ∀ p ∈ known, OnlyMember p.1 p.2 ms) : Shows (Json.object ms).text known := by
  have hbytes : ofString (Json.object ms).text = encode (Json.object ms).chars := by
    rw [ofString, Json.text, String.toList_ofList]
  have hdocument := document_of_takes (value_chars _ hms (Nat.le_refl _))
  rw [← hbytes] at hdocument
  exact shows_of_document hdocument h

theorem shows_self {known : List (String × Json)} (hknown : (Json.object known).Integral)
    (hnames : (known.map (·.1)).Nodup) : Shows (Json.object known).text known :=
  shows_text hknown fun _ => Json.onlyMember_of_nodup hnames

theorem ofText_of_fills {Parts α : Type} {shape : Shape Parts α} {known : List (String × Json)}
    {parts : List String → Parts} {a : α} (h : Fills shape 126 known parts a) {t : String} (ht : Shows t known) :
    ofText (record shape) t = .ok a := by
  obtain ⟨depth, ms, s, htext, hms, hend⟩ := ht
  exact Results.mapError_eq_ok_iff.mpr (document_eq_ok_iff.mpr ⟨s, h.record_eq_ok htext hms, hend⟩)

theorem permission_readsAs (p : Permission) (depth : Nat) : ReadsAs (permission depth) (permissionJson p) p :=
  fun _ _ _ h => Results.bind_eq_ok_iff.mpr ⟨_, text_readsAs p.text h, rfl⟩

theorem permissions_readsAs (ps : List Permission) (depth : Nat) :
    ReadsAs (list permission (depth + 1)) (.array (ps.map permissionJson)) ps := by
  apply list_readsAs
  rw [List.forall₂_map_left_iff, List.forall₂_same]
  exact fun p _ => permission_readsAs p depth

def principalMembers (id : String) (ps : List Permission) : List (String × Json) :=
  [("id", .string id), ("permissions", .array (ps.map permissionJson))]

def principalParts (id : String) (ps : List Permission) (seen : List String) : PrincipalParts :=
  ⟨if "id" ∈ seen then some id else none, if "permissions" ∈ seen then some ps else none⟩

theorem principal_fills {p : Principal} {ps : List Permission} (hps : ∀ q, q ∈ ps ↔ q ∈ p.held) (depth : Nat) :
    Fills principalShape (depth + 1) (principalMembers p.id ps) (principalParts p.id ps) p where
  names_eq := rfl
  start := rfl
  step := by
    intro seen name v hmem hnew
    simp only [principalMembers, List.mem_cons, Prod.mk.injEq, List.not_mem_nil, or_false] at hmem
    rcases hmem with ⟨rfl, rfl⟩ | ⟨rfl, rfl⟩
    · have hread := text_readsAs p.id
      exact ⟨_, rfl, slot_fills (by simp [principalParts, hnew]) (by simp [principalParts]) hread⟩
    · have hread := permissions_readsAs ps depth
      exact ⟨_, rfl, slot_fills (by simp [principalParts, hnew]) (by simp [principalParts]) hread⟩
  finish := by
    intro seen hall
    have hid := hall "id" (by simp [principalMembers])
    have hpermissions := hall "permissions" (by simp [principalMembers])
    simp only [principalShape, principalParts, if_pos hid, if_pos hpermissions]
    refine congrArg Except.ok (Principal.eq_of_held ?_ fun q => ?_)
    · simp [Principal.new]
    · simp [hps]

def resourceMembers (r : Resource) (payload : Json) : List (String × Json) :=
  [("id", .ofUInt64 r.id), ("kind", kindJson r.kind), ("payload", payload)]

def resourceParts (r : Resource) (seen : List String) : ResourceParts :=
  ⟨if "id" ∈ seen then some r.id else none, if "kind" ∈ seen then some r.kind else none,
    if "payload" ∈ seen then some r.payload else none⟩

theorem resource_fills {r : Resource} {v : Json} (hv : Payload.ofJson? v = some r.payload) {depth : Nat}
    (hd : v.nesting ≤ depth) : Fills resourceShape depth (resourceMembers r v) (resourceParts r) r where
  names_eq := rfl
  start := rfl
  step := by
    intro seen name w hmem hnew
    simp only [resourceMembers, List.mem_cons, Prod.mk.injEq, List.not_mem_nil, or_false] at hmem
    rcases hmem with ⟨rfl, rfl⟩ | ⟨rfl, rfl⟩ | ⟨rfl, rfl⟩
    · have hread := natural_readsAs "u64" r.id
      exact ⟨_, rfl, slot_fills (by simp [resourceParts, hnew]) (by simp [resourceParts]) hread⟩
    · have hread := variant_readsAs (Kind.ofSegment?_segment r.kind) depth
      exact ⟨_, rfl, slot_fills (by simp [resourceParts, hnew]) (by simp [resourceParts]) hread⟩
    · have hread := payload_readsAs hv hd
      exact ⟨_, rfl, slot_fills (by simp [resourceParts, hnew]) (by simp [resourceParts]) hread⟩
  finish := by
    intro seen hall
    have hid := hall "id" (by simp [resourceMembers])
    have hkind := hall "kind" (by simp [resourceMembers])
    have hpayload := hall "payload" (by simp [resourceMembers])
    simp only [resourceShape, resourceParts, if_pos hid, if_pos hkind, if_pos hpayload]
    rfl

def settingsMembers (s : Settings) : List (String × Json) :=
  [("base_path", .string s.basePath), ("channel_capacity", .ofUInt64 s.channelCapacity),
    ("log_filter", .string s.logFilter)]

def settingsParts (s : Settings) (seen : List String) : SettingsParts :=
  ⟨if "base_path" ∈ seen then some s.basePath else none,
    if "channel_capacity" ∈ seen then some s.channelCapacity else none,
    if "log_filter" ∈ seen then some s.logFilter else none⟩

theorem settings_fills (s : Settings) (depth : Nat) :
    Fills settingsShape depth (settingsMembers s) (settingsParts s) s where
  names_eq := rfl
  start := rfl
  step := by
    intro seen name w hmem hnew
    simp only [settingsMembers, List.mem_cons, Prod.mk.injEq, List.not_mem_nil, or_false] at hmem
    rcases hmem with ⟨rfl, rfl⟩ | ⟨rfl, rfl⟩ | ⟨rfl, rfl⟩
    · have hread := text_readsAs s.basePath
      exact ⟨_, rfl, slot_fills (by simp [settingsParts, hnew]) (by simp [settingsParts]) hread⟩
    · have hread := natural_readsAs "usize" s.channelCapacity
      exact ⟨_, rfl, slot_fills (by simp [settingsParts, hnew]) (by simp [settingsParts]) hread⟩
    · have hread := text_readsAs s.logFilter
      exact ⟨_, rfl, slot_fills (by simp [settingsParts, hnew]) (by simp [settingsParts]) hread⟩
  finish := by
    intro seen hall
    have hbase := hall "base_path" (by simp [settingsMembers])
    have hcapacity := hall "channel_capacity" (by simp [settingsMembers])
    have hfilter := hall "log_filter" (by simp [settingsMembers])
    simp only [settingsShape, settingsParts, if_pos hbase, if_pos hcapacity, if_pos hfilter]
    rfl

theorem wire_roundtrip :
    (∀ p : Principal, ofText principal (principalJson p).text = .ok p ∧
      ∀ (ps : List Permission) (t : String), (∀ q, q ∈ ps ↔ q ∈ p.held) → Shows t (principalMembers p.id ps) →
        ofText principal t = .ok p ∧
          (ofText principal t).map (fun p => (principalJson p).text) = .ok (principalJson p).text) ∧
    (∀ r : Resource, (r.payload.toJson.Integral → r.payload.toJson.nesting ≤ 126 →
        ofText resource r.toJson.text = .ok r) ∧
      ∀ (v : Json) (t : String), Payload.ofJson? v = some r.payload → v.nesting ≤ 126 →
        Shows t (resourceMembers r v) → ofText resource t = .ok r) ∧
    ∀ s : Settings, ofText settings (settingsJson s).text = .ok s ∧
      ∀ t : String, Shows t (settingsMembers s) → ofText settings t = .ok s := by
  have hprincipal : ∀ (p : Principal) (ps : List Permission) t, (∀ q, q ∈ ps ↔ q ∈ p.held) →
      Shows t (principalMembers p.id ps) → ofText principal t = .ok p :=
    fun p ps t hps ht => ofText_of_fills (principal_fills hps 125) ht
  have hresource : ∀ (r : Resource) v t, Payload.ofJson? v = some r.payload → v.nesting ≤ 126 →
      Shows t (resourceMembers r v) → ofText resource t = .ok r :=
    fun r v t hv hd ht => ofText_of_fills (resource_fills hv hd) ht
  have hsettings : ∀ (s : Settings) t, Shows t (settingsMembers s) → ofText settings t = .ok s :=
    fun s t ht => ofText_of_fills (settings_fills s 126) ht
  refine ⟨fun p => ⟨?_, fun ps t hps ht => ?_⟩, fun r => ⟨fun hr hd => ?_, hresource r⟩, fun s => ⟨?_, hsettings s⟩⟩
  · have hintegral : (principalJson p).Integral := by
      refine ⟨trivial, (allIntegral_iff _).mpr fun v hv => ?_, trivial⟩
      obtain ⟨q, -, rfl⟩ := List.mem_map.mp hv
      trivial
    exact hprincipal p p.held _ (fun _ => Iff.rfl) (shows_self hintegral (by simp))
  · have hread := hprincipal p ps t hps ht
    exact ⟨hread, by rw [hread]; rfl⟩
  · have hintegral : r.toJson.Integral := ⟨trivial, trivial, hr, trivial⟩
    exact hresource r _ _ r.payload.ofJson?_toJson hd (shows_self hintegral (by simp))
  · have hintegral : (settingsJson s).Integral := ⟨trivial, trivial, trivial, trivial⟩
    exact hsettings s _ (shows_self hintegral (by simp))

theorem records_beside_skipped_number :
    let payload : Json := .object [("b", .array []), ("a", .null)]
    let members : List (String × Json) := [("note", .array []), ("note", .null), ("payload", payload),
      ("kind", .string "orders"), ("id", .ofUInt64 7)]
    let permissions : List Json := [.string "orders:list", .string "bom:*", .string "orders:list"]
    let text := "\x7b\"log_filter\":\"\",\"x\":1e999,\"channel_capacity\":8,\"base_path\":\"\"\x7d"
    ofText resource (Json.object members).text =
        .ok ⟨7, .orders, .ofMembers [("a", .null), ("b", .array [])]⟩ ∧
      ofText principal (Json.object [("permissions", .array permissions), ("id", .string "ann")]).text =
        .ok ((Principal.new "ann").allowAll [⟨"bom:*"⟩, ⟨"orders:list"⟩]) ∧
      ofText settings text = .ok ⟨"", 8, ""⟩ := by
  intro payload members permissions text
  let r : Resource := ⟨7, .orders, .ofMembers [("a", .null), ("b", .array [])]⟩
  let p : Principal := (Principal.new "ann").allowAll [⟨"bom:*"⟩, ⟨"orders:list"⟩]
  let ps : List Permission := [⟨"orders:list"⟩, ⟨"bom:*"⟩, ⟨"orders:list"⟩]
  let s : Settings := ⟨"", 8, ""⟩
  refine ⟨?_, ?_, ?_⟩
  · have hintegral : (Json.object members).Integral := by
      simp [members, payload, Json.Integral, Json.MembersIntegral, Json.AllIntegral, Json.ofUInt64]
    have honly : ∀ p ∈ resourceMembers r payload, OnlyMember p.1 p.2 members := by
      simp [resourceMembers, members, Json.onlyMember_iff, kindJson, Kind.segment, r]
    exact (wire_roundtrip.2.1 r).2 payload _ rfl (by decide) (shows_text hintegral honly)
  · have hheld : ∀ q, q ∈ ps ↔ q ∈ p.held := fun q => by
      simp only [p, ps, Principal.mem_held_new, List.mem_cons, List.not_mem_nil, or_false]
      tauto
    have hintegral : (Json.object [("permissions", .array permissions), ("id", .string "ann")]).Integral := by
      simp [permissions, Json.Integral, Json.MembersIntegral, Json.AllIntegral]
    have honly : ∀ q ∈ principalMembers p.id ps, OnlyMember q.1 q.2
        [("permissions", .array permissions), ("id", .string "ann")] := by
      simp [principalMembers, Json.onlyMember_iff, permissions, ps, permissionJson, p, Principal.new]
    exact ((wire_roundtrip.1 p).2 ps _ hheld (shows_text hintegral honly)).1
  · have hbytes : ofString text = [
        123, 34, 108, 111, 103, 95, 102, 105, 108, 116, 101, 114, 34, 58, 34, 34, 44, 34, 120, 34, 58, 49,
        101, 57, 57, 57, 44, 34, 99, 104, 97, 110, 110, 101, 108, 95, 99, 97, 112, 97, 99, 105, 116, 121,
        34, 58, 56, 44, 34, 98, 97, 115, 101, 95, 112, 97, 116, 104, 34, 58, 34, 34, 125] := by decide +kernel
    have hcapacity : ∀ s, value 0 (56 :: ','.toUInt8 :: s) = .ok (.ofUInt64 8, ','.toUInt8 :: s) := fun s => by
      refine value_chars (.ofUInt64 8) trivial (Nat.zero_le _) _ ?_
      rintro _ ⟨⟩
      decide
    let ms : List (String × Option Json) := [("log_filter", some (.string "")), ("x", none),
      ("channel_capacity", some (.ofUInt64 8)), ("base_path", some (.string ""))]
    have htext : ObjectText ["base_path", "channel_capacity", "log_filter"] 0 ms (ofString text) [] := by
      rw [hbytes]
      refine ⟨_, rfl, .cons (.first rfl) rfl rfl (.value (by decide) rfl) ?_⟩
      refine .cons (.next rfl rfl) rfl rfl (.skipped (by decide) rfl) ?_
      refine .cons (.next rfl rfl) rfl rfl (.value (by decide) (hcapacity _)) ?_
      exact .cons (.next rfl rfl) rfl rfl (.value (by decide) rfl) (.nil rfl)
    have honly : ∀ p ∈ settingsMembers s, OnlyMember p.1 (some p.2) ms := by
      simp [settingsMembers, ms, Json.onlyMember_iff, s]
    exact (wire_roundtrip.2.2 s).2 _ ⟨0, ms, [], htext, honly, rfl⟩

end Wire

end GatedStore
