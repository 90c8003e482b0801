import GatedStore.Access.Principal
import GatedStore.Json.Record
import GatedStore.Resource
import GatedStore.Settings.Basic

/-! The domain's values as JSON: records are written with their fields in order, and read from an
object or from the list of their fields. -/

namespace GatedStore.Wire

open Json (Reader)
open Json.Reader (Shape required)

def kind (depth : Nat) : Reader Kind :=
  Json.Reader.variant Kind.names depth

def kindJson (k : Kind) : Json :=
  .string k.segment

def id (_ : Nat) : Reader ResourceId :=
  Json.Reader.natural "u64"

def permission (_ : Nat) : Reader Permission := fun s => do
  let (text, s) ← Json.Reader.text s
  .ok (⟨text⟩, s)

def permissionJson (p : Permission) : Json :=
  .string p.text

def text (_ : Nat) : Reader String :=
  Json.Reader.text

structure PrincipalParts where
  id : Option String
  permissions : Option (List Permission)

def principalShape : Shape PrincipalParts Principal where
  name := "Principal"
  fields :=
    [.slot "id" (·.id) (fun d id => { d with id := some id }) text,
      .slot "permissions" (·.permissions) (fun d ps => { d with permissions := some ps })
        (Json.Reader.list permission)]
  start := ⟨none, none⟩
  finish d := do
    let id ← required "id" d.id
    let permissions ← required "permissions" d.permissions
    .ok ((Principal.new id).allowAll permissions)

def principal (depth : Nat) : Reader Principal :=
  Json.Reader.record principalShape depth

def principalJson (p : Principal) : Json :=
  .object [("id", .string p.id), ("permissions", .array (p.held.map permissionJson))]

structure ResourceParts where
  id : Option ResourceId
  kind : Option Kind
  payload : Option Payload

def resourceShape : Shape ResourceParts Resource where
  name := "Resource"
  fields :=
    [.slot "id" (·.id) (fun d n => { d with id := some n }) id,
      .slot "kind" (·.kind) (fun d k => { d with kind := some k }) kind,
      .slot "payload" (·.payload) (fun d p => { d with payload := some p }) Json.Reader.payload]
  start := ⟨none, none, none⟩
  finish d := do
    let id ← required "id" d.id
    let kind ← required "kind" d.kind
    let payload ← required "payload" d.payload
    .ok ⟨id, kind, payload⟩

def resource (depth : Nat) : Reader Resource :=
  Json.Reader.record resourceShape depth

structure SettingsParts where
  basePath : Option String
  channelCapacity : Option UInt64
  logFilter : Option String

def settingsShape : Shape SettingsParts Settings where
  name := "ServiceConfig"
  fields :=
    [.slot "base_path" (·.basePath) (fun d t => { d with basePath := some t }) text,
      .slot "channel_capacity" (·.channelCapacity) (fun d n => { d with channelCapacity := some n })
        (fun _ => Json.Reader.natural "usize"),
      .slot "log_filter" (·.logFilter) (fun d t => { d with logFilter := some t }) text]
  start := ⟨none, none, none⟩
  finish d :=
    .ok ⟨d.basePath.getD Settings.default.basePath,
      d.channelCapacity.getD Settings.default.channelCapacity, d.logFilter.getD Settings.default.logFilter⟩

def settings (depth : Nat) : Reader Settings :=
  Json.Reader.record settingsShape depth

def settingsJson (s : Settings) : Json :=
  .object [("base_path", .string s.basePath), ("channel_capacity", .ofUInt64 s.channelCapacity),
    ("log_filter", .string s.logFilter)]

def ofText {α : Type} (read : Nat → Reader α) (s : String) : Except String α :=
  let bytes := Text.Utf8.ofString s
  (Json.Reader.document (read Json.Reader.depthLimit) bytes).mapError (·.text bytes)

end GatedStore.Wire
