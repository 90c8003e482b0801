import GatedStore.Json.Basic
import GatedStore.Kind
import GatedStore.Store.Basic
import GatedStore.Text.Blank
import GatedStore.Text.Numeral

namespace GatedStore

abbrev ResourceId := UInt64

namespace ResourceId

def text (id : ResourceId) : String :=
  toString id.toNat

def read (s : String) : Except Text.NumeralError ResourceId :=
  (Text.Numeral.read (Text.trim s.toList)).map UInt64.ofNat

end ResourceId

structure Resource where
  id : ResourceId
  kind : Kind
  payload : Payload

structure ResourceDraft where
  kind : Kind
  payload : Payload

def Resource.toJson (r : Resource) : Json :=
  .object [("id", .ofUInt64 r.id), ("kind", .string r.kind.segment), ("payload", r.payload.toJson)]

structure Misplaced where
  expected : Kind
  found : Kind
  deriving DecidableEq, Repr

def Misplaced.message (m : Misplaced) : String :=
  m.found.segment ++ " resource sent to the " ++ m.expected.segment ++ " store"

/-- A store of resources takes those of its own kind. An edit replaces the payload and nothing else. Of a refusal
only its text is passed on. -/
def Resource.schema : Schema where
  Id := ResourceId
  Item := Resource
  Draft := ResourceDraft
  Change := Payload
  Context := Kind
  Refusal := String
  ofNumber n := n
  idText := ResourceId.text
  construct id draft := .ok ⟨id, draft.kind, draft.payload⟩
  onCreate kind r := (r, if r.kind = kind then .accepted else .refused (Misplaced.message ⟨kind, r.kind⟩))
  onUpdate _ payload r := ({ r with payload := payload }, .accepted)
  onRemove _ _ := .accepted

end GatedStore
