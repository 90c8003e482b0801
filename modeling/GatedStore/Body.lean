import GatedStore.Json.Record
import GatedStore.Resource

/-! Request bodies: a payload to create, an id and a payload to edit, ids to remove. -/

namespace GatedStore.Body

open Json (Fault Reader)

inductive Problem
  | empty
  | unreadable (expected : String) (detail : String)
  | notAnObject
  | notOneId
  | noIds
  | notAnId (part : String)
  deriving DecidableEq, Repr

def Problem.message : Problem → String
  | .empty => "empty body"
  | .unreadable expected detail => "expected " ++ expected ++ ": " ++ detail
  | .notAnObject => "expected a JSON object"
  | .notOneId => "edit takes exactly one id"
  | .noIds => "no ids to remove"
  | .notAnId part => "'" ++ part ++ "' is not an id"

def isBlank (b : UInt8) : Bool :=
  b == 0x20 || b == 0x09 || b == 0x0A || b == 0x0C || b == 0x0D

def parse {α : Type} (read : Reader α) (expected : String) (body : List UInt8) : Except Problem α :=
  if body.all isBlank then .error .empty
  else (Json.Reader.document read body).mapError fun fault => .unreadable expected (fault.text body)

inductive IdEntry
  | number (id : ResourceId)
  | text (s : String)

namespace IdEntry

def ofJson? : Json → Option IdEntry
  | .string s => some (.text s)
  | v => v.natural?.map .number

def readPart (part : List Char) : Except Problem ResourceId :=
  (ResourceId.read (String.ofList part)).mapError fun _ => .notAnId (String.ofList (Text.trim part))

def readParts : List (List Char) → Except Problem (List ResourceId)
  | [] => .ok []
  | part :: parts => do
    let id ← readPart part
    let ids ← readParts parts
    .ok (id :: ids)

def ids : IdEntry → Except Problem (List ResourceId)
  | .number id => .ok [id]
  | .text s => readParts (s.toList.splitOn ',')

def read (depth : Nat) : Reader IdEntry := fun s => do
  let (v, s) ← Json.Reader.value depth s
  match ofJson? v with
  | some id => .ok (id, s)
  | none => .error (.pending (.noVariant "IdValue") s)

end IdEntry

def payload (body : List UInt8) : Except Problem Payload := do
  let v ← parse (Json.Reader.value Json.Reader.depthLimit) "a JSON object" body
  match Payload.ofJson? v with
  | some p => .ok p
  | none => .error .notAnObject

structure EditParts where
  id : Option IdEntry
  payload : Option Payload

structure Edit where
  id : IdEntry
  payload : Payload

def Edit.shape : Json.Reader.Shape EditParts Edit where
  name := "EditBody"
  fields :=
    [.slot "id" (·.id) (fun d id => { d with id := some id }) IdEntry.read,
      .slot "payload" (·.payload) (fun d p => { d with payload := some p }) Json.Reader.payload]
  start := ⟨none, none⟩
  finish d := do
    let id ← Json.Reader.required "id" d.id
    let payload ← Json.Reader.required "payload" d.payload
    .ok ⟨id, payload⟩

def edit (body : List UInt8) : Except Problem (ResourceId × Payload) := do
  let e ← parse (Json.Reader.record Edit.shape Json.Reader.depthLimit)
    "\x7b\"id\": n, \"payload\": \x7b...\x7d\x7d" body
  match ← e.id.ids with
  | [id] => .ok (id, e.payload)
  | _ => .error .notOneId

inductive Removal
  | one (id : IdEntry)
  | many (ids : List IdEntry)

namespace Removal

def only? (name : String) (members : List (String × Json)) : Option Json :=
  match members.filter (·.1 == name) with
  | [(_, v)] => some v
  | _ => none

def idList? : Json → Option (List IdEntry)
  | .array items => items.mapM IdEntry.ofJson?
  | _ => none

def one? : Json → Option Removal
  | .object members => ((only? "id" members).bind IdEntry.ofJson?).map .one
  | _ => none

def many? : Json → Option Removal
  | .object members => ((only? "ids" members).bind idList?).map .many
  | _ => none

def bare? (v : Json) : Option Removal :=
  (IdEntry.ofJson? v).map .one

/-- The forms are tried in this order. -/
def ofJson? (v : Json) : Option Removal :=
  one? v <|> many? v <|> bare? v

def read (depth : Nat) : Reader Removal := fun s => do
  let (v, s) ← Json.Reader.value depth s
  match ofJson? v with
  | some r => .ok (r, s)
  | none => .error (.pending (.noVariant "RemoveBody") s)

def concat : List IdEntry → Except Problem (List ResourceId)
  | [] => .ok []
  | v :: vs => do
    let ids ← v.ids
    let rest ← concat vs
    .ok (ids ++ rest)

def ids : Removal → Except Problem (List ResourceId)
  | .one id => id.ids
  | .many vs => concat vs

end Removal

def remove (body : List UInt8) : Except Problem (List ResourceId) := do
  let r ← parse (Removal.read Json.Reader.depthLimit)
    "an id, a list of ids or \x7b\"ids\": [..]\x7d" body
  let ids ← r.ids
  if ids.isEmpty then .error .noIds else .ok ids

end GatedStore.Body
