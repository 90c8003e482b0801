import GatedStore.Body
import GatedStore.Service.Endpoint
import GatedStore.Service.Failure

/-! The desk for one kind of resource: it asks the policy, reads the request, and sends at most one
request on to the store. -/

namespace GatedStore

open Resource (schema)

/-- Lets a caller through to what the requirement guards, or names the permission that is missing. -/
abbrev Gate := Principal → Option Permission → Except Forbidden Unit

structure Desk where
  kind : Kind
  gate : Gate

namespace Desk

def pathId (kind : Kind) (params : Pattern.Params) : Except Failure ResourceId :=
  let raw := (params.get? "id").getD ""
  (ResourceId.read raw).mapError fun _ => .resourceNotFound kind raw

def ofBody {α : Type} (r : Except Body.Problem α) : Except Failure α :=
  r.mapError fun p => .invalidPayload p.message

def storeRequest (kind : Kind) (params : Pattern.Params) (body : List UInt8) :
    Operation → Except Failure (Request schema)
  | .list => .ok .list
  | .detail => (pathId kind params).map .get
  | .create => (ofBody (Body.payload body)).map fun p => .create ⟨kind, p⟩
  | .edit => (ofBody (Body.edit body)).map fun (id, p) => .update id p
  | .remove => (ofBody (Body.remove body)).map .remove

def replyJson : (r : Request schema) → r.Reply → Json
  | .list, rs => .array (List.map Resource.toJson rs)
  | .get _, r => Resource.toJson r
  | .create _, r => Resource.toJson r
  | .update _ _, r => Resource.toJson r
  | .remove _, ids => .object [("removed", .array (List.map Json.ofUInt64 ids))]

def storeFailure (kind : Kind) : StoreError String → Failure
  | .notFound id => .resourceNotFound kind id
  | e => .internal (e.message id)

def conclude (kind : Kind) (r : Request schema) : Answer r → Except Failure Json
  | .ok reply => .ok (replyJson r reply)
  | .error e => .error (storeFailure kind e)

def handle {σ : Type} (d : Desk) (send : Send schema σ) (caller : Principal) (required : Option Permission)
    (operation : Operation) (params : Pattern.Params) (body : List UInt8) (s : σ) :
    Except Failure Json × σ :=
  match d.gate caller required with
  | .error f => (.error (.ofForbidden f), s)
  | .ok () =>
    match storeRequest d.kind params body operation with
    | .error f => (.error f, s)
    | .ok r =>
      let (answer, s) := send r s
      (conclude d.kind r answer, s)

end Desk

end GatedStore
