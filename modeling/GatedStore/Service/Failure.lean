import GatedStore.Access.Policy
import GatedStore.Json.Basic
import GatedStore.Kind
import GatedStore.Routing.RouteTable

namespace GatedStore

inductive Failure
  | routeNotFound (method : Method) (path : String)
  | permissionDenied (permission : Permission)
  | resourceNotFound (kind : Kind) (id : String)
  | invalidPayload (reason : String)
  | internal (detail : String)
  deriving DecidableEq

namespace Failure

def message : Failure → String
  | .routeNotFound method path => "no route for " ++ method.token ++ " " ++ path
  | .permissionDenied p => "missing permission '" ++ p.text ++ "'"
  | .resourceNotFound kind id => kind.segment ++ " resource '" ++ id ++ "' not found"
  | .invalidPayload reason => "invalid payload: " ++ reason
  | .internal detail => "internal error: " ++ detail

def status : Failure → Nat
  | .routeNotFound _ _ => 404
  | .permissionDenied _ => 403
  | .resourceNotFound _ _ => 404
  | .invalidPayload _ => 400
  | .internal _ => 500

def name : Failure → String
  | .routeNotFound _ _ => "RouteNotFound"
  | .permissionDenied _ => "PermissionDenied"
  | .resourceNotFound _ _ => "ResourceNotFound"
  | .invalidPayload _ => "InvalidPayload"
  | .internal _ => "Internal"

def publicMessage : Failure → String
  | .internal _ => "internal server error"
  | f => f.message

def ofForbidden (f : Forbidden) : Failure :=
  .permissionDenied f.permission

def ofRouteError : RouteError → Failure
  | .notFound method path => .routeNotFound method path
  | e => .internal e.message

end Failure

structure Response where
  status : Nat
  body : Json

namespace Response

def ok (body : Json) : Response :=
  ⟨200, body⟩

def smallNumber (n : Nat) : Json :=
  .ofUInt64 (UInt64.ofNat n)

def ofFailure (f : Failure) : Response :=
  ⟨f.status, .object [("error", .string f.name), ("message", .string f.publicMessage),
    ("status", smallNumber f.status)]⟩

def ofResult : Except Failure Json → Response
  | .ok body => ok body
  | .error f => ofFailure f

def isSuccess (r : Response) : Bool :=
  200 ≤ r.status && r.status < 300

end Response

end GatedStore
