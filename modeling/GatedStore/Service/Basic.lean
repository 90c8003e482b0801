import GatedStore.Service.Desk
import GatedStore.Store.Line

namespace GatedStore

open Resource (schema)

structure Call where
  method : Method
  path : String
  caller : Principal
  body : List UInt8

def Call.postJson (path : String) (caller : Principal) (body : Json) : Call :=
  ⟨.post, path, caller, Text.Utf8.encode body.chars⟩

structure Station where
  policy : Policy
  line : Line schema

structure Service where
  routes : RouteTable Endpoint
  stations : Kind → Option Station

namespace Service

def setStation (s : Service) (kind : Kind) (station : Station) : Service :=
  { s with stations := fun k => if k = kind then some station else s.stations k }

def dispatch (s : Service) (call : Call) : Except Failure Json × Service :=
  match s.routes.resolve call.method call.path with
  | .error e => (.error (.ofRouteError e), s)
  | .ok resolved =>
    let endpoint := resolved.route.endpoint
    match s.stations endpoint.kind with
    | none => (.error (.internal ("no handler set for " ++ endpoint.kind.segment)), s)
    | some station =>
      let (result, line) := Desk.handle ⟨endpoint.kind, station.policy.require⟩ Line.send call.caller
        resolved.route.permission endpoint.operation resolved.params call.body station.line
      (result, s.setStation endpoint.kind { station with line := line })

def handle (s : Service) (call : Call) : Response × Service :=
  let (result, s) := s.dispatch call
  (.ofResult result, s)

def shutdown (s : Service) : Bool :=
  Kind.all.all fun kind => (s.stations kind).all (·.line.isRunning)

end Service

end GatedStore
