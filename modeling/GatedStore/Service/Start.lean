import GatedStore.Service.Basic
import GatedStore.Settings.Basic

namespace GatedStore

inductive StartError
  | settings (reason : Settings.Invalid)
  | routes (e : RouteError)
  deriving DecidableEq

def StartError.message : StartError → String
  | .settings reason => reason.message
  | .routes e => "failed to build routes: " ++ e.message

/-- A start that panics neither reports an error nor leaves a service behind. -/
inductive Startup
  | ok (service : Service)
  | error (e : StartError)
  | panicked

def Startup.service? : Startup → Option Service
  | .ok s => some s
  | _ => none

namespace Service

/-- The most requests that may be allowed to wait for a store; a longer queue cannot be made. -/
def capacityLimit : UInt64 := 0x1FFFFFFFFFFFFFFF

def start (settings : Settings) (policy : Policy) : Startup :=
  match settings.validate with
  | .error reason => .error (.settings reason)
  | .ok () =>
    match Endpoint.routesUnder settings.basePath with
    | .error e => .error (.routes e)
    | .ok routes =>
      if capacityLimit < settings.channelCapacity then .panicked
      else .ok ⟨routes, fun kind => some ⟨policy, Line.new kind⟩⟩

end Service

end GatedStore
