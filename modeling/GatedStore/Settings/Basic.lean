import GatedStore.Json.Record

namespace GatedStore

structure Settings where
  basePath : String
  channelCapacity : UInt64
  logFilter : String
  deriving DecidableEq, Repr

namespace Settings

def default : Settings :=
  ⟨"", 32, "info"⟩

inductive Invalid
  | noCapacity
  | relativeBasePath (path : String)
  deriving DecidableEq, Repr

def Invalid.message (i : Invalid) : String :=
  "invalid configuration: " ++
    match i with
    | .noCapacity => "channel_capacity must be at least 1"
    | .relativeBasePath path => "base_path '" ++ path ++ "' must start with '/'"

def validate (s : Settings) : Except Invalid Unit :=
  if s.channelCapacity = 0 then .error .noCapacity
  else
    match s.basePath.toList with
    | [] => .ok ()
    | c :: _ => if c = '/' then .ok () else .error (.relativeBasePath s.basePath)

end Settings

end GatedStore
