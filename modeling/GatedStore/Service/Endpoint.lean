import GatedStore.Kind
import GatedStore.Routing.RouteTable

namespace GatedStore

inductive Operation
  | list
  | detail
  | create
  | edit
  | remove
  deriving DecidableEq, Repr

namespace Operation

def all : List Operation :=
  [.list, .detail, .create, .edit, .remove]

def name : Operation → String
  | .list => "list"
  | .detail => "detail"
  | .create => "create"
  | .edit => "edit"
  | .remove => "remove"

def action? : Operation → Option String
  | .list => some "list"
  | .detail => none
  | .create => some "add"
  | .edit => some "edit"
  | .remove => some "remove"

def ways : Operation → List (Method × String)
  | .list => [(.get, "/list"), (.get, "/")]
  | .detail => [(.get, "/detail/\x7bid\x7d"), (.get, "/\x7bid\x7d")]
  | .create => [(.post, "/create"), (.post, "/add")]
  | .edit => [(.post, "/edit")]
  | .remove => [(.post, "/remove")]

end Operation

def Permission.forResource (kind : Kind) (action : String) : Permission :=
  ⟨kind.segment ++ ":" ++ action⟩

structure Endpoint where
  kind : Kind
  operation : Operation
  deriving DecidableEq, Repr

namespace Endpoint

def name (e : Endpoint) : String :=
  e.kind.segment ++ "." ++ e.operation.name

def permission? (e : Endpoint) : Option Permission :=
  e.operation.action?.map (Permission.forResource e.kind)

def all : List Endpoint :=
  Kind.all.flatMap fun kind => Operation.all.map fun operation => ⟨kind, operation⟩

def rows : List (Endpoint × Method × String) :=
  all.flatMap fun e => e.operation.ways.map fun (method, path) => (e, method, path)

def routesUnder (base : String) : Except RouteError (RouteTable Endpoint) :=
  rows.foldlM (fun t (e, method, path) =>
    t.registerUnder (Pattern.joinText base e.kind.segment) method path e.permission? e) RouteTable.empty

end Endpoint

end GatedStore
