import GatedStore.Access.Permission
import GatedStore.Routing.Method
import GatedStore.Routing.Pattern

/-! Tables of routes. A path belongs to the most specific route that matches it, whatever the method;
a request with another method finds nothing there. -/

namespace GatedStore

structure Route (E : Type) where
  method : Method
  pattern : Pattern
  permission : Option Permission
  endpoint : E

def Route.Clashes {E : Type} (a b : Route E) : Prop :=
  a.method = b.method ∧ a.pattern.sameShape b.pattern = true

instance {E : Type} (a b : Route E) : Decidable (a.Clashes b) :=
  inferInstanceAs (Decidable (_ ∧ _))

inductive RouteError
  | duplicate (method : Method) (pattern : String)
  | invalidPattern (pattern : String) (reason : String)
  | notFound (method : Method) (path : String)
  deriving DecidableEq

def RouteError.message : RouteError → String
  | .duplicate method pattern => "route " ++ method.token ++ " " ++ pattern ++ " is already registered"
  | .invalidPattern pattern reason => "invalid route pattern '" ++ pattern ++ "': " ++ reason
  | .notFound method path => "no route for " ++ method.token ++ " " ++ path

def Pattern.read (text : String) : Except RouteError Pattern :=
  (Pattern.parse text).mapError fun flaw => .invalidPattern text flaw.message

def Pattern.readUnder (base text : String) : Except RouteError Pattern :=
  Pattern.read (Pattern.joinText base text)

structure Resolved (E : Type) where
  route : Route E
  params : Pattern.Params

structure RouteTable (E : Type) where
  routes : List (Route E)
  distinct : routes.Pairwise fun a b => ¬ a.Clashes b

namespace RouteTable

variable {E : Type}

def empty : RouteTable E :=
  ⟨[], List.Pairwise.nil⟩

def add (t : RouteTable E) (r : Route E) : Except RouteError (RouteTable E) :=
  if h : ∀ a ∈ t.routes, ¬ a.Clashes r then
    .ok ⟨t.routes ++ [r], List.pairwise_append.mpr ⟨t.distinct, List.pairwise_singleton _ _, by
      intro a ha b hb
      rw [List.mem_singleton.mp hb]
      exact h a ha⟩⟩
  else .error (.duplicate r.method r.pattern.text)

def register (t : RouteTable E) (method : Method) (pattern : String) (permission : Option Permission)
    (endpoint : E) : Except RouteError (RouteTable E) := do
  let pattern ← Pattern.read pattern
  t.add ⟨method, pattern, permission, endpoint⟩

def registerUnder (t : RouteTable E) (base : String) (method : Method) (pattern : String)
    (permission : Option Permission) (endpoint : E) : Except RouteError (RouteTable E) := do
  let pattern ← Pattern.readUnder base pattern
  t.add ⟨method, pattern, permission, endpoint⟩

def matching? (r : Route E) (path : List String) : Option (Resolved E) :=
  (r.pattern.bind? path).map fun params => ⟨r, params⟩

def candidates (t : RouteTable E) (method : Method) (path : List String) : List (Resolved E) :=
  (t.routes.filter (·.method = method)).filterMap (matching? · path)

def mostSpecific : List (Resolved E) → Option (Resolved E)
  | [] => none
  | r :: rs =>
    some (rs.foldl (fun best c => if c.route.pattern.moreSpecific best.route.pattern then c else best) r)

/-- Whether a route of another method matches the path more specifically. -/
def claimedElsewhere (t : RouteTable E) (method : Method) (path : List String) (best : Pattern) : Bool :=
  t.routes.any fun r => r.method ≠ method && r.pattern.moreSpecific best && (r.pattern.bind? path).isSome

def resolve (t : RouteTable E) (method : Method) (path : String) : Except RouteError (Resolved E) :=
  let segments := Path.segments path
  match mostSpecific (t.candidates method segments) with
  | none => .error (.notFound method path)
  | some best =>
    if t.claimedElsewhere method segments best.route.pattern then .error (.notFound method path)
    else .ok best

end RouteTable

end GatedStore
