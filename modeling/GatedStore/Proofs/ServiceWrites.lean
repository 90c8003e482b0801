import GatedStore.Proofs.ServiceSteps

namespace GatedStore

open Resource (schema)

theorem Policy.require_eq_ok_iff {policy : Policy} {caller : Principal} {required : Permission} :
    policy.require caller (some required) = .ok () ↔ policy.check caller required = .allowed := by
  rw [require]
  cases policy.check caller required with
  | allowed => exact iff_of_true rfl rfl
  | denied => exact iff_of_false (fun h => by cases h) (fun h => by cases h)

theorem RouteTable.Serves.require_eq_ok {t : RouteTable Endpoint} {base : Pattern} (ht : t.Serves base)
    {m : Method} {path : String} {x : Resolved Endpoint} (hx : t.resolve m path = .ok x) {kind : Kind}
    {op : Operation} (he : x.route.endpoint = ⟨kind, op⟩) {action : String} (hop : op.action? = some action)
    {policy : Policy} {caller : Principal} (h : policy.check caller (.forResource kind action) = .allowed) :
    policy.require caller x.route.permission = .ok () := by
  rw [ht.permission_eq hx, he, Endpoint.permission?, hop]
  exact Policy.require_eq_ok_iff.mpr h

@[simp] theorem Response.isSuccess_ok (body : Json) : (ok body).isSuccess = true :=
  rfl

@[simp] theorem Response.isSuccess_ofFailure (f : Failure) : (ofFailure f).isSuccess = false := by
  cases f <;> rfl

structure Exchange where
  call : Call
  response : Response

namespace Exchange

def endpoint? (t : RouteTable Endpoint) (e : Exchange) : Option Endpoint :=
  (t.resolve e.call.method e.call.path).toOption.map (·.route.endpoint)

def succeeds (t : RouteTable Endpoint) (endpoint : Endpoint) (e : Exchange) : Bool :=
  e.endpoint? t = some endpoint && e.response.isSuccess

variable {t : RouteTable Endpoint} {policy : Policy} {kind : Kind} {e : Exchange} {st st' : Store schema}

theorem succeeds_iff {endpoint : Endpoint} :
    e.succeeds t endpoint = true ↔ e.endpoint? t = some endpoint ∧ e.response.isSuccess = true := by
  rw [succeeds, Bool.and_eq_true, decide_eq_true_eq]

inductive Writes (t : RouteTable Endpoint) (policy : Policy) (kind : Kind) (e : Exchange) (st : Store schema) :
    Store schema → Prop
  | nothing (hread : ∀ op, e.succeeds t ⟨kind, op⟩ = true → op = .list ∨ op = .detail) :
      Writes t policy kind e st st
  | created {payload : Payload} (he : e.endpoint? t = some ⟨kind, .create⟩)
      (hgate : policy.check e.call.caller (.forResource kind "add") = .allowed)
      (hbody : Body.payload e.call.body = .ok payload) (hnext : st.next ≠ Store.lastNumber)
      (hresponse : e.response = .ok (Resource.toJson ⟨st.next, kind, payload⟩)) :
      Writes t policy kind e st (st.counted.keep st.next ⟨st.next, kind, payload⟩)
  | edited {id : ResourceId} {payload : Payload} {r : Resource} (he : e.endpoint? t = some ⟨kind, .edit⟩)
      (hgate : policy.check e.call.caller (.forResource kind "edit") = .allowed)
      (hbody : Body.edit e.call.body = .ok (id, payload)) (hget : st.resource? id = some r)
      (hresponse : e.response = .ok (Resource.toJson ⟨id, kind, payload⟩)) :
      Writes t policy kind e st (st.keep id ⟨id, kind, payload⟩)
  | removed {ids : List ResourceId} {body : Json} (he : e.endpoint? t = some ⟨kind, .remove⟩)
      (hgate : policy.check e.call.caller (.forResource kind "remove") = .allowed)
      (hbody : Body.remove e.call.body = .ok ids) (hget : ∀ id ∈ ids, ∃ r, st.resource? id = some r)
      (hresponse : e.response = .ok body) : Writes t policy kind e st (st.eraseAll ids.eraseDups)

theorem Writes.of_failure {f : Failure} (h : e.response = .ofFailure f) : Writes t policy kind e st st := by
  refine .nothing fun op hop => ?_
  obtain ⟨-, hs⟩ := succeeds_iff.mp hop
  simp [h] at hs

theorem Writes.of_endpoint {endpoint : Endpoint} (he : e.endpoint? t = some endpoint)
    (h : endpoint.kind = kind → endpoint.operation = .list ∨ endpoint.operation = .detail) :
    Writes t policy kind e st st := by
  refine .nothing fun op hop => ?_
  obtain ⟨he', -⟩ := succeeds_iff.mp hop
  cases he.symm.trans he'
  exact h rfl

end Exchange

theorem Service.Effect.writes {routes : RouteTable Endpoint} {base : Pattern} {policy : Policy}
    {stores stores' : Kind → Store schema} {call : Call} {result : Except Failure Json}
    (h : Effect routes policy stores call result stores') (hserves : routes.Serves base) (kind : Kind) :
    Exchange.Writes routes policy kind ⟨call, .ofResult result⟩ (stores kind) (stores' kind) := by
  cases h with
  | unrouted _ | denied _ _ | unread _ _ _ => exact .of_failure rfl
  | @answered x r a st hx hgate hread hstore =>
    have he : Exchange.endpoint? routes ⟨call, .ofResult (Desk.conclude x.route.endpoint.kind r a)⟩ =
        some x.route.endpoint := by
      rw [Exchange.endpoint?, hx]
      rfl
    rw [hserves.permission_eq hx] at hgate
    generalize x.route.endpoint = endpoint at he hgate hread hstore
    obtain ⟨k, op⟩ := endpoint
    by_cases hk : kind = k
    · subst hk
      rw [Function.update_self]
      cases hstore with
      | listed =>
        cases hread
        exact .of_endpoint he fun _ => Or.inl rfl
      | found _ =>
        cases hread
        exact .of_endpoint he fun _ => Or.inr rfl
      | created hnext =>
        cases hread with
        | create hbody => exact .created he (Policy.require_eq_ok_iff.mp hgate) hbody hnext rfl
      | edited hget =>
        cases hread with
        | edit hbody => exact .edited he (Policy.require_eq_ok_iff.mp hgate) hbody hget rfl
      | removed hget =>
        cases hread with
        | remove hbody => exact .removed he (Policy.require_eq_ok_iff.mp hgate) hbody hget rfl
      | missing _ | exhausted _ | unknown _ | unremoved _ _ => exact .of_failure rfl
    · rw [Function.update_of_ne hk]
      exact .of_endpoint he fun h => absurd h.symm hk

end GatedStore
