import GatedStore.Proofs.ResourceStore
import GatedStore.Proofs.Results
import GatedStore.Proofs.ServiceRoutes
import GatedStore.Service.Start

namespace GatedStore

open Resource (schema)

inductive Desk.Reads (kind : Kind) (params : Pattern.Params) (body : List UInt8) :
    Operation → Request schema → Prop
  | list : Reads kind params body .list .list
  | detail {id : ResourceId} (hid : pathId kind params = .ok id) : Reads kind params body .detail (.get id)
  | create {payload : Payload} (hbody : Body.payload body = .ok payload) :
      Reads kind params body .create (.create ⟨kind, payload⟩)
  | edit {id : ResourceId} {payload : Payload} (hbody : Body.edit body = .ok (id, payload)) :
      Reads kind params body .edit (.update id payload)
  | remove {ids : List ResourceId} (hbody : Body.remove body = .ok ids) :
      Reads kind params body .remove (.remove ids)

namespace Desk

variable {kind : Kind} {params : Pattern.Params} {body : List UInt8} {op : Operation} {r : Request schema}

theorem ofBody_map_eq_ok {α β : Type} {e : Except Body.Problem α} {f : α → β} {b : β} :
    (ofBody e).map f = .ok b ↔ ∃ a, e = .ok a ∧ f a = b := by
  simp only [Results.map_eq_ok_iff, ofBody, Results.mapError_eq_ok_iff]

theorem reads_iff : Reads kind params body op r ↔ storeRequest kind params body op = .ok r := by
  constructor
  · intro h
    cases h with
    | list => rfl
    | detail hid => rw [storeRequest, hid]; rfl
    | create hbody => exact ofBody_map_eq_ok.mpr ⟨_, hbody, rfl⟩
    | edit hbody => exact ofBody_map_eq_ok.mpr ⟨_, hbody, rfl⟩
    | remove hbody => exact ofBody_map_eq_ok.mpr ⟨_, hbody, rfl⟩
  · intro h
    cases op with
    | list =>
      cases h
      exact .list
    | detail =>
      cases hid : pathId kind params with
      | error f =>
        rw [storeRequest, hid] at h
        cases h
      | ok id =>
        rw [storeRequest, hid] at h
        cases h
        exact .detail hid
    | create =>
      obtain ⟨payload, hbody, rfl⟩ := ofBody_map_eq_ok.mp h
      exact .create hbody
    | edit =>
      obtain ⟨⟨id, payload⟩, hbody, rfl⟩ := ofBody_map_eq_ok.mp h
      exact .edit hbody
    | remove =>
      obtain ⟨ids, hbody, rfl⟩ := ofBody_map_eq_ok.mp h
      exact .remove hbody

theorem Reads.fits (h : Reads kind params body op r) : Resource.Fits kind r := by
  cases h with
  | create _ => rfl
  | list | detail _ | edit _ | remove _ => trivial

end Desk

theorem Startup.exists_ok_of_any {x : Startup} {p : Service → Bool} (h : x.service?.any p = true) :
    ∃ s, x = .ok s ∧ p s = true := by
  cases x with
  | ok s => exact ⟨s, rfl, h⟩
  | error _ | panicked => cases h

namespace Service

def running (routes : RouteTable Endpoint) (policy : Policy) (stores : Kind → Store schema) : Service :=
  ⟨routes, fun kind => some ⟨policy, .running (stores kind)⟩⟩

variable {routes : RouteTable Endpoint} {policy : Policy} {stores stores' : Kind → Store schema} {call : Call}
  {result : Except Failure Json}

theorem setStation_running (routes : RouteTable Endpoint) (policy : Policy) (stores : Kind → Store schema)
    (kind : Kind) (st : Store schema) :
    (running routes policy stores).setStation kind ⟨policy, .running st⟩ =
      running routes policy (Function.update stores kind st) := by
  refine congrArg (Service.mk routes) (funext fun k => ?_)
  by_cases hk : k = kind
  · subst hk
    simp
  · simp [hk, running]

def store? (s : Service) (kind : Kind) : Option (Store schema) :=
  match s.stations kind with
  | some ⟨_, .running st⟩ => some st
  | _ => none

@[simp] theorem store?_running (routes : RouteTable Endpoint) (policy : Policy) (stores : Kind → Store schema)
    (kind : Kind) : (running routes policy stores).store? kind = some (stores kind) :=
  rfl

/-- What becomes of a call: the result, and the stores that it leaves behind. -/
inductive Effect (routes : RouteTable Endpoint) (policy : Policy) (stores : Kind → Store schema) (call : Call) :
    Except Failure Json → (Kind → Store schema) → Prop
  | unrouted {e : RouteError} (hx : routes.resolve call.method call.path = .error e) :
      Effect routes policy stores call (.error (.ofRouteError e)) stores
  | denied {x : Resolved Endpoint} {f : Forbidden} (hx : routes.resolve call.method call.path = .ok x)
      (hgate : policy.require call.caller x.route.permission = .error f) :
      Effect routes policy stores call (.error (.ofForbidden f)) stores
  | unread {x : Resolved Endpoint} {f : Failure} (hx : routes.resolve call.method call.path = .ok x)
      (hgate : policy.require call.caller x.route.permission = .ok ())
      (hread : Desk.storeRequest x.route.endpoint.kind x.params call.body x.route.endpoint.operation = .error f) :
      Effect routes policy stores call (.error f) stores
  | answered {x : Resolved Endpoint} {r : Request schema} {a : Answer r} {st : Store schema}
      (hx : routes.resolve call.method call.path = .ok x)
      (hgate : policy.require call.caller x.route.permission = .ok ())
      (hread : Desk.Reads x.route.endpoint.kind x.params call.body x.route.endpoint.operation r)
      (hstore : Resource.Effect x.route.endpoint.kind (stores x.route.endpoint.kind) r a st) :
      Effect routes policy stores call (Desk.conclude x.route.endpoint.kind r a)
        (Function.update stores x.route.endpoint.kind st)

theorem dispatch_effect (routes : RouteTable Endpoint) (policy : Policy)
    (hs : ∀ kind, Resource.Sound kind (stores kind)) (call : Call) :
    ∃ result stores', (running routes policy stores).dispatch call =
      (result, running routes policy stores') ∧ Effect routes policy stores call result stores' := by
  cases hx : routes.resolve call.method call.path with
  | error e =>
    refine ⟨_, stores, ?_, .unrouted hx⟩
    simp only [dispatch, running, hx]
  | ok x =>
    obtain ⟨⟨m, p, permission, ⟨k, op⟩⟩, params⟩ := x
    have hself : (running routes policy stores).setStation k ⟨policy, .running (stores k)⟩ =
        running routes policy stores := by
      rw [setStation_running, Function.update_eq_self]
    cases hgate : policy.require call.caller permission with
    | error f =>
      refine ⟨_, stores, ?_, .denied hx hgate⟩
      simp only [dispatch, running, hx, Desk.handle, hgate]
      exact congrArg _ hself
    | ok u =>
      cases hread : Desk.storeRequest k params call.body op with
      | error f =>
        refine ⟨_, stores, ?_, .unread hx hgate hread⟩
        simp only [dispatch, running, hx, Desk.handle, hgate, hread]
        exact congrArg _ hself
      | ok r =>
        have hreads := Desk.reads_iff.mpr hread
        obtain ⟨a, st, ha, hstore⟩ := Resource.exists_effect (hs k) hreads.fits
        refine ⟨_, _, ?_, .answered hx hgate hreads hstore⟩
        simp only [dispatch, running, hx, Desk.handle, hgate, hread, Line.send, ha]
        exact congrArg _ (setStation_running routes policy stores k st)

theorem handle_effect (routes : RouteTable Endpoint) (policy : Policy)
    (hs : ∀ kind, Resource.Sound kind (stores kind)) (call : Call) :
    ∃ result stores', (running routes policy stores).handle call =
      (.ofResult result, running routes policy stores') ∧ Effect routes policy stores call result stores' := by
  obtain ⟨result, stores', hdispatch, heff⟩ := dispatch_effect routes policy hs call
  exact ⟨result, stores', by rw [handle, hdispatch], heff⟩

theorem Effect.sound (h : Effect routes policy stores call result stores')
    (hs : ∀ kind, Resource.Sound kind (stores kind)) (kind : Kind) : Resource.Sound kind (stores' kind) := by
  cases h with
  | answered hx hgate hread hstore =>
    rename_i x r a st
    by_cases hk : kind = x.route.endpoint.kind
    · subst hk
      rw [Function.update_self]
      exact hstore.sound (hs _)
    · rw [Function.update_of_ne hk]
      exact hs kind
  | unrouted _ | denied _ _ | unread _ _ _ => exact hs kind

theorem Effect.of_denied (h : Effect routes policy stores call result stores') {x : Resolved Endpoint}
    (hx : routes.resolve call.method call.path = .ok x) {f : Forbidden}
    (hgate : policy.require call.caller x.route.permission = .error f) :
    result = .error (.ofForbidden f) ∧ stores' = stores := by
  cases h with
  | unrouted hx' => cases hx.symm.trans hx'
  | denied hx' hgate' =>
    cases hx.symm.trans hx'
    cases hgate.symm.trans hgate'
    exact ⟨rfl, rfl⟩
  | unread hx' hgate' _ | answered hx' hgate' _ _ =>
    cases hx.symm.trans hx'
    cases hgate.symm.trans hgate'

theorem Effect.of_reads (h : Effect routes policy stores call result stores') {x : Resolved Endpoint}
    (hx : routes.resolve call.method call.path = .ok x)
    (hgate : policy.require call.caller x.route.permission = .ok ()) {r : Request schema}
    (hread : Desk.Reads x.route.endpoint.kind x.params call.body x.route.endpoint.operation r) :
    ∃ a st, Resource.Effect x.route.endpoint.kind (stores x.route.endpoint.kind) r a st ∧
      result = Desk.conclude x.route.endpoint.kind r a ∧
      stores' = Function.update stores x.route.endpoint.kind st := by
  cases h with
  | unrouted hx' => cases hx.symm.trans hx'
  | denied hx' hgate' =>
    cases hx.symm.trans hx'
    cases hgate.symm.trans hgate'
  | unread hx' _ hread' =>
    cases hx.symm.trans hx'
    cases (Desk.reads_iff.mp hread).symm.trans hread'
  | answered hx' _ hread' hstore =>
    cases hx.symm.trans hx'
    cases (Desk.reads_iff.mp hread).symm.trans (Desk.reads_iff.mp hread')
    exact ⟨_, _, hstore, rfl, rfl⟩

def after (s : Service) (calls : List Call) : Service :=
  calls.foldl (fun s call => (s.handle call).2) s

theorem after_concat (s : Service) (calls : List Call) (call : Call) :
    s.after (calls ++ [call]) = ((s.after calls).handle call).2 :=
  List.foldl_concat ..

theorem after_running (routes : RouteTable Endpoint) (policy : Policy)
    (hs : ∀ kind, Resource.Sound kind (stores kind)) (calls : List Call) :
    ∃ stores', (running routes policy stores).after calls = running routes policy stores' ∧
      ∀ kind, Resource.Sound kind (stores' kind) := by
  induction calls generalizing stores with
  | nil => exact ⟨stores, rfl, hs⟩
  | cons call calls ih =>
    obtain ⟨result, stores₁, hhandle, heff⟩ := handle_effect routes policy hs call
    obtain ⟨stores₂, hafter, hs₂⟩ := ih (heff.sound hs)
    refine ⟨stores₂, ?_, hs₂⟩
    rw [← hafter, after, List.foldl_cons, hhandle]
    rfl

theorem start_eq_ok_iff {settings : Settings} {s : Service} :
    Service.start settings policy = .ok s ↔
      settings.validate = .ok () ∧ ¬ capacityLimit < settings.channelCapacity ∧
        ∃ routes, Endpoint.routesUnder settings.basePath = .ok routes ∧ s = running routes policy Store.ofKind := by
  cases hvalid : settings.validate with
  | error reason => simp [start, hvalid]
  | ok u =>
    cases hroutes : Endpoint.routesUnder settings.basePath with
    | error e => simp [start, hvalid, hroutes]
    | ok routes =>
      by_cases hcapacity : capacityLimit < settings.channelCapacity
      · simp [start, hvalid, hroutes, hcapacity]
      · simp only [start, hvalid, hroutes, if_neg hcapacity, Startup.ok.injEq]
        constructor
        · rintro rfl
          exact ⟨trivial, hcapacity, routes, rfl, rfl⟩
        · rintro ⟨-, -, routes', hroutes', rfl⟩
          cases hroutes'
          rfl

end Service

theorem RouteTable.Serves.permission_eq {t : RouteTable Endpoint} {base : Pattern} (ht : t.Serves base)
    {m : Method} {path : String} {x : Resolved Endpoint} (hx : t.resolve m path = .ok x) :
    x.route.permission = x.route.endpoint.permission? := by
  obtain ⟨k, op, tail, hleads⟩ := ht.sound x.route (resolve_eq_ok_iff.mp hx).1.matching.1
  rw [hleads.permission_eq, hleads.endpoint_eq]
  rfl

end GatedStore
