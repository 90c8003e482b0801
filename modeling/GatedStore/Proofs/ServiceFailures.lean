import GatedStore.Proofs.ServiceWrites

/-! How calls fail. A call that fails leaves the service as it was, and none fails for a fault of the
service itself before the numbers of its kind are used up. -/

namespace GatedStore

open Resource (schema)

theorem Failure.status_cases (f : Failure) : f.status ∈ [400, 403, 404] ∨ ∃ detail, f = .internal detail := by
  cases f with
  | internal detail => exact Or.inr ⟨detail, rfl⟩
  | routeNotFound _ _ | permissionDenied _ | resourceNotFound _ _ | invalidPayload _ =>
    exact Or.inl (by simp [status])

theorem Response.status_eq_ok_iff {result : Except Failure Json} :
    (ofResult result).status = 200 ↔ ∃ body, result = .ok body := by
  cases result with
  | ok body => exact iff_of_true rfl ⟨body, rfl⟩
  | error f =>
    refine iff_of_false ?_ fun ⟨_, h⟩ => by cases h
    cases f <;> simp [ofResult, ofFailure, Failure.status]

theorem Response.status_ne_ok_iff {result : Except Failure Json} :
    (ofResult result).status ≠ 200 ↔ ∃ f, result = .error f := by
  rw [ne_eq, status_eq_ok_iff]
  cases result with
  | ok body => simp
  | error f => simp

namespace Resource

variable {kind : Kind} {st st' : Store schema} {r : Request schema} {a : Answer r}

def Names (id : ResourceId) : Request schema → Prop
  | .list => False
  | .get id' => id = id'
  | .create _ => False
  | .update id' _ => id = id'
  | .remove ids => id ∈ ids

theorem Effect.of_error {e : StoreError schema.Refusal} (h : Effect kind st r (.error e) st') :
    st' = st ∧ ((∃ id, Names id r ∧ st.resource? id = none ∧ e = .notFound id.text) ∨
      (∃ draft, r = .create draft) ∧ st.next = Store.lastNumber ∧ e = .idsExhausted) := by
  cases h with
  | missing hget => exact ⟨rfl, Or.inl ⟨_, rfl, hget, rfl⟩⟩
  | exhausted hnext => exact ⟨rfl, Or.inr ⟨⟨_, rfl⟩, hnext, rfl⟩⟩
  | unknown hget => exact ⟨rfl, Or.inl ⟨_, rfl, hget, rfl⟩⟩
  | unremoved hid hget => exact ⟨rfl, Or.inl ⟨_, hid, hget, rfl⟩⟩

theorem Effect.error_of_absent (h : Effect kind st r a st') {id : ResourceId} (hid : Names id r)
    (hget : st.resource? id = none) : ∃ e, a = .error e := by
  cases h with
  | listed | created _ | exhausted _ => cases hid
  | found hfound | edited hfound =>
    obtain rfl : id = _ := hid
    cases hget.symm.trans hfound
  | removed hfound =>
    obtain ⟨r, hr⟩ := hfound id hid
    cases hget.symm.trans hr
  | missing _ | unknown _ | unremoved _ _ => exact ⟨_, rfl⟩

theorem Effect.error_of_exhausted {draft : ResourceDraft} {a : Answer (Request.create draft)}
    (h : Effect kind st (.create draft) a st') (hnext : st.next = Store.lastNumber) :
    a = .error .idsExhausted := by
  cases h with
  | exhausted _ => rfl
  | created hne => exact absurd hnext hne

end Resource

theorem Desk.conclude_eq_error {kind : Kind} {r : Request schema} {a : Answer r} {f : Failure}
    (h : conclude kind r a = .error f) : ∃ e, a = .error e ∧ f = storeFailure kind e := by
  cases a with
  | ok reply => cases h
  | error e => exact ⟨e, rfl, (Except.error.inj h).symm⟩

theorem Desk.ofBody_map_ne_internal {α β : Type} (e : Except Body.Problem α) (f : α → β) (detail : String) :
    (ofBody e).map f ≠ .error (.internal detail) := by
  cases e <;> exact fun h => by cases h

theorem Desk.storeRequest_ne_internal (kind : Kind) (params : Pattern.Params) (body : List UInt8)
    (op : Operation) (detail : String) : storeRequest kind params body op ≠ .error (.internal detail) := by
  cases op with
  | list => exact fun h => by cases h
  | detail =>
    simp only [storeRequest, pathId]
    cases ResourceId.read ((params.get? "id").getD "") <;> exact fun h => by cases h
  | create | edit | remove => exact ofBody_map_ne_internal _ _ detail

theorem Desk.Reads.creates_iff {kind : Kind} {params : Pattern.Params} {body : List UInt8} {op : Operation}
    {r : Request schema} (h : Reads kind params body op r) : op = .create ↔ ∃ draft, r = .create draft := by
  cases h with
  | create _ => exact iff_of_true rfl ⟨_, rfl⟩
  | list | detail _ | edit _ | remove _ =>
    refine iff_of_false (fun h => by cases h) ?_
    rintro ⟨_, h⟩
    cases h

theorem Operation.method_eq_post {op : Operation} {m : Method} {tail : List Segment} (h : (m, tail) ∈ op.tails)
    (hlist : op ≠ .list) (hdetail : op ≠ .detail) : m = .post := by
  cases op with
  | list => exact absurd rfl hlist
  | detail => exact absurd rfl hdetail
  | create =>
    simp only [tails, List.mem_cons, Prod.mk.injEq, List.not_mem_nil, or_false] at h
    rcases h with h | h <;> exact h.1
  | edit | remove =>
    simp only [tails, List.mem_singleton, Prod.mk.injEq] at h
    exact h.1

theorem RouteTable.Serves.method_eq_post {t : RouteTable Endpoint} {base : Pattern} (ht : t.Serves base)
    {m : Method} {path : String} {x : Resolved Endpoint} (hx : t.resolve m path = .ok x)
    (hlist : x.route.endpoint.operation ≠ .list) (hdetail : x.route.endpoint.operation ≠ .detail) :
    m = .post := by
  have hw := (resolve_eq_ok_iff.mp hx).1
  obtain ⟨k, op, tail, hleads⟩ := ht.sound x.route hw.matching.1
  rw [hleads.endpoint_eq] at hlist hdetail
  rw [← hw.method_eq]
  exact Operation.method_eq_post hleads.mem_tails hlist hdetail

namespace Service

inductive Obstructs (s : Service) (policy : Policy) (call : Call) : Prop
  | unrouted {e : RouteError} (hx : s.routes.resolve call.method call.path = .error e)
  | denied {x : Resolved Endpoint} {f : Forbidden} (hx : s.routes.resolve call.method call.path = .ok x)
      (hgate : policy.require call.caller x.route.permission = .error f)
  | unread {x : Resolved Endpoint} {f : Failure} (hx : s.routes.resolve call.method call.path = .ok x)
      (hread : Desk.storeRequest x.route.endpoint.kind x.params call.body x.route.endpoint.operation = .error f)
  | absent {x : Resolved Endpoint} {r : Request schema} {st : Store schema} {id : ResourceId}
      (hx : s.routes.resolve call.method call.path = .ok x)
      (hread : Desk.Reads x.route.endpoint.kind x.params call.body x.route.endpoint.operation r)
      (hstore : s.store? x.route.endpoint.kind = some st) (hid : Resource.Names id r)
      (hget : st.resource? id = none)
  | exhausted {x : Resolved Endpoint} {st : Store schema} (hx : s.routes.resolve call.method call.path = .ok x)
      (hop : x.route.endpoint.operation = .create) (hstore : s.store? x.route.endpoint.kind = some st)
      (hnext : st.next = Store.lastNumber)

structure Exhausts (s : Service) (policy : Policy) (kind : Kind) (call : Call) : Prop where
  routed : ∃ x, s.routes.resolve call.method call.path = .ok x ∧ x.route.endpoint = ⟨kind, .create⟩
  allowed : policy.check call.caller (.forResource kind "add") = .allowed
  readable : ∃ payload, Body.payload call.body = .ok payload
  exhausted : ∃ st, s.store? kind = some st ∧ st.next = Store.lastNumber

variable {routes : RouteTable Endpoint} {base : Pattern} {policy : Policy} {stores stores' : Kind → Store schema}
  {call : Call} {result : Except Failure Json} {f : Failure}

theorem Effect.eq_of_error (h : Effect routes policy stores call result stores') (hf : result = .error f) :
    stores' = stores := by
  cases h with
  | unrouted _ | denied _ _ | unread _ _ _ => rfl
  | answered hx hgate hread hstore =>
    obtain ⟨e, rfl, -⟩ := Desk.conclude_eq_error hf
    rw [hstore.of_error.1, Function.update_eq_self]

theorem Effect.eq_of_not_post (h : Effect routes policy stores call result stores') (hserves : routes.Serves base)
    (hpost : call.method ≠ .post) : stores' = stores := by
  cases h with
  | unrouted _ | denied _ _ | unread _ _ _ => rfl
  | @answered x r a st hx hgate hread hstore =>
    have hop : x.route.endpoint.operation = .list ∨ x.route.endpoint.operation = .detail := by
      by_contra hop
      rw [not_or] at hop
      exact hpost (hserves.method_eq_post hx hop.1 hop.2)
    generalize x.route.endpoint = endpoint at hop hread hstore
    have hsame : st = stores endpoint.kind := by
      rcases hop with hop | hop <;> rw [hop] at hread <;> cases hread <;> cases hstore <;> rfl
    rw [hsame, Function.update_eq_self]

theorem Effect.error_iff (h : Effect routes policy stores call result stores') :
    (∃ f, result = .error f) ↔ (running routes policy stores).Obstructs policy call := by
  constructor
  · rintro ⟨f, hf⟩
    cases h with
    | unrouted hx => exact .unrouted hx
    | denied hx hgate => exact .denied hx hgate
    | unread hx _ hread => exact .unread hx hread
    | answered hx _ hread hstore =>
      obtain ⟨e, rfl, -⟩ := Desk.conclude_eq_error hf
      rcases hstore.of_error.2 with ⟨id, hid, hget, -⟩ | ⟨⟨draft, rfl⟩, hnext, -⟩
      · exact .absent hx hread rfl hid hget
      · exact .exhausted hx (hread.creates_iff.mpr ⟨_, rfl⟩) rfl hnext
  · intro hobs
    cases h with
    | unrouted _ | denied _ _ | unread _ _ _ => exact ⟨_, rfl⟩
    | @answered x r a st hx hgate hread hstore =>
      have herror : ∃ e, a = .error e := by
        cases hobs with
        | unrouted hx' => cases hx.symm.trans hx'
        | denied hx' hgate' =>
          cases hx.symm.trans hx'
          cases hgate.symm.trans hgate'
        | unread hx' hread' =>
          cases hx.symm.trans hx'
          cases (Desk.reads_iff.mp hread).symm.trans hread'
        | absent hx' hread' hstore' hid hget =>
          cases hx.symm.trans hx'
          cases (Desk.reads_iff.mp hread).symm.trans (Desk.reads_iff.mp hread')
          cases hstore'
          exact hstore.error_of_absent hid hget
        | exhausted hx' hop hstore' hnext =>
          cases hx.symm.trans hx'
          cases hstore'
          obtain ⟨draft, rfl⟩ := hread.creates_iff.mp hop
          exact ⟨_, hstore.error_of_exhausted hnext⟩
      obtain ⟨e, rfl⟩ := herror
      exact ⟨_, rfl⟩

theorem handle_atomic {settings : Settings} {s₀ : Service} (h : Service.start settings policy = .ok s₀)
    (calls : List Call) (call : Call) :
    let s := s₀.after calls
    ((s.handle call).1.status ≠ 200 → (s.handle call).2 = s) ∧
    (call.method ≠ .post → (s.handle call).2 = s) ∧
    ((s.handle call).1.status ≠ 200 ↔ s.Obstructs policy call) := by
  intro s
  obtain ⟨-, -, routes, hroutes, rfl⟩ := start_eq_ok_iff.mp h
  obtain ⟨base, -, hserves⟩ := Endpoint.routesUnder_serves hroutes
  obtain ⟨stores, hs, hsound⟩ : ∃ stores, s = running routes policy stores ∧ _ :=
    after_running routes policy Resource.sound_ofKind calls
  obtain ⟨result, stores', hhandle, heff⟩ := handle_effect routes policy hsound call
  clear_value s
  subst hs
  rw [hhandle, Response.status_ne_ok_iff]
  refine ⟨fun ⟨f, hf⟩ => ?_, fun hpost => ?_, heff.error_iff⟩
  · exact congrArg (running routes policy) (heff.eq_of_error hf)
  · exact congrArg (running routes policy) (heff.eq_of_not_post hserves hpost)

theorem handle_keeps_all_of_partial_removal :
    let create := Call.postJson "/acme/orders/create" .anonymous (.object [])
    let remove := Call.postJson "/acme/orders/remove" .anonymous
      (.object [("ids", .array [.ofUInt64 1, .ofUInt64 2])])
    ∃ s, Service.start ⟨"/\x7borg\x7d", 32, "info"⟩ (.always .allowed) = .ok s ∧
      ((s.after [create]).handle remove).1.status = 404 ∧
      ((s.after [create]).handle remove).2 = s.after [create] := by
  intro create remove
  have hrun : ((Service.start ⟨"/\x7borg\x7d", 32, "info"⟩ (.always .allowed)).service?.any fun s =>
      ((s.after [create]).handle remove).1.status = 404) = true := by
    decide +kernel
  obtain ⟨s, hs, hrun⟩ := Startup.exists_ok_of_any hrun
  have hstatus : ((s.after [create]).handle remove).1.status = 404 := of_decide_eq_true hrun
  refine ⟨s, hs, hstatus, (handle_atomic hs [create] remove).1 ?_⟩
  rw [hstatus]
  decide

theorem Effect.of_internal (h : Effect routes policy stores call result stores') (hserves : routes.Serves base)
    {detail : String} (hf : result = .error (.internal detail)) :
    detail = "Id space exhausted" ∧ ∃ kind, (running routes policy stores).Exhausts policy kind call := by
  cases h with
  | unrouted hx =>
    rw [RouteTable.resolve_eq_error hx] at hf
    cases hf
  | denied _ _ => cases hf
  | unread _ _ hread =>
    cases hf
    exact absurd hread (Desk.storeRequest_ne_internal _ _ _ _ _)
  | @answered x r a st hx hgate hread hstore =>
    obtain ⟨e, rfl, he⟩ := Desk.conclude_eq_error hf
    rcases hstore.of_error.2 with ⟨id, -, -, rfl⟩ | ⟨⟨draft, rfl⟩, hnext, rfl⟩
    · cases he
    · have hop : x.route.endpoint.operation = .create := hread.creates_iff.mpr ⟨_, rfl⟩
      have hcreate : x.route.endpoint = ⟨x.route.endpoint.kind, .create⟩ := by rw [← hop]
      rw [hserves.permission_eq hx, hcreate] at hgate
      rw [hop] at hread
      cases hread with
      | create hbody =>
        cases he
        exact ⟨rfl, _, ⟨x, hx, hcreate⟩, Policy.require_eq_ok_iff.mp hgate, ⟨_, hbody⟩, _, rfl, hnext⟩

theorem Exhausts.result_eq {kind : Kind} (hex : (running routes policy stores).Exhausts policy kind call)
    (hserves : routes.Serves base) (h : Effect routes policy stores call result stores') :
    result = .error (.internal "Id space exhausted") := by
  obtain ⟨⟨x, hx, he⟩, hallowed, ⟨payload, hbody⟩, st, hstore, hnext⟩ := hex
  have hgate := hserves.require_eq_ok hx he rfl hallowed
  have hread : Desk.Reads x.route.endpoint.kind x.params call.body x.route.endpoint.operation
      (.create ⟨kind, payload⟩) := by
    rw [he]
    exact .create hbody
  obtain ⟨a, st', heff, rfl, -⟩ := h.of_reads hx hgate hread
  rw [he] at heff
  cases hstore
  rw [heff.error_of_exhausted hnext]
  rfl

theorem handle_faults {settings : Settings} {s₀ : Service} (h : Service.start settings policy = .ok s₀)
    (calls : List Call) (call : Call) :
    let s := s₀.after calls
    (∀ kind, ∃ st, s.store? kind = some st) ∧
    (∀ detail, (s.dispatch call).1 = .error (.internal detail) → detail = "Id space exhausted") ∧
    ((s.handle call).1.status ∈ [200, 400, 403, 404] ∨ ∃ kind, s.Exhausts policy kind call) ∧
    (∀ kind, s.Exhausts policy kind call → (s.handle call).1.status = 500) ∧
    (∀ x st, s.routes.resolve call.method call.path = .ok x → s.store? x.route.endpoint.kind = some st →
      st.next < Store.lastNumber → (s.handle call).1.status ∈ [200, 400, 403, 404]) := by
  intro s
  obtain ⟨-, -, routes, hroutes, rfl⟩ := start_eq_ok_iff.mp h
  obtain ⟨base, -, hserves⟩ := Endpoint.routesUnder_serves hroutes
  obtain ⟨stores, hs, hsound⟩ : ∃ stores, s = running routes policy stores ∧ _ :=
    after_running routes policy Resource.sound_ofKind calls
  obtain ⟨result, stores', hdispatch, heff⟩ := dispatch_effect routes policy hsound call
  clear_value s
  subst hs
  rw [handle, hdispatch]
  have hstatus : (Response.ofResult result).status ∈ [200, 400, 403, 404] ∨
      ∃ kind, (running routes policy stores).Exhausts policy kind call := by
    cases result with
    | ok body => exact Or.inl (by simp [Response.ofResult, Response.ok])
    | error f =>
      rcases f.status_cases with hf | ⟨detail, rfl⟩
      · exact Or.inl (List.mem_cons_of_mem _ hf)
      · exact Or.inr (heff.of_internal hserves rfl).2
  refine ⟨fun kind => ⟨stores kind, rfl⟩, fun detail hf => (heff.of_internal hserves hf).1, hstatus,
    fun kind hex => ?_, fun x st hx hstore hnext => ?_⟩
  · rw [hex.result_eq hserves heff]
    rfl
  · refine hstatus.resolve_right ?_
    rintro ⟨kind, ⟨x', hx', he⟩, -, -, st', hstore', hlast⟩
    cases hx.symm.trans hx'
    rw [he] at hstore
    cases hstore.symm.trans hstore'
    rw [hlast] at hnext
    exact absurd hnext (UInt64.lt_irrefl _)

theorem handle_empty_edit_status :
    ∃ s x st, Service.start ⟨"/\x7borg\x7d", 32, "info"⟩ .byGrants = .ok s ∧
      s.routes.resolve .post "/acme/orders/edit" = .ok x ∧ s.store? x.route.endpoint.kind = some st ∧
      st.next < Store.lastNumber ∧
      (s.handle ⟨.post, "/acme/orders/edit", .anonymous, []⟩).1.status ∈ [200, 400, 403, 404] := by
  obtain ⟨t, b, ht, -, hsegments, hserves⟩ := Endpoint.serves_below_parameter
  have hpath : Path.segments "/acme/orders/edit" = ["acme"] ++ Kind.orders.segment :: ["edit"] := rfl
  have hbase : Pattern.bindings b.segments ["acme"] = some [("org", "acme")] := by
    rw [hsegments]
    rfl
  obtain ⟨r, -, -, -, hresolve⟩ := hserves.resolve_of_asks hpath hbase .edit
  have hstart : Service.start ⟨"/\x7borg\x7d", 32, "info"⟩ .byGrants =
      .ok (running t .byGrants Store.ofKind) :=
    start_eq_ok_iff.mpr ⟨rfl, by decide, t, ht, rfl⟩
  have hnext : (1 : UInt64) < Store.lastNumber := by decide
  exact ⟨_, _, Store.ofKind r.endpoint.kind, hstart, hresolve, rfl, hnext,
    (handle_faults hstart [] ⟨.post, "/acme/orders/edit", .anonymous, []⟩).2.2.2.2 _ _ hresolve rfl hnext⟩

end Service

end GatedStore
