import GatedStore.Proofs.Answers
import GatedStore.Proofs.BodyTexts
import GatedStore.Proofs.Ledger
import GatedStore.Proofs.ServiceWrites

/-! A service keeps to the ledgers of its kinds. A ledger is read off the calls and their responses alone:
what the bodies of the calls that succeeded say is to be written, in their order. -/

namespace GatedStore

open Resource (schema)

namespace Exchange

def replyId? (e : Exchange) : Option ResourceId :=
  (e.response.body.member? "id").bind Json.natural?

inductive Enters (t : RouteTable Endpoint) (kind : Kind) (e : Exchange) : Entry → Prop
  | created {id : ResourceId} {payload : Payload} (h : e.succeeds t ⟨kind, .create⟩ = true)
      (hbody : Body.HoldsPayload e.call.body payload) (hid : e.replyId? = some id) :
      Enters t kind e (.created id payload)
  | edited {id : ResourceId} {payload : Payload} (h : e.succeeds t ⟨kind, .edit⟩ = true)
      (hbody : Body.HoldsEdit e.call.body id payload) : Enters t kind e (.edited id payload)
  | removed {ids : List ResourceId} (h : e.succeeds t ⟨kind, .remove⟩ = true)
      (hbody : Body.HoldsIds e.call.body ids) : Enters t kind e (.removed ids)

def Passes (t : RouteTable Endpoint) (kind : Kind) (e : Exchange) : Prop :=
  ∀ op, e.succeeds t ⟨kind, op⟩ = true → op = .list ∨ op = .detail

/-- The ledger of a kind after exchanges: none that writes is left out, and nothing else is entered. -/
inductive Records (t : RouteTable Endpoint) (kind : Kind) : List Exchange → Ledger → Prop
  | nil : Records t kind [] []
  | entered {es : List Exchange} {log : Ledger} {e : Exchange} {entry : Entry} (h : Records t kind es log)
      (he : e.Enters t kind entry) : Records t kind (es ++ [e]) (log ++ [entry])
  | passed {es : List Exchange} {log : Ledger} {e : Exchange} (h : Records t kind es log) (he : e.Passes t kind) :
      Records t kind (es ++ [e]) log

variable {t : RouteTable Endpoint} {policy : Policy} {kind : Kind} {op : Operation} {e : Exchange}
  {es : List Exchange} {log log' : Ledger} {entry entry' : Entry} {st st' : Store schema}

theorem endpoint_of_succeeds {op' : Operation} (h : e.succeeds t ⟨kind, op⟩ = true)
    (h' : e.succeeds t ⟨kind, op'⟩ = true) : op = op' := by
  cases (succeeds_iff.mp h).1.symm.trans (succeeds_iff.mp h').1
  rfl

theorem Enters.unique (h : e.Enters t kind entry) (h' : e.Enters t kind entry') : entry = entry' := by
  cases h with
  | created h hbody hid =>
    cases h' with
    | created _ hbody' hid' =>
      cases (Body.holdsPayload_iff.mp hbody).symm.trans (Body.holdsPayload_iff.mp hbody')
      cases hid.symm.trans hid'
      rfl
    | edited h' _ | removed h' _ => cases endpoint_of_succeeds h h'
  | edited h hbody =>
    cases h' with
    | edited _ hbody' =>
      cases (Body.holdsEdit_iff.mp hbody).symm.trans (Body.holdsEdit_iff.mp hbody')
      rfl
    | created h' _ _ | removed h' _ => cases endpoint_of_succeeds h h'
  | removed h hbody =>
    cases h' with
    | removed _ hbody' =>
      cases (Body.holdsIds_iff.mp hbody).symm.trans (Body.holdsIds_iff.mp hbody')
      rfl
    | created h' _ _ | edited h' _ => cases endpoint_of_succeeds h h'

theorem Enters.not_passes (h : e.Enters t kind entry) : ¬ e.Passes t kind := by
  intro hpasses
  cases h with
  | created h _ _ | edited h _ | removed h _ => rcases hpasses _ h with h | h <;> cases h

theorem Records.unique (h : Records t kind es log) (h' : Records t kind es log') : log = log' := by
  induction h generalizing log' with
  | nil =>
    generalize hes : ([] : List Exchange) = es at h'
    cases h' with
    | nil => rfl
    | entered | passed => simp at hes
  | @entered es log e entry _ he ih =>
    generalize hes : es ++ [e] = es' at h'
    cases h' with
    | nil => simp at hes
    | entered h' he' =>
      obtain ⟨rfl, hlast⟩ := List.append_inj' hes rfl
      cases hlast
      rw [ih h', he.unique he']
    | passed _ hpasses =>
      obtain ⟨-, hlast⟩ := List.append_inj' hes rfl
      cases hlast
      exact absurd hpasses he.not_passes
  | @passed es log e _ hpasses ih =>
    generalize hes : es ++ [e] = es' at h'
    cases h' with
    | nil => simp at hes
    | entered _ he' =>
      obtain ⟨-, hlast⟩ := List.append_inj' hes rfl
      cases hlast
      exact absurd hpasses he'.not_passes
    | passed h' _ =>
      obtain ⟨rfl, -⟩ := List.append_inj' hes rfl
      exact ih h'

def creations (t : RouteTable Endpoint) (kind : Kind) (es : List Exchange) : List Exchange :=
  es.filter (succeeds t ⟨kind, .create⟩)

/-- A store holds what the ledger says, and its counter has passed one number for each creation. -/
structure Tracks (t : RouteTable Endpoint) (kind : Kind) (es : List Exchange) (log : Ledger) (st : Store schema) :
    Prop where
  sound : Resource.Sound kind st
  records : Records t kind es log
  next_eq : st.next.toNat = (creations t kind es).length + 1
  numbered : ∀ i e, (creations t kind es)[i]? = some e → ∃ id payload, id.toNat = i + 1 ∧
    Body.HoldsPayload e.call.body payload ∧ e.response.Shows ⟨id, kind, payload⟩
  payload_eq : ∀ id, (st.resource? id).map (·.payload) = log.current? id

theorem tracks_ofKind : Tracks t kind [] [] (Store.ofKind kind) :=
  ⟨Resource.sound_ofKind kind, .nil, rfl, fun _ _ h => (by cases h), fun _ => rfl⟩

theorem creations_concat_of_not (h : e.succeeds t ⟨kind, .create⟩ = false) :
    creations t kind (es ++ [e]) = creations t kind es := by
  rw [creations, List.filter_append, List.filter_singleton, h]
  exact List.append_nil _

theorem creations_concat (h : e.succeeds t ⟨kind, .create⟩ = true) :
    creations t kind (es ++ [e]) = creations t kind es ++ [e] := by
  rw [creations, List.filter_append, List.filter_singleton, h]
  rfl

theorem replyId?_of_resource {r : Resource} (h : e.response = .ok r.toJson) : e.replyId? = some r.id := by
  rw [replyId?, h]
  exact r.depicts_toJson.id_eq

theorem succeeds_of_ok {body : Json} (he : e.endpoint? t = some ⟨kind, op⟩) (hresponse : e.response = .ok body) :
    e.succeeds t ⟨kind, op⟩ = true :=
  succeeds_iff.mpr ⟨he, by simp [hresponse]⟩

theorem enters_created {id : ResourceId} {payload : Payload} (he : e.endpoint? t = some ⟨kind, .create⟩)
    (hbody : Body.payload e.call.body = .ok payload)
    (hresponse : e.response = .ok (Resource.toJson ⟨id, kind, payload⟩)) : e.Enters t kind (.created id payload) :=
  .created (succeeds_of_ok he hresponse) (Body.holdsPayload_iff.mpr hbody) (replyId?_of_resource hresponse)

theorem enters_edited {id : ResourceId} {payload : Payload} {body : Json}
    (he : e.endpoint? t = some ⟨kind, .edit⟩) (hbody : Body.edit e.call.body = .ok (id, payload))
    (hresponse : e.response = .ok body) : e.Enters t kind (.edited id payload) :=
  .edited (succeeds_of_ok he hresponse) (Body.holdsEdit_iff.mpr hbody)

theorem enters_removed {ids : List ResourceId} {body : Json} (he : e.endpoint? t = some ⟨kind, .remove⟩)
    (hbody : Body.remove e.call.body = .ok ids) (hresponse : e.response = .ok body) :
    e.Enters t kind (.removed ids) :=
  .removed (succeeds_of_ok he hresponse) (Body.holdsIds_iff.mpr hbody)

theorem not_creates {op : Operation} (he : e.endpoint? t = some ⟨kind, op⟩) (hop : op ≠ .create) :
    e.succeeds t ⟨kind, .create⟩ = false := by
  rw [Bool.eq_false_iff]
  intro h
  cases he.symm.trans (succeeds_iff.mp h).1
  exact hop rfl

theorem Tracks.of_not_creates (h : Tracks t kind es log st) (hcreate : e.succeeds t ⟨kind, .create⟩ = false)
    (hs : Resource.Sound kind st') (hrecords : Records t kind (es ++ [e]) log') (hnext : st'.next = st.next)
    (hpayload : ∀ id, (st'.resource? id).map (·.payload) = log'.current? id) :
    Tracks t kind (es ++ [e]) log' st' := by
  refine ⟨hs, hrecords, ?_, ?_, hpayload⟩
  · rw [hnext, creations_concat_of_not hcreate]
    exact h.next_eq
  · rw [creations_concat_of_not hcreate]
    exact h.numbered

theorem Tracks.create (h : Tracks t kind es log st) {payload : Payload}
    (he : e.endpoint? t = some ⟨kind, .create⟩) (hbody : Body.payload e.call.body = .ok payload)
    (hnext : st.next ≠ Store.lastNumber) (hresponse : e.response = .ok (Resource.toJson ⟨st.next, kind, payload⟩)) :
    Tracks t kind (es ++ [e]) (log ++ [.created st.next payload])
      (st.counted.keep st.next ⟨st.next, kind, payload⟩) := by
  have hcreate := succeeds_of_ok he hresponse
  refine ⟨h.sound.counted_keep hnext payload, h.records.entered (enters_created he hbody hresponse), ?_,
    fun i e' hi => ?_, fun id => ?_⟩
  · have hcount : (st.counted.keep st.next ⟨st.next, kind, payload⟩).next.toNat = st.next.toNat + 1 :=
      Store.toNat_next_counted hnext
    rw [hcount, creations_concat hcreate, List.length_append, h.next_eq]
    rfl
  · rw [creations_concat hcreate, List.getElem?_append] at hi
    split at hi
    · exact h.numbered i e' hi
    · rename_i hlen
      have hlast : i - (creations t kind es).length = 0 ∧ e = e' := by
        rw [List.getElem?_singleton] at hi
        split at hi
        · rename_i hzero
          exact ⟨hzero, Option.some.inj hi⟩
        · cases hi
      obtain ⟨hzero, rfl⟩ := hlast
      refine ⟨st.next, payload, ?_, Body.holdsPayload_iff.mpr hbody, hresponse ▸ Response.shows_ok _⟩
      have hnext := h.next_eq
      omega
  · by_cases hid : id = st.next
    · simp [Ledger.apply, hid]
    · simp [Ledger.apply, ← h.payload_eq, hid, Ne.symm hid]

theorem Tracks.edit (h : Tracks t kind es log st) {id : ResourceId} {payload : Payload} {r : Resource}
    (he : e.endpoint? t = some ⟨kind, .edit⟩) (hbody : Body.edit e.call.body = .ok (id, payload))
    (hget : st.resource? id = some r) (hresponse : e.response = .ok (Resource.toJson ⟨id, kind, payload⟩)) :
    Tracks t kind (es ++ [e]) (log ++ [.edited id payload]) (st.keep id ⟨id, kind, payload⟩) := by
  have hrecords := h.records.entered (enters_edited he hbody hresponse)
  refine h.of_not_creates (not_creates he fun h => by cases h) (h.sound.keep hget payload) hrecords rfl fun id' => ?_
  by_cases hid : id' = id
  · simp [Ledger.apply, ← h.payload_eq, hid, hget]
  · simp [Ledger.apply, ← h.payload_eq, hid, Ne.symm hid]

theorem Tracks.remove (h : Tracks t kind es log st) {ids : List ResourceId} {body : Json}
    (he : e.endpoint? t = some ⟨kind, .remove⟩) (hbody : Body.remove e.call.body = .ok ids)
    (hresponse : e.response = .ok body) :
    Tracks t kind (es ++ [e]) (log ++ [.removed ids]) (st.eraseAll ids.eraseDups) := by
  have hrecords := h.records.entered (enters_removed he hbody hresponse)
  refine h.of_not_creates (not_creates he fun h => by cases h) (h.sound.eraseAll _) hrecords rfl fun id => ?_
  by_cases hid : id ∈ ids <;> simp [Ledger.apply, ← h.payload_eq, hid]

theorem Tracks.resource?_eq_some_iff (h : Tracks t kind es log st) {id : ResourceId} {r : Resource} :
    st.resource? id = some r ↔ r.id = id ∧ r.kind = kind ∧ log.Present id ∧ log.latest? id = some r.payload := by
  rw [← Ledger.current?_eq_some_iff, ← h.payload_eq]
  constructor
  · intro hget
    obtain ⟨hid, hkind⟩ := h.sound.item_eq hget
    exact ⟨hid, hkind, by rw [hget]; rfl⟩
  · rintro ⟨rfl, rfl, hpayload⟩
    obtain ⟨r', hget, hr'⟩ := Option.map_eq_some_iff.mp hpayload
    obtain ⟨hid, hkind⟩ := h.sound.item_eq hget
    cases r
    cases r'
    cases hid
    cases hkind
    cases hr'
    exact hget

theorem Tracks.exists_resource_iff (h : Tracks t kind es log st) {id : ResourceId} :
    (∃ r, st.resource? id = some r) ↔ log.Present id := by
  constructor
  · rintro ⟨r, hget⟩
    exact (h.resource?_eq_some_iff.mp hget).2.2.1
  · intro hpresent
    obtain ⟨payload, hlatest⟩ := hpresent.exists_latest
    exact ⟨⟨id, kind, payload⟩, h.resource?_eq_some_iff.mpr ⟨rfl, rfl, hpresent, hlatest⟩⟩

theorem Tracks.step (h : Tracks t kind es log st) (hw : Writes t policy kind e st st') :
    ∃ log', Tracks t kind (es ++ [e]) log' st' := by
  cases hw with
  | nothing hread =>
    have hcreate : e.succeeds t ⟨kind, .create⟩ = false := by
      rw [Bool.eq_false_iff]
      intro hop
      rcases hread .create hop with h | h <;> cases h
    exact ⟨log, h.of_not_creates hcreate h.sound (h.records.passed hread) rfl h.payload_eq⟩
  | created he _ hbody hnext hresponse => exact ⟨_, h.create he hbody hnext hresponse⟩
  | edited he _ hbody hget hresponse => exact ⟨_, h.edit he hbody hget hresponse⟩
  | removed he _ hbody _ hresponse => exact ⟨_, h.remove he hbody hresponse⟩

end Exchange

namespace Service

variable {routes : RouteTable Endpoint} {policy : Policy} {stores stores' : Kind → Store schema} {call : Call}
  {result : Except Failure Json} {x : Resolved Endpoint} {kind : Kind}

def history (s : Service) : List Call → List Exchange
  | [] => []
  | call :: calls => ⟨call, (s.handle call).1⟩ :: (s.handle call).2.history calls

theorem history_concat (s : Service) (calls : List Call) (call : Call) :
    s.history (calls ++ [call]) = s.history calls ++ [⟨call, ((s.after calls).handle call).1⟩] := by
  induction calls generalizing s with
  | nil => rfl
  | cons first calls ih =>
    rw [List.cons_append, history, ih, history]
    rfl

theorem tracks_history {base : Pattern} (hserves : routes.Serves base) (policy : Policy) (calls : List Call) :
    let s := running routes policy Store.ofKind
    ∃ stores, s.after calls = running routes policy stores ∧
      ∀ kind, ∃ log, Exchange.Tracks routes kind (s.history calls) log (stores kind) := by
  intro s
  induction calls using List.reverseRecOn with
  | nil => exact ⟨_, rfl, fun kind => ⟨[], Exchange.tracks_ofKind⟩⟩
  | append_singleton calls call ih =>
    obtain ⟨stores, hafter, htracks⟩ := ih
    obtain ⟨result, stores', hhandle, heff⟩ := handle_effect routes policy (fun kind => (htracks kind).choose_spec.sound) call
    refine ⟨stores', ?_, fun kind => ?_⟩
    · rw [after_concat, hafter, hhandle]
    · obtain ⟨log, hlog⟩ := htracks kind
      rw [history_concat, hafter, hhandle]
      exact hlog.step (heff.writes hserves kind)

theorem Effect.detail (h : Effect routes policy stores call result stores')
    (hx : routes.resolve call.method call.path = .ok x) (he : x.route.endpoint = ⟨kind, .detail⟩)
    (hperm : x.route.permission = none) {id : ResourceId} (hid : Desk.pathId kind x.params = .ok id) :
    (∃ r, (stores kind).resource? id = some r ∧ result = .ok r.toJson) ∨
      (stores kind).resource? id = none ∧ ∃ f, result = .error f := by
  have hgate : policy.require call.caller x.route.permission = .ok () := by
    rw [hperm]
    rfl
  have hread : Desk.Reads x.route.endpoint.kind x.params call.body x.route.endpoint.operation (.get id) := by
    rw [he]
    exact .detail hid
  obtain ⟨a, st, hstore, rfl, -⟩ := h.of_reads hx hgate hread
  rw [he] at hstore
  cases hstore with
  | found hget => exact Or.inl ⟨_, hget, rfl⟩
  | missing hget => exact Or.inr ⟨hget, _, rfl⟩

theorem Effect.list (h : Effect routes policy stores call result stores')
    (hx : routes.resolve call.method call.path = .ok x) (he : x.route.endpoint = ⟨kind, .list⟩)
    (hgate : policy.require call.caller x.route.permission = .ok ()) :
    result = .ok (.array ((stores kind).resources.map Resource.toJson)) := by
  have hread : Desk.Reads x.route.endpoint.kind x.params call.body x.route.endpoint.operation .list := by
    rw [he]
    exact .list
  obtain ⟨a, st, hstore, rfl, -⟩ := h.of_reads hx hgate hread
  rw [he] at hstore
  cases hstore
  rfl

theorem Effect.detail_ledger (h : Effect routes policy stores call result stores') {es : List Exchange} {log : Ledger}
    (htracks : Exchange.Tracks routes kind es log (stores kind)) (hx : routes.resolve call.method call.path = .ok x)
    (he : x.route.endpoint = ⟨kind, .detail⟩) (hperm : x.route.permission = none) {id : ResourceId}
    (hid : Desk.pathId kind x.params = .ok id) :
    ((Response.ofResult result).isSuccess = true ↔ log.Present id) ∧
      (log.Present id → ∃ payload, log.latest? id = some payload ∧
        (Response.ofResult result).Shows ⟨id, kind, payload⟩) := by
  rcases h.detail hx he hperm hid with ⟨r, hget, rfl⟩ | ⟨hnone, f, rfl⟩
  · obtain ⟨rfl, rfl, hpresent, hlatest⟩ := htracks.resource?_eq_some_iff.mp hget
    exact ⟨iff_of_true rfl hpresent, fun _ => ⟨r.payload, hlatest, Response.shows_ok r⟩⟩
  · have habsent : ¬ log.Present id := by
      intro hpresent
      obtain ⟨r, hget⟩ := htracks.exists_resource_iff.mpr hpresent
      cases hnone.symm.trans hget
    refine ⟨iff_of_false ?_ habsent, fun hpresent => absurd hpresent habsent⟩
    exact Bool.eq_false_iff.mp (Response.isSuccess_ofFailure f)

theorem Effect.list_ledger (h : Effect routes policy stores call result stores') {es : List Exchange} {log : Ledger}
    (htracks : Exchange.Tracks routes kind es log (stores kind)) (hx : routes.resolve call.method call.path = .ok x)
    (he : x.route.endpoint = ⟨kind, .list⟩) (hgate : policy.require call.caller x.route.permission = .ok ()) :
    ∃ rs : List Resource, (Response.ofResult result).ShowsAll rs ∧ rs.Pairwise (fun a b => a.id < b.id) ∧
      ∀ r, r ∈ rs ↔ r.kind = kind ∧ log.Present r.id ∧ log.latest? r.id = some r.payload := by
  obtain rfl := h.list hx he hgate
  refine ⟨(stores kind).resources, Response.showsAll_ok _, htracks.sound.resources_pairwise, fun r => ?_⟩
  rw [htracks.sound.mem_resources_iff, htracks.resource?_eq_some_iff]
  exact and_iff_right rfl

theorem history_ledger {settings : Settings} {s : Service} (h : Service.start settings policy = .ok s)
    (calls : List Call) (kind : Kind) :
    let es := s.history calls
    ∃ log, Exchange.Records s.routes kind es log ∧ (∀ log', Exchange.Records s.routes kind es log' → log' = log) ∧
      (∀ i e, (Exchange.creations s.routes kind es)[i]? = some e → ∃ id payload, id.toNat = i + 1 ∧
        Body.HoldsPayload e.call.body payload ∧ e.response.Shows ⟨id, kind, payload⟩) ∧
      (∀ call x id, s.routes.resolve call.method call.path = .ok x → x.route.endpoint = ⟨kind, .detail⟩ →
        ResourceId.read ((x.params.get? "id").getD "") = .ok id →
        (((s.after calls).handle call).1.isSuccess = true ↔ log.Present id) ∧
          (log.Present id → ∃ payload, log.latest? id = some payload ∧
            ((s.after calls).handle call).1.Shows ⟨id, kind, payload⟩)) ∧
      (∀ call x, s.routes.resolve call.method call.path = .ok x → x.route.endpoint = ⟨kind, .list⟩ →
        policy.check call.caller (.forResource kind "list") = .allowed →
        ∃ rs : List Resource, ((s.after calls).handle call).1.ShowsAll rs ∧
          rs.Pairwise (fun a b => a.id < b.id) ∧
          ∀ r, r ∈ rs ↔ r.kind = kind ∧ log.Present r.id ∧ log.latest? r.id = some r.payload) := by
  intro es
  obtain ⟨-, -, routes, hroutes, rfl⟩ := start_eq_ok_iff.mp h
  obtain ⟨base, -, hserves⟩ := Endpoint.routesUnder_serves hroutes
  obtain ⟨stores, hafter, htracks⟩ := tracks_history hserves policy calls
  have hsound : ∀ k, Resource.Sound k (stores k) := fun k => (htracks k).choose_spec.sound
  obtain ⟨log, htracks⟩ := htracks kind
  refine ⟨log, htracks.records, fun log' hlog => hlog.unique htracks.records, htracks.numbered,
    fun call x id hx he hid => ?_, fun call x hx he hallowed => ?_⟩
  · obtain ⟨result, stores', hhandle, heff⟩ := handle_effect routes policy hsound call
    have hopen : x.route.permission = none := by
      rw [hserves.permission_eq hx, he]
      rfl
    rw [hafter, hhandle]
    exact heff.detail_ledger htracks hx he hopen (Results.mapError_eq_ok_iff.mpr hid)
  · obtain ⟨result, stores', hhandle, heff⟩ := handle_effect routes policy hsound call
    have hgate : policy.require call.caller x.route.permission = .ok () := by
      rw [hserves.permission_eq hx, he]
      exact Policy.require_eq_ok_iff.mpr hallowed
    rw [hafter, hhandle]
    exact heff.list_ledger htracks hx he hgate

theorem detail_after_edit_shows_payload :
    let create := Call.postJson "/acme/orders/create" .anonymous (.object [])
    let edit := Call.postJson "/acme/orders/edit" .anonymous
      (.object [("id", .ofUInt64 1), ("payload", .object [("paid", .bool true)])])
    let detail : Call := ⟨.get, "/acme/orders/1", .anonymous, []⟩
    ∃ s p, Service.start ⟨"/\x7borg\x7d", 32, "info"⟩ (.always .allowed) = .ok s ∧
      Exchange.Records s.routes .orders (s.history [create, edit]) [.created 1 .empty, .edited 1 p] ∧
      ((s.after [create, edit]).handle detail).1.body.member? "payload" = some (.object [("paid", .bool true)]) := by
  intro create edit detail
  have hrun : ((Service.start ⟨"/\x7borg\x7d", 32, "info"⟩ (.always .allowed)).service?.any fun s =>
      let created : Exchange := ⟨create, (s.handle create).1⟩
      let edited : Exchange := ⟨edit, ((s.handle create).2.handle edit).1⟩
      created.succeeds s.routes ⟨.orders, .create⟩ && created.replyId? = some 1 &&
        edited.succeeds s.routes ⟨.orders, .edit⟩ && (s.routes.resolve .get "/acme/orders/1").toOption.any fun x =>
          x.route.endpoint = ⟨.orders, .detail⟩ &&
            (ResourceId.read ((x.params.get? "id").getD "")).toOption = some 1) = true := by
    decide +kernel
  obtain ⟨s, hs, hrun⟩ := Startup.exists_ok_of_any hrun
  simp only [Bool.and_eq_true, decide_eq_true_eq] at hrun
  obtain ⟨⟨⟨hcreated, hid⟩, hedited⟩, hdetail⟩ := hrun
  obtain ⟨x, hx, hdetail⟩ := (Option.any_eq_true _ _).mp hdetail
  simp only [Bool.and_eq_true, decide_eq_true_eq, Results.toOption_eq_some_iff] at hx hdetail
  let p := Payload.ofMembers [("paid", .bool true)]
  have hcreation : Body.HoldsPayload create.body .empty :=
    ⟨_, Json.Reader.ofBytes_chars trivial (by decide), Payload.ofJson?_eq_some_iff.mp rfl⟩
  have hedit : Body.HoldsEdit edit.body 1 p := by
    refine ⟨.ofUInt64 1, .object [("paid", .bool true)], ?_, .number 1, Payload.ofJson?_eq_some_iff.mp rfl⟩
    exact Body.editText_of_ofBytes (Json.Reader.ofBytes_chars ⟨trivial, ⟨trivial, trivial⟩, trivial⟩ (by decide))
      (Or.inl ⟨_, rfl, Json.onlyMember_iff.mpr rfl, Json.onlyMember_iff.mpr rfl⟩)
  have hrecords : Exchange.Records s.routes .orders (s.history [create, edit]) [.created 1 .empty, .edited 1 p] :=
    (Exchange.Records.nil.entered (.created hcreated hcreation hid)).entered (.edited hedited hedit)
  obtain ⟨log, -, hunique, -, hledger, -⟩ := history_ledger hs [create, edit] .orders
  obtain rfl := hunique _ hrecords
  have hpresent : Ledger.Present [.created 1 .empty, .edited 1 p] 1 :=
    ⟨[], .empty, [.edited 1 p], rfl, by simp⟩
  obtain ⟨payload, hlatest, hshows⟩ := (hledger detail x 1 hx hdetail.1 hdetail.2).2 hpresent
  obtain rfl := Option.some.inj hlatest
  exact ⟨s, p, hs, hrecords, hshows.2.payload_eq⟩

end Service

end GatedStore
