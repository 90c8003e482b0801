import GatedStore.Proofs.PayloadText
import GatedStore.Proofs.ServiceFailures
import GatedStore.Proofs.ServiceLedger

/-! A payload that is posted as JSON text comes back as it was, from the call that writes it and from every
later detail, until its resource is edited or removed. -/

namespace GatedStore

open Resource (schema)

def Entry.Overwrites (id : ResourceId) : Entry → Prop
  | .created _ _ => False
  | .edited id' _ => id' = id
  | .removed ids => id ∈ ids

theorem Exchange.Writes.resource?_eq {t : RouteTable Endpoint} {policy : Policy} {kind : Kind} {e : Exchange}
    {st st' : Store schema} (h : Writes t policy kind e st st') (hs : Resource.Sound kind st) {id : ResourceId}
    {r : Resource} (hget : st.resource? id = some r)
    (hkeep : ∀ entry, e.Enters t kind entry → ¬ entry.Overwrites id) : st'.resource? id = some r := by
  cases h with
  | nothing _ => exact hget
  | created he _ hbody _ hresponse =>
    have hne : id ≠ st.next := by
      rintro rfl
      cases hs.resource?_next.symm.trans hget
    simpa [hne] using hget
  | edited he _ hbody _ hresponse =>
    have hne := hkeep _ (enters_edited he hbody hresponse)
    simpa [Ne.symm hne] using hget
  | removed he _ hbody _ hresponse =>
    have hne := hkeep _ (enters_removed he hbody hresponse)
    simpa [show id ∉ _ from hne] using hget

def Pattern.Leads (base : Pattern) (kind : Kind) (op : Operation) (id : Option String) (m : Method)
    (path : String) : Prop :=
  ∃ u rest, Path.segments path = u ++ kind.segment :: rest ∧ (base.bind? u).isSome = true ∧
    Operation.Asks m rest op id

theorem RouteTable.Serves.resolve_leads {t : RouteTable Endpoint} {base : Pattern} (ht : t.Serves base)
    {kind : Kind} {op : Operation} {id : Option String} {m : Method} {path : String}
    (h : base.Leads kind op id m path) :
    ∃ r params, t.resolve m path = .ok ⟨r, withId params id⟩ ∧ r.endpoint = ⟨kind, op⟩ ∧
      r.permission = op.action?.map (Permission.forResource kind) := by
  obtain ⟨u, rest, hpath, hu, hask⟩ := h
  obtain ⟨bu, hbu⟩ := Option.isSome_iff_exists.mp (Option.isSome_map.symm.trans hu)
  obtain ⟨r, -, he, hp, hx⟩ := ht.resolve_of_asks hpath hbu hask
  rw [ofList_append_id] at hx
  exact ⟨r, _, hx, he, hp⟩

namespace Service

variable {routes : RouteTable Endpoint} {base : Pattern} {policy : Policy} {stores : Kind → Store schema}
  {kind : Kind} {id : ResourceId} {p : Payload}

/-- Whatever is called next, as long as no call that succeeds edits or removes the resource, a detail of it shows the
payload. -/
def Keeps (s : Service) (base : Pattern) (kind : Kind) (id : ResourceId) (p : Payload) : Prop :=
  ∀ later, (∀ e ∈ s.history later, ∀ entry, e.Enters s.routes kind entry → ¬ entry.Overwrites id) →
    ∀ path caller body, base.Leads kind .detail (some id.text) .get path →
      ((s.after later).handle ⟨.get, path, caller, body⟩).1.Shows ⟨id, kind, p⟩

theorem after_resource? (hserves : routes.Serves base) (hs : ∀ kind, Resource.Sound kind (stores kind))
    {r : Resource} (hget : (stores kind).resource? id = some r) (later : List Call)
    (hlater : ∀ e ∈ (running routes policy stores).history later, ∀ entry, e.Enters routes kind entry →
      ¬ entry.Overwrites id) :
    ∃ stores', (running routes policy stores).after later = running routes policy stores' ∧
      (∀ kind, Resource.Sound kind (stores' kind)) ∧ (stores' kind).resource? id = some r := by
  induction later generalizing stores with
  | nil => exact ⟨stores, rfl, hs, hget⟩
  | cons call later ih =>
    obtain ⟨result, stores₁, hhandle, heff⟩ := handle_effect routes policy hs call
    rw [history, hhandle] at hlater
    have hget₁ := (heff.writes hserves kind).resource?_eq (hs kind) hget (hlater _ List.mem_cons_self)
    obtain ⟨stores₂, hafter, hs₂, hget₂⟩ :=
      ih (heff.sound hs) hget₁ fun e he => hlater e (List.mem_cons_of_mem _ he)
    refine ⟨stores₂, ?_, hs₂, hget₂⟩
    rw [← hafter, after, List.foldl_cons, hhandle]
    rfl

theorem keeps_of_resource? (hserves : routes.Serves base) (hs : ∀ kind, Resource.Sound kind (stores kind))
    (hget : (stores kind).resource? id = some ⟨id, kind, p⟩) :
    (running routes policy stores).Keeps base kind id p := by
  intro later hlater path caller body hpath
  obtain ⟨stores', hafter, hs', hget'⟩ := after_resource? hserves hs hget later hlater
  obtain ⟨r, params, hx, he, hp⟩ := hserves.resolve_leads hpath
  obtain ⟨result, stores'', hhandle, heff⟩ := handle_effect routes policy hs' ⟨.get, path, caller, body⟩
  rw [hafter, hhandle]
  rcases heff.detail hx he hp Desk.pathId_withId with ⟨r', hget'', rfl⟩ | ⟨hnone, -⟩
  · cases hget'.symm.trans hget''
    exact Response.shows_ok _
  · cases hnone.symm.trans hget'

theorem handle_reads (hserves : routes.Serves base) (hs : ∀ kind, Resource.Sound kind (stores kind)) (call : Call)
    {op : Operation} (hpath : base.Leads kind op none call.method call.path) {action : String}
    (hop : op.action? = some action) (hgate : policy.check call.caller (.forResource kind action) = .allowed)
    {r : Request schema} (hread : ∀ params, Desk.Reads kind params call.body op r) :
    ∃ a st, Resource.Effect kind (stores kind) r a st ∧
      (∀ k, Resource.Sound k (Function.update stores kind st k)) ∧
      (running routes policy stores).handle call =
        (.ofResult (Desk.conclude kind r a), running routes policy (Function.update stores kind st)) := by
  obtain ⟨x, params, hx, he, -⟩ := hserves.resolve_leads hpath
  obtain ⟨result, stores', hhandle, heff⟩ := handle_effect routes policy hs call
  have hs' := heff.sound hs
  have hrequire := hserves.require_eq_ok hx he hop hgate
  have hreads : Desk.Reads x.endpoint.kind (withId params none) call.body x.endpoint.operation r := by
    rw [he]
    exact hread _
  obtain ⟨a, st, hstore, rfl, rfl⟩ := heff.of_reads hx hrequire hreads
  rw [he] at hstore hhandle hs'
  exact ⟨a, st, hstore, hs', hhandle⟩

theorem create_payload (hserves : routes.Serves base) (hs : ∀ kind, Resource.Sound kind (stores kind))
    {path : String} (hpath : base.Leads kind .create none .post path) {caller : Principal}
    (hgate : policy.check caller (.forResource kind "add") = .allowed)
    (hnext : (stores kind).next ≠ Store.lastNumber) {body : List UInt8} (hbody : Body.payload body = .ok p) :
    ∃ id, ((running routes policy stores).handle ⟨.post, path, caller, body⟩).1.Shows ⟨id, kind, p⟩ ∧
      ((running routes policy stores).handle ⟨.post, path, caller, body⟩).2.Keeps base kind id p := by
  obtain ⟨a, st, hstore, hs', hhandle⟩ :=
    handle_reads hserves hs ⟨.post, path, caller, body⟩ hpath rfl hgate fun _ => .create hbody
  rw [hhandle]
  cases hstore with
  | exhausted hlast => exact absurd hlast hnext
  | created _ =>
    refine ⟨(stores kind).next, Response.shows_ok _, keeps_of_resource? hserves hs' ?_⟩
    simp

theorem edit_payload (hserves : routes.Serves base) (hs : ∀ kind, Resource.Sound kind (stores kind))
    {path : String} (hpath : base.Leads kind .edit none .post path) {caller : Principal}
    (hgate : policy.check caller (.forResource kind "edit") = .allowed) {r : Resource}
    (hget : (stores kind).resource? id = some r) {body : List UInt8} (hbody : Body.edit body = .ok (id, p)) :
    ((running routes policy stores).handle ⟨.post, path, caller, body⟩).1.Shows ⟨id, kind, p⟩ ∧
      ((running routes policy stores).handle ⟨.post, path, caller, body⟩).2.Keeps base kind id p := by
  obtain ⟨a, st, hstore, hs', hhandle⟩ :=
    handle_reads hserves hs ⟨.post, path, caller, body⟩ hpath rfl hgate fun _ => .edit hbody
  rw [hhandle]
  cases hstore with
  | unknown hnone => cases hnone.symm.trans hget
  | edited _ =>
    refine ⟨Response.shows_ok _, keeps_of_resource? hserves hs' ?_⟩
    simp

theorem postJson_roundtrip {settings : Settings} {s₀ : Service} (h : Service.start settings policy = .ok s₀)
    (calls : List Call) (kind : Kind) (caller : Principal) {p : Payload} (hp : p.toJson.Integral) :
    let s := s₀.after calls
    ∃ base, Pattern.parse settings.basePath = .ok base ∧
      (∀ path st, base.Leads kind .create none .post path →
        policy.check caller (.forResource kind "add") = .allowed →
        s.store? kind = some st → st.next < Store.lastNumber → p.toJson.nesting ≤ 127 →
        ∃ id, (s.handle (.postJson path caller p.toJson)).1.Shows ⟨id, kind, p⟩ ∧
          (s.handle (.postJson path caller p.toJson)).2.Keeps base kind id p) ∧
      (∀ path st id r, base.Leads kind .edit none .post path →
        policy.check caller (.forResource kind "edit") = .allowed →
        s.store? kind = some st → st.resource? id = some r → p.toJson.nesting ≤ 126 →
        (s.handle (.postJson path caller (Body.editJson id p))).1.Shows ⟨id, kind, p⟩ ∧
          (s.handle (.postJson path caller (Body.editJson id p))).2.Keeps base kind id p) := by
  intro s
  obtain ⟨-, -, routes, hroutes, rfl⟩ := start_eq_ok_iff.mp h
  obtain ⟨base, hbase, hserves⟩ := Endpoint.routesUnder_serves hroutes
  obtain ⟨stores, hs, hsound⟩ : ∃ stores, s = running routes policy stores ∧ _ :=
    after_running routes policy Resource.sound_ofKind calls
  clear_value s
  subst hs
  refine ⟨base, hbase, fun path st hpath hgate hst hnext hd => ?_, fun path st id r hpath hgate hst hget hd => ?_⟩
  · cases hst
    have hlast : (stores kind).next ≠ Store.lastNumber := by
      intro hlast
      rw [hlast] at hnext
      exact UInt64.lt_irrefl _ hnext
    exact create_payload hserves hsound hpath hgate hlast (Body.payload_text hp hd)
  · cases hst
    exact edit_payload hserves hsound hpath hgate hget (Body.edit_text id hp (Nat.lt_succ_of_le hd))

theorem postJson_roundtrip_of_escaped_text :
    let clerk := (Principal.new "clerk").allowAll [⟨"orders:add"⟩, ⟨"orders:edit"⟩]
    let p := Payload.ofMembers
      [("lines", .array [.string "a \"b\"\n", .number (.integer (-5) (by decide)), .null])]
    let create := Call.postJson "/acme/orders/add" clerk p.toJson
    let edit := Call.postJson "/acme/orders/edit" clerk (Body.editJson 1 p)
    ∃ (s : Service) (id : ResourceId), Service.start ⟨"/\x7borg\x7d", 32, "info"⟩ .byGrants = .ok s ∧
      ((s.handle create).1.body.member? "id").bind Json.natural? = some id ∧
      ((s.handle create).2.handle ⟨.get, "/acme/orders" ++ "/" ++ id.text, .anonymous, []⟩).1.body.member?
        "payload" = some p.toJson ∧
      ((s.after [create]).handle edit).1.body.member? "payload" = some p.toJson := by
  intro clerk p create edit
  obtain ⟨t, b, ht, hb, hsegments, -⟩ := Endpoint.serves_below_parameter
  have hstart : Service.start ⟨"/\x7borg\x7d", 32, "info"⟩ .byGrants = .ok (running t .byGrants Store.ofKind) :=
    start_eq_ok_iff.mpr ⟨rfl, by decide, t, ht, rfl⟩
  have hp : p.toJson.Integral := ⟨⟨trivial, trivial, trivial, trivial⟩, trivial⟩
  have hallowed : Policy.byGrants.check clerk (.forResource .orders "add") = .allowed ∧
      Policy.byGrants.check clerk (.forResource .orders "edit") = .allowed := by decide +kernel
  have hbind : (b.bind? ["acme"]).isSome = true := by
    rw [Pattern.bind?, hsegments]
    rfl
  have hadd : b.Leads .orders .create none .post "/acme/orders/add" := ⟨["acme"], ["add"], rfl, hbind, .add⟩
  have hedit : b.Leads .orders .edit none .post "/acme/orders/edit" := ⟨["acme"], ["edit"], rfl, hbind, .edit⟩
  have hrun : ((Service.start ⟨"/\x7borg\x7d", 32, "info"⟩ .byGrants).service?.any fun s =>
      ((s.after [create]).store? .orders).any fun st => (st.resource? 1).isSome) = true := by
    decide +kernel
  obtain ⟨s, hs, hrun⟩ := Startup.exists_ok_of_any hrun
  obtain rfl := Startup.ok.inj (hstart.symm.trans hs)
  obtain ⟨st, hst, hpresent⟩ := (Option.any_eq_true _ _).mp hrun
  obtain ⟨r, hget⟩ := Option.isSome_iff_exists.mp hpresent
  obtain ⟨base, hbase, hcreate, -⟩ := postJson_roundtrip hstart [] .orders clerk hp
  obtain rfl := Except.ok.inj (hb.symm.trans hbase)
  obtain ⟨id, hreply, hkeeps⟩ := hcreate "/acme/orders/add" _ hadd hallowed.1 rfl (by decide) (by decide)
  have hdetail : b.Leads .orders .detail (some id.text) .get ("/acme/orders" ++ "/" ++ id.text) := by
    have hend : ∀ c ∈ "/acme/orders".toList, Path.isEnd c = false := by simp [Path.isEnd]
    refine ⟨["acme"], [id.text], ?_, hbind, .detail _ id.text_not_mem_words⟩
    rw [Path.segments_id hend]
    rfl
  obtain ⟨base, hbase, -, hchange⟩ := postJson_roundtrip hstart [create] .orders clerk hp
  obtain rfl := Except.ok.inj (hb.symm.trans hbase)
  have hshown := hkeeps [] (fun e he => by cases he) _ .anonymous [] hdetail
  have hedited := (hchange "/acme/orders/edit" st 1 r hedit hallowed.2 hst hget (by decide)).1
  exact ⟨_, id, hstart, hreply.2.id_eq, hshown.2.payload_eq, hedited.2.payload_eq⟩

end Service

end GatedStore
