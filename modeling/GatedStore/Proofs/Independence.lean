import GatedStore.Proofs.ServiceSteps
import GatedStore.Proofs.StoreLocality

/-! A call reads and writes one station of the service at most, and one that is turned away writes none.
Calls that do not meet at a station may change places, and so may requests to one store that name different
entities. -/

namespace GatedStore

open Resource (schema)

namespace Service

/-- No store hears of the call: it has no route, or the policy in front of the store denies it. -/
inductive TurnsAway (s : Service) (call : Call) : Prop
  | unrouted {e : RouteError} (hx : s.routes.resolve call.method call.path = .error e)
  | denied {x : Resolved Endpoint} {station : Station} {f : Forbidden}
      (hx : s.routes.resolve call.method call.path = .ok x)
      (hstation : s.stations x.route.endpoint.kind = some station)
      (hgate : station.policy.require call.caller x.route.permission = .error f)

inductive Apart (s : Service) (a b : Call) : Prop
  | kinds {x y : Resolved Endpoint} (hx : s.routes.resolve a.method a.path = .ok x)
      (hy : s.routes.resolve b.method b.path = .ok y) (hne : x.route.endpoint.kind ≠ y.route.endpoint.kind)
  | left (h : s.TurnsAway a)
  | right (h : s.TurnsAway b)

def visit (x : Resolved Endpoint) (call : Call) : Option Station → Response × Option Station
  | none => (.ofFailure (.internal ("no handler set for " ++ x.route.endpoint.kind.segment)), none)
  | some station =>
    let (result, line) := Desk.handle ⟨x.route.endpoint.kind, station.policy.require⟩ Line.send call.caller
      x.route.permission x.route.endpoint.operation x.params call.body station.line
    (.ofResult result, some { station with line := line })

def atStation {A : Type} (kind : Kind) (f : Option Station → A × Option Station) (s : Service) : A × Service :=
  let (a, station) := f (s.stations kind)
  (a, { s with stations := Function.update s.stations kind station })

variable {s t : Service} {call a b : Call} {x : Resolved Endpoint}

theorem handle_of_unrouted {e : RouteError} (hx : s.routes.resolve call.method call.path = .error e) :
    s.handle call = (.ofFailure (.ofRouteError e), s) := by
  simp only [handle, dispatch, hx]
  rfl

theorem handle_of_routed (hx : s.routes.resolve call.method call.path = .ok x) :
    s.handle call = s.atStation x.route.endpoint.kind (visit x call) := by
  cases hstation : s.stations x.route.endpoint.kind with
  | none =>
    have hself : Function.update s.stations x.route.endpoint.kind none = s.stations := by
      rw [← hstation, Function.update_eq_self]
    simp only [handle, dispatch, hx, hstation, atStation, visit, hself]
    rfl
  | some station =>
    simp only [handle, dispatch, hx, hstation, atStation, visit]
    refine congrArg _ (congrArg (Service.mk s.routes) (funext fun kind => ?_))
    rw [Function.update_apply]

theorem atStation_swaps {A B : Type} {kind kind' : Kind} (hne : kind ≠ kind')
    (f : Option Station → A × Option Station) (g : Option Station → B × Option Station) (s : Service) :
    Swaps (atStation kind f) (atStation kind' g) s := by
  constructor
  · simp only [atStation, Function.update_of_ne hne]
  · simp only [atStation, Function.update_of_ne hne.symm]
  · simp only [atStation, Function.update_of_ne hne, Function.update_of_ne hne.symm]
    rw [Function.update_comm hne]

theorem visit_of_denied {station : Station} {f : Forbidden}
    (hgate : station.policy.require call.caller x.route.permission = .error f) :
    visit x call (some station) = (.ofFailure (.ofForbidden f), some station) := by
  simp only [visit, Desk.handle, hgate]
  rfl

structure SameGates (s t : Service) : Prop where
  routes_eq : t.routes = s.routes
  policies_eq : ∀ kind, (t.stations kind).map (·.policy) = (s.stations kind).map (·.policy)

theorem handle_sameGates (s : Service) (call : Call) : SameGates s (s.handle call).2 := by
  cases hx : s.routes.resolve call.method call.path with
  | error e =>
    rw [handle_of_unrouted hx]
    exact ⟨rfl, fun _ => rfl⟩
  | ok x =>
    rw [handle_of_routed hx]
    refine ⟨rfl, fun kind => ?_⟩
    by_cases hkind : kind = x.route.endpoint.kind
    · subst hkind
      simp only [atStation, Function.update_self]
      cases s.stations x.route.endpoint.kind <;> rfl
    · simp only [atStation, Function.update_of_ne hkind]

theorem TurnsAway.handle_eq (h : s.TurnsAway call) :
    ∃ response, ∀ t, SameGates s t → t.handle call = (response, t) := by
  cases h with
  | @unrouted e hx =>
    refine ⟨.ofFailure (.ofRouteError e), fun t ht => ?_⟩
    rw [← ht.routes_eq] at hx
    exact handle_of_unrouted hx
  | @denied x station f hx hstation hgate =>
    refine ⟨.ofFailure (.ofForbidden f), fun t ht => ?_⟩
    have hpolicy := ht.policies_eq x.route.endpoint.kind
    rw [hstation, Option.map_some, Option.map_eq_some_iff] at hpolicy
    obtain ⟨station', hstation', hpolicy⟩ := hpolicy
    rw [← hpolicy] at hgate
    rw [← ht.routes_eq] at hx
    rw [handle_of_routed hx, atStation, hstation', visit_of_denied hgate]
    simp only [← hstation', Function.update_eq_self]

theorem TurnsAway.swaps (h : s.TurnsAway a) (b : Call) : Swaps (·.handle a) (·.handle b) s := by
  obtain ⟨response, hall⟩ := h.handle_eq
  have hs : s.handle a = (response, s) := hall s ⟨rfl, fun _ => rfl⟩
  have ht := hall _ (handle_sameGates s b)
  exact ⟨by simp only [hs, ht], by simp only [hs], by simp only [hs, ht]⟩

theorem Apart.swaps (h : s.Apart a b) : Swaps (·.handle a) (·.handle b) s := by
  cases h with
  | @kinds x y hx hy hne =>
    have hroutesA : (s.handle a).2.routes = s.routes := (handle_sameGates s a).routes_eq
    have hroutesB : (s.handle b).2.routes = s.routes := (handle_sameGates s b).routes_eq
    have ha := handle_of_routed hx
    have hb := handle_of_routed hy
    have hba := handle_of_routed (s := (s.handle b).2) (hroutesB ▸ hx)
    have hab := handle_of_routed (s := (s.handle a).2) (hroutesA ▸ hy)
    obtain ⟨hfirst, hsecond, hstate⟩ := atStation_swaps hne (visit x a) (visit y b) s
    rw [hb] at hba
    rw [ha] at hab
    exact ⟨by simp only [ha, hb, hba, hfirst], by simp only [ha, hb, hab, hsecond],
      by simp only [ha, hb, hab, hba, hstate]⟩
  | left h => exact h.swaps b
  | right h => exact (h.swaps a).symm

theorem independent_swaps :
    (∀ (s : Service) (a b : Call), s.Apart a b → Swaps (·.handle a) (·.handle b) s) ∧
    (∀ S : Schema, S.Steady → ∀ (line : Line S) (r r' : Request S) (ids ids' : List S.Id),
      r.ids? = some ids → r'.ids? = some ids' → ids.Disjoint ids' → Swaps (Line.send r) (Line.send r') line) ∧
    schema.Steady := by
  refine ⟨fun s a b h => h.swaps, fun S hS line r r' ids ids' hids hids' hdisjoint => ?_, Resource.schema_steady⟩
  exact Line.send_swaps hS line hids hids' hdisjoint

theorem creation_swaps_with_detail :
    (∃ s, Service.start ⟨"/\x7borg\x7d", 32, "info"⟩ .byGrants = .ok s ∧
      Swaps (·.handle ⟨.post, "/acme/orders/create", (Principal.new "clerk").allow ⟨"*"⟩, [0x7B, 0x7D]⟩)
        (·.handle ⟨.get, "/acme/bom/detail/7", .anonymous, []⟩) s) ∧
    let line : Line schema := Line.new .orders
    let ids : List ResourceId := [1, 7]
    let id : ResourceId := 2
    Swaps (Line.send (.remove ids)) (Line.send (.update id Payload.empty)) line := by
  constructor
  · obtain ⟨t, b, ht, -, hsegments, hserves⟩ := Endpoint.serves_below_parameter
    have hbase : Pattern.bindings b.segments ["acme"] = some [("org", "acme")] := by
      rw [hsegments]
      rfl
    have hcreate : Path.segments "/acme/orders/create" = ["acme"] ++ Kind.orders.segment :: ["create"] := rfl
    have hdetail : Path.segments "/acme/bom/detail/7" = ["acme"] ++ Kind.bom.segment :: ["detail", "7"] := rfl
    obtain ⟨r, -, hr, -, hresolve⟩ := hserves.resolve_of_asks hcreate hbase .create
    obtain ⟨r', -, hr', -, hresolve'⟩ := hserves.resolve_of_asks hdetail hbase (.detailByName "7")
    have hstart : Service.start ⟨"/\x7borg\x7d", 32, "info"⟩ .byGrants =
        .ok (running t .byGrants Store.ofKind) :=
      start_eq_ok_iff.mpr ⟨rfl, by decide, t, ht, rfl⟩
    refine ⟨_, hstart, independent_swaps.1 _ _ _ (.kinds hresolve hresolve' ?_)⟩
    rw [hr, hr']
    decide
  · intro line ids id
    have hdisjoint : ids.Disjoint [id] := List.disjoint_singleton.mpr (by decide)
    exact independent_swaps.2.1 schema Resource.schema_steady line _ _ ids [id] rfl rfl hdisjoint

end Service

end GatedStore
