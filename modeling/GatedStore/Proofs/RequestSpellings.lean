import GatedStore.Proofs.PathSpellings
import GatedStore.Proofs.ServiceSteps

/-! Calls whose paths are spellings of one path. A route sees the segments of a path only, so these calls have the same
result and leave the same service behind; the path as it was spelled shows where no route is found. -/

namespace GatedStore

structure Call.Respells (a b : Call) : Prop where
  method_eq : b.method = a.method
  caller_eq : b.caller = a.caller
  body_eq : b.body = a.body
  path : Path.Respelled a.path b.path

theorem RouteTable.resolve_respelled {E : Type} {p q : String} (h : Path.Respelled p q) (t : RouteTable E)
    (method : Method) : t.resolve method q = t.resolve method p ∨
      t.resolve method p = .error (.notFound method p) ∧ t.resolve method q = .error (.notFound method q) := by
  have hsame : ∀ x, t.resolve method q = .ok x ↔ t.resolve method p = .ok x := fun x => by
    rw [resolve_eq_ok_iff, resolve_eq_ok_iff, h.segments_eq]
  cases hp : t.resolve method p with
  | ok x => exact Or.inl ((hsame x).mpr hp)
  | error e =>
    cases hq : t.resolve method q with
    | ok x => cases hp.symm.trans ((hsame x).mp hq)
    | error e' => exact Or.inr ⟨congrArg _ (resolve_eq_error hp), congrArg _ (resolve_eq_error hq)⟩

open GatedStore.Path (segments ofSegments Respelled)

namespace Service

variable {a b : Call}

theorem dispatch_respells (h : a.Respells b) (s : Service) : s.dispatch b = s.dispatch a ∨
    s.dispatch a = (.error (.routeNotFound a.method a.path), s) ∧
      s.dispatch b = (.error (.routeNotFound b.method b.path), s) := by
  rcases s.routes.resolve_respelled h.path a.method with hsame | ⟨ha, hb⟩
  · exact Or.inl (by simp only [dispatch, h.method_eq, h.caller_eq, h.body_eq, hsame])
  · refine Or.inr ⟨?_, ?_⟩
    · simp only [dispatch, ha, Failure.ofRouteError]
    · simp only [dispatch, h.method_eq, hb, Failure.ofRouteError]

theorem handle_respells (h : a.Respells b) (s : Service) : s.handle b = s.handle a ∨
    s.handle a = (.ofFailure (.routeNotFound a.method a.path), s) ∧
      s.handle b = (.ofFailure (.routeNotFound b.method b.path), s) := by
  rcases dispatch_respells h s with hsame | ⟨ha, hb⟩
  · exact Or.inl (by rw [handle, handle, hsame])
  · exact Or.inr ⟨by rw [handle, ha]; rfl, by rw [handle, hb]; rfl⟩

theorem after_respells {calls calls' : List Call} (h : List.Forall₂ Call.Respells calls calls') (s : Service) :
    s.after calls' = s.after calls := by
  induction h generalizing s with
  | nil => rfl
  | @cons a b calls calls' hab _ ih =>
    have hstep : (s.handle b).2 = (s.handle a).2 := by
      rcases handle_respells hab s with hsame | ⟨ha, hb⟩
      · rw [hsame]
      · rw [ha, hb]
    rw [after, after, List.foldl_cons, List.foldl_cons, hstep]
    exact ih _

theorem handle_bySegments :
    (∀ p q : String, '?' ∉ p.toList → '#' ∉ p.toList → segments (p ++ "/" ++ q) = segments p ++ segments q) ∧
    (∀ p, segments (ofSegments (segments p)) = segments p) ∧
    (∀ p q, segments (p ++ "?" ++ q) = segments p ∧ segments (p ++ "#" ++ q) = segments p) ∧
    (∀ p q, Respelled p q ↔ segments p = segments q) ∧
    (∀ p q, Respelled p q → ∀ (E : Type) (t : RouteTable E) method, t.resolve method q = t.resolve method p ∨
      t.resolve method p = .error (.notFound method p) ∧ t.resolve method q = .error (.notFound method q)) ∧
    (∀ a b, Call.Respells a b → ∀ s : Service, s.handle b = s.handle a ∨
      s.handle a = (.ofFailure (.routeNotFound a.method a.path), s) ∧
        s.handle b = (.ofFailure (.routeNotFound b.method b.path), s)) ∧
    ∀ calls calls', List.Forall₂ Call.Respells calls calls' → ∀ s : Service, s.after calls' = s.after calls := by
  refine ⟨fun p q hquery hfragment => ?_, fun p => ?_, fun p q => ⟨Path.segments_query p q, Path.segments_fragment p q⟩,
    fun p q => Path.respelled_iff, fun p q h E t method => t.resolve_respelled h method, fun a b h s => handle_respells h s,
    fun calls calls' h s => after_respells h s⟩
  · exact Path.segments_slash q (Path.no_end_iff.mpr ⟨hquery, hfragment⟩)
  · exact Path.segments_ofSegments fun v hv => Path.isSegment_of_mem hv

theorem handle_doubled_slashes_and_query :
    let plain : Call := ⟨.get, "/acme/orders/detail/7", .anonymous, []⟩
    let spelled : Call := ⟨.get, "//acme/orders//detail/7/?page=2#top", .anonymous, []⟩
    ∃ s x, Service.start ⟨"/\x7borg\x7d", 32, "info"⟩ .byGrants = .ok s ∧
      s.routes.resolve plain.method plain.path = .ok x ∧ s.routes.resolve spelled.method spelled.path = .ok x ∧
      s.after [spelled] = s.after [plain] := by
  intro plain spelled
  obtain ⟨t, b, ht, -, hsegments, hserves⟩ := Endpoint.serves_below_parameter
  have hpath : segments "/acme/orders/detail/7" = ["acme"] ++ Kind.orders.segment :: ["detail", "7"] := rfl
  have hbase : Pattern.bindings b.segments ["acme"] = some [("org", "acme")] := by
    rw [hsegments]
    rfl
  obtain ⟨r, -, -, -, hresolve⟩ := hserves.resolve_of_asks hpath hbase (.detailByName "7")
  have hstart : Service.start ⟨"/\x7borg\x7d", 32, "info"⟩ .byGrants = .ok (running t .byGrants Store.ofKind) :=
    start_eq_ok_iff.mpr ⟨rfl, by decide, t, ht, rfl⟩
  obtain ⟨-, -, -, hspellings, hroutes, -, hruns⟩ := handle_bySegments
  have hpaths : Respelled plain.path spelled.path := (hspellings _ _).mpr (by decide)
  have hspelled : plain.Respells spelled := ⟨rfl, rfl, rfl, hpaths⟩
  refine ⟨_, _, hstart, hresolve, ?_, hruns [plain] [spelled] (.cons hspelled .nil) _⟩
  rcases hroutes _ _ hpaths Endpoint t .get with hsame | ⟨hlost, -⟩
  · exact hsame.trans hresolve
  · cases hresolve.symm.trans hlost

end Service

end GatedStore
