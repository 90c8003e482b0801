import GatedStore.Proofs.ServiceWrites

/-! The gate of a service that goes by grants. Without the permission of a route a caller changes nothing
and learns nothing, and whatever a call does change, its caller was granted. -/

namespace GatedStore

open Resource (schema)

def Principal.Covers (caller : Principal) (required : Permission) : Prop :=
  ∃ p ∈ caller.held, p.grants required = true

namespace Policy

variable {caller : Principal} {required : Permission}

theorem check_byGrants_iff : byGrants.check caller required = .allowed ↔ caller.Covers required := by
  have hany : caller.held.any (·.grants required) = true ↔ caller.Covers required := List.any_eq_true
  rw [← hany]
  simp only [byGrants]
  split
  · rename_i h
    exact iff_of_true rfl h
  · rename_i h
    exact iff_of_false (fun h => by cases h) h

theorem require_byGrants_of_not_covers (h : ¬ caller.Covers required) :
    byGrants.require caller (some required) = .error ⟨required⟩ := by
  cases hcheck : byGrants.check caller required with
  | allowed => exact absurd (check_byGrants_iff.mp hcheck) h
  | denied => rw [require, hcheck]

end Policy

namespace Exchange.Writes

variable {t : RouteTable Endpoint} {policy : Policy} {kind : Kind} {e : Exchange} {st st' : Store schema}
  {id : ResourceId} {r r' : Resource}

theorem appeared (h : Writes t policy kind e st st') (hold : st.resource? id = none)
    (hnew : st'.resource? id = some r) :
    policy.check e.call.caller (.forResource kind "add") = .allowed := by
  cases h with
  | nothing _ => cases hold.symm.trans hnew
  | created _ hgate _ _ _ => exact hgate
  | edited _ _ _ hget _ =>
    rcases Store.resource?_keep_cases hnew with ⟨rfl, -⟩ | hnew
    · cases hold.symm.trans hget
    · cases hold.symm.trans hnew
  | removed _ _ _ _ _ => cases hold.symm.trans (Store.resource?_of_eraseAll hnew)

theorem altered (h : Writes t policy kind e st st') (hs : Resource.Sound kind st)
    (hold : st.resource? id = some r) (hnew : st'.resource? id = some r') (hne : r ≠ r') :
    policy.check e.call.caller (.forResource kind "edit") = .allowed := by
  cases h with
  | nothing _ => exact absurd (Option.some.inj (hold.symm.trans hnew)) hne
  | created _ _ _ _ _ =>
    rcases Store.resource?_keep_cases hnew with ⟨rfl, -⟩ | hnew
    · -- The number of a creation is in use by no resource.
      cases hold.symm.trans hs.resource?_next
    · exact absurd (Option.some.inj (hold.symm.trans hnew)) hne
  | edited _ hgate _ _ _ => exact hgate
  | removed _ _ _ _ _ =>
    have hsame := hold.symm.trans (Store.resource?_of_eraseAll hnew)
    exact absurd (Option.some.inj hsame) hne

theorem vanished (h : Writes t policy kind e st st') (hold : st.resource? id = some r)
    (hnew : st'.resource? id = none) :
    policy.check e.call.caller (.forResource kind "remove") = .allowed := by
  cases h with
  | nothing _ => cases hold.symm.trans hnew
  | created _ _ _ _ _ | edited _ _ _ _ _ =>
    rw [Store.resource?_keep] at hnew
    split at hnew
    · cases hnew
    · cases hold.symm.trans hnew
  | removed _ hgate _ _ _ => exact hgate

end Exchange.Writes

namespace Service

variable {routes : RouteTable Endpoint} {policy : Policy} {stores stores' : Kind → Store schema} {call : Call}
  {result : Except Failure Json}

theorem handle_denied (hs : ∀ kind, Resource.Sound kind (stores kind)) (call : Call) {x : Resolved Endpoint}
    (hx : routes.resolve call.method call.path = .ok x) {f : Forbidden}
    (hgate : policy.require call.caller x.route.permission = .error f) :
    (running routes policy stores).handle call =
      (.ofFailure (.ofForbidden f), running routes policy stores) := by
  obtain ⟨result, stores', hhandle, heff⟩ := handle_effect routes policy hs call
  obtain ⟨rfl, rfl⟩ := heff.of_denied hx hgate
  exact hhandle

theorem Effect.frame (h : Effect routes policy stores call result stores') :
    ∃ kind, ∀ other, other ≠ kind → stores' other = stores other := by
  cases h with
  | answered _ _ _ _ => exact ⟨_, fun other hne => Function.update_of_ne hne _ _⟩
  | unrouted _ | denied _ _ | unread _ _ _ => exact ⟨.orders, fun _ _ => rfl⟩

theorem handle_byGrants {settings : Settings} {s₀ : Service} (h : Service.start settings .byGrants = .ok s₀)
    (calls : List Call) (call : Call) :
    let s := s₀.after calls
    (∀ x q, s.routes.resolve call.method call.path = .ok x → x.route.permission = some q →
      ¬ call.caller.Covers q →
      s.handle call = (.ofFailure (.permissionDenied q), s) ∧ (s.handle call).1.status = 403 ∧
        ∀ calls' body, ((s₀.after calls').handle { call with body := body }).1 = (s.handle call).1) ∧
    (∀ kind, ∃ st st', s.store? kind = some st ∧ (s.handle call).2.store? kind = some st' ∧
      (∀ id r, st.resource? id = none → st'.resource? id = some r →
        call.caller.Covers (.forResource kind "add")) ∧
      (∀ id r r', st.resource? id = some r → st'.resource? id = some r' → r ≠ r' →
        call.caller.Covers (.forResource kind "edit")) ∧
      (∀ id r, st.resource? id = some r → st'.resource? id = none →
        call.caller.Covers (.forResource kind "remove"))) ∧
    (∃ kind, ∀ other, other ≠ kind → (s.handle call).2.store? other = s.store? other) := by
  intro s
  obtain ⟨-, -, routes, hroutes, rfl⟩ := start_eq_ok_iff.mp h
  obtain ⟨base, -, hserves⟩ := Endpoint.routesUnder_serves hroutes
  obtain ⟨stores, hs, hsound⟩ : ∃ stores, s = running routes .byGrants stores ∧ _ :=
    after_running routes .byGrants Resource.sound_ofKind calls
  obtain ⟨result, stores', hhandle, heff⟩ := handle_effect routes .byGrants hsound call
  clear_value s
  subst hs
  refine ⟨fun x q hx hq hlacks => ?_, fun kind => ?_, ?_⟩
  · change routes.resolve call.method call.path = .ok x at hx
    have hgate : Policy.byGrants.require call.caller x.route.permission = .error ⟨q⟩ := by
      rw [hq]
      exact Policy.require_byGrants_of_not_covers hlacks
    have hdenied := handle_denied hsound call hx hgate
    refine ⟨hdenied, by rw [hdenied]; rfl, fun calls' body => ?_⟩
    obtain ⟨others, hafter, hsound'⟩ := after_running routes .byGrants Resource.sound_ofKind calls'
    rw [hdenied, hafter, handle_denied hsound' { call with body := body } hx hgate]
  · have hwrites := heff.writes hserves kind
    refine ⟨stores kind, stores' kind, rfl, by simp [hhandle],
      fun id r hold hnew => ?_, fun id r r' hold hnew hne => ?_, fun id r hold hnew => ?_⟩
    · exact Policy.check_byGrants_iff.mp (hwrites.appeared hold hnew)
    · exact Policy.check_byGrants_iff.mp (hwrites.altered (hsound kind) hold hnew hne)
    · exact Policy.check_byGrants_iff.mp (hwrites.vanished hold hnew)
  · obtain ⟨kind, hframe⟩ := heff.frame
    refine ⟨kind, fun other hne => ?_⟩
    simp [hhandle, hframe other hne]

theorem handle_denies_anonymous_creation :
    ∃ s, Service.start ⟨"/\x7borg\x7d", 32, "info"⟩ .byGrants = .ok s ∧
      s.handle ⟨.post, "/acme/orders/create", .anonymous, []⟩ =
        (.ofFailure (.permissionDenied ⟨"orders:add"⟩), s) := by
  obtain ⟨t, b, ht, -, hsegments, hserves⟩ := Endpoint.serves_below_parameter
  have hpath : Path.segments "/acme/orders/create" = ["acme"] ++ Kind.orders.segment :: ["create"] := rfl
  have hbase : Pattern.bindings b.segments ["acme"] = some [("org", "acme")] := by
    rw [hsegments]
    rfl
  obtain ⟨r, -, -, hpermission, hresolve⟩ := hserves.resolve_of_asks hpath hbase .create
  have hstart : Service.start ⟨"/\x7borg\x7d", 32, "info"⟩ .byGrants =
      .ok (running t .byGrants Store.ofKind) :=
    start_eq_ok_iff.mpr ⟨rfl, by decide, t, ht, rfl⟩
  have hlacks : ¬ Principal.anonymous.Covers ⟨"orders:add"⟩ := by
    rintro ⟨p, hp, -⟩
    cases hp
  exact ⟨_, hstart, ((handle_byGrants hstart [] ⟨.post, "/acme/orders/create", .anonymous, []⟩).1 _ _ hresolve
    hpermission hlacks).1⟩

end Service

end GatedStore
