import GatedStore.Proofs.PatternPrinting
import GatedStore.Proofs.RegistrationOrder
import GatedStore.Routing.Catalog

/-! The catalog of a table says all there is to its routes but their endpoints: registering its rows one
after the other makes the routes again, in their order. -/

namespace GatedStore

theorem Method.ofString?_token (m : Method) : ofString? m.token = some m :=
  dif_pos m.isToken

def CatalogRow.registration? {F : Type} (row : CatalogRow) (endpoint : F) : Option (Registration F) :=
  (Method.ofString? row.method).map fun method =>
    ⟨none, method, row.path, row.permission.map Permission.mk, endpoint⟩

namespace Route

variable {E F : Type}

def withEndpoint (r : Route E) (endpoint : F) : Route F :=
  ⟨r.method, r.pattern, r.permission, endpoint⟩

def row (nameOf : E → String) (r : Route E) : CatalogRow :=
  ⟨r.method.token, r.pattern.text, r.permission.map (·.text), nameOf r.endpoint⟩

def registration (r : Route E) (endpoint : F) : Registration F :=
  ⟨none, r.method, r.pattern.text, r.permission, endpoint⟩

theorem registration?_row (nameOf : E → String) (r : Route E) (endpoint : F) :
    (r.row nameOf).registration? endpoint = some (r.registration endpoint) := by
  have hpermission : (r.permission.map (·.text)).map Permission.mk = r.permission := by
    cases r.permission <;> rfl
  rw [CatalogRow.registration?, row, Method.ofString?_token, hpermission]
  rfl

theorem registration_makes (r : Route E) (endpoint : F) :
    (r.registration endpoint).Makes (r.withEndpoint endpoint) where
  parse_eq := r.pattern.parse_text
  method_eq := rfl
  permission_eq := rfl
  endpoint_eq := rfl

end Route

namespace RouteTable

variable {E F : Type}

def registrations? (endpointOf : CatalogRow → F) (rows : List CatalogRow) : Option (List (Registration F)) :=
  rows.mapM fun row => row.registration? (endpointOf row)

theorem registrations?_catalog (t : RouteTable E) (nameOf : E → String) (endpointOf : CatalogRow → F) :
    registrations? endpointOf (t.catalog nameOf) =
      some (t.routes.map fun r => r.registration (endpointOf (r.row nameOf))) := by
  have hrow : ((fun row => row.registration? (endpointOf row)) ∘ Route.row nameOf) =
      fun r => some (r.registration (endpointOf (r.row nameOf))) :=
    funext fun r => r.registration?_row nameOf _
  have hrows : t.catalog nameOf = t.routes.map (Route.row nameOf) := rfl
  rw [registrations?, hrows, List.mapM_map, hrow]
  exact List.mapM_pure

theorem enterAll_registrations (t : RouteTable E) (endpointOf : Route E → F) :
    ∃ t', empty.enterAll (t.routes.map fun r => r.registration (endpointOf r)) = .ok t' ∧
      t'.routes = t.routes.map fun r => r.withEndpoint (endpointOf r) := by
  have hmakes : List.Forall₂ Registration.Makes (t.routes.map fun r => r.registration (endpointOf r))
      (t.routes.map fun r => r.withEndpoint (endpointOf r)) := by
    rw [List.forall₂_map_left_iff, List.forall₂_map_right_iff, List.forall₂_same]
    exact fun r _ => r.registration_makes (endpointOf r)
  have hdistinct : (t.routes.map fun r => r.withEndpoint (endpointOf r)).Pairwise fun a b => ¬ a.Clashes b :=
    List.pairwise_map.mpr t.distinct
  exact ⟨⟨_, hdistinct⟩, enterAll_eq_ok_iff.mpr ⟨_, hmakes, hdistinct, rfl⟩, rfl⟩

theorem catalog_faithful (rs : List (Registration E)) (nameOf : E → String) (endpointOf : CatalogRow → F) :
    (∃ regs t', registrations? endpointOf ((entered rs).catalog nameOf) = some regs ∧
      empty.enterAll regs = .ok t' ∧
      t'.routes = (entered rs).routes.map fun r => r.withEndpoint (endpointOf (r.row nameOf))) ∧
    (∀ p : Pattern, Pattern.parse p.text = .ok p) ∧
    (∀ p q : Pattern, p.text = q.text ↔ p.segments = q.segments) := by
  refine ⟨?_, Pattern.parse_text, fun p q => Pattern.text_eq_iff⟩
  obtain ⟨t', hrun, hroutes⟩ := (entered rs).enterAll_registrations fun r => endpointOf (r.row nameOf)
  exact ⟨_, t', registrations?_catalog _ nameOf endpointOf, hrun, hroutes⟩

end RouteTable

end GatedStore
