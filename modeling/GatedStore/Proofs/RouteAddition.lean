import GatedStore.Proofs.RegistrationOrder

/-! One route more changes the answer to a request in one way only: the route takes a path that it matches,
for itself if the request has its method, and away from other methods. -/

namespace GatedStore

variable {E : Type}

def Route.Matches (r : Route E) (path : String) : Prop :=
  (r.pattern.bind? (Path.segments path)).isSome = true

namespace RouteTable

variable {t t' : RouteTable E} {r w : Route E} {method : Method} {segments : List String}

theorem matching_append_iff (hroutes : t'.routes = t.routes ++ [r]) :
    t'.Matching segments w ↔ t.Matching segments w ∨ w = r ∧ (r.pattern.bind? segments).isSome = true := by
  rw [Matching, Matching, hroutes, List.mem_append, List.mem_singleton]
  constructor
  · rintro ⟨hw | rfl, hmatch⟩
    · exact Or.inl ⟨hw, hmatch⟩
    · exact Or.inr ⟨rfl, hmatch⟩
  · rintro (⟨hw, hmatch⟩ | ⟨rfl, hmatch⟩)
    · exact ⟨Or.inl hw, hmatch⟩
    · exact ⟨Or.inr rfl, hmatch⟩

theorem Winner.of_append (hroutes : t'.routes = t.routes ++ [r]) (hw : t'.Winner method segments w) (hne : w ≠ r) :
    t.Winner method segments w where
  matching := ((matching_append_iff hroutes).mp hw.matching).resolve_right fun h => hne h.1
  method_eq := hw.method_eq
  top r' hr' := hw.top r' ((matching_append_iff hroutes).mpr (Or.inl hr'))

theorem Winner.stays (hroutes : t'.routes = t.routes ++ [r]) (hw : t.Winner method segments w)
    (hbelow : (r.pattern.bind? segments).isSome = true → r.pattern.moreSpecific w.pattern = false) :
    t'.Winner method segments w where
  matching := (matching_append_iff hroutes).mpr (Or.inl hw.matching)
  method_eq := hw.method_eq
  top r' hr' := by
    rcases (matching_append_iff hroutes).mp hr' with hr' | ⟨rfl, hmatch⟩
    · exact hw.top r' hr'
    · exact hbelow hmatch

theorem Winner.yields (hroutes : t'.routes = t.routes ++ [r]) (hw : t.Winner method segments w)
    (hmethod : r.method = method) (hmatch : (r.pattern.bind? segments).isSome = true)
    (habove : r.pattern.moreSpecific w.pattern = true) : t'.Winner method segments r where
  matching := (matching_append_iff hroutes).mpr (Or.inr ⟨rfl, hmatch⟩)
  method_eq := hmethod
  top r' hr' := by
    rcases (matching_append_iff hroutes).mp hr' with hr' | ⟨rfl, -⟩
    · rw [← Bool.not_eq_true]
      intro hr'r
      have hr'w := Pattern.moreSpecific_trans hr'r habove
      rw [hw.top r' hr'] at hr'w
      cases hr'w
    · exact Pattern.moreSpecific_irrefl _

theorem Winner.exists_append (hroutes : t'.routes = t.routes ++ [r]) (hw : t.Winner method segments w)
    (h : (r.pattern.bind? segments).isSome = true → r.method = method) : ∃ w', t'.Winner method segments w' := by
  by_cases hr : (r.pattern.bind? segments).isSome = true ∧ r.pattern.moreSpecific w.pattern = true
  · exact ⟨r, hw.yields hroutes (h hr.1) hr.1 hr.2⟩
  · refine ⟨w, hw.stays hroutes fun hmatch => ?_⟩
    rw [← Bool.not_eq_true]
    exact fun habove => hr ⟨hmatch, habove⟩

theorem taken_of_lost {path : String} {x : Resolved E} {e : RouteError} (hroutes : t'.routes = t.routes ++ [r])
    (hres : t.resolve method path = .ok x) (hres' : t'.resolve method path = .error e) :
    r.Matches path ∧ method ≠ r.method := by
  have hlost : ¬ ∃ w, t'.Winner method (Path.segments path) w := by
    rw [← exists_resolve_iff, hres']
    rintro ⟨y, hy⟩
    cases hy
  by_contra hkept
  refine hlost ((resolve_eq_ok_iff.mp hres).1.exists_append hroutes fun hmatch => ?_)
  by_contra hmethod
  exact hkept ⟨hmatch, Ne.symm hmethod⟩

theorem resolve_append (hroutes : t'.routes = t.routes ++ [r]) (method : Method) (path : String) :
    t'.resolve method path = t.resolve method path ∨
      r.Matches path ∧ (method = r.method ∧ (∃ params, t'.resolve method path = .ok ⟨r, params⟩) ∨
        method ≠ r.method ∧ t'.resolve method path = .error (.notFound method path)) := by
  cases hres' : t'.resolve method path with
  | ok x =>
    obtain ⟨hw, hx⟩ := resolve_eq_ok_iff.mp hres'
    by_cases hroute : x.route = r
    · subst hroute
      exact Or.inr ⟨hw.matching.2, Or.inl ⟨hw.method_eq.symm, x.params, rfl⟩⟩
    · exact Or.inl (resolve_eq_ok_iff.mpr ⟨hw.of_append hroutes hroute, hx⟩).symm
  | error e =>
    obtain rfl := resolve_eq_error hres'
    cases hres : t.resolve method path with
    | error e => exact Or.inl (congrArg Except.error (resolve_eq_error hres).symm)
    | ok x =>
      obtain ⟨hmatch, hmethod⟩ := taken_of_lost hroutes hres hres'
      exact Or.inr ⟨hmatch, Or.inr ⟨hmethod, rfl⟩⟩

theorem enter_of_ok {reg : Registration E} (h : t.attempt reg = .ok t') : t.enter reg = t' := by
  rw [enter, h]

theorem enter_eq_self_iff {reg : Registration E} : t.enter reg = t ↔ ∃ e, t.attempt reg = .error e := by
  cases h : t.attempt reg with
  | error e =>
    rw [enter, h]
    exact iff_of_true rfl ⟨e, rfl⟩
  | ok t' =>
    obtain ⟨r, -, -, hroutes⟩ := attempt_eq_ok_iff.mp h
    rw [enter_of_ok h]
    refine iff_of_false (fun ht => ?_) nofun
    rw [ht] at hroutes
    simp at hroutes

theorem enter_bounded (rs : List (Registration E)) (reg : Registration E) :
    let t := entered rs
    ((∃ e, t.attempt reg = .error e) ↔ t.enter reg = t) ∧
    ∀ t', t.attempt reg = .ok t' → t.enter reg = t' ∧
      ∃ r, reg.Makes r ∧ t'.routes = t.routes ++ [r] ∧ ∀ method path,
        (¬ r.Matches path → t'.resolve method path = t.resolve method path) ∧
        (r.Matches path → method = r.method → t'.resolve method path = t.resolve method path ∨
          ∃ params, t'.resolve method path = .ok ⟨r, params⟩) ∧
        (r.Matches path → method ≠ r.method → t'.resolve method path = t.resolve method path ∨
          t'.resolve method path = .error (.notFound method path)) ∧
        (∀ x y, t.resolve method path = .ok x → t'.resolve method path = .ok y → y = x ∨ y.route = r) ∧
        (method ≠ r.method → ∀ e, t.resolve method path = .error e → t'.resolve method path = .error e) := by
  intro t
  refine ⟨enter_eq_self_iff.symm, fun t' h => ⟨enter_of_ok h, ?_⟩⟩
  obtain ⟨r, hmakes, -, hroutes⟩ := attempt_eq_ok_iff.mp h
  refine ⟨r, hmakes, hroutes, fun method path => ?_⟩
  rcases resolve_append hroutes method path with hsame | ⟨hmatch, ⟨hmethod, params, hnew⟩ | ⟨hmethod, hlost⟩⟩
  · refine ⟨fun _ => hsame, fun _ _ => Or.inl hsame, fun _ _ => Or.inl hsame, ?_, ?_⟩
    · intro x y hx hy
      rw [hsame, hx] at hy
      exact Or.inl (Except.ok.inj hy).symm
    · intro _ e he
      rw [hsame, he]
  · refine ⟨fun hn => absurd hmatch hn, fun _ _ => Or.inr ⟨params, hnew⟩, fun _ hne => absurd hmethod hne, ?_, ?_⟩
    · intro x y _ hy
      rw [hnew] at hy
      exact Or.inr (Except.ok.inj hy ▸ rfl)
    · exact fun hne => absurd hmethod hne
  · refine ⟨fun hn => absurd hmatch hn, fun _ he => absurd he hmethod, fun _ _ => Or.inr hlost, ?_, ?_⟩
    · intro x y _ hy
      rw [hlost] at hy
      cases hy
    · intro _ e he
      rw [hlost, resolve_eq_error he]

theorem enter_list_beside_detail :
    let rs : List (Registration String) := [⟨none, .get, "/orders/\x7bid\x7d", none, "detail"⟩]
    ∃ t' r, (entered rs).attempt ⟨some "orders/", .get, "/list", none, "list"⟩ = .ok t' ∧ r.endpoint = "list" ∧
      t'.resolve .get "/orders/7" = (entered rs).resolve .get "/orders/7" ∧
      (t'.resolve .get "/orders/list" = (entered rs).resolve .get "/orders/list" ∨
        ∃ params, t'.resolve .get "/orders/list" = .ok ⟨r, params⟩) := by
  intro rs
  have hrun : ((entered rs).attempt ⟨some "orders/", .get, "/list", none, "list"⟩).toOption.isSome = true := by
    decide +kernel
  cases h : (entered rs).attempt ⟨some "orders/", .get, "/list", none, "list"⟩ with
  | error e =>
    rw [h] at hrun
    cases hrun
  | ok t' =>
    obtain ⟨-, r, hmakes, -, hall⟩ := (enter_bounded rs _).2 t' h
    have hparse : (Pattern.parse (Pattern.joinText "orders/" "/list")).map (·.segments) =
        .ok [.literal "orders", .literal "list"] := rfl
    have hread : Pattern.parse (Pattern.joinText "orders/" "/list") = .ok r.pattern := hmakes.parse_eq
    rw [hread] at hparse
    have hsegments : r.pattern.segments = [.literal "orders", .literal "list"] := Except.ok.inj hparse
    have hlist : r.Matches "/orders/list" := by
      rw [Route.Matches, Pattern.bind?, hsegments]
      decide
    have hother : ¬ r.Matches "/orders/7" := by
      rw [Route.Matches, Pattern.bind?, hsegments]
      decide
    exact ⟨t', r, rfl, hmakes.endpoint_eq, (hall .get _).1 hother, (hall .get _).2.1 hlist hmakes.method_eq.symm⟩

end RouteTable

end GatedStore
