import GatedStore.Proofs.Results
import GatedStore.Proofs.Specificity
import GatedStore.Routing.RouteTable
import Mathlib.Data.List.Pairwise

namespace GatedStore

structure Registration (E : Type) where
  base : Option String
  method : Method
  pattern : String
  permission : Option Permission
  endpoint : E

theorem Pattern.read_eq_ok_iff {text : String} {p : Pattern} : read text = .ok p ↔ parse text = .ok p :=
  Results.mapError_eq_ok_iff

theorem Pattern.read_eq_error {text : String} {e : RouteError} (h : read text = .error e) :
    ∃ flaw, e = .invalidPattern text (Flaw.message flaw) := by
  obtain ⟨flaw, -, rfl⟩ := Results.mapError_eq_error_iff.mp h
  exact ⟨flaw, rfl⟩

theorem Route.Clashes.symm {E : Type} {a b : Route E} (h : a.Clashes b) : b.Clashes a :=
  ⟨h.1.symm, Pattern.sameSegments_symm h.2⟩

namespace RouteTable

variable {E : Type}

theorem ext {t t' : RouteTable E} (h : t.routes = t'.routes) : t = t' := by
  cases t
  cases t'
  cases h
  rfl

theorem add_eq_ok_iff {t t' : RouteTable E} {r : Route E} :
    t.add r = .ok t' ↔ (∀ a ∈ t.routes, ¬ a.Clashes r) ∧ t'.routes = t.routes ++ [r] := by
  rw [add]
  split
  · rename_i hfree
    constructor
    · intro h
      obtain rfl := Except.ok.inj h
      exact ⟨hfree, rfl⟩
    · rintro ⟨-, hroutes⟩
      exact congrArg Except.ok (ext hroutes.symm)
  · rename_i hclash
    exact iff_of_false (fun h => by cases h) (fun h => hclash h.1)

def attempt (t : RouteTable E) (r : Registration E) : Except RouteError (RouteTable E) :=
  match r.base with
  | none => t.register r.method r.pattern r.permission r.endpoint
  | some base => t.registerUnder base r.method r.pattern r.permission r.endpoint

def enter (t : RouteTable E) (r : Registration E) : RouteTable E :=
  match t.attempt r with
  | .ok t => t
  | .error _ => t

def entered (rs : List (Registration E)) : RouteTable E :=
  rs.foldl enter empty

def Matching (t : RouteTable E) (path : List String) (r : Route E) : Prop :=
  r ∈ t.routes ∧ (r.pattern.bind? path).isSome = true

structure Winner (t : RouteTable E) (method : Method) (path : List String) (r : Route E) : Prop where
  matching : t.Matching path r
  method_eq : r.method = method
  top : ∀ r', t.Matching path r' → r'.pattern.moreSpecific r.pattern = false

theorem mem_candidates {t : RouteTable E} {method : Method} {path : List String} {x : Resolved E} :
    x ∈ t.candidates method path ↔
      x.route ∈ t.routes ∧ x.route.method = method ∧ x.route.pattern.bind? path = some x.params := by
  simp only [candidates, List.mem_filterMap, List.mem_filter, decide_eq_true_eq, matching?,
    Option.map_eq_some_iff]
  constructor
  · rintro ⟨r, ⟨hr, hm⟩, params, hp, rfl⟩
    exact ⟨hr, hm, hp⟩
  · rintro ⟨hr, hm, hp⟩
    exact ⟨x.route, ⟨hr, hm⟩, x.params, hp, rfl⟩

theorem foldl_moreSpecific (best : Resolved E) (cs : List (Resolved E)) :
    let x := cs.foldl (fun best c => if c.route.pattern.moreSpecific best.route.pattern then c else best) best
    (x = best ∨ x ∈ cs ∧ x.route.pattern.moreSpecific best.route.pattern = true) ∧
      ∀ c ∈ cs, c.route.pattern.moreSpecific x.route.pattern = false := by
  induction cs generalizing best with
  | nil => exact ⟨Or.inl rfl, fun c hc => by cases hc⟩
  | cons c cs ih =>
    simp only [List.foldl_cons]
    by_cases hc : c.route.pattern.moreSpecific best.route.pattern = true
    · rw [if_pos hc]
      obtain ⟨hx, htop⟩ := ih c
      generalize cs.foldl _ c = x at hx htop
      have habove : x.route.pattern.moreSpecific best.route.pattern = true := by
        rcases hx with rfl | ⟨-, hx⟩
        · exact hc
        · exact Pattern.moreSpecific_trans hx hc
      refine ⟨Or.inr ⟨?_, habove⟩, fun d hd => ?_⟩
      · rcases hx with rfl | ⟨hx, -⟩
        · exact List.mem_cons_self
        · exact List.mem_cons_of_mem _ hx
      · rcases List.mem_cons.mp hd with rfl | hd
        · rcases hx with rfl | ⟨-, hx⟩
          · exact Pattern.moreSpecific_irrefl _
          · exact Pattern.moreSpecific_asymm hx
        · exact htop d hd
    · rw [if_neg hc]
      obtain ⟨hx, htop⟩ := ih best
      generalize cs.foldl _ best = x at hx htop
      refine ⟨hx.imp_right fun h => ⟨List.mem_cons_of_mem _ h.1, h.2⟩, fun d hd => ?_⟩
      rcases List.mem_cons.mp hd with rfl | hd
      · rw [← Bool.not_eq_true]
        intro hdx
        rcases hx with rfl | ⟨-, hx⟩
        · exact hc hdx
        · exact hc (Pattern.moreSpecific_trans hdx hx)
      · exact htop d hd

theorem mostSpecific_eq_some {cs : List (Resolved E)} {x : Resolved E} (h : mostSpecific cs = some x) :
    x ∈ cs ∧ ∀ c ∈ cs, c.route.pattern.moreSpecific x.route.pattern = false := by
  cases cs with
  | nil => cases h
  | cons c cs =>
    obtain rfl := Option.some.inj h
    obtain ⟨hx, htop⟩ := foldl_moreSpecific c cs
    refine ⟨?_, fun d hd => ?_⟩
    · rcases hx with hx | ⟨hx, -⟩
      · rw [hx]
        exact List.mem_cons_self
      · exact List.mem_cons_of_mem _ hx
    · rcases List.mem_cons.mp hd with rfl | hd
      · rcases hx with hx | ⟨-, hx⟩
        · rw [hx]
          exact Pattern.moreSpecific_irrefl _
        · exact Pattern.moreSpecific_asymm hx
      · exact htop d hd

theorem mostSpecific_eq_none {cs : List (Resolved E)} (h : mostSpecific cs = none) : cs = [] := by
  cases cs with
  | nil => rfl
  | cons c cs => cases h

theorem not_claimedElsewhere_iff {t : RouteTable E} {method : Method} {path : List String} {best : Pattern} :
    t.claimedElsewhere method path best = false ↔
      ∀ r, t.Matching path r → r.method ≠ method → r.pattern.moreSpecific best = false := by
  simp only [claimedElsewhere, List.any_eq_false, Bool.and_eq_true, decide_eq_true_eq, Matching]
  constructor
  · intro h r hr hm
    rw [← Bool.not_eq_true]
    exact fun hs => h r hr.1 ⟨⟨hm, hs⟩, hr.2⟩
  · intro h r hr hall
    rw [h r ⟨hr, hall.2⟩ hall.1.1] at hall
    exact Bool.false_ne_true hall.1.2

theorem eq_of_clashes (t : RouteTable E) {a b : Route E} (ha : a ∈ t.routes) (hb : b ∈ t.routes)
    (h : a.Clashes b) : a = b := by
  have hsymm : Std.Symm fun a b : Route E => ¬ a.Clashes b := ⟨fun _ _ hn hc => hn hc.symm⟩
  by_contra hne
  exact t.distinct.forall ha hb hne h

theorem Winner.unique {t : RouteTable E} {method : Method} {path : List String} {r r' : Route E}
    (h : t.Winner method path r) (h' : t.Winner method path r') : r = r' := by
  have hshape := Pattern.sameShape_of_not_moreSpecific h.matching.2 h'.matching.2
    (h'.top r h.matching) (h.top r' h'.matching)
  exact t.eq_of_clashes h.matching.1 h'.matching.1 ⟨h.method_eq.trans h'.method_eq.symm, hshape⟩

theorem resolve_eq_ok_iff {t : RouteTable E} {method : Method} {path : String} {x : Resolved E} :
    t.resolve method path = .ok x ↔
      t.Winner method (Path.segments path) x.route ∧
        x.route.pattern.bind? (Path.segments path) = some x.params := by
  generalize hu : Path.segments path = u
  constructor
  · intro h
    simp only [resolve, hu] at h
    split at h
    · cases h
    · rename_i best hbest
      split at h
      · cases h
      · rename_i hfree
        obtain rfl := Except.ok.inj h
        obtain ⟨hx, htop⟩ := mostSpecific_eq_some hbest
        obtain ⟨hr, hm, hp⟩ := mem_candidates.mp hx
        refine ⟨⟨⟨hr, hp ▸ rfl⟩, hm, fun r hmatch => ?_⟩, hp⟩
        by_cases hrm : r.method = method
        · obtain ⟨params, hparams⟩ := Option.isSome_iff_exists.mp hmatch.2
          exact htop ⟨r, params⟩ (mem_candidates.mpr ⟨hmatch.1, hrm, hparams⟩)
        · exact not_claimedElsewhere_iff.mp (Bool.not_eq_true _ ▸ hfree) r hmatch hrm
  · rintro ⟨hw, hp⟩
    have hx : x ∈ t.candidates method u := mem_candidates.mpr ⟨hw.matching.1, hw.method_eq, hp⟩
    simp only [resolve, hu]
    split
    · rename_i hnone
      rw [mostSpecific_eq_none hnone] at hx
      cases hx
    · rename_i best hbest
      obtain ⟨hb, htop⟩ := mostSpecific_eq_some hbest
      obtain ⟨hr, hm, hbp⟩ := mem_candidates.mp hb
      have hmatch : t.Matching u best.route := ⟨hr, by rw [hbp]; rfl⟩
      have hshape := Pattern.sameShape_of_not_moreSpecific hw.matching.2 hmatch.2 (htop x hx) (hw.top _ hmatch)
      have hroute : x.route = best.route :=
        t.eq_of_clashes hw.matching.1 hr ⟨hw.method_eq.trans hm.symm, hshape⟩
      have hfree : t.claimedElsewhere method u best.route.pattern = false :=
        not_claimedElsewhere_iff.mpr fun r hr _ => hroute ▸ hw.top r hr
      have hparams : x.params = best.params := Option.some.inj (hp.symm.trans (hroute ▸ hbp))
      rw [hfree, if_neg Bool.false_ne_true]
      cases x
      cases best
      cases hroute
      cases hparams
      rfl

theorem resolve_eq_error {t : RouteTable E} {method : Method} {path : String} {e : RouteError}
    (h : t.resolve method path = .error e) : e = .notFound method path := by
  simp only [resolve] at h
  split at h
  · exact (Except.error.inj h).symm
  · split at h
    · exact (Except.error.inj h).symm
    · cases h

theorem exists_resolve_iff {t : RouteTable E} {method : Method} {path : String} :
    (∃ x, t.resolve method path = .ok x) ↔ ∃ w, t.Winner method (Path.segments path) w := by
  constructor
  · rintro ⟨x, hx⟩
    exact ⟨x.route, (resolve_eq_ok_iff.mp hx).1⟩
  · rintro ⟨w, hw⟩
    obtain ⟨params, hparams⟩ := Option.isSome_iff_exists.mp hw.matching.2
    exact ⟨⟨w, params⟩, resolve_eq_ok_iff.mpr ⟨hw, hparams⟩⟩

theorem resolve_congr {t t' : RouteTable E} {method : Method} {path : String}
    (h : ∀ r, t.Winner method (Path.segments path) r ↔ t'.Winner method (Path.segments path) r) :
    t.resolve method path = t'.resolve method path := by
  cases hres : t.resolve method path with
  | ok x =>
    rw [resolve_eq_ok_iff, h, ← resolve_eq_ok_iff] at hres
    exact hres.symm
  | error e =>
    cases hres' : t'.resolve method path with
    | ok x =>
      rw [resolve_eq_ok_iff, ← h, ← resolve_eq_ok_iff, hres] at hres'
      cases hres'
    | error e' => rw [resolve_eq_error hres, resolve_eq_error hres']

theorem resolve_winner (rs : List (Registration E)) (method : Method) (path : String) :
    (∀ r params, (entered rs).resolve method path = .ok ⟨r, params⟩ ↔
      (entered rs).Winner method (Path.segments path) r ∧
        r.pattern.bind? (Path.segments path) = some params) ∧
    (∀ r r', (entered rs).Winner method (Path.segments path) r →
      (entered rs).Winner method (Path.segments path) r' → r = r') ∧
    ((¬ ∃ r, (entered rs).Winner method (Path.segments path) r) →
      (entered rs).resolve method path = .error (.notFound method path)) := by
  refine ⟨fun r params => resolve_eq_ok_iff, fun r r' => Winner.unique, fun hnone => ?_⟩
  cases hres : (entered rs).resolve method path with
  | error e => rw [resolve_eq_error hres]
  | ok x => exact absurd ⟨x.route, (resolve_eq_ok_iff.mp hres).1⟩ hnone

end RouteTable

end GatedStore
