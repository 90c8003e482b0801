import GatedStore.Proofs.Resolution
import Mathlib.Data.List.Perm.Basic

/-! Routes that can be registered in one order can be registered in any, and no request can tell the orders
apart: what is registered is a set of routes without a clash, and resolution looks at nothing else. -/

namespace GatedStore

variable {E : Type}

def Registration.text (r : Registration E) : String :=
  match r.base with
  | none => r.pattern
  | some base => Pattern.joinText base r.pattern

structure Registration.Makes (r : Registration E) (route : Route E) : Prop where
  parse_eq : Pattern.parse r.text = .ok route.pattern
  method_eq : route.method = r.method
  permission_eq : route.permission = r.permission
  endpoint_eq : route.endpoint = r.endpoint

namespace RouteTable

theorem attempt_eq (t : RouteTable E) (r : Registration E) :
    t.attempt r = Pattern.read r.text >>= fun p => t.add ⟨r.method, p, r.permission, r.endpoint⟩ := by
  obtain ⟨base, method, pattern, permission, endpoint⟩ := r
  cases base with
  | none => rfl
  | some base => rfl

theorem attempt_eq_ok_iff {t t' : RouteTable E} {r : Registration E} :
    t.attempt r = .ok t' ↔
      ∃ route, r.Makes route ∧ (∀ a ∈ t.routes, ¬ a.Clashes route) ∧ t'.routes = t.routes ++ [route] := by
  rw [attempt_eq]
  constructor
  · intro h
    cases hread : Pattern.read r.text with
    | error e =>
      rw [hread] at h
      cases h
    | ok p =>
      rw [hread] at h
      exact ⟨_, ⟨Pattern.read_eq_ok_iff.mp hread, rfl, rfl, rfl⟩, add_eq_ok_iff.mp h⟩
  · rintro ⟨⟨method, p, permission, endpoint⟩, ⟨hparse, rfl, rfl, rfl⟩, hadd⟩
    rw [Pattern.read_eq_ok_iff.mpr hparse]
    exact add_eq_ok_iff.mpr hadd

theorem exists_attempt {t : RouteTable E} {r : Registration E} {route : Route E} (hmake : r.Makes route)
    (hfree : ∀ a ∈ t.routes, ¬ a.Clashes route) : ∃ t', t.attempt r = .ok t' ∧ t'.routes = t.routes ++ [route] := by
  obtain ⟨t', h⟩ : ∃ t', t.add route = .ok t' := ⟨_, dif_pos hfree⟩
  have hroutes := (add_eq_ok_iff.mp h).2
  exact ⟨t', attempt_eq_ok_iff.mpr ⟨route, hmake, hfree, hroutes⟩, hroutes⟩

def enterAll (t : RouteTable E) (rs : List (Registration E)) : Except RouteError (RouteTable E) :=
  rs.foldlM attempt t

theorem enterAll_cons (t : RouteTable E) (r : Registration E) (rs : List (Registration E)) :
    t.enterAll (r :: rs) = t.attempt r >>= fun t₁ => t₁.enterAll rs :=
  List.foldlM_cons

theorem enterAll_cons_eq_ok_iff {t t' : RouteTable E} {r : Registration E} {rs : List (Registration E)} :
    t.enterAll (r :: rs) = .ok t' ↔ ∃ t₁, t.attempt r = .ok t₁ ∧ t₁.enterAll rs = .ok t' := by
  rw [enterAll_cons]
  cases t.attempt r with
  | error e =>
    refine iff_of_false (fun h => by cases h) ?_
    rintro ⟨t₁, h, -⟩
    cases h
  | ok t₁ =>
    constructor
    · exact fun h => ⟨t₁, rfl, h⟩
    · rintro ⟨t₂, h₂, h⟩
      obtain rfl := Except.ok.inj h₂
      exact h

theorem enterAll_eq_ok_iff {t t' : RouteTable E} {rs : List (Registration E)} :
    t.enterAll rs = .ok t' ↔ ∃ routes, List.Forall₂ Registration.Makes rs routes ∧
      (t.routes ++ routes).Pairwise (fun a b => ¬ a.Clashes b) ∧ t'.routes = t.routes ++ routes := by
  induction rs generalizing t with
  | nil =>
    constructor
    · intro h
      obtain rfl : t = t' := Except.ok.inj h
      refine ⟨[], .nil, ?_, ?_⟩
      · rw [List.append_nil]
        exact t.distinct
      · rw [List.append_nil]
    · rintro ⟨routes, hmakes, -, hroutes⟩
      cases hmakes
      rw [List.append_nil] at hroutes
      exact congrArg Except.ok (ext hroutes.symm)
  | cons r rs ih =>
    rw [enterAll_cons_eq_ok_iff]
    constructor
    · rintro ⟨t₁, h₁, h⟩
      obtain ⟨route, hmake, -, hroutes₁⟩ := attempt_eq_ok_iff.mp h₁
      obtain ⟨routes, hmakes, hdistinct, hroutes⟩ := ih.mp h
      rw [hroutes₁, List.append_assoc] at hdistinct hroutes
      exact ⟨route :: routes, .cons hmake hmakes, hdistinct, hroutes⟩
    · rintro ⟨routes, hmakes, hdistinct, hroutes⟩
      cases hmakes with
      | @cons _ route _ routes hmake hmakes =>
        have hfree : ∀ a ∈ t.routes, ¬ a.Clashes route := fun a ha =>
          (List.pairwise_append.mp hdistinct).2.2 a ha route List.mem_cons_self
        obtain ⟨t₁, h₁, hroutes₁⟩ := exists_attempt hmake hfree
        refine ⟨t₁, h₁, ih.mpr ⟨routes, hmakes, ?_, ?_⟩⟩
        · rw [hroutes₁, List.append_assoc]
          exact hdistinct
        · rw [hroutes₁, List.append_assoc]
          exact hroutes

theorem enterAll_perm {rs rs' : List (Registration E)} (hperm : rs.Perm rs') {t : RouteTable E}
    (h : empty.enterAll rs = .ok t) : ∃ t', empty.enterAll rs' = .ok t' ∧ t'.routes.Perm t.routes := by
  obtain ⟨routes, hmakes, hdistinct, hroutes⟩ := enterAll_eq_ok_iff.mp h
  obtain ⟨routes', hmakes', hperm'⟩ := List.perm_comp_forall₂ hperm.symm hmakes
  have hdistinct' : (empty.routes ++ routes').Pairwise fun a b : Route E => ¬ a.Clashes b :=
    List.Pairwise.perm hdistinct (hperm'.symm.append_left _) fun hn hc => hn hc.symm
  refine ⟨⟨empty.routes ++ routes', hdistinct'⟩, ?_, ?_⟩
  · exact enterAll_eq_ok_iff.mpr ⟨routes', hmakes', hdistinct', rfl⟩
  · rw [hroutes]
    exact hperm'.append_left _

theorem Winner.of_mem_iff {t t' : RouteTable E} (h : ∀ r, r ∈ t.routes ↔ r ∈ t'.routes) {method : Method}
    {path : List String} {r : Route E} (hw : t.Winner method path r) : t'.Winner method path r where
  matching := ⟨(h r).mp hw.matching.1, hw.matching.2⟩
  method_eq := hw.method_eq
  top r' hr' := hw.top r' ⟨(h r').mpr hr'.1, hr'.2⟩

theorem resolve_eq_of_mem_iff {t t' : RouteTable E} (h : ∀ r, r ∈ t.routes ↔ r ∈ t'.routes) (method : Method)
    (path : String) : t.resolve method path = t'.resolve method path :=
  resolve_congr fun _ => ⟨fun hw => hw.of_mem_iff h, fun hw => hw.of_mem_iff fun r => (h r).symm⟩

theorem resolve_perm {rs rs' : List (Registration E)} (hperm : rs.Perm rs') {t : RouteTable E}
    (h : empty.enterAll rs = .ok t) : ∃ t', empty.enterAll rs' = .ok t' ∧ t'.routes.Perm t.routes ∧
      ∀ method path, t'.resolve method path = t.resolve method path := by
  obtain ⟨t', h', hroutes⟩ := enterAll_perm hperm h
  exact ⟨t', h', hroutes, fun method path => resolve_eq_of_mem_iff (fun _ => hroutes.mem_iff) method path⟩

theorem resolve_list_registered_first_or_last :
    let rs : List (Registration String) := [⟨none, .get, "/orders/\x7bid\x7d", none, "detail"⟩,
      ⟨some "orders", .get, "list", some ⟨"orders:list"⟩, "list"⟩, ⟨none, .post, "/orders/edit", none, "edit"⟩]
    ∃ t t', empty.enterAll rs = .ok t ∧ empty.enterAll rs.reverse = .ok t' ∧
      t'.resolve .get "/orders/list" = t.resolve .get "/orders/list" := by
  intro rs
  have hrun : (empty.enterAll rs).toOption.isSome = true := by decide +kernel
  cases h : empty.enterAll rs with
  | error e =>
    rw [h] at hrun
    cases hrun
  | ok t =>
    obtain ⟨t', h', -, hresolve⟩ := resolve_perm (List.reverse_perm rs).symm h
    exact ⟨t, t', rfl, h', hresolve _ _⟩

end RouteTable

end GatedStore
