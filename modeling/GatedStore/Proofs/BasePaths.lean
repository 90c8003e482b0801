import GatedStore.Proofs.PatternFilling
import GatedStore.Proofs.PatternPrinting
import GatedStore.Proofs.RegistrationOrder
import GatedStore.Proofs.ServiceRoutes

/-! A table of routes put below a base path. The base stands in front of every pattern, so routes that did not clash
still do not, and all that can go wrong is the text of the base or the names of its parameters. -/

namespace GatedStore

namespace Segment

inductive Written : List Char → Segment → Prop
  | literal {part : List Char} (h : ∀ c ∈ part, c ∉ ['\x7b', '\x7d', '?', '#']) :
      Written part (.literal (String.ofList part))
  | param {name : List Char} (hne : name ≠ []) (h : ∀ c ∈ name, c ∉ ['\x7b', '\x7d']) :
      Written ('\x7b' :: (name ++ ['\x7d'])) (.param (String.ofList name))

theorem isBrace_eq_false_iff {c : Char} : isBrace c = false ↔ c ∉ ['\x7b', '\x7d'] := by
  simp [isBrace]

theorem isReserved_eq_false_iff {c : Char} : isReserved c = false ↔ c ∉ ['\x7b', '\x7d', '?', '#'] := by
  simp [isReserved, isBrace, Path.isEnd, and_assoc]

theorem any_eq_false_iff {f : Char → Bool} {cs reserved : List Char} (h : ∀ {c}, f c = false ↔ c ∉ reserved) :
    cs.any f = false ↔ ∀ c ∈ cs, c ∉ reserved := by
  simp [List.any_eq_false, ← h]

end Segment

theorem Pattern.denotes_iff_written {part : List Char} {s : Segment} : Denotes part s ↔ s.Written part := by
  constructor
  · intro h
    rw [Denotes, readSegment] at h
    split at h
    · rename_i name hname
      split at h
      · cases h
      · rename_i hplain
        rw [if_neg List.not_mem_nil] at h
        obtain rfl := Except.ok.inj h
        obtain ⟨hne, hbrace⟩ := not_or.mp hplain
        rw [braced?_eq_some hname]
        exact .param hne ((Segment.any_eq_false_iff Segment.isBrace_eq_false_iff).mp (Bool.not_eq_true _ ▸ hbrace))
    · split at h
      · cases h
      · rename_i hplain
        obtain rfl := Except.ok.inj h
        exact .literal ((Segment.any_eq_false_iff Segment.isReserved_eq_false_iff).mp (Bool.not_eq_true _ ▸ hplain))
  · intro h
    cases h with
    | literal h =>
      rw [Denotes, readSegment, braced?_of_no_brace fun c hc => Segment.isReserved_eq_false_iff.mpr (h c hc)]
      simp [(Segment.any_eq_false_iff Segment.isReserved_eq_false_iff).mpr h]
    | param hne h =>
      rw [Denotes, readSegment, braced?_braced]
      simp [(Segment.any_eq_false_iff Segment.isBrace_eq_false_iff).mpr h, hne]

variable {E : Type} {base : String}

def Registration.under (base : String) (r : Registration E) : Registration E :=
  { r with base := some (r.base.elim base (Pattern.joinText base)) }

theorem Registration.text_under (base : String) (r : Registration E) :
    (r.under base).text = Pattern.joinText base r.text := by
  obtain ⟨inner, method, pattern, permission, endpoint⟩ := r
  cases inner with
  | none => rfl
  | some inner => simp only [under, text, Pattern.joinText, Option.elim_some, String.append_assoc]

theorem Registration.Makes.under {r : Registration E} {route : Route E} {p : Pattern} (h : r.Makes route)
    (hp : Pattern.parse (Pattern.joinText base r.text) = .ok p) :
    (r.under base).Makes ⟨route.method, p, route.permission, route.endpoint⟩ where
  parse_eq := by rw [r.text_under, hp]
  method_eq := h.method_eq
  permission_eq := h.permission_eq
  endpoint_eq := h.endpoint_eq

structure Route.Below (base : Pattern) (r r' : Route E) : Prop where
  method_eq : r'.method = r.method
  permission_eq : r'.permission = r.permission
  endpoint_eq : r'.endpoint = r.endpoint
  segments_eq : r'.pattern.segments = base.segments ++ r.pattern.segments

namespace Route.Below

variable {b : Pattern} {r r' q q' : Route E}

theorem clashes_iff (hr : r.Below b r') (hq : q.Below b q') : r'.Clashes q' ↔ r.Clashes q := by
  rw [Clashes, Clashes, Pattern.sameShape, hr.method_eq, hq.method_eq, hr.segments_eq, hq.segments_eq,
    Pattern.sameSegments_append, Pattern.sameShape]

theorem disjoint_names (h : r.Below b r') : b.names.Disjoint r.pattern.names := by
  have hdistinct := r'.pattern.distinct
  rw [h.segments_eq, List.filterMap_append] at hdistinct
  exact hdistinct.disjoint

end Route.Below

namespace RouteTable

variable {t t₁ t' : RouteTable E}

def Below (base : String) (t t' : RouteTable E) : Prop :=
  List.Forall₂ (fun r r' => ∃ b, Pattern.parse base = .ok b ∧ r.Below b r') t.routes t'.routes

theorem attempt_under {r : Registration E} (hbelow : t.Below base t') (h : t.attempt r = .ok t₁) :
    (∃ t₁', t'.attempt (r.under base) = .ok t₁' ∧ t₁.Below base t₁') ∨
      ∃ flaw, Pattern.parse (Pattern.joinText base r.text) = .error flaw ∧
        t'.attempt (r.under base) = .error (.invalidPattern (Pattern.joinText base r.text) flaw.message) := by
  cases hp : Pattern.parse (Pattern.joinText base r.text) with
  | error flaw =>
    refine Or.inr ⟨flaw, rfl, ?_⟩
    rw [attempt_eq, r.text_under, Pattern.read, hp]
    rfl
  | ok p =>
    obtain ⟨route, hmakes, hfree, hroutes⟩ := attempt_eq_ok_iff.mp h
    obtain ⟨b, q, hb, hq, hsegments⟩ := Pattern.join_eq_ok_iff.mp hp
    obtain rfl := Except.ok.inj (hmakes.parse_eq.symm.trans hq)
    have hroute : route.Below b ⟨route.method, p, route.permission, route.endpoint⟩ := ⟨rfl, rfl, rfl, hsegments⟩
    have hfree' : ∀ a' ∈ t'.routes, ¬ a'.Clashes ⟨route.method, p, route.permission, route.endpoint⟩ := by
      intro a' ha' hclash
      obtain ⟨a, ha, b', hb', hab⟩ := exists_left_of_forall₂ hbelow ha'
      obtain rfl := Except.ok.inj (hb.symm.trans hb')
      exact hfree a ha ((hab.clashes_iff hroute).mp hclash)
    obtain ⟨t₁', h₁', hroutes'⟩ := exists_attempt (hmakes.under hp) hfree'
    refine Or.inl ⟨t₁', h₁', ?_⟩
    rw [Below, hroutes, hroutes', forall₂_append_iff]
    exact ⟨_, _, rfl, hbelow, .cons ⟨b, hb, hroute⟩ .nil⟩

theorem enterAll_under {rs : List (Registration E)} (hbelow : t.Below base t') (h : t.enterAll rs = .ok t₁) :
    (∃ t₁', t'.enterAll (rs.map (·.under base)) = .ok t₁' ∧ t₁.Below base t₁') ∨
      ∃ r ∈ rs, ∃ flaw, Pattern.parse (Pattern.joinText base r.text) = .error flaw ∧
        t'.enterAll (rs.map (·.under base)) =
          .error (.invalidPattern (Pattern.joinText base r.text) flaw.message) := by
  induction rs generalizing t t' with
  | nil =>
    obtain rfl : t = t₁ := Except.ok.inj h
    exact Or.inl ⟨t', rfl, hbelow⟩
  | cons r rs ih =>
    obtain ⟨t₂, hfirst, hrest⟩ := enterAll_cons_eq_ok_iff.mp h
    rw [List.map_cons, enterAll_cons]
    rcases attempt_under hbelow hfirst with ⟨t₂', hfirst', hbelow₂⟩ | ⟨flaw, hflaw, hfirst'⟩
    · rw [hfirst']
      rcases ih hbelow₂ hrest with hok | ⟨r', hr', herror⟩
      · exact Or.inl hok
      · exact Or.inr ⟨r', List.mem_cons_of_mem _ hr', herror⟩
    · rw [hfirst']
      exact Or.inr ⟨r, List.mem_cons_self, flaw, hflaw, rfl⟩

theorem exists_enterAll_under_iff {rs : List (Registration E)} (hne : t.routes ≠ []) (h : empty.enterAll rs = .ok t) :
    (∃ t', empty.enterAll (rs.map (·.under base)) = .ok t') ↔
      ∃ b, Pattern.parse base = .ok b ∧ ∀ r ∈ t.routes, b.names.Disjoint r.pattern.names := by
  have hempty : (empty : RouteTable E).Below base empty := List.Forall₂.nil
  have hrun := enterAll_under hempty h
  constructor
  · rintro ⟨t', ht'⟩
    rcases hrun with ⟨t₁', h₁', hbelow⟩ | ⟨_, _, _, _, herror⟩
    · obtain ⟨r₀, hr₀⟩ := List.exists_mem_of_ne_nil _ hne
      obtain ⟨_, _, b, hb, _⟩ := exists_right_of_forall₂ hbelow hr₀
      refine ⟨b, hb, fun r hr => ?_⟩
      obtain ⟨_, _, b', hb', hr'⟩ := exists_right_of_forall₂ hbelow hr
      obtain rfl := Except.ok.inj (hb.symm.trans hb')
      exact hr'.disjoint_names
    · rw [ht'] at herror
      cases herror
  · rintro ⟨b, hb, hdisjoint⟩
    rcases hrun with ⟨t₁', h₁', -⟩ | ⟨r, hr, flaw, hflaw, -⟩
    · exact ⟨t₁', h₁'⟩
    · obtain ⟨routes, hmakes, -, hroutes⟩ := enterAll_eq_ok_iff.mp h
      obtain ⟨route, hroute, hmake⟩ := exists_right_of_forall₂ hmakes hr
      have hmem : route ∈ t.routes := hroutes ▸ List.mem_append_right _ hroute
      obtain ⟨p, hp⟩ := (Pattern.exists_join_iff hb hmake.parse_eq).mpr (hdisjoint route hmem)
      rw [hp] at hflaw
      cases hflaw

end RouteTable

/-- A text that can be the base of all operations, with the segments it is made of. -/
structure BasePath (base : String) (segments : List Segment) : Prop where
  written : List.Forall₂ Segment.Written (Path.parts base.toList) segments
  distinct : (segments.filterMap Segment.name?).Nodup
  no_id : "id" ∉ segments.filterMap Segment.name?

theorem basePath_iff {segments : List Segment} :
    BasePath base segments ↔ (∃ b, Pattern.parse base = .ok b ∧ b.segments = segments) ∧
      "id" ∉ segments.filterMap Segment.name? := by
  have hwritten : Pattern.Denotes = Segment.Written := funext₂ fun _ _ => propext Pattern.denotes_iff_written
  rw [Pattern.exists_parse_iff, hwritten]
  exact ⟨fun h => ⟨⟨h.written, h.distinct⟩, h.no_id⟩, fun h => ⟨h.1.1, h.1.2, h.2⟩⟩

namespace Endpoint

def registration (row : Endpoint × Method × String) : Registration Endpoint :=
  ⟨some row.1.kind.segment, row.2.1, row.2.2, row.1.permission?, row.1⟩

theorem routesUnder_eq (base : String) :
    routesUnder base = RouteTable.empty.enterAll ((rows.map registration).map (·.under base)) := by
  rw [RouteTable.enterAll, List.map_map, List.foldlM_map]
  rfl

theorem exists_bareRoutes : ∃ t, RouteTable.empty.enterAll (rows.map registration) = .ok t ∧
    t.routes.length = 32 ∧ (∀ r ∈ t.routes, ∀ name ∈ r.pattern.names, name = "id") ∧
    ∃ r ∈ t.routes, "id" ∈ r.pattern.names := by
  have hrun : (RouteTable.empty.enterAll (rows.map registration)).toOption.any (fun t =>
      t.routes.length = 32 ∧ (∀ r ∈ t.routes, ∀ name ∈ r.pattern.names, name = "id") ∧
        ∃ r ∈ t.routes, "id" ∈ r.pattern.names) = true := by decide +kernel
  cases h : RouteTable.empty.enterAll (rows.map registration) with
  | error e =>
    rw [h] at hrun
    cases hrun
  | ok t =>
    rw [h] at hrun
    exact ⟨t, rfl, of_decide_eq_true hrun⟩

theorem exists_routesUnder_iff : (∃ t, routesUnder base = .ok t) ↔ ∃ segments, BasePath base segments := by
  obtain ⟨t₀, h₀, -, hnames, r₀, hr₀, hid⟩ := exists_bareRoutes
  have hfits : ∀ b : Pattern, (∀ r ∈ t₀.routes, b.names.Disjoint r.pattern.names) ↔ "id" ∉ b.names := by
    intro b
    constructor
    · exact fun h hb => h r₀ hr₀ hb hid
    · intro hb r hr name hname hname'
      obtain rfl := hnames r hr name hname'
      exact hb hname
  rw [routesUnder_eq, RouteTable.exists_enterAll_under_iff (List.ne_nil_of_mem hr₀) h₀]
  simp only [hfits, basePath_iff]
  constructor
  · rintro ⟨b, hb, hfree⟩
    exact ⟨b.segments, ⟨b, hb, rfl⟩, hfree⟩
  · rintro ⟨_, ⟨b, hb, rfl⟩, hfree⟩
    exact ⟨b, hb, hfree⟩

theorem routesUnder_cases (base : String) :
    (∃ t₀ t : RouteTable Endpoint, t₀.routes.length = 32 ∧ t₀.Below base t ∧ routesUnder base = .ok t) ∨
      ∃ r ∈ rows.map registration, ∃ flaw, Pattern.parse (Pattern.joinText base r.text) = .error flaw ∧
        routesUnder base = .error (.invalidPattern (Pattern.joinText base r.text) flaw.message) := by
  obtain ⟨t₀, h₀, hlength, -⟩ := exists_bareRoutes
  have hempty : (RouteTable.empty : RouteTable Endpoint).Below base RouteTable.empty := List.Forall₂.nil
  rw [routesUnder_eq]
  rcases RouteTable.enterAll_under hempty h₀ with ⟨t, ht, hbelow⟩ | herror
  · exact Or.inl ⟨t₀, t, hlength, hbelow, ht⟩
  · exact Or.inr herror

theorem routesUnder_basePath (base : String) :
    ((∃ t, routesUnder base = .ok t) ↔ ∃ segments, BasePath base segments) ∧
    (∀ t, routesUnder base = .ok t → ∃ segments, BasePath base segments ∧ t.routes.length = 32 ∧
      (∀ r ∈ t.routes, segments <+: r.pattern.segments) ∧
      t.routes.Pairwise fun r r' => ¬ (r.method = r'.method ∧ r.pattern.sameShape r'.pattern = true)) ∧
    ∀ e, routesUnder base = .error e → ∃ r ∈ rows.map registration, ∃ flaw,
      Pattern.parse (Pattern.joinText base r.text) = .error flaw ∧
        e = .invalidPattern (Pattern.joinText base r.text) flaw.message := by
  refine ⟨exists_routesUnder_iff, fun t ht => ?_, fun e he => ?_⟩
  · obtain ⟨segments, hbase⟩ := exists_routesUnder_iff.mp ⟨t, ht⟩
    obtain ⟨⟨b, hb, rfl⟩, -⟩ := basePath_iff.mp hbase
    refine ⟨b.segments, hbase, ?_⟩
    rcases routesUnder_cases base with ⟨t₀, t', hlength, hbelow, ht'⟩ | ⟨_, _, _, _, herror⟩
    · obtain rfl := Except.ok.inj (ht.symm.trans ht')
      refine ⟨hbelow.length_eq.symm.trans hlength, fun r hr => ?_, t.distinct⟩
      obtain ⟨r₀, -, b', hb', hr₀⟩ := exists_left_of_forall₂ hbelow hr
      obtain rfl := Except.ok.inj (hb.symm.trans hb')
      exact ⟨r₀.pattern.segments, hr₀.segments_eq.symm⟩
    · rw [ht] at herror
      cases herror
  · rcases routesUnder_cases base with ⟨_, t, -, -, ht⟩ | ⟨r, hr, flaw, hflaw, herror⟩
    · rw [he] at ht
      cases ht
    · exact ⟨r, hr, flaw, hflaw, Except.error.inj (he.symm.trans herror)⟩

theorem basePath_parameter_not_id :
    (∃ t segments, routesUnder "/\x7borg\x7d" = .ok t ∧ BasePath "/\x7borg\x7d" segments ∧ t.routes.length = 32) ∧
    ∃ e text flaw, routesUnder "/\x7bid\x7d" = .error e ∧ e = .invalidPattern text (Pattern.Flaw.message flaw) := by
  constructor
  · obtain ⟨t, -, ht, -⟩ := serves_below_parameter
    obtain ⟨segments, hbase, hlength, -⟩ := (routesUnder_basePath _).2.1 t ht
    exact ⟨t, segments, ht, hbase, hlength⟩
  · have hid : (routesUnder "/\x7bid\x7d").toOption.isSome = false := by decide +kernel
    cases he : routesUnder "/\x7bid\x7d" with
    | ok t =>
      rw [he] at hid
      cases hid
    | error e =>
      obtain ⟨r, -, flaw, -, heq⟩ := (routesUnder_basePath _).2.2 e he
      exact ⟨e, _, flaw, rfl, heq⟩

end Endpoint

end GatedStore
