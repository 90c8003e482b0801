import GatedStore.Proofs.IdText
import GatedStore.Proofs.OperationWays
import GatedStore.Proofs.Resolution
import GatedStore.Service.Desk

namespace GatedStore

theorem Kind.segment_injective {k k' : Kind} (h : k.segment = k'.segment) : k = k' := by
  have hk := Kind.ofSegment?_segment k
  rw [h, Kind.ofSegment?_segment] at hk
  exact (Option.some.inj hk).symm

theorem Kind.parse_segment (k : Kind) :
    (Pattern.parse k.segment).map (·.segments) = .ok [.literal k.segment] := by
  cases k <;> rfl

theorem RouteTable.registerUnder_eq_ok {E : Type} {t t' : RouteTable E} {base text : String} {m : Method}
    {permission : Option Permission} {endpoint : E}
    (h : t.registerUnder base m text permission endpoint = .ok t') :
    ∃ p, Pattern.parse (Pattern.joinText base text) = .ok p ∧
      t'.routes = t.routes ++ [⟨m, p, permission, endpoint⟩] := by
  rw [RouteTable.registerUnder, Pattern.readUnder] at h
  cases hread : Pattern.read (Pattern.joinText base text) with
  | error e =>
    rw [hread] at h
    cases h
  | ok p =>
    rw [hread] at h
    exact ⟨p, Pattern.read_eq_ok_iff.mp hread, (RouteTable.add_eq_ok_iff.mp h).2⟩

namespace Endpoint

def Entered (base : String) (row : Endpoint × Method × String) (r : Route Endpoint) : Prop :=
  ∃ p, Pattern.parse (Pattern.joinText (Pattern.joinText base row.1.kind.segment) row.2.2) = .ok p ∧
    r = ⟨row.2.1, p, row.1.permission?, row.1⟩

theorem foldlM_entered {base : String} {rows : List (Endpoint × Method × String)} {t t' : RouteTable Endpoint}
    (h : rows.foldlM (fun t (e, method, path) =>
      t.registerUnder (Pattern.joinText base e.kind.segment) method path e.permission? e) t = .ok t') :
    ∃ rs, t'.routes = t.routes ++ rs ∧ List.Forall₂ (Entered base) rows rs := by
  induction rows generalizing t with
  | nil =>
    obtain rfl := Except.ok.inj h
    exact ⟨[], (List.append_nil _).symm, .nil⟩
  | cons row rows ih =>
    simp only [List.foldlM_cons, bind, Except.bind] at h
    split at h
    · cases h
    · rename_i t₁ h₁
      obtain ⟨p, hp, hroutes⟩ := RouteTable.registerUnder_eq_ok h₁
      obtain ⟨rs, hrs, hall⟩ := ih h
      refine ⟨_ :: rs, ?_, .cons ⟨p, hp, rfl⟩ hall⟩
      rw [hrs, hroutes, List.append_assoc]
      rfl

theorem routesUnder_entered {base : String} {t : RouteTable Endpoint} (h : routesUnder base = .ok t) :
    List.Forall₂ (Entered base) rows t.routes := by
  obtain ⟨rs, hrs, hall⟩ := foldlM_entered h
  rw [RouteTable.empty, List.nil_append] at hrs
  exact hrs ▸ hall

theorem mem_all (e : Endpoint) : e ∈ all := by
  obtain ⟨k, op⟩ := e
  refine List.mem_flatMap.mpr ⟨k, Kind.mem_all k, List.mem_map.mpr ⟨op, ?_, rfl⟩⟩
  cases op <;> decide

theorem mem_rows {e : Endpoint} {m : Method} {path : String} :
    (e, m, path) ∈ rows ↔ (m, path) ∈ e.operation.ways := by
  simp only [rows, List.mem_flatMap, List.mem_map]
  constructor
  · rintro ⟨e', -, way, hway, he⟩
    cases he
    exact hway
  · intro h
    exact ⟨e, mem_all e, (m, path), h, rfl⟩

end Endpoint

structure Route.Leads (base : Pattern) (k : Kind) (op : Operation) (tail : List Segment)
    (r : Route Endpoint) : Prop where
  mem_tails : (r.method, tail) ∈ op.tails
  endpoint_eq : r.endpoint = ⟨k, op⟩
  permission_eq : r.permission = op.action?.map (Permission.forResource k)
  segments_eq : r.pattern.segments = base.segments ++ .literal k.segment :: tail

namespace Endpoint

theorem Entered.leads {base : String} {row : Endpoint × Method × String} {r : Route Endpoint} {b : Pattern}
    (hb : Pattern.parse base = .ok b) (h : Entered base row r) {tail : List Segment}
    (htail : (Pattern.parse row.2.2).map (·.segments) = .ok tail)
    (hmem : (row.2.1, tail) ∈ row.1.operation.tails) : r.Leads b row.1.kind row.1.operation tail := by
  obtain ⟨p, hp, rfl⟩ := h
  obtain ⟨a, q, ha, hq, hpq⟩ := Pattern.join_eq_ok_iff.mp hp
  obtain ⟨b', c, hb', hc, hac⟩ := Pattern.join_eq_ok_iff.mp ha
  obtain rfl := Except.ok.inj (hb.symm.trans hb')
  have hseg := row.1.kind.parse_segment
  rw [hc] at hseg
  rw [hq] at htail
  have hcs : c.segments = [.literal row.1.kind.segment] := Except.ok.inj hseg
  have hqs : q.segments = tail := Except.ok.inj htail
  refine ⟨hmem, rfl, rfl, ?_⟩
  rw [hpq, hac, hcs, hqs, List.append_assoc]
  rfl

theorem Entered.parse_base {base : String} {row : Endpoint × Method × String} {r : Route Endpoint}
    (h : Entered base row r) : ∃ b, Pattern.parse base = .ok b := by
  obtain ⟨p, hp, -⟩ := h
  obtain ⟨a, -, ha, -, -⟩ := Pattern.join_eq_ok_iff.mp hp
  obtain ⟨b, -, hb, -, -⟩ := Pattern.join_eq_ok_iff.mp ha
  exact ⟨b, hb⟩

end Endpoint

structure RouteTable.Serves (t : RouteTable Endpoint) (base : Pattern) : Prop where
  sound : ∀ r ∈ t.routes, ∃ k op tail, r.Leads base k op tail
  complete : ∀ k op m tail, (m, tail) ∈ Operation.tails op →
    ∃ r ∈ t.routes, r.method = m ∧ r.Leads base k op tail

theorem Endpoint.routesUnder_serves {base : String} {t : RouteTable Endpoint}
    (h : Endpoint.routesUnder base = .ok t) : ∃ b, Pattern.parse base = .ok b ∧ t.Serves b := by
  have hall := routesUnder_entered h
  have hrow : (⟨.orders, .list⟩, .get, "/list") ∈ rows := mem_rows.mpr List.mem_cons_self
  obtain ⟨r₀, -, hr₀⟩ := exists_right_of_forall₂ hall hrow
  obtain ⟨b, hb⟩ := hr₀.parse_base
  refine ⟨b, hb, ?_, ?_⟩
  · intro r hr
    obtain ⟨⟨e, m, path⟩, hrow, hent⟩ := exists_left_of_forall₂ hall hr
    obtain ⟨⟨m', tail⟩, htail, hm, hparse⟩ :=
      exists_right_of_forall₂ e.operation.ways_tails (mem_rows.mp hrow)
    cases hm
    exact ⟨e.kind, e.operation, tail, hent.leads hb hparse htail⟩
  · intro k op m tail htail
    obtain ⟨⟨m', path⟩, hway, hm, hparse⟩ := exists_left_of_forall₂ op.ways_tails htail
    cases hm
    obtain ⟨r, hr, hent⟩ := exists_right_of_forall₂ hall (mem_rows.mpr hway : (⟨k, op⟩, m, path) ∈ rows)
    have hleads := hent.leads hb hparse htail
    refine ⟨r, hr, ?_, hleads⟩
    obtain ⟨p, -, rfl⟩ := hent
    rfl

namespace Route.Leads

variable {base : Pattern} {k : Kind} {op : Operation} {tail : List Segment} {r : Route Endpoint}

theorem bindings_iff (h : r.Leads base k op tail) {path : List String} {bs : List (String × String)} :
    Pattern.bindings r.pattern.segments path = some bs ↔
      ∃ u rest bu bt, path = u ++ k.segment :: rest ∧ Pattern.bindings base.segments u = some bu ∧
        Pattern.bindings tail rest = some bt ∧ bs = bu ++ bt := by
  rw [h.segments_eq, Pattern.bindings_append_iff]
  constructor
  · rintro ⟨u, v, bu, bv, rfl, hu, hv, rfl⟩
    cases v with
    | nil => simp at hv
    | cons s rest =>
      simp only [Pattern.bindings] at hv
      split at hv
      · rename_i hs
        exact ⟨u, rest, bu, bv, by rw [hs], hu, hv, rfl⟩
      · cases hv
  · rintro ⟨u, rest, bu, bt, rfl, hu, ht, rfl⟩
    exact ⟨u, k.segment :: rest, bu, bt, rfl, hu, by rw [Pattern.bindings, if_pos rfl, ht], rfl⟩

theorem moreSpecific_eq (h : r.Leads base k op tail) {op' : Operation} {tail' : List Segment}
    {r' : Route Endpoint} (h' : r'.Leads base k op' tail') :
    r'.pattern.moreSpecific r.pattern = Pattern.segmentsMoreSpecific tail' tail := by
  rw [Pattern.moreSpecific, h.segments_eq, h'.segments_eq, Pattern.segmentsMoreSpecific_append]
  rfl

end Route.Leads

def withId (params : Pattern.Params) : Option String → Pattern.Params
  | none => params
  | some id => params.insert "id" id

theorem ofList_append_id (bs : List (String × String)) (id : Option String) :
    Table.ofList (bs ++ (id.map (("id", ·))).toList) = withId (Table.ofList bs) id := by
  cases id with
  | none => rw [Option.map_none, Option.toList_none, List.append_nil, withId]
  | some id => exact List.foldl_append

theorem Desk.pathId_withId {k : Kind} {params : Pattern.Params} {id : ResourceId} :
    Desk.pathId k (withId params (some id.text)) = .ok id := by
  simp [Desk.pathId, withId, Except.mapError]

theorem Pattern.cut_unique {base : List Segment} {u u' : List String} {k k' : Kind} {rest rest' : List String}
    {bu bu' : List (String × String)} (hu : bindings base u = some bu) (hu' : bindings base u' = some bu')
    (h : u ++ k.segment :: rest = u' ++ k'.segment :: rest') : u = u' ∧ k = k' ∧ rest = rest' := by
  have hlen : u.length = u'.length :=
    (admits_of_bindings hu).length_eq.symm.trans (admits_of_bindings hu').length_eq
  obtain ⟨rfl, hs⟩ := List.append_inj h hlen
  obtain ⟨hk, rfl⟩ := List.cons.inj hs
  exact ⟨rfl, Kind.segment_injective hk, rfl⟩

namespace RouteTable.Serves

variable {t : RouteTable Endpoint} {base : Pattern}

theorem matching_iff (ht : t.Serves base) {u rest : List String} {k : Kind} {bu : List (String × String)}
    (hu : Pattern.bindings base.segments u = some bu) {r : Route Endpoint} :
    t.Matching (u ++ k.segment :: rest) r ↔
      r ∈ t.routes ∧ ∃ op tail, r.Leads base k op tail ∧ List.Forall₂ Segment.Admits tail rest := by
  rw [Matching, Pattern.bind?, Option.isSome_map, Option.isSome_iff_exists]
  constructor
  · rintro ⟨hr, bs, hbs⟩
    obtain ⟨k', op, tail, hleads⟩ := ht.sound r hr
    obtain ⟨u', rest', bu', bt, hpath, hu', htail, -⟩ := hleads.bindings_iff.mp hbs
    obtain ⟨rfl, rfl, rfl⟩ := Pattern.cut_unique hu hu' hpath
    exact ⟨hr, op, tail, hleads, Pattern.admits_of_bindings htail⟩
  · rintro ⟨hr, op, tail, hleads, hadm⟩
    obtain ⟨bt, hbt⟩ := Option.isSome_iff_exists.mp (Pattern.bindings_isSome_iff.mpr hadm)
    exact ⟨hr, bu ++ bt, hleads.bindings_iff.mpr ⟨u, rest, bu, bt, rfl, hu, hbt, rfl⟩⟩

theorem winner_iff (ht : t.Serves base) {m : Method} {u rest : List String} {k : Kind}
    {bu : List (String × String)} (hu : Pattern.bindings base.segments u = some bu) {r : Route Endpoint} :
    t.Winner m (u ++ k.segment :: rest) r ↔
      r ∈ t.routes ∧ r.method = m ∧ ∃ op tail, r.Leads base k op tail ∧ Operation.Best rest tail := by
  constructor
  · intro hw
    obtain ⟨hr, op, tail, hleads, hadm⟩ := (ht.matching_iff hu).mp hw.matching
    refine ⟨hr, hw.method_eq, op, tail, hleads, hadm, fun op' m' tail' hmem hadm' => ?_⟩
    obtain ⟨r', hr', -, hleads'⟩ := ht.complete k op' m' tail' hmem
    rw [← hleads.moreSpecific_eq hleads']
    exact hw.top r' ((ht.matching_iff hu).mpr ⟨hr', op', tail', hleads', hadm'⟩)
  · rintro ⟨hr, hm, op, tail, hleads, hbest⟩
    refine ⟨(ht.matching_iff hu).mpr ⟨hr, op, tail, hleads, hbest.admits⟩, hm, fun r' hmatch => ?_⟩
    obtain ⟨-, op', tail', hleads', hadm'⟩ := (ht.matching_iff hu).mp hmatch
    rw [hleads.moreSpecific_eq hleads']
    exact hbest.top op' r'.method tail' hleads'.mem_tails hadm'

theorem resolve_of_asks (ht : t.Serves base) {m : Method} {path : String} {u rest : List String} {k : Kind}
    {op : Operation} {id : Option String} {bu : List (String × String)}
    (hpath : Path.segments path = u ++ k.segment :: rest)
    (hu : Pattern.bindings base.segments u = some bu) (hask : Operation.Asks m rest op id) :
    ∃ r ∈ t.routes, r.endpoint = ⟨k, op⟩ ∧ r.permission = op.action?.map (Permission.forResource k) ∧
      t.resolve m path = .ok ⟨r, Table.ofList (bu ++ (id.map (("id", ·))).toList)⟩ := by
  obtain ⟨tail, hmem, hbest, hbt⟩ := Operation.asks_iff.mp hask
  obtain ⟨r, hr, hm, hleads⟩ := ht.complete k op m tail hmem
  refine ⟨r, hr, hleads.endpoint_eq, hleads.permission_eq, resolve_eq_ok_iff.mpr ⟨?_, ?_⟩⟩
  · rw [hpath]
    exact (ht.winner_iff hu).mpr ⟨hr, hm, op, tail, hleads, hbest⟩
  · rw [hpath, Pattern.bind?, hleads.bindings_iff.mpr ⟨u, rest, bu, _, rfl, hu, hbt, rfl⟩]
    rfl

theorem asks_of_resolve (ht : t.Serves base) {m : Method} {path : String} {x : Resolved Endpoint}
    (h : t.resolve m path = .ok x) :
    ∃ u, ∃ k : Kind, ∃ rest op id bu, Path.segments path = u ++ k.segment :: rest ∧
      Pattern.bindings base.segments u = some bu ∧ Operation.Asks m rest op id := by
  obtain ⟨hw, hx⟩ := resolve_eq_ok_iff.mp h
  obtain ⟨bs, hbs, -⟩ := Option.map_eq_some_iff.mp hx
  obtain ⟨k, op, tail, hleads⟩ := ht.sound x.route hw.matching.1
  obtain ⟨u, rest, bu, bt, hpath, hu, -, -⟩ := hleads.bindings_iff.mp hbs
  rw [hpath] at hw
  obtain ⟨-, hm, op', tail', hleads', hbest⟩ := (ht.winner_iff hu).mp hw
  obtain ⟨bt', hbt'⟩ := Option.isSome_iff_exists.mp (Pattern.bindings_isSome_iff.mpr hbest.admits)
  obtain ⟨id, rfl⟩ := Operation.bindings_tail hleads'.mem_tails hbt'
  have hmem := hleads'.mem_tails
  rw [hm] at hmem
  exact ⟨u, k, rest, op', id, bu, hpath, hu, Operation.asks_iff.mpr ⟨tail', hmem, hbest, hbt'⟩⟩

theorem no_id_in_base (ht : t.Serves base) : Segment.param "id" ∉ base.segments := by
  intro hid
  obtain ⟨r, -, -, hleads⟩ := ht.complete .orders .detail .get [.param "id"] (by simp [Operation.tails])
  have hdistinct := r.pattern.distinct
  rw [hleads.segments_eq, List.filterMap_append, List.nodup_append] at hdistinct
  exact hdistinct.2.2 "id" (List.mem_filterMap.mpr ⟨_, hid, rfl⟩) "id" List.mem_cons_self rfl

end RouteTable.Serves

theorem ResourceId.text_not_mem_words (id : ResourceId) : id.text ∉ Operation.words := by
  intro h
  have hdigit : ∀ c ∈ id.text.toList, c.isDigit = true := fun c hc => id.isDigit_of_mem_text hc
  simp only [Operation.words, List.mem_cons, List.not_mem_nil, or_false] at h
  rcases h with h | h | h | h | h
  · cases hdigit 'l' (by simp [h])
  · cases hdigit 'c' (by simp [h])
  · cases hdigit 'e' (by simp [h])
  · cases hdigit 'r' (by simp [h])
  · cases hdigit 'a' (by simp [h])

theorem ResourceId.isSegment_text (id : ResourceId) : Path.IsSegment id.text := by
  have hdigit : ∀ c ∈ id.text.toList, c.isDigit = true := fun c hc => id.isDigit_of_mem_text hc
  refine ⟨?_, ?_, ?_⟩
  · rw [toList_text]
    exact Nat.toDigits_ne_nil
  · intro h
    cases hdigit _ h
  · intro c hc
    rw [Path.isEnd, Bool.or_eq_false_iff, beq_eq_false_iff_ne, beq_eq_false_iff_ne]
    constructor
    · rintro rfl
      cases hdigit _ hc
    · rintro rfl
      cases hdigit _ hc

theorem Path.segments_detail {path : String} (h : ∀ c ∈ path.toList, isEnd c = false) (id : ResourceId) :
    segments (path ++ "/detail/" ++ id.text) = segments path ++ ["detail", id.text] := by
  have htext : path ++ "/detail/" ++ id.text = path ++ "/" ++ ("detail" ++ "/" ++ id.text) := by
    rw [String.append_assoc, String.append_assoc]
    rfl
  have hword : segments "detail" = ["detail"] := rfl
  rw [htext, segments_slash _ h, segments_slash _ (by simp [isEnd]), hword, segments_single id.isSegment_text]
  rfl

theorem Path.segments_id {path : String} (h : ∀ c ∈ path.toList, isEnd c = false) (id : ResourceId) :
    segments (path ++ "/" ++ id.text) = segments path ++ [id.text] := by
  rw [segments_slash _ h, segments_single id.isSegment_text]

theorem resolve_routesUnder {base : String} {t : RouteTable Endpoint} (h : Endpoint.routesUnder base = .ok t) :
    ∃ b, Pattern.parse base = .ok b ∧ Segment.param "id" ∉ b.segments ∧
      (∀ m path, (∃ x, t.resolve m path = .ok x) ↔
        ∃ u, ∃ k : Kind, ∃ rest op id, Path.segments path = u ++ k.segment :: rest ∧
          (b.bind? u).isSome = true ∧ Operation.Asks m rest op id) ∧
      (∀ m path u rest op id params, ∀ k : Kind, Path.segments path = u ++ k.segment :: rest →
        b.bind? u = some params → Operation.Asks m rest op id →
        ∃ r ∈ t.routes, t.resolve m path = .ok ⟨r, withId params id⟩ ∧ r.endpoint = ⟨k, op⟩ ∧
          r.permission = op.action?.map fun action => ⟨k.segment ++ ":" ++ action⟩) ∧
      (∀ path u params, ∀ k : Kind, ∀ id : ResourceId, (∀ c ∈ path.toList, Path.isEnd c = false) →
        Path.segments path = u ++ [k.segment] → b.bind? u = some params →
        ∀ way ∈ [path ++ "/detail/" ++ id.text, path ++ "/" ++ id.text],
          ∃ x, t.resolve .get way = .ok x ∧ x.route.endpoint = ⟨k, .detail⟩ ∧
            Desk.pathId k x.params = .ok id) := by
  obtain ⟨b, hb, hs⟩ := Endpoint.routesUnder_serves h
  have hresolved : ∀ m path u rest op id params, ∀ k : Kind, Path.segments path = u ++ k.segment :: rest →
      b.bind? u = some params → Operation.Asks m rest op id →
      ∃ r ∈ t.routes, t.resolve m path = .ok ⟨r, withId params id⟩ ∧ r.endpoint = ⟨k, op⟩ ∧
        r.permission = op.action?.map fun action => ⟨k.segment ++ ":" ++ action⟩ := by
    intro m path u rest op id params k hpath hu hask
    obtain ⟨bu, hbu, rfl⟩ := Option.map_eq_some_iff.mp hu
    obtain ⟨r, hr, he, hp, hres⟩ := hs.resolve_of_asks hpath hbu hask
    rw [ofList_append_id] at hres
    exact ⟨r, hr, hres, he, hp⟩
  refine ⟨b, hb, hs.no_id_in_base, fun m path => ⟨?_, ?_⟩, hresolved, ?_⟩
  · rintro ⟨x, hx⟩
    obtain ⟨u, k, rest, op, id, bu, hpath, hbu, hask⟩ := hs.asks_of_resolve hx
    exact ⟨u, k, rest, op, id, hpath, by rw [Pattern.bind?, hbu]; rfl, hask⟩
  · rintro ⟨u, k, rest, op, id, hpath, hu, hask⟩
    obtain ⟨params, hparams⟩ := Option.isSome_iff_exists.mp hu
    obtain ⟨r, -, hres, -⟩ := hresolved m path u rest op id params k hpath hparams hask
    exact ⟨_, hres⟩
  · intro path u params k id hend hpath hu way hway
    have hdetail : ∃ rest, Path.segments way = u ++ k.segment :: rest ∧
        Operation.Asks .get rest .detail (some id.text) := by
      simp only [List.mem_cons, List.not_mem_nil, or_false] at hway
      rcases hway with rfl | rfl
      · exact ⟨_, by rw [Path.segments_detail hend, hpath, List.append_assoc]; rfl, .detailByName _⟩
      · exact ⟨_, by rw [Path.segments_id hend, hpath, List.append_assoc]; rfl,
          .detail _ id.text_not_mem_words⟩
    obtain ⟨rest, hway, hask⟩ := hdetail
    obtain ⟨r, -, hres, he, -⟩ := hresolved .get way u rest .detail _ params k hway hu hask
    exact ⟨_, hres, he, Desk.pathId_withId⟩

theorem Endpoint.serves_below_parameter : ∃ t b, Endpoint.routesUnder "/\x7borg\x7d" = .ok t ∧
    Pattern.parse "/\x7borg\x7d" = .ok b ∧ b.segments = [.param "org"] ∧ t.Serves b := by
  have hstart : (Endpoint.routesUnder "/\x7borg\x7d").toOption.isSome = true := by decide +kernel
  cases ht : Endpoint.routesUnder "/\x7borg\x7d" with
  | ok t =>
    obtain ⟨b, hb, hserves⟩ := Endpoint.routesUnder_serves ht
    have hparse : (Pattern.parse "/\x7borg\x7d").map (·.segments) = .ok [.param "org"] := rfl
    rw [hb] at hparse
    exact ⟨t, b, rfl, hb, Except.ok.inj hparse, hserves⟩
  | error e =>
    rw [ht] at hstart
    cases hstart

theorem resolve_detail_below_parameter :
    ∃ t r, Endpoint.routesUnder "/\x7borg\x7d" = .ok t ∧ r.endpoint = ⟨.orders, .detail⟩ ∧
      t.resolve .get "/orders/orders/7?all" = .ok ⟨r, withId (Table.ofList [("org", "orders")]) (some "7")⟩ := by
  obtain ⟨t, b, ht, hb, hsegments, -⟩ := Endpoint.serves_below_parameter
  obtain ⟨b', hb', -, -, hresolved, -⟩ := resolve_routesUnder ht
  obtain rfl := Except.ok.inj (hb.symm.trans hb')
  have hbind : b.bind? ["orders"] = some (Table.ofList [("org", "orders")]) := by
    rw [Pattern.bind?, hsegments]
    rfl
  obtain ⟨r, -, hres, he, -⟩ := hresolved .get "/orders/orders/7?all" ["orders"] ["7"] .detail (some "7") _ .orders
    rfl hbind (.detail "7" (by decide))
  exact ⟨t, r, ht, he, hres⟩

end GatedStore
