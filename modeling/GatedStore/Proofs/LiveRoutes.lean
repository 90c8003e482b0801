import GatedStore.Proofs.PatternFilling
import GatedStore.Proofs.PatternPrinting
import GatedStore.Proofs.Resolution
import Mathlib.Data.Set.Finite.List

/-! No route of a table is dead. Values that are literals of no route lead to the route whose parameters take
them, since only a literal could make another route more specific, and of such values there is no end. -/

namespace GatedStore

theorem Path.infinite_isSegment : {v | IsSegment v}.Infinite := by
  refine Set.infinite_of_injective_forall_mem (f := fun n => String.ofList (List.replicate (n + 1) 'a')) ?_ ?_
  · intro m n h
    have hlength := congrArg (fun s => s.toList.length) h
    simpa using hlength
  · intro n
    refine ⟨by simp, by simp, fun c hc => ?_⟩
    rw [String.toList_ofList] at hc
    rw [List.eq_of_mem_replicate hc]
    rfl

theorem Segment.infinite_unused (ss : List Segment) : {v | Path.IsSegment v ∧ .literal v ∉ ss}.Infinite :=
  Path.infinite_isSegment.sdiff ((List.finite_toSet ss).preimage fun _ _ _ _ h => Segment.literal.inj h)

namespace Pattern

variable {value : String → String}

theorem not_moreSpecific_of_filled {a b : List Segment}
    (hadm : List.Forall₂ Segment.Admits a (b.map (Segment.fill value)))
    (hnew : ∀ name, .param name ∈ b → Segment.literal (value name) ∉ a) : segmentsMoreSpecific a b = false := by
  induction b generalizing a with
  | nil =>
    rw [List.map_nil, List.forall₂_nil_right_iff] at hadm
    rw [hadm]
    rfl
  | cons s b ih =>
    rw [List.map_cons, List.forall₂_cons_right_iff] at hadm
    obtain ⟨s', a, hs, hadm, rfl⟩ := hadm
    have hrest := ih hadm fun name hname hm => hnew name (List.mem_cons_of_mem _ hname) (List.mem_cons_of_mem _ hm)
    cases s' with
    | literal text =>
      cases s with
      | literal text' => exact hrest
      | param name =>
        have htext : text = value name := hs
        exact absurd (htext ▸ List.mem_cons_self) (hnew name List.mem_cons_self)
    | param name' =>
      cases s with
      | literal text' => rfl
      | param name => exact hrest

theorem eq_literals_of_no_names {p : Pattern} (h : p.names = []) (value : String → String) :
    p.segments = (p.fill value).map Segment.literal := by
  have hsame : ∀ s ∈ p.segments, Segment.literal (s.fill value) = s := by
    intro s hs
    cases s with
    | literal text => rfl
    | param name =>
      have hname := mem_names_iff.mpr hs
      rw [h] at hname
      cases hname
  rw [fill, List.map_map]
  exact ((List.map_congr_left hsame).trans (List.map_id _)).symm

theorem fill_constant_injective {p : Pattern} (h : p.names ≠ []) {v w : String}
    (heq : p.fill (fun _ => v) = p.fill fun _ => w) : v = w := by
  obtain ⟨name, hname⟩ := List.exists_mem_of_ne_nil _ h
  exact List.map_inj_left.mp heq _ (mem_names_iff.mp hname)

theorem segments_of_parse {text : String} {p : Pattern} (h : parse text = .ok p) (hnames : p.names = []) :
    Path.segments text = p.fill value := by
  have hliteral := eq_literals_of_no_names hnames value
  have hden := parse_eq_ok_iff.mp h
  rw [hliteral, List.forall₂_map_right_iff] at hden
  have hend : ∀ c ∈ text.toList, Path.isEnd c = false := by
    refine Path.no_end_of_parts fun part hp => ?_
    obtain ⟨v, hv, hd⟩ := exists_right_of_forall₂ hden hp
    have hmem : .literal v ∈ p.segments := by
      rw [hliteral]
      exact List.mem_map_of_mem hv
    rw [eq_part_of_denotes hd]
    exact ((p.valid _ hmem).isSegment_fill value nofun).no_end
  rw [Path.segments_of_no_end hend, ← List.forall₂_eq_eq_eq, List.forall₂_map_left_iff]
  exact hden.imp fun part v hv => by rw [eq_part_of_denotes hv, Segment.part, String.ofList_toList]

end Pattern

namespace RouteTable

variable {E : Type} {t : RouteTable E} {r : Route E} {value : String → String}

structure Fresh (t : RouteTable E) (v : String) : Prop where
  isSegment : Path.IsSegment v
  new : ∀ r ∈ t.routes, .literal v ∉ r.pattern.segments

theorem winner_fill (hr : r ∈ t.routes) (hfresh : ∀ name ∈ r.pattern.names, t.Fresh (value name)) :
    t.Winner r.method (r.pattern.fill value) r where
  matching := ⟨hr, r.pattern.bind?_fill ▸ rfl⟩
  method_eq := rfl
  top r' hr' := by
    have hadm := Pattern.bind?_isSome_iff.mp hr'.2
    exact Pattern.not_moreSpecific_of_filled hadm fun name hname =>
      (hfresh name (Pattern.mem_names_iff.mpr hname)).new r' hr'.1

theorem resolve_of_segments {path : String} (hr : r ∈ t.routes)
    (hfresh : ∀ name ∈ r.pattern.names, t.Fresh (value name)) (hpath : Path.segments path = r.pattern.fill value) :
    t.resolve r.method path = .ok ⟨r, r.pattern.assignment value⟩ := by
  rw [resolve_eq_ok_iff, hpath]
  exact ⟨winner_fill hr hfresh, r.pattern.bind?_fill⟩

theorem resolve_filled (hr : r ∈ t.routes) (hfresh : ∀ name ∈ r.pattern.names, t.Fresh (value name)) :
    t.resolve r.method (r.pattern.filledPath value) = .ok ⟨r, r.pattern.assignment value⟩ :=
  resolve_of_segments hr hfresh (Pattern.segments_filledPath fun name hname => (hfresh name hname).isSegment)

theorem resolve_literal {text : String} (hr : r ∈ t.routes) (hnames : r.pattern.names = [])
    (h : Pattern.parse text = .ok r.pattern) : t.resolve r.method text = .ok ⟨r, Table.empty⟩ := by
  have hfresh : ∀ name ∈ r.pattern.names, t.Fresh (id name) := by
    rw [hnames]
    exact fun name hname => by cases hname
  have hres := resolve_of_segments hr hfresh (Pattern.segments_of_parse h hnames)
  rw [Pattern.assignment, hnames] at hres
  exact hres

theorem infinite_fresh (t : RouteTable E) : {v | t.Fresh v}.Infinite := by
  refine (Segment.infinite_unused (t.routes.flatMap (·.pattern.segments))).mono ?_
  rintro v ⟨hv, hnew⟩
  exact ⟨hv, fun r hr hm => hnew (List.mem_flatMap.mpr ⟨r, hr, hm⟩)⟩

def Reaches (t : RouteTable E) (r : Route E) (path : String) : Prop :=
  ∃ params, t.resolve r.method path = .ok ⟨r, params⟩

theorem infinite_reaches (hr : r ∈ t.routes) : {path | t.Reaches r path}.Infinite := by
  obtain ⟨v, hv⟩ := t.infinite_fresh.nonempty
  have hsegments : Path.segments (r.pattern.filledPath fun _ => v) = r.pattern.fill fun _ => v :=
    Pattern.segments_filledPath fun _ _ => hv.isSegment
  -- One filled path will do: with each query it is another path.
  refine Set.infinite_of_injective_forall_mem
    (f := fun query => r.pattern.filledPath (fun _ => v) ++ "?" ++ query) ?_ fun query => ?_
  · intro a b h
    exact (String.append_right_inj _).mp h
  · exact ⟨_, resolve_of_segments hr (fun _ _ => hv) ((Path.segments_query _ query).trans hsegments)⟩

theorem infinite_segments_reaches (hr : r ∈ t.routes) (hnames : r.pattern.names ≠ []) :
    (Path.segments '' {path | t.Reaches r path}).Infinite := by
  refine Set.infinite_of_injOn_mapsTo (f := fun v => r.pattern.fill fun _ => v) ?_ ?_ t.infinite_fresh
  · intro v _ w _ h
    exact Pattern.fill_constant_injective hnames h
  · intro v hv
    exact ⟨_, ⟨_, resolve_filled hr fun _ _ => hv⟩, Pattern.segments_filledPath fun _ _ => hv.isSegment⟩

theorem no_dead_routes (rs : List (Registration E)) {r : Route E} (hr : r ∈ (entered rs).routes) :
    (∀ value : String → String, (∀ name ∈ r.pattern.names, (entered rs).Fresh (value name)) →
      ∃ params, (entered rs).resolve r.method (r.pattern.filledPath value) = .ok ⟨r, params⟩ ∧
        ∀ name, params.get? name = if name ∈ r.pattern.names then some (value name) else none) ∧
    (r.pattern.names = [] → ∀ text, text = r.pattern.text ∨ Pattern.parse text = .ok r.pattern →
      (entered rs).resolve r.method text = .ok ⟨r, Table.empty⟩) ∧
    {path | (entered rs).Reaches r path}.Infinite ∧
    (r.pattern.names ≠ [] → (Path.segments '' {path | (entered rs).Reaches r path}).Infinite) := by
  refine ⟨fun value hfresh => ?_, ?_, infinite_reaches hr, infinite_segments_reaches hr⟩
  · exact ⟨_, resolve_filled hr hfresh, r.pattern.get?_assignment⟩
  · rintro hnames text (rfl | h)
    · exact resolve_literal hr hnames r.pattern.parse_text
    · exact resolve_literal hr hnames h

theorem detail_route_reached :
    let rs : List (Registration String) := [⟨none, .get, "/orders/\x7bid\x7d", none, "detail"⟩,
      ⟨some "orders", .get, "list", some ⟨"orders:list"⟩, "list"⟩, ⟨none, .post, "/orders/edit", none, "edit"⟩]
    ∃ r ∈ (entered rs).routes, r.endpoint = "detail" ∧
      ∃ params, (entered rs).resolve .get "/orders/lists" = .ok ⟨r, params⟩ ∧ params.get? "id" = some "lists" := by
  intro rs
  have hroute : ∃ r ∈ (entered rs).routes, r.endpoint = "detail" ∧ r.method = .get ∧
      r.pattern.segments = [.literal "orders", .param "id"] := by decide +kernel
  have hnew : ∀ r ∈ (entered rs).routes, .literal "lists" ∉ r.pattern.segments := by decide +kernel
  have hfresh : (entered rs).Fresh "lists" := ⟨⟨by decide, by decide, by simp [Path.isEnd]⟩, hnew⟩
  obtain ⟨r, hr, hendpoint, hmethod, hsegments⟩ := hroute
  obtain ⟨params, hres, hget⟩ := (no_dead_routes rs hr).1 (fun _ => "lists") fun _ _ => hfresh
  have hpath : r.pattern.filledPath (fun _ => "lists") = "/orders/lists" := by
    rw [Pattern.filledPath, Pattern.fill, hsegments]
    rfl
  have hname : "id" ∈ r.pattern.names := by simp [Pattern.mem_names_iff, hsegments]
  rw [hmethod, hpath] at hres
  exact ⟨r, hr, hendpoint, params, hres, (hget "id").trans (if_pos hname)⟩

end RouteTable

end GatedStore
