import GatedStore.Proofs.PatternFilling
import GatedStore.Proofs.Results

/-! Matching inverts substitution. The names of a pattern differ, so that a path it matches is filled by a value for
each name, and the bindings are these values. -/

namespace GatedStore

def Segment.substitute (params : Pattern.Params) : Segment → Option String
  | .literal text => some text
  | .param name => params.get? name

namespace Pattern

variable {p : Pattern} {params : Params} {vs : List String}

theorem map_fill_update {ss : List Segment} {name : String} (h : name ∉ ss.filterMap Segment.name?)
    (value : String → String) (v : String) :
    ss.map (Segment.fill (Function.update value name v)) = ss.map (Segment.fill value) := by
  refine List.map_congr_left fun s hs => ?_
  cases s with
  | literal text => rfl
  | param name' =>
    have hne : name' ≠ name := by
      rintro rfl
      exact h (List.mem_filterMap.mpr ⟨_, hs, rfl⟩)
    exact Function.update_of_ne hne v value

theorem exists_fill {ss : List Segment} (hdistinct : (ss.filterMap Segment.name?).Nodup)
    (h : List.Forall₂ Segment.Admits ss vs) : ∃ value, vs = ss.map (Segment.fill value) := by
  induction h with
  | nil => exact ⟨id, rfl⟩
  | @cons s v ss vs hs _ ih =>
    cases s with
    | literal text =>
      have htext : text = v := hs
      obtain ⟨value, hvs⟩ := ih hdistinct
      exact ⟨value, by rw [List.map_cons, ← hvs, Segment.fill, htext]⟩
    | param name =>
      obtain ⟨hfresh, hdistinct⟩ := List.nodup_cons.mp hdistinct
      obtain ⟨value, hvs⟩ := ih hdistinct
      refine ⟨Function.update value name v, ?_⟩
      rw [List.map_cons, map_fill_update hfresh, ← hvs, Segment.fill, Function.update_self]

theorem bind?_eq_some_iff : p.bind? vs = some params ↔ ∃ value, vs = p.fill value ∧ params = p.assignment value := by
  constructor
  · intro h
    have hmatch : (p.bind? vs).isSome = true := h ▸ rfl
    obtain ⟨value, rfl⟩ := exists_fill p.distinct (bind?_isSome_iff.mp hmatch)
    exact ⟨value, rfl, Option.some.inj (h.symm.trans p.bind?_fill)⟩
  · rintro ⟨value, rfl, rfl⟩
    exact p.bind?_fill

theorem substitute_assignment (p : Pattern) (value : String → String) :
    p.segments.map (Segment.substitute (p.assignment value)) = (p.fill value).map some := by
  rw [fill, List.map_map]
  refine List.map_congr_left fun s hs => ?_
  cases s with
  | literal text => rfl
  | param name => exact (p.get?_assignment name).trans (if_pos (mem_names_iff.mpr hs))

theorem mem_keys_assignment {value : String → String} {name : String} :
    name ∈ (p.assignment value).keys ↔ name ∈ p.names := by
  simp

theorem eq_fill_of_substitute (h : p.segments.map (Segment.substitute params) = vs.map some) :
    vs = p.fill fun name => (params.get? name).getD "" := by
  have hsome : ∀ s ∈ p.segments,
      s.substitute params = some (s.fill fun name => (params.get? name).getD "") := by
    intro s hs
    have hmem : s.substitute params ∈ vs.map some := h ▸ List.mem_map_of_mem hs
    obtain ⟨v, -, hv⟩ := List.mem_map.mp hmem
    cases s with
    | literal text => rfl
    | param name =>
      have hget : params.get? name = some v := hv.symm
      simp [Segment.substitute, Segment.fill, hget]
  rw [List.map_congr_left hsome] at h
  apply List.map_injective_iff.mpr (Option.some_injective String)
  rw [fill, List.map_map]
  exact h.symm

theorem eq_assignment_of_keys (h : ∀ name, name ∈ params.keys ↔ name ∈ p.names) :
    params = p.assignment fun name => (params.get? name).getD "" := by
  refine Table.eq_of_get? fun name => ?_
  rw [get?_assignment]
  split
  · rename_i hname
    obtain ⟨v, hv⟩ := Table.mem_keys_iff.mp ((h name).mpr hname)
    rw [hv]
    rfl
  · rename_i hname
    rw [← h name, Table.mem_keys_iff] at hname
    exact Option.eq_none_iff_forall_ne_some.mpr fun v hv => hname ⟨v, hv⟩

theorem bind?_iff_substitute : p.bind? vs = some params ↔
    (∀ name, name ∈ params.keys ↔ name ∈ p.names) ∧ p.segments.map (Segment.substitute params) = vs.map some := by
  rw [bind?_eq_some_iff]
  constructor
  · rintro ⟨value, rfl, rfl⟩
    exact ⟨fun _ => mem_keys_assignment, p.substitute_assignment value⟩
  · rintro ⟨hkeys, hvs⟩
    exact ⟨_, eq_fill_of_substitute hvs, eq_assignment_of_keys hkeys⟩

theorem isSegment_of_bind? {path name v : String} (h : p.bind? (Path.segments path) = some params)
    (hv : params.get? name = some v) : Path.IsSegment v := by
  obtain ⟨value, hpath, rfl⟩ := bind?_eq_some_iff.mp h
  rw [get?_assignment] at hv
  split at hv
  · rename_i hname
    obtain rfl := Option.some.inj hv
    have hmem : value name ∈ p.fill value := List.mem_map.mpr ⟨_, mem_names_iff.mp hname, rfl⟩
    exact Path.isSegment_of_mem (hpath ▸ hmem)
  · cases hv

theorem bind?_inverts_substitution (p : Pattern) (path : String) (params : Params) :
    (p.bind? (Path.segments path) = some params ↔
      (∀ name, name ∈ params.keys ↔ name ∈ p.names) ∧
        p.segments.map (Segment.substitute params) = (Path.segments path).map some) ∧
    (p.bind? (Path.segments path) = some params →
      (∃ bs, bindings p.segments (Path.segments path) = some bs ∧ bs.map (·.1) = p.names ∧ params.pairs.Perm bs) ∧
      ∀ name v, params.get? name = some v → v ≠ "" ∧ '/' ∉ v.toList ∧ '?' ∉ v.toList ∧ '#' ∉ v.toList) := by
  refine ⟨bind?_iff_substitute, fun h => ⟨?_, fun name v hv => Path.isSegment_iff.mp (isSegment_of_bind? h hv)⟩⟩
  obtain ⟨value, hpath, rfl⟩ := bind?_eq_some_iff.mp h
  rw [hpath, fill, bindings_fill]
  refine ⟨_, rfl, ?_, Table.pairs_ofList_map_perm value p.distinct⟩
  rw [List.map_map]
  exact List.map_id _

theorem bind?_of_two_parameters :
    ∃ p params, parse "/\x7borg\x7d/orders/\x7bid\x7d" = .ok p ∧
      p.bind? (Path.segments "/acme//orders/7?all") = some params ∧
      p.segments.map (Segment.substitute params) = [some "acme", some "orders", some "7"] ∧
      params.keys.Perm ["org", "id"] := by
  have hparse : (parse "/\x7borg\x7d/orders/\x7bid\x7d").map (·.segments) =
      .ok [.param "org", .literal "orders", .param "id"] := rfl
  obtain ⟨p, hp, hsegments⟩ := Results.map_eq_ok_iff.mp hparse
  have hmatch : (p.bind? (Path.segments "/acme//orders/7?all")).isSome = true := by
    rw [bind?, hsegments]
    rfl
  obtain ⟨params, hparams⟩ := Option.isSome_iff_exists.mp hmatch
  obtain ⟨hiff, hbound⟩ := bind?_inverts_substitution p "/acme//orders/7?all" params
  obtain ⟨⟨bs, -, hnames, hperm⟩, -⟩ := hbound hparams
  have hkeys := hperm.map (·.1)
  rw [hnames, names, hsegments] at hkeys
  exact ⟨p, params, hp, hparams, (hiff.mp hparams).2, hkeys⟩

end Pattern

end GatedStore
