import GatedStore.Proofs.Matching
import GatedStore.Proofs.PathText
import GatedStore.Proofs.TableFacts

namespace GatedStore

namespace Segment

variable {value : String → String}

def fill (value : String → String) : Segment → String
  | .literal text => text
  | .param name => value name

theorem admits_fill (s : Segment) : s.Admits (s.fill value) := by
  cases s with
  | literal text => rfl
  | param name => trivial

theorem Valid.isSegment_fill {s : Segment} (h : s.Valid) (value : String → String)
    (hvalue : ∀ name ∈ s.name?, Path.IsSegment (value name)) : Path.IsSegment (s.fill value) := by
  cases s with
  | literal text =>
    obtain ⟨hne, hslash, hreserved⟩ := h
    exact ⟨hne, hslash, fun c hc => (Bool.or_eq_false_iff.mp (hreserved c hc)).2⟩
  | param name => exact hvalue name rfl

end Segment

namespace Pattern

variable {value : String → String}

def names (p : Pattern) : List String :=
  p.segments.filterMap Segment.name?

def fill (p : Pattern) (value : String → String) : List String :=
  p.segments.map (Segment.fill value)

def filledPath (p : Pattern) (value : String → String) : String :=
  Path.ofSegments (p.fill value)

theorem mem_names_iff {p : Pattern} {name : String} : name ∈ p.names ↔ .param name ∈ p.segments := by
  rw [names, List.mem_filterMap]
  constructor
  · rintro ⟨s, hs, hname⟩
    cases s with
    | literal text => cases hname
    | param n =>
      obtain rfl := Option.some.inj hname
      exact hs
  · exact fun h => ⟨_, h, rfl⟩

theorem segments_filledPath {p : Pattern} (h : ∀ name ∈ p.names, Path.IsSegment (value name)) :
    Path.segments (p.filledPath value) = p.fill value := by
  refine Path.segments_ofSegments fun v hv => ?_
  obtain ⟨s, hs, rfl⟩ := List.mem_map.mp hv
  exact (p.valid s hs).isSegment_fill value fun name hname => h name (List.mem_filterMap.mpr ⟨s, hs, hname⟩)

theorem bindings_fill (ss : List Segment) :
    bindings ss (ss.map (Segment.fill value)) =
      some ((ss.filterMap Segment.name?).map fun name => (name, value name)) := by
  induction ss with
  | nil => rfl
  | cons s ss ih =>
    rw [List.map_cons, bindings_cons s.admits_fill, ih]
    cases s <;> rfl

def assignment (p : Pattern) (value : String → String) : Params :=
  Table.ofList (p.names.map fun name => (name, value name))

@[simp] theorem get?_assignment (p : Pattern) (name : String) :
    (p.assignment value).get? name = if name ∈ p.names then some (value name) else none :=
  Table.get?_ofList_map value p.names name

theorem bind?_fill (p : Pattern) : p.bind? (p.fill value) = some (p.assignment value) := by
  rw [bind?, fill, bindings_fill]
  rfl

end Pattern

end GatedStore
