import GatedStore.Proofs.RecordText

namespace GatedStore.Json.Reader

open Results

variable {Parts α : Type}

def Shape.names (shape : Shape Parts α) : List String :=
  shape.fields.map (·.name)

inductive Collects (shape : Shape Parts α) (depth k : Nat) : Parts → List (String × Option Json) → Parts → Prop
  | nil {d : Parts} : Collects shape depth k d [] d
  | known {d d₁ d' : Parts} {name : String} {v : Json} {ms : List (String × Option Json)} {field : Field Parts}
      (hfield : shape.fields.find? (·.name == name) = some field) (hnew : field.present d = false)
      (hread : ∀ ⦃s s'⦄, value k s = .ok (v, s') → field.read depth d s = .ok (d₁, s'))
      (hrest : Collects shape depth k d₁ ms d') : Collects shape depth k d ((name, some v) :: ms) d'
  | skipped {d d' : Parts} {name : String} {ms : List (String × Option Json)}
      (hrest : Collects shape depth k d ms d') : Collects shape depth k d ((name, none) :: ms) d'

variable {shape : Shape Parts α} {depth fuel k : Nat} {first : Bool} {name : String} {d d' : Parts}
  {known : List (String × Json)} {ms : List (String × Option Json)} {s s' : List UInt8} {a : α}

theorem field_of_find? {field : Field Parts} (h : shape.fields.find? (·.name == name) = some field) :
    field ∈ shape.fields ∧ field.name = name :=
  ⟨List.mem_of_find?_eq_some h, by simpa using List.find?_some h⟩

theorem find?_eq_none_iff : shape.fields.find? (·.name == name) = none ↔ name ∉ shape.names := by
  simp [Shape.names]

theorem fromMembers_of_collects (hms : MembersText shape.names k first ms s s')
    (hcollects : Collects shape depth k d ms d') (hfinish : shape.finish d' = .ok a) (hfuel : ms.length < fuel) :
    fromMembers shape depth first fuel d s = .ok (a, '\x7d'.toUInt8 :: s') := by
  induction hms generalizing d fuel with
  | nil h =>
    obtain ⟨fuel, rfl⟩ := Nat.exists_eq_succ_of_ne_zero (Nat.ne_zero_of_lt hfuel)
    cases hcollects
    refine bind_eq_ok_iff.mpr ⟨_, anotherMember_eq_false_iff.mpr ⟨h, _, rfl⟩, ?_⟩
    simp only [Bool.false_eq_true, if_false, hfinish]
  | cons hsep hname hcolon hpart hrest ih =>
    obtain ⟨fuel, rfl⟩ := Nat.exists_eq_succ_of_ne_zero (Nat.ne_zero_of_lt hfuel)
    have hless := Nat.lt_of_succ_lt_succ hfuel
    refine bind_eq_ok_iff.mpr ⟨_, anotherMember_eq_true_iff.mpr ⟨hsep, _, rfl⟩, bind_eq_ok_iff.mpr ⟨_, hname, ?_⟩⟩
    have hcolon := colon_eq_ok_iff.mpr hcolon
    cases hcollects with
    | known hfield hnew hread hcollects =>
      cases hpart with
      | value _ hv =>
        simp only [hfield, hnew, Bool.false_eq_true, if_false]
        exact bind_eq_ok_iff.mpr ⟨_, hcolon, bind_eq_ok_iff.mpr ⟨_, hread hv, ih hcollects hless⟩⟩
    | skipped hcollects =>
      cases hpart with
      | skipped hunknown hskip =>
        simp only [find?_eq_none_iff.mpr hunknown]
        exact bind_eq_ok_iff.mpr ⟨_, hcolon, bind_eq_ok_iff.mpr ⟨_, hskip, ih hcollects hless⟩⟩

theorem closing_eq_ok_iff {close : List UInt8 → Except Fault (List UInt8)} {leave : List UInt8 → List UInt8}
    {r : Except Fault (α × List UInt8)} :
    closing close leave r = .ok (a, s') ↔ ∃ s₁, r = .ok (a, s₁) ∧ close s₁ = .ok s' := by
  cases r with
  | ok p =>
    obtain ⟨a', s₁⟩ := p
    constructor
    · intro h
      obtain ⟨s₂, hclose, heq⟩ := map_eq_ok_iff.mp h
      cases heq
      exact ⟨s₁, rfl, hclose⟩
    · rintro ⟨s₂, heq, hclose⟩
      cases heq
      exact map_eq_ok_iff.mpr ⟨s', hclose, rfl⟩
  | error f => cases f <;> exact iff_of_false nofun nofun

theorem record_of_objectText (htext : ObjectText shape.names k ms s s')
    (hcollects : Collects shape depth k shape.start ms d) (hfinish : shape.finish d = .ok a) :
    record shape (depth + 1) s = .ok (a, s') := by
  obtain ⟨rest, hs, hms⟩ := htext
  refine bind_eq_ok_iff.mpr ⟨_, head_eq_map_iff.mpr ⟨rest, hs, rfl⟩, closing_eq_ok_iff.mpr ?_⟩
  exact ⟨_, fromMembers_of_collects hms hcollects hfinish (Nat.lt_succ_of_lt hms.length_lt), rfl⟩

theorem slot_readsAs {β : Type} {get : Parts → Option β} {set : Parts → β → Parts} {read : Nat → Reader β}
    {v : Json} {b : β} (h : ReadsAs (read depth) v b) (d : Parts) :
    ReadsAs ((Field.slot name get set read).read depth d) v (set d b) :=
  fun _ _ _ hvalue => bind_eq_ok_iff.mpr ⟨_, h hvalue, rfl⟩

theorem slot_fills {β : Type} {get : Parts → Option β} {set : Parts → β → Parts} {read : Nat → Reader β}
    {v : Json} {b : β} (hget : get d = none) (hset : set d b = d') (h : ReadsAs (read depth) v b) :
    (Field.slot name get set read).present d = false ∧
      ReadsAs ((Field.slot name get set read).read depth d) v d' := by
  constructor
  · simp only [Field.slot, hget, Option.isSome_none]
  · rw [← hset]
    exact slot_readsAs h d

/-- The parts of a record by the names of the members seen so far: each known member adds its own, and all of
them together make the record. -/
structure Fills (shape : Shape Parts α) (depth : Nat) (known : List (String × Json)) (parts : List String → Parts)
    (a : α) : Prop where
  names_eq : shape.names = known.map (·.1)
  start : parts [] = shape.start
  step : ∀ seen name v, (name, v) ∈ known → name ∉ seen → ∃ field,
    shape.fields.find? (·.name == name) = some field ∧ field.present (parts seen) = false ∧
      ReadsAs (field.read depth (parts seen)) v (parts (name :: seen))
  finish : ∀ seen, (∀ name ∈ known.map (·.1), name ∈ seen) → shape.finish (parts seen) = .ok a

/-- A known member stands either before, and then its name has been seen, or once in what remains. -/
def Awaits (known : List (String × Json)) (seen : List String) (ms : List (String × Option Json)) : Prop :=
  ∀ p ∈ known, p.1 ∈ seen ∧ (∀ q ∈ ms, q.1 ≠ p.1) ∨ p.1 ∉ seen ∧ OnlyMember p.1 (some p.2) ms

variable {parts : List String → Parts} {seen : List String}

theorem Awaits.all_seen (h : Awaits known seen []) : ∀ name ∈ known.map (·.1), name ∈ seen := by
  refine List.forall_mem_map.mpr fun p hp => ?_
  rcases h p hp with ⟨hseen, -⟩ | ⟨-, before, after, heq, -⟩
  · exact hseen
  · simp at heq

theorem Awaits.of_cons {part : Option Json} {p : String × Json} (h : Awaits known seen ((name, part) :: ms))
    (hp : p ∈ known) (hne : name ≠ p.1) :
    p.1 ∈ seen ∧ (∀ q ∈ ms, q.1 ≠ p.1) ∨ p.1 ∉ seen ∧ OnlyMember p.1 (some p.2) ms := by
  rw [← onlyMember_cons_of_ne (b := part) hne]
  exact (h p hp).imp_left (.imp_right fun hother => (List.forall_mem_cons.mp hother).2)

theorem Awaits.skipped {part : Option Json} (h : Awaits known seen ((name, part) :: ms))
    (hname : name ∉ known.map (·.1)) : Awaits known seen ms :=
  fun p hp => h.of_cons hp fun heq => hname (List.mem_map.mpr ⟨p, hp, heq.symm⟩)

theorem Awaits.taken {v w : Json} (h : Awaits known seen ((name, some v) :: ms)) (hmem : (name, w) ∈ known) :
    name ∉ seen ∧ v = w ∧ Awaits known (name :: seen) ms := by
  obtain ⟨-, hother⟩ | ⟨hnew, honly⟩ := h _ hmem
  · exact absurd rfl (hother _ List.mem_cons_self)
  obtain ⟨heq, hother⟩ := onlyMember_cons_self_iff.mp honly
  refine ⟨hnew, (Option.some.inj heq).symm, fun p hp => ?_⟩
  by_cases hname : name = p.1
  · exact Or.inl ⟨hname ▸ List.mem_cons_self, hname ▸ hother⟩
  · rw [List.mem_cons, or_iff_right (Ne.symm hname)]
    exact h.of_cons hp hname

theorem Fills.collects_from (h : Fills shape depth known parts a)
    (hms : ∀ p ∈ ms, p.2.isSome = true ↔ p.1 ∈ known.map (·.1)) (hknown : Awaits known seen ms) :
    ∃ d, Collects shape depth k (parts seen) ms d ∧ shape.finish d = .ok a := by
  induction ms generalizing seen with
  | nil => exact ⟨_, .nil, h.finish seen hknown.all_seen⟩
  | cons m ms ih =>
    obtain ⟨name, part⟩ := m
    obtain ⟨hfirst, hrest⟩ := List.forall_mem_cons.mp hms
    cases part with
    | none =>
      have hname : name ∉ known.map (·.1) := fun hname => by simpa using hfirst.mpr hname
      obtain ⟨d, hcollects, hfinish⟩ := ih hrest (hknown.skipped hname)
      exact ⟨d, .skipped hcollects, hfinish⟩
    | some v =>
      obtain ⟨⟨_, w⟩, hmem, rfl⟩ := List.mem_map.mp (hfirst.mp rfl)
      obtain ⟨hnew, rfl, hlater⟩ := hknown.taken hmem
      obtain ⟨field, hfield, habsent, hread⟩ := h.step seen _ v hmem hnew
      obtain ⟨d, hcollects, hfinish⟩ := ih hrest hlater
      exact ⟨d, .known hfield habsent (fun _ _ hv => hread hv) hcollects, hfinish⟩

theorem Fills.record_eq_ok (h : Fills shape depth known parts a)
    (htext : ObjectText (known.map (·.1)) k ms s s') (hms : ∀ p ∈ known, OnlyMember p.1 (some p.2) ms) :
    record shape (depth + 1) s = .ok (a, s') := by
  have hparts := htext.choose_spec.2.isSome_iff
  rw [← h.names_eq] at htext
  obtain ⟨d, hcollects, hfinish⟩ := h.collects_from hparts fun p hp => Or.inr ⟨List.not_mem_nil, hms p hp⟩
  rw [h.start] at hcollects
  exact record_of_objectText htext hcollects hfinish

end GatedStore.Json.Reader
