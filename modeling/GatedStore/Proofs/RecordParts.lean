import GatedStore.Proofs.RecordReading

namespace GatedStore.Json

section Slots

variable {β : Type} {name : String} {take : Json → Option β} {o o' : Option β} {b : β}
  {ms : List (String × Option Json)}

inductive Slot (name : String) (take : Json → Option β) : Option β → List (String × Option Json) → Option β → Prop
  | nil {o : Option β} : Slot name take o [] o
  | value {b : β} {v : Json} {ms : List (String × Option Json)} {o : Option β} (htake : take v = some b)
      (hrest : Slot name take (some b) ms o) : Slot name take none ((name, some v) :: ms) o
  | other {name' : String} {part : Option Json} {ms : List (String × Option Json)} {o o' : Option β}
      (hname : name' ≠ name) (hrest : Slot name take o ms o') : Slot name take o ((name', part) :: ms) o'

@[simp] theorem slot_nil_iff : Slot name take o [] o' ↔ o = o' := by
  constructor
  · rintro ⟨⟩
    rfl
  · rintro rfl
    exact .nil

@[simp] theorem slot_cons_self_iff {v : Json} : Slot name take o ((name, some v) :: ms) o' ↔
    o = none ∧ ∃ b, take v = some b ∧ Slot name take (some b) ms o' := by
  constructor
  · intro h
    cases h with
    | value htake hrest => exact ⟨rfl, _, htake, hrest⟩
    | other hname _ => exact absurd rfl hname
  · rintro ⟨rfl, b, htake, hrest⟩
    exact .value htake hrest

theorem slot_cons_of_ne {name' : String} {part : Option Json} (hname : name' ≠ name) :
    Slot name take o ((name', part) :: ms) o' ↔ Slot name take o ms o' := by
  constructor
  · intro h
    cases h with
    | value _ _ => exact absurd rfl hname
    | other _ hrest => exact hrest
  · exact .other hname

theorem slot_some_iff : Slot name take (some b) ms o ↔ o = some b ∧ ∀ p ∈ ms, p.1 ≠ name := by
  induction ms with
  | nil => simp [eq_comm]
  | cons p ms ih =>
    obtain ⟨name', part⟩ := p
    by_cases hname : name' = name
    · refine iff_of_false (fun h => ?_) fun h => h.2 _ List.mem_cons_self hname
      cases h with
      | other hne _ => exact hne hname
    · rw [slot_cons_of_ne hname, ih, List.forall_mem_cons]
      simp [hname]

theorem slot_none_iff :
    Slot name take none ms (some b) ↔ ∃ v, OnlyMember name (some v) ms ∧ take v = some b := by
  constructor
  · intro h
    induction ms with
    | nil => cases slot_nil_iff.mp h
    | cons p ms ih =>
      cases h with
      | value htake hrest =>
        obtain ⟨heq, hother⟩ := slot_some_iff.mp hrest
        cases heq
        exact ⟨_, ⟨[], ms, rfl, hother⟩, htake⟩
      | other hname hrest =>
        obtain ⟨v, ⟨before, after, rfl, hother⟩, htake⟩ := ih hrest
        exact ⟨v, ⟨_ :: before, after, rfl, List.forall_mem_cons.mpr ⟨hname, hother⟩⟩, htake⟩
  · rintro ⟨v, ⟨before, after, rfl, hother⟩, htake⟩
    obtain ⟨hbefore, hafter⟩ := List.forall_mem_append.mp hother
    induction before with
    | nil => exact .value htake (slot_some_iff.mpr ⟨rfl, hafter⟩)
    | cons p before ih =>
      obtain ⟨hname, hbefore⟩ := List.forall_mem_cons.mp hbefore
      exact .other hname (ih (List.forall_mem_append.mpr ⟨hbefore, hafter⟩) hbefore)

end Slots

namespace Reader

open Results

variable {Parts α : Type}

def ReadsBy {α : Type} (depth : Nat) (read : Reader α) (take : Json → Option α) : Prop :=
  ∀ ⦃s a s'⦄, read s = .ok (a, s') ↔ ∃ v, value depth s = .ok (v, s') ∧ take v = some a

def Shape.ReadsBy (shape : Shape Parts α) (depth : Nat) (take : String → Parts → Json → Option Parts) : Prop :=
  ∀ field ∈ shape.fields, ∀ d, Reader.ReadsBy depth (field.read depth d) (take field.name d)

inductive Gathers (shape : Shape Parts α) (take : String → Parts → Json → Option Parts) :
    Parts → List (String × Option Json) → Parts → Prop
  | nil {d : Parts} : Gathers shape take d [] d
  | value {d d₁ d' : Parts} {name : String} {v : Json} {ms : List (String × Option Json)} {field : Field Parts}
      (hfield : shape.fields.find? (·.name == name) = some field) (hnew : field.present d = false)
      (htake : take name d v = some d₁) (hrest : Gathers shape take d₁ ms d') :
      Gathers shape take d ((name, some v) :: ms) d'
  | skipped {d d' : Parts} {name : String} {ms : List (String × Option Json)} (hrest : Gathers shape take d ms d') :
      Gathers shape take d ((name, none) :: ms) d'

inductive GathersItems (take : String → Parts → Json → Option Parts) :
    List (Field Parts) → Parts → List Json → Parts → Prop
  | nil {fields : List (Field Parts)} {d : Parts} : GathersItems take fields d [] d
  | cons {field : Field Parts} {fields : List (Field Parts)} {d d₁ d' : Parts} {v : Json} {vs : List Json}
      (htake : take field.name d v = some d₁) (hrest : GathersItems take fields d₁ vs d') :
      GathersItems take (field :: fields) d (v :: vs) d'

theorem slot_readsBy {β : Type} {depth : Nat} {name : String} {get : Parts → Option β} {set : Parts → β → Parts}
    {read : Nat → Reader β} {take : Json → Option β} (h : ReadsBy depth (read depth) take) (d : Parts) :
    ReadsBy depth ((Field.slot name get set read).read depth d) fun v => (take v).map (set d) := by
  intro s d' s'
  simp only [Field.slot, bind_eq_ok_iff, Option.map_eq_some_iff]
  constructor
  · rintro ⟨⟨b, s₁⟩, hread, heq⟩
    cases heq
    obtain ⟨v, hv, htake⟩ := h.mp hread
    exact ⟨v, hv, b, htake, rfl⟩
  · rintro ⟨v, hv, b, htake, rfl⟩
    exact ⟨(b, s'), h.mpr ⟨v, hv, htake⟩, rfl⟩

variable {shape : Shape Parts α} {take : String → Parts → Json → Option Parts} {depth fuel : Nat} {first : Bool}
  {d d' : Parts} {ms : List (String × Option Json)} {s s₁ s' : List UInt8} {a : α}

@[simp] theorem gathers_nil_iff : Gathers shape take d [] d' ↔ d = d' := by
  constructor
  · rintro ⟨⟩
    rfl
  · rintro rfl
    exact .nil

@[simp] theorem gathers_skipped_iff {name : String} :
    Gathers shape take d ((name, none) :: ms) d' ↔ Gathers shape take d ms d' := by
  constructor
  · rintro ⟨⟩
    assumption
  · exact .skipped

theorem gathers_slot_iff {β : Type} {name : String} {v : Json} {get : Parts → Option β} {set : Parts → β → Parts}
    {read : Nat → Reader β} {make : Json → Option β}
    (hfield : shape.fields.find? (·.name == name) = some (.slot name get set read))
    (hmake : take name d v = (make v).map (set d)) : Gathers shape take d ((name, some v) :: ms) d' ↔
      get d = none ∧ ∃ b, make v = some b ∧ Gathers shape take (set d b) ms d' := by
  constructor
  · intro h
    cases h with
    | value hfield' hnew htake hrest =>
      cases hfield.symm.trans hfield'
      obtain ⟨b, hb, rfl⟩ := Option.map_eq_some_iff.mp (hmake.symm.trans htake)
      exact ⟨Option.isNone_iff_eq_none.mp (by simpa [Field.slot] using hnew), b, hb, hrest⟩
  · rintro ⟨hnew, b, hb, hrest⟩
    refine .value hfield ?_ (hmake.trans (Option.map_eq_some_iff.mpr ⟨b, hb, rfl⟩)) hrest
    simp only [Field.slot, hnew, Option.isSome_none]

theorem text_of_fromMembers (hshape : shape.ReadsBy depth take)
    (h : fromMembers shape depth first fuel d s = .ok (a, s₁)) : ∃ ms d' s', s₁ = '\x7d'.toUInt8 :: s' ∧
      MembersText shape.names depth first ms s s' ∧ Gathers shape take d ms d' ∧ shape.finish d' = .ok a := by
  induction fuel generalizing first d s with
  | zero => cases h
  | succ fuel ih =>
    obtain ⟨⟨more, s₂⟩, hmore, h⟩ := bind_eq_ok_iff.mp h
    cases more with
    | false =>
      obtain ⟨hs, s', rfl⟩ := anotherMember_eq_false_iff.mp hmore
      simp only [Bool.false_eq_true, if_false] at h
      split at h
      · rename_i hfinish
        cases h
        exact ⟨[], d, s', rfl, .nil hs, .nil, hfinish⟩
      · cases h
    | true =>
      obtain ⟨hsep, quoted, rfl⟩ := anotherMember_eq_true_iff.mp hmore
      obtain ⟨⟨name, s₃⟩, hname, h⟩ := bind_eq_ok_iff.mp h
      simp only at h
      split at h
      · rename_i field hfield
        split at h
        · cases h
        rename_i hnew
        obtain ⟨hmem, hfieldName⟩ := field_of_find? hfield
        obtain ⟨s₄, hcolon, h⟩ := bind_eq_ok_iff.mp h
        obtain ⟨⟨d₁, s₅⟩, hread, h⟩ := bind_eq_ok_iff.mp h
        obtain ⟨v, hv, htake⟩ := (hshape field hmem d).mp hread
        rw [hfieldName] at htake
        obtain ⟨ms, d', s', rfl, hms, hgathers, hfinish⟩ := ih h
        have hknown : name ∈ shape.names := List.mem_map.mpr ⟨field, hmem, hfieldName⟩
        exact ⟨_, d', s', rfl, .cons hsep hname (colon_eq_ok_iff.mp hcolon) (.value hknown hv) hms,
          .value hfield (by simpa using hnew) htake hgathers, hfinish⟩
      · rename_i hfield
        obtain ⟨s₄, hcolon, h⟩ := bind_eq_ok_iff.mp h
        obtain ⟨s₅, hskip, h⟩ := bind_eq_ok_iff.mp h
        obtain ⟨ms, d', s', rfl, hms, hgathers, hfinish⟩ := ih h
        have hunknown := find?_eq_none_iff.mp hfield
        exact ⟨_, d', s', rfl, .cons hsep hname (colon_eq_ok_iff.mp hcolon) (.skipped hunknown hskip) hms,
          .skipped hgathers, hfinish⟩

theorem Gathers.collects (hshape : shape.ReadsBy depth take) (h : Gathers shape take d ms d') :
    Collects shape depth depth d ms d' := by
  induction h with
  | nil => exact .nil
  | value hfield hnew htake _ ih =>
    obtain ⟨hmem, rfl⟩ := field_of_find? hfield
    exact .known hfield hnew (fun _ _ hv => (hshape _ hmem _).mpr ⟨_, hv, htake⟩) ih
  | skipped _ ih => exact .skipped ih

theorem text_of_fromItems (hshape : shape.ReadsBy depth take) {fields : List (Field Parts)}
    (hfields : ∀ field ∈ fields, field ∈ shape.fields) {count : Nat}
    (h : fromItems shape depth first count fields d s = .ok (a, s₁)) (hclose : closeList s₁ = .ok s') :
    ∃ vs d', ItemsText depth first vs s s' ∧ GathersItems take fields d vs d' ∧ shape.finish d' = .ok a := by
  induction fields generalizing first count d s with
  | nil =>
    rw [fromItems] at h
    split at h
    · rename_i hfinish
      cases h
      exact ⟨[], d, .nil (closeList_eq_ok_iff.mp hclose), .nil, hfinish⟩
    · cases h
  | cons field fields ih =>
    obtain ⟨hfield, hfields⟩ := List.forall_mem_cons.mp hfields
    obtain ⟨⟨more, s₂⟩, hmore, h⟩ := bind_eq_ok_iff.mp h
    cases more with
    | false =>
      obtain ⟨hs, rest, rfl⟩ := end_of_anotherItem hmore
      simp only [Bool.false_eq_true, if_false] at h
      split at h
      · rename_i hfinish
        cases h
        cases hclose
        exact ⟨[], d, .nil hs, .nil, hfinish⟩
      · cases h
    | true =>
      obtain ⟨⟨d₁, s₃⟩, hread, h⟩ := bind_eq_ok_iff.mp h
      obtain ⟨v, hv, htake⟩ := (hshape field hfield d).mp hread
      obtain ⟨vs, d', hvs, hgathers, hfinish⟩ := ih hfields h
      exact ⟨v :: vs, d', .cons (separated_of_anotherItem hmore) hv hvs, .cons htake hgathers, hfinish⟩

theorem fromItems_of_text (hshape : shape.ReadsBy depth take) {fields : List (Field Parts)}
    (hfields : ∀ field ∈ fields, field ∈ shape.fields) {count : Nat} {vs : List Json}
    (hvs : ItemsText depth first vs s s') (hgathers : GathersItems take fields d vs d')
    (hfinish : shape.finish d' = .ok a) :
    ∃ s₁, fromItems shape depth first count fields d s = .ok (a, s₁) ∧ closeList s₁ = .ok s' := by
  induction hgathers generalizing first count s with
  | @nil fields d =>
    obtain ⟨h⟩ := hvs
    cases fields with
    | nil =>
      refine ⟨s, ?_, closeList_eq_ok_iff.mpr h⟩
      rw [fromItems, hfinish]
    | cons field fields =>
      refine ⟨']'.toUInt8 :: s', bind_eq_ok_iff.mpr ⟨_, anotherItem_of_end h, ?_⟩, rfl⟩
      simp only [Bool.false_eq_true, if_false, hfinish]
  | cons htake _ ih =>
    cases hvs with
    | cons hsep hv hrest =>
      obtain ⟨hfield, hfields⟩ := List.forall_mem_cons.mp hfields
      obtain ⟨s₁, hitems, hclose⟩ := ih hfields hrest hfinish
      have hread := (hshape _ hfield _).mpr ⟨_, hv, htake⟩
      exact ⟨s₁, bind_eq_ok_iff.mpr ⟨_, anotherItem_of_value hsep hv, bind_eq_ok_iff.mpr ⟨_, hread, hitems⟩⟩, hclose⟩

theorem record_eq_ok_iff (hshape : shape.ReadsBy depth take) : record shape (depth + 1) s = .ok (a, s') ↔
    (∃ ms d, ObjectText shape.names depth ms s s' ∧ Gathers shape take shape.start ms d ∧ shape.finish d = .ok a) ∨
      ∃ vs d, ListText depth vs s s' ∧ GathersItems take shape.fields shape.start vs d ∧ shape.finish d = .ok a := by
  constructor
  · intro h
    obtain ⟨⟨found, s₁⟩, hhead, h⟩ := bind_eq_ok_iff.mp h
    cases found with
    | map =>
      obtain ⟨rest, hs, rfl⟩ := head_eq_map_iff.mp hhead
      obtain ⟨s₂, hmembers, hclose⟩ := closing_eq_ok_iff.mp h
      obtain ⟨ms, d, s₃, rfl, hms, hgathers, hfinish⟩ := text_of_fromMembers hshape hmembers
      cases hclose
      exact Or.inl ⟨ms, d, ⟨rest, hs, hms⟩, hgathers, hfinish⟩
    | sequence =>
      obtain ⟨rest, hs, rfl⟩ := head_eq_sequence_iff.mp hhead
      obtain ⟨s₂, hitems, hclose⟩ := closing_eq_ok_iff.mp h
      obtain ⟨vs, d, hvs, hgathers, hfinish⟩ := text_of_fromItems hshape (fun _ hfield => hfield) hitems hclose
      exact Or.inr ⟨vs, d, ⟨rest, hs, hvs⟩, hgathers, hfinish⟩
    | null | bool _ | number _ | string _ => cases h
  · rintro (⟨ms, d, htext, hgathers, hfinish⟩ | ⟨vs, d, ⟨rest, hs, hvs⟩, hgathers, hfinish⟩)
    · exact record_of_objectText htext (hgathers.collects hshape) hfinish
    · refine bind_eq_ok_iff.mpr ⟨_, head_eq_sequence_iff.mpr ⟨rest, hs, rfl⟩, closing_eq_ok_iff.mpr ?_⟩
      exact fromItems_of_text hshape (fun _ hfield => hfield) hvs hgathers hfinish

theorem payload_readsBy (depth : Nat) : ReadsBy depth (payload depth) Payload.ofJson? := by
  intro s p s'
  constructor
  · intro h
    obtain ⟨⟨found, s₁⟩, hhead, h⟩ := bind_eq_ok_iff.mp h
    cases found with
    | map =>
      cases depth with
      | zero => cases h
      | succ depth =>
        obtain ⟨⟨ms, s₂⟩, hobject, h⟩ := bind_eq_ok_iff.mp h
        cases h
        exact ⟨.object ms, bind_eq_ok_iff.mpr ⟨_, hhead, map_eq_ok_iff.mpr ⟨_, hobject, rfl⟩⟩, rfl⟩
    | null | bool _ | number _ | string _ | sequence => cases depth <;> cases h
  · rintro ⟨v, hv, htake⟩
    cases opened_of_value hv with
    | object hdepth hhead hobject =>
      subst hdepth
      cases htake
      exact bind_eq_ok_iff.mpr ⟨_, hhead, bind_eq_ok_iff.mpr ⟨_, hobject, rfl⟩⟩
    | null | bool | number | string | array => cases htake

end Reader

end GatedStore.Json
