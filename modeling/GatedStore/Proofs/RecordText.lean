import GatedStore.Proofs.JsonAgreement
import GatedStore.Proofs.JsonSkipping

/-! The texts of a record: an object of which the known members are values and all others are passed over, or a
list of values. Each text is of one kind and has its members or items in one way only. -/

namespace GatedStore.Json

def OnlyMember {α : Type} (name : String) (a : α) (ms : List (String × α)) : Prop :=
  ∃ before after, ms = before ++ (name, a) :: after ∧ ∀ p ∈ before ++ after, p.1 ≠ name

theorem onlyMember_iff {α : Type} {name : String} {a : α} {ms : List (String × α)} :
    OnlyMember name a ms ↔ ms.filter (·.1 == name) = [(name, a)] := by
  constructor
  · rintro ⟨before, after, rfl, hother⟩
    have hnone : ∀ l : List (String × α), (∀ p ∈ l, p.1 ≠ name) → l.filter (·.1 == name) = [] := by
      intro l hl
      exact List.filter_eq_nil_iff.mpr fun p hp => by simpa using hl p hp
    rw [List.filter_append, List.filter_cons_of_pos (by simp),
      hnone before fun p hp => hother p (List.mem_append_left _ hp),
      hnone after fun p hp => hother p (List.mem_append_right _ hp), List.nil_append]
  · intro h
    have hmem : (name, a) ∈ ms := List.mem_of_mem_filter (h ▸ List.mem_singleton_self _)
    obtain ⟨before, after, rfl⟩ := List.append_of_mem hmem
    refine ⟨before, after, rfl, fun p hp heq => ?_⟩
    have hlength := congrArg List.length h
    have hp' : 0 < ((before ++ after).filter (·.1 == name)).length :=
      List.length_pos_of_mem (List.mem_filter.mpr ⟨hp, by simpa using heq⟩)
    rw [List.filter_append, List.filter_cons_of_pos (by simp)] at hlength
    simp only [List.filter_append, List.length_append, List.length_cons, List.length_nil] at hlength hp'
    omega

theorem OnlyMember.unique {α : Type} {name : String} {a b : α} {ms : List (String × α)}
    (ha : OnlyMember name a ms) (hb : OnlyMember name b ms) : a = b := by
  rw [onlyMember_iff] at ha hb
  simpa using ha.symm.trans hb

@[simp] theorem onlyMember_cons_self_iff {α : Type} {name : String} {a b : α} {ms : List (String × α)} :
    OnlyMember name a ((name, b) :: ms) ↔ a = b ∧ ∀ p ∈ ms, p.1 ≠ name := by
  simp only [onlyMember_iff, List.filter_cons, beq_self_eq_true, if_true, List.cons.injEq, Prod.mk.injEq, true_and,
    List.filter_eq_nil_iff, beq_iff_eq]
  exact and_congr_left fun _ => eq_comm

theorem onlyMember_cons_of_ne {α : Type} {name name' : String} {a b : α} {ms : List (String × α)}
    (h : name' ≠ name) : OnlyMember name a ((name', b) :: ms) ↔ OnlyMember name a ms := by
  simp only [onlyMember_iff, List.filter_cons, beq_iff_eq, h, if_false]

theorem onlyMember_of_nodup {α : Type} {p : String × α} {ms : List (String × α)} (h : (ms.map (·.1)).Nodup)
    (hp : p ∈ ms) : OnlyMember p.1 p.2 ms := by
  obtain ⟨before, after, rfl⟩ := List.append_of_mem hp
  refine ⟨before, after, rfl, fun q hq heq => ?_⟩
  rw [List.map_append, List.map_cons, List.perm_middle.nodup_iff, List.nodup_cons, ← List.map_append] at h
  exact h.1 (List.mem_map.mpr ⟨q, hq, heq⟩)

namespace Reader

open Results

inductive Separated : Bool → List UInt8 → List UInt8 → Prop
  | first {s s' : List UInt8} (h : skipBlanks s = s') : Separated true s s'
  | next {s rest s' : List UInt8} (hcomma : skipBlanks s = ','.toUInt8 :: rest) (h : skipBlanks rest = s') :
      Separated false s s'

/-- What is behind a name: a value if the name is known, or else anything that can be passed over. -/
inductive PartText (known : List String) (depth : Nat) (name : String) :
    Option Json → List UInt8 → List UInt8 → Prop
  | value {v : Json} {s s' : List UInt8} (hname : name ∈ known) (h : value depth s = .ok (v, s')) :
      PartText known depth name (some v) s s'
  | skipped {s s' : List UInt8} (hname : name ∉ known) (h : skip s = .ok s') : PartText known depth name none s s'

inductive MembersText (known : List String) (depth : Nat) :
    Bool → List (String × Option Json) → List UInt8 → List UInt8 → Prop
  | nil {first : Bool} {s s' : List UInt8} (h : skipBlanks s = '\x7d'.toUInt8 :: s') :
      MembersText known depth first [] s s'
  | cons {first : Bool} {name : String} {part : Option Json} {ms : List (String × Option Json)}
      {s s₁ s₂ s₃ s₄ s' : List UInt8} (hsep : Separated first s ('"'.toUInt8 :: s₁))
      (hname : string s₁ = .ok (name, s₂)) (hcolon : skipBlanks s₂ = ':'.toUInt8 :: s₃)
      (hpart : PartText known depth name part s₃ s₄) (hrest : MembersText known depth false ms s₄ s') :
      MembersText known depth first ((name, part) :: ms) s s'

inductive ItemsText (depth : Nat) : Bool → List Json → List UInt8 → List UInt8 → Prop
  | nil {first : Bool} {s s' : List UInt8} (h : skipBlanks s = ']'.toUInt8 :: s') : ItemsText depth first [] s s'
  | cons {first : Bool} {v : Json} {vs : List Json} {s s₁ s₂ s' : List UInt8} (hsep : Separated first s s₁)
      (hv : value depth s₁ = .ok (v, s₂)) (hrest : ItemsText depth false vs s₂ s') :
      ItemsText depth first (v :: vs) s s'

def ObjectText (known : List String) (depth : Nat) (ms : List (String × Option Json)) (s s' : List UInt8) : Prop :=
  ∃ rest, skipBlanks s = '\x7b'.toUInt8 :: rest ∧ MembersText known depth true ms rest s'

def ListText (depth : Nat) (vs : List Json) (s s' : List UInt8) : Prop :=
  ∃ rest, skipBlanks s = '['.toUInt8 :: rest ∧ ItemsText depth true vs rest s'

section Punctuation

variable {first : Bool} {s s₁ s' : List UInt8}

theorem colon_eq_ok_iff : colon s = .ok s' ↔ skipBlanks s = ':'.toUInt8 :: s' := by
  rw [colon]
  generalize skipBlanks s = t
  cases t with
  | nil => simp [faultBefore]
  | cons b t =>
    by_cases hb : b = ':'.toUInt8
    · simp [hb]
    · simp [hb, faultBefore]

theorem closeList_eq_ok_iff : closeList s = .ok s' ↔ skipBlanks s = ']'.toUInt8 :: s' := by
  rw [closeList]
  constructor
  · intro h
    split at h
    · cases h
    rename_i b rest hs
    split at h
    · rename_i hb
      cases h
      rw [hs, hb]
    split at h
    · split at h <;> cases h
    · cases h
  · intro h
    rw [h]
    rfl

theorem closeObject_eq_ok_iff : closeObject s = .ok s' ↔ skipBlanks s = '\x7d'.toUInt8 :: s' := by
  rw [closeObject]
  constructor
  · intro h
    split at h
    · cases h
    rename_i b rest hs
    split at h
    · rename_i hb
      cases h
      rw [hs, hb]
    · cases h
  · intro h
    rw [h]
    rfl

theorem anotherMember_eq_true_iff :
    anotherMember first s = .ok (true, s₁) ↔ Separated first s s₁ ∧ ∃ rest, s₁ = '"'.toUInt8 :: rest := by
  cases first with
  | true =>
    constructor
    · intro h
      obtain ⟨hs, ⟨hmore, -⟩ | ⟨-, hquote⟩⟩ := anotherMember_first_cases h
      · cases hmore
      · exact ⟨.first hs, hquote⟩
    · rintro ⟨_ | _, rest, rfl⟩
      rename_i hs
      rw [anotherMember, hs]
      rfl
  | false =>
    constructor
    · intro h
      obtain ⟨hmore, -⟩ | ⟨-, rest, quoted, hcomma, hs, hquote⟩ := anotherMember_next_cases h
      · cases hmore
      · exact ⟨.next hcomma hs, quoted, hquote⟩
    · rintro ⟨_ | ⟨hcomma, hs⟩, rest, rfl⟩
      rw [anotherMember, hcomma]
      simp only [hs]
      rfl

theorem anotherMember_eq_false_iff :
    anotherMember first s = .ok (false, s₁) ↔ skipBlanks s = s₁ ∧ ∃ rest, s₁ = '\x7d'.toUInt8 :: rest := by
  constructor
  · intro h
    cases first with
    | true =>
      obtain ⟨hs, ⟨-, hend⟩ | ⟨hmore, -⟩⟩ := anotherMember_first_cases h
      · exact ⟨hs, hend⟩
      · cases hmore
    | false =>
      obtain ⟨-, hs, hend⟩ | ⟨hmore, -⟩ := anotherMember_next_cases h
      · exact ⟨hs, hend⟩
      · cases hmore
  · rintro ⟨hs, rest, rfl⟩
    rw [anotherMember, hs]
    rfl

theorem separated_of_anotherItem (h : anotherItem first s = .ok (true, s₁)) : Separated first s s₁ := by
  cases first with
  | true => exact .first (anotherItem_first_cases h).1
  | false =>
    obtain ⟨hmore, -⟩ | ⟨-, rest, hcomma, hs⟩ := anotherItem_next_cases h
    · cases hmore
    · exact .next hcomma hs

theorem end_of_anotherItem (h : anotherItem first s = .ok (false, s₁)) :
    skipBlanks s = s₁ ∧ ∃ rest, s₁ = ']'.toUInt8 :: rest := by
  cases first with
  | true =>
    obtain ⟨hs, b, rest, rfl, hend⟩ := anotherItem_first_cases h
    exact ⟨hs, rest, by rw [hend.mp rfl]⟩
  | false =>
    obtain ⟨-, hs, hend⟩ | ⟨hmore, -⟩ := anotherItem_next_cases h
    · exact ⟨hs, hend⟩
    · cases hmore

theorem Separated.skipBlanks_eq (h : Separated first s s₁) : skipBlanks s₁ = s₁ := by
  cases h with
  | first h => rw [← h, skipBlanks_skipBlanks]
  | next _ h => rw [← h, skipBlanks_skipBlanks]

theorem anotherItem_of_value {depth : Nat} {v : Json} (hsep : Separated first s s₁)
    (hv : value depth s₁ = .ok (v, s')) : anotherItem first s = .ok (true, s₁) := by
  obtain ⟨r, hhead⟩ := exists_head_of_value hv
  rw [head, hsep.skipBlanks_eq] at hhead
  cases s₁ with
  | nil => cases hhead
  | cons b rest =>
    have hb : b ≠ ']'.toUInt8 := by
      rintro rfl
      cases hhead
    cases hsep with
    | first hs =>
      rw [anotherItem, hs]
      simp only [if_neg hb, if_true]
    | next hcomma hs =>
      rw [anotherItem, hcomma]
      simp only [hs, if_neg hb]
      rfl

theorem anotherItem_of_end (h : skipBlanks s = ']'.toUInt8 :: s') :
    anotherItem first s = .ok (false, ']'.toUInt8 :: s') := by
  rw [anotherItem, h]
  rfl

theorem bracket_of_head {found : Found} (h : head s = .ok (found, s')) (hfound : found = .sequence ∨ found = .map) :
    ∃ rest, (found = .sequence ∧ skipBlanks s = '['.toUInt8 :: rest ∧ s' = '['.toUInt8 :: rest) ∨
      (found = .map ∧ skipBlanks s = '\x7b'.toUInt8 :: rest ∧ s' = '\x7b'.toUInt8 :: rest) := by
  rw [head] at h
  split at h
  · cases h
  rename_i b rest hs
  iterate 6
    split at h
    · obtain ⟨_, -, heq⟩ := map_eq_ok_iff.mp h
      cases heq
      rcases hfound with hfound | hfound <;> cases hfound
  split at h
  · rename_i hb
    cases h
    exact ⟨rest, Or.inl ⟨rfl, by rw [hs, hb], by rw [hb]⟩⟩
  split at h
  · rename_i hb
    cases h
    exact ⟨rest, Or.inr ⟨rfl, by rw [hs, hb], by rw [hb]⟩⟩
  · cases h

theorem head_eq_map_iff : head s = .ok (.map, s') ↔
    ∃ rest, skipBlanks s = '\x7b'.toUInt8 :: rest ∧ s' = '\x7b'.toUInt8 :: rest := by
  constructor
  · intro h
    obtain ⟨rest, ⟨hfound, -⟩ | ⟨-, hs⟩⟩ := bracket_of_head h (Or.inr rfl)
    · cases hfound
    · exact ⟨rest, hs⟩
  · rintro ⟨rest, hs, rfl⟩
    rw [head, hs]
    rfl

theorem head_eq_sequence_iff : head s = .ok (.sequence, s') ↔
    ∃ rest, skipBlanks s = '['.toUInt8 :: rest ∧ s' = '['.toUInt8 :: rest := by
  constructor
  · intro h
    obtain ⟨rest, ⟨-, hs⟩ | ⟨hfound, -⟩⟩ := bracket_of_head h (Or.inl rfl)
    · exact ⟨rest, hs⟩
    · cases hfound
  · rintro ⟨rest, hs, rfl⟩
    rw [head, hs]
    rfl

end Punctuation

section Texts

variable {known : List String} {depth : Nat} {first : Bool} {name : String} {s s' t : List UInt8}
  {ms ms' : List (String × Option Json)} {vs ws : List Json}

theorem PartText.isSome_iff {part : Option Json} (h : PartText known depth name part s s') :
    part.isSome = true ↔ name ∈ known := by
  cases h with
  | value hname _ => simpa using hname
  | skipped hname _ => simpa using hname

theorem PartText.length_le {part : Option Json} (h : PartText known depth name part s s') :
    s'.length ≤ s.length := by
  cases h with
  | value _ h => exact length_skip (skip_of_value h)
  | skipped _ h => exact length_skip h

theorem PartText.unique {part part' : Option Json} (h : PartText known depth name part s s')
    (h' : PartText known depth name part' s t) : part = part' ∧ s' = t := by
  cases h with
  | value hname h =>
    cases h' with
    | value _ h' =>
      cases h.symm.trans h'
      exact ⟨rfl, rfl⟩
    | skipped hname' _ => exact absurd hname hname'
  | skipped hname h =>
    cases h' with
    | value hname' _ => exact absurd hname' hname
    | skipped _ h' =>
      cases h.symm.trans h'
      exact ⟨rfl, rfl⟩

theorem MembersText.length_lt (h : MembersText known depth first ms s s') : ms.length < s.length := by
  induction h with
  | @nil first s s' h =>
    have hle := length_skipBlanks s
    rw [h, List.length_cons] at hle
    exact Nat.lt_of_lt_of_le (Nat.zero_lt_succ _) hle
  | @cons first name part ms s s₁ s₂ s₃ s₄ s' hsep hname hcolon hpart _ ih =>
    have hquote : s₁.length < s.length := by
      have hle := length_skipBlanks s
      cases hsep with
      | first hs =>
        rw [hs] at hle
        exact hle
      | @next _ rest _ hcomma hs =>
        have hrest := length_skipBlanks rest
        rw [hcomma, List.length_cons] at hle
        rw [hs, List.length_cons] at hrest
        omega
    have hnameLength := length_skipString (skipString_of_string hname)
    have hcolonLength := length_colon (colon_eq_ok_iff.mpr hcolon)
    have hpartLength := hpart.length_le
    rw [List.length_cons]
    omega

theorem MembersText.isSome_iff (h : MembersText known depth first ms s s') :
    ∀ p ∈ ms, p.2.isSome = true ↔ p.1 ∈ known := by
  induction h with
  | nil => exact fun p hp => absurd hp List.not_mem_nil
  | cons _ _ _ hpart _ ih => exact List.forall_mem_cons.mpr ⟨hpart.isSome_iff, ih⟩

theorem MembersText.unique (h : MembersText known depth first ms s s') (h' : MembersText known depth first ms' s t) :
    ms = ms' ∧ s' = t := by
  -- Each part is what a reader reads at its place, and so is where the next one begins.
  induction h generalizing ms' with
  | @nil first s s' hend =>
    have hend' : anotherMember first s = .ok (false, '\x7d'.toUInt8 :: s') :=
      anotherMember_eq_false_iff.mpr ⟨hend, _, rfl⟩
    cases h' with
    | nil hend =>
      cases hend'.symm.trans (anotherMember_eq_false_iff.mpr ⟨hend, _, rfl⟩)
      exact ⟨rfl, rfl⟩
    | cons hsep _ _ _ _ => cases hend'.symm.trans (anotherMember_eq_true_iff.mpr ⟨hsep, _, rfl⟩)
  | cons hsep hname hcolon hpart _ ih =>
    have hmore := anotherMember_eq_true_iff.mpr ⟨hsep, _, rfl⟩
    cases h' with
    | nil hend => cases hmore.symm.trans (anotherMember_eq_false_iff.mpr ⟨hend, _, rfl⟩)
    | cons hsep hname' hcolon' hpart' hrest =>
      cases hmore.symm.trans (anotherMember_eq_true_iff.mpr ⟨hsep, _, rfl⟩)
      cases hname.symm.trans hname'
      cases hcolon.symm.trans hcolon'
      obtain ⟨rfl, rfl⟩ := hpart.unique hpart'
      obtain ⟨rfl, rfl⟩ := ih hrest
      exact ⟨rfl, rfl⟩

theorem ItemsText.unique (h : ItemsText depth first vs s s') (h' : ItemsText depth first ws s t) :
    vs = ws ∧ s' = t := by
  induction h generalizing ws with
  | nil hend =>
    cases h' with
    | nil hend' =>
      cases hend.symm.trans hend'
      exact ⟨rfl, rfl⟩
    | cons hsep hv _ => cases (anotherItem_of_end hend).symm.trans (anotherItem_of_value hsep hv)
  | cons hsep hv _ ih =>
    have hmore := anotherItem_of_value hsep hv
    cases h' with
    | nil hend => cases hmore.symm.trans (anotherItem_of_end hend)
    | cons hsep hv' hrest =>
      cases hmore.symm.trans (anotherItem_of_value hsep hv')
      cases hv.symm.trans hv'
      obtain ⟨rfl, rfl⟩ := ih hrest
      exact ⟨rfl, rfl⟩

theorem ObjectText.unique (h : ObjectText known depth ms s s') (h' : ObjectText known depth ms' s t) :
    ms = ms' ∧ s' = t := by
  obtain ⟨rest, hs, hms⟩ := h
  obtain ⟨rest', hs', hms'⟩ := h'
  cases hs.symm.trans hs'
  exact hms.unique hms'

theorem ListText.unique (h : ListText depth vs s s') (h' : ListText depth ws s t) : vs = ws ∧ s' = t := by
  obtain ⟨rest, hs, hvs⟩ := h
  obtain ⟨rest', hs', hws⟩ := h'
  cases hs.symm.trans hs'
  exact hvs.unique hws

theorem ObjectText.not_listText (h : ObjectText known depth ms s s') : ¬ ListText depth vs s t := by
  obtain ⟨rest, hs, -⟩ := h
  rintro ⟨rest', hs', -⟩
  cases hs.symm.trans hs'

def asPart (known : List String) (m : String × Json) : String × Option Json :=
  (m.1, if m.1 ∈ known then some m.2 else none)

theorem onlyMember_asPart {v : Json} {members : List (String × Json)}
    (h : OnlyMember name v members) (hname : name ∈ known) : OnlyMember name (some v) (members.map (asPart known)) := by
  obtain ⟨before, after, rfl, hother⟩ := h
  refine ⟨before.map (asPart known), after.map (asPart known), ?_, ?_⟩
  · rw [List.map_append, List.map_cons]
    simp only [asPart, if_pos hname]
  · rw [← List.map_append]
    exact List.forall_mem_map.mpr hother

theorem partText_of_value {v : Json} (h : value depth s = .ok (v, s')) :
    PartText known depth name (asPart known (name, v)).2 s s' := by
  by_cases hname : name ∈ known
  · simp only [asPart, if_pos hname]
    exact .value hname h
  · simp only [asPart, if_neg hname]
    exact .skipped hname (skip_of_value h)

theorem membersText_of_members {fuel : Nat} {members : List (String × Json)}
    (h : Reader.members (value depth) first fuel s = .ok (members, t)) (hclose : closeObject t = .ok s') :
    MembersText known depth first (members.map (asPart known)) s s' := by
  induction fuel generalizing first s members with
  | zero => cases h
  | succ fuel ih =>
    obtain ⟨⟨more, s₁⟩, hmore, h⟩ := bind_eq_ok_iff.mp h
    cases more with
    | false =>
      obtain ⟨hs, rest, rfl⟩ := anotherMember_eq_false_iff.mp hmore
      cases h
      cases hclose
      exact .nil hs
    | true =>
      obtain ⟨hsep, quoted, rfl⟩ := anotherMember_eq_true_iff.mp hmore
      obtain ⟨⟨name, s₂⟩, hname, h⟩ := bind_eq_ok_iff.mp h
      obtain ⟨s₃, hcolon, h⟩ := bind_eq_ok_iff.mp h
      obtain ⟨⟨v, s₄⟩, hv, h⟩ := bind_eq_ok_iff.mp h
      obtain ⟨⟨rest, s₅⟩, hrest, h⟩ := bind_eq_ok_iff.mp h
      cases h
      exact .cons hsep hname (colon_eq_ok_iff.mp hcolon) (partText_of_value hv) (ih hrest)

theorem itemsText_of_items {fuel : Nat} (h : items (value depth) first fuel s = .ok (vs, t))
    (hclose : closeList t = .ok s') : ItemsText depth first vs s s' := by
  induction fuel generalizing first s vs with
  | zero => cases h
  | succ fuel ih =>
    obtain ⟨⟨more, s₁⟩, hmore, h⟩ := bind_eq_ok_iff.mp h
    cases more with
    | false =>
      obtain ⟨hs, rest, rfl⟩ := end_of_anotherItem hmore
      cases h
      cases hclose
      exact .nil hs
    | true =>
      obtain ⟨⟨v, s₂⟩, hv, h⟩ := bind_eq_ok_iff.mp h
      obtain ⟨⟨rest, s₃⟩, hrest, h⟩ := bind_eq_ok_iff.mp h
      cases h
      exact .cons (separated_of_anotherItem hmore) hv (ih hrest)

theorem objectText_of_value {members : List (String × Json)} (h : value (depth + 1) s = .ok (.object members, s')) :
    ObjectText known depth (members.map (asPart known)) s s' := by
  cases opened_of_value h with
  | object hdepth hhead hobject =>
    cases hdepth
    obtain ⟨rest, hs, rfl⟩ := head_eq_map_iff.mp hhead
    obtain ⟨⟨_, s₁⟩, hmembers, hobject⟩ := bind_eq_ok_iff.mp hobject
    obtain ⟨s₂, hclose, heq⟩ := bind_eq_ok_iff.mp hobject
    cases heq
    exact ⟨rest, hs, membersText_of_members hmembers hclose⟩

theorem listText_of_value (h : value (depth + 1) s = .ok (.array vs, s')) : ListText depth vs s s' := by
  cases opened_of_value h with
  | array hdepth hhead hlist =>
    cases hdepth
    obtain ⟨rest, hs, rfl⟩ := head_eq_sequence_iff.mp hhead
    obtain ⟨⟨_, s₁⟩, hitems, hlist⟩ := bind_eq_ok_iff.mp hlist
    obtain ⟨s₂, hclose, heq⟩ := bind_eq_ok_iff.mp hlist
    cases heq
    exact ⟨rest, hs, itemsText_of_items hitems hclose⟩

end Texts

end Reader

end GatedStore.Json
