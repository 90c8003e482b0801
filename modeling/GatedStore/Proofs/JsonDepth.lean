import GatedStore.Proofs.RecordText

namespace GatedStore.Json.Reader

open Results

def TooDeep {α : Type} (r : Except Fault α) : Prop :=
  ∃ rest, r = .error (.placed .tooDeep rest)

variable {α β : Type} {depth fuel : Nat} {first : Bool} {s s' : List UInt8}

theorem TooDeep.bind {r : Except Fault α} (h : TooDeep r) (f : α → Except Fault β) : TooDeep (r >>= f) := by
  obtain ⟨rest, h⟩ := h
  exact ⟨rest, bind_eq_error_iff.mpr (Or.inl h)⟩

theorem tooDeep_bind {r : Except Fault α} {a : α} {f : α → Except Fault β} (hr : r = .ok a) (h : TooDeep (f a)) :
    TooDeep (r >>= f) := by
  obtain ⟨rest, h⟩ := h
  exact ⟨rest, bind_eq_error_iff.mpr (Or.inr ⟨a, hr, h⟩)⟩

theorem TooDeep.map {r : Except Fault α} (h : TooDeep r) (f : α → β) : TooDeep (f <$> r) := by
  obtain ⟨rest, h⟩ := h
  exact ⟨rest, map_eq_error_iff.mpr h⟩

theorem TooDeep.closing {r : Except Fault (α × List UInt8)} (h : TooDeep r)
    (close : List UInt8 → Except Fault (List UInt8)) (leave : List UInt8 → List UInt8) :
    TooDeep (closing close leave r) := by
  obtain ⟨rest, rfl⟩ := h
  exact ⟨rest, rfl⟩

def Overflows (depth d : Nat) : Prop :=
  ∀ ⦃v s s'⦄, value depth s = .ok (v, s') → d < v.nesting → TooDeep (value d s)

variable {d : Nat}

theorem items_tooDeep (hitem : Overflows depth d) {vs : List Json}
    (h : items (value depth) first fuel s = .ok (vs, s')) (hd : d < itemsNesting vs) :
    TooDeep (items (value d) first fuel s) := by
  induction fuel generalizing first s vs with
  | zero => cases h
  | succ fuel ih =>
    obtain ⟨⟨more, s₁⟩, hmore, h⟩ := bind_eq_ok_iff.mp h
    refine tooDeep_bind hmore ?_
    cases more with
    | false =>
      cases h
      cases hd
    | true =>
      obtain ⟨⟨v, s₂⟩, hv, h⟩ := bind_eq_ok_iff.mp h
      obtain ⟨⟨vs', s₃⟩, hvs, h⟩ := bind_eq_ok_iff.mp h
      cases h
      -- The first item that goes too deep is met before any other.
      rcases Nat.lt_or_ge d v.nesting with hdeep | hflat
      · exact (hitem hv hdeep).bind _
      · have hrest : d < itemsNesting vs' := by
          rw [itemsNesting] at hd
          omega
        exact tooDeep_bind (value_readsAs v hflat hv) ((ih hvs hrest).bind _)

theorem members_tooDeep (hitem : Overflows depth d) {ms : List (String × Json)}
    (h : members (value depth) first fuel s = .ok (ms, s')) (hd : d < membersNesting ms) :
    TooDeep (members (value d) first fuel s) := by
  induction fuel generalizing first s ms with
  | zero => cases h
  | succ fuel ih =>
    obtain ⟨⟨more, s₁⟩, hmore, h⟩ := bind_eq_ok_iff.mp h
    refine tooDeep_bind hmore ?_
    cases more with
    | false =>
      cases h
      cases hd
    | true =>
      obtain ⟨⟨name, s₂⟩, hname, h⟩ := bind_eq_ok_iff.mp h
      obtain ⟨s₃, hcolon, h⟩ := bind_eq_ok_iff.mp h
      obtain ⟨⟨v, s₄⟩, hv, h⟩ := bind_eq_ok_iff.mp h
      obtain ⟨⟨ms', s₅⟩, hms, h⟩ := bind_eq_ok_iff.mp h
      cases h
      refine tooDeep_bind hname (tooDeep_bind hcolon ?_)
      rcases Nat.lt_or_ge d v.nesting with hdeep | hflat
      · exact (hitem hv hdeep).bind _
      · have hrest : d < membersNesting ms' := by
          rw [membersNesting] at hd
          omega
        exact tooDeep_bind (value_readsAs v hflat hv) ((ih hms hrest).bind _)

theorem listFrom_tooDeep (hitem : Overflows depth d) {vs : List Json}
    (h : listFrom (value depth) s = .ok (vs, s')) (hd : d < itemsNesting vs) : TooDeep (listFrom (value d) s) := by
  obtain ⟨⟨_, s₁⟩, hitems, h⟩ := bind_eq_ok_iff.mp h
  obtain ⟨_, -, h⟩ := bind_eq_ok_iff.mp h
  cases h
  exact (items_tooDeep hitem hitems hd).bind _

theorem objectFrom_tooDeep (hitem : Overflows depth d) {ms : List (String × Json)}
    (h : objectFrom (value depth) s = .ok (ms, s')) (hd : d < membersNesting ms) :
    TooDeep (objectFrom (value d) s) := by
  obtain ⟨⟨_, s₁⟩, hmembers, h⟩ := bind_eq_ok_iff.mp h
  obtain ⟨_, -, h⟩ := bind_eq_ok_iff.mp h
  cases h
  exact (members_tooDeep hitem hmembers hd).bind _

theorem value_overflows (depth d : Nat) : Overflows depth d := by
  induction depth using Nat.strong_induction_on generalizing d with
  | _ depth ih =>
    intro v s s' h hd
    cases opened_of_value h with
    | null | bool | number | string => cases hd
    | @array inner _ _ hdepth hhead hlist =>
      have hinner : inner < depth := by omega
      cases d with
      | zero => exact tooDeep_bind hhead ⟨_, rfl⟩
      | succ d =>
        have hlist' := listFrom_tooDeep (ih inner hinner d) hlist (Nat.lt_of_succ_lt_succ hd)
        exact tooDeep_bind hhead (hlist'.map _)
    | @object inner _ _ hdepth hhead hobject =>
      have hinner : inner < depth := by omega
      cases d with
      | zero => exact tooDeep_bind hhead ⟨_, rfl⟩
      | succ d =>
        have hobject' := objectFrom_tooDeep (ih inner hinner d) hobject (Nat.lt_of_succ_lt_succ hd)
        exact tooDeep_bind hhead (hobject'.map _)

theorem nesting_le_of_value {v : Json} (h : value depth s = .ok (v, s')) : v.nesting ≤ depth := by
  by_contra hdeep
  obtain ⟨rest, herror⟩ := value_overflows depth depth h (Nat.not_le.mp hdeep)
  rw [h] at herror
  cases herror

theorem payload_tooDeep {ms : List (String × Json)} (h : value depth s = .ok (.object ms, s'))
    (hd : d < (Json.object ms).nesting) : TooDeep (payload d s) := by
  cases opened_of_value h with
  | object hdepth hhead hobject =>
    cases hdepth
    cases d with
    | zero => exact tooDeep_bind hhead ⟨_, rfl⟩
    | succ d =>
      exact tooDeep_bind hhead
        ((objectFrom_tooDeep (value_overflows _ d) hobject (Nat.lt_of_succ_lt_succ hd)).bind _)

end GatedStore.Json.Reader
