namespace GatedStore.Results

variable {ε ε' α β : Type}

theorem bind_eq_ok_iff {x : Except ε α} {f : α → Except ε β} {b : β} :
    (x >>= f) = .ok b ↔ ∃ a, x = .ok a ∧ f a = .ok b := by
  cases x with
  | error e =>
    constructor
    · exact fun h => by cases h
    · rintro ⟨a, ha, -⟩
      cases ha
  | ok a =>
    constructor
    · exact fun h => ⟨a, rfl, h⟩
    · rintro ⟨a', ha, h⟩
      cases ha
      exact h

theorem bind_eq_error_iff {x : Except ε α} {f : α → Except ε β} {e : ε} :
    (x >>= f) = .error e ↔ x = .error e ∨ ∃ a, x = .ok a ∧ f a = .error e := by
  cases x with
  | error e' =>
    constructor
    · exact fun h => Or.inl (congrArg Except.error (Except.error.inj h))
    · rintro (h | ⟨a, ha, -⟩)
      · exact congrArg Except.error (Except.error.inj h)
      · cases ha
  | ok a =>
    constructor
    · exact fun h => Or.inr ⟨a, rfl, h⟩
    · rintro (h | ⟨a', ha, h⟩)
      · cases h
      · cases ha
        exact h

theorem mapError_eq_ok_iff {x : Except ε α} {f : ε → ε'} {a : α} : x.mapError f = .ok a ↔ x = .ok a := by
  cases x with
  | error e => exact iff_of_false (fun h => by cases h) (fun h => by cases h)
  | ok a' => exact ⟨fun h => by cases h; rfl, fun h => by cases h; rfl⟩

theorem mapError_eq_error_iff {x : Except ε α} {f : ε → ε'} {e' : ε'} :
    x.mapError f = .error e' ↔ ∃ e, x = .error e ∧ f e = e' := by
  cases x with
  | error e =>
    constructor
    · exact fun h => ⟨e, rfl, Except.error.inj h⟩
    · rintro ⟨e₁, he, rfl⟩
      cases he
      rfl
  | ok a =>
    constructor
    · exact fun h => by cases h
    · rintro ⟨e, he, -⟩
      cases he

theorem map_eq_ok_iff {x : Except ε α} {f : α → β} {b : β} : x.map f = .ok b ↔ ∃ a, x = .ok a ∧ f a = b := by
  cases x with
  | error e =>
    constructor
    · exact fun h => by cases h
    · rintro ⟨a, ha, -⟩
      cases ha
  | ok a =>
    constructor
    · exact fun h => ⟨a, rfl, Except.ok.inj h⟩
    · rintro ⟨a', ha, rfl⟩
      cases ha
      rfl

theorem map_eq_error_iff {x : Except ε α} {f : α → β} {e : ε} : x.map f = .error e ↔ x = .error e := by
  cases x with
  | error e' => exact ⟨fun h => by cases h; rfl, fun h => by cases h; rfl⟩
  | ok a => exact iff_of_false (fun h => by cases h) (fun h => by cases h)

theorem toOption_isSome_iff {x : Except ε α} : x.toOption.isSome = true ↔ ∃ a, x = .ok a := by
  cases x with
  | error e => exact iff_of_false nofun nofun
  | ok a => exact iff_of_true rfl ⟨a, rfl⟩

theorem toOption_eq_some_iff {x : Except ε α} {a : α} : x.toOption = some a ↔ x = .ok a := by
  cases x with
  | error e => exact iff_of_false nofun nofun
  | ok b => simp [Except.toOption]

/-- The results for the members of a list in order, up to the first that is an error. -/
inductive InOrder (f : α → Except ε β → Prop) : List α → Except ε (List β) → Prop
  | nil : InOrder f [] (.ok [])
  | cons {a : α} {b : β} {as : List α} {bs : List β} (h : f a (.ok b)) (hrest : InOrder f as (.ok bs)) :
      InOrder f (a :: as) (.ok (b :: bs))
  | first {a : α} {e : ε} {as : List α} (h : f a (.error e)) : InOrder f (a :: as) (.error e)
  | later {a : α} {b : β} {e : ε} {as : List α} (h : f a (.ok b)) (hrest : InOrder f as (.error e)) :
      InOrder f (a :: as) (.error e)

variable {f : α → Except ε β → Prop}

theorem InOrder.total {as : List α} (h : ∀ a ∈ as, ∃ r, f a r) : ∃ r, InOrder f as r := by
  induction as with
  | nil => exact ⟨_, .nil⟩
  | cons a as ih =>
    obtain ⟨⟨r, hr⟩, hrest⟩ := List.forall_mem_cons.mp h
    cases r with
    | error e => exact ⟨_, .first hr⟩
    | ok b =>
      obtain ⟨rs, hrs⟩ := ih hrest
      cases rs with
      | error e => exact ⟨_, .later hr hrs⟩
      | ok bs => exact ⟨_, .cons hr hrs⟩

theorem InOrder.single {a : α} {r : Except ε β} (h : f a r) : InOrder f [a] (r.map ([·])) := by
  cases r with
  | error e => exact .first h
  | ok b => exact .cons h .nil

theorem InOrder.append {as as' : List α} {r r' : Except ε (List β)} (h : InOrder f as r) (h' : InOrder f as' r') :
    InOrder f (as ++ as') (r >>= fun bs => r'.map (bs ++ ·)) := by
  induction h with
  | nil =>
    cases r' with
    | error e => exact h'
    | ok bs => exact h'
  | cons hfirst _ ih =>
    cases r' with
    | error e => exact .later hfirst ih
    | ok bs => exact .cons hfirst ih
  | first hfirst => exact .first hfirst
  | later hfirst _ ih => exact .later hfirst ih

theorem InOrder.eq_nil {as : List α} (h : InOrder f as (.ok [])) : as = [] := by
  cases h
  rfl

end GatedStore.Results
