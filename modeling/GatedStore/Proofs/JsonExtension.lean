import GatedStore.Proofs.RecordText

/-! What is read is read the same in front of more bytes. Only a number looks at the byte behind it, so a value has to
leave something for this, or end with a bracket of its own. -/

namespace GatedStore.Json.Reader

open Results

/-- The reader reads the same in front of more bytes, if it left some before. -/
def Extends {α : Type} (read : Reader α) : Prop :=
  ∀ ⦃s a s'⦄, read s = .ok (a, s') → s' ≠ [] → ∀ t, read (s ++ t) = .ok (a, s' ++ t)

variable {s s' : List UInt8}

theorem skipBlanks_append {b : UInt8} {rest : List UInt8} (h : skipBlanks s = b :: rest) (t : List UInt8) :
    skipBlanks (s ++ t) = b :: (rest ++ t) := by
  rw [skipBlanks] at h ⊢
  rw [List.dropWhile_append, h]
  rfl

theorem skipBlanks_append_of_nil (h : skipBlanks s = []) (t : List UInt8) : skipBlanks (s ++ t) = skipBlanks t := by
  rw [skipBlanks] at h ⊢
  rw [List.dropWhile_append, h]
  rfl

theorem word_append {cs : List Char} (h : word cs s = .ok s') (t : List UInt8) : word cs (s ++ t) = .ok (s' ++ t) := by
  induction cs generalizing s with
  | nil =>
    cases h
    rfl
  | cons c cs ih =>
    cases s with
    | nil => cases h
    | cons b s =>
      rw [List.cons_append]
      rw [word] at h ⊢
      by_cases hb : b = c.toUInt8
      · rw [if_pos hb] at h ⊢
        exact ih h
      · rw [if_neg hb] at h
        cases h

section Strings

variable {bs : List UInt8} {m : Mode}

theorem contents_append (h : contents m s = .ok (bs, s')) (t : List UInt8) :
    contents m (s ++ t) = .ok (bs, s' ++ t) := by
  induction s generalizing m bs with
  | nil => cases m <;> cases h
  | cons b s ih =>
    have hprepend {m bs₁} (h : prepend bs₁ (contents m s) = .ok (bs, s')) :
        prepend bs₁ (contents m (s ++ t)) = .ok (bs, s' ++ t) := by
      obtain ⟨bs₂, hrest, rfl⟩ := prepend_eq_ok_iff.mp h
      exact prepend_eq_ok_iff.mpr ⟨bs₂, ih hrest, rfl⟩
    rw [List.cons_append]
    cases m with
    | plain =>
      rw [contents] at h ⊢
      by_cases hquote : b = '"'.toUInt8
      · rw [if_pos hquote] at h ⊢
        cases h
        rfl
      rw [if_neg hquote] at h ⊢
      by_cases hslash : b = '\\'.toUInt8
      · rw [if_pos hslash] at h ⊢
        exact ih h
      rw [if_neg hslash] at h ⊢
      by_cases hlow : b < 0x20
      · rw [if_pos hlow] at h
        cases h
      rw [if_neg hlow] at h ⊢
      exact hprepend h
    | escape =>
      rw [contents] at h ⊢
      by_cases hu : b = 'u'.toUInt8
      · rw [if_pos hu] at h ⊢
        exact ih h
      rw [if_neg hu] at h ⊢
      cases hescape : simpleEscape? b with
      | none =>
        rw [hescape] at h
        cases h
      | some c =>
        rw [hescape] at h
        exact hprepend h
    | hex leading digits =>
      simp only [contents] at h ⊢
      by_cases hshort : digits.length < 3
      · rw [if_pos hshort] at h ⊢
        exact ih h
      rw [if_neg hshort] at h ⊢
      cases hvalue : hexValue? 0 (digits ++ [b]) with
      | none =>
        rw [hvalue] at h
        cases h
      | some n =>
        rw [hvalue] at h
        cases leading with
        | none =>
          simp only at h ⊢
          by_cases htrailing : isTrailing n
          · rw [if_pos htrailing] at h
            cases h
          rw [if_neg htrailing] at h ⊢
          by_cases hleading : isLeading n
          · rw [if_pos hleading] at h ⊢
            exact ih h
          rw [if_neg hleading] at h ⊢
          exact hprepend h
        | some leading =>
          simp only at h ⊢
          by_cases htrailing : isTrailing n
          · rw [if_pos htrailing] at h ⊢
            exact hprepend h
          · rw [if_neg htrailing] at h
            cases h
    | secondSlash leading =>
      rw [contents] at h ⊢
      by_cases hslash : b = '\\'.toUInt8
      · rw [if_pos hslash] at h ⊢
        exact ih h
      · rw [if_neg hslash] at h
        cases h
    | secondLetter leading =>
      rw [contents] at h ⊢
      by_cases hu : b = 'u'.toUInt8
      · rw [if_pos hu] at h ⊢
        exact ih h
      · rw [if_neg hu] at h
        cases h

theorem string_append {text : String} (h : string s = .ok (text, s')) (t : List UInt8) :
    string (s ++ t) = .ok (text, s' ++ t) := by
  obtain ⟨⟨bs, rest⟩, hcontents, h⟩ := bind_eq_ok_iff.mp h
  refine bind_eq_ok_iff.mpr ⟨_, contents_append hcontents t, ?_⟩
  simp only at h ⊢
  split at h
  · cases h
    rfl
  · cases h

end Strings

section Numbers

variable {negative : Bool} {significand leftOver : Nat} {exponent : Int} {n : Number}

theorem scaledNumber_append (h : scaledNumber negative significand exponent s = .ok (n, s')) (t : List UInt8) :
    scaledNumber negative significand exponent (s ++ t) = .ok (n, s' ++ t) := by
  rw [scaledNumber] at h ⊢
  split at h
  · cases h
    rfl
  · cases h

theorem exponentDigits_append {value e : Nat} (h : exponentDigits value s = .ok (e, s')) (hs' : s' ≠ [])
    (t : List UInt8) : exponentDigits value (s ++ t) = .ok (e, s' ++ t) := by
  induction s generalizing value with
  | nil =>
    cases h
    exact absurd rfl hs'
  | cons b s ih =>
    rw [List.cons_append]
    rw [exponentDigits] at h ⊢
    by_cases hb : isDigit b = true
    · rw [if_pos hb] at h ⊢
      split at h
      · rename_i hsmall
        rw [if_pos hsmall]
        exact ih h
      · cases h
    · rw [if_neg hb] at h ⊢
      cases h
      rfl

theorem exponentDigits_append_error {value : Nat} (h : exponentDigits value s = .error s') (t : List UInt8) :
    exponentDigits value (s ++ t) = .error (s' ++ t) := by
  induction s generalizing value with
  | nil => cases h
  | cons b s ih =>
    rw [List.cons_append]
    rw [exponentDigits] at h ⊢
    by_cases hb : isDigit b = true
    · rw [if_pos hb] at h ⊢
      split at h
      · rename_i hsmall
        rw [if_pos hsmall]
        exact ih h
      · rename_i hlarge
        rw [if_neg hlarge]
        cases h
        rfl
    · rw [if_neg hb] at h
      cases h

theorem exponentSign_append {down : Bool} (h : exponentSign s = (down, s')) (hs' : s' ≠ []) (t : List UInt8) :
    exponentSign (s ++ t) = (down, s' ++ t) := by
  cases s with
  | nil =>
    cases h
    exact absurd rfl hs'
  | cons b s =>
    rw [List.cons_append]
    rw [exponentSign] at h ⊢
    by_cases hplus : b = '+'.toUInt8
    · rw [if_pos hplus] at h ⊢
      cases h
      rfl
    rw [if_neg hplus] at h ⊢
    by_cases hminus : b = '-'.toUInt8
    · rw [if_pos hminus] at h ⊢
      cases h
      rfl
    · rw [if_neg hminus] at h ⊢
      cases h
      rfl

theorem exponentPart_extends : Extends (exponentPart negative significand exponent) := by
  intro s n s' h hs' t
  cases hsign : exponentSign s with
  | mk down rest =>
    simp only [exponentPart, hsign] at h
    cases rest with
    | nil => cases h
    | cons b rest =>
      have hsign' := exponentSign_append hsign (List.cons_ne_nil _ _) t
      simp only [exponentPart, hsign', List.cons_append]
      simp only at h
      by_cases hb : isDigit b = true
      · rw [if_pos hb] at h ⊢
        split at h
        · rename_i e s₁ hdigits
          have hs₁ : s₁ ≠ [] := by rwa [← eq_of_scaledNumber h]
          rw [← List.cons_append, exponentDigits_append hdigits hs₁]
          exact scaledNumber_append h t
        · rename_i s₁ hdigits
          rw [← List.cons_append, exponentDigits_append_error hdigits]
          simp only
          split at h
          · cases h
          · rename_i hzero
            cases h
            rw [if_neg hzero, List.dropWhile_append, if_neg (by simpa using hs')]
      · rw [if_neg hb] at h
        cases h

theorem afterFraction_extends : Extends (afterFraction negative significand exponent) := by
  intro s n s' h hs' t
  cases s with
  | nil => exact absurd (eq_of_scaledNumber h) hs'
  | cons b s =>
    rw [List.cons_append]
    rw [afterFraction] at h ⊢
    by_cases hmark : isExponentMark b = true
    · rw [if_pos hmark] at h ⊢
      exact exponentPart_extends h hs' t
    · rw [if_neg hmark] at h ⊢
      exact scaledNumber_append h t

theorem takeWhile_dropWhile_append (h : s.dropWhile isDigit ≠ []) (t : List UInt8) :
    (s ++ t).takeWhile isDigit = s.takeWhile isDigit ∧ (s ++ t).dropWhile isDigit = s.dropWhile isDigit ++ t := by
  have hshort : (s.takeWhile isDigit).length ≠ s.length := by
    have hsplit := congrArg List.length (List.takeWhile_append_dropWhile : s.takeWhile isDigit ++ _ = s)
    have hpos := List.length_pos_iff.mpr h
    rw [List.length_append] at hsplit
    omega
  constructor
  · rw [List.takeWhile_append, if_neg hshort]
  · rw [List.dropWhile_append, if_neg (by simpa using h)]

theorem fractionPart_extends : Extends (fractionPart negative significand leftOver) := by
  intro s n s' h hs' t
  simp only [fractionPart] at h
  split at h
  · split at h <;> cases h
  · rename_i hdigits
    have hrest : s.dropWhile isDigit ≠ [] := by
      intro hrest
      rw [hrest] at h
      exact hs' (eq_of_scaledNumber h)
    obtain ⟨htake, hdrop⟩ := takeWhile_dropWhile_append hrest t
    simp only [fractionPart, htake, hdrop]
    rw [if_neg hdigits]
    exact afterFraction_extends h hs' t

theorem afterWhole_nil (h : afterWhole negative significand leftOver [] = .ok (n, s')) : s' = [] := by
  rw [afterWhole] at h
  split at h
  · cases h
    rfl
  · exact eq_of_scaledNumber h

theorem afterWhole_extends : Extends (afterWhole negative significand leftOver) := by
  intro s n s' h hs' t
  cases s with
  | nil => exact absurd (afterWhole_nil h) hs'
  | cons b s =>
    rw [List.cons_append]
    rw [afterWhole] at h ⊢
    by_cases hpoint : b = '.'.toUInt8
    · rw [if_pos hpoint] at h ⊢
      exact fractionPart_extends h hs' t
    rw [if_neg hpoint] at h ⊢
    by_cases hmark : isExponentMark b = true
    · rw [if_pos hmark] at h ⊢
      exact exponentPart_extends h hs' t
    rw [if_neg hmark] at h ⊢
    by_cases hwhole : leftOver = 0
    · rw [if_pos hwhole] at h ⊢
      cases h
      rfl
    · rw [if_neg hwhole] at h ⊢
      exact scaledNumber_append h t

theorem number_extends : Extends (number negative) := by
  intro s n s' h hs' t
  cases s with
  | nil => cases h
  | cons b s =>
    rw [List.cons_append]
    rw [number] at h ⊢
    by_cases hzero : b = '0'.toUInt8
    · rw [if_pos hzero] at h ⊢
      by_cases hdigit : (s.head?.map isDigit).getD false = true
      · rw [if_pos hdigit] at h
        cases h
      · rw [if_neg hdigit] at h
        have hs : s ≠ [] := by
          rintro rfl
          exact hs' (afterWhole_nil h)
        rw [List.head?_append_of_ne_nil s hs, if_neg hdigit]
        exact afterWhole_extends h hs' t
    rw [if_neg hzero] at h ⊢
    by_cases hb : isDigit b = true
    · rw [if_pos hb] at h ⊢
      have hrest : s.dropWhile isDigit ≠ [] := by
        intro hrest
        rw [hrest] at h
        exact hs' (afterWhole_nil h)
      obtain ⟨htake, hdrop⟩ := takeWhile_dropWhile_append hrest t
      rw [htake, hdrop]
      exact afterWhole_extends h hs' t
    · rw [if_neg hb] at h
      cases h

end Numbers

section Values

variable {depth fuel : Nat} {first : Bool}

theorem head_extends : Extends head := by
  intro s found s' h hs' t
  cases hs : skipBlanks s with
  | nil =>
    rw [head, hs] at h
    cases h
  | cons b rest =>
    simp only [head, hs] at h
    simp only [head, skipBlanks_append hs t]
    have hword {known : Found} {cs : List Char} (h : (known, ·) <$> word cs rest = .ok (found, s')) :
        (known, ·) <$> word cs (rest ++ t) = .ok (found, s' ++ t) := by
      obtain ⟨_, hword, heq⟩ := map_eq_ok_iff.mp h
      cases heq
      exact map_eq_ok_iff.mpr ⟨_, word_append hword t, rfl⟩
    by_cases hn : b = 'n'.toUInt8
    · rw [if_pos hn] at h ⊢
      exact hword h
    rw [if_neg hn] at h ⊢
    by_cases ht : b = 't'.toUInt8
    · rw [if_pos ht] at h ⊢
      exact hword h
    rw [if_neg ht] at h ⊢
    by_cases hf : b = 'f'.toUInt8
    · rw [if_pos hf] at h ⊢
      exact hword h
    rw [if_neg hf] at h ⊢
    by_cases hminus : b = '-'.toUInt8
    · rw [if_pos hminus] at h ⊢
      obtain ⟨_, hnumber, heq⟩ := map_eq_ok_iff.mp h
      cases heq
      exact map_eq_ok_iff.mpr ⟨_, number_extends hnumber hs' t, rfl⟩
    rw [if_neg hminus] at h ⊢
    by_cases hb : isDigit b = true
    · rw [if_pos hb] at h ⊢
      obtain ⟨_, hnumber, heq⟩ := map_eq_ok_iff.mp h
      cases heq
      exact map_eq_ok_iff.mpr ⟨_, number_extends hnumber hs' t, rfl⟩
    rw [if_neg hb] at h ⊢
    by_cases hquote : b = '"'.toUInt8
    · rw [if_pos hquote] at h ⊢
      obtain ⟨_, hstring, heq⟩ := map_eq_ok_iff.mp h
      cases heq
      exact map_eq_ok_iff.mpr ⟨_, string_append hstring t, rfl⟩
    rw [if_neg hquote] at h ⊢
    by_cases hlist : b = '['.toUInt8
    · rw [if_pos hlist] at h ⊢
      cases h
      rfl
    rw [if_neg hlist] at h ⊢
    by_cases hobject : b = '\x7b'.toUInt8
    · rw [if_pos hobject] at h ⊢
      cases h
      rfl
    · rw [if_neg hobject] at h
      cases h

theorem Separated.append {s₁ : List UInt8} (h : Separated first s s₁) (hs₁ : s₁ ≠ []) (t : List UInt8) :
    Separated first (s ++ t) (s₁ ++ t) := by
  obtain ⟨b, rest, rfl⟩ := List.exists_cons_of_ne_nil hs₁
  cases h with
  | first h => exact .first (skipBlanks_append h t)
  | next hcomma h => exact .next (skipBlanks_append hcomma t) (skipBlanks_append h t)

theorem ne_nil_of_value {v : Json} (h : value depth s = .ok (v, s')) : s ≠ [] := by
  rintro rfl
  cases depth <;> cases h

theorem items_append (hvalue : Extends (value depth)) {vs : List Json}
    (h : items (value depth) first fuel s = .ok (vs, s')) {fuel' : Nat} (hfuel : fuel ≤ fuel') (t : List UInt8) :
    items (value depth) first fuel' (s ++ t) = .ok (vs, s' ++ t) := by
  induction fuel generalizing first fuel' s vs with
  | zero => cases h
  | succ fuel ih =>
    obtain ⟨fuel', rfl⟩ := Nat.exists_eq_succ_of_ne_zero (Nat.ne_zero_of_lt hfuel)
    obtain ⟨⟨more, s₁⟩, hmore, h⟩ := bind_eq_ok_iff.mp h
    cases more with
    | false =>
      obtain ⟨hs, rest, rfl⟩ := end_of_anotherItem hmore
      cases h
      exact bind_eq_ok_iff.mpr ⟨_, anotherItem_of_end (skipBlanks_append hs t), rfl⟩
    | true =>
      obtain ⟨⟨v, s₂⟩, hv, h⟩ := bind_eq_ok_iff.mp h
      obtain ⟨⟨vs', s₃⟩, hvs, h⟩ := bind_eq_ok_iff.mp h
      cases h
      have hs₂ : s₂ ≠ [] := by
        rintro rfl
        cases fuel <;> cases hvs
      have hsep := (separated_of_anotherItem hmore).append (ne_nil_of_value hv) t
      have hv' := hvalue hv hs₂ t
      exact bind_eq_ok_iff.mpr ⟨_, anotherItem_of_value hsep hv', bind_eq_ok_iff.mpr ⟨_, hv',
        bind_eq_ok_iff.mpr ⟨_, ih hvs (Nat.le_of_succ_le_succ hfuel), rfl⟩⟩⟩

theorem members_append (hvalue : Extends (value depth)) {ms : List (String × Json)}
    (h : members (value depth) first fuel s = .ok (ms, s')) {fuel' : Nat} (hfuel : fuel ≤ fuel') (t : List UInt8) :
    members (value depth) first fuel' (s ++ t) = .ok (ms, s' ++ t) := by
  induction fuel generalizing first fuel' s ms with
  | zero => cases h
  | succ fuel ih =>
    obtain ⟨fuel', rfl⟩ := Nat.exists_eq_succ_of_ne_zero (Nat.ne_zero_of_lt hfuel)
    obtain ⟨⟨more, s₁⟩, hmore, h⟩ := bind_eq_ok_iff.mp h
    cases more with
    | false =>
      obtain ⟨hs, rest, rfl⟩ := anotherMember_eq_false_iff.mp hmore
      cases h
      exact bind_eq_ok_iff.mpr ⟨_, anotherMember_eq_false_iff.mpr ⟨skipBlanks_append hs t, _, rfl⟩, rfl⟩
    | true =>
      obtain ⟨hsep, quoted, rfl⟩ := anotherMember_eq_true_iff.mp hmore
      obtain ⟨⟨name, s₂⟩, hname, h⟩ := bind_eq_ok_iff.mp h
      obtain ⟨s₃, hcolon, h⟩ := bind_eq_ok_iff.mp h
      obtain ⟨⟨v, s₄⟩, hv, h⟩ := bind_eq_ok_iff.mp h
      obtain ⟨⟨ms', s₅⟩, hms, h⟩ := bind_eq_ok_iff.mp h
      cases h
      have hs₄ : s₄ ≠ [] := by
        rintro rfl
        cases fuel <;> cases hms
      have hmore' := anotherMember_eq_true_iff.mpr ⟨hsep.append (List.cons_ne_nil _ _) t, _, rfl⟩
      have hcolon' := colon_eq_ok_iff.mpr (skipBlanks_append (colon_eq_ok_iff.mp hcolon) t)
      exact bind_eq_ok_iff.mpr ⟨_, hmore', bind_eq_ok_iff.mpr ⟨_, string_append hname t,
        bind_eq_ok_iff.mpr ⟨_, hcolon', bind_eq_ok_iff.mpr ⟨_, hvalue hv hs₄ t,
          bind_eq_ok_iff.mpr ⟨_, ih hms (Nat.le_of_succ_le_succ hfuel), rfl⟩⟩⟩⟩⟩

theorem listFrom_append (hvalue : Extends (value depth)) {b : UInt8} {vs : List Json}
    (h : listFrom (value depth) (b :: s) = .ok (vs, s')) (t : List UInt8) :
    listFrom (value depth) (b :: (s ++ t)) = .ok (vs, s' ++ t) := by
  obtain ⟨⟨_, s₁⟩, hitems, h⟩ := bind_eq_ok_iff.mp h
  obtain ⟨_, hclose, h⟩ := bind_eq_ok_iff.mp h
  cases h
  have hfuel : (b :: s).length ≤ (b :: (s ++ t)).length := by simp
  have hclose' := closeList_eq_ok_iff.mpr (skipBlanks_append (closeList_eq_ok_iff.mp hclose) t)
  exact bind_eq_ok_iff.mpr ⟨_, items_append hvalue hitems hfuel t, bind_eq_ok_iff.mpr ⟨_, hclose', rfl⟩⟩

theorem objectFrom_append (hvalue : Extends (value depth)) {b : UInt8} {ms : List (String × Json)}
    (h : objectFrom (value depth) (b :: s) = .ok (ms, s')) (t : List UInt8) :
    objectFrom (value depth) (b :: (s ++ t)) = .ok (ms, s' ++ t) := by
  obtain ⟨⟨_, s₁⟩, hmembers, h⟩ := bind_eq_ok_iff.mp h
  obtain ⟨_, hclose, h⟩ := bind_eq_ok_iff.mp h
  cases h
  have hfuel : (b :: s).length ≤ (b :: (s ++ t)).length := by simp
  have hclose' := closeObject_eq_ok_iff.mpr (skipBlanks_append (closeObject_eq_ok_iff.mp hclose) t)
  exact bind_eq_ok_iff.mpr ⟨_, members_append hvalue hmembers hfuel t, bind_eq_ok_iff.mpr ⟨_, hclose', rfl⟩⟩

theorem object_append_of (hvalue : ∀ d < depth, Extends (value d)) {ms : List (String × Json)}
    (h : value depth s = .ok (.object ms, s')) (t : List UInt8) : value depth (s ++ t) = .ok (.object ms, s' ++ t) := by
  cases opened_of_value h with
  | @object d _ _ hdepth hhead hobject =>
    subst hdepth
    obtain ⟨rest, hs, rfl⟩ := head_eq_map_iff.mp hhead
    have hhead' := head_eq_map_iff.mpr ⟨_, skipBlanks_append hs t, rfl⟩
    have hobject' := objectFrom_append (hvalue d (Nat.lt_succ_self d)) hobject t
    exact bind_eq_ok_iff.mpr ⟨_, hhead', map_eq_ok_iff.mpr ⟨_, hobject', rfl⟩⟩

theorem value_extends (depth : Nat) : Extends (value depth) := by
  induction depth using Nat.strong_induction_on with
  | _ depth ih =>
    intro s v s' h hs' t
    cases opened_of_value h with
    | null hhead | bool hhead | number hhead | string hhead =>
      exact value_of_head (head_extends hhead hs' t) (fun _ => rfl) depth
    | @array d _ _ hdepth hhead hlist =>
      subst hdepth
      obtain ⟨rest, hs, rfl⟩ := head_eq_sequence_iff.mp hhead
      have hhead' := head_eq_sequence_iff.mpr ⟨_, skipBlanks_append hs t, rfl⟩
      have hlist' := listFrom_append (ih d (Nat.lt_succ_self d)) hlist t
      exact bind_eq_ok_iff.mpr ⟨_, hhead', map_eq_ok_iff.mpr ⟨_, hlist', rfl⟩⟩
    | object => exact object_append_of ih h t

theorem object_append {ms : List (String × Json)} (h : value depth s = .ok (.object ms, s')) (t : List UInt8) :
    value depth (s ++ t) = .ok (.object ms, s' ++ t) :=
  object_append_of (fun d _ => value_extends d) h t

end Values

end GatedStore.Json.Reader
