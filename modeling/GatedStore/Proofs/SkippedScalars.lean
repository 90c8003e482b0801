import GatedStore.Json.Skip
import GatedStore.Proofs.JsonNumbers
import GatedStore.Proofs.Results

namespace GatedStore.Json.Reader

open Results

def Mode.skip : Mode → SkipMode
  | .plain => .plain
  | .escape => .escape
  | .hex _ digits => .hex digits
  | .secondSlash _ => .plain
  | .secondLetter _ => .escape

theorem prepend_eq_ok_iff {bs bs' s : List UInt8} {r : Except Fault (List UInt8 × List UInt8)} :
    prepend bs r = .ok (bs', s) ↔ ∃ bs'', r = .ok (bs'', s) ∧ bs' = bs ++ bs'' := by
  cases r with
  | error f => exact iff_of_false nofun nofun
  | ok p =>
    obtain ⟨bs'', s''⟩ := p
    constructor
    · intro h
      cases h
      exact ⟨bs'', rfl, rfl⟩
    · rintro ⟨_, h, rfl⟩
      cases h
      rfl

theorem contents_of_lastDigit {leading : Option Nat} {digits s s' bs : List UInt8} {b : UInt8}
    (hlast : ¬ digits.length < 3) (h : contents (.hex leading digits) (b :: s) = .ok (bs, s')) :
    (hexValue? 0 (digits ++ [b])).isSome ∧ ∃ m bs', Mode.skip m = .plain ∧ contents m s = .ok (bs', s') := by
  simp only [contents, if_neg hlast] at h
  cases hvalue : hexValue? 0 (digits ++ [b]) with
  | none =>
    rw [hvalue] at h
    cases h
  | some n =>
    refine ⟨rfl, ?_⟩
    rw [hvalue] at h
    cases leading with
    | none =>
      simp only at h
      split at h
      · cases h
      split at h
      · exact ⟨_, bs, rfl, h⟩
      · obtain ⟨bs', h, -⟩ := prepend_eq_ok_iff.mp h
        exact ⟨_, bs', rfl, h⟩
    | some leading =>
      simp only at h
      split at h
      · obtain ⟨bs', h, -⟩ := prepend_eq_ok_iff.mp h
        exact ⟨_, bs', rfl, h⟩
      · cases h

theorem skipString_of_contents {m : Mode} {s s' bs : List UInt8} (h : contents m s = .ok (bs, s')) :
    skipString m.skip s = .ok s' := by
  induction s generalizing m bs with
  | nil => cases m <;> cases h
  | cons b s ih =>
    cases m with
    | plain =>
      rw [contents] at h
      rw [Mode.skip, skipString]
      by_cases hquote : b = '"'.toUInt8
      · rw [if_pos hquote] at h ⊢
        cases h
        rfl
      rw [if_neg hquote] at h ⊢
      by_cases hslash : b = '\\'.toUInt8
      · rw [if_pos hslash] at h ⊢
        exact ih h
      rw [if_neg hslash] at h ⊢
      by_cases hlow : b < 0x20
      · rw [if_pos hlow] at h
        cases h
      rw [if_neg hlow] at h ⊢
      obtain ⟨bs', h, -⟩ := prepend_eq_ok_iff.mp h
      exact ih h
    | escape =>
      rw [contents] at h
      rw [Mode.skip, skipString]
      by_cases hu : b = 'u'.toUInt8
      · rw [if_pos hu] at h ⊢
        exact ih h
      rw [if_neg hu] at h ⊢
      cases hescape : simpleEscape? b with
      | none =>
        rw [hescape] at h
        cases h
      | some c =>
        rw [hescape] at h
        obtain ⟨bs', h, -⟩ := prepend_eq_ok_iff.mp h
        exact ih h
    | hex leading digits =>
      rw [Mode.skip, skipString]
      by_cases hshort : digits.length < 3
      · simp only [contents, if_pos hshort] at h
        rw [if_pos hshort]
        exact ih h
      rw [if_neg hshort]
      obtain ⟨hsome, m, bs', hm, h⟩ := contents_of_lastDigit hshort h
      have hrest := ih h
      rw [hm] at hrest
      rw [if_pos hsome, hrest]
    | secondSlash leading =>
      rw [contents] at h
      rw [Mode.skip]
      split at h
      · rename_i hb
        subst hb
        exact ih h
      · cases h
    | secondLetter leading =>
      rw [contents] at h
      rw [Mode.skip, skipString]
      split at h
      · rename_i hu
        rw [if_pos hu]
        exact ih h
      · cases h

theorem skipString_of_string {t : String} {s s' : List UInt8} (h : string s = .ok (t, s')) :
    skipString .plain s = .ok s' := by
  obtain ⟨⟨bs, rest⟩, hcontents, h⟩ := bind_eq_ok_iff.mp h
  simp only at h
  split at h
  · cases h
    exact skipString_of_contents hcontents
  · cases h

section Numbers

variable {negative : Bool} {significand leftOver : Nat} {exponent : Int} {n : Number} {s s' : List UInt8}

theorem eq_of_scaledNumber (h : scaledNumber negative significand exponent s = .ok (n, s')) : s' = s := by
  rw [scaledNumber] at h
  split at h
  · cases h
    rfl
  · cases h

theorem eq_skipDigits_of_exponentDigits {value e : Nat} (h : exponentDigits value s = .ok (e, s')) :
    s' = skipDigits s := by
  induction s generalizing value with
  | nil =>
    cases h
    rfl
  | cons b s ih =>
    rw [exponentDigits] at h
    by_cases hb : isDigit b = true
    · rw [if_pos hb] at h
      split at h
      · rw [ih h, skipDigits, skipDigits, List.dropWhile_cons_of_pos hb]
      · cases h
    · rw [if_neg hb] at h
      cases h
      rw [skipDigits, List.dropWhile_cons_of_neg hb]

theorem skipDigits_of_exponentDigits_error {value : Nat} (h : exponentDigits value s = .error s') :
    skipDigits s' = skipDigits s := by
  induction s generalizing value with
  | nil => cases h
  | cons b s ih =>
    rw [exponentDigits] at h
    by_cases hb : isDigit b = true
    · rw [if_pos hb] at h
      rw [skipDigits, skipDigits, List.dropWhile_cons_of_pos hb]
      split at h
      · exact ih h
      · cases h
        rfl
    · rw [if_neg hb] at h
      cases h

theorem skipExponent_of_exponentPart (h : exponentPart negative significand exponent s = .ok (n, s')) :
    skipExponent s = .ok s' := by
  rw [exponentPart] at h
  rw [skipExponent]
  generalize exponentSign s = signed at h ⊢
  obtain ⟨down, s⟩ := signed
  cases s with
  | nil => cases h
  | cons b s =>
    simp only at h ⊢
    by_cases hb : isDigit b = true
    · have hdrop : skipDigits (b :: s) = skipDigits s := List.dropWhile_cons_of_pos hb
      rw [if_pos hb] at h ⊢
      split at h
      · rename_i e rest hdigits
        rw [eq_of_scaledNumber h, eq_skipDigits_of_exponentDigits hdigits, hdrop]
      · rename_i rest hdigits
        split at h
        · cases h
        · cases h
          rw [← hdrop, ← skipDigits_of_exponentDigits_error hdigits]
          rfl
    · rw [if_neg hb] at h
      cases h

theorem skipFraction_of_fractionPart (h : fractionPart negative significand leftOver s = .ok (n, s')) :
    skipFraction s = .ok s' := by
  simp only [fractionPart] at h
  by_cases hempty : (s.takeWhile isDigit).isEmpty = true
  · rw [if_pos hempty] at h
    split at h <;> cases h
  rw [if_neg hempty] at h
  have hlength : (skipDigits s).length ≠ s.length := by
    have hsplit := congrArg List.length (List.takeWhile_append_dropWhile (p := isDigit) (l := s))
    have hpos : 0 < (s.takeWhile isDigit).length := List.length_pos_iff.mpr (by simpa using hempty)
    rw [List.length_append] at hsplit
    change (s.dropWhile isDigit).length ≠ s.length
    omega
  rw [skipFraction, if_neg hlength]
  change afterFraction negative _ _ (skipDigits s) = _ at h
  generalize skipDigits s = rest at h ⊢
  cases rest with
  | nil =>
    rw [eq_of_scaledNumber h]
  | cons b rest =>
    rw [afterFraction] at h
    by_cases hmark : isExponentMark b = true
    · rw [if_pos hmark] at h
      simp only [if_pos hmark]
      exact skipExponent_of_exponentPart h
    · rw [if_neg hmark] at h
      simp only [if_neg hmark, eq_of_scaledNumber h]

theorem skipAfterWhole_of_afterWhole (h : afterWhole negative significand leftOver s = .ok (n, s')) :
    skipAfterWhole s = .ok s' := by
  have hstop : ∀ s, (if leftOver = 0 then Except.ok (wholeNumber negative significand, s)
      else scaledNumber negative significand leftOver s) = .ok (n, s') → s' = s := by
    intro s h
    split at h
    · cases h
      rfl
    · exact eq_of_scaledNumber h
  cases s with
  | nil => rw [hstop [] h, skipAfterWhole]
  | cons b s =>
    rw [afterWhole] at h
    rw [skipAfterWhole]
    by_cases hpoint : b = '.'.toUInt8
    · rw [if_pos hpoint] at h ⊢
      exact skipFraction_of_fractionPart h
    rw [if_neg hpoint] at h ⊢
    by_cases hmark : isExponentMark b = true
    · rw [if_pos hmark] at h ⊢
      exact skipExponent_of_exponentPart h
    rw [if_neg hmark] at h ⊢
    rw [hstop _ h]

theorem skipNumber_of_number (h : number negative s = .ok (n, s')) : skipNumber s = .ok s' := by
  cases s with
  | nil => cases h
  | cons b s =>
    rw [number] at h
    rw [skipNumber]
    by_cases hzero : b = '0'.toUInt8
    · rw [if_pos hzero] at h ⊢
      by_cases hdigit : (s.head?.map isDigit).getD false = true
      · rw [if_pos hdigit] at h
        cases h
      · rw [if_neg hdigit] at h ⊢
        exact skipAfterWhole_of_afterWhole h
    rw [if_neg hzero] at h ⊢
    by_cases hb : isDigit b = true
    · rw [if_pos hb] at h ⊢
      exact skipAfterWhole_of_afterWhole h
    · rw [if_neg hb] at h
      cases h

end Numbers

section Lengths

variable {s s' : List UInt8}

theorem length_skipBlanks (s : List UInt8) : (skipBlanks s).length ≤ s.length :=
  (List.dropWhile_suffix _).length_le

theorem length_word {cs : List Char} (h : word cs s = .ok s') : s'.length ≤ s.length := by
  induction cs generalizing s with
  | nil =>
    cases h
    exact Nat.le_refl _
  | cons c cs ih =>
    cases s with
    | nil => cases h
    | cons b s =>
      rw [word] at h
      split at h
      · exact Nat.le_succ_of_le (ih h)
      · cases h

theorem length_skipDigits (s : List UInt8) : (skipDigits s).length ≤ s.length :=
  (List.dropWhile_suffix _).length_le

theorem length_skipString {m : SkipMode} (h : skipString m s = .ok s') : s'.length < s.length := by
  induction s generalizing m with
  | nil => cases m <;> cases h
  | cons b s ih =>
    suffices hcases : s' = s ∨ ∃ m, skipString m s = .ok s' by
      rcases hcases with rfl | ⟨m, h⟩
      · exact Nat.lt_succ_self _
      · exact Nat.lt_succ_of_lt (ih h)
    cases m with
    | plain =>
      rw [skipString] at h
      split at h
      · exact Or.inl (Except.ok.inj h).symm
      split at h
      · exact Or.inr ⟨_, h⟩
      split at h
      · cases h
      · exact Or.inr ⟨_, h⟩
    | escape =>
      rw [skipString] at h
      split at h
      · exact Or.inr ⟨_, h⟩
      split at h
      · exact Or.inr ⟨_, h⟩
      · cases h
    | hex digits =>
      rw [skipString] at h
      split at h
      · exact Or.inr ⟨_, h⟩
      split at h
      · exact Or.inr ⟨_, h⟩
      · cases h

theorem length_skipExponent (h : skipExponent s = .ok s') : s'.length ≤ s.length := by
  have hsign : (exponentSign s).2.length ≤ s.length := by
    cases s with
    | nil => exact Nat.le_refl _
    | cons b s =>
      rw [exponentSign]
      split
      · exact Nat.le_succ _
      split
      · exact Nat.le_succ _
      · exact Nat.le_refl _
  rw [skipExponent] at h
  generalize (exponentSign s).2 = rest at h hsign
  cases rest with
  | nil => cases h
  | cons b rest =>
    simp only at h
    split at h
    · cases h
      have hle := length_skipDigits rest
      rw [List.length_cons] at hsign
      omega
    · cases h

theorem length_skipFraction (h : skipFraction s = .ok s') : s'.length ≤ s.length := by
  have hle := length_skipDigits s
  simp only [skipFraction] at h
  split at h
  · cases h
  generalize skipDigits s = rest at h hle
  cases rest with
  | nil =>
    cases h
    exact hle
  | cons b rest =>
    simp only at h
    split at h
    · have hrest := length_skipExponent h
      rw [List.length_cons] at hle
      omega
    · cases h
      exact hle

theorem length_skipAfterWhole (h : skipAfterWhole s = .ok s') : s'.length ≤ s.length := by
  cases s with
  | nil =>
    cases h
    exact Nat.le_refl _
  | cons b s =>
    rw [skipAfterWhole] at h
    split at h
    · exact Nat.le_succ_of_le (length_skipFraction h)
    split at h
    · exact Nat.le_succ_of_le (length_skipExponent h)
    · cases h
      exact Nat.le_refl _

theorem length_skipNumber (h : skipNumber s = .ok s') : s'.length < s.length := by
  cases s with
  | nil => cases h
  | cons b s =>
    rw [skipNumber] at h
    split at h
    · split at h
      · cases h
      · exact Nat.lt_succ_of_le (length_skipAfterWhole h)
    split at h
    · have hle := length_skipAfterWhole h
      have hdigits := length_skipDigits s
      rw [List.length_cons]
      omega
    · cases h

theorem length_colon (h : colon s = .ok s') : s'.length < s.length := by
  have hle := length_skipBlanks s
  rw [colon] at h
  generalize skipBlanks s = rest at h hle
  cases rest with
  | nil => cases h
  | cons b rest =>
    simp only at h
    split at h
    · cases h
      rw [List.length_cons] at hle
      omega
    · cases h

end Lengths

end GatedStore.Json.Reader
