import GatedStore.Proofs.Results
import GatedStore.Resource
import Mathlib.Data.List.TakeWhile

namespace GatedStore

namespace Text

theorem isBlank_of_isDigit {c : Char} (h : c.isDigit = true) : isBlank c = false := by
  simp only [Char.isDigit, Bool.and_eq_true, decide_eq_true_eq] at h
  have hl : 48 ≤ c.toNat := h.1
  have hr : c.toNat ≤ 57 := h.2
  simp [isBlank, blanks, Ranges.holds]
  omega

theorem dropWhile_blanks {left cs : List Char} (hleft : ∀ c ∈ left, isBlank c = true)
    (hcs : ∀ c ∈ cs.head?, isBlank c = false) : (left ++ cs).dropWhile isBlank = cs := by
  rw [List.dropWhile_append_of_pos hleft]
  cases cs with
  | nil => rfl
  | cons c cs => exact List.dropWhile_cons_of_neg (by simp [hcs c rfl])

theorem trim_padded {left core right : List Char} (hleft : ∀ c ∈ left, isBlank c = true)
    (hright : ∀ c ∈ right, isBlank c = true) (hne : core ≠ []) (hcore : ∀ c ∈ core, isBlank c = false) :
    trim (left ++ core ++ right) = core := by
  have hfirst : ∀ c ∈ (core ++ right).head?, isBlank c = false := by
    obtain ⟨d, ds, rfl⟩ := List.exists_cons_of_ne_nil hne
    rintro _ ⟨⟩
    exact hcore d List.mem_cons_self
  have hlast : ∀ c ∈ core.reverse.head?, isBlank c = false := fun c hc =>
    hcore c (List.mem_reverse.mp (List.mem_of_mem_head? hc))
  have hback : ∀ c ∈ right.reverse, isBlank c = true := fun c hc => hright c (List.mem_reverse.mp hc)
  rw [trim, List.append_assoc, dropWhile_blanks hleft hfirst, List.reverse_append, dropWhile_blanks hback hlast,
    List.reverse_reverse]

theorem exists_padding (cs : List Char) : ∃ left right, cs = left ++ trim cs ++ right ∧
    (∀ c ∈ left, isBlank c = true) ∧ ∀ c ∈ right, isBlank c = true := by
  let middle := cs.dropWhile isBlank
  refine ⟨cs.takeWhile isBlank, (middle.reverse.takeWhile isBlank).reverse, ?_, fun c => List.mem_takeWhile_imp,
    fun c hc => List.mem_takeWhile_imp (List.mem_reverse.mp hc)⟩
  have hmiddle : trim cs ++ (middle.reverse.takeWhile isBlank).reverse = middle := by
    rw [trim, ← List.reverse_append, List.takeWhile_append_dropWhile, List.reverse_reverse]
  rw [List.append_assoc, hmiddle, List.takeWhile_append_dropWhile]

namespace Numeral

theorem digit?_of_isDigit {c : Char} (h : c.isDigit = true) : digit? c = some (c.toNat - '0'.toNat) := by
  simp only [Char.isDigit, Bool.and_eq_true, decide_eq_true_eq] at h
  exact if_pos h

theorem lt_of_ofDigitChars_lt {cs : List Char} {value limit : Nat} (h : Nat.ofDigitChars 10 cs value < limit) :
    value < limit := by
  rw [Nat.ofDigitChars_eq_ofDigitChars_zero] at h
  have hpos : 0 < 10 ^ cs.length := Nat.pow_pos (by decide)
  have hle := Nat.le_mul_of_pos_left value hpos
  omega

theorem digits_eq_ok {cs : List Char} {value : Nat} (hd : ∀ c ∈ cs, c.isDigit = true)
    (hb : Nat.ofDigitChars 10 cs value < bound) : digits value cs = .ok (Nat.ofDigitChars 10 cs value) := by
  induction cs generalizing value with
  | nil => rw [Nat.ofDigitChars_nil, digits]
  | cons c cs ih =>
    rw [Nat.ofDigitChars_cons] at hb ⊢
    have hlt := lt_of_ofDigitChars_lt hb
    simp only [digits, digit?_of_isDigit (hd c List.mem_cons_self), if_pos hlt]
    exact ih (fun d hdm => hd d (List.mem_cons_of_mem _ hdm)) hb

theorem read_of_digits {cs : List Char} (hne : cs ≠ []) (hd : ∀ c ∈ cs, c.isDigit = true) :
    read cs = digits 0 cs := by
  have hplus : '+' ∉ cs := by
    intro hm
    have := hd '+' hm
    revert this
    decide
  unfold read
  split
  · exact absurd rfl hne
  · exact absurd List.mem_cons_self hplus
  · exact absurd List.mem_cons_self hplus
  · rfl

theorem isDigit_of_digit? {c : Char} {d : Nat} (h : digit? c = some d) : c.isDigit = true := by
  rw [digit?] at h
  split at h
  · rename_i hc
    simp only [Char.isDigit, Bool.and_eq_true, decide_eq_true_eq]
    exact hc
  · cases h

theorem of_digits_eq_ok {cs : List Char} {value n : Nat} (h : digits value cs = .ok n) :
    (∀ c ∈ cs, c.isDigit = true) ∧ Nat.ofDigitChars 10 cs value = n := by
  induction cs generalizing value with
  | nil =>
    cases h
    exact ⟨fun c hc => absurd hc List.not_mem_nil, Nat.ofDigitChars_nil⟩
  | cons c cs ih =>
    rw [digits] at h
    split at h
    · cases h
    · rename_i d hd
      have hdigit := isDigit_of_digit? hd
      obtain rfl : c.toNat - '0'.toNat = d := Option.some.inj ((digit?_of_isDigit hdigit).symm.trans hd)
      split at h
      · obtain ⟨hall, hvalue⟩ := ih h
        exact ⟨List.forall_mem_cons.mpr ⟨hdigit, hall⟩, by rw [Nat.ofDigitChars_cons, hvalue]⟩
      · cases h

theorem digit_lt {c : Char} (h : c.isDigit = true) : c.toNat - '0'.toNat < 10 := by
  simp only [Char.isDigit, Bool.and_eq_true, decide_eq_true_eq] at h
  have hhigh : c.toNat ≤ 57 := h.2
  have hzero : '0'.toNat = 48 := rfl
  omega

theorem toDigits_digit {c : Char} (h : c.isDigit = true) : Nat.toDigits 10 (c.toNat - '0'.toNat) = [c] := by
  have hlt := digit_lt h
  simp only [Char.isDigit, Bool.and_eq_true, decide_eq_true_eq] at h
  have hlow : '0'.toNat ≤ c.toNat := h.1
  have hall : ∀ d < 10, (Nat.digitChar d).toNat = '0'.toNat + d := by decide
  have hchar : Nat.digitChar (c.toNat - '0'.toNat) = c := by
    apply Char.toNat_inj.mp
    rw [hall _ hlt]
    omega
  rw [Nat.toDigits_of_lt_base hlt, hchar]

theorem toDigits_ofDigitChars {cs : List Char} {value : Nat} (hpos : 0 < value)
    (hd : ∀ c ∈ cs, c.isDigit = true) :
    Nat.toDigits 10 (Nat.ofDigitChars 10 cs value) = Nat.toDigits 10 value ++ cs := by
  induction cs generalizing value with
  | nil => rw [Nat.ofDigitChars_nil, List.append_nil]
  | cons c cs ih =>
    obtain ⟨hc, hcs⟩ := List.forall_mem_cons.mp hd
    rw [Nat.ofDigitChars_cons, ih (by omega) hcs, ← Nat.toDigits_append_toDigits (by decide) hpos (digit_lt hc),
      toDigits_digit hc, List.append_assoc, List.singleton_append]

theorem eq_zeros_append_toDigits {cs : List Char} (hne : cs ≠ []) (hd : ∀ c ∈ cs, c.isDigit = true) :
    ∃ k, cs = List.replicate k '0' ++ Nat.toDigits 10 (Nat.ofDigitChars 10 cs 0) := by
  induction cs with
  | nil => exact absurd rfl hne
  | cons c cs ih =>
    obtain ⟨hc, hcs⟩ := List.forall_mem_cons.mp hd
    rw [Nat.ofDigitChars_cons, Nat.mul_zero, Nat.zero_add]
    rcases Nat.eq_zero_or_pos (c.toNat - '0'.toNat) with hzero | hpos
    · have hone := toDigits_digit hc
      rw [hzero, Nat.toDigits_zero] at hone
      obtain rfl : '0' = c := by simpa using hone
      rw [hzero]
      by_cases hempty : cs = []
      · exact ⟨0, by rw [hempty]; rfl⟩
      · obtain ⟨k, hk⟩ := ih hempty hcs
        exact ⟨k + 1, by rw [List.replicate_succ, List.cons_append, ← hk]⟩
    · exact ⟨0, by rw [toDigits_ofDigitChars hpos hcs, toDigits_digit hc]; rfl⟩

theorem digits_zeros_append {n : Nat} (hn : n < bound) (k : Nat) :
    digits 0 (List.replicate k '0' ++ Nat.toDigits 10 n) = .ok n := by
  have hd : ∀ c ∈ List.replicate k '0' ++ Nat.toDigits 10 n, c.isDigit = true := by
    intro c hc
    rcases List.mem_append.mp hc with hc | hc
    · rw [List.eq_of_mem_replicate hc]
      rfl
    · exact Nat.isDigit_of_mem_toDigits (by decide) (by decide) hc
  have hvalue : Nat.ofDigitChars 10 (List.replicate k '0' ++ Nat.toDigits 10 n) 0 = n := by
    rw [Nat.ofDigitChars_append, Nat.ofDigitChars_replicate_zero, Nat.mul_zero, Nat.ofDigitChars_ten_toDigits]
  rw [digits_eq_ok hd (hvalue.symm ▸ hn), hvalue]

theorem read_eq_ok_iff {cs : List Char} {n : Nat} : read cs = .ok n ↔ n < bound ∧ ∃ sign k,
    (sign = [] ∨ sign = ['+']) ∧ cs = sign ++ (List.replicate k '0' ++ Nat.toDigits 10 n) := by
  constructor
  · intro h
    refine ⟨read_lt h, ?_⟩
    have hsplit : ∃ sign ds, (sign = [] ∨ sign = ['+']) ∧ cs = sign ++ ds ∧ ds ≠ [] ∧ digits 0 ds = .ok n := by
      unfold read at h
      split at h
      · cases h
      · cases h
      · rename_i ds hne
        exact ⟨['+'], ds, Or.inr rfl, rfl, fun hds => hne (by rw [hds]), h⟩
      · rename_i hne _ _
        exact ⟨[], cs, Or.inl rfl, rfl, hne, h⟩
    obtain ⟨sign, ds, hsign, rfl, hne, hds⟩ := hsplit
    obtain ⟨hd, hvalue⟩ := of_digits_eq_ok hds
    obtain ⟨k, hk⟩ := eq_zeros_append_toDigits hne hd
    rw [hvalue] at hk
    exact ⟨sign, k, hsign, by rw [← hk]⟩
  · rintro ⟨hn, sign, k, hsign, rfl⟩
    have hdigits := digits_zeros_append hn k
    have hne : List.replicate k '0' ++ Nat.toDigits 10 n ≠ [] :=
      List.append_ne_nil_of_right_ne_nil _ Nat.toDigits_ne_nil
    rcases hsign with rfl | rfl
    · rw [List.nil_append, read_of_digits hne (of_digits_eq_ok hdigits).1, hdigits]
    · obtain ⟨d, ds, hds⟩ := List.exists_cons_of_ne_nil hne
      rw [hds] at hdigits ⊢
      exact hdigits

end Numeral

end Text

namespace ResourceId

theorem toList_text (id : ResourceId) : id.text.toList = Nat.toDigits 10 id.toNat := by
  rw [text, Nat.toString_eq_ofList_toDigits, String.toList_ofList]

theorem isDigit_of_mem_text {id : ResourceId} {c : Char} (h : c ∈ id.text.toList) : c.isDigit = true := by
  rw [toList_text] at h
  exact Nat.isDigit_of_mem_toDigits (by decide) (by decide) h

def Spelling (id : ResourceId) (cs : List Char) : Prop :=
  ∃ left sign zeros right, cs = left ++ (sign ++ (List.replicate zeros '0' ++ id.text.toList)) ++ right ∧
    (∀ c ∈ left, Text.isBlank c = true) ∧ (sign = [] ∨ sign = ['+']) ∧ ∀ c ∈ right, Text.isBlank c = true

theorem not_blank_of_mem_spelling {c : Char} {sign : List Char} {zeros : Nat} {id : ResourceId}
    (hsign : sign = [] ∨ sign = ['+']) (h : c ∈ sign ++ (List.replicate zeros '0' ++ id.text.toList)) :
    Text.isBlank c = false ∧ c ≠ ',' := by
  rcases List.mem_append.mp h with h | h
  · rcases hsign with rfl | rfl
    · cases h
    · rw [List.mem_singleton.mp h]
      decide
  · rcases List.mem_append.mp h with h | h
    · rw [List.eq_of_mem_replicate h]
      decide
    · have hdigit := isDigit_of_mem_text h
      refine ⟨Text.isBlank_of_isDigit hdigit, ?_⟩
      rintro rfl
      cases hdigit

theorem read_eq_ok_iff {s : String} {id : ResourceId} : read s = .ok id ↔ Spelling id s.toList := by
  rw [read, Results.map_eq_ok_iff]
  constructor
  · rintro ⟨n, hn, rfl⟩
    obtain ⟨hlt, sign, k, hsign, hcore⟩ := Text.Numeral.read_eq_ok_iff.mp hn
    obtain ⟨left, right, hs, hleft, hright⟩ := Text.exists_padding s.toList
    refine ⟨left, sign, k, right, ?_, hleft, hsign, hright⟩
    rw [toList_text, UInt64.toNat_ofNat_of_lt' hlt, ← hcore, ← hs]
  · rintro ⟨left, sign, zeros, right, hs, hleft, hsign, hright⟩
    have hne : sign ++ (List.replicate zeros '0' ++ id.text.toList) ≠ [] := by
      rw [toList_text]
      simp [Nat.toDigits_ne_nil]
    have htrim := Text.trim_padded hleft hright hne fun c hc => (not_blank_of_mem_spelling hsign hc).1
    refine ⟨id.toNat, ?_, UInt64.ofNat_toNat⟩
    rw [hs, htrim, Text.Numeral.read_eq_ok_iff]
    exact ⟨id.toNat_lt, sign, zeros, hsign, by rw [toList_text]⟩

theorem Spelling.no_comma {id : ResourceId} {cs : List Char} (h : Spelling id cs) : ',' ∉ cs := by
  obtain ⟨left, sign, zeros, right, rfl, hleft, hsign, hright⟩ := h
  intro hc
  rcases List.mem_append.mp hc with hc | hc
  · rcases List.mem_append.mp hc with hc | hc
    · exact absurd (hleft _ hc) (by decide)
    · exact (not_blank_of_mem_spelling hsign hc).2 rfl
  · exact absurd (hright _ hc) (by decide)

@[simp] theorem read_text (id : ResourceId) : read id.text = .ok id := by
  refine read_eq_ok_iff.mpr ⟨[], [], 0, [], ?_, ?_, Or.inl rfl, ?_⟩
  · rw [List.replicate_zero, List.nil_append, List.nil_append, List.nil_append, List.append_nil]
  · exact fun c hc => absurd hc List.not_mem_nil
  · exact fun c hc => absurd hc List.not_mem_nil

end ResourceId

end GatedStore
