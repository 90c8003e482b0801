import GatedStore.Json.Numbers
import GatedStore.Proofs.IdText
import GatedStore.Proofs.Utf8Text

namespace GatedStore.Json

open Text.Utf8

namespace Reader

theorem toNat_of_isDigit {c : Char} (h : c.isDigit = true) :
    48 ≤ c.toNat ∧ c.toNat ≤ 57 ∧ c.toUInt8.toNat = c.toNat := by
  simp only [Char.isDigit, Bool.and_eq_true, decide_eq_true_eq] at h
  have hlow : 48 ≤ c.toNat := h.1
  have hhigh : c.toNat ≤ 57 := h.2
  exact ⟨hlow, hhigh, toNat_charToUInt8 (by omega)⟩

theorem isDigit_toUInt8 {c : Char} (h : c.isDigit = true) : isDigit c.toUInt8 = true := by
  obtain ⟨hlow, hhigh, hbyte⟩ := toNat_of_isDigit h
  rw [isDigit, Bool.and_eq_true, decide_eq_true_eq, decide_eq_true_eq, UInt8.le_iff_toNat_le,
    UInt8.le_iff_toNat_le, hbyte]
  exact ⟨hlow, hhigh⟩

theorem digitValue_toUInt8 {c : Char} (h : c.isDigit = true) : digitValue c.toUInt8 = c.toNat - '0'.toNat := by
  rw [digitValue, (toNat_of_isDigit h).2.2]

theorem encode_digits {cs : List Char} (h : ∀ c ∈ cs, c.isDigit = true) : encode cs = cs.map Char.toUInt8 := by
  apply encode_ascii
  intro c hc
  obtain ⟨-, hhigh, -⟩ := toNat_of_isDigit (h c hc)
  omega

theorem ne_of_isDigit {b c : UInt8} (h : isDigit b = true) (hc : isDigit c = false) : b ≠ c := by
  rintro rfl
  rw [h] at hc
  cases hc

theorem absorb_digits {cs : List Char} {value : Nat} (hd : ∀ c ∈ cs, c.isDigit = true)
    (hb : Nat.ofDigitChars 10 cs value < UInt64.size) :
    absorb value (cs.map Char.toUInt8) = (Nat.ofDigitChars 10 cs value, 0) := by
  induction cs generalizing value with
  | nil => simp [absorb]
  | cons c cs ih =>
    have hc := digitValue_toUInt8 (hd c List.mem_cons_self)
    rw [Nat.ofDigitChars_cons] at hb ⊢
    have hlt := Text.Numeral.lt_of_ofDigitChars_lt hb
    rw [List.map_cons, absorb, hc, if_pos hlt]
    exact ih (fun d hdm => hd d (List.mem_cons_of_mem _ hdm)) hb

def Stops (s : List UInt8) : Prop :=
  ∀ b ∈ s.head?, isDigit b = false ∧ b ≠ '.'.toUInt8 ∧ isExponentMark b = false

theorem stops_nil : Stops [] :=
  fun b hb => by cases hb

theorem Stops.takeWhile {s : List UInt8} (h : Stops s) : s.takeWhile isDigit = [] := by
  cases s with
  | nil => rfl
  | cons b s => simp [(h b rfl).1]

theorem Stops.dropWhile {s : List UInt8} (h : Stops s) : s.dropWhile isDigit = s := by
  cases s with
  | nil => rfl
  | cons b s => simp [(h b rfl).1]

theorem afterWhole_of_stops {s : List UInt8} (h : Stops s) (negative : Bool) (significand : Nat) :
    afterWhole negative significand 0 s = .ok (wholeNumber negative significand, s) := by
  cases s with
  | nil => rfl
  | cons b s =>
    obtain ⟨-, hpoint, hmark⟩ := h b rfl
    simp [afterWhole, hpoint, hmark]

theorem exists_toDigits_eq_cons {n : Nat} (hn : 0 < n) : ∃ c cs, Nat.toDigits 10 n = c :: cs ∧ c ≠ '0' := by
  have hdigit : ∀ d < 10, 0 < d → Nat.digitChar d ≠ '0' := by decide
  induction n using Nat.strongRecOn with
  | ind n ih =>
    rw [Nat.toDigits_eq_if (by decide)]
    split
    · rename_i hlt
      exact ⟨_, [], rfl, hdigit n hlt hn⟩
    · obtain ⟨c, cs, hcs, hc⟩ := ih (n / 10) (by omega) (by omega)
      exact ⟨c, cs ++ [Nat.digitChar (n % 10)], by rw [hcs]; rfl, hc⟩

theorem exists_encode_toDigits (n : Nat) : ∃ b bs, encode (Nat.toDigits 10 n) = b :: bs ∧ isDigit b = true := by
  have hd : ∀ c ∈ Nat.toDigits 10 n, c.isDigit = true :=
    fun c hc => Nat.isDigit_of_mem_toDigits (by decide) (by decide) hc
  have hne : Nat.toDigits 10 n ≠ [] := Nat.toDigits_ne_nil
  obtain ⟨c, cs, hcs⟩ := List.exists_cons_of_ne_nil hne
  refine ⟨c.toUInt8, cs.map Char.toUInt8, ?_, isDigit_toUInt8 (hd c (hcs ▸ List.mem_cons_self))⟩
  rw [encode_digits hd, hcs, List.map_cons]

theorem number_digits {n : Nat} (hn : n < UInt64.size) (negative : Bool) {s : List UInt8} (hs : Stops s) :
    number negative (encode (Nat.toDigits 10 n) ++ s) = .ok (wholeNumber negative n, s) := by
  have hd : ∀ c ∈ Nat.toDigits 10 n, c.isDigit = true :=
    fun c hc => Nat.isDigit_of_mem_toDigits (by decide) (by decide) hc
  have hvalue : Nat.ofDigitChars 10 (Nat.toDigits 10 n) 0 = n := Nat.ofDigitChars_ten_toDigits
  have hbytes : ∀ b ∈ (Nat.toDigits 10 n).map Char.toUInt8, isDigit b = true := by
    intro b hb
    obtain ⟨c, hc, rfl⟩ := List.mem_map.mp hb
    exact isDigit_toUInt8 (hd c hc)
  rw [encode_digits hd]
  rcases Nat.eq_zero_or_pos n with rfl | hpos
  · have hfirst : (s.head?.map isDigit).getD false = false := by
      cases s with
      | nil => rfl
      | cons b s => exact (hs b rfl).1
    rw [Nat.toDigits_zero, List.map_cons, List.map_nil, List.singleton_append, number, if_pos rfl, hfirst]
    exact afterWhole_of_stops hs negative 0
  · have habsorb := absorb_digits hd (by rw [hvalue]; exact hn)
    have htake : ((Nat.toDigits 10 n).map Char.toUInt8 ++ s).takeWhile isDigit =
        (Nat.toDigits 10 n).map Char.toUInt8 ++ s.takeWhile isDigit := List.takeWhile_append_of_pos hbytes
    have hdrop : ((Nat.toDigits 10 n).map Char.toUInt8 ++ s).dropWhile isDigit = s.dropWhile isDigit :=
      List.dropWhile_append_of_pos hbytes
    obtain ⟨c, cs, hcs, hc⟩ := exists_toDigits_eq_cons hpos
    rw [hvalue] at habsorb
    rw [hs.takeWhile, List.append_nil] at htake
    rw [hs.dropWhile] at hdrop
    rw [hcs, List.map_cons] at habsorb htake hdrop hbytes ⊢
    have hfirst : isDigit c.toUInt8 = true := hbytes _ List.mem_cons_self
    have hzero : c.toUInt8 ≠ '0'.toUInt8 := by
      intro h
      have hdigit := toNat_of_isDigit (hd c (hcs ▸ List.mem_cons_self))
      have hcode := congrArg UInt8.toNat h
      rw [hdigit.2.2] at hcode
      exact hc (Char.toNat_inj.mp hcode)
    rw [List.cons_append, List.takeWhile_cons, if_pos hfirst] at htake
    rw [List.cons_append, List.dropWhile_cons, if_pos hfirst] at hdrop
    rw [List.cons_append, number, if_neg hzero, if_pos hfirst, htake, hdrop, habsorb]
    exact afterWhole_of_stops hs negative n

theorem wholeNumber_of_nat {n : Nat} (h : Number.Exact n) : wholeNumber false n = .integer n h := by
  simp only [wholeNumber, Bool.false_eq_true, if_false, dif_pos h, Bool.false_and]

theorem wholeNumber_of_neg {n : Nat} (hn : 0 < n) (h : Number.Exact (-n)) :
    wholeNumber true n = .integer (-n) h := by
  have hne : (n == 0) = false := by simp; omega
  simp only [wholeNumber, if_true, dif_pos h, Bool.true_and, hne, Bool.false_eq_true, if_false]

end Reader

end GatedStore.Json
