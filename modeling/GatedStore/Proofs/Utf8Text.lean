import GatedStore.Text.Utf8

namespace GatedStore.Text.Utf8

theorem toNat_toUInt8 {n : Nat} (h : n < 0x100) : n.toUInt8.toNat = n := by
  simp only [Nat.toUInt8_eq, UInt8.toNat_ofNat']
  omega

theorem toNat_cases (c : Char) : c.toNat < 0xD800 ∨ 0xDFFF < c.toNat ∧ c.toNat < 0x110000 :=
  c.valid

section Decoding

variable {a b c d : UInt8}

theorem isTail_iff : isTail b = true ↔ 0x80 ≤ b.toNat ∧ b.toNat ≤ 0xBF := by
  simp [isTail, UInt8.le_iff_toNat_le]

theorem isPair_iff : isPair a b = true ↔ 0xC2 ≤ a.toNat ∧ a.toNat ≤ 0xDF ∧ isTail b = true := by
  simp [isPair, UInt8.le_iff_toNat_le, and_assoc]

theorem isTriple_iff : isTriple a b c = true ↔ isTail c = true ∧
    (a.toNat = 0xE0 ∧ 0xA0 ≤ b.toNat ∧ b.toNat ≤ 0xBF ∨ 0xE1 ≤ a.toNat ∧ a.toNat ≤ 0xEC ∧ isTail b = true ∨
      a.toNat = 0xED ∧ 0x80 ≤ b.toNat ∧ b.toNat ≤ 0x9F ∨ 0xEE ≤ a.toNat ∧ a.toNat ≤ 0xEF ∧ isTail b = true) := by
  simp [isTriple, UInt8.le_iff_toNat_le, ← UInt8.toNat_inj, and_assoc, or_assoc]

theorem isQuadruple_iff : isQuadruple a b c d = true ↔ isTail c = true ∧ isTail d = true ∧
    (a.toNat = 0xF0 ∧ 0x90 ≤ b.toNat ∧ b.toNat ≤ 0xBF ∨ 0xF1 ≤ a.toNat ∧ a.toNat ≤ 0xF3 ∧ isTail b = true ∨
      a.toNat = 0xF4 ∧ 0x80 ≤ b.toNat ∧ b.toNat ≤ 0x8F) := by
  simp [isQuadruple, UInt8.le_iff_toNat_le, ← UInt8.toNat_inj, and_assoc, or_assoc]

theorem not_lt_of_high (h : 0x80 ≤ a.toNat) : ¬ a < 0x80 := by
  rw [UInt8.lt_iff_toNat_lt]
  exact Nat.not_lt.mpr h

theorem decodeFrom_one (h : a.toNat < 0x80) (start : Nat) (s : List UInt8) :
    decodeFrom start (a :: s) = (Char.ofNat a.toNat :: ·) <$> decodeFrom (start + 1) s := by
  have ha : a < 0x80 := UInt8.lt_iff_toNat_lt.mpr h
  rw [decodeFrom.eq_def]
  simp only [if_pos ha]

theorem decodeFrom_pair (h : isPair a b = true) (start : Nat) (s : List UInt8) :
    decodeFrom start (a :: b :: s) = (pair a b :: ·) <$> decodeFrom (start + 2) s := by
  have hhigh := (isPair_iff.mp h).1
  rw [decodeFrom.eq_def]
  simp only [if_neg (not_lt_of_high (a := a) (by omega)), if_pos h]

theorem decodeFrom_triple (h : isTriple a b c = true) (start : Nat) (s : List UInt8) :
    decodeFrom start (a :: b :: c :: s) = (triple a b c :: ·) <$> decodeFrom (start + 3) s := by
  have hhigh : 0xE0 ≤ a.toNat := by
    rcases (isTriple_iff.mp h).2 with h | h | h | h <;> omega
  have hpair : ¬ isPair a b = true := by
    rw [isPair_iff]
    omega
  rw [decodeFrom.eq_def]
  simp only [if_neg (not_lt_of_high (a := a) (by omega)), if_neg hpair, if_pos h]

theorem decodeFrom_quadruple (h : isQuadruple a b c d = true) (start : Nat) (s : List UInt8) :
    decodeFrom start (a :: b :: c :: d :: s) = (quadruple a b c d :: ·) <$> decodeFrom (start + 4) s := by
  have hhigh : 0xF0 ≤ a.toNat := by
    rcases (isQuadruple_iff.mp h).2.2 with h | h | h <;> omega
  have hpair : ¬ isPair a b = true := by
    rw [isPair_iff]
    omega
  have htriple : ¬ isTriple a b c = true := by
    rw [isTriple_iff]
    omega
  rw [decodeFrom.eq_def]
  simp only [if_neg (not_lt_of_high (a := a) (by omega)), if_neg hpair, if_neg htriple, if_pos h]

end Decoding

@[simp] theorem encodeChar_ascii {c : Char} (h : c.toNat < 0x80) : encodeChar c = [c.toUInt8] := by
  simp only [encodeChar, if_pos h]
  rfl

theorem toNat_charToUInt8 {c : Char} (h : c.toNat < 0x80) : c.toUInt8.toNat = c.toNat := by
  have hbyte : c.toUInt8.toNat = c.toNat % 2 ^ 8 := UInt32.toNat_toUInt8 c.val
  omega

@[simp] theorem encode_cons (c : Char) (cs : List Char) : encode (c :: cs) = encodeChar c ++ encode cs :=
  List.flatMap_cons

@[simp] theorem encode_append (cs ds : List Char) : encode (cs ++ ds) = encode cs ++ encode ds :=
  List.flatMap_append

theorem encode_ascii {cs : List Char} (h : ∀ c ∈ cs, c.toNat < 0x80) : encode cs = cs.map Char.toUInt8 := by
  induction cs with
  | nil => rfl
  | cons c cs ih =>
    have htail := ih fun d hd => h d (List.mem_cons_of_mem _ hd)
    rw [encode_cons, encodeChar_ascii (h c List.mem_cons_self), htail]
    rfl

theorem le_of_mem_encodeChar {c : Char} (h : 0x80 ≤ c.toNat) {b : UInt8} (hb : b ∈ encodeChar c) :
    0x80 ≤ b.toNat := by
  have hc := toNat_cases c
  simp only [encodeChar, if_neg (Nat.not_lt.mpr h)] at hb
  split at hb
  · simp only [List.mem_cons, List.not_mem_nil, or_false] at hb
    rcases hb with rfl | rfl <;> rw [toNat_toUInt8] <;> omega
  · split at hb
    · simp only [List.mem_cons, List.not_mem_nil, or_false] at hb
      rcases hb with rfl | rfl | rfl <;> rw [toNat_toUInt8] <;> omega
    · simp only [List.mem_cons, List.not_mem_nil, or_false] at hb
      rcases hb with rfl | rfl | rfl | rfl <;> rw [toNat_toUInt8] <;> omega

theorem pair_of_toNat {a b : UInt8} {n : Nat} (hlow : 0x80 ≤ n) (hn : n < 0x800) (ha : a.toNat = 0xC0 + n / 0x40)
    (hb : b.toNat = 0x80 + n % 0x40) : isPair a b = true ∧ pair a b = Char.ofNat n := by
  have hvalue : 0x40 * payload a 0xC0 + payload b 0x80 = n := by
    simp only [payload]
    omega
  rw [isPair_iff, isTail_iff, pair, hvalue]
  exact ⟨by omega, rfl⟩

theorem triple_of_toNat {a b c : UInt8} {n : Nat} (hlow : 0x800 ≤ n) (hn : n < 0xD800 ∨ 0xDFFF < n ∧ n < 0x10000)
    (ha : a.toNat = 0xE0 + n / 0x1000) (hb : b.toNat = 0x80 + n / 0x40 % 0x40) (hc : c.toNat = 0x80 + n % 0x40) :
    isTriple a b c = true ∧ triple a b c = Char.ofNat n := by
  have hvalue : 0x1000 * payload a 0xE0 + 0x40 * payload b 0x80 + payload c 0x80 = n := by
    simp only [payload]
    omega
  rw [isTriple_iff, isTail_iff, isTail_iff, triple, hvalue]
  exact ⟨by omega, rfl⟩

theorem quadruple_of_toNat {a b c d : UInt8} {n : Nat} (hlow : 0x10000 ≤ n) (hn : n < 0x110000)
    (ha : a.toNat = 0xF0 + n / 0x40000) (hb : b.toNat = 0x80 + n / 0x1000 % 0x40)
    (hc : c.toNat = 0x80 + n / 0x40 % 0x40) (hd : d.toNat = 0x80 + n % 0x40) :
    isQuadruple a b c d = true ∧ quadruple a b c d = Char.ofNat n := by
  have hvalue : 0x40000 * payload a 0xF0 + 0x1000 * payload b 0x80 + 0x40 * payload c 0x80 + payload d 0x80 = n := by
    simp only [payload]
    omega
  rw [isQuadruple_iff, isTail_iff, isTail_iff, isTail_iff, quadruple, hvalue]
  exact ⟨by omega, rfl⟩

theorem decodeFrom_encodeChar (c : Char) (start : Nat) (s : List UInt8) :
    ∃ next, decodeFrom start (encodeChar c ++ s) = (c :: ·) <$> decodeFrom next s := by
  have hc := toNat_cases c
  have hback : Char.ofNat c.toNat = c := Char.ofNat_toNat c
  simp only [encodeChar]
  generalize c.toNat = n at hc hback
  subst hback
  split
  · have ha : n.toUInt8.toNat = n := toNat_toUInt8 (by omega)
    refine ⟨start + 1, ?_⟩
    rw [List.singleton_append, decodeFrom_one (by omega), ha]
  · split
    · obtain ⟨hpair, hvalue⟩ := pair_of_toNat (n := n) (by omega) (by omega) (toNat_toUInt8 (by omega))
        (toNat_toUInt8 (by omega))
      exact ⟨start + 2, hvalue ▸ decodeFrom_pair hpair start s⟩
    · split
      · obtain ⟨htriple, hvalue⟩ := triple_of_toNat (n := n) (by omega) (by omega) (toNat_toUInt8 (by omega))
          (toNat_toUInt8 (by omega)) (toNat_toUInt8 (by omega))
        exact ⟨start + 3, hvalue ▸ decodeFrom_triple htriple start s⟩
      · obtain ⟨hquadruple, hvalue⟩ := quadruple_of_toNat (n := n) (by omega) (by omega) (toNat_toUInt8 (by omega))
          (toNat_toUInt8 (by omega)) (toNat_toUInt8 (by omega)) (toNat_toUInt8 (by omega))
        exact ⟨start + 4, hvalue ▸ decodeFrom_quadruple hquadruple start s⟩

theorem decodeFrom_encode (cs : List Char) (start : Nat) : decodeFrom start (encode cs) = .ok cs := by
  induction cs generalizing start with
  | nil => rfl
  | cons c cs ih =>
    obtain ⟨next, hstep⟩ := decodeFrom_encodeChar c start (encode cs)
    rw [encode_cons, hstep, ih]
    rfl

theorem decode_encode (cs : List Char) : decode (encode cs) = .ok cs :=
  decodeFrom_encode cs 0

end GatedStore.Text.Utf8
