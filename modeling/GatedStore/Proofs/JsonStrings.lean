import GatedStore.Json.Strings
import GatedStore.Proofs.Utf8Text

namespace GatedStore.Json

open Text.Utf8

namespace Reader

theorem prepend_prepend (as bs : List UInt8) (r : Except Fault (List UInt8 × List UInt8)) :
    prepend as (prepend bs r) = prepend (as ++ bs) r := by
  cases r with
  | error f => rfl
  | ok p => simp [prepend]

def Plain (b : UInt8) : Prop :=
  b ≠ '"'.toUInt8 ∧ b ≠ '\\'.toUInt8 ∧ ¬ b < 0x20

theorem contents_plain {bs : List UInt8} (h : ∀ b ∈ bs, Plain b) (s : List UInt8) :
    contents .plain (bs ++ s) = prepend bs (contents .plain s) := by
  induction bs with
  | nil => cases h : contents .plain s <;> simp [prepend, h]
  | cons b bs ih =>
    obtain ⟨hquote, hslash, hlow⟩ := h b List.mem_cons_self
    have htail := ih fun b hb => h b (List.mem_cons_of_mem _ hb)
    rw [List.cons_append, contents, if_neg hquote, if_neg hslash, if_neg hlow, htail, prepend_prepend]
    rfl

theorem plain_of_mem_encodeChar {c : Char} (hquote : c ≠ '"') (hslash : c ≠ '\\') (hlow : 0x20 ≤ c.toNat)
    {b : UInt8} (hb : b ∈ encodeChar c) : Plain b := by
  have hplain : b.toNat ≠ 34 ∧ b.toNat ≠ 92 ∧ 0x20 ≤ b.toNat := by
    by_cases hc : c.toNat < 0x80
    · rw [encodeChar_ascii hc] at hb
      have hbc : b.toNat = c.toNat := by
        rw [List.mem_singleton.mp hb]
        exact toNat_charToUInt8 hc
      have hq : c.toNat ≠ 34 := fun h => hquote (Char.toNat_inj.mp h)
      have hs : c.toNat ≠ 92 := fun h => hslash (Char.toNat_inj.mp h)
      omega
    · have hhigh := le_of_mem_encodeChar (Nat.not_lt.mp hc) hb
      omega
  refine ⟨fun h => hplain.1 ?_, fun h => hplain.2.1 ?_, fun h => ?_⟩
  · rw [h]
    rfl
  · rw [h]
    rfl
  · have hlt : b.toNat < 0x20 := UInt8.lt_iff_toNat_lt.mp h
    omega

theorem hexValue?_control : ∀ n < 0x20, hexValue? 0 ['0'.toUInt8, '0'.toUInt8,
    (Nat.digitChar (n / 16)).toUInt8, (Nat.digitChar (n % 16)).toUInt8] = some n := by
  decide

theorem contents_control {n : Nat} (h : n < 0x20) (s : List UInt8) :
    contents .plain ('\\'.toUInt8 :: 'u'.toUInt8 :: '0'.toUInt8 :: '0'.toUInt8 ::
      (Nat.digitChar (n / 16)).toUInt8 :: (Nat.digitChar (n % 16)).toUInt8 :: s) =
      prepend (encodeChar (Char.ofNat n)) (contents .plain s) := by
  have hvalue := hexValue?_control n h
  have htrailing : isTrailing n = false := by
    simp only [isTrailing, Bool.and_eq_false_iff, decide_eq_false_iff_not]
    omega
  have hleading : isLeading n = false := by
    simp only [isLeading, Bool.and_eq_false_iff, decide_eq_false_iff_not]
    omega
  have hquote : '\\'.toUInt8 ≠ '"'.toUInt8 := by decide
  simp [contents, hquote, hvalue, htrailing, hleading]

theorem digitChar_ascii : ∀ d < 16, (Nat.digitChar d).toNat < 0x80 := by
  decide

theorem contents_escapeChar (c : Char) (s : List UInt8) :
    contents .plain (encode (escapeChar c) ++ s) = prepend (encodeChar c) (contents .plain s) := by
  unfold escapeChar
  split
  · rfl
  · rfl
  · rfl
  · rfl
  · rfl
  · rfl
  · rfl
  · rename_i hquote hslash _ _ _ _ _
    split
    · rename_i hlow
      have hbytes : encode ['\\', 'u', '0', '0', Nat.digitChar (c.toNat / 16), Nat.digitChar (c.toNat % 16)] =
          ['\\'.toUInt8, 'u'.toUInt8, '0'.toUInt8, '0'.toUInt8, (Nat.digitChar (c.toNat / 16)).toUInt8,
            (Nat.digitChar (c.toNat % 16)).toUInt8] := by
        apply encode_ascii
        have hhigh := digitChar_ascii (c.toNat / 16) (by omega)
        have hrest := digitChar_ascii (c.toNat % 16) (by omega)
        simp [hhigh, hrest]
      have hcontrol := contents_control hlow s
      rw [Char.ofNat_toNat] at hcontrol
      rw [hbytes]
      exact hcontrol
    · rename_i hlow
      have hself : encode [c] = encodeChar c := List.flatMap_singleton ..
      rw [hself]
      exact contents_plain (fun b hb => plain_of_mem_encodeChar hquote hslash (Nat.not_lt.mp hlow) hb) s

theorem contents_escape (cs : List Char) (s : List UInt8) :
    contents .plain (encode (cs.flatMap escapeChar) ++ '"'.toUInt8 :: s) = .ok (encode cs, s) := by
  induction cs with
  | nil => simp [contents, encode]
  | cons c cs ih =>
    rw [List.flatMap_cons, encode_append, List.append_assoc, contents_escapeChar, ih, encode_cons]
    rfl

theorem string_escape (t : String) (s : List UInt8) :
    string (encode (t.toList.flatMap escapeChar) ++ '"'.toUInt8 :: s) = .ok (t, s) := by
  simp only [string, contents_escape, bind, Except.bind, decode_encode, String.ofList_toList]

end Reader

theorem encode_stringChars (t : String) :
    encode (stringChars t) = '"'.toUInt8 :: (encode (t.toList.flatMap escapeChar) ++ ['"'.toUInt8]) := by
  rw [stringChars, List.cons_append, encode_cons, encode_append]
  rfl

end GatedStore.Json
