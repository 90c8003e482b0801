namespace GatedStore.Text

inductive NumeralError
  | empty
  | invalidDigit
  | tooLarge
  deriving DecidableEq, Repr

def NumeralError.message : NumeralError → String
  | .empty => "cannot parse integer from empty string"
  | .invalidDigit => "invalid digit found in string"
  | .tooLarge => "number too large to fit in target type"

namespace Numeral

def bound : Nat := UInt64.size

def digit? (c : Char) : Option Nat :=
  if '0' ≤ c ∧ c ≤ '9' then some (c.toNat - '0'.toNat) else none

def digits (value : Nat) : List Char → Except NumeralError Nat
  | [] => .ok value
  | c :: cs =>
    match digit? c with
    | none => .error .invalidDigit
    | some d => if 10 * value + d < bound then digits (10 * value + d) cs else .error .tooLarge

def read : List Char → Except NumeralError Nat
  | [] => .error .empty
  | ['+'] => .error .invalidDigit
  | '+' :: cs => digits 0 cs
  | cs => digits 0 cs

theorem digits_lt {value n : Nat} {cs : List Char} (hv : value < bound)
    (h : digits value cs = .ok n) : n < bound := by
  induction cs generalizing value with
  | nil =>
    simp only [digits, Except.ok.injEq] at h
    omega
  | cons c cs ih =>
    simp only [digits] at h
    split at h
    · cases h
    · split at h
      · rename_i hlt
        exact ih hlt h
      · cases h

theorem read_lt {n : Nat} {cs : List Char} (h : read cs = .ok n) : n < bound := by
  have hz : 0 < bound := by decide
  unfold read at h
  split at h
  · cases h
  · cases h
  · exact digits_lt hz h
  · exact digits_lt hz h

end Numeral

end GatedStore.Text
