/-! The shortest decimal that reads back as a given binary fraction, found with whole numbers only. -/

namespace GatedStore.Decimal

inductive Tie
  | even
  | up
  deriving DecidableEq

structure Digits where
  significand : Nat
  exponent : Int
  deriving DecidableEq, Repr

/-- The interval of all values that are read as `value / unit`; its ends belong to it when `closed`. -/
structure Interval where
  low : Nat
  value : Nat
  high : Nat
  unit : Nat
  closed : Bool

def Interval.scaleUp (i : Interval) (k : Nat) : Interval :=
  { i with low := i.low * k, value := i.value * k, high := i.high * k }

def Interval.scaleDown (i : Interval) (k : Nat) : Interval :=
  { i with unit := i.unit * k }

def Interval.onGrid (i : Interval) (exponent : Int) : Interval :=
  if exponent ≤ 0 then i.scaleUp (Nat.pow 10 exponent.natAbs)
  else i.scaleDown (Nat.pow 10 exponent.natAbs)

def Interval.contains (i : Interval) (n : Nat) : Bool :=
  if i.closed then i.low ≤ n * i.unit && n * i.unit ≤ i.high
  else i.low < n * i.unit && n * i.unit < i.high

def Interval.nearest (i : Interval) (tie : Tie) : Option Nat :=
  let below := i.value / i.unit
  let rest := 2 * (i.value % i.unit)
  match i.contains below, i.contains (below + 1) with
  | true, true =>
    if rest < i.unit then some below
    else if i.unit < rest then some (below + 1)
    else
      match tie with
      | .up => some (below + 1)
      | .even => some (if below % 2 = 0 then below else below + 1)
  | true, false => some below
  | false, true => some (below + 1)
  | false, false => none

def digitCount (n : Nat) : Nat :=
  (Nat.toDigits 10 n).length

def Interval.magnitude (i : Interval) : Int :=
  if i.unit ≤ i.value then digitCount (i.value / i.unit)
  else 1 - digitCount ((i.unit + i.value - 1) / i.value - 1)

def Interval.search (i : Interval) (tie : Tie) (exponent : Int) : Nat → Digits
  | 0 => ⟨i.value / i.unit, 0⟩
  | fuel + 1 =>
    match (i.onGrid exponent).nearest tie with
    | some n => ⟨n, exponent⟩
    | none => i.search tie (exponent - 1) fuel

def Digits.normalize (d : Digits) : Digits :=
  let zeros := ((Nat.toDigits 10 d.significand).reverse.takeWhile (· == '0')).length
  ⟨d.significand / Nat.pow 10 zeros, d.exponent + zeros⟩

def Interval.shortest (i : Interval) (tie : Tie) : Digits :=
  (i.search tie (i.magnitude - 1) 20).normalize

/-- The values read as `significand * 2 ^ exponent`: half the way to either neighbour. Below a power
of two the neighbour is only half as far. -/
def Interval.ofBinary (significand : Nat) (exponent : Int) (powerOfTwo : Bool) : Interval :=
  let low := if powerOfTwo then 4 * significand - 1 else 4 * significand - 2
  let i : Interval := ⟨low, 4 * significand, 4 * significand + 2, 4, significand % 2 == 0⟩
  if 0 ≤ exponent then i.scaleUp (Nat.pow 2 exponent.natAbs) else i.scaleDown (Nat.pow 2 exponent.natAbs)

inductive Binary
  | nan
  | infinite (negative : Bool)
  | zero (negative : Bool)
  | finite (negative : Bool) (interval : Interval)

def hiddenBit : Nat := 0x10000000000000

def Binary.ofBits (bits : Nat) : Binary :=
  let negative : Bool := bits / 0x8000000000000000 % 2 == 1
  let field : Nat := bits / hiddenBit % 0x800
  let fraction : Nat := bits % hiddenBit
  if field = 2047 then (if fraction = 0 then .infinite negative else .nan)
  else if field = 0 then
    if fraction = 0 then .zero negative else .finite negative (.ofBinary fraction (-1074) false)
  else
    let powerOfTwo := decide (fraction = 0 ∧ field ≠ 1)
    .finite negative (.ofBinary (hiddenBit + fraction) ((field : Int) - 1075) powerOfTwo)

def Binary.ofFloat (x : Float) : Binary :=
  .ofBits x.toBits.toNat

end GatedStore.Decimal
