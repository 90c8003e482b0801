import GatedStore.Json.Fault

/-! Numbers in JSON texts. Whole numbers that fit in 64 bits are kept exactly; of all others as many
digits as fit in 64 bits are kept, and the rest of the value is a power of ten. -/

namespace GatedStore.Json.Reader

def isDigit (b : UInt8) : Bool :=
  '0'.toUInt8 ≤ b && b ≤ '9'.toUInt8

def digitValue (b : UInt8) : Nat :=
  b.toNat - '0'.toNat

def isExponentMark (b : UInt8) : Bool :=
  b == 'e'.toUInt8 || b == 'E'.toUInt8

def absorb (significand : Nat) : List UInt8 → Nat × Nat
  | [] => (significand, 0)
  | b :: s =>
    if 10 * significand + digitValue b < UInt64.size then absorb (10 * significand + digitValue b) s
    else (significand, s.length + 1)

def powerOfTen (n : Nat) : Float :=
  Float.ofScientific 1 false n

def scaleDown (x : Float) (exponent : Nat) : Float :=
  if exponent ≤ 308 then x / powerOfTen exponent
  else if x == 0.0 then x
  else scaleDown (x / powerOfTen 308) (exponent - 308)
termination_by exponent

def scale (x : Float) (exponent : Int) : Option Float :=
  if exponent < 0 then some (scaleDown x exponent.natAbs)
  else if exponent ≤ 308 then
    let y := x * powerOfTen exponent.natAbs
    if y.isInf then none else some y
  else if x == 0.0 then some x
  else none

def signed (negative : Bool) (x : Float) : Float :=
  if negative then -x else x

def floatOf (significand : Nat) : Float :=
  (UInt64.ofNat significand).toFloat

/-- A number without fraction and exponent. Zero with a sign is a float, and so is what is not exact. -/
def wholeNumber (negative : Bool) (significand : Nat) : Number :=
  let n : Int := if negative then -significand else significand
  if h : Number.Exact n then
    if negative && significand == 0 then .float (-0.0) else .integer n h
  else .float (signed negative (floatOf significand))

def scaledNumber (negative : Bool) (significand : Nat) (exponent : Int) : Reader Number := fun s =>
  match scale (floatOf significand) exponent with
  | some x => .ok (.float (signed negative x), s)
  | none => faultBefore .numberOutOfRange s

def exponentDigits (value : Nat) : List UInt8 → Except (List UInt8) (Nat × List UInt8)
  | [] => .ok (value, [])
  | b :: s =>
    if isDigit b then
      if 10 * value + digitValue b < 0x80000000 then exponentDigits (10 * value + digitValue b) s else .error s
    else .ok (value, b :: s)

def exponentSign : List UInt8 → Bool × List UInt8
  | [] => (false, [])
  | b :: s =>
    if b = '+'.toUInt8 then (false, s) else if b = '-'.toUInt8 then (true, s) else (false, b :: s)

def exponentPart (negative : Bool) (significand : Nat) (exponent : Int) : Reader Number := fun s =>
  let (down, s) := exponentSign s
  match s with
  | [] => faultBefore .endInValue []
  | b :: s' =>
    if isDigit b then
      match exponentDigits 0 s with
      | .ok (e, s) => scaledNumber negative significand (if down then exponent - e else exponent + e) s
      | .error s =>
        if significand ≠ 0 ∧ down = false then faultBefore .numberOutOfRange s
        else .ok (.float (signed negative 0.0), s.dropWhile isDigit)
    else faultBefore .invalidNumber s'

def afterFraction (negative : Bool) (significand : Nat) (exponent : Int) : Reader Number
  | [] => scaledNumber negative significand exponent []
  | b :: s =>
    if isExponentMark b then exponentPart negative significand exponent s
    else scaledNumber negative significand exponent (b :: s)

def fractionPart (negative : Bool) (significand leftOver : Nat) : Reader Number := fun s =>
  let digits := s.takeWhile isDigit
  let rest := s.dropWhile isDigit
  if digits.isEmpty then (if rest.isEmpty then faultBefore .endInValue [] else faultAt .invalidNumber rest)
  else
    let (significand, ignored) := absorb significand digits
    afterFraction negative significand ((leftOver : Int) - (digits.length - ignored : Nat)) rest

def afterWhole (negative : Bool) (significand leftOver : Nat) : Reader Number := fun s =>
  match s with
  | b :: s' =>
    if b = '.'.toUInt8 then fractionPart negative significand leftOver s'
    else if isExponentMark b then exponentPart negative significand leftOver s'
    else if leftOver = 0 then .ok (wholeNumber negative significand, s)
    else scaledNumber negative significand leftOver s
  | [] =>
    if leftOver = 0 then .ok (wholeNumber negative significand, s)
    else scaledNumber negative significand leftOver s

def number (negative : Bool) : Reader Number
  | [] => faultBefore .endInValue []
  | b :: s =>
    if b = '0'.toUInt8 then
      if (s.head?.map isDigit).getD false then faultAt .invalidNumber s else afterWhole negative 0 0 s
    else if isDigit b then
      let (significand, leftOver) := absorb 0 (b :: s.takeWhile isDigit)
      afterWhole negative significand leftOver (s.dropWhile isDigit)
    else faultBefore .invalidNumber s

end GatedStore.Json.Reader
