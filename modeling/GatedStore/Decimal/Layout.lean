import GatedStore.Decimal.Shortest

/-! How floating point numbers are written: a record of the choices and the writer that follows them. -/

namespace GatedStore.Decimal

/-- `scientific e` holds when a number between `10 ^ e` and `10 ^ (e + 1)` is written with an exponent. -/
structure Layout where
  scientific : Int → Bool
  pointZero : Bool
  tie : Tie
  nan : String
  infinity : String

namespace Layout

def zeros (n : Nat) : List Char :=
  List.replicate n '0'

def signed (negative : Bool) (cs : List Char) : List Char :=
  if negative then '-' :: cs else cs

def whole (n : Layout) (cs : List Char) : List Char :=
  if n.pointZero then cs ++ ['.', '0'] else cs

def positional (n : Layout) (digits : List Char) (point : Int) : List Char :=
  if point ≤ 0 then '0' :: '.' :: zeros point.natAbs ++ digits
  else if digits.length ≤ point.toNat then n.whole (digits ++ zeros (point.toNat - digits.length))
  else digits.take point.toNat ++ '.' :: digits.drop point.toNat

def withExponent (digits : List Char) (exponent : Int) : List Char :=
  let mantissa :=
    match digits with
    | d :: ds@(_ :: _) => d :: '.' :: ds
    | ds => ds
  mantissa ++ ['e', if exponent < 0 then '-' else '+'] ++ Nat.toDigits 10 exponent.natAbs

def writeDigits (n : Layout) (d : Digits) : List Char :=
  let digits := Nat.toDigits 10 d.significand
  let point := d.exponent + digits.length
  if n.scientific (point - 1) then withExponent digits (point - 1) else n.positional digits point

def writeBinary (n : Layout) : Binary → List Char
  | .nan => n.nan.toList
  | .infinite negative => signed negative n.infinity.toList
  | .zero negative => signed negative (n.whole ['0'])
  | .finite negative i => signed negative (n.writeDigits (i.shortest n.tie))

def write (n : Layout) (x : Float) : List Char :=
  n.writeBinary (.ofFloat x)

end Layout

end GatedStore.Decimal
