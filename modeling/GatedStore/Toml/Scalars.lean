import GatedStore.Toml.Moment

namespace GatedStore.Toml

def unsign : List Char → Bool × List Char
  | '-' :: cs => (true, cs)
  | '+' :: cs => (false, cs)
  | cs => (false, cs)

def withSign (negative : Bool) (n : Nat) : Int :=
  if negative then -n else n

def wholeDigits? (cs : List Char) : Option (List Nat) := do
  let ds ← digits? 10 cs
  if ds.head? = some 0 ∧ 1 < ds.length then none else some ds

def fitsWord (n : Int) : Bool :=
  -0x8000000000000000 ≤ n && n < 0x8000000000000000

def inRange (n : Int) : Option Toml :=
  if fitsWord n then some (.integer n) else none

def integer? : List Char → Option Toml
  | '0' :: 'x' :: cs => (digits? 16 cs).bind fun ds => inRange (valueOf 16 ds)
  | '0' :: 'o' :: cs => (digits? 8 cs).bind fun ds => inRange (valueOf 8 ds)
  | '0' :: 'b' :: cs => (digits? 2 cs).bind fun ds => inRange (valueOf 2 ds)
  | cs => do
    let (negative, cs) := unsign cs
    let ds ← wholeDigits? cs
    inRange (withSign negative (valueOf 10 ds))

def infinity : Float := 1.0 / 0.0

def scaled (n : Nat) (digits : Nat) (exponent : Int) : Float :=
  if n = 0 then 0.0
  else if 400 < exponent + digits then infinity
  else if exponent + digits < -400 then 0.0
  else Float.ofScientific n (decide (exponent < 0)) exponent.natAbs

def isExponentMark (c : Char) : Bool :=
  c == 'e' || c == 'E'

def exponent? : List Char → Option Int
  | [] => some 0
  | _ :: cs => do
    let (negative, cs) := unsign cs
    let ds ← digits? 10 cs
    some (withSign negative (valueOf 10 ds))

def decimal? (cs : List Char) : Option Toml := do
  let (negative, cs) := unsign cs
  let mantissa := cs.takeWhile fun c => !isExponentMark c
  let exponent ← exponent? (cs.dropWhile fun c => !isExponentMark c)
  let whole ← wholeDigits? (mantissa.takeWhile (· ≠ '.'))
  let fraction ←
    match mantissa.dropWhile (· ≠ '.') with
    | [] => if mantissa.length = cs.length then none else some []
    | _ :: cs => digits? 10 cs
  let ds := (whole ++ fraction).dropWhile (· == 0)
  let x := scaled (valueOf 10 ds) ds.length (exponent - fraction.length)
  if negative then some (.float (-x)) else if x.isInf then none else some (.float x)

def special? (cs : List Char) : Option Toml :=
  let (negative, word) := unsign cs
  if word = ['i', 'n', 'f'] then some (.float (if negative then -infinity else infinity))
  else if word = ['n', 'a', 'n'] then some (.float (0.0 / 0.0))
  else none

def number? (cs : List Char) : Option Toml :=
  integer? cs <|> special? cs <|> decimal? cs

def word? (cs : List Char) : Option Toml :=
  if cs = ['t', 'r', 'u', 'e'] then some (.bool true)
  else if cs = ['f', 'a', 'l', 's', 'e'] then some (.bool false)
  else (momentText? cs).map .moment <|> number? cs

end GatedStore.Toml
