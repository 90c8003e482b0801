import GatedStore.Json.Reader

/-! Passing over a value that nobody asked for. Only its syntax is looked at: it may nest containers to any
depth, and its numbers and strings need not stand for anything. -/

namespace GatedStore.Json.Reader

def skipDigits (s : List UInt8) : List UInt8 :=
  s.dropWhile isDigit

def skipExponent (s : List UInt8) : Except Fault (List UInt8) :=
  match (exponentSign s).2 with
  | [] => faultBefore .invalidNumber []
  | b :: s => if isDigit b then .ok (skipDigits s) else faultBefore .invalidNumber s

def skipFraction (s : List UInt8) : Except Fault (List UInt8) :=
  let rest := skipDigits s
  if rest.length = s.length then faultAt .invalidNumber rest
  else
    match rest with
    | b :: s => if isExponentMark b then skipExponent s else .ok rest
    | [] => .ok []

def skipAfterWhole : List UInt8 → Except Fault (List UInt8)
  | [] => .ok []
  | b :: s =>
    if b = '.'.toUInt8 then skipFraction s
    else if isExponentMark b then skipExponent s
    else .ok (b :: s)

def skipNumber : List UInt8 → Except Fault (List UInt8)
  | [] => faultBefore .invalidNumber []
  | b :: s =>
    if b = '0'.toUInt8 then
      if (s.head?.map isDigit).getD false then faultAt .invalidNumber s else skipAfterWhole s
    else if isDigit b then skipAfterWhole (skipDigits s)
    else faultBefore .invalidNumber s

inductive SkipMode
  | plain
  | escape
  | hex (digits : List UInt8)

def skipString : SkipMode → List UInt8 → Except Fault (List UInt8)
  | _, [] => faultBefore .endInString []
  | .plain, b :: s =>
    if b = '"'.toUInt8 then .ok s
    else if b = '\\'.toUInt8 then skipString .escape s
    else if b < 0x20 then faultBefore .controlCharacter (b :: s)
    else skipString .plain s
  | .escape, b :: s =>
    if b = 'u'.toUInt8 then skipString (.hex []) s
    else if (simpleEscape? b).isSome then skipString .plain s
    else faultBefore .invalidEscape s
  | .hex digits, b :: s =>
    if digits.length < 3 then skipString (.hex (digits ++ [b])) s
    else if (hexValue? 0 (digits ++ [b])).isSome then skipString .plain s
    else faultBefore .invalidEscape s

inductive Open
  | list
  | object
  deriving DecidableEq

def Open.closer : Open → UInt8
  | .list => ']'.toUInt8
  | .object => '\x7d'.toUInt8

def Open.endFault : Open → Cause
  | .list => .endInList
  | .object => .endInObject

def Open.commaFault : Open → Cause
  | .list => .expectedListEnd
  | .object => .expectedObjectEnd

def Open.next (o : Open) (s : List UInt8) : Except Fault (List UInt8) :=
  match o with
  | .list => .ok s
  | .object =>
    match skipBlanks s with
    | [] => faultBefore .endInObject []
    | b :: s =>
      if b = '"'.toUInt8 then do
        let s ← skipString .plain s
        colon s
      else faultBefore .keyMustBeString s

def leave : List Open → List UInt8 → Except Fault (List Open × List UInt8)
  | [], s => .ok ([], s)
  | o :: stack, s =>
    match skipBlanks s with
    | [] => faultBefore o.endFault []
    | b :: s =>
      if b = ','.toUInt8 then (o :: stack, ·) <$> o.next s
      else if b = o.closer then leave stack s
      else faultBefore o.commaFault s

def enter (o : Open) (stack : List Open) (s : List UInt8) : Except Fault (List Open × List UInt8) :=
  match skipBlanks s with
  | [] => faultBefore o.endFault []
  | b :: s => if b = o.closer then leave stack s else (o :: stack, ·) <$> o.next (b :: s)

def skipStep (stack : List Open) (s : List UInt8) : Except Fault (List Open × List UInt8) :=
  match skipBlanks s with
  | [] => faultBefore .endInValue []
  | b :: s =>
    if b = '['.toUInt8 then enter .list stack s
    else if b = '\x7b'.toUInt8 then enter .object stack s
    else if b = 'n'.toUInt8 then word ['u', 'l', 'l'] s >>= leave stack
    else if b = 't'.toUInt8 then word ['r', 'u', 'e'] s >>= leave stack
    else if b = 'f'.toUInt8 then word ['a', 'l', 's', 'e'] s >>= leave stack
    else if b = '-'.toUInt8 then skipNumber s >>= leave stack
    else if isDigit b then skipNumber (b :: s) >>= leave stack
    else if b = '"'.toUInt8 then skipString .plain s >>= leave stack
    else faultBefore .expectedValue s

def skipLoop (stack : List Open) : Nat → List UInt8 → Except Fault (List UInt8)
  | 0, s => faultBefore .endInValue s
  | fuel + 1, s => do
    let (stack, s) ← skipStep stack s
    if stack = [] then .ok s else skipLoop stack fuel s

def skip (s : List UInt8) : Except Fault (List UInt8) :=
  skipLoop [] (s.length + 1) s

end GatedStore.Json.Reader
