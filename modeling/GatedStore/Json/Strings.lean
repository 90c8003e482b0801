import GatedStore.Json.Fault
import GatedStore.Text.Utf8

namespace GatedStore.Json.Reader

def simpleEscape? (b : UInt8) : Option Char :=
  if b = '"'.toUInt8 then some '"'
  else if b = '\\'.toUInt8 then some '\\'
  else if b = '/'.toUInt8 then some '/'
  else if b = 'b'.toUInt8 then some '\x08'
  else if b = 'f'.toUInt8 then some '\x0c'
  else if b = 'n'.toUInt8 then some '\n'
  else if b = 'r'.toUInt8 then some '\r'
  else if b = 't'.toUInt8 then some '\t'
  else none

def hexDigit? (b : UInt8) : Option Nat :=
  if '0'.toUInt8 ≤ b ∧ b ≤ '9'.toUInt8 then some (b.toNat - '0'.toNat)
  else if 'a'.toUInt8 ≤ b ∧ b ≤ 'f'.toUInt8 then some (b.toNat - 'a'.toNat + 10)
  else if 'A'.toUInt8 ≤ b ∧ b ≤ 'F'.toUInt8 then some (b.toNat - 'A'.toNat + 10)
  else none

def hexValue? (value : Nat) : List UInt8 → Option Nat
  | [] => some value
  | b :: s => (hexDigit? b).bind fun d => hexValue? (16 * value + d) s

def isLeading (n : Nat) : Bool :=
  0xD800 ≤ n && n < 0xDC00

def isTrailing (n : Nat) : Bool :=
  0xDC00 ≤ n && n < 0xE000

def joinSurrogates (leading trailing : Nat) : Char :=
  Char.ofNat (0x10000 + 0x400 * (leading - 0xD800) + (trailing - 0xDC00))

inductive Mode
  | plain
  | escape
  | hex (leading : Option Nat) (digits : List UInt8)
  | secondSlash (leading : Nat)
  | secondLetter (leading : Nat)

def prepend (bs : List UInt8) : Except Fault (List UInt8 × List UInt8) → Except Fault (List UInt8 × List UInt8)
  | .ok (bs', s) => .ok (bs ++ bs', s)
  | .error f => .error f

def contents : Mode → Reader (List UInt8)
  | _, [] => faultBefore .endInString []
  | .plain, b :: s =>
    if b = '"'.toUInt8 then .ok ([], s)
    else if b = '\\'.toUInt8 then contents .escape s
    else if b < 0x20 then faultBefore .controlCharacter s
    else prepend [b] (contents .plain s)
  | .escape, b :: s =>
    if b = 'u'.toUInt8 then contents (.hex none []) s
    else
      match simpleEscape? b with
      | some c => prepend (Text.Utf8.encodeChar c) (contents .plain s)
      | none => faultBefore .invalidEscape s
  | .hex leading digits, b :: s =>
    if digits.length < 3 then contents (.hex leading (digits ++ [b])) s
    else
      match hexValue? 0 (digits ++ [b]), leading with
      | none, _ => faultBefore .invalidEscape s
      | some n, none =>
        if isTrailing n then faultBefore .loneSurrogate s
        else if isLeading n then contents (.secondSlash n) s
        else prepend (Text.Utf8.encodeChar (Char.ofNat n)) (contents .plain s)
      | some n, some leading =>
        if isTrailing n then prepend (Text.Utf8.encodeChar (joinSurrogates leading n)) (contents .plain s)
        else faultBefore .loneSurrogate s
  | .secondSlash leading, b :: s =>
    if b = '\\'.toUInt8 then contents (.secondLetter leading) s else faultBefore .unfinishedSurrogate s
  | .secondLetter leading, b :: s =>
    if b = 'u'.toUInt8 then contents (.hex (some leading) []) s else faultBefore .unfinishedSurrogate s

/-- A string behind its opening quote. Whether it is well-formed UTF-8 is asked when all of it is read; the place
of a fault is counted back from the closing quote, by the bytes that the string has from there on. -/
def string : Reader String := fun s => do
  let (bs, rest) ← contents .plain s
  match Text.Utf8.decode bs with
  | .ok cs => .ok (String.ofList cs, rest)
  | .error i => faultBefore .invalidUnicode (s.drop (s.length - (rest.length + (bs.length - i))))

end GatedStore.Json.Reader
