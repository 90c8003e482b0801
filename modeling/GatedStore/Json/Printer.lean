import GatedStore.Decimal.Layout
import GatedStore.Json.Basic

namespace GatedStore

def Number.layout : Decimal.Layout where
  scientific e := e < -5 || 16 ≤ e
  pointZero := true
  tie := .even
  nan := "null"
  infinity := "null"

def Number.chars : Number → List Char
  | .integer (.ofNat n) _ => Nat.toDigits 10 n
  | .integer (.negSucc n) _ => '-' :: Nat.toDigits 10 (n + 1)
  | .float x => layout.write x

def Number.text (n : Number) : String :=
  String.ofList n.chars

namespace Json

def escapeChar (c : Char) : List Char :=
  match c with
  | '"' => ['\\', '"']
  | '\\' => ['\\', '\\']
  | '\x08' => ['\\', 'b']
  | '\x0c' => ['\\', 'f']
  | '\n' => ['\\', 'n']
  | '\r' => ['\\', 'r']
  | '\t' => ['\\', 't']
  | c =>
    if c.toNat < 0x20 then
      ['\\', 'u', '0', '0', Nat.digitChar (c.toNat / 16), Nat.digitChar (c.toNat % 16)]
    else [c]

def stringChars (s : String) : List Char :=
  '"' :: s.toList.flatMap escapeChar ++ ['"']

mutual

def chars : Json → List Char
  | .null => "null".toList
  | .bool true => "true".toList
  | .bool false => "false".toList
  | .number n => n.chars
  | .string s => stringChars s
  | .array [] => ['[', ']']
  | .array (v :: items) => '[' :: v.chars ++ itemsChars items
  | .object [] => ['\x7b', '\x7d']
  | .object ((name, v) :: members) => '\x7b' :: stringChars name ++ ':' :: v.chars ++ membersChars members

def itemsChars : List Json → List Char
  | [] => [']']
  | v :: items => ',' :: v.chars ++ itemsChars items

def membersChars : List (String × Json) → List Char
  | [] => ['\x7d']
  | (name, v) :: members => ',' :: stringChars name ++ ':' :: v.chars ++ membersChars members

end

def text (v : Json) : String :=
  String.ofList v.chars

end Json

end GatedStore
