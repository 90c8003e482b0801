namespace GatedStore.Toml

abbrev Reader (α : Type) := List Char → Option (α × List Char)

namespace Reader

def isBlank (c : Char) : Bool :=
  c == ' ' || c == '\t'

def skipBlanks (s : List Char) : List Char :=
  s.dropWhile isBlank

def isPlain (c : Char) : Bool :=
  c == '\t' || 0x20 ≤ c.toNat && c.toNat ≠ 0x7F

def hexDigit? (c : Char) : Option Nat :=
  if '0' ≤ c ∧ c ≤ '9' then some (c.toNat - '0'.toNat)
  else if 'a' ≤ c ∧ c ≤ 'f' then some (c.toNat - 'a'.toNat + 10)
  else if 'A' ≤ c ∧ c ≤ 'F' then some (c.toNat - 'A'.toNat + 10)
  else none

def codePoint? (n : Nat) : Option Char :=
  if n.isValidChar then some (Char.ofNat n) else none

def simpleEscape? (c : Char) : Option Char :=
  match c with
  | 'b' => some '\x08'
  | 't' => some '\t'
  | 'n' => some '\n'
  | 'f' => some '\x0c'
  | 'r' => some '\r'
  | '"' => some '"'
  | '\\' => some '\\'
  | _ => none

def prepend (cs : List Char) (r : Option (List Char × List Char)) : Option (List Char × List Char) :=
  r.map fun (ds, s) => (cs ++ ds, s)

inductive Mode
  | plain
  | escape
  | unicode (digitsLeft : Nat) (value : Nat)
  | gap
  | newlines

def basic (multiline : Bool) : Mode → Reader (List Char)
  | .plain, '"' :: s =>
    if multiline then
      match s with
      | '"' :: '"' :: '"' :: '"' :: s => some (['"', '"'], s)
      | '"' :: '"' :: '"' :: s => some (['"'], s)
      | '"' :: '"' :: s => some ([], s)
      | s => prepend ['"'] (basic multiline .plain s)
    else some ([], s)
  | .plain, '\\' :: s => basic multiline .escape s
  | .plain, '\n' :: s => if multiline then prepend ['\n'] (basic multiline .plain s) else none
  | .plain, '\r' :: '\n' :: s => if multiline then prepend ['\n'] (basic multiline .plain s) else none
  | .plain, c :: s => if isPlain c then prepend [c] (basic multiline .plain s) else none
  | .escape, 'u' :: s => basic multiline (.unicode 4 0) s
  | .escape, 'U' :: s => basic multiline (.unicode 8 0) s
  | .escape, '\n' :: s => if multiline then basic multiline .newlines s else none
  | .escape, '\r' :: '\n' :: s => if multiline then basic multiline .newlines s else none
  | .escape, c :: s =>
    match simpleEscape? c with
    | some d => prepend [d] (basic multiline .plain s)
    | none => if multiline ∧ isBlank c then basic multiline .gap s else none
  | .unicode n value, c :: s => do
    let d ← hexDigit? c
    if n ≤ 1 then
      let c ← codePoint? (16 * value + d)
      prepend [c] (basic multiline .plain s)
    else basic multiline (.unicode (n - 1) (16 * value + d)) s
  | .gap, '\n' :: s => basic multiline .newlines s
  | .gap, '\r' :: '\n' :: s => basic multiline .newlines s
  | .gap, c :: s => if isBlank c then basic multiline .gap s else none
  | .newlines, '"' :: s =>
    match s with
    | '"' :: '"' :: '"' :: '"' :: s => some (['"', '"'], s)
    | '"' :: '"' :: '"' :: s => some (['"'], s)
    | '"' :: '"' :: s => some ([], s)
    | s => prepend ['"'] (basic multiline .plain s)
  | .newlines, '\\' :: s => basic multiline .escape s
  | .newlines, '\n' :: s => basic multiline .newlines s
  | .newlines, '\r' :: '\n' :: s => basic multiline .newlines s
  | .newlines, c :: s =>
    if isBlank c then basic multiline .newlines s
    else if isPlain c then prepend [c] (basic multiline .plain s)
    else none
  | _, [] => none

def literal (multiline : Bool) : Reader (List Char)
  | [] => none
  | '\'' :: s =>
    if multiline then
      match s with
      | '\'' :: '\'' :: '\'' :: '\'' :: s => some (['\'', '\''], s)
      | '\'' :: '\'' :: '\'' :: s => some (['\''], s)
      | '\'' :: '\'' :: s => some ([], s)
      | s => prepend ['\''] (literal multiline s)
    else some ([], s)
  | '\n' :: s => if multiline then prepend ['\n'] (literal multiline s) else none
  | '\r' :: '\n' :: s => if multiline then prepend ['\n'] (literal multiline s) else none
  | c :: s => if isPlain c then prepend [c] (literal multiline s) else none

def skipNewline : List Char → List Char
  | '\n' :: s => s
  | '\r' :: '\n' :: s => s
  | s => s

def ofChars (r : Option (List Char × List Char)) : Option (String × List Char) :=
  r.map fun (cs, s) => (String.ofList cs, s)

def string : Reader String
  | '"' :: '"' :: '"' :: s => ofChars (basic true .plain (skipNewline s))
  | '"' :: s => ofChars (basic false .plain s)
  | '\'' :: '\'' :: '\'' :: s => ofChars (literal true (skipNewline s))
  | '\'' :: s => ofChars (literal false s)
  | _ => none

def isBareKeyChar (c : Char) : Bool :=
  c.isAlphanum || c == '_' || c == '-'

def keyPart : Reader String
  | '"' :: s => ofChars (basic false .plain s)
  | '\'' :: s => ofChars (literal false s)
  | s =>
    match s.takeWhile isBareKeyChar with
    | [] => none
    | cs => some (String.ofList cs, s.dropWhile isBareKeyChar)

def keyParts : Nat → Reader (List String)
  | 0, _ => none
  | fuel + 1, s => do
    let (part, s) ← keyPart (skipBlanks s)
    match skipBlanks s with
    | '.' :: s =>
      let (parts, s) ← keyParts fuel s
      some (part :: parts, s)
    | s => some ([part], s)

def longestKey : Nat := 79

def key : Reader (List String) :=
  keyParts longestKey

end Reader

end GatedStore.Toml
