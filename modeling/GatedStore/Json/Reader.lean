import GatedStore.Json.Numbers
import GatedStore.Json.Strings

namespace GatedStore.Json.Reader

def isBlank (b : UInt8) : Bool :=
  b == ' '.toUInt8 || b == '\n'.toUInt8 || b == '\t'.toUInt8 || b == '\r'.toUInt8

def skipBlanks (s : List UInt8) : List UInt8 :=
  s.dropWhile isBlank

def word : List Char → List UInt8 → Except Fault (List UInt8)
  | [], s => .ok s
  | _ :: _, [] => faultBefore .endInValue []
  | c :: cs, b :: s => if b = c.toUInt8 then word cs s else faultBefore .expectedIdent s

def head : Reader Found := fun s =>
  match skipBlanks s with
  | [] => faultBefore .endInValue []
  | b :: s =>
    if b = 'n'.toUInt8 then (.null, ·) <$> word ['u', 'l', 'l'] s
    else if b = 't'.toUInt8 then (.bool true, ·) <$> word ['r', 'u', 'e'] s
    else if b = 'f'.toUInt8 then (.bool false, ·) <$> word ['a', 'l', 's', 'e'] s
    else if b = '-'.toUInt8 then (fun (n, s) => (.number n, s)) <$> number true s
    else if isDigit b then (fun (n, s) => (.number n, s)) <$> number false (b :: s)
    else if b = '"'.toUInt8 then (fun (t, s) => (.string t, s)) <$> string s
    else if b = '['.toUInt8 then .ok (.sequence, b :: s)
    else if b = '\x7b'.toUInt8 then .ok (.map, b :: s)
    else faultBefore .expectedValue s

def anotherItem (first : Bool) : Reader Bool := fun s =>
  match skipBlanks s with
  | [] => faultBefore .endInList []
  | b :: s =>
    if b = ']'.toUInt8 then .ok (false, b :: s)
    else if first then .ok (true, b :: s)
    else if b = ','.toUInt8 then
      match skipBlanks s with
      | [] => faultBefore .endInValue []
      | c :: s => if c = ']'.toUInt8 then faultBefore .trailingComma s else .ok (true, c :: s)
    else faultBefore .expectedListEnd s

def anotherMember (first : Bool) : Reader Bool := fun s =>
  match skipBlanks s with
  | [] => faultBefore .endInObject []
  | b :: s =>
    if b = '\x7d'.toUInt8 then .ok (false, b :: s)
    else if first then
      if b = '"'.toUInt8 then .ok (true, b :: s) else faultBefore .keyMustBeString s
    else if b = ','.toUInt8 then
      match skipBlanks s with
      | [] => faultBefore .endInValue []
      | c :: s =>
        if c = '"'.toUInt8 then .ok (true, c :: s)
        else if c = '\x7d'.toUInt8 then faultBefore .trailingComma s
        else faultBefore .keyMustBeString s
    else faultBefore .expectedObjectEnd s

def colon (s : List UInt8) : Except Fault (List UInt8) :=
  match skipBlanks s with
  | [] => faultBefore .endInObject []
  | b :: s => if b = ':'.toUInt8 then .ok s else faultBefore .expectedColon s

def closeList (s : List UInt8) : Except Fault (List UInt8) :=
  match skipBlanks s with
  | [] => faultBefore .endInList []
  | b :: s =>
    if b = ']'.toUInt8 then .ok s
    else if b = ','.toUInt8 then
      match skipBlanks s with
      | [] => faultBefore .trailingCharacters []
      | c :: s => faultBefore (if c = ']'.toUInt8 then .trailingComma else .trailingCharacters) s
    else faultBefore .trailingCharacters s

def closeObject (s : List UInt8) : Except Fault (List UInt8) :=
  match skipBlanks s with
  | [] => faultBefore .endInObject []
  | b :: s =>
    if b = '\x7d'.toUInt8 then .ok s
    else faultBefore (if b = ','.toUInt8 then .trailingComma else .trailingCharacters) s

def items {α : Type} (item : Reader α) (first : Bool) : Nat → Reader (List α)
  | 0, s => faultBefore .endInList s
  | fuel + 1, s => do
    let (more, s) ← anotherItem first s
    if more then
      let (a, s) ← item s
      let (as, s) ← items item false fuel s
      .ok (a :: as, s)
    else .ok ([], s)

def members {α : Type} (item : Reader α) (first : Bool) : Nat → Reader (List (String × α))
  | 0, s => faultBefore .endInObject s
  | fuel + 1, s => do
    let (more, s) ← anotherMember first s
    if more then
      let (name, s) ← string (s.drop 1)
      let s ← colon s
      let (a, s) ← item s
      let (as, s) ← members item false fuel s
      .ok ((name, a) :: as, s)
    else .ok ([], s)

def listFrom {α : Type} (item : Reader α) : Reader (List α) := fun s => do
  let (as, s) ← items item true s.length (s.drop 1)
  let s ← closeList s
  .ok (as, s)

def objectFrom {α : Type} (item : Reader α) : Reader (List (String × α)) := fun s => do
  let (as, s) ← members item true s.length (s.drop 1)
  let s ← closeObject s
  .ok (as, s)

def afterHead (inside : Option (Reader Json)) : Found → Reader Json
  | .null, s => .ok (.null, s)
  | .bool b, s => .ok (.bool b, s)
  | .number n, s => .ok (.number n, s)
  | .string t, s => .ok (.string t, s)
  | .sequence, s =>
    match inside with
    | none => faultAt .tooDeep s
    | some read => (fun (as, s) => (.array as, s)) <$> listFrom read s
  | .map, s =>
    match inside with
    | none => faultAt .tooDeep s
    | some read => (fun (as, s) => (.object as, s)) <$> objectFrom read s

def value : Nat → Reader Json
  | 0, s => do
    let (found, s) ← head s
    afterHead none found s
  | depth + 1, s => do
    let (found, s) ← head s
    afterHead (some (value depth)) found s

def depthLimit : Nat := 127

def document {α : Type} (read : Reader α) (body : List UInt8) : Except Fault α := do
  let (a, s) ← read body
  match skipBlanks s with
  | [] => .ok a
  | _ :: s => faultBefore .trailingCharacters s

def ofBytes (body : List UInt8) : Except Fault Json :=
  document (value depthLimit) body

end GatedStore.Json.Reader
