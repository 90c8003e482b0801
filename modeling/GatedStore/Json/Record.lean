import GatedStore.Json.Skip

/-! Typed readers. A record is read from an object, whose unknown members are passed over, or from the
list of its fields in order. -/

namespace GatedStore.Json.Reader

def wrongType {α : Type} (found : Found) (expected : String) (s : List UInt8) : Except Fault α :=
  faultBefore (.wrongType found expected) s

def text : Reader String := fun s => do
  let (found, s) ← head s
  match found with
  | .string t => .ok (t, s)
  | found => wrongType found "a string" s

def natural (expected : String) : Reader UInt64 := fun s => do
  let (found, s) ← head s
  match found with
  | .number (.integer n h) =>
    if 0 ≤ n then .ok (UInt64.ofNat n.toNat, s)
    else faultBefore (.wrongValue (.number (.integer n h)) expected) s
  | found => wrongType found expected s

def list {α : Type} (item : Nat → Reader α) (depth : Nat) : Reader (List α) := fun s => do
  let (found, s) ← head s
  match found, depth with
  | .sequence, 0 => faultAt .tooDeep s
  | .sequence, depth + 1 => listFrom (item depth) s
  | found, _ => wrongType found "a sequence" s

def payload (depth : Nat) : Reader Payload := fun s => do
  let (found, s) ← head s
  match found, depth with
  | .map, 0 => faultAt .tooDeep s
  | .map, depth + 1 =>
    let (members, s) ← objectFrom (value depth) s
    .ok (.ofMembers members, s)
  | found, _ => wrongType found "a map" s

/-- One of a few names, as a string or as the only name of an object with the value `null`. -/
def variant {α : Type} (known : List (String × α)) (depth : Nat) : Reader α := fun s =>
  let choose (name : String) (s : List UInt8) : Except Fault (α × List UInt8) :=
    match known.lookup name with
    | some a => .ok (a, s)
    | none => faultBefore (.unknownVariant name (known.map (·.1))) s
  match skipBlanks s with
  | [] => faultBefore .endInValue []
  | b :: s' =>
    if b = '"'.toUInt8 then do
      let (name, s) ← string s'
      choose name s
    else if b = '\x7b'.toUInt8 then do
      if depth = 0 then faultBefore .tooDeep s'
      else
        let (a, s) ←
          match skipBlanks s' with
          | [] => faultBefore .endInObject []
          | c :: s =>
            if c = '"'.toUInt8 then do
              let (name, s) ← string s
              choose name s
            else faultBefore (if c = '\x7d'.toUInt8 then .expectedValue else .keyMustBeString) s
        let s ← colon s
        let (found, s) ← head s
        match found with
        | .null =>
          match skipBlanks s with
          | [] => faultBefore .endInObject []
          | c :: s => if c = '\x7d'.toUInt8 then .ok (a, s) else faultBefore .expectedValue (c :: s)
        | found => wrongType found "unit" s
    else faultBefore .expectedValue s'

structure Field (Parts : Type) where
  name : String
  present : Parts → Bool
  read : Nat → Parts → Reader Parts

def Field.slot {Parts α : Type} (name : String) (get : Parts → Option α) (set : Parts → α → Parts)
    (read : Nat → Reader α) : Field Parts where
  name := name
  present d := (get d).isSome
  read depth d s := do
    let (a, s) ← read depth s
    .ok (set d a, s)

structure Shape (Parts α : Type) where
  name : String
  fields : List (Field Parts)
  start : Parts
  finish : Parts → Except String α

def required {α : Type} (name : String) : Option α → Except String α
  | some a => .ok a
  | none => .error name

variable {Parts α : Type}

def fromItems (shape : Shape Parts α) (depth : Nat) (first : Bool) (count : Nat) :
    List (Field Parts) → Parts → Reader α
  | [], d, s =>
    match shape.finish d with
    | .ok a => .ok (a, s)
    | .error name => .error (.pending (.missingField name) s)
  | field :: fields, d, s => do
    let (more, s) ← anotherItem first s
    if more then
      let (d, s) ← field.read depth d s
      fromItems shape depth false (count + 1) fields d s
    else
      match shape.finish d with
      | .ok a => .ok (a, s)
      | .error _ => .error (.pending (.tooShort count shape.name shape.fields.length) s)

def fromMembers (shape : Shape Parts α) (depth : Nat) (first : Bool) : Nat → Parts → Reader α
  | 0, _, s => faultBefore .endInObject s
  | fuel + 1, d, s => do
    let (more, s) ← anotherMember first s
    if more then
      let (name, s) ← string (s.drop 1)
      match shape.fields.find? (·.name == name) with
      | some field =>
        if field.present d then .error (.pending (.duplicateField name) s)
        else
          let s ← colon s
          let (d, s) ← field.read depth d s
          fromMembers shape depth false fuel d s
      | none =>
        let s ← colon s
        let s ← skip s
        fromMembers shape depth false fuel d s
    else
      match shape.finish d with
      | .ok a => .ok (a, s)
      | .error name => .error (.pending (.missingField name) s)

def leaveList (s : List UInt8) : List UInt8 :=
  match skipBlanks s with
  | [] => []
  | b :: s =>
    if b = ']'.toUInt8 then s else if b = ','.toUInt8 then skipBlanks s else b :: s

def leaveObject (s : List UInt8) : List UInt8 :=
  match skipBlanks s with
  | [] => []
  | b :: s => if b = '\x7d'.toUInt8 then s else b :: s

/-- Closes a record; what is wrong with the record as a whole is placed behind its end. -/
def closing (close : List UInt8 → Except Fault (List UInt8)) (leave : List UInt8 → List UInt8) :
    Except Fault (α × List UInt8) → Except Fault (α × List UInt8)
  | .ok (a, s) => (a, ·) <$> close s
  | .error (.pending cause s) => faultBefore cause (leave s)
  | .error fault => .error fault

def record (shape : Shape Parts α) (depth : Nat) : Reader α := fun s => do
  let (found, s) ← head s
  match found, depth with
  | .sequence, 0 => faultAt .tooDeep s
  | .map, 0 => faultAt .tooDeep s
  | .sequence, depth + 1 =>
    closing closeList leaveList (fromItems shape depth true 0 shape.fields shape.start (s.drop 1))
  | .map, depth + 1 =>
    closing closeObject leaveObject (fromMembers shape depth true s.length shape.start (s.drop 1))
  | found, _ => wrongType found ("struct " ++ shape.name) s

end GatedStore.Json.Reader
