import GatedStore.Json.Printer
import GatedStore.Text.Quoted

namespace GatedStore.Json

inductive Found
  | null
  | bool (b : Bool)
  | number (n : Number)
  | string (s : String)
  | sequence
  | map

def Found.text : Found → String
  | .null => "null"
  | .bool b => "boolean `" ++ (if b then "true" else "false") ++ "`"
  | .number n@(.integer _ _) => "integer `" ++ n.text ++ "`"
  | .number n@(.float _) => "floating point `" ++ n.text ++ "`"
  | .string s => "string " ++ Text.quoted s
  | .sequence => "sequence"
  | .map => "map"

inductive Cause
  | endInValue
  | endInList
  | endInObject
  | endInString
  | expectedValue
  | expectedIdent
  | keyMustBeString
  | expectedColon
  | expectedListEnd
  | expectedObjectEnd
  | trailingComma
  | trailingCharacters
  | invalidNumber
  | numberOutOfRange
  | invalidEscape
  | loneSurrogate
  | unfinishedSurrogate
  | controlCharacter
  | invalidUnicode
  | tooDeep
  | wrongType (found : Found) (expected : String)
  | wrongValue (found : Found) (expected : String)
  | unknownVariant (name : String) (known : List String)
  | missingField (name : String)
  | duplicateField (name : String)
  | tooShort (length : Nat) (name : String) (fields : Nat)
  | noVariant (name : String)

def Cause.text : Cause → String
  | .endInValue => "EOF while parsing a value"
  | .endInList => "EOF while parsing a list"
  | .endInObject => "EOF while parsing an object"
  | .endInString => "EOF while parsing a string"
  | .expectedValue => "expected value"
  | .expectedIdent => "expected ident"
  | .keyMustBeString => "key must be a string"
  | .expectedColon => "expected `:`"
  | .expectedListEnd => "expected `,` or `]`"
  | .expectedObjectEnd => "expected `,` or `\x7d`"
  | .trailingComma => "trailing comma"
  | .trailingCharacters => "trailing characters"
  | .invalidNumber => "invalid number"
  | .numberOutOfRange => "number out of range"
  | .invalidEscape => "invalid escape"
  | .loneSurrogate => "lone leading surrogate in hex escape"
  | .unfinishedSurrogate => "unexpected end of hex escape"
  | .controlCharacter => "control character (\\u0000-\\u001F) found while parsing a string"
  | .invalidUnicode => "invalid unicode code point"
  | .tooDeep => "recursion limit exceeded"
  | .wrongType found expected => "invalid type: " ++ found.text ++ ", expected " ++ expected
  | .wrongValue found expected => "invalid value: " ++ found.text ++ ", expected " ++ expected
  | .unknownVariant name known =>
    "unknown variant `" ++ name ++ "`, expected one of " ++
      ", ".intercalate (known.map fun k => "`" ++ k ++ "`")
  | .missingField name => "missing field `" ++ name ++ "`"
  | .duplicateField name => "duplicate field `" ++ name ++ "`"
  | .tooShort length name fields =>
    "invalid length " ++ toString length ++ ", expected struct " ++ name ++ " with " ++ toString fields ++
      " elements"
  | .noVariant name => "data did not match any variant of untagged enum " ++ name

/-- A fault is `placed` where `rest` begins; a `pending` one concerns a whole record that was read up to
`rest` and is placed when the record has been closed. -/
inductive Fault
  | placed (cause : Cause) (rest : List UInt8)
  | pending (cause : Cause) (rest : List UInt8)

def position (body : List UInt8) (count : Nat) : Nat × Nat :=
  let before := body.take count
  ((before.filter (· == 10)).length + 1, (before.reverse.takeWhile (· != 10)).length)

def Fault.text (body : List UInt8) : Fault → String
  | .placed cause rest =>
    let (line, column) := position body (body.length - rest.length)
    cause.text ++ " at line " ++ toString line ++ " column " ++ toString column
  | .pending cause _ => cause.text

abbrev Reader (α : Type) := List UInt8 → Except Fault (α × List UInt8)

def faultAt {α : Type} (cause : Cause) (s : List UInt8) : Except Fault α :=
  .error (.placed cause (s.drop 1))

def faultBefore {α : Type} (cause : Cause) (s : List UInt8) : Except Fault α :=
  .error (.placed cause s)

end GatedStore.Json
