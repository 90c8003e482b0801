import GatedStore.Decimal.Layout
import GatedStore.Settings.Basic
import GatedStore.Text.Lowercase
import GatedStore.Text.Numeral
import GatedStore.Text.Quoted
import GatedStore.Toml.Reader

/-! Where settings come from: the defaults, a TOML document over them, and variables of the
environment over both. -/

namespace GatedStore.Settings

open Toml (Entries)

inductive LoadError
  | fileNotFound (path : String)
  | unreadable
  | wrongType (unexpected expected key : String)
  | invalid (reason : Invalid)
  deriving DecidableEq, Repr

def LoadError.message : LoadError → String
  | .fileNotFound path => "configuration file not found: " ++ path
  | .unreadable => "failed to load configuration: the file is no TOML document"
  | .wrongType unexpected expected key =>
    "failed to load configuration: invalid type: " ++ unexpected ++ ", expected " ++ expected ++
      " for key `" ++ key ++ "`"
  | .invalid reason => reason.message

def floatLayout : Decimal.Layout where
  scientific _ := false
  pointZero := false
  tie := .up
  nan := "NaN"
  infinity := "inf"

def boolText (b : Bool) : String :=
  if b then "true" else "false"

def textOf (key : String) : Toml → Except LoadError String
  | .string s => .ok s
  | .moment s => .ok s
  | .integer n => .ok (toString n)
  | .float x => .ok (String.ofList (floatLayout.write x))
  | .bool b => .ok (boolText b)
  | .array _ => .error (.wrongType "sequence" "a string" key)
  | .tables _ _ => .error (.wrongType "sequence" "a string" key)
  | .table _ _ => .error (.wrongType "map" "a string" key)

def countOfText (key s : String) : Except LoadError UInt64 :=
  let word := Text.lowercase s
  if word = "true" ∨ word = "on" ∨ word = "yes" then .ok 1
  else if word = "false" ∨ word = "off" ∨ word = "no" then .ok 0
  else
    match Text.Numeral.read s.toList with
    | .ok n => .ok (UInt64.ofNat n)
    | .error _ => .error (.wrongType ("string " ++ Text.quoted s) "an integer" key)

/-- Fractions are rounded, halves away from zero, and what is out of range goes to its end. -/
def countOf (key : String) : Toml → Except LoadError UInt64
  | .string s => countOfText key s
  | .moment s => countOfText key s
  | .integer n =>
    if 0 ≤ n then .ok (UInt64.ofNat n.toNat)
    else
      .error (.wrongType ("64-bit integer `" ++ toString n ++ "`") "an unsigned 64 bit or less integer" key)
  | .float x => .ok x.round.toUInt64
  | .bool b => .ok (if b then 1 else 0)
  | .array _ => .error (.wrongType "sequence" "an integer" key)
  | .tables _ _ => .error (.wrongType "sequence" "an integer" key)
  | .table _ _ => .error (.wrongType "map" "an integer" key)

def overlay (earlier later : Toml) : Toml :=
  match later with
  | .table _ [] => earlier
  | _ => later

def isNameChar (c : Char) : Bool :=
  c.isAlphanum || c == '_' || c == '-' || c == ' '

/-- The steps that lead on from a name: into a member of a table, or to a place in an array, where a
negative place counts from the end. -/
inductive Step
  | member (name : String)
  | place (index : Int)

def place? (cs : List Char) : Option Int :=
  let cs := ((Toml.Reader.skipBlanks cs).reverse.dropWhile Toml.Reader.isBlank).reverse
  let (negative, ds) :=
    match cs with
    | '-' :: ds => (true, ds)
    | ds => (false, ds)
  match ds.isEmpty, Text.Numeral.digits 0 ds with
  | false, .ok n =>
    let index := Toml.withSign negative n
    if Toml.fitsWord index then some index else none
  | _, _ => none

def steps? : Nat → List Char → Option (List Step)
  | _, [] => some []
  | 0, _ => none
  | fuel + 1, '.' :: s =>
    match s.takeWhile isNameChar with
    | [] => none
    | name => (steps? fuel (s.dropWhile isNameChar)).map (.member (String.ofList name) :: ·)
  | fuel + 1, '[' :: s =>
    match place? (s.takeWhile (· ≠ ']')), s.dropWhile (· ≠ ']') with
    | some index, _ :: s => (steps? fuel s).map (.place index :: ·)
    | _, _ => none
  | _, _ => none

def wrap (v : Toml) : List Step → Toml
  | [] => v
  | .member name :: steps => .table .dotted [(name, wrap v steps)]
  | .place _ :: steps => .array [wrap v steps]

def target (name : String) (v : Toml) : String × Toml :=
  let cs := name.toList
  match cs.takeWhile isNameChar, steps? cs.length (cs.dropWhile isNameChar) with
  | [], _ => (Text.lowercase name, v)
  | head, some steps => (Text.lowercase (String.ofList head), wrap v steps)
  | _, none => (Text.lowercase name, v)

def lookup (entries : Entries) (key : String) (start : Toml) : Toml :=
  entries.foldl (fun v (name, w) =>
    let (k, w) := target name w
    if k = key then overlay v w else v) start

def variableStart : List Char :=
  "crud_".toList

def ofVariables (env : List (String × String)) : Entries :=
  env.filterMap fun (name, v) =>
    let cs := Text.Lowercase.lower name.toList
    if variableStart.isPrefixOf cs then some (String.ofList (cs.drop variableStart.length), .string v)
    else none

def ofEntries (entries : Entries) : Except LoadError Settings := do
  let basePath ← textOf "base_path" (lookup entries "base_path" (.string default.basePath))
  let channelCapacity ← countOf "channel_capacity"
    (lookup entries "channel_capacity" (.integer default.channelCapacity.toNat))
  let logFilter ← textOf "log_filter" (lookup entries "log_filter" (.string default.logFilter))
  let settings : Settings := ⟨basePath, channelCapacity, logFilter⟩
  (settings.validate.mapError .invalid).map fun _ => settings

def fromEnvironment (env : List (String × String)) : Except LoadError Settings :=
  ofEntries (ofVariables env)

def load (file : String → Option String) (path : String) (env : List (String × String)) :
    Except LoadError Settings :=
  match file path with
  | none => .error (.fileNotFound path)
  | some text =>
    match Toml.Reader.document text with
    | none => .error .unreadable
    | some entries => ofEntries (entries ++ ofVariables env)

end GatedStore.Settings
