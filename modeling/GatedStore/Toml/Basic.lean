/-! TOML values, and the rules by which the statements of a document add up to one table. -/

namespace GatedStore

namespace Toml

/-- How a table came to be, which decides whether later statements may add to it. -/
inductive Origin
  | header
  | implied
  | dotted
  | inline
  deriving DecidableEq, Repr

end Toml

inductive Toml
  | string (s : String)
  | integer (n : Int)
  | float (x : Float)
  | bool (b : Bool)
  | moment (text : String)
  | array (items : List Toml)
  | table (origin : Toml.Origin) (entries : List (String × Toml))
  | tables (last : List (String × Toml)) (earlier : List (List (String × Toml)))

namespace Toml

instance : Inhabited Toml := ⟨.bool false⟩

abbrev Entries := List (String × Toml)

def setEntry (key : String) (v : Toml) : Entries → Entries
  | [] => [(key, v)]
  | (k, w) :: rest => if k = key then (k, v) :: rest else (k, w) :: setEntry key v rest

abbrev Change := Origin → Entries → Option (Origin × Entries)

/-- Follows a path into nested tables, which are made on the way where they are missing. Dotted keys
do not enter tables that have a header of their own, and nothing is added to a value. -/
def within (byDots : Bool) : List String → Change → Change
  | [], change, origin, entries => change origin entries
  | key :: path, change, origin, entries =>
    match entries.lookup key with
    | none => do
      let (o, es) ← within byDots path change (if byDots then .dotted else .implied) []
      some (origin, setEntry key (.table o es) entries)
    | some (.table .inline _) => none
    | some (.table o es) =>
      if byDots ∧ o = .header then none
      else do
        let (o, es) ← within byDots path change o es
        some (origin, setEntry key (.table o es) entries)
    | some (.tables last earlier) => do
      let (_, es) ← within byDots path change .header last
      some (origin, setEntry key (.tables es earlier) entries)
    | some _ => none

def openTable (key : String) : Change := fun origin entries =>
  match entries.lookup key with
  | none => some (origin, setEntry key (.table .header []) entries)
  | some (.table .implied es) =>
    some (origin, setEntry key (.table .header es) (entries.filter (·.1 ≠ key)))
  | some _ => none

def pushTable (key : String) : Change := fun origin entries =>
  match entries.lookup key with
  | none => some (origin, setEntry key (.tables [] []) entries)
  | some (.tables last earlier) => some (origin, setEntry key (.tables [] (last :: earlier)) entries)
  | some _ => none

def assign (isDotted : Bool) (key : String) (v : Toml) : Change := fun origin entries =>
  if isDotted = decide (origin = .dotted) ∧ (entries.lookup key).isNone then
    some (origin, setEntry key v entries)
  else none

def assignPath (path : List String) (v : Toml) : Change := fun origin entries =>
  match path.getLast? with
  | none => none
  | some key => within true path.dropLast (assign (1 < path.length) key v) origin entries

end Toml

end GatedStore
