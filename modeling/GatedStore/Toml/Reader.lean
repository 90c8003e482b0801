import GatedStore.Toml.Scalars
import GatedStore.Toml.Strings

namespace GatedStore.Toml.Reader

def isWordChar (c : Char) : Bool :=
  c.isAlphanum || c == '+' || c == '-' || c == '_' || c == '.' || c == ':'

def word : Reader Toml := fun s =>
  let cs := s.takeWhile isWordChar
  let rest := s.dropWhile isWordChar
  let time :=
    match rest with
    | ' ' :: d :: _ => isDate cs && d.isDigit
    | _ => false
  if time then
    let clock := rest.tail.takeWhile isWordChar
    (word? (cs ++ ' ' :: clock)).map (·, rest.tail.dropWhile isWordChar)
  else (word? cs).map (·, rest)

def skipTrivia (inComment : Bool) : List Char → List Char
  | [] => []
  | '\n' :: s => skipTrivia false s
  | '\r' :: '\n' :: s => skipTrivia false s
  | c :: s =>
    if inComment then (if isPlain c then skipTrivia true s else c :: s)
    else if isBlank c then skipTrivia false s
    else if c = '#' then skipTrivia true s
    else c :: s

def items (item : Reader Toml) : Nat → Reader (List Toml)
  | 0, _ => none
  | fuel + 1, s =>
    match skipTrivia false s with
    | ']' :: s => some ([], s)
    | s => do
      let (v, s) ← item s
      match skipTrivia false s with
      | ',' :: s =>
        let (vs, s) ← items item fuel s
        some (v :: vs, s)
      | ']' :: s => some ([v], s)
      | _ => none

def assignments (item : Reader Toml) (entries : Entries) : Nat → Reader Entries
  | 0, _ => none
  | fuel + 1, s => do
    let (path, s) ← key s
    match s with
    | '=' :: s =>
      let (v, s) ← item (skipBlanks s)
      let (_, entries) ← assignPath path v .inline entries
      match skipBlanks s with
      | ',' :: s => assignments item entries fuel s
      | c :: s => if c = '\x7d' then some (entries, s) else none
      | [] => none
    | _ => none

def value : Nat → Reader Toml
  | _, [] => none
  | depth, c :: s =>
    if c = '"' ∨ c = '\'' then (string (c :: s)).map fun (t, s) => (.string t, s)
    else if c = '[' then
      match depth with
      | 0 => none
      | depth + 1 => (items (value depth) (s.length + 1) s).map fun (vs, s) => (.array vs, s)
    else if c = '\x7b' then
      match depth with
      | 0 => none
      | depth + 1 =>
        match skipBlanks s with
        | [] => none
        | d :: s' =>
          if d = '\x7d' then some (.table .inline [], s')
          else (assignments (value depth) [] (s.length + 1) s).map fun (es, s) => (.table .inline es, s)
    else word (c :: s)

def depthLimit : Nat := 79

def lineEnd (s : List Char) : Option (List Char) :=
  let s := skipBlanks s
  let s := if s.head? = some '#' then s.dropWhile isPlain else s
  match s with
  | [] => some []
  | '\n' :: s => some s
  | '\r' :: '\n' :: s => some s
  | _ => none

structure State where
  root : Entries
  path : List String

def State.apply (st : State) (path : List String) (change : Change) : Option State := do
  let (_, root) ← within false path change .header st.root
  some { st with root := root }

def State.header (st : State) (path : List String) (change : String → Change) : Option State := do
  let key ← path.getLast?
  let st ← st.apply path.dropLast (change key)
  some { st with path := path }

def line (st : State) (s : List Char) : Option (State × List Char) :=
  match skipBlanks s with
  | '[' :: '[' :: s => do
    let (path, s) ← key s
    match s with
    | ']' :: ']' :: s =>
      let s ← lineEnd s
      let st ← st.header path pushTable
      some (st, s)
    | _ => none
  | '[' :: s => do
    let (path, s) ← key s
    match s with
    | ']' :: s =>
      let s ← lineEnd s
      let st ← st.header path openTable
      some (st, s)
    | _ => none
  | s =>
    match lineEnd s with
    | some s => some (st, s)
    | none => do
      let (path, s) ← key s
      match s with
      | '=' :: s =>
        let (v, s) ← value depthLimit (skipBlanks s)
        let s ← lineEnd s
        let st ← st.apply st.path (assignPath path v)
        some (st, s)
      | _ => none

def lines (st : State) : Nat → List Char → Option State
  | _, [] => some st
  | 0, _ => none
  | fuel + 1, s => do
    let (st, s) ← line st s
    lines st fuel s

def document (text : String) : Option Entries := do
  let s :=
    match text.toList with
    | '\uFEFF' :: s => s
    | s => s
  let st ← lines ⟨[], []⟩ s.length s
  match ← tableWithMoments? .header st.root with
  | .table _ entries => some entries
  | _ => none

end GatedStore.Toml.Reader
