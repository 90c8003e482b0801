import GatedStore.Toml.Basic
import GatedStore.Toml.Digits

namespace GatedStore.Toml

def daysInMonth (year month : Nat) : Nat :=
  if month = 2 then (if year % 4 = 0 ∧ (year % 100 ≠ 0 ∨ year % 400 = 0) then 29 else 28)
  else if month = 4 ∨ month = 6 ∨ month = 9 ∨ month = 11 then 30
  else 31

def isDate : List Char → Bool
  | [y1, y2, y3, y4, '-', m1, m2, '-', d1, d2] =>
    match digits? 10 [y1, y2, y3, y4], twoDigits? [m1, m2], twoDigits? [d1, d2] with
    | some year, some month, some day =>
      [y1, y2, y3, y4].all isDigit && 1 ≤ month && month ≤ 12 && 1 ≤ day &&
        day ≤ daysInMonth (valueOf 10 year) month
    | _, _, _ => false
  | _ => false

def atMost (last : Nat) (cs : List Char) : Bool :=
  (twoDigits? cs).any (· ≤ last)

def fractionText? (cs : List Char) : Option (List Char) :=
  if cs.isEmpty || !cs.all isDigit then none
  else
    match ((cs.take 9).reverse.dropWhile (· == '0')).reverse with
    | [] => some []
    | ds => some ('.' :: ds)

def offsetText? : List Char → Option (List Char)
  | [] => some []
  | ['Z'] => some ['Z']
  | ['z'] => some ['Z']
  | [sign, h1, h2, ':', m1, m2] =>
    if (sign = '+' ∨ sign = '-') ∧ atMost 23 [h1, h2] ∧ atMost 59 [m1, m2] then
      some ((if [h1, h2, m1, m2].all (· == '0') then '+' else sign) :: [h1, h2, ':', m1, m2])
    else none
  | _ => none

def isOffsetMark (c : Char) : Bool :=
  c == 'Z' || c == 'z' || c == '+' || c == '-'

def timeText? (withOffset : Bool) : List Char → Option (List Char)
  | h1 :: h2 :: ':' :: m1 :: m2 :: ':' :: s1 :: s2 :: cs =>
    if atMost 23 [h1, h2] ∧ atMost 59 [m1, m2] ∧ atMost 60 [s1, s2] then do
      let fraction ←
        match cs.takeWhile fun c => !isOffsetMark c with
        | [] => some []
        | '.' :: ds => fractionText? ds
        | _ => none
      let offset := cs.dropWhile fun c => !isOffsetMark c
      if withOffset = false ∧ offset ≠ [] then none
      else
        let offset ← offsetText? offset
        some ([h1, h2, ':', m1, m2, ':', s1, s2] ++ fraction ++ offset)
    else none
  | _ => none

def momentText? (cs : List Char) : Option String :=
  let date := cs.take 10
  if isDate date then
    match cs.drop 10 with
    | [] => some (String.ofList date)
    | c :: time =>
      if c = 'T' ∨ c = 't' ∨ c = ' ' then
        (timeText? true time).map fun t => String.ofList (date ++ 'T' :: t)
      else none
  else (timeText? false cs).map String.ofList

/-- A table whose first key is this one stands for the date or time that its first value spells. -/
def momentKey : String := "$__toml_private_datetime"

def momentOf? : Toml → Option Toml
  | .string s => (momentText? s.toList).map .moment
  | _ => none

mutual

def withMoments? : Toml → Option Toml
  | .array items => (itemsWithMoments? items).map .array
  | .table origin entries => tableWithMoments? origin entries
  | .tables last earlier => do
    let last ← tableWithMoments? .header last
    let earlier ← tablesWithMoments? earlier
    some (.array (earlier.reverse ++ [last]))
  | v => some v

def itemsWithMoments? : List Toml → Option (List Toml)
  | [] => some []
  | v :: items => do
    let v ← withMoments? v
    let items ← itemsWithMoments? items
    some (v :: items)

def entriesWithMoments? : Entries → Option Entries
  | [] => some []
  | (key, v) :: entries => do
    let v ← withMoments? v
    let entries ← entriesWithMoments? entries
    some ((key, v) :: entries)

def tableWithMoments? (origin : Origin) : Entries → Option Toml
  | [] => some (.table origin [])
  | (key, v) :: entries =>
    if key = momentKey then momentOf? v
    else do
      let v ← withMoments? v
      let entries ← entriesWithMoments? entries
      some (.table origin ((key, v) :: entries))

def tablesWithMoments? : List Entries → Option (List Toml)
  | [] => some []
  | entries :: rest => do
    let v ← tableWithMoments? .header entries
    let rest ← tablesWithMoments? rest
    some (v :: rest)

end

end GatedStore.Toml
