namespace GatedStore.Toml

def isDigit (c : Char) : Bool :=
  c.isDigit

def digitValue? (base : Nat) (c : Char) : Option Nat :=
  let n :=
    if '0' ≤ c ∧ c ≤ '9' then c.toNat - '0'.toNat
    else if 'a' ≤ c ∧ c ≤ 'f' then c.toNat - 'a'.toNat + 10
    else if 'A' ≤ c ∧ c ≤ 'F' then c.toNat - 'A'.toNat + 10
    else base
  if n < base then some n else none

def digits? (base : Nat) : List Char → Option (List Nat)
  | [] => none
  | [c] => (digitValue? base c).map ([·])
  | c :: '_' :: cs => do
    let d ← digitValue? base c
    let ds ← digits? base cs
    some (d :: ds)
  | c :: cs => do
    let d ← digitValue? base c
    let ds ← digits? base cs
    some (d :: ds)

def valueOf (base : Nat) (ds : List Nat) : Nat :=
  ds.foldl (fun n d => base * n + d) 0

def twoDigits? : List Char → Option Nat
  | [a, b] => do
    let a ← digitValue? 10 a
    let b ← digitValue? 10 b
    some (10 * a + b)
  | _ => none

end GatedStore.Toml
