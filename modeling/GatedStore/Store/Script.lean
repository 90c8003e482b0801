import GatedStore.Store.Basic

/-! A script stands in for a store: it answers the requests that are expected, in order. -/

namespace GatedStore

inductive Expectation (S : Schema)
  | list (answer : Except (StoreError S.Refusal) (List S.Item))
  | get (id : S.Id) (answer : Except (StoreError S.Refusal) S.Item)
  | create (answer : Except (StoreError S.Refusal) S.Item)
  | update (id : S.Id) (answer : Except (StoreError S.Refusal) S.Item)
  | remove (ids : List S.Id) (answer : Except (StoreError S.Refusal) (List S.Id))

def Expectation.answer? {S : Schema} : Expectation S → (r : Request S) → Option (Answer r)
  | .list a, .list => some a
  | .get id a, .get id' => if id' = id then some a else none
  | .create a, .create _ => some a
  | .update id a, .update id' _ => if id' = id then some a else none
  | .remove ids a, .remove ids' => if ids' = ids then some a else none
  | _, _ => none

/-- The count of unexpected requests is unbounded. One of 64 bits that wraps around agrees with it as long as fewer
than 2^64 such requests were sent, and only then does `verify` see every one of them. -/
structure Script (S : Schema) where
  queue : List (Expectation S)
  unexpected : Nat

inductive ScriptFault
  | remaining (count : Nat)
  | unexpected (count : Nat)
  deriving DecidableEq, Repr

def ScriptFault.message : ScriptFault → String
  | .remaining n => "Not all expectations were met. " ++ toString n ++ " remaining"
  | .unexpected n => toString n ++ " unexpected request(s) received"

namespace Script

variable {S : Schema}

def empty : Script S :=
  ⟨[], 0⟩

def expect (s : Script S) (e : Expectation S) : Script S :=
  { s with queue := s.queue ++ [e] }

def send : Send S (Script S) := fun r s =>
  match s.queue with
  | [] => (.error .dropped, { s with unexpected := s.unexpected + 1 })
  | e :: queue =>
    match e.answer? r with
    | some a => (a, { s with queue := queue })
    | none => (.error .dropped, { s with unexpected := s.unexpected + 1 })

def verify (s : Script S) : Except ScriptFault Unit :=
  if s.queue.length ≠ 0 then .error (.remaining s.queue.length)
  else if s.unexpected ≠ 0 then .error (.unexpected s.unexpected)
  else .ok ()

end Script

end GatedStore
