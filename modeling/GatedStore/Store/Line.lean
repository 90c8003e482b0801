import GatedStore.Store.Basic

/-! The way to a store that runs until a hook gives way. -/

namespace GatedStore

inductive Line (S : Schema)
  | running (store : Store S)
  | closed

namespace Line

variable {S : Schema}

def new (context : S.Context) : Line S :=
  .running (Store.new context)

/-- The request that takes the store down is dropped, and later ones find it closed. -/
def send : Send S (Line S) := fun r line =>
  match line with
  | .closed => (.error .closed, .closed)
  | .running store =>
    match store.answer r with
    | .answered a store => (a, .running store)
    | .crashed => (.error .dropped, .closed)

def isRunning : Line S → Bool
  | .running _ => true
  | .closed => false

end Line

end GatedStore
