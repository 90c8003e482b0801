import GatedStore.Table

/-! Stores of entities of any kind: a counter that hands out ids and a table of the entities present.
What an entity is, and what its hooks do, is the schema's affair. -/

namespace GatedStore

/-- What a hook says. One that gives way takes its store down. -/
inductive Verdict (R : Type)
  | accepted
  | refused (reason : R)
  | crashed

/-- `ofNumber` makes an id of a number of the counter. A hook may change the entity even when it refuses. -/
structure Schema where
  Id : Type
  Item : Type
  Draft : Type
  Change : Type
  Context : Type
  Refusal : Type
  [decEq : DecidableEq Id]
  [ord : Ord Id]
  [trans : Std.TransOrd Id]
  [lawful : Std.LawfulEqOrd Id]
  ofNumber : UInt64 → Id
  idText : Id → String
  construct : Id → Draft → Except Refusal Item
  onCreate : Context → Item → Item × Verdict Refusal
  onUpdate : Context → Change → Item → Item × Verdict Refusal
  onRemove : Context → Item → Verdict Refusal

attribute [instance] Schema.decEq Schema.ord Schema.trans Schema.lawful

inductive StoreError (R : Type)
  | closed
  | dropped
  | notFound (id : String)
  | duplicateId (id : String)
  | idsExhausted
  | refused (reason : R)

namespace StoreError

def message {R : Type} (text : R → String) : StoreError R → String
  | .closed => "Actor closed"
  | .dropped => "Actor dropped response channel"
  | .notFound id => "Item not found: " ++ id
  | .duplicateId id => "Duplicate id: " ++ id
  | .idsExhausted => "Id space exhausted"
  | .refused reason => "Entity error: " ++ text reason

def isInternal {R : Type} : StoreError R → Bool
  | .closed => true
  | .dropped => true
  | .notFound _ => false
  | .duplicateId _ => true
  | .idsExhausted => true
  | .refused _ => false

end StoreError

inductive Request (S : Schema)
  | list
  | get (id : S.Id)
  | create (draft : S.Draft)
  | update (id : S.Id) (change : S.Change)
  | remove (ids : List S.Id)

def Request.Reply {S : Schema} : Request S → Type
  | .list => List S.Item
  | .get _ => S.Item
  | .create _ => S.Item
  | .update _ _ => S.Item
  | .remove _ => List S.Id

abbrev Answer {S : Schema} (r : Request S) := Except (StoreError S.Refusal) r.Reply

structure Store (S : Schema) where
  context : S.Context
  items : Table S.Id S.Item
  next : UInt64

inductive Outcome (S : Schema) (A : Type)
  | answered (answer : Except (StoreError S.Refusal) A) (store : Store S)
  | crashed

namespace Store

variable {S : Schema}

def new (context : S.Context) : Store S :=
  ⟨context, Table.empty, 1⟩

def lastNumber : UInt64 := 0xFFFFFFFFFFFFFFFF

def ok {A : Type} (a : A) (s : Store S) : Outcome S A :=
  .answered (.ok a) s

def fail {A : Type} (e : StoreError S.Refusal) (s : Store S) : Outcome S A :=
  .answered (.error e) s

def list (s : Store S) : Outcome S (List S.Item) :=
  ok s.items.values s

def get (s : Store S) (id : S.Id) : Outcome S S.Item :=
  match s.items.get? id with
  | some item => ok item s
  | none => fail (.notFound (S.idText id)) s

/-- A number is used up by every attempt, so that it is never handed out again. -/
def create (s : Store S) (draft : S.Draft) : Outcome S S.Item :=
  if s.next = lastNumber then fail .idsExhausted s
  else
    let id := S.ofNumber s.next
    let s := { s with next := s.next + 1 }
    if s.items.contains id then fail (.duplicateId (S.idText id)) s
    else
      match S.construct id draft with
      | .error reason => fail (.refused reason) s
      | .ok item =>
        match S.onCreate s.context item with
        | (item, .accepted) => ok item { s with items := s.items.insert id item }
        | (_, .refused reason) => fail (.refused reason) s
        | (_, .crashed) => .crashed

def update (s : Store S) (id : S.Id) (change : S.Change) : Outcome S S.Item :=
  match s.items.get? id with
  | none => fail (.notFound (S.idText id)) s
  | some item =>
    match S.onUpdate s.context change item with
    | (item, .accepted) => ok item { s with items := s.items.insert id item }
    | (_, .refused reason) => fail (.refused reason) s
    | (_, .crashed) => .crashed

def checkRemoval (s : Store S) (id : S.Id) : Verdict (StoreError S.Refusal) :=
  match s.items.get? id with
  | none => .refused (.notFound (S.idText id))
  | some item =>
    match S.onRemove s.context item with
    | .accepted => .accepted
    | .refused reason => .refused (.refused reason)
    | .crashed => .crashed

def checkRemovals (s : Store S) : List S.Id → Verdict (StoreError S.Refusal)
  | [] => .accepted
  | id :: ids =>
    match s.checkRemoval id with
    | .accepted => s.checkRemovals ids
    | v => v

def eraseAll (s : Store S) (ids : List S.Id) : Store S :=
  { s with items := ids.foldl Table.erase s.items }

def remove (s : Store S) (ids : List S.Id) : Outcome S (List S.Id) :=
  let ids := ids.eraseDups
  match s.checkRemovals ids with
  | .accepted => ok ids (s.eraseAll ids)
  | .refused e => fail e s
  | .crashed => .crashed

def answer (s : Store S) : (r : Request S) → Outcome S r.Reply
  | .list => s.list
  | .get id => s.get id
  | .create draft => s.create draft
  | .update id change => s.update id change
  | .remove ids => s.remove ids

end Store

/-- A partner that answers requests one at a time, and its state. -/
abbrev Send (S : Schema) (σ : Type) := (r : Request S) → σ → Answer r × σ

def Send.removeOne {S : Schema} {σ : Type} (send : Send S σ) (id : S.Id) (s : σ) :
    Except (StoreError S.Refusal) Unit × σ :=
  let (a, s) := send (.remove [id]) s
  (a.map fun _ => (), s)

end GatedStore
