import GatedStore.Routing.Path
import GatedStore.Table

namespace GatedStore

inductive Segment
  | literal (text : String)
  | param (name : String)
  deriving DecidableEq, Repr

namespace Segment

def isBrace (c : Char) : Bool :=
  c == '\x7b' || c == '\x7d'

def isReserved (c : Char) : Bool :=
  isBrace c || Path.isEnd c

def Valid : Segment → Prop
  | .literal text => text.toList ≠ [] ∧ '/' ∉ text.toList ∧ ∀ c ∈ text.toList, isReserved c = false
  | .param name => name.toList ≠ [] ∧ '/' ∉ name.toList ∧ ∀ c ∈ name.toList, isBrace c = false

def name? : Segment → Option String
  | .literal _ => none
  | .param name => some name

def chars : Segment → List Char
  | .literal text => '/' :: text.toList
  | .param name => '/' :: '\x7b' :: name.toList ++ ['\x7d']

end Segment

structure Pattern where
  segments : List Segment
  valid : ∀ s ∈ segments, s.Valid
  distinct : (segments.filterMap Segment.name?).Nodup
  deriving DecidableEq

namespace Pattern

inductive Flaw
  | badName
  | repeatedName
  | strayBrace
  deriving DecidableEq, Repr

def Flaw.message : Flaw → String
  | .badName => "parameter names must be non-empty and unbraced"
  | .repeatedName => "parameter names must be unique"
  | .strayBrace => "a segment is either a literal or a whole \x7bparam\x7d"

def braced? : List Char → Option (List Char)
  | [] => none
  | c :: cs => if c = '\x7b' ∧ cs.getLast? = some '\x7d' then some cs.dropLast else none

def readSegment (seen : List String) (part : List Char) : Except Flaw Segment :=
  match braced? part with
  | some name =>
    if name = [] ∨ name.any Segment.isBrace then .error .badName
    else if String.ofList name ∈ seen then .error .repeatedName
    else .ok (.param (String.ofList name))
  | none => if part.any Segment.isReserved then .error .strayBrace else .ok (.literal (String.ofList part))

def readSegments (seen : List String) : List (List Char) → Except Flaw (List Segment)
  | [] => .ok []
  | part :: rest => do
    let segment ← readSegment seen part
    let segments ← readSegments (segment.name?.toList ++ seen) rest
    .ok (segment :: segments)

theorem mem_of_braced? {part name : List Char} (h : braced? part = some name) : ∀ c ∈ name, c ∈ part := by
  cases part with
  | nil => cases h
  | cons c cs =>
    simp only [braced?] at h
    split at h
    · cases h
      exact fun d hd => List.mem_cons_of_mem _ ((List.dropLast_sublist cs).subset hd)
    · cases h

theorem readSegment_valid {seen : List String} {part : List Char} {s : Segment}
    (hp : part ≠ [] ∧ '/' ∉ part) (h : readSegment seen part = .ok s) : s.Valid ∧ ∀ n ∈ s.name?, n ∉ seen := by
  simp only [readSegment] at h
  split at h
  · rename_i name hn
    split at h
    · cases h
    · rename_i hname
      split at h
      · cases h
      · rename_i hseen
        cases h
        simp only [not_or, Bool.not_eq_true, List.any_eq_false] at hname
        refine ⟨⟨by simpa using hname.1, fun hm => hp.2 (mem_of_braced? hn _ (by simpa using hm)), ?_⟩, ?_⟩
        · intro c hc
          exact hname.2 c (by simpa using hc)
        · intro n hm
          simp only [Segment.name?, Option.mem_def, Option.some.injEq] at hm
          exact hm ▸ hseen
  · split at h
    · cases h
    · rename_i hres
      cases h
      simp only [Bool.not_eq_true, List.any_eq_false] at hres
      refine ⟨⟨by simpa using hp.1, by simpa using hp.2, ?_⟩, by simp [Segment.name?]⟩
      intro c hc
      exact hres c (by simpa using hc)

theorem readSegments_valid {seen : List String} {rest : List (List Char)} {ss : List Segment}
    (hp : ∀ part ∈ rest, part ≠ [] ∧ '/' ∉ part) (h : readSegments seen rest = .ok ss) :
    (∀ s ∈ ss, s.Valid) ∧ (ss.filterMap Segment.name?).Nodup ∧
      ∀ n ∈ ss.filterMap Segment.name?, n ∉ seen := by
  induction rest generalizing seen ss with
  | nil =>
    cases h
    simp
  | cons part rest ih =>
    simp only [readSegments, bind, Except.bind] at h
    split at h
    · cases h
    · rename_i s hs
      split at h
      · cases h
      · rename_i ss' hss
        cases h
        obtain ⟨hv, hn⟩ := readSegment_valid (hp part List.mem_cons_self) hs
        obtain ⟨hvs, hd, hns⟩ := ih (fun q hq => hp q (List.mem_cons_of_mem _ hq)) hss
        refine ⟨?_, ?_, ?_⟩
        · intro q hq
          rcases List.mem_cons.mp hq with rfl | hq
          · exact hv
          · exact hvs q hq
        · cases hname : s.name? with
          | none => simpa [List.filterMap_cons, hname] using hd
          | some n =>
            simp only [List.filterMap_cons, hname, List.nodup_cons]
            exact ⟨fun hm => hns n hm (by simp [hname]), hd⟩
        · intro n hm
          cases hname : s.name? with
          | none =>
            rw [List.filterMap_cons, hname] at hm
            exact fun hs => hns n hm (List.mem_append_right _ hs)
          | some n' =>
            rw [List.filterMap_cons, hname] at hm
            rcases List.mem_cons.mp hm with rfl | hm
            · exact hn n hname
            · exact fun hs => hns n hm (List.mem_append_right _ hs)

def parse (text : String) : Except Flaw Pattern :=
  match h : readSegments [] (Path.parts text.toList) with
  | .ok segments =>
    let v := readSegments_valid (fun _ hp => Path.mem_parts hp) h
    .ok ⟨segments, v.1, v.2.1⟩
  | .error flaw => .error flaw

def joinText (base text : String) : String :=
  base ++ "/" ++ text

def join (base text : String) : Except Flaw Pattern :=
  parse (joinText base text)

def text (p : Pattern) : String :=
  if p.segments.isEmpty then "/" else String.ofList (p.segments.flatMap Segment.chars)

abbrev Params := Table String String

def bindings : List Segment → List String → Option (List (String × String))
  | [], [] => some []
  | .literal text :: ss, v :: vs => if text = v then bindings ss vs else none
  | .param name :: ss, v :: vs => (bindings ss vs).map ((name, v) :: ·)
  | _, _ => none

def bind? (p : Pattern) (path : List String) : Option Params :=
  (bindings p.segments path).map Table.ofList

def sameSegments : List Segment → List Segment → Bool
  | [], [] => true
  | .literal a :: ss, .literal b :: ts => a == b && sameSegments ss ts
  | .param _ :: ss, .param _ :: ts => sameSegments ss ts
  | _, _ => false

def sameShape (p q : Pattern) : Bool :=
  sameSegments p.segments q.segments

/-- Where a literal first meets a parameter, the side of the literal is more specific. -/
def segmentsMoreSpecific : List Segment → List Segment → Bool
  | .literal _ :: _, .param _ :: _ => true
  | .param _ :: _, .literal _ :: _ => false
  | _ :: ss, _ :: ts => segmentsMoreSpecific ss ts
  | _, _ => false

def moreSpecific (p q : Pattern) : Bool :=
  segmentsMoreSpecific p.segments q.segments

end Pattern

end GatedStore
