import GatedStore.Text.Casing

/-! Lower case for all of Unicode: most characters have a lower case of one character, `İ` has one of
two, and a capital sigma becomes `ς` at the end of a word and `σ` elsewhere. -/

namespace GatedStore.Text.Lowercase

open Casing

def lowerChar (c : Char) : List Char :=
  if c.toNat < 0x80 then [c.toLower]
  else if c = 'İ' then ['i', Char.ofNat 0x307]
  else [(runs.findSome? (·.lower? c.toNat)).getD c]

def meetsCased (cs : List Char) : Bool :=
  match cs.dropWhile isIgnorable with
  | [] => false
  | c :: _ => isCased c

/-- A word ends here when a cased character stands before and none follows; `before` is read backwards. -/
def endsWord (before after : List Char) : Bool :=
  meetsCased before && !meetsCased after

def lowerAfter (before : List Char) : List Char → List Char
  | [] => []
  | c :: cs =>
    (if c = 'Σ' then [if endsWord before cs then 'ς' else 'σ'] else lowerChar c) ++
      lowerAfter (c :: before) cs

def lower (cs : List Char) : List Char :=
  lowerAfter [] cs

end GatedStore.Text.Lowercase

namespace GatedStore.Text

def lowercase (s : String) : String :=
  String.ofList (Lowercase.lower s.toList)

end GatedStore.Text
