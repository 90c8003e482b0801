namespace GatedStore

namespace Method

def isTokenChar (c : Char) : Bool :=
  c.isAlphanum || "!#$%&'*+-.^_`|~".toList.contains c

def IsToken (s : String) : Prop :=
  s.toList ≠ [] ∧ s.toList.all isTokenChar = true

instance (s : String) : Decidable (IsToken s) :=
  inferInstanceAs (Decidable (_ ∧ _))

end Method

structure Method where
  token : String
  isToken : Method.IsToken token
  deriving DecidableEq

namespace Method

def ofString? (s : String) : Option Method :=
  if h : IsToken s then some ⟨s, h⟩ else none

def get : Method :=
  ⟨"GET", by decide⟩

def post : Method :=
  ⟨"POST", by decide⟩

end Method

end GatedStore
