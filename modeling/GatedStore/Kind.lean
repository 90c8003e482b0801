namespace GatedStore

inductive Kind
  | orders
  | bom
  | products
  | users
  deriving DecidableEq, Repr

namespace Kind

def all : List Kind :=
  [.orders, .bom, .products, .users]

def segment : Kind → String
  | .orders => "orders"
  | .bom => "bom"
  | .products => "products"
  | .users => "users"

def names : List (String × Kind) :=
  all.map fun kind => (kind.segment, kind)

def ofSegment? (s : String) : Option Kind :=
  names.lookup s

theorem mem_all (kind : Kind) : kind ∈ all := by
  cases kind <;> decide

theorem ofSegment?_segment (kind : Kind) : ofSegment? kind.segment = some kind := by
  cases kind <;> decide

end Kind

end GatedStore
