import GatedStore.Routing.RouteTable
import GatedStore.Text.Blank
import GatedStore.Text.Lowercase

namespace GatedStore

structure CatalogRow where
  method : String
  path : String
  permission : Option String
  name : String
  deriving DecidableEq, Repr

namespace RouteTable

variable {E : Type}

def catalog (nameOf : E → String) (t : RouteTable E) : List CatalogRow :=
  t.routes.map fun r => ⟨r.method.token, r.pattern.text, r.permission.map (·.text), nameOf r.endpoint⟩

def occursIn (query : List Char) : List Char → Bool
  | [] => query.isEmpty
  | c :: cs => query.isPrefixOf (c :: cs) || occursIn query cs

def found (query : List Char) (field : String) : Bool :=
  occursIn query (Text.Lowercase.lower field.toList)

def rowFound (query : List Char) (row : CatalogRow) : Bool :=
  found query row.path || found query row.name || found query row.method || row.permission.any (found query)

def search (nameOf : E → String) (t : RouteTable E) (query : String) : List CatalogRow :=
  let query := Text.Lowercase.lower (Text.trim query.toList)
  (t.catalog nameOf).filter fun row => query.isEmpty || rowFound query row

end RouteTable

end GatedStore
