import GatedStore.Access.Permission

namespace GatedStore

structure Principal where
  id : String
  permissions : Table Permission Unit

namespace Principal

def new (id : String) : Principal :=
  ⟨id, Table.empty⟩

def anonymous : Principal :=
  new "anonymous"

def allow (p : Principal) (permission : Permission) : Principal :=
  { p with permissions := p.permissions.insert permission () }

def allowAll (p : Principal) (permissions : List Permission) : Principal :=
  permissions.foldl allow p

def held (p : Principal) : List Permission :=
  p.permissions.keys

end Principal

end GatedStore
