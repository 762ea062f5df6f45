import ForeignArena.ForeignType
import ForeignArena.Payload

namespace ForeignArena

/-!
# Type registries

A registry keeps one descriptor per name, in the order in which the names were first
registered.  The first descriptor under a name wins forever.  The maker of a new
descriptor may panic: then nothing is registered, and the registry stays usable but
is marked poisoned.

* `Registry.find?` — the descriptor under a name;
* `Registry.findOrMake` — the descriptor under a name, made on first use.
-/

/-- Descriptors by name, first registered first. -/
structure Registry where
  entries : List (String × ForeignType) := []
  /-- Whether a maker has panicked in the middle of a registration. -/
  poisoned : Bool := false
  deriving Inhabited

namespace Registry

/-- The descriptor under a name. -/
def find? (r : Registry) (name : String) : Option ForeignType :=
  r.entries.lookup name

/-- The registered names, first registered first. -/
def names (r : Registry) : List String :=
  r.entries.map (·.1)

/-- The number of registered names. -/
def size (r : Registry) : Nat :=
  r.entries.length

/-- The outcome of a look-up that may register: the descriptor now under the name or
    the maker's panic, and whether the maker ran. -/
structure Lookup where
  result : Except Payload ForeignType
  made : Bool

/-- The descriptor under a name.  If there is none yet, the maker's descriptor is
    registered under the name, whatever name the descriptor itself carries. -/
def findOrMake (r : Registry) (name : String) (make : Except Payload ForeignType) :
    Registry × Lookup :=
  match r.find? name with
  | some type => (r, ⟨.ok type, false⟩)
  | none =>
    match make with
    | .ok type => ({ r with entries := r.entries ++ [(name, type)] }, ⟨.ok type, true⟩)
    | .error payload => ({ r with poisoned := true }, ⟨.error payload, true⟩)

/-- Register a descriptor under its own name. -/
def register (r : Registry) (type : ForeignType) : Registry × Lookup :=
  r.findOrMake type.name (.ok type)

end Registry

end ForeignArena
