import ForeignArena.Address

namespace ForeignArena

/-!
# Foreign types

A descriptor says how objects of one foreign type are destroyed.  It is a shared
handle: two descriptors are the same only if their identities are, whatever their
names.

* `TypeKind` — counted references, or values destroyed in place;
* `Routines` — where the answers of the type's routines come from;
* `ForeignType` — the descriptor.
-/

/-- How objects of a type are held: by counted references, or as values. -/
inductive TypeKind where
  | reference
  | value
  deriving DecidableEq, Inhabited, Repr

namespace TypeKind

/-- Whether objects of the type are counted. -/
def isReference : TypeKind → Bool
  | reference => true
  | value => false

/-- How diagnostics show a kind. -/
def debugText : TypeKind → String
  | reference => "Reference"
  | value => "Value"

end TypeKind

/-- Where the routines of a type live: in code supplied with the descriptor, in a
    tally that only records the calls, nowhere at all, or on a heap of counted
    objects or of values. -/
inductive Routines where
  /-- Supplied code.  A reference type comes with a count routine, a value type
      without one. -/
  | supplied
  /-- A tally of the calls, kept under the given number.  If `panics`, every destroy
      call panics once it is recorded. -/
  | tallied (tally : Nat) (panics : Bool)
  /-- Count one for every object, and a destroy routine that does nothing. -/
  | inert
  /-- No count, and a destroy routine that does nothing. -/
  | uncounted
  /-- Objects of a heap: the count is the heap's, and destroying gives up one
      reference. -/
  | heapObject (heap : Nat)
  /-- Values of a heap: no count, and destroying frees the value. -/
  | heapValue (heap : Nat)
  deriving DecidableEq, Inhabited, Repr

/-- The descriptor of a foreign type. -/
structure ForeignType where
  /-- The identity of the descriptor. -/
  id : Nat
  name : String
  kind : TypeKind
  /-- Whether the null address is an object of the type. -/
  permitsNull : Bool := false
  routines : Routines
  deriving DecidableEq, Inhabited, Repr

end ForeignArena
