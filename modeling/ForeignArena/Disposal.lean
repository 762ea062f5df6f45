import ForeignArena.ForeignType

namespace ForeignArena

/-!
# Disposals

What it takes to release one foreign object: its address, its type, and the liveness
flag that its wrapper reads.  A disposal never refers back to the wrapper, so the
wrapper may become unreachable while the disposal waits.

* `Disposal` — the release of one object;
* `Registration` — the receipt for a registered disposal;
* `Instance` — an object that is owned through a wrapper.
-/

/-- The release of one object. -/
structure Disposal where
  address : Address
  type : ForeignType
  /-- The liveness flag, set before anything foreign is touched. -/
  flag : Nat
  deriving DecidableEq, Inhabited, Repr

/-- Where disposals are registered: with a scoped arena, which runs them when it is
    closed, or with a cleaner, which runs each after its token is dropped. -/
inductive ArenaRef where
  | confined (arena : Nat)
  | auto (cleaner : Nat)
  deriving DecidableEq, Inhabited, Repr

/-- The receipt for a registered disposal.  A plain one does nothing; a tracked one is
    the token whose drop lets the disposal run. -/
inductive Registration where
  | plain
  | tracked (cleaner token : Nat)
  deriving DecidableEq, Inhabited, Repr

/-- Whether the disposal is triggered by dropping its receipt. -/
def Registration.isTracked : Registration → Bool
  | plain => false
  | tracked _ _ => true

/-- A foreign object as its wrapper holds it. -/
structure Instance where
  address : Address
  type : ForeignType
  flag : Nat
  registration : Registration
  deriving DecidableEq, Inhabited, Repr

end ForeignArena
