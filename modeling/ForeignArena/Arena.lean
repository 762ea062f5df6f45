import ForeignArena.Disposal
import ForeignArena.Error

namespace ForeignArena

/-!
# Scoped arenas

A scoped arena collects disposals while it is active and runs them all, in the order
of registration, in the one call that closes it.  It is never active again.

* `ArenaState` — active, closed, or dropped where it could not be closed;
* `Arena.accept` — take one more disposal;
* `Arena.takePending` — the transition to closed, which hands out the list;
* `Confinement.check` — the check that comes before every use.
-/

/-- Refuses every thread but the owner. -/
def Confinement.check (c : Confinement) (caller : ThreadId) : Except ArenaError Unit :=
  match c.owner with
  | some owner => if owner = caller then .ok () else .error (.wrongThread owner caller)
  | none => .ok ()

/-- The life of a scoped arena.  An arena dropped by a thread that may not close it is
    abandoned: its disposals never run. -/
inductive ArenaState where
  | active
  | closed
  | abandoned
  deriving DecidableEq, Inhabited, Repr

/-- A scoped arena: who may use it, its state, and the disposals it has accepted and
    not yet handed out, in the order of registration. -/
structure Arena where
  confinement : Confinement
  state : ArenaState
  pending : Array Disposal := #[]

/-- What a closing that did not fail has done: how many objects it destroyed, and
    whether it was the one that closed the arena. -/
structure Closing where
  disposed : Nat
  transitioned : Bool
  deriving DecidableEq, Inhabited, Repr

namespace Arena

/-- An arena that accepts nothing: what an unknown handle stands for. -/
def void : Arena := { confinement := .unconfined, state := .closed }

instance : Inhabited Arena := ⟨void⟩

/-- A new arena. -/
def opened (confinement : Confinement) : Arena :=
  { confinement, state := .active }

/-- Whether the arena still accepts disposals. -/
def isActive (a : Arena) : Bool :=
  a.state == .active

/-- The arena with one more disposal at the end of its list. -/
def accept (a : Arena) (d : Disposal) : Arena :=
  { a with pending := a.pending.push d }

/-- The closed arena, its list handed out. -/
def takePending (a : Arena) : Arena × List Disposal :=
  ({ a with state := .closed, pending := #[] }, a.pending.toList)

/-- The arena after a drop by a thread that may not close it. -/
def abandon (a : Arena) : Arena :=
  { a with state := .abandoned }

/-- How diagnostics show an arena. -/
def debugText (a : Arena) : String :=
  Text.record "ConfinedArena"
    [("closed", Text.truth (!a.isActive)), ("owner", a.confinement.ownerText),
      ("pending", toString a.pending.size)]

end Arena

end ForeignArena
