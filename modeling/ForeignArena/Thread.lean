import ForeignArena.Text.Layout

namespace ForeignArena

/-!
# Threads

The threads that use arenas and cleaners.  Two threads are the same only if their
identities are; a label may be shared, as by all the threads of one race.
-/

/-- The identity of a thread: the main one, a named worker, one of the threads of a
    race, or the thread on which a cleaner runs its actions. -/
inductive ThreadId where
  | main
  | worker (name : String)
  | racer (serial : Nat)
  | reclaimer (cleaner : Nat) (name : String)
  deriving DecidableEq, Inhabited, Repr

namespace ThreadId

/-- What a thread is called in logs. -/
def label : ThreadId → String
  | main => "main"
  | worker name => name
  | racer _ => "racer"
  | reclaimer _ name => "reclaim:" ++ name

/-- Whether a thread runs the actions of a cleaner. -/
def isReclaimer : ThreadId → Bool
  | reclaimer _ _ => true
  | _ => false

/-- How messages and diagnostics show a thread. -/
def debugText (t : ThreadId) : String :=
  Text.wrapped "ThreadId" t.label

end ThreadId

/-!
### Confinement

A confined object names the one thread that may use it; an unconfined one names
none and may be used from every thread.
-/

/-- The thread to which an object is bound, if it is bound to one. -/
structure Confinement where
  owner : Option ThreadId
  deriving DecidableEq, Inhabited, Repr

namespace Confinement

/-- Bound to the given thread. -/
def bound (thread : ThreadId) : Confinement := ⟨some thread⟩

/-- Bound to no thread. -/
def unconfined : Confinement := ⟨none⟩

/-- Whether the object is bound to a thread. -/
def isConfined (c : Confinement) : Bool :=
  c.owner.isSome

/-- Whether a thread may use the object. -/
def admits (c : Confinement) (thread : ThreadId) : Bool :=
  match c.owner with
  | some owner => owner == thread
  | none => true

/-- How diagnostics show the owner. -/
def ownerText (c : Confinement) : String :=
  match c.owner with
  | some owner => Text.wrapped "Some" owner.debugText
  | none => "None"

/-- How diagnostics show a confinement. -/
def debugText (c : Confinement) : String :=
  Text.record "ThreadConfinement" [("owner", c.ownerText)]

end Confinement

end ForeignArena
