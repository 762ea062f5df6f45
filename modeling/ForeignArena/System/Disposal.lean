import ForeignArena.System.Basic

namespace ForeignArena.System

/-!
# Running disposals

A disposal sets the liveness flag of its instance, then asks for the count of the
object if objects of its type are counted, then destroys the object.  An object that
others still hold is not destroyed.

* `System.dispose` — run a disposal; its panics come out of it;
* `System.disposeGuarded` — run a disposal and contain its panics;
* `System.resumeCounted`, `System.resumeDestroyed`, `System.contain` — how a disposal goes
  on.
-/

/-- The last part of a disposal: announce it, then destroy the object. -/
def destroy (s : System) (thread : ThreadId) (d : Disposal) : System :=
  ((s.note (.destroying thread d)).push (.destroying thread d)).callDestroy thread d.type
    d.address

/-- Run a disposal.  The liveness flag comes first.  An object of a reference type is
    destroyed only once its count is known. -/
def dispose (s : System) (thread : ThreadId) (d : Disposal) : System :=
  let s := s.mapStore (·.begin thread d)
  if d.type.kind.isReference then
    ((s.note (.counting thread d)).push (.counted thread d)).askCount thread d.type d.address
  else s.destroy thread d

/-- Run a disposal and contain its panics. -/
def disposeGuarded (s : System) (thread : ThreadId) (d : Disposal) : System :=
  (s.push (.guarded d)).dispose thread d

/-- Go on with a disposal whose count is known.  An object that others still hold is
    leaked. -/
def resumeCounted (s : System) (thread : ThreadId) (d : Disposal) (count : Option UInt64) :
    System :=
  match count with
  | some n =>
    if 1 < n then
      s.reply (.disposed (.error (.unexpectedRetainCount d.type.name d.address n)))
    else s.destroy thread d
  | none => s.destroy thread d

/-- Go on with a disposal whose destroy routine has ended. -/
def resumeDestroyed (s : System) (thread : ThreadId) (d : Disposal) : System :=
  (s.note (.destroyed thread d)).reply (.disposed (.ok ()))

/-- Contain a panic of a disposal. -/
def contain (s : System) (d : Disposal) (payload : Payload) : System :=
  s.discard payload fun s =>
    s.reply (.disposed (.error (.destroyPanicked d.type.name d.address payload.message)))

end ForeignArena.System
