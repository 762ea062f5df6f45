import ForeignArena.System.Disposal

namespace ForeignArena.System

/-!
# Closing scoped arenas

The call that finds an arena active closes it and runs its disposals, in the order of
registration, each with its panics contained.  The failures are collected and do not
stop the others.

* `System.close` — close an arena;
* `System.drop` — drop an arena, which closes it if it is active and the thread may;
* `System.sweep`, `System.resumeSweep` — how a closing goes on.
-/

/-- Go on with a closing: start the next disposal, or end with the result. -/
def sweep (s : System) (thread : ThreadId) (arena attempted : Nat)
    (failures : List DisposalError) (todo : List Disposal) : System :=
  match todo with
  | d :: rest =>
    let s := s.note (.attempting thread arena d)
    (s.push (.sweeping thread arena attempted failures rest)).disposeGuarded thread d
  | [] =>
    let s := s.note (.arenaClosed thread arena attempted failures.length)
    if failures.isEmpty then s.reply (.closed (.ok ⟨attempted, true⟩))
    else s.reply (.closed (.error (.disposal ⟨attempted, failures⟩)))

/-- Go on with a closing after one disposal. -/
def resumeSweep (s : System) (thread : ThreadId) (arena attempted : Nat)
    (failures : List DisposalError) (todo : List Disposal)
    (result : Except DisposalError Unit) : System :=
  match result with
  | .ok () => s.sweep thread arena attempted failures todo
  | .error e =>
    (s.note (.leaked thread arena e)).sweep thread arena attempted (failures ++ [e]) todo

/-- Close an arena.  The thread is checked first.  Only the call that finds the arena
    active runs its disposals. -/
def close (s : System) (thread : ThreadId) (a : Nat) : System :=
  let arena := s.store.arena a
  match arena.confinement.check thread with
  | .error e => s.reply (.closed (.error e))
  | .ok () =>
    if arena.isActive then
      let (closed, todo) := arena.takePending
      let s := (s.mapStore (·.modifyArena a fun _ => closed)).note (.closing thread a)
      s.sweep thread a todo.length [] todo
    else s.reply (.closed (.ok ⟨0, false⟩))

/-- Drop an arena.  An active one is closed, or abandoned if the thread may not close
    it. -/
def drop (s : System) (thread : ThreadId) (a : Nat) : System :=
  let arena := s.store.arena a
  if !arena.isActive then s.reply .done
  else if !arena.confinement.admits thread then
    let s := s.note (.arenaAbandoned thread a arena.confinement arena.pending.size)
    (s.mapStore (·.modifyArena a (·.abandon))).reply .done
  else (s.push (.dropping thread a)).close thread a

end ForeignArena.System
