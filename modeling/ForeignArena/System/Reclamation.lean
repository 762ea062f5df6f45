import ForeignArena.System.Disposal

namespace ForeignArena.System

/-!
# Running actions

The action of a token runs in one of three places: at once on the thread that cleans
the token, on the reclamation thread once it has received the dropped token, or on the
thread that drops the token if the reclamation thread is dead.

* `System.clean` — clean a token;
* `System.dropToken`, `System.dropRegistration` — drop a token, or the receipt that
  holds one;
* `System.receive` — a reclamation thread takes a token from its queue;
* `System.takeAction`, `System.runAction`, `System.resumePanicked` — how an action begins
  and ends.

A token is used up in one step and its action is taken in a later one, as other threads
may come in between.
-/

/-- Run the action of a token, unless it has begun before. -/
def runAction (s : System) (thread : ThreadId) (c token : Nat) : System :=
  match (s.store.cleaner c).take? token with
  | none => s.reply (.cleaned false)
  | some (cleaner, action) =>
    let s := s.mapStore (·.modifyCleaner c fun _ => cleaner)
    let s := (s.note (.started thread c token action)).push (.running thread c token)
    match action with
    | .dispose d => (s.push (.reporting thread c token)).dispose thread d
    | .supplied tag => s.request (.action thread tag)

/-- Go on after an action that ended normally. -/
def resumeEnded (s : System) (thread : ThreadId) (c token : Nat) : System :=
  let s := s.mapStore (·.modifyCleaner c (·.finish))
  (s.note (.actionEnded thread c token)).reply (.cleaned true)

/-- Go on after an action that panicked. -/
def resumePanicked (s : System) (thread : ThreadId) (c token : Nat) (payload : Payload) :
    System :=
  let s := s.mapStore (·.modifyCleaner c (·.fail))
  (s.note (.actionPanicked thread c token payload.message)).discard payload
    (·.reply (.cleaned true))

/-- Turn to the action of a token that has been used up. -/
def takeAction (s : System) (thread : ThreadId) (c token : Nat) : System :=
  (s.push (.taking thread c token)).reply .done

/-- Clean a token: its action runs at once on the calling thread. -/
def clean (s : System) (thread : ThreadId) (c token : Nat) : System :=
  if (s.store.cleaner c).tokens.contains token then
    (s.mapStore (·.modifyCleaner c (·.spend token))).takeAction thread c token
  else s.reply (.cleaned false)

/-- Drop a token: its action is queued.  If the thread that should take it is dead, the
    action runs at once. -/
def dropToken (s : System) (thread : ThreadId) (c token : Nat) : System :=
  if (s.store.cleaner c).tokens.contains token then
    let s := s.mapStore (·.modifyCleaner c (·.spend token))
    if (s.store.cleaner c).isReceiving then
      ((s.mapStore (·.modifyCleaner c (·.enqueue token))).note (.queued c token)).reply .done
    else ((s.note (.threadGone thread c token)).push .inline).takeAction thread c token
  else s.reply .done

/-- Drop the receipt of a registered disposal. -/
def dropRegistration (s : System) (thread : ThreadId) (r : Registration) : System :=
  match r with
  | .plain => s.reply .done
  | .tracked c token => s.dropToken thread c token

/-- Let a waiting reclamation thread take one token from its queue, if there is one. -/
def receive (s : System) (c : Nat) : System :=
  match (s.store.cleaner c).dequeue? with
  | none => s.reply .done
  | some (cleaner, token) =>
    let thread := ThreadId.reclaimer c cleaner.threadName
    let s := s.mapStore (·.modifyCleaner c fun _ => cleaner)
    ((s.note (.received c token)).push (.reclaiming c)).takeAction thread c token

end ForeignArena.System
