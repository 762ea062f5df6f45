import ForeignArena.System.Closing
import ForeignArena.System.Reclamation

namespace ForeignArena

/-!
# Steps of a system

While the client is in control it can start work, and answer the request for which the
system waits.  Everything else is one deterministic step at a time.

* `Work`, `System.start` — what the client can start;
* `System.answer` — how the supplied code that was called came out;
* `System.tick` — one step of the work in progress.

A panic leaves frame after frame until one contains it: the guard of a disposal in a
closing, or the end of an action.  Containing it means dropping its payload, which may
panic again.
-/

/-- Work that the client can start: use the routines of a type, run a disposal, close
    or drop an arena, clean or drop a token, and let a reclamation thread take one
    token from its queue. -/
inductive Work where
  | count (thread : ThreadId) (type : ForeignType) (address : Address)
  | destroy (thread : ThreadId) (type : ForeignType) (address : Address)
  | dispose (thread : ThreadId) (disposal : Disposal)
  | disposeGuarded (thread : ThreadId) (disposal : Disposal)
  | close (thread : ThreadId) (arena : Nat)
  | drop (thread : ThreadId) (arena : Nat)
  | clean (thread : ThreadId) (cleaner token : Nat)
  | dropRegistration (thread : ThreadId) (registration : Registration)
  | receive (cleaner : Nat)
  deriving DecidableEq, Inhabited, Repr

namespace System

/-- Start some work.  Nothing happens unless the client is in control. -/
def start (s : System) (w : Work) : System :=
  match s.focus with
  | .handing _ => s
  | .client _ =>
    match w with
    | .count thread type address => s.askCount thread type address
    | .destroy thread type address => s.callDestroy thread type address
    | .dispose thread d => s.dispose thread d
    | .disposeGuarded thread d => s.disposeGuarded thread d
    | .close thread a => s.close thread a
    | .drop thread a => s.drop thread a
    | .clean thread c token => s.clean thread c token
    | .dropRegistration thread r => s.dropRegistration thread r
    | .receive c => s.receive c

/-- The request for which the system waits, if the client is in control and has not
    just been given an outcome. -/
def request? (s : System) : Option Request :=
  match s.focus, s.stack with
  | .client none, .awaiting r :: _ => some r
  | _, _ => none

/-- The supplied code called last has ended.  Nothing happens unless the client is in
    control and the outcome is one that the code can have. -/
def answer (s : System) (o : Outcome) : System :=
  match s.focus, s.stack with
  | .client _, .awaiting r :: rest => if r.admits o then { s with stack := rest }.hand o else s
  | _, _ => s

/-- Go on with waiting work, now that what it waited for has ended. -/
def resume (s : System) (f : Frame) (o : Outcome) : System :=
  match f, o with
  | .awaiting r, o => (s.push (.awaiting r)).yield (some o)
  | .counted thread d, .ok (.count count) => s.resumeCounted thread d count
  | .destroying thread d, .ok _ => s.resumeDestroyed thread d
  | .guarded d, .error payload => s.contain d payload
  | .sweeping thread arena attempted failures todo, .ok (.disposed result) =>
    s.resumeSweep thread arena attempted failures todo result
  | .dropping thread arena, .ok (.closed (.error e)) =>
    (s.note (.dropFailed thread arena e)).reply .done
  | .dropping _ _, .ok _ => s.reply .done
  | .reporting thread c token, .ok (.disposed (.error e)) =>
    (s.note (.autoFailed thread c token e)).reply .done
  | .reporting _ _ _, .ok _ => s.reply .done
  | .taking thread c token, _ => s.runAction thread c token
  | .running thread c token, .ok _ => s.resumeEnded thread c token
  | .running thread c token, .error payload => s.resumePanicked thread c token payload
  | .inline, .ok _ => s.reply .done
  | .reclaiming c, .ok _ => (s.mapStore (·.modifyCleaner c (·.resume))).reply .done
  | .reclaiming c, .error _ => (s.mapStore (·.modifyCleaner c (·.die))).reply .done
  | _, o => s.hand o

/-- One step of the work in progress.  An outcome that finds no waiting work, or comes
    to supplied code that is running, is news for the client. -/
def tick (s : System) : System :=
  match s.focus, s.stack with
  | .client _, _ => s
  | .handing o, [] => s.yield (some o)
  | .handing o, f :: rest => { s with stack := rest }.resume f o

end System

end ForeignArena
