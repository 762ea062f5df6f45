import ForeignArena.Disposal
import ForeignArena.Thread

namespace ForeignArena

/-!
# Cleaners

A cleaner owns a reclamation thread.  Each registered action comes with a token.
Dropping the token queues the action; the thread takes the queue in order.  A token
can also be cleaned, which runs the action at once on the calling thread.  The thread
stops when nobody can queue any more: when the handle and all tokens are gone.

An action leaves the live set before it runs, so it runs at most once.  It is counted
only when it has ended, as cleaned or as panicked.

* `Action`, `ThreadPhase`, `Cleaner` — the state;
* `Cleaner.insert`, `Cleaner.count`, `Cleaner.track` — register an action;
* `Cleaner.spend`, `Cleaner.enqueue`, `Cleaner.dequeue?` — the way of a token;
* `Cleaner.take?`, `Cleaner.finish`, `Cleaner.fail` — the way of an action.
-/

/-- What a cleaner runs: the disposal of an object, or code supplied by the client
    under the given tag. -/
inductive Action where
  | dispose (disposal : Disposal)
  | supplied (tag : Nat)
  deriving DecidableEq, Inhabited, Repr

/-- What a reclamation thread is doing: waiting for its queue, running an action,
    stopped because nobody could queue any more, or dead of a panic that escaped. -/
inductive ThreadPhase where
  | waiting
  | busy
  | stopped
  | dead
  deriving DecidableEq, Inhabited, Repr

/-- The counters of a cleaner. -/
structure Cleaner.Counters where
  /-- Actions ever registered. -/
  registered : Nat
  /-- Actions registered and not yet begun. -/
  pending : Nat
  /-- Actions that ended normally. -/
  cleaned : Nat
  /-- Actions that panicked. -/
  panicked : Nat
  deriving DecidableEq, Inhabited, Repr

/-- How diagnostics show the counters. -/
def Cleaner.Counters.debugText (s : Cleaner.Counters) : String :=
  Text.record "CleanerStats"
    [("registered", toString s.registered), ("pending", toString s.pending),
      ("cleaned", toString s.cleaned), ("panicked", toString s.panicked)]

/-- A cleaner. -/
structure Cleaner where
  threadName : String
  /-- The registered actions that have not begun, by token. -/
  live : List (Nat × Action) := []
  /-- The tokens that exist and have been neither dropped nor cleaned. -/
  tokens : List Nat := []
  /-- The dropped tokens that the thread has not received, first dropped first. -/
  queue : List Nat := []
  /-- The dropped tokens that were queued when the thread died. -/
  lost : List Nat := []
  nextId : Nat := 0
  registered : Nat := 0
  cleaned : Nat := 0
  panicked : Nat := 0
  /-- Whether the handle that can register actions exists. -/
  held : Bool := true
  phase : ThreadPhase := .waiting

namespace Cleaner

/-- A cleaner that runs nothing: what an unknown handle stands for. -/
def void : Cleaner := { threadName := "", held := false, phase := .stopped }

instance : Inhabited Cleaner := ⟨void⟩

/-! ### Actions -/

/-- The first half of a registration: the action joins those that have not begun.  Its
    token is the next number. -/
def insert (c : Cleaner) (action : Action) : Cleaner :=
  { c with
    live := c.live ++ [(c.nextId, action)]
    tokens := c.tokens ++ [c.nextId]
    nextId := c.nextId + 1 }

/-- The second half of a registration: the action is counted.  In between others may find
    it pending and not counted. -/
def count (c : Cleaner) : Cleaner :=
  { c with registered := c.registered + 1 }

/-- Register an action. -/
def track (c : Cleaner) (action : Action) : Cleaner :=
  (c.insert action).count

theorem track_eq (c : Cleaner) (action : Action) : c.track action =
    { c with
      live := c.live ++ [(c.nextId, action)]
      tokens := c.tokens ++ [c.nextId]
      nextId := c.nextId + 1
      registered := c.registered + 1 } := rfl

/-- Whether the action of a token has not begun. -/
def isPending (c : Cleaner) (token : Nat) : Bool :=
  (c.live.lookup token).isSome

/-- Take an action out of the live set to run it. -/
def take? (c : Cleaner) (token : Nat) : Option (Cleaner × Action) :=
  (c.live.lookup token).map fun action =>
    ({ c with live := c.live.filter fun entry => entry.1 != token }, action)

/-- Count an action that ended normally. -/
def finish (c : Cleaner) : Cleaner :=
  { c with cleaned := c.cleaned + 1 }

/-- Count an action that panicked. -/
def fail (c : Cleaner) : Cleaner :=
  { c with panicked := c.panicked + 1 }

/-! ### Tokens and the queue -/

/-- Whether the thread will still take what is queued. -/
def isReceiving (c : Cleaner) : Bool :=
  c.phase == .waiting || c.phase == .busy

/-- Whether the thread has not stopped.  A thread that died never reports so. -/
def isRunning (c : Cleaner) : Bool :=
  c.phase != .stopped

/-- The token is used up, by a drop or by a clean. -/
def spend (c : Cleaner) (token : Nat) : Cleaner :=
  { c with tokens := c.tokens.erase token }

/-- Put a dropped token at the end of the queue. -/
def enqueue (c : Cleaner) (token : Nat) : Cleaner :=
  { c with queue := c.queue ++ [token] }

/-- The waiting thread takes the first dropped token. -/
def dequeue? (c : Cleaner) : Option (Cleaner × Nat) :=
  match c.phase, c.queue with
  | .waiting, token :: rest => some ({ c with queue := rest, phase := .busy }, token)
  | _, _ => none

/-- The thread goes back to its queue. -/
def resume (c : Cleaner) : Cleaner :=
  { c with phase := .waiting }

/-- The thread dies of a panic; what is queued is lost. -/
def die (c : Cleaner) : Cleaner :=
  { c with phase := .dead, queue := [], lost := c.queue }

/-- The handle is dropped. -/
def release (c : Cleaner) : Cleaner :=
  { c with held := false }

/-- The waiting thread stops if its queue is empty and nobody can queue any more. -/
def settle (c : Cleaner) : Cleaner :=
  if c.phase == .waiting && c.queue.isEmpty && !c.held && c.tokens.isEmpty then
    { c with phase := .stopped }
  else c

/-! ### Views -/

/-- The counters, which are loaded one after the other: each from the cleaner as it is by
    then. -/
def loads (first second third fourth : Cleaner) : Cleaner.Counters :=
  { registered := first.registered
    pending := second.live.length
    cleaned := third.cleaned
    panicked := fourth.panicked }

/-- The counters, if nothing happens while they are loaded. -/
def stats (c : Cleaner) : Cleaner.Counters :=
  loads c c c c

/-- How diagnostics show the handle of a cleaner. -/
def debugText (c : Cleaner) : String :=
  Text.record "Cleaner" [("stats", c.stats.debugText)]

/-- How diagnostics show the handle of a cleaner that serves an arena. -/
def arenaDebugText (c : Cleaner) : String :=
  Text.record "AutoArena" [("cleaner", c.debugText)]

/-- How diagnostics show an observer of a cleaner. -/
def monitorDebugText (c : Cleaner) : String :=
  Text.record "CleanerMonitor"
    [("stats", c.stats.debugText), ("running", Text.truth c.isRunning)]

/-- How diagnostics show a token. -/
def tokenDebugText (c : Cleaner) (token : Nat) : String :=
  Text.record "Cleanable"
    [("id", toString token), ("pending", Text.truth (c.isPending token))]

end Cleaner

end ForeignArena
