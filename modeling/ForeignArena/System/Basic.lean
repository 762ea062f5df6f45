import ForeignArena.Store.Arenas

namespace ForeignArena

/-!
# Systems

How disposals run.  Foreign routines are entered and left one at a time, and while one
of them runs, anything may be asked of any arena again.  So a system is a store with a
stack of the work that waits for something to end, and with a focus: either the client
is in control, or an outcome is on its way to the top of the stack.

* `Reply`, `Outcome` — what work ends with: a reply, or a panic;
* `Request` — a call of code that the client supplied;
* `Frame` — work that waits;
* `System` — the state;
* `System.askCount`, `System.callDestroy` — the routines of a type.
-/

/-- What work ends with if it does not panic. -/
inductive Reply where
  | done
  /-- A count routine has answered. -/
  | count (count : Option UInt64)
  /-- A disposal has run. -/
  | disposed (result : Except DisposalError Unit)
  /-- A closing has ended. -/
  | closed (result : Except ArenaError Closing)
  /-- A token was cleaned: whether its action was still there to run. -/
  | cleaned (ran : Bool)

/-- What work ends with: a reply, or the payload of a panic. -/
abbrev Outcome := Except Payload Reply

/-- A call of code that the client supplied, on a thread. -/
inductive Request where
  | count (thread : ThreadId) (type : ForeignType) (address : Address)
  | destroy (thread : ThreadId) (type : ForeignType) (address : Address)
  | action (thread : ThreadId) (tag : Nat)
  deriving DecidableEq, Inhabited, Repr

/-- The thread on which supplied code is called. -/
def Request.thread : Request → ThreadId
  | count thread _ _ => thread
  | destroy thread _ _ => thread
  | action thread _ => thread

/-- Whether supplied code can end with an outcome.  A count routine answers a count,
    everything else has nothing to say, and every code may panic. -/
def Request.admits : Request → Outcome → Bool
  | _, .error _ => true
  | count _ _ _, .ok (.count _) => true
  | destroy _ _ _, .ok .done => true
  | action _ _, .ok .done => true
  | _, _ => false

/-- How supplied code ends that does nothing: a count routine does not know the count. -/
def Request.idle : Request → Outcome
  | count _ _ _ => .ok (.count none)
  | destroy _ _ _ => .ok .done
  | action _ _ => .ok .done

/-- Work that waits for something to end. -/
inductive Frame where
  /-- Supplied code is running. -/
  | awaiting (request : Request)
  /-- A disposal waits for its count. -/
  | counted (thread : ThreadId) (disposal : Disposal)
  /-- A disposal waits for its destroy routine. -/
  | destroying (thread : ThreadId) (disposal : Disposal)
  /-- A panic of the disposal above is contained here. -/
  | guarded (disposal : Disposal)
  /-- A closing waits for one disposal; others are still to do. -/
  | sweeping (thread : ThreadId) (arena attempted : Nat) (failures : List DisposalError)
      (todo : List Disposal)
  /-- A drop waits for the closing that it started. -/
  | dropping (thread : ThreadId) (arena : Nat)
  /-- An action waits for the disposal that it is. -/
  | reporting (thread : ThreadId) (cleaner token : Nat)
  /-- A token is used up, and its action is about to be taken out of the live set. -/
  | taking (thread : ThreadId) (cleaner token : Nat)
  /-- A cleaner waits for an action. -/
  | running (thread : ThreadId) (cleaner token : Nat)
  /-- A dropped token waits for its action, run in place. -/
  | inline
  /-- A reclamation thread waits for the action that it took from its queue. -/
  | reclaiming (cleaner : Nat)

/-- Who moves next: the client, who may have just been given an outcome, or the top of
    the stack, to which an outcome is handed. -/
inductive Focus where
  | client (news : Option Outcome)
  | handing (outcome : Outcome)

/-- A store, the work that waits in it, innermost first, and who moves next. -/
structure System where
  store : Store := {}
  stack : List Frame := []
  focus : Focus := .client none

namespace System

/-! ### Building blocks -/

/-- The system with its store changed. -/
def mapStore (s : System) (f : Store → Store) : System :=
  { s with store := f s.store }

/-- The system with one more happening. -/
def note (s : System) (h : Happening) : System :=
  s.mapStore (·.note h)

/-- The system with one more frame of waiting work. -/
def push (s : System) (f : Frame) : System :=
  { s with stack := f :: s.stack }

/-- Hand an outcome to the top of the stack. -/
def hand (s : System) (o : Outcome) : System :=
  { s with focus := .handing o }

/-- Hand a reply to the top of the stack. -/
def reply (s : System) (r : Reply) : System :=
  s.hand (.ok r)

/-- Put the client in control, with the outcome of what it asked for if there is one. -/
def yield (s : System) (news : Option Outcome) : System :=
  { s with focus := .client news }

/-- Call supplied code: the client is in control until it answers. -/
def request (s : System) (r : Request) : System :=
  (s.push (.awaiting r)).yield none

/-- Drop a caught payload.  A panic of its destructor takes the place of what would
    have followed. -/
def discard (s : System) (payload : Payload) (next : System → System) : System :=
  match payload.dropped? with
  | some again => s.hand (.error again)
  | none => next s

/-! ### Routines of types -/

/-- Ask a type for the count of an object. -/
def askCount (s : System) (thread : ThreadId) (type : ForeignType) (address : Address) :
    System :=
  match s.store.knownCount? type address with
  | some count => s.reply (.count count)
  | none => s.request (.count thread type address)

/-- Call the destroy routine of a type. -/
def callDestroy (s : System) (thread : ThreadId) (type : ForeignType) (address : Address) :
    System :=
  match s.store.destroyKnown? type address with
  | some (store, some payload) => { s with store }.hand (.error payload)
  | some (store, none) => { s with store }.reply .done
  | none => s.request (.destroy thread type address)

end System

end ForeignArena
