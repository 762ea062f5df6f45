import ForeignArena.Store.Arenas

namespace ForeignArena.Scenario

/-!
# Answers

What a step answers, and what the code of hooks logs.
-/

/-- Why a step did not do what it was asked. -/
inductive Refusal where
  /-- The command was malformed, named an unknown thing, a thing of the wrong sort, or
      gave a name that was taken. -/
  | badInput
  /-- A panic came out of the step. -/
  | panic (message : String)
  | inst (error : InstanceError)
  | disposal (error : DisposalError)
  | cleaner (error : CleanerError)
  | arena (error : ArenaError)
  /-- The step took more work than the scenario allows. -/
  | exhausted
  deriving DecidableEq, Inhabited, Repr

/-- A descriptor as a registry answers it: with the names that the scenario has for
    it. -/
structure TypeIdentity where
  name : String
  kind : TypeKind
  ids : List String
  deriving Inhabited, Repr

/-- What is to be said of an instance. -/
structure InstanceInfo where
  inst : Instance
  destroyed : Bool
  /-- The names that the scenario has for the type. -/
  typeIds : List String
  deriving Inhabited, Repr

/-- What a step answers. -/
inductive Answer where
  | ok
  | nothing
  | refused (refusal : Refusal)
  | truth (b : Bool)
  | number (n : Int)
  | address (a : Address)
  | text (s : String)
  | liveness (destroyed : Bool)
  | typeInfo (type : ForeignType) (count : Option UInt64)
  | calls (destroyed : List Address)
  | identity (i : TypeIdentity)
  | lookup (i : TypeIdentity) (made : Bool)
  | names (names : List String)
  | disposalInfo (d : Disposal) (destroyed : Bool)
  | registered (tracked : Bool)
  | arenaInfo (arena : Arena) (isOwner : Bool)
  | closed (result : Closing)
  | race (answers : List Answer)
  | failure (error : ArenaError)
  | token (id : Nat)
  | tokenInfo (id : Nat) (pending : Bool)
  | stats (stats : Cleaner.Counters)
  | instanceInfo (info : InstanceInfo)
  | batchInfo (size alive : Nat) (first last : Option Address)
  | madeType (type : ForeignType)
  | heapInfo (heap : Heap) (types : List String)
  | object (object : Option HeapObject)
  | tableInfo (size : Nat)
  | confinementInfo (confinement : Confinement) (isOwner : Bool)
  deriving Inhabited

namespace Answer

/-- The answer to what cannot be understood. -/
def badInput : Answer := .refused .badInput

/-- The answer of a step out of which a panic came. -/
def panicked (payload : Payload) : Answer := .refused (.panic payload.message)

/-- A number, or nothing. -/
def ofCount : Option UInt64 → Answer
  | some n => .number n.toNat
  | none => .nothing

/-- A value of a slot table, or nothing. -/
def ofValue : Option Int64 → Answer
  | some n => .number n.toInt
  | none => .nothing

/-- Nothing more to say, or an error of an arena. -/
def ofArena : Except ArenaError Unit → Answer
  | .ok () => .ok
  | .error e => .refused (.arena e)

/-- Nothing more to say, or an error of an instance. -/
def ofInstance : Except InstanceError Unit → Answer
  | .ok () => .ok
  | .error e => .refused (.inst e)

/-- The result of a closing. -/
def ofClosing : Except ArenaError Closing → Answer
  | .ok report => .closed report
  | .error e => .refused (.arena e)

/-- The result of a disposal. -/
def ofDisposal : Except DisposalError Unit → Answer
  | .ok () => .ok
  | .error e => .refused (.disposal e)

end Answer

/-- What the code of hooks logs. -/
inductive LogEntry where
  | destroy (type : String) (address : Address) (thread : ThreadId)
  | count (type : String) (address : Address) (count : UInt64)
  | action (token : String) (thread : ThreadId)
  | mark (text : String) (thread : ThreadId)
  | step (name : Option String) (answer : Answer)
  deriving Inhabited

end ForeignArena.Scenario
