import ForeignArena.Config
import ForeignArena.Disposal
import ForeignArena.Payload

namespace ForeignArena.Scenario

/-!
# Commands

A scenario is a list of steps, each of which gives one command.  Commands name the
things they make and use; all things share one space of names.  Types and actions may
come with *hooks*: lists of steps that their code runs when it is called.

* `PanicPlan` — the panic with which a piece of supplied code ends;
* `SuppliedCode` — the code of a type made by a scenario;
* `Command` — everything that can be asked for;
* `Step` — a command with the name it is logged under, the thread it runs on, and the
  name that it needs to be free.

Commands are grouped by what they are about.  They take the type of hooks as a
parameter; `Step` ties the knot.
-/

/-- The panic with which a piece of supplied code ends: its payload if there is one,
    and the addresses to which it is limited. -/
structure PanicPlan where
  payload : Option Payload := none
  addresses : Option (List Address) := none
  deriving Inhabited

/-- The panic planned for an object. -/
def PanicPlan.payloadFor? (plan : PanicPlan) (address : Address) : Option Payload :=
  match plan.addresses with
  | some addresses => if addresses.contains address then plan.payload else none
  | none => plan.payload

/-- The code of a type made by a scenario: what its destroy and count routines run, how
    they end, and the counts that the latter answers. -/
structure SuppliedCode (hook : Type) where
  onDestroy : hook
  onCount : hook
  destroyPanic : PanicPlan := {}
  countPanic : PanicPlan := {}
  count : UInt64 := 1
  /-- Counts for single objects, the latest first. -/
  counts : List (Address × UInt64) := []

/-- What a new type is made of. -/
inductive TypeSource (hook : Type) where
  | tallied (kind : TypeKind) (panics : Bool) (count : UInt64)
  | inert
  | uncounted (kind : TypeKind)
  | supplied (kind : TypeKind) (permitsNull : Bool) (code : SuppliedCode hook)

/-- Liveness flags. -/
inductive FlagCommand where
  | new (id : String)
  | clone (id of : String)
  | mark (of : String)
  | read (of : String)
  | ensure (of typeName : String)
  | same (a b : String)

/-- The objects of a type for which a count is set. -/
inductive CountScope where
  | all
  /-- One object; its address is `none` if it could not be read. -/
  | single (address : Option Address)

/-- Types. -/
inductive TypeCommand (hook : Type) where
  | new (id name : String) (source : TypeSource hook)
  | info (of : String)
  | setCount (of : String) (count : UInt64) (scope : CountScope)
  | calls (of : String)

/-- Registries. -/
inductive RegistryCommand where
  | new (id : String)
  | register (of type : String)
  | find (of name : String)
  | findOrMake (of name type : String) (panic : PanicPlan)
  | info (of : String)

/-- Disposals. -/
inductive DisposalCommand where
  | new (id : String) (address : Address) (type flag : String)
  | info (of : String)
  | register (id arena disposal : String)

/-- Arenas. -/
inductive ArenaCommand where
  | new (id : String) (config : ArenaConfig)
  | newAuto (id : String) (config : CleanerConfig)
  | info (of : String)
  | takeOverMany (id arena type : String) (n : Nat)
  | batchInfo (of : String)

/-- Cleaners. -/
inductive CleanerCommand (hook : Type) where
  | new (id : String) (config : CleanerConfig)
  | track (id cleaner : String) (body : hook) (panic : PanicPlan)
  | tokenInfo (of : String)
  | monitor (id of : String)
  | stats (of : String)
  | running (of : String)

/-- Instances and their wrappers. -/
inductive InstanceCommand where
  | new (id : String) (address : Address) (type arena : String) (checked : Bool)
  | newObject (id runtime : String) (payload : Int64) (arena : String)
  | newValue (id runtime : String) (payload : Int64) (arena : String)
  | info (of : String)
  | checkAlive (of : String)
  | address (of : String)
  | touch (of : String)
  | echo (of : String) (value : Int64)
  | payload (of : String)
  | retain (of : String)
  | capacity (of : String)
  | flag (id of : String)

/-- Runtimes and their heaps. -/
inductive HeapCommand where
  | new (id : String)
  | type (id of : String) (kind : TypeKind) (name : String)
  | info (of : String)
  | allocate (of typeName : String) (payload : Int64)
  | retain (of : String) (address : Address)
  | release (of : String) (address : Address)
  | destroy (of : String) (address : Address)
  | get (of : String) (address : Address)

/-- Slot tables. -/
inductive SlotCommand where
  | new (id : String)
  | insert (of : String) (value : Int64)
  | get (of : String) (address : Address)
  | remove (of : String) (address : Address)
  | add (of : String) (address : Address) (value : Int64)
  | info (of : String)

/-- Confinements. -/
inductive ConfinementCommand where
  | new (id : String) (bound : Bool)
  | info (of : String)
  | check (of : String)
  | same (a b : String)

/-- What may call supplied code, and so may take any number of steps. -/
inductive WorkCommand (hook : Type) where
  | count (of : String) (address : Address)
  | destroy (of : String) (address : Address)
  | dispose (of : String) (guarded : Bool)
  | close (of : String)
  | race (of : String) (n : Nat)
  | closeChain (of : String)
  | clean (of : String)
  | call (of : String) (add : UInt64) (body : hook)
  | fill (id : String) (n : Nat)
  /-- Drop things one after the other; a name that could not be read is `none`. -/
  | drop (ids : List (Option String))

/-- Everything that can be asked for. -/
inductive Command (hook : Type) where
  | flag (c : FlagCommand)
  | type (c : TypeCommand hook)
  | registry (c : RegistryCommand)
  | disposal (c : DisposalCommand)
  | arena (c : ArenaCommand)
  | cleaner (c : CleanerCommand hook)
  | inst (c : InstanceCommand)
  | heap (c : HeapCommand)
  | slots (c : SlotCommand)
  | confinement (c : ConfinementCommand)
  | work (c : WorkCommand hook)
  | debug (of : String)
  | mark (text : String)
  | wait
  /-- What could not be understood. -/
  | malformed

/-- One step: the name under which it is logged, the worker on which it runs if it does
    not run on the current thread, the name of a thing that must not exist yet, and its
    command. -/
inductive Step where
  | step (name worker fresh : Option String) (command : Command (List Step))

instance : Inhabited Step := ⟨.step none none none .malformed⟩

/-- A list of steps that supplied code runs. -/
abbrev Hook := List Step

/-- The name under which a step is logged. -/
def Step.name : Step → Option String
  | step name _ _ _ => name

/-- The command of a step. -/
def Step.command : Step → Command Hook
  | step _ _ _ command => command

end ForeignArena.Scenario
