import ForeignArena.Scenario.Answer
import ForeignArena.Scenario.Command
import ForeignArena.System.Step
import ForeignArena.Store.Describe
import ForeignArena.Store.Wrapper

namespace ForeignArena.Scenario

/-!
# The state of a scenario

A system, the things that the scenario has names for, and the code that it supplied.

* `Item` — a named thing;
* `State` — the state;
* `State.find?`, `State.add`, `State.erase` — the names;
* `State.typeIds` — the names of one descriptor.
-/

/-- A named thing. -/
inductive Item where
  | flag (flag : Nat)
  | type (type : ForeignType)
  | registry (r : Nat)
  | disposal (d : Disposal)
  | arena (a : Nat)
  | auto (c : Nat)
  | registration (r : Registration)
  | cleaner (c : Nat)
  | monitor (c : Nat)
  | token (c token : Nat)
  | inst (wrapper : Wrapper) (inst : Instance)
  | batch (instances : Array Instance)
  | runtime (runtime : ForeignRuntime)
  | slots (table : AddressTable Int64)
  | confinement (c : Confinement)
  deriving Inhabited

/-- The code of an action: the name of its token, the steps it runs, and how it
    ends. -/
structure ActionCode where
  token : String
  body : Hook
  panic : PanicPlan

/-- The state of a scenario. -/
structure State where
  system : System := {}
  /-- The named things. -/
  items : List (String × Item) := []
  /-- The code of the types that the scenario made, by descriptor. -/
  types : List (Nat × SuppliedCode Hook) := []
  /-- The code of the actions that the scenario made, by tag. -/
  actions : Array ActionCode := #[]
  /-- What hooks have logged during the current step, the latest first. -/
  log : List LogEntry := []
  /-- The number of threads that have taken part in races. -/
  racers : Nat := 0
  /-- The flags of the instances on which a call is in progress. -/
  inUse : List Nat := []
  /-- Instances that were dropped while a call on them was in progress. -/
  retired : List Instance := []

namespace State

/-- The store of the scenario. -/
def store (s : State) : Store := s.system.store

/-- Put a store in place. -/
def setStore (s : State) (store : Store) : State :=
  { s with system := { s.system with store } }

/-- Log an entry. -/
def write (s : State) (e : LogEntry) : State :=
  { s with log := e :: s.log }

/-! ### Names -/

/-- The thing of a name. -/
def find? (s : State) (id : String) : Option Item :=
  s.items.lookup id

/-- Whether a name is free. -/
def isFree (s : State) (id : String) : Bool :=
  (s.find? id).isNone

/-- Give a name to a thing. -/
def add (s : State) (id : String) (item : Item) : State :=
  { s with items := (id, item) :: s.items }

/-- Take a name away. -/
def erase (s : State) (id : String) : State :=
  { s with items := s.items.filter fun entry => entry.1 != id }

/-- Put another thing under a name in use. -/
def replace (s : State) (id : String) (item : Item) : State :=
  (s.erase id).add id item

/-- The flag of a name. -/
def flag? (s : State) (id : String) : Option Nat :=
  match s.find? id with
  | some (.flag f) => some f
  | _ => none

/-- The descriptor of a name. -/
def type? (s : State) (id : String) : Option ForeignType :=
  match s.find? id with
  | some (.type t) => some t
  | _ => none

/-- The registry of a name. -/
def registry? (s : State) (id : String) : Option Nat :=
  match s.find? id with
  | some (.registry r) => some r
  | _ => none

/-- The disposal of a name. -/
def disposal? (s : State) (id : String) : Option Disposal :=
  match s.find? id with
  | some (.disposal d) => some d
  | _ => none

/-- The scoped arena of a name. -/
def arena? (s : State) (id : String) : Option Nat :=
  match s.find? id with
  | some (.arena a) => some a
  | _ => none

/-- The arena of a name, of either kind. -/
def home? (s : State) (id : String) : Option ArenaRef :=
  match s.find? id with
  | some (.arena a) => some (.confined a)
  | some (.auto c) => some (.auto c)
  | _ => none

/-- The cleaner of a name. -/
def cleaner? (s : State) (id : String) : Option Nat :=
  match s.find? id with
  | some (.cleaner c) => some c
  | _ => none

/-- The cleaner that a name observes: as its handle, as an arena or as an observer. -/
def observed? (s : State) (id : String) : Option Nat :=
  match s.find? id with
  | some (.auto c) | some (.cleaner c) | some (.monitor c) => some c
  | _ => none

/-- The token of a name. -/
def token? (s : State) (id : String) : Option (Nat × Nat) :=
  match s.find? id with
  | some (.token c token) => some (c, token)
  | _ => none

/-- The instance of a name, with its wrapper. -/
def inst? (s : State) (id : String) : Option (Wrapper × Instance) :=
  match s.find? id with
  | some (.inst wrapper i) => some (wrapper, i)
  | _ => none

/-- The runtime of a name. -/
def runtime? (s : State) (id : String) : Option ForeignRuntime :=
  match s.find? id with
  | some (.runtime r) => some r
  | _ => none

/-- The slot table of a name. -/
def slots? (s : State) (id : String) : Option (AddressTable Int64) :=
  match s.find? id with
  | some (.slots t) => some t
  | _ => none

/-- The confinement of a name. -/
def confinement? (s : State) (id : String) : Option Confinement :=
  match s.find? id with
  | some (.confinement c) => some c
  | _ => none

/-- Texts in the order of their characters' numbers. -/
def sortTexts (texts : List String) : List String :=
  texts.mergeSort fun a b => a ≤ b

/-- The names that the scenario has for a descriptor, in order. -/
def typeIds (s : State) (type : ForeignType) : List String :=
  sortTexts <| s.items.filterMap fun (id, item) =>
    match item with
    | .type t => if t.id = type.id then some id else none
    | _ => none

/-- A descriptor as a registry answers it. -/
def identity (s : State) (type : ForeignType) : TypeIdentity :=
  { name := type.name, kind := type.kind, ids := s.typeIds type }

/-- How diagnostics show a thing.  Slot tables have no such text. -/
def itemText? (s : State) : Item → Option String
  | .flag f => some (s.store.flagText f)
  | .type t => some (s.store.typeText t)
  | .registry r => some (s.store.registryText r)
  | .disposal d => some (s.store.disposalText d)
  | .arena a => some (s.store.arena a).debugText
  | .auto c => some (s.store.cleaner c).arenaDebugText
  | .registration r => some (s.store.registrationText r)
  | .cleaner c => some (s.store.cleaner c).debugText
  | .monitor c => some (s.store.cleaner c).monitorDebugText
  | .token c token => some (s.store.tokenText c token)
  | .inst .bare i => some (s.store.instanceText i)
  | .inst .checked i => some (Text.record "FakeInstance" [("state", s.store.instanceText i)])
  | .inst (.object h) i =>
    some (Text.record "FakeSwiftClass"
      [("state", s.store.instanceText i), ("heap", (s.store.heap h).debugText)])
  | .inst (.value h) i =>
    some (Text.record "FakeSwiftStruct"
      [("state", s.store.instanceText i), ("heap", (s.store.heap h).debugText)])
  | .batch instances =>
    some (Text.bracketed (instances.toList.map s.store.instanceText))
  | .runtime r => some (s.store.runtimeText r)
  | .slots _ => none
  | .confinement c => some c.debugText

end State

end ForeignArena.Scenario
