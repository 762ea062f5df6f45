import ForeignArena.Store.Arenas

namespace ForeignArena

/-!
# Wrappers

Wrappers give access to instances as long as these are alive.  Some of them stand for
objects and values of a runtime, which they allocate, take over and read.

* `Store.checkAlive`, `Store.liveAddress` — the check that comes before every use;
* `Store.call` — a use;
* `Store.newObject`, `Store.newValue` — allocate and take over;
* `Store.objectAt`, `Store.retainAt` — find and retain a heap object;
* `Store.readObject`, `Store.retainObject` — use the heap object of an instance.
-/

/-- What an instance is wrapped in: nothing, a wrapper that only checks, or a wrapper
    around an object or a value of a heap. -/
inductive Wrapper where
  | bare
  | checked
  | object (heap : Nat)
  | value (heap : Nat)
  deriving DecidableEq, Inhabited, Repr

namespace Store

/-! ### Checks -/

/-- Refuses an instance that was destroyed. -/
def checkAlive (st : Store) (i : Instance) : Except InstanceError Unit :=
  st.checkFlag i.flag i.type.name

/-- The address of an instance that was not destroyed. -/
def liveAddress (st : Store) (i : Instance) : Except InstanceError Address :=
  match st.checkAlive i with
  | .ok () => .ok i.address
  | .error e => .error e

/-- Use the address of an instance that was not destroyed. -/
def call {α : Type} (st : Store) (i : Instance) (use : Address → α) : Except InstanceError α :=
  match st.liveAddress i with
  | .ok address => .ok (use address)
  | .error e => .error e

/-! ### Making objects and values -/

/-- The name of the type of counted objects that a runtime makes. -/
def objectTypeName : String := "MySwiftClass"

/-- The name of the type of values that a runtime makes. -/
def valueTypeName : String := "MySwiftStruct"

/-- Give up an object that nobody has taken over: a counted one by its reference, a value
    by destroying it. -/
def giveBack (st : Store) (heap : Nat) (kind : TypeKind) (address : Address) : Store :=
  match kind with
  | .reference => st.setHeap heap ((st.heap heap).release address).1
  | .value => st.setHeap heap ((st.heap heap).destroy address).1

/-- Allocate an object of a type of a runtime and take it over.  If that is refused, the
    object is given up. -/
def newOnHeap (st : Store) (thread : ThreadId) (runtime : ForeignRuntime) (typeName : String)
    (kind : TypeKind) (payload : Int64) (home : ArenaRef) : Store × Except ArenaError Instance :=
  let (heap, address) := (st.heap runtime.heap).allocate typeName payload
  let st := st.setHeap runtime.heap heap
  let (st, type) := st.runtimeType thread runtime typeName kind
  let (st, result) := st.takeOver thread address type home
  match result with
  | .ok inst => (st, .ok inst)
  | .error e => (st.giveBack runtime.heap kind address, .error e)

/-- Allocate a counted object and take it over. -/
def newObject (st : Store) (thread : ThreadId) (runtime : ForeignRuntime) (payload : Int64)
    (home : ArenaRef) : Store × Except ArenaError Instance :=
  st.newOnHeap thread runtime objectTypeName .reference payload home

/-- Allocate a value and take it over. -/
def newValue (st : Store) (thread : ThreadId) (runtime : ForeignRuntime) (payload : Int64)
    (home : ArenaRef) : Store × Except ArenaError Instance :=
  st.newOnHeap thread runtime valueTypeName .value payload home

/-! ### Using heap objects -/

/-- The object of a wrapper, as it is found on the heap.  A wrapper takes it for granted
    that there is one: if not, it panics. -/
def objectAt (st : Store) (heap : Nat) (what : String) (address : Address) :
    Except Payload HeapObject :=
  match (st.heap heap).get? address with
  | some object => .ok object
  | none => .error (.literal ("live wrapper points at a freed " ++ what))

/-- Read the heap object of an instance that was not destroyed.  The heap is looked at after
    the check, and nothing is locked in between: by then the store may be a later one. -/
def readObject (st later : Store) (i : Instance) (heap : Nat) (what : String) :
    Except InstanceError (Except Payload HeapObject) :=
  st.call i (later.objectAt heap what)

/-- Take one more reference to the heap object of a wrapper.  Returns the new count. -/
def retainAt (st : Store) (heap : Nat) (address : Address) : Store × Except Payload UInt64 :=
  match st.objectAt heap "object" address with
  | .error payload => (st, .error payload)
  | .ok object =>
    (st.setHeap heap ((st.heap heap).retain address).1, .ok (object.retainCount + 1))

/-- Take one more reference to the heap object of an instance that was not destroyed.  Here
    too the check comes first. -/
def retainObject (st later : Store) (i : Instance) (heap : Nat) :
    Store × Except InstanceError (Except Payload UInt64) :=
  match st.call i (later.retainAt heap) with
  | .error e => (later, .error e)
  | .ok (after, count) => (after, .ok count)

/-- What is retained is what would be read. -/
theorem retainObject_fst (st later : Store) (i : Instance) (heap : Nat) :
    (st.retainObject later i heap).1 =
      match st.readObject later i heap "object" with
      | .ok (.ok _) => later.setHeap heap ((later.heap heap).retain i.address).1
      | _ => later := by
  unfold retainObject readObject call liveAddress
  cases st.checkAlive i with
  | error e => rfl
  | ok =>
    dsimp only [retainAt]
    cases later.objectAt heap "object" i.address <;> rfl

end Store

end ForeignArena
