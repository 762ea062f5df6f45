import ForeignArena.Store.Wrapper

namespace ForeignArena

/-!
# Operations

What a client does to a store at once, without any supplied code being called: making
things, registering disposals, taking objects over, and using heaps.

Some operations lock more than once: an object is made on its heap before it is taken over,
a batch is taken over object by object, and an instance is checked before its object is
retained.  As operations they are calls that nobody interrupts.  One that is interrupted
shows as several acts: a batch as `takeOver`s, a late reference as a `retain`.

* `Operation` — one such deed;
* `Store.apply` — what it does;
* `Store.admits` — whether the client can do it: it names only things that exist.
-/

/-- Something that a client does to a store at once. -/
inductive Operation where
  | newFlag
  | mark (flag : Nat)
  | newType (name : String) (kind : TypeKind) (permitsNull : Bool) (routines : Routines)
  | newTalliedType (name : String) (kind : TypeKind) (panics : Bool) (count : UInt64)
  | newInertType
  | setCount (tally : Nat) (count : UInt64)
  | newRegistry
  | findOrMakeType (thread : ThreadId) (registry : Nat) (name : String)
      (make : Except Payload ForeignType)
  | newRuntime
  | runtimeType (thread : ThreadId) (runtime : ForeignRuntime) (name : String) (kind : TypeKind)
  | allocate (heap : Nat) (typeName : String) (payload : Int64)
  | retain (heap : Nat) (address : Address)
  | release (heap : Nat) (address : Address)
  | destroy (heap : Nat) (address : Address)
  | openArena (thread : ThreadId) (config : ArenaConfig)
  | openAuto (thread : ThreadId) (config : CleanerConfig)
  | startCleaner (thread : ThreadId) (config : CleanerConfig)
  | register (thread : ThreadId) (home : ArenaRef) (disposal : Disposal)
  | takeOver (thread : ThreadId) (address : Address) (type : ForeignType) (home : ArenaRef)
  | takeOverMany (thread : ThreadId) (type : ForeignType) (home : ArenaRef) (n : Nat)
  | openFilled (thread : ThreadId) (n : Nat)
  | newObject (thread : ThreadId) (runtime : ForeignRuntime) (payload : Int64) (home : ArenaRef)
  | newValue (thread : ThreadId) (runtime : ForeignRuntime) (payload : Int64) (home : ArenaRef)
  | retainObject (inst : Instance) (heap : Nat)
  | track (cleaner tag : Nat)
  | letGo (cleaner : Nat)
  | settle

namespace Store

/-- The store after an operation. -/
def apply (st : Store) : Operation → Store
  | .newFlag => st.newFlag.1
  | .mark flag => (st.trySetFlag flag).1
  | .newType name kind permitsNull routines => (st.newType name kind permitsNull routines).1
  | .newTalliedType name kind panics count => (st.newTalliedType name kind panics count).1
  | .newInertType => st.newInertType.1
  | .setCount tally count => st.modifyTally tally fun t => { t with count }
  | .newRegistry => st.newRegistry.1
  | .findOrMakeType thread registry name make =>
    (st.findOrMakeType thread registry name make).1
  | .newRuntime => st.newRuntime.1
  | .runtimeType thread runtime name kind => (st.runtimeType thread runtime name kind).1
  | .allocate heap typeName payload =>
    st.setHeap heap ((st.heap heap).allocate typeName payload).1
  | .retain heap address => st.setHeap heap ((st.heap heap).retain address).1
  | .release heap address => st.setHeap heap ((st.heap heap).release address).1
  | .destroy heap address => st.setHeap heap ((st.heap heap).destroy address).1
  | .openArena thread config => (st.openArena thread config).1
  | .openAuto thread config => (st.openAuto thread config).1
  | .startCleaner thread config => (st.startCleaner thread config).1
  | .register thread home disposal => (st.register thread home disposal).1
  | .takeOver thread address type home => (st.takeOver thread address type home).1
  | .takeOverMany thread type home n => (st.takeOverMany thread type home n).1
  | .openFilled thread n => (st.openFilled thread n).1
  | .newObject thread runtime payload home => (st.newObject thread runtime payload home).1
  | .newValue thread runtime payload home => (st.newValue thread runtime payload home).1
  | .retainObject inst heap => (st.retainObject st inst heap).1
  | .track cleaner tag => (st.track cleaner (.supplied tag)).1
  | .letGo cleaner => st.modifyCleaner cleaner (·.release)
  | .settle => st.settle

/-- Whether an arena exists, and can still be registered with. -/
def hasHome (st : Store) : ArenaRef → Bool
  | .confined a => a < st.arenas.size
  | .auto c => c < st.cleaners.size && (st.cleaner c).held

/-- Whether a runtime exists. -/
def hasRuntime (st : Store) (runtime : ForeignRuntime) : Bool :=
  runtime.heap < st.heaps.size && runtime.registry < st.registries.size

/-- Whether a client can do an operation: it needs a handle of everything that it
    names. -/
def admits (st : Store) : Operation → Bool
  | .register _ home disposal => st.hasHome home && disposal.flag < st.flags.size
  | .takeOver _ _ _ home | .takeOverMany _ _ home _ => st.hasHome home
  | .newObject _ runtime _ home | .newValue _ runtime _ home =>
    st.hasHome home && st.hasRuntime runtime
  | .track cleaner _ => st.hasHome (.auto cleaner)
  | _ => true

end Store

end ForeignArena
