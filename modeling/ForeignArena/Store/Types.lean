import ForeignArena.Store.Basic

namespace ForeignArena

/-!
# Types in a store

Making descriptors, asking the routines that need no foreign code, and finding the
descriptors of registries and runtimes.

* `Store.newType`, `Store.newTalliedType`, `Store.newInertType` — new descriptors;
* `Store.knownCount?`, `Store.destroyKnown?` — what routines do without foreign code;
* `Store.findOrMakeType` — the descriptor under a name of a registry;
* `ForeignRuntime`, `Store.runtimeType` — heaps with the types that live on them.
-/

/-- A heap together with the registry of the types that live on it. -/
structure ForeignRuntime where
  heap : Nat
  registry : Nat
  deriving DecidableEq, Inhabited, Repr

namespace Store

/-! ### Types -/

/-- A new descriptor. -/
def newType (st : Store) (name : String) (kind : TypeKind) (permitsNull : Bool)
    (routines : Routines) : Store × ForeignType :=
  ({ st with typeCount := st.typeCount + 1 },
    { id := st.typeCount, name, kind, permitsNull, routines })

/-- A new descriptor that records its calls, with the count it answers. -/
def newTalliedType (st : Store) (name : String) (kind : TypeKind) (panics : Bool)
    (count : UInt64) : Store × ForeignType :=
  let t := st.tallies.size
  { st with tallies := st.tallies.push { count } }.newType name kind false (.tallied t panics)

/-- A new descriptor of a type whose objects need no destruction. -/
def newInertType (st : Store) : Store × ForeignType :=
  st.newType "Noop" .reference false .inert

/-- The count that a type answers for an object, without asking foreign code.  The
    outer `none` says that foreign code has to be asked. -/
def knownCount? (st : Store) (type : ForeignType) (address : Address) :
    Option (Option UInt64) :=
  match type.routines with
  | .supplied => if type.kind.isReference then none else some none
  | .tallied t _ => some (some (st.tally t).count)
  | .inert => some (some 1)
  | .uncounted => some none
  | .heapObject h => some ((st.heap h).retainCount? address)
  | .heapValue _ => some none

/-- What destroying an object does if it needs no foreign code: the store after it, and
    the panic it ends with if it panics.  `none` says that foreign code has to be
    called. -/
def destroyKnown? (st : Store) (type : ForeignType) (address : Address) :
    Option (Store × Option Payload) :=
  match type.routines with
  | .supplied => none
  | .tallied t panics =>
    let st := st.modifyTally t fun tally => { tally with destroyed := tally.destroyed.push address }
    let panic := Payload.owned (type.name ++ " destroy failed at " ++ address.hex)
    some (st, if panics then some panic else none)
  | .inert => some (st, none)
  | .uncounted => some (st, none)
  | .heapObject h => some (st.setHeap h ((st.heap h).release address).1, none)
  | .heapValue h => some (st.setHeap h ((st.heap h).destroy address).1, none)

/-! ### Registries and runtimes -/

/-- A new registry. -/
def newRegistry (st : Store) : Store × Nat :=
  let r := st.registries.size
  ({ st with registries := st.registries.push {} }, r)

/-- The descriptor under a name, made on first use. -/
def findOrMakeType (st : Store) (thread : ThreadId) (r : Nat) (name : String)
    (make : Except Payload ForeignType) : Store × Registry.Lookup :=
  let (registry, lookup) := (st.registry r).findOrMake name make
  let st := if lookup.made then st.note (.registeringType thread name) else st
  (st.setRegistry r registry, lookup)

/-- A new heap. -/
def newHeap (st : Store) : Store × Nat :=
  let h := st.heaps.size
  ({ st with heaps := st.heaps.push {} }, h)

/-- A new runtime: an empty heap without types. -/
def newRuntime (st : Store) : Store × ForeignRuntime :=
  let (st, heap) := st.newHeap
  let (st, registry) := st.newRegistry
  (st, { heap, registry })

/-- The descriptor under a name in a runtime, made with the given routines on first
    use.  A descriptor made earlier is kept, whatever its routines are. -/
def runtimeType (st : Store) (thread : ThreadId) (runtime : ForeignRuntime) (name : String)
    (kind : TypeKind) : Store × ForeignType :=
  let routines := match kind with
    | .reference => Routines.heapObject runtime.heap
    | .value => Routines.heapValue runtime.heap
  let (st, fresh) := st.newType name kind false routines
  match st.findOrMakeType thread runtime.registry name (.ok fresh) with
  | (st, ⟨.ok type, _⟩) => (st, type)
  | (st, ⟨.error _, _⟩) => (st, fresh)

end Store

end ForeignArena
