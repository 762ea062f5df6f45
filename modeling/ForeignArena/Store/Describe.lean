import ForeignArena.Store.Types

namespace ForeignArena.Store

/-!
# Diagnostics

How the things of a store show themselves in a diagnostic.  A descriptor, a disposal
and an instance show the state of what they refer to, so their texts depend on the
store.
-/

/-- How diagnostics show a descriptor. -/
def typeText (st : Store) (type : ForeignType) : String :=
  match type.routines with
  | .supplied =>
    Text.openRecord "TypeDescriptor"
      [("name", Text.quoted type.name), ("kind", type.kind.debugText),
        ("permits_null", Text.truth type.permitsNull)]
  | .tallied t panics =>
    let tally := st.tally t
    let destroyed := tally.destroyed.toList.map (·.debugText)
    Text.record "CountingType"
      [("name", Text.quoted type.name), ("kind", type.kind.debugText),
        ("retain_count", toString tally.count.toNat),
        ("destroyed", Text.openRecord "Mutex"
          [("data", Text.bracketed destroyed), ("poisoned", Text.truth false)]),
        ("panic_on_destroy", Text.truth panics)]
  | .inert => "NoopType"
  | .uncounted =>
    Text.record "Plain" [("name", Text.quoted type.name), ("kind", type.kind.debugText)]
  | .heapObject h =>
    Text.record "MockClassType"
      [("name", Text.quoted type.name), ("heap", (st.heap h).debugText)]
  | .heapValue h =>
    Text.record "MockStructType"
      [("name", Text.quoted type.name), ("heap", (st.heap h).debugText)]

/-- How diagnostics show a registry. -/
def registryText (st : Store) (r : Nat) : String :=
  let registry := st.registry r
  let entries := registry.entries.map fun (name, type) => (Text.quoted name, st.typeText type)
  Text.record "TypeRegistry"
    [("types", Text.openRecord "RwLock"
      [("data", Text.dictionary entries), ("poisoned", Text.truth registry.poisoned)])]

/-- How diagnostics show a runtime. -/
def runtimeText (st : Store) (runtime : ForeignRuntime) : String :=
  Text.record "MockRuntime"
    [("heap", (st.heap runtime.heap).debugText), ("types", st.registryText runtime.registry)]

/-- How diagnostics show a liveness flag. -/
def flagText (st : Store) (flag : Nat) : String :=
  Text.wrapped "LivenessFlag" (Text.truth (st.isDestroyed flag))

/-- How diagnostics show a disposal. -/
def disposalText (st : Store) (d : Disposal) : String :=
  Text.record "InstanceCleanup"
    [("address", d.address.debugText), ("ty", st.typeText d.type),
      ("liveness", st.flagText d.flag)]

/-- How diagnostics show a token. -/
def tokenText (st : Store) (c token : Nat) : String :=
  (st.cleaner c).tokenDebugText token

/-- How diagnostics show the receipt of a registered disposal. -/
def registrationText (st : Store) (r : Registration) : String :=
  let kind := match r with
    | .plain => "Scoped"
    | .tracked c token => Text.wrapped "Tracked" (st.tokenText c token)
  Text.record "Registration" [("kind", kind)]

/-- How diagnostics show an instance. -/
def instanceText (st : Store) (i : Instance) : String :=
  Text.record "InstanceState"
    [("address", i.address.debugText), ("ty", st.typeText i.type),
      ("liveness", st.flagText i.flag), ("registration", st.registrationText i.registration)]

end ForeignArena.Store
