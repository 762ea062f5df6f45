import ForeignArena.Store.Basic
import ForeignArena.Store.Types

namespace ForeignArena.Store

/-!
# Arenas in a store

Making arenas and cleaners, and handing objects over to them.

* `Store.openArena`, `Store.startCleaner`, `Store.openAuto` — make arenas;
* `Store.settle` — stop the threads that nobody needs;
* `Store.register` — put a disposal into an arena;
* `Store.takeOver`, `Store.takeOverMany` — take objects over;
* `Store.openFilled` — an arena that holds objects from the start.

A refused registration leaves the arena as it was, and the disposal never runs.
-/

/-! ### Making arenas and cleaners -/

/-- A new scoped arena, bound to the calling thread if the configuration says so. -/
def buildArena (st : Store) (thread : ThreadId) (config : ArenaConfig) : Store × Nat :=
  let confinement := if config.confined then Confinement.bound thread else .unconfined
  let a := st.arenas.size
  ({ st with arenas := st.arenas.push (.opened confinement) }.note
    (.arenaOpened thread a confinement), a)

/-- A new scoped arena, unless its configuration is refused. -/
def openArena (st : Store) (thread : ThreadId) (config : ArenaConfig) :
    Store × Except ArenaError Nat :=
  match config.validate with
  | .error e => (st, .error (.config e))
  | .ok () =>
    let (st, a) := st.buildArena thread config
    (st, .ok a)

/-- A new cleaner with its thread, unless its configuration is refused. -/
def startCleaner (st : Store) (thread : ThreadId) (config : CleanerConfig) :
    Store × Except CleanerError Nat :=
  match config.validate with
  | .error e => (st, .error (.config e))
  | .ok () =>
    let c := st.cleaners.size
    ({ st with cleaners := st.cleaners.push { threadName := config.threadName } }.note
      (.reclaimerStarted thread c config.threadName), .ok c)

/-- A new cleaner in the service of an arena, unless its configuration is refused. -/
def openAuto (st : Store) (thread : ThreadId) (config : CleanerConfig) :
    Store × Except ArenaError Nat :=
  match st.startCleaner thread config with
  | (st, .error e) => (st, .error (.cleaner e))
  | (st, .ok c) => (st.note (.autoOpened thread c), .ok c)

/-- Stop the reclamation threads that have nothing left to do and that nobody needs any
    more. -/
def settle (st : Store) : Store :=
  { st with cleaners := st.cleaners.map (·.settle) }

/-! ### Registration -/

/-- Register an action with a cleaner.  Returns its token. -/
def track (st : Store) (c : Nat) (action : Action) : Store × Nat :=
  let token := (st.cleaner c).nextId
  ((st.modifyCleaner c fun cleaner => cleaner.track action).note (.tracked c token action), token)

/-- Register a disposal with a scoped arena.  The thread is checked first, then whether
    the arena is still active. -/
def registerConfined (st : Store) (thread : ThreadId) (a : Nat) (d : Disposal) :
    Store × Except ArenaError Registration :=
  match (st.arena a).confinement.check thread with
  | .error e => (st, .error e)
  | .ok () =>
    if (st.arena a).isActive then
      ((st.modifyArena a (·.accept d)).note (.accepted a d), .ok .plain)
    else (st, .error .closed)

/-- Register a disposal with an arena of either kind. -/
def register (st : Store) (thread : ThreadId) (home : ArenaRef) (d : Disposal) :
    Store × Except ArenaError Registration :=
  match home with
  | .confined a => st.registerConfined thread a d
  | .auto c =>
    let (st, token) := st.track c (.dispose d)
    (st, .ok (.tracked c token))

/-- Take an object over: give it a liveness flag and register its disposal.  A null
    address is refused unless the type permits it; then nothing is touched. -/
def takeOver (st : Store) (thread : ThreadId) (address : Address) (type : ForeignType)
    (home : ArenaRef) : Store × Except ArenaError Instance :=
  if address.isNull && !type.permitsNull then
    (st, .error (.inst (.invalidAddress type.name)))
  else
    let (st, flag) := st.newFlag
    let (st, result) := st.register thread home { address, type, flag }
    (st, result.map fun registration => { address, type, flag, registration })

/-- Instances taken over one after the other: those that were, in order, and the error
    that stopped it if there was one. -/
structure Batch where
  instances : Array Instance := #[]
  error : Option ArenaError := none
  deriving Inhabited

/-- Take over `n` more objects, at the addresses after those of the batch, as long as
    none is refused. -/
def extendBatch (thread : ThreadId) (type : ForeignType) (home : ArenaRef) :
    Nat → Store → Array Instance → Store × Batch
  | 0, st, instances => (st, { instances })
  | n + 1, st, instances =>
    match st.takeOver thread ⟨UInt64.ofNat (instances.size + 1)⟩ type home with
    | (st, .ok inst) => extendBatch thread type home n st (instances.push inst)
    | (st, .error e) => (st, { instances, error := some e })

/-- Take over the objects at the addresses one to `n`, with nobody in between. -/
def takeOverMany (st : Store) (thread : ThreadId) (type : ForeignType) (home : ArenaRef)
    (n : Nat) : Store × Batch :=
  extendBatch thread type home n st #[]

/-- A new arena bound to the calling thread, with room for `n` objects and holding the
    `n` objects at the addresses one to `n`. -/
def openFilled (st : Store) (thread : ThreadId) (n : Nat) :
    Store × Except ArenaError (Nat × Array Instance) :=
  match st.openArena thread { initialCapacity := n } with
  | (st, .error e) => (st, .error e)
  | (st, .ok a) =>
    let (st, type) := st.newInertType
    match st.takeOverMany thread type (.confined a) n with
    | (st, ⟨_, some e⟩) => (st, .error e)
    | (st, ⟨instances, none⟩) => (st, .ok (a, instances))

end ForeignArena.Store
