import ForeignArena.Scenario.State

namespace ForeignArena.Scenario

/-!
# Plain commands

The commands that call no supplied code.  Each handler returns the state after the
command and its answer, or `none` if the command names an unknown thing or one of the
wrong sort; then nothing has changed.
-/

namespace State

/-! ### Flags -/

/-- Commands on liveness flags. -/
def onFlag (s : State) : FlagCommand → Option (State × Answer)
  | .new id =>
    let (st, f) := s.store.newFlag
    some ((s.setStore st).add id (.flag f), .ok)
  | .clone id other => do
    let f ← s.flag? other
    pure (s.add id (.flag f), .ok)
  | .mark other => do
    let f ← s.flag? other
    let (st, first) := s.store.trySetFlag f
    pure (s.setStore st, .truth first)
  | .read other => do
    let f ← s.flag? other
    pure (s, .liveness (s.store.isDestroyed f))
  | .ensure other typeName => do
    let f ← s.flag? other
    pure (s, .ofInstance (s.store.checkFlag f typeName))
  | .same a b => do
    let f ← s.flag? a
    let g ← s.flag? b
    pure (s, .truth (f == g))

/-! ### Types -/

/-- A new descriptor, its supplied code kept in the state. -/
def makeType (s : State) (name : String) : TypeSource Hook → State × ForeignType
  | .tallied kind panics count =>
    let (st, type) := s.store.newTalliedType name kind panics count
    (s.setStore st, type)
  | .inert =>
    let (st, type) := s.store.newInertType
    (s.setStore st, type)
  | .uncounted kind =>
    let (st, type) := s.store.newType name kind false .uncounted
    (s.setStore st, type)
  | .supplied kind permitsNull code =>
    let (st, type) := s.store.newType name kind permitsNull .supplied
    let s := s.setStore st
    ({ s with types := (type.id, code) :: s.types }, type)

/-- The code of a type that the scenario made. -/
def codeOf? (s : State) (type : ForeignType) : Option (SuppliedCode Hook) :=
  s.types.lookup type.id

/-- Change the code of a type that the scenario made. -/
def modifyCode (s : State) (type : ForeignType)
    (f : SuppliedCode Hook → SuppliedCode Hook) : State :=
  let change := fun (id, code) => if id = type.id then (id, f code) else (id, code)
  { s with types := s.types.map change }

/-- Set the count that a type answers, for one object or for all.  A tallied type has
    one count only, so for it the address does not matter. -/
def setCount (s : State) (type : ForeignType) (count : UInt64) (scope : CountScope) :
    Option State :=
  match type.routines, scope with
  | .tallied t _, _ => some (s.setStore (s.store.modifyTally t fun tally => { tally with count }))
  | .supplied, .all => some (s.modifyCode type fun code => { code with count })
  | .supplied, .single (some a) =>
    some (s.modifyCode type fun code => { code with counts := (a, count) :: code.counts })
  | _, _ => none

/-- Commands on types. -/
def onType (s : State) : TypeCommand Hook → Option (State × Answer)
  | .new id name source =>
    let (s, type) := s.makeType name source
    some (s.add id (.type type), .ok)
  | .info other => do
    let type ← s.type? other
    pure (s, .typeInfo type none)
  | .setCount other count scope => do
    let type ← s.type? other
    let s ← s.setCount type count scope
    pure (s, .ok)
  | .calls other => do
    let type ← s.type? other
    match type.routines with
    | .tallied t _ => pure (s, .calls (s.store.tally t).destroyed.toList)
    | _ => none

/-! ### Registries -/

/-- Commands on registries. -/
def onRegistry (s : State) (thread : ThreadId) : RegistryCommand → Option (State × Answer)
  | .new id =>
    let (st, r) := s.store.newRegistry
    some ((s.setStore st).add id (.registry r), .ok)
  | .register other typeId => do
    let r ← s.registry? other
    let type ← s.type? typeId
    let (st, lookup) := s.store.findOrMakeType thread r type.name (.ok type)
    let s := s.setStore st
    match lookup.result with
    | .ok type => pure (s, .identity (s.identity type))
    | .error payload => pure (s, .panicked payload)
  | .find other name => do
    let r ← s.registry? other
    match (s.store.registry r).find? name with
    | some type => pure (s, .identity (s.identity type))
    | none => pure (s, .nothing)
  | .findOrMake other name typeId panic => do
    let r ← s.registry? other
    let type ← s.type? typeId
    let make := match panic.payload with
      | some payload => .error payload
      | none => .ok type
    let (st, lookup) := s.store.findOrMakeType thread r name make
    let s := s.setStore st
    match lookup.result with
    | .ok type => pure (s, .lookup (s.identity type) lookup.made)
    | .error payload => pure (s, .panicked payload)
  | .info other => do
    let r ← s.registry? other
    pure (s, .names (s.store.registry r).names)

/-! ### Disposals -/

/-- Commands on disposals.  A registered disposal is used up even if it is refused. -/
def onDisposal (s : State) (thread : ThreadId) : DisposalCommand → Option (State × Answer)
  | .new id address typeId flagId => do
    let type ← s.type? typeId
    let flag ← s.flag? flagId
    pure (s.add id (.disposal { address, type, flag }), .ok)
  | .info other => do
    let d ← s.disposal? other
    pure (s, .disposalInfo d (s.store.isDestroyed d.flag))
  | .register id arenaId disposalId => do
    let home ← s.home? arenaId
    let d ← s.disposal? disposalId
    let s := s.erase disposalId
    match s.store.register thread home d with
    | (st, .ok r) => pure ((s.setStore st).add id (.registration r), .registered r.isTracked)
    | (st, .error e) => pure (s.setStore st, .refused (.arena e))

/-! ### Arenas -/

/-- Name the instances of a batch that was completed. -/
def addBatch (s : State) (id : String) (batch : Store.Batch) : State × Answer :=
  match batch.error with
  | some e => (s, .refused (.arena e))
  | none => (s.add id (.batch batch.instances), .ok)

/-- Commands on arenas. -/
def onArena (s : State) (thread : ThreadId) : ArenaCommand → Option (State × Answer)
  | .new id config =>
    match s.store.openArena thread config with
    | (st, .ok a) => some ((s.setStore st).add id (.arena a), .ok)
    | (st, .error e) => some (s.setStore st, .refused (.arena e))
  | .newAuto id config =>
    match s.store.openAuto thread config with
    | (st, .ok c) => some ((s.setStore st).add id (.auto c), .ok)
    | (st, .error e) => some (s.setStore st, .refused (.arena e))
  | .info other => do
    let a ← s.arena? other
    let arena := s.store.arena a
    pure (s, .arenaInfo arena (arena.confinement.admits thread))
  | .takeOverMany id arenaId typeId n => do
    let home ← s.home? arenaId
    let type ← s.type? typeId
    let (st, batch) := s.store.takeOverMany thread type home n
    pure ((s.setStore st).addBatch id batch)
  | .batchInfo other =>
    match s.find? other with
    | some (.batch instances) =>
      let alive := instances.toList.filter fun i => !s.store.isDestroyed i.flag
      some (s, .batchInfo instances.size alive.length
        (instances[0]?.map (·.address)) (instances.back?.map (·.address)))
    | _ => none

/-! ### Cleaners -/

/-- Commands on cleaners. -/
def onCleaner (s : State) (thread : ThreadId) : CleanerCommand Hook → Option (State × Answer)
  | .new id config =>
    match s.store.startCleaner thread config with
    | (st, .ok c) => some ((s.setStore st).add id (.cleaner c), .ok)
    | (st, .error e) => some (s.setStore st, .refused (.cleaner e))
  | .track id cleanerId body panic => do
    let c ← s.cleaner? cleanerId
    let (st, token) := s.store.track c (.supplied s.actions.size)
    let s := { s.setStore st with actions := s.actions.push { token := id, body, panic } }
    pure (s.add id (.token c token), .token token)
  | .tokenInfo other => do
    let (c, token) ← s.token? other
    pure (s, .tokenInfo token ((s.store.cleaner c).isPending token))
  | .monitor id other => do
    let c ← s.observed? other
    pure (s.add id (.monitor c), .ok)
  | .stats other => do
    let c ← s.observed? other
    pure (s, .stats (s.store.cleaner c).stats)
  | .running other =>
    match s.find? other with
    | some (.monitor c) => some (s, .truth (s.store.cleaner c).isRunning)
    | _ => none

/-! ### Instances -/

/-- Name an instance that was taken over. -/
def addInstance (s : State) (id : String) (wrapper : Wrapper) :
    Store × Except ArenaError Instance → State × Answer
  | (st, .ok i) => ((s.setStore st).add id (.inst wrapper i), .ok)
  | (st, .error e) => (s.setStore st, .refused (.arena e))

/-- Answer with the address of an instance. -/
def addressOf (s : State) (i : Instance) : Answer :=
  match s.store.liveAddress i with
  | .ok a => .address a
  | .error e => .refused (.inst e)

/-- Answer with what was read from the heap object of an instance. -/
def answerRead {α : Type} (f : α → Answer) :
    Except InstanceError (Except Payload α) → Answer
  | .ok (.ok x) => f x
  | .ok (.error payload) => .panicked payload
  | .error e => .refused (.inst e)

/-- Commands on instances. -/
def onInstance (s : State) (thread : ThreadId) : InstanceCommand → Option (State × Answer)
  | .new id address typeId arenaId checked => do
    let type ← s.type? typeId
    let home ← s.home? arenaId
    let wrapper := if checked then Wrapper.checked else .bare
    pure (s.addInstance id wrapper (s.store.takeOver thread address type home))
  | .newObject id runtimeId payload arenaId => do
    let runtime ← s.runtime? runtimeId
    let home ← s.home? arenaId
    pure (s.addInstance id (.object runtime.heap) (s.store.newObject thread runtime payload home))
  | .newValue id runtimeId payload arenaId => do
    let runtime ← s.runtime? runtimeId
    let home ← s.home? arenaId
    pure (s.addInstance id (.value runtime.heap) (s.store.newValue thread runtime payload home))
  | .info other => do
    let (_, i) ← s.inst? other
    pure (s, .instanceInfo
      { inst := i, destroyed := s.store.isDestroyed i.flag, typeIds := s.typeIds i.type })
  | .checkAlive other => do
    let (_, i) ← s.inst? other
    pure (s, .ofInstance (s.store.checkAlive i))
  | .address other => do
    let (_, i) ← s.inst? other
    pure (s, s.addressOf i)
  | .touch other =>
    match s.inst? other with
    | some (.checked, i) => some (s, s.addressOf i)
    | _ => none
  | .echo other value =>
    match s.inst? other with
    | some (.object _, i) =>
      match s.store.checkAlive i with
      | .ok () => some (s, .number value.toInt)
      | .error e => some (s, .refused (.inst e))
    | _ => none
  | .payload other =>
    match s.inst? other with
    | some (.object h, i) =>
      some (s, answerRead (.number ·.payload.toInt) (s.store.readObject s.store i h "object"))
    | _ => none
  | .retain other =>
    match s.inst? other with
    | some (.object h, i) =>
      let (st, count) := s.store.retainObject s.store i h
      some (s.setStore st, answerRead (.number ·.toNat) count)
    | _ => none
  | .capacity other =>
    match s.inst? other with
    | some (.value h, i) =>
      some (s, answerRead (.number ·.payload.toInt) (s.store.readObject s.store i h "value"))
    | _ => none
  | .flag id other => do
    let (_, i) ← s.inst? other
    pure (s.add id (.flag i.flag), .ok)

/-! ### Heaps -/

/-- Commands on runtimes and their heaps. -/
def onHeap (s : State) (thread : ThreadId) : HeapCommand → Option (State × Answer)
  | .new id =>
    let (st, runtime) := s.store.newRuntime
    some ((s.setStore st).add id (.runtime runtime), .ok)
  | .type id other kind name => do
    let runtime ← s.runtime? other
    let (st, type) := s.store.runtimeType thread runtime name kind
    pure ((s.setStore st).add id (.type type), .madeType type)
  | .info other => do
    let runtime ← s.runtime? other
    pure (s, .heapInfo (s.store.heap runtime.heap) (s.store.registry runtime.registry).names)
  | .allocate other typeName payload => do
    let runtime ← s.runtime? other
    let (h, a) := (s.store.heap runtime.heap).allocate typeName payload
    pure (s.setStore (s.store.setHeap runtime.heap h), .address a)
  | .retain other a => do
    let runtime ← s.runtime? other
    let (h, count) := (s.store.heap runtime.heap).retain a
    pure (s.setStore (s.store.setHeap runtime.heap h), .ofCount count)
  | .release other a => do
    let runtime ← s.runtime? other
    let (h, count) := (s.store.heap runtime.heap).release a
    pure (s.setStore (s.store.setHeap runtime.heap h), .ofCount count)
  | .destroy other a => do
    let runtime ← s.runtime? other
    let (h, freed) := (s.store.heap runtime.heap).destroy a
    pure (s.setStore (s.store.setHeap runtime.heap h), .truth freed)
  | .get other a => do
    let runtime ← s.runtime? other
    pure (s, .object ((s.store.heap runtime.heap).get? a))

/-! ### Slot tables -/

/-- Commands on slot tables. -/
def onSlots (s : State) : SlotCommand → Option (State × Answer)
  | .new id => some (s.add id (.slots {}), .ok)
  | .insert other value => do
    let t ← s.slots? other
    let (t, a) := t.insert value
    pure (s.replace other (.slots t), .address a)
  | .get other a => do
    let t ← s.slots? other
    pure (s, .ofValue (t.get? a))
  | .remove other a => do
    let t ← s.slots? other
    let (t, value) := t.remove a
    pure (s.replace other (.slots t), .ofValue value)
  | .add other a value => do
    let t ← s.slots? other
    let t := t.update a (· + value)
    pure (s.replace other (.slots t), .ofValue (t.get? a))
  | .info other => do
    let t ← s.slots? other
    pure (s, .tableInfo t.size)

/-! ### Confinements -/

/-- Commands on confinements. -/
def onConfinement (s : State) (thread : ThreadId) : ConfinementCommand → Option (State × Answer)
  | .new id bound =>
    some (s.add id (.confinement (if bound then .bound thread else .unconfined)), .ok)
  | .info other => do
    let c ← s.confinement? other
    pure (s, .confinementInfo c (c.admits thread))
  | .check other => do
    let c ← s.confinement? other
    pure (s, .ofArena (c.check thread))
  | .same a b => do
    let c ← s.confinement? a
    let d ← s.confinement? b
    pure (s, .truth (c == d))

end State

end ForeignArena.Scenario
