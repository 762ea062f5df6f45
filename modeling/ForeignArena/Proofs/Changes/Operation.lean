import ForeignArena.Proofs.Changes.Basic

namespace ForeignArena

/-!
# The changes of operations

What a client does at once is a chain of changes too, as long as it names only things
that exist.

* `Store.apply_changes` — each operation;
* `Store.takeOver_changes`, `Store.newOnHeap_changes` — the operations made of others;
* `Store.hasHome_register` — arenas stay where they are.
-/

namespace Store

variable (operation : Operation)

theorem openArena_changes (st : Store) (k : List Frame) (thread : ThreadId)
    (config : ArenaConfig) :
    Changes (.operate operation) (st, k) ((st.openArena thread config).1, k) := by
  unfold openArena
  split
  · exact .refl
  · exact .single (.opened operation thread config rfl)

theorem startCleaner_changes (move : Move) (st : Store) (k : List Frame) (thread : ThreadId)
    (config : CleanerConfig) : Changes move (st, k) ((st.startCleaner thread config).1, k) := by
  unfold startCleaner
  split
  · exact .refl
  · exact .tail (.single (.cleanerAdded config.threadName))
      (.note (.reclaimerStarted thread st.cleaners.size config.threadName) rfl)

theorem openAuto_changes (move : Move) (st : Store) (k : List Frame) (thread : ThreadId)
    (config : CleanerConfig) : Changes move (st, k) ((st.openAuto thread config).1, k) := by
  have hstart := startCleaner_changes move st k thread config
  unfold openAuto
  split
  · next heq => simpa only [heq] using hstart
  · next c heq =>
    rw [heq] at hstart
    exact hstart.tail (.note (.autoOpened thread c) rfl)

/-- A disposal whose flag exists is registered with an arena that exists. -/
theorem register_changes (st : Store) (k : List Frame) (thread : ThreadId)
    (home : ArenaRef) (d : Disposal) (hhome : st.hasHome home) (hflag : d.flag < st.flags.size) :
    Changes (.operate operation) (st, k) ((st.register thread home d).1, k) := by
  cases home with
  | confined a =>
    simp only [register]
    unfold registerConfined
    split
    · exact .refl
    · next hcheck =>
      split
      · next hactive => exact .single (.accepted operation thread a d rfl hcheck hactive hflag)
      · exact .refl
  | auto c =>
    simp only [hasHome, Bool.and_eq_true, decide_eq_true_eq] at hhome
    obtain ⟨hc, hheld⟩ := hhome
    refine .single (.tracked operation c (.dispose d) rfl hc hheld ?_)
    rintro _ ⟨⟩
    exact hflag

/-- What taking an object over does to the store. -/
theorem takeOver_fst (st : Store) (thread : ThreadId) (address : Address) (type : ForeignType)
    (home : ArenaRef) :
    (st.takeOver thread address type home).1 =
      if address.isNull && !type.permitsNull then st
      else (st.newFlag.1.register thread home ⟨address, type, st.flags.size⟩).1 := by
  unfold takeOver
  split <;> rfl

theorem takeOver_changes (st : Store) (k : List Frame) (thread : ThreadId) (address : Address)
    (type : ForeignType) (home : ArenaRef) (hhome : st.hasHome home) :
    Changes (.operate operation) (st, k) ((st.takeOver thread address type home).1, k) := by
  rw [takeOver_fst]
  split
  · exact .refl
  · exact .head (.flagAdded operation rfl)
      (register_changes operation st.newFlag.1 k thread home _ hhome (by simp [newFlag]))

/-- Which arenas exist depends on the numbers of arenas and cleaners, and on the handles
    of cleaners. -/
theorem hasHome_congr {st after : Store} (home : ArenaRef)
    (harenas : after.arenas.size = st.arenas.size)
    (hcleaners : after.cleaners.size = st.cleaners.size)
    (hheld : ∀ c, (after.cleaner c).held = (st.cleaner c).held) :
    after.hasHome home = st.hasHome home := by
  cases home with
  | confined a => rw [hasHome, hasHome, harenas]
  | auto c => rw [hasHome, hasHome, hcleaners, hheld]

/-- Registering a disposal leaves all arenas where they are. -/
theorem hasHome_register (st : Store) (thread : ThreadId) (into : ArenaRef) (d : Disposal)
    (home : ArenaRef) : (st.register thread into d).1.hasHome home = st.hasHome home := by
  cases into with
  | confined a =>
    simp only [register]
    unfold registerConfined
    split
    · rfl
    · split
      · exact hasHome_congr home (Array.size_modify ..) rfl fun _ => rfl
      · rfl
  | auto c =>
    exact hasHome_congr home rfl (Array.size_modify ..) fun b =>
      view_modifyCleaner Cleaner.held st c b (·.track (.dispose d)) fun _ => rfl

theorem hasHome_takeOver (st : Store) (thread : ThreadId) (address : Address)
    (type : ForeignType) (into home : ArenaRef) :
    (st.takeOver thread address type into).1.hasHome home = st.hasHome home := by
  rw [takeOver_fst]
  split
  · rfl
  · rw [hasHome_register]
    rfl

theorem extendBatch_changes (k : List Frame) (thread : ThreadId) (type : ForeignType)
    (home : ArenaRef) (n : Nat) (st : Store) (instances : Array Instance)
    (hhome : st.hasHome home) :
    Changes (.operate operation) (st, k) ((extendBatch thread type home n st instances).1, k) := by
  -- on the number of instances still to be made; the arena exists up to the last of them
  induction n generalizing st instances with
  | zero => exact .refl
  | succ n ih =>
    have hfirst := takeOver_changes operation st k thread
      ⟨UInt64.ofNat (instances.size + 1)⟩ type home hhome
    have hstays := hasHome_takeOver st thread ⟨UInt64.ofNat (instances.size + 1)⟩ type home home
    unfold extendBatch
    split
    · next heq =>
      rw [heq] at hfirst hstays
      exact hfirst.trans (ih _ _ (hstays.trans hhome))
    · next heq =>
      rw [heq] at hfirst
      exact hfirst

theorem takeOverMany_changes (st : Store) (k : List Frame) (thread : ThreadId)
    (type : ForeignType) (home : ArenaRef) (n : Nat) (hhome : st.hasHome home) :
    Changes (.operate operation) (st, k) ((st.takeOverMany thread type home n).1, k) :=
  extendBatch_changes operation k thread type home n st #[] hhome

theorem newType_changes (st : Store) (k : List Frame) (name : String) (kind : TypeKind)
    (permitsNull : Bool) (routines : Routines) :
    Changes (.operate operation) (st, k) ((st.newType name kind permitsNull routines).1, k) :=
  .single (.retype operation st.tallies (st.typeCount + 1) rfl)

theorem findOrMakeType_changes (st : Store) (k : List Frame) (thread : ThreadId) (r : Nat)
    (name : String) (make : Except Payload ForeignType)
    (hregistry : operation.registry? = some r) :
    Changes (.operate operation) (st, k) ((st.findOrMakeType thread r name make).1, k) := by
  have hset (st : Store) (registry : Registry) :
      Changes (.operate operation) (st, k) (st.setRegistry r registry, k) :=
    .single (.registryUsed operation r registry rfl hregistry)
  unfold findOrMakeType
  dsimp only
  split
  · exact .head (.note (.registeringType thread name) rfl) (hset _ _)
  · exact hset st _

/-- What looking up a type of a runtime does to the store. -/
theorem runtimeType_fst (st : Store) (thread : ThreadId) (runtime : ForeignRuntime)
    (name : String) (kind : TypeKind) :
    ∃ fresh, (st.runtimeType thread runtime name kind).1 =
      ({ st with typeCount := st.typeCount + 1 }.findOrMakeType thread runtime.registry name
        (.ok fresh)).1 := by
  unfold runtimeType newType
  dsimp only
  split <;> next heq => exact ⟨_, (congrArg Prod.fst heq).symm⟩

theorem runtimeType_changes (st : Store) (k : List Frame) (thread : ThreadId)
    (runtime : ForeignRuntime) (name : String) (kind : TypeKind)
    (hregistry : operation.registry? = some runtime.registry) :
    Changes (.operate operation) (st, k) ((st.runtimeType thread runtime name kind).1, k) := by
  obtain ⟨fresh, heq⟩ := runtimeType_fst st thread runtime name kind
  rw [heq]
  exact .head (.retype operation st.tallies (st.typeCount + 1) rfl)
    (findOrMakeType_changes operation _ k thread runtime.registry name (.ok fresh) hregistry)

theorem hasHome_findOrMakeType (st : Store) (thread : ThreadId) (r : Nat) (name : String)
    (make : Except Payload ForeignType) (home : ArenaRef) :
    (st.findOrMakeType thread r name make).1.hasHome home = st.hasHome home := by
  unfold findOrMakeType
  dsimp only
  split <;> rfl

theorem hasHome_runtimeType (st : Store) (thread : ThreadId) (runtime : ForeignRuntime)
    (name : String) (kind : TypeKind) (home : ArenaRef) :
    (st.runtimeType thread runtime name kind).1.hasHome home = st.hasHome home := by
  obtain ⟨fresh, heq⟩ := runtimeType_fst st thread runtime name kind
  rw [heq, hasHome_findOrMakeType]
  rfl

/-- A new arena can be registered with. -/
theorem hasHome_openArena {st opened : Store} {thread : ThreadId} {config : ArenaConfig} {a : Nat}
    (h : st.openArena thread config = (opened, .ok a)) : opened.hasHome (.confined a) := by
  unfold openArena at h
  split at h
  · cases h
  · cases h
    simp [hasHome, note]

theorem openFilled_changes (st : Store) (k : List Frame) (thread : ThreadId) (n : Nat) :
    Changes (.operate operation) (st, k) ((st.openFilled thread n).1, k) := by
  have hopen := openArena_changes operation st k thread { initialCapacity := n }
  unfold openFilled
  split
  · next heq => simpa only [heq] using hopen
  · next opened a heq =>
    rw [heq] at hopen
    have hhome : opened.hasHome (.confined a) := hasHome_openArena heq
    have hfill := takeOverMany_changes operation opened.newInertType.1 k thread
      opened.newInertType.2 (.confined a) n hhome
    have hall := (hopen.trans (newType_changes _ opened k "Noop" .reference false .inert)).trans hfill
    dsimp only
    split <;> next heq => rw [heq] at hall; exact hall

theorem giveBack_changes (st : Store) (k : List Frame) (heap : Nat) (kind : TypeKind)
    (address : Address) (hheap : operation.heap? = some heap) :
    Changes (.operate operation) (st, k) (st.giveBack heap kind address, k) := by
  cases kind <;> exact .single (.heapUsed operation heap _ rfl hheap)

theorem newOnHeap_changes (st : Store) (k : List Frame) (thread : ThreadId)
    (runtime : ForeignRuntime) (typeName : String) (kind : TypeKind) (payload : Int64)
    (home : ArenaRef) (hhome : st.hasHome home) (hheap : operation.heap? = some runtime.heap)
    (hregistry : operation.registry? = some runtime.registry) :
    Changes (.operate operation) (st, k)
      ((st.newOnHeap thread runtime typeName kind payload home).1, k) := by
  unfold newOnHeap
  dsimp only
  generalize (st.heap runtime.heap).allocate typeName payload = allocated
  have hstays := hasHome_runtimeType (st.setHeap runtime.heap allocated.1) thread runtime typeName
    kind home
  have htype := runtimeType_changes operation (st.setHeap runtime.heap allocated.1) k thread runtime
    typeName kind hregistry
  generalize (st.setHeap runtime.heap allocated.1).runtimeType thread runtime typeName kind = typed
    at hstays htype
  have hall := (Relation.ReflTransGen.head (.heapUsed operation runtime.heap allocated.1 rfl hheap)
    htype).trans (takeOver_changes operation typed.1 k thread allocated.2 typed.2 home
      (hstays.trans hhome))
  split
  · exact hall
  · exact hall.trans (giveBack_changes operation _ k runtime.heap kind allocated.2 hheap)

/-- Each operation that a client can do is a chain of changes. -/
theorem apply_changes (st : Store) (k : List Frame) (hadmits : st.admits operation) :
    Changes (.operate operation) (st, k) (st.apply operation, k) := by
  cases operation with
  | newFlag => exact .single (.flagAdded _ rfl)
  | mark flag => exact .single (.marked flag rfl)
  | newType name kind permitsNull routines =>
    exact newType_changes _ st k name kind permitsNull routines
  | newTalliedType name kind panics count =>
    exact .single (.retype _ (st.tallies.push { count }) (st.typeCount + 1) rfl)
  | newInertType => exact newType_changes _ st k "Noop" .reference false .inert
  | setCount tally count =>
    exact .single (.retype _ (st.tallies.modify tally fun t => { t with count }) st.typeCount rfl)
  | newRegistry => exact .single (.registryAdded _ rfl)
  | findOrMakeType thread registry name make =>
    exact findOrMakeType_changes _ st k thread registry name make rfl
  | newRuntime =>
    exact .tail (.single (.heapAdded _ rfl)) (.registryAdded _ rfl)
  | runtimeType thread runtime name kind =>
    exact runtimeType_changes _ st k thread runtime name kind rfl
  | allocate heap typeName payload => exact .single (.heapUsed _ heap _ rfl rfl)
  | retain heap address => exact .single (.heapUsed _ heap _ rfl rfl)
  | release heap address => exact .single (.heapUsed _ heap _ rfl rfl)
  | destroy heap address => exact .single (.heapUsed _ heap _ rfl rfl)
  | openArena thread config => exact openArena_changes _ st k thread config
  | openAuto thread config => exact openAuto_changes _ st k thread config
  | startCleaner thread config => exact startCleaner_changes _ st k thread config
  | register thread home d =>
    simp only [admits, Bool.and_eq_true, decide_eq_true_eq] at hadmits
    exact register_changes _ st k thread home d hadmits.1 hadmits.2
  | takeOver thread address type home =>
    exact takeOver_changes _ st k thread address type home hadmits
  | takeOverMany thread type home n =>
    exact takeOverMany_changes _ st k thread type home n hadmits
  | openFilled thread n => exact openFilled_changes _ st k thread n
  | newObject thread runtime payload home =>
    simp only [admits, Bool.and_eq_true] at hadmits
    exact newOnHeap_changes _ st k thread runtime objectTypeName .reference payload home hadmits.1
      rfl rfl
  | newValue thread runtime payload home =>
    simp only [admits, Bool.and_eq_true] at hadmits
    exact newOnHeap_changes _ st k thread runtime valueTypeName .value payload home hadmits.1 rfl
      rfl
  | retainObject inst heap =>
    simp only [apply, retainObject_fst]
    split
    · exact .single (.heapUsed _ heap _ rfl rfl)
    · exact .refl
  | track c tag =>
    simp only [admits, hasHome, Bool.and_eq_true, decide_eq_true_eq] at hadmits
    refine .single (.tracked _ c (.supplied tag) rfl hadmits.1 hadmits.2 ?_)
    rintro _ ⟨⟩
  | letGo c => exact .single (.letGo c)
  | settle => exact .single .settled

end Store

end ForeignArena
