import ForeignArena.Proofs.Changes.Run
import ForeignArena.Proofs.Histories

namespace ForeignArena

/-!
# What clients register

Arenas of either kind have in their care exactly what clients have registered with them.
Taking an object over makes a new liveness flag for it, so no two instances share one.

* `Store.made`, `Store.registered` — the instances that an operation makes, and all that it
  registers;
* `Store.Took` — what it means that a store is another one with some instances taken over;
* `Store.apply_took`, `Store.apply_entries` — what operations do;
* `Schedule.entries_succ` — nothing else is registered in a run.
-/

namespace Store

/-- The instance that a result holds, with the arena that takes care of it. -/
def taken {ε : Type} (home : ArenaRef) : Except ε Instance → List (ArenaRef × Instance)
  | .ok i => [(home, i)]
  | .error _ => []

/-- The instances that an operation makes, each with the arena that takes care of it. -/
def made (st : Store) : Operation → List (ArenaRef × Instance)
  | .takeOver thread address type home =>
    taken home (st.takeOver thread address type home).2
  | .newObject thread runtime payload home =>
    taken home (st.newObject thread runtime payload home).2
  | .newValue thread runtime payload home =>
    taken home (st.newValue thread runtime payload home).2
  | .takeOverMany thread type home n =>
    (st.takeOverMany thread type home n).2.instances.toList.map fun i => (home, i)
  | .openFilled thread n =>
    match st.openArena thread { initialCapacity := n } with
    | (opened, .ok a) =>
      let (typed, type) := opened.newInertType
      (typed.takeOverMany thread type (.confined a) n).2.instances.toList.map fun i =>
        (.confined a, i)
    | (_, .error _) => []
  | _ => []

/-- All that an operation registers: a disposal of the client's own, or those of the
    instances that it makes. -/
def registered (st : Store) : Operation → List Entry
  | .register thread home d =>
    match (st.register thread home d).2 with
    | .ok receipt => [⟨home, receipt, d⟩]
    | .error _ => []
  | operation => (st.made operation).map fun (home, i) => i.entry home

/-! ### Stores that have taken instances over -/

/-- A store is another one with some instances taken over: they are registered, each has a new
    flag, which is not set, and their tokens exist. -/
structure Took (st after : Store) (taken : List (ArenaRef × Instance)) : Prop where
  entries : after.history.entries = st.history.entries ++ taken.map fun (home, i) => i.entry home
  flags : ∃ n, after.flags = st.flags ++ Array.replicate n false
  fresh : ∀ t ∈ taken, st.flags.size ≤ t.2.flag ∧ t.2.flag < after.flags.size
  distinct : (taken.map (·.2.flag)).Nodup
  cleaners : st.cleaners.size ≤ after.cleaners.size
  tokens : ∀ c, (st.cleaner c).tokens ⊆ (after.cleaner c).tokens
  held : ∀ t ∈ taken, ∀ c token, t.2.registration = .tracked c token → c < st.cleaners.size →
    token ∈ (after.cleaner c).tokens

namespace Took

variable {st middle after : Store} {first second : List (ArenaRef × Instance)}

/-- Nothing was taken over, and no token is gone. -/
theorem nothing (hentries : after.history.entries = st.history.entries)
    (hflags : after.flags = st.flags) (hcleaners : st.cleaners.size ≤ after.cleaners.size)
    (htokens : ∀ c, (st.cleaner c).tokens ⊆ (after.cleaner c).tokens) : st.Took after [] where
  entries := by simp [hentries]
  flags := ⟨0, by simp [hflags]⟩
  fresh := by simp
  distinct := .nil
  cleaners := hcleaners
  tokens := htokens
  held := by simp

/-- Nothing was taken over, and no cleaner was touched. -/
theorem none (hentries : after.history.entries = st.history.entries)
    (hflags : after.flags = st.flags) (hcleaners : after.cleaners = st.cleaners) :
    st.Took after [] := by
  refine .nothing hentries hflags (Nat.le_of_eq (by rw [hcleaners])) fun c => ?_
  rw [cleaner, cleaner, hcleaners]
  exact List.Subset.refl _

theorem size_le (h : st.Took after first) : st.flags.size ≤ after.flags.size := by
  obtain ⟨n, hflags⟩ := h.flags
  simp [hflags]

theorem trans (h : st.Took middle first) (h' : middle.Took after second) :
    st.Took after (first ++ second) where
  entries := by rw [h'.entries, h.entries, List.map_append, List.append_assoc]
  flags := by
    obtain ⟨n, hflags⟩ := h.flags
    obtain ⟨m, hflags'⟩ := h'.flags
    exact ⟨n + m, by rw [hflags', hflags, Array.append_assoc, Array.replicate_append_replicate]⟩
  fresh t ht := by
    obtain ht | ht := List.mem_append.mp ht
    · obtain ⟨hlow, hhigh⟩ := h.fresh t ht
      exact ⟨hlow, Nat.lt_of_lt_of_le hhigh h'.size_le⟩
    · obtain ⟨hlow, hhigh⟩ := h'.fresh t ht
      exact ⟨Nat.le_trans h.size_le hlow, hhigh⟩
  distinct := by
    rw [List.map_append]
    refine List.nodup_append.mpr ⟨h.distinct, h'.distinct, ?_⟩
    -- the second part starts with the flags where the first has ended
    intro flag hfirst other hsecond heq
    obtain ⟨t, ht, rfl⟩ := List.mem_map.mp hfirst
    obtain ⟨t', ht', rfl⟩ := List.mem_map.mp hsecond
    have hlow := (h'.fresh t' ht').1
    have hhigh := (h.fresh t ht).2
    omega
  cleaners := Nat.le_trans h.cleaners h'.cleaners
  tokens c := List.Subset.trans (h.tokens c) (h'.tokens c)
  held t ht c token htoken hc := by
    obtain ht | ht := List.mem_append.mp ht
    · exact h'.tokens c (h.held t ht c token htoken hc)
    · exact h'.held t ht c token htoken (Nat.lt_of_lt_of_le hc h.cleaners)

end Took

/-! ### What operations take over -/

variable (st : Store)

/-- Registering a disposal registers just that, if it gets a receipt. -/
theorem register_entries (thread : ThreadId) (home : ArenaRef) (d : Disposal) :
    (st.register thread home d).1.history.entries = st.history.entries ++
      match (st.register thread home d).2 with
      | .ok receipt => [⟨home, receipt, d⟩]
      | .error _ => [] := by
  cases home with
  | confined a =>
    simp only [register]
    unfold registerConfined
    split
    · simp
    · split <;> simp
  | auto c => simp [register, track]

theorem flags_register (thread : ThreadId) (home : ArenaRef) (d : Disposal) :
    (st.register thread home d).1.flags = st.flags := by
  cases home with
  | confined a =>
    simp only [register]
    unfold registerConfined
    split
    · rfl
    · split <;> rfl
  | auto c => rfl

/-- Registering an action makes its token, if the cleaner exists, and spends none. -/
theorem tokens_track (c : Nat) (action : Action) :
    (∀ b, (st.cleaner b).tokens ⊆ ((st.track c action).1.cleaner b).tokens) ∧
      (c < st.cleaners.size → (st.track c action).2 ∈ ((st.track c action).1.cleaner c).tokens) := by
  constructor
  · intro b
    by_cases hc : c < st.cleaners.size
    · simp only [track, cleaner_note, cleaner_modifyCleaner _ _ _ _ hc]
      split
      · exact List.subset_append_left ..
      · exact List.Subset.refl _
    · rw [track, cleaner_note, cleaner_modifyCleaner_unknown _ (Nat.not_lt.mp hc)]
      exact List.Subset.refl _
  · intro hc
    simp [track, cleaner_modifyCleaner _ _ _ _ hc, Cleaner.track_eq]

/-- And so does registering a disposal. -/
theorem tokens_register (thread : ThreadId) (home : ArenaRef) (d : Disposal) :
    (st.register thread home d).1.cleaners.size = st.cleaners.size ∧
      (∀ b, (st.cleaner b).tokens ⊆ ((st.register thread home d).1.cleaner b).tokens) ∧
      ∀ c token, (st.register thread home d).2 = .ok (.tracked c token) → c < st.cleaners.size →
        token ∈ ((st.register thread home d).1.cleaner c).tokens := by
  cases home with
  | confined a =>
    simp only [register]
    unfold registerConfined
    split
    · exact ⟨rfl, fun _ => List.Subset.refl _, fun _ _ heq => by cases heq⟩
    · split
      · exact ⟨rfl, fun _ => List.Subset.refl _, fun _ _ heq => by cases heq⟩
      · exact ⟨rfl, fun _ => List.Subset.refl _, fun _ _ heq => by cases heq⟩
  | auto b =>
    obtain ⟨hkept, hmade⟩ := tokens_track st b (.dispose d)
    refine ⟨size_cleaners_modifyCleaner .., hkept, fun c token heq hc => ?_⟩
    cases heq
    exact hmade hc

theorem takeOver_took (thread : ThreadId) (address : Address) (type : ForeignType)
    (home : ArenaRef) :
    st.Took (st.takeOver thread address type home).1
      (taken home (st.takeOver thread address type home).2) := by
  unfold takeOver
  split
  · exact .none rfl rfl rfl
  · -- whatever comes of the registration, its flag is there, and stays if it is refused
    have hentries := register_entries st.newFlag.1 thread home ⟨address, type, st.newFlag.2⟩
    have hflags := flags_register st.newFlag.1 thread home ⟨address, type, st.newFlag.2⟩
    obtain ⟨hcleaners, htokens, hheld⟩ :=
      tokens_register st.newFlag.1 thread home ⟨address, type, st.newFlag.2⟩
    dsimp only
    revert hentries hflags hcleaners htokens hheld
    generalize st.newFlag.1.register thread home ⟨address, type, st.newFlag.2⟩ = result
    intro hentries hflags hcleaners htokens hheld
    have hpush : result.1.flags = st.flags ++ Array.replicate 1 false := hflags
    obtain ⟨after, refusal | receipt⟩ := result
    · exact ⟨hentries, ⟨1, hpush⟩, by simp [taken, Except.map], by simp [taken, Except.map],
        Nat.le_of_eq hcleaners.symm, htokens, by simp [taken, Except.map]⟩
    · refine ⟨hentries, ⟨1, hpush⟩, ?_, by simp [taken, Except.map], Nat.le_of_eq hcleaners.symm,
        htokens, ?_⟩
      · simp_all [taken, Except.map, newFlag]
      · intro t ht c token htoken hc
        obtain rfl := List.mem_singleton.mp ht
        cases htoken
        exact hheld c token rfl hc

/-- A batch adds to the instances it starts with those that it takes over. -/
theorem extendBatch_took (thread : ThreadId) (type : ForeignType) (home : ArenaRef) (n : Nat)
    (st : Store) (instances : Array Instance) :
    ∃ added : List Instance,
      (extendBatch thread type home n st instances).2.instances.toList = instances.toList ++ added ∧
      st.Took (extendBatch thread type home n st instances).1 (added.map fun i => (home, i)) := by
  -- on the number of instances that are still to be made
  induction n generalizing st instances with
  | zero => exact ⟨[], by simp [extendBatch], .none rfl rfl rfl⟩
  | succ n ih =>
    have hfirst := takeOver_took st thread ⟨UInt64.ofNat (instances.size + 1)⟩ type home
    unfold extendBatch
    split
    · next after i heq =>
      rw [heq] at hfirst
      obtain ⟨added, hinstances, htook⟩ := ih after (instances.push i)
      exact ⟨i :: added, by simp [hinstances], hfirst.trans htook⟩
    · next heq =>
      rw [heq] at hfirst
      exact ⟨[], by simp, hfirst⟩

theorem takeOverMany_took (thread : ThreadId) (type : ForeignType) (home : ArenaRef) (n : Nat) :
    st.Took (st.takeOverMany thread type home n).1
      ((st.takeOverMany thread type home n).2.instances.toList.map fun i => (home, i)) := by
  obtain ⟨added, hinstances, htook⟩ := extendBatch_took thread type home n st #[]
  rw [takeOverMany, hinstances]
  exact htook

theorem findOrMakeType_took (thread : ThreadId) (r : Nat) (name : String)
    (make : Except Payload ForeignType) :
    st.Took (st.findOrMakeType thread r name make).1 [] := by
  unfold findOrMakeType
  dsimp only
  split
  · exact .none (by simp [setRegistry]) rfl rfl
  · exact .none rfl rfl rfl

theorem runtimeType_took (thread : ThreadId) (runtime : ForeignRuntime) (name : String)
    (kind : TypeKind) : st.Took (st.runtimeType thread runtime name kind).1 [] := by
  obtain ⟨fresh, heq⟩ := runtimeType_fst st thread runtime name kind
  rw [heq]
  have hfind := findOrMakeType_took { st with typeCount := st.typeCount + 1 } thread
    runtime.registry name (.ok fresh)
  exact ⟨hfind.entries, hfind.flags, hfind.fresh, hfind.distinct, hfind.cleaners, hfind.tokens,
    hfind.held⟩

theorem newOnHeap_took (thread : ThreadId) (runtime : ForeignRuntime) (typeName : String)
    (kind : TypeKind) (payload : Int64) (home : ArenaRef) :
    st.Took (st.newOnHeap thread runtime typeName kind payload home).1
      (taken home (st.newOnHeap thread runtime typeName kind payload home).2) := by
  unfold newOnHeap
  dsimp only
  generalize (st.heap runtime.heap).allocate typeName payload = allocated
  have halloc : st.Took (st.setHeap runtime.heap allocated.1) [] := .none rfl rfl rfl
  have htype := runtimeType_took (st.setHeap runtime.heap allocated.1) thread runtime typeName kind
  generalize (st.setHeap runtime.heap allocated.1).runtimeType thread runtime typeName kind = typed
    at htype
  have htake := takeOver_took typed.1 thread allocated.2 typed.2 home
  have hall := (halloc.trans htype).trans htake
  split
  · next heq =>
    rw [heq] at hall
    exact hall
  · next heq =>
    rw [heq] at hall
    -- giving the object back concerns the heap only
    refine hall.trans ?_
    cases kind <;> exact .none rfl rfl rfl

theorem openArena_took (thread : ThreadId) (config : ArenaConfig) :
    st.Took (st.openArena thread config).1 [] := by
  unfold openArena
  split
  · exact .none rfl rfl rfl
  · exact .none (by simp [buildArena]) rfl rfl

theorem startCleaner_took (thread : ThreadId) (config : CleanerConfig) :
    st.Took (st.startCleaner thread config).1 [] := by
  unfold startCleaner
  split
  · exact .none rfl rfl rfl
  · refine .nothing (by simp) rfl (by simp) fun c => ?_
    by_cases hc : c < st.cleaners.size
    · simp [cleaner, Array.getElem?_push, Nat.ne_of_lt hc]
    · simp [cleaner, Nat.not_lt.mp hc, Cleaner.void]

theorem openFilled_took (thread : ThreadId) (n : Nat) :
    st.Took (st.openFilled thread n).1 (st.made (.openFilled thread n)) := by
  have hopen := openArena_took st thread { initialCapacity := n }
  unfold openFilled made
  split
  · next heq =>
    rw [heq] at hopen
    simpa only [heq] using hopen
  · next opened a heq =>
    rw [heq] at hopen
    have htype : opened.Took opened.newInertType.1 [] := .none rfl rfl rfl
    have hfill := takeOverMany_took opened.newInertType.1 thread opened.newInertType.2 (.confined a) n
    have hall := (hopen.trans htype).trans hfill
    dsimp only at hall ⊢
    rw [heq]
    dsimp only
    split <;> next hbatch => rw [hbatch] at hall ⊢; exact hall

/-- **What an operation makes of a store**, unless it registers a disposal of the client's
    own or sets a flag: the instances that it makes are taken over. -/
theorem apply_took (operation : Operation)
    (hregister : ∀ thread home d, operation ≠ .register thread home d)
    (hmark : ∀ flag, operation ≠ .mark flag) :
    st.Took (st.apply operation) (st.made operation) := by
  cases operation with
  | register thread home d => exact absurd rfl (hregister thread home d)
  | mark flag => exact absurd rfl (hmark flag)
  | takeOver thread address type home =>
    exact takeOver_took st thread address type home
  | newObject thread runtime payload home =>
    exact newOnHeap_took st thread runtime objectTypeName .reference payload home
  | newValue thread runtime payload home =>
    exact newOnHeap_took st thread runtime valueTypeName .value payload home
  | takeOverMany thread type home n => exact takeOverMany_took st thread type home n
  | openFilled thread n => exact openFilled_took st thread n
  | newFlag =>
    exact ⟨by simp [apply, newFlag, made], ⟨1, rfl⟩, by simp [made], by simp [made], Nat.le_refl _,
      fun _ => List.Subset.refl _, by simp [made]⟩
  | runtimeType thread runtime name kind => exact runtimeType_took st thread runtime name kind
  | findOrMakeType thread r name make => exact findOrMakeType_took st thread r name make
  | openArena thread config => exact openArena_took st thread config
  | startCleaner thread config => exact startCleaner_took st thread config
  | openAuto thread config =>
    have hstart := startCleaner_took st thread config
    simp only [apply]
    unfold openAuto
    split
    · next heq =>
      rw [heq] at hstart
      exact hstart
    · next heq =>
      rw [heq] at hstart
      exact hstart.trans (.none (by simp) rfl rfl)
  | retainObject i heap =>
    simp only [apply, retainObject_fst]
    split <;> exact .none rfl rfl rfl
  | track c tag =>
    exact .nothing (by simp [apply, track]) rfl (Nat.le_of_eq (size_cleaners_modifyCleaner ..).symm)
      (tokens_track st c (.supplied tag)).1
  | letGo c =>
    refine .nothing rfl rfl (Nat.le_of_eq (size_cleaners_modifyCleaner ..).symm) fun b => ?_
    rw [show (st.apply (.letGo c)).cleaner b = (st.modifyCleaner c (·.release)).cleaner b from rfl,
      view_modifyCleaner Cleaner.tokens st c b (·.release) fun _ => rfl]
    exact List.Subset.refl _
  | settle =>
    refine .nothing rfl rfl (by simp [apply, Store.settle]) fun c => ?_
    have htokens (cleaner : Cleaner) : cleaner.settle.tokens = cleaner.tokens := by
      unfold Cleaner.settle
      split <;> rfl
    cases hc : st.cleaners[c]? <;> simp [apply, Store.settle, cleaner, hc, htokens]
  | _ => exact .none rfl rfl rfl

/-- A cleaner that takes care of an instance from now on exists. -/
theorem known_of_made {operation : Operation} (hadmits : st.admits operation) {c : Nat}
    {i : Instance} (h : (.auto c, i) ∈ st.made operation) : c < st.cleaners.size := by
  have hhome {home : ArenaRef} (hhome : st.hasHome home) (heq : .auto c = home) :
      c < st.cleaners.size := by
    rw [← heq] at hhome
    simp only [hasHome, Bool.and_eq_true, decide_eq_true_eq] at hhome
    exact hhome.1
  have htaken {ε : Type} {home : ArenaRef} {result : Except ε Instance}
      (h : (.auto c, i) ∈ taken home result) : .auto c = home := by
    cases result with
    | ok inst => exact congrArg Prod.fst (List.mem_singleton.mp h)
    | error e => cases h
  cases operation with
  | takeOver thread address type home => exact hhome hadmits (htaken h)
  | newObject thread runtime payload home | newValue thread runtime payload home =>
    simp only [admits, Bool.and_eq_true] at hadmits
    exact hhome hadmits.1 (htaken h)
  | takeOverMany thread type home n =>
    obtain ⟨inst, -, heq⟩ := List.mem_map.mp h
    exact hhome hadmits (congrArg Prod.fst heq).symm
  | openFilled thread n =>
    unfold made at h
    dsimp only at h
    split at h
    · obtain ⟨inst, -, heq⟩ := List.mem_map.mp h
      cases congrArg Prod.fst heq
    · cases h
  | _ => cases h

/-- **What an operation has registered is in the care of arenas**, and nothing else is. -/
theorem apply_entries (operation : Operation) :
    (st.apply operation).history.entries =
      st.history.entries ++ st.registered operation := by
  have htook := apply_took st operation
  cases operation with
  | register thread home d => exact register_entries st thread home d
  | mark flag => exact (List.append_nil _).symm
  | _ => exact (htook (by simp) (by simp)).entries

end Store

/-! ### Runs -/

/-- Nothing but an operation registers anything. -/
theorem Change.entries_eq {move : Move} {s t : Site} (h : Change move s t)
    (hmove : ∀ operation, move ≠ .operate operation) :
    t.1.history.entries = s.1.history.entries := by
  cases h with
  | accepted operation _ _ _ hoperate => exact absurd hoperate (hmove operation)
  | tracked operation _ _ hoperate => exact absurd hoperate (hmove operation)
  | note e he =>
    have hplain : e.entry? = none := by cases e <;> first | rfl | cases he
    rw [Store.history_note, History.entries_cons, hplain]
    exact List.append_nil _
  | opened => simp [Store.buildArena]
  | registryUsed | heapUsed | flagAdded | marked | settled => rfl
  | _ => simp

theorem System.perform_entries (s : System) (move : Move)
    (hmove : ∀ operation, move ≠ .operate operation) :
    (s.perform move).store.history.entries = s.store.history.entries :=
  Changes.keeps (fun site => site.1.history.entries = s.store.history.entries)
    (fun hchange hs => (hchange.entries_eq hmove).trans hs) (s.perform_changes move) rfl

/-- The operation that a client does in an act, if it is one and can be done. -/
def Machine.operation? (m : Machine) : Act → Option Operation
  | .move i (.operate operation) =>
    match m.strands[i]? with
    | some ⟨_, .client _⟩ => if m.store.admits operation then some operation else none
    | _ => none
  | _ => none

/-- What is registered in an act. -/
def Machine.registered (m : Machine) (act : Act) : List Entry :=
  match m.operation? act with
  | some operation => m.store.registered operation
  | none => []

/-- The instances that are made in an act, each with the arena that takes care of it. -/
def Machine.made (m : Machine) (act : Act) : List (ArenaRef × Instance) :=
  match m.operation? act with
  | some operation => m.store.made operation
  | none => []

namespace Machine

variable {m : Machine} {act : Act}

/-- An act in which an operation is done. -/
theorem store_of_operation {operation : Operation} (h : m.operation? act = some operation) :
    (m.perform act).store = m.store.apply operation ∧ m.store.admits operation ∧
      ∃ i, act = .move i (.operate operation) := by
  unfold operation? at h
  split at h
  · next i asked =>
    split at h
    · next stack news hstrand =>
      split at h
      · next hadmits =>
        cases h
        refine ⟨?_, hadmits, i, rfl⟩
        rw [store_perform hstrand]
        simp [System.perform, System.mapStore, system, hadmits]
      · cases h
    · cases h
  · cases h

theorem operation?_of_ne (m : Machine) (i : Nat) {move : Move}
    (hmove : ∀ operation, move ≠ .operate operation) : m.operation? (.move i move) = none := by
  cases move with
  | operate operation => exact absurd rfl (hmove operation)
  | _ => rfl

/-- An act in which no operation is done leaves the store as it was, or is a move of
    another kind. -/
theorem store_of_no_operation (h : m.operation? act = none) :
    (m.perform act).store = m.store ∨
      ∃ i strand move, act = .move i move ∧ m.strands[i]? = some strand ∧
        (∀ operation, move ≠ .operate operation) := by
  cases act with
  | spawn => exact .inl rfl
  | move i move =>
    cases hstrand : m.strands[i]? with
    | none => exact .inl (by rw [perform_of_none hstrand])
    | some strand =>
      cases move with
      | operate operation =>
        left
        rw [store_perform hstrand]
        obtain ⟨stack, focus⟩ := strand
        cases focus with
        | handing o => rfl
        | client news =>
          have hadmits : m.store.admits operation = false := by
            simpa [operation?, hstrand] using h
          simp [System.perform, system, hadmits]
      | start w => exact .inr ⟨i, strand, .start w, rfl, hstrand, by simp⟩
      | answer o => exact .inr ⟨i, strand, .answer o, rfl, hstrand, by simp⟩
      | tick => exact .inr ⟨i, strand, .tick, rfl, hstrand, by simp⟩

/-- An operation leaves all strands as they are. -/
theorem strands_operate (m : Machine) (i : Nat) (operation : Operation) :
    (m.perform (.move i (.operate operation))).strands = m.strands := by
  have hstack (s : System) : (s.perform (.operate operation)).stack = s.stack ∧
      (s.perform (.operate operation)).focus = s.focus := by
    unfold System.perform
    dsimp only
    split
    · exact ⟨rfl, rfl⟩
    · split <;> exact ⟨rfl, rfl⟩
  cases hstrand : m.strands[i]? with
  | none => rw [perform_of_none hstrand]
  | some strand =>
    obtain ⟨hi, hget⟩ := List.getElem?_eq_some_iff.mp hstrand
    obtain ⟨hsame, hfocus⟩ := hstack (m.system strand)
    simp only [perform, hstrand, hsame, hfocus, stack_system, focus_system]
    rw [← hget]
    exact List.set_getElem_self hi

theorem frames_of_operation {operation : Operation} (h : m.operation? act = some operation) :
    (m.perform act).frames = m.frames := by
  obtain ⟨-, -, i, rfl⟩ := store_of_operation h
  rw [frames, strands_operate]
  rfl

/-- Where no operation is done, what all other changes keep is kept. -/
theorem keeps_of_no_operation {I : Store → List Frame → Prop} (hnone : m.operation? act = none)
    (hperm : ∀ {st k k'}, k.Perm k' → I st k → I st k')
    (hchange : ∀ {i move s t}, act = .move i move → (∀ operation, move ≠ .operate operation) →
      Change move s t → I s.1 s.2 → I t.1 t.2)
    (h : I m.store m.frames) : I (m.perform act).store (m.perform act).frames := by
  by_cases hoperate : ∃ i operation, act = .move i (.operate operation)
  · -- the operation cannot be done
    obtain ⟨i, operation, rfl⟩ := hoperate
    obtain hsame | ⟨_, _, _, hmove, -, hne⟩ := store_of_no_operation hnone
    · rw [frames, hsame, strands_operate]
      exact h
    · cases hmove
      exact absurd rfl (hne operation)
  · refine m.keeps act hperm (fun {i move _ _} hact => hchange hact fun operation heq => ?_) h
    exact hoperate ⟨i, operation, by rw [hact, heq]⟩

/-- An act that makes an instance is an operation; the instance has a new flag, is in the
    care of its arena, and has a token that exists if this is a cleaner. -/
theorem of_made {home : ArenaRef} {i : Instance} (h : (home, i) ∈ m.made act) :
    (∃ j operation, act = .move j (.operate operation) ∧ ∀ flag, operation ≠ .mark flag) ∧
      m.store.flags.size ≤ i.flag ∧ i.entry home ∈ (m.perform act).store.history.entries ∧
      ∀ c token, home = .auto c → i.registration = .tracked c token →
        token ∈ ((m.perform act).store.cleaner c).tokens := by
  unfold made at h
  split at h
  · next operation hoperation =>
    obtain ⟨hstore, hadmits, j, hact⟩ := store_of_operation hoperation
    -- registrations of the client's own, and marks, make no instances
    have hregister (thread : ThreadId) (into : ArenaRef) (d : Disposal) :
        operation ≠ .register thread into d := by
      rintro rfl
      cases h
    have hmark (flag : Nat) : operation ≠ .mark flag := by
      rintro rfl
      cases h
    have htook := Store.apply_took m.store operation hregister hmark
    rw [hstore]
    refine ⟨⟨j, operation, hact, hmark⟩, (htook.fresh _ h).1, ?_, ?_⟩
    · rw [htook.entries]
      exact List.mem_append_right _ (List.mem_map_of_mem h)
    · rintro c token rfl htoken
      exact htook.held _ h c token htoken (m.store.known_of_made hadmits h)
  · cases h

end Machine

/-- **What is in the care of arenas is what was registered**, in order. -/
theorem Schedule.entries_succ (σ : Schedule) (n : Nat) :
    (σ.after (n + 1)).store.history.entries =
      (σ.after n).store.history.entries ++ (σ.after n).registered (σ n) := by
  rw [after, Machine.registered]
  cases hoperation : (σ.after n).operation? (σ n) with
  | some operation =>
    rw [(Machine.store_of_operation hoperation).1]
    exact Store.apply_entries _ operation
  | none =>
    obtain hsame | ⟨i, strand, move, hact, hstrand, hmove⟩ := Machine.store_of_no_operation hoperation
    · rw [hsame]
      exact (List.append_nil _).symm
    · rw [hact, Machine.store_perform hstrand, System.perform_entries _ _ hmove]
      exact (List.append_nil _).symm

end ForeignArena
