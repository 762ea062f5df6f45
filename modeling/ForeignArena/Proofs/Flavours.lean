import ForeignArena.Proofs.Cleaners.Tales

namespace ForeignArena

/-!
# The two flavours of arenas

A scoped arena disposes of its objects in one call that reports on all of them.  With an arena of
the other flavour each object is disposed of by the reclamation thread of a cleaner, which reports
on each and counts.  Both do the same to the objects, and they report the same.

* `Store.takeOverAll`, `entries` — objects that are taken over, and their disposals;
* `Store.takeOverAll_confined`, `Store.takeOverAll_auto` — by an arena of either flavour;
* `Library.destroyed_sweep` — a closing sets the flags of all its disposals;
* `DisposedAlike`, `disposedAlike` — the two flavours against each other.
-/

/-! ### Objects that are taken over -/

/-- The disposals of objects by token, where flags and tokens are given in order. -/
def entries (flag token : Nat) (objects : List (Address × ForeignType)) : List (Nat × Disposal) :=
  (objects.zipIdx token).map fun o => (o.2, ⟨o.1.1, o.1.2, flag + o.2⟩)

@[simp] theorem entries_nil (flag token : Nat) : entries flag token [] = [] := rfl

theorem entries_cons (flag token : Nat) (o : Address × ForeignType)
    (objects : List (Address × ForeignType)) : entries flag token (o :: objects) =
      (token, ⟨o.1, o.2, flag + token⟩) :: entries flag (token + 1) objects := by
  rw [entries, List.zipIdx_cons, List.map_cons]
  rfl

theorem length_entries (flag token : Nat) (objects : List (Address × ForeignType)) :
    (entries flag token objects).length = objects.length := by
  simp [entries]

theorem tokens_entries (flag : Nat) (objects : List (Address × ForeignType)) :
    (entries flag 0 objects).map Prod.fst = List.range objects.length := by
  rw [entries, List.map_map, List.range_eq_range', ← List.zipIdx_map_snd]
  rfl

theorem objects_entries (flag token : Nat) (objects : List (Address × ForeignType)) :
    (entries flag token objects).map (fun e => (e.2.address, e.2.type)) = objects := by
  rw [entries, List.map_map]
  exact List.zipIdx_map_fst token objects

theorem flag_lt_of_mem_entries {flag token : Nat} {objects : List (Address × ForeignType)}
    {e : Nat × Disposal} (h : e ∈ entries flag token objects) :
    e.2.flag < flag + (token + objects.length) := by
  obtain ⟨o, ho, rfl⟩ := List.mem_map.mp h
  exact Nat.add_lt_add_left (List.snd_lt_add_of_mem_zipIdx ho) flag

/-- A wrapper with its receipt. -/
def Disposal.wrapper (d : Disposal) (receipt : Registration) : Instance :=
  ⟨d.address, d.type, d.flag, receipt⟩

namespace Store

/-- Take some objects over, one after the other. -/
def takeOverAll (thread : ThreadId) (home : ArenaRef) :
    List (Address × ForeignType) → Store → Store × List (Except ArenaError Instance)
  | [], st => (st, [])
  | o :: objects, st =>
    let first := st.takeOver thread o.1 o.2 home
    let others := takeOverAll thread home objects first.1
    (others.1, first.2 :: others.2)

/-- Between two stores some flags were made.  No routine was called, and nothing is told of a
    cleaner. -/
structure Filled (c : Nat) (st st' : Store) (count : Nat) : Prop where
  flags : st'.flags = st.flags ++ Array.replicate count false
  tallies : st'.tallies = st.tallies
  heaps : st'.heaps = st.heaps
  tale : st'.history.tale c = st.history.tale c

theorem Filled.refl (c : Nat) (st : Store) : st.Filled c st 0 := ⟨by simp, rfl, rfl, rfl⟩

theorem Filled.trans {c : Nat} {st st' st'' : Store} {count others : Nat}
    (h : st.Filled c st' count) (h' : st'.Filled c st'' others) :
    st.Filled c st'' (count + others) where
  flags := by rw [h'.flags, h.flags, Array.append_assoc, Array.replicate_append_replicate]
  tallies := h'.tallies.trans h.tallies
  heaps := h'.heaps.trans h.heaps
  tale := h'.tale.trans h.tale

variable {st : Store} {thread : ThreadId} {a c flag token : Nat}
  {objects : List (Address × ForeignType)}

theorem takeOver_accepted {o : Address × ForeignType}
    (h : o.1.isNull = true → o.2.permitsNull = true) (home : ArenaRef) :
    st.takeOver thread o.1 o.2 home =
      (let taken := st.newFlag.1.register thread home ⟨o.1, o.2, st.flags.size⟩
      (taken.1, taken.2.map (Disposal.wrapper ⟨o.1, o.2, st.flags.size⟩))) := by
  have hnull : (o.1.isNull && !o.2.permitsNull) = false := by
    cases hnull : o.1.isNull with
    | false => rfl
    | true => simp [h hnull]
  rw [takeOver, hnull]
  rfl

/-- A scoped arena that is active takes an object over. -/
theorem takeOver_confined (thread : ThreadId) (c : Nat) {o : Address × ForeignType}
    (h : o.1.isNull = true → o.2.permitsNull = true) (hactive : (st.arena a).isActive)
    (hcheck : (st.arena a).confinement.check thread = .ok ()) :
    let taken := st.takeOver thread o.1 o.2 (.confined a)
    taken.2 = .ok (Disposal.wrapper ⟨o.1, o.2, st.flags.size⟩ .plain) ∧ st.Filled c taken.1 1 ∧
      taken.1.arena a = (st.arena a).accept ⟨o.1, o.2, st.flags.size⟩ := by
  have hcheck : (st.newFlag.1.arena a).confinement.check thread = .ok () := hcheck
  have hactive : (st.newFlag.1.arena a).isActive := hactive
  have hknown : a < st.newFlag.1.arenas.size := Change.known_of_isActive hactive
  rw [takeOver_accepted h, register, registerConfined, hcheck]
  dsimp only
  rw [if_pos hactive]
  refine ⟨rfl, ⟨rfl, rfl, rfl, ?_⟩, ?_⟩
  · exact (History.tale_cons _ st.history c).trans (Tale.append_nil _)
  · rw [arena_note, arena_modifyArena _ _ _ _ hknown, if_pos rfl]
    rfl

/-- A cleaner that is put to the service of an arena takes an object over, for a token. -/
theorem takeOver_auto (thread : ThreadId) {o : Address × ForeignType}
    (h : o.1.isNull = true → o.2.permitsNull = true) (hknown : c < st.cleaners.size) :
    let taken := st.takeOver thread o.1 o.2 (.auto c)
    taken.2 = .ok (Disposal.wrapper ⟨o.1, o.2, st.flags.size⟩ (.tracked c (st.cleaner c).nextId)) ∧
      st.Filled c taken.1 1 ∧ taken.1.cleaners.size = st.cleaners.size ∧
      taken.1.cleaner c = (st.cleaner c).track (.dispose ⟨o.1, o.2, st.flags.size⟩) := by
  have hknown : c < st.newFlag.1.cleaners.size := hknown
  rw [takeOver_accepted h, register]
  refine ⟨rfl, ⟨rfl, rfl, rfl, ?_⟩, ?_, ?_⟩
  · exact (History.tale_cons _ st.history c).trans (Tale.append_nil _)
  · exact size_cleaners_modifyCleaner st.newFlag.1 c _
  · show (st.newFlag.1.modifyCleaner c _).cleaner c = _
    rw [cleaner_modifyCleaner _ _ _ _ hknown, if_pos rfl]
    rfl

/-- A scoped arena that has just been opened is empty, and its creator may use it. -/
theorem opened_confined {st' : Store} {config : ArenaConfig} (c : Nat)
    (h : st.openArena thread config = (st', .ok a)) :
    st.Filled c st' 0 ∧ (st'.arena a).isActive = true ∧
      (st'.arena a).confinement.check thread = .ok () ∧ (st'.arena a).pending = #[] := by
  unfold openArena at h
  split at h
  · cases h
  · have harena : (st.buildArena thread config).1.arena st.arenas.size =
        .opened (if config.confined then .bound thread else .unconfined) := by
      simp [buildArena, arena]
    obtain rfl : (st.buildArena thread config).1 = st' := congrArg Prod.fst h
    obtain rfl : st.arenas.size = a := Except.ok.inj (congrArg Prod.snd h)
    rw [harena]
    refine ⟨⟨by simp [buildArena, note], rfl, rfl, ?_⟩, rfl, ?_, rfl⟩
    · exact (History.tale_cons _ st.history c).trans (Tale.append_nil _)
    · cases config.confined <;>
        simp [Arena.opened, Confinement.check, Confinement.bound, Confinement.unconfined]

/-- A cleaner that has just been started has nothing to do. -/
theorem opened_auto {st' : Store} {config : CleanerConfig}
    (h : st.openAuto thread config = (st', .ok c)) :
    st.Filled c st' 0 ∧ c < st'.cleaners.size ∧
      st'.cleaner c = { threadName := config.threadName } := by
  unfold openAuto startCleaner at h
  split at h
  · cases h
  · next st c' heq =>
    cases h
    split at heq
    · cases heq
    · cases heq
      refine ⟨⟨by simp [note], rfl, rfl, ?_⟩, ?_, ?_⟩
      · rw [history_note, History.tale_cons, history_note, History.tale_cons]
        exact (Tale.append_nil _).trans (Tale.append_nil _)
      · simp [note]
      · simp [note, cleaner]

/-- All objects are taken over by a scoped arena, in their order. -/
theorem takeOverAll_confined (c : Nat) (hactive : (st.arena a).isActive)
    (hcheck : (st.arena a).confinement.check thread = .ok ())
    (haccepted : ∀ o ∈ objects, o.1.isNull = true → o.2.permitsNull = true)
    (hflag : st.flags.size = flag + token) :
    let taken := takeOverAll thread (.confined a) objects st
    taken.2 = (entries flag token objects).map (fun e => .ok (e.2.wrapper .plain)) ∧
      st.Filled c taken.1 objects.length ∧
      taken.1.arena a = { st.arena a with
        pending :=
          (st.arena a).pending ++ ((entries flag token objects).map Prod.snd).toArray } := by
  induction objects generalizing st token with
  | nil => exact ⟨rfl, .refl c st, by simp [takeOverAll]⟩
  | cons o objects ih =>
    obtain ⟨hresult, hfilled, harena⟩ := takeOver_confined thread c
      (haccepted o (List.mem_cons_self ..)) hactive hcheck
    have hflag' : (st.takeOver thread o.1 o.2 (.confined a)).1.flags.size = flag + (token + 1) := by
      rw [hfilled.flags, Array.size_append, Array.size_replicate, hflag, Nat.add_assoc]
    obtain ⟨hresults, hothers, hrest⟩ := ih (by rw [harena]; exact hactive)
      (by rw [harena]; exact hcheck) (fun o ho => haccepted o (List.mem_cons_of_mem _ ho)) hflag'
    rw [entries_cons, ← hflag]
    refine ⟨?_, ?_, ?_⟩
    · rw [takeOverAll, List.map_cons, hresult, hresults]
    · rw [List.length_cons, Nat.add_comm]
      exact hfilled.trans hothers
    · rw [takeOverAll, hrest, harena]
      simp [Arena.accept]

/-- And by a cleaner, each for a token of its own. -/
theorem takeOverAll_auto (thread : ThreadId) (hknown : c < st.cleaners.size)
    {kept : List (Nat × Disposal)} (hholds : (st.cleaner c).Holds [] kept) (htoken : (st.cleaner c).nextId = token)
    (haccepted : ∀ o ∈ objects, o.1.isNull = true → o.2.permitsNull = true)
    (hflag : st.flags.size = flag + token) :
    let taken := takeOverAll thread (.auto c) objects st
    taken.2 = (entries flag token objects).map (fun e => .ok (e.2.wrapper (.tracked c e.1))) ∧
      st.Filled c taken.1 objects.length ∧
      (taken.1.cleaner c).Holds [] (kept ++ entries flag token objects) ∧
      taken.1.cleaner c = { taken.1.cleaner c with
        threadName := (st.cleaner c).threadName
        registered := (st.cleaner c).registered + objects.length
        cleaned := (st.cleaner c).cleaned
        panicked := (st.cleaner c).panicked } := by
  induction objects generalizing st token kept with
  | nil => exact ⟨rfl, .refl c st, by simpa [takeOverAll] using hholds, rfl⟩
  | cons o objects ih =>
    obtain ⟨hresult, hfilled, hsize, hcleaner⟩ := takeOver_auto thread
      (haccepted o (List.mem_cons_self ..)) hknown
    have hflag' : (st.takeOver thread o.1 o.2 (.auto c)).1.flags.size = flag + (token + 1) := by
      rw [hfilled.flags, Array.size_append, Array.size_replicate, hflag, Nat.add_assoc]
    obtain ⟨hresults, hothers, hrest, hcounters⟩ := ih (hsize ▸ hknown)
      (hcleaner ▸ hholds.track _) (by rw [hcleaner, ← htoken]; rfl)
      (fun o ho => haccepted o (List.mem_cons_of_mem _ ho)) hflag'
    rw [entries_cons, ← hflag]
    refine ⟨?_, ?_, ?_, ?_⟩
    · rw [takeOverAll, List.map_cons, hresult, hresults, htoken]
    · rw [List.length_cons, Nat.add_comm]
      exact hfilled.trans hothers
    · rw [htoken, List.append_assoc] at hrest
      exact hrest
    · rw [hcleaner] at hcounters
      rw [List.length_cons, Nat.add_comm objects.length 1, ← Nat.add_assoc]
      exact hcounters

/-- A scoped arena that is opened for some objects has their disposals. -/
theorem filled_confined {st' : Store} {config : ArenaConfig} (c : Nat)
    (h : st.openArena thread config = (st', .ok a))
    (haccepted : ∀ o ∈ objects, o.1.isNull = true → o.2.permitsNull = true) :
    let taken := takeOverAll thread (.confined a) objects st'
    let own := entries st.flags.size 0 objects
    taken.2 = own.map (fun e => .ok (e.2.wrapper .plain)) ∧ st.Filled c taken.1 objects.length ∧
      (taken.1.arena a).isActive = true ∧
      (taken.1.arena a).confinement.check thread = .ok () ∧
      (taken.1.arena a).pending.toList = own.map Prod.snd := by
  obtain ⟨hopened, hactive, hcheck, hpending⟩ := opened_confined c h
  have hflag : st'.flags.size = st.flags.size + 0 := by
    rw [hopened.flags, Array.size_append, Array.size_replicate]
  obtain ⟨hresults, hfilled, harena⟩ := takeOverAll_confined c hactive hcheck haccepted hflag
  have hboth := hopened.trans hfilled
  rw [Nat.zero_add] at hboth
  refine ⟨hresults, hboth, ?_, ?_, ?_⟩
  · rw [harena]
    exact hactive
  · rw [harena]
    exact hcheck
  · rw [harena, hpending]
    simp

/-- So has a cleaner, that has not begun any of them. -/
theorem filled_auto {st' : Store} {config : CleanerConfig}
    (h : st.openAuto thread config = (st', .ok c))
    (haccepted : ∀ o ∈ objects, o.1.isNull = true → o.2.permitsNull = true) :
    let taken := takeOverAll thread (.auto c) objects st'
    let own := entries st.flags.size 0 objects
    taken.2 = own.map (fun e => .ok (e.2.wrapper (.tracked c e.1))) ∧
      st.Filled c taken.1 objects.length ∧ (taken.1.cleaner c).Holds [] own ∧
      (taken.1.cleaner c).threadName = config.threadName ∧
      (taken.1.cleaner c).registered = objects.length ∧ (taken.1.cleaner c).cleaned = 0 ∧
      (taken.1.cleaner c).panicked = 0 := by
  obtain ⟨hopened, hknown, hcleaner⟩ := opened_auto h
  have hflag : st'.flags.size = st.flags.size + 0 := by
    rw [hopened.flags, Array.size_append, Array.size_replicate]
  have hholds : (st'.cleaner c).Holds [] [] := by
    rw [hcleaner]
    exact ⟨rfl, rfl, rfl, rfl, List.nodup_nil, by simp⟩
  obtain ⟨hresults, hfilled, hwaits, hcounters⟩ := takeOverAll_auto thread hknown hholds
    (by rw [hcleaner]) haccepted hflag
  have hboth := hopened.trans hfilled
  rw [Nat.zero_add] at hboth
  rw [hcleaner] at hcounters
  exact ⟨hresults, hboth, hwaits, congrArg Cleaner.threadName hcounters,
    (congrArg Cleaner.registered hcounters).trans (Nat.zero_add _),
    congrArg Cleaner.cleaned hcounters, congrArg Cleaner.panicked hcounters⟩

end Store

namespace Library

variable {W : Type} (lib : Library W) (thread : ThreadId) (d : Disposal) (x : World W)

/-! ### Flags -/

theorem flags_call (r : Request) : (lib.call x r).2.store.flags = x.store.flags := by
  obtain ⟨tallies, heaps, hstore⟩ := lib.store_call x r
  rw [hstore]

theorem flags_destroy : (lib.destroy thread d x).left.store.flags = x.store.flags := by
  have hcall := lib.flags_call (x.note (.destroying thread d)) (.destroy thread d.type d.address)
  unfold destroy
  dsimp only
  split <;> exact hcall

/-- Of flags a disposal sets its own. -/
theorem flags_dispose :
    (lib.dispose thread d x).left.store.flags = (x.store.setFlag d.flag).flags := by
  have hgoOn (y : World W) (count : Except Payload (Option UInt64)) :
      (lib.goOn thread d y count).left.store.flags = y.store.flags := by
    unfold goOn
    split
    · split
      · rfl
      · exact lib.flags_destroy thread d y
    · exact lib.flags_destroy thread d y
    · rfl
  unfold dispose
  dsimp only
  split
  · exact (hgoOn _ _).trans (lib.flags_call _ _)
  · exact lib.flags_destroy thread d _

/-- **A closing sets the flags of all its disposals.** -/
theorem destroyed_sweep (a : Nat) {todo : List Disposal} {flag : Nat}
    (h : x.store.isDestroyed flag = true ∨ flag < x.store.flags.size ∧ flag ∈ todo.map (·.flag)) :
    (lib.sweep thread a todo x).2.store.isDestroyed flag = true := by
  induction todo generalizing x with
  | nil => simpa [sweep] using h
  | cons d rest ih =>
    refine ih _ ?_
    -- the first disposal sets its own flag, and taking note of a failure sets none
    generalize hy : (lib.run thread d (x.note (.attempting thread a d))).left.record thread a _ = y
    have hflags : y.store.flags = (x.store.setFlag d.flag).flags := by
      have hrecord : y.store.flags =
          (lib.dispose thread d (x.note (.attempting thread a d))).left.store.flags := by
        rw [← hy]
        cases (lib.run thread d (x.note (.attempting thread a d))).result <;> rfl
      exact hrecord.trans (lib.flags_dispose thread d _)
    have hdestroyed : y.store.isDestroyed flag = (x.store.setFlag d.flag).isDestroyed flag := by
      rw [Store.isDestroyed, Store.isDestroyed, hflags]
    rw [hdestroyed, Store.isDestroyed_setFlag, hflags, Store.setFlag, Array.size_modify]
    obtain hset | ⟨hknown, hmem⟩ := h
    · simp [hset]
    · obtain rfl | hrest := List.mem_cons.mp hmem
      · simp [hknown]
      · exact .inr ⟨hknown, hrest⟩

end Library

/-! ### Closings -/

/-- The world in which an arena has just been closed. -/
def World.closing {W : Type} (x : World W) (thread : ThreadId) (a : Nat) : World W :=
  let closed := x.store.modifyArena a fun _ => (x.store.arena a).takePending.1
  { x with store := closed.note (.closing thread a) }

/-- A client that closes an arena gets its report. -/
theorem Library.serves_close {W : Type} (lib : Library W) (x : World W) {news : Option Outcome}
    {stack : List Frame} (hbase : Grounded stack) {thread : ThreadId} {a : Nat}
    {todo : List Disposal} (hactive : (x.store.arena a).isActive = true)
    (hcheck : (x.store.arena a).confinement.check thread = .ok ())
    (htodo : (x.store.arena a).pending.toList = todo) :
    let swept := lib.sweep thread a todo (x.closing thread a)
    let results := swept.1.map (·.result)
    lib.Serves (.close thread a) (waits news x stack)
      (waits (some (.ok (.closed (report results))))
        (swept.2.note (.arenaClosed thread a todo.length (failures results).length)) stack) := by
  have hdrives := lib.drives_close thread (s := (waits news x stack).1) (w := x.own) rfl hbase
    hactive hcheck
  subst htodo
  exact ⟨⟨news, rfl⟩, hdrives, ⟨_, rfl⟩⟩

/-! ### The two flavours -/

/-- What it means that the same disposals have gone alike in a closing and on the thread of a
    cleaner.  The closing has left the first world, with results that it reports, and the thread
    has left the second one. -/
structure DisposedAlike {W : Type} (before : Store) (thread : ThreadId) (c : Nat)
    (disposals : List Disposal) (results : List (Except DisposalError Unit)) (x y : World W) :
    Prop where
  /-- All disposals were attempted. -/
  attempted : results.length = disposals.length
  /-- The same routines were called, in the same order. -/
  calls : ∃ calls, x.calls = before.history.calls ++ calls ∧
    y.calls = before.history.calls ++ calls.map (·.on thread)
  /-- They have left the same foreign state. -/
  foreign : y.foreign = x.foreign
  /-- The same flags are set, and those of all objects are. -/
  flags : y.store.flags = x.store.flags
  destroyed : ∀ d ∈ disposals, x.store.isDestroyed d.flag = true ∧ y.store.isDestroyed d.flag = true
  /-- No action is left. -/
  registered : (y.store.cleaner c).stats.registered = results.length
  pending : (y.store.cleaner c).stats.pending = 0
  /-- Those have panicked that failed by a panic. -/
  panicked : (y.store.cleaner c).stats.panicked = (failures results).countP (·.panic?.isSome)
  /-- And all others were cleaned. -/
  cleaned : (y.store.cleaner c).stats.cleaned =
    results.length - (failures results).countP (·.panic?.isSome)
  /-- Each action has ended as its disposal has. -/
  ended : y.store.history.ended c = before.history.ended c ++
    (List.range results.length).zip (results.map endedNormally)
  /-- The failures by a count were reported, in their order. -/
  failed : y.store.history.pick (Happening.failedBy? c) =
    before.history.pick (Happening.failedBy? c) ++ (failures results).filter (·.panic?.isNone)
  /-- And so were the texts of the panics. -/
  panics : y.store.history.pick (Happening.panickedBy? c) =
    before.history.pick (Happening.panickedBy? c) ++ (failures results).filterMap (·.panic?)

/-- A cleaner that tells what a closing has done has disposed alike. -/
theorem World.Reclaims.alike {W : Type} (lib : Library W) {before : Store}
    {owner thread : ThreadId} {a c : Nat} {disposals : List Disposal} {x y z : World W}
    (hx : x.calls = before.history.calls) (hy : y.tale c = before.history.tale c)
    (hregistered : (y.store.cleaner c).registered = disposals.length)
    (hcleaned : (y.store.cleaner c).cleaned = 0) (hpanicked : (y.store.cleaner c).panicked = 0)
    (hflags : ∀ d ∈ disposals, d.flag < x.store.flags.size)
    (hmatches : (lib.sweep owner a disposals x).2.Matches z)
    (hempty : (z.store.cleaner c).Holds [] [])
    (hreclaims : y.Reclaims c z
      (tales thread (List.range disposals.length) (lib.sweep owner a disposals x).1))
    (e : Happening) (he : e.call? = none) :
    DisposedAlike before thread c disposals ((lib.sweep owner a disposals x).1.map (·.result))
      ((lib.sweep owner a disposals x).2.note e) z := by
  have hlength : (lib.sweep owner a disposals x).1.length = disposals.length :=
    lib.length_sweep a disposals x
  have hcalls := lib.calls_sweep owner x a disposals
  have hdestroyed (d : Disposal) (hd : d ∈ disposals) :=
    lib.destroyed_sweep owner x a (.inr ⟨hflags d hd, List.mem_map_of_mem (f := (·.flag)) hd⟩)
  generalize lib.sweep owner a disposals x = swept at *
  obtain ⟨visits, left⟩ := swept
  have hvisits : (List.range disposals.length).length = visits.length := by
    rw [List.length_range, hlength]
  -- the history of the cleaner tells of each visit of the closing, in order
  have htale := hreclaims.tale
  rw [hy, tales_eq thread hvisits] at htale
  have hnormal := countP_tales thread hvisits
  have hresults : (visits.map (·.result)).length = disposals.length := by
    rw [List.length_map, hlength]
  constructor
  case attempted => exact hresults
  case calls =>
    refine ⟨visits.flatMap Visit.calls, ?_, congrArg Tale.calls htale⟩
    rw [World.calls_note, he, hcalls, hx]
    exact List.append_nil _
  case foreign => exact hmatches.foreign
  case flags => exact hmatches.flags
  case destroyed =>
    refine fun d hd => ⟨hdestroyed d hd, ?_⟩
    rw [Store.isDestroyed, hmatches.flags]
    exact hdestroyed d hd
  case registered => rw [hresults, ← hregistered, ← hreclaims.registered]; rfl
  case pending => exact congrArg List.length hempty.live
  case panicked =>
    show (z.store.cleaner c).panicked = _
    rw [hreclaims.panicked, hpanicked, Nat.zero_add, ← countP_endedNormally]
    exact hnormal (!·)
  case cleaned =>
    -- what has not panicked was cleaned, so the two counts make up the whole
    have hall (results : List (Except DisposalError Unit)) : results.length =
        results.countP endedNormally + results.countP (!endedNormally ·) := by
      simpa using List.length_eq_countP_add_countP endedNormally (l := results)
    have hall := hall (visits.map (·.result))
    have hcount : (z.store.cleaner c).cleaned = (visits.map (·.result)).countP endedNormally := by
      rw [hreclaims.cleaned, hcleaned, Nat.zero_add]
      exact hnormal id
    show (z.store.cleaner c).cleaned = _
    rw [hcount, ← countP_endedNormally]
    dsimp only at hall ⊢
    omega
  case ended =>
    rw [hresults, List.map_map]
    exact congrArg Tale.ended htale
  case failed => exact congrArg Tale.failed htale
  case panics => exact congrArg Tale.panics htale

open Store Library in
/-- **The two flavours of arenas dispose alike.**  Objects are taken over by a scoped arena that is
    then closed, and by an arena of the other flavour whose receipts are then dropped in order and
    whose queue is drained.  Their routines keep a state of their own and do not ask on which
    thread they are called. -/
theorem disposedAlike {W : Type} (lib : Library W) (before : Store) (w : W) {news : Option Outcome}
    {stack : List Frame} (hbase : Grounded stack) {owner user : ThreadId} {config : ArenaConfig}
    {config' : CleanerConfig} {st st' : Store} {a c : Nat}
    (hconfined : before.openArena owner config = (st, .ok a))
    (hauto : before.openAuto user config' = (st', .ok c)) {objects : List (Address × ForeignType)}
    (haccepted : ∀ o ∈ objects, o.1.isNull = true → o.2.permitsNull = true)
    (hlib : ∀ o ∈ objects, lib.Placeless o.1 o.2) :
    let filled := takeOverAll owner (.confined a) objects st
    let filled' := takeOverAll user (.auto c) objects st'
    ∃ (instances instances' : List Instance) (results : List (Except DisposalError Unit))
      (x : World W),
      filled.2 = instances.map .ok ∧ filled'.2 = instances'.map .ok ∧
      instances.map (fun i => (i.address, i.type)) = objects ∧
      instances'.map (·.disposal) = instances.map (·.disposal) ∧
      lib.Serves (.close owner a) (waits news ⟨filled.1, w⟩ stack)
        (waits (some (.ok (.closed (report results)))) x stack) ∧
      ∀ works, Draining c 0 (instances'.map (·.registration)) works →
        ∃ y news', lib.Performs works (waits news ⟨filled'.1, w⟩ stack) (waits news' y stack) ∧
          DisposedAlike before (.reclaimer c config'.threadName) c (instances.map (·.disposal))
            results x y := by
  have htokens := tokens_entries before.flags.size objects
  have hobjects := objects_entries before.flags.size 0 objects
  have hlength := length_entries before.flags.size 0 objects
  have hflags (e : Nat × Disposal) (he : e ∈ entries before.flags.size 0 objects) :=
    flag_lt_of_mem_entries he
  obtain ⟨hresults, hfilled, hactive, hcheck, hpending⟩ := filled_confined c hconfined haccepted
  obtain ⟨hresults', hfilled', hholds, hname, hregistered, hcleaned, hpanicked⟩ :=
    filled_auto hauto haccepted
  dsimp only
  generalize entries before.flags.size 0 objects = own at *
  generalize takeOverAll owner (.confined a) objects st = filled at *
  generalize takeOverAll user (.auto c) objects st' = filled' at *
  obtain ⟨store, taken⟩ := filled
  obtain ⟨store', taken'⟩ := filled'
  refine ⟨own.map fun e => e.2.wrapper .plain, own.map fun e => e.2.wrapper (.tracked c e.1), _, _,
    ?_, ?_, ?_, ?_, lib.serves_close ⟨store, w⟩ hbase hactive hcheck hpending,
    fun works hworks => ?_⟩
  · rw [hresults, List.map_map]
    rfl
  · rw [hresults', List.map_map]
    rfl
  · rw [List.map_map]
    exact hobjects
  · rw [List.map_map, List.map_map]
    rfl
  · -- the two worlds differ in what arenas and cleaners hold only
    have hmatches : (World.closing ⟨store, w⟩ owner a).Matches ⟨store', w⟩ := by
      refine ⟨?_, hfilled'.flags.trans hfilled.flags.symm⟩
      show Foreign.mk store'.tallies store'.heaps w = Foreign.mk store.tallies store.heaps w
      rw [hfilled.tallies, hfilled.heaps, hfilled'.tallies, hfilled'.heaps]
    have hplaceless (e : Nat × Disposal) (he : e ∈ own) : lib.Placeless e.2.address e.2.type :=
      hlib (e.2.address, e.2.type) (hobjects ▸ List.mem_map_of_mem he)
    obtain ⟨z, news', hperforms, hsame, hempty, hreclaims⟩ := hworks.performs lib hbase owner a
      List.length_nil.symm (by rw [List.map_map]; rfl) news hmatches hholds hplaceless
    rw [List.nil_append] at hsame hreclaims
    rw [hname, htokens] at hreclaims
    have hcount : (own.map Prod.snd).length = objects.length := by rw [List.length_map, hlength]
    have hdisposals :
        (own.map fun e => e.2.wrapper .plain).map (·.disposal) = own.map Prod.snd := by
      rw [List.map_map]
      rfl
    refine ⟨z, news', hperforms, ?_⟩
    rw [hdisposals]
    refine World.Reclaims.alike lib (y := ⟨store', w⟩) ?_ hfilled'.tale
      (hregistered.trans hcount.symm) hcleaned hpanicked ?_ hsame hempty (hcount ▸ hreclaims) _ rfl
    · exact (History.calls_cons _ _).trans
        ((List.append_nil _).trans (congrArg Tale.calls hfilled.tale))
    · intro d hd
      obtain ⟨e, he, rfl⟩ := List.mem_map.mp hd
      show e.2.flag < store.flags.size
      rw [hfilled.flags, Array.size_append, Array.size_replicate, ← Nat.zero_add objects.length]
      exact hflags e he

/-- A library that keeps a list of the objects that it was asked to destroy.  Of the object at
    address two there is one more reference, and destroying the one at address three panics. -/
def keeping : Library (List Address) where
  respond
    | .count _ _ address, w => (.ok (.count (some (if address = ⟨2⟩ then 2 else 1))), w)
    | .destroy _ _ address, w =>
      (if address = ⟨3⟩ then .error (.literal "boom") else .ok .done, address :: w)
    | .action _ _, w => (.ok .done, w)
  admits r w := by
    cases r with
    | destroy _ _ address => dsimp only; split <;> rfl
    | _ => rfl
  droppable r w payload h := by
    cases r with
    | destroy _ _ address =>
      dsimp only at h
      split at h
      · cases h
        rfl
      · cases h
    | _ => cases h

/-- Three objects of one type that are counted. -/
def threeBuffers : List (Address × ForeignType) :=
  [1, 2, 3].map fun n =>
    (⟨n⟩, { id := 0, name := "Buffer", kind := .reference, routines := .supplied })

/-- A client that has handed them to a scoped arena. -/
def holdingThree : System × List Address :=
  let opened := Store.openArena {} .main {}
  Library.waits none ⟨(Store.takeOverAll .main (.confined 0) threeBuffers opened.1).1, []⟩ []

/-- In both flavours one of them is destroyed, one is leaked, and one panics. -/
theorem disposedAlike_keeping : ∃ (instances : List Instance)
    (results : List (Except DisposalError Unit)) (x y : World (List Address)),
    DisposedAlike {} (.reclaimer 0 "swiftkit-auto-arena-cleaner") 0 (instances.map (·.disposal))
      results x y ∧
    failures results =
      [.unexpectedRetainCount "Buffer" ⟨2⟩ 2, .destroyPanicked "Buffer" ⟨3⟩ "boom"] ∧
    (y.store.cleaner 0).stats.panicked = 1 ∧ (y.store.cleaner 0).stats.cleaned = 2 := by
  obtain ⟨instances, instances', results, x, -, -, hobjects, -, hcloses, hall⟩ :=
    @disposedAlike (List Address) keeping {} [] none [] (.inl rfl) .main .main {} {} _ _ 0 0 rfl rfl
      threeBuffers (by decide) fun _ _ => ⟨fun _ _ _ => rfl, fun _ _ _ => rfl⟩
  obtain ⟨y, news, -, halike⟩ := hall _ (draining_all 0 .main 0 _)
  -- the closing ends as it does when it is run
  have hends : (keeping.drive 40 (holdingThree.1.start (.close .main 0), [])).1.focus =
    .client (some (.ok (.closed (.error (.disposal
      ⟨3, [.unexpectedRetainCount "Buffer" ⟨2⟩ 2, .destroyPanicked "Buffer" ⟨3⟩ "boom"]⟩))))) := by
    rfl
  have hsame := hcloses.unique ⟨⟨none, rfl⟩, ⟨40, rfl⟩, ⟨_, hends⟩⟩
  have hreport (f : FailedClosing) (hfocus : Focus.client (some (.ok (.closed (report results)))) =
      .client (some (.ok (.closed (.error (.disposal f)))))) : failures results = f.failures := by
    simp only [Focus.client.injEq, Option.some.injEq, Except.ok.injEq, Reply.closed.injEq] at hfocus
    unfold report at hfocus
    split at hfocus
    · cases hfocus
    · cases hfocus
      rfl
  have hfailures := hreport _ ((congrArg (fun sw => sw.1.focus) hsame).trans hends)
  refine ⟨instances, results, x, y, halike, hfailures, ?_⟩
  have hthree : results.length = 3 := by
    rw [halike.attempted, List.length_map, ← List.length_map (f := fun i => (i.address, i.type)),
      hobjects]
    rfl
  have hpanicked := halike.panicked
  have hcleaned := halike.cleaned
  rw [hfailures] at hpanicked hcleaned
  rw [hthree] at hcleaned
  exact ⟨hpanicked, hcleaned⟩

end ForeignArena
