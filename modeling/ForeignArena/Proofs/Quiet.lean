import ForeignArena.Proofs.Changes.Operation
import ForeignArena.Proofs.Routines

namespace ForeignArena

/-!
# Quiet work

Most of what clients and systems do says nothing on how the disposals of arenas come to be run
and how they fail: it is quiet.  What is not quiet is done by closings, by drops of arenas and by
cleaners, each in a few places.

* `Happening.isQuiet`, `Frame.isQuiet` — what is quiet;
* `Store.Quiet`, `Store.apply_quiet` — every operation is quiet;
* `System.Quiet` — and so is work that only adds quiet happenings and quiet frames.
-/

/-- Whether a happening is none of those by which arenas run disposals and report on them. -/
def Happening.isQuiet : Happening → Bool
  | closing _ _ | attempting _ _ _ | leaked _ _ _ | arenaClosed _ _ _ _ | arenaAbandoned _ _ _ _
  | dropFailed _ _ _ | started _ _ _ _ | autoFailed _ _ _ _ | actionPanicked _ _ _ _ => false
  | _ => true

/-- Whether a frame is none of those that make something of the outcome of a disposal. -/
def Frame.isQuiet : Frame → Bool
  | sweeping _ _ _ _ _ | dropping _ _ | reporting _ _ _ | running _ _ _ => false
  | _ => true

/-! ### Operations -/

namespace Store

/-- Between two stores nothing has happened that is not quiet. -/
def Quiet (st after : Store) : Prop :=
  ∃ news : History, after.history = news ++ st.history ∧ ∀ e ∈ news, e.isQuiet

namespace Quiet

variable {st after last : Store}

theorem of_eq (h : after.history = st.history) : st.Quiet after :=
  ⟨[], h, by simp⟩

theorem refl (st : Store) : st.Quiet st := of_eq rfl

theorem trans (h : st.Quiet after) (h' : after.Quiet last) : st.Quiet last := by
  obtain ⟨news, hhistory, hnews⟩ := h
  obtain ⟨others, hlast, hothers⟩ := h'
  refine ⟨others ++ news, by rw [hlast, hhistory, List.append_assoc], fun e he => ?_⟩
  exact (List.mem_append.mp he).elim (hothers e) (hnews e)

theorem note (h : st.Quiet after) {e : Happening} (he : e.isQuiet) : st.Quiet (after.note e) :=
  h.trans ⟨[e], rfl, by simpa using he⟩

/-- What a function finds in no quiet happening does not change. -/
theorem pick {α : Type} {f : Happening → Option α} (h : st.Quiet after)
    (hf : ∀ e : Happening, e.isQuiet → f e = none) : after.history.pick f = st.history.pick f := by
  obtain ⟨news, hhistory, hnews⟩ := h
  exact History.pick_append_of_none hhistory fun e he => hf e (hnews e he)

end Quiet

variable (st : Store)

theorem openArena_quiet (thread : ThreadId) (config : ArenaConfig) :
    st.Quiet (st.openArena thread config).1 := by
  unfold openArena
  split
  · exact .refl st
  · exact .note (.of_eq rfl) rfl

theorem startCleaner_quiet (thread : ThreadId) (config : CleanerConfig) :
    st.Quiet (st.startCleaner thread config).1 := by
  unfold startCleaner
  split
  · exact .refl st
  · exact .note (.of_eq rfl) rfl

theorem openAuto_quiet (thread : ThreadId) (config : CleanerConfig) :
    st.Quiet (st.openAuto thread config).1 := by
  have hstart := st.startCleaner_quiet thread config
  unfold openAuto
  split
  · next heq => simpa only [heq] using hstart
  · next heq =>
    rw [heq] at hstart
    exact hstart.note rfl

theorem register_quiet (thread : ThreadId) (home : ArenaRef) (d : Disposal) :
    st.Quiet (st.register thread home d).1 := by
  cases home with
  | confined a =>
    simp only [register]
    unfold registerConfined
    split
    · exact .refl st
    · split
      · exact .note (.of_eq rfl) rfl
      · exact .refl st
  | auto c => exact .note (.of_eq rfl) rfl

theorem takeOver_quiet (thread : ThreadId) (address : Address) (type : ForeignType)
    (home : ArenaRef) : st.Quiet (st.takeOver thread address type home).1 := by
  rw [takeOver_fst]
  split
  · exact .refl st
  · exact .trans (.of_eq rfl) (st.newFlag.1.register_quiet thread home _)

theorem extendBatch_quiet (thread : ThreadId) (type : ForeignType) (home : ArenaRef) (n : Nat)
    (st : Store) (instances : Array Instance) :
    st.Quiet (extendBatch thread type home n st instances).1 := by
  induction n generalizing st instances with
  | zero => exact .refl st
  | succ n ih =>
    have hfirst := st.takeOver_quiet thread ⟨UInt64.ofNat (instances.size + 1)⟩ type home
    unfold extendBatch
    split
    · next heq =>
      rw [heq] at hfirst
      exact hfirst.trans (ih _ _)
    · next heq =>
      rw [heq] at hfirst
      exact hfirst

theorem openFilled_quiet (thread : ThreadId) (n : Nat) : st.Quiet (st.openFilled thread n).1 := by
  have hopen := st.openArena_quiet thread { initialCapacity := n }
  unfold openFilled
  split
  · next heq => simpa only [heq] using hopen
  · next opened a heq =>
    rw [heq] at hopen
    have hfill : opened.Quiet (opened.newInertType.1.takeOverMany thread opened.newInertType.2
        (.confined a) n).1 :=
      .trans (.of_eq rfl) (extendBatch_quiet thread _ _ n _ _)
    dsimp only
    split <;> next heq => rw [heq] at hfill; exact hopen.trans hfill

theorem findOrMakeType_quiet (thread : ThreadId) (r : Nat) (name : String)
    (make : Except Payload ForeignType) : st.Quiet (st.findOrMakeType thread r name make).1 := by
  unfold findOrMakeType
  dsimp only
  split
  · exact .note (.refl st) rfl
  · exact .of_eq rfl

theorem runtimeType_quiet (thread : ThreadId) (runtime : ForeignRuntime) (name : String)
    (kind : TypeKind) : st.Quiet (st.runtimeType thread runtime name kind).1 := by
  obtain ⟨fresh, heq⟩ := st.runtimeType_fst thread runtime name kind
  rw [heq]
  exact .trans (.of_eq rfl) (findOrMakeType_quiet _ thread runtime.registry name (.ok fresh))

theorem newOnHeap_quiet (thread : ThreadId) (runtime : ForeignRuntime) (typeName : String)
    (kind : TypeKind) (payload : Int64) (home : ArenaRef) :
    st.Quiet (st.newOnHeap thread runtime typeName kind payload home).1 := by
  unfold newOnHeap
  dsimp only
  generalize (st.heap runtime.heap).allocate typeName payload = allocated
  have hallocated : st.Quiet (st.setHeap runtime.heap allocated.1) := .of_eq rfl
  have htype := (st.setHeap runtime.heap allocated.1).runtimeType_quiet thread runtime typeName kind
  generalize (st.setHeap runtime.heap allocated.1).runtimeType thread runtime typeName kind = typed
    at htype
  have htaken := hallocated.trans
    (htype.trans (typed.1.takeOver_quiet thread allocated.2 typed.2 home))
  split
  · exact htaken
  · -- an object that nobody has taken over is given up, which shows in its heap only
    refine htaken.trans (.of_eq ?_)
    cases kind <;> rfl

/-- **Every operation is quiet.** -/
theorem apply_quiet (operation : Operation) : st.Quiet (st.apply operation) := by
  cases operation with
  | findOrMakeType thread registry name make =>
    exact st.findOrMakeType_quiet thread registry name make
  | runtimeType thread runtime name kind => exact st.runtimeType_quiet thread runtime name kind
  | openArena thread config => exact st.openArena_quiet thread config
  | openAuto thread config => exact st.openAuto_quiet thread config
  | startCleaner thread config => exact st.startCleaner_quiet thread config
  | register thread home d => exact st.register_quiet thread home d
  | takeOver thread address type home => exact st.takeOver_quiet thread address type home
  | takeOverMany thread type home n => exact extendBatch_quiet thread type home n st #[]
  | openFilled thread n => exact st.openFilled_quiet thread n
  | newObject thread runtime payload home =>
    exact st.newOnHeap_quiet thread runtime objectTypeName .reference payload home
  | newValue thread runtime payload home =>
    exact st.newOnHeap_quiet thread runtime valueTypeName .value payload home
  | retainObject inst heap =>
    simp only [apply, retainObject_fst]
    split <;> exact .of_eq rfl
  | track c tag => exact .note (.of_eq rfl) rfl
  | _ => exact .of_eq rfl

end Store

/-! ### Work -/

namespace System

/-- Between two systems nothing has happened that is not quiet, and only quiet frames were added. -/
structure Quiet (s t : System) : Prop where
  store : s.store.Quiet t.store
  stack : ∃ above, t.stack = above ++ s.stack ∧ ∀ f ∈ above, f.isQuiet

variable {s t u : System}

namespace Quiet

theorem of_eq (hstore : s.store.Quiet t.store) (hstack : t.stack = s.stack) : s.Quiet t :=
  ⟨hstore, [], hstack, by simp⟩

theorem trans (h : s.Quiet t) (h' : t.Quiet u) : s.Quiet u := by
  obtain ⟨above, hstack, habove⟩ := h.stack
  obtain ⟨others, hlast, hothers⟩ := h'.stack
  refine ⟨h.store.trans h'.store, others ++ above, by rw [hlast, hstack, List.append_assoc],
    fun f hf => ?_⟩
  exact (List.mem_append.mp hf).elim (hothers f) (habove f)

end Quiet

/-- It does not matter who moves next. -/
theorem quiet_of_same (hstore : t.store = s.store) (hstack : t.stack = s.stack) : s.Quiet t :=
  .of_eq (.of_eq (by rw [hstore])) hstack

theorem note_quiet (s : System) {e : Happening} (he : e.isQuiet) : s.Quiet (s.note e) :=
  .of_eq (.note (.refl _) he) rfl

theorem mapStore_quiet (s : System) {f : Store → Store} (hf : s.store.Quiet (f s.store)) :
    s.Quiet (s.mapStore f) :=
  .of_eq hf rfl

theorem push_quiet (s : System) {f : Frame} (hf : f.isQuiet) : s.Quiet (s.push f) :=
  ⟨.refl _, [f], rfl, by simpa using hf⟩

theorem discard_quiet {payload : Payload} {next : System → System} (hnext : s.Quiet (next s)) :
    s.Quiet (s.discard payload next) := by
  unfold discard
  split
  · exact quiet_of_same rfl rfl
  · exact hnext

section

variable (s) (thread : ThreadId) (d : Disposal) (a c token : Nat)

theorem askCount_quiet (type : ForeignType) (address : Address) :
    s.Quiet (s.askCount thread type address) := by
  obtain ⟨hstore, hstack | hstack⟩ := askCount_view thread s type address
  · exact quiet_of_same hstore hstack
  · exact ⟨.of_eq (by rw [hstore]), [_], hstack, by simp [Frame.isQuiet]⟩

theorem callDestroy_quiet (type : ForeignType) (address : Address) :
    s.Quiet (s.callDestroy thread type address) := by
  obtain ⟨hhistory, hstack | hstack⟩ := callDestroy_view thread s type address
  · exact .of_eq (.of_eq hhistory) hstack
  · exact ⟨.of_eq hhistory, [_], hstack, by simp [Frame.isQuiet]⟩

theorem destroy_quiet : s.Quiet (s.destroy thread d) :=
  ((s.note_quiet (e := .destroying thread d) rfl).trans (push_quiet _ rfl)).trans
    (callDestroy_quiet _ thread d.type d.address)

theorem dispose_quiet : s.Quiet (s.dispose thread d) := by
  have hbegun : s.Quiet (s.mapStore (·.begin thread d)) :=
    s.mapStore_quiet (.note (.of_eq rfl) rfl)
  unfold dispose
  dsimp only
  split
  · exact hbegun.trans (((note_quiet _ rfl).trans (push_quiet _ rfl)).trans
      (askCount_quiet _ thread d.type d.address))
  · exact hbegun.trans (destroy_quiet _ thread d)

theorem disposeGuarded_quiet : s.Quiet (s.disposeGuarded thread d) :=
  (s.push_quiet (f := .guarded d) rfl).trans (dispose_quiet _ thread d)

theorem resumeCounted_quiet (count : Option UInt64) :
    s.Quiet (s.resumeCounted thread d count) := by
  unfold resumeCounted
  split
  · split
    · exact quiet_of_same rfl rfl
    · exact s.destroy_quiet thread d
  · exact s.destroy_quiet thread d

theorem takeAction_quiet : s.Quiet (s.takeAction thread c token) :=
  ⟨.refl _, [.taking thread c token], rfl, by simp [Frame.isQuiet]⟩

theorem clean_quiet : s.Quiet (s.clean thread c token) := by
  unfold clean
  split
  · exact (s.mapStore_quiet (f := (·.modifyCleaner c (·.spend token))) (.of_eq rfl)).trans
      (takeAction_quiet _ thread c token)
  · exact quiet_of_same rfl rfl

theorem dropToken_quiet : s.Quiet (s.dropToken thread c token) := by
  unfold dropToken
  split
  · dsimp only
    split
    · exact .of_eq (.note (.of_eq rfl) rfl) rfl
    · have hspent := s.mapStore_quiet (f := (·.modifyCleaner c (·.spend token))) (.of_eq rfl)
      exact (hspent.trans (note_quiet _ (e := .threadGone thread c token) rfl)).trans
        ((push_quiet _ (f := .inline) rfl).trans (takeAction_quiet _ thread c token))
  · exact quiet_of_same rfl rfl

theorem receive_quiet : s.Quiet (s.receive c) := by
  unfold receive
  split
  · exact quiet_of_same rfl rfl
  · next cleaner token _ =>
    have hmoved := s.mapStore_quiet (f := (·.modifyCleaner c fun _ => cleaner)) (.of_eq rfl)
    exact (hmoved.trans (note_quiet _ (e := .received c token) rfl)).trans
      ((push_quiet _ (f := .reclaiming c) rfl).trans (takeAction_quiet _ _ c token))

end

/-- Work that is started is quiet, unless it closes an arena or drops one. -/
theorem start_quiet (s : System) (w : Work)
    (hw : ∀ thread a, ¬(w = .close thread a ∨ w = .drop thread a)) : s.Quiet (s.start w) := by
  unfold start
  split
  · exact quiet_of_same rfl rfl
  · cases w with
    | count thread type address => exact s.askCount_quiet thread type address
    | destroy thread type address => exact s.callDestroy_quiet thread type address
    | dispose thread d => exact s.dispose_quiet thread d
    | disposeGuarded thread d => exact s.disposeGuarded_quiet thread d
    | close thread a => exact absurd (.inl rfl) (hw thread a)
    | drop thread a => exact absurd (.inr rfl) (hw thread a)
    | clean thread c token => exact s.clean_quiet thread c token
    | dropRegistration thread r =>
      cases r with
      | plain => exact quiet_of_same rfl rfl
      | tracked c token => exact s.dropToken_quiet thread c token
    | receive c => exact s.receive_quiet c

/-- Quiet frames go on quietly, but that of an action that is about to begin. -/
theorem resume_quiet (s : System) (f : Frame) (o : Outcome) (hf : f.isQuiet)
    (htaking : ∀ thread c token, f ≠ .taking thread c token) : s.Quiet (s.resume f o) := by
  cases f with
  | awaiting r => exact ⟨.refl _, [.awaiting r], rfl, by simp [Frame.isQuiet]⟩
  | counted thread d =>
    cases o with
    | error payload => exact quiet_of_same rfl rfl
    | ok reply =>
      cases reply with
      | count count => exact s.resumeCounted_quiet thread d count
      | _ => exact quiet_of_same rfl rfl
  | destroying thread d =>
    cases o with
    | error payload => exact quiet_of_same rfl rfl
    | ok reply => exact .of_eq (.note (.refl _) rfl) rfl
  | guarded d =>
    cases o with
    | error payload =>
      show s.Quiet (s.contain d payload)
      exact discard_quiet (quiet_of_same rfl rfl)
    | ok reply => exact quiet_of_same rfl rfl
  | taking thread c token => exact absurd rfl (htaking thread c token)
  | inline => cases o <;> exact quiet_of_same rfl rfl
  | reclaiming c => cases o <;> exact .of_eq (.of_eq rfl) rfl
  | sweeping | dropping | reporting | running => cases hf

end System

end ForeignArena
