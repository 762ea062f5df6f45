import ForeignArena.Proofs.Arenas.Sweeps
import ForeignArena.Proofs.Liveness
import ForeignArena.Proofs.Routines
import Mathlib.Tactic.IntervalCases

namespace ForeignArena

/-!
# An arena that is bound to a thread

An arena that a thread has opened for itself is used by this thread only.  Whatever strands do,
at any depth and on any thread, all others are refused, and what the arena has accepted is run
on the thread that owns it, or never.

* `Site.Owned`, `Schedule.bound_of_opened` — the owner is told in the history and never changes;
* `Site.Closer`, `Schedule.closer_eq_owner` — the threads that close an arena may do so;
* `Store.Undisturbed`, `Store.apply_undisturbed` — a registration that is refused leaves arenas
  and flags as they were;
* `Schedule.abandoned_stays` — what another thread has dropped is never run;
* `Schedule.KeptToOwner`, `Schedule.keptToOwner` — what this means for an arena.
-/

/-! ### The owner -/

/-- An arena that was opened keeps its owner. -/
theorem ArenaView.Step.confinement {move : Move} {a : Nat} {v w : ArenaView}
    (hstep : Step move a v w) (hknown : v.known) : w.arena.confinement = v.arena.confinement := by
  cases hstep with
  | opened _ _ _ hunknown => exact absurd hknown hunknown
  | same | accepted | swapped | abandoned | attempted | cut => rfl

/-- The confinement with which an arena was opened. -/
@[simp]
def Happening.openedAs? (a : Nat) : Happening → Option Confinement
  | arenaOpened _ b confinement => if b = a then some confinement else none
  | _ => none

theorem Happening.openedAs?_of_isPlain {e : Happening} (h : e.isPlain) (a : Nat) :
    e.openedAs? a = none := by
  cases e <;> first | rfl | cases h

/-- The confinement of an arena is that with which it was opened. -/
def Site.Owned (s : Site) (a : Nat) : Prop :=
  ∀ e ∈ s.1.history, ∀ confinement, e.openedAs? a = some confinement →
    a < s.1.arenas.size ∧ (s.1.arena a).confinement = confinement

/-- The happenings of a change, and what it tells of the opening of an arena. -/
theorem Change.openedAs {move : Move} {s t : Site} (h : Change move s t) (a : Nat) {e : Happening}
    (he : e ∈ t.1.history) {confinement : Confinement} (hopened : e.openedAs? a = some confinement) :
    e ∈ s.1.history ∨ (a < t.1.arenas.size ∧ (t.1.arena a).confinement = confinement) := by
  cases h with
  | note other hother =>
    obtain rfl | he := List.mem_cons.mp he
    · rw [Happening.openedAs?_of_isPlain hother] at hopened
      cases hopened
    · exact .inl he
  | @opened st k operation thread config =>
    obtain rfl | he := List.mem_cons.mp he
    · simp only [Happening.openedAs?, Option.ite_none_right_eq_some, Option.some.injEq] at hopened
      obtain ⟨rfl, rfl⟩ := hopened
      right
      simp [Store.buildArena, Store.arena, Store.note, Arena.opened]
    · exact .inl he
  | called =>
    left
    simpa using he
  | entered =>
    rw [Store.history_afterDestroy] at he
    obtain rfl | he := List.mem_cons.mp he
    · cases hopened
    · exact .inl he
  | tracked | accepted | swapped | abandoned | failed | swept | queued | received | tookSupplied
  | ended | panicked | begun | asked =>
    obtain rfl | he := List.mem_cons.mp he
    · cases hopened
    · exact .inl he
  | attempted | tookDisposal =>
    obtain rfl | he := List.mem_cons.mp he
    · cases hopened
    · obtain rfl | he := List.mem_cons.mp he
      · cases hopened
      · exact .inl he
  | _ => exact .inl he

theorem Change.owned {move : Move} {s t : Site} (h : Change move s t) {a : Nat} (hs : s.Owned a) :
    t.Owned a := by
  intro e he confinement hopened
  obtain hbefore | hnow := h.openedAs a he hopened
  · obtain ⟨hknown, hconfinement⟩ := hs e hbefore confinement hopened
    exact ⟨(h.arena a).known hknown, ((h.arena a).confinement hknown).trans hconfinement⟩
  · exact hnow

/-! ### Who closes an arena -/

/-- The thread that closes an arena, or runs one of its disposals. -/
@[simp]
def Happening.closer? (a : Nat) : Happening → Option ThreadId
  | closing thread b | attempting thread b _ => if b = a then some thread else none
  | _ => none

/-- The thread on which a closing of an arena is in progress. -/
@[simp]
def Frame.closer? (a : Nat) : Frame → Option ThreadId
  | sweeping thread b _ _ _ => if b = a then some thread else none
  | _ => none

/-- Whether a thread has closed an arena, or is about to run its disposals. -/
def Site.Closer (s : Site) (a : Nat) (thread : ThreadId) : Prop :=
  (∃ e ∈ s.1.history, e.closer? a = some thread) ∨ ∃ f ∈ s.2, f.closer? a = some thread

/-- With happenings and frames that name no further thread there is no further closer. -/
theorem Site.Closer.of_eq {s t : Site} {a : Nat} {thread : ThreadId} (h : t.Closer a thread)
    (news : List Happening) (hhistory : t.1.history = news ++ s.1.history)
    (hnews : ∀ e ∈ news, e.closer? a = some thread → s.Closer a thread)
    (hframes : ∀ f ∈ t.2, f.closer? a = some thread → s.Closer a thread) : s.Closer a thread := by
  obtain ⟨e, he, hthread⟩ | ⟨f, hf, hthread⟩ := h
  · rw [hhistory] at he
    obtain he | he := List.mem_append.mp he
    · exact hnews e he hthread
    · exact .inl ⟨e, he, hthread⟩
  · exact hframes f hf hthread

/-- A thread closes an arena only where the arena is active and the thread may use it. -/
theorem Change.closer {move : Move} {s t : Site} (h : Change move s t) {a : Nat}
    {thread : ThreadId} (hclose : t.Closer a thread) :
    s.Closer a thread ∨ ((s.1.arena a).isActive ∧ (s.1.arena a).confinement.admits thread) := by
  cases h with
  | push f hf =>
    left
    refine hclose.of_eq [] rfl (by simp) fun g hg hthread => ?_
    obtain rfl | hg := List.mem_cons.mp hg
    · cases g <;> first | cases hthread | cases hf
    · exact .inr ⟨g, hg, hthread⟩
  | pop f hf => exact .inl (hclose.of_eq [] rfl (by simp) fun g hg hthread =>
      .inr ⟨g, List.mem_cons_of_mem f hg, hthread⟩)
  | note e he =>
    left
    refine hclose.of_eq [e] rfl (fun e' he' hthread => ?_) fun g hg hthread => .inr ⟨g, hg, hthread⟩
    obtain rfl := List.mem_singleton.mp he'
    cases e' <;> first | cases hthread | cases he
  | swapped other b _ hcheck hactive =>
    by_cases hnew : b = a ∧ other = thread
    · obtain ⟨rfl, rfl⟩ := hnew
      exact .inr ⟨hactive, Confinement.check_eq_ok.mp hcheck⟩
    · left
      refine hclose.of_eq [.closing other b] rfl (fun e he hthread => ?_) fun g hg hthread => ?_
      · obtain rfl := List.mem_singleton.mp he
        exact absurd (by simpa using hthread) hnew
      · obtain rfl | hg := List.mem_cons.mp hg
        · exact absurd (by simpa using hthread) hnew
        · exact .inr ⟨g, hg, hthread⟩
  | @attempted st k other b n failures d rest =>
    left
    -- the thread that turns to a disposal is that of the closing
    have hframe {x : Option ThreadId} (hx : (if b = a then some other else none) = x)
        (hthread : x = some thread) :
        Site.Closer (st, .sweeping other b n failures (d :: rest) :: k) a thread :=
      .inr ⟨_, List.mem_cons_self .., hx.trans hthread⟩
    refine hclose.of_eq [.began other d, .attempting other b d] rfl (fun e he hthread => ?_)
      fun g hg hthread => ?_
    · simp only [List.mem_cons, List.not_mem_nil, or_false] at he
      obtain rfl | rfl := he
      · cases hthread
      · exact hframe rfl hthread
    · simp only [List.mem_cons] at hg
      obtain rfl | rfl | rfl | hg := hg
      · cases hthread
      · cases hthread
      · exact hframe rfl hthread
      · exact .inr ⟨g, List.mem_cons_of_mem _ hg, hthread⟩
  | @failed st k other b n failures todo e =>
    left
    refine hclose.of_eq [.leaked other b e] rfl (by simp) fun g hg hthread => ?_
    obtain rfl | hg := List.mem_cons.mp hg
    · exact .inr ⟨_, List.mem_cons_self .., hthread⟩
    · exact .inr ⟨g, List.mem_cons_of_mem _ hg, hthread⟩
  | swept other b n failures =>
    exact .inl (hclose.of_eq [.arenaClosed other b n failures.length] rfl (by simp)
      fun g hg hthread => .inr ⟨g, List.mem_cons_of_mem _ hg, hthread⟩)
  | opened | accepted | abandoned | tracked | queued =>
    exact .inl (hclose.of_eq [_] rfl (by simp) fun g hg hthread => .inr ⟨g, hg, hthread⟩)
  | called =>
    left
    simpa [Site.Closer] using hclose
  | begun | asked | entered | spent | received | missed | tookSupplied | tookDisposal | ended
  | panicked | resumed | died =>
    left
    simpa [Site.Closer] using hclose
  -- the other changes leave the history and the frames as they are
  | _ => exact .inl hclose

/-- All that close an arena, or have closed it, may use it. -/
def Site.Admitted (s : Site) (a : Nat) : Prop :=
  ∀ thread, s.Closer a thread → a < s.1.arenas.size ∧ (s.1.arena a).confinement.admits thread

theorem Change.admitted {move : Move} {s t : Site} (h : Change move s t) {a : Nat}
    (hs : s.Admitted a) : t.Admitted a := by
  intro thread hclose
  have hbefore : a < s.1.arenas.size ∧ (s.1.arena a).confinement.admits thread := by
    obtain hclose | ⟨hactive, hadmits⟩ := h.closer hclose
    · exact hs thread hclose
    · exact ⟨known_of_isActive hactive, hadmits⟩
  have hsame := (h.arena a).confinement hbefore.1
  exact ⟨(h.arena a).known hbefore.1, hsame ▸ hbefore.2⟩

/-! ### What is refused -/

theorem Confinement.check_bound {owner thread : ThreadId} (h : thread ≠ owner) :
    (bound owner).check thread = .error (.wrongThread owner thread) :=
  if_neg h.symm

theorem Confinement.admits_bound {owner thread : ThreadId} :
    (bound owner).admits thread = true ↔ thread = owner :=
  beq_iff_eq.trans eq_comm

namespace Store

/-- Arenas and flags are as they were, nothing was registered, and no routine was called. -/
structure Undisturbed (st after : Store) : Prop where
  arenas : after.arenas = st.arenas
  flags : ∀ flag, after.isDestroyed flag = st.isDestroyed flag
  entries : after.history.entries = st.history.entries
  calls : after.history.calls = st.history.calls

namespace Undisturbed

variable {st middle after : Store}

theorem refl (st : Store) : st.Undisturbed st := ⟨rfl, fun _ => rfl, rfl, rfl⟩

theorem trans (h : st.Undisturbed middle) (h' : middle.Undisturbed after) :
    st.Undisturbed after where
  arenas := h'.arenas.trans h.arenas
  flags flag := (h'.flags flag).trans (h.flags flag)
  entries := h'.entries.trans h.entries
  calls := h'.calls.trans h.calls

/-- A new flag is not set, as if it did not exist. -/
theorem newFlag (st : Store) : st.Undisturbed st.newFlag.1 where
  arenas := rfl
  flags flag := by
    simp only [Store.newFlag, isDestroyed, Array.getElem?_push]
    split
    · next heq => simp [heq]
    · rfl
  entries := rfl
  calls := rfl

theorem runtimeType (st : Store) (thread : ThreadId) (runtime : ForeignRuntime) (name : String)
    (kind : TypeKind) : st.Undisturbed (st.runtimeType thread runtime name kind).1 := by
  obtain ⟨fresh, heq⟩ := runtimeType_fst st thread runtime name kind
  rw [heq]
  unfold findOrMakeType
  dsimp only
  split
  · exact ⟨rfl, fun _ => rfl, History.entries_cons .. |>.trans (List.append_nil _),
      (History.calls_cons ..).trans (List.append_nil _)⟩
  · exact ⟨rfl, fun _ => rfl, rfl, rfl⟩

end Undisturbed

section

variable {st : Store} {a : Nat} {owner thread : ThreadId}

theorem register_refused (hbound : (st.arena a).confinement = .bound owner)
    (hthread : thread ≠ owner) (d : Disposal) :
    st.register thread (.confined a) d = (st, .error (.wrongThread owner thread)) := by
  simp [register, registerConfined, hbound, Confinement.check_bound hthread]

/-- An object that another thread hands over is refused, unless its address is refused before. -/
theorem takeOver_refused (hbound : (st.arena a).confinement = .bound owner)
    (hthread : thread ≠ owner) {address : Address} {type : ForeignType}
    (haddress : (address.isNull && !type.permitsNull) = false) :
    st.takeOver thread address type (.confined a) =
      (st.newFlag.1, .error (.wrongThread owner thread)) := by
  have hmade : (st.newFlag.1.arena a).confinement = .bound owner := hbound
  have hregister := register_refused hmade hthread ⟨address, type, st.newFlag.2⟩
  simp [takeOver, haddress, hregister, Except.map]

/-- A batch that another thread hands over is refused at its first object. -/
theorem takeOverMany_refused (hbound : (st.arena a).confinement = .bound owner)
    (hthread : thread ≠ owner) (type : ForeignType) (n : Nat) :
    st.takeOverMany thread type (.confined a) (n + 1) =
      (st.newFlag.1, { error := some (.wrongThread owner thread) }) := by
  have htake : st.takeOver thread ⟨1⟩ type (.confined a) =
      (st.newFlag.1, .error (.wrongThread owner thread)) := takeOver_refused hbound hthread rfl
  simp [takeOverMany, extendBatch, htake]

theorem takeOver_undisturbed (hbound : (st.arena a).confinement = .bound owner)
    (hthread : thread ≠ owner) (address : Address) (type : ForeignType) :
    st.Undisturbed (st.takeOver thread address type (.confined a)).1 ∧
      ∃ e, (st.takeOver thread address type (.confined a)).2 = .error e := by
  by_cases haddress : address.isNull && !type.permitsNull
  · simp only [takeOver, haddress, if_true]
    exact ⟨.refl st, _, rfl⟩
  · rw [takeOver_refused hbound hthread (Bool.eq_false_iff.mpr haddress)]
    exact ⟨.newFlag st, _, rfl⟩

/-- An object that another thread would make for the arena is given up again. -/
theorem newOnHeap_undisturbed (hbound : (st.arena a).confinement = .bound owner)
    (hthread : thread ≠ owner) (runtime : ForeignRuntime) (typeName : String) (kind : TypeKind)
    (payload : Int64) :
    st.Undisturbed (st.newOnHeap thread runtime typeName kind payload (.confined a)).1 ∧
      ∃ e, (st.newOnHeap thread runtime typeName kind payload (.confined a)).2 = .error e := by
  unfold newOnHeap
  dsimp only
  generalize (st.heap runtime.heap).allocate typeName payload = allocated
  have halloc : st.Undisturbed (st.setHeap runtime.heap allocated.1) :=
    ⟨rfl, fun _ => rfl, rfl, rfl⟩
  have htype := halloc.trans (.runtimeType _ thread runtime typeName kind)
  generalize (st.setHeap runtime.heap allocated.1).runtimeType thread runtime typeName kind = typed
    at htype
  have hstill : (typed.1.arena a).confinement = .bound owner := by
    rw [← hbound, arena, arena, htype.arenas]
  obtain ⟨htake, e, herror⟩ := takeOver_undisturbed hstill hthread allocated.2 typed.2
  rw [herror]
  refine ⟨(htype.trans htake).trans ?_, e, rfl⟩
  cases kind <;> exact ⟨rfl, fun _ => rfl, rfl, rfl⟩

/-- **A registration by another thread disturbs nothing.** -/
theorem apply_undisturbed (hbound : (st.arena a).confinement = .bound owner)
    (hthread : thread ≠ owner) {operation : Operation}
    (hoperation : operation.registers? = some (thread, .confined a)) :
    st.Undisturbed (st.apply operation) := by
  cases operation with
  | register v home d =>
    cases hoperation
    simp only [apply, register_refused hbound hthread]
    exact .refl st
  | takeOver v address type home =>
    cases hoperation
    exact (takeOver_undisturbed hbound hthread address type).1
  | takeOverMany v type home n =>
    cases hoperation
    cases n with
    | zero => exact .refl st
    | succ n =>
      simp only [apply, takeOverMany_refused hbound hthread]
      exact .newFlag st
  | newObject v runtime payload home =>
    cases hoperation
    exact (newOnHeap_undisturbed hbound hthread runtime objectTypeName .reference payload).1
  | newValue v runtime payload home =>
    cases hoperation
    exact (newOnHeap_undisturbed hbound hthread runtime valueTypeName .value payload).1
  | _ => cases hoperation

end

end Store

/-! ### An arena in a run -/

namespace Schedule

variable {σ : Schedule} {a k n m i : Nat} {owner thread : ThreadId} {base : List Frame} {o : Outcome}

/-- An arena that was opened for a thread exists and is bound to it, from then on. -/
theorem bound_of_opened (h : .arenaOpened owner a (.bound owner) ∈ (σ.after k).store.history)
    (hkn : k ≤ n) : (σ.arenaView a n).known ∧
      ((σ.after n).store.arena a).confinement = .bound owner :=
  σ.always (I := fun st k => Site.Owned (st, k) a) (fun _ hs => hs) (fun hchange => hchange.owned)
    (fun _ he => by cases he) n _ (σ.remembers hkn h) _ (by simp)

/-- So only this thread closes it, and runs its disposals. -/
theorem closer_eq_owner (h : .arenaOpened owner a (.bound owner) ∈ (σ.after k).store.history)
    (hclose : Site.Closer ((σ.after n).store, (σ.after n).frames) a thread) : thread = owner := by
  have hperm {st : Store} {k k' : List Frame} (hk : k.Perm k') (hs : Site.Admitted (st, k) a) :
      Site.Admitted (st, k') a := fun thread hclose =>
    hs thread (hclose.imp id fun ⟨f, hf, hthread⟩ => ⟨f, hk.mem_iff.mpr hf, hthread⟩)
  obtain ⟨hknown, hadmits⟩ := σ.always (I := fun st k => Site.Admitted (st, k) a) hperm
    (fun hchange => hchange.admitted) (fun _ hclose => by simp [Site.Closer] at hclose) n thread
    hclose
  -- from the moment it exists the arena has the same owner, whether it is told before `k` or after
  have hsame : ((σ.after (max n k)).store.arena a).confinement =
      ((σ.after n).store.arena a).confinement :=
    (@σ.stays (fun st _ => a < st.arenas.size ∧
      (st.arena a).confinement = ((σ.after n).store.arena a).confinement) n (max n k)
      (Nat.le_max_left n k) (fun _ hs => hs)
      (fun _ _ _ hchange hs => ⟨(hchange.arena a).known hs.1,
        ((hchange.arena a).confinement hs.1).trans hs.2⟩) ⟨hknown, rfl⟩).2
  rw [← hsame, (bound_of_opened h (Nat.le_max_right n k)).2] at hadmits
  exact Confinement.admits_bound.mp hadmits

/-- Work that has its outcome at once. -/
theorem Starts.at_once {w : Work} {store : Store} (h : σ.Starts i n base w)
    (hadmits : (σ.after n).store.admitsWork w)
    (hstart : ∀ news, ({ store := (σ.after n).store, stack := base, focus := .client news } :
      System).start w = { store, stack := base, focus := .handing o }) :
    σ.At i (n + 1) { store, stack := base, focus := .handing o } := by
  obtain ⟨news, hat⟩ := h.at_next hadmits
  rwa [hstart news] at hat

/-! ### Closing and dropping by others -/

/-- Another thread that closes the arena is refused, whatever state the arena is in. -/
theorem close_refused (hbound : ((σ.after n).store.arena a).confinement = .bound owner)
    (hthread : thread ≠ owner) (news : Option Outcome) :
    ({ store := (σ.after n).store, stack := base, focus := .client news } : System).start
        (.close thread a) =
      { store := (σ.after n).store, stack := base
        focus := .handing (.ok (.closed (.error (.wrongThread owner thread)))) } := by
  show System.close _ thread a = _
  unfold System.close
  dsimp only
  rw [hbound, Confinement.check_bound hthread]
  rfl

/-- A store in which an arena has just been abandoned. -/
def abandon (σ : Schedule) (a n : Nat) (owner thread : ThreadId) : Store :=
  ((σ.after n).store.note (.arenaAbandoned thread a (.bound owner)
    ((σ.after n).store.arena a).pending.size)).modifyArena a (·.abandon)

/-- Another thread that drops the arena abandons it, if it is active. -/
theorem drop_abandons (hbound : ((σ.after n).store.arena a).confinement = .bound owner)
    (hthread : thread ≠ owner) (hactive : ((σ.after n).store.arena a).state = .active)
    (news : Option Outcome) :
    ({ store := (σ.after n).store, stack := base, focus := .client news } : System).start
        (.drop thread a) =
      { store := σ.abandon a n owner thread, stack := base, focus := .handing (.ok .done) } := by
  have hrefused : (Confinement.bound owner).admits thread = false :=
    Bool.eq_false_iff.mpr fun hadmits => hthread (Confinement.admits_bound.mp hadmits)
  show System.drop _ thread a = _
  unfold System.drop
  dsimp only
  rw [Arena.isActive_iff.mpr hactive, hbound, hrefused]
  rfl

/-- What was abandoned is never run. -/
theorem abandoned_stays (hstarts : σ.Starts i n base (.drop thread a))
    (hbound : ((σ.after n).store.arena a).confinement = .bound owner) (hthread : thread ≠ owner)
    (hactive : ((σ.after n).store.arena a).state = .active) {l : Nat} (hnl : n < l) :
    ((σ.after l).store.arena a).state = .abandoned ∧ σ.attempted a l = [] ∧
      σ.accepted a l = σ.accepted a n := by
  have hisActive : ((σ.after n).store.arena a).isActive := Arena.isActive_iff.mpr hactive
  have hat := hstarts.at_once rfl (drop_abandons hbound hthread hactive)
  have hstore : (σ.after (n + 1)).store = σ.abandon a n owner thread := hat.store.symm
  obtain ⟨hknown, -, haccepted, hattempted, hclosings, -⟩ :=
    (σ.arenaView_sound a n).of_isActive hisActive
  have hstate : ((σ.after (n + 1)).store.arena a).state = .abandoned := by
    rw [hstore, abandon, Store.arena_modifyArena]
    · simp [Arena.abandon]
    · exact hknown
  have hdone : (σ.arenaView a (n + 1)).Done :=
    ⟨σ.arenaView_known a (Nat.le_succ n) hknown, by
      rw [show (σ.arenaView a (n + 1)).arena.state = .abandoned from hstate]
      simp⟩
  have hsame : (σ.arenaView a (n + 1)).accepted = (σ.arenaView a n).accepted ∧
      (σ.arenaView a (n + 1)).closings = [] := by
    rw [← hclosings]
    simp [arenaView, Site.arenaView, hstore, abandon]
  obtain ⟨⟨hknown, hinactive⟩, hkept, hclosings⟩ := σ.arenaView_done a hnl hdone
  have hlast : σ.accepted a l = σ.accepted a n := hkept.trans hsame.1
  -- an arena that was never closed and is not active any more was abandoned
  cases σ.arenaView_sound a l with
  | abandoned _ hstate _ hattempted => exact ⟨hstate, hattempted, hlast⟩
  | unknown hunknown => exact absurd hknown hunknown
  | active _ hactive => exact absurd hactive hinactive
  | closing other _ _ _ _ hone | closed other _ _ _ hone =>
    rw [hsame.2, hone] at hclosings
    cases hclosings

/-! ### Routines -/

/-- The routines of a disposal that a closing of the arena runs are called on the thread of the
    owner. -/
theorem routine_of_sweeping (h : .arenaOpened owner a (.bound owner) ∈ (σ.after k).store.history)
    {r : Request} {d other : Disposal} {v : ThreadId} {l : Nat} {failures : List DisposalError}
    {todo : List Disposal} {rest : List Frame}
    (hasking : σ.Asking n i r thread d (.guarded other :: .sweeping v a l failures todo :: rest)) :
    r.thread = owner ∧ d ∈ σ.accepted a (n + 1) := by
  obtain ⟨-, -, hattempting⟩ := hasking.warrant.of_closing
  have hcloser : thread = owner :=
    closer_eq_owner h (n := n + 1) (.inl ⟨_, hattempting, by simp⟩)
  have hattempted := History.mem_attempted.mpr ⟨thread, hattempting⟩
  exact ⟨hasking.thread.trans hcloser, (σ.arenaView_sound a (n + 1)).isPrefix.subset hattempted⟩

/-- So are all routines of a disposal that nobody but the arena has in its care. -/
theorem routine_of_accepted (h : .arenaOpened owner a (.bound owner) ∈ (σ.after k).store.history)
    {r : Request} {d : Disposal} {rest : List Frame} (hasking : σ.Asking n i r thread d rest)
    (hasked : ¬σ.Asked (n + 1) d)
    (hhome : ∀ e ∈ (σ.after (n + 1)).store.history.entries, e.disposal = d → e.home = .confined a) :
    r.thread = owner := by
  -- what was run was registered, so its home is known
  have hruns {e : Entry} (he : e ∈ (σ.after (n + 1)).store.history.runs d.flag)
      (hd : e.disposal = d) : e.home = .confined a :=
    hhome e ((σ.sound (n + 1)).mem_of_runs he) hd
  cases hasking.warrant with
  | closing b l failures todo rest hattempting =>
    have hb := hruns (e := ⟨.confined b, .plain, d⟩) (History.mem_runs.mpr ⟨rfl, .inl ⟨b, rfl,
      History.mem_attempted.mpr ⟨thread, hattempting⟩⟩⟩) rfl
    cases hb
    exact (routine_of_sweeping h hasking).1
  | action c token rest hstarted =>
    have hc := hruns (e := ⟨.auto c, .tracked c token, d⟩) (History.mem_runs.mpr ⟨rfl, .inr ⟨c,
      token, rfl, History.mem_started.mpr ⟨thread, hstarted⟩⟩⟩) rfl
    cases hc
  | client _ _ hclient | guarded _ _ hclient => exact absurd hclient hasked

/-! ### What confinement means -/

/-- What it means that a scoped arena is kept to its owner from moment `k` on.  Strands move on
    any thread, at any depth. -/
structure KeptToOwner (σ : Schedule) (a : Nat) (owner : ThreadId) (k : Nat) : Prop where
  /-- The arena exists, and its owner does not change. -/
  bound : ∀ n, k ≤ n → a < (σ.after n).store.arenas.size ∧
    ((σ.after n).store.arena a).confinement = .bound owner
  /-- What another thread registers is refused. -/
  register : ∀ n thread d, k ≤ n → thread ≠ owner →
    (σ.after n).store.register thread (.confined a) d =
      ((σ.after n).store, .error (.wrongThread owner thread))
  /-- So is an object that another thread hands over, if its address is one of its type. -/
  takeOver : ∀ n thread address type, k ≤ n → thread ≠ owner →
    (address.isNull && !type.permitsNull) = false →
    ((σ.after n).store.takeOver thread address type (.confined a)).2 =
      .error (.wrongThread owner thread)
  /-- And so is a batch. -/
  takeOverMany : ∀ n thread type l, k ≤ n → thread ≠ owner →
    ((σ.after n).store.takeOverMany thread type (.confined a) (l + 1)).2 =
      { error := some (.wrongThread owner thread) }
  /-- By whatever operation another thread registers: arenas and flags stay, and no routine is
      called. -/
  operations : ∀ n j operation thread, k ≤ n → thread ≠ owner →
    σ n = .move j (.operate operation) → operation.registers? = some (thread, .confined a) →
    (σ.after n).store.Undisturbed (σ.after (n + 1)).store
  /-- Another thread that closes the arena, whatever state it is in, is refused at once, and the
      store is as it was. -/
  close : ∀ i n base thread, k ≤ n → thread ≠ owner → σ.Starts i n base (.close thread a) →
    σ.At i (n + 1)
      { store := (σ.after n).store, stack := base,
        focus := .handing (.ok (.closed (.error (.wrongThread owner thread)))) }
  /-- This is what the call returns, and its strand does nothing in between. -/
  closed : ∀ i n m base thread o, k ≤ n → thread ≠ owner → σ.Calls i n m base (.close thread a) o →
    o = .ok (.closed (.error (.wrongThread owner thread))) ∧
      ∀ l, n < l → l < m → (∃ move, σ l = .move i move) →
        (σ.after (l + 1)).store = (σ.after l).store
  /-- Another thread that drops the active arena runs nothing. -/
  drop : ∀ i n base thread, k ≤ n → thread ≠ owner → σ.Starts i n base (.drop thread a) →
    ((σ.after n).store.arena a).state = .active →
    σ.At i (n + 1)
      { store := σ.abandon a n owner thread, stack := base, focus := .handing (.ok .done) } ∧
      (∀ flag, (σ.after (n + 1)).store.isDestroyed flag = (σ.after n).store.isDestroyed flag) ∧
      σ.calls (n + 1) = σ.calls n
  /-- What the arena has accepted is then never run, and the instances in its care can be used
      for ever, as far as nobody else sets their flags. -/
  abandoned : ∀ i n l base thread, k ≤ n → thread ≠ owner → σ.Starts i n base (.drop thread a) →
    ((σ.after n).store.arena a).state = .active → n < l →
    ((σ.after l).store.arena a).state = .abandoned ∧ σ.attempted a l = [] ∧
      σ.accepted a l = σ.accepted a n ∧
      ∀ j inst, (.confined a, inst) ∈ (σ.after j).made (σ j) → j < l →
        σ.Spared (inst.entry (.confined a)) j l → (σ.after l).store.Usable inst
  /-- Only the owner has closed the arena or run its disposals. -/
  closers : ∀ n thread, (.closing thread a ∈ (σ.after n).store.history ∨
    ∃ d, .attempting thread a d ∈ (σ.after n).store.history) → thread = owner
  /-- Every routine of a disposal that a closing of the arena runs is called on the thread of the
      owner. -/
  sweeping : ∀ n i r thread d other v l failures todo rest,
    σ.Asking n i r thread d (.guarded other :: .sweeping v a l failures todo :: rest) →
    r.thread = owner ∧ d ∈ σ.accepted a (n + 1)
  /-- And so is every routine of a disposal that only this arena has in its care. -/
  accepted : ∀ n i r thread d rest, σ.Asking n i r thread d rest → ¬σ.Asked (n + 1) d →
    (∀ e ∈ (σ.after (n + 1)).store.history.entries, e.disposal = d → e.home = .confined a) →
    r.thread = owner
  /-- There are no other calls. -/
  calls : ∀ n, σ.calls (n + 1) = σ.calls n ∨ ∃ i r thread d rest, σ.Asking n i r thread d rest

/-- **A scoped arena is kept to the thread that has opened it for itself.** -/
theorem keptToOwner (h : .arenaOpened owner a (.bound owner) ∈ (σ.after k).store.history) :
    σ.KeptToOwner a owner k where
  bound n hkn := bound_of_opened h hkn
  register n thread d hkn hthread := Store.register_refused (bound_of_opened h hkn).2 hthread d
  takeOver n thread address type hkn hthread haddress := by
    rw [Store.takeOver_refused (bound_of_opened h hkn).2 hthread haddress]
  takeOverMany n thread type l hkn hthread := by
    rw [Store.takeOverMany_refused (bound_of_opened h hkn).2 hthread]
  operations n j operation thread hkn hthread hact hoperation := by
    cases hstrand : (σ.after n).strands[j]? with
    | none =>
      rw [after, hact, Machine.perform_of_none hstrand]
      exact .refl _
    | some strand =>
      rw [after, hact, Machine.store_perform hstrand]
      unfold System.perform
      dsimp only
      split
      · exact .refl _
      · split
        · exact Store.apply_undisturbed (bound_of_opened h hkn).2 hthread hoperation
        · exact .refl _
  close i n base thread hkn hthread hstarts :=
    hstarts.at_once rfl (close_refused (bound_of_opened h hkn).2 hthread)
  closed i n m base thread o hkn hthread hcalls := by
    obtain ⟨ho, -, hquiet⟩ := hcalls.at_once rfl (close_refused (bound_of_opened h hkn).2 hthread)
    exact ⟨ho, hquiet⟩
  drop i n base thread hkn hthread hstarts hactive := by
    have hat := hstarts.at_once rfl (drop_abandons (bound_of_opened h hkn).2 hthread hactive)
    have hstore : (σ.after (n + 1)).store = σ.abandon a n owner thread := hat.store.symm
    refine ⟨hat, fun flag => ?_, ?_⟩
    · rw [hstore]
      rfl
    · rw [Schedule.calls, hstore]
      exact (History.calls_cons ..).trans (List.append_nil _)
  abandoned i n l base thread hkn hthread hstarts hactive hnl := by
    obtain ⟨hstate, hattempted, haccepted⟩ :=
      abandoned_stays hstarts (bound_of_opened h hkn).2 hthread hactive hnl
    refine ⟨hstate, hattempted, haccepted, fun j inst hmade hjl hspared => ?_⟩
    rw [Store.usable_iff, ← Bool.not_eq_true, hspared.isDestroyed_iff hmade hjl]
    intro hbegan
    obtain ⟨-, ⟨b, heq, hrun⟩ | ⟨c, token, heq, -⟩⟩ := History.mem_runs.mp hbegan
    · cases congrArg Entry.home heq
      rw [show (σ.after l).store.history.attempted a = [] from hattempted] at hrun
      cases hrun
    · cases congrArg Entry.home heq
  closers n thread hclose := by
    refine closer_eq_owner h (n := n) (.inl ?_)
    obtain hclosing | ⟨d, hattempting⟩ := hclose
    · exact ⟨_, hclosing, by simp⟩
    · exact ⟨_, hattempting, by simp⟩
  sweeping n i r thread d other v l failures todo rest hasking := routine_of_sweeping h hasking
  accepted n i r thread d rest hasking hasked hhome := routine_of_accepted h hasking hasked hhome
  calls n := σ.calls_succ n

/-- A run in which a worker gets hold of an arena of the main thread: it hands an object over,
    closes the arena, and drops it. -/
def strayUse : Schedule
  | 0 => .spawn
  | 1 => .spawn
  | 2 => .move 0 (.operate (.openArena .main {}))
  | 3 => .move 0 (.operate (.takeOver .main ⟨1⟩ closedOne.type (.confined 0)))
  | 4 => .move 1 (.operate (.takeOver (.worker "stray") ⟨2⟩ closedOne.type (.confined 0)))
  | 5 => .move 1 (.start (.close (.worker "stray") 0))
  | 7 => .move 1 (.start (.drop (.worker "stray") 0))
  | _ => .move 1 .tick

theorem keptToOwner_strayUse :
    ((strayUse.after 4).store.takeOver (.worker "stray") ⟨2⟩ closedOne.type (.confined 0)).2 =
        .error (.wrongThread .main (.worker "stray")) ∧
      (strayUse.after 4).store.Undisturbed (strayUse.after 5).store ∧
      strayUse.At 1 6
        { store := (strayUse.after 5).store, stack := [],
          focus := .handing (.ok (.closed (.error (.wrongThread .main (.worker "stray"))))) } ∧
      (∀ l, 7 < l → strayUse.attempted 0 l = []) ∧ (strayUse.after 9).store.Usable closedOne := by
  have hstray : ThreadId.worker "stray" ≠ .main := by decide
  have hopened : .arenaOpened .main 0 (.bound .main) ∈ (strayUse.after 3).store.history :=
    List.mem_singleton.mpr rfl
  have hkept := keptToOwner hopened
  have hdrop : strayUse.Starts 1 7 [] (.drop (.worker "stray") 0) := ⟨rfl, _, rfl⟩
  have hspared : strayUse.Spared (closedOne.entry (.confined 0)) 3 9 := by
    constructor
    case marked =>
      intro l hl hl9 j heq
      interval_cases l <;> cases heq
    case disposed =>
      intro l hl hl9 j move d heq _ hdisposes
      obtain ⟨thread, rfl | rfl⟩ := hdisposes
      · interval_cases l <;> cases heq
      · interval_cases l <;> cases heq
    case others =>
      intro e hflag hbegan
      rw [Began, hflag] at hbegan
      cases hbegan
  refine ⟨hkept.takeOver 4 _ ⟨2⟩ closedOne.type (by omega) hstray rfl,
    hkept.operations 4 1 _ _ (by omega) hstray rfl rfl,
    hkept.close 1 5 [] _ (by omega) hstray ⟨rfl, _, rfl⟩, fun l hl => ?_, ?_⟩
  · exact (hkept.abandoned 1 7 l [] _ (by omega) hstray hdrop rfl hl).2.1
  · exact (hkept.abandoned 1 7 9 [] _ (by omega) hstray hdrop rfl (by omega)).2.2.2 3 closedOne
      (List.mem_singleton.mpr rfl) (by omega) hspared

end Schedule

end ForeignArena
