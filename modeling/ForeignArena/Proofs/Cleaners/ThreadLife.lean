import ForeignArena.Proofs.Cleaners.Handles
import ForeignArena.Proofs.Cleaners.Reclamation

namespace ForeignArena

/-!
# The life of a reclamation thread

A thread is needed as long as the handle of its cleaner exists, with which actions are registered,
or a token, with which they are queued.  It does not stop before, and it stops then.  As it has
taken all that was queued, no action is left behind.

A token that is cleaned is given up before its action runs, on the thread that cleans it.  So a
thread can stop while an action is still running elsewhere, which is neither pending nor counted.

The handle is needed for registering only.  So it makes no difference when it is let go, once the
last action is registered.

* `CleanerView.Step.stopped` — a thread that has stopped stays so;
* `Schedule.Quiescent`, `Schedule.isRunning_iff` — until when a thread runs;
* `Schedule.Cleaning` — an action is still on its way, or runs;
* `Machine.SameWork`, `Schedule.sameWork_insert` — letting the handle go early;
* `Schedule.ThreadLife`, `Schedule.threadLife` — all of it.
-/

namespace CleanerView

variable {move : Move} {c : Nat} {v w : CleanerView}

/-- Where a thread has stopped, nobody can ask anything of it. -/
structure Over (v : CleanerView) : Prop where
  held : v.cleaner.held = false
  tokens : v.cleaner.tokens = []
  queue : v.cleaner.queue = []
  lost : v.cleaner.lost = []
  busy : v.busy = 0

theorem Sound.over_of_stopped (h : v.Sound) (hstopped : v.cleaner.phase = .stopped) : v.Over := by
  have hneeded : ¬(v.cleaner.tokens ≠ [] ∨ v.cleaner.held = true) := fun hneeded =>
    h.needed hneeded hstopped
  have hbusy := h.busy
  simp only [hstopped] at hbusy
  constructor
  case held => simpa using fun hheld => hneeded (.inr hheld)
  case tokens => exact Decidable.by_contra fun htokens => hneeded (.inl htokens)
  case queue => exact h.queue (by simp [Cleaner.isReceiving, hstopped])
  case lost => exact h.not_lost (by simp [hstopped])
  case busy => exact hbusy

/-- **A thread that has stopped stays so.** -/
theorem Step.stopped (hstep : Step move c v w) (h : v.Sound) (hknown : v.known)
    (hstopped : v.cleaner.phase = .stopped) : w.known ∧ w.cleaner.phase = .stopped := by
  have hover := h.over_of_stopped hstopped
  cases hstep with
  | added name hunknown => exact absurd hknown hunknown
  | tracked operation action _ hheld =>
    rw [hover.held] at hheld
    cases hheld
  | settled =>
    refine ⟨hknown, ?_⟩
    obtain heq | ⟨-, heq⟩ := v.cleaner.settle_eq
    · exact (congrArg Cleaner.phase heq).trans hstopped
    · exact congrArg Cleaner.phase heq
  | received token cleaner _ hdequeue =>
    obtain ⟨rest, hwaiting, -, -⟩ := Cleaner.dequeue?_eq_some hdequeue
    rw [hstopped] at hwaiting
    cases hwaiting
  | took token action cleaner taking _ htake =>
    rw [Cleaner.take?_eq_some htake]
    exact ⟨hknown, hstopped⟩
  -- its loop is not there to go on or to end
  | resumed busy hbusy | died busy _ hbusy =>
    rw [hover.busy] at hbusy
    cases hbusy
  | _ => exact ⟨hknown, hstopped⟩

/-- Then only those actions wait that are about to be taken. -/
theorem Sound.live_length (h : v.Sound) (hover : v.Over) :
    v.cleaner.live.length = v.taking.length := by
  have hlength := h.custody.length_eq
  rw [hover.tokens, hover.queue, hover.lost] at hlength
  rw [Cleaner.keys, List.length_map] at hlength
  exact hlength

end CleanerView

/-- A thread that may stop does so at once. -/
theorem Cleaner.settle_settle (x : Cleaner) : x.settle.settle = x.settle := by
  obtain heq | ⟨-, heq⟩ := x.settle_eq
  · rw [heq, heq]
  · rw [heq]
    rfl

/-- Two machines that have done the same and go on with the same. -/
structure Machine.SameWork (m m' : Machine) : Prop where
  strands : m'.strands = m.strands
  history : m'.store.history = m.store.history
  flags : m'.store.flags = m.store.flags
  stats : ∀ c, (m'.store.cleaner c).stats = (m.store.cleaner c).stats

theorem Machine.SameWork.trans {m m' m'' : Machine} (h : m.SameWork m') (h' : m'.SameWork m'') :
    m.SameWork m'' where
  strands := h'.strands.trans h.strands
  history := h'.history.trans h.history
  flags := h'.flags.trans h.flags
  stats c := (h'.stats c).trans (h.stats c)

theorem Machine.SameWork.symm {m m' : Machine} (h : m.SameWork m') : m'.SameWork m where
  strands := h.strands.symm
  history := h.history.symm
  flags := h.flags.symm
  stats c := (h.stats c).symm

/-- Without the handle a machine does the same. -/
theorem Machine.Alike.sameWork {c : Nat} {m m' : Machine} (h : m.Alike c m') : m.SameWork m' where
  strands := h.strands
  history := h.store.history
  flags := h.store.flags
  stats b := (h.store.cleaner b).alike.stats

namespace Schedule

variable {σ : Schedule} {c n m : Nat}

theorem stopped_stays (hnm : n ≤ m) (hknown : c < (σ.after n).store.cleaners.size)
    (hstopped : ((σ.after n).store.cleaner c).phase = .stopped) :
    ((σ.after m).store.cleaner c).phase = .stopped := by
  have hall := @σ.stays (fun st k => (Site.cleanerView (st, k) c).Sound ∧
    c < st.cleaners.size ∧ (st.cleaner c).phase = .stopped) n m hnm
    (fun hperm hs => ⟨Site.cleaner_sound_perm hperm hs.1, hs.2⟩)
    (fun _ _ _ hchange hs => ⟨(hchange.cleaner c).sound hs.1,
      (hchange.cleaner c).stopped hs.1 hs.2.1 hs.2.2⟩)
    ⟨σ.cleanerView_sound c n, hknown, hstopped⟩
  exact hall.2.2

/-! ### Until when a thread runs -/

/-- A cleaner whose thread has taken all that was queued, and has had the chance to stop. -/
structure Quiescent (σ : Schedule) (c n : Nat) : Prop where
  queue : ((σ.after n).store.cleaner c).queue = []
  idle : .reclaiming c ∉ (σ.after n).frames
  settled : ((σ.after n).store.cleaner c).settle = (σ.after n).store.cleaner c

/-- The chance comes with a settling. -/
theorem quiescent_of_settle {i : Nat} {base : List Frame} {news : Option Outcome}
    (hact : σ n = .move i (.operate .settle))
    (hstrand : (σ.after n).strands[i]? = some ⟨base, .client news⟩)
    (hqueue : ((σ.after n).store.cleaner c).queue = [])
    (hidle : .reclaiming c ∉ (σ.after n).frames) : σ.Quiescent c (n + 1) := by
  have hstore : (σ.after (n + 1)).store = (σ.after n).store.settle := by
    rw [after, hact, Machine.store_perform hstrand]
    rfl
  have hstrands : (σ.after (n + 1)).strands = (σ.after n).strands := by
    obtain ⟨hi, heq⟩ := List.getElem?_eq_some_iff.mp hstrand
    rw [after, hact]
    simp only [Machine.perform, hstrand]
    exact heq ▸ List.set_getElem_self hi
  constructor
  case queue =>
    rw [hstore, Store.cleaner_settle]
    obtain heq | ⟨-, heq⟩ := ((σ.after n).store.cleaner c).settle_eq <;> rw [heq] <;> exact hqueue
  case idle =>
    rw [Machine.frames, hstrands]
    exact hidle
  case settled => rw [hstore, Store.cleaner_settle, Cleaner.settle_settle]

theorem isRunning_eq_false : ((σ.after n).store.cleaner c).isRunning = false ↔
    ((σ.after n).store.cleaner c).phase = .stopped := by
  simp [Cleaner.isRunning]

/-- Once a thread does not run, nobody can ask anything of it. -/
theorem over_of_not_running (hstopped : ((σ.after n).store.cleaner c).isRunning = false) :
    (σ.cleanerView c n).Over :=
  (σ.cleanerView_sound c n).over_of_stopped (isRunning_eq_false.mp hstopped)

/-- As long as its cleaner is in use, a thread runs. -/
theorem isRunning_of_needed (hneeded : ((σ.after n).store.cleaner c).held = true ∨
      ((σ.after n).store.cleaner c).tokens ≠ []) :
    ((σ.after n).store.cleaner c).isRunning = true := by
  have hphase : ((σ.after n).store.cleaner c).phase ≠ .stopped :=
    (σ.cleanerView_sound c n).needed hneeded.symm
  simp [Cleaner.isRunning, hphase]

/-- **A thread runs as long as its cleaner is in use, and no longer.** -/
theorem isRunning_iff (htame : ∀ i, σ.Tame i 0 n) (h : σ.Quiescent c n) :
    ((σ.after n).store.cleaner c).isRunning = true ↔
      ((σ.after n).store.cleaner c).held = true ∨ ((σ.after n).store.cleaner c).tokens ≠ [] := by
  refine ⟨fun hrunning => ?_, isRunning_of_needed⟩
  have hwaiting : ((σ.after n).store.cleaner c).phase = .waiting := by
    have hbusy : (σ.cleanerView c n).busy = 0 :=
      List.countP_eq_zero.mpr fun f hf hreclaiming => by
        cases f <;> simp [Frame.isReclaiming] at hreclaiming
        subst hreclaiming
        exact h.idle hf
    have hone := (σ.cleanerView_sound c n).busy
    rw [hbusy] at hone
    have hreceiving := isReceiving_of_isRunning (alive htame) hrunning
    rw [Cleaner.isReceiving] at hreceiving
    cases hphase : ((σ.after n).store.cleaner c).phase with
    | waiting => rfl
    | busy =>
      have hphase : (σ.cleanerView c n).cleaner.phase = .busy := hphase
      rw [if_pos hphase] at hone
      cases hone
    | stopped | dead => simp [hphase] at hreceiving
  -- a waiting thread that is not needed would have stopped
  refine Classical.byContradiction fun hneeded => ?_
  rw [not_or, Bool.not_eq_true, not_not] at hneeded
  have hsettled := congrArg Cleaner.phase h.settled
  simp [Cleaner.settle, hwaiting, h.queue, hneeded.1, hneeded.2] at hsettled

/-! ### What is still in progress -/

/-- An action of a cleaner is about to be taken, or runs. -/
def Cleaning (σ : Schedule) (c n : Nat) : Prop :=
  ∃ thread token, .taking thread c token ∈ (σ.after n).frames ∨
    .running thread c token ∈ (σ.after n).frames

theorem not_cleaning_iff :
    ¬σ.Cleaning c n ↔ (σ.cleanerView c n).taking = [] ∧ σ.running c n = [] := by
  simp only [List.eq_nil_iff_forall_not_mem, mem_taking, mem_running]
  constructor
  · intro h
    exact ⟨fun token ⟨thread, htaking⟩ => h ⟨thread, token, .inl htaking⟩,
      fun token ⟨thread, hrunning⟩ => h ⟨thread, token, .inr hrunning⟩⟩
  · rintro ⟨htaking, hrunning⟩ ⟨thread, token, hframe | hframe⟩
    · exact htaking token ⟨thread, hframe⟩
    · exact hrunning token ⟨thread, hframe⟩

/-! ### Letting the handle go -/

/-- Letting the handle go after the last registration leaves all work as it is. -/
theorem sameWork_insert (i : Nat) {k : Nat} (hkn : k ≤ n)
    (hlast : ∀ l, k ≤ l → l < n → ¬Machine.RegistersWith c (σ l)) :
    (σ.after n).SameWork ((σ.insert k (.move i (.operate (.letGo c)))).after (n + 1)) :=
  (after_insert_letGo i hkn hlast).sameWork

/-! ### The life of a thread -/

/-- What it means that a reclamation thread lives as long as it is needed. -/
structure ThreadLife (σ : Schedule) (c : Nat) : Prop where
  /-- As long as the handle exists, or a token, the thread is said to run. -/
  needed : ∀ n, ((σ.after n).store.cleaner c).held = true ∨
    ((σ.after n).store.cleaner c).tokens ≠ [] → ((σ.after n).store.cleaner c).isRunning = true
  /-- If no payload is thrown that panics as it is dropped, it runs no longer than that, once it
      has taken what was queued and has had the chance to stop. -/
  running : ∀ n, (∀ i, σ.Tame i 0 n) → σ.Quiescent c n →
    (((σ.after n).store.cleaner c).isRunning = true ↔
      ((σ.after n).store.cleaner c).held = true ∨ ((σ.after n).store.cleaner c).tokens ≠ [])
  /-- It has that chance at each settling. -/
  settles : ∀ n i base news, σ n = .move i (.operate .settle) →
    (σ.after n).strands[i]? = some ⟨base, .client news⟩ →
    ((σ.after n).store.cleaner c).queue = [] → .reclaiming c ∉ (σ.after n).frames →
    σ.Quiescent c (n + 1)
  /-- Once it does not run it never runs again. -/
  stays : ∀ n m, n ≤ m → c < (σ.after n).store.cleaners.size →
    ((σ.after n).store.cleaner c).isRunning = false →
    ((σ.after m).store.cleaner c).isRunning = false
  /-- Then nobody can register or queue an action, and none is queued or lost. -/
  nothingLeft : ∀ n, ((σ.after n).store.cleaner c).isRunning = false →
    ((σ.after n).store.cleaner c).held = false ∧ ((σ.after n).store.cleaner c).tokens = [] ∧
    ((σ.after n).store.cleaner c).queue = [] ∧ ((σ.after n).store.cleaner c).lost = []
  /-- Those actions only have not ended whose tokens were just given up to be cleaned: they are
      pending until they are taken, and then they run. -/
  cleaning : ∀ n, ((σ.after n).store.cleaner c).isRunning = false →
    ((σ.after n).store.cleaner c).stats.pending =
      ((σ.after n).frames.filterMap (Frame.takingOf? c)).length ∧
    ((σ.after n).store.cleaner c).stats.registered =
      ((σ.after n).store.cleaner c).stats.pending + ((σ.after n).store.cleaner c).stats.cleaned +
        ((σ.after n).store.cleaner c).stats.panicked + (σ.running c n).length
  /-- So it is when none is cleaned any more, and not before, that no action is pending and each
      was cleaned or has panicked. -/
  complete : ∀ n, ((σ.after n).store.cleaner c).isRunning = false →
    ((((σ.after n).store.cleaner c).stats.pending = 0 ∧
      ((σ.after n).store.cleaner c).stats.registered =
        ((σ.after n).store.cleaner c).stats.cleaned +
          ((σ.after n).store.cleaner c).stats.panicked) ↔
      ¬σ.Cleaning c n)
  /-- No action is abandoned: each has begun once, or is about to be taken. -/
  kept : ∀ n, ((σ.after n).store.cleaner c).isRunning = false →
    ∀ entry ∈ (σ.after n).store.history.tracked c,
      ((σ.after n).store.history.started c).count entry = 1 ∨
        ∃ thread, .taking thread c entry.1 ∈ (σ.after n).frames
  /-- Letting the handle go after the last registration changes neither what runs nor in what
      order, nor any flag, nor any counter. -/
  early : ∀ i k n, k ≤ n → (∀ l, k ≤ l → l < n → ¬Machine.RegistersWith c (σ l)) →
    (σ.after n).SameWork ((σ.insert k (.move i (.operate (.letGo c)))).after (n + 1))
  /-- It makes no difference if that is done at once or later. -/
  late : ∀ i j k m n, k ≤ m → m ≤ n → (∀ l, k ≤ l → l < n → ¬Machine.RegistersWith c (σ l)) →
    ((σ.insert m (.move j (.operate (.letGo c)))).after (n + 1)).SameWork
      ((σ.insert k (.move i (.operate (.letGo c)))).after (n + 1))

/-- **A reclamation thread lives as long as it is needed**: until the handle of its cleaner and all
    tokens are gone.  No action is left behind, whenever the handle is let go; some may still be
    running, for those who clean their tokens. -/
theorem threadLife (σ : Schedule) (c : Nat) : σ.ThreadLife c where
  needed n := isRunning_of_needed
  running n := isRunning_iff
  settles n i base news := quiescent_of_settle
  stays n m hnm hknown hstopped := by
    rw [isRunning_eq_false] at hstopped ⊢
    exact stopped_stays hnm hknown hstopped
  nothingLeft n hstopped := by
    obtain ⟨hheld, htokens, hqueue, hlost, -⟩ := over_of_not_running hstopped
    exact ⟨hheld, htokens, hqueue, hlost⟩
  cleaning n hstopped :=
    ⟨(σ.cleanerView_sound c n).live_length (over_of_not_running hstopped), σ.conserved c n⟩
  complete n hstopped := by
    have hpending : ((σ.after n).store.cleaner c).stats.pending =
        (σ.cleanerView c n).taking.length :=
      (σ.cleanerView_sound c n).live_length (over_of_not_running hstopped)
    have hconserved := σ.conserved c n
    rw [not_cleaning_iff, ← List.length_eq_zero_iff, ← List.length_eq_zero_iff]
    omega
  kept n hstopped entry hentry := by
    have hover := over_of_not_running hstopped
    obtain htoken | hqueue | hlost | htaking | hone := whereabouts hentry
    · rw [show ((σ.after n).store.cleaner c).tokens = [] from hover.tokens] at htoken
      cases htoken
    · rw [show ((σ.after n).store.cleaner c).queue = [] from hover.queue] at hqueue
      cases hqueue
    · rw [show ((σ.after n).store.cleaner c).lost = [] from hover.lost] at hlost
      cases hlost
    · exact .inr ((σ.mem_taking c).mp htaking)
    · exact .inl hone
  early i k n hkn hlast := sameWork_insert i hkn hlast
  late i j k m n hkm hmn hlast := by
    have hlater := sameWork_insert j hmn fun l hml => hlast l (Nat.le_trans hkm hml)
    exact hlater.symm.trans (sameWork_insert i (Nat.le_trans hkm hmn) hlast)

/-- A run in which both tokens of a cleaner are dropped and taken, as in `droppingBoth`, before the
    handle is let go. -/
def lettingGo : Schedule :=
  ((droppingBoth (.literal "boom")).insert 21 (.move 0 (.operate (.letGo 0)))).insert 22
    (.move 0 (.operate .settle))

theorem lettingGo_tame (i : Nat) : lettingGo.Tame i 0 23 := by
  intro l _ hl payload hact
  obtain rfl | hl11 : l = 11 ∨ l ≠ 11 := by omega
  · cases hact
    rfl
  · interval_cases l <;> first | exact absurd rfl hl11 | cases hact

/-- The thread of that cleaner stops with all its work done, which is the same if the handle is let
    go before the first token is dropped. -/
theorem threadLife_lettingGo :
    ((lettingGo.after 23).store.cleaner 0).isRunning = false ∧
    (∀ m, 23 ≤ m → ((lettingGo.after m).store.cleaner 0).isRunning = false) ∧
    ((lettingGo.after 23).store.cleaner 0).stats.registered =
      ((lettingGo.after 23).store.cleaner 0).stats.cleaned +
        ((lettingGo.after 23).store.cleaner 0).stats.panicked ∧
    (((droppingBoth (.literal "boom")).insert 5
      (.move 0 (.operate (.letGo 0)))).after 22).store.history =
        ((droppingBoth (.literal "boom")).after 21).store.history := by
  have hlife := threadLife lettingGo 0
  have hframes : (lettingGo.after 22).frames = [] ∧ (lettingGo.after 23).frames = [] := ⟨rfl, rfl⟩
  have hneeded : ¬(((lettingGo.after 23).store.cleaner 0).held = true ∨
    ((lettingGo.after 23).store.cleaner 0).tokens ≠ []) := by decide +kernel
  have hquiescent : lettingGo.Quiescent 0 23 :=
    hlife.settles 22 0 [] _ rfl rfl rfl (by simp [hframes.1])
  have hover : ((lettingGo.after 23).store.cleaner 0).isRunning = false := by
    rw [Bool.eq_false_iff, ne_eq, hlife.running 23 lettingGo_tame hquiescent]
    exact hneeded
  refine ⟨hover, fun m hm => hlife.stays 23 m hm (by decide +kernel) hover, ?_, ?_⟩
  · exact ((hlife.complete 23 hover).mpr (by simp [Cleaning, hframes.2])).2
  · refine ((threadLife (droppingBoth (.literal "boom")) 0).early 0 5 21 (by decide) ?_).history
    rintro l hl hl21 ⟨i, operation, hact, hregisters⟩
    interval_cases l <;> cases hact

/-- A run in which the handle of a cleaner is let go, and then its last token is cleaned.  While the
    action runs, the thread of the cleaner has the chance to stop. -/
def cleaningLast : Schedule
  | 0 => .spawn
  | 1 => .spawn
  | 2 => cleaningOne 1
  | 3 => .move 0 (.operate (.track 0 7))
  | 4 => .move 0 (.operate (.letGo 0))
  | 5 => .move 0 (.start (.clean .main 0 0))
  | 6 => .move 0 .tick
  | 7 => .move 1 (.operate .settle)
  | 8 => .move 0 (.answer (.ok .done))
  | _ => .move 0 .tick

/-- So a thread can have stopped, with nothing pending, before each action was cleaned or has
    panicked. -/
theorem not_complete_cleaningLast : ¬∀ (σ : Schedule) (c n : Nat), (∀ i, σ.Tame i 0 n) →
    σ.Quiescent c n → ((σ.after n).store.cleaner c).isRunning = false →
      ((σ.after n).store.cleaner c).stats.pending = 0 ∧
      ((σ.after n).store.cleaner c).stats.registered =
        ((σ.after n).store.cleaner c).stats.cleaned +
          ((σ.after n).store.cleaner c).stats.panicked := by
  intro hall
  have htame (i : Nat) : cleaningLast.Tame i 0 8 := by
    intro l _ hl payload hact
    interval_cases l <;> cases hact
  have hframes : (cleaningLast.after 7).frames =
      [.awaiting (.action .main 7), .running .main 0 0] := rfl
  have hquiescent : cleaningLast.Quiescent 0 8 :=
    quiescent_of_settle (i := 1) rfl rfl rfl (by simp [hframes])
  have hstopped : ((cleaningLast.after 8).store.cleaner 0).isRunning = false := by decide +kernel
  have hstats : ((cleaningLast.after 8).store.cleaner 0).stats = ⟨1, 0, 0, 0⟩ := by decide +kernel
  have hequation := (hall cleaningLast 0 8 htame hquiescent hstopped).2
  rw [hstats] at hequation
  cases hequation

end Schedule

end ForeignArena
