import ForeignArena.Proofs.Flags
import Mathlib.Data.List.Perm.Subperm

namespace ForeignArena

/-!
# Disposals come to their destroy routine once

A disposal begins before it comes to its destroy routine, and it comes there once at most
for each time it begins.  One that only arenas run begins as often as it was registered
at most.

* `DisposalView`, `Change.disposal` — what concerns one disposal on its way;
* `Site.Sound.runs_subperm` — nothing is run more often than it was registered;
* `Site.Orderly`, `Site.Orderly.entered_le` — what holds of a disposal that no client begins.
-/

/-! ### On the way to the destroy routine -/

/-- Whether a frame holds a disposal that has begun and has not come to its destroy
    routine. -/
def Frame.isCounted (d : Disposal) : Frame → Bool
  | counted _ e => e = d
  | _ => false

/-- Whether a disposal has just come to its destroy routine. -/
def Happening.isEntering (d : Disposal) : Happening → Bool
  | destroying _ e => e = d
  | _ => false

/-- How often a disposal has come to its destroy routine. -/
def History.entered (h : History) (d : Disposal) : Nat := h.countP (Happening.isEntering d)

/-- What concerns a disposal: how often it waits, has come to its destroy routine, and has
    begun. -/
@[ext]
structure DisposalView where
  waiting : Nat
  entered : Nat
  begun : Nat

/-- What concerns a disposal at some site. -/
def Site.disposalView (s : Site) (d : Disposal) : DisposalView where
  waiting := s.2.countP (Frame.isCounted d)
  entered := s.1.history.entered d
  begun := (s.1.history.begun d.flag).count d

/-- What a change can do to a disposal, as part of a move. -/
inductive DisposalView.Step (move : Move) (v : DisposalView) : DisposalView → Prop where
  | same : Step move v v
  | began : (∀ operation, move ≠ .operate operation) →
    Step move v { v with waiting := v.waiting + 1, begun := v.begun + 1 }
  | entered (waiting : Nat) : (∀ operation, move ≠ .operate operation) →
    v.waiting = waiting + 1 → Step move v { v with waiting, entered := v.entered + 1 }
  | dropped (waiting : Nat) : v.waiting = waiting + 1 → Step move v { v with waiting }

/-- A disposal has begun as often at least as it waits and has come to its destroy
    routine. -/
def DisposalView.Sound (v : DisposalView) : Prop := v.waiting + v.entered ≤ v.begun

namespace DisposalView

variable {move : Move} {v w : DisposalView}

theorem Step.of_eq (h : w = v) : Step move v w :=
  h ▸ .same

theorem Step.congr {w' : DisposalView} (h : Step move v w) (heq : w' = w) : Step move v w' :=
  heq ▸ h

theorem Step.sound (hstep : Step move v w) (h : v.Sound) : w.Sound := by
  unfold Sound at h ⊢
  cases hstep with
  | same => exact h
  | began => dsimp only; omega
  | entered waiting _ hwaiting => dsimp only; omega
  | dropped waiting hwaiting => dsimp only; omega

/-- A disposal was lost on its way if it has begun, and less often waits or has come to its
    destroy routine. -/
def Lost (v : DisposalView) : Prop := v.waiting + v.entered < v.begun

/-- What was lost is never found again. -/
theorem Step.lost (hstep : Step move v w) (h : v.Lost) : w.Lost := by
  unfold Lost at h ⊢
  cases hstep with
  | same => exact h
  | began => dsimp only; omega
  | entered waiting _ hwaiting => dsimp only; omega
  | dropped waiting hwaiting => dsimp only; omega

theorem Step.entered_le (hstep : Step move v w) : v.entered ≤ w.entered := by
  cases hstep with
  | same | began | dropped => exact Nat.le_refl _
  | entered => exact Nat.le_succ _

end DisposalView

/-- Happenings that say nothing on the way of disposals. -/
def Happening.Quiet (e : Happening) : Prop :=
  (∀ flag, e.begunOf? flag = none) ∧ ∀ d, e.isEntering d = false

theorem Happening.quiet_of_isPlain {e : Happening} (h : e.isPlain) : e.Quiet := by
  cases e <;> first | exact ⟨fun _ => rfl, fun _ => rfl⟩ | cases h

theorem Frame.isCounted_of_isPlain {f : Frame} (h : f.isPlain) (d : Disposal) :
    f.isCounted d = false := by
  cases f <;> first | rfl | cases h

/-- Such happenings, and frames that hold no disposal, leave all disposals alone. -/
theorem Site.disposalView_eq {s t : Site} {d : Disposal} (news : List Happening)
    (hhistory : t.1.history = news ++ s.1.history) (hnews : ∀ e ∈ news, e.Quiet)
    (hwaiting : t.2.countP (Frame.isCounted d) = s.2.countP (Frame.isCounted d)) :
    t.disposalView d = s.disposalView d := by
  have hbegun : t.1.history.begun d.flag = s.1.history.begun d.flag :=
    History.pick_append_of_none hhistory fun e he => (hnews e he).1 d.flag
  have hentered : t.1.history.entered d = s.1.history.entered d := by
    rw [hhistory, History.entered, History.entered, List.countP_append,
      List.countP_eq_zero.mpr fun e he => by simp [(hnews e he).2 d], Nat.zero_add]
  simp only [disposalView, hbegun, hentered, hwaiting]

namespace Change

variable {move : Move} {st : Store} {k : List Frame}

/-- A disposal begins over other work. -/
theorem began_disposal (hmove : ∀ operation, move ≠ .operate operation) (thread : ThreadId)
    (other : Disposal) (above : List Frame) (k' : List Frame)
    (habove : ∀ d, (above ++ k').countP (Frame.isCounted d) = k.countP (Frame.isCounted d))
    (news : List Happening) {middle : Store} (hhistory : middle.history = news ++ st.history)
    (hnews : ∀ e ∈ news, e.Quiet) (d : Disposal) :
    (Site.disposalView (st, k) d).Step move
      (Site.disposalView (middle.begin thread other, .counted thread other :: (above ++ k')) d) := by
  have hmiddle : Site.disposalView (middle, above ++ k') d = Site.disposalView (st, k) d :=
    Site.disposalView_eq news hhistory hnews (habove d)
  have hafter :
      Site.disposalView (middle.begin thread other, .counted thread other :: (above ++ k')) d =
      let v := Site.disposalView (middle, above ++ k') d
      if other = d then { v with waiting := v.waiting + 1, begun := v.begun + 1 } else v := by
    by_cases hother : other = d
    · subst hother
      rw [if_pos rfl]
      ext
      · simp [Site.disposalView, Frame.isCounted]
      · simp [Site.disposalView, History.entered, Happening.isEntering]
      · simp [Site.disposalView]
    · rw [if_neg hother]
      ext
      · simp [Site.disposalView, Frame.isCounted, hother]
      · simp [Site.disposalView, History.entered, Happening.isEntering]
      · by_cases hflag : other.flag = d.flag <;> simp [Site.disposalView, hflag, hother]
  rw [hafter, hmiddle]
  dsimp only
  split
  · exact .began hmove
  · exact .same

/-- **What a change can do to a disposal.** -/
theorem disposal {s t : Site} (h : Change move s t) (d : Disposal) :
    (s.disposalView d).Step move (t.disposalView d) := by
  cases h with
  | push f hf =>
    exact .of_eq (Site.disposalView_eq [] rfl (by simp) (by simp [Frame.isCounted_of_isPlain hf]))
  | pop f hf =>
    cases hcounted : f.isCounted d with
    | true =>
      refine .congr (.dropped _ ?_) rfl
      simp [Site.disposalView, hcounted]
    | false =>
      exact .of_eq (Site.disposalView_eq [] rfl (by simp) (by simp [hcounted]))
  | note e he =>
    exact .of_eq (Site.disposalView_eq [e] rfl (by simpa using Happening.quiet_of_isPlain he) rfl)
  | @begun st k thread other hmove _ =>
    have hoperate (operation : Operation) : move ≠ .operate operation := by
      obtain rfl | rfl := hmove <;> simp
    exact began_disposal hoperate thread other [] k (fun _ => rfl) [] rfl (by simp) d
  | @attempted st k thread a n failures other rest hmove =>
    exact began_disposal hmove thread other [.guarded other, .sweeping thread a n failures rest] k
      (fun _ => rfl) [.attempting thread a other] rfl
      (by simp [Happening.Quiet, Happening.isEntering]) d
  | @tookDisposal st k thread c token other cleaner hmove htake =>
    exact began_disposal (by simp [hmove]) thread other
      [.reporting thread c token, .running thread c token] k (fun _ => rfl)
      [.started thread c token (.dispose other)] rfl
      (by simp [Happening.Quiet, Happening.isEntering]) d
  | @entered st k thread other hmove =>
    -- its frame gives way as the happening is noted
    by_cases hother : other = d
    · subst hother
      refine .congr (.entered (k.countP (Frame.isCounted other)) hmove ?_) ?_
      · simp [Site.disposalView, Frame.isCounted]
      · ext
        · simp [Site.disposalView, Frame.isCounted]
        · simp [Site.disposalView, History.entered, Happening.isEntering]
        · simp [Site.disposalView]
    · refine .of_eq ?_
      ext
      · simp [Site.disposalView, Frame.isCounted, hother]
      · simp [Site.disposalView, History.entered, Happening.isEntering, hother]
      · simp [Site.disposalView]
  | called => exact .of_eq (Site.disposalView_eq [] (by simp) (by simp) rfl)
  | missed | resumed | died => exact .of_eq (Site.disposalView_eq [] rfl (by simp) rfl)
  | opened operation thread config =>
    exact .of_eq (Site.disposalView_eq [.arenaOpened ..] rfl
      (by simp [Happening.Quiet, Happening.isEntering]) rfl)
  | accepted | swapped | abandoned | failed | swept | tracked | queued | received | tookSupplied
  | ended | panicked | asked =>
    exact .of_eq (Site.disposalView_eq [_] rfl (by simp [Happening.Quiet, Happening.isEntering]) rfl)
  | _ => exact .of_eq (Site.disposalView_eq [] rfl (by simp) rfl)

end Change

namespace Schedule

variable (σ : Schedule) {n m : Nat}

/-- What concerns a disposal after the first `n` acts of a run. -/
def disposalView (d : Disposal) (n : Nat) : DisposalView :=
  Site.disposalView ((σ.after n).store, (σ.after n).frames) d

/-- What every step of a disposal keeps, a run keeps. -/
theorem disposalView_keeps (d : Disposal) (I : DisposalView → Prop)
    (hstep : ∀ {move v w}, DisposalView.Step move v w → I v → I w) (hnm : n ≤ m)
    (h : I (σ.disposalView d n)) : I (σ.disposalView d m) := by
  refine @stays (fun st k => I (Site.disposalView (st, k) d)) σ n m hnm (fun hperm h => ?_)
    (fun _ _ _ hchange h => hstep (hchange.disposal d) h) h
  rw [Site.disposalView] at h ⊢
  rwa [← hperm.countP_eq]

/-- What has come to its destroy routine has come there for ever. -/
theorem entered_mono (d : Disposal) (hnm : n ≤ m) :
    (σ.after n).store.history.entered d ≤ (σ.after m).store.history.entered d :=
  σ.disposalView_keeps d (fun v => (σ.after n).store.history.entered d ≤ v.entered)
    (fun hstep hle => Nat.le_trans hle hstep.entered_le) hnm (Nat.le_refl _)

end Schedule

/-! ### Nothing is run more often than it was registered -/

namespace Site.Sound

variable {st : Store} {k : List Frame}

/-- An arena runs a disposal as often as it has accepted it at most, and a cleaner as often as
    it was registered there. -/
theorem count_runs_le (h : Site.Sound (st, k)) (flag : Nat) (e : Entry) :
    (st.history.runs flag).count e ≤ st.history.entries.count e := by
  -- what was run shows in the lists of one arena or one cleaner, and there its entries do, too
  by_cases hmem : e ∈ st.history.runs flag
  · obtain ⟨home, receipt, d⟩ := e
    obtain ⟨hflag, ⟨a, heq, -⟩ | ⟨c, token, heq, -⟩⟩ := History.mem_runs.mp hmem
    · cases heq
      have hruns : (st.history.runs flag).count ⟨.confined a, .plain, d⟩ =
          (st.history.attempted a).count d :=
        st.history.count_pick_congr fun event =>
          Happening.runOf?_eq_attempted.trans (and_iff_right hflag)
      have hentries : st.history.entries.count ⟨.confined a, .plain, d⟩ =
          (st.history.accepted a).count d :=
        st.history.count_pick_congr fun event => Happening.entry?_eq_accepted
      rw [hruns, hentries]
      exact (h.arenas a).isPrefix.sublist.count_le d
    · cases heq
      have hruns : (st.history.runs flag).count ⟨.auto c, .tracked c token, d⟩ =
          (st.history.started c).count (token, .dispose d) :=
        st.history.count_pick_congr fun event =>
          Happening.runOf?_eq_started.trans (and_iff_right hflag)
      have hentries : st.history.entries.count ⟨.auto c, .tracked c token, d⟩ =
          (st.history.tracked c).count (token, .dispose d) :=
        st.history.count_pick_congr fun event => Happening.entry?_eq_tracked
      have hdivided : ((st.cleaner c).live ++ st.history.started c).Perm (st.history.tracked c) :=
        (h.cleaners c).divided
      rw [hruns, hentries, ← hdivided.count_eq, List.count_append]
      exact Nat.le_add_left ..
  · rw [List.count_eq_zero.mpr hmem]
    exact Nat.zero_le _

/-- **Nothing is run more often than it was registered.** -/
theorem runs_subperm (h : Site.Sound (st, k)) (flag : Nat) :
    (st.history.runs flag).Subperm st.history.entries :=
  List.subperm_ext_iff.mpr fun e _ => h.count_runs_le flag e

end Site.Sound

/-- How often a disposal was registered can be counted among all that are of some sort with it. -/
theorem History.countP_entries (h : History) {d : Disposal} (p : Disposal → Bool) (hd : p d) :
    h.entries.countP (·.disposal = d) =
      (h.entries.filter fun e => p e.disposal).countP (·.disposal = d) := by
  rw [List.countP_filter]
  refine List.countP_congr fun e _ => ?_
  simp only [decide_eq_true_eq, Bool.and_eq_true]
  exact ⟨fun heq => ⟨heq, heq ▸ hd⟩, And.left⟩

/-! ### Disposals that no client begins -/

/-- Of a flag: a disposal with it has begun as often as arenas have run it. -/
def FlagView.RunOnly (v : FlagView) (d : Disposal) : Prop :=
  v.begun.count d = v.runs.countP (·.disposal = d)

/-- As long as no client begins it. -/
theorem FlagView.Step.runOnly {move : Move} {flag : Nat} {v w : FlagView} {d : Disposal}
    (hstep : Step move flag v w) (hmove : ¬move.Disposes d) (h : v.RunOnly d) : w.RunOnly d := by
  unfold RunOnly at h ⊢
  cases hstep with
  | same | created | marked => exact h
  | began other _ hother =>
    have hne : other ≠ d := by
      rintro rfl
      exact hmove hother
    simp [h, hne]
  | ran e => simp [h, List.count_singleton, List.countP_singleton]

/-- What holds of a disposal that no client begins: it has begun only where an arena has run
    it, and before it comes to its destroy routine. -/
structure Site.Orderly (s : Site) (d : Disposal) : Prop where
  sound : s.Sound
  way : (s.disposalView d).Sound
  runOnly : (s.1.flagView d.flag).RunOnly d

theorem Change.orderly {move : Move} {s t : Site} (h : Change move s t) {d : Disposal}
    (hmove : ¬move.Disposes d) (hs : s.Orderly d) : t.Orderly d where
  sound := h.sound hs.sound
  way := (h.disposal d).sound hs.way
  runOnly := (h.flag hs.sound d.flag).runOnly hmove hs.runOnly

namespace Site.Orderly

variable {st : Store} {k : List Frame} {d : Disposal}

theorem perm {k' : List Frame} (hperm : k.Perm k') (h : Site.Orderly (st, k) d) :
    Site.Orderly (st, k') d where
  sound := h.sound.perm hperm
  way := by
    have hway := h.way
    rw [DisposalView.Sound, disposalView] at hway ⊢
    rw [← hperm.countP_eq]
    exact hway
  runOnly := h.runOnly

/-- A disposal has begun as often at most as it was registered. -/
theorem begun_le (h : Site.Orderly (st, k) d) :
    (Site.disposalView (st, k) d).begun ≤ st.history.entries.countP (·.disposal = d) := by
  have hbegun : (Site.disposalView (st, k) d).begun = _ := h.runOnly
  rw [hbegun]
  exact (h.sound.runs_subperm d.flag).countP_le _

/-- **A disposal comes to its destroy routine** as often at most as it was registered, and
    less often if it still waits. -/
theorem entered_le (h : Site.Orderly (st, k) d) :
    k.countP (Frame.isCounted d) + st.history.entered d ≤
      st.history.entries.countP (·.disposal = d) :=
  Nat.le_trans h.way h.begun_le

/-- One that waits for its count comes to its destroy routine for the first time, if it was
    registered once at most. -/
theorem of_counted {thread : ThreadId} (h : Site.Orderly (st, .counted thread d :: k) d)
    (hone : st.history.entries.countP (·.disposal = d) ≤ 1) :
    st.history.entered d = 0 ∧ ∃ e ∈ st.history.entries, e.disposal = d := by
  have hle := h.entered_le
  have hwaiting : (Frame.counted thread d :: k).countP (Frame.isCounted d) =
      k.countP (Frame.isCounted d) + 1 :=
    List.countP_cons_of_pos (by simp [Frame.isCounted])
  refine ⟨by omega, ?_⟩
  obtain ⟨e, he, heq⟩ := List.countP_pos_iff.mp
    (show 0 < st.history.entries.countP (·.disposal = d) by omega)
  exact ⟨e, he, by simpa using heq⟩

/-- A disposal that has come to its destroy routine has begun. -/
theorem entered_of_not_begun (h : Site.Orderly (st, k) d) (hbegun : st.history.begun d.flag = []) :
    st.history.entered d = 0 := by
  have hway : (Site.disposalView (st, k) d).waiting + st.history.entered d ≤
      (st.history.begun d.flag).count d := h.way
  rw [hbegun, List.count_nil] at hway
  omega

end Site.Orderly

end ForeignArena
