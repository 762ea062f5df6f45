import ForeignArena.Proofs.Arenas.Sweeps
import Mathlib.Tactic.IntervalCases

namespace ForeignArena.Schedule

/-!
# What is done when a closing returns

The call that closes an arena returns when all that the arena has accepted was run.  Calls
that find the arena closed do not wait for that call: they return at once, also where they
are made from within one of its disposals.

* `Schedule.Completed` — all that an arena has accepted was run;
* `Schedule.ClosesComplete`, `Schedule.closesComplete` — which calls return only then;
* `Schedule.FailuresContained`, `Schedule.failuresContained` — which failures keep a closing
  from running the rest.
-/

variable {σ : Schedule} {a i n m : Nat} {base : List Frame} {w : Work} {o : Outcome}
  {thread : ThreadId}

/-! ### All was run -/

/-- All that an arena has accepted was run, and the flags say so. -/
structure Completed (σ : Schedule) (a n : Nat) : Prop where
  all : σ.attempted a n = σ.accepted a n
  flags : ∀ d ∈ σ.accepted a n, (σ.after n).store.isDestroyed d.flag = true

/-- The flag of a disposal that was run is set. -/
theorem isDestroyed_of_attempted {d : Disposal} (h : d ∈ σ.attempted a n) :
    (σ.after n).store.isDestroyed d.flag = true := by
  have hsound := σ.flagView_sound d.flag n
  have hrun : ⟨.confined a, .plain, d⟩ ∈ (σ.flagView d.flag n).runs :=
    History.mem_runs.mpr ⟨rfl, .inl ⟨a, rfl, h⟩⟩
  exact hsound.set (List.ne_nil_of_mem (hsound.begun.subset (List.mem_map_of_mem hrun)))

theorem Completed.of_all (h : σ.attempted a n = σ.accepted a n) : σ.Completed a n := by
  refine ⟨h, fun d hd => ?_⟩
  rw [← h] at hd
  exact isDestroyed_of_attempted hd

/-- What is complete in an arena that accepts nothing more stays so. -/
theorem Completed.mono (h : σ.Completed a n) (hdone : (σ.arenaView a n).Done) (hnm : n ≤ m) :
    σ.Completed a m := by
  obtain ⟨-, hgrows⟩ := σ.arenaView_grows a hnm
  obtain ⟨-, haccepted, -⟩ := σ.arenaView_done a hnm hdone
  have haccepted : σ.accepted a m = σ.accepted a n := haccepted
  -- what was run is a prefix of what was accepted, so it is enough to compare lengths
  refine .of_all ((σ.arenaView_sound a m).isPrefix.eq_of_length_le ?_)
  show (σ.accepted a m).length ≤ (σ.attempted a m).length
  rw [haccepted, ← h.all]
  exact hgrows.length_le

theorem Closes.done (h : σ.Closes a n i base) (hnm : n < m) : (σ.arenaView a m).Done := by
  obtain ⟨hknown, hclosed⟩ := h.closed_after hnm
  exact ⟨hknown, by simp [hclosed]⟩

/-- The call that closes an arena has completed it when it returns and does not panic. -/
theorem Calls.completed {r : Reply} (h : σ.Calls i n m base w (.ok r))
    (hcloses : σ.Closes a n i base) : σ.Completed a m :=
  .of_all (hcloses.complete h.order h.within h.returns)

/-! ### Calls that return when all was run -/

/-- A call that finds the arena closed does nothing, and has its outcome at once. -/
theorem Calls.idle (h : σ.Calls i n m base (.close thread a) o)
    (hclosed : ((σ.after n).store.arena a).isActive = false)
    (hcheck : ((σ.after n).store.arena a).confinement.check thread = .ok ()) :
    o = .ok (.closed (.ok ⟨0, false⟩)) ∧
      σ.At i (n + 1) { store := (σ.after n).store, stack := base, focus := .handing o } ∧
      ∀ l, n ≤ l → l < m → (∃ move, σ l = .move i move) →
        (σ.after (l + 1)).store = (σ.after l).store := by
  obtain ⟨rfl, hat, hquiet⟩ := h.at_once (p := .ok (.closed (.ok ⟨0, false⟩))) rfl fun news => by
    show System.close _ thread a = _
    unfold System.close
    dsimp only
    rw [hcheck, hclosed]
    rfl
  refine ⟨rfl, hat, fun l hnl hlm hmove => ?_⟩
  obtain rfl | hlt := Nat.eq_or_lt_of_le hnl
  · exact hat.store.symm
  · exact hquiet l hlt hlm hmove

/-- An outcome that tells of disposals comes from the call that closes the arena. -/
theorem Calls.closes_of_reply {r : Except ArenaError ForeignArena.Closing}
    (h : σ.Calls i n m base (.close thread a) (.ok (.closed r)))
    (hr : (∃ k, r = .ok ⟨k, true⟩) ∨ ∃ e, r = .error (.disposal e)) : σ.Closes a n i base := by
  obtain ⟨news, hat⟩ := h.at_start rfl
  cases hcheck : ((σ.after n).store.arena a).confinement.check thread with
  | error e =>
    -- a thread that may not close the arena is told so
    have hrefused : ({ store := (σ.after n).store, stack := base, focus := .client news } :
        System).start (.close thread a) =
        System.reply { store := (σ.after n).store, stack := base, focus := .client news }
          (.closed (.error e)) := by
      show System.close _ thread a = _
      unfold System.close
      dsimp only
      rw [hcheck]
    rw [hrefused] at hat
    have hreply := h.returned (Nat.le_succ n) h.order hat rfl rfl
    cases hreply
    obtain ⟨owner, -, -, rfl⟩ := Confinement.check_eq_error hcheck
    obtain ⟨k, hk⟩ | ⟨e, he⟩ := hr
    · cases hk
    · cases he
  | ok _ =>
    cases hactive : ((σ.after n).store.arena a).isActive with
    | true => exact h.closes (.inl rfl) hactive hcheck
    | false =>
      have hreply := (h.idle hactive hcheck).1
      cases hreply
      obtain ⟨k, hk⟩ | ⟨e, he⟩ := hr
      · cases hk
      · cases he

/-- What it means that an arena is complete when calls return which close it.  The calls go from
    moment `n` to moment `m`. -/
structure ClosesComplete (σ : Schedule) (a : Nat) : Prop where
  /-- A call that returns that it has disposed of something, or failed to, has closed the
      arena. -/
  performing : ∀ i n m base thread r, σ.Calls i n m base (.close thread a) (.ok (.closed r)) →
    ((∃ k, r = .ok ⟨k, true⟩) ∨ ∃ e, r = .error (.disposal e)) → σ.Closes a n i base
  /-- When the call that has closed the arena returns, all was run. -/
  completed : ∀ i n m base w r, σ.Calls i n m base w (.ok r) → σ.Closes a n i base → σ.Completed a m
  /-- So it was when another call returns, if the one that has closed the arena has returned by
      then. -/
  afterwards : ∀ i n m base thread r j k l other w reply,
    σ.Calls i n m base (.close thread a) (.ok (.closed r)) →
    σ.Calls j k l other w (.ok reply) → σ.Closes a k j other → l ≤ m → σ.Completed a m
  /-- A call that finds the arena closed returns at once, and its strand does nothing in
      between. -/
  idle : ∀ i n m base thread o, σ.Calls i n m base (.close thread a) o →
    ((σ.after n).store.arena a).state = .closed →
    ((σ.after n).store.arena a).confinement.check thread = .ok () →
    o = .ok (.closed (.ok ⟨0, false⟩)) ∧
      σ.At i (n + 1) { store := (σ.after n).store, stack := base, focus := .handing o } ∧
      ∀ l, n ≤ l → l < m → (∃ move, σ l = .move i move) →
        (σ.after (l + 1)).store = (σ.after l).store

/-- **An arena is complete when the call returns that has closed it**, and from then on.  All
    other calls that close it are idle, and do not wait for that. -/
theorem closesComplete (σ : Schedule) (a : Nat) : σ.ClosesComplete a where
  performing i n m base thread r h hr := h.closes_of_reply hr
  completed i n m base w r h hcloses := h.completed hcloses
  afterwards i n m base thread r j k l other w reply _ h hcloses hlm :=
    (h.completed hcloses).mono (hcloses.done h.order) hlm
  idle i n m base thread o h hclosed hcheck := h.idle (by simp [Arena.isActive, hclosed]) hcheck

/-- A run in which an arena with two instances is closed, and then again from within the destroy
    routine of the first instance, and once more when all is done. -/
def closingInside : Schedule
  | 0 => .spawn
  | 1 => .move 0 (.operate (.openArena .main {}))
  | 2 => .move 0 (.operate (.takeOver .main ⟨1⟩ closedOne.type (.confined 0)))
  | 3 => .move 0 (.operate (.takeOver .main ⟨2⟩ closedOne.type (.confined 0)))
  | 4 => .move 0 (.start (.close .main 0))
  | 5 => .move 0 (.start (.close .main 0))
  | 7 => .move 0 (.answer (.ok .done))
  | 11 => .move 0 (.answer (.ok .done))
  | 16 => .move 0 (.start (.close .main 0))
  | _ => .move 0 .tick

/-- What waits while the destroy routine of the first instance runs. -/
def insideFirst : List Frame :=
  [.awaiting (.destroy .main closedOne.type ⟨1⟩), .destroying .main closedOne.disposal,
    .guarded closedOne.disposal,
    .sweeping .main 0 2 [] [{ closedOne.disposal with address := ⟨2⟩, flag := 1 }]]

theorem closingInside_outer : closingInside.Calls 0 4 16 [] (.close .main 0)
    (.ok (.closed (.ok ⟨2, true⟩))) := by
  refine ⟨rfl, ⟨none, rfl⟩, by omega, fun l hl hlm => ?_, _, rfl, rfl, rfl⟩
  obtain rfl | hlast : l = 15 ∨ l < 15 := by omega
  · exact within_of_handing rfl
  · interval_cases l
    all_goals exact within_of_stack rfl (List.cons_ne_nil _ _)

theorem closingInside_inner : closingInside.Calls 0 5 7 insideFirst (.close .main 0)
    (.ok (.closed (.ok ⟨0, false⟩))) := by
  refine ⟨rfl, ⟨none, rfl⟩, by omega, fun l hl hlm => ?_, _, rfl, rfl, rfl⟩
  obtain rfl : l = 6 := by omega
  exact within_of_handing rfl

theorem closesComplete_closingInside : closingInside.Closes 0 4 0 [] ∧
    closingInside.Completed 0 16 ∧ closingInside.Completed 0 18 ∧
    closingInside.At 0 6
      { store := (closingInside.after 5).store, stack := insideFirst,
        focus := .handing (.ok (.closed (.ok ⟨0, false⟩))) } := by
  have hlater : closingInside.Calls 0 16 18 [] (.close .main 0)
      (.ok (.closed (.ok ⟨0, false⟩))) := by
    refine ⟨rfl, ⟨_, rfl⟩, by omega, fun l hl hlm => ?_, _, rfl, rfl, rfl⟩
    obtain rfl : l = 17 := by omega
    exact within_of_handing rfl
  have hcomplete := closesComplete closingInside 0
  have hcloses := hcomplete.performing 0 4 16 [] .main _ closingInside_outer (.inl ⟨2, rfl⟩)
  exact ⟨hcloses, hcomplete.completed 0 4 16 [] _ _ closingInside_outer hcloses,
    hcomplete.afterwards 0 16 18 [] .main _ 0 4 16 [] _ _ hlater closingInside_outer hcloses
      (by omega),
    (hcomplete.idle 0 5 7 insideFirst .main _ closingInside_inner rfl rfl).2.1⟩

/-- Not every call that closes an arena and returns has seen all disposals run. -/
theorem not_completed_closingInside :
    ¬∀ (σ : Schedule) (a i n m : Nat) (base : List Frame) (thread : ThreadId)
        (closing : ForeignArena.Closing),
      ((σ.after n).store.arena a).confinement.check thread = .ok () →
      σ.Calls i n m base (.close thread a) (.ok (.closed (.ok closing))) → σ.Completed a m := by
  intro hall
  have hcompleted := hall closingInside 0 0 5 7 insideFirst .main ⟨0, false⟩ rfl closingInside_inner
  have hflag := hcompleted.flags { closedOne.disposal with address := ⟨2⟩, flag := 1 } (by decide)
  cases hflag

/-! ### Failures that keep a closing from running the rest -/

/-- What has not been run when the call returns that closes an arena is never run. -/
theorem Calls.attempted_stays (h : σ.Calls i n m base w o) (hcloses : σ.Closes a n i base) {k : Nat}
    (hmk : m ≤ k) : σ.attempted a k = σ.attempted a m := by
  induction hmk with
  | refl => rfl
  | @step k hmk ih =>
    by_cases hsame : σ.attempted a (k + 1) = σ.attempted a k
    · rw [hsame, ih]
    · -- a disposal is run only while the call is in progress
      obtain ⟨l, j, other, move, hother, -, -, hwithin⟩ := attempted_within hsame
      obtain ⟨rfl, rfl, rfl⟩ := hcloses.unique hother
      exact absurd (hwithin m h.order hmk) h.returns.not_within

/-- What it means that a failing disposal does not keep a closing from running the rest.  The
    calls go from moment `n` to moment `m`, and find the arena active. -/
structure FailuresContained (σ : Schedule) (a : Nat) : Prop where
  /-- Unless a payload is thrown that panics as it is dropped, the call returns, and all was
      run. -/
  completed : ∀ i n m base thread w o, w.Closes thread a → σ.Calls i n m base w o →
    ((σ.after n).store.arena a).state = .active →
    ((σ.after n).store.arena a).confinement.check thread = .ok () → σ.Tame i n m →
    (∃ r, o = .ok r) ∧ σ.Completed a m
  /-- If the call is left by a panic, then by that of dropping such a payload. -/
  escaped : ∀ i n m base thread w payload, w.Closes thread a →
    σ.Calls i n m base w (.error payload) →
    ((σ.after n).store.arena a).state = .active →
    ((σ.after n).store.arena a).confinement.check thread = .ok () →
    (∃ first : Payload, first.dropped? = some payload) ∧
      ∃ l first, n ≤ l ∧ l < m ∧ σ l = .move i (.answer (.error first)) ∧ first.dropped? ≠ none
  /-- What was not run then is never run. -/
  lost : ∀ i n m k base thread w o, w.Closes thread a → σ.Calls i n m base w o →
    ((σ.after n).store.arena a).state = .active →
    ((σ.after n).store.arena a).confinement.check thread = .ok () → m ≤ k →
    σ.attempted a k = σ.attempted a m

/-- **A failing disposal does not keep a closing from running the rest**, unless it panics with
    a payload that panics again as it is dropped. -/
theorem failuresContained (σ : Schedule) (a : Nat) : σ.FailuresContained a where
  completed i n m base thread w o hw h hstate hcheck htame := by
    have hactive := Arena.isActive_iff.mpr hstate
    -- the call goes through all of its list, and what it answers then is no panic
    obtain ⟨s, results, l, -, -, -, rfl⟩ := h.swept hw hactive hcheck htame
    obtain ⟨r, hr⟩ : ∃ r, w.answer results = .ok r := by
      obtain rfl | rfl := hw
      · exact ⟨_, rfl⟩
      · exact ⟨_, rfl⟩
    rw [hr] at h
    exact ⟨⟨r, hr⟩, h.completed (h.closes hw hactive hcheck)⟩
  escaped i n m base thread w payload hw h hstate hcheck := by
    have hactive := Arena.isActive_iff.mpr hstate
    obtain ⟨s, results, l, -, -, -, hr⟩ | ⟨l, raised, hnl, hlm, hcut, hr⟩ :=
      h.swept_or_cut hw hactive hcheck
    · obtain rfl | rfl := hw
      · cases hr
      · cases hr
    · cases hr
      refine ⟨hcut.raised, ?_⟩
      obtain ⟨news, hclient⟩ := h.client
      refine Classical.byContradiction fun hnone => hcut.not_tame hnl hclient ?_
      intro k hnk hkl first hact
      exact Classical.byContradiction fun hfirst => hnone ⟨k, first, hnk, by omega, hact, hfirst⟩
  lost i n m k base thread w o hw h hstate hcheck hmk :=
    h.attempted_stays (h.closes hw (Arena.isActive_iff.mpr hstate) hcheck) hmk

/-- A run in which an arena with two instances is closed.  The destroy routine of the first
    panics. -/
def closingFailing (payload : Payload) : Schedule
  | 0 => .spawn
  | 1 => .move 0 (.operate (.openArena .main {}))
  | 2 => .move 0 (.operate (.takeOver .main ⟨1⟩ closedOne.type (.confined 0)))
  | 3 => .move 0 (.operate (.takeOver .main ⟨2⟩ closedOne.type (.confined 0)))
  | 4 => .move 0 (.start (.close .main 0))
  | 5 => .move 0 (.answer (.error payload))
  | 9 => .move 0 (.answer (.ok .done))
  | _ => .move 0 .tick

/-- With a payload that can be dropped, the panic is one failure of the closing. -/
theorem closingFailing_boom : (closingFailing (.literal "boom")).Calls 0 4 14 [] (.close .main 0)
    (.ok (.closed (.error (.disposal ⟨2, [.destroyPanicked "Buffer" ⟨1⟩ "boom"]⟩)))) := by
  refine ⟨rfl, ⟨none, rfl⟩, by omega, fun l hl hlm => ?_, _, rfl, rfl, rfl⟩
  obtain rfl | hlast : l = 13 ∨ l < 13 := by omega
  · exact within_of_handing rfl
  · interval_cases l
    all_goals exact within_of_stack rfl (List.cons_ne_nil _ _)

/-- With one that panics as it is dropped, the closing is left by that panic. -/
theorem closingFailing_armed : (closingFailing .armed).Calls 0 4 11 [] (.close .main 0)
    (.error (.literal "payload destructor panicked")) := by
  refine ⟨rfl, ⟨none, rfl⟩, by omega, fun l hl hlm => ?_, _, rfl, rfl, rfl⟩
  obtain hlast | hlast : 9 ≤ l ∨ l < 9 := by omega
  · obtain rfl | rfl : l = 9 ∨ l = 10 := by omega
    · exact within_of_handing rfl
    · exact within_of_handing rfl
  · interval_cases l
    all_goals exact within_of_stack rfl (List.cons_ne_nil _ _)

theorem closingFailing_tame : (closingFailing (.literal "boom")).Tame 0 4 14 := by
  intro l hl hlm payload hact
  obtain rfl | hl5 : l = 5 ∨ l ≠ 5 := by omega
  · cases hact
    rfl
  · interval_cases l <;> first | exact absurd rfl hl5 | cases hact

theorem failuresContained_closingFailing :
    (closingFailing (.literal "boom")).Completed 0 14 ∧
      (∃ first : Payload, first.dropped? = some (.literal "payload destructor panicked")) ∧
      ∀ k, 11 ≤ k → (closingFailing .armed).attempted 0 k = [closedOne.disposal] := by
  have hcontained := failuresContained (closingFailing (.literal "boom")) 0
  have hescaped := failuresContained (closingFailing .armed) 0
  refine ⟨?_, ?_, fun k hk => ?_⟩
  · exact (hcontained.completed 0 4 14 [] .main _ _ (.inl rfl) closingFailing_boom rfl rfl
      closingFailing_tame).2
  · exact (hescaped.escaped 0 4 11 [] .main _ _ (.inl rfl) closingFailing_armed rfl rfl).1
  · exact hescaped.lost 0 4 11 k [] .main _ _ (.inl rfl) closingFailing_armed rfl rfl hk

/-- A payload that panics as it is dropped keeps a closing from running the rest. -/
theorem not_contained_closingFailing :
    ¬∀ (σ : Schedule) (a i n m : Nat) (base : List Frame) (thread : ThreadId) (w : Work)
        (o : Outcome), w.Closes thread a → σ.Calls i n m base w o →
      ((σ.after n).store.arena a).state = .active →
      ((σ.after n).store.arena a).confinement.check thread = .ok () → σ.Completed a m := by
  intro hall
  have hcompleted := hall (closingFailing .armed) 0 0 4 11 [] .main _ _ (.inl rfl)
    closingFailing_armed rfl rfl
  cases hcompleted.all

end ForeignArena.Schedule
