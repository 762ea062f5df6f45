import ForeignArena.Proofs.Arenas.Confinement
import ForeignArena.Proofs.OneDisposal
import ForeignArena.Proofs.Turns
import ForeignArena.Proofs.Verdicts

namespace ForeignArena

/-!
# No failure is silent

Each disposal that an arena has run and that has not destroyed its object is reported to the
outside, once, and no other one is.  The report on a closing and the error of a drop agree with
these warnings, and what an arena loses as it is abandoned is told as well.

* `Happening.Worded` — the words of these reports;
* `Schedule.Sweeps.warned_later`, `Schedule.Calls.told` — what is said on a closing;
* `Schedule.Starts.abandons` — and on an arena that is abandoned;
* `Schedule.Audible`, `Schedule.audible` — all of this.
-/

/-- How the end of an arena and failures are reported to the outside. -/
inductive Happening.Worded : Happening → Record → Prop where
  | leaked (thread : ThreadId) (a : Nat) (e : DisposalError) : Worded (.leaked thread a e)
      ⟨.warn, "instance leaked during arena close", [("error", .text e.message)]⟩
  | autoFailed (thread : ThreadId) (c token : Nat) (e : DisposalError) :
    Worded (.autoFailed thread c token e)
      ⟨.warn, "auto arena failed to dispose instance", [("error", .text e.message)]⟩
  | actionPanicked (thread : ThreadId) (c token : Nat) (panic : String) :
    Worded (.actionPanicked thread c token panic)
      ⟨.warn, "cleanup action panicked; continuing",
        [("cleanable", .number token), ("panic", .text panic)]⟩
  | arenaClosed (thread : ThreadId) (a attempted failed : Nat) :
    Worded (.arenaClosed thread a attempted failed)
      ⟨.debug, "confined arena closed",
        [("attempted", .number attempted), ("failed", .number failed)]⟩
  | dropFailed (thread : ThreadId) (a : Nat) (e : ArenaError) : Worded (.dropFailed thread a e)
      ⟨.error, "confined arena dropped with disposal failures", [("error", .text e.message)]⟩
  | arenaAbandoned (thread : ThreadId) (a : Nat) (confinement : Confinement) (lost : Nat) :
    Worded (.arenaAbandoned thread a confinement lost)
      ⟨.warn, "confined arena dropped off its owning thread; pending instances leaked",
        [("owner", .text confinement.ownerText), ("leaked", .number lost)]⟩

/-- Nothing else is reported with these messages. -/
theorem Happening.record?_eq_some {e other : Happening} {r r' : Record} (h : other.Worded r')
    (hmessage : r.message = r'.message) : e.record? = some r ↔ e.Worded r := by
  constructor
  · intro hrecord
    -- an event with another message would need the one of some event above
    cases e <;> cases hrecord <;> first | constructor | (cases h <;> simp at hmessage)
  · intro hworded
    cases hworded <;> rfl

/-- What a call that has closed an arena says on the closing in the end: a drop has nobody to
    return failures to. -/
def Work.outcry (results : List (Except DisposalError Unit)) : Work → List Happening
  | drop thread a =>
    if failures results = [] then []
    else [.dropFailed thread a (.disposal ⟨results.length, failures results⟩)]
  | _ => []

/-- The frame of a drop says this when the report of the closing comes. -/
theorem Frame.report?_dropping (thread : ThreadId) (a : Nat)
    (results : List (Except DisposalError Unit)) :
    ((dropping thread a).report? (.ok (.closed (report results)))).toList =
      (Work.drop thread a).outcry results := by
  by_cases hnone : failures results = []
  · rw [report_of_failures_eq_nil hnone]
    exact (if_pos hnone).symm
  · rw [report_of_failures_ne_nil hnone]
    exact (if_neg hnone).symm

namespace Schedule

variable {σ : Schedule} {i n m l x a : Nat} {base : List Frame} {w : Work} {o : Outcome}
  {thread owner : ThreadId} {results : List (Except DisposalError Unit)} {s : System}

/-! ### Closings -/

/-- What a closing has said when it ends, it has said for ever. -/
theorem Sweeps.warned_later {low : List Frame}
    (h : σ.Sweeps i thread a (σ.accepted a n).length low (n + 1) (s.swap thread a) []
      (σ.accepted a n) results l) (hstore : s.store = (σ.after n).store)
    (hactive : ((σ.after n).store.arena a).isActive) (hlx : l ≤ x) :
    σ.leaks a x = (failures results).map (.leaked thread a) ∧
      σ.closures a x = [.arenaClosed thread a (σ.accepted a n).length (σ.leaks a x).length] := by
  obtain ⟨hnoLeaks, hnoClosures⟩ := reported_of_isActive hactive
  rw [leaks, ← hstore] at hnoLeaks
  rw [closures, ← hstore] at hnoClosures
  obtain ⟨hleaks, hclosures⟩ := h.warned ((s.leaks_swap thread a).trans hnoLeaks)
    ((s.closures_swap thread a).trans hnoClosures)
  rw [List.nil_append] at hleaks hclosures
  obtain ⟨hleaks', hclosures'⟩ := σ.reports_stay hlx (by rw [hclosures]; exact List.cons_ne_nil _ _)
  rw [hleaks', hclosures', hleaks, hclosures, List.length_map]
  exact ⟨rfl, rfl⟩

/-- A call that closes an arena is granted a frame for a drop and does not use it. -/
theorem Starts.silent (h : σ.Starts i n base (.close thread a))
    (hactive : ((σ.after n).store.arena a).isActive)
    (hcheck : ((σ.after n).store.arena a).confinement.check thread = .ok ()) (hnx : n < x) :
    σ.told (.drop a) x = [] := by
  obtain ⟨news, hclient⟩ := h.client
  let s : System := { store := (σ.after n).store, stack := base, focus := .client news }
  have hmove := margin_move (s := s) ⟨_, hclient, rfl⟩ h.started (.drop a)
  have hclose : (s.perform (.start (.close thread a))).margin (.drop a) = s.margin (.drop a) + 1 := by
    refine (System.close_margin s (.drop a) thread a hactive hcheck).trans ?_
    rw [if_pos rfl]
  have hbefore := σ.margin_nonneg (.drop a) n
  have hgrows : σ.margin (.drop a) (n + 1) ≤ σ.margin (.drop a) x := σ.margin_mono (.drop a) hnx
  -- an arena is closed once, so what is left is all that its drop could be granted
  refine told_eq_nil (w := 0) ?_ (Nat.zero_le _)
  rw [Topic.most]
  omega

/-- A call that drops an arena reports the failures of the closing. -/
theorem Calls.loud (h : σ.Calls i n m base (.drop thread a) o) (hlm : l ≤ m)
    (hstack : s.stack = .dropping thread a :: base)
    (hat : σ.At i l (s.reply (.closed (report results)))) (hmx : m ≤ x) :
    σ.told (.drop a) x = (Work.drop thread a).outcry results := by
  obtain ⟨j, -, hjm, htakes, -⟩ := hat.given hstack rfl hlm fun hwithin =>
    h.returns.not_within hwithin.lower
  -- until then the frame of the drop has waited
  have hbefore : σ.told (.drop a) j = [] :=
    told_of_waiting htakes.ended (by simp [waiting_cons, Frame.topic?, Topic.most])
  obtain ⟨hreported, hused⟩ := told_succ htakes (x := .drop a) rfl
  have hmargin := σ.margin_nonneg (.drop a) j
  have hjx : j + 1 ≤ x := Nat.le_trans hjm hmx
  rw [← Frame.report?_dropping, told_eq (w := 0) hjx ?_ (Nat.zero_le _), hreported, hbefore,
    List.nil_append]
  rw [Topic.most]
  omega

/-- What is said in the end by the call that closes an arena. -/
theorem Calls.told (h : σ.Calls i n m base w o) (hw : w.Closes thread a)
    (hactive : ((σ.after n).store.arena a).isActive)
    (hcheck : ((σ.after n).store.arena a).confinement.check thread = .ok ())
    (hsweeps : σ.Sweeps i thread a (σ.accepted a n).length (w.below base) (n + 1)
      (s.swap thread a) [] (σ.accepted a n) results l) (hlm : l ≤ m) (hmx : m ≤ x) :
    σ.told (.drop a) x = w.outcry results := by
  obtain ⟨t, hstack, hat⟩ := hsweeps.reported (by simp)
  obtain rfl | rfl := hw
  · exact h.starts.silent hactive hcheck (Nat.lt_of_lt_of_le h.order hmx)
  · exact h.loud hlm hstack hat hmx

/-! ### Abandoned arenas -/

/-- Nothing is said on the drop of an arena that was not closed. -/
theorem told_of_not_closed (h : ((σ.after x).store.arena a).state ≠ .closed) :
    σ.told (.drop a) x = [] := by
  have hnone : (σ.arenaView a x).closings = [] := by
    cases σ.arenaView_sound a x with
    | unknown _ _ _ _ hnone | active _ _ _ _ hnone | abandoned _ _ _ _ hnone => exact hnone
    | closing _ _ _ hclosed | closed _ _ hclosed => exact absurd hclosed h
  have hgrants : (σ.after x).store.history.grants (.drop a) = 0 := by
    rw [History.grants_drop]
    exact congrArg List.length hnone
  have hmargin := σ.margin_eq (.drop a) x
  have hnonneg := σ.margin_nonneg (.drop a) x
  exact List.eq_nil_of_length_eq_zero (by omega)

/-- **An arena that is dropped by another thread says how much it leaks**, and nothing else. -/
theorem Starts.abandons (h : σ.Starts i n base (.drop thread a))
    (hbound : ((σ.after n).store.arena a).confinement = .bound owner) (hthread : thread ≠ owner)
    (hactive : ((σ.after n).store.arena a).state = .active) (hnx : n < x) :
    σ.leaks a x = [] ∧
      σ.closures a x = [.arenaAbandoned thread a (.bound owner) (σ.accepted a n).length] ∧
      σ.told (.drop a) x = [] := by
  have hisActive := Arena.isActive_iff.mpr hactive
  obtain ⟨hnoLeaks, hnoClosures⟩ := reported_of_isActive hisActive
  have hstore : (σ.after (n + 1)).store = σ.abandon a n owner thread :=
    (h.at_once rfl (drop_abandons hbound hthread hactive)).store.symm
  have hleaks : σ.leaks a (n + 1) = [] := by
    rw [leaks, hstore]
    refine (History.leaks_cons ..).trans ?_
    rw [show (σ.after n).store.history.leaks a = [] from hnoLeaks]
    rfl
  have hclosures : σ.closures a (n + 1) =
      [.arenaAbandoned thread a (.bound owner) (σ.accepted a n).length] := by
    rw [closures, hstore, accepted_eq_pending hisActive, Array.length_toList]
    refine (History.closures_cons ..).trans ?_
    rw [show (σ.after n).store.history.closures a = [] from hnoClosures, Happening.closureOf?,
      if_pos rfl]
    rfl
  obtain ⟨hleaks', hclosures'⟩ :=
    σ.reports_stay hnx (by rw [hclosures]; exact List.cons_ne_nil _ _)
  exact ⟨hleaks'.trans hleaks, hclosures'.trans hclosures,
    told_of_not_closed (by simp [(abandoned_stays h hbound hthread hactive hnx).1])⟩

/-! ### No failure is silent -/

/-- What it means that no failure is silent. -/
structure Audible (σ : Schedule) : Prop where
  /-- With each act arenas run one registered disposal at most, over frames that wait for what
      becomes of it. -/
  runs : ∀ n, σ.turns (n + 1) = σ.turns n ∨
    ∃ i base thread e, σ.turns (n + 1) = σ.turns n ++ [e] ∧ e.RunsOver thread base ∧
      σ.BeginsOver i n base thread e.disposal
  /-- What there is to say on it: nothing if its destroy routine was called and has returned, and
      else the count that has kept it from that, or the panic. -/
  verdict : ∀ i n l base thread d o, σ.RunsOver i n l base thread d o →
    d.Verdict thread (σ.events i base.length n l) o
  /-- Unless a payload is thrown that panics as it is dropped, a closing says this, when the
      disposal is over, and nothing on the arena before. -/
  confined : ∀ i n m thread d a k errors todo low,
    σ.BeginsOver i n (.guarded d :: .sweeping thread a k errors todo :: low) thread d → n < m →
    σ.Tame i 0 m → ¬σ.Within i m (.sweeping thread a k errors todo :: low) →
    ∃ l j o, l < j ∧ j < m ∧
      σ.RunsOver i n l (.guarded d :: .sweeping thread a k errors todo :: low) thread d o ∧
      (∀ x, n < x → x ≤ j → σ.leaks a x = σ.leaks a (n + 1)) ∧
      σ.leaks a (j + 1) = σ.leaks a (n + 1) ++ (d.failure? o).toList.map (.leaked thread a)
  /-- A cleaner says this when the disposal is over, nothing on the token before, and nothing
      after. -/
  auto : ∀ i n m thread d c token low,
    σ.BeginsOver i n (.reporting thread c token :: .running thread c token :: low) thread d →
    n < m → ¬σ.Within i m (.running thread c token :: low) →
    ∃ l j o, l < j ∧ j < m ∧
      σ.RunsOver i n l (.reporting thread c token :: .running thread c token :: low) thread d o ∧
      (∀ x, x ≤ l → σ.told (.action c token) x = []) ∧
      ∀ x, j < x → σ.told (.action c token) x = (Disposal.complaint? thread c token o).toList
  /-- When the call returns that closes an active arena, there is one report on the closing, with
      the number of disposals and that of the warnings.  A drop reports the failures if there are
      any.  Nothing was said on the arena before, and nothing is said after. -/
  closing : ∀ i n m base w thread a o, w.Closes thread a → σ.Calls i n m base w o →
    ((σ.after n).store.arena a).state = .active →
    ((σ.after n).store.arena a).confinement.check thread = .ok () → σ.Tame i n m →
    σ.leaks a n = [] ∧ σ.closures a n = [] ∧ σ.told (.drop a) n = [] ∧
    ∃ (s : System) (results : List (Except DisposalError Unit)) (l : Nat),
      s.store = (σ.after n).store ∧ l ≤ m ∧
      σ.Sweeps i thread a (σ.accepted a n).length (w.below base) (n + 1) (s.swap thread a) []
        (σ.accepted a n) results l ∧ o = w.answer results ∧
      ∀ x, m ≤ x → σ.leaks a x = (failures results).map (.leaked thread a) ∧
        σ.closures a x = [.arenaClosed thread a (σ.accepted a n).length (σ.leaks a x).length] ∧
        σ.told (.drop a) x = w.outcry results
  /-- When another thread than the owner drops an active arena, there is one warning, with the
      number of disposals that are lost, and nothing else is said on the arena, ever. -/
  abandoned : ∀ i n x base thread owner a, σ.Starts i n base (.drop thread a) →
    ((σ.after n).store.arena a).confinement = .bound owner → thread ≠ owner →
    ((σ.after n).store.arena a).state = .active → n < x →
    σ.leaks a x = [] ∧
      σ.closures a x = [.arenaAbandoned thread a (.bound owner) (σ.accepted a n).length] ∧
      σ.told (.drop a) x = []
  /-- All this is reported to the outside, in words that nothing else has. -/
  worded : ∀ (e other : Happening) (r r' : Record), other.Worded r' → r.message = r'.message →
    (e.record? = some r ↔ e.Worded r)

/-- **No failure is silent.**  An arena that runs a disposal which does not destroy its object warns
    of it once, and the reports on the arena count these warnings. -/
theorem audible (σ : Schedule) : σ.Audible where
  runs n := σ.turns_succ n
  verdict i n l base thread d o h := h.course.verdict
  confined i n m thread d a k errors todo low h hnm htame hleft := h.warned hnm htame hleft
  auto i n m thread d c token low h hnm hleft := h.complained hnm hleft
  closing i n m base w thread a o hw h hstate hcheck htame := by
    have hactive := Arena.isActive_iff.mpr hstate
    obtain ⟨hnoLeaks, hnoClosures⟩ := reported_of_isActive hactive
    refine ⟨hnoLeaks, hnoClosures, told_of_not_closed (by simp [hstate]), ?_⟩
    obtain ⟨s, results, l, hstore, hlm, hsweeps, ho⟩ := h.swept hw hactive hcheck htame
    refine ⟨s, results, l, hstore, hlm, hsweeps, ho, fun x hmx => ?_⟩
    obtain ⟨hleaks, hclosures⟩ := hsweeps.warned_later hstore hactive (Nat.le_trans hlm hmx)
    exact ⟨hleaks, hclosures, h.told hw hactive hcheck hsweeps hlm hmx⟩
  abandoned i n x base thread owner a h hbound hthread hstate hnx :=
    h.abandons hbound hthread hstate hnx
  worded e other r r' h hmessage := Happening.record?_eq_some h hmessage

/-! ### Runs with failures -/

/-- A run in which an arena with two instances is dropped.  The destroy routine of the first
    panics. -/
def droppingFailing : Schedule
  | 0 => .spawn
  | 1 => .move 0 (.operate (.openArena .main {}))
  | 2 => .move 0 (.operate (.takeOver .main ⟨1⟩ closedOne.type (.confined 0)))
  | 3 => .move 0 (.operate (.takeOver .main ⟨2⟩ closedOne.type (.confined 0)))
  | 4 => .move 0 (.start (.drop .main 0))
  | 5 => .move 0 (.answer (.error (.literal "boom")))
  | 9 => .move 0 (.answer (.ok .done))
  | _ => .move 0 .tick

/-- A run in which the token of an object is cleaned that others still hold. -/
def cleaningHeld : Schedule
  | 0 => .spawn
  | 1 => .move 0 (.operate (.newType "Task" .reference false .supplied))
  | 2 => .move 0 (.operate (.openAuto .main { pollInterval := ⟨0, 5000000, by decide⟩ }))
  | 3 => .move 0 (.operate (.takeOver .main ⟨1⟩ lastHeld.type (.auto 0)))
  | 4 => .move 0 (.start (.clean .main 0 0))
  | 7 => .move 0 (.answer (.ok (.count (some 3))))
  | _ => .move 0 .tick

theorem droppingFailing_tame (i : Nat) : droppingFailing.Tame i 0 15 := by
  intro l _ hl payload hact
  obtain rfl | hl5 : l = 5 ∨ l ≠ 5 := by omega
  · cases hact
    rfl
  · interval_cases l <;> first | exact absurd rfl hl5 | cases hact

theorem droppingFailing_calls :
    droppingFailing.Calls 0 4 15 [] (.drop .main 0) (.ok .done) := by
  refine ⟨rfl, ⟨none, rfl⟩, by omega, fun l hl hlm => ?_, _, rfl, rfl, rfl⟩
  obtain rfl | hlast : l = 14 ∨ l < 14 := by omega
  · exact within_of_handing rfl
  · interval_cases l
    all_goals exact within_of_stack rfl (List.cons_ne_nil _ _)

/-- Where no strand has any frames, no frame waits. -/
theorem not_within_of_idle {f : Frame} (h : (σ.after n).frames = []) :
    ¬σ.Within i n (f :: base) := by
  rintro ⟨strand, hstrand, above, hstack, -⟩
  have hmem : f ∈ (σ.after n).frames :=
    List.mem_flatMap.mpr ⟨strand, List.mem_of_getElem? hstrand, by simp [hstack]⟩
  rw [h] at hmem
  cases hmem

/-- The failure of the first instance of `droppingFailing`. -/
def boom : DisposalError := .destroyPanicked "Buffer" ⟨1⟩ "boom"

theorem audible_droppingFailing :
    (∃ i l base thread o, droppingFailing.RunsOver i 4 l base thread closedOne.disposal o ∧
      closedOne.disposal.Verdict thread (droppingFailing.events i base.length 4 l) o) ∧
    (∀ x, 15 ≤ x → droppingFailing.leaks 0 x = [.leaked .main 0 boom] ∧
      droppingFailing.closures 0 x = [.arenaClosed .main 0 2 1] ∧
      droppingFailing.told (.drop 0) x = [.dropFailed .main 0 (.disposal ⟨2, [boom]⟩)]) ∧
    (∀ x, 13 ≤ x → cleaningHeld.told (.action 0 0) x =
      [.autoFailed .main 0 0 (.unexpectedRetainCount "Task" ⟨1⟩ 3)]) ∧
    ∀ x, 7 < x → strayUse.closures 0 x =
      [.arenaAbandoned (.worker "stray") 0 (.bound .main) 1] := by
  have hdropping := audible droppingFailing
  have hcleaning := audible cleaningHeld
  refine ⟨?_, fun x hx => ?_, fun x hx => ?_, fun x hx => ?_⟩
  · obtain hsame | ⟨i, base, thread, e, hturns, hover, hbegins⟩ := hdropping.runs 4
    · cases hsame
    · cases hturns
      cases hover with
      | confined a k errors todo d below =>
        obtain ⟨l, -, o, -, -, hruns, -⟩ := hdropping.confined i 4 15 _ _ _ _ _ _ _ hbegins
          (by decide) (droppingFailing_tame i) (not_within_of_idle rfl)
        exact ⟨i, l, _, _, o, hruns, hdropping.verdict _ _ _ _ _ _ _ hruns⟩
  · obtain ⟨-, -, -, s, results, l, -, -, -, -, hall⟩ := hdropping.closing 0 4 15 [] _ .main 0 _
      (.inr rfl) droppingFailing_calls rfl rfl ((droppingFailing_tame 0).mono (by decide) (by decide))
    obtain ⟨hleaks, hclosures, htold⟩ := hall x hx
    obtain ⟨hleaks', -, htold'⟩ := hall 15 (Nat.le_refl 15)
    have hboom : droppingFailing.leaks 0 x = [.leaked .main 0 boom] :=
      hleaks.trans (hleaks'.symm.trans rfl)
    refine ⟨hboom, ?_, htold.trans (htold'.symm.trans rfl)⟩
    rw [hclosures, hboom]
    rfl
  · obtain hsame | ⟨i, base, thread, e, hturns, hover, hbegins⟩ := hcleaning.runs 5
    · cases hsame
    · cases hturns
      cases hover with
      | auto c token d below =>
        obtain ⟨l, j, o, -, hj, -, -, hall⟩ := hcleaning.auto i 5 13 _ _ _ _ _ hbegins (by decide)
          (not_within_of_idle rfl)
        exact (hall x (Nat.lt_of_lt_of_le hj hx)).trans ((hall 13 hj).symm.trans rfl)
  · obtain ⟨-, hclosures, -⟩ := (audible strayUse).abandoned 1 7 x [] _ .main 0 ⟨rfl, _, rfl⟩ rfl
      (by decide) rfl hx
    exact hclosures

end Schedule

end ForeignArena
