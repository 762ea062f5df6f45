import ForeignArena.Proofs.Arenas.Warnings
import ForeignArena.Proofs.Guarding
import ForeignArena.Proofs.Margins

namespace ForeignArena

/-!
# What is said on a disposal

An arena that runs a disposal warns if the destroy routine was not called, or did not return
normally, and does not warn if it did.  A closing gives its warnings itself.  A cleaner has two
frames for that: one for an object that others still hold, and one for a panic.

* `Disposal.Destroys` — a destroy routine that was called and has returned normally;
* `Disposal.failure?`, `Disposal.complaint?` — of what a closing and a cleaner warn;
* `Disposal.Verdict`, `Disposal.Course.verdict` — they warn of all failures, and only of them;
* `Schedule.RunsOver` — a disposal that was run over some frames;
* `Schedule.BeginsOver.warned`, `Schedule.BeginsOver.complained` — the one warning of each run.
-/

namespace Disposal

/-! ### Failures -/

/-- The destroy routine was called, and has returned normally in the end. -/
def Destroys (thread : ThreadId) (d : Disposal) (past : List Event) : Prop :=
  ∃ r, [.called (.destroy thread d.type d.address), .took (.ok r)] <:+ past

/-- The failure of a disposal that has some outcome, as a closing sees it. -/
def failure? (d : Disposal) : Outcome → Option DisposalError
  | .ok (.disposed (.error e)) => some e
  | .ok _ => none
  | .error payload => some (.destroyPanicked d.type.name d.address payload.message)

/-- What a cleaner says on a disposal that has some outcome. -/
def complaint? (thread : ThreadId) (c token : Nat) : Outcome → Option Happening
  | .ok (.disposed (.error e)) => some (.autoFailed thread c token e)
  | .ok _ => none
  | .error payload => some (.actionPanicked thread c token payload.message)

variable {thread : ThreadId} {d : Disposal} {past : List Event} {o : Outcome}

/-- A disposal that has ended has destroyed its object, or has found that others hold it, or one of
    its routines has panicked. -/
theorem Course.cases (h : d.Course thread past (some o)) :
    (d.Destroys thread past ∧ o = .ok (.disposed (.ok ()))) ∨
    (¬d.Destroys thread past ∧ ∃ count, 1 < count ∧
      answer? past = some (.ok (.count (some count))) ∧
      o = .ok (.disposed (.error (.unexpectedRetainCount d.type.name d.address count)))) ∨
    (¬d.Destroys thread past ∧ ∃ payload, .took (.error payload) ∈ past ∧ o = .error payload) := by
  cases h with
  | held count _ hcount =>
    refine .inr (.inl ⟨?_, count, hcount, rfl, rfl⟩)
    simp [Destroys, List.suffix_iff_eq_drop]
  | unanswered payload _ =>
    refine .inr (.inr ⟨?_, payload, by simp, rfl⟩)
    simp [Destroys, List.suffix_iff_eq_drop]
  | released count o =>
    cases o with
    | ok r => exact .inl ⟨⟨r, [_, _], rfl⟩, rfl⟩
    | error payload =>
      refine .inr (.inr ⟨?_, payload, by simp, rfl⟩)
      simp [Destroys, List.suffix_iff_eq_drop]
  | destroyed o =>
    cases o with
    | ok r => exact .inl ⟨⟨r, [], rfl⟩, rfl⟩
    | error payload =>
      refine .inr (.inr ⟨?_, payload, by simp, rfl⟩)
      simp [Destroys, List.suffix_iff_eq_drop]

/-- What is said on a disposal that has ended. -/
inductive Verdict (thread : ThreadId) (d : Disposal) (past : List Event) (o : Outcome) : Prop where
  | destroyed : d.Destroys thread past → d.failure? o = none →
    (∀ c token, complaint? thread c token o = none) → Verdict thread d past o
  | held (count : UInt64) : ¬d.Destroys thread past → 1 < count →
    answer? past = some (.ok (.count (some count))) →
    d.failure? o = some (.unexpectedRetainCount d.type.name d.address count) →
    (∀ c token, complaint? thread c token o =
      some (.autoFailed thread c token (.unexpectedRetainCount d.type.name d.address count))) →
    Verdict thread d past o
  | panicked (payload : Payload) : ¬d.Destroys thread past → .took (.error payload) ∈ past →
    d.failure? o = some (.destroyPanicked d.type.name d.address payload.message) →
    (∀ c token, complaint? thread c token o =
      some (.actionPanicked thread c token payload.message)) → Verdict thread d past o

/-- **Nothing is said on a disposal that has destroyed its object**, and on any other one why it
    has not. -/
theorem Course.verdict (h : d.Course thread past (some o)) : d.Verdict thread past o := by
  obtain ⟨hdestroys, rfl⟩ | ⟨hdestroys, count, hcount, hanswer, rfl⟩ |
    ⟨hdestroys, payload, htook, rfl⟩ := h.cases
  · exact .destroyed hdestroys rfl fun _ _ => rfl
  · exact .held count hdestroys hcount hanswer rfl fun _ _ => rfl
  · exact .panicked payload hdestroys htook rfl fun _ _ => rfl

/-- What the guard of a disposal hands to a closing says whether it has failed. -/
theorem Course.caught (h : d.Course thread past (some o))
    (hcalm : ∀ payload, o = .error payload → payload.dropped? = none) :
    ∃ r, d.caught o = .ok (.disposed r) ∧ failures [r] = (d.failure? o).toList := by
  obtain ⟨-, rfl⟩ | ⟨-, count, -, -, rfl⟩ | ⟨-, payload, -, rfl⟩ := h.cases
  · exact ⟨_, rfl, rfl⟩
  · exact ⟨_, rfl, rfl⟩
  · refine ⟨.error (.destroyPanicked d.type.name d.address payload.message), ?_, rfl⟩
    rw [Disposal.caught, hcalm payload rfl]

end Disposal

namespace Schedule

variable {σ : Schedule} {i n m l : Nat} {thread : ThreadId} {d : Disposal} {base low : List Frame}
  {o : Outcome} {s : System}

/-! ### Disposals that were run -/

/-- From moment `n` on strand `i` runs a disposal over some frames, which are given its outcome at
    moment `l`. -/
structure RunsOver (σ : Schedule) (i n l : Nat) (base : List Frame) (thread : ThreadId)
    (d : Disposal) (o : Outcome) : Prop where
  begins : σ.BeginsOver i n base thread d
  order : n < l
  takes : σ.Takes i l base o
  course : d.Course thread (σ.events i base.length n l) (some o)

/-- Strands stay. -/
theorem At.later (h : σ.At i n s) (hnm : n ≤ m) : ∃ t, σ.At i m t := by
  induction hnm with
  | refl => exact ⟨s, h⟩
  | step _ ih =>
    obtain ⟨t, ht⟩ := ih
    obtain ⟨move, -, hafter⟩ | hafter := ht.succ
    · exact ⟨_, hafter⟩
    · exact ⟨_, hafter⟩

/-- Work over some frames is work over the lower ones. -/
theorem Within.lower {f : Frame} (h : σ.Within i m (f :: base)) : σ.Within i m base := by
  obtain ⟨strand, hstrand, above, hstack, -⟩ := h
  refine ⟨strand, hstrand, above ++ [f], by rw [hstack, List.append_assoc]; rfl, fun hnil => ?_⟩
  exact absurd hnil (List.append_ne_nil_of_right_ne_nil _ (List.cons_ne_nil _ _))

/-- An outcome that was handed to some frames waits there until they are given it. -/
theorem At.given (h : σ.At i l s) (hstack : s.stack = base) (hfocus : s.focus = .handing o)
    (hlm : l ≤ m) (hleft : ¬σ.Within i m base) :
    ∃ j, l ≤ j ∧ j < m ∧ σ.Takes i j base o ∧
      ∀ x, l ≤ x → x ≤ j → ∃ u, σ.At i x u ∧ u.stack = base := by
  obtain ⟨t, ht⟩ := h.later hlm
  obtain ⟨j, p, hlj, hjm, hall, htakes, rfl⟩ := exists_takes
    (fun u => u.stack = base ∧ u.focus = .handing o) (fun p => p = o) (fun _ _ hu => hu)
    (fun _ _ hu => .inl ⟨hu.1, o, hu.2, rfl⟩) h ⟨hstack, hfocus⟩ hlm ht
    fun hwaits => hleft ⟨_, ht.strand, [], hwaits.1, fun _ => ⟨o, hwaits.2⟩⟩
  refine ⟨j, hlj, hjm, htakes, fun x hlx hxj => ?_⟩
  obtain ⟨u, hu, hbase, -⟩ := hall x hlx hxj
  exact ⟨u, hu, hbase⟩

/-- A disposal whose base was left behind was run over it, and has stayed over it until then. -/
theorem BeginsOver.exists_run (h : σ.BeginsOver i n base thread d) (hnm : n < m)
    (hleft : ¬σ.Within i m base) : ∃ l o, l < m ∧ σ.RunsOver i n l base thread d o ∧
      ∀ x, n < x → x ≤ l → ∃ u above, σ.At i x u ∧ u.stack = above ++ base := by
  obtain ⟨l, o, hnl, hlm, htakes, hpending, hcourse⟩ := h.exists_outcome hnm hleft
  refine ⟨l, o, hlm, ⟨h, hnl, htakes, hcourse⟩, fun x hnx hxl => ?_⟩
  obtain ⟨u, hu, hfollows⟩ := h.follows_until hnx fun y p hny hyx =>
    hpending y p hny (Nat.lt_of_lt_of_le hyx hxl)
  obtain ⟨above, habove, -⟩ := hfollows.within
  exact ⟨u, above, hu, habove⟩

/-! ### Closings -/

/-- A strand that has thrown no payload that panics as it is dropped is calm. -/
theorem Tame.calm (h : σ.Tame i 0 m) (hlm : l ≤ m) (hat : σ.At i l s) : s.Orderly True := by
  obtain ⟨strand, hstrand, rfl⟩ := hat
  exact orderly_stays (Nat.zero_le l) (fun _ => h.mono (Nat.le_refl 0) hlm)
    (fun _ hnone => by cases hnone) strand hstrand

variable {a k : Nat} {errors : List DisposalError} {todo : List Disposal}

/-- **A closing warns of a disposal that has failed, once**, and of no other. -/
theorem BeginsOver.warned
    (h : σ.BeginsOver i n (.guarded d :: .sweeping thread a k errors todo :: low) thread d)
    (hnm : n < m) (htame : σ.Tame i 0 m)
    (hleft : ¬σ.Within i m (.sweeping thread a k errors todo :: low)) :
    ∃ l j o, l < j ∧ j < m ∧
      σ.RunsOver i n l (.guarded d :: .sweeping thread a k errors todo :: low) thread d o ∧
      (∀ x, n < x → x ≤ j → σ.leaks a x = σ.leaks a (n + 1)) ∧
      σ.leaks a (j + 1) = σ.leaks a (n + 1) ++ (d.failure? o).toList.map (.leaked thread a) := by
  obtain ⟨l, o, hlm, hruns, hover⟩ := h.exists_run hnm fun hwithin => hleft hwithin.lower
  -- the guard contains a panic, and hands a result to the closing
  have hcalm (payload : Payload) (ho : o = .error payload) : payload.dropped? = none := by
    subst ho
    exact ((htame.calm (Nat.le_of_lt hlm) hruns.takes.ended).calm trivial payload rfl).1
  obtain ⟨r, hcaught, hfailure⟩ := hruns.course.caught hcalm
  have hresumed := hruns.takes.resumed
  rw [System.resume_guarded, hcaught] at hresumed
  obtain ⟨j, hlj, hjm, htakes, hwaits⟩ := hresumed.given rfl rfl hlm hleft
  -- up to then the frame of the closing has waited, with what had failed before
  have hcollected (x : Nat) (hnx : n < x) (hxj : x ≤ j) :
      σ.leaks a x = errors.map (.leaked thread a) := by
    rcases Nat.lt_or_ge l x with hlx | hxl
    · obtain ⟨u, hu, hstack⟩ := hwaits x hlx hxj
      have hmem : .sweeping thread a k errors todo ∈ u.stack := by
        rw [hstack]
        exact List.mem_cons_self ..
      exact (reported_of_sweeping hu.strand hmem).1
    · obtain ⟨u, above, hu, hstack⟩ := hover x hnx hxl
      have hmem : .sweeping thread a k errors todo ∈ u.stack := by simp [hstack]
      exact (reported_of_sweeping hu.strand hmem).1
  have hnl := hruns.order
  refine ⟨l, j, o, hlj, hjm, hruns, fun x hnx hxj => ?_, ?_⟩
  · rw [hcollected x hnx hxj, hcollected (n + 1) (Nat.lt_succ_self n) (by omega)]
  · rw [hcollected (n + 1) (Nat.lt_succ_self n) (by omega), ← hcollected j (by omega) (Nat.le_refl j),
      ← hfailure, leaks, ← htakes.resumed.store]
    exact System.leaks_resumeSweep _ thread a k errors todo r

/-! ### Cleaners -/

variable {c token : Nat}

/-- What a frame that reports a failure hands on to the action. -/
def passed : Outcome → Outcome
  | .ok _ => .ok .done
  | .error payload => .error payload

theorem resume_reporting (s : System) (thread : ThreadId) (c token : Nat) (o : Outcome) :
    (s.resume (.reporting thread c token) o).stack = s.stack ∧
      (s.resume (.reporting thread c token) o).focus = .handing (passed o) := by
  cases o with
  | error payload => exact ⟨rfl, rfl⟩
  | ok reply =>
    cases reply with
    | disposed result => cases result <;> exact ⟨rfl, rfl⟩
    | _ => exact ⟨rfl, rfl⟩

/-- Of the two frames of an action, one reports a failure and the other one a panic. -/
theorem report_reporting (thread : ThreadId) (c token : Nat) (o : Outcome) :
    ((Frame.reporting thread c token).report? o).toList ++
        ((Frame.running thread c token).report? (passed o)).toList =
      (Disposal.complaint? thread c token o).toList := by
  cases o with
  | error payload => rfl
  | ok reply =>
    cases reply with
    | disposed result => cases result <;> rfl
    | _ => rfl

/-- **A cleaner complains of a disposal that has failed, once**, and of no other. -/
theorem BeginsOver.complained
    (h : σ.BeginsOver i n (.reporting thread c token :: .running thread c token :: low) thread d)
    (hnm : n < m) (hleft : ¬σ.Within i m (.running thread c token :: low)) :
    ∃ l j o, l < j ∧ j < m ∧
      σ.RunsOver i n l (.reporting thread c token :: .running thread c token :: low) thread d o ∧
      (∀ x, x ≤ l → σ.told (.action c token) x = []) ∧
      ∀ x, j < x → σ.told (.action c token) x = (Disposal.complaint? thread c token o).toList := by
  obtain ⟨l, o, hlm, hruns, -⟩ := h.exists_run hnm fun hwithin => hleft hwithin.lower
  -- as long as both frames wait, nothing can have been told
  have hfirst : σ.told (.action c token) l = [] :=
    told_of_waiting hruns.takes.ended (by simp [waiting_cons, Frame.topic?, Topic.most])
  obtain ⟨hreported, hgiven⟩ := told_succ hruns.takes (x := .action c token) rfl
  obtain ⟨hstack, hfocus⟩ := resume_reporting
    { store := (σ.after l).store, stack := .running thread c token :: low, focus := .handing o }
    thread c token o
  obtain ⟨j, hlj, hjm, htakes, -⟩ := hruns.takes.resumed.given hstack hfocus hlm hleft
  have hstays : σ.told (.action c token) j = σ.told (.action c token) (l + 1) := by
    have hmargin := σ.margin_nonneg (.action c token) l
    refine told_eq (w := 1) hlj ?_ ?_
    · rw [Topic.most]
      omega
    · refine Nat.le_trans ?_ (waiting_le htakes.ended.strand (.action c token))
      simp [waiting_cons, Frame.topic?]
  obtain ⟨hended, hlast⟩ := told_succ htakes (x := .action c token) rfl
  have hnl := hruns.order
  refine ⟨l, j, o, hlj, hjm, hruns, fun x hxl => ?_, fun x hjx => ?_⟩
  · have hprefix := σ.pick_grows hxl (Happening.on? (.action c token))
    exact List.prefix_nil.mp (hfirst ▸ hprefix)
  · rw [← report_reporting thread c token o]
    have hall : σ.told (.action c token) (j + 1) =
        ((Frame.reporting thread c token).report? o).toList ++
          ((Frame.running thread c token).report? (passed o)).toList := by
      rw [hended, hstays, hreported, hfirst, List.nil_append]
    rw [← hall]
    have hmargin := σ.margin_nonneg (.action c token) l
    have hgrows := σ.margin_mono (.action c token) hlj
    refine told_eq (w := 0) hjx ?_ (Nat.zero_le _)
    rw [hstays] at hlast
    rw [Topic.most]
    omega

end Schedule

end ForeignArena
