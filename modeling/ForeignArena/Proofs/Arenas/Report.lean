import ForeignArena.Proofs.Arenas.Completion
import ForeignArena.Proofs.Arenas.Isolation

namespace ForeignArena.Schedule

/-!
# What a closing reports

The call that closes an arena counts the disposals, and reports on each that has failed.

* `Schedule.Calls.reported` — the report, disposal by disposal;
* `Schedule.world`, `Schedule.visits` — a closing that a library serves;
* `Schedule.Reports`, `Schedule.reports` — all of this.
-/

variable {σ : Schedule} {a i n m : Nat} {base : List Frame} {o : Outcome} {thread : ThreadId}

/-! ### Reports -/

/-- An outcome tells of the results of disposals: of their number if none has failed, else of
    all failures. -/
structure Tells (o : Outcome) (results : List (Except DisposalError Unit)) : Prop where
  succeeded : (∀ r ∈ results, r = .ok ()) → o = .ok (.closed (.ok ⟨results.length, true⟩))
  failed : (∃ r ∈ results, r ≠ .ok ()) → ∃ e : FailedClosing,
    o = .ok (.closed (.error (.disposal e))) ∧ e.attempted = results.length ∧
      e.failures = failures results ∧ e.leaked = (failures results).map (·.address) ∧
      e.failures.length ≤ e.attempted ∧ e.disposed = successes results

theorem tells_report (results : List (Except DisposalError Unit)) :
    Tells (.ok (.closed (report results))) results where
  succeeded hall := by
    rw [report_of_failures_eq_nil (failures_eq_nil.mpr hall)]
  failed hsome := by
    have hfailures : failures results ≠ [] := by
      intro hnil
      obtain ⟨r, hr, hne⟩ := hsome
      exact hne (failures_eq_nil.mp hnil r hr)
    have hlength := length_failures results
    refine ⟨⟨results.length, failures results⟩, ?_, rfl, rfl, rfl, ?_, disposed_report results⟩
    · rw [report_of_failures_ne_nil hfailures]
    · show (failures results).length ≤ results.length
      omega

/-- All that an arena has accepted when it is closed is marked when the closing returns. -/
theorem Calls.marked {r : Reply} (h : σ.Calls i n m base (.close thread a) (.ok r))
    (hactive : ((σ.after n).store.arena a).isActive)
    (hcheck : ((σ.after n).store.arena a).confinement.check thread = .ok ()) {d : Disposal}
    (hd : d ∈ σ.accepted a n) : (σ.after m).store.isDestroyed d.flag = true := by
  have hgrows := (σ.arenaView_grows a (Nat.le_of_lt h.order)).1
  exact (h.completed (h.closes (.inl rfl) hactive hcheck)).flags d (hgrows.subset hd)

/-! ### Closings that a library serves -/

variable {W W' : Type}

/-- The world in which a closing begins. -/
def world (σ : Schedule) (thread : ThreadId) (a n : Nat) (w : W) : World W :=
  ⟨(((σ.after n).system {}).swap thread a).store, w⟩

/-- What becomes of the disposals of an arena if it is closed at moment `n`, where a library
    answers. -/
def visits (σ : Schedule) (lib : Library W) (thread : ThreadId) (a n : Nat) (w : W) : List Visit :=
  (lib.sweep thread a (σ.accepted a n) (σ.world thread a n w)).1

end Schedule

/-- The disposals at some place of two lists are alike: each shares nothing with the others of
    its list, and they find their part of the foreign state alike. -/
def Library.Alike {W W' : Type} (lib : Library W) (lib' : Library W') (thread : ThreadId)
    (todo todo' : List Disposal) (x : World W) (x' : World W') (j : Nat) : Prop :=
  todo[j]? = todo'[j]? ∧
    ∃ (V : Type) (view : Foreign W → V) (view' : Foreign W' → V)
      (conduct : Request → V → Outcome × V),
      lib.Apart thread view conduct todo j ∧ lib'.Apart thread view' conduct todo' j ∧
        view x.foreign = view' x'.foreign

namespace Schedule

/-- What it means that a closing reports on all disposals.  The calls go from moment `n` to
    moment `m`, and find the arena active. -/
structure Reports (σ : Schedule) (a : Nat) : Prop where
  /-- Unless a payload is thrown that panics as it is dropped, the call runs all that the arena
      has accepted, each disposal in the state that the one before has left, and tells of the
      results. -/
  tells : ∀ i n m base thread o, σ.Calls i n m base (.close thread a) o →
    ((σ.after n).store.arena a).state = .active →
    ((σ.after n).store.arena a).confinement.check thread = .ok () → σ.Tame i n m →
    ∃ (s : System) (results : List (Except DisposalError Unit)) (l : Nat),
      s.store = (σ.after n).store ∧ l ≤ m ∧
      σ.Sweeps i thread a (σ.accepted a n).length base (n + 1) (s.swap thread a) []
        (σ.accepted a n) results l ∧
      results.length = (σ.accepted a n).length ∧ Tells o results
  /-- Then all of them are marked. -/
  marked : ∀ i n m base thread o, σ.Calls i n m base (.close thread a) o →
    ((σ.after n).store.arena a).state = .active →
    ((σ.after n).store.arena a).confinement.check thread = .ok () → σ.Tame i n m →
    ∀ d ∈ σ.accepted a n, (σ.after m).store.isDestroyed d.flag = true
  /-- Where a library answers, the call returns.  It has visited each disposal, tells of what
      has become of them, and has called the routines one after the other. -/
  returns : ∀ {W : Type} (lib : Library W) (w : W) (i n : Nat) (base : List Frame)
    (news : Option Outcome) (thread : ThreadId),
    (σ.after n).strands[i]? = some ⟨base, .client news⟩ →
    ((σ.after n).store.arena a).state = .active →
    ((σ.after n).store.arena a).confinement.check thread = .ok () →
    ∃ (o : Outcome) (store : Store) (own : W),
      lib.Drives (((σ.after n).system ⟨base, .client news⟩).start (.close thread a), w)
        (({ store, stack := base, focus := .client (some o) } : System), own) ∧
      List.Forall₂ (fun d visit => ∀ e, visit.result = .error e → e.Names d) (σ.accepted a n)
        (σ.visits lib thread a n w) ∧
      Tells o ((σ.visits lib thread a n w).map (·.result)) ∧
      store.history.calls =
        (σ.after n).store.history.calls ++ (σ.visits lib thread a n w).flatMap (·.calls)
  /-- If all disposals but one are alike in two closings, then all but this one call the same
      routines and have the same results. -/
  isolated : ∀ {W W' : Type} (lib : Library W) (lib' : Library W') (τ : Schedule) (b i n m : Nat)
    (thread : ThreadId) (w : W) (w' : W'),
    (∀ j, j ≠ i → lib.Alike lib' thread (σ.accepted a n) (τ.accepted b m) (σ.world thread a n w)
      (τ.world thread b m w') j) →
    ∀ j, j ≠ i → (σ.visits lib thread a n w)[j]? = (τ.visits lib' thread b m w')[j]?

/-- **A closing reports on all disposals**, each of which has run in what the one before has
    left.  One that shares nothing with the others does not notice how they fail. -/
theorem reports (σ : Schedule) (a : Nat) : σ.Reports a where
  tells i n m base thread o h hstate hcheck htame := by
    have hactive := Arena.isActive_iff.mpr hstate
    obtain ⟨s, results, l, hstore, hlm, hsweeps, rfl⟩ := h.swept (.inl rfl) hactive hcheck htame
    exact ⟨s, results, l, hstore, hlm, hsweeps, hsweeps.length, tells_report results⟩
  marked i n m base thread o h hstate hcheck htame d hd := by
    have hactive := Arena.isActive_iff.mpr hstate
    obtain ⟨s, results, l, -, -, -, rfl⟩ := h.swept (.inl rfl) hactive hcheck htame
    exact h.marked hactive hcheck hd
  returns {W} lib w i n base news thread hstrand hstate hcheck := by
    have hactive := Arena.isActive_iff.mpr hstate
    have hdrives := lib.drives_close (s := (σ.after n).system ⟨base, .client news⟩) (w := w) thread
      rfl (σ.grounded n i hstrand) hactive hcheck
    dsimp only at hdrives
    -- an active arena holds all that it has accepted, in order
    have hpending : (((σ.after n).system ⟨base, .client news⟩).store.arena a).pending.toList =
        σ.accepted a n := (accepted_eq_pending hactive).symm
    rw [hpending] at hdrives
    refine ⟨_, _, _, hdrives, lib.sweep_names thread _ a _, tells_report _, ?_⟩
    have hcalls := lib.calls_sweep thread (σ.world thread a n w) a (σ.accepted a n)
    have hworld : (σ.world thread a n w).calls = (σ.after n).store.history.calls :=
      (History.pick_cons _ _ _).trans (List.append_nil _)
    rw [hworld] at hcalls
    refine Eq.trans ?_ hcalls
    exact (History.pick_cons _ _ _).trans (List.append_nil _)
  isolated lib lib' τ b i n m thread w w' halike j hj := by
    obtain ⟨hsame, V, view, view', conduct, h, h', hview⟩ := halike j hj
    exact Library.visit_isolated h h' hsame hview a b

/-- A library without a state, whose destroy routines may panic. -/
def failing (panics : Address → Option String) : Library Unit where
  respond r _ :=
    match r with
    | .destroy _ _ address =>
      match panics address with
      | some text => (.error (.literal text), ())
      | none => (.ok .done, ())
    | r => (r.idle, ())
  admits r _ := by
    cases r with
    | destroy _ _ address => dsimp only; split <;> rfl
    | _ => rfl
  droppable r _ payload h := by
    cases r with
    | destroy _ _ address =>
      dsimp only at h
      split at h
      · cases h
        rfl
      · cases h
    | _ => cases h

/-- Of the two instances of `closingFailing`, the first fails. -/
def bombed (address : Address) : Option String := if address = ⟨1⟩ then some "boom" else none

/-- The second of them shares nothing with the first, in whatever way that may fail. -/
theorem apart_failing (panics : Address → Option String) (h : panics ⟨2⟩ = none) :
    (failing panics).Apart .main (fun _ => ()) (fun r _ => (r.idle, ()))
      ((closingFailing (.literal "boom")).accepted 0 4) 1 where
  own d hd r hr x := by
    obtain rfl : { closedOne.disposal with address := ⟨2⟩, flag := 1 } = d := Option.some.inj hd
    refine ⟨?_, rfl⟩
    obtain rfl | rfl := hr
    · rfl
    · show ((failing panics).respond _ _).1 = _
      dsimp only [failing]
      rw [h]
      rfl
  others _ _ _ _ _ _ _ := rfl

theorem reports_closingFailing :
    (∃ results, results.length = 2 ∧
      failures results = [.destroyPanicked "Buffer" ⟨1⟩ "boom"]) ∧
    ((closingFailing (.literal "boom")).after 14).store.isDestroyed 0 = true ∧
    (∃ (o : Outcome) (store : Store), (failing bombed).Drives
      ((((closingFailing (.literal "boom")).after 4).system {}).start (.close .main 0), ())
      (({ store, focus := .client (some o) } : System), ())) ∧
    ((closingFailing (.literal "boom")).visits (failing bombed) .main 0 4 ())[1]? =
      ((closingFailing (.literal "boom")).visits (failing fun _ => none) .main 0 4 ())[1]? := by
  have hreports := reports (closingFailing (.literal "boom")) 0
  refine ⟨?_, ?_, ?_, ?_⟩
  · obtain ⟨s, results, l, -, -, -, hlength, htells⟩ := hreports.tells 0 4 14 [] .main _
      closingFailing_boom rfl rfl closingFailing_tame
    refine ⟨results, hlength, ?_⟩
    have hsome : ∃ r ∈ results, r ≠ .ok () := by
      refine Classical.byContradiction fun hnone => ?_
      have hok := htells.succeeded fun r hr =>
        Classical.byContradiction fun hne => hnone ⟨r, hr, hne⟩
      cases hok
    obtain ⟨e, he, -, hfailures, -⟩ := htells.failed hsome
    cases he
    exact hfailures.symm
  · exact hreports.marked 0 4 14 [] .main _ closingFailing_boom rfl rfl closingFailing_tame
      closedOne.disposal (List.mem_cons_self ..)
  · obtain ⟨o, store, own, hdrives, -⟩ :=
      hreports.returns (failing bombed) () 0 4 [] none .main rfl rfl rfl
    exact ⟨o, store, hdrives⟩
  · refine hreports.isolated (failing bombed) (failing fun _ => none)
      (closingFailing (.literal "boom")) 0 0 4 4 .main () () (fun j hj => ?_) 1 (by decide)
    match j with
    | 0 => exact absurd rfl hj
    | 1 => exact ⟨rfl, Unit, _, _, _, apart_failing bombed rfl, apart_failing _ rfl, rfl⟩
    | j + 2 =>
      -- there is no other disposal
      refine ⟨rfl, Unit, fun _ => (), fun _ => (), fun r _ => (r.idle, ()), ?_, ?_, rfl⟩
      · exact ⟨fun d hd => (by cases hd), fun _ _ _ _ _ _ _ => rfl⟩
      · exact ⟨fun d hd => (by cases hd), fun _ _ _ _ _ _ _ => rfl⟩

end ForeignArena.Schedule
