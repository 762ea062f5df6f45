import ForeignArena.Proofs.Arenas.ClosedOnce
import ForeignArena.Proofs.Flags
import ForeignArena.Proofs.Following
import ForeignArena.Proofs.Panics

namespace ForeignArena

/-!
# The disposals of a closing, one by one

A closing runs one disposal after the other, each in the state in which the one before has
left things, and collects what has become of them.  It comes to the end of its list, whatever
the disposals do, unless it is cut short by a payload that panics as it is dropped.

* `failures`, `report` — what a closing makes of the results of its disposals;
* `Schedule.Disposes` — one disposal, with its panics contained;
* `Schedule.Sweeps` — a closing as the sequence of its disposals;
* `Schedule.exists_sweeps` — a closing that comes to an end is such a sequence, or was cut
  short (`Schedule.Cut`);
* `Schedule.Calls.swept_or_cut`, `Schedule.Calls.swept` — and this is what the call that
  closes an arena returns.
-/

/-! ### Reports -/

/-- The failures among the results of disposals, in their order. -/
def failures (results : List (Except DisposalError Unit)) : List DisposalError :=
  results.filterMap fun
    | .ok _ => none
    | .error e => some e

/-- What a closing says on the results of its disposals. -/
def report (results : List (Except DisposalError Unit)) : Except ArenaError Closing :=
  if (failures results).isEmpty then .ok ⟨results.length, true⟩
  else .error (.disposal ⟨results.length, failures results⟩)

/-- The number of results that are not failures. -/
def successes (results : List (Except DisposalError Unit)) : Nat :=
  results.countP fun
    | .ok _ => true
    | .error _ => false

theorem failures_append (results others : List (Except DisposalError Unit)) :
    failures (results ++ others) = failures results ++ failures others :=
  List.filterMap_append

theorem length_failures (results : List (Except DisposalError Unit)) :
    successes results + (failures results).length = results.length := by
  induction results with
  | nil => rfl
  | cons r rest ih =>
    unfold successes failures at ih ⊢
    cases r with
    | ok _ =>
      rw [List.countP_cons, List.filterMap_cons, List.length_cons, ← ih]
      simp only [ite_true]
      omega
    | error e =>
      rw [List.countP_cons, List.filterMap_cons, List.length_cons, List.length_cons, ← ih]
      simp only [Bool.false_eq_true, ite_false]
      omega

/-- The error by which a closing reports failures counts them as it should. -/
theorem disposed_report (results : List (Except DisposalError Unit)) :
    (⟨results.length, failures results⟩ : FailedClosing).disposed = successes results := by
  have hlength := length_failures results
  show results.length - (failures results).length = successes results
  omega

theorem failures_eq_nil {results : List (Except DisposalError Unit)} :
    failures results = [] ↔ ∀ r ∈ results, r = .ok () := by
  rw [failures, List.filterMap_eq_nil_iff]
  refine forall₂_congr fun r _ => ?_
  cases r <;> simp

theorem report_of_failures_eq_nil {results : List (Except DisposalError Unit)}
    (h : failures results = []) : report results = .ok ⟨results.length, true⟩ := by
  rw [report, h]
  rfl

theorem report_of_failures_ne_nil {results : List (Except DisposalError Unit)}
    (h : failures results ≠ []) :
    report results = .error (.disposal ⟨results.length, failures results⟩) := by
  rw [report, if_neg (by simpa using h)]

namespace System

/-- A closing takes note of the result of a disposal. -/
def record (s : System) (thread : ThreadId) (a : Nat) : Except DisposalError Unit → System
  | .ok _ => s
  | .error e => s.note (.leaked thread a e)

variable (s : System) (thread : ThreadId) (a k : Nat) (done : List (Except DisposalError Unit))

@[simp] theorem stack_record (r : Except DisposalError Unit) :
    (s.record thread a r).stack = s.stack := by
  cases r <;> rfl

/-- A closing goes on in the state that a disposal has left. -/
theorem resumeSweep_eq (r : Except DisposalError Unit) (todo : List Disposal) :
    s.resumeSweep thread a k (failures done) todo r =
      (s.record thread a r).sweep thread a k (failures (done ++ [r])) todo := by
  rw [failures_append]
  cases r with
  | ok _ =>
    show s.sweep thread a k (failures done) todo = _
    rw [show failures [.ok ()] = [] from rfl, List.append_nil]
    rfl
  | error e => rfl

/-- A closing that has nothing more to do reports on what it has done. -/
theorem sweep_nil (hk : k = done.length) :
    s.sweep thread a k (failures done) [] =
      (s.note (.arenaClosed thread a k (failures done).length)).reply (.closed (report done)) := by
  unfold sweep report
  dsimp only
  rw [hk]
  split <;> rfl

end System

namespace Schedule

variable {σ : Schedule} {i n m k a : Nat} {thread : ThreadId} {low base : List Frame}

/-! ### The sequence of disposals -/

/-- From moment `n` to moment `m` strand `i` runs a disposal that it has turned to in some
    state, with its panics contained, and the disposal has a result. -/
structure Disposes (σ : Schedule) (i n m : Nat) (s : System) (thread : ThreadId) (d : Disposal)
    (r : Except DisposalError Unit) : Prop where
  begun : σ.At i n (s.disposeGuarded thread d)
  runs : σ.Runs i n m .disposed s.stack (.ok (.disposed r))

/-- What a disposal has left when it has ended at moment `m`. -/
def left (σ : Schedule) (m : Nat) (low : List Frame) (r : Except DisposalError Unit) : System :=
  { store := (σ.after m).store, stack := low, focus := .handing (.ok (.disposed r)) }

/-- From moment `n` to moment `m` strand `i` goes through the rest of a closing over some
    frames: in a given state, with some disposals done and others to do, which come to have
    results.  Each disposal runs in the state that the one before has left. -/
inductive Sweeps (σ : Schedule) (i : Nat) (thread : ThreadId) (a k : Nat) (low : List Frame) :
    Nat → System → List (Except DisposalError Unit) → List Disposal →
      List (Except DisposalError Unit) → Nat → Prop where
  | ended {n : Nat} {s : System} {done : List (Except DisposalError Unit)} :
    s.stack = low → σ.At i n (s.sweep thread a k (failures done) []) →
    Sweeps σ i thread a k low n s done [] [] n
  | next {n l m : Nat} {s : System} {done results : List (Except DisposalError Unit)}
      {d : Disposal} {rest : List Disposal} {r : Except DisposalError Unit} :
    s.stack = low →
    σ.Disposes i n l ((s.note (.attempting thread a d)).push
      (.sweeping thread a k (failures done) rest)) thread d r →
    Sweeps σ i thread a k low (l + 1) ((σ.left l low r).record thread a r) (done ++ [r]) rest
      results m →
    Sweeps σ i thread a k low n s done (d :: rest) (r :: results) m

variable {s : System} {done results : List (Except DisposalError Unit)} {todo : List Disposal}

/-- Every disposal has a result. -/
theorem Sweeps.length (h : σ.Sweeps i thread a k low n s done todo results m) :
    results.length = todo.length := by
  induction h with
  | ended => rfl
  | next _ _ _ ih => rw [List.length_cons, List.length_cons, ih]

theorem Sweeps.order (h : σ.Sweeps i thread a k low n s done todo results m) : n ≤ m := by
  induction h with
  | ended => exact Nat.le_refl _
  | next _ hdisposes _ ih => exact Nat.le_trans hdisposes.runs.order (Nat.le_of_succ_le ih)

/-- At its end the closing reports on all results. -/
theorem Sweeps.reported (h : σ.Sweeps i thread a k low n s done todo results m)
    (hk : k = done.length + todo.length) :
    ∃ t : System, t.stack = low ∧ σ.At i m (t.reply (.closed (report (done ++ results)))) := by
  induction h with
  | @ended n s done hstack hat =>
    rw [System.sweep_nil s thread a k done hk] at hat
    rw [List.append_nil]
    exact ⟨s.note (.arenaClosed thread a k (failures done).length), hstack, hat⟩
  | @next n l m s done results d rest r _ _ _ ih =>
    rw [List.append_cons]
    refine ih ?_
    rw [hk, List.length_append, List.length_cons, List.length_singleton]
    omega

/-- A panic has come to the frame of a closing, where it is not contained, and the strand passes
    it on at moment `l`. -/
def Cut (σ : Schedule) (i l a : Nat) (low : List Frame) (payload : Payload) : Prop :=
  ∃ thread k done rest,
    σ.Takes i l (.sweeping thread a k (failures done) rest :: low) (.error payload)

/-- **A closing goes through all its disposals**, if it comes to an end and is not cut short by
    a panic. -/
theorem exists_sweeps {t : System} (hstack : s.stack = low)
    (hat : σ.At i n (s.sweep thread a k (failures done) todo)) (hnm : n ≤ m) (ht : σ.At i m t)
    (hend : ¬t.Serves .closed low) :
    (∃ results l, l ≤ m ∧ σ.Sweeps i thread a k low n s done todo results l) ∨
      ∃ l payload, n ≤ l ∧ l < m ∧ σ.Cut i l a low payload := by
  -- on the disposals that are still to do, for whatever moment and state the closing is in
  induction todo generalizing n s done with
  | nil => exact .inl ⟨[], n, hnm, .ended hstack hat⟩
  | cons d rest ih =>
    have hserves := System.sweep_cons_serves thread d a k (failures done) rest hstack
    obtain ⟨l, o, hlm, hruns⟩ := exists_runs hat hserves hnm ht fun htserves => hend <|
      .frame (.sweeping thread a k (failures done) rest) htserves rfl rfl
    have hnl := hruns.order
    cases o with
    -- what comes out of a disposal is a panic, if its guard has failed, or a result
    | error payload => exact .inr ⟨l, payload, hnl, hlm, thread, k, done, rest, hruns.toTakes⟩
    | ok reply =>
      have hreply : reply.kind = .disposed := hruns.fits reply rfl
      cases reply with
      | disposed r =>
        have hnext : σ.At i (l + 1) ((σ.left l low r).resumeSweep thread a k (failures done) rest r) :=
          hruns.resumed
        rw [System.resumeSweep_eq] at hnext
        obtain ⟨results, m', hm', hsweeps⟩ | ⟨l', payload, hl', hlm', hcut⟩ :=
          ih (System.stack_record ..) hnext hlm
        · refine .inl ⟨r :: results, m', hm', .next hstack ⟨hat, ?_⟩ hsweeps⟩
          subst hstack
          exact hruns
        · exact .inr ⟨l', payload, by omega, hlm', hcut⟩
      | _ => simp [Reply.kind] at hreply

/-- A closing is cut short by a panic that was raised by dropping a payload. -/
theorem Cut.raised {payload : Payload} (h : σ.Cut i n a low payload) :
    ∃ first : Payload, first.dropped? = some payload := by
  obtain ⟨thread, k, done, rest, ⟨strand, hstrand, hsystem⟩, -⟩ := h
  have horderly := orderly hstrand
  rw [hsystem] at horderly
  exact (horderly.raised payload rfl).resolve_left fun hbears => by cases hbears

/-- So some payload was thrown that panics as it is dropped. -/
theorem Cut.not_tame {payload : Payload} {l : Nat} {news : Option Outcome}
    (h : σ.Cut i l a low payload) (hnl : n ≤ l)
    (hclient : (σ.after n).strands[i]? = some ⟨base, .client news⟩) : ¬σ.Tame i n l := by
  intro htame
  obtain ⟨thread, k, done, rest, ⟨strand, hstrand, hsystem⟩, -⟩ := h
  have horderly := htame.orderly hnl hclient hstrand
  rw [hsystem] at horderly
  obtain ⟨-, hbears⟩ := horderly.calm trivial payload rfl
  cases hbears

end Schedule

/-! ### The call that closes an arena -/

/-- A thread that passes the check may use the arena. -/
theorem Confinement.check_eq_ok {c : Confinement} {thread : ThreadId} :
    c.check thread = .ok () ↔ c.admits thread = true := by
  unfold check admits
  cases c.owner with
  | none => exact ⟨fun _ => rfl, fun _ => rfl⟩
  | some owner =>
    dsimp only
    by_cases hthread : owner = thread
    · simp [hthread]
    · simp [hthread]

theorem Arena.isActive_iff {arena : Arena} : arena.isActive = true ↔ arena.state = .active :=
  beq_iff_eq

/-- A call that closes an arena, or drops it. -/
def Work.Closes (thread : ThreadId) (a : Nat) (w : Work) : Prop :=
  w = .close thread a ∨ w = .drop thread a

/-- What lies below the disposals of such a call. -/
def Work.below (base : List Frame) : Work → List Frame
  | drop thread a => .dropping thread a :: base
  | _ => base

/-- What such a call returns, once the closing has ended. -/
def Work.answer (results : List (Except DisposalError Unit)) : Work → Outcome
  | drop _ _ => .ok .done
  | _ => .ok (.closed (report results))

/-- All others are told whom the arena belongs to. -/
theorem Confinement.check_eq_error {c : Confinement} {thread : ThreadId} {e : ArenaError}
    (h : c.check thread = .error e) :
    ∃ owner, c.owner = some owner ∧ owner ≠ thread ∧ e = .wrongThread owner thread := by
  unfold check at h
  split at h
  · next owner howner =>
    split at h
    · cases h
    · next hne =>
      cases h
      exact ⟨owner, howner, hne, rfl⟩
  · cases h

namespace System

variable {s : System} {thread : ThreadId} {a : Nat}

/-- A system in which an arena has just been closed. -/
def swap (s : System) (thread : ThreadId) (a : Nat) : System :=
  (s.mapStore (·.modifyArena a fun _ => (s.store.arena a).takePending.1)).note (.closing thread a)

/-- A call that finds an arena active closes it and turns to its disposals. -/
theorem close_eq_sweep (hactive : (s.store.arena a).isActive)
    (hcheck : (s.store.arena a).confinement.check thread = .ok ()) :
    s.close thread a = (s.swap thread a).sweep thread a (s.store.arena a).pending.toList.length
      (failures []) (s.store.arena a).pending.toList := by
  unfold close
  dsimp only
  rw [hcheck, hactive]
  rfl

/-- A call that drops an arena where it is active closes it, over a frame of its own. -/
theorem start_eq_close {w : Work} {news : Option Outcome} (hw : w.Closes thread a)
    (hfocus : s.focus = .client news) (hactive : (s.store.arena a).isActive)
    (hcheck : (s.store.arena a).confinement.check thread = .ok ()) :
    s.start w = ({ s with stack := w.below s.stack } : System).close thread a := by
  unfold start
  rw [hfocus]
  obtain rfl | rfl := hw
  · rfl
  · show s.drop thread a = _
    unfold drop
    dsimp only
    rw [hactive, Confinement.check_eq_ok.mp hcheck]
    rfl

/-- After that the arena is closed. -/
theorem close_closed (hactive : (s.store.arena a).isActive)
    (hcheck : (s.store.arena a).confinement.check thread = .ok ()) :
    ((s.close thread a).store.arena a).state = .closed := by
  have hknown := Change.known_of_isActive hactive
  have hall : ((s.close thread a).site.arenaView a).known ∧
      ((s.close thread a).site.arenaView a).arena.state = .closed := by
    rw [close_eq_sweep hactive hcheck]
    have hchanges : Changes .tick _ _ := sweep_changes (s.swap thread a) thread a
      (s.store.arena a).pending.toList.length (failures []) (s.store.arena a).pending.toList (by simp)
    refine hchanges.keeps
      (fun site => (site.arenaView a).known ∧ (site.arenaView a).arena.state = .closed)
      (fun hchange hs => (hchange.arena a).closed hs.1 hs.2) ?_
    simp [Site.arenaView, swap, note, mapStore, Store.arena_modifyArena, hknown, Arena.takePending]
  exact hall.2

end System

namespace Schedule

variable {σ : Schedule} {i n m a : Nat} {base : List Frame} {w : Work} {o : Outcome}
  {thread : ThreadId}

/-- The arena holds all that it has accepted, as long as it is active. -/
theorem accepted_eq_pending (hactive : ((σ.after n).store.arena a).isActive) :
    σ.accepted a n = ((σ.after n).store.arena a).pending.toList :=
  ((σ.arenaView_sound a n).of_isActive hactive).2.2.1

/-- **The call that finds an arena active** turns to its disposals in its first move. -/
theorem Calls.sweeping (h : σ.Calls i n m base w o) (hw : w.Closes thread a)
    (hactive : ((σ.after n).store.arena a).isActive)
    (hcheck : ((σ.after n).store.arena a).confinement.check thread = .ok ()) :
    ∃ s : System, s.stack = w.below base ∧ s.store = (σ.after n).store ∧
      σ.At i (n + 1) ((s.swap thread a).sweep thread a (σ.accepted a n).length (failures [])
        (σ.accepted a n)) ∧ ((σ.after (n + 1)).store.arena a).state = .closed := by
  have hadmits : (σ.after n).store.admitsWork w = true := by
    obtain rfl | rfl := hw <;> rfl
  obtain ⟨news, hat⟩ := h.at_start hadmits
  rw [System.start_eq_close hw rfl hactive hcheck] at hat
  let s : System := { store := (σ.after n).store, stack := w.below base, focus := .client news }
  have hclosed : ((s.close thread a).store.arena a).state = .closed :=
    System.close_closed hactive hcheck
  have hsweep : s.close thread a = (s.swap thread a).sweep thread a (σ.accepted a n).length
      (failures []) (σ.accepted a n) := by
    rw [accepted_eq_pending hactive]
    exact System.close_eq_sweep hactive hcheck
  refine ⟨s, rfl, rfl, ?_, ?_⟩
  · rw [← hsweep]
    exact hat
  · rw [← hat.store]
    exact hclosed

/-- It is the call that closes the arena. -/
theorem Calls.closes (h : σ.Calls i n m base w o) (hw : w.Closes thread a)
    (hactive : ((σ.after n).store.arena a).isActive)
    (hcheck : ((σ.after n).store.arena a).confinement.check thread = .ok ()) :
    σ.Closes a n i base := by
  obtain ⟨-, -, -, -, hclosed⟩ := h.sweeping hw hactive hcheck
  -- the arena is active before the first move of the call and closed after it
  refine ⟨⟨.start w, h.started, thread, ?_⟩, h.client, by simpa [Arena.isActive] using hactive,
    hclosed⟩
  obtain rfl | rfl := hw
  · exact .inl rfl
  · exact .inr rfl

/-- As long as it goes on, it has not returned. -/
theorem Calls.not_serves (h : σ.Calls i n m base w o) (hw : w.Closes thread a) {t : System}
    (ht : σ.At i m t) : ¬t.Serves .closed (w.below base) := by
  intro hserves
  obtain rfl | rfl := hw
  · exact h.returns.not_serves ht hserves
  · exact h.returns.not_serves ht (.frame (.dropping thread a) hserves rfl rfl)

/-- What comes to the base is what the call returns. -/
theorem Calls.returned {s : System} {l : Nat} {p : Outcome} (h : σ.Calls i n m base w o)
    (hnl : n ≤ l) (hlm : l ≤ m) (hat : σ.At i l s) (hstack : s.stack = base)
    (hfocus : s.focus = .handing p) : o = p :=
  (h.waits hnl hlm hat hstack hfocus).1

/-- A call that has its outcome at once returns it, and its strand changes nothing more. -/
theorem Calls.at_once {p : Outcome} {store : Store} (h : σ.Calls i n m base w o)
    (hadmits : (σ.after n).store.admitsWork w)
    (hstart : ∀ news, ({ store := (σ.after n).store, stack := base, focus := .client news } :
      System).start w = { store, stack := base, focus := .handing p }) :
    o = p ∧ σ.At i (n + 1) { store, stack := base, focus := .handing p } ∧
      ∀ l, n < l → l < m → (∃ move, σ l = .move i move) →
        (σ.after (l + 1)).store = (σ.after l).store := by
  obtain ⟨news, hat⟩ := h.at_start hadmits
  rw [hstart news] at hat
  obtain ⟨rfl, hwaits⟩ := h.waits (Nat.le_succ n) h.order hat rfl rfl
  refine ⟨rfl, hat, fun l hnl hlm ⟨move, hmove⟩ => ?_⟩
  obtain ⟨u, hu, hstack, hfocus⟩ := hwaits l hnl hlm
  have hafter := (hu.move hmove).store
  by_cases htick : move = .tick
  · subst htick
    rw [(System.tick_returned hstack hfocus h.grounded).2, hu.store] at hafter
    exact hafter.symm
  · rw [System.perform_handing hfocus move htick, hu.store] at hafter
    exact hafter.symm

/-- The report of the closing goes through the frame of a drop, and then to the client. -/
theorem Calls.answered {s : System} {l : Nat} {results : List (Except DisposalError Unit)}
    (h : σ.Calls i n m base w o) (hw : w.Closes thread a) (hnl : n ≤ l) (hlm : l ≤ m)
    (hstack : s.stack = w.below base)
    (hat : σ.At i l (s.reply (.closed (report results)))) : o = w.answer results := by
  obtain rfl | rfl := hw
  · exact h.returned hnl hlm hat hstack rfl
  · obtain ⟨strand, hstrand, -⟩ := h.returns
    have ht : σ.At i m ((σ.after m).system strand) := ⟨strand, hstrand, rfl⟩
    -- a drop throws the report away, whatever it says
    obtain ⟨e, hle, hem, htakes⟩ := exists_taken hat hstack rfl hlm ht fun hframes hfocus =>
      h.not_serves (.inr rfl) ht (.handing [] _ .closed hframes hfocus
        (fun _ hr => by cases hr; rfl) rfl)
    have hdone := htakes.resumed
    cases hreport : report results with
    | ok _ =>
      rw [hreport] at hdone
      exact h.returned (by omega) hem hdone rfl rfl
    | error e =>
      rw [hreport] at hdone
      exact h.returned (by omega) hem hdone rfl rfl

/-- A panic that cuts a closing short goes through the frame of a drop, and then to the client. -/
theorem Calls.unwound {l : Nat} {payload : Payload} (h : σ.Calls i n m base w o)
    (hw : w.Closes thread a) (hnl : n ≤ l) (hlm : l < m)
    (hcut : σ.Cut i l a (w.below base) payload) : o = .error payload := by
  obtain ⟨thread, k, done, rest, htakes⟩ := hcut
  have hpassed := htakes.resumed
  obtain rfl | rfl := hw
  · exact h.returned (Nat.le_succ_of_le hnl) hlm hpassed rfl rfl
  · obtain ⟨strand, hstrand, -⟩ := h.returns
    have ht : σ.At i m ((σ.after m).system strand) := ⟨strand, hstrand, rfl⟩
    obtain ⟨e, hle, hem, htakes⟩ := exists_taken hpassed rfl rfl hlm ht fun hframes hfocus =>
      h.not_serves (.inr rfl) ht (.handing [] _ .closed hframes hfocus (fun _ hr => by cases hr) rfl)
    exact h.returned (by omega) hem htakes.resumed rfl rfl

/-- **The call that closes an arena** goes through all that the arena has accepted and returns
    what it should, or it is cut short by a panic. -/
theorem Calls.swept_or_cut (h : σ.Calls i n m base w o) (hw : w.Closes thread a)
    (hactive : ((σ.after n).store.arena a).isActive)
    (hcheck : ((σ.after n).store.arena a).confinement.check thread = .ok ()) :
    (∃ (s : System) (results : List (Except DisposalError Unit)) (l : Nat),
      s.store = (σ.after n).store ∧ l ≤ m ∧
      σ.Sweeps i thread a (σ.accepted a n).length (w.below base) (n + 1) (s.swap thread a) []
        (σ.accepted a n) results l ∧ o = w.answer results) ∨
    ∃ l payload, n ≤ l ∧ l < m ∧ σ.Cut i l a (w.below base) payload ∧ o = .error payload := by
  obtain ⟨s, hstack, hstore, hat, -⟩ := h.sweeping hw hactive hcheck
  obtain ⟨strand, hstrand, -⟩ := h.returns
  have ht : σ.At i m ((σ.after m).system strand) := ⟨strand, hstrand, rfl⟩
  have hstack : (s.swap thread a).stack = w.below base := hstack
  obtain ⟨results, l, hlm, hsweeps⟩ | ⟨l, payload, hnl, hlm, hcut⟩ :=
    exists_sweeps hstack hat h.order ht (h.not_serves hw ht)
  · left
    obtain ⟨t, htstack, htat⟩ := hsweeps.reported (by simp)
    refine ⟨s, results, l, hstore, hlm, hsweeps, h.answered hw ?_ hlm htstack htat⟩
    exact Nat.le_of_succ_le hsweeps.order
  · right
    have hnl : n ≤ l := Nat.le_of_succ_le hnl
    exact ⟨l, payload, hnl, hlm, hcut, h.unwound hw hnl hlm hcut⟩

/-- Without a payload that panics as it is dropped, it is not cut short. -/
theorem Calls.swept (h : σ.Calls i n m base w o) (hw : w.Closes thread a)
    (hactive : ((σ.after n).store.arena a).isActive)
    (hcheck : ((σ.after n).store.arena a).confinement.check thread = .ok ())
    (htame : σ.Tame i n m) :
    ∃ (s : System) (results : List (Except DisposalError Unit)) (l : Nat),
      s.store = (σ.after n).store ∧ l ≤ m ∧
      σ.Sweeps i thread a (σ.accepted a n).length (w.below base) (n + 1) (s.swap thread a) []
        (σ.accepted a n) results l ∧ o = w.answer results := by
  obtain hswept | ⟨l, payload, hnl, hlm, hcut, -⟩ := h.swept_or_cut hw hactive hcheck
  · exact hswept
  · obtain ⟨news, hclient⟩ := h.client
    exact absurd (htame.mono (Nat.le_refl n) (Nat.le_of_lt hlm)) (hcut.not_tame hnl hclient)

end Schedule

end ForeignArena
