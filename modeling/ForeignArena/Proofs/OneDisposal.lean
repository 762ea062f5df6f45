import ForeignArena.Proofs.Beginnings
import ForeignArena.Proofs.Guarding
import Mathlib.Tactic.IntervalCases

namespace ForeignArena

/-!
# One disposal

What a disposal does, from its beginning to its outcome, whatever its routines do in the meantime:
they may use the arenas and the flags, start more work, panic, or never end.

* `Schedule.BeginsOver.began` — the flag is set before anything is called;
* `Schedule.OneDisposal`, `Schedule.oneDisposal` — the routines that are called, how often and in
  which order, and what is returned, with the panics contained or not.
-/

/-- Before a disposal calls a routine, it has begun. -/
theorem System.began_first (s : System) (thread : ThreadId) (d : Disposal) :
    ∃ later, (s.dispose thread d).store.history = later ++ .began thread d :: s.store.history := by
  -- neither the announcement of a routine nor its call goes before the beginning
  unfold dispose
  dsimp only
  split
  · obtain ⟨hstore, -⟩ := askCount_view thread
      (((s.mapStore (·.begin thread d)).note (.counting thread d)).push (.counted thread d))
      d.type d.address
    exact ⟨[.counting thread d], by rw [hstore]; rfl⟩
  · obtain ⟨hhistory, -⟩ := callDestroy_view thread
      (((s.mapStore (·.begin thread d)).note (.destroying thread d)).push (.destroying thread d))
      d.type d.address
    exact ⟨[.destroying thread d], hhistory⟩

namespace Schedule

variable {σ : Schedule} {i n : Nat} {base : List Frame} {thread : ThreadId} {d : Disposal}

/-- The flag of a disposal is set before anything is called for it, and stays set. -/
theorem BeginsOver.began (h : σ.BeginsOver i n base thread d) :
    (∃ later earlier, (σ.after (n + 1)).store.history = later ++ .began thread d :: earlier ∧
      History.calls earlier = σ.calls n) ∧
    ∀ m, n < m → (σ.after m).store.isDestroyed d.flag = true := by
  obtain ⟨s, t, move, hat, hact, hperform, -, hcalls, -⟩ := h
  have hafter : σ.At i (n + 1) (t.dispose thread d) := hperform ▸ hat.move hact
  constructor
  · obtain ⟨later, hhistory⟩ := t.began_first thread d
    refine ⟨later, t.store.history, ?_, ?_⟩
    · rw [← hafter.store, hhistory]
    · rw [calls, ← hat.store]
      exact hcalls
  · -- a flag of which a disposal has begun is set, and flags stay set
    intro m hnm
    have hbegun : (σ.flagView d.flag (n + 1)).begun ≠ [] := by
      show (σ.after (n + 1)).store.history.begun d.flag ≠ []
      rw [← hafter.store, System.begun_dispose, if_pos rfl]
      exact List.append_ne_nil_of_right_ne_nil _ (List.cons_ne_nil _ _)
    exact (σ.flagView_grows d.flag hnm).2.1 ((σ.flagView_sound d.flag (n + 1)).set hbegun)

/-- What one disposal does in a run, on a strand `i` from moment `n` on. -/
structure OneDisposal (σ : Schedule) (thread : ThreadId) (d : Disposal) : Prop where
  /-- Its flag is set before the first routine is called, and from then on. -/
  flag {i n : Nat} {base : List Frame} : σ.BeginsOver i n base thread d →
    (∃ later earlier, (σ.after (n + 1)).store.history = later ++ .began thread d :: earlier ∧
      History.calls earlier = σ.calls n) ∧
    ∀ m, n < m → (σ.after m).store.isDestroyed d.flag = true
  /-- Whoever begins it, up to any moment it has taken a course, and the outcome of the course is
      what is taken in the end. -/
  course {i n m : Nat} {base : List Frame} : σ.BeginsOver i n base thread d → n < m →
    σ.Pending i n m base → ∃ last, d.Course thread (σ.events i base.length n m) last ∧
      ∀ o, σ.Takes i m base o → last = some o
  /-- On every course the count routine is called once for an object that is counted, and never
      for another one. -/
  counts {past : List Disposal.Event} {last : Option Outcome} : d.Course thread past last →
    past.countP (·.isCount) = if d.type.kind.isReference then 1 else 0
  /-- The destroy routine is called once if the object has no count, or has one and the answer
      permits it, and never otherwise. -/
  destroys {past : List Disposal.Event} {last : Option Outcome} : d.Course thread past last →
    past.countP (·.isDestroy) =
      if !d.type.kind.isReference || (Disposal.answer? past).any Disposal.permits then 1 else 0
  /-- The object is leaked if the count that was answered is above one, and it is reported with the
      very count. -/
  leaks {past : List Disposal.Event} {last : Option Outcome} : d.Course thread past last →
    ∀ e, last = some (.ok (.disposed (.error e))) ↔
      ∃ count, 1 < count ∧ Disposal.answer? past = some (.ok (.count (some count))) ∧
        e = .unexpectedRetainCount d.type.name d.address count
  /-- The disposal panics if one of its routines does. -/
  panics {past : List Disposal.Event} {o : Outcome} : d.Course thread past (some o) →
    ∀ payload, o = .error payload ↔ .took (.error payload) ∈ past
  /-- A call returns the outcome of its course. -/
  plain {i n m : Nat} {base : List Frame} {o : Outcome} :
    σ.Calls i n m base (.dispose thread d) o → d.flag < (σ.after n).store.flags.size →
    d.Course thread (σ.events i base.length n m) (some o)
  /-- A call with the panics contained returns what the guard makes of it. -/
  guarded {i n m : Nat} {base : List Frame} {o : Outcome} :
    σ.Calls i n m base (.disposeGuarded thread d) o → d.flag < (σ.after n).store.flags.size →
    ∃ p, d.Course thread (σ.events i (base.length + 1) n m) (some p) ∧ o = d.caught p
  /-- Guarded or not, it has the same effects at every moment: the machines differ in the frame of
      the guard only. -/
  alike {i n m : Nat} {base : List Frame} : σ.Starts i n base (.dispose thread d) →
    d.flag < (σ.after n).store.flags.size → n < m → σ.Pending i n m base →
    (σ.after m).Inlaid i base (.guarded d) ((σ.guarding i n thread d).after m)
  /-- And when it returns, they differ in what is returned only. -/
  contained {i n m : Nat} {base : List Frame} {o : Outcome} :
    σ.Calls i n m base (.dispose thread d) o → d.flag < (σ.after n).store.flags.size →
    ((σ.guarding i n thread d).insert m (.move i .tick)).Calls i n (m + 1) base
        (.disposeGuarded thread d) (d.caught o) ∧
      ((σ.guarding i n thread d).insert m (.move i .tick)).after (m + 1) =
        { σ.after m with
          strands := (σ.after m).strands.set i ⟨base, .client (some (d.caught o))⟩ }

/-- **A disposal sets its flag, asks for the count and destroys the object**, in this order, each
    at most once and as the answers have it; its guard does nothing but catch its panics. -/
theorem oneDisposal (σ : Schedule) (thread : ThreadId) (d : Disposal) :
    σ.OneDisposal thread d where
  flag h := h.began
  course h hnm hpending := Schedule.course h hnm hpending
  counts h := h.counts
  destroys h := h.destroys
  leaks h := h.leaks
  panics h := h.panics
  plain h hflag := h.course (decide_eq_true hflag)
  guarded h hflag := h.guarded_course (decide_eq_true hflag)
  alike h hflag hnm hpending := guarding_inlaid h (decide_eq_true hflag) hnm hpending
  contained h hflag := guarding_calls h (decide_eq_true hflag)

/-- The disposal of an object of a counted type. -/
def lastHeld : Disposal where
  address := ⟨1⟩
  type := { id := 0, name := "Task", kind := .reference, routines := .supplied }
  flag := 0

/-- A run in which a client disposes of the object.  Nobody else holds it, and its destroy routine
    panics. -/
def bursting : Schedule
  | 0 => .spawn
  | 1 => .move 0 (.operate .newFlag)
  | 2 => .move 0 (.operate (.newType "Task" .reference false .supplied))
  | 3 => .move 0 (.start (.dispose .main lastHeld))
  | 4 => .move 0 (.answer (.ok (.count (some 1))))
  | 6 => .move 0 (.answer (.error (.literal "boom")))
  | _ => .move 0 .tick

theorem bursting_calls :
    bursting.Calls 0 3 9 [] (.dispose .main lastHeld) (.error (.literal "boom")) := by
  refine ⟨rfl, ⟨none, rfl⟩, by omega, fun l hl hlm => ?_, _, rfl, rfl, rfl⟩
  obtain rfl | hlast : l = 8 ∨ l < 8 := by omega
  · exact within_of_handing rfl
  · interval_cases l
    all_goals exact within_of_stack rfl (List.cons_ne_nil _ _)

/-- The run leaves its object destroyed, and the panic comes out of it, or is caught. -/
theorem oneDisposal_bursting :
    lastHeld.Course .main
        [.called (.count .main lastHeld.type ⟨1⟩), .took (.ok (.count (some 1))),
          .called (.destroy .main lastHeld.type ⟨1⟩), .took (.error (.literal "boom"))]
        (some (.error (.literal "boom"))) ∧
      (bursting.after 4).store.isDestroyed 0 = true ∧
      ((bursting.guarding 0 3 .main lastHeld).insert 9 (.move 0 .tick)).Calls 0 3 10 []
        (.disposeGuarded .main lastHeld)
        (.ok (.disposed (.error (.destroyPanicked "Task" ⟨1⟩ "boom")))) := by
  have hone := oneDisposal bursting .main lastHeld
  have hbegins : bursting.BeginsOver 0 3 [] .main lastHeld :=
    bursting_calls.starts.disposes rfl
  exact ⟨hone.plain bursting_calls (by decide), (hone.flag hbegins).2 4 (by decide),
    (hone.contained bursting_calls (by decide)).1⟩

end Schedule

end ForeignArena
