import ForeignArena.Proofs.Courses
import ForeignArena.Proofs.Quiet

namespace ForeignArena

/-!
# Where registered disposals are run

Arenas run what was registered with them in two places.  A closing turns to the next disposal,
over a guard and the frame of the closing, and a cleaner turns to the action that it has taken,
over two frames of its own.  A move runs one registered disposal at most, and with that it ends.

* `History.turns` — the registered disposals that were run;
* `Entry.RunsOver` — the frames over which a registered disposal is run;
* `System.Enters`, `System.perform_enters` — what a move can run;
* `Schedule.turns_succ` — and so every act.
-/

/-- The registered disposals that were run. -/
def History.turns (h : History) : List Entry := h.pick Happening.run?

/-- The frames over which a registered disposal is run on a thread. -/
inductive Entry.RunsOver (thread : ThreadId) : Entry → List Frame → Prop where
  | confined (a n : Nat) (failures : List DisposalError) (todo : List Disposal) (d : Disposal)
      (below : List Frame) :
    RunsOver thread ⟨.confined a, .plain, d⟩
      (.guarded d :: .sweeping thread a n failures todo :: below)
  | auto (c token : Nat) (d : Disposal) (below : List Frame) :
    RunsOver thread ⟨.auto c, .tracked c token, d⟩
      (.reporting thread c token :: .running thread c token :: below)

namespace System

/-! ### What a move runs -/

/-- A system in which no registered disposal has been run since some have been, or one has just
    been run up to its first question.  The routines called before that are the given ones, and
    the disposal is run over no fewer frames than given. -/
inductive Enters (calls : List Request) (before : List Entry) (low : Nat) : System → Prop where
  | none {t : System} : t.store.history.turns = before → Enters calls before low t
  | entered {t : System} (thread : ThreadId) (e : Entry) : e.RunsOver thread t.stack →
    t.calls = calls → t.store.history.turns = before ++ [e] → low ≤ t.stack.length →
    Enters calls before low (t.dispose thread e.disposal)

variable {s t : System} {calls : List Request} {before : List Entry} {low : Nat}

/-- Quiet work runs no registered disposal. -/
theorem Quiet.turns (h : s.Quiet t) : t.store.history.turns = s.store.history.turns :=
  h.store.pick fun e he => by cases e <;> first | rfl | cases he

theorem turns_note (s : System) (e : Happening) :
    (s.note e).store.history.turns = s.store.history.turns ++ e.run?.toList :=
  History.pick_cons e s.store.history _

theorem turns_note_of_none (hturns : s.store.history.turns = before) {e : Happening}
    (he : e.run? = none) : (s.note e).store.history.turns = before := by
  rw [turns_note, he, Option.toList_none, List.append_nil, hturns]

section

variable (thread : ThreadId) (a c token n : Nat) (failures : List DisposalError)

theorem sweep_enters (todo : List Disposal) (hcalls : s.calls = calls)
    (hturns : s.store.history.turns = before) (hlow : low ≤ s.stack.length + 2) :
    (s.sweep thread a n failures todo).Enters calls before low := by
  cases todo with
  | cons d rest =>
    let e : Entry := ⟨.confined a, .plain, d⟩
    refine .entered (t := ((s.note (.attempting thread a d)).push
      (.sweeping thread a n failures rest)).push (.guarded d)) thread e (.confined ..) ?_ ?_ hlow
    · exact calls_note_of_none (e := .attempting thread a d) hcalls rfl
    · exact (s.turns_note (.attempting thread a d)).trans (by rw [hturns]; rfl)
  | nil =>
    have hclosed := turns_note_of_none hturns (e := .arenaClosed thread a n failures.length) rfl
    unfold sweep
    dsimp only
    split <;> exact .none hclosed

theorem resumeSweep_enters (todo : List Disposal) (result : Except DisposalError Unit)
    (hcalls : s.calls = calls) (hturns : s.store.history.turns = before)
    (hlow : low ≤ s.stack.length + 2) :
    (s.resumeSweep thread a n failures todo result).Enters calls before low := by
  cases result with
  | ok _ => exact sweep_enters thread a n failures todo hcalls hturns hlow
  | error e =>
    exact sweep_enters thread a n (failures ++ [e]) todo (calls_note_of_none hcalls rfl)
      (turns_note_of_none hturns rfl) hlow

theorem close_enters (hcalls : s.calls = calls) (hturns : s.store.history.turns = before)
    (hlow : low ≤ s.stack.length + 2) : (s.close thread a).Enters calls before low := by
  unfold close
  dsimp only
  split
  · exact .none hturns
  · split
    · let closed := s.mapStore (·.modifyArena a fun _ => (s.store.arena a).takePending.1)
      exact sweep_enters thread a _ [] _
        (calls_note_of_none (s := closed) (e := .closing thread a) hcalls rfl)
        (turns_note_of_none (s := closed) (e := .closing thread a) hturns rfl) hlow
    · exact .none hturns

theorem drop_enters (hcalls : s.calls = calls) (hturns : s.store.history.turns = before)
    (hlow : low ≤ s.stack.length + 2) : (s.drop thread a).Enters calls before low := by
  unfold drop
  dsimp only
  split
  · exact .none hturns
  · split
    · exact .none (turns_note_of_none (e := .arenaAbandoned thread a _ _) hturns rfl)
    · exact close_enters (s := s.push (.dropping thread a)) thread a hcalls hturns
        (Nat.le_succ_of_le hlow)

theorem runAction_enters (hcalls : s.calls = calls) (hturns : s.store.history.turns = before)
    (hlow : low ≤ s.stack.length + 2) : (s.runAction thread c token).Enters calls before low := by
  unfold runAction
  split
  · exact .none hturns
  · next cleaner action _ =>
    let taken := s.mapStore (·.modifyCleaner c fun _ => cleaner)
    cases action with
    | supplied tag =>
      exact .none (turns_note_of_none (s := taken) (e := .started thread c token (.supplied tag))
        hturns rfl)
    | dispose d =>
      let e : Entry := ⟨.auto c, .tracked c token, d⟩
      refine .entered (t := (((taken.note (.started thread c token (.dispose d))).push
        (.running thread c token)).push (.reporting thread c token))) thread e (.auto ..) ?_ ?_ hlow
      · exact calls_note_of_none (s := taken) (e := .started thread c token (.dispose d)) hcalls rfl
      · exact (taken.turns_note (.started thread c token (.dispose d))).trans
          (congrArg (· ++ [e]) hturns)

end

theorem start_enters (w : Work) :
    (s.start w).Enters s.calls s.store.history.turns s.stack.length := by
  by_cases hw : ∃ thread a, w = .close thread a ∨ w = .drop thread a
  · obtain ⟨thread, a, rfl | rfl⟩ := hw
    · unfold start
      split
      · exact .none rfl
      · exact close_enters thread a rfl rfl (Nat.le_add_right ..)
    · unfold start
      split
      · exact .none rfl
      · exact drop_enters thread a rfl rfl (Nat.le_add_right ..)
  · exact .none (s.start_quiet w fun thread a hcloses => hw ⟨thread, a, hcloses⟩).turns

/-- Waiting work that gets an outcome runs a registered disposal over two frames more. -/
theorem resume_enters (f : Frame) (o : Outcome) :
    (s.resume f o).Enters s.calls s.store.history.turns (s.stack.length + 1) := by
  have hlow : s.stack.length + 1 ≤ s.stack.length + 2 := Nat.le_succ _
  cases f with
  | sweeping thread a n failures todo =>
    cases o with
    | error payload => exact .none rfl
    | ok reply =>
      cases reply with
      | disposed result => exact resumeSweep_enters thread a n failures todo result rfl rfl hlow
      | _ => exact .none rfl
  | taking thread c token => exact runAction_enters thread c token rfl rfl hlow
  | dropping thread a =>
    cases o with
    | error payload => exact .none rfl
    | ok reply =>
      cases reply with
      | closed result =>
        cases result with
        | ok _ => exact .none rfl
        | error e => exact .none (turns_note_of_none (e := .dropFailed thread a e) rfl rfl)
      | _ => exact .none rfl
  | reporting thread c token =>
    cases o with
    | error payload => exact .none rfl
    | ok reply =>
      cases reply with
      | disposed result =>
        cases result with
        | ok _ => exact .none rfl
        | error e => exact .none (turns_note_of_none (e := .autoFailed thread c token e) rfl rfl)
      | _ => exact .none rfl
  | running thread c token =>
    cases o with
    | ok reply =>
      exact .none (turns_note_of_none (s := s.mapStore _) (e := .actionEnded thread c token) rfl rfl)
    | error payload =>
      have hnoted := turns_note_of_none (s := s.mapStore (·.modifyCleaner c (·.fail)))
        (e := .actionPanicked thread c token payload.message) rfl rfl
      show (s.resumePanicked thread c token payload).Enters _ _ _
      unfold resumePanicked discard
      split <;> exact .none hnoted
  | _ => exact .none (s.resume_quiet _ o rfl (by simp)).turns

/-- **Each move runs one registered disposal at most**, and ends with its first question. -/
theorem perform_enters (s : System) (move : Move) :
    (s.perform move).Enters s.calls s.store.history.turns s.stack.length := by
  cases move with
  | start w =>
    unfold perform
    dsimp only
    split
    · exact start_enters w
    · exact .none rfl
  | answer o =>
    unfold perform answer
    dsimp only
    split
    · split <;> exact .none rfl
    · exact .none rfl
  | tick =>
    unfold perform tick
    dsimp only
    split
    · exact .none rfl
    · exact .none rfl
    · next o f rest _ hstack =>
      have hresumes := resume_enters (s := { s with stack := rest }) f o
      rw [hstack]
      exact hresumes
  | operate operation =>
    unfold perform
    dsimp only
    split
    · exact .none rfl
    · split
      · exact .none (s.mapStore_quiet (s.store.apply_quiet operation)).turns
      · exact .none rfl

end System

/-! ### Runs -/

namespace Schedule

/-- The registered disposals that were run before moment `n`. -/
def turns (σ : Schedule) (n : Nat) : List Entry := (σ.after n).store.history.turns

/-- **Where registered disposals are run.**  With each act one is run at most, and it begins over
    the frames that wait for its outcome. -/
theorem turns_succ (σ : Schedule) (n : Nat) : σ.turns (n + 1) = σ.turns n ∨
    ∃ i base thread e, σ.turns (n + 1) = σ.turns n ++ [e] ∧ e.RunsOver thread base ∧
      σ.BeginsOver i n base thread e.disposal := by
  unfold turns
  cases hact : σ n with
  | spawn => exact .inl (by rw [after, hact]; rfl)
  | move i move =>
    cases hstrand : (σ.after n).strands[i]? with
    | none => exact .inl (by rw [after, hact, Machine.perform_of_none hstrand])
    | some strand =>
      have henters := ((σ.after n).system strand).perform_enters move
      rw [after, hact, Machine.store_perform hstrand]
      generalize ht : ((σ.after n).system strand).perform move = t at henters
      cases henters with
      | none hsame => exact .inl hsame
      | @entered u thread e hover hcalls hturns hlow =>
        refine .inr ⟨i, u.stack, thread, e, ?_, hover, ?_⟩
        · rw [(u.dispose_quiet thread e.disposal).turns]
          exact hturns
        · exact ⟨_, u, move, ⟨strand, hstrand, rfl⟩, hact, ht, rfl, hcalls, hlow⟩

end Schedule

end ForeignArena
