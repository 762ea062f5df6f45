import ForeignArena.Proofs.Following
import ForeignArena.Proofs.Routines

namespace ForeignArena

/-!
# Where disposals begin

Whatever a strand does in one move, at most one disposal begins, and it is the last thing
that happens: closings, cleaners and clients end their move when they have turned to a
disposal.  So a disposal that has just begun stands at the top of its strand, with the
answer to its first question.

* `System.Begins` — work that has come to the point at which a disposal begins, or has not
  begun any;
* `System.perform_begins` — each move is such work;
* `Schedule.exists_begins` — and so a disposal that has begun in a move is found there.
-/

namespace System

/-- A system where no disposal has begun since the given ones, or where one has just been run up
    to its first question. -/
inductive Begins (before : Nat → List Disposal) : System → Prop where
  | none {s : System} : s.store.history.begun = before → Begins before s
  | began {s : System} (thread : ThreadId) (d : Disposal) : s.store.history.begun = before →
    Begins before (s.dispose thread d)

variable {s : System} {before : Nat → List Disposal}

/-- Other happenings make no difference. -/
theorem begun_note (e : Happening) (he : ∀ flag, e.begunOf? flag = none)
    (h : s.store.history.begun = before) : (s.note e).store.history.begun = before := by
  rw [← h]
  funext flag
  show History.begun (e :: s.store.history) flag = _
  rw [History.begun_cons, he]
  exact List.append_nil _

theorem discard_begins {payload : Payload} {next : System → System}
    (h : s.store.history.begun = before) (hnext : (next s).Begins before) :
    (s.discard payload next).Begins before := by
  unfold discard
  split
  · exact .none h
  · exact hnext

section

variable (thread : ThreadId) (d : Disposal) (a c token n : Nat) (failures : List DisposalError)

theorem askCount_begins (type : ForeignType) (address : Address)
    (h : s.store.history.begun = before) : (s.askCount thread type address).Begins before := by
  obtain ⟨hstore, -⟩ := askCount_view thread s type address
  exact .none (by rw [hstore, h])

theorem callDestroy_begins (type : ForeignType) (address : Address)
    (h : s.store.history.begun = before) : (s.callDestroy thread type address).Begins before := by
  obtain ⟨hhistory, -⟩ := callDestroy_view thread s type address
  exact .none (by rw [hhistory, h])

theorem destroy_begins (h : s.store.history.begun = before) : (s.destroy thread d).Begins before :=
  callDestroy_begins thread d.type d.address (begun_note (.destroying thread d) (fun _ => rfl) h)

theorem resumeCounted_begins (count : Option UInt64) (h : s.store.history.begun = before) :
    (s.resumeCounted thread d count).Begins before := by
  unfold resumeCounted
  split
  · split
    · exact .none h
    · exact destroy_begins thread d h
  · exact destroy_begins thread d h

theorem contain_begins (payload : Payload) (h : s.store.history.begun = before) :
    (s.contain d payload).Begins before :=
  discard_begins h (.none h)

/-- A closing ends its move with the disposal to which it turns. -/
theorem sweep_begins (todo : List Disposal) (h : s.store.history.begun = before) :
    (s.sweep thread a n failures todo).Begins before := by
  cases todo with
  | cons d rest => exact .began thread d (begun_note (.attempting thread a d) (fun _ => rfl) h)
  | nil =>
    unfold sweep
    dsimp only
    split
    · exact .none (begun_note (.arenaClosed thread a n failures.length) (fun _ => rfl) h)
    · exact .none (begun_note (.arenaClosed thread a n failures.length) (fun _ => rfl) h)

theorem resumeSweep_begins (todo : List Disposal) (result : Except DisposalError Unit)
    (h : s.store.history.begun = before) :
    (s.resumeSweep thread a n failures todo result).Begins before := by
  cases result with
  | ok _ => exact sweep_begins thread a n failures todo h
  | error e =>
    exact sweep_begins thread a n (failures ++ [e]) todo
      (begun_note (.leaked thread a e) (fun _ => rfl) h)

theorem close_begins (h : s.store.history.begun = before) :
    (s.close thread a).Begins before := by
  unfold close
  dsimp only
  split
  · exact .none h
  · split
    · exact sweep_begins thread a _ [] _
        (begun_note (s := s.mapStore _) (.closing thread a) (fun _ => rfl) h)
    · exact .none h

theorem drop_begins (h : s.store.history.begun = before) : (s.drop thread a).Begins before := by
  unfold drop
  dsimp only
  split
  · exact .none h
  · split
    · exact .none (begun_note (.arenaAbandoned thread a _ _) (fun _ => rfl) h)
    · exact close_begins (s := s.push (.dropping thread a)) thread a h

/-- So does an action that is a disposal. -/
theorem runAction_begins (h : s.store.history.begun = before) :
    (s.runAction thread c token).Begins before := by
  unfold runAction
  split
  · exact .none h
  · next cleaner action htake =>
    have hstarted := begun_note (s := s.mapStore (·.modifyCleaner c fun _ => cleaner))
      (.started thread c token action) (fun _ => rfl) h
    cases action with
    | dispose d => exact .began thread d hstarted
    | supplied tag => exact .none hstarted

theorem resumePanicked_begins (payload : Payload) (h : s.store.history.begun = before) :
    (s.resumePanicked thread c token payload).Begins before := by
  have hnoted := begun_note (s := s.mapStore (·.modifyCleaner c (·.fail)))
    (.actionPanicked thread c token payload.message) (fun _ => rfl) h
  unfold resumePanicked
  exact discard_begins hnoted (.none hnoted)

theorem clean_begins (h : s.store.history.begun = before) :
    (s.clean thread c token).Begins before := by
  unfold clean
  split
  · exact .none h
  · exact .none h

theorem dropToken_begins (h : s.store.history.begun = before) :
    (s.dropToken thread c token).Begins before := by
  unfold dropToken
  split
  · dsimp only
    split
    · exact .none (begun_note (s := (s.mapStore _).mapStore _) (.queued c token) (fun _ => rfl) h)
    · exact .none (begun_note (s := s.mapStore _) (.threadGone thread c token) (fun _ => rfl) h)
  · exact .none h

theorem receive_begins (h : s.store.history.begun = before) : (s.receive c).Begins before := by
  unfold receive
  split
  · exact .none h
  · exact .none (begun_note (s := s.mapStore _) (.received c _) (fun _ => rfl) h)

end

theorem start_begins (w : Work) (h : s.store.history.begun = before) :
    (s.start w).Begins before := by
  unfold start
  split
  · exact .none h
  · cases w with
    | count thread type address => exact askCount_begins thread type address h
    | destroy thread type address => exact callDestroy_begins thread type address h
    | dispose thread d => exact .began thread d h
    | disposeGuarded thread d => exact .began (s := s.push (.guarded d)) thread d h
    | close thread a => exact close_begins thread a h
    | drop thread a => exact drop_begins thread a h
    | clean thread c token => exact clean_begins thread c token h
    | dropRegistration thread r =>
      cases r with
      | plain => exact .none h
      | tracked c token => exact dropToken_begins thread c token h
    | receive c => exact receive_begins c h

theorem resume_begins (f : Frame) (o : Outcome) (h : s.store.history.begun = before) :
    (s.resume f o).Begins before := by
  unfold resume
  split
  · exact .none h
  · next thread d count => exact resumeCounted_begins thread d count h
  · next thread d _ => exact .none (begun_note (.destroyed thread d) (fun _ => rfl) h)
  · next d payload => exact contain_begins d payload h
  · next thread a n failures todo result =>
    exact resumeSweep_begins thread a n failures todo result h
  · next thread a e => exact .none (begun_note (.dropFailed thread a e) (fun _ => rfl) h)
  · exact .none h
  · next thread c token e =>
    exact .none (begun_note (.autoFailed thread c token e) (fun _ => rfl) h)
  · exact .none h
  · next thread c token => exact runAction_begins thread c token h
  · next thread c token _ =>
    exact .none (begun_note (s := s.mapStore _) (.actionEnded thread c token) (fun _ => rfl) h)
  · next thread c token payload => exact resumePanicked_begins thread c token payload h
  · exact .none h
  · exact .none h
  · exact .none h
  · exact .none h

/-- **In each move at most one disposal begins**, as the last thing that happens. -/
theorem perform_begins (s : System) (move : Move) (hmove : ∀ operation, move ≠ .operate operation) :
    (s.perform move).Begins s.store.history.begun := by
  cases move with
  | start w =>
    unfold perform
    dsimp only
    split
    · exact start_begins w rfl
    · exact .none rfl
  | answer o =>
    unfold perform answer
    dsimp only
    split
    · split
      · exact .none rfl
      · exact .none rfl
    · exact .none rfl
  | tick =>
    unfold perform tick
    dsimp only
    split
    · exact .none rfl
    · exact .none rfl
    · next o f rest _ _ => exact resume_begins (s := { s with stack := rest }) f o rfl
  | operate operation => exact absurd rfl (hmove operation)

/-- A disposal that is run has begun, and no other. -/
theorem begun_dispose (s : System) (thread : ThreadId) (d : Disposal) (flag : Nat) :
    (s.dispose thread d).store.history.begun flag =
      s.store.history.begun flag ++ if d.flag = flag then [d] else [] := by
  have hbegin : (s.mapStore (·.begin thread d)).store.history.begun flag =
      s.store.history.begun flag ++ if d.flag = flag then [d] else [] := by
    show History.begun (.began thread d :: s.store.history) flag = _
    rw [History.begun_cons, Happening.begunOf?]
    by_cases hflag : d.flag = flag
    · rw [if_pos hflag, if_pos hflag]
      rfl
    · rw [if_neg hflag, if_neg hflag]
      rfl
  rw [← hbegin]
  unfold dispose
  dsimp only
  split
  · obtain ⟨hstore, -⟩ := askCount_view thread
      (((s.mapStore (·.begin thread d)).note (.counting thread d)).push (.counted thread d))
      d.type d.address
    rw [hstore]
    exact congrFun (begun_note (.counting thread d) (fun _ => rfl) rfl) flag
  · obtain ⟨hhistory, -⟩ := callDestroy_view thread
      (((s.mapStore (·.begin thread d)).note (.destroying thread d)).push (.destroying thread d))
      d.type d.address
    rw [destroy, hhistory]
    exact congrFun (begun_note (.destroying thread d) (fun _ => rfl) rfl) flag

end System

namespace Schedule

variable {σ : Schedule} {n : Nat} {d : Disposal}

/-- No disposal begins in an operation. -/
theorem begun_operate {i : Nat} {operation : Operation} (hact : σ n = .move i (.operate operation))
    (hbefore : d ∉ (σ.after n).store.history.begun d.flag) :
    d ∉ (σ.after (n + 1)).store.history.begun d.flag := by
  refine σ.flagView_keeps d.flag (fun v => d ∉ v.begun) n (fun {j move v w} hmove hstep h => ?_)
    hbefore
  rw [hact] at hmove
  cases hmove
  cases hstep with
  | same | created | marked => exact h
  | began other _ hdisposes =>
    obtain ⟨thread, hstart | hstart⟩ := hdisposes <;> cases hstart
  | ran e _ hoperate => exact absurd rfl (hoperate operation)

/-- **A disposal that has just begun** is at its first question, on the strand that has made the
    move. -/
theorem exists_begins (hbefore : d ∉ (σ.after n).store.history.begun d.flag)
    (hafter : d ∈ (σ.after (n + 1)).store.history.begun d.flag) :
    ∃ (j : Nat) (move : Move) (s : System) (thread : ThreadId), σ n = .move j move ∧
      (∀ operation, move ≠ .operate operation) ∧ σ.At j (n + 1) (s.dispose thread d) := by
  cases hact : σ n with
  | spawn =>
    rw [after, hact] at hafter
    exact absurd hafter hbefore
  | move j move =>
    have hmove (operation : Operation) : move ≠ .operate operation := by
      rintro rfl
      exact begun_operate hact hbefore hafter
    cases hstrand : (σ.after n).strands[j]? with
    | none =>
      rw [after, hact, Machine.perform_of_none hstrand] at hafter
      exact absurd hafter hbefore
    | some strand =>
      have hat : σ.At j (n + 1) (((σ.after n).system strand).perform move) :=
        At.move ⟨strand, hstrand, rfl⟩ hact
      have hbegins := System.perform_begins ((σ.after n).system strand) move hmove
      have hstore := hat.store
      generalize ((σ.after n).system strand).perform move = t at hat hbegins hstore
      rw [← hstore] at hafter
      cases hbegins with
      | none hsame =>
        rw [hsame] at hafter
        exact absurd hafter hbefore
      | @began s thread e hsame =>
        rw [System.begun_dispose, hsame] at hafter
        -- it was not among those that had begun before the move, so it is the one that is run
        obtain hold | hnew := List.mem_append.mp hafter
        · exact absurd hold hbefore
        · have hde : d = e := by
            split at hnew
            · exact List.mem_singleton.mp hnew
            · cases hnew
          subst hde
          exact ⟨j, move, s, thread, rfl, hmove, hat⟩

end Schedule

end ForeignArena
