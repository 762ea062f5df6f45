import ForeignArena.Proofs.Calls
import ForeignArena.Proofs.Flags

namespace ForeignArena

/-!
# Where routines are called

The routines of a type are called for disposals, and each disposal is run on some warrant: a
closing has turned to it, a cleaner has begun it, or a client has asked for it.  The warrant lies
below the frame of the disposal, and a closing and a cleaner run their disposals on the thread on
which they run themselves.

* `Warrant`, `Warranted` — what lies below the frames of disposals;
* `System.Asks` — what a move calls: at most one routine, for the disposal on top;
* `System.perform_asks` — each move keeps the stack warranted and asks in this way;
* `Schedule.Asking`, `Schedule.calls_succ` — the calls of a run, one after the other.
-/

/-! ### Warrants -/

/-- What the disposal of an object by a thread rests on, where clients have asked for some. -/
inductive Warrant (asked : Disposal → Prop) (h : History) (thread : ThreadId)
    (d : Disposal) : List Frame → Prop where
  /-- A closing by the same thread has turned to the disposal. -/
  | closing (a n : Nat) (failures : List DisposalError) (todo : List Disposal)
      (rest : List Frame) : .attempting thread a d ∈ h →
    Warrant asked h thread d (.guarded d :: .sweeping thread a n failures todo :: rest)
  /-- A cleaner has begun it, on the same thread. -/
  | action (c token : Nat) (rest : List Frame) : .started thread c token (.dispose d) ∈ h →
    Warrant asked h thread d (.reporting thread c token :: .running thread c token :: rest)
  /-- A client has asked for it. -/
  | client (base : List Frame) : Grounded base → asked d → Warrant asked h thread d base
  /-- A client has asked for it, with its panics contained. -/
  | guarded (base : List Frame) : Grounded base → asked d →
    Warrant asked h thread d (.guarded d :: base)

/-- The disposal that waits in a frame for one of its routines, and its thread. -/
def Frame.disposal? : Frame → Option (ThreadId × Disposal)
  | counted thread d | destroying thread d => some (thread, d)
  | _ => none

/-- The routine for which a frame waits. -/
def Frame.routine? : Frame → Option Request
  | counted thread d => some (.count thread d.type d.address)
  | destroying thread d => some (.destroy thread d.type d.address)
  | _ => none

/-- A stack in which each disposal has its warrant. -/
def Warranted (asked : Disposal → Prop) (h : History) : List Frame → Prop
  | [] => True
  | f :: rest => (∀ run, f.disposal? = some run → Warrant asked h run.1 run.2 rest) ∧
    Warranted asked h rest

section

variable {asked asked' : Disposal → Prop} {h h' : History} {thread : ThreadId}
  {d : Disposal} {f : Frame} {rest : List Frame}

theorem Warrant.mono (hasked : ∀ d, asked d → asked' d) (hsub : h ⊆ h')
    (hrest : Warrant asked h thread d rest) : Warrant asked' h' thread d rest := by
  cases hrest with
  | closing a n failures todo rest hmem => exact .closing a n failures todo rest (hsub hmem)
  | action c token rest hmem => exact .action c token rest (hsub hmem)
  | client _ hbase hclient => exact .client _ hbase (hasked _ hclient)
  | guarded base hbase hclient => exact .guarded base hbase (hasked _ hclient)

theorem Warranted.mono (hasked : ∀ d, asked d → asked' d) (hsub : h ⊆ h')
    (hrest : Warranted asked h rest) : Warranted asked' h' rest := by
  induction rest with
  | nil => trivial
  | cons f rest ih => exact ⟨fun run hrun => (hrest.1 run hrun).mono hasked hsub, ih hrest.2⟩

/-- What has happened before is no less of a warrant after more has happened. -/
theorem Warranted.note (e : Happening) (hrest : Warranted asked h rest) :
    Warranted asked (e :: h) rest :=
  hrest.mono (fun _ => id) (List.subset_cons_self e h)

/-- Frames that run no disposal need no warrant. -/
theorem Warranted.cover (hrest : Warranted asked h rest) (hf : f.disposal? = none) :
    Warranted asked h (f :: rest) := by
  refine ⟨fun run hrun => ?_, hrest⟩
  rw [hf] at hrun
  cases hrun

/-- A closing that lies below the guard of a disposal is its warrant. -/
theorem Warrant.of_closing {other : Disposal} {v : ThreadId} {a n : Nat}
    {failures : List DisposalError} {todo : List Disposal}
    (hrest : Warrant asked h thread d (.guarded other :: .sweeping v a n failures todo :: rest)) :
    other = d ∧ v = thread ∧ .attempting thread a d ∈ h := by
  cases hrest with
  | closing _ _ _ _ _ hmem => exact ⟨rfl, rfl, hmem⟩
  | client _ hbase _ =>
    obtain hnil | ⟨r, base, hbase⟩ := hbase
    · cases hnil
    · cases hbase
  | guarded _ hbase _ =>
    obtain hnil | ⟨r, base, hbase⟩ := hbase
    · cases hnil
    · cases hbase

end

namespace System

/-! ### What a move calls -/

/-- The routines that were called for disposals. -/
def calls (s : System) : List Request := s.store.history.calls

/-- A stack on which each disposal has its warrant.  Of the routines called since some moment
    there is at most one, that for which the disposal on top waits. -/
structure Asks (asked : Disposal → Prop) (before : List Request) (s : System) :
    Prop where
  warranted : Warranted asked s.store.history s.stack
  calls : s.calls = before ∨ ∃ f r rest, f.routine? = some r ∧
    (s.stack = f :: rest ∨ s.stack = .awaiting r :: f :: rest) ∧ s.calls = before ++ [r]

variable {asked : Disposal → Prop} {before : List Request} {s : System}

/-- Other happenings call nothing. -/
theorem calls_note_of_none {e : Happening} (hcalls : s.calls = before) (he : e.call? = none) :
    (s.note e).calls = before := by
  rw [← hcalls]
  refine (History.calls_cons e s.store.history).trans ?_
  rw [he]
  exact List.append_nil _

/-- Nothing is called. -/
theorem asks_none (h : Warranted asked s.store.history s.stack) (hcalls : s.calls = before) :
    s.Asks asked before :=
  ⟨h, .inl hcalls⟩

theorem discard_asks {payload : Payload} {next : System → System}
    (h : Warranted asked s.store.history s.stack) (hcalls : s.calls = before)
    (hnext : (next s).Asks asked before) : (s.discard payload next).Asks asked before := by
  unfold discard
  split
  · exact asks_none h hcalls
  · exact hnext

/-- A disposal calls the routine for which it waits. -/
theorem asks_one {f : Frame} {r : Request} {rest : List Frame}
    (h : Warranted asked s.store.history s.stack) (hf : f.routine? = some r)
    (hstack : s.stack = f :: rest ∨ s.stack = .awaiting r :: f :: rest)
    (hcalls : s.calls = before ++ [r]) : s.Asks asked before :=
  ⟨h, .inr ⟨f, r, rest, hf, hstack, hcalls⟩⟩

section

variable (thread : ThreadId) (d : Disposal) (a c token n : Nat) (failures : List DisposalError)

/-- Asking for a count says nothing in the history, and leaves the stack or puts a request on
    it. -/
theorem askCount_view (s : System) (type : ForeignType) (address : Address) :
    (s.askCount thread type address).store = s.store ∧
      ((s.askCount thread type address).stack = s.stack ∨
        (s.askCount thread type address).stack =
          .awaiting (.count thread type address) :: s.stack) := by
  unfold askCount
  split
  · exact ⟨rfl, .inl rfl⟩
  · exact ⟨rfl, .inr rfl⟩

/-- Nor does calling a destroy routine. -/
theorem callDestroy_view (s : System) (type : ForeignType) (address : Address) :
    (s.callDestroy thread type address).store.history = s.store.history ∧
      ((s.callDestroy thread type address).stack = s.stack ∨
        (s.callDestroy thread type address).stack =
          .awaiting (.destroy thread type address) :: s.stack) := by
  have hhistory := s.store.history_afterDestroy type address
  unfold Store.afterDestroy at hhistory
  unfold callDestroy
  split
  · next hknown =>
    rw [hknown] at hhistory
    exact ⟨hhistory, .inl rfl⟩
  · next hknown =>
    rw [hknown] at hhistory
    exact ⟨hhistory, .inl rfl⟩
  · exact ⟨rfl, .inr rfl⟩

/-! ### The parts of the work -/

theorem destroy_asks (h : Warranted asked s.store.history s.stack) (hcalls : s.calls = before)
    (hwarrant : Warrant asked s.store.history thread d s.stack) :
    (s.destroy thread d).Asks asked before := by
  obtain ⟨hhistory, hstack⟩ := callDestroy_view thread
    ((s.note (.destroying thread d)).push (.destroying thread d)) d.type d.address
  have hnew : Warranted asked (.destroying thread d :: s.store.history)
      (.destroying thread d :: s.stack) := by
    refine ⟨fun run hrun => ?_, h.note _⟩
    cases hrun
    exact hwarrant.mono (fun _ => id) (List.subset_cons_self ..)
  have hall : (s.destroy thread d).calls = before ++ [.destroy thread d.type d.address] := by
    rw [← hcalls]
    exact (congrArg History.calls hhistory).trans (History.calls_cons ..)
  refine asks_one ?_ rfl hstack hall
  rw [show (s.destroy thread d).store.history = _ from hhistory]
  obtain hstack | hstack := hstack
  · exact hstack ▸ hnew
  · exact hstack ▸ hnew.cover rfl

theorem dispose_asks (h : Warranted asked s.store.history s.stack) (hcalls : s.calls = before)
    (hwarrant : Warrant asked s.store.history thread d s.stack) :
    (s.dispose thread d).Asks asked before := by
  have hbegun : Warrant asked (.began thread d :: s.store.history) thread d s.stack :=
    hwarrant.mono (fun _ => id) (List.subset_cons_self ..)
  unfold dispose
  dsimp only
  split
  · obtain ⟨hstore, hstack⟩ := askCount_view thread
      (((s.mapStore (·.begin thread d)).note (.counting thread d)).push (.counted thread d)) d.type
      d.address
    have hnew : Warranted asked (.counting thread d :: .began thread d :: s.store.history)
        (.counted thread d :: s.stack) := by
      refine ⟨fun run hrun => ?_, (h.note _).note _⟩
      cases hrun
      exact hbegun.mono (fun _ => id) (List.subset_cons_self ..)
    refine asks_one ?_ rfl hstack ?_
    · rw [hstore]
      obtain hstack | hstack := hstack
      · exact hstack ▸ hnew
      · exact hstack ▸ hnew.cover rfl
    · rw [← hcalls, calls, hstore]
      exact (History.calls_cons ..).trans (congrArg (· ++ _)
        ((History.calls_cons ..).trans (List.append_nil _)))
  · exact destroy_asks (s := s.mapStore (·.begin thread d)) thread d (h.note _)
      (((History.calls_cons ..).trans (List.append_nil _)).trans hcalls) hbegun

theorem resumeCounted_asks (count : Option UInt64) (h : Warranted asked s.store.history s.stack)
    (hcalls : s.calls = before) (hwarrant : Warrant asked s.store.history thread d s.stack) :
    (s.resumeCounted thread d count).Asks asked before := by
  unfold resumeCounted
  split
  · split
    · exact asks_none h hcalls
    · exact destroy_asks thread d h hcalls hwarrant
  · exact destroy_asks thread d h hcalls hwarrant

theorem sweep_asks (todo : List Disposal) (h : Warranted asked s.store.history s.stack)
    (hcalls : s.calls = before) : (s.sweep thread a n failures todo).Asks asked before := by
  cases todo with
  | nil =>
    unfold sweep
    dsimp only
    split
    · exact asks_none (h.note _) (calls_note_of_none hcalls rfl)
    · exact asks_none (h.note _) (calls_note_of_none hcalls rfl)
  | cons d rest =>
    -- the happening that warrants the disposal is noted first
    have hstack : Warranted asked (.attempting thread a d :: s.store.history)
        (.guarded d :: .sweeping thread a n failures rest :: s.stack) :=
      ((h.note _).cover rfl).cover rfl
    exact dispose_asks (s := ((s.note (.attempting thread a d)).push
      (.sweeping thread a n failures rest)).push (.guarded d)) thread d hstack
      (calls_note_of_none hcalls rfl)
      (.closing a n failures rest s.stack (List.mem_cons_self ..))

theorem resumeSweep_asks (todo : List Disposal) (result : Except DisposalError Unit)
    (h : Warranted asked s.store.history s.stack) (hcalls : s.calls = before) :
    (s.resumeSweep thread a n failures todo result).Asks asked before := by
  cases result with
  | ok _ => exact sweep_asks thread a n failures todo h hcalls
  | error e =>
    exact sweep_asks (s := s.note (.leaked thread a e)) thread a n (failures ++ [e]) todo (h.note _)
      (calls_note_of_none hcalls rfl)

theorem close_asks (h : Warranted asked s.store.history s.stack) (hcalls : s.calls = before) :
    (s.close thread a).Asks asked before := by
  unfold close
  dsimp only
  split
  · exact asks_none h hcalls
  · split
    · exact sweep_asks (s := (s.mapStore (·.modifyArena a _)).note (.closing thread a)) thread a _ []
        _ (h.note _) (calls_note_of_none (s := s.mapStore (·.modifyArena a _)) hcalls rfl)
    · exact asks_none h hcalls

theorem drop_asks (h : Warranted asked s.store.history s.stack) (hcalls : s.calls = before) :
    (s.drop thread a).Asks asked before := by
  unfold drop
  dsimp only
  split
  · exact asks_none h hcalls
  · split
    · exact asks_none (h.note _) (calls_note_of_none hcalls rfl)
    · exact close_asks (s := s.push (.dropping thread a)) thread a (h.cover rfl) hcalls

theorem runAction_asks (h : Warranted asked s.store.history s.stack) (hcalls : s.calls = before) :
    (s.runAction thread c token).Asks asked before := by
  unfold runAction
  split
  · exact asks_none h hcalls
  · next cleaner action _ =>
    have hnoted := h.note (.started thread c token action)
    have hquiet := calls_note_of_none (s := s.mapStore (·.modifyCleaner c fun _ => cleaner))
      (e := .started thread c token action) hcalls rfl
    cases action with
    | dispose d =>
      exact dispose_asks (s := ((((s.mapStore (·.modifyCleaner c fun _ => cleaner)).note
        (.started thread c token (.dispose d))).push (.running thread c token)).push
        (.reporting thread c token))) thread d ((hnoted.cover rfl).cover rfl) hquiet
        (.action c token s.stack (List.mem_cons_self ..))
    | supplied tag => exact asks_none ((hnoted.cover rfl).cover rfl) hquiet

theorem resumePanicked_asks (payload : Payload) (h : Warranted asked s.store.history s.stack)
    (hcalls : s.calls = before) : (s.resumePanicked thread c token payload).Asks asked before := by
  have hquiet := calls_note_of_none (s := s.mapStore (·.modifyCleaner c (·.fail)))
    (e := .actionPanicked thread c token payload.message) hcalls rfl
  unfold resumePanicked
  exact discard_asks (h.note _) hquiet (asks_none (h.note _) hquiet)

theorem takeAction_asks (h : Warranted asked s.store.history s.stack) (hcalls : s.calls = before) :
    (s.takeAction thread c token).Asks asked before :=
  asks_none (h.cover rfl) hcalls

theorem clean_asks (h : Warranted asked s.store.history s.stack) (hcalls : s.calls = before) :
    (s.clean thread c token).Asks asked before := by
  unfold clean
  split
  · exact takeAction_asks (s := s.mapStore _) thread c token h hcalls
  · exact asks_none h hcalls

theorem dropToken_asks (h : Warranted asked s.store.history s.stack) (hcalls : s.calls = before) :
    (s.dropToken thread c token).Asks asked before := by
  unfold dropToken
  split
  · dsimp only
    split
    · exact asks_none (h.note _) (calls_note_of_none (s := (s.mapStore _).mapStore _) hcalls rfl)
    · exact takeAction_asks (s := ((s.mapStore _).note _).push _) thread c token
        ((h.note _).cover rfl) (calls_note_of_none (s := s.mapStore _) hcalls rfl)
  · exact asks_none h hcalls

theorem receive_asks (h : Warranted asked s.store.history s.stack) (hcalls : s.calls = before) :
    (s.receive c).Asks asked before := by
  unfold receive
  split
  · exact asks_none h hcalls
  · exact takeAction_asks (s := ((s.mapStore _).note _).push _) _ c _ ((h.note _).cover rfl)
      (calls_note_of_none (s := s.mapStore _) hcalls rfl)

end

theorem start_asks (w : Work) {news : Option Outcome} (hfocus : s.focus = .client news)
    (hbase : Grounded s.stack) (hasked : ∀ d, Move.Disposes d (.start w) → asked d)
    (h : Warranted asked s.store.history s.stack) :
    (s.start w).Asks asked s.calls := by
  unfold start
  rw [hfocus]
  cases w with
  | count thread type address =>
    obtain ⟨hstore, hstack⟩ := askCount_view thread s type address
    refine asks_none ?_ (congrArg (·.history.calls) hstore)
    rw [hstore]
    obtain hstack | hstack := hstack
    · exact hstack ▸ h
    · exact hstack ▸ h.cover rfl
  | destroy thread type address =>
    obtain ⟨hhistory, hstack⟩ := callDestroy_view thread s type address
    refine asks_none ?_ (congrArg History.calls hhistory)
    rw [hhistory]
    obtain hstack | hstack := hstack
    · exact hstack ▸ h
    · exact hstack ▸ h.cover rfl
  | dispose thread d =>
    exact dispose_asks thread d h rfl (.client _ hbase (hasked d ⟨thread, .inl rfl⟩))
  | disposeGuarded thread d =>
    exact dispose_asks (s := s.push (.guarded d)) thread d (h.cover rfl) rfl
      (.guarded _ hbase (hasked d ⟨thread, .inr rfl⟩))
  | close thread a => exact close_asks thread a h rfl
  | drop thread a => exact drop_asks thread a h rfl
  | clean thread c token => exact clean_asks thread c token h rfl
  | dropRegistration thread r =>
    cases r with
    | plain => exact asks_none h rfl
    | tracked c token => exact dropToken_asks thread c token h rfl
  | receive c => exact receive_asks c h rfl

/-- Waiting work that gets an outcome goes on with its warrant. -/
theorem resume_asks (f : Frame) (o : Outcome) (h : Warranted asked s.store.history (f :: s.stack)) :
    (s.resume f o).Asks asked s.calls := by
  have hrest := h.2
  unfold resume
  split
  · exact asks_none h rfl
  · next thread d count =>
    exact resumeCounted_asks thread d count hrest rfl (h.1 (thread, d) rfl)
  · exact asks_none (hrest.note _) (calls_note_of_none rfl rfl)
  · next d payload => exact discard_asks hrest rfl (asks_none hrest rfl)
  · next thread a n failures todo result =>
    exact resumeSweep_asks thread a n failures todo result hrest rfl
  · exact asks_none (hrest.note _) (calls_note_of_none rfl rfl)
  · exact asks_none hrest rfl
  · exact asks_none (hrest.note _) (calls_note_of_none rfl rfl)
  · exact asks_none hrest rfl
  · next thread c token => exact runAction_asks thread c token hrest rfl
  · exact asks_none (hrest.note _) (calls_note_of_none (s := s.mapStore _) rfl rfl)
  · next thread c token payload => exact resumePanicked_asks thread c token payload hrest rfl
  · exact asks_none hrest rfl
  · exact asks_none hrest rfl
  · exact asks_none hrest rfl
  · exact asks_none hrest rfl

end System

/-- An operation calls no routine of a disposal. -/
theorem Change.calls_eq {operation : Operation} {s t : Site} (h : Change (.operate operation) s t) :
    t.1.history.calls = s.1.history.calls := by
  have hquiet (e : Happening) (he : e.call? = none) (h : History) :
      History.calls (e :: h) = h.calls := by
    rw [History.calls_cons, he]
    exact List.append_nil _
  cases h with
  | asked _ _ hmove | entered _ _ hmove => exact absurd rfl (hmove operation)
  | note e he => exact hquiet e (by cases e <;> first | rfl | cases he) _
  | called => simp
  | tracked | opened | accepted | swapped | abandoned | failed | swept | queued | received
  | tookSupplied | ended | panicked | begun => exact hquiet _ rfl _
  | attempted | tookDisposal => exact (hquiet _ rfl _).trans (hquiet _ rfl _)
  | _ => rfl

/-- What has happened stays in the history. -/
theorem Change.remembers {move : Move} {s t : Site} (h : Change move s t) :
    s.1.history ⊆ t.1.history := by
  cases h with
  | called | entered => simp
  | attempted | tookDisposal =>
    exact List.subset_cons_of_subset _ (List.subset_cons_self ..)
  | note | tracked | opened | accepted | swapped | abandoned | failed | swept | queued | received
  | tookSupplied | ended | panicked | begun | asked => exact List.subset_cons_self ..
  | _ => exact List.Subset.refl _

namespace System

variable {s : System}

theorem remembers (s : System) (move : Move) : s.store.history ⊆ (s.perform move).store.history :=
  (s.perform_changes move).keeps (fun site => s.store.history ⊆ site.1.history)
    (fun hchange hs => List.Subset.trans hs hchange.remembers) (List.Subset.refl _)

/-- **Each move keeps the stack warranted**, and calls at most one routine, for the disposal that
    is then on top. -/
theorem perform_asks (s : System) (move : Move)
    (hbase : ∀ news, s.focus = .client news → Grounded s.stack)
    (hasked : ∀ d, move.Disposes d → asked d) (h : Warranted asked s.store.history s.stack) :
    (s.perform move).Asks asked s.calls := by
  obtain ⟨store, stack, focus⟩ := s
  cases move with
  | start w =>
    unfold perform
    dsimp only
    split
    · cases focus with
      | handing o => exact asks_none h rfl
      | client news => exact start_asks w rfl (hbase news rfl) hasked h
    · exact asks_none h rfl
  | answer o =>
    show (System.answer _ o).Asks asked _
    unfold answer
    split
    · next r rest _ hstack =>
      dsimp only at hstack
      subst hstack
      split
      · exact asks_none h.2 rfl
      · exact asks_none h rfl
    · exact asks_none h rfl
  | tick =>
    cases focus with
    | client news => cases stack <;> exact asks_none h rfl
    | handing o =>
      cases stack with
      | nil => exact asks_none h rfl
      | cons f rest => exact resume_asks (s := ⟨store, rest, .handing o⟩) f o h
  | operate operation =>
    have hstack : (System.perform ⟨store, stack, focus⟩ (.operate operation)).stack = stack := by
      unfold perform
      dsimp only
      split
      · rfl
      · split <;> rfl
    have hcalls := (System.perform_changes ⟨store, stack, focus⟩ (.operate operation)).keeps
      (fun site => site.1.history.calls = store.history.calls)
      (fun hchange hs => hchange.calls_eq.trans hs) rfl
    refine asks_none ?_ hcalls
    rw [hstack]
    exact h.mono (fun _ => id) (System.remembers _ _)

end System

/-! ### The calls of a run -/

namespace Schedule

variable {σ : Schedule} {n m i : Nat}

/-- What has happened stays in the history. -/
theorem remembers (σ : Schedule) (hnm : n ≤ m) :
    (σ.after n).store.history ⊆ (σ.after m).store.history :=
  @σ.stays (fun st _ => (σ.after n).store.history ⊆ st.history) n m hnm (fun _ h => h)
    (fun _ _ _ hchange hs => List.Subset.trans hs hchange.remembers) (List.Subset.refl _)

/-- The routines that were called for disposals before moment `n`. -/
def calls (σ : Schedule) (n : Nat) : List Request := (σ.after n).store.history.calls

/-- Before moment `n` a client has begun a disposal of its own. -/
def Asked (σ : Schedule) (n : Nat) (d : Disposal) : Prop :=
  ∃ l j move, l < n ∧ σ l = .move j move ∧ move.Disposes d

theorem Asked.mono {d : Disposal} (hnm : n ≤ m) (h : σ.Asked n d) : σ.Asked m d := by
  obtain ⟨l, j, move, hl, hact, hdisposes⟩ := h
  exact ⟨l, j, move, Nat.lt_of_lt_of_le hl hnm, hact, hdisposes⟩

/-- On every strand each disposal has its warrant. -/
theorem warranted {strand : Strand} (h : (σ.after n).strands[i]? = some strand) :
    Warranted (σ.Asked n) (σ.after n).store.history strand.stack := by
  induction n generalizing strand with
  | zero => cases h
  | succ n ih =>
    have hgrows := σ.remembers (Nat.le_succ n)
    obtain rfl | hbefore | ⟨before, move, hact, hbefore, rfl⟩ := Machine.strand_origin h
    · trivial
    · exact (ih hbefore).mono (fun _ => .mono (Nat.le_succ n)) hgrows
    · have hasked (d : Disposal) (hd : move.Disposes d) : σ.Asked (n + 1) d :=
        ⟨n, i, move, Nat.lt_succ_self n, hact, hd⟩
      have hasks := ((σ.after n).system before).perform_asks move (fun news hfocus => ?_) hasked
        ((ih hbefore).mono (fun _ => .mono (Nat.le_succ n)) fun _ => id)
      · rw [after, hact, Machine.store_perform hbefore]
        exact hasks.warranted
      · obtain ⟨stack, focus⟩ := before
        cases hfocus
        exact σ.grounded n i hbefore

/-- With the act of moment `n` strand `i` calls a routine for a disposal, which waits for it over
    some other work. -/
structure Asking (σ : Schedule) (n i : Nat) (r : Request) (thread : ThreadId) (d : Disposal)
    (rest : List Frame) : Prop where
  act : ∃ move, σ n = .move i move
  calls : σ.calls (n + 1) = σ.calls n ++ [r]
  routine : d.Routine thread r
  waits : ∃ strand f, (σ.after (n + 1)).strands[i]? = some strand ∧
    f.disposal? = some (thread, d) ∧
    (strand.stack = f :: rest ∨ strand.stack = .awaiting r :: f :: rest)

/-- A disposal calls its routines on the thread on which it runs. -/
theorem Asking.thread {r : Request} {thread : ThreadId} {d : Disposal} {rest : List Frame}
    (h : σ.Asking n i r thread d rest) : r.thread = thread := by
  obtain rfl | rfl := h.routine <;> rfl

/-- Each disposal that calls a routine has its warrant. -/
theorem Asking.warrant {r : Request} {thread : ThreadId} {d : Disposal} {rest : List Frame}
    (h : σ.Asking n i r thread d rest) :
    Warrant (σ.Asked (n + 1)) (σ.after (n + 1)).store.history thread d rest := by
  obtain ⟨strand, f, hstrand, hf, hstack⟩ := h.waits
  have hwarranted := warranted hstrand
  obtain hstack | hstack := hstack
  · rw [hstack] at hwarranted
    exact hwarranted.1 _ hf
  · rw [hstack] at hwarranted
    exact hwarranted.2.1 _ hf

/-- **The calls of a run come one after the other**, each for one disposal. -/
theorem calls_succ (σ : Schedule) (n : Nat) :
    σ.calls (n + 1) = σ.calls n ∨ ∃ i r thread d rest, σ.Asking n i r thread d rest := by
  have hsame {m : Machine} (hm : (σ.after n).perform (σ n) = m)
      (hstore : m.store = (σ.after n).store) : σ.calls (n + 1) = σ.calls n := by
    rw [calls, after, hm, hstore]
    rfl
  cases hact : σ n with
  | spawn => exact .inl (hsame rfl (by rw [hact]; rfl))
  | move i move =>
    cases hstrand : (σ.after n).strands[i]? with
    | none => exact .inl (hsame (by rw [hact, Machine.perform_of_none hstrand]) rfl)
    | some strand =>
      have hasked (d : Disposal) (hd : move.Disposes d) : σ.Asked (n + 1) d :=
        ⟨n, i, move, Nat.lt_succ_self n, hact, hd⟩
      have hbase (news : Option Outcome)
          (hfocus : ((σ.after n).system strand).focus = .client news) :
          Grounded ((σ.after n).system strand).stack := by
        obtain ⟨stack, focus⟩ := strand
        cases hfocus
        exact σ.grounded n i hstrand
      have hasks := ((σ.after n).system strand).perform_asks move hbase hasked
        ((warranted hstrand).mono (fun _ => .mono (Nat.le_succ n)) fun _ => id)
      have hafter : σ.after (n + 1) = (σ.after n).perform (.move i move) := by rw [after, hact]
      have hcalls : σ.calls (n + 1) = (((σ.after n).system strand).perform move).calls := by
        rw [calls, hafter, Machine.store_perform hstrand]
        rfl
      obtain hnone | ⟨f, r, rest, hf, hstack, hone⟩ := hasks.calls
      · exact .inl (hcalls.trans hnone)
      · right
        obtain ⟨thread, d, hd, hr⟩ : ∃ thread d, f.disposal? = some (thread, d) ∧
            d.Routine thread r := by
          cases f with
          | counted thread d => exact ⟨thread, d, rfl, .inl (Option.some.inj hf).symm⟩
          | destroying thread d => exact ⟨thread, d, rfl, .inr (Option.some.inj hf).symm⟩
          | _ => cases hf
        exact ⟨i, r, thread, d, rest, ⟨move, hact⟩, hcalls.trans hone, hr, _, f,
          by rw [hafter]; exact Machine.strand_perform hstrand move, hd, hstack⟩

end Schedule

end ForeignArena
