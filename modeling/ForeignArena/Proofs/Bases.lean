import ForeignArena.Proofs.Calls

namespace ForeignArena

/-!
# Work on another base

Work looks at its own frames only.  So it does the same whatever lies below them, until an outcome
has come out of the last of them.

* `System.onto` — a system over some more frames;
* `System.start_onto`, `System.resume_onto` — starting work, and going on with it;
* `System.perform_onto` — and each move of a system in which something waits.
-/

namespace System

/-- The system over some more frames. -/
def onto (s : System) (base : List Frame) : System :=
  { s with stack := s.stack ++ base }

@[simp] theorem store_onto (s : System) (base : List Frame) : (s.onto base).store = s.store := rfl

@[simp] theorem focus_onto (s : System) (base : List Frame) : (s.onto base).focus = s.focus := rfl

@[simp] theorem stack_onto (s : System) (base : List Frame) :
    (s.onto base).stack = s.stack ++ base := rfl

variable (s : System) (base : List Frame) (thread : ThreadId) (d : Disposal) (a c token n : Nat)
  (failures : List DisposalError)

/-! ### The parts of the work -/

theorem discard_onto (payload : Payload) (next : System → System)
    (hnext : next (s.onto base) = (next s).onto base) :
    (s.onto base).discard payload next = (s.discard payload next).onto base := by
  unfold discard
  cases payload.dropped? with
  | none => exact hnext
  | some again => rfl

theorem askCount_onto (type : ForeignType) (address : Address) :
    (s.onto base).askCount thread type address = (s.askCount thread type address).onto base := by
  unfold askCount
  rw [store_onto]
  cases s.store.knownCount? type address <;> rfl

theorem callDestroy_onto (type : ForeignType) (address : Address) :
    (s.onto base).callDestroy thread type address =
      (s.callDestroy thread type address).onto base := by
  unfold callDestroy
  rw [store_onto]
  cases s.store.destroyKnown? type address with
  | none => rfl
  | some known =>
    obtain ⟨store, panic⟩ := known
    cases panic <;> rfl

theorem destroy_onto : (s.onto base).destroy thread d = (s.destroy thread d).onto base :=
  callDestroy_onto ((s.note (.destroying thread d)).push (.destroying thread d)) base thread d.type
    d.address

theorem dispose_onto : (s.onto base).dispose thread d = (s.dispose thread d).onto base := by
  unfold dispose
  dsimp only
  split
  · exact askCount_onto (((s.mapStore (·.begin thread d)).note (.counting thread d)).push
      (.counted thread d)) base thread d.type d.address
  · exact destroy_onto (s.mapStore (·.begin thread d)) base thread d

theorem disposeGuarded_onto :
    (s.onto base).disposeGuarded thread d = (s.disposeGuarded thread d).onto base :=
  dispose_onto (s.push (.guarded d)) base thread d

theorem resumeCounted_onto (count : Option UInt64) :
    (s.onto base).resumeCounted thread d count = (s.resumeCounted thread d count).onto base := by
  unfold resumeCounted
  cases count with
  | none => exact destroy_onto s base thread d
  | some n =>
    dsimp only
    split
    · rfl
    · exact destroy_onto s base thread d

theorem sweep_onto (todo : List Disposal) :
    (s.onto base).sweep thread a n failures todo = (s.sweep thread a n failures todo).onto base := by
  cases todo with
  | nil =>
    unfold sweep
    dsimp only
    split <;> rfl
  | cons d rest =>
    exact disposeGuarded_onto ((s.note (.attempting thread a d)).push
      (.sweeping thread a n failures rest)) base thread d

theorem resumeSweep_onto (todo : List Disposal) (result : Except DisposalError Unit) :
    (s.onto base).resumeSweep thread a n failures todo result =
      (s.resumeSweep thread a n failures todo result).onto base := by
  cases result with
  | ok _ => exact sweep_onto s base thread a n failures todo
  | error e => exact sweep_onto (s.note (.leaked thread a e)) base thread a n (failures ++ [e]) todo

theorem close_onto : (s.onto base).close thread a = (s.close thread a).onto base := by
  unfold close
  rw [store_onto]
  dsimp only
  cases (s.store.arena a).confinement.check thread with
  | error e => rfl
  | ok _ =>
    dsimp only
    split
    · exact sweep_onto ((s.mapStore (·.modifyArena a fun _ => (s.store.arena a).takePending.1)).note
        (.closing thread a)) base thread a _ [] _
    · rfl

theorem drop_onto : (s.onto base).drop thread a = (s.drop thread a).onto base := by
  unfold drop
  rw [store_onto]
  dsimp only
  split
  · rfl
  · split
    · rfl
    · exact close_onto (s.push (.dropping thread a)) base thread a

theorem runAction_onto : (s.onto base).runAction thread c token =
    (s.runAction thread c token).onto base := by
  unfold runAction
  rw [store_onto]
  cases (s.store.cleaner c).take? token with
  | none => rfl
  | some taken =>
    obtain ⟨cleaner, action⟩ := taken
    cases action with
    | supplied tag => rfl
    | dispose d =>
      exact dispose_onto ((((s.mapStore (·.modifyCleaner c fun _ => cleaner)).note
        (.started thread c token (.dispose d))).push (.running thread c token)).push
        (.reporting thread c token)) base thread d

theorem resumePanicked_onto (payload : Payload) :
    (s.onto base).resumePanicked thread c token payload =
      (s.resumePanicked thread c token payload).onto base := by
  unfold resumePanicked
  exact discard_onto ((s.mapStore (·.modifyCleaner c (·.fail))).note
    (.actionPanicked thread c token payload.message)) base payload (·.reply (.cleaned true)) rfl

theorem clean_onto : (s.onto base).clean thread c token = (s.clean thread c token).onto base := by
  unfold clean
  rw [store_onto]
  split <;> rfl

theorem dropToken_onto :
    (s.onto base).dropToken thread c token = (s.dropToken thread c token).onto base := by
  unfold dropToken
  rw [store_onto]
  dsimp only
  split
  · rw [show ((s.onto base).mapStore (·.modifyCleaner c (·.spend token))).store =
      (s.mapStore (·.modifyCleaner c (·.spend token))).store from rfl]
    split <;> rfl
  · rfl

theorem receive_onto : (s.onto base).receive c = (s.receive c).onto base := by
  unfold receive
  rw [store_onto]
  cases (s.store.cleaner c).dequeue? with
  | none => rfl
  | some received => rfl

/-! ### Moves -/

theorem start_onto (w : Work) : (s.onto base).start w = (s.start w).onto base := by
  unfold start
  rw [focus_onto]
  cases s.focus with
  | handing o => rfl
  | client news =>
    cases w with
    | count thread type address => exact askCount_onto s base thread type address
    | destroy thread type address => exact callDestroy_onto s base thread type address
    | dispose thread d => exact dispose_onto s base thread d
    | disposeGuarded thread d => exact disposeGuarded_onto s base thread d
    | close thread a => exact close_onto s base thread a
    | drop thread a => exact drop_onto s base thread a
    | clean thread c token => exact clean_onto s base thread c token
    | dropRegistration thread r =>
      cases r with
      | plain => rfl
      | tracked c token => exact dropToken_onto s base thread c token
    | receive c => exact receive_onto s base c

theorem resume_onto (f : Frame) (o : Outcome) :
    (s.onto base).resume f o = (s.resume f o).onto base := by
  unfold resume
  split
  · rfl
  · next thread d count => exact resumeCounted_onto s base thread d count
  · rfl
  · next d payload => exact discard_onto s base payload (·.reply _) rfl
  · next thread a n failures todo result =>
    exact resumeSweep_onto s base thread a n failures todo result
  · rfl
  · rfl
  · rfl
  · rfl
  · next thread c token => exact runAction_onto s base thread c token
  · rfl
  · next thread c token payload => exact resumePanicked_onto s base thread c token payload
  · rfl
  · rfl
  · rfl
  · rfl

variable {s}

/-- **Each move is the same on another base**, as long as some frames lie over it. -/
theorem perform_onto (hstack : s.stack ≠ []) (move : Move) :
    (s.onto base).perform move = (s.perform move).onto base := by
  -- work, answers and steps look at the top frame only, and operations at the store
  obtain ⟨store, stack, focus⟩ := s
  obtain ⟨f, rest, rfl⟩ := List.exists_cons_of_ne_nil hstack
  cases move with
  | start w =>
    unfold perform
    dsimp only
    rw [store_onto]
    split
    · exact start_onto _ base w
    · rfl
  | answer o =>
    cases focus with
    | handing p => rfl
    | client news =>
      cases f with
      | awaiting r =>
        show (if r.admits o then _ else _) = onto (if r.admits o then _ else _) base
        split <;> rfl
      | _ => rfl
  | tick =>
    cases focus with
    | handing o => exact resume_onto ⟨store, rest, .handing o⟩ base f o
    | client news => rfl
  | operate operation =>
    cases focus with
    | handing o => rfl
    | client news =>
      show (if store.admits operation then _ else _) = onto (if store.admits operation then _ else _) base
      split <;> rfl

end System

end ForeignArena
