import ForeignArena.Proofs.Changes.Basic

namespace ForeignArena

/-!
# The changes of work

Starting work, going on with it, and answering for supplied code are chains of changes.
There is one lemma for each part of the work; those of the parts that take a disposal or
an action up start at the frame that held it.

* `System.start_changes`, `System.answer_changes`, `System.tick_changes` — the three moves;
* `System.resume_changes` — waiting work that gets the outcome it waited for.
-/

namespace System

variable {move : Move}

/-- The store and the stack of a system. -/
def site (s : System) : Site := (s.store, s.stack)

@[simp] theorem site_hand (s : System) (o : Outcome) : (s.hand o).site = s.site := rfl

@[simp] theorem site_reply (s : System) (r : Reply) : (s.reply r).site = s.site := rfl

@[simp] theorem site_yield (s : System) (news : Option Outcome) : (s.yield news).site = s.site := rfl

theorem site_discard (s : System) (payload : Payload) (next : System → System)
    (h : (next s).site = s.site) : (s.discard payload next).site = s.site := by
  unfold discard
  split
  · rfl
  · exact h

/-- A chain that ends with one more plain frame. -/
theorem changes_push {start : Site} {s : System} (h : Changes move start s.site) (f : Frame)
    (hf : f.isPlain) : Changes move start (s.push f).site :=
  h.tail (.push f hf)

theorem askCount_changes (s : System) (thread : ThreadId) (type : ForeignType)
    (address : Address) : Changes move s.site (s.askCount thread type address).site := by
  unfold askCount
  split
  · exact .refl
  · exact changes_push .refl _ rfl

theorem callDestroy_changes (s : System) (thread : ThreadId) (type : ForeignType)
    (address : Address) :
    Changes move (s.store.afterDestroy type address, s.stack)
      (s.callDestroy thread type address).site := by
  unfold callDestroy Store.afterDestroy
  cases s.store.destroyKnown? type address with
  | none => exact changes_push .refl (.awaiting (.destroy thread type address)) rfl
  | some known =>
    obtain ⟨after, panic⟩ := known
    cases panic with
    | none => exact .refl
    | some payload => exact .refl

/-- The last part of a disposal, as it leaves its `counted` frame. -/
theorem destroy_changes (s : System) (thread : ThreadId) (d : Disposal)
    (hmove : ∀ operation, move ≠ .operate operation) :
    Changes move (s.store, .counted thread d :: s.stack) (s.destroy thread d).site :=
  .head (.entered thread d hmove)
    (callDestroy_changes ((s.note (.destroying thread d)).push (.destroying thread d)) thread
      d.type d.address)

/-- A disposal, once it has begun. -/
theorem dispose_changes (s : System) (thread : ThreadId) (d : Disposal)
    (hmove : ∀ operation, move ≠ .operate operation) :
    Changes move (s.store.begin thread d, .counted thread d :: s.stack)
      (s.dispose thread d).site := by
  unfold dispose
  dsimp only
  split
  · refine .trans ?_ (askCount_changes _ thread d.type d.address)
    exact .single (.asked thread d hmove)
  · exact destroy_changes (s.mapStore (·.begin thread d)) thread d hmove

theorem resumeCounted_changes (s : System) (thread : ThreadId) (d : Disposal)
    (count : Option UInt64) (hmove : ∀ operation, move ≠ .operate operation) :
    Changes move (s.store, .counted thread d :: s.stack) (s.resumeCounted thread d count).site := by
  unfold resumeCounted
  split
  · split
    · exact .single (.pop _ rfl)
    · exact destroy_changes s thread d hmove
  · exact destroy_changes s thread d hmove

/-- A closing that has some disposals still to do. -/
theorem sweep_changes (s : System) (thread : ThreadId) (a n : Nat)
    (failures : List DisposalError) (todo : List Disposal)
    (hmove : ∀ operation, move ≠ .operate operation) :
    Changes move (s.store, .sweeping thread a n failures todo :: s.stack)
      (s.sweep thread a n failures todo).site := by
  cases todo with
  | nil =>
    have hend : (s.sweep thread a n failures []).site
        = (s.store.note (.arenaClosed thread a n failures.length), s.stack) := by
      unfold sweep
      dsimp only
      split <;> rfl
    rw [hend]
    exact .single (.swept thread a n failures)
  | cons d rest =>
    exact .head (.attempted thread a n failures d rest hmove)
      (dispose_changes (((s.note (.attempting thread a d)).push
        (.sweeping thread a n failures rest)).push (.guarded d)) thread d hmove)

theorem resumeSweep_changes (s : System) (thread : ThreadId) (a n : Nat)
    (failures : List DisposalError) (todo : List Disposal) (result : Except DisposalError Unit)
    (hmove : ∀ operation, move ≠ .operate operation) :
    Changes move (s.store, .sweeping thread a n failures todo :: s.stack)
      (s.resumeSweep thread a n failures todo result).site := by
  cases result with
  | ok _ => exact sweep_changes s thread a n failures todo hmove
  | error e =>
    exact .head (.failed thread a n failures todo e)
      (sweep_changes (s.note (.leaked thread a e)) thread a n (failures ++ [e]) todo hmove)

theorem close_changes (s : System) (thread : ThreadId) (a : Nat)
    (hmove : move = .start (.close thread a) ∨ move = .start (.drop thread a)) :
    Changes move s.site (s.close thread a).site := by
  unfold close
  dsimp only
  split
  · exact .refl
  · split
    · next hcheck hactive =>
      exact .head (.swapped thread a hmove hcheck hactive)
        (sweep_changes ((s.mapStore (·.modifyArena a fun _ => (s.store.arena a).takePending.1)).note
          (.closing thread a)) thread a _ [] _ (by rintro operation rfl; simp at hmove))
    · exact .refl

theorem drop_changes (s : System) (thread : ThreadId) (a : Nat)
    (hmove : move = .start (.drop thread a)) : Changes move s.site (s.drop thread a).site := by
  unfold drop
  dsimp only
  split
  · exact .refl
  · next hactive =>
    have hactive : (s.store.arena a).isActive = true := by simpa using hactive
    split
    · next hadmits =>
      exact .single (.abandoned thread a hmove (by simpa using hadmits) hactive)
    · exact .trans (changes_push .refl (.dropping thread a) rfl)
        (close_changes _ thread a (.inr hmove))

/-- The action of a token that is used up. -/
theorem runAction_changes (s : System) (thread : ThreadId) (c token : Nat) :
    Changes .tick (s.store, .taking thread c token :: s.stack)
      (s.runAction thread c token).site := by
  unfold runAction
  split
  · next hnone => exact .single (.missed thread c token rfl hnone)
  · next cleaner action htake =>
    cases action with
    | supplied tag =>
      exact .tail (.single (.tookSupplied thread c token tag cleaner rfl htake))
        (.push (.awaiting (.action thread tag)) rfl)
    | dispose d =>
      exact .head (.tookDisposal thread c token d cleaner rfl htake)
        (dispose_changes ((((s.mapStore (·.modifyCleaner c fun _ => cleaner)).note
          (.started thread c token (.dispose d))).push (.running thread c token)).push
          (.reporting thread c token)) thread d (by simp))

theorem clean_changes (s : System) (thread : ThreadId) (c token : Nat)
    (hmove : move = .start (.clean thread c token)) :
    Changes move s.site (s.clean thread c token).site := by
  unfold clean
  split
  · next hmem => exact .single (.spent thread c token ⟨thread, .inl hmove⟩ hmem)
  · exact .refl

theorem dropToken_changes (s : System) (thread : ThreadId) (c token : Nat)
    (hmove : move = .start (.dropRegistration thread (.tracked c token))) :
    Changes move s.site (s.dropToken thread c token).site := by
  unfold dropToken
  split
  · next hmem =>
    dsimp only
    split
    · next hreceiving =>
      have hbefore : (s.store.cleaner c).isReceiving = true := by
        rw [← Store.isReceiving_spend s.store c token]
        exact hreceiving
      exact .single (.queued thread c token hmove hmem hbefore)
    · exact .tail (.tail (.single (.note (.threadGone thread c token) rfl)) (.push .inline rfl))
        (.spent thread c token ⟨thread, .inr hmove⟩ hmem)
  · exact .refl

theorem receive_changes (s : System) (c : Nat) (hmove : move = .start (.receive c)) :
    Changes move s.site (s.receive c).site := by
  unfold receive
  split
  · exact .refl
  · next cleaner token hdequeue =>
    exact .single (.received (.reclaimer c cleaner.threadName) c token cleaner hmove hdequeue)

/-- Work that gets the outcome it waited for.  Actions begin and end in a step, and threads die
    in one. -/
theorem resume_changes (s : System) (f : Frame) (o : Outcome)
    (hmove : ∀ operation, move ≠ .operate operation) (htick : f.isLoose = false → move = .tick) :
    Changes move (s.store, f :: s.stack) (s.resume f o).site := by
  unfold resume
  split
  · exact .refl
  · next thread d count => exact resumeCounted_changes s thread d count hmove
  · next thread d _ =>
    exact .tail (.single (.pop (.destroying thread d) rfl)) (.note (.destroyed thread d) rfl)
  · next d payload =>
    rw [contain, site_discard _ _ _ rfl]
    exact .single (.pop (.guarded d) rfl)
  · next thread a n failures todo result =>
    exact resumeSweep_changes s thread a n failures todo result hmove
  · next thread a e =>
    exact .tail (.single (.pop (.dropping thread a) rfl)) (.note (.dropFailed thread a e) rfl)
  · next thread a _ _ => exact .single (.pop (.dropping thread a) rfl)
  · next thread c token e =>
    exact .tail (.single (.pop (.reporting thread c token) rfl))
      (.note (.autoFailed thread c token e) rfl)
  · next thread c token _ _ => exact .single (.pop (.reporting thread c token) rfl)
  · next _ thread c token =>
    obtain rfl := htick rfl
    exact runAction_changes s thread c token
  · next thread c token _ => exact .single (.ended thread c token (htick rfl))
  · next thread c token payload =>
    rw [resumePanicked, site_discard _ _ _ rfl]
    exact .single (.panicked thread c token payload.message (htick rfl))
  · exact .single (.pop .inline rfl)
  · next c _ => exact .single (.resumed c)
  · next c payload => exact .single (.died c (htick rfl))
  · -- all other frames just pass the outcome on
    have hloose : f.isLoose := by
      cases f <;> cases o <;> grind [Frame.isLoose, Frame.isPlain]
    exact .single (.pop f hloose)

theorem tick_changes (s : System) : Changes .tick s.site s.tick.site := by
  obtain ⟨store, stack, focus⟩ := s
  cases focus with
  | client news => cases stack <;> exact .refl
  | handing o =>
    cases stack with
    | nil => exact .refl
    | cons f rest =>
      exact resume_changes ⟨store, rest, .handing o⟩ f o (by simp) fun _ => rfl

theorem answer_changes (s : System) (o : Outcome) : Changes move s.site (s.answer o).site := by
  obtain ⟨store, stack, focus⟩ := s
  unfold answer
  split
  · next r rest hfocus hstack =>
    split
    · dsimp only at hstack
      subst hstack
      exact .single (.pop (.awaiting r) rfl)
    · exact .refl
  · exact .refl

theorem start_changes (s : System) (w : Work) (hadmits : s.store.admitsWork w) :
    Changes (.start w) s.site (s.start w).site := by
  unfold start
  split
  · exact .refl
  · cases w with
    | count thread type address => exact askCount_changes s thread type address
    | destroy thread type address =>
      exact .head (.called thread type address rfl) (callDestroy_changes s thread type address)
    | dispose thread d =>
      have hflag : d.flag < s.store.flags.size := by simpa [Store.admitsWork] using hadmits
      exact .head (.begun thread d (.inl rfl) hflag) (dispose_changes s thread d (by simp))
    | disposeGuarded thread d =>
      have hflag : d.flag < s.store.flags.size := by simpa [Store.admitsWork] using hadmits
      exact .head (.push (.guarded d) rfl)
        (.head (.begun thread d (.inr rfl) hflag)
          (dispose_changes (s.push (.guarded d)) thread d (by simp)))
    | close thread a => exact close_changes s thread a (.inl rfl)
    | drop thread a => exact drop_changes s thread a rfl
    | clean thread c token => exact clean_changes s thread c token rfl
    | dropRegistration thread r =>
      cases r with
      | plain => exact .refl
      | tracked c token => exact dropToken_changes s thread c token rfl
    | receive c => exact receive_changes s c rfl

end System

end ForeignArena
