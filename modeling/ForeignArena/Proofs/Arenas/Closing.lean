import ForeignArena.Proofs.Arenas.Life
import ForeignArena.Proofs.Calls

namespace ForeignArena

/-!
# The call that closes a scoped arena

The call that finds an arena active runs its disposals before it returns.  It goes through
two stages: first it is at work on the disposals, with its `sweeping` frame at the bottom,
then it leaves, as the outcome passes the frame of the drop if there is one.

* `System.Disposing`, `System.Leaving` — the two stages;
* `System.start_closing` — the call begins in one of them;
* `System.Disposing.perform`, `System.Leaving.perform` — and stays in them up to its end;
* `Changes.closing` — outside such a call nothing becomes of the disposals of an arena, and
  no active arena becomes closed.
-/

/-- What lies below the disposals of a closing: the base of the call, and the frame of the
    drop if it is a drop that closes the arena. -/
def ClosingBase (a : Nat) (base low : List Frame) : Prop :=
  low = base ∨ ∃ thread, low = .dropping thread a :: base

namespace System

/-- A call over a base is at work on the disposals of an arena. -/
def Disposing (s : System) (a : Nat) (base : List Frame) : Prop :=
  ∃ thread n failures todo low,
    s.Serves .disposed (.sweeping thread a n failures todo :: low) ∧ ClosingBase a base low

/-- A call over a base has no more to do with the disposals of an arena, and is about to
    return.  Unless it panics, it has run them all. -/
structure Leaving (s : System) (a : Nat) (base : List Frame) : Prop where
  low : ClosingBase a base s.stack
  none : (s.site.arenaView a).sweeps = []
  handing : ∃ o, s.focus = .handing o ∧ ∀ r, o = .ok r →
    s.store.history.attempted a = s.store.history.accepted a

variable {s : System} {a : Nat} {base : List Frame}

theorem leaving_hand {o : Outcome} (hlow : ClosingBase a base s.stack)
    (hnone : (s.site.arenaView a).sweeps = [])
    (hall : ∀ r, o = .ok r → s.store.history.attempted a = s.store.history.accepted a) :
    (s.hand o).Leaving a base :=
  ⟨hlow, hnone, o, rfl, hall⟩

/-- A closing goes on with its disposals, or has run them all. -/
theorem sweep_closing (thread : ThreadId) (n : Nat) (failures : List DisposalError)
    (todo : List Disposal) (hlow : ClosingBase a base s.stack)
    (hnone : (s.site.arenaView a).sweeps = [])
    (hall : todo = [] → s.store.history.attempted a = s.store.history.accepted a) :
    (s.sweep thread a n failures todo).Disposing a base ∨
      (s.sweep thread a n failures todo).Leaving a base := by
  cases todo with
  | cons d rest =>
    left
    exact ⟨thread, n, failures, rest, s.stack, sweep_cons_serves thread d a n failures rest rfl, hlow⟩
  | nil =>
    right
    have hend : (s.note (.arenaClosed thread a n failures.length)).store.history.attempted a =
        (s.note (.arenaClosed thread a n failures.length)).store.history.accepted a := by
      simpa [note, mapStore] using hall rfl
    unfold sweep
    dsimp only
    split
    · exact leaving_hand hlow hnone fun _ _ => hend
    · exact leaving_hand hlow hnone fun _ _ => hend

/-- Closing an active arena. -/
theorem close_closing (thread : ThreadId) (hlow : ClosingBase a base s.stack)
    (hsound : (s.site.arenaView a).Sound) (hactive : (s.store.arena a).isActive)
    (hclosed : ((s.close thread a).store.arena a).state = .closed) :
    (s.close thread a).Disposing a base ∨ (s.close thread a).Leaving a base := by
  have hstate : (s.store.arena a).state = .active := by simpa [Arena.isActive] using hactive
  obtain ⟨-, -, haccepted, hattempted, -, hnone⟩ := hsound.of_isActive hactive
  unfold close at hclosed ⊢
  dsimp only at hclosed ⊢
  split
  · next hcheck =>
    simp only [hcheck] at hclosed
    rw [show ((s.reply _).store.arena a).state = (s.store.arena a).state from rfl, hstate] at hclosed
    cases hclosed
  · rw [if_pos hactive]
    refine sweep_closing thread _ [] _ hlow hnone fun hempty => ?_
    have hattempted : s.store.history.attempted a = [] := hattempted
    have haccepted : s.store.history.accepted a = (s.store.arena a).pending.toList := haccepted
    simpa [note, mapStore, hattempted, haccepted, Arena.takePending] using hempty

/-- **The call that closes an arena** is at work on its disposals at once, or has none. -/
theorem start_closing (w : Work) {thread : ThreadId} {news : Option Outcome}
    (hwork : w = .close thread a ∨ w = .drop thread a) (hfocus : s.focus = .client news)
    (hsound : (s.site.arenaView a).Sound) (hactive : (s.store.arena a).isActive)
    (hclosed : ((s.start w).store.arena a).state = .closed) :
    (s.start w).Disposing a s.stack ∨ (s.start w).Leaving a s.stack := by
  unfold start at hclosed ⊢
  rw [hfocus] at hclosed ⊢
  obtain rfl | rfl := hwork
  · exact close_closing thread (.inl rfl) hsound hactive hclosed
  · dsimp only at hclosed ⊢
    unfold drop at hclosed ⊢
    dsimp only at hclosed ⊢
    rw [if_neg (by simp [hactive])] at hclosed ⊢
    split at hclosed
    · -- a drop on the wrong thread abandons the arena and does not close it
      have hknown := Change.known_of_isActive hactive
      simp [mapStore, note, Store.arena_modifyArena, hknown, Arena.abandon, reply, hand] at hclosed
    · next hadmits =>
      rw [if_neg hadmits]
      exact close_closing thread (.inr ⟨thread, rfl⟩) hsound hactive hclosed

/-- A call at work on disposals stays so, or turns to leave. -/
theorem Disposing.perform (h : s.Disposing a base) (hsound : (s.site.arenaView a).Sound)
    (move : Move) : (s.perform move).Disposing a base ∨ (s.perform move).Leaving a base := by
  obtain ⟨thread, n, failures, todo, low, hserves, hlow⟩ := h
  obtain hends | hserves' := perform_serves move hserves
  · obtain ⟨hstack, o, hfocus, ho⟩ := hends
    by_cases hmove : move = .tick
    · subst hmove
      have htick : s.perform .tick =
          ({ s with stack := low } : System).resume (.sweeping thread a n failures todo) o := by
        simp only [System.perform, tick, hfocus, hstack]
      -- what the frame has still to do is what is missing from the disposals that were run
      have hsweeps : (s.site.arenaView a).sweeps = todo :: low.filterMap (Frame.todoOf? a) := by
        simp [Site.arenaView, site, hstack, Frame.todoOf?]
      obtain ⟨-, -, -, hothers, -, hall⟩ := hsound.of_sweeps hsweeps
      have hall : s.store.history.attempted a ++ todo = s.store.history.accepted a := hall
      rw [htick]
      cases o with
      | error payload => exact .inr (leaving_hand hlow hothers fun r hr => by cases hr)
      | ok r =>
        have hr := ho r rfl
        -- whether the disposal failed or not, the closing turns to the next one
        cases r with
        | disposed result =>
          cases result with
          | ok _ =>
            refine sweep_closing thread n failures todo hlow hothers fun hempty => ?_
            rw [← hall, hempty, List.append_nil]
          | error e =>
            refine sweep_closing thread n (failures ++ [e]) todo hlow hothers fun hempty => ?_
            simp [note, mapStore, ← hall, hempty]
        | _ => simp [Reply.kind] at hr
    · rw [perform_handing hfocus move hmove]
      exact .inl ⟨thread, n, failures, todo, low, hserves, hlow⟩
  · exact .inl ⟨thread, n, failures, todo, low, hserves', hlow⟩

/-- A call that leaves returns to its base, after it has passed the frame of a drop. -/
theorem Leaving.perform (h : s.Leaving a base) (hbase : Grounded base) (move : Move) :
    (s.perform move).Leaving a base ∨
      ∃ o, Strand.returned ⟨(s.perform move).stack, (s.perform move).focus⟩ base o ∧
        ∀ r, o = .ok r → (s.perform move).store.history.attempted a =
          (s.perform move).store.history.accepted a := by
  obtain ⟨hlow, hnone, o, hfocus, hall⟩ := h
  by_cases hmove : move = .tick
  · subst hmove
    obtain hstack | ⟨thread, hstack⟩ := hlow
    · -- the outcome is handed to the base, which belongs to a client
      right
      obtain ⟨hreturned, hstore⟩ := tick_returned hstack hfocus hbase
      rw [← hstore] at hall
      exact ⟨o, hreturned, hall⟩
    · -- a drop returns whatever the closing has returned, but passes a panic on
      left
      obtain ⟨store, stack, focus⟩ := s
      dsimp only at hstack hfocus hall
      subst hstack hfocus
      cases o with
      | error payload => exact ⟨.inl rfl, hnone, .error payload, rfl, fun r hr => by cases hr⟩
      | ok r =>
        have hdone : store.history.attempted a = store.history.accepted a := hall r rfl
        cases r with
        | closed result =>
          cases result with
          | ok _ => exact ⟨.inl rfl, hnone, .ok .done, rfl, fun _ _ => hdone⟩
          | error e =>
            refine ⟨.inl rfl, hnone, .ok .done, rfl, fun _ _ => ?_⟩
            simpa [System.perform, tick, resume, note, mapStore, reply, hand] using hdone
        | _ => exact ⟨.inl rfl, hnone, .ok .done, rfl, fun _ _ => hdone⟩
  · left
    rw [perform_handing hfocus move hmove]
    exact ⟨hlow, hnone, o, hfocus, hall⟩

end System

/-! ### Outside the call -/

/-- A move that asks for an arena to be closed: by closing it, or by dropping it. -/
def Move.Closes (a : Nat) (move : Move) : Prop :=
  ∃ thread, move = .start (.close thread a) ∨ move = .start (.drop thread a)

variable {move : Move} {a : Nat} {s t : Site}

/-- What can have become of an arena in the course of a move, if no closing of it was in
    progress before. -/
inductive ArenaView.Quiet (move : Move) (a : Nat) (v w : ArenaView) : Prop where
  | still : w.sweeps = [] → w.attempted = v.attempted →
    (v.arena.isActive → w.arena.state ≠ .closed) →
    (w.arena.isActive → v.arena.isActive ∨ ¬move.Closes a) → Quiet move a v w
  | closed : move.Closes a → v.arena.isActive → w.known → w.arena.state = .closed →
    Quiet move a v w

/-- One more change keeps it so. -/
theorem ArenaView.Quiet.step {u v w : ArenaView} (h : Quiet move a u v)
    (hstep : ArenaView.Step move a v w) (hknown : v.arena.isActive → v.known) :
    Quiet move a u w := by
  cases h with
  | still hsweeps hattempted hopen hbefore =>
    cases hstep with
    | same => exact .still hsweeps hattempted hopen hbefore
    | opened operation _ hmove =>
      -- an arena that becomes active in a move was opened by it, and it does nothing else
      refine .still hsweeps hattempted (fun _ => by simp [Arena.opened]) fun _ => .inr ?_
      rintro ⟨thread, rfl | rfl⟩ <;> cases hmove
    | accepted _ _ _ hactive =>
      exact .still hsweeps hattempted hopen fun _ => hbefore hactive
    | swapped thread hmove hactive =>
      obtain hfirst | hother := hbefore hactive
      · exact .closed ⟨thread, hmove⟩ hfirst (hknown hactive) rfl
      · exact absurd ⟨thread, hmove⟩ hother
    | abandoned hactive =>
      exact .still hsweeps hattempted (fun _ => by simp [Arena.abandon]) fun _ => hbefore hactive
    | attempted d rest sweeps hfirst | cut rest sweeps hfirst =>
      rw [hsweeps] at hfirst
      cases hfirst
  | closed hmove hactive hopened hclosed =>
    exact .closed hmove hactive (hstep.closed hopened hclosed).1 (hstep.closed hopened hclosed).2

/-- **Where no closing of an arena is in progress, none of its disposals is run**, and if it
    is active it does not become closed, unless the move asks for that. -/
theorem Changes.closing (h : Changes move s t) (hnone : (s.arenaView a).sweeps = []) :
    ((t.arenaView a).sweeps = [] ∧ (t.arenaView a).attempted = (s.arenaView a).attempted ∧
        ((s.arenaView a).arena.isActive → (t.arenaView a).arena.state ≠ .closed)) ∨
      (move.Closes a ∧ (s.arenaView a).arena.isActive ∧
        (t.arenaView a).arena.state = .closed) := by
  have hquiet : ArenaView.Quiet move a (s.arenaView a) (t.arenaView a) := by
    induction h with
    | refl =>
      refine .still hnone rfl (fun hactive hclosed => ?_) .inl
      simp [Arena.isActive, hclosed] at hactive
    | tail _ last ih => exact ih.step (last.arena a) Change.known_of_isActive
  cases hquiet with
  | still hsweeps hattempted hopen _ => exact .inl ⟨hsweeps, hattempted, hopen⟩
  | closed hmove hactive _ hclosed => exact .inr ⟨hmove, hactive, hclosed⟩

end ForeignArena
