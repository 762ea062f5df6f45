import ForeignArena.Proofs.Arenas.Closing
import ForeignArena.Proofs.Registering

namespace ForeignArena

/-!
# A scoped arena is closed once

Whatever strands do with an arena, in any order and also from within supplied code, its
disposals are run by one call only.

* `Schedule.Closes` — the call that takes an arena from active to closed;
* `Schedule.sweeping` — where an arena has disposals still to do, that call is in progress;
* `Schedule.ClosedOnce`, `Schedule.closedOnce` — what this means for the disposals.
-/

namespace Schedule

/-! ### The call that closes an arena -/

/-- At moment `n` strand `i` starts the call over `base` that takes an arena from active
    to closed: by closing it, or by dropping it. -/
structure Closes (σ : Schedule) (a n i : Nat) (base : List Frame) : Prop where
  asked : ∃ move, σ n = .move i move ∧ move.Closes a
  client : ∃ news, (σ.after n).strands[i]? = some ⟨base, .client news⟩
  active : ((σ.after n).store.arena a).state = .active
  closed : ((σ.after (n + 1)).store.arena a).state = .closed

/-- At moment `n` the call over `base` that has closed an arena is in progress. -/
def Closing (σ : Schedule) (a n i : Nat) (base : List Frame) : Prop :=
  ∃ strand, (σ.after n).strands[i]? = some strand ∧
    (((σ.after n).system strand).Disposing a base ∨ ((σ.after n).system strand).Leaving a base)

variable {σ : Schedule} {a n i : Nat} {base : List Frame}

theorem Closing.within (h : σ.Closing a n i base) : σ.Within i n base := by
  obtain ⟨strand, hstrand, hdisposing | hleaving⟩ := h
  · obtain ⟨thread, k, failures, todo, low, hserves, hlow⟩ := hdisposing
    obtain ⟨above, hstack, -⟩ := hserves.within
    obtain rfl | ⟨dropper, rfl⟩ := hlow
    · exact ⟨strand, hstrand, above ++ [.sweeping thread a k failures todo],
        by simpa using hstack, by simp⟩
    · exact ⟨strand, hstrand, above ++ [.sweeping thread a k failures todo, .dropping dropper a],
        by simpa using hstack, by simp⟩
  · obtain ⟨hlow, -, o, hfocus, -⟩ := hleaving
    obtain hlow | ⟨dropper, hlow⟩ := hlow
    · exact ⟨strand, hstrand, [], hlow, fun _ => ⟨o, hfocus⟩⟩
    · exact ⟨strand, hstrand, [.dropping dropper a], hlow, by simp⟩

/-- The call is in progress from its start. -/
theorem Closes.closing (h : σ.Closes a n i base) : σ.Closing a (n + 1) i base := by
  obtain ⟨⟨move, hact, thread, hmove⟩, ⟨news, hstrand⟩, hactive, hclosed⟩ := h
  obtain ⟨w, rfl, hwork⟩ : ∃ w, move = .start w ∧ (w = .close thread a ∨ w = .drop thread a) := by
    obtain rfl | rfl := hmove
    · exact ⟨_, rfl, .inl rfl⟩
    · exact ⟨_, rfl, .inr rfl⟩
  have hstart : ((σ.after n).system ⟨base, .client news⟩).perform (.start w) =
      ((σ.after n).system ⟨base, .client news⟩).start w := by
    obtain rfl | rfl := hwork <;> rfl
  have hafter : σ.after (n + 1) = (σ.after n).perform (.move i (.start w)) := by rw [after, hact]
  rw [hafter, Machine.store_perform hstrand, hstart] at hclosed
  have hsound : (((σ.after n).system ⟨base, .client news⟩).site.arenaView a).Sound :=
    σ.strandView_sound a hstrand
  have hstage := System.start_closing w hwork rfl hsound
    (by simpa [Arena.isActive] using hactive) hclosed
  refine ⟨_, hafter ▸ Machine.strand_perform hstrand (.start w), ?_⟩
  rw [hafter, Machine.system_perform hstrand, hstart]
  exact hstage

/-- A disposal of an arena that is not active any more may be missing, but none comes in. -/
theorem all_stays (hdone : (σ.arenaView a n).Done)
    (hall : (σ.arenaView a n).attempted = (σ.arenaView a n).accepted) :
    (σ.arenaView a (n + 1)).attempted = (σ.arenaView a (n + 1)).accepted := by
  obtain ⟨-, hgrows⟩ := σ.arenaView_grows a (Nat.le_succ n)
  obtain ⟨-, haccepted, -⟩ := σ.arenaView_done a (Nat.le_succ n) hdone
  refine (σ.arenaView_sound a (n + 1)).isPrefix.eq_of_length_le ?_
  rw [haccepted, ← hall]
  exact hgrows.length_le

/-- The call stays in progress up to its end, and if it ends without a panic, then all
    disposals have been run. -/
theorem Closing.succ (h : σ.Closing a n i base) (hbase : Grounded base)
    (hdone : (σ.arenaView a n).Done) :
    σ.Closing a (n + 1) i base ∨ ∃ o, σ.Returns i (n + 1) base o ∧
      ∀ r, o = .ok r → (σ.arenaView a (n + 1)).attempted = (σ.arenaView a (n + 1)).accepted := by
  obtain ⟨strand, hstrand, hstage⟩ := h
  obtain ⟨move, after, -, hafter, rfl, hsystem⟩ | hafter := strand_succ hstrand
  · obtain hdisposing | hleaving := hstage
    · left
      refine ⟨_, hafter, ?_⟩
      rw [hsystem]
      exact hdisposing.perform (σ.strandView_sound a hstrand) move
    · obtain hleaving | ⟨o, hreturned, hall⟩ := hleaving.perform hbase move
      · left
        refine ⟨_, hafter, .inr ?_⟩
        rw [hsystem]
        exact hleaving
      · right
        refine ⟨o, ⟨_, hafter, hreturned⟩, ?_⟩
        rw [← hsystem] at hall
        exact hall
  · -- the store may have changed, but no more disposals of a closed arena can be missing
    left
    refine ⟨strand, hafter, ?_⟩
    obtain ⟨thread, k, failures, todo, low, hserves, hlow⟩ | ⟨hlow, hnone, o, hfocus, hall⟩ := hstage
    · exact .inl ⟨thread, k, failures, todo, low, hserves.elsewhere _, hlow⟩
    · exact .inr ⟨hlow, hnone, o, hfocus, fun r hr => all_stays hdone (hall r hr)⟩

/-! ### Where disposals are run -/

/-- The move that takes an arena from active to closed starts the call that closes it. -/
theorem closes_of_swap {move : Move} {strand : Strand} (hact : σ n = .move i move)
    (hstrand : (σ.after n).strands[i]? = some strand) (hmove : move.Closes a)
    (hactive : ((σ.after n).store.arena a).isActive)
    (hclosed : ((σ.after (n + 1)).store.arena a).state = .closed) :
    σ.Closes a n i strand.stack := by
  have hactive : ((σ.after n).store.arena a).state = .active := by
    simpa [Arena.isActive] using hactive
  obtain ⟨stack, focus⟩ := strand
  cases focus with
  | client news => exact ⟨⟨move, hact, hmove⟩, ⟨news, hstrand⟩, hactive, hclosed⟩
  | handing o =>
    -- while an outcome is on its way the move does nothing
    have htick : move ≠ .tick := by
      obtain ⟨thread, rfl | rfl⟩ := hmove <;> simp
    rw [after, hact, Machine.store_perform hstrand, System.perform_handing rfl move htick] at hclosed
    simp [hactive] at hclosed

/-- **A closing in progress was started by the call that closed the arena**, and this call
    is in progress ever since. -/
theorem sweeping {strand : Strand} (hstrand : (σ.after n).strands[i]? = some strand)
    (hsweeps : strand.stack.filterMap (Frame.todoOf? a) ≠ []) :
    ∃ m base, m < n ∧ σ.Closes a m i base ∧ (∀ l, m < l → l ≤ n → σ.Within i l base) ∧
      ((σ.after n).system strand).Disposing a base := by
  -- on the moments, for whatever strand has disposals to do: where it has got them from is
  -- either this very move, or the moment before
  induction n generalizing strand with
  | zero => cases hstrand
  | succ n ih =>
    have hlast {m : Nat} {base : List Frame} (hall : ∀ l, m < l → l ≤ n → σ.Within i l base)
        (hnow : σ.Within i (n + 1) base) (l : Nat) (hml : m < l) (hln : l ≤ n + 1) :
        σ.Within i l base := by
      obtain hl | rfl := Nat.le_succ_iff.mp hln
      · exact hall l hml hl
      · exact hnow
    obtain rfl | hbefore | ⟨before, move, hact, hbefore, rfl⟩ := Machine.strand_origin hstrand
    · exact absurd rfl hsweeps
    · -- the strand was left alone
      obtain ⟨m, base, hm, hcloses, hall, thread, k, failures, todo, low, hserves, hlow⟩ :=
        ih hbefore hsweeps
      have hdisposing : ((σ.after (n + 1)).system strand).Disposing a base :=
        ⟨thread, k, failures, todo, low, hserves.elsewhere _, hlow⟩
      exact ⟨m, base, Nat.lt_succ_of_lt hm, hcloses,
        hlast hall (Closing.within ⟨strand, hstrand, .inl hdisposing⟩), hdisposing⟩
    · have hsystem := Machine.system_perform hbefore move
      rw [← hact, ← after] at hsystem
      by_cases hnone : before.stack.filterMap (Frame.todoOf? a) = []
      · -- the closing began with this very move
        obtain ⟨hnone', -, -⟩ | ⟨hmove, hactive, hclosed⟩ :=
          (((σ.after n).system before).perform_changes move).closing hnone
        · exact absurd hnone' hsweeps
        · have hclosed : ((σ.after (n + 1)).store.arena a).state = .closed := by
            rw [after, hact, Machine.store_perform hbefore]
            exact hclosed
          have hcloses := closes_of_swap hact hbefore hmove hactive hclosed
          obtain ⟨strand, hsame, hstage⟩ := hcloses.closing
          rw [hstrand] at hsame
          cases hsame
          refine ⟨n, before.stack, Nat.lt_succ_self n, hcloses,
            hlast (fun l hl hln => absurd hl (Nat.not_lt.mpr hln)) hcloses.closing.within, ?_⟩
          exact hstage.resolve_right fun hleaving => hsweeps hleaving.none
      · -- it was in progress before; and it does not leave, as disposals are still to be done
        obtain ⟨m, base, hm, hcloses, hall, hdisposing⟩ := ih hbefore hnone
        have hstage := hdisposing.perform (σ.strandView_sound a hbefore) move
        rw [← hsystem] at hstage
        exact ⟨m, base, Nat.lt_succ_of_lt hm, hcloses,
          hlast hall (Closing.within ⟨_, hstrand, hstage⟩),
          hstage.resolve_right fun hleaving => hsweeps hleaving.none⟩

/-- A disposal of an arena is run by the call that has closed it. -/
theorem attempted_within (h : (σ.arenaView a (n + 1)).attempted ≠ (σ.arenaView a n).attempted) :
    ∃ m i base move, σ.Closes a m i base ∧ m ≤ n ∧ σ n = .move i move ∧
      ∀ l, m < l → l ≤ n → σ.Within i l base := by
  have hstay {m : Machine} (hsame : (σ.after n).perform (σ n) = m)
      (hstore : m.store.history.attempted a = (σ.after n).store.history.attempted a) : False :=
    h (by rw [← hsame] at hstore; exact hstore)
  cases hact : σ n with
  | spawn =>
    rw [hact] at hstay
    exact (hstay rfl rfl).elim
  | move i move =>
    rw [hact] at hstay
    cases hstrand : (σ.after n).strands[i]? with
    | none => exact (hstay (Machine.perform_of_none hstrand move) rfl).elim
    | some strand =>
      have hchanges := ((σ.after n).system strand).perform_changes move
      by_cases hnone : strand.stack.filterMap (Frame.todoOf? a) = []
      · -- the move closes the arena itself, since it runs one of its disposals
        obtain ⟨-, hsame, -⟩ | ⟨hmove, hactive, hclosed⟩ := hchanges.closing hnone
        · refine (hstay rfl ?_).elim
          rw [Machine.store_perform hstrand]
          exact hsame
        · have hclosed : ((σ.after (n + 1)).store.arena a).state = .closed := by
            rw [after, hact, Machine.store_perform hstrand]
            exact hclosed
          exact ⟨n, i, strand.stack, move, closes_of_swap hact hstrand hmove hactive hclosed,
            Nat.le_refl n, rfl, fun l hl hln => absurd hl (Nat.not_lt.mpr hln)⟩
      · obtain ⟨m, base, hm, hcloses, hall, -⟩ := sweeping hstrand hnone
        exact ⟨m, i, base, move, hcloses, Nat.le_of_lt hm, rfl, hall⟩

/-! ### After the call has begun -/

theorem Closes.known (h : σ.Closes a n i base) : (σ.arenaView a (n + 1)).known := by
  have hstate : (σ.arenaView a n).arena.state = .active := h.active
  have hactive : (σ.arenaView a n).arena.isActive := by simp [Arena.isActive, hstate]
  exact σ.arenaView_known a (Nat.le_succ n) ((σ.arenaView_sound a n).of_isActive hactive).1

/-- From then on the arena is closed. -/
theorem Closes.closed_after {m : Nat} (h : σ.Closes a n i base) (hnm : n < m) :
    (σ.arenaView a m).known ∧ (σ.arenaView a m).arena.state = .closed :=
  σ.arenaView_closed a hnm h.known h.closed

theorem Closes.inactive_after {m : Nat} (h : σ.Closes a n i base) (hnm : n < m) :
    ((σ.after m).store.arena a).isActive = false := by
  have hclosed : ((σ.after m).store.arena a).state = .closed := (h.closed_after hnm).2
  simp [Arena.isActive, hclosed]

/-- No arena is closed twice. -/
theorem Closes.unique {m j : Nat} {other : List Frame} (h : σ.Closes a n i base)
    (h' : σ.Closes a m j other) : n = m ∧ i = j ∧ base = other := by
  -- neither call can come before the other one, as the arena is closed from then on
  have hnot {n m i j : Nat} {base other : List Frame} (h : σ.Closes a n i base)
      (h' : σ.Closes a m j other) : ¬n < m := by
    intro hnm
    have hclosed : ((σ.after m).store.arena a).state = .closed := (h.closed_after hnm).2
    rw [h'.active] at hclosed
    cases hclosed
  obtain rfl : n = m := Nat.le_antisymm (Nat.not_lt.mp (hnot h' h)) (Nat.not_lt.mp (hnot h h'))
  obtain ⟨⟨move, hact, -⟩, ⟨news, hstrand⟩, -, -⟩ := h
  obtain ⟨⟨move', hact', -⟩, ⟨news', hstrand'⟩, -, -⟩ := h'
  rw [hact] at hact'
  cases hact'
  rw [hstrand] at hstrand'
  cases hstrand'
  exact ⟨rfl, rfl, rfl⟩

/-- As long as the call has not returned it is in progress, and if it returns without a
    panic, then all disposals have been run. -/
theorem Closes.complete {m : Nat} {r : Reply} (h : σ.Closes a n i base) (hnm : n < m)
    (hfirst : ∀ l, n < l → l < m → σ.Within i l base) (hreturns : σ.Returns i m base (.ok r)) :
    (σ.arenaView a m).attempted = (σ.arenaView a m).accepted := by
  obtain ⟨news, hstrand⟩ := h.client
  have hbase := σ.grounded n i hstrand
  have hdone (l : Nat) (hl : n < l) : (σ.arenaView a l).Done := by
    obtain ⟨hknown, hclosed⟩ := h.closed_after hl
    exact ⟨hknown, by simp [hclosed]⟩
  exact returns_of_stages (fun l => σ.Closing a l i base)
    (fun l o => ∀ r, o = .ok r → (σ.arenaView a l).attempted = (σ.arenaView a l).accepted)
    h.closing (fun l hl => hl.within) (fun l hl hclosing => hclosing.succ hbase (hdone l hl)) hnm
    hfirst hreturns r rfl

end Schedule

/-- Each disposal that a closing turns to begins at once. -/
theorem Change.prompt {move : Move} {s t : Site} (h : Change move s t)
    (hs : s.1.history.Prompt) : t.1.history.Prompt := by
  have hother (e : Happening) (he : ∀ thread a d, e ≠ .attempting thread a d) {h : History}
      (hh : h.Prompt) : History.Prompt (e :: h) := .other e h he hh
  cases h with
  | note e he => exact hother e (fun _ _ _ heq => by rw [heq] at he; cases he) hs
  | attempted thread a n failures d rest => exact .attempt thread a d _ hs
  | called => simpa using hs
  | entered thread d => simpa using hother (.destroying thread d) (by simp) hs
  | tookDisposal => exact hother _ (by simp) (hother _ (by simp) hs)
  | begun | opened | accepted | swapped | abandoned | failed | swept | tracked | queued | received
  | tookSupplied | ended | panicked | asked => exact hother _ (by simp) hs
  | _ => exact hs

namespace Schedule

/-- The disposals that an arena has accepted up to moment `n`. -/
def accepted (σ : Schedule) (a n : Nat) : List Disposal := (σ.after n).store.history.accepted a

/-- The disposals of an arena that were run up to moment `n`, in the order in which they
    began. -/
def attempted (σ : Schedule) (a n : Nat) : List Disposal := (σ.after n).store.history.attempted a

/-- What it means that an arena is closed once in a run. -/
structure ClosedOnce (σ : Schedule) (a : Nat) : Prop where
  /-- The arena accepts what is registered with it, in order. -/
  registered : ∀ n, σ.accepted a (n + 1) =
    σ.accepted a n ++ ((σ.after n).registered (σ n)).filterMap (·.inArena? a)
  /-- Those that are run are a first part of them. -/
  inOrder : ∀ n, σ.attempted a n <+: σ.accepted a n
  /-- What was run keeps its place, so the same is not run again. -/
  kept : ∀ n, σ.attempted a n <+: σ.attempted a (n + 1)
  /-- A disposal that comes to be run begins at once. -/
  prompt : ∀ n, (σ.after n).store.history.Prompt
  /-- An arena becomes closed in a call that closes it. -/
  swapped : ∀ n, ((σ.after n).store.arena a).state = .active →
    ((σ.after (n + 1)).store.arena a).state = .closed → ∃ i base, σ.Closes a n i base
  /-- There is one such call at most. -/
  unique : ∀ n m i j base other, σ.Closes a n i base → σ.Closes a m j other →
    n = m ∧ i = j ∧ base = other
  /-- Disposals are run by the strand of this call while the call is in progress. -/
  inside : ∀ n, σ.attempted a (n + 1) ≠ σ.attempted a n →
    ∃ m i base move, σ.Closes a m i base ∧ m ≤ n ∧ σ n = .move i move ∧
      ∀ l, m < l → l ≤ n → σ.Within i l base
  /-- If the call returns and does not panic, all of them were run. -/
  complete : ∀ n m i base r, σ.Closes a n i base → n < m →
    (∀ l, n < l → l < m → σ.Within i l base) → σ.Returns i m base (.ok r) →
    σ.attempted a m = σ.accepted a m
  /-- From the call on the arena is closed. -/
  closed : ∀ n m i base, σ.Closes a n i base → n < m →
    ((σ.after m).store.arena a).state = .closed
  /-- It refuses all that a thread registers which may do so at all. -/
  refused : ∀ n m i base thread d, σ.Closes a n i base → n < m →
    ((σ.after m).store.arena a).confinement.check thread = .ok () →
    (σ.after m).store.register thread (.confined a) d = ((σ.after m).store, .error .closed)
  /-- Closing it again does nothing. -/
  idle : ∀ n m i base thread strand, σ.Closes a n i base → n < m →
    ((σ.after m).store.arena a).confinement.check thread = .ok () →
    ((σ.after m).system strand).close thread a =
      ((σ.after m).system strand).reply (.closed (.ok ⟨0, false⟩))

/-- **A scoped arena is closed once.**  The disposals that it runs are a first part of what
    was registered with it, and all that unless a panic escapes; they are run by the one
    call that takes the arena from active to closed. -/
theorem closedOnce (σ : Schedule) (a : Nat) : σ.ClosedOnce a where
  registered n := by
    simp only [accepted, History.accepted_eq, σ.entries_succ, List.filterMap_append]
  inOrder n := (σ.arenaView_sound a n).isPrefix
  kept n := (σ.arenaView_grows a (Nat.le_succ n)).2
  prompt n := @always (fun st _ => st.history.Prompt) σ (fun _ h => h) Change.prompt .nil n
  swapped n hactive hclosed := by
    have hisActive : ((σ.after n).store.arena a).isActive := by simp [Arena.isActive, hactive]
    cases hact : σ n with
    | spawn =>
      rw [after, hact, show ((σ.after n).perform .spawn).store = (σ.after n).store from rfl,
        hactive] at hclosed
      cases hclosed
    | move i move =>
      cases hstrand : (σ.after n).strands[i]? with
      | none =>
        rw [after, hact, Machine.perform_of_none hstrand, hactive] at hclosed
        cases hclosed
      | some strand =>
        have hswapped := hclosed
        rw [after, hact, Machine.store_perform hstrand] at hswapped
        -- no closing of an active arena is in progress
        obtain ⟨-, -, -, -, -, hnone⟩ := (σ.strandView_sound a hstrand).of_isActive hisActive
        obtain ⟨-, -, hopen⟩ | ⟨hmove, -, -⟩ :=
          (((σ.after n).system strand).perform_changes move).closing hnone
        · exact absurd hswapped (hopen hisActive)
        · exact ⟨i, strand.stack, closes_of_swap hact hstrand hmove hisActive hclosed⟩
  unique n m i j base other h h' := h.unique h'
  inside n h := attempted_within h
  complete n m i base r h hnm hfirst hreturns := h.complete hnm hfirst hreturns
  closed n m i base h hnm := (h.closed_after hnm).2
  refused n m i base thread d h hnm hcheck := by
    simp [Store.register, Store.registerConfined, hcheck, h.inactive_after hnm]
  idle n m i base thread strand h hnm hcheck := by
    simp [System.close, hcheck, h.inactive_after hnm]

/-- A run in which an arena takes an instance over and is closed. -/
def closingOne : Schedule
  | 0 => .spawn
  | 1 => .move 0 (.operate (.openArena .main {}))
  | 2 => .move 0 (.operate (.takeOver .main ⟨1⟩
      { id := 0, name := "Buffer", kind := .value, routines := .supplied } (.confined 0)))
  | 3 => .move 0 (.start (.close .main 0))
  | 4 => .move 0 (.answer (.ok .done))
  | _ => .move 0 .tick

/-- The instance that is taken over. -/
def closedOne : Instance where
  address := ⟨1⟩
  type := { id := 0, name := "Buffer", kind := .value, routines := .supplied }
  flag := 0
  registration := .plain

theorem closedOnce_closingOne : closingOne.Closes 0 3 0 [] ∧
    closingOne.Returns 0 9 [] (.ok (.closed (.ok ⟨1, true⟩))) ∧
    closingOne.accepted 0 9 = [closedOne.disposal] ∧
    closingOne.attempted 0 9 = closingOne.accepted 0 9 := by
  have hcloses : closingOne.Closes 0 3 0 [] := ⟨⟨_, rfl, .main, .inl rfl⟩, ⟨none, rfl⟩, rfl, rfl⟩
  have hreturns : closingOne.Returns 0 9 [] (.ok (.closed (.ok ⟨1, true⟩))) := ⟨_, rfl, rfl, rfl⟩
  have hwithin (l : Nat) (hl : 3 < l) (hl9 : l < 9) : closingOne.Within 0 l [] := by
    obtain rfl | rfl | rfl | rfl | rfl : l = 4 ∨ l = 5 ∨ l = 6 ∨ l = 7 ∨ l = 8 := by omega
    · exact ⟨_, rfl, _, (List.append_nil _).symm, fun h => by cases h⟩
    · exact ⟨_, rfl, _, (List.append_nil _).symm, fun h => by cases h⟩
    · exact ⟨_, rfl, _, (List.append_nil _).symm, fun h => by cases h⟩
    · exact ⟨_, rfl, _, (List.append_nil _).symm, fun h => by cases h⟩
    · exact ⟨_, rfl, _, (List.append_nil _).symm, fun _ => ⟨_, rfl⟩⟩
  exact ⟨hcloses, hreturns, rfl,
    (closedOnce closingOne 0).complete 3 9 0 [] _ hcloses (by omega) hwithin hreturns⟩

end Schedule

end ForeignArena
