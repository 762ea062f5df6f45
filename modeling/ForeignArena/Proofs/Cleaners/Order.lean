import ForeignArena.Proofs.Cleaners.Hands
import ForeignArena.Proofs.Cleaners.LiveSets
import ForeignArena.Proofs.Cleaners.Reclamation
import ForeignArena.Proofs.Following
import ForeignArena.Proofs.Routines

namespace ForeignArena

/-!
# Actions are reclaimed in the order of the drops

A reclamation thread runs the actions of dropped tokens in the order in which the tokens were
dropped, wherever that was done: by a client, in an action, in a destroy routine, or on another
strand.  What is dropped goes behind all that is queued.

* `Schedule.dropped`, `Schedule.reclaimed` — the tokens that were dropped, and those whose actions
  the thread has run;
* `Schedule.dropped_eq` — the first are the second, with what is in hand and in the queue;
* `Schedule.TurnsTo` — a strand that turns to an action;
* `Schedule.Fifo`, `Schedule.fifo` — the order, and what is run.
-/

/-! ### Drops and reclamations -/

namespace Machine

/-- The token of a cleaner that an act drops. -/
def drops? (c : Nat) (m : Machine) : Act → Option Nat
  | .spawn => none
  | .move i move => m.strands[i]?.bind fun strand => (m.system strand).drops? c move

/-- The token of a cleaner whose action begins on the reclamation thread with an act. -/
def reclaims? (c : Nat) (m : Machine) : Act → Option Nat
  | .spawn => none
  | .move i move => m.strands[i]?.bind fun strand => (m.system strand).reclaims? c move

/-- What is in the hands of a reclamation thread. -/
def hands (c : Nat) (m : Machine) : List (ThreadId × Nat) :=
  m.strands.flatMap fun strand => inHand c strand.stack

/-- There is no more in hand than there are loops that wait. -/
theorem length_hands_le (c : Nat) (m : Machine) :
    (m.hands c).length ≤ m.frames.countP (Frame.isReclaiming c) := by
  unfold hands frames
  induction m.strands with
  | nil => exact Nat.le_refl 0
  | cons strand rest ih =>
    rw [List.flatMap_cons, List.flatMap_cons, List.length_append, List.countP_append]
    exact Nat.add_le_add (length_inHand_le strand.stack) ih

/-- A strand shows in the hands of a machine at its own place. -/
theorem hands_set {m : Machine} {i : Nat} {strand : Strand} (h : m.strands[i]? = some strand)
    (c : Nat) : ∃ before rest, m.hands c = before ++ inHand c strand.stack ++ rest ∧
      ∀ after : Strand, ((m.strands.set i after).flatMap fun strand => inHand c strand.stack) =
        before ++ inHand c after.stack ++ rest := by
  obtain ⟨hi, hget⟩ := List.getElem?_eq_some_iff.mp h
  obtain ⟨before, rest, hall, hlength, -⟩ := @List.exists_of_set _ i strand m.strands hi
  rw [hget] at hall
  refine ⟨before.flatMap fun strand => inHand c strand.stack,
    rest.flatMap fun strand => inHand c strand.stack, ?_, fun after => ?_⟩
  · rw [hands, hall, List.flatMap_append, List.flatMap_cons, List.append_assoc]
  · rw [hall, ← hlength, List.set_append_right _ _ (Nat.le_refl _), Nat.sub_self, List.set_cons_zero,
      List.flatMap_append, List.flatMap_cons, List.append_assoc]

end Machine

namespace Schedule

variable {σ : Schedule} {c n m : Nat}

/-- The tokens of a cleaner that were dropped while their clients were in control, in the order of
    the drops. -/
def dropped (σ : Schedule) (c n : Nat) : List Nat :=
  (List.range n).filterMap fun l => (σ.after l).drops? c (σ l)

/-- The tokens of a cleaner whose actions its thread has begun to run, in this order. -/
def reclaimed (σ : Schedule) (c n : Nat) : List Nat :=
  (List.range n).filterMap fun l => (σ.after l).reclaims? c (σ l)

theorem dropped_succ (σ : Schedule) (c n : Nat) :
    σ.dropped c (n + 1) = σ.dropped c n ++ ((σ.after n).drops? c (σ n)).toList := by
  rw [dropped, List.range_succ, List.filterMap_append]
  cases h : (σ.after n).drops? c (σ n) <;> simp [dropped, h]

theorem reclaimed_succ (σ : Schedule) (c n : Nat) :
    σ.reclaimed c (n + 1) = σ.reclaimed c n ++ ((σ.after n).reclaims? c (σ n)).toList := by
  rw [reclaimed, List.range_succ, List.filterMap_append]
  cases h : (σ.after n).reclaims? c (σ n) <;> simp [reclaimed, h]

/-! ### The way of tokens -/

theorem alive_before (hnm : n ≤ m) (halive : ((σ.after m).store.cleaner c).phase ≠ .dead) :
    ((σ.after n).store.cleaner c).phase ≠ .dead :=
  fun hdead => halive (dead_stays hnm hdead).1

/-- One token at most is in hand, and none unless the thread is busy. -/
theorem length_hands_le (σ : Schedule) (c n : Nat) : ((σ.after n).hands c).length ≤
    if ((σ.after n).store.cleaner c).phase = .busy then 1 else 0 :=
  Nat.le_trans ((σ.after n).length_hands_le c) (Nat.le_of_eq (σ.cleanerView_sound c n).busy)

/-- A strand that makes a move turns tokens over. -/
theorem turn {i : Nat} {move : Move} {strand : Strand}
    (halive : ((σ.after (n + 1)).store.cleaner c).phase ≠ .dead)
    (hact : σ n = .move i move) (hstrand : (σ.after n).strands[i]? = some strand) :
    System.Turn c ((σ.after n).system strand) (((σ.after n).system strand).perform move)
      (((σ.after n).system strand).drops? c move) (((σ.after n).system strand).reclaims? c move) := by
  have hsound := σ.cleanerView_sound c n
  refine System.perform_turn move (fun news hfocus => ?_) (fun htokens => hsound.needed (.inl htokens))
    (fun thread token hframe => ?_) (alive_before (Nat.le_succ n) halive) ?_
  · obtain ⟨stack, focus⟩ := strand
    cases hfocus
    exact σ.grounded n i hstrand
  · have hmem : .taking thread c token ∈ (σ.after n).frames :=
      List.mem_flatMap.mpr ⟨strand, List.mem_of_getElem? hstrand, hframe⟩
    exact hsound.pending (List.mem_append_right _ ((σ.mem_taking c).mpr ⟨_, hmem⟩))
  · rw [after, hact, Machine.store_perform hstrand] at halive
    exact halive

/-- A drop and a reclamation are moves of a strand, in whose place alone the hands change. -/
theorem hands_succ (σ : Schedule) (c n : Nat) :
    ((σ.after (n + 1)).hands c = (σ.after n).hands c ∧
      (σ.after (n + 1)).store = (σ.after n).store ∧ (σ.after n).drops? c (σ n) = none ∧
      (σ.after n).reclaims? c (σ n) = none) ∨
    ∃ i move strand before rest, σ n = .move i move ∧ (σ.after n).strands[i]? = some strand ∧
      (σ.after n).hands c = before ++ inHand c strand.stack ++ rest ∧
      (σ.after (n + 1)).hands c =
        before ++ inHand c (((σ.after n).system strand).perform move).stack ++ rest ∧
      (σ.after (n + 1)).store = (((σ.after n).system strand).perform move).store ∧
      (σ.after n).drops? c (σ n) = ((σ.after n).system strand).drops? c move ∧
      (σ.after n).reclaims? c (σ n) = ((σ.after n).system strand).reclaims? c move := by
  rw [after]
  cases hact : σ n with
  | spawn =>
    left
    simp [Machine.perform, Machine.hands, Machine.drops?, Machine.reclaims?, inHand]
  | move i move =>
    cases hstrand : (σ.after n).strands[i]? with
    | none =>
      left
      rw [Machine.perform_of_none hstrand]
      simp [Machine.drops?, Machine.reclaims?, hstrand]
    | some strand =>
      right
      obtain ⟨before, rest, hbefore, hafter⟩ := Machine.hands_set hstrand c
      refine ⟨i, move, strand, before, rest, rfl, hstrand, hbefore, ?_, Machine.store_perform hstrand move,
        by simp [Machine.drops?, hstrand], by simp [Machine.reclaims?, hstrand]⟩
      rw [Machine.hands]
      simp only [Machine.perform, hstrand]
      exact hafter _

/-- Each act lets the line advance that begins in the hands and ends with the queue: a token that is
    dropped joins it behind, and one that is reclaimed leaves it in front. -/
theorem line_succ (halive : ((σ.after (n + 1)).store.cleaner c).phase ≠ .dead) :
    ((σ.after n).hands c).map Prod.snd ++ ((σ.after n).store.cleaner c).queue ++
        ((σ.after n).drops? c (σ n)).toList =
      ((σ.after n).reclaims? c (σ n)).toList ++ (((σ.after (n + 1)).hands c).map Prod.snd ++
        ((σ.after (n + 1)).store.cleaner c).queue) := by
  have hone := σ.length_hands_le c n
  obtain ⟨hhands, hstore, hdrops, hreclaims⟩ | ⟨i, move, strand, before, rest, hact, hstrand, hbefore,
    hafter, hstore, hdrops, hreclaims⟩ := σ.hands_succ c n
  · rw [hhands, hstore, hdrops, hreclaims]
    exact List.append_nil _
  · rw [hbefore] at hone ⊢
    rw [hafter, hstore, hdrops, hreclaims]
    exact (turn halive hact hstrand).line hone

/-- **The line of a cleaner.**  What was dropped is what was reclaimed, followed by what is in hand,
    followed by what is queued. -/
theorem dropped_eq (halive : ((σ.after n).store.cleaner c).phase ≠ .dead) :
    σ.dropped c n = σ.reclaimed c n ++ (((σ.after n).hands c).map Prod.snd ++
      ((σ.after n).store.cleaner c).queue) := by
  induction n with
  | zero => rfl
  | succ n ih =>
    rw [dropped_succ, ih (alive_before (Nat.le_succ n) halive), reclaimed_succ,
      List.append_assoc (σ.reclaimed c n), line_succ halive, List.append_assoc]

/-- What is in hand is so in the hands of the reclamation thread. -/
theorem hands_thread (halive : ((σ.after n).store.cleaner c).phase ≠ .dead)
    {held : ThreadId × Nat} (hheld : held ∈ (σ.after n).hands c) :
    ∃ name, held.1 = .reclaimer c name := by
  induction n with
  | zero => cases hheld
  | succ n ih =>
    have ih := ih (alive_before (Nat.le_succ n) halive)
    obtain ⟨hhands, -⟩ | ⟨i, move, strand, before, rest, hact, hstrand, hbefore, hafter, -⟩ :=
      σ.hands_succ c n
    · exact ih (hhands ▸ hheld)
    · rw [hbefore] at ih
      rw [hafter] at hheld
      simp only [List.mem_append, or_assoc] at hheld ih
      obtain hmem | hmem | hmem := hheld
      · exact ih (.inl hmem)
      · obtain hbefore | hnew := (turn halive hact hstrand).held hmem
        · exact ih (.inr (.inl hbefore))
        · exact hnew
      · exact ih (.inr (.inr hmem))

end Schedule

/-! ### Tokens that are used up -/

/-- A token that was given out and exists no more. -/
def Cleaner.UsedUp (cleaner : Cleaner) (token : Nat) : Prop :=
  token < cleaner.nextId ∧ token ∉ cleaner.tokens

namespace CleanerView

variable {move : Move} {c token : Nat} {v w : CleanerView}

/-- A token that exists was given out, and it exists once. -/
theorem Sound.token_lt (h : v.Sound) (htoken : token ∈ v.cleaner.tokens) :
    token < v.cleaner.nextId := by
  have hkey : token ∈ v.cleaner.keys := h.custody.mem_iff.mpr (by simp [htoken])
  have htracked : token ∈ v.tracked.map Prod.fst := by
    rw [← (h.divided.map Prod.fst).mem_iff, List.map_append]
    exact List.mem_append_left _ hkey
  rw [h.numbered] at htracked
  exact List.mem_range.mp htracked

theorem Sound.nodup_tokens (h : v.Sound) : v.cleaner.tokens.Nodup := by
  have hall := h.custody.nodup_iff.mp h.nodup_keys
  rw [List.append_assoc, List.append_assoc] at hall
  exact (List.nodup_append.mp hall).1

/-- **A token that is used up does not come back.** -/
theorem Step.usedUp (hstep : Step move c v w) (h : v.Sound) (husedUp : v.cleaner.UsedUp token) :
    w.cleaner.UsedUp token := by
  obtain ⟨hlt, hgone⟩ := husedUp
  cases hstep with
  | added name hunknown =>
    rw [(h.unknown hunknown).1] at hlt
    cases hlt
  | tracked operation action =>
    refine ⟨Nat.lt_succ_of_lt hlt, fun hmem => ?_⟩
    obtain hold | hnew := List.mem_append.mp hmem
    · exact hgone hold
    · exact Nat.ne_of_lt hlt (List.mem_singleton.mp hnew)
  | settled =>
    show v.cleaner.settle.UsedUp token
    unfold Cleaner.settle
    split <;> exact ⟨hlt, hgone⟩
  | spent | queued => exact ⟨hlt, fun hmem => hgone (List.mem_of_mem_erase hmem)⟩
  | received other cleaner _ hdequeue =>
    obtain ⟨rest, -, -, rfl⟩ := Cleaner.dequeue?_eq_some hdequeue
    exact ⟨hlt, hgone⟩
  | took other action cleaner taking _ htake =>
    rw [Cleaner.take?_eq_some htake]
    exact ⟨hlt, hgone⟩
  | _ => exact ⟨hlt, hgone⟩

end CleanerView

/-- Cleaning a token that exists, or dropping it, uses it up. -/
theorem System.tokens_of_spends {s : System} {move : Move} {c token : Nat} {news : Option Outcome}
    (hfocus : s.focus = .client news) (hspends : move.Spends c token)
    (htoken : token ∈ (s.store.cleaner c).tokens) :
    ((s.perform move).store.cleaner c).tokens = (s.store.cleaner c).tokens.erase token ∧
      ((s.perform move).store.cleaner c).nextId = (s.store.cleaner c).nextId := by
  have hcontains := List.contains_iff_mem.mpr htoken
  have hspent : ((s.store.modifyCleaner c (·.spend token)).cleaner c).tokens =
        (s.store.cleaner c).tokens.erase token ∧
      ((s.store.modifyCleaner c (·.spend token)).cleaner c).nextId = (s.store.cleaner c).nextId := by
    rw [Store.cleaner_modifyCleaner _ _ _ _ (Change.known_of_token hcontains), if_pos rfl]
    exact ⟨rfl, rfl⟩
  obtain ⟨thread, rfl | rfl⟩ := hspends
  · have hclean : s.perform (.start (.clean thread c token)) = s.clean thread c token := by
      rw [perform_start rfl]
      unfold start
      rw [hfocus]
    rw [hclean, clean, if_pos hcontains]
    exact hspent
  · have hdrop : s.perform (.start (.dropRegistration thread (.tracked c token))) =
        s.dropToken thread c token := by
      rw [perform_start rfl]
      unfold start
      rw [hfocus]
      rfl
    rw [hdrop, dropToken, if_pos hcontains]
    dsimp only
    split
    · -- joining the queue changes no token
      have hqueue {α : Type} (view : Cleaner → α)
          (hview : ∀ x : Cleaner, view (x.enqueue token) = view x) :=
        Store.view_modifyCleaner view (s.store.modifyCleaner c (·.spend token)) c c
          (·.enqueue token) hview
      exact ⟨(hqueue Cleaner.tokens fun _ => rfl).trans hspent.1,
        (hqueue Cleaner.nextId fun _ => rfl).trans hspent.2⟩
    · exact hspent

namespace Schedule

variable {σ : Schedule} {c n m i token : Nat}

theorem usedUp_stays (hnm : n ≤ m) (husedUp : ((σ.after n).store.cleaner c).UsedUp token) :
    ((σ.after m).store.cleaner c).UsedUp token :=
  (@σ.stays (fun st k => (Site.cleanerView (st, k) c).Sound ∧ (st.cleaner c).UsedUp token) n m hnm
    (fun hperm hs => ⟨Site.cleaner_sound_perm hperm hs.1, hs.2⟩)
    (fun _ _ _ hchange hs => ⟨(hchange.cleaner c).sound hs.1, (hchange.cleaner c).usedUp hs.1 hs.2⟩)
    ⟨σ.cleanerView_sound c n, husedUp⟩).2

theorem usedUp_of_spends {move : Move} {base : List Frame} {news : Option Outcome}
    (hact : σ n = .move i move) (hstrand : (σ.after n).strands[i]? = some ⟨base, .client news⟩)
    (hspends : move.Spends c token) (htoken : token ∈ ((σ.after n).store.cleaner c).tokens) :
    ((σ.after (n + 1)).store.cleaner c).UsedUp token := by
  have hsound := σ.cleanerView_sound c n
  obtain ⟨htokens, hnext⟩ := System.tokens_of_spends (s := (σ.after n).system ⟨base, .client news⟩)
    rfl hspends htoken
  rw [after, hact, Machine.store_perform hstrand, Cleaner.UsedUp, htokens, hnext]
  exact ⟨hsound.token_lt htoken, hsound.nodup_tokens.not_mem_erase⟩

/-- What an act drops exists before, and the client that drops it is in control. -/
theorem drops?_eq_some (h : (σ.after n).drops? c (σ n) = some token) :
    ∃ i base news thread, σ n = .move i (.start (.dropRegistration thread (.tracked c token))) ∧
      (σ.after n).strands[i]? = some ⟨base, .client news⟩ ∧
      token ∈ ((σ.after n).store.cleaner c).tokens := by
  cases hact : σ n with
  | spawn =>
    rw [hact] at h
    cases h
  | move i move =>
    rw [hact] at h
    obtain ⟨⟨base, focus⟩, hstrand, hdrops⟩ := Option.bind_eq_some_iff.mp h
    unfold System.drops? at hdrops
    split at hdrops
    · next thread b other =>
      cases focus with
      | handing o => cases hdrops
      | client news =>
        have hdrops : (if b = c ∧ other ∈ ((σ.after n).store.cleaner c).tokens then some other
          else none) = some token := hdrops
        rw [Option.ite_none_right_eq_some, Option.some.injEq] at hdrops
        obtain ⟨⟨rfl, htoken⟩, rfl⟩ := hdrops
        exact ⟨i, base, news, thread, rfl, hstrand, htoken⟩
    · cases hdrops

/-- And each such drop counts. -/
theorem drops?_of_drop {base : List Frame} {news : Option Outcome} {thread : ThreadId}
    (hact : σ n = .move i (.start (.dropRegistration thread (.tracked c token))))
    (hstrand : (σ.after n).strands[i]? = some ⟨base, .client news⟩)
    (htoken : token ∈ ((σ.after n).store.cleaner c).tokens) :
    (σ.after n).drops? c (σ n) = some token := by
  simp [hact, Machine.drops?, hstrand, System.drops?, htoken]

/-- What was dropped is used up. -/
theorem usedUp_of_dropped (h : token ∈ σ.dropped c n) :
    ((σ.after n).store.cleaner c).UsedUp token := by
  obtain ⟨l, hl, hdrops⟩ := List.mem_filterMap.mp h
  obtain ⟨i, base, news, thread, hact, hstrand, htoken⟩ := drops?_eq_some hdrops
  exact usedUp_stays (List.mem_range.mp hl) (usedUp_of_spends hact hstrand ⟨thread, .inr rfl⟩ htoken)

/-- No token is dropped twice. -/
theorem dropped_nodup (σ : Schedule) (c n : Nat) : (σ.dropped c n).Nodup := by
  induction n with
  | zero => exact List.nodup_nil
  | succ n ih =>
    rw [dropped_succ]
    cases hdrops : (σ.after n).drops? c (σ n) with
    | none => simpa using ih
    | some token =>
      obtain ⟨i, base, news, thread, -, -, htoken⟩ := drops?_eq_some hdrops
      rw [Option.toList_some, ← List.concat_eq_append, List.nodup_concat]
      exact ⟨fun hmem => (usedUp_of_dropped hmem).2 htoken, ih⟩

/-- What was cleaned is never dropped. -/
theorem not_dropped_of_clean {base : List Frame} {news : Option Outcome} {thread : ThreadId}
    (hact : σ n = .move i (.start (.clean thread c token)))
    (hstrand : (σ.after n).strands[i]? = some ⟨base, .client news⟩)
    (htoken : token ∈ ((σ.after n).store.cleaner c).tokens) (m : Nat) : token ∉ σ.dropped c m := by
  intro hdropped
  obtain ⟨l, -, hdrops⟩ := List.mem_filterMap.mp hdropped
  obtain ⟨j, _, _, _, hdrop, hother, hexists⟩ := drops?_eq_some hdrops
  obtain hlt | rfl | hgt := Nat.lt_trichotomy l n
  · exact (usedUp_stays hlt (usedUp_of_spends hdrop hother ⟨_, .inr rfl⟩ hexists)).2 htoken
  · rw [hact] at hdrop
    cases hdrop
  · exact (usedUp_stays hgt (usedUp_of_spends hact hstrand ⟨_, .inl rfl⟩ htoken)).2 hexists

end Schedule

/-! ### What is run -/

/-- A disposal begins no action. -/
theorem System.started_dispose (s : System) (thread : ThreadId) (d : Disposal) (c : Nat) :
    (s.dispose thread d).store.history.started c = s.store.history.started c := by
  unfold dispose
  dsimp only
  split
  · rw [(askCount_view thread _ d.type d.address).1]
    simp [push, note, mapStore]
  · rw [destroy, (callDestroy_view thread _ d.type d.address).1]
    simp [push, note, mapStore]

namespace Schedule

variable {σ : Schedule} {c n i token : Nat}

/-- At moment `n` strand `i` has just turned to an action, for which its cleaner waits over a base:
    it has called the code that the client supplied, or begun the disposal. -/
def TurnsTo (σ : Schedule) (i n : Nat) (thread : ThreadId) (c token : Nat) (base : List Frame) :
    Action → Prop
  | .supplied tag => ∃ store, σ.At i n
      { store
        stack := .awaiting (.action thread tag) :: .running thread c token :: base
        focus := .client none }
  | .dispose d => ∃ s : System,
      s.stack = .reporting thread c token :: .running thread c token :: base ∧
      σ.At i n (s.dispose thread d)

/-- What was registered with a token is one action. -/
theorem tracked_unique {action other : Action}
    (h : (token, action) ∈ (σ.after n).store.history.tracked c)
    (hother : (token, other) ∈ (σ.after n).store.history.tracked c) : other = action := by
  have hkeys : (((σ.after n).store.history.tracked c).map Prod.fst).Nodup := by
    have hnumbered : ((σ.after n).store.history.tracked c).map Prod.fst = List.range _ :=
      (σ.cleanerView_sound c n).numbered
    rw [hnumbered]
    exact List.nodup_range
  have hfound := (lookup_eq_some_iff_mem hkeys).mpr h
  rw [(lookup_eq_some_iff_mem hkeys).mpr hother] at hfound
  exact Option.some.inj hfound

/-- **A token comes to the action that was registered with it.** -/
theorem taken {thread : ThreadId} {base : List Frame} {o : Outcome}
    (hstrand : (σ.after n).strands[i]? = some ⟨.taking thread c token :: base, .handing o⟩)
    (hact : σ n = .move i .tick) :
    ∃ action, (token, action) ∈ (σ.after n).store.history.tracked c ∧
      ((σ.after n).store.history.swapped c).lookup token = some action ∧
      (σ.after (n + 1)).store.history.started c =
        (σ.after n).store.history.started c ++ [(token, action)] ∧
      σ.TurnsTo i (n + 1) thread c token base action := by
  have hsound := σ.cleanerView_sound c n
  have hat : σ.At i n ⟨(σ.after n).store, .taking thread c token :: base, .handing o⟩ :=
    ⟨_, hstrand, rfl⟩
  have hafter : σ.At i (n + 1) (System.runAction ⟨(σ.after n).store, base, .handing o⟩ thread c token) :=
    hat.move hact
  have hframe : .taking thread c token ∈ (σ.after n).frames :=
    List.mem_flatMap.mpr ⟨_, List.mem_of_getElem? hstrand, List.mem_cons_self ..⟩
  have hpending : (((σ.after n).store.cleaner c).take? token).isSome :=
    hsound.pending (List.mem_append_right _ ((σ.mem_taking c).mpr ⟨_, hframe⟩))
  obtain ⟨⟨cleaner, action⟩, htake⟩ := Option.isSome_iff_exists.mp hpending
  have hlookup : ((σ.after n).store.cleaner c).live.lookup token = some action := by
    obtain ⟨found, hfound, heq⟩ := Option.map_eq_some_iff.mp htake
    rw [hfound, (Prod.mk.inj heq).2]
  have hlive := (lookup_eq_some_iff_mem hsound.nodup_keys).mp hlookup
  refine ⟨action, ?_, (σ.lookup_swapped c n token).trans hlookup, ?_⟩
  · exact hsound.divided.mem_iff.mp (List.mem_append_left _ hlive)
  · unfold System.runAction at hafter
    rw [htake] at hafter
    rw [← hafter.store]
    cases action with
    | supplied tag => exact ⟨by simp [System.request, System.push, System.yield, System.note,
        System.mapStore], _, hafter⟩
    | dispose d =>
      refine ⟨?_, _, ?_, hafter⟩
      · exact (System.started_dispose _ thread d c).trans (by simp [System.push, System.note,
          System.mapStore])
      · rfl

/-- What is reclaimed begins with a step of the reclamation thread, right over its loop. -/
theorem reclaims?_eq_some (halive : ((σ.after n).store.cleaner c).phase ≠ .dead)
    (h : (σ.after n).reclaims? c (σ n) = some token) :
    ∃ i name base o, σ n = .move i .tick ∧ (σ.after n).strands[i]? =
      some ⟨.taking (.reclaimer c name) c token :: .reclaiming c :: base, .handing o⟩ := by
  cases hact : σ n with
  | spawn =>
    rw [hact] at h
    cases h
  | move i move =>
    rw [hact] at h
    obtain ⟨⟨stack, focus⟩, hstrand, hreclaims⟩ := Option.bind_eq_some_iff.mp h
    unfold System.reclaims? at hreclaims
    split at hreclaims
    · cases focus with
      | client news => cases hreclaims
      | handing o =>
        have htop := (Option.filter_eq_some_iff.mp hreclaims).1
        cases stack with
        | nil => cases htop
        | cons f rest =>
          obtain ⟨thread, held, base, rfl, rfl⟩ | ⟨hnone, -⟩ := inHand_cons_cases c f rest
          · have hheld : (thread, held) ∈ (σ.after n).hands c :=
              List.mem_flatMap.mpr ⟨_, List.mem_of_getElem? hstrand, by simp [inHand]⟩
            obtain ⟨name, hname⟩ := hands_thread halive hheld
            have hsame : held = token := by simpa [heldOnTop?] using htop
            subst hname hsame
            exact ⟨i, name, base, o, rfl, hstrand⟩
          · exact absurd (htop.symm.trans hnone) (by simp)
    · cases hreclaims

/-! ### First dropped, first reclaimed -/

/-- What it means that a cleaner reclaims first what is dropped first. -/
structure Fifo (σ : Schedule) (c : Nat) : Prop where
  /-- As long as its thread is not dead, what was dropped is what it has reclaimed, followed by what
      it has in hand, followed by what is queued. -/
  line : ∀ n, ((σ.after n).store.cleaner c).phase ≠ .dead →
    σ.dropped c n = σ.reclaimed c n ++ (((σ.after n).hands c).map Prod.snd ++
      ((σ.after n).store.cleaner c).queue)
  /-- It has one token in hand at most, and none unless it is busy. -/
  hand : ∀ n, ((σ.after n).hands c).length ≤
    if ((σ.after n).store.cleaner c).phase = .busy then 1 else 0
  /-- So at every moment it has reclaimed a first part of what was dropped, in the same order. -/
  ordered : ∀ n, ((σ.after n).store.cleaner c).phase ≠ .dead →
    σ.reclaimed c n <+: σ.dropped c n
  /-- And all of it, once the queue is drained and nothing is in hand. -/
  drained : ∀ n, ((σ.after n).store.cleaner c).phase ≠ .dead →
    ((σ.after n).store.cleaner c).queue = [] → (σ.after n).hands c = [] →
    σ.reclaimed c n = σ.dropped c n
  /-- A token that is dropped comes after all that is queued, on whatever strand that is done and
      whatever work waits on it: an action, or a destroy routine of a closing. -/
  behind : ∀ n i base news thread token, ((σ.after n).store.cleaner c).phase ≠ .dead →
    σ n = .move i (.start (.dropRegistration thread (.tracked c token))) →
    (σ.after n).strands[i]? = some ⟨base, .client news⟩ →
    token ∈ ((σ.after n).store.cleaner c).tokens →
    σ.dropped c (n + 1) = σ.dropped c n ++ [token] ∧
    ((σ.after (n + 1)).store.cleaner c).queue = ((σ.after n).store.cleaner c).queue ++ [token]
  /-- No token is dropped twice. -/
  once : ∀ n, (σ.dropped c n).Nodup
  /-- One that is cleaned is neither dropped nor reclaimed, before or after that. -/
  cleaned : ∀ n i base news thread token, σ n = .move i (.start (.clean thread c token)) →
    (σ.after n).strands[i]? = some ⟨base, .client news⟩ →
    token ∈ ((σ.after n).store.cleaner c).tokens →
    ∀ m, token ∉ σ.dropped c m ∧
      (((σ.after m).store.cleaner c).phase ≠ .dead → token ∉ σ.reclaimed c m)
  /-- What is reclaimed begins with a step of the reclamation thread, right over its loop. -/
  onThread : ∀ n token, ((σ.after n).store.cleaner c).phase ≠ .dead →
    (σ.after n).reclaims? c (σ n) = some token →
    ∃ i name base o, σ n = .move i .tick ∧ (σ.after n).strands[i]? =
      some ⟨.taking (.reclaimer c name) c token :: .reclaiming c :: base, .handing o⟩
  /-- There as elsewhere, a token comes to the one action that was registered with it. -/
  registered : ∀ n i thread token base o,
    (σ.after n).strands[i]? = some ⟨.taking thread c token :: base, .handing o⟩ →
    σ n = .move i .tick →
    ∃ action, (token, action) ∈ (σ.after n).store.history.tracked c ∧
      (∀ other, (token, other) ∈ (σ.after n).store.history.tracked c → other = action) ∧
      ((σ.after n).store.history.swapped c).lookup token = some action ∧
      (σ.after (n + 1)).store.history.started c =
        (σ.after n).store.history.started c ++ [(token, action)] ∧
      σ.TurnsTo i (n + 1) thread c token base action
  /-- Which actions wait, and which of them is found under a token, has nothing to do with the order
      into which the live set comes if each action that is taken leaves its place to the last. -/
  placeless : ∀ n, ((σ.after n).store.history.swapped c).Perm ((σ.after n).store.cleaner c).live ∧
    ∀ token, ((σ.after n).store.history.swapped c).lookup token =
      ((σ.after n).store.cleaner c).live.lookup token

/-- **First dropped, first reclaimed.** -/
theorem fifo (σ : Schedule) (c : Nat) : σ.Fifo c where
  line n := dropped_eq
  hand n := σ.length_hands_le c n
  ordered n halive := by
    rw [dropped_eq halive]
    exact List.prefix_append ..
  drained n halive hqueue hhands := by
    rw [dropped_eq halive, hqueue, hhands]
    exact (List.append_nil _).symm
  behind n i base news thread token halive hact hstrand htoken := by
    have hdrops := drops?_of_drop hact hstrand htoken
    refine ⟨by rw [dropped_succ, hdrops, Option.toList_some], ?_⟩
    -- a thread that is not dead receives what is dropped, as a token exists
    have hturn := System.dropToken_turn (s := (σ.after n).system ⟨base, .client news⟩) thread token
      (fun htokens => (σ.cleanerView_sound c n).needed (.inl htokens)) halive
    rw [after, hact, Machine.store_perform hstrand]
    have htoken : token ∈ (((σ.after n).system ⟨base, .client news⟩).store.cleaner c).tokens := htoken
    rw [if_pos htoken] at hturn
    cases hturn with
    | dropped _ _ hqueue => exact hqueue
  once n := dropped_nodup σ c n
  cleaned n i base news thread token hact hstrand htoken m := by
    have hdropped := not_dropped_of_clean hact hstrand htoken m
    refine ⟨hdropped, fun halive hreclaimed => hdropped ?_⟩
    rw [dropped_eq halive]
    exact List.mem_append_left _ hreclaimed
  onThread n token := reclaims?_eq_some
  registered n i thread token base o hstrand hact := by
    obtain ⟨action, htracked, hrest⟩ := taken hstrand hact
    exact ⟨action, htracked, fun other => tracked_unique htracked, hrest⟩
  placeless n := ⟨σ.swapped_perm c n, σ.lookup_swapped c n⟩

/-- A run in which four actions are registered and three of their tokens are dropped, not in the
    order of their numbers: the third at first, then the second on another strand while the action of
    the third runs, then the first in this action.  The fourth token is cleaned. -/
def droppingWithin : Schedule
  | 0 => .spawn
  | 1 => .spawn
  | 2 => cleaningOne 1
  | 3 => .move 0 (.operate (.track 0 7))
  | 4 => .move 0 (.operate (.track 0 8))
  | 5 => .move 0 (.operate (.track 0 9))
  | 6 => .move 0 (.operate (.track 0 10))
  | 7 => .move 0 (.start (.dropRegistration .main (.tracked 0 2)))
  | 8 => .move 0 .tick
  | 9 => .move 1 (.start (.receive 0))
  | 11 => .move 0 (.start (.dropRegistration .main (.tracked 0 1)))
  | 12 => .move 0 .tick
  | 13 => .move 1 (.start (.dropRegistration (.reclaimer 0 "") (.tracked 0 0)))
  | 15 => .move 0 (.start (.clean .main 0 3))
  | 16 => .move 0 .tick
  | 17 => .move 0 (.answer (.ok .done))
  | 18 => .move 0 .tick
  | 19 => .move 0 .tick
  | 20 => .move 1 (.answer (.ok .done))
  | 24 => .move 1 (.start (.receive 0))
  | 26 => .move 1 (.answer (.ok .done))
  | 30 => .move 1 (.start (.receive 0))
  | 32 => .move 1 (.answer (.ok .done))
  | _ => .move 1 .tick

theorem fifo_droppingWithin :
    droppingWithin.dropped 0 36 = [2, 1, 0] ∧ droppingWithin.reclaimed 0 36 = [2, 1, 0] ∧
    droppingWithin.reclaimed 0 14 <+: [2, 1, 0] ∧ (∀ m, 3 ∉ droppingWithin.dropped 0 m) ∧
    ∃ action, (1, action) ∈ (droppingWithin.after 25).store.history.tracked 0 ∧
      droppingWithin.TurnsTo 1 26 (.reclaimer 0 "swiftkit-auto-arena-cleaner") 0 1 [.reclaiming 0]
        action := by
  have hfifo := fifo droppingWithin 0
  have hdropped : droppingWithin.dropped 0 14 = [2, 1, 0] ∧ droppingWithin.dropped 0 36 = [2, 1, 0] :=
    ⟨rfl, rfl⟩
  have hall := hfifo.drained 36 (by decide +kernel) rfl rfl
  have hfirst := hfifo.ordered 14 (by decide +kernel)
  obtain ⟨action, htracked, -, -, -, hturns⟩ := hfifo.registered 25 1 _ 1 _ _ rfl rfl
  rw [hdropped.1] at hfirst
  refine ⟨hdropped.2, hall.trans hdropped.2, hfirst, fun m => ?_, action, htracked, hturns⟩
  exact (hfifo.cleaned 15 0 [] _ .main 3 rfl rfl (by decide +kernel) m).1

end Schedule

end ForeignArena
