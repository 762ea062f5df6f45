import ForeignArena.Proofs.Cleaners.Accounts
import ForeignArena.Proofs.Panics
import Mathlib.Data.List.Nodup
import Mathlib.Tactic.IntervalCases

namespace ForeignArena

/-!
# What reclamation threads come to

A reclamation thread takes what is queued, and the panics of its actions are contained.  It
dies in one case only: an action panics with a payload that panics again as it is dropped.
Then what is queued is never run, and the cleaner goes on reporting that its thread runs.

* `Schedule.dies` — how a reclamation thread dies;
* `Schedule.AtRest` — a cleaner of which nothing is in progress;
* `Schedule.Reclaims`, `Schedule.reclaims` — what has become of the actions of a cleaner.
-/

/-! ### How threads die -/

/-- A thread dies in a step only. -/
theorem CleanerView.Step.alive {move : Move} {c : Nat} {v w : CleanerView} (hstep : Step move c v w)
    (hmove : move ≠ .tick) (h : v.cleaner.phase ≠ .dead) : w.cleaner.phase ≠ .dead := by
  cases hstep with
  | added name =>
    intro hdead
    cases hdead
  | settled =>
    unfold Cleaner.settle
    split
    · intro hdead
      cases hdead
    · exact h
  | received token cleaner _ hdequeue =>
    obtain ⟨rest, -, -, rfl⟩ := Cleaner.dequeue?_eq_some hdequeue
    intro hdead
    cases hdead
  | took token action cleaner taking _ htake =>
    rw [Cleaner.take?_eq_some htake]
    exact h
  | resumed busy =>
    intro hdead
    cases hdead
  -- only the loop of the thread itself lets it die
  | died busy htick => exact absurd htick hmove
  | _ => exact h

theorem Changes.alive {s t : Site} {move : Move} {c : Nat} (h : Changes move s t)
    (hmove : move ≠ .tick) (halive : (s.1.cleaner c).phase ≠ .dead) :
    (t.1.cleaner c).phase ≠ .dead :=
  h.keeps (fun site => (site.1.cleaner c).phase ≠ .dead)
    (fun hchange halive => (hchange.cleaner c).alive hmove halive) halive

namespace System

variable {s : System} {c : Nat}

/-- Running an action does not make a thread die. -/
theorem runAction_alive (thread : ThreadId) (b token : Nat)
    (halive : (s.store.cleaner c).phase ≠ .dead) :
    ((s.runAction thread b token).store.cleaner c).phase ≠ .dead := by
  unfold runAction
  split
  · exact halive
  · next cleaner action htake =>
    have hphase : (((s.store.modifyCleaner b fun _ => cleaner)).cleaner c).phase ≠ .dead := by
      by_cases hbc : b = c
      · subst hbc
        rw [Store.cleaner_modifyCleaner _ _ _ _ (Change.known_of_take htake), if_pos rfl,
          Cleaner.take?_eq_some htake]
        exact halive
      · rw [Store.cleaner_modifyCleaner_ne _ hbc]
        exact halive
    dsimp only
    cases action with
    | supplied tag => exact hphase
    | dispose d =>
      -- a disposal can be part of other moves too, in which no thread dies
      have hchanges : Changes (.answer (.ok .done)) _ _ := dispose_changes
        ((((s.mapStore (·.modifyCleaner b fun _ => cleaner)).note
          (.started thread b token (.dispose d))).push (.running thread b token)).push
          (.reporting thread b token)) thread d (by simp)
      exact hchanges.alive (by simp) hphase

/-- A token that finds its thread dead comes to its action at once. -/
theorem dropToken_of_dead (thread : ThreadId) {token : Nat}
    (htoken : token ∈ (s.store.cleaner c).tokens) (hdead : (s.store.cleaner c).phase = .dead) :
    s.dropToken thread c token =
      ((((s.mapStore (·.modifyCleaner c (·.spend token))).note (.threadGone thread c token)).push
        .inline).takeAction thread c token) := by
  have hcontains : (s.store.cleaner c).tokens.contains token = true := by simpa using htoken
  have hgone : (((s.store.modifyCleaner c (·.spend token))).cleaner c).isReceiving = false := by
    rw [Store.isReceiving_spend]
    simp [Cleaner.isReceiving, hdead]
  unfold dropToken
  rw [hcontains]
  dsimp only [mapStore]
  rw [hgone]
  rfl

/-- **A thread dies where its loop is given a panic.** -/
theorem dies_of_tick (halive : (s.store.cleaner c).phase ≠ .dead)
    (hdead : (s.tick.store.cleaner c).phase = .dead) :
    ∃ payload rest, s.focus = .handing (.error payload) ∧ s.stack = .reclaiming c :: rest := by
  obtain ⟨store, stack, focus⟩ := s
  cases focus with
  | client news => cases stack <;> exact absurd hdead halive
  | handing o =>
    cases stack with
    | nil => exact absurd hdead halive
    | cons f rest =>
      have hdead : ((System.resume ⟨store, rest, .handing o⟩ f o).store.cleaner c).phase = .dead :=
        hdead
      -- work that holds nothing of a cleaner could go on in other moves too
      have hloose (f : Frame) (hf : f.isLoose) :
          ((System.resume ⟨store, rest, .handing o⟩ f o).store.cleaner c).phase ≠ .dead := by
        have hchanges : Changes (.answer (.ok .done)) _ _ := resume_changes
          ⟨store, rest, .handing o⟩ f o (by simp) (by simp [hf])
        exact hchanges.alive (by simp) halive
      cases f with
      | reclaiming b =>
        cases o with
        | ok r =>
          -- going back to the queue could be part of other moves too
          have hchanges : Changes (.answer (.ok .done)) (store, .reclaiming b :: rest)
              (store.modifyCleaner b (·.resume), rest) := .single (.resumed b)
          exact absurd hdead (hchanges.alive (by simp) halive)
        | error payload =>
          by_cases hbc : b = c
          · subst hbc
            exact ⟨payload, rest, rfl, rfl⟩
          · have hdead : ((store.modifyCleaner b (·.die)).cleaner c).phase = .dead := hdead
            rw [Store.cleaner_modifyCleaner_ne _ hbc] at hdead
            exact absurd hdead halive
      | taking thread b token => exact absurd hdead (runAction_alive thread b token halive)
      | running thread b token =>
        cases o with
        | ok r =>
          have hphase := Store.view_modifyCleaner Cleaner.phase store b c (·.finish) fun _ => rfl
          exact absurd (hphase.symm.trans hdead) halive
        | error payload =>
          have hphase := Store.view_modifyCleaner Cleaner.phase store b c (·.fail) fun _ => rfl
          have hstore := resumePanicked_store ⟨store, rest, .handing (.error payload)⟩ thread b token
            payload
          have hdead : ((resumePanicked ⟨store, rest, .handing (.error payload)⟩ thread b token
            payload).store.cleaner c).phase = .dead := hdead
          rw [hstore] at hdead
          exact absurd (hphase.symm.trans hdead) halive
      | _ => exact absurd hdead (hloose _ rfl)

end System

namespace Schedule

variable {σ : Schedule} {c n m : Nat}

/-- **How a reclamation thread dies**: its loop is given a panic. -/
theorem dies (halive : ((σ.after n).store.cleaner c).phase ≠ .dead)
    (hdead : ((σ.after (n + 1)).store.cleaner c).phase = .dead) :
    ∃ i payload rest, σ n = .move i .tick ∧
      (σ.after n).strands[i]? = some ⟨.reclaiming c :: rest, .handing (.error payload)⟩ := by
  cases hact : σ n with
  | spawn =>
    rw [after, hact] at hdead
    exact absurd hdead halive
  | move i move =>
    cases hstrand : (σ.after n).strands[i]? with
    | none =>
      rw [after, hact, Machine.perform_of_none hstrand] at hdead
      exact absurd hdead halive
    | some strand =>
      rw [after, hact, Machine.store_perform hstrand] at hdead
      by_cases hmove : move = .tick
      · subst hmove
        obtain ⟨payload, rest, hfocus, hstack⟩ :=
          System.dies_of_tick (s := (σ.after n).system strand) halive hdead
        obtain ⟨stack, focus⟩ := strand
        cases hfocus
        cases hstack
        exact ⟨i, payload, rest, rfl, hstrand⟩
      · exact absurd hdead ((((σ.after n).system strand).perform_changes move).alive hmove halive)

/-- Where no payload panics as it is dropped, no thread dies. -/
theorem alive (htame : ∀ i, σ.Tame i 0 n) : ((σ.after n).store.cleaner c).phase ≠ .dead := by
  induction n with
  | zero =>
    intro hdead
    cases hdead
  | succ n ih =>
    have htame : ∀ i, σ.Tame i 0 n := fun i => (htame i).mono (Nat.le_refl 0) (Nat.le_succ n)
    intro hdead
    obtain ⟨i, payload, rest, -, hstrand⟩ := dies (ih htame) hdead
    -- the frame of the loop takes no panic, and in a tame run none comes to it
    have horderly : System.Orderly True _ := orderly_stays (Nat.zero_le n) (fun _ => htame i)
      (fun _ hnone => by cases hnone) _ hstrand
    obtain ⟨-, hbears⟩ := horderly.calm trivial payload rfl
    cases hbears

/-- A thread that is dead stays so, and what was lost with it stays lost. -/
theorem dead_stays (hnm : n ≤ m) (hdead : ((σ.after n).store.cleaner c).phase = .dead) :
    ((σ.after m).store.cleaner c).phase = .dead ∧
      ((σ.after m).store.cleaner c).lost = ((σ.after n).store.cleaner c).lost := by
  have hboth := @σ.stays (fun st k => (Site.cleanerView (st, k) c).Sound ∧
    (st.cleaner c).phase = .dead ∧ (st.cleaner c).lost = ((σ.after n).store.cleaner c).lost) n m hnm
    (fun hperm hs => ⟨Site.cleaner_sound_perm hperm hs.1, hs.2⟩)
    (fun _ _ _ hchange hs => ⟨(hchange.cleaner c).sound hs.1, ?_⟩)
    ⟨σ.cleanerView_sound c n, hdead, rfl⟩
  · exact hboth.2
  · obtain ⟨hstays, hlost⟩ := (hchange.cleaner c).dead hs.1 hs.2.1
    exact ⟨hstays, hlost.trans hs.2.2⟩

/-! ### Cleaners at rest -/

/-- Nothing of a cleaner is in progress: nothing is queued, its thread is not busy, and no
    action of its is about to run or runs. -/
structure AtRest (σ : Schedule) (c n : Nat) : Prop where
  queue : ((σ.after n).store.cleaner c).queue = []
  taking : ∀ thread token, .taking thread c token ∉ (σ.after n).frames
  running : ∀ thread token, .running thread c token ∉ (σ.after n).frames
  reclaiming : .reclaiming c ∉ (σ.after n).frames

/-- No action is about to be taken. -/
theorem AtRest.taking_eq (h : σ.AtRest c n) : (σ.cleanerView c n).taking = [] := by
  refine List.eq_nil_iff_forall_not_mem.mpr fun token hmem => ?_
  obtain ⟨thread, hframe⟩ := (σ.mem_taking c).mp hmem
  exact h.taking thread token hframe

/-- Each action has begun once, unless its token exists, or is queued, or was lost, or has been
    given up and the action is about to be taken. -/
theorem whereabouts {token : Nat} {action : Action}
    (htracked : (token, action) ∈ (σ.after n).store.history.tracked c) :
    token ∈ ((σ.after n).store.cleaner c).tokens ∨ token ∈ ((σ.after n).store.cleaner c).queue ∨
      token ∈ ((σ.after n).store.cleaner c).lost ∨ token ∈ (σ.cleanerView c n).taking ∨
      ((σ.after n).store.history.started c).count (token, action) = 1 := by
  have hsound := σ.cleanerView_sound c n
  have hdivided : (token, action) ∈ (σ.cleanerView c n).cleaner.live ++ (σ.cleanerView c n).started :=
    hsound.divided.mem_iff.mpr htracked
  obtain hlive | hstarted := List.mem_append.mp hdivided
  · have hkey : token ∈ (σ.cleanerView c n).cleaner.keys := List.mem_map_of_mem hlive
    rw [hsound.custody.mem_iff, List.mem_append, List.mem_append, List.mem_append] at hkey
    obtain ((htoken | hqueue) | hlost) | htaking := hkey
    · exact .inl htoken
    · exact .inr (.inl hqueue)
    · exact .inr (.inr (.inl hlost))
    · exact .inr (.inr (.inr (.inl htaking)))
  · have hnodup : ((σ.after n).store.history.started c).Nodup :=
      (List.nodup_append.mp hsound.nodup).2.1.of_map Prod.fst
    exact .inr (.inr (.inr (.inr (List.count_eq_one_of_mem hnodup hstarted))))

/-- So at rest each action has begun once, unless its token exists or was lost. -/
theorem AtRest.ran (h : σ.AtRest c n) {token : Nat} {action : Action}
    (htracked : (token, action) ∈ (σ.after n).store.history.tracked c) :
    token ∈ ((σ.after n).store.cleaner c).tokens ∨ token ∈ ((σ.after n).store.cleaner c).lost ∨
      ((σ.after n).store.history.started c).count (token, action) = 1 := by
  have hplace := whereabouts htracked
  simpa [h.queue, h.taking_eq] using hplace

/-- No action runs. -/
theorem AtRest.running_eq (h : σ.AtRest c n) : σ.running c n = [] := by
  refine List.eq_nil_iff_forall_not_mem.mpr fun token hmem => ?_
  obtain ⟨thread, hframe⟩ := mem_running.mp hmem
  exact h.running thread token hframe

/-- And all that have begun were counted as cleaned or as panicked. -/
theorem AtRest.counted (h : σ.AtRest c n) : ((σ.after n).store.history.started c).length =
    ((σ.after n).store.cleaner c).cleaned + ((σ.after n).store.cleaner c).panicked := by
  have haccount := σ.accountView_sound c n
  have hlength := haccount.divided.length_eq
  have hrunning : (σ.accountView c n).running = [] := h.running_eq
  have hended := List.length_eq_countP_add_countP (·.2) (l := (σ.accountView c n).ended)
  have hcleaned : ((σ.after n).store.cleaner c).cleaned = _ := haccount.cleaned
  have hpanicked : ((σ.after n).store.cleaner c).panicked = _ := haccount.panicked
  rw [hrunning, List.append_nil, List.length_map, List.length_map] at hlength
  rw [hcleaned, hpanicked, show ((σ.after n).store.history.started c).length = _ from hlength]
  simpa using hended

/-! ### What becomes of the actions -/

/-- A thread that has not died reports as it is. -/
theorem isReceiving_of_isRunning {cleaner : Cleaner} (halive : cleaner.phase ≠ .dead)
    (hrunning : cleaner.isRunning = true) : cleaner.isReceiving = true := by
  unfold Cleaner.isReceiving
  unfold Cleaner.isRunning at hrunning
  cases hphase : cleaner.phase <;> simp_all

/-- What it means that a cleaner runs what is dropped. -/
structure Reclaims (σ : Schedule) (c : Nat) : Prop where
  /-- At rest, each action has begun once, unless its token exists or was lost. -/
  ran : ∀ n, σ.AtRest c n → ∀ entry ∈ (σ.after n).store.history.tracked c,
    entry.1 ∈ ((σ.after n).store.cleaner c).tokens ∨ entry.1 ∈ ((σ.after n).store.cleaner c).lost ∨
      ((σ.after n).store.history.started c).count entry = 1
  /-- All that have begun were counted as cleaned or as panicked. -/
  counted : ∀ n, σ.AtRest c n → ((σ.after n).store.history.started c).length =
    ((σ.after n).store.cleaner c).cleaned + ((σ.after n).store.cleaner c).panicked
  /-- As long as no payload is thrown that panics as it is dropped, the thread does not die.  So
      nothing is lost, and while the thread is said to run it receives. -/
  contained : ∀ n, (∀ i, σ.Tame i 0 n) → ((σ.after n).store.cleaner c).phase ≠ .dead ∧
    ((σ.after n).store.cleaner c).lost = [] ∧
    (((σ.after n).store.cleaner c).isRunning → ((σ.after n).store.cleaner c).isReceiving)
  /-- So at rest each action whose token is gone has begun once, however others have panicked. -/
  harmless : ∀ n, (∀ i, σ.Tame i 0 n) → σ.AtRest c n →
    ∀ entry ∈ (σ.after n).store.history.tracked c,
      entry.1 ∉ ((σ.after n).store.cleaner c).tokens →
      ((σ.after n).store.history.started c).count entry = 1
  /-- A thread dies when its loop is given a panic that was raised by dropping such a payload, and
      then all is lost that was queued. -/
  died : ∀ n, ((σ.after n).store.cleaner c).phase ≠ .dead →
    ((σ.after (n + 1)).store.cleaner c).phase = .dead →
    (∃ i payload rest, σ n = .move i .tick ∧
      (σ.after n).strands[i]? = some ⟨.reclaiming c :: rest, .handing (.error payload)⟩ ∧
      ∃ first : Payload, first.dropped? = some payload) ∧
    (∃ i l first, l < n ∧ σ l = .move i (.answer (.error first)) ∧ first.dropped? ≠ none) ∧
    ((σ.after (n + 1)).store.cleaner c).lost = ((σ.after n).store.cleaner c).queue
  /-- What was lost with a thread is never run, and the thread is still said to run. -/
  lost : ∀ n m, ((σ.after n).store.cleaner c).phase = .dead → n ≤ m →
    (∀ token ∈ ((σ.after n).store.cleaner c).lost, ∀ action,
      (token, action) ∉ (σ.after m).store.history.started c) ∧
    ((σ.after m).store.cleaner c).isRunning = true ∧
    ((σ.after m).store.cleaner c).isReceiving = false
  /-- A token that is dropped after that comes to its action at once, on the strand that drops
      it. -/
  inPlace : ∀ n i base news thread token, ((σ.after n).store.cleaner c).phase = .dead →
    token ∈ ((σ.after n).store.cleaner c).tokens →
    (σ.after n).strands[i]? = some ⟨base, .client news⟩ →
    σ n = .move i (.start (.dropRegistration thread (.tracked c token))) →
    (σ.after (n + 1)).strands[i]? =
      some ⟨.taking thread c token :: .inline :: base, .handing (.ok .done)⟩

/-- **Reclamation threads run what is dropped**, however the actions panic, unless one panics
    with a payload that panics again as it is dropped. -/
theorem reclaims (σ : Schedule) (c : Nat) : σ.Reclaims c where
  ran n h entry hentry := h.ran hentry
  counted n h := h.counted
  contained n htame := by
    have halive := alive (c := c) htame
    exact ⟨halive, (σ.cleanerView_sound c n).not_lost halive, isReceiving_of_isRunning halive⟩
  harmless n htame h entry hentry hgone := by
    have hlost : ((σ.after n).store.cleaner c).lost = [] :=
      (σ.cleanerView_sound c n).not_lost (alive htame)
    obtain htoken | hmem | hone := h.ran hentry
    · exact absurd htoken hgone
    · rw [hlost] at hmem
      cases hmem
    · exact hone
  died n halive hdead := by
    obtain ⟨i, payload, rest, hact, hstrand⟩ := dies halive hdead
    refine ⟨⟨i, payload, rest, hact, hstrand, ?_⟩, ?_, ?_⟩
    · exact ((orderly hstrand).raised payload rfl).resolve_left fun hbears => by cases hbears
    · refine Classical.byContradiction fun hnone => alive (c := c) (n := n + 1) (fun j => ?_) hdead
      intro l _ hl first hanswer
      refine Classical.byContradiction fun hfirst => hnone ⟨j, l, first, ?_, hanswer, hfirst⟩
      -- the thread dies in a step, which is no answer
      obtain rfl | hlt := Nat.eq_or_lt_of_le (Nat.le_of_lt_succ hl)
      · rw [hact] at hanswer
        cases hanswer
      · exact hlt
    · rw [after, hact, Machine.store_perform hstrand] at hdead ⊢
      show ((((σ.after n).store.modifyCleaner c (·.die))).cleaner c).lost = _
      have hdead : ((((σ.after n).store.modifyCleaner c (·.die))).cleaner c).phase = .dead := hdead
      by_cases hknown : c < (σ.after n).store.cleaners.size
      · rw [Store.cleaner_modifyCleaner _ _ _ _ hknown, if_pos rfl]
        rfl
      · rw [Store.cleaner_modifyCleaner_unknown _ (Nat.not_lt.mp hknown)] at hdead
        exact absurd hdead halive
  lost n m hdead hnm := by
    obtain ⟨hstays, hlost⟩ := dead_stays hnm hdead
    refine ⟨fun token htoken action => ?_, ?_, ?_⟩
    · refine (σ.cleanerView_sound c m).not_started ?_ action
      rw [← hlost] at htoken
      simp [show token ∈ (σ.cleanerView c m).cleaner.lost from htoken]
    · simp [Cleaner.isRunning, hstays]
    · simp [Cleaner.isReceiving, hstays]
  inPlace n i base news thread token hdead htoken hstrand hact := by
    rw [after, hact, Machine.strand_perform hstrand]
    have hdrop := System.dropToken_of_dead (s := (σ.after n).system ⟨base, .client news⟩) thread
      htoken hdead
    show some (Strand.mk (System.dropToken _ thread c token).stack
      (System.dropToken _ thread c token).focus) = _
    rw [hdrop]
    rfl

/-- A run in which two tokens of a cleaner are dropped, and then its thread takes them from the
    queue.  The action of the first panics.  The cleaner is started as in `cleaningOne`. -/
def droppingBoth (payload : Payload) : Schedule
  | 0 => .spawn
  | 1 => .spawn
  | 2 => cleaningOne 1
  | 3 => .move 0 (.operate (.track 0 7))
  | 4 => .move 0 (.operate (.track 0 8))
  | 5 => .move 0 (.start (.dropRegistration .main (.tracked 0 0)))
  | 6 => .move 0 .tick
  | 7 => .move 0 (.start (.dropRegistration .main (.tracked 0 1)))
  | 8 => .move 0 .tick
  | 9 => .move 1 (.start (.receive 0))
  | 11 => .move 1 (.answer (.error payload))
  | 15 => .move 1 (.start (.receive 0))
  | 17 => .move 1 (.answer (.ok .done))
  | _ => .move 1 .tick

/-- With a payload that can be dropped, nothing else panics. -/
theorem droppingBoth_tame (i : Nat) : (droppingBoth (.literal "boom")).Tame i 0 21 := by
  intro l _ hl payload hact
  obtain rfl | hl11 : l = 11 ∨ l ≠ 11 := by omega
  · cases hact
    rfl
  · interval_cases l <;> first | exact absurd rfl hl11 | cases hact

theorem droppingBoth_atRest (payload : Payload) (h : payload = .literal "boom" ∨ payload = .armed) :
    (droppingBoth payload).AtRest 0 21 := by
  have hframes : ((droppingBoth payload).after 21).frames = [] := by
    obtain rfl | rfl := h <;> rfl
  have hqueue : (((droppingBoth payload).after 21).store.cleaner 0).queue = [] := by
    obtain rfl | rfl := h <;> rfl
  refine ⟨hqueue, fun _ _ hmem => ?_, fun _ _ hmem => ?_, fun hmem => ?_⟩
  all_goals
    rw [hframes] at hmem
    cases hmem

theorem reclaims_droppingBoth :
    (((droppingBoth (.literal "boom")).after 21).store.history.started 0).count (1, .supplied 8) = 1 ∧
    (((droppingBoth (.literal "boom")).after 21).store.cleaner 0).phase ≠ .dead ∧
    (((droppingBoth .armed).after 14).store.cleaner 0).lost = [1] ∧
    ∀ m, 14 ≤ m → (1, .supplied 8) ∉ ((droppingBoth .armed).after m).store.history.started 0 := by
  have hreclaims := reclaims (droppingBoth (.literal "boom")) 0
  have halive := hreclaims.contained 21 droppingBoth_tame
  have hdies := (reclaims (droppingBoth .armed) 0).died 13 (by decide) rfl
  refine ⟨?_, halive.1, hdies.2.2, fun m hm => ?_⟩
  · exact hreclaims.harmless 21 droppingBoth_tame (droppingBoth_atRest _ (.inl rfl)) (1, .supplied 8)
      (by decide) (by decide)
  · refine ((reclaims (droppingBoth .armed) 0).lost 14 m rfl hm).1 1 ?_ (.supplied 8)
    rw [hdies.2.2]
    exact List.mem_singleton.mpr rfl

/-- A payload that panics as it is dropped keeps a reclamation thread from running the rest, and
    nobody is told. -/
theorem not_reclaimed_droppingBoth :
    ¬∀ (σ : Schedule) (c n : Nat), σ.AtRest c n →
      (∀ entry ∈ (σ.after n).store.history.tracked c,
        entry.1 ∉ ((σ.after n).store.cleaner c).tokens →
          ((σ.after n).store.history.started c).count entry = 1) ∧
      (((σ.after n).store.cleaner c).isRunning → ((σ.after n).store.cleaner c).isReceiving) := by
  intro hall
  have hreceiving := (hall (droppingBoth .armed) 0 21 (droppingBoth_atRest _ (.inr rfl))).2 rfl
  cases hreceiving

end Schedule

end ForeignArena
