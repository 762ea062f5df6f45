import ForeignArena.Proofs.Calls
import ForeignArena.Proofs.Cleaners.Life

namespace ForeignArena

/-!
# Tokens keep actions from running

The three ways out of the live set — the queue, an explicit clean, and the drop of a token
whose thread is dead — never meet on one token.

* `System.Cleaning` — the stages of a clean;
* `Changes.lost` — tokens are lost only as the thread dies;
* `Schedule.TokensKept`, `Schedule.tokensKept` — what this means for tokens and actions.
-/

/-! ### Cleaning a token that exists -/

namespace System

/-- A clean of a token is about to take the action, or runs it, or is about to return that
    it has run. -/
inductive Cleaning (s : System) (thread : ThreadId) (c token : Nat) (base : List Frame) : Prop where
  | taking (o : Outcome) : s.stack = .taking thread c token :: base → s.focus = .handing o →
    Cleaning s thread c token base
  | running : s.Serves .done (.running thread c token :: base) → Cleaning s thread c token base
  | leaving (o : Outcome) : s.stack = base → s.focus = .handing o →
    (∀ r, o = .ok r → r = .cleaned true) → Cleaning s thread c token base

variable {s : System} {thread : ThreadId} {c token : Nat} {base : List Frame}

theorem Cleaning.elsewhere (h : s.Cleaning thread c token base) (store : Store) :
    ({ s with store } : System).Cleaning thread c token base := by
  cases h with
  | taking o hstack hfocus => exact .taking o hstack hfocus
  | running hserves => exact .running (hserves.elsewhere store)
  | leaving o hstack hfocus hran => exact .leaving o hstack hfocus hran

theorem Cleaning.within (h : s.Cleaning thread c token base) :
    Strand.within ⟨s.stack, s.focus⟩ base := by
  cases h with
  | taking o hstack hfocus => exact ⟨[.taking thread c token], hstack, by simp⟩
  | running hserves =>
    obtain ⟨above, hstack, -⟩ := hserves.within
    exact ⟨above ++ [.running thread c token], by simpa using hstack, by simp⟩
  | leaving o hstack hfocus _ => exact ⟨[], hstack, fun _ => ⟨o, hfocus⟩⟩

/-- Cleaning a token that exists turns to its action. -/
theorem clean_cleaning (htoken : token ∈ (s.store.cleaner c).tokens) :
    (s.clean thread c token).Cleaning thread c token s.stack := by
  unfold clean
  rw [if_pos (by simpa using htoken)]
  exact .taking _ rfl rfl

/-- An action that is still in the live set is run. -/
theorem runAction_running (hpending : ((s.store.cleaner c).take? token).isSome) :
    (s.runAction thread c token).Serves .done (.running thread c token :: s.stack) := by
  obtain ⟨⟨cleaner, action⟩, htake⟩ := Option.isSome_iff_exists.mp hpending
  unfold runAction
  rw [htake]
  cases action with
  | dispose d =>
    exact .frame (.reporting thread c token) (dispose_serves thread d rfl) rfl rfl
  | supplied tag => exact request_serves rfl rfl

/-- A clean goes on to its next stage, or returns that it has run the action. -/
theorem Cleaning.perform (h : s.Cleaning thread c token base) (hbase : Grounded base)
    (hpending : s.stack = .taking thread c token :: base →
      ((s.store.cleaner c).take? token).isSome) (move : Move) :
    (s.perform move).Cleaning thread c token base ∨
      ∃ o, Strand.returned ⟨(s.perform move).stack, (s.perform move).focus⟩ base o ∧
        ∀ r, o = .ok r → r = .cleaned true := by
  -- between two stages an outcome is on its way, and nothing else can happen
  have hstays {o : Outcome} (hfocus : s.focus = .handing o) (hmove : move ≠ .tick) :
      (s.perform move).Cleaning thread c token base := by
    rw [perform_handing hfocus move hmove]
    exact h
  cases h with
  | taking o hstack hfocus =>
    left
    by_cases hmove : move = .tick
    · subst hmove
      have htick : s.perform .tick = ({ s with stack := base } : System).runAction thread c token := by
        simp only [System.perform, tick, hfocus, hstack, resume]
      rw [htick]
      exact .running (@runAction_running { s with stack := base } thread c token (hpending hstack))
    · exact hstays hfocus hmove
  | running hserves =>
    left
    obtain ⟨hstack, o, hfocus, -⟩ | hserves := perform_serves move hserves
    · by_cases hmove : move = .tick
      · subst hmove
        have htick : s.perform .tick =
            ({ s with stack := base } : System).resume (.running thread c token) o := by
          simp only [System.perform, tick, hfocus, hstack]
        rw [htick]
        -- a panic of the action is caught, unless it comes with a payload that panics itself
        cases o with
        | ok r => exact .leaving (.ok (.cleaned true)) rfl rfl fun _ hr => (Except.ok.inj hr).symm
        | error payload =>
          unfold resume resumePanicked discard
          dsimp only
          split
          · exact .leaving _ rfl rfl fun _ hr => by cases hr
          · exact .leaving (.ok (.cleaned true)) rfl rfl fun _ hr => (Except.ok.inj hr).symm
      · exact hstays hfocus hmove
    · exact .running hserves
  | leaving o hstack hfocus hran =>
    by_cases hmove : move = .tick
    · right
      subst hmove
      exact ⟨o, (tick_returned hstack hfocus hbase).1, hran⟩
    · exact .inl (hstays hfocus hmove)

end System

/-! ### Where tokens are lost -/

/-- A thread that is dead stays so, and no more tokens are lost. -/
theorem CleanerView.Step.dead {move : Move} {c : Nat} {v w : CleanerView} (hstep : Step move c v w)
    (h : v.Sound) (hdead : v.cleaner.phase = .dead) :
    w.cleaner.phase = .dead ∧ w.cleaner.lost = v.cleaner.lost := by
  cases hstep with
  | added name hunknown =>
    rw [(h.unknown hunknown).1] at hdead
    cases hdead
  | settled =>
    have hsame : v.cleaner.settle = v.cleaner := by simp [Cleaner.settle, hdead]
    rw [hsame]
    exact ⟨hdead, rfl⟩
  | received token cleaner _ hdequeue =>
    obtain ⟨rest, hphase, -, -⟩ := Cleaner.dequeue?_eq_some hdequeue
    rw [hdead] at hphase
    cases hphase
  | took token action cleaner taking _ htake =>
    rw [Cleaner.take?_eq_some htake]
    exact ⟨hdead, rfl⟩
  | resumed busy hbusy | died busy _ hbusy =>
    have hphase := (h.busy_once hbusy).1
    rw [hdead] at hphase
    cases hphase
  | _ => exact ⟨hdead, rfl⟩

/-- What can become of the tokens of a cleaner in the course of a move: none is lost, or the thread
    dies and those are lost that were queued. -/
inductive CleanerView.Losing (move : Move) (start v : CleanerView) : Prop where
  | nothing : v.cleaner.lost = start.cleaner.lost →
    (move = .tick → v.cleaner.queue = start.cleaner.queue) →
    (start.cleaner.phase = .dead → v.cleaner.phase = .dead) → Losing move start v
  | died : start.cleaner.phase ≠ .dead → v.cleaner.phase = .dead →
    v.cleaner.lost = start.cleaner.queue → Losing move start v

theorem CleanerView.Losing.step {move : Move} {c : Nat} {start v w : CleanerView}
    (h : Losing move start v) (hv : v.Sound) (hstep : Step move c v w) : Losing move start w := by
  cases h with
  | died hbefore hdead hlost =>
    obtain ⟨hstays, hsame⟩ := hstep.dead hv hdead
    exact .died hbefore hstays (hsame.trans hlost)
  | nothing hlost hqueue hphase =>
    cases hstep with
    | died busy hmove hbusy =>
      -- a thread dies in a step of its own, in which nothing is queued or received
      refine .died (fun hdead => ?_) rfl (hqueue hmove)
      rw [(hv.busy_once hbusy).1] at hphase
      cases hphase hdead
    | added name hunknown =>
      rw [(hv.unknown hunknown).1] at hlost hqueue hphase
      exact .nothing hlost hqueue fun hdead => by cases hphase hdead
    | queued thread token hmove =>
      refine .nothing hlost (fun htick => ?_) hphase
      rw [htick] at hmove
      cases hmove
    | received token cleaner hmove hdequeue =>
      obtain ⟨rest, hwaiting, -, rfl⟩ := Cleaner.dequeue?_eq_some hdequeue
      refine .nothing hlost (fun htick => ?_) fun hdead => ?_
      · rw [htick] at hmove
        cases hmove
      · rw [hphase hdead] at hwaiting
        cases hwaiting
    | took token action cleaner taking _ htake =>
      rw [Cleaner.take?_eq_some htake]
      exact .nothing hlost hqueue hphase
    | settled =>
      have hsame : v.cleaner.settle.lost = v.cleaner.lost ∧
          v.cleaner.settle.queue = v.cleaner.queue := by
        unfold Cleaner.settle
        split <;> exact ⟨rfl, rfl⟩
      refine .nothing (hsame.1.trans hlost) (fun htick => hsame.2.trans (hqueue htick)) fun hdead => ?_
      simp [Cleaner.settle, hphase hdead]
    | resumed busy hbusy =>
      refine .nothing hlost hqueue fun hdead => ?_
      have hbusy := (hv.busy_once hbusy).1
      rw [hphase hdead] at hbusy
      cases hbusy
    | _ => exact .nothing hlost hqueue hphase

/-- **Tokens are lost only as the thread dies**: then those are lost that were queued. -/
theorem Changes.lost {move : Move} {s t : Site} (h : Changes move s t) {c : Nat}
    (hsound : (s.cleanerView c).Sound) :
    (t.1.cleaner c).lost = (s.1.cleaner c).lost ∨
      ((s.1.cleaner c).phase ≠ .dead ∧ (t.1.cleaner c).phase = .dead ∧
        (t.1.cleaner c).lost = (s.1.cleaner c).queue) := by
  have hall : (t.cleanerView c).Sound ∧
      CleanerView.Losing move (s.cleanerView c) (t.cleanerView c) := by
    induction h with
    | refl => exact ⟨hsound, .nothing rfl (fun _ => rfl) id⟩
    | tail _ last ih =>
      obtain ⟨hv, hlosing⟩ := ih
      exact ⟨(last.cleaner c).sound hv, hlosing.step hv (last.cleaner c)⟩
  cases hall.2 with
  | nothing hlost => exact .inl hlost
  | died hbefore hdead hlost => exact .inr ⟨hbefore, hdead, hlost⟩

/-! ### Which actions are running -/

/-- An action that runs has begun. -/
theorem Change.running {move : Move} {s t : Site} (h : Change move s t) {thread : ThreadId}
    {c token : Nat} (hmem : .running thread c token ∈ t.2) :
    .running thread c token ∈ s.2 ∨ ∃ action, (token, action) ∈ t.1.history.started c := by
  cases h with
  | push f hf =>
    obtain rfl | hmem := List.mem_cons.mp hmem
    · cases hf
    · exact .inl hmem
  | tookSupplied thread' c' token' tag =>
    obtain heq | hmem := List.mem_cons.mp hmem
    · cases heq
      exact .inr ⟨.supplied tag, by simp⟩
    · exact .inl (List.mem_cons_of_mem _ hmem)
  | tookDisposal thread' c' token' d =>
    simp only [List.mem_cons, reduceCtorEq, false_or] at hmem
    obtain heq | hmem := hmem
    · cases heq
      exact .inr ⟨.dispose d, by simp⟩
    · exact .inl (List.mem_cons_of_mem _ hmem)
  | _ =>
    left
    simp_all

namespace Schedule

variable {σ : Schedule} {c n i : Nat}

theorem started_of_running {thread : ThreadId} {token : Nat}
    (hmem : .running thread c token ∈ (σ.after n).frames) :
    ∃ action, (token, action) ∈ (σ.after n).store.history.started c := by
  revert thread token
  refine @always (fun st k => ∀ {thread : ThreadId} {token : Nat}, .running thread c token ∈ k →
    ∃ action, (token, action) ∈ st.history.started c) σ
    (fun hperm h _ _ hmem => h (hperm.mem_iff.mpr hmem)) (fun hchange h _ _ hmem => ?_)
    (fun hmem => by cases hmem) n
  obtain hbefore | hstarted := hchange.running hmem
  · obtain ⟨action, hstarted⟩ := h hbefore
    exact ⟨action, (hchange.cleaner c).grows.subset hstarted⟩
  · exact hstarted

/-- A clean of a token that exists returns that the action has run, if it returns. -/
theorem clean_returns {thread : ThreadId} {token m : Nat} {base : List Frame}
    {news : Option Outcome} {r : Reply}
    (hact : σ n = .move i (.start (.clean thread c token)))
    (hstrand : (σ.after n).strands[i]? = some ⟨base, .client news⟩)
    (htoken : token ∈ ((σ.after n).store.cleaner c).tokens) (hnm : n < m)
    (hfirst : ∀ l, n < l → l < m → σ.Within i l base) (hreturns : σ.Returns i m base (.ok r)) :
    r = .cleaned true := by
  have hbase := σ.grounded n i hstrand
  -- while the clean is about to take the action, the invariant keeps it in the live set
  refine returns_of_stages (fun l => ∃ strand, (σ.after l).strands[i]? = some strand ∧
      ((σ.after l).system strand).Cleaning thread c token base)
    (fun _ o => ∀ r, o = .ok r → r = .cleaned true) ?_ ?_ ?_ hnm hfirst hreturns r rfl
  · have hafter : σ.after (n + 1) =
        (σ.after n).perform (.move i (.start (.clean thread c token))) := by
      rw [after, hact]
    refine ⟨_, hafter ▸ Machine.strand_perform hstrand (.start (.clean thread c token)), ?_⟩
    rw [hafter, Machine.system_perform hstrand]
    exact System.clean_cleaning htoken
  · rintro l ⟨strand, hstrand, hstage⟩
    exact ⟨strand, hstrand, hstage.within⟩
  · rintro l hl ⟨strand, hstrand, hstage⟩
    obtain ⟨move, after, -, hafter, rfl, hsystem⟩ | hafter := strand_succ hstrand
    · have hpending (hstack : strand.stack = .taking thread c token :: base) :
          (((σ.after l).store.cleaner c).take? token).isSome := by
        have hframe : .taking thread c token ∈ (σ.after l).frames :=
          List.mem_flatMap.mpr ⟨strand, List.mem_of_getElem? hstrand, by simp [hstack]⟩
        exact (σ.cleanerView_sound c l).pending (List.mem_append_right _ ((σ.mem_taking c).mpr ⟨_, hframe⟩))
      obtain hstage | ⟨o, hreturned, hgood⟩ := hstage.perform hbase hpending move
      · left
        refine ⟨_, hafter, ?_⟩
        rw [hsystem]
        exact hstage
      · exact .inr ⟨o, ⟨_, hafter, hreturned⟩, hgood⟩
    · exact .inl ⟨strand, hafter, hstage.elsewhere _⟩

/-- What it means that tokens keep actions from running. -/
structure TokensKept (σ : Schedule) (c : Nat) : Prop where
  /-- The keys of the live set are distinct. -/
  distinct : ∀ n, ((σ.after n).store.cleaner c).keys.Nodup
  /-- They were all given out. -/
  below : ∀ n, ∀ token ∈ ((σ.after n).store.cleaner c).keys,
    token < ((σ.after n).store.cleaner c).nextId
  /-- They are the tokens that exist, those in the queue, those that were lost with the
      thread, and those whose action is about to be taken. -/
  custody : ∀ n, ((σ.after n).store.cleaner c).keys.Perm
    (((σ.after n).store.cleaner c).tokens ++ ((σ.after n).store.cleaner c).queue ++
      ((σ.after n).store.cleaner c).lost ++ (σ.after n).frames.filterMap (Frame.takingOf? c))
  /-- Tokens are lost only with a thread that has died. -/
  lost : ∀ n, ((σ.after n).store.cleaner c).lost ≠ [] →
    ((σ.after n).store.cleaner c).phase = .dead
  /-- Those are lost that were queued when it died. -/
  died : ∀ n, ((σ.after (n + 1)).store.cleaner c).lost = ((σ.after n).store.cleaner c).lost ∨
    (((σ.after n).store.cleaner c).phase ≠ .dead ∧
      ((σ.after (n + 1)).store.cleaner c).phase = .dead ∧
      ((σ.after (n + 1)).store.cleaner c).lost = ((σ.after n).store.cleaner c).queue)
  /-- Each action is in the live set or has begun, under the token it was registered with. -/
  divided : ∀ n, (((σ.after n).store.cleaner c).live ++ (σ.after n).store.history.started c).Perm
    ((σ.after n).store.history.tracked c)
  /-- No action begins twice. -/
  once : ∀ n, (((σ.after n).store.history.started c).map Prod.fst).Nodup
  /-- What has begun stays so. -/
  kept : ∀ n, (σ.after n).store.history.started c <+: (σ.after (n + 1)).store.history.started c
  /-- No action has begun whose token exists. -/
  unbegun : ∀ n, ∀ token ∈ ((σ.after n).store.cleaner c).tokens,
    ∀ action, (token, action) ∉ (σ.after n).store.history.started c
  /-- No action runs whose token exists. -/
  running : ∀ n thread token, .running thread c token ∈ (σ.after n).frames →
    token ∉ ((σ.after n).store.cleaner c).tokens
  /-- Cleaning a token that exists never returns that its action was gone. -/
  cleans : ∀ n m i base news thread token r, σ n = .move i (.start (.clean thread c token)) →
    (σ.after n).strands[i]? = some ⟨base, .client news⟩ →
    token ∈ ((σ.after n).store.cleaner c).tokens → n < m →
    (∀ l, n < l → l < m → σ.Within i l base) → σ.Returns i m base (.ok r) → r = .cleaned true
  /-- A token in the queue has its action in the live set. -/
  received : ∀ n, ∀ token ∈ ((σ.after n).store.cleaner c).queue,
    token ∈ ((σ.after n).store.cleaner c).keys
  /-- And so it is still when the action is about to be taken, wherever that happens. -/
  taken : ∀ n thread token, .taking thread c token ∈ (σ.after n).frames →
    (((σ.after n).store.cleaner c).take? token).isSome
  /-- Where a token exists, its thread has not stopped: it will receive, or it has died. -/
  needed : ∀ n, ((σ.after n).store.cleaner c).tokens ≠ [] →
    ((σ.after n).store.cleaner c).isReceiving ∨ ((σ.after n).store.cleaner c).phase = .dead

/-- **Tokens keep actions from running.**  Until its action is taken out of the live set,
    a token is at exactly one place, so at most one of the ways out comes to it. -/
theorem tokensKept (σ : Schedule) (c : Nat) : σ.TokensKept c where
  distinct n := (σ.cleanerView_sound c n).nodup_keys
  below n token htoken := by
    have hsound := σ.cleanerView_sound c n
    have htracked : token ∈ (σ.cleanerView c n).tracked.map Prod.fst := by
      rw [← (hsound.divided.map Prod.fst).mem_iff, List.map_append]
      exact List.mem_append_left _ htoken
    rw [hsound.numbered] at htracked
    exact List.mem_range.mp htracked
  custody n := (σ.cleanerView_sound c n).custody
  lost n := (σ.cleanerView_sound c n).lost
  died n := by
    obtain ⟨hstore, -⟩ | ⟨i, move, k, k', others, -, hk, -, hchanges⟩ :=
      (σ.after n).perform_changes (σ n)
    · left
      rw [after, hstore]
    · exact hchanges.lost (Site.cleaner_sound_perm hk (σ.cleanerView_sound c n))
  divided n := (σ.cleanerView_sound c n).divided
  once n := (List.nodup_append.mp (σ.cleanerView_sound c n).nodup).2.1
  kept n := σ.started_grows c (Nat.le_succ n)
  unbegun n token htoken :=
    (σ.cleanerView_sound c n).not_started
      (by simp [show token ∈ (σ.cleanerView c n).cleaner.tokens from htoken])
  running n thread token hmem htoken := by
    obtain ⟨action, hstarted⟩ := started_of_running hmem
    exact (σ.cleanerView_sound c n).not_started
      (by simp [show token ∈ (σ.cleanerView c n).cleaner.tokens from htoken]) action hstarted
  cleans n m i base news thread token r hact hstrand htoken hnm hfirst hreturns :=
    clean_returns hact hstrand htoken hnm hfirst hreturns
  received n token htoken :=
    (σ.cleanerView_sound c n).custody.mem_iff.mpr
      (by simp [show token ∈ (σ.cleanerView c n).cleaner.queue from htoken])
  taken n thread token hmem :=
    (σ.cleanerView_sound c n).pending (List.mem_append_right _ ((σ.mem_taking c).mpr ⟨_, hmem⟩))
  needed n htokens := by
    have hphase : ((σ.after n).store.cleaner c).phase ≠ .stopped :=
      (σ.cleanerView_sound c n).needed (.inl htokens)
    unfold Cleaner.isReceiving
    cases hcases : ((σ.after n).store.cleaner c).phase <;> simp_all

/-- A run in which the token of an action is cleaned. -/
def cleaningOne : Schedule
  | 0 => .spawn
  | 1 => .move 0 (.operate (.startCleaner .main {}))
  | 2 => .move 0 (.operate (.track 0 7))
  | 3 => .move 0 (.start (.clean .main 0 0))
  | 5 => .move 0 (.answer (.ok .done))
  | _ => .move 0 .tick

theorem tokensKept_cleaningOne : 0 ∈ ((cleaningOne.after 3).store.cleaner 0).tokens ∧
    (∃ r, cleaningOne.Returns 0 8 [] (.ok r)) ∧
    ∀ r, cleaningOne.Returns 0 8 [] (.ok r) → r = .cleaned true := by
  have htoken : 0 ∈ ((cleaningOne.after 3).store.cleaner 0).tokens := List.mem_singleton.mpr rfl
  have hwithin (l : Nat) (hl : 3 < l) (hl8 : l < 8) : cleaningOne.Within 0 l [] := by
    obtain rfl | rfl | rfl | rfl : l = 4 ∨ l = 5 ∨ l = 6 ∨ l = 7 := by omega
    · exact ⟨_, rfl, _, (List.append_nil _).symm, fun h => by cases h⟩
    · exact ⟨_, rfl, _, (List.append_nil _).symm, fun h => by cases h⟩
    · exact ⟨_, rfl, _, (List.append_nil _).symm, fun h => by cases h⟩
    · exact ⟨_, rfl, _, (List.append_nil _).symm, fun _ => ⟨_, rfl⟩⟩
  refine ⟨htoken, ⟨_, _, rfl, rfl, rfl⟩, fun r hreturns => ?_⟩
  exact (tokensKept cleaningOne 0).cleans 3 8 0 [] none .main 0 r rfl rfl htoken (by omega) hwithin
    hreturns

end Schedule

end ForeignArena
