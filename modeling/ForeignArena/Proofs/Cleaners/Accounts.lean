import ForeignArena.Proofs.Cleaners.Tokens

namespace ForeignArena

/-!
# The counters of a cleaner

Every action that was registered is pending, or runs, or has ended and was counted as cleaned or
as panicked.  The counters are kept in step with the actions themselves: where an action comes to
an end, on whatever strand and however deep inside other actions, the counter moves that tells
how it has ended, and nothing else moves it.

* `History.ended` — the actions of a cleaner that have ended;
* `AccountView`, `Change.account` — what changes do to the counters;
* `Site.Accounts`, `Schedule.accounts` — how the counters and the actions agree;
* `System.ending?`, `Schedule.ended_succ` — where actions end;
* `Schedule.conserved` — what this means in a run.
-/

/-! ### Actions that run, and actions that have ended -/

/-- The action of a cleaner that ended, by token, and whether it ended normally. -/
@[simp]
def Happening.endedBy? (c : Nat) : Happening → Option (Nat × Bool)
  | actionEnded _ b token => if b = c then some (token, true) else none
  | actionPanicked _ b token _ => if b = c then some (token, false) else none
  | _ => none

namespace History

/-- The actions of a cleaner that have ended, by token, and whether they ended normally. -/
def ended (h : History) (c : Nat) : List (Nat × Bool) := h.pick (Happening.endedBy? c)

@[simp] theorem ended_cons (e : Happening) (h : History) (c : Nat) :
    ended (e :: h) c = ended h c ++ (e.endedBy? c).toList :=
  pick_cons e h _

end History

/-- The token of the action of a cleaner for which a frame waits. -/
def Frame.runningOf? (c : Nat) : Frame → Option Nat
  | running _ b token => if b = c then some token else none
  | _ => none

/-- Frames that a panic just passes wait for no action. -/
theorem Frame.runningOf?_of_isLoose {f : Frame} (h : f.isLoose) (c : Nat) :
    f.runningOf? c = none := by
  cases f <;> first | rfl | cases h

/-- Happenings that say nothing on the actions of a cleaner, nor on their ends. -/
def Happening.Idle (c : Nat) (e : Happening) : Prop :=
  e.trackedBy? c = none ∧ e.startedBy? c = none ∧ e.endedBy? c = none

theorem Happening.idle_of_isPlain {e : Happening} (h : e.isPlain) (c : Nat) : e.Idle c := by
  cases e <;> first | exact ⟨rfl, rfl, rfl⟩ | cases h

/-! ### What concerns the counters -/

/-- The counters of a cleaner, and the actions that they count. -/
@[ext]
structure AccountView where
  registered : Nat
  cleaned : Nat
  panicked : Nat
  tracked : List (Nat × Action)
  started : List (Nat × Action)
  ended : List (Nat × Bool)
  running : List Nat

/-- The counters of a cleaner at some site. -/
def Site.accountView (s : Site) (c : Nat) : AccountView where
  registered := (s.1.cleaner c).registered
  cleaned := (s.1.cleaner c).cleaned
  panicked := (s.1.cleaner c).panicked
  tracked := s.1.history.tracked c
  started := s.1.history.started c
  ended := s.1.history.ended c
  running := s.2.filterMap (Frame.runningOf? c)

namespace AccountView

/-- What a change can do to the counters. -/
inductive Step (v : AccountView) : AccountView → Prop where
  | same : Step v v
  | tracked (entry : Nat × Action) :
    Step v { v with registered := v.registered + 1, tracked := v.tracked ++ [entry] }
  | began (entry : Nat × Action) :
    Step v { v with started := v.started ++ [entry], running := entry.1 :: v.running }
  | returned (token : Nat) (running : List Nat) : v.running = token :: running →
    Step v { v with cleaned := v.cleaned + 1, ended := v.ended ++ [(token, true)], running }
  | raised (token : Nat) (running : List Nat) : v.running = token :: running →
    Step v { v with panicked := v.panicked + 1, ended := v.ended ++ [(token, false)], running }

/-- The counters agree with the actions, and each action that has begun runs or has ended. -/
structure Sound (v : AccountView) : Prop where
  registered : v.registered = v.tracked.length
  cleaned : v.cleaned = v.ended.countP (·.2)
  panicked : v.panicked = v.ended.countP (!·.2)
  divided : (v.started.map Prod.fst).Perm (v.ended.map Prod.fst ++ v.running)

variable {v w : AccountView}

theorem Step.of_eq (h : w = v) : Step v w :=
  h ▸ .same

theorem Step.congr {w' : AccountView} (h : Step v w) (heq : w' = w) : Step v w' :=
  heq ▸ h

/-- An action that ends leaves those that run for those that have ended. -/
theorem Sound.ends (h : v.Sound) {token : Nat} {running : List Nat} (normally : Bool)
    (hrunning : v.running = token :: running) : (v.started.map Prod.fst).Perm
      ((v.ended ++ [(token, normally)]).map Prod.fst ++ running) := by
  refine h.divided.trans ?_
  rw [hrunning, List.map_append, List.append_assoc]
  exact .refl _

theorem Step.sound (hstep : Step v w) (h : v.Sound) : w.Sound := by
  cases hstep with
  | same => exact h
  | tracked entry => exact { h with registered := by simp [h.registered] }
  | began entry =>
    refine { h with divided := ?_ }
    rw [List.map_append]
    refine List.perm_append_comm.trans ((h.divided.cons entry.1).trans ?_)
    exact List.perm_middle.symm
  | returned token running hrunning =>
    refine { h with cleaned := ?_, panicked := ?_, divided := h.ends true hrunning }
    · simp [h.cleaned, List.countP_append]
    · simp [h.panicked, List.countP_append]
  | raised token running hrunning =>
    refine { h with cleaned := ?_, panicked := ?_, divided := h.ends false hrunning }
    · simp [h.cleaned, List.countP_append]
    · simp [h.panicked, List.countP_append]

/-- No counter goes back. -/
theorem Step.grows (hstep : Step v w) :
    v.registered ≤ w.registered ∧ v.cleaned ≤ w.cleaned ∧ v.panicked ≤ w.panicked := by
  cases hstep with
  | same | began => exact ⟨Nat.le_refl _, Nat.le_refl _, Nat.le_refl _⟩
  | tracked => exact ⟨Nat.le_succ _, Nat.le_refl _, Nat.le_refl _⟩
  | returned => exact ⟨Nat.le_refl _, Nat.le_succ _, Nat.le_refl _⟩
  | raised => exact ⟨Nat.le_refl _, Nat.le_refl _, Nat.le_succ _⟩

end AccountView

/-! ### What changes do to the counters -/

/-- A cleaner counts the same as another one. -/
def Cleaner.Counts (c other : Cleaner) : Prop :=
  other.registered = c.registered ∧ other.cleaned = c.cleaned ∧ other.panicked = c.panicked

theorem Cleaner.Counts.trans {c d e : Cleaner} (h : c.Counts d) (h' : d.Counts e) : c.Counts e :=
  ⟨h'.1.trans h.1, h'.2.1.trans h.2.1, h'.2.2.trans h.2.2⟩

/-- A change of a cleaner that counts nothing. -/
theorem Store.counts_modifyCleaner (st : Store) (b c : Nat) (f : Cleaner → Cleaner)
    (hf : (st.cleaner b).Counts (f (st.cleaner b))) :
    (st.cleaner c).Counts ((st.modifyCleaner b f).cleaner c) := by
  by_cases hb : b = c ∧ b < st.cleaners.size
  · obtain ⟨rfl, hb⟩ := hb
    rw [st.cleaner_modifyCleaner b b f hb, if_pos rfl]
    exact hf
  · rw [Change.cleaner_unchanged hb]
    exact ⟨rfl, rfl, rfl⟩

/-- A new cleaner has counted nothing, and nothing was counted behind its handle before. -/
theorem Store.counts_push (st : Store) (name : String) (c : Nat) : (st.cleaner c).Counts
    (({ st with cleaners := st.cleaners.push { threadName := name } } : Store).cleaner c) := by
  by_cases hc : c = st.cleaners.size
  · simp [Cleaner.Counts, Store.cleaner, hc, Cleaner.void]
  · simp [Cleaner.Counts, Store.cleaner, Array.getElem?_push, hc]

theorem Store.counts_settle (st : Store) (c : Nat) :
    (st.cleaner c).Counts (st.settle.cleaner c) := by
  have hsame (cleaner : Cleaner) : cleaner.Counts cleaner.settle := by
    unfold Cleaner.settle
    split <;> exact ⟨rfl, rfl, rfl⟩
  by_cases hc : c < st.cleaners.size
  · simpa [Store.settle, Store.cleaner, hc] using hsame st.cleaners[c]
  · simp [Cleaner.Counts, Store.settle, Store.cleaner, hc]

/-- Happenings that say nothing on its actions, and frames that wait for none of them, leave the
    counters of a cleaner as they were. -/
theorem Site.accountView_eq {s t : Site} {c : Nat} (news : List Happening)
    (hcounts : (s.1.cleaner c).Counts (t.1.cleaner c)) (hhistory : t.1.history = news ++ s.1.history)
    (hnews : ∀ e ∈ news, e.Idle c)
    (hrunning : t.2.filterMap (Frame.runningOf? c) = s.2.filterMap (Frame.runningOf? c)) :
    t.accountView c = s.accountView c := by
  obtain ⟨hregistered, hcleaned, hpanicked⟩ := hcounts
  simp only [accountView, History.tracked, History.started, History.ended, hregistered, hcleaned,
    hpanicked, hrunning, History.pick_append_of_none hhistory fun e he => (hnews e he).1,
    History.pick_append_of_none hhistory fun e he => (hnews e he).2.1,
    History.pick_append_of_none hhistory fun e he => (hnews e he).2.2]

namespace Change

variable {st : Store} {k : List Frame}

theorem tracked_account (b : Nat) (action : Action) (hb : b < st.cleaners.size) (c : Nat) :
    (Site.accountView (st, k) c).Step (Site.accountView ((st.track b action).1, k) c) := by
  by_cases hbc : b = c
  · subst hbc
    refine .congr (.tracked ((st.cleaner b).nextId, action)) ?_
    simp [Site.accountView, Store.track, Store.cleaner_modifyCleaner, hb, Cleaner.track_eq]
  · refine .of_eq ?_
    simp [Site.accountView, Store.track, st.cleaner_modifyCleaner_ne hbc, hbc]

/-- An action that is taken has begun, and runs. -/
theorem took_account (thread : ThreadId) {b token : Nat} {action : Action} {cleaner : Cleaner}
    (htake : (st.cleaner b).take? token = some (cleaner, action)) (above : List Frame) (c : Nat)
    (habove : above.filterMap (Frame.runningOf? c) = if b = c then [token] else []) :
    (Site.accountView (st, .taking thread b token :: k) c).Step
      (Site.accountView ((st.modifyCleaner b fun _ => cleaner).note
        (.started thread b token action), above ++ k) c) := by
  have hcounts : (st.cleaner c).Counts ((st.modifyCleaner b fun _ => cleaner).cleaner c) := by
    refine st.counts_modifyCleaner b c (fun _ => cleaner) ?_
    rw [Cleaner.take?_eq_some htake]
    exact ⟨rfl, rfl, rfl⟩
  have hframe : (Frame.taking thread b token :: k).filterMap (Frame.runningOf? c) =
      k.filterMap (Frame.runningOf? c) := rfl
  by_cases hbc : b = c
  · rw [if_pos hbc] at habove
    obtain ⟨hregistered, hcleaned, hpanicked⟩ := hcounts
    refine .congr (.began (token, action)) ?_
    subst hbc
    simp [Site.accountView, habove, hregistered, hcleaned, hpanicked, hframe]
  · rw [if_neg hbc] at habove
    refine .of_eq (Site.accountView_eq [.started thread b token action] hcounts rfl ?_ ?_)
    · simp [Happening.Idle, hbc]
    · rw [List.filterMap_append, habove, hframe, List.nil_append]

/-- An action that ends shows in the counters of its own cleaner only. -/
theorem ended_account (thread : ThreadId) {b token c : Nat} (hbc : b ≠ c) (f : Cleaner → Cleaner)
    (e : Happening) (he : e.Idle c) :
    (Site.accountView (st, .running thread b token :: k) c).Step
      (Site.accountView ((st.modifyCleaner b f).note e, k) c) := by
  refine .of_eq (Site.accountView_eq [e] ?_ rfl (by simpa using he) ?_)
  · rw [Store.cleaner_note, st.cleaner_modifyCleaner_ne hbc]
    exact ⟨rfl, rfl, rfl⟩
  · simp [Frame.runningOf?, hbc]

/-- **What a change can do to the counters of a cleaner**, one that exists if its actions run. -/
theorem account {move : Move} {s t : Site} (h : Change move s t) (c : Nat)
    (hknown : ∀ thread token, .running thread c token ∈ s.2 → c < s.1.cleaners.size) :
    (s.accountView c).Step (t.accountView c) := by
  have hloose {k : List Frame} {f : Frame} (hf : f.isLoose) :
      (f :: k).filterMap (Frame.runningOf? c) = k.filterMap (Frame.runningOf? c) := by
    simp [Frame.runningOf?_of_isLoose hf c]
  have hcounts (st : Store) : (st.cleaner c).Counts (st.cleaner c) := ⟨rfl, rfl, rfl⟩
  cases h with
  | @push st _ f hf =>
    exact .of_eq (Site.accountView_eq [] (hcounts st) rfl (by simp)
      (hloose (Frame.isLoose_of_isPlain hf)))
  | @pop st _ f hf =>
    exact .of_eq (Site.accountView_eq [] (hcounts st) rfl (by simp) (hloose hf).symm)
  | @note st _ e he =>
    exact .of_eq (Site.accountView_eq [e] (hcounts st) rfl
      (by simpa using Happening.idle_of_isPlain he c) rfl)
  | @cleanerAdded st _ name =>
    exact .of_eq (Site.accountView_eq [] (st.counts_push name c) rfl (by simp) rfl)
  | tracked operation b action _ hb => exact tracked_account b action hb c
  | @settled st => exact .of_eq (Site.accountView_eq [] (st.counts_settle c) rfl (by simp) rfl)
  | @letGo st _ b =>
    exact .of_eq (Site.accountView_eq []
      (st.counts_modifyCleaner b c (·.release) ⟨rfl, rfl, rfl⟩) rfl (by simp) rfl)
  | @spent st _ thread b token =>
    exact .of_eq (Site.accountView_eq []
      (st.counts_modifyCleaner b c (·.spend token) ⟨rfl, rfl, rfl⟩) rfl (by simp) rfl)
  | @queued st k thread b token =>
    -- the token is spent, and then it is queued
    have hspent := st.counts_modifyCleaner b c (·.spend token) ⟨rfl, rfl, rfl⟩
    have hqueued := (st.modifyCleaner b (·.spend token)).counts_modifyCleaner b c (·.enqueue token)
      ⟨rfl, rfl, rfl⟩
    exact .of_eq (Site.accountView_eq [.queued b token] (hspent.trans hqueued) rfl
      (by simp [Happening.Idle]) rfl)
  | @received st _ thread b token cleaner _ hdequeue =>
    obtain ⟨rest, -, -, hcleaner⟩ := Cleaner.dequeue?_eq_some hdequeue
    refine .of_eq (Site.accountView_eq [.received b token] ?_ rfl (by simp [Happening.Idle]) rfl)
    refine st.counts_modifyCleaner b c (fun _ => cleaner) ?_
    rw [hcleaner]
    exact ⟨rfl, rfl, rfl⟩
  | tookSupplied thread b token tag cleaner _ htake =>
    exact took_account thread htake [.running thread b token] c
      (by by_cases hbc : b = c <;> simp [Frame.runningOf?, hbc])
  | tookDisposal thread b token d cleaner _ htake =>
    have hrunning : ([.counted thread d, .reporting thread b token, .running thread b token] :
        List Frame).filterMap (Frame.runningOf? c) = if b = c then [token] else [] := by
      rw [hloose rfl, hloose rfl]
      by_cases hbc : b = c <;> simp [Frame.runningOf?, hbc]
    refine .congr (took_account thread htake _ c hrunning) ?_
    exact Site.accountView_eq [.began thread d] (hcounts _) rfl (by simp [Happening.Idle]) rfl
  | @ended st k thread b token =>
    by_cases hbc : b = c
    · subst hbc
      have hb : b < st.cleaners.size := hknown thread token (List.mem_cons_self ..)
      refine .congr (.returned token (k.filterMap (Frame.runningOf? b)) ?_) ?_
      · simp [Site.accountView, Frame.runningOf?]
      · simp [Site.accountView, Store.cleaner_modifyCleaner, hb, Cleaner.finish]
    · exact ended_account thread hbc (·.finish) _ (by simp [Happening.Idle, hbc])
  | @panicked st k thread b token panic =>
    by_cases hbc : b = c
    · subst hbc
      have hb : b < st.cleaners.size := hknown thread token (List.mem_cons_self ..)
      refine .congr (.raised token (k.filterMap (Frame.runningOf? b)) ?_) ?_
      · simp [Site.accountView, Frame.runningOf?]
      · simp [Site.accountView, Store.cleaner_modifyCleaner, hb, Cleaner.fail]
    · exact ended_account thread hbc (·.fail) _ (by simp [Happening.Idle, hbc])
  | @resumed st k b =>
    exact .of_eq (Site.accountView_eq []
      (st.counts_modifyCleaner b c (·.resume) ⟨rfl, rfl, rfl⟩) rfl (by simp) rfl)
  | @died st k b =>
    exact .of_eq (Site.accountView_eq []
      (st.counts_modifyCleaner b c (·.die) ⟨rfl, rfl, rfl⟩) rfl (by simp) rfl)
  | @called st _ thread type address =>
    refine .of_eq (Site.accountView_eq [] ?_ (by simp) (by simp) rfl)
    simp [Cleaner.Counts, Store.cleaner]
  | @entered st _ thread d =>
    refine .of_eq (Site.accountView_eq [.destroying thread d] ?_ (by simp)
      (by simp [Happening.Idle]) rfl)
    simp [Cleaner.Counts, Store.cleaner]
  | @begun st _ thread d =>
    exact .of_eq
      (Site.accountView_eq [.began thread d] (hcounts _) rfl (by simp [Happening.Idle]) rfl)
  | attempted thread a n failures d rest =>
    exact .of_eq (Site.accountView_eq [.began thread d, .attempting thread a d] (hcounts _) rfl
      (by simp [Happening.Idle]) rfl)
  | swapped | swept | opened | accepted | abandoned | failed | asked =>
    exact .of_eq (Site.accountView_eq [_] (hcounts _) rfl (by simp [Happening.Idle]) rfl)
  | missed => exact .of_eq (Site.accountView_eq [] (hcounts _) rfl (by simp) rfl)
  | _ => exact .of_eq (Site.accountView_eq [] (hcounts _) rfl (by simp) rfl)

/-- Actions end in a step only. -/
theorem ended_eq {move : Move} {s t : Site} (h : Change move s t) (hmove : move ≠ .tick) (c : Nat) :
    t.1.history.ended c = s.1.history.ended c := by
  cases h with
  | note e he =>
    rw [Store.history_note, History.ended_cons, (Happening.idle_of_isPlain he c).2.2]
    exact List.append_nil _
  | ended _ _ _ htick | panicked _ _ _ _ htick | died _ htick => exact absurd htick hmove
  | tookSupplied _ _ _ _ _ htick | tookDisposal _ _ _ _ _ htick => exact absurd htick hmove
  | _ => simp [Store.track, Store.setHeap, Store.setRegistry, Store.newFlag, Store.setFlag,
      Store.buildArena, Store.settle]

end Change

/-! ### How the counters and the actions agree -/

namespace Site

variable {st : Store} {k k' : List Frame} {c : Nat}

/-- A cleaner exists if one of its actions runs. -/
theorem known_of_running (hcleaner : (cleanerView (st, k) c).Sound)
    (haccount : (accountView (st, k) c).Sound) {thread : ThreadId} {token : Nat}
    (hmem : .running thread c token ∈ k) : c < st.cleaners.size := by
  refine Classical.byContradiction fun hunknown => ?_
  -- of a cleaner that was not made no action has begun, so none can run
  obtain ⟨-, -, -, -, hstarted⟩ := hcleaner.unknown hunknown
  have hstarted : (accountView (st, k) c).started = [] := hstarted
  have hdivided := haccount.divided
  rw [hstarted, List.map_nil, List.nil_perm, List.append_eq_nil_iff] at hdivided
  have hrunning : token ∈ (accountView (st, k) c).running :=
    List.mem_filterMap.mpr ⟨_, hmem, if_pos rfl⟩
  rw [hdivided.2] at hrunning
  cases hrunning

/-- Where the frames stand makes no difference. -/
theorem account_sound_perm (hperm : k.Perm k') (h : (accountView (st, k) c).Sound) :
    (accountView (st, k') c).Sound :=
  { h with divided := h.divided.trans ((hperm.filterMap _).append_left _) }

end Site

namespace System

variable {s : System} {c : Nat}

/-- The action of a cleaner that ends with a move, and whether it ends normally. -/
def ending? (s : System) (c : Nat) : Move → Option (Nat × Bool)
  | .tick =>
    match s.focus, s.stack with
    | .handing o, .running _ b token :: _ => if b = c then some (token, o.isOk) else none
    | _, _ => none
  | _ => none

/-- An action that panicked is counted, and noted, however its payload is dropped. -/
theorem resumePanicked_store (s : System) (thread : ThreadId) (b token : Nat) (payload : Payload) :
    (s.resumePanicked thread b token payload).store = (s.store.modifyCleaner b (·.fail)).note
      (.actionPanicked thread b token payload.message) := by
  unfold resumePanicked discard
  split <;> rfl

/-- Work that gets the outcome for which it waited ends an action if it is a cleaner that waited
    for it. -/
theorem ended_resume (f : Frame) (o : Outcome) :
    (s.resume f o).store.history.ended c = s.store.history.ended c ++
      (({ s with stack := f :: s.stack, focus := .handing o } : System).ending? c .tick).toList := by
  have hquiet {before : Site} {after : System} (h : Changes (.answer (.ok .done)) before after.site)
      (hbefore : before.1.history.ended c = s.store.history.ended c) :
      after.store.history.ended c = s.store.history.ended c :=
    h.keeps (fun site => site.1.history.ended c = s.store.history.ended c)
      (fun hchange hs => (hchange.ended_eq (by simp) c).trans hs) hbefore
  cases f with
  | running thread b token =>
    cases o with
    | ok r =>
      show (s.resumeEnded thread b token).store.history.ended c = _
      exact History.ended_cons ..
    | error payload =>
      show (s.resumePanicked thread b token payload).store.history.ended c = _
      rw [resumePanicked_store]
      exact History.ended_cons ..
  | taking thread b token =>
    refine .trans ?_ (List.append_nil _).symm
    show (s.runAction thread b token).store.history.ended c = _
    unfold runAction
    split
    · rfl
    · next cleaner action _ =>
      cases action with
      | supplied tag => exact (History.ended_cons ..).trans (List.append_nil _)
      | dispose d =>
        -- a disposal can be part of other moves too, in which no action ends
        refine hquiet (dispose_changes _ thread d (by simp)) ?_
        exact ((History.ended_cons ..).trans (List.append_nil _)).trans
          ((History.ended_cons ..).trans (List.append_nil _))
  | reclaiming b => cases o <;> exact (List.append_nil _).symm
  | _ =>
    refine .trans ?_ (List.append_nil _).symm
    exact hquiet (resume_changes s _ o (by simp) (by simp [Frame.isLoose, Frame.isPlain])) rfl

/-- **The actions that end with a move.** -/
theorem ended_perform (move : Move) : (s.perform move).store.history.ended c =
    s.store.history.ended c ++ (s.ending? c move).toList := by
  by_cases hmove : move = .tick
  · subst hmove
    obtain ⟨store, stack, focus⟩ := s
    cases focus with
    | client news => cases stack <;> exact (List.append_nil _).symm
    | handing o =>
      cases stack with
      | nil => exact (List.append_nil _).symm
      | cons f rest => exact ended_resume (s := ⟨store, rest, .handing o⟩) f o
  · have hnone : s.ending? c move = none := by cases move <;> first | rfl | exact absurd rfl hmove
    rw [hnone, Option.toList_none, List.append_nil]
    exact (s.perform_changes move).keeps
      (fun site => site.1.history.ended c = s.store.history.ended c)
      (fun hchange hs => (hchange.ended_eq hmove c).trans hs) rfl

end System

namespace Schedule

variable {σ : Schedule} {c n m : Nat}

/-- The counters of a cleaner at some moment. -/
def accountView (σ : Schedule) (c n : Nat) : AccountView :=
  Site.accountView ((σ.after n).store, (σ.after n).frames) c

/-- **Throughout every run the counters of a cleaner agree with its actions.** -/
theorem accountView_sound (σ : Schedule) (c n : Nat) : (σ.accountView c n).Sound := by
  have hboth := @σ.always (fun st k => (Site.cleanerView (st, k) c).Sound ∧
    (Site.accountView (st, k) c).Sound)
    (fun hperm hs => ⟨Site.cleaner_sound_perm hperm hs.1, Site.account_sound_perm hperm hs.2⟩)
    (fun hchange hs => ⟨(hchange.cleaner c).sound hs.1,
      (hchange.account c fun _ _ hmem => Site.known_of_running hs.1 hs.2 hmem).sound hs.2⟩)
    ⟨σ.cleanerView_sound c 0, ⟨rfl, rfl, rfl, .nil⟩⟩ n
  exact hboth.2

/-- The tokens of the actions of a cleaner that are running at moment `n`, on any strand. -/
def running (σ : Schedule) (c n : Nat) : List Nat :=
  (σ.after n).frames.filterMap (Frame.runningOf? c)

theorem mem_running {token : Nat} : token ∈ σ.running c n ↔
    ∃ thread, .running thread c token ∈ (σ.after n).frames := by
  constructor
  · intro hmem
    obtain ⟨f, hf, htoken⟩ := List.mem_filterMap.mp hmem
    cases f with
    | running thread b other =>
      obtain ⟨rfl, rfl⟩ := Option.ite_none_right_eq_some.mp htoken |>.imp_right Option.some.inj
      exact ⟨thread, hf⟩
    | _ => cases htoken
  · rintro ⟨thread, hframe⟩
    exact List.mem_filterMap.mpr ⟨_, hframe, if_pos rfl⟩

/-- The action of a cleaner that ends with the act of moment `n`, and whether it ends normally. -/
def ending (σ : Schedule) (c n : Nat) : Option (Nat × Bool) :=
  match σ n with
  | .spawn => none
  | .move i move =>
    match (σ.after n).strands[i]? with
    | none => none
    | some strand => ((σ.after n).system strand).ending? c move

/-- The actions of a cleaner that have ended before moment `n`. -/
def ended (σ : Schedule) (c n : Nat) : List (Nat × Bool) := (σ.after n).store.history.ended c

/-- An action ends where the cleaner that waits for it is given its outcome. -/
theorem ended_succ (σ : Schedule) (c n : Nat) :
    σ.ended c (n + 1) = σ.ended c n ++ (σ.ending c n).toList := by
  unfold ended ending
  rw [after]
  cases hact : σ n with
  | spawn => exact (List.append_nil _).symm
  | move i move =>
    dsimp only
    cases hstrand : (σ.after n).strands[i]? with
    | none =>
      rw [Machine.perform_of_none hstrand]
      exact (List.append_nil _).symm
    | some strand =>
      rw [Machine.store_perform hstrand]
      exact System.ended_perform move

/-- The actions that have ended are those that have ended at some moment, in this order. -/
theorem ended_eq (σ : Schedule) (c n : Nat) :
    σ.ended c n = (List.range n).filterMap (σ.ending c) := by
  induction n with
  | zero => rfl
  | succ n ih =>
    rw [σ.ended_succ, ih, List.range_succ, List.filterMap_append]
    cases hending : σ.ending c n <;> simp [hending]

/-- Each action that was registered is pending, or runs, or has ended and was counted. -/
theorem conserved (σ : Schedule) (c n : Nat) :
    ((σ.after n).store.cleaner c).stats.registered =
      ((σ.after n).store.cleaner c).stats.pending + ((σ.after n).store.cleaner c).stats.cleaned +
        ((σ.after n).store.cleaner c).stats.panicked + (σ.running c n).length := by
  have haccount := σ.accountView_sound c n
  have hstarted : ((σ.after n).store.history.started c).length =
      (σ.ended c n).length + (σ.running c n).length := by
    have hlength := haccount.divided.length_eq
    rw [List.length_append, List.length_map, List.length_map] at hlength
    exact hlength
  have htracked : ((σ.after n).store.cleaner c).live.length +
      ((σ.after n).store.history.started c).length = ((σ.after n).store.history.tracked c).length := by
    have hlength := (σ.cleanerView_sound c n).divided.length_eq
    rw [List.length_append] at hlength
    exact hlength
  have hended : (σ.ended c n).length =
      (σ.ended c n).countP (·.2) + (σ.ended c n).countP (!·.2) := by
    simpa using List.length_eq_countP_add_countP (·.2) (l := σ.ended c n)
  calc ((σ.after n).store.cleaner c).registered
      = ((σ.after n).store.history.tracked c).length := haccount.registered
    _ = ((σ.after n).store.cleaner c).live.length + (σ.ended c n).countP (·.2) +
          (σ.ended c n).countP (!·.2) + (σ.running c n).length := by omega
    _ = ((σ.after n).store.cleaner c).live.length + ((σ.after n).store.cleaner c).cleaned +
          ((σ.after n).store.cleaner c).panicked + (σ.running c n).length := by
        rw [show ((σ.after n).store.cleaner c).cleaned = _ from haccount.cleaned,
          show ((σ.after n).store.cleaner c).panicked = _ from haccount.panicked]
        rfl

end Schedule

end ForeignArena
