import ForeignArena.Proofs.Arenas.Sweeps
import ForeignArena.Proofs.Cleaners.Accounts
import ForeignArena.Proofs.Quiet

namespace ForeignArena

/-!
# How often is reported

Frames that wait for an outcome may report on it when it comes.  No frame is put up for that
without an occasion: the closing of an arena gives one to its drop, and an action that begins gives
two, as two frames wait for it.  So for each topic there is a margin: the occasions that it had,
without those that were used for a report or are still held by a frame.  The margin never shrinks,
and as occasions are few, nobody reports twice on the same thing.

* `Topic`, `Topic.margin` — the topics of reports, and what is left for them;
* `System.perform_margin` — no move takes anything away from a margin;
* `Schedule.told_succ` — how a frame that takes its outcome reports on it;
* `Schedule.told_eq` — and when nothing more can be reported.
-/

/-- What frames report on: the closing of a dropped arena, and the action of a token. -/
inductive Topic where
  | drop (arena : Nat)
  | action (cleaner token : Nat)
  deriving DecidableEq

/-- The topic on which a frame may report. -/
def Frame.topic? : Frame → Option Topic
  | dropping _ a => some (.drop a)
  | reporting _ c token | running _ c token => some (.action c token)
  | _ => none

theorem Frame.topic?_of_isQuiet {f : Frame} (hf : f.isQuiet) : f.topic? = none := by
  cases f <;> first | rfl | cases hf

/-- How a frame reports on the outcome that it is given, if it does. -/
def Frame.report? : Frame → Outcome → Option Happening
  | dropping thread a, .ok (.closed (.error e)) => some (.dropFailed thread a e)
  | reporting thread c token, .ok (.disposed (.error e)) => some (.autoFailed thread c token e)
  | running thread c token, .error payload => some (.actionPanicked thread c token payload.message)
  | _, _ => none

namespace Happening

/-- The topic of a report by a frame. -/
def topic? : Happening → Option Topic
  | dropFailed _ a _ => some (.drop a)
  | autoFailed _ c token _ | actionPanicked _ c token _ => some (.action c token)
  | _ => none

/-- A happening, if it is a report on a topic. -/
def on? (x : Topic) (e : Happening) : Option Happening :=
  if e.topic? = some x then some e else none

/-- How many frames a happening lets wait for a topic. -/
def grants (x : Topic) : Happening → Nat
  | closing _ a => if Topic.drop a = x then 1 else 0
  | started _ c token _ => if Topic.action c token = x then 2 else 0
  | _ => 0

variable {e : Happening}

theorem topic?_of_isQuiet (he : e.isQuiet) : e.topic? = none := by
  cases e <;> first | rfl | cases he

theorem on?_of_isQuiet (he : e.isQuiet) (x : Topic) : e.on? x = none := by
  rw [on?, topic?_of_isQuiet he]
  exact if_neg nofun

theorem grants_of_isQuiet (he : e.isQuiet) (x : Topic) : e.grants x = 0 := by
  cases e <;> first | rfl | cases he

end Happening

/-- A report by a frame is on the topic of the frame. -/
theorem Frame.topic?_report {f : Frame} {o : Outcome} {e : Happening} (h : f.report? o = some e) :
    e.topic? = f.topic? ∧ ∀ x, e.grants x = 0 := by
  unfold report? at h
  split at h <;> cases h <;> exact ⟨rfl, fun _ => rfl⟩

namespace History

/-- The reports of frames on a topic. -/
def told (h : History) (x : Topic) : List Happening := h.pick (Happening.on? x)

/-- How many frames there could be that wait for a topic. -/
def grants (h : History) (x : Topic) : Nat := h.foldr (fun e n => n + e.grants x) 0

theorem told_cons (e : Happening) (h : History) (x : Topic) :
    told (e :: h) x = told h x ++ (e.on? x).toList :=
  pick_cons e h _

theorem grants_cons (e : Happening) (h : History) (x : Topic) :
    grants (e :: h) x = grants h x + e.grants x :=
  rfl

/-- The drop of an arena is granted a frame for each closing. -/
theorem grants_drop (h : History) (a : Nat) : h.grants (.drop a) = (h.closings a).length := by
  induction h with
  | nil => rfl
  | cons e h ih =>
    rw [grants_cons, closings_cons, List.length_append, ih]
    congr 1
    cases e with
    | closing thread b => by_cases hb : b = a <;> simp [Happening.grants, hb]
    | started => simp [Happening.grants]
    | _ => rfl

/-- An action is granted two when it begins. -/
theorem grants_action (h : History) (c token : Nat) :
    h.grants (.action c token) = 2 * ((h.started c).map Prod.fst).count token := by
  induction h with
  | nil => rfl
  | cons e h ih =>
    rw [grants_cons, started_cons, List.map_append, List.count_append, ih, Nat.mul_add]
    congr 1
    cases e with
    | started thread b other action =>
      by_cases hb : b = c <;> by_cases hother : other = token <;>
        simp [Happening.grants, hb, hother]
    | closing => simp [Happening.grants]
    | _ => rfl

end History

/-- How many frames wait for a topic. -/
def waiting (k : List Frame) (x : Topic) : Nat := k.countP (·.topic? == some x)

/-- What is left for a topic: the frames that it was granted, without those that still wait and
    the reports that others have made. -/
def Topic.margin (x : Topic) (h : History) (k : List Frame) : Int :=
  h.grants x - (h.told x).length - waiting k x

theorem waiting_cons (f : Frame) (k : List Frame) (x : Topic) :
    waiting (f :: k) x = waiting k x + if f.topic? = some x then 1 else 0 := by
  simp [waiting, List.countP_cons]

theorem Topic.margin_note (x : Topic) (e : Happening) (h : History) (k : List Frame) :
    x.margin (e :: h) k = x.margin h k + e.grants x - if e.topic? = some x then 1 else 0 := by
  unfold margin
  rw [History.grants_cons, History.told_cons, List.length_append, Happening.on?]
  split
  · rw [Option.toList_some, List.length_singleton]
    omega
  · rw [Option.toList_none, List.length_nil]
    omega

theorem Topic.margin_cons (x : Topic) (h : History) (f : Frame) (k : List Frame) :
    x.margin h (f :: k) = x.margin h k - if f.topic? = some x then 1 else 0 := by
  unfold margin
  rw [waiting_cons]
  split <;> omega

/-! ### The parts of the work -/

namespace System

/-- What is left for a topic, as far as a system goes. -/
def margin (s : System) (x : Topic) : Int := x.margin s.store.history s.stack

variable {s t : System} {x : Topic}

theorem margin_note (s : System) (e : Happening) (x : Topic) :
    (s.note e).margin x = s.margin x + e.grants x - if e.topic? = some x then 1 else 0 :=
  x.margin_note e s.store.history s.stack

theorem margin_push (s : System) (f : Frame) (x : Topic) :
    (s.push f).margin x = s.margin x - if f.topic? = some x then 1 else 0 :=
  x.margin_cons s.store.history f s.stack

/-- Quiet work reports on nothing. -/
theorem Quiet.told (h : s.Quiet t) (x : Topic) :
    t.store.history.told x = s.store.history.told x :=
  h.store.pick fun _ he => Happening.on?_of_isQuiet he x

theorem Quiet.grants (h : s.Quiet t) (x : Topic) :
    t.store.history.grants x = s.store.history.grants x := by
  obtain ⟨news, hhistory, hnews⟩ := h.store
  rw [hhistory]
  clear hhistory
  induction news with
  | nil => rfl
  | cons e news ih =>
    obtain ⟨he, hnews⟩ := List.forall_mem_cons.mp hnews
    rw [List.cons_append, History.grants_cons, ih hnews, Happening.grants_of_isQuiet he, Nat.add_zero]

theorem Quiet.waiting (h : s.Quiet t) (x : Topic) :
    ForeignArena.waiting t.stack x = ForeignArena.waiting s.stack x := by
  obtain ⟨above, hstack, habove⟩ := h.stack
  rw [hstack, ForeignArena.waiting, List.countP_append]
  refine Nat.add_eq_right.mpr (List.countP_eq_zero.mpr fun f hf => ?_)
  simp [Frame.topic?_of_isQuiet (habove f hf)]

/-- Quiet work leaves all margins as they are. -/
theorem Quiet.margin (h : s.Quiet t) (x : Topic) : t.margin x = s.margin x := by
  rw [System.margin, Topic.margin, h.grants, h.told, h.waiting]
  rfl

section

variable (s x) (thread : ThreadId) (a c token n : Nat) (failures : List DisposalError)

/-- A closing that goes on reports on no topic. -/
theorem sweep_margin (todo : List Disposal) :
    (s.sweep thread a n failures todo).margin x = s.margin x := by
  cases todo with
  | cons d rest =>
    refine ((disposeGuarded_quiet _ thread d).margin x).trans ?_
    rw [margin_push, margin_note]
    simp [Frame.topic?, Happening.topic?, Happening.grants]
  | nil =>
    have hnoted := margin_note s (.arenaClosed thread a n failures.length) x
    simp only [Happening.grants, Happening.topic?, reduceCtorEq, if_false, Int.natCast_zero,
      Int.add_zero, Int.sub_zero] at hnoted
    unfold sweep
    dsimp only
    split <;> exact hnoted

theorem resumeSweep_margin (todo : List Disposal) (result : Except DisposalError Unit) :
    (s.resumeSweep thread a n failures todo result).margin x = s.margin x := by
  cases result with
  | ok _ => exact sweep_margin s x thread a n failures todo
  | error e =>
    refine (sweep_margin _ x thread a n (failures ++ [e]) todo).trans ?_
    rw [margin_note]
    simp [Happening.topic?, Happening.grants]

/-- A call that closes an arena grants a frame to its drop. -/
theorem close_margin (hactive : (s.store.arena a).isActive)
    (hcheck : (s.store.arena a).confinement.check thread = .ok ()) :
    (s.close thread a).margin x = s.margin x + if Topic.drop a = x then 1 else 0 := by
  unfold close
  dsimp only
  rw [hcheck, hactive]
  dsimp only
  refine (sweep_margin _ x thread a _ [] _).trans ?_
  rw [margin_note]
  simp only [Happening.grants, Happening.topic?, reduceCtorEq, if_false, Int.sub_zero]
  split <;> rfl

/-- Other calls leave margins as they are. -/
theorem close_margin_le : s.margin x ≤ (s.close thread a).margin x := by
  by_cases hcloses : (s.store.arena a).isActive ∧
      (s.store.arena a).confinement.check thread = .ok ()
  · rw [close_margin s x thread a hcloses.1 hcloses.2]
    split <;> omega
  · have hsame : (s.close thread a).margin x = s.margin x := by
      unfold close
      dsimp only
      split
      · rfl
      · next hcheck =>
        rw [if_neg fun hactive => hcloses ⟨hactive, hcheck⟩]
        rfl
    omega

/-- A drop that closes an arena uses up what the closing grants. -/
theorem drop_margin : s.margin x ≤ (s.drop thread a).margin x := by
  unfold drop
  dsimp only
  split
  · exact Int.le_refl _
  · next hactive =>
    split
    · have hnoted := margin_note s (.arenaAbandoned thread a (s.store.arena a).confinement
        (s.store.arena a).pending.size) x
      simp only [Happening.grants, Happening.topic?, reduceCtorEq, if_false, Int.natCast_zero,
        Int.add_zero, Int.sub_zero] at hnoted
      exact Int.le_of_eq hnoted.symm
    · next hadmits =>
      have hcheck : (s.store.arena a).confinement.check thread = .ok () := by
        rw [Confinement.check_eq_ok]
        simpa using hadmits
      have hactive : (s.store.arena a).isActive := by simpa using hactive
      rw [close_margin (s.push (.dropping thread a)) x thread a hactive hcheck, margin_push]
      simp only [Frame.topic?, Option.some.injEq]
      omega

/-- An action that begins puts up as many frames as it was granted, or one less. -/
theorem runAction_margin : s.margin x ≤ (s.runAction thread c token).margin x := by
  unfold runAction
  split
  · exact Int.le_refl _
  · next cleaner action _ =>
    have hstarted := margin_note (s.mapStore (·.modifyCleaner c fun _ => cleaner))
      (.started thread c token action) x
    have hbefore : (s.mapStore (·.modifyCleaner c fun _ => cleaner)).margin x = s.margin x := rfl
    simp only [Happening.grants, Happening.topic?, reduceCtorEq, if_false, Int.sub_zero, hbefore]
      at hstarted
    cases action with
    | dispose d =>
      dsimp only
      rw [(dispose_quiet _ thread d).margin, margin_push, margin_push, hstarted]
      simp only [Frame.topic?, Option.some.injEq]
      split <;> omega
    | supplied tag =>
      have hrunning := margin_push ((s.mapStore (·.modifyCleaner c fun _ => cleaner)).note
        (.started thread c token (.supplied tag))) (.running thread c token) x
      have hasked := margin_push (((s.mapStore (·.modifyCleaner c fun _ => cleaner)).note
        (.started thread c token (.supplied tag))).push (.running thread c token))
        (.awaiting (.action thread tag)) x
      rw [hrunning, hstarted] at hasked
      refine Int.le_trans ?_ (Int.le_of_eq hasked.symm)
      simp only [Frame.topic?, Option.some.injEq, reduceCtorEq, if_false]
      split <;> omega

end

/-! ### Moves -/

/-- A frame with a topic does nothing with its outcome but report on it, if it does. -/
theorem resume_reporter (s : System) {f : Frame} (hf : f.topic? ≠ none) (o : Outcome) :
    ((f.report? o).elim s s.note).Quiet (s.resume f o) := by
  cases f with
  | dropping thread a =>
    cases o with
    | error payload => exact quiet_of_same rfl rfl
    | ok reply =>
      cases reply with
      | closed result => cases result <;> exact quiet_of_same rfl rfl
      | _ => exact quiet_of_same rfl rfl
  | reporting thread c token =>
    cases o with
    | error payload => exact quiet_of_same rfl rfl
    | ok reply =>
      cases reply with
      | disposed result => cases result <;> exact quiet_of_same rfl rfl
      | _ => exact quiet_of_same rfl rfl
  | running thread c token =>
    cases o with
    | ok reply => exact .of_eq (.note (.of_eq rfl) rfl) rfl
    | error payload =>
      show (s.note (.actionPanicked thread c token payload.message)).Quiet
        (s.resumePanicked thread c token payload)
      refine .of_eq (.of_eq ?_) ?_
      · rw [resumePanicked_store]
        rfl
      · unfold resumePanicked discard
        split <;> rfl
  | _ => exact absurd rfl hf

/-- What a frame that is given its outcome adds to what is told. -/
theorem resume_told (s : System) {f : Frame} (hf : f.topic? = some x) (o : Outcome) :
    (s.resume f o).store.history.told x = s.store.history.told x ++ (f.report? o).toList := by
  rw [(s.resume_reporter (by simp [hf]) o).told]
  cases hreport : f.report? o with
  | none => exact (List.append_nil _).symm
  | some e =>
    refine (History.told_cons e s.store.history x).trans ?_
    rw [Happening.on?, (Frame.topic?_report hreport).1, hf, if_pos rfl]

/-- A frame gives what it holds back, or uses it for a report. -/
theorem resume_margin_reporter (s : System) {f : Frame} (hf : f.topic? ≠ none) (o : Outcome)
    (x : Topic) : (s.resume f o).margin x + ((f.report? o).toList.countP (·.topic? == some x) : Int) =
      s.margin x := by
  rw [(s.resume_reporter hf o).margin]
  cases hreport : f.report? o with
  | none => simp
  | some e =>
    have hgrants := (Frame.topic?_report hreport).2 x
    simp only [Option.elim_some, margin_note, hgrants, Option.toList_some]
    split <;> simp_all

/-- Work that gets its outcome takes nothing away from a margin, when its frame is gone. -/
theorem resume_margin (s : System) (f : Frame) (o : Outcome) (x : Topic) :
    x.margin s.store.history (f :: s.stack) ≤ (s.resume f o).margin x := by
  rw [Topic.margin_cons]
  by_cases hf : f.topic? = none
  · rw [hf, if_neg nofun, Int.sub_zero]
    show s.margin x ≤ _
    cases f with
    | sweeping thread a n failures todo =>
      cases o with
      | error payload => exact Int.le_refl _
      | ok reply =>
        cases reply with
        | disposed result =>
          exact Int.le_of_eq (resumeSweep_margin s x thread a n failures todo result).symm
        | _ => exact Int.le_refl _
    | taking thread c token => exact runAction_margin s x thread c token
    | dropping | reporting | running => cases hf
    | _ => exact Int.le_of_eq ((s.resume_quiet _ o rfl (by simp)).margin x).symm
  · have hgiven := s.resume_margin_reporter hf o x
    have htopic : ((f.report? o).toList.countP (·.topic? == some x) : Int) ≤
        if f.topic? = some x then 1 else 0 := by
      cases hreport : f.report? o with
      | none =>
        rw [Option.toList_none, List.countP_nil]
        split <;> simp
      | some e =>
        rw [Option.toList_some, List.countP_singleton, (Frame.topic?_report hreport).1]
        simp only [beq_iff_eq]
        split <;> simp
    show s.margin x - _ ≤ _
    omega

theorem start_margin (s : System) (w : Work) (x : Topic) : s.margin x ≤ (s.start w).margin x := by
  by_cases hw : ∃ thread a, w = .close thread a ∨ w = .drop thread a
  · obtain ⟨thread, a, rfl | rfl⟩ := hw
    · unfold start
      split
      · exact Int.le_refl _
      · exact close_margin_le s x thread a
    · unfold start
      split
      · exact Int.le_refl _
      · exact drop_margin s x thread a
  · have hquiet := s.start_quiet w fun thread a hcloses => hw ⟨thread, a, hcloses⟩
    exact Int.le_of_eq (hquiet.margin x).symm

/-- **No move takes anything away from a margin.** -/
theorem perform_margin (s : System) (move : Move) (x : Topic) :
    s.margin x ≤ (s.perform move).margin x := by
  cases move with
  | start w =>
    unfold perform
    dsimp only
    split
    · exact s.start_margin w x
    · exact Int.le_refl _
  | answer o =>
    unfold perform answer
    dsimp only
    split
    · next r rest _ hstack =>
      have hbefore : s.margin x = x.margin s.store.history rest := by
        rw [margin, hstack, Topic.margin_cons]
        exact Int.sub_zero _
      split
      · exact Int.le_of_eq hbefore
      · exact Int.le_refl _
    · exact Int.le_refl _
  | tick =>
    unfold perform tick
    dsimp only
    split
    · exact Int.le_refl _
    · exact Int.le_refl _
    · next o f rest _ hstack =>
      have hresumed := resume_margin { s with stack := rest } f o x
      rw [← hstack] at hresumed
      exact hresumed
  | operate operation =>
    unfold perform
    dsimp only
    split
    · exact Int.le_refl _
    · split
      · have hquiet := s.mapStore_quiet (f := (·.apply operation)) (s.store.apply_quiet operation)
        exact Int.le_of_eq (hquiet.margin x).symm
      · exact Int.le_refl _

end System

/-! ### Runs -/

/-- A history only ever grows. -/
theorem Change.suffix {move : Move} {s t : Site} (h : Change move s t) :
    s.1.history <:+ t.1.history := by
  cases h with
  | called | entered => simp
  | attempted | tookDisposal => exact (List.suffix_cons ..).trans (List.suffix_cons ..)
  | note | tracked | opened | accepted | swapped | abandoned | failed | swept | queued | received
  | tookSupplied | ended | panicked | begun | asked => exact List.suffix_cons ..
  | _ => exact List.suffix_rfl

/-- The most that a topic is granted. -/
def Topic.most : Topic → Nat
  | drop _ => 1
  | action _ _ => 2

namespace Schedule

variable {σ : Schedule} {n m l i : Nat} {x : Topic} {f : Frame} {base : List Frame} {o : Outcome}

/-- What functions find in the history is a first part of what they find later. -/
theorem pick_grows {α : Type} (σ : Schedule) (hnm : n ≤ m) (f : Happening → Option α) :
    (σ.after n).store.history.pick f <+: (σ.after m).store.history.pick f := by
  obtain ⟨news, hnews⟩ := @σ.stays (fun st _ => (σ.after n).store.history <:+ st.history) n m hnm
    (fun _ h => h) (fun _ _ _ hchange hs => hs.trans hchange.suffix) List.suffix_rfl
  rw [← hnews, History.pick, History.pick, List.filterMap_append, List.reverse_append]
  exact List.prefix_append ..

/-- The reports of frames on a topic before moment `n`. -/
def told (σ : Schedule) (x : Topic) (n : Nat) : List Happening := (σ.after n).store.history.told x

/-- How many frames wait for a topic at moment `n`, on any strand. -/
def waiting (σ : Schedule) (x : Topic) (n : Nat) : Nat := ForeignArena.waiting (σ.after n).frames x

/-- What is left for a topic at moment `n`. -/
def margin (σ : Schedule) (x : Topic) (n : Nat) : Int :=
  x.margin (σ.after n).store.history (σ.after n).frames

/-- A topic is granted no more than it needs: an arena is closed once, and an action begins once. -/
theorem grants_le (σ : Schedule) (x : Topic) (n : Nat) :
    (σ.after n).store.history.grants x ≤ x.most := by
  cases x with
  | drop a =>
    rw [History.grants_drop]
    have hclosings : ((σ.after n).store.history.closings a).length ≤ 1 := by
      have hsound := σ.arenaView_sound a n
      have hview : (σ.after n).store.history.closings a = (σ.arenaView a n).closings := rfl
      rw [hview]
      cases hsound with
      | unknown _ _ _ _ hnone | active _ _ _ _ hnone | abandoned _ _ _ _ hnone => simp [hnone]
      | closing _ _ _ _ _ hone | closed _ _ _ _ hone => simp [hone]
    exact hclosings
  | action c token =>
    rw [History.grants_action]
    have hstarted : (((σ.after n).store.history.started c).map Prod.fst).Nodup :=
      (List.nodup_append.mp (σ.cleanerView_sound c n).nodup).2.1
    exact Nat.mul_le_mul_left 2 (List.nodup_iff_count.mp hstarted token)

/-- In a strand that moves, a margin changes as much as in the run. -/
theorem margin_move {s : System} {move : Move} (h : σ.At i n s) (hact : σ n = .move i move)
    (x : Topic) : σ.margin x (n + 1) - σ.margin x n = (s.perform move).margin x - s.margin x := by
  obtain ⟨strand, hstrand, rfl⟩ := h
  obtain ⟨others, hbefore, hafter⟩ := Machine.frames_perm hstrand
  have hframes {k k' : List Frame} (hperm : k.Perm (k' ++ others)) : ForeignArena.waiting k x =
      ForeignArena.waiting k' x + ForeignArena.waiting others x :=
    (hperm.countP_eq _).trans List.countP_append
  have hlater : (σ.after (n + 1)).frames.Perm
      ((((σ.after n).system strand).perform move).stack ++ others) := by
    rw [after, hact, Machine.frames]
    simp only [Machine.perform, hstrand]
    exact hafter _
  have hstore : (σ.after (n + 1)).store = (((σ.after n).system strand).perform move).store := by
    rw [after, hact, Machine.store_perform hstrand]
  simp only [margin, System.margin, Topic.margin, hframes hbefore, hframes hlater, hstore,
    Machine.store_system, Machine.stack_system]
  omega

theorem margin_succ (σ : Schedule) (x : Topic) (n : Nat) : σ.margin x n ≤ σ.margin x (n + 1) := by
  cases hact : σ n with
  | spawn =>
    refine Int.le_of_eq ?_
    rw [margin, margin, after, hact]
    simp [Machine.perform, Machine.frames]
  | move i move =>
    cases hstrand : (σ.after n).strands[i]? with
    | none =>
      refine Int.le_of_eq ?_
      rw [margin, margin, after, hact, Machine.perform_of_none hstrand]
    | some strand =>
      have hmove := margin_move ⟨strand, hstrand, rfl⟩ hact x
      have hgrows := ((σ.after n).system strand).perform_margin move x
      omega

/-- **A margin never shrinks**, and there is none at first. -/
theorem margin_mono (σ : Schedule) (x : Topic) (hnm : n ≤ m) : σ.margin x n ≤ σ.margin x m := by
  induction hnm with
  | refl => exact Int.le_refl _
  | @step m _ ih => exact Int.le_trans ih (σ.margin_succ x m)

theorem margin_nonneg (σ : Schedule) (x : Topic) (n : Nat) : 0 ≤ σ.margin x n :=
  σ.margin_mono x (Nat.zero_le n)

/-- All that a topic was granted is left, or waits, or was used. -/
theorem margin_eq (σ : Schedule) (x : Topic) (n : Nat) : σ.margin x n =
    ((σ.after n).store.history.grants x : Int) - (σ.told x n).length - σ.waiting x n :=
  rfl

/-- Nothing is told where all that a topic could be granted is left or waits. -/
theorem told_eq_nil {w : Nat} (hleft : (x.most : Int) ≤ σ.margin x n + w)
    (hw : w ≤ σ.waiting x n) : σ.told x n = [] := by
  have hgrants := σ.grants_le x n
  have hmargin := σ.margin_eq x n
  exact List.eq_nil_of_length_eq_zero (by omega)

/-- As long as frames wait for all that a topic could still be granted, nothing more is told. -/
theorem told_eq {w : Nat} (hlm : l ≤ m)
    (hl : (x.most : Int) ≤ σ.margin x l + (σ.told x l).length + w) (hm : w ≤ σ.waiting x m) :
    σ.told x m = σ.told x l := by
  have hgrants := σ.grants_le x m
  have hmargin := σ.margin_mono x hlm
  have hlast := σ.margin_eq x m
  refine ((σ.pick_grows hlm (Happening.on? x)).eq_of_length_le ?_).symm
  show (σ.told x m).length ≤ (σ.told x l).length
  omega

/-- A frame that waits in a strand is one of those that wait. -/
theorem waiting_le {strand : Strand} (h : (σ.after n).strands[i]? = some strand) (x : Topic) :
    ForeignArena.waiting strand.stack x ≤ σ.waiting x n := by
  have hmem : strand.stack ∈ (σ.after n).strands.map (·.stack) :=
    List.mem_map_of_mem (List.mem_of_getElem? h)
  exact (List.sublist_flatten_of_mem hmem).countP_le

/-- Nothing was told where frames of one strand wait for all that a topic could be granted. -/
theorem told_of_waiting {s : System} (h : σ.At i n s)
    (hw : x.most ≤ ForeignArena.waiting s.stack x) : σ.told x n = [] :=
  told_eq_nil (Int.le_add_of_nonneg_left (σ.margin_nonneg x n))
    (Nat.le_trans hw (waiting_le h.strand x))

/-- **A frame that takes its outcome reports on it**, and holds nothing any more. -/
theorem told_succ (h : σ.Takes i l (f :: base) o) (hf : f.topic? = some x) :
    σ.told x (l + 1) = σ.told x l ++ (f.report? o).toList ∧
      σ.margin x (l + 1) + (σ.told x (l + 1)).length =
        σ.margin x l + (σ.told x l).length + 1 := by
  let below : System := ⟨(σ.after l).store, base, .handing o⟩
  have hstore : (σ.after (l + 1)).store = (below.resume f o).store := h.resumed.store.symm
  have htold : σ.told x (l + 1) = σ.told x l ++ (f.report? o).toList := by
    rw [told, hstore]
    exact below.resume_told hf o
  refine ⟨htold, ?_⟩
  have hmove := margin_move h.ended h.taken x
  have hbefore : System.margin ⟨(σ.after l).store, f :: base, .handing o⟩ x =
      below.margin x - 1 := by
    rw [System.margin, Topic.margin_cons, if_pos hf]
    rfl
  have hafter := below.resume_margin_reporter (f := f) (by simp [hf]) o x
  have htopic : (f.report? o).toList.countP (·.topic? == some x) = (f.report? o).toList.length := by
    cases hreport : f.report? o with
    | none => rfl
    | some e => simp [(Frame.topic?_report hreport).1, hf]
  have hlength := congrArg List.length htold
  rw [List.length_append] at hlength
  have hperform : (System.perform ⟨(σ.after l).store, f :: base, .handing o⟩ .tick).margin x =
      (below.resume f o).margin x := rfl
  omega

end Schedule

end ForeignArena
