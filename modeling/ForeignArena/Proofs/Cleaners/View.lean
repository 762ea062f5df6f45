import ForeignArena.Proofs.Changes.Run
import ForeignArena.Proofs.Histories

namespace ForeignArena

/-!
# What concerns a cleaner

As with arenas, what changes do to a cleaner is told in terms of a view that leaves out
all that concerns others.

* `CleanerView` — what concerns one cleaner: its state, the tokens that are used up but
  whose action is not yet taken, and what the history says on its actions;
* `CleanerView.Step` — what a change can do to a cleaner;
* `Change.cleaner` — and that it can do nothing else.
-/

/-- The token of a cleaner whose action a frame is about to take. -/
def Frame.takingOf? (c : Nat) : Frame → Option Nat
  | taking _ b token => if b = c then some token else none
  | _ => none

/-- Whether a frame is the loop of the reclamation thread of a cleaner, while that is busy
    with an action. -/
def Frame.isReclaiming (c : Nat) : Frame → Bool
  | reclaiming b => b = c
  | _ => false

/-- What concerns one cleaner. -/
structure CleanerView where
  known : Prop
  cleaner : Cleaner
  /-- The tokens whose action is about to be taken. -/
  taking : List Nat
  /-- How often the reclamation thread is busy. -/
  busy : Nat
  tracked : List (Nat × Action)
  started : List (Nat × Action)

/-- What concerns a cleaner at some site. -/
def Site.cleanerView (s : Site) (c : Nat) : CleanerView where
  known := c < s.1.cleaners.size
  cleaner := s.1.cleaner c
  taking := s.2.filterMap (Frame.takingOf? c)
  busy := s.2.countP (Frame.isReclaiming c)
  tracked := s.1.history.tracked c
  started := s.1.history.started c

/-- What a change can do to cleaner `c`, as part of a move. -/
inductive CleanerView.Step (move : Move) (c : Nat) (v : CleanerView) : CleanerView → Prop where
  | same : Step move c v v
  | added (name : String) : ¬v.known →
    Step move c v { v with known := True, cleaner := { threadName := name } }
  | tracked (operation : Operation) (action : Action) :
    move = .operate operation → v.cleaner.held →
    Step move c v
      { v with
        cleaner := v.cleaner.track action
        tracked := v.tracked ++ [(v.cleaner.nextId, action)] }
  | released : Step move c v { v with cleaner := v.cleaner.release }
  | settled : Step move c v { v with cleaner := v.cleaner.settle }
  | spent (token : Nat) : move.Spends c token → v.cleaner.tokens.contains token →
    Step move c v { v with cleaner := v.cleaner.spend token, taking := token :: v.taking }
  | queued (thread : ThreadId) (token : Nat) :
    move = .start (.dropRegistration thread (.tracked c token)) →
    v.cleaner.tokens.contains token → v.cleaner.isReceiving →
    Step move c v { v with cleaner := (v.cleaner.spend token).enqueue token }
  | received (token : Nat) (cleaner : Cleaner) :
    move = .start (.receive c) → v.cleaner.dequeue? = some (cleaner, token) →
    Step move c v { v with cleaner, taking := token :: v.taking, busy := v.busy + 1 }
  | missed (token : Nat) (taking : List Nat) :
    v.taking = token :: taking → v.cleaner.take? token = none → Step move c v { v with taking }
  | took (token : Nat) (action : Action) (cleaner : Cleaner) (taking : List Nat) :
    v.taking = token :: taking → v.cleaner.take? token = some (cleaner, action) →
    Step move c v { v with cleaner, taking, started := v.started ++ [(token, action)] }
  | finished : v.known → Step move c v { v with cleaner := v.cleaner.finish }
  | failed : v.known → Step move c v { v with cleaner := v.cleaner.fail }
  | resumed (busy : Nat) : v.busy = busy + 1 →
    Step move c v { v with cleaner := v.cleaner.resume, busy }
  | died (busy : Nat) : move = .tick → v.busy = busy + 1 →
    Step move c v { v with cleaner := v.cleaner.die, busy }
  | vanished (busy : Nat) : ¬v.known → v.busy = busy + 1 → Step move c v { v with busy }

theorem CleanerView.Step.of_eq {move : Move} {c : Nat} {v w : CleanerView} (h : w = v) :
    Step move c v w :=
  h ▸ .same

theorem CleanerView.Step.congr {move : Move} {c : Nat} {v w w' : CleanerView} (h : Step move c v w)
    (heq : w' = w) : Step move c v w' :=
  heq ▸ h

/-! ### Changes that leave a cleaner alone -/

/-- Happenings that say nothing on its actions, and other frames that hold nothing of it,
    leave a cleaner as it was. -/
theorem Site.cleanerView_eq {s t : Site} {c : Nat} (news : List Happening)
    (hcleaners : t.1.cleaners = s.1.cleaners) (hhistory : t.1.history = news ++ s.1.history)
    (hnews : ∀ e ∈ news, e.Mute c)
    (htaking : t.2.filterMap (Frame.takingOf? c) = s.2.filterMap (Frame.takingOf? c))
    (hbusy : t.2.countP (Frame.isReclaiming c) = s.2.countP (Frame.isReclaiming c)) :
    t.cleanerView c = s.cleanerView c := by
  simp only [cleanerView, Store.cleaner, History.tracked, History.started, hcleaners, htaking, hbusy,
    History.pick_append_of_none hhistory fun e he => (hnews e he).1,
    History.pick_append_of_none hhistory fun e he => (hnews e he).2]

/-- Plain frames, and those of closings and disposals, hold nothing of a cleaner. -/
theorem Frame.not_cleaner_of_isLoose {f : Frame} (h : f.isLoose) (c : Nat) :
    f.takingOf? c = none ∧ f.isReclaiming c = false := by
  cases f <;> first | exact ⟨rfl, rfl⟩ | cases h

theorem Frame.isLoose_of_isPlain {f : Frame} (h : f.isPlain) : f.isLoose := by
  cases f <;> first | rfl | cases h

/-- A disposal that begins says nothing on cleaners. -/
theorem Site.cleanerView_begin (st : Store) (k : List Frame) (thread : ThreadId) (d : Disposal)
    (c : Nat) : Site.cleanerView (st.begin thread d, k) c = Site.cleanerView (st, k) c :=
  Site.cleanerView_eq [.began thread d] rfl rfl (by simp [Happening.Mute]) rfl rfl

/-- A handle behind which no cleaner is stands for nothing. -/
theorem Store.cleaner_of_unknown (st : Store) {c : Nat} (h : ¬c < st.cleaners.size) :
    st.cleaner c = .void := by
  rw [Store.cleaner, Array.getElem?_eq_none (Nat.not_lt.mp h)]
  rfl

namespace Change

variable {move : Move} {st : Store} {k : List Frame}

/-! ### What a change can do -/

/-- A cleaner that has something exists. -/
theorem known_of_ne_void {c : Nat} (h : st.cleaner c ≠ .void) : c < st.cleaners.size :=
  Decidable.by_contra fun hsize => h (st.cleaner_of_unknown hsize)

theorem known_of_token {c token : Nat} (h : (st.cleaner c).tokens.contains token) :
    c < st.cleaners.size := by
  refine known_of_ne_void fun hvoid => ?_
  rw [hvoid] at h
  cases h

theorem known_of_dequeue {c token : Nat} {cleaner : Cleaner}
    (h : (st.cleaner c).dequeue? = some (cleaner, token)) : c < st.cleaners.size := by
  refine known_of_ne_void fun hvoid => ?_
  rw [hvoid] at h
  cases h

theorem known_of_take {c token : Nat} {cleaner : Cleaner} {action : Action}
    (h : (st.cleaner c).take? token = some (cleaner, action)) : c < st.cleaners.size := by
  refine known_of_ne_void fun hvoid => ?_
  rw [hvoid] at h
  cases h

/-- A change of another cleaner, or behind an unknown handle, leaves a cleaner alone. -/
theorem cleaner_unchanged {b c : Nat} (h : ¬(b = c ∧ b < st.cleaners.size))
    (f : Cleaner → Cleaner) : (st.modifyCleaner b f).cleaner c = st.cleaner c := by
  by_cases hbc : b = c
  · exact st.cleaner_modifyCleaner_unknown (by omega) c f
  · exact st.cleaner_modifyCleaner_ne hbc f

theorem added_cleaner (name : String) (c : Nat) :
    (Site.cleanerView (st, k) c).Step move c
      (Site.cleanerView ({ st with cleaners := st.cleaners.push { threadName := name } }, k) c) := by
  by_cases hc : c = st.cleaners.size
  · refine .congr (.added name (by simp [Site.cleanerView, hc])) ?_
    simp [Site.cleanerView, Store.cleaner, hc]
  · have hknown : (c < st.cleaners.size + 1) = (c < st.cleaners.size) := by
      rw [eq_iff_iff]
      omega
    refine .of_eq ?_
    simp [Site.cleanerView, Store.cleaner, Array.getElem?_push, hc, hknown]

theorem tracked_cleaner (operation : Operation) (hmove : move = .operate operation) (b : Nat)
    (action : Action) (hb : b < st.cleaners.size) (hheld : (st.cleaner b).held) (c : Nat) :
    (Site.cleanerView (st, k) c).Step move c (Site.cleanerView ((st.track b action).1, k) c) := by
  by_cases hbc : b = c
  · subst hbc
    refine .congr (.tracked operation action hmove hheld) ?_
    simp [Site.cleanerView, Store.track, Store.cleaner_modifyCleaner, hb]
  · refine .of_eq ?_
    simp [Site.cleanerView, Store.track, st.cleaner_modifyCleaner_ne hbc, hbc]

theorem settled_cleaner (c : Nat) :
    (Site.cleanerView (st, k) c).Step move c (Site.cleanerView (st.settle, k) c) := by
  by_cases hc : c < st.cleaners.size
  · refine .congr .settled ?_
    simp [Site.cleanerView, Store.settle, Store.cleaner, hc]
  · refine .of_eq ?_
    simp [Site.cleanerView, Store.settle, Store.cleaner, hc]

theorem spent_cleaner (thread : ThreadId) (b token : Nat) (hmove : move.Spends b token)
    (htoken : (st.cleaner b).tokens.contains token) (c : Nat) :
    (Site.cleanerView (st, k) c).Step move c
      (Site.cleanerView (st.modifyCleaner b (·.spend token), .taking thread b token :: k) c) := by
  have hb := known_of_token htoken
  by_cases hbc : b = c
  · subst hbc
    refine .congr (.spent token hmove htoken) ?_
    simp [Site.cleanerView, Store.cleaner_modifyCleaner, hb, Frame.takingOf?, Frame.isReclaiming]
  · refine .of_eq ?_
    simp [Site.cleanerView, st.cleaner_modifyCleaner_ne hbc, hbc, Frame.takingOf?, Frame.isReclaiming]

theorem queued_cleaner (thread : ThreadId) (b token : Nat)
    (hmove : move = .start (.dropRegistration thread (.tracked b token)))
    (htoken : (st.cleaner b).tokens.contains token) (hreceiving : (st.cleaner b).isReceiving)
    (c : Nat) :
    (Site.cleanerView (st, k) c).Step move c
      (Site.cleanerView (((st.modifyCleaner b (·.spend token)).modifyCleaner b
        (·.enqueue token)).note (.queued b token), k) c) := by
  have hb := known_of_token htoken
  by_cases hbc : b = c
  · subst hbc
    refine .congr (.queued thread token hmove htoken hreceiving) ?_
    simp [Site.cleanerView, Store.cleaner_modifyCleaner, hb]
  · refine .of_eq ?_
    simp [Site.cleanerView, Store.cleaner_modifyCleaner_ne _ hbc]

theorem received_cleaner (thread : ThreadId) (b token : Nat) (cleaner : Cleaner)
    (hmove : move = .start (.receive b))
    (hdequeue : (st.cleaner b).dequeue? = some (cleaner, token)) (c : Nat) :
    (Site.cleanerView (st, k) c).Step move c
      (Site.cleanerView ((st.modifyCleaner b fun _ => cleaner).note (.received b token),
        .taking thread b token :: .reclaiming b :: k) c) := by
  have hb := known_of_dequeue hdequeue
  have hloop (c : Nat) : (Frame.reclaiming b :: k).filterMap (Frame.takingOf? c) =
      k.filterMap (Frame.takingOf? c) := rfl
  by_cases hbc : b = c
  · subst hbc
    refine .congr (.received token cleaner hmove hdequeue) ?_
    simp [Site.cleanerView, Store.cleaner_modifyCleaner, hb, hloop, Frame.takingOf?,
      Frame.isReclaiming]
  · refine .of_eq ?_
    simp [Site.cleanerView, st.cleaner_modifyCleaner_ne hbc, hbc, hloop, Frame.takingOf?,
      Frame.isReclaiming]

theorem missed_cleaner (thread : ThreadId) (b token : Nat)
    (htake : (st.cleaner b).take? token = none) (c : Nat) :
    (Site.cleanerView (st, .taking thread b token :: k) c).Step move c
      (Site.cleanerView (st, k) c) := by
  by_cases hbc : b = c
  · subst hbc
    refine .congr (.missed token (k.filterMap (Frame.takingOf? b)) ?_ htake) ?_
    · simp [Site.cleanerView, Frame.takingOf?]
    · simp [Site.cleanerView, Frame.isReclaiming]
  · refine .of_eq ?_
    simp [Site.cleanerView, hbc, Frame.takingOf?, Frame.isReclaiming]

/-- The frames of a running action hold nothing of a cleaner. -/
theorem took_cleaner (thread : ThreadId) (b token : Nat) (action : Action) (cleaner : Cleaner)
    (above : List Frame) (habove : ∀ f ∈ above, ∀ c, f.takingOf? c = none ∧ f.isReclaiming c = false)
    (htake : (st.cleaner b).take? token = some (cleaner, action)) (c : Nat) :
    (Site.cleanerView (st, .taking thread b token :: k) c).Step move c
      (Site.cleanerView ((st.modifyCleaner b fun _ => cleaner).note
        (.started thread b token action), above ++ k) c) := by
  have hb := known_of_take htake
  have htaking : above.filterMap (Frame.takingOf? c) = [] :=
    List.filterMap_eq_nil_iff.mpr fun f hf => (habove f hf c).1
  have hbusy : above.countP (Frame.isReclaiming c) = 0 :=
    List.countP_eq_zero.mpr fun f hf => by simp [(habove f hf c).2]
  by_cases hbc : b = c
  · subst hbc
    refine .congr (.took token action cleaner (k.filterMap (Frame.takingOf? b)) ?_ htake) ?_
    · simp [Site.cleanerView, Frame.takingOf?]
    · simp [Site.cleanerView, Store.cleaner_modifyCleaner, hb, htaking, hbusy, Frame.isReclaiming]
  · refine .of_eq ?_
    simp [Site.cleanerView, st.cleaner_modifyCleaner_ne hbc, hbc, htaking, hbusy, Frame.takingOf?,
      Frame.isReclaiming]

/-- Actions that end show in the counters of their cleaner only. -/
theorem counted_cleaner (thread : ThreadId) (b token : Nat) (f : Cleaner → Cleaner) (c : Nat)
    (hstep : ∀ v : CleanerView, v.known → v.Step move c { v with cleaner := f v.cleaner }) :
    (Site.cleanerView (st, .running thread b token :: k) c).Step move c
      (Site.cleanerView (st.modifyCleaner b f, k) c) := by
  have hframe (b : Nat) : (Frame.running thread b token :: k).filterMap (Frame.takingOf? c) =
      k.filterMap (Frame.takingOf? c) := rfl
  by_cases hb : b = c ∧ b < st.cleaners.size
  · obtain ⟨rfl, hb⟩ := hb
    refine .congr (hstep _ hb) ?_
    simp [Site.cleanerView, Store.cleaner_modifyCleaner, hb, hframe, Frame.isReclaiming]
  · refine .of_eq ?_
    simp [Site.cleanerView, cleaner_unchanged hb, hframe, Frame.isReclaiming]

/-- The reclamation thread of a cleaner leaves the action that it was busy with. -/
theorem left_cleaner (b : Nat) (f : Cleaner → Cleaner) (c : Nat)
    (hstep : ∀ (v : CleanerView) (busy : Nat), v.busy = busy + 1 →
      v.Step move c { v with cleaner := f v.cleaner, busy }) :
    (Site.cleanerView (st, .reclaiming b :: k) c).Step move c
      (Site.cleanerView (st.modifyCleaner b f, k) c) := by
  have hframe : (Frame.reclaiming b :: k).filterMap (Frame.takingOf? c) =
      k.filterMap (Frame.takingOf? c) := rfl
  by_cases hbc : b = c
  · subst hbc
    by_cases hb : b < st.cleaners.size
    · refine .congr (hstep _ (k.countP (Frame.isReclaiming b)) ?_) ?_
      · simp [Site.cleanerView, Frame.isReclaiming]
      · simp [Site.cleanerView, Store.cleaner_modifyCleaner, hb, hframe]
    · -- nothing is there to change, but its frame has gone
      refine .congr (.vanished (k.countP (Frame.isReclaiming b)) (by simpa [Site.cleanerView] using hb)
        (by simp [Site.cleanerView, Frame.isReclaiming])) ?_
      simp [Site.cleanerView, st.cleaner_modifyCleaner_unknown (Nat.not_lt.mp hb), hframe]
  · refine .of_eq ?_
    simp [Site.cleanerView, st.cleaner_modifyCleaner_ne hbc, hbc, hframe, Frame.isReclaiming]

theorem released_cleaner (b c : Nat) :
    (Site.cleanerView (st, k) c).Step move c
      (Site.cleanerView (st.modifyCleaner b (·.release), k) c) := by
  by_cases hb : b = c ∧ b < st.cleaners.size
  · obtain ⟨rfl, hb⟩ := hb
    refine .congr .released ?_
    simp [Site.cleanerView, Store.cleaner_modifyCleaner, hb]
  · refine .of_eq ?_
    simp [Site.cleanerView, cleaner_unchanged hb]

/-- **What a change can do to a cleaner.** -/
theorem cleaner {s t : Site} (h : Change move s t) (c : Nat) :
    (s.cleanerView c).Step move c (t.cleanerView c) := by
  have hloose {k : List Frame} {f : Frame} (hf : f.isLoose) :
      (f :: k).filterMap (Frame.takingOf? c) = k.filterMap (Frame.takingOf? c) ∧
      (f :: k).countP (Frame.isReclaiming c) = k.countP (Frame.isReclaiming c) := by
    obtain ⟨htaking, hbusy⟩ := Frame.not_cleaner_of_isLoose hf c
    simp [htaking, hbusy]
  cases h with
  | push f hf =>
    exact .of_eq (Site.cleanerView_eq [] rfl rfl (by simp)
      (hloose (Frame.isLoose_of_isPlain hf)).1 (hloose (Frame.isLoose_of_isPlain hf)).2)
  | pop f hf =>
    exact .of_eq (Site.cleanerView_eq [] rfl rfl (by simp) (hloose hf).1.symm (hloose hf).2.symm)
  | note e he =>
    exact .of_eq (Site.cleanerView_eq [e] rfl rfl
      (by simpa using Happening.mute_of_isPlain he c) rfl rfl)
  | cleanerAdded name => exact added_cleaner name c
  | tracked operation b action hmove hb hheld _ =>
    exact tracked_cleaner operation hmove b action hb hheld c
  | letGo b => exact released_cleaner b c
  | settled => exact settled_cleaner c
  | spent thread b token hmove htoken => exact spent_cleaner thread b token hmove htoken c
  | queued thread b token hmove htoken hreceiving =>
    exact queued_cleaner thread b token hmove htoken hreceiving c
  | received thread b token cleaner hmove hdequeue =>
    exact received_cleaner thread b token cleaner hmove hdequeue c
  | missed thread b token _ htake => exact missed_cleaner thread b token htake c
  | tookSupplied thread b token tag cleaner _ htake =>
    exact took_cleaner thread b token (.supplied tag) cleaner [.running thread b token]
      (by simp [Frame.takingOf?, Frame.isReclaiming]) htake c
  | tookDisposal thread b token d cleaner _ htake =>
    rw [Site.cleanerView_begin]
    exact took_cleaner thread b token (.dispose d) cleaner
      [.counted thread d, .reporting thread b token, .running thread b token]
      (by simp [Frame.takingOf?, Frame.isReclaiming]) htake c
  | ended thread b token =>
    exact .congr (counted_cleaner thread b token _ c (fun _ => .finished))
      (Site.cleanerView_eq [.actionEnded thread b token] rfl rfl (by simp [Happening.Mute]) rfl rfl)
  | panicked thread b token panic =>
    exact .congr (counted_cleaner thread b token _ c (fun _ => .failed))
      (Site.cleanerView_eq [.actionPanicked thread b token panic] rfl rfl
        (by simp [Happening.Mute]) rfl rfl)
  | resumed b => exact left_cleaner b _ c (fun _ => .resumed)
  | died b hmove => exact left_cleaner b _ c (fun _ busy => .died busy hmove)
  | called => exact .of_eq (Site.cleanerView_eq [] (by simp) (by simp) (by simp) rfl rfl)
  | begun thread d =>
    rw [Site.cleanerView_begin]
    exact .of_eq (Site.cleanerView_eq [] rfl rfl (by simp) (hloose rfl).1 (hloose rfl).2)
  | entered thread d =>
    exact .of_eq (Site.cleanerView_eq [.destroying thread d] (by simp) (by simp)
      (by simp [Happening.Mute]) rfl rfl)
  | attempted thread a n failures d rest =>
    rw [Site.cleanerView_begin]
    exact .of_eq (Site.cleanerView_eq [.attempting thread a d] rfl rfl (by simp [Happening.Mute])
      rfl rfl)
  | swapped thread a =>
    exact .of_eq (Site.cleanerView_eq [.closing thread a] rfl rfl (by simp [Happening.Mute])
      (hloose rfl).1 (hloose rfl).2)
  | swept thread a n failures =>
    exact .of_eq (Site.cleanerView_eq [.arenaClosed thread a n failures.length] rfl rfl
      (by simp [Happening.Mute]) (hloose rfl).1.symm (hloose rfl).2.symm)
  | opened | accepted | abandoned | failed | asked =>
    exact .of_eq (Site.cleanerView_eq [_] rfl rfl (by simp [Happening.Mute]) rfl rfl)
  | _ => exact .of_eq (Site.cleanerView_eq [] rfl rfl (by simp) rfl rfl)

end Change

end ForeignArena
