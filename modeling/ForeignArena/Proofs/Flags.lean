import ForeignArena.Proofs.Arenas.Life
import ForeignArena.Proofs.Cleaners.Life

namespace ForeignArena

/-!
# Liveness flags

A flag is set where a disposal with it begins, and where a client sets it.  It is never
taken back.

* `Site.Sound` — what arenas and cleaners have still to run was registered with them, under
  flags that exist;
* `FlagView` — what concerns one flag;
* `FlagView.Step`, `Change.flag` — what a change can do to it;
* `FlagView.Sound`, `Schedule.flagView_sound` — a disposal begins with its flag set.
-/

/-! ### What is run was registered -/

/-- A site where all arenas and cleaners are sound, and all that is registered has a flag
    that exists. -/
structure Site.Sound (s : Site) : Prop where
  arenas : ∀ a, (s.arenaView a).Sound
  cleaners : ∀ c, (s.cleanerView c).Sound
  flags : ∀ e ∈ s.1.history.entries, e.disposal.flag < s.1.flags.size

namespace Site.Sound

variable {st : Store} {k : List Frame}

/-- A closing runs only what was registered with its arena. -/
theorem mem_of_sweeping (h : Site.Sound (st, k)) {thread : ThreadId} {a n : Nat}
    {failures : List DisposalError} {d : Disposal} {rest : List Disposal} {below : List Frame}
    (hk : k = .sweeping thread a n failures (d :: rest) :: below) :
    ⟨.confined a, .plain, d⟩ ∈ st.history.entries := by
  have hsweeps : (Site.arenaView (st, k) a).sweeps =
      (d :: rest) :: below.filterMap (Frame.todoOf? a) := by simp [arenaView, hk, Frame.todoOf?]
  obtain ⟨-, -, -, -, -, hall⟩ := (h.arenas a).of_sweeps hsweeps
  have hmem : d ∈ st.history.accepted a := by
    rw [show st.history.accepted a = _ from hall.symm]
    simp
  exact History.mem_entries.mpr (.inl ⟨a, rfl, hmem⟩)

/-- A cleaner runs only what was registered with it. -/
theorem mem_of_take (h : Site.Sound (st, k)) {c token : Nat} {d : Disposal} {cleaner : Cleaner}
    (htake : (st.cleaner c).take? token = some (cleaner, .dispose d)) :
    ⟨.auto c, .tracked c token, d⟩ ∈ st.history.entries := by
  have hlive := (Cleaner.take?_perm (h.cleaners c).nodup_keys htake).mem_iff.mpr List.mem_cons_self
  have hmem : (token, .dispose d) ∈ st.history.tracked c :=
    (h.cleaners c).divided.mem_iff.mp (List.mem_append_left _ hlive)
  exact History.mem_entries.mpr (.inr ⟨c, token, rfl, hmem⟩)

/-- What was run was registered. -/
theorem mem_of_runs (h : Site.Sound (st, k)) {flag : Nat} {e : Entry}
    (he : e ∈ st.history.runs flag) : e ∈ st.history.entries := by
  obtain ⟨-, ⟨a, heq, hattempted⟩ | ⟨c, token, heq, hstarted⟩⟩ := History.mem_runs.mp he
  · exact History.mem_entries.mpr (.inl ⟨a, heq, (h.arenas a).isPrefix.subset hattempted⟩)
  · have hmem := (h.cleaners c).divided.mem_iff.mp (List.mem_append_right _ hstarted)
    exact History.mem_entries.mpr (.inr ⟨c, token, heq, hmem⟩)

theorem perm {k' : List Frame} (hperm : k.Perm k') (h : Site.Sound (st, k)) :
    Site.Sound (st, k') where
  arenas a := Site.sound_perm hperm (h.arenas a)
  cleaners c := Site.cleaner_sound_perm hperm (h.cleaners c)
  flags := h.flags

end Site.Sound

/-- Nothing is registered but with a flag that exists. -/
theorem Change.entries_flags {move : Move} {s t : Site} (h : Change move s t)
    (hs : ∀ e ∈ s.1.history.entries, e.disposal.flag < s.1.flags.size) :
    ∀ e ∈ t.1.history.entries, e.disposal.flag < t.1.flags.size := by
  intro e he
  have size_setFlag (st : Store) (flag : Nat) : (st.setFlag flag).flags.size = st.flags.size :=
    Array.size_modify ..
  cases h with
  | flagAdded => exact Nat.lt_of_lt_of_le (hs e he) (by simp [Store.newFlag])
  | accepted operation thread a d _ _ _ hflag =>
    simp only [Store.history_note, Store.history_modifyArena, History.entries_cons] at he
    obtain he | he := List.mem_append.mp he
    · exact hs e he
    · obtain rfl := List.mem_singleton.mp he
      exact hflag
  | tracked operation c action _ _ _ hflag =>
    simp only [Store.track, Store.history_note, Store.history_modifyCleaner, History.entries_cons] at he
    obtain he | he := List.mem_append.mp he
    · exact hs e he
    · cases action with
      | supplied tag => cases he
      | dispose d =>
        obtain rfl := List.mem_singleton.mp he
        exact hflag d rfl
  | note event hevent =>
    have hplain : event.entry? = none := by cases event <;> first | rfl | cases hevent
    rw [Store.history_note, History.entries_cons, hplain] at he
    exact hs e (by simpa using he)
  | called | entered =>
    simp only [Store.flags_afterDestroy]
    exact hs e (by simpa using he)
  | marked flag =>
    rw [size_setFlag]
    exact hs e he
  | begun | attempted | tookDisposal =>
    simp only [Store.begin, Store.note, size_setFlag]
    exact hs e (by simpa using he)
  | opened =>
    exact hs e (by simpa [Store.buildArena] using he)
  | registryUsed | heapUsed | settled => exact hs e he
  | _ => exact hs e (by simpa using he)

theorem Change.sound {move : Move} {s t : Site} (h : Change move s t) (hs : s.Sound) : t.Sound where
  arenas a := (h.arena a).sound (hs.arenas a)
  cleaners c := (h.cleaner c).sound (hs.cleaners c)
  flags := h.entries_flags hs.flags

theorem Schedule.sound (σ : Schedule) (n : Nat) :
    Site.Sound ((σ.after n).store, (σ.after n).frames) where
  arenas a := σ.arenaView_sound a n
  cleaners c := σ.cleanerView_sound c n
  flags := @always (fun st _ => ∀ e ∈ st.history.entries, e.disposal.flag < st.flags.size) σ
    (fun _ h => h) (fun hchange h => hchange.entries_flags h) (by simp [History.entries]) n

/-! ### What concerns a flag -/

/-- What concerns one flag: whether it exists and is set, and the disposals with it that
    began, and those of them that were registered. -/
@[ext]
structure FlagView where
  known : Prop
  set : Bool
  begun : List Disposal
  runs : List Entry

/-- What concerns a flag of a store. -/
def Store.flagView (st : Store) (flag : Nat) : FlagView where
  known := flag < st.flags.size
  set := st.isDestroyed flag
  begun := st.history.begun flag
  runs := st.history.runs flag

/-- A move that starts a disposal of the client's own. -/
def Move.Disposes (d : Disposal) (move : Move) : Prop :=
  ∃ thread, move = .start (.dispose thread d) ∨ move = .start (.disposeGuarded thread d)

/-- What a change can do to a flag, as part of a move. -/
inductive FlagView.Step (move : Move) (flag : Nat) (v : FlagView) : FlagView → Prop where
  | same : Step move flag v v
  | created : Step move flag v { v with known := True }
  | marked : move = .operate (.mark flag) → v.known → Step move flag v { v with set := true }
  | began (d : Disposal) : d.flag = flag → move.Disposes d → v.known →
    Step move flag v { v with set := true, begun := v.begun ++ [d] }
  | ran (e : Entry) : e.disposal.flag = flag → (∀ operation, move ≠ .operate operation) → v.known →
    Step move flag v
      { v with set := true, begun := v.begun ++ [e.disposal], runs := v.runs ++ [e] }

theorem FlagView.Step.of_eq {move : Move} {flag : Nat} {v w : FlagView} (h : w = v) :
    Step move flag v w :=
  h ▸ .same

theorem FlagView.Step.congr {move : Move} {flag : Nat} {v w w' : FlagView}
    (h : Step move flag v w) (heq : w' = w) : Step move flag v w' :=
  heq ▸ h

/-! ### What a change can do -/

/-- Happenings that say nothing on the begin of disposals. -/
def Happening.Still (e : Happening) : Prop := e.run? = none ∧ ∀ flag, e.begunOf? flag = none

theorem Happening.still_of_isPlain {e : Happening} (h : e.isPlain) : e.Still := by
  cases e <;> first | exact ⟨rfl, fun _ => rfl⟩ | cases h

/-- Such happenings leave all flags alone. -/
theorem Store.flagView_eq {st after : Store} {flag : Nat} (news : List Happening)
    (hflags : after.flags = st.flags) (hhistory : after.history = news ++ st.history)
    (hnews : ∀ e ∈ news, e.Still) : after.flagView flag = st.flagView flag := by
  have hrun (e : Happening) (he : e ∈ news) : e.runOf? flag = none := by
    rw [Happening.runOf?, (hnews e he).1]
    rfl
  simp only [flagView, Store.isDestroyed, History.begun, History.runs, hflags,
    History.pick_append_of_none hhistory hrun,
    History.pick_append_of_none hhistory fun e he => (hnews e he).2 flag]

namespace Change

variable {move : Move} {st : Store}

theorem created_flag (flag : Nat) :
    (st.flagView flag).Step move flag (st.newFlag.1.flagView flag) := by
  by_cases hflag : flag = st.flags.size
  · refine .congr .created ?_
    ext <;> simp [Store.flagView, Store.newFlag, Store.isDestroyed, hflag]
  · have hknown : (flag < st.flags.size + 1) = (flag < st.flags.size) := by
      rw [eq_iff_iff]
      omega
    refine .of_eq ?_
    ext <;> simp [Store.flagView, Store.newFlag, Store.isDestroyed, Array.getElem?_push, hflag, hknown]

theorem marked_flag (marked : Nat) (hmove : move = .operate (.mark marked)) (flag : Nat) :
    (st.flagView flag).Step move flag ((st.setFlag marked).flagView flag) := by
  have hsize : (st.setFlag marked).flags.size = st.flags.size := Array.size_modify ..
  by_cases hflag : marked = flag ∧ flag < st.flags.size
  · obtain ⟨rfl, hknown⟩ := hflag
    refine .congr (.marked hmove hknown) ?_
    ext
    · simp only [Store.flagView, hsize]
    · simp [Store.flagView, Store.isDestroyed_setFlag, hknown]
    · rfl
    · rfl
  · -- another flag, or one that does not exist
    refine .of_eq ?_
    ext
    · simp only [Store.flagView, hsize]
    · have hset : (marked == flag && decide (flag < st.flags.size)) = false := by simpa using hflag
      simp only [Store.flagView, Store.isDestroyed_setFlag, hset, Bool.or_false]
    · rfl
    · rfl

/-- A flag where a disposal begins, after a happening of which only the runs are known. -/
theorem flagView_begin (thread : ThreadId) (d : Disposal) (flag : Nat) :
    (st.begin thread d).flagView flag =
      { known := flag < st.flags.size
        set := st.isDestroyed flag || (d.flag == flag && decide (flag < st.flags.size))
        begun := st.history.begun flag ++ if d.flag = flag then [d] else []
        runs := st.history.runs flag } := by
  ext
  · simp [Store.flagView, Store.begin, Store.note, Store.setFlag]
  · simp [Store.flagView, Store.begin, Store.isDestroyed_setFlag]
  · by_cases hflag : d.flag = flag <;> simp [Store.flagView, hflag]
  · simp [Store.flagView, Happening.runOf?]

theorem begun_flag (thread : ThreadId) (d : Disposal) (hmove : move.Disposes d)
    (hknown : d.flag < st.flags.size) (flag : Nat) :
    (st.flagView flag).Step move flag
      ((st.begin thread d).flagView flag) := by
  rw [flagView_begin]
  by_cases hflag : d.flag = flag
  · subst hflag
    refine .congr (.began d rfl hmove hknown) ?_
    ext <;> simp [Store.flagView, hknown]
  · refine .of_eq ?_
    ext <;> simp [Store.flagView, hflag]

/-- A registered disposal is run: that is noted, and its flag is set. -/
theorem ran_flag (thread : ThreadId) (e : Entry) (event : Happening)
    (hrun : event.run? = some e) (hevent : ∀ flag, event.begunOf? flag = none) (middle : Store)
    (hflags : middle.flags = st.flags) (hhistory : middle.history = st.history)
    (hmove : ∀ operation, move ≠ .operate operation) (hknown : e.disposal.flag < st.flags.size)
    (flag : Nat) :
    (st.flagView flag).Step move flag
      (((middle.note event).begin thread e.disposal).flagView flag) := by
  have hset : (middle.note event).isDestroyed flag = st.isDestroyed flag := by
    rw [Store.isDestroyed_note, Store.isDestroyed, Store.isDestroyed, hflags]
  have hbegun : (middle.note event).history.begun flag = st.history.begun flag := by
    rw [Store.history_note, History.begun_cons, hevent, hhistory]
    exact List.append_nil _
  have hruns : (middle.note event).history.runs flag =
      st.history.runs flag ++ if e.disposal.flag = flag then [e] else [] := by
    rw [Store.history_note, History.runs_cons, Happening.runOf?, hrun, hhistory]
    by_cases hflag : e.disposal.flag = flag <;> simp [Option.filter, hflag]
  have hsize : (middle.note event).flags.size = st.flags.size := congrArg Array.size hflags
  rw [flagView_begin, hset, hbegun, hruns, hsize]
  by_cases hflag : e.disposal.flag = flag
  · subst hflag
    refine .congr (.ran e rfl hmove hknown) ?_
    ext <;> simp [Store.flagView, hknown]
  · refine .of_eq ?_
    ext <;> simp [Store.flagView, hflag]

/-- **What a change can do to a flag.** -/
theorem flag {s t : Site} (h : Change move s t) (hs : s.Sound) (flag : Nat) :
    (s.1.flagView flag).Step move flag (t.1.flagView flag) := by
  -- what arenas and cleaners run was registered, and so its flag exists
  cases h with
  | note e he =>
    exact .of_eq (Store.flagView_eq [e] rfl rfl (by simpa using Happening.still_of_isPlain he))
  | flagAdded => exact created_flag flag
  | marked marked hmove => exact marked_flag marked hmove flag
  | begun thread d hmove hknown => exact begun_flag thread d ⟨thread, hmove⟩ hknown flag
  | @attempted st k thread a n failures d rest hmove =>
    exact ran_flag thread ⟨.confined a, .plain, d⟩ (.attempting thread a d) rfl (fun _ => rfl) st rfl
      rfl hmove (hs.flags _ (hs.mem_of_sweeping rfl)) flag
  | @tookDisposal st k thread c token d cleaner hmove htake =>
    exact @ran_flag move st thread ⟨.auto c, .tracked c token, d⟩
      (.started thread c token (.dispose d)) rfl (fun _ => rfl) (st.modifyCleaner c fun _ => cleaner)
      rfl rfl (by simp [hmove]) (hs.flags _ (hs.mem_of_take htake)) flag
  | called => exact .of_eq (Store.flagView_eq [] (by simp) (by simp) (by simp))
  | entered thread d =>
    exact .of_eq (Store.flagView_eq [.destroying thread d] (by simp [Store.note]) (by simp)
      (by simp [Happening.Still]))
  | opened operation thread config =>
    exact .of_eq (Store.flagView_eq [.arenaOpened ..] rfl rfl (by simp [Happening.Still]))
  | accepted | swapped | abandoned | failed | swept | tracked | queued | received | tookSupplied
  | ended | panicked | asked =>
    exact .of_eq (Store.flagView_eq [_] rfl rfl (by simp [Happening.Still]))
  | _ => exact .of_eq (Store.flagView_eq [] rfl rfl (by simp))

end Change

/-! ### What holds of a flag -/

namespace FlagView

variable {move : Move} {flag : Nat} {v w : FlagView}

/-- Nothing has begun with a flag that does not exist, and a disposal that begins sets its
    flag. -/
structure Sound (v : FlagView) : Prop where
  unknown : ¬v.known → v.set = false ∧ v.begun = [] ∧ v.runs = []
  set : v.begun ≠ [] → v.set = true
  begun : (v.runs.map (·.disposal)).Sublist v.begun

theorem Step.sound (hstep : Step move flag v w) (h : v.Sound) : w.Sound := by
  cases hstep with
  | same => exact h
  | created => exact { h with unknown := fun hunknown => absurd trivial hunknown }
  | marked _ hknown => exact ⟨fun hunknown => absurd hknown hunknown, fun _ => rfl, h.begun⟩
  | began d _ _ hknown =>
    exact ⟨fun hunknown => absurd hknown hunknown, fun _ => rfl,
      h.begun.trans (List.sublist_append_left ..)⟩
  | ran e _ _ hknown =>
    refine ⟨fun hunknown => absurd hknown hunknown, fun _ => rfl, ?_⟩
    rw [List.map_append]
    exact h.begun.append (.refl _)

/-- What has happened stays: a flag is never taken back. -/
theorem Step.grows (hstep : Step move flag v w) :
    (v.known → w.known) ∧ (v.set = true → w.set = true) ∧ v.begun <+: w.begun ∧
      v.runs <+: w.runs := by
  cases hstep <;> simp

end FlagView

namespace Schedule

variable (σ : Schedule) (flag : Nat)

/-- What concerns a flag after the first `n` acts of a run. -/
def flagView (n : Nat) : FlagView := (σ.after n).store.flagView flag

/-- What every step of a flag keeps, an act keeps. -/
theorem flagView_keeps (I : FlagView → Prop) (n : Nat)
    (hstep : ∀ {i move v w}, σ n = .move i move → FlagView.Step move flag v w → I v → I w)
    (h : I (σ.flagView flag n)) : I (σ.flagView flag (n + 1)) := by
  have hall := @Machine.keeps (fun st k => Site.Sound (st, k) ∧ I (st.flagView flag))
    (σ.after n) (σ n) (fun hperm h => ⟨h.1.perm hperm, h.2⟩)
    (fun hact hchange h => ⟨hchange.sound h.1, hstep hact (hchange.flag h.1 flag) h.2⟩)
    ⟨σ.sound n, h⟩
  exact hall.2

theorem flagView_sound (n : Nat) : (σ.flagView flag n).Sound := by
  induction n with
  | zero =>
    refine ⟨fun _ => ⟨?_, rfl, rfl⟩, fun hbegun => absurd rfl hbegun, List.Sublist.refl _⟩
    simp [flagView, Store.flagView, Store.isDestroyed, after]
  | succ n ih => exact σ.flagView_keeps flag FlagView.Sound n (fun _ hstep h => hstep.sound h) ih

/-- What has happened to a flag stays. -/
theorem flagView_grows {n m : Nat} (hnm : n ≤ m) :
    ((σ.flagView flag n).known → (σ.flagView flag m).known) ∧
      ((σ.flagView flag n).set = true → (σ.flagView flag m).set = true) ∧
      (σ.flagView flag n).begun <+: (σ.flagView flag m).begun ∧
      (σ.flagView flag n).runs <+: (σ.flagView flag m).runs := by
  induction hnm with
  | refl => exact ⟨id, id, List.prefix_rfl, List.prefix_rfl⟩
  | @step m _ ih =>
    refine σ.flagView_keeps flag (fun v => ((σ.flagView flag n).known → v.known) ∧
      ((σ.flagView flag n).set = true → v.set = true) ∧ (σ.flagView flag n).begun <+: v.begun ∧
      (σ.flagView flag n).runs <+: v.runs) m (fun _ hstep h => ?_) ih
    obtain ⟨hknown, hset, hbegun, hruns⟩ := hstep.grows
    exact ⟨fun hold => hknown (h.1 hold), fun hold => hset (h.2.1 hold), h.2.2.1.trans hbegun,
      h.2.2.2.trans hruns⟩

end Schedule

end ForeignArena
