import ForeignArena.Proofs.Cleaners.View

namespace ForeignArena

/-!
# The life of tokens

Each action of a cleaner comes with a token, and until the action is taken out of the
live set, its token is at exactly one place: it still exists, or it waits in the queue, or
it was lost there with the thread, or its action is just being taken.

* `CleanerView.Sound` — this, with what it rests on;
* `CleanerView.Sound.pending` — a token that is at one of these places has its action in
  the live set;
* `CleanerView.Step.sound`, `Schedule.cleanerView_sound` — each change keeps it, so it holds
  throughout a run.
-/

/-! ### Taking actions out of the live set -/

/-- The tokens of the actions in the live set. -/
def Cleaner.keys (c : Cleaner) : List Nat := c.live.map Prod.fst

/-- An entry found under its key can be put in front of the others. -/
theorem lookup_perm {α : Type} {entries : List (Nat × α)} {key : Nat} {value : α}
    (hkeys : (entries.map Prod.fst).Nodup) (h : entries.lookup key = some value) :
    entries.Perm ((key, value) :: entries.filter fun entry => entry.1 != key) := by
  induction entries with
  | nil => cases h
  | cons entry rest ih =>
    obtain ⟨k, v⟩ := entry
    rw [List.map_cons, List.nodup_cons] at hkeys
    by_cases hk : key = k
    · -- the key does not come up again, so no other entry is left out
      subst hk
      simp only [List.lookup_cons_self, Option.some.injEq] at h
      subst h
      have hrest : (rest.filter fun entry => entry.1 != key) = rest := by
        refine List.filter_eq_self.mpr fun entry hentry => ?_
        have hne : entry.1 ≠ key := fun heq => hkeys.1 (List.mem_map.mpr ⟨entry, hentry, heq⟩)
        simpa using hne
      simp [hrest]
    · have hne : (key == k) = false := by simpa using hk
      have hlookup : rest.lookup key = some value := by
        rw [List.lookup_cons, hne] at h
        exact h
      have hfilter : ((k, v) :: rest).filter (fun entry => entry.1 != key) =
          (k, v) :: rest.filter fun entry => entry.1 != key := by
        simp [Ne.symm hk]
      rw [hfilter]
      exact ((ih hkeys.2 hlookup).cons (k, v)).trans (.swap ..)

namespace Cleaner

variable {c after : Cleaner} {token : Nat} {action : Action}

/-- Taking an action changes the live set only. -/
theorem take?_eq_some (h : c.take? token = some (after, action)) :
    after = { c with live := after.live } := by
  unfold take? at h
  cases hlookup : c.live.lookup token with
  | none => simp [hlookup] at h
  | some found =>
    simp only [hlookup, Option.map_some, Option.some.injEq, Prod.mk.injEq] at h
    rw [← h.1]

/-- The action that is taken was in the live set, and all others stay there. -/
theorem take?_perm (hkeys : c.keys.Nodup) (h : c.take? token = some (after, action)) :
    c.live.Perm ((token, action) :: after.live) := by
  unfold take? at h
  cases hlookup : c.live.lookup token with
  | none => simp [hlookup] at h
  | some found =>
    simp only [hlookup, Option.map_some, Option.some.injEq, Prod.mk.injEq] at h
    obtain ⟨rfl, rfl⟩ := h
    exact lookup_perm hkeys hlookup

/-- An action in the live set can be taken. -/
theorem take?_isSome (h : token ∈ c.keys) : (c.take? token).isSome := by
  obtain ⟨⟨key, action⟩, hmem, rfl⟩ := List.mem_map.mp h
  have hlookup : (c.live.lookup key).isSome := by
    generalize c.live = entries at hmem
    induction entries with
    | nil => cases hmem
    | cons entry rest ih =>
      rw [List.lookup_cons]
      split
      · rfl
      · next hne =>
        obtain rfl | hrest := List.mem_cons.mp hmem
        · simp at hne
        · exact ih hrest
  simpa [take?] using hlookup

/-- The waiting thread takes the front of its queue. -/
theorem dequeue?_eq_some (h : c.dequeue? = some (after, token)) :
    ∃ rest, c.phase = .waiting ∧ c.queue = token :: rest ∧
      after = { c with queue := rest, phase := .busy } := by
  unfold dequeue? at h
  split at h
  · next rest hphase hqueue =>
    cases h
    exact ⟨rest, hphase, hqueue, rfl⟩
  · cases h

end Cleaner

/-! ### The invariant -/

namespace CleanerView

/-- Where the tokens of a cleaner are. -/
structure Sound (v : CleanerView) : Prop where
  /-- A cleaner that was not made yet has nothing. -/
  unknown : ¬v.known → v.cleaner = .void ∧ v.taking = [] ∧ v.busy = 0 ∧ v.tracked = [] ∧
    v.started = []
  /-- Tokens are numbered as they come. -/
  numbered : v.tracked.map Prod.fst = List.range v.cleaner.nextId
  /-- Each action waits in the live set or has begun. -/
  divided : (v.cleaner.live ++ v.started).Perm v.tracked
  /-- While an action waits, its token is at exactly one place. -/
  custody : v.cleaner.keys.Perm
    (v.cleaner.tokens ++ v.cleaner.queue ++ v.cleaner.lost ++ v.taking)
  /-- The thread is busy with one action at most. -/
  busy : v.busy = if v.cleaner.phase = .busy then 1 else 0
  /-- Nothing is lost while the thread lives. -/
  lost : v.cleaner.lost ≠ [] → v.cleaner.phase = .dead
  /-- Nothing waits for a thread that has stopped or died. -/
  queue : v.cleaner.isReceiving = false → v.cleaner.queue = []
  /-- The thread does not stop while it is needed. -/
  needed : v.cleaner.tokens ≠ [] ∨ v.cleaner.held = true → v.cleaner.phase ≠ .stopped

variable {move : Move} {c : Nat} {v w : CleanerView}

/-- No token is given twice, neither to two actions that wait nor to one that began. -/
theorem Sound.nodup (h : v.Sound) : (v.cleaner.keys ++ v.started.map Prod.fst).Nodup := by
  have hperm := h.divided.map Prod.fst
  rw [List.map_append, h.numbered] at hperm
  exact hperm.nodup_iff.mpr List.nodup_range

theorem Sound.nodup_keys (h : v.Sound) : v.cleaner.keys.Nodup :=
  (List.nodup_append.mp h.nodup).1

/-- A token that has not yet come to its action has it in the live set. -/
theorem Sound.pending (h : v.Sound) {token : Nat}
    (htoken : token ∈ v.cleaner.tokens ++ v.cleaner.queue ++ v.cleaner.lost ++ v.taking) :
    (v.cleaner.take? token).isSome :=
  Cleaner.take?_isSome (h.custody.mem_iff.mpr htoken)

/-- And the action has not begun. -/
theorem Sound.not_started (h : v.Sound) {token : Nat}
    (htoken : token ∈ v.cleaner.tokens ++ v.cleaner.queue ++ v.cleaner.lost ++ v.taking)
    (action : Action) : (token, action) ∉ v.started := by
  intro hstarted
  have hkey := h.custody.mem_iff.mpr htoken
  exact (List.nodup_append.mp h.nodup).2.2 token hkey token (List.mem_map_of_mem hstarted) rfl

theorem Sound.count (h : v.Sound) (token : Nat) :
    v.cleaner.keys.count token = v.cleaner.tokens.count token + v.cleaner.queue.count token +
      v.cleaner.lost.count token + v.taking.count token := by
  simpa [Nat.add_assoc] using h.custody.count_eq token

/-- The thread is busy where its loop waits for an action, and the loop waits for one only. -/
theorem Sound.busy_once (h : v.Sound) {busy : Nat} (hbusy : v.busy = busy + 1) :
    v.cleaner.phase = .busy ∧ busy = 0 := by
  have hone := h.busy
  rw [hbusy] at hone
  split at hone
  · next hphase => exact ⟨hphase, Nat.succ.inj hone⟩
  · cases hone

/-- A cleaner whose thread has not stopped was made. -/
theorem Sound.known_of_phase (h : v.Sound) (hphase : v.cleaner.phase ≠ .stopped) : v.known := by
  refine Classical.byContradiction fun hunknown => hphase ?_
  rw [(h.unknown hunknown).1]
  rfl

/-- A cleaner that has a token was made. -/
theorem Sound.known_of_token (h : v.Sound) {token : Nat} (htoken : token ∈ v.cleaner.tokens) :
    v.known :=
  h.known_of_phase (h.needed (.inl (List.ne_nil_of_mem htoken)))

theorem Sound.not_lost (h : v.Sound) (hphase : v.cleaner.phase ≠ .dead) : v.cleaner.lost = [] :=
  Decidable.by_contra fun hlost => hphase (h.lost hlost)

/-! ### What changes keep -/

/-- A new cleaner has nothing. -/
theorem Sound.add (h : v.Sound) (hunknown : ¬v.known) (name : String) :
    Sound { v with known := True, cleaner := { threadName := name } } := by
  obtain ⟨-, htaking, hbusy, htracked, hstarted⟩ := h.unknown hunknown
  constructor <;> simp [htaking, hbusy, htracked, hstarted, Cleaner.keys]

/-- An action that is taken in waits in the live set, and its token is new. -/
theorem Sound.track (h : v.Sound) (hheld : v.cleaner.held = true) (action : Action) :
    Sound
      { v with
        cleaner := v.cleaner.track action
        tracked := v.tracked ++ [(v.cleaner.nextId, action)] } := by
  have hphase := h.needed (.inr hheld)
  refine { h with unknown := ?_, numbered := ?_, divided := ?_, custody := ?_, needed := ?_ }
  · exact fun hunknown => absurd (h.known_of_phase hphase) hunknown
  · simp [Cleaner.track_eq, h.numbered, List.range_succ]
  · refine List.Perm.trans ?_ (h.divided.append_right [(v.cleaner.nextId, action)])
    simp only [Cleaner.track_eq, List.append_assoc]
    exact (List.perm_append_comm).append_left _
  · -- the new token is counted once on both sides
    refine List.perm_iff_count.mpr fun token => ?_
    have hcount := h.count token
    simp only [Cleaner.keys] at hcount
    simp only [Cleaner.keys, Cleaner.track_eq, List.map_append, List.map_cons, List.map_nil,
      List.count_append]
    omega
  · exact fun _ => hphase

/-- A cleaner without handle is needed by its tokens only. -/
theorem Sound.release (h : v.Sound) : Sound { v with cleaner := v.cleaner.release } := by
  refine { h with unknown := fun hunknown => ?_, needed := fun hneeded => ?_ }
  · obtain ⟨hvoid, hrest⟩ := h.unknown hunknown
    exact ⟨by rw [hvoid]; rfl, hrest⟩
  · refine h.needed (.inl (hneeded.resolve_right ?_))
    simp [Cleaner.release]

/-- A thread stops only if nobody needs it. -/
theorem Sound.settle (h : v.Sound) : Sound { v with cleaner := v.cleaner.settle } := by
  unfold Cleaner.settle
  split
  · next hdone =>
    simp only [Bool.and_eq_true, beq_iff_eq, List.isEmpty_iff, Bool.not_eq_true'] at hdone
    obtain ⟨⟨⟨hphase, hqueue⟩, hheld⟩, htokens⟩ := hdone
    refine { h with unknown := ?_, busy := ?_, lost := ?_, queue := ?_, needed := ?_ }
    · exact fun hunknown => absurd (h.known_of_phase (by simp [hphase])) hunknown
    · simpa [hphase] using h.busy
    · exact fun hlost => absurd (h.not_lost (by simp [hphase])) hlost
    · exact fun _ => hqueue
    · simp [htokens, hheld]
  · exact h

/-- A token that is used up is about to come to its action. -/
theorem Sound.spend (h : v.Sound) {token : Nat} (htoken : token ∈ v.cleaner.tokens) :
    Sound { v with cleaner := v.cleaner.spend token, taking := token :: v.taking } := by
  refine { h with unknown := ?_, custody := ?_, needed := ?_ }
  · exact fun hunknown => absurd (h.known_of_token htoken) hunknown
  · -- it is counted once less among the tokens that exist, and once more among those being taken
    refine List.perm_iff_count.mpr fun other => ?_
    have hcount := h.count other
    have hone := (List.perm_cons_erase htoken).count_eq other
    simp only [Cleaner.keys] at hcount
    simp only [Cleaner.keys, Cleaner.spend, List.count_append, List.count_cons] at hone ⊢
    omega
  · exact fun _ => h.needed (.inl (List.ne_nil_of_mem htoken))

/-- A token that is dropped goes to the queue of a thread that receives. -/
theorem Sound.enqueue (h : v.Sound) {token : Nat} (htoken : token ∈ v.cleaner.tokens)
    (hreceiving : v.cleaner.isReceiving = true) :
    Sound { v with cleaner := (v.cleaner.spend token).enqueue token } := by
  refine { h with unknown := ?_, custody := ?_, queue := ?_, needed := ?_ }
  · exact fun hunknown => absurd (h.known_of_token htoken) hunknown
  · refine List.perm_iff_count.mpr fun other => ?_
    have hcount := h.count other
    have hone := (List.perm_cons_erase htoken).count_eq other
    simp only [Cleaner.keys] at hcount
    simp only [Cleaner.keys, Cleaner.spend, Cleaner.enqueue, List.count_append, List.count_cons,
      List.count_nil] at hone ⊢
    omega
  · intro hnot
    have hstays : ((v.cleaner.spend token).enqueue token).isReceiving = true := hreceiving
    rw [hstays] at hnot
    cases hnot
  · exact fun _ => h.needed (.inl (List.ne_nil_of_mem htoken))

/-- A token that is received leaves the queue, and the thread is busy with it. -/
theorem Sound.receive (h : v.Sound) {token : Nat} {cleaner : Cleaner}
    (hdequeue : v.cleaner.dequeue? = some (cleaner, token)) :
    Sound { v with cleaner, taking := token :: v.taking, busy := v.busy + 1 } := by
  obtain ⟨rest, hphase, hqueue, rfl⟩ := Cleaner.dequeue?_eq_some hdequeue
  refine { h with unknown := ?_, custody := ?_, busy := ?_, lost := ?_, queue := ?_, needed := ?_ }
  · exact fun hunknown => absurd (h.known_of_phase (by simp [hphase])) hunknown
  · refine List.perm_iff_count.mpr fun other => ?_
    have hcount := h.count other
    simp only [Cleaner.keys, hqueue, List.count_cons] at hcount
    simp only [Cleaner.keys, List.count_append, List.count_cons]
    omega
  · simpa [hphase] using h.busy
  · exact fun hlost => absurd (h.not_lost (by simp [hphase])) hlost
  · exact fun hnot => by cases hnot
  · exact fun _ hstopped => by cases hstopped

/-- An action that is taken leaves the live set, and has begun. -/
theorem Sound.take (h : v.Sound) {token : Nat} {action : Action} {cleaner : Cleaner}
    {taking : List Nat} (htaking : v.taking = token :: taking)
    (htake : v.cleaner.take? token = some (cleaner, action)) :
    Sound { v with cleaner, taking, started := v.started ++ [(token, action)] } := by
  have hperm := Cleaner.take?_perm h.nodup_keys htake
  rw [Cleaner.take?_eq_some htake]
  refine { h with unknown := ?_, divided := ?_, custody := ?_ }
  · intro hunknown
    rw [(h.unknown hunknown).2.1] at htaking
    cases htaking
  · -- the action goes from the front of one list to the end of the other
    refine List.Perm.trans ?_ ((hperm.append_right v.started).symm.trans h.divided)
    have hmove : (v.started ++ [(token, action)]).Perm ([(token, action)] ++ v.started) :=
      List.perm_append_comm
    exact (hmove.append_left cleaner.live).trans List.perm_middle
  · refine List.perm_iff_count.mpr fun other => ?_
    have hcount := h.count other
    have hone := (hperm.map Prod.fst).count_eq other
    simp only [Cleaner.keys, htaking, List.map_cons, List.count_cons] at hcount hone
    simp only [Cleaner.keys, List.count_append]
    omega

/-- A thread that is done with an action waits for the next. -/
theorem Sound.resume (h : v.Sound) {busy : Nat} (hbusy : v.busy = busy + 1) :
    Sound { v with cleaner := v.cleaner.resume, busy } := by
  obtain ⟨hphase, hzero⟩ := h.busy_once hbusy
  refine { h with unknown := ?_, busy := ?_, lost := ?_, queue := ?_, needed := ?_ }
  · exact fun hunknown => absurd (h.known_of_phase (by simp [hphase])) hunknown
  · simp [Cleaner.resume, hzero]
  · exact fun hlost => absurd (h.not_lost (by simp [hphase])) hlost
  · exact fun hnot => by cases hnot
  · exact fun _ hstopped => by cases hstopped

/-- What was queued is lost when the thread dies. -/
theorem Sound.die (h : v.Sound) {busy : Nat} (hbusy : v.busy = busy + 1) :
    Sound { v with cleaner := v.cleaner.die, busy } := by
  obtain ⟨hphase, hzero⟩ := h.busy_once hbusy
  refine { h with unknown := ?_, custody := ?_, busy := ?_, lost := ?_, queue := ?_, needed := ?_ }
  · exact fun hunknown => absurd (h.known_of_phase (by simp [hphase])) hunknown
  · -- nothing was lost before
    have hcustody := h.custody
    rw [h.not_lost (by simp [hphase])] at hcustody
    simpa [Cleaner.die, Cleaner.keys] using hcustody
  · simp [Cleaner.die, hzero]
  · exact fun _ => rfl
  · exact fun _ => rfl
  · exact fun _ hstopped => by cases hstopped

/-- **Each change keeps the tokens at their places.** -/
theorem Step.sound (hstep : Step move c v w) (h : v.Sound) : w.Sound := by
  cases hstep with
  | same => exact h
  | added name hunknown => exact h.add hunknown name
  | tracked operation action _ hheld => exact h.track hheld action
  | released => exact h.release
  | settled => exact h.settle
  | spent token _ htoken => exact h.spend (by simpa using htoken)
  | queued _ token _ htoken hreceiving => exact h.enqueue (by simpa using htoken) hreceiving
  | received token cleaner _ hdequeue => exact h.receive hdequeue
  | missed token taking htaking hnone =>
    -- what is about to be taken is there
    have hpending := @Sound.pending v h token (by simp [htaking])
    rw [hnone] at hpending
    cases hpending
  | took token action cleaner taking htaking htake => exact h.take htaking htake
  | finished hknown | failed hknown =>
    exact { h with unknown := fun hunknown => absurd hknown hunknown }
  | resumed busy hbusy => exact h.resume hbusy
  | died busy _ hbusy => exact h.die hbusy
  | vanished busy hunknown hbusy =>
    rw [(h.unknown hunknown).2.2.1] at hbusy
    cases hbusy

/-- Actions that have begun stay so. -/
theorem Step.grows (hstep : Step move c v w) : v.started <+: w.started := by
  cases hstep <;> simp

/-- A token stays until a move uses it up. -/
theorem Step.token_stays (hstep : Step move c v w) (h : v.Sound) {token : Nat}
    (htoken : token ∈ v.cleaner.tokens) (hmove : ¬move.Spends c token) :
    token ∈ w.cleaner.tokens := by
  have hspend {other : Nat} (hother : move.Spends c other) :
      token ∈ (v.cleaner.spend other).tokens := by
    have hne : token ≠ other := fun heq => hmove (heq ▸ hother)
    exact (List.mem_erase_of_ne hne).mpr htoken
  cases hstep with
  | added name hunknown =>
    rw [(h.unknown hunknown).1] at htoken
    cases htoken
  | tracked => exact List.mem_append_left _ htoken
  | settled =>
    unfold Cleaner.settle
    split <;> exact htoken
  | spent other hother => exact hspend hother
  | queued thread other hother => exact hspend ⟨thread, .inr hother⟩
  | received other cleaner _ hdequeue =>
    obtain ⟨rest, -, -, rfl⟩ := Cleaner.dequeue?_eq_some hdequeue
    exact htoken
  | took other action cleaner taking _ htake =>
    rw [Cleaner.take?_eq_some htake]
    exact htoken
  | _ => exact htoken

end CleanerView

/-! ### Runs -/

/-- In what order the frames stand does not matter. -/
theorem Site.cleaner_sound_perm {st : Store} {k k' : List Frame} {c : Nat} (hperm : k.Perm k')
    (h : (Site.cleanerView (st, k) c).Sound) : (Site.cleanerView (st, k') c).Sound := by
  have htaking := hperm.filterMap (Frame.takingOf? c)
  have hbusy := hperm.countP_eq (Frame.isReclaiming c)
  constructor
  case unknown =>
    intro hunknown
    obtain ⟨hvoid, hnone, hzero, htracked, hstarted⟩ := h.unknown hunknown
    refine ⟨hvoid, ?_, ?_, htracked, hstarted⟩
    · have hnone : k.filterMap (Frame.takingOf? c) = [] := hnone
      rw [hnone] at htaking
      exact htaking.symm.eq_nil
    · exact hbusy.symm.trans hzero
  case custody => exact h.custody.trans (htaking.append_left _)
  case busy => exact hbusy.symm.trans h.busy
  case numbered => exact h.numbered
  case divided => exact h.divided
  case lost => exact h.lost
  case queue => exact h.queue
  case needed => exact h.needed

namespace Schedule

variable (σ : Schedule) (c : Nat)

/-- What concerns a cleaner after the first `n` acts of a run. -/
def cleanerView (n : Nat) : CleanerView :=
  Site.cleanerView ((σ.after n).store, (σ.after n).frames) c

/-- The frames that are about to take an action show in the view of its cleaner. -/
theorem mem_taking {n token : Nat} : token ∈ (σ.cleanerView c n).taking ↔
    ∃ thread, .taking thread c token ∈ (σ.after n).frames := by
  constructor
  · intro hmem
    obtain ⟨f, hf, htoken⟩ := List.mem_filterMap.mp hmem
    cases f with
    | taking thread b other =>
      obtain ⟨rfl, rfl⟩ := Option.ite_none_right_eq_some.mp htoken |>.imp_right Option.some.inj
      exact ⟨thread, hf⟩
    | _ => cases htoken
  · rintro ⟨thread, hframe⟩
    exact List.mem_filterMap.mpr ⟨_, hframe, if_pos rfl⟩

theorem cleanerView_sound (n : Nat) : (σ.cleanerView c n).Sound := by
  refine @σ.always (fun st k => (Site.cleanerView (st, k) c).Sound) Site.cleaner_sound_perm
    (fun hchange => (hchange.cleaner c).sound) ?_ n
  constructor <;> simp [Site.cleanerView, Store.cleaner, Cleaner.keys, History.tracked,
    History.started, Cleaner.void]

/-- Actions that have begun stay so. -/
theorem started_grows {n m : Nat} (hnm : n ≤ m) :
    (σ.cleanerView c n).started <+: (σ.cleanerView c m).started :=
  @σ.stays (fun st _ => (σ.cleanerView c n).started <+: st.history.started c) n m hnm
    (fun _ h => h) (fun _ _ _ hchange hs => hs.trans (hchange.cleaner c).grows) List.prefix_rfl

/-- A token exists as long as no act uses it up. -/
theorem token_stays {n m token : Nat} (hnm : n ≤ m)
    (hmoves : ∀ l, n ≤ l → l < m → ∀ i move, σ l = .move i move → ¬move.Spends c token)
    (h : token ∈ ((σ.after n).store.cleaner c).tokens) :
    token ∈ ((σ.after m).store.cleaner c).tokens := by
  -- the invariant comes along: it says that a cleaner that is made has had no tokens before
  have hboth := @σ.stays (fun st k => (Site.cleanerView (st, k) c).Sound ∧
    token ∈ (st.cleaner c).tokens) n m hnm
    (fun hperm hs => ⟨Site.cleaner_sound_perm hperm hs.1, hs.2⟩)
    (fun hl hlm hact hchange hs => ⟨(hchange.cleaner c).sound hs.1,
      (hchange.cleaner c).token_stays hs.1 hs.2 (hmoves _ hl hlm _ _ hact)⟩)
    ⟨σ.cleanerView_sound c n, h⟩
  exact hboth.2

end Schedule

end ForeignArena
