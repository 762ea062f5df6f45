import ForeignArena.Proofs.Arenas.View

namespace ForeignArena

/-!
# The life of a scoped arena

An arena is opened once, accepts disposals while it is active, and is closed or
abandoned once.  Closing it hands its whole list to one closing, which turns to one
disposal after the other, until it ends or is cut short.

* `ArenaView.Sound` — at any moment the arena is unknown, active, closing, closed or
  abandoned, and each of these says where its disposals are;
* `ArenaView.Step.sound` — each change keeps this;
* `Schedule.arenaView_sound`, `Schedule.arenaView_done` — so it holds throughout a run, and
  an arena that is not active any more never is again.
-/

/-! ### The invariant -/

namespace ArenaView

/-- **The life of an arena.**  At any moment it is in one of five phases, and each says
    where the disposals are that the arena has accepted. -/
inductive Sound (v : ArenaView) : Prop where
  /-- The arena was not opened yet. -/
  | unknown : ¬v.known → v.arena.state = .closed → v.accepted = [] → v.attempted = [] →
    v.closings = [] → v.sweeps = [] → Sound v
  /-- The arena holds all that it has accepted. -/
  | active : v.known → v.arena.state = .active → v.accepted = v.arena.pending.toList →
    v.attempted = [] → v.closings = [] → v.sweeps = [] → Sound v
  /-- One closing runs the disposals in order. -/
  | closing (thread : ThreadId) (todo : List Disposal) : v.known → v.arena.state = .closed →
    v.arena.pending = #[] → v.closings = [thread] → v.sweeps = [todo] →
    v.attempted ++ todo = v.accepted → Sound v
  /-- The one closing has come to its end, or was cut short by a panic. -/
  | closed (thread : ThreadId) : v.known → v.arena.state = .closed → v.arena.pending = #[] →
    v.closings = [thread] → v.sweeps = [] → v.attempted <+: v.accepted → Sound v
  /-- The arena was dropped where it could not be closed. -/
  | abandoned : v.known → v.arena.state = .abandoned → v.accepted = v.arena.pending.toList →
    v.attempted = [] → v.closings = [] → v.sweeps = [] → Sound v

variable {move : Move} {a : Nat} {v w : ArenaView}

/-- Only an active arena is active. -/
theorem Sound.of_isActive (h : v.Sound) (hactive : v.arena.isActive) :
    v.known ∧ v.arena.state = .active ∧ v.accepted = v.arena.pending.toList ∧
      v.attempted = [] ∧ v.closings = [] ∧ v.sweeps = [] := by
  have hstate : v.arena.state = .active := by simpa [Arena.isActive] using hactive
  cases h with
  | active hknown _ haccepted hattempted hclosings hsweeps =>
    exact ⟨hknown, hstate, haccepted, hattempted, hclosings, hsweeps⟩
  | unknown _ hother | closing _ _ _ hother | closed _ _ hother | abandoned _ hother =>
    rw [hother] at hstate
    cases hstate

/-- A closing that has still something to do is the only one, and holds the rest of what
    the arena has accepted. -/
theorem Sound.of_sweeps {todo : List Disposal} {others : List (List Disposal)} (h : v.Sound)
    (hsweeps : v.sweeps = todo :: others) :
    v.known ∧ v.arena.state = .closed ∧ v.arena.pending = #[] ∧ others = [] ∧
      (∃ thread, v.closings = [thread]) ∧ v.attempted ++ todo = v.accepted := by
  cases h with
  | closing thread _ hknown hstate hpending hclosings hone hall =>
    rw [hsweeps] at hone
    cases hone
    exact ⟨hknown, hstate, hpending, rfl, ⟨thread, hclosings⟩, hall⟩
  | unknown _ _ _ _ _ hnone | active _ _ _ _ _ hnone | closed _ _ _ _ _ hnone
  | abandoned _ _ _ _ _ hnone =>
    rw [hsweeps] at hnone
    cases hnone

/-- **Each change keeps the life of an arena.** -/
theorem Step.sound (hstep : Step move a v w) (h : v.Sound) : w.Sound := by
  cases hstep with
  | same => exact h
  | opened operation confinement _ hunknown =>
    cases h with
    | unknown _ _ haccepted hattempted hclosings hsweeps =>
      exact .active trivial rfl haccepted hattempted hclosings hsweeps
    | active hknown | closing _ _ hknown | closed _ hknown | abandoned hknown =>
      exact absurd hknown hunknown
  | accepted operation d _ hactive =>
    obtain ⟨hknown, hstate, haccepted, hattempted, hclosings, hsweeps⟩ := h.of_isActive hactive
    refine .active hknown hstate ?_ hattempted hclosings hsweeps
    simp [Arena.accept, haccepted]
  | swapped thread _ hactive =>
    obtain ⟨hknown, -, haccepted, hattempted, hclosings, hsweeps⟩ := h.of_isActive hactive
    refine .closing thread v.arena.pending.toList hknown rfl rfl ?_ ?_ ?_
    · simp [hclosings]
    · simp [hsweeps]
    · simp [hattempted, haccepted]
  | abandoned hactive =>
    obtain ⟨hknown, -, haccepted, hattempted, hclosings, hsweeps⟩ := h.of_isActive hactive
    exact .abandoned hknown rfl haccepted hattempted hclosings hsweeps
  | attempted d rest others hfirst =>
    obtain ⟨hknown, hstate, hpending, rfl, ⟨thread, hclosings⟩, hall⟩ := h.of_sweeps hfirst
    refine .closing thread rest hknown hstate hpending hclosings rfl ?_
    simp [← hall]
  | cut todo others hfirst =>
    obtain ⟨hknown, hstate, hpending, rfl, ⟨thread, hclosings⟩, hall⟩ := h.of_sweeps hfirst
    exact .closed thread hknown hstate hpending hclosings rfl ⟨todo, hall⟩

/-- What an arena has run is a first part of what it has accepted. -/
theorem Sound.isPrefix (h : v.Sound) : v.attempted <+: v.accepted := by
  cases h with
  | unknown _ _ _ hattempted | active _ _ _ hattempted | abandoned _ _ _ hattempted =>
    rw [hattempted]
    exact List.nil_prefix
  | closing _ todo _ _ _ _ _ hall => exact ⟨todo, hall⟩
  | closed _ _ _ _ _ _ hprefix => exact hprefix

/-- An arena that was opened and is not active any more. -/
def Done (v : ArenaView) : Prop := v.known ∧ v.arena.state ≠ .active

/-- Once an arena is not active any more, it accepts nothing and is never closed. -/
theorem Step.done (hstep : Step move a v w) (h : v.Done) :
    w.Done ∧ w.accepted = v.accepted ∧ w.closings = v.closings := by
  have hinactive : ¬v.arena.isActive := by simpa [Arena.isActive] using h.2
  cases hstep with
  | same | attempted | cut => exact ⟨h, rfl, rfl⟩
  | opened _ _ _ hunknown => exact absurd h.1 hunknown
  | accepted _ _ _ hactive | swapped _ _ hactive | abandoned hactive => exact absurd hactive hinactive

/-- An arena that was opened exists. -/
theorem Step.known (hstep : Step move a v w) (h : v.known) : w.known := by
  cases hstep with
  | opened => trivial
  | _ => exact h

/-- An arena that is closed stays closed. -/
theorem Step.closed (hstep : Step move a v w) (hknown : v.known)
    (hclosed : v.arena.state = .closed) : w.known ∧ w.arena.state = .closed := by
  have hinactive : ¬v.arena.isActive := by simp [Arena.isActive, hclosed]
  cases hstep with
  | same | attempted | cut => exact ⟨hknown, hclosed⟩
  | opened _ _ _ hunknown => exact absurd hknown hunknown
  | accepted _ _ _ hactive | swapped _ _ hactive | abandoned hactive => exact absurd hactive hinactive

/-- Some frames are sound if all are. -/
theorem Sound.some_sweeps (h : v.Sound) {sweeps : List (List Disposal)}
    (hsome : sweeps.Sublist v.sweeps) : ({ v with sweeps } : ArenaView).Sound := by
  have hnone (hnil : v.sweeps = []) : sweeps = [] := by simpa [hnil] using hsome
  cases h with
  | unknown hunknown hstate haccepted hattempted hclosings hnil =>
    exact .unknown hunknown hstate haccepted hattempted hclosings (hnone hnil)
  | active hknown hstate haccepted hattempted hclosings hnil =>
    exact .active hknown hstate haccepted hattempted hclosings (hnone hnil)
  | closed thread hknown hstate hpending hclosings hnil hfirst =>
    exact .closed thread hknown hstate hpending hclosings (hnone hnil) hfirst
  | abandoned hknown hstate haccepted hattempted hclosings hnil =>
    exact .abandoned hknown hstate haccepted hattempted hclosings (hnone hnil)
  | closing thread todo hknown hstate hpending hclosings hone hall =>
    rw [hone] at hsome
    cases hsome with
    | cons _ hnil =>
      exact .closed thread hknown hstate hpending hclosings (List.sublist_nil.mp hnil) ⟨todo, hall⟩
    | cons_cons _ hnil =>
      rw [List.sublist_nil.mp hnil]
      exact .closing thread todo hknown hstate hpending hclosings rfl hall

/-- What has happened stays. -/
theorem Step.grows (hstep : Step move a v w) :
    v.accepted <+: w.accepted ∧ v.attempted <+: w.attempted ∧ v.closings <+: w.closings := by
  cases hstep <;> simp

end ArenaView

/-! ### Runs -/

/-- In what order the frames stand does not matter, as there is one closing at most. -/
theorem Site.sound_perm {st : Store} {k k' : List Frame} {a : Nat} (hperm : k.Perm k')
    (h : (Site.arenaView (st, k) a).Sound) : (Site.arenaView (st, k') a).Sound := by
  have hsweeps := hperm.filterMap (Frame.todoOf? a)
  have hone : (k.filterMap (Frame.todoOf? a)).length ≤ 1 := by
    cases h with
    | closing _ _ _ _ _ _ hone _ =>
      simp only [arenaView] at hone
      simp [hone]
    | unknown _ _ _ _ _ hnone | active _ _ _ _ _ hnone | closed _ _ _ _ _ hnone
    | abandoned _ _ _ _ _ hnone =>
      simp only [arenaView] at hnone
      simp [hnone]
  have heq : Site.arenaView (st, k') a = Site.arenaView (st, k) a := by
    have hsame : k'.filterMap (Frame.todoOf? a) = k.filterMap (Frame.todoOf? a) := by
      cases hk : k.filterMap (Frame.todoOf? a) with
      | nil =>
        rw [hk] at hsweeps
        exact hsweeps.symm.eq_nil
      | cons todo rest =>
        have hrest : rest = [] := by
          rw [hk, List.length_cons] at hone
          exact List.length_eq_zero_iff.mp (by omega)
        rw [hk, hrest] at hsweeps
        rw [hrest]
        exact hsweeps.symm.eq_singleton
    rw [arenaView, arenaView, hsame]
  rw [heq]
  exact h

namespace Schedule

variable (σ : Schedule) (a : Nat)

/-- What concerns an arena after the first `n` acts of a run. -/
def arenaView (n : Nat) : ArenaView := Site.arenaView ((σ.after n).store, (σ.after n).frames) a

theorem arenaView_sound (n : Nat) : (σ.arenaView a n).Sound := by
  refine @σ.always (fun st k => (Site.arenaView (st, k) a).Sound) Site.sound_perm
    (fun hchange => (hchange.arena a).sound) ?_ n
  exact .unknown (by simp [Site.arenaView]) rfl rfl rfl rfl rfl

/-- What waits in one strand is sound for itself. -/
theorem strandView_sound {n i : Nat} {strand : Strand}
    (h : (σ.after n).strands[i]? = some strand) :
    (Site.arenaView ((σ.after n).store, strand.stack) a).Sound := by
  refine (σ.arenaView_sound a n).some_sweeps ?_
  have hmem : strand.stack ∈ (σ.after n).strands.map (·.stack) :=
    List.mem_map_of_mem (List.mem_of_getElem? h)
  exact (List.sublist_flatten_of_mem hmem).filterMap _

/-- What has happened to an arena stays. -/
theorem arenaView_grows {n m : Nat} (hnm : n ≤ m) :
    (σ.arenaView a n).accepted <+: (σ.arenaView a m).accepted ∧
      (σ.arenaView a n).attempted <+: (σ.arenaView a m).attempted := by
  refine @σ.stays (fun st _ => (σ.arenaView a n).accepted <+: st.history.accepted a ∧
    (σ.arenaView a n).attempted <+: st.history.attempted a) n m hnm (fun _ h => h)
    (fun _ _ _ hchange hs => ?_) ⟨List.prefix_rfl, List.prefix_rfl⟩
  obtain ⟨haccepted, hattempted, -⟩ := (hchange.arena a).grows
  exact ⟨hs.1.trans haccepted, hs.2.trans hattempted⟩

/-- An arena that was opened and is closed stays so. -/
theorem arenaView_closed {n m : Nat} (hnm : n ≤ m) (hknown : (σ.arenaView a n).known)
    (hclosed : (σ.arenaView a n).arena.state = .closed) :
    (σ.arenaView a m).known ∧ (σ.arenaView a m).arena.state = .closed :=
  @σ.stays (fun st k => (Site.arenaView (st, k) a).known ∧
    (Site.arenaView (st, k) a).arena.state = .closed) n m hnm (fun _ h => h)
    (fun _ _ _ hchange hs => (hchange.arena a).closed hs.1 hs.2) ⟨hknown, hclosed⟩

/-- An arena that was opened exists ever since. -/
theorem arenaView_known {n m : Nat} (hnm : n ≤ m) (hknown : (σ.arenaView a n).known) :
    (σ.arenaView a m).known :=
  @σ.stays (fun st k => (Site.arenaView (st, k) a).known) n m hnm (fun _ h => h)
    (fun _ _ _ hchange hs => (hchange.arena a).known hs) hknown

/-- An arena that is not active any more stays so, and accepts nothing. -/
theorem arenaView_done {n m : Nat} (hnm : n ≤ m) (h : (σ.arenaView a n).Done) :
    (σ.arenaView a m).Done ∧ (σ.arenaView a m).accepted = (σ.arenaView a n).accepted ∧
      (σ.arenaView a m).closings = (σ.arenaView a n).closings := by
  refine @σ.stays (fun st k => (Site.arenaView (st, k) a).Done ∧
    (Site.arenaView (st, k) a).accepted = (σ.arenaView a n).accepted ∧
    (Site.arenaView (st, k) a).closings = (σ.arenaView a n).closings) n m hnm (fun _ h => h)
    (fun _ _ _ hchange hs => ?_) ⟨h, rfl, rfl⟩
  obtain ⟨hdone, haccepted, hclosings⟩ := (hchange.arena a).done hs.1
  exact ⟨hdone, haccepted.trans hs.2.1, hclosings.trans hs.2.2⟩

end Schedule

end ForeignArena
