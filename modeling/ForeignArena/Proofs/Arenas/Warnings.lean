import ForeignArena.Proofs.Arenas.Sweeps
import ForeignArena.Proofs.Turns

namespace ForeignArena

/-!
# What is reported of a scoped arena

A closing warns of each disposal that has failed, as soon as that is known, and in the end reports
how many there were.  An arena that is abandoned is reported instead.  Nothing else is ever
reported of an arena, so that each warning belongs to one disposal of its one closing.

* `History.leaks`, `History.closures` — the warnings, and the reports on the end of an arena;
* `Site.Warns`, `Change.warns` — what a change can report;
* `Site.Reported`, `Schedule.reported` — a closing in progress has warned of the failures that it
  has collected;
* `Schedule.reports_stay` — and after it nothing is reported any more;
* `Schedule.Sweeps.warned` — so a closing warns of all that have failed, and of nothing else.
-/

/-- The warning that a disposal of an arena has failed in its closing. -/
@[simp]
def Happening.leakOf? (a : Nat) : Happening → Option Happening
  | leaked thread b e => if b = a then some (leaked thread b e) else none
  | _ => none

/-- The report on the end of an arena: that it was closed, or abandoned. -/
@[simp]
def Happening.closureOf? (a : Nat) : Happening → Option Happening
  | arenaClosed thread b n k => if b = a then some (arenaClosed thread b n k) else none
  | arenaAbandoned thread b confinement n =>
    if b = a then some (arenaAbandoned thread b confinement n) else none
  | _ => none

namespace History

/-- The warnings of disposals that have failed in closings of an arena. -/
def leaks (h : History) (a : Nat) : List Happening := h.pick (Happening.leakOf? a)

/-- The reports on the end of an arena. -/
def closures (h : History) (a : Nat) : List Happening := h.pick (Happening.closureOf? a)

theorem leaks_cons (e : Happening) (h : History) (a : Nat) :
    leaks (e :: h) a = leaks h a ++ (e.leakOf? a).toList :=
  pick_cons e h _

theorem closures_cons (e : Happening) (h : History) (a : Nat) :
    closures (e :: h) a = closures h a ++ (e.closureOf? a).toList :=
  pick_cons e h _

end History

/-- Happenings that report nothing of an arena. -/
def Happening.Discreet (a : Nat) (e : Happening) : Prop :=
  e.leakOf? a = none ∧ e.closureOf? a = none

theorem Happening.discreet_of_isPlain {e : Happening} (h : e.isPlain) (a : Nat) : e.Discreet a := by
  cases e <;> first | exact ⟨rfl, rfl⟩ | cases h

/-! ### What a change can report -/

/-- The frames of closings of an arena were there before, with less done maybe. -/
def SweepsKept (a : Nat) (k k' : List Frame) : Prop :=
  ∀ thread n failures todo, .sweeping thread a n failures todo ∈ k' →
    ∃ before, .sweeping thread a n failures before ∈ k

namespace SweepsKept

variable {a : Nat} {k k' : List Frame}

theorem refl (a : Nat) (k : List Frame) : SweepsKept a k k :=
  fun _ _ _ todo hmem => ⟨todo, hmem⟩

/-- A frame that is none of them is pushed. -/
theorem push {f : Frame} (h : SweepsKept a k k') (hf : f.todoOf? a = none) :
    SweepsKept a k (f :: k') := by
  intro thread n failures todo hmem
  refine h thread n failures todo ((List.mem_cons.mp hmem).resolve_left fun heq => ?_)
  rw [← heq] at hf
  simp [Frame.todoOf?] at hf

/-- A frame has gone. -/
theorem pop (h : SweepsKept a k k') (f : Frame) : SweepsKept a (f :: k) k' := by
  intro thread n failures todo hmem
  obtain ⟨before, hbefore⟩ := h thread n failures todo hmem
  exact ⟨before, List.mem_cons_of_mem f hbefore⟩

/-- A closing has turned to the next disposal. -/
theorem turn (h : SweepsKept a k k') (thread : ThreadId) (b n : Nat)
    (failures : List DisposalError) (d : Disposal) (rest : List Disposal) :
    SweepsKept a (.sweeping thread b n failures (d :: rest) :: k)
      (.sweeping thread b n failures rest :: k') := by
  intro _ _ _ _ hmem
  obtain heq | hmem := List.mem_cons.mp hmem
  · cases heq
    exact ⟨d :: rest, List.mem_cons_self ..⟩
  · exact h.pop _ _ _ _ _ hmem

end SweepsKept

namespace Site

/-- What a change can report of an arena. -/
inductive Warns (a : Nat) (s t : Site) : Prop where
  | nothing : t.1.history.leaks a = s.1.history.leaks a →
    t.1.history.closures a = s.1.history.closures a → SweepsKept a s.2 t.2 → Warns a s t
  /-- The arena was closed, and nothing is reported yet. -/
  | began (thread : ThreadId) (n : Nat) (todo : List Disposal) : (s.1.arena a).isActive →
    t.1.history.leaks a = s.1.history.leaks a →
    t.1.history.closures a = s.1.history.closures a →
    t.2 = .sweeping thread a n [] todo :: s.2 → Warns a s t
  /-- A closing in progress has warned of a failure, and has collected it. -/
  | leaked (thread : ThreadId) (n : Nat) (failures : List DisposalError) (todo : List Disposal)
      (e : DisposalError) (k : List Frame) : s.2 = .sweeping thread a n failures todo :: k →
    t.1.history.leaks a = s.1.history.leaks a ++ [.leaked thread a e] →
    t.1.history.closures a = s.1.history.closures a →
    t.2 = .sweeping thread a n (failures ++ [e]) todo :: k → Warns a s t
  /-- A closing has come to its end, or the arena was abandoned. -/
  | closed (thread : ThreadId) (n : Nat) (failures : List DisposalError) (k : List Frame) :
    s.2 = .sweeping thread a n failures [] :: k → t.2 = k → Warns a s t
  | abandoned : (s.1.arena a).isActive → (t.arenaView a).Done → t.2 = s.2 → Warns a s t

/-- Discreet happenings, and frames of closings that were there before. -/
theorem Warns.of_news {s t : Site} {a : Nat} (news : List Happening)
    (hhistory : t.1.history = news ++ s.1.history) (hnews : ∀ e ∈ news, e.Discreet a)
    (hframes : SweepsKept a s.2 t.2) : Warns a s t :=
  .nothing (History.pick_append_of_none hhistory fun e he => (hnews e he).1)
    (History.pick_append_of_none hhistory fun e he => (hnews e he).2) hframes

end Site

namespace Change

variable {move : Move} {s t : Site} {a : Nat}

/-- **What a change can report of an arena.** -/
theorem warns (h : Change move s t) (a : Nat) : s.Warns a t := by
  have hsame (k : List Frame) : SweepsKept a k k := .refl a k
  cases h with
  | push f hf =>
    exact .of_news [] rfl (by simp) ((hsame _).push (Frame.todoOf?_of_isPlain hf a))
  | note e he =>
    exact .of_news [e] rfl (by simpa using Happening.discreet_of_isPlain he a) (hsame _)
  | swapped thread b _ _ hactive =>
    by_cases hab : b = a
    · subst hab
      exact .began thread _ _ hactive (by simp [History.leaks_cons])
        (by simp [History.closures_cons]) rfl
    · exact .of_news [.closing thread b] rfl (by simp [Happening.Discreet])
        ((hsame _).push (by simp [Frame.todoOf?, hab]))
  | abandoned thread b _ _ hactive =>
    by_cases hab : b = a
    · subst hab
      have hb := known_of_isActive hactive
      refine .abandoned hactive ⟨?_, ?_⟩ rfl
      · simpa [Site.arenaView] using hb
      · simp [Site.arenaView, Store.arena_modifyArena, hb, Arena.abandon]
    · exact .of_news [.arenaAbandoned thread b _ _] rfl (by simp [Happening.Discreet, hab])
        (hsame _)
  | attempted thread b n failures d rest =>
    -- the frame of the closing holds one disposal less
    exact .of_news [.began thread d, .attempting thread b d] rfl (by simp [Happening.Discreet])
      ((((hsame _).turn thread b n failures d rest).push rfl).push rfl)
  | failed thread b n failures todo e =>
    by_cases hab : b = a
    · subst hab
      exact .leaked thread n failures todo e _ rfl (by simp [History.leaks_cons])
        (by simp [History.closures_cons]) rfl
    · exact .of_news [.leaked thread b e] rfl (by simp [Happening.Discreet, hab])
        (((hsame _).pop _).push (by simp [Frame.todoOf?, hab]))
  | swept thread b n failures =>
    by_cases hab : b = a
    · subst hab
      exact .closed thread n failures _ rfl rfl
    · exact .of_news [.arenaClosed thread b n failures.length] rfl
        (by simp [Happening.Discreet, hab]) ((hsame _).pop _)
  | entered thread d =>
    exact .of_news [.destroying thread d] (by simp) (by simp [Happening.Discreet])
      (((hsame _).pop _).push rfl)
  | called => exact .of_news [] (by simp) (by simp) (hsame _)
  | begun thread d =>
    exact .of_news [.began thread d] rfl (by simp [Happening.Discreet]) ((hsame _).push rfl)
  | spent => exact .of_news [] rfl (by simp) ((hsame _).push rfl)
  | received thread c token =>
    exact .of_news [.received c token] rfl (by simp [Happening.Discreet])
      (((hsame _).push rfl).push rfl)
  | tookSupplied thread c token tag =>
    exact .of_news [.started thread c token (.supplied tag)] rfl (by simp [Happening.Discreet])
      (((hsame _).pop _).push rfl)
  | tookDisposal thread c token d =>
    exact .of_news [.began thread d, .started thread c token (.dispose d)] rfl
      (by simp [Happening.Discreet]) (((((hsame _).pop _).push rfl).push rfl).push rfl)
  | ended | panicked =>
    exact .of_news [_] rfl (by simp [Happening.Discreet]) ((hsame _).pop _)
  | pop | missed | resumed | died => exact .of_news [] rfl (by simp) ((hsame _).pop _)
  | asked | opened | accepted | tracked | queued =>
    exact .of_news [_] rfl (by simp [Happening.Discreet]) (hsame _)
  | _ => exact .of_news [] rfl (by simp) (hsame _)

end Change

/-! ### What was reported -/

/-- What was reported of an arena: nothing before it is closed or abandoned, and as long as a
    closing goes on, the failures that it has collected. -/
structure Site.Reported (s : Site) (a : Nat) : Prop where
  fresh : ¬(s.arenaView a).Done → s.1.history.leaks a = [] ∧ s.1.history.closures a = []
  sweeping : ∀ thread n failures todo, .sweeping thread a n failures todo ∈ s.2 →
    s.1.history.leaks a = failures.map (.leaked thread a) ∧ s.1.history.closures a = []

namespace Site

variable {s t : Site} {a : Nat}

/-- An arena has no closing in progress if none of its closings has anything to do. -/
theorem not_sweeping {k : List Frame} (hnone : k.filterMap (Frame.todoOf? a) = [])
    {thread : ThreadId} {n : Nat} {failures : List DisposalError} {todo : List Disposal} :
    .sweeping thread a n failures todo ∉ k := by
  intro hmem
  have htodo : todo ∈ k.filterMap (Frame.todoOf? a) :=
    List.mem_filterMap.mpr ⟨_, hmem, by simp [Frame.todoOf?]⟩
  rw [hnone] at htodo
  cases htodo

/-- The frame of a closing is the only one, and the arena is not active any more. -/
theorem sweeping_alone {st : Store} {k : List Frame} {thread : ThreadId} {n : Nat}
    {failures : List DisposalError} {todo : List Disposal}
    (h : (arenaView (st, .sweeping thread a n failures todo :: k) a).Sound) :
    (arenaView (st, .sweeping thread a n failures todo :: k) a).Done ∧
      k.filterMap (Frame.todoOf? a) = [] := by
  have hsweeps : (arenaView (st, .sweeping thread a n failures todo :: k) a).sweeps =
      todo :: k.filterMap (Frame.todoOf? a) := by simp [arenaView, Frame.todoOf?]
  obtain ⟨hknown, hstate, -, hnone, -⟩ := h.of_sweeps hsweeps
  exact ⟨⟨hknown, by simp [hstate]⟩, hnone⟩

theorem not_done_of_isActive (hactive : (s.1.arena a).isActive) : ¬(s.arenaView a).Done :=
  fun hdone => hdone.2 (Arena.isActive_iff.mp hactive)

/-- **Each change keeps what was reported as it should be.** -/
theorem Reported.step {move : Move} (h : s.Reported a) (hsound : (s.arenaView a).Sound)
    (hchange : Change move s t) : t.Reported a := by
  obtain ⟨st, k⟩ := s
  obtain ⟨st', k'⟩ := t
  have hdone (hs : (arenaView (st, k) a).Done) : (arenaView (st', k') a).Done :=
    ((hchange.arena a).done hs).1
  have hfresh (hactive : (st.arena a).isActive) : st.history.leaks a = [] ∧
      st.history.closures a = [] ∧ k.filterMap (Frame.todoOf? a) = [] := by
    obtain ⟨hleaks, hclosures⟩ := h.fresh (not_done_of_isActive hactive)
    exact ⟨hleaks, hclosures, (hsound.of_isActive hactive).2.2.2.2.2⟩
  cases hchange.warns a with
  | nothing hleaks hclosures hframes =>
    refine ⟨fun hnot => ?_, fun thread n failures todo hmem => ?_⟩
    · rw [hleaks, hclosures]
      exact h.fresh fun hs => hnot (hdone hs)
    · obtain ⟨before, hbefore⟩ := hframes thread n failures todo hmem
      rw [hleaks, hclosures]
      exact h.sweeping thread n failures before hbefore
  | began thread n todo hactive hleaks hclosures hframes =>
    obtain ⟨hnoLeaks, hnoClosures, hnone⟩ := hfresh hactive
    dsimp only at hleaks hclosures hframes
    rw [hnoLeaks] at hleaks
    rw [hnoClosures] at hclosures
    refine ⟨fun _ => ⟨hleaks, hclosures⟩, fun _ _ failures _ hmem => ?_⟩
    -- the frame of the closing that has just begun has no failures
    rw [hframes] at hmem
    obtain heq | hmem := List.mem_cons.mp hmem
    · cases heq
      exact ⟨hleaks, hclosures⟩
    · exact absurd hmem (not_sweeping hnone)
  | leaked thread n failures todo e below hbefore hleaks hclosures hframes =>
    dsimp only at hbefore hleaks hclosures hframes
    subst hbefore
    obtain ⟨hover, hnone⟩ := sweeping_alone hsound
    obtain ⟨hcollected, hnoClosures⟩ := h.sweeping thread n failures todo (List.mem_cons_self ..)
    refine ⟨fun hnot => absurd (hdone hover) hnot, fun _ _ _ _ hmem => ?_⟩
    rw [hframes] at hmem
    obtain heq | hmem := List.mem_cons.mp hmem
    · cases heq
      refine ⟨?_, hclosures.trans hnoClosures⟩
      rw [List.map_append, ← hcollected]
      exact hleaks
    · exact absurd hmem (not_sweeping hnone)
  | closed thread n failures below hbefore hframes =>
    dsimp only at hbefore hframes
    subst hbefore hframes
    obtain ⟨hover, hnone⟩ := sweeping_alone hsound
    exact ⟨fun hnot => absurd (hdone hover) hnot, fun _ _ _ _ hmem =>
      absurd hmem (not_sweeping hnone)⟩
  | abandoned hactive hover hframes =>
    obtain ⟨-, -, hnone⟩ := hfresh hactive
    dsimp only at hframes
    subst hframes
    exact ⟨fun hnot => absurd hover hnot, fun _ _ _ _ hmem => absurd hmem (not_sweeping hnone)⟩

/-- Of an arena that is over, one that is not active any more and has no closing in progress,
    nothing is reported any more. -/
theorem over_step {move : Move} (hchange : Change move s t)
    (hover : (s.arenaView a).Done ∧ (s.arenaView a).sweeps = []) :
    ((t.arenaView a).Done ∧ (t.arenaView a).sweeps = []) ∧
      t.1.history.leaks a = s.1.history.leaks a ∧ t.1.history.closures a = s.1.history.closures a := by
  obtain ⟨hdone, hnone⟩ := hover
  have hinactive : ¬(s.1.arena a).isActive := fun hactive => not_done_of_isActive hactive hdone
  have hsweeps : (t.arenaView a).sweeps = [] := by
    have hstep := hchange.arena a
    generalize t.arenaView a = w at hstep
    cases hstep with
    | same | accepted | opened | abandoned => exact hnone
    | swapped _ _ hactive => exact absurd hactive hinactive
    | attempted _ _ _ hsome | cut _ _ hsome => rw [hnone] at hsome; cases hsome
  have hnot {thread : ThreadId} {n : Nat} {failures : List DisposalError} {todo : List Disposal} :
      .sweeping thread a n failures todo ∉ s.2 := not_sweeping hnone
  refine ⟨⟨((hchange.arena a).done hdone).1, hsweeps⟩, ?_⟩
  cases hchange.warns a with
  | nothing hleaks hclosures => exact ⟨hleaks, hclosures⟩
  | began _ _ _ hactive | abandoned hactive => exact absurd hactive hinactive
  | leaked thread n failures todo e below hbefore =>
    exact absurd (hbefore ▸ List.mem_cons_self ..) hnot
  | closed thread n failures below hbefore =>
    exact absurd (hbefore ▸ List.mem_cons_self ..) hnot

end Site

/-! ### Runs -/

namespace Schedule

variable {σ : Schedule} {a n m : Nat}

/-- The warnings of disposals that have failed in closings of an arena before moment `n`. -/
def leaks (σ : Schedule) (a n : Nat) : List Happening := (σ.after n).store.history.leaks a

/-- The reports on the end of an arena before moment `n`. -/
def closures (σ : Schedule) (a n : Nat) : List Happening := (σ.after n).store.history.closures a

theorem reported (σ : Schedule) (a n : Nat) :
    Site.Reported ((σ.after n).store, (σ.after n).frames) a := by
  have hboth := @σ.always (fun st k => (Site.arenaView (st, k) a).Sound ∧ Site.Reported (st, k) a)
    (fun hperm hs => ⟨Site.sound_perm hperm hs.1, hs.2.fresh, fun thread l failures todo hmem =>
      hs.2.sweeping thread l failures todo (hperm.mem_iff.mpr hmem)⟩)
    (fun hchange hs => ⟨(hchange.arena a).sound hs.1, hs.2.step hs.1 hchange⟩)
    ⟨σ.arenaView_sound a 0, fun _ => ⟨rfl, rfl⟩, fun _ _ _ _ hmem => by cases hmem⟩ n
  exact hboth.2

/-- What a closing that waits in some strand has reported. -/
theorem reported_of_sweeping {i : Nat} {strand : Strand}
    (hstrand : (σ.after n).strands[i]? = some strand) {thread : ThreadId} {k : Nat}
    {failures : List DisposalError} {todo : List Disposal}
    (hmem : .sweeping thread a k failures todo ∈ strand.stack) :
    σ.leaks a n = failures.map (.leaked thread a) ∧ σ.closures a n = [] :=
  (σ.reported a n).sweeping thread k failures todo
    (List.mem_flatMap.mpr ⟨strand, List.mem_of_getElem? hstrand, hmem⟩)

/-- An active arena has reported nothing. -/
theorem reported_of_isActive (hactive : ((σ.after n).store.arena a).isActive) :
    σ.leaks a n = [] ∧ σ.closures a n = [] :=
  (σ.reported a n).fresh (Site.not_done_of_isActive hactive)

/-- **An arena that has reported its end reports nothing more.** -/
theorem reports_stay (hnm : n ≤ m) (hended : σ.closures a n ≠ []) :
    σ.leaks a m = σ.leaks a n ∧ σ.closures a m = σ.closures a n := by
  have hreported := σ.reported a n
  have hdone : (σ.arenaView a n).Done :=
    Classical.byContradiction fun hnot => hended (hreported.fresh hnot).2
  have hnone : (σ.arenaView a n).sweeps = [] := by
    refine List.eq_nil_iff_forall_not_mem.mpr fun todo htodo => ?_
    -- a closing in progress has not reported its end
    obtain ⟨f, hf, hsome⟩ := List.mem_filterMap.mp htodo
    cases f with
    | sweeping thread b k failures rest =>
      obtain ⟨rfl, rfl⟩ : b = a ∧ rest = todo := by simpa [Frame.todoOf?] using hsome
      exact hended (hreported.sweeping thread k failures rest hf).2
    | _ => cases hsome
  have hall := @σ.stays (fun st k => ((Site.arenaView (st, k) a).Done ∧
      (Site.arenaView (st, k) a).sweeps = []) ∧ st.history.leaks a = σ.leaks a n ∧
      st.history.closures a = σ.closures a n) n m hnm
    (fun {st k k'} hperm hs => ⟨⟨hs.1.1, ?_⟩, hs.2⟩) (fun _ _ _ hchange hs => ?_)
    ⟨⟨hdone, hnone⟩, rfl, rfl⟩
  · exact hall.2
  · have hsweeps : k.filterMap (Frame.todoOf? a) = [] := hs.1.2
    have hperm := hperm.filterMap (Frame.todoOf? a)
    rw [hsweeps] at hperm
    exact hperm.symm.eq_nil
  · obtain ⟨hover, hleaks, hclosures⟩ := Site.over_step hchange hs.1
    exact ⟨hover, hleaks.trans hs.2.1, hclosures.trans hs.2.2⟩

end Schedule

/-! ### Closings -/

namespace System

variable (s : System) (thread : ThreadId) (a : Nat)

/-- A closing that begins reports nothing. -/
theorem leaks_swap : (s.swap thread a).store.history.leaks a = s.store.history.leaks a :=
  (History.leaks_cons ..).trans (List.append_nil _)

theorem closures_swap : (s.swap thread a).store.history.closures a = s.store.history.closures a :=
  (History.closures_cons ..).trans (List.append_nil _)

/-- A closing that takes note of a failure warns of it. -/
theorem leaks_record (r : Except DisposalError Unit) :
    (s.record thread a r).store.history.leaks a =
      s.store.history.leaks a ++ (failures [r]).map (.leaked thread a) := by
  cases r with
  | ok _ => exact (List.append_nil _).symm
  | error e =>
    refine (History.leaks_cons ..).trans ?_
    rw [Happening.leakOf?, if_pos rfl]
    rfl

theorem closures_record (r : Except DisposalError Unit) :
    (s.record thread a r).store.history.closures a = s.store.history.closures a := by
  cases r with
  | ok _ => rfl
  | error e => exact (History.closures_cons ..).trans (List.append_nil _)

/-- When it goes on, it warns of nothing. -/
theorem leaks_sweep (n : Nat) (errors : List DisposalError) (todo : List Disposal) :
    (s.sweep thread a n errors todo).store.history.leaks a = s.store.history.leaks a := by
  have hnote {t : System} {e : Happening} (he : e.leakOf? a = none) :
      (t.note e).store.history.leaks a = t.store.history.leaks a := by
    refine (History.leaks_cons ..).trans ?_
    rw [he]
    exact List.append_nil _
  cases todo with
  | nil =>
    unfold sweep
    dsimp only
    split <;> exact hnote rfl
  | cons d rest =>
    have hquiet := (((s.note (.attempting thread a d)).push
      (.sweeping thread a n errors rest)).disposeGuarded_quiet thread d).store
    refine (hquiet.pick fun e he => ?_).trans (hnote (e := .attempting thread a d) rfl)
    cases e <;> first | rfl | cases he

theorem leaks_resumeSweep (n : Nat) (errors : List DisposalError) (todo : List Disposal)
    (r : Except DisposalError Unit) :
    (s.resumeSweep thread a n errors todo r).store.history.leaks a =
      s.store.history.leaks a ++ (failures [r]).map (.leaked thread a) := by
  rw [← leaks_record s thread a r]
  cases r with
  | ok _ => exact leaks_sweep s thread a n errors todo
  | error e => exact leaks_sweep (s.note (.leaked thread a e)) thread a n (errors ++ [e]) todo

end System

namespace Schedule

variable {σ : Schedule} {a n m i k : Nat} {thread : ThreadId} {low : List Frame} {s : System}
  {done results : List (Except DisposalError Unit)} {todo : List Disposal}

/-- **A closing warns of all disposals that have failed**, and in the end reports how many there
    were. -/
theorem Sweeps.warned (h : σ.Sweeps i thread a k low n s done todo results m)
    (hleaks : s.store.history.leaks a = (failures done).map (.leaked thread a))
    (hclosures : s.store.history.closures a = []) :
    σ.leaks a m = (failures (done ++ results)).map (.leaked thread a) ∧
      σ.closures a m = [.arenaClosed thread a k (failures (done ++ results)).length] := by
  induction h with
  | @ended n s done _ hat =>
    have hstore : (σ.after n).store =
        s.store.note (.arenaClosed thread a k (failures done).length) := by
      rw [← hat.store]
      unfold System.sweep
      dsimp only
      split <;> rfl
    rw [List.append_nil, leaks, closures, hstore]
    refine ⟨(History.leaks_cons ..).trans ?_, (History.closures_cons ..).trans ?_⟩
    · rw [hleaks]
      exact List.append_nil _
    · rw [hclosures, Happening.closureOf?, if_pos rfl]
      rfl
  | @next n l m s done results d rest r hstack hdisposes _ ih =>
    -- while the disposal ran, the frame of the closing has waited with what had failed before
    obtain ⟨hcollected, hopen⟩ := reported_of_sweeping hdisposes.runs.ended.strand
      (List.mem_cons_self ..)
    rw [List.append_cons]
    refine ih ?_ ?_
    · rw [System.leaks_record, failures_append, List.map_append]
      exact congrArg (· ++ _) hcollected
    · rw [System.closures_record]
      exact hopen

end Schedule

end ForeignArena
