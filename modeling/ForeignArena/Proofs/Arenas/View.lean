import ForeignArena.Proofs.Changes.Run
import ForeignArena.Proofs.Histories

namespace ForeignArena

/-!
# What concerns a scoped arena

An arena is touched by few kinds of changes.  What they do to it is told in terms of a
view, which leaves out all that concerns others.

* `ArenaView` — what concerns one arena: its state, what the history says on it, and what
  closings of it have still to do;
* `ArenaView.Step` — what a change can do to an arena;
* `Change.arena` — and that it can do nothing else.
-/

/-- What a closing of an arena has still to do. -/
def Frame.todoOf? (a : Nat) : Frame → Option (List Disposal)
  | sweeping _ b _ _ todo => if b = a then some todo else none
  | _ => none

/-- What concerns one arena. -/
structure ArenaView where
  known : Prop
  arena : Arena
  accepted : List Disposal
  attempted : List Disposal
  closings : List ThreadId
  /-- What each closing in progress has still to do. -/
  sweeps : List (List Disposal)

/-- What concerns an arena at some site. -/
def Site.arenaView (s : Site) (a : Nat) : ArenaView where
  known := a < s.1.arenas.size
  arena := s.1.arena a
  accepted := s.1.history.accepted a
  attempted := s.1.history.attempted a
  closings := s.1.history.closings a
  sweeps := s.2.filterMap (Frame.todoOf? a)

/-- What a change can do to an arena, as part of a move. -/
inductive ArenaView.Step (move : Move) (a : Nat) (v : ArenaView) : ArenaView → Prop where
  | same : Step move a v v
  | opened (operation : Operation) (confinement : Confinement) :
    move = .operate operation → ¬v.known →
    Step move a v { v with known := True, arena := .opened confinement }
  | accepted (operation : Operation) (d : Disposal) :
    move = .operate operation → v.arena.isActive →
    Step move a v { v with arena := v.arena.accept d, accepted := v.accepted ++ [d] }
  | swapped (thread : ThreadId) :
    move = .start (.close thread a) ∨ move = .start (.drop thread a) → v.arena.isActive →
    Step move a v
      { v with
        arena := v.arena.takePending.1
        closings := v.closings ++ [thread]
        sweeps := v.arena.pending.toList :: v.sweeps }
  | abandoned : v.arena.isActive → Step move a v { v with arena := v.arena.abandon }
  | attempted (d : Disposal) (rest : List Disposal) (sweeps : List (List Disposal)) :
    v.sweeps = (d :: rest) :: sweeps →
    Step move a v { v with attempted := v.attempted ++ [d], sweeps := rest :: sweeps }
  | cut (todo : List Disposal) (sweeps : List (List Disposal)) :
    v.sweeps = todo :: sweeps → Step move a v { v with sweeps }

theorem ArenaView.Step.of_eq {move : Move} {a : Nat} {v w : ArenaView} (h : w = v) :
    Step move a v w :=
  h ▸ .same

theorem ArenaView.Step.congr {move : Move} {a : Nat} {v w w' : ArenaView} (h : Step move a v w)
    (heq : w' = w) : Step move a v w' :=
  heq ▸ h

/-! ### Changes that leave an arena alone -/

/-- One more happening that says nothing on an arena, and other frames that hold nothing
    of it, leave it as it was. -/
theorem Site.arenaView_eq {s t : Site} {a : Nat} (news : List Happening)
    (harenas : t.1.arenas = s.1.arenas) (hhistory : t.1.history = news ++ s.1.history)
    (hnews : ∀ e ∈ news, e.Silent a)
    (hsweeps : t.2.filterMap (Frame.todoOf? a) = s.2.filterMap (Frame.todoOf? a)) :
    t.arenaView a = s.arenaView a := by
  simp only [arenaView, Store.arena, History.accepted, History.attempted, History.closings,
    harenas, hsweeps, History.pick_append_of_none hhistory fun e he => (hnews e he).1,
    History.pick_append_of_none hhistory fun e he => (hnews e he).2.1,
    History.pick_append_of_none hhistory fun e he => (hnews e he).2.2]

theorem Frame.todoOf?_of_isPlain {f : Frame} (h : f.isPlain) (a : Nat) : f.todoOf? a = none := by
  cases f <;> first | rfl | cases h

/-- A disposal that begins says nothing on arenas. -/
theorem Site.arenaView_begin (st : Store) (k : List Frame) (thread : ThreadId) (d : Disposal)
    (a : Nat) : Site.arenaView (st.begin thread d, k) a = Site.arenaView (st, k) a :=
  Site.arenaView_eq [.began thread d] rfl rfl (by simp [Happening.Silent, Happening.acceptedBy?,
    Happening.attemptedBy?, Happening.closedBy?]) rfl

/-! ### What a change can do -/

namespace Change

variable {move : Move} {st : Store} {k : List Frame}

theorem popped_arena (f : Frame) (a : Nat) :
    (Site.arenaView (st, f :: k) a).Step move a (Site.arenaView (st, k) a) := by
  cases hf : f.todoOf? a with
  | none => exact .of_eq (Site.arenaView_eq [] rfl rfl (by simp) (by simp [hf]))
  | some todo =>
    exact .cut todo (k.filterMap (Frame.todoOf? a)) (by simp [Site.arenaView, hf])

theorem opened_arena (operation : Operation) (hmove : move = .operate operation)
    (thread : ThreadId) (config : ArenaConfig) (a : Nat) :
    (Site.arenaView (st, k) a).Step move a
      (Site.arenaView ((st.buildArena thread config).1, k) a) := by
  obtain ⟨confinement, hbuild⟩ : ∃ confinement, (st.buildArena thread config).1 =
      { st with arenas := st.arenas.push (.opened confinement) }.note
        (.arenaOpened thread st.arenas.size confinement) := ⟨_, rfl⟩
  rw [hbuild]
  by_cases ha : a = st.arenas.size
  · refine .congr (.opened operation confinement hmove (by simp [Site.arenaView, ha])) ?_
    simp [Site.arenaView, Store.arena, Store.note, ha]
  · have hknown : (a < st.arenas.size + 1) = (a < st.arenas.size) := by
      rw [eq_iff_iff]
      omega
    refine .of_eq ?_
    simp [Site.arenaView, Store.arena, Store.note, Array.getElem?_push, ha, hknown]

/-- An active arena is one that was opened. -/
theorem known_of_isActive {st : Store} {a : Nat} (h : (st.arena a).isActive) :
    a < st.arenas.size := by
  refine Decidable.by_contra fun hsize => ?_
  rw [Store.arena, Array.getElem?_eq_none (by omega)] at h
  cases h

theorem accepted_arena (operation : Operation) (hmove : move = .operate operation) (b : Nat)
    (d : Disposal) (hactive : (st.arena b).isActive) (a : Nat) :
    (Site.arenaView (st, k) a).Step move a
      (Site.arenaView ((st.modifyArena b (·.accept d)).note (.accepted b d), k) a) := by
  have hb := known_of_isActive hactive
  by_cases hab : b = a
  · subst hab
    refine .congr (.accepted operation d hmove hactive) ?_
    simp [Site.arenaView, Store.arena_modifyArena, hb]
  · refine .of_eq ?_
    simp [Site.arenaView, Store.arena_modifyArena, hb, hab]

theorem swapped_arena (thread : ThreadId) (b : Nat)
    (hmove : move = .start (.close thread b) ∨ move = .start (.drop thread b))
    (hactive : (st.arena b).isActive) (a : Nat) :
    (Site.arenaView (st, k) a).Step move a
      (Site.arenaView ((st.modifyArena b fun _ => (st.arena b).takePending.1).note
          (.closing thread b),
        .sweeping thread b (st.arena b).pending.toList.length [] (st.arena b).pending.toList :: k)
        a) := by
  have hb := known_of_isActive hactive
  by_cases hab : b = a
  · subst hab
    refine .congr (.swapped thread hmove hactive) ?_
    simp [Site.arenaView, Store.arena_modifyArena, hb, Frame.todoOf?]
  · refine .of_eq ?_
    simp [Site.arenaView, Store.arena_modifyArena, hb, hab, Frame.todoOf?]

theorem abandoned_arena (thread : ThreadId) (b : Nat) (hactive : (st.arena b).isActive) (a : Nat) :
    (Site.arenaView (st, k) a).Step move a
      (Site.arenaView ((st.note (.arenaAbandoned thread b (st.arena b).confinement
        (st.arena b).pending.size)).modifyArena b (·.abandon), k) a) := by
  have hb := known_of_isActive hactive
  by_cases hab : b = a
  · subst hab
    refine .congr (.abandoned hactive) ?_
    simp [Site.arenaView, Store.arena_modifyArena, hb]
  · refine .of_eq ?_
    simp [Site.arenaView, Store.arena_modifyArena, hb, hab]

theorem attempted_arena (thread : ThreadId) (b n : Nat) (failures : List DisposalError)
    (d : Disposal) (rest : List Disposal) (a : Nat) :
    (Site.arenaView (st, .sweeping thread b n failures (d :: rest) :: k) a).Step move a
      (Site.arenaView ((st.note (.attempting thread b d)).begin thread d,
        .counted thread d :: .guarded d :: .sweeping thread b n failures rest :: k) a) := by
  have hcounted (rest : List Frame) :
      (.counted thread d :: .guarded d :: rest : List Frame).filterMap (Frame.todoOf? a) =
        rest.filterMap (Frame.todoOf? a) := rfl
  rw [Site.arenaView_begin]
  by_cases hab : b = a
  · subst hab
    refine .congr (.attempted d rest (k.filterMap (Frame.todoOf? b)) ?_) ?_
    · simp [Site.arenaView, Frame.todoOf?]
    · simp [Site.arenaView, Frame.todoOf?, hcounted]
  · refine .of_eq ?_
    simp [Site.arenaView, hab, Frame.todoOf?, hcounted]

/-- **What a change can do to an arena.** -/
theorem arena {s t : Site} (h : Change move s t) (a : Nat) :
    (s.arenaView a).Step move a (t.arenaView a) := by
  cases h with
  | push f hf =>
    exact .of_eq (Site.arenaView_eq [] rfl rfl (by simp) (by simp [Frame.todoOf?_of_isPlain hf]))
  | pop f _ => exact popped_arena f a
  | note e he =>
    exact .of_eq (Site.arenaView_eq [e] rfl rfl
      (by simpa using Happening.silent_of_isPlain he a) rfl)
  | opened operation thread config hmove => exact opened_arena operation hmove thread config a
  | accepted operation thread b d hmove _ hactive _ =>
    exact accepted_arena operation hmove b d hactive a
  | swapped thread b hmove _ hactive => exact swapped_arena thread b hmove hactive a
  | abandoned thread b _ _ hactive => exact abandoned_arena thread b hactive a
  | attempted thread b n failures d rest => exact attempted_arena thread b n failures d rest a
  | begun thread d _ _ =>
    rw [Site.arenaView_begin]
    exact .of_eq (Site.arenaView_eq [] rfl rfl (by simp) rfl)
  | entered thread d =>
    exact .of_eq (Site.arenaView_eq [.destroying thread d] (by simp) (by simp)
      (by simp [Happening.Silent]) rfl)
  | called => exact .of_eq (Site.arenaView_eq [] (by simp) (by simp) (by simp) rfl)
  | failed thread b n failures todo e =>
    exact .of_eq (Site.arenaView_eq [.leaked thread b e] rfl rfl (by simp [Happening.Silent]) rfl)
  | swept thread b n failures =>
    exact .congr (popped_arena (.sweeping thread b n failures []) a)
      (Site.arenaView_eq [.arenaClosed thread b n failures.length] rfl rfl
        (by simp [Happening.Silent]) rfl)
  | tookDisposal thread c token d =>
    rw [Site.arenaView_begin]
    exact .of_eq (Site.arenaView_eq [.started thread c token (.dispose d)] rfl rfl
      (by simp [Happening.Silent]) rfl)
  | tracked | queued | received | tookSupplied | ended | panicked | asked =>
    exact .of_eq (Site.arenaView_eq [_] rfl rfl (by simp [Happening.Silent]) rfl)
  | _ => exact .of_eq (Site.arenaView_eq [] rfl rfl (by simp) rfl)

end Change

end ForeignArena
