import ForeignArena.Proofs.Changes.Basic

namespace ForeignArena

/-!
# Reading histories

What a history says on one arena, on one cleaner, and on the begin of disposals.  All
lists are in the order of the happenings, the oldest first.

* `History.pick` — the happenings that a function picks out;
* `History.accepted`, `History.attempted`, `History.closings` — of a scoped arena;
* `History.tracked`, `History.started` — of a cleaner;
* `History.entries` — what was registered, with arenas of either kind;
* `History.Prompt` — each disposal that a closing turns to begins at once;
* `History.calls` — the routines that were called for disposals.
-/

namespace History

/-- What a function finds in a history, the oldest first. -/
def pick {α : Type} (h : History) (f : Happening → Option α) : List α :=
  (h.filterMap f).reverse

theorem mem_pick {α : Type} {h : History} {f : Happening → Option α} {x : α} :
    x ∈ h.pick f ↔ ∃ e ∈ h, f e = some x := by
  simp [pick]

@[simp] theorem pick_nil {α : Type} (f : Happening → Option α) : pick [] f = [] := rfl

theorem pick_cons {α : Type} (e : Happening) (h : History) (f : Happening → Option α) :
    pick (e :: h) f = pick h f ++ (f e).toList := by
  cases he : f e <;> simp [pick, he]

/-- News in which a function finds nothing do not show. -/
theorem pick_append_of_none {α : Type} {after before news : History} {f : Happening → Option α}
    (h : after = news ++ before) (hf : ∀ e ∈ news, f e = none) : after.pick f = before.pick f := by
  rw [h, pick, pick, List.filterMap_append, List.filterMap_eq_nil_iff.mpr hf, List.nil_append]

end History

/-! ### Scoped arenas -/

/-- The disposal that an arena accepted. -/
@[simp]
def Happening.acceptedBy? (a : Nat) : Happening → Option Disposal
  | accepted b d => if b = a then some d else none
  | _ => none

/-- The disposal to which the closing of an arena turned. -/
@[simp]
def Happening.attemptedBy? (a : Nat) : Happening → Option Disposal
  | attempting _ b d => if b = a then some d else none
  | _ => none

/-- The thread that closed an arena. -/
@[simp]
def Happening.closedBy? (a : Nat) : Happening → Option ThreadId
  | closing thread b => if b = a then some thread else none
  | _ => none

namespace History

/-- The disposals that an arena has accepted. -/
def accepted (h : History) (a : Nat) : List Disposal := h.pick (Happening.acceptedBy? a)

/-- The disposals to which closings of an arena have turned. -/
def attempted (h : History) (a : Nat) : List Disposal := h.pick (Happening.attemptedBy? a)

/-- The threads that have closed an arena. -/
def closings (h : History) (a : Nat) : List ThreadId := h.pick (Happening.closedBy? a)

@[simp] theorem accepted_cons (e : Happening) (h : History) (a : Nat) :
    accepted (e :: h) a = accepted h a ++ (e.acceptedBy? a).toList :=
  pick_cons e h _

@[simp] theorem attempted_cons (e : Happening) (h : History) (a : Nat) :
    attempted (e :: h) a = attempted h a ++ (e.attemptedBy? a).toList :=
  pick_cons e h _

@[simp] theorem closings_cons (e : Happening) (h : History) (a : Nat) :
    closings (e :: h) a = closings h a ++ (e.closedBy? a).toList :=
  pick_cons e h _

end History

/-! ### Cleaners -/

/-- The action that was registered with a cleaner, with its token. -/
@[simp]
def Happening.trackedBy? (c : Nat) : Happening → Option (Nat × Action)
  | tracked b token action => if b = c then some (token, action) else none
  | _ => none

/-- The action of a cleaner that began, with its token. -/
@[simp]
def Happening.startedBy? (c : Nat) : Happening → Option (Nat × Action)
  | started _ b token action => if b = c then some (token, action) else none
  | _ => none

namespace History

/-- The actions registered with a cleaner, with their tokens. -/
def tracked (h : History) (c : Nat) : List (Nat × Action) := h.pick (Happening.trackedBy? c)

/-- The actions of a cleaner that began, with their tokens. -/
def started (h : History) (c : Nat) : List (Nat × Action) := h.pick (Happening.startedBy? c)

@[simp] theorem tracked_cons (e : Happening) (h : History) (c : Nat) :
    tracked (e :: h) c = tracked h c ++ (e.trackedBy? c).toList :=
  pick_cons e h _

@[simp] theorem started_cons (e : Happening) (h : History) (c : Nat) :
    started (e :: h) c = started h c ++ (e.startedBy? c).toList :=
  pick_cons e h _

end History

/-! ### Registrations -/

/-- A disposal in the care of an arena: where it was registered, and the receipt for it. -/
structure Entry where
  home : ArenaRef
  receipt : Registration
  disposal : Disposal
  deriving DecidableEq

/-- The disposal of an instance. -/
def Instance.disposal (i : Instance) : Disposal := ⟨i.address, i.type, i.flag⟩

/-- How an instance was registered that is in the care of an arena. -/
def Instance.entry (i : Instance) (home : ArenaRef) : Entry := ⟨home, i.registration, i.disposal⟩

/-- The disposal that was registered, with an arena of either kind. -/
@[simp]
def Happening.entry? : Happening → Option Entry
  | accepted a d => some ⟨.confined a, .plain, d⟩
  | tracked c token (.dispose d) => some ⟨.auto c, .tracked c token, d⟩
  | _ => none

/-- The disposal of an entry, if it is in the care of the given scoped arena. -/
@[simp]
def Entry.inArena? (a : Nat) (e : Entry) : Option Disposal :=
  match e.home with
  | .confined b => if b = a then some e.disposal else none
  | .auto _ => none

namespace History

/-- What was registered. -/
def entries (h : History) : List Entry := h.pick Happening.entry?

@[simp] theorem entries_cons (e : Happening) (h : History) :
    entries (e :: h) = entries h ++ e.entry?.toList :=
  pick_cons e h _

/-- What an arena has accepted is what was registered with it. -/
theorem accepted_eq (h : History) (a : Nat) : h.accepted a = h.entries.filterMap (·.inArena? a) := by
  induction h with
  | nil => rfl
  | cons e h ih =>
    rw [accepted_cons, entries_cons, List.filterMap_append, ih]
    congr 1
    cases e with
    | accepted b d => simp [List.filterMap_cons]; split <;> simp_all
    | tracked c token action => cases action <;> rfl
    | _ => rfl

end History

/-! ### Runs of disposals -/

/-- The registered disposal that is run next. -/
@[simp]
def Happening.run? : Happening → Option Entry
  | attempting _ a d => some ⟨.confined a, .plain, d⟩
  | started _ c token (.dispose d) => some ⟨.auto c, .tracked c token, d⟩
  | _ => none

/-- The registered disposal that is run next, if it has the given flag. -/
def Happening.runOf? (flag : Nat) (e : Happening) : Option Entry :=
  e.run?.filter (·.disposal.flag == flag)

/-- The disposal that began, if it has the given flag. -/
@[simp]
def Happening.begunOf? (flag : Nat) : Happening → Option Disposal
  | began _ d => if d.flag = flag then some d else none
  | _ => none

namespace Happening

variable {e : Happening} {a c token flag : Nat} {d : Disposal}

theorem entry?_eq_accepted :
    e.entry? = some ⟨.confined a, .plain, d⟩ ↔ e.acceptedBy? a = some d := by
  cases e with
  | accepted b other => by_cases hba : b = a <;> simp [hba]
  | tracked b other action => cases action <;> simp
  | _ => simp

theorem entry?_eq_tracked :
    e.entry? = some ⟨.auto c, .tracked c token, d⟩ ↔
      e.trackedBy? c = some (token, .dispose d) := by
  cases e with
  | tracked b other action =>
    cases action <;> by_cases hbc : b = c <;> simp [hbc]
  | _ => simp

theorem runOf?_eq_some {entry : Entry} :
    e.runOf? flag = some entry ↔ e.run? = some entry ∧ entry.disposal.flag = flag := by
  rw [runOf?, Option.filter_eq_some_iff, beq_iff_eq]

theorem runOf?_eq_attempted :
    e.runOf? flag = some ⟨.confined a, .plain, d⟩ ↔ d.flag = flag ∧ e.attemptedBy? a = some d := by
  rw [runOf?_eq_some]
  cases e with
  | attempting thread b other => by_cases hba : b = a <;> simp [hba, and_comm]
  | started thread b other action => cases action <;> simp
  | _ => simp

theorem runOf?_eq_started :
    e.runOf? flag = some ⟨.auto c, .tracked c token, d⟩ ↔
      d.flag = flag ∧ e.startedBy? c = some (token, .dispose d) := by
  rw [runOf?_eq_some]
  cases e with
  | started thread b other action =>
    cases action <;> by_cases hbc : b = c <;> simp [hbc, and_comm]
  | _ => simp

end Happening

namespace History

/-- The registered disposals with a flag that were run. -/
def runs (h : History) (flag : Nat) : List Entry := h.pick (Happening.runOf? flag)

/-- The disposals with a flag that began, registered or not. -/
def begun (h : History) (flag : Nat) : List Disposal := h.pick (Happening.begunOf? flag)

@[simp] theorem runs_cons (e : Happening) (h : History) (flag : Nat) :
    runs (e :: h) flag = runs h flag ++ (e.runOf? flag).toList :=
  pick_cons e h _

@[simp] theorem begun_cons (e : Happening) (h : History) (flag : Nat) :
    begun (e :: h) flag = begun h flag ++ (e.begunOf? flag).toList :=
  pick_cons e h _

theorem mem_accepted {h : History} {a : Nat} {d : Disposal} :
    d ∈ h.accepted a ↔ .accepted a d ∈ h := by
  rw [accepted, mem_pick]
  constructor
  · rintro ⟨e, he, hd⟩
    cases e <;> simp at hd
    obtain ⟨rfl, rfl⟩ := hd
    exact he
  · exact fun he => ⟨_, he, by simp⟩

theorem mem_attempted {h : History} {a : Nat} {d : Disposal} :
    d ∈ h.attempted a ↔ ∃ thread, .attempting thread a d ∈ h := by
  rw [attempted, mem_pick]
  constructor
  · rintro ⟨e, he, hd⟩
    cases e <;> simp at hd
    obtain ⟨rfl, rfl⟩ := hd
    exact ⟨_, he⟩
  · exact fun ⟨thread, he⟩ => ⟨_, he, by simp⟩

theorem mem_tracked {h : History} {c token : Nat} {action : Action} :
    (token, action) ∈ h.tracked c ↔ .tracked c token action ∈ h := by
  rw [tracked, mem_pick]
  constructor
  · rintro ⟨e, he, hd⟩
    cases e <;> simp at hd
    obtain ⟨rfl, rfl, rfl⟩ := hd
    exact he
  · exact fun he => ⟨_, he, by simp⟩

theorem mem_started {h : History} {c token : Nat} {action : Action} :
    (token, action) ∈ h.started c ↔ ∃ thread, .started thread c token action ∈ h := by
  rw [started, mem_pick]
  constructor
  · rintro ⟨e, he, hd⟩
    cases e <;> simp at hd
    obtain ⟨rfl, rfl, rfl⟩ := hd
    exact ⟨_, he⟩
  · exact fun ⟨thread, he⟩ => ⟨_, he, by simp⟩

/-- A disposal that was registered was accepted by a scoped arena or tracked by a cleaner. -/
theorem mem_entries {h : History} {e : Entry} :
    e ∈ h.entries ↔
      (∃ a, e = ⟨.confined a, .plain, e.disposal⟩ ∧ e.disposal ∈ h.accepted a) ∨
        ∃ c token, e = ⟨.auto c, .tracked c token, e.disposal⟩ ∧
          (token, .dispose e.disposal) ∈ h.tracked c := by
  simp only [mem_accepted, mem_tracked]
  rw [entries, mem_pick]
  constructor
  · rintro ⟨event, hevent, he⟩
    cases event with
    | accepted a d =>
      cases he
      exact .inl ⟨a, rfl, hevent⟩
    | tracked c token action =>
      cases action <;> cases he
      exact .inr ⟨c, token, rfl, hevent⟩
    | _ => cases he
  · rintro (⟨a, he, hevent⟩ | ⟨c, token, he, hevent⟩) <;> rw [he] <;> exact ⟨_, hevent, rfl⟩

/-- A disposal that was run was attempted by a scoped arena or started by a cleaner. -/
theorem mem_runs {h : History} {flag : Nat} {e : Entry} :
    e ∈ h.runs flag ↔ e.disposal.flag = flag ∧
      ((∃ a, e = ⟨.confined a, .plain, e.disposal⟩ ∧ e.disposal ∈ h.attempted a) ∨
        ∃ c token, e = ⟨.auto c, .tracked c token, e.disposal⟩ ∧
          (token, .dispose e.disposal) ∈ h.started c) := by
  simp only [mem_attempted, mem_started]
  rw [runs, mem_pick]
  constructor
  · rintro ⟨event, hevent, he⟩
    obtain ⟨he, hflag⟩ := Happening.runOf?_eq_some.mp he
    refine ⟨hflag, ?_⟩
    cases event with
    | attempting thread a d =>
      cases he
      exact .inl ⟨a, rfl, thread, hevent⟩
    | started thread c token action =>
      cases action <;> cases he
      exact .inr ⟨c, token, rfl, thread, hevent⟩
    | _ => cases he
  · rintro ⟨hflag, ⟨a, he, thread, hevent⟩ | ⟨c, token, he, thread, hevent⟩⟩
    · exact ⟨_, hevent, Happening.runOf?_eq_some.mpr ⟨by rw [he]; rfl, hflag⟩⟩
    · exact ⟨_, hevent, Happening.runOf?_eq_some.mpr ⟨by rw [he]; rfl, hflag⟩⟩

/-! ### Counting -/

/-- Two functions that say the same of some thing find it equally often. -/
theorem count_pick_congr {α β : Type} [BEq α] [LawfulBEq α] [BEq β] [LawfulBEq β] (h : History)
    {f : Happening → Option α} {g : Happening → Option β} {x : α} {y : β}
    (heq : ∀ e, f e = some x ↔ g e = some y) : (h.pick f).count x = (h.pick g).count y := by
  rw [pick, pick, List.count_reverse, List.count_reverse, List.count_filterMap, List.count_filterMap]
  exact List.countP_congr fun e _ => by simp [heq]

/-! ### Promptness -/

/-- A history in which each disposal that a closing turns to begins at once. -/
inductive Prompt : History → Prop where
  | nil : Prompt []
  | other (e : Happening) (h : History) :
    (∀ thread a d, e ≠ .attempting thread a d) → Prompt h → Prompt (e :: h)
  | attempt (thread : ThreadId) (a : Nat) (d : Disposal) (h : History) :
    Prompt h → Prompt (.began thread d :: .attempting thread a d :: h)

end History

/-! ### Calls of routines -/

/-- The routines of a disposal. -/
def Disposal.Routine (thread : ThreadId) (d : Disposal) (r : Request) : Prop :=
  r = .count thread d.type d.address ∨ r = .destroy thread d.type d.address

/-- The routine that is about to be called for a disposal. -/
def Happening.call? : Happening → Option Request
  | counting thread d => some (.count thread d.type d.address)
  | destroying thread d => some (.destroy thread d.type d.address)
  | _ => none

/-- The routines that were called for disposals. -/
def History.calls (h : History) : List Request := h.pick Happening.call?

theorem History.calls_cons (e : Happening) (h : History) :
    calls (e :: h) = calls h ++ e.call?.toList :=
  pick_cons e h _

/-! ### Silence -/

/-- Happenings that say nothing on an arena. -/
def Happening.Silent (a : Nat) (e : Happening) : Prop :=
  e.acceptedBy? a = none ∧ e.attemptedBy? a = none ∧ e.closedBy? a = none

/-- Plain happenings say nothing on any arena. -/
theorem Happening.silent_of_isPlain {e : Happening} (h : e.isPlain) (a : Nat) : e.Silent a := by
  cases e <;> first | exact ⟨rfl, rfl, rfl⟩ | cases h

/-- Happenings that say nothing on the actions of a cleaner. -/
def Happening.Mute (c : Nat) (e : Happening) : Prop :=
  e.trackedBy? c = none ∧ e.startedBy? c = none

/-- Plain happenings say nothing on the actions of any cleaner. -/
theorem Happening.mute_of_isPlain {e : Happening} (h : e.isPlain) (c : Nat) : e.Mute c := by
  cases e <;> first | exact ⟨rfl, rfl⟩ | cases h

end ForeignArena
