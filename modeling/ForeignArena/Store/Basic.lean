import ForeignArena.Arena
import ForeignArena.Cleaner
import ForeignArena.Heap
import ForeignArena.History
import ForeignArena.Registry

namespace ForeignArena

/-!
# Stores

The state that arenas, cleaners and foreign types share.  Everything is reached
through numbered handles; an unknown handle stands for a closed arena, a stopped
cleaner, an empty heap and so on.

* `Store` — the state;
* `Store.arena`, `Store.cleaner`, … — what is behind a handle;
* `Store.modifyArena`, `Store.modifyCleaner`, … — change what is behind a handle;
* `Store.newFlag`, `Store.setFlag`, `Store.checkFlag` — liveness flags.
-/

/-- The calls recorded by a tallied type: the count it answers, and the objects
    destroyed so far, in the order of the calls. -/
structure Tally where
  count : UInt64 := 1
  destroyed : Array Address := #[]
  deriving Inhabited

/-- The state shared by all arenas, cleaners and types. -/
structure Store where
  /-- Liveness flags: whether each is set. -/
  flags : Array Bool := #[]
  tallies : Array Tally := #[]
  heaps : Array Heap := #[]
  registries : Array Registry := #[]
  arenas : Array Arena := #[]
  cleaners : Array Cleaner := #[]
  /-- The number of descriptors made so far. -/
  typeCount : Nat := 0
  history : History := []
  deriving Inhabited

namespace Store

/-- The store with one more happening. -/
def note (st : Store) (h : Happening) : Store :=
  { st with history := h :: st.history }

/-! ### Looking things up -/

/-- The arena behind a handle. -/
def arena (st : Store) (a : Nat) : Arena :=
  st.arenas[a]?.getD .void

/-- The cleaner behind a handle. -/
def cleaner (st : Store) (c : Nat) : Cleaner :=
  st.cleaners[c]?.getD .void

/-- The heap behind a handle. -/
def heap (st : Store) (h : Nat) : Heap :=
  st.heaps[h]?.getD {}

/-- The registry behind a handle. -/
def registry (st : Store) (r : Nat) : Registry :=
  st.registries[r]?.getD {}

/-- The tally behind a handle. -/
def tally (st : Store) (t : Nat) : Tally :=
  st.tallies[t]?.getD {}

/-- Whether the object of a liveness flag is destroyed. -/
def isDestroyed (st : Store) (flag : Nat) : Bool :=
  st.flags[flag]?.getD false

/-! ### Changing things -/

/-- Change the arena behind a handle. -/
def modifyArena (st : Store) (a : Nat) (f : Arena → Arena) : Store :=
  { st with arenas := st.arenas.modify a f }

/-- Change the cleaner behind a handle. -/
def modifyCleaner (st : Store) (c : Nat) (f : Cleaner → Cleaner) : Store :=
  { st with cleaners := st.cleaners.modify c f }

/-- Put a heap behind a handle. -/
def setHeap (st : Store) (h : Nat) (heap : Heap) : Store :=
  { st with heaps := st.heaps.modify h fun _ => heap }

/-- Put a registry behind a handle. -/
def setRegistry (st : Store) (r : Nat) (registry : Registry) : Store :=
  { st with registries := st.registries.modify r fun _ => registry }

/-- Change the tally behind a handle. -/
def modifyTally (st : Store) (t : Nat) (f : Tally → Tally) : Store :=
  { st with tallies := st.tallies.modify t f }

/-! ### Liveness flags -/

/-- A new flag, not set. -/
def newFlag (st : Store) : Store × Nat :=
  let flag := st.flags.size
  ({ st with flags := st.flags.push false }, flag)

/-- Set a flag. -/
def setFlag (st : Store) (flag : Nat) : Store :=
  { st with flags := st.flags.modify flag fun _ => true }

/-- Set a flag.  Returns whether it was this call that set it. -/
def trySetFlag (st : Store) (flag : Nat) : Store × Bool :=
  (st.setFlag flag, !st.isDestroyed flag)

/-- A disposal begins: its flag is set. -/
def begin (st : Store) (thread : ThreadId) (d : Disposal) : Store :=
  (st.setFlag d.flag).note (.began thread d)

/-- Refuses an object whose flag is set. -/
def checkFlag (st : Store) (flag : Nat) (typeName : String) : Except InstanceError Unit :=
  if st.isDestroyed flag then .error (.useAfterFree typeName) else .ok ()

/-! ### How changes show in lookups -/

@[simp] theorem history_note (st : Store) (h : Happening) :
    (st.note h).history = h :: st.history := rfl

@[simp] theorem history_begin (st : Store) (thread : ThreadId) (d : Disposal) :
    (st.begin thread d).history = .began thread d :: st.history := rfl

@[simp] theorem history_modifyArena (st : Store) (a : Nat) (f : Arena → Arena) :
    (st.modifyArena a f).history = st.history := rfl

@[simp] theorem history_modifyCleaner (st : Store) (c : Nat) (f : Cleaner → Cleaner) :
    (st.modifyCleaner c f).history = st.history := rfl

@[simp] theorem arenas_note (st : Store) (h : Happening) : (st.note h).arenas = st.arenas := rfl

@[simp] theorem size_arenas_modifyArena (st : Store) (a : Nat) (f : Arena → Arena) :
    (st.modifyArena a f).arenas.size = st.arenas.size := Array.size_modify ..

@[simp] theorem cleaners_note (st : Store) (h : Happening) :
    (st.note h).cleaners = st.cleaners := rfl

@[simp] theorem size_cleaners_modifyCleaner (st : Store) (c : Nat) (f : Cleaner → Cleaner) :
    (st.modifyCleaner c f).cleaners.size = st.cleaners.size := Array.size_modify ..

@[simp] theorem modifyCleaner_note (st : Store) (h : Happening) (c : Nat)
    (f : Cleaner → Cleaner) : (st.note h).modifyCleaner c f = (st.modifyCleaner c f).note h := rfl

@[simp] theorem modifyArena_note (st : Store) (h : Happening) (a : Nat) (f : Arena → Arena) :
    (st.note h).modifyArena a f = (st.modifyArena a f).note h := rfl

@[simp] theorem arena_note (st : Store) (h : Happening) (a : Nat) :
    (st.note h).arena a = st.arena a := rfl

@[simp] theorem cleaner_note (st : Store) (h : Happening) (c : Nat) :
    (st.note h).cleaner c = st.cleaner c := rfl

@[simp] theorem isDestroyed_note (st : Store) (h : Happening) (flag : Nat) :
    (st.note h).isDestroyed flag = st.isDestroyed flag := rfl

@[simp] theorem cleaner_modifyArena (st : Store) (a c : Nat) (f : Arena → Arena) :
    (st.modifyArena a f).cleaner c = st.cleaner c := rfl

@[simp] theorem arena_modifyCleaner (st : Store) (c a : Nat) (f : Cleaner → Cleaner) :
    (st.modifyCleaner c f).arena a = st.arena a := rfl

/-- A change of one arena shows in that arena only. -/
theorem arena_modifyArena (st : Store) (a b : Nat) (f : Arena → Arena)
    (h : a < st.arenas.size) :
    (st.modifyArena a f).arena b = if a = b then f (st.arena b) else st.arena b := by
  simp only [modifyArena, arena, Array.getElem?_modify]
  by_cases hab : a = b
  · subst hab
    simp [h]
  · simp [hab]

/-- A change of one cleaner shows in that cleaner only. -/
theorem cleaner_modifyCleaner (st : Store) (c b : Nat) (f : Cleaner → Cleaner)
    (h : c < st.cleaners.size) :
    (st.modifyCleaner c f).cleaner b = if c = b then f (st.cleaner b) else st.cleaner b := by
  simp only [modifyCleaner, cleaner, Array.getElem?_modify]
  by_cases hcb : c = b
  · subst hcb
    simp [h]
  · simp [hcb]

/-- A change of one cleaner leaves the others alone. -/
theorem cleaner_modifyCleaner_ne (st : Store) {c b : Nat} (h : c ≠ b) (f : Cleaner → Cleaner) :
    (st.modifyCleaner c f).cleaner b = st.cleaner b := by
  simp [modifyCleaner, cleaner, Array.getElem?_modify, h]

/-- Behind an unknown handle nothing changes. -/
theorem cleaner_modifyCleaner_unknown (st : Store) {c : Nat} (h : st.cleaners.size ≤ c) (b : Nat)
    (f : Cleaner → Cleaner) : (st.modifyCleaner c f).cleaner b = st.cleaner b := by
  by_cases hcb : c = b
  · subst hcb
    simp [modifyCleaner, cleaner, h]
  · exact st.cleaner_modifyCleaner_ne hcb f

/-- Two changes of one cleaner are one. -/
theorem modifyCleaner_modifyCleaner (st : Store) (b : Nat) (f g : Cleaner → Cleaner) :
    (st.modifyCleaner b f).modifyCleaner b g = st.modifyCleaner b fun x => g (f x) := by
  have hcleaners : (st.cleaners.modify b f).modify b g = st.cleaners.modify b fun x => g (f x) := by
    ext d hd hd'
    · simp
    · simp only [Array.getElem_modify]
      split <;> rfl
  rw [modifyCleaner, modifyCleaner, modifyCleaner, hcleaners]

/-- What a change leaves as it is in a cleaner stays, also behind an unknown handle. -/
theorem view_modifyCleaner {α : Type} (view : Cleaner → α) (st : Store) (c b : Nat)
    (f : Cleaner → Cleaner) (h : ∀ cleaner, view (f cleaner) = view cleaner) :
    view ((st.modifyCleaner c f).cleaner b) = view (st.cleaner b) := by
  simp only [modifyCleaner, cleaner, Array.getElem?_modify]
  by_cases hcb : c = b
  · subst hcb
    cases st.cleaners[c]? <;> simp [h]
  · simp [hcb]

@[simp] theorem isReceiving_spend (st : Store) (c token b : Nat) :
    ((st.modifyCleaner c (·.spend token)).cleaner b).isReceiving = (st.cleaner b).isReceiving :=
  view_modifyCleaner Cleaner.isReceiving st c b (·.spend token) fun _ => rfl

/-- Setting a flag sets that flag, if it exists, and no other. -/
theorem isDestroyed_setFlag (st : Store) (flag other : Nat) :
    (st.setFlag flag).isDestroyed other =
      (st.isDestroyed other || (flag == other && decide (other < st.flags.size))) := by
  simp only [setFlag, isDestroyed, Array.getElem?_modify]
  by_cases h : flag = other
  · subst h
    by_cases hf : flag < st.flags.size <;> simp [hf]
  · simp [h]

end Store

end ForeignArena
