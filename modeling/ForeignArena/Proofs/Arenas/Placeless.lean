import ForeignArena.Proofs.Arenas.Isolation

namespace ForeignArena

/-!
# Disposals on whatever thread

Most routines do not ask on which thread they are called.  A disposal with such routines goes
alike on two threads, if it finds the same foreign state and the same flags.

* `Request.on`, `Library.Placeless` — the same call on another thread, and routines to which it
  makes no difference;
* `World.Matches`, `Course.Matches` — worlds and courses that differ in the thread only;
* `Library.dispose_matches` — disposals keep them so.
-/

/-- The same call on another thread. -/
def Request.on (thread : ThreadId) : Request → Request
  | count _ type address => count thread type address
  | destroy _ type address => destroy thread type address
  | action _ tag => action thread tag

/-- The routines of a type do not ask on which thread they are called for an object. -/
structure Library.Placeless {W : Type} (lib : Library W) (address : Address) (type : ForeignType) :
    Prop where
  count : ∀ thread thread' w,
    lib.respond (.count thread' type address) w = lib.respond (.count thread type address) w
  destroy : ∀ thread thread' w,
    lib.respond (.destroy thread' type address) w = lib.respond (.destroy thread type address) w

variable {W : Type}

/-- Two worlds with the same foreign state and the same flags. -/
structure World.Matches (x y : World W) : Prop where
  foreign : y.foreign = x.foreign
  flags : y.store.flags = x.store.flags

/-- Two courses that differ in the thread only, the second being on a given one. -/
structure Course.Matches {α : Type} (thread : ThreadId) (p q : Course W α) : Prop where
  calls : q.calls = p.calls.map (·.on thread)
  result : q.result = p.result
  left : p.left.Matches q.left

namespace World.Matches

variable {x y : World W}

theorem tallies (h : x.Matches y) : y.store.tallies = x.store.tallies :=
  congrArg Foreign.tallies h.foreign

theorem heaps (h : x.Matches y) : y.store.heaps = x.store.heaps :=
  congrArg Foreign.heaps h.foreign

theorem own (h : x.Matches y) : y.own = x.own := congrArg Foreign.own h.foreign

/-- Notes make no difference. -/
theorem note (h : x.Matches y) (e e' : Happening) : (x.note e).Matches (y.note e') :=
  ⟨h.foreign, h.flags⟩

theorem note_left (h : x.Matches y) (e : Happening) : (x.note e).Matches y := ⟨h.foreign, h.flags⟩

/-- Nor does a closing that takes note of a failure. -/
theorem record (h : x.Matches y) (thread : ThreadId) (a : Nat)
    (result : Except DisposalError Unit) : (x.record thread a result).Matches y := by
  cases result with
  | ok _ => exact h
  | error e => exact h.note_left _

/-- A disposal that begins sets the same flag. -/
theorem begin (h : x.Matches y) (thread thread' : ThreadId) (d : Disposal) :
    (x.begin thread d).Matches (y.begin thread' d) := by
  refine ⟨h.foreign, ?_⟩
  simp only [World.begin, Store.begin, Store.note, Store.setFlag, h.flags]

/-- Types answer the same counts. -/
theorem knownCount? (h : x.Matches y) (type : ForeignType) (address : Address) :
    y.store.knownCount? type address = x.store.knownCount? type address := by
  unfold Store.knownCount? Store.tally Store.heap
  rw [h.tallies, h.heaps]

/-- And destroy objects alike. -/
theorem destroyKnown? (h : x.Matches y) (type : ForeignType) (address : Address) :
    (x.store.destroyKnown? type address = none ∧ y.store.destroyKnown? type address = none) ∨
      ∃ store store' panic, x.store.destroyKnown? type address = some (store, panic) ∧
        y.store.destroyKnown? type address = some (store', panic) ∧
        World.Matches { x with store } { y with store := store' } := by
  have htallies := h.tallies
  have hheaps := h.heaps
  have hown := h.own
  have hforeign := h.foreign
  have hflags := h.flags
  unfold Store.destroyKnown?
  cases type.routines with
  | supplied => exact .inl ⟨rfl, rfl⟩
  | tallied t panics =>
    refine .inr ⟨_, _, _, rfl, rfl, ?_, hflags⟩
    simp only [World.foreign, Store.modifyTally, htallies, hheaps, hown]
  | inert | uncounted => exact .inr ⟨_, _, _, rfl, rfl, hforeign, hflags⟩
  | heapObject heap | heapValue heap =>
    refine .inr ⟨_, _, _, rfl, rfl, ?_, hflags⟩
    simp only [World.foreign, Store.setHeap, Store.heap, htallies, hheaps, hown]

end World.Matches

namespace Library

variable (lib : Library W) {d : Disposal} {x y : World W} (thread thread' : ThreadId)

/-- The library answers the same. -/
theorem ask_matches (h : x.Matches y) {r r' : Request}
    (hsame : ∀ w, lib.respond r' w = lib.respond r w) :
    (lib.ask y r').1 = (lib.ask x r).1 ∧ (lib.ask x r).2.Matches (lib.ask y r').2 := by
  have hown := h.own
  have htallies := h.tallies
  have hheaps := h.heaps
  unfold ask
  rw [hown, hsame]
  refine ⟨rfl, ?_, h.flags⟩
  simp only [World.foreign, htallies, hheaps]

/-- So do all routines of a disposal. -/
theorem call_matches (h : x.Matches y) (hlib : lib.Placeless d.address d.type) {r : Request}
    (hr : d.Routine thread r) :
    (lib.call y (r.on thread')).1 = (lib.call x r).1 ∧
      (lib.call x r).2.Matches (lib.call y (r.on thread')).2 := by
  obtain rfl | rfl := hr
  · show (lib.call y (.count thread' d.type d.address)).1 = _ ∧
      World.Matches _ (lib.call y (.count thread' d.type d.address)).2
    unfold call
    dsimp only
    rw [h.knownCount?]
    cases x.store.knownCount? d.type d.address with
    | some count => exact ⟨rfl, h⟩
    | none => exact lib.ask_matches h fun w => hlib.count thread thread' w
  · show (lib.call y (.destroy thread' d.type d.address)).1 = _ ∧
      World.Matches _ (lib.call y (.destroy thread' d.type d.address)).2
    unfold call
    dsimp only
    obtain ⟨hnone, hnone'⟩ | ⟨store, store', panic, hsome, hsome', hmatches⟩ :=
      h.destroyKnown? d.type d.address
    · rw [hnone, hnone']
      exact lib.ask_matches h fun w => hlib.destroy thread thread' w
    · rw [hsome, hsome']
      cases panic with
      | some payload => exact ⟨rfl, hmatches⟩
      | none => exact ⟨rfl, hmatches⟩

theorem destroy_matches (h : x.Matches y) (hlib : lib.Placeless d.address d.type) :
    (lib.destroy thread d x).Matches thread' (lib.destroy thread' d y) := by
  obtain ⟨houtcome, hleft⟩ := lib.call_matches thread thread'
    (h.note (.destroying thread d) (.destroying thread' d)) hlib (.inr rfl)
  unfold destroy
  dsimp only
  dsimp only [Request.on] at houtcome hleft
  rw [houtcome]
  split
  · exact ⟨rfl, rfl, hleft.note _ _⟩
  · exact ⟨rfl, rfl, hleft⟩

theorem goOn_matches (h : x.Matches y) (hlib : lib.Placeless d.address d.type)
    (count : Except Payload (Option UInt64)) :
    (lib.goOn thread d x count).Matches thread' (lib.goOn thread' d y count) := by
  unfold goOn
  split
  · split
    · exact ⟨rfl, rfl, h⟩
    · exact lib.destroy_matches thread thread' h hlib
  · exact lib.destroy_matches thread thread' h hlib
  · exact ⟨rfl, rfl, h⟩

/-- **A disposal goes alike on whatever thread.** -/
theorem dispose_matches (h : x.Matches y) (hlib : lib.Placeless d.address d.type) :
    (lib.dispose thread d x).Matches thread' (lib.dispose thread' d y) := by
  unfold dispose
  dsimp only
  split
  · obtain ⟨houtcome, hleft⟩ := lib.call_matches thread thread'
      ((h.begin thread thread' d).note (.counting thread d) (.counting thread' d)) hlib (.inl rfl)
    dsimp only [Request.on] at houtcome hleft
    rw [houtcome]
    obtain ⟨hcalls, hresult, hleft⟩ := lib.goOn_matches thread thread' hleft hlib
      (lib.call ((x.begin thread d).note (.counting thread d))
        (.count thread d.type d.address)).1.counted
    exact ⟨congrArg _ hcalls, hresult, hleft⟩
  · exact lib.destroy_matches thread thread' (h.begin thread thread' d) hlib

end Library

end ForeignArena
