import ForeignArena.Proofs.Disposals
import ForeignArena.Proofs.Runtimes.Discipline

namespace ForeignArena

/-!
# What shows in a heap and a registry

Most of what happens in a store leaves a given heap and a given registry alone.

* `Store.heap_setHeap`, `Store.heap_afterDestroy` — changes of heaps;
* `Change.heap_cases`, `Change.registries_eq` — what changes leave alone, if they are not
  part of an operation;
* `Store.apply_heap`, `Store.apply_entered` — what operations leave alone.
-/

namespace Store

variable (st : Store) {g h : Nat}

/-- A heap put behind a handle shows there, if the handle is known. -/
theorem heap_setHeap (heap : Heap) (hg : g < st.heaps.size) : (st.setHeap g heap).heap g = heap := by
  simp only [setHeap, Store.heap, Array.getElem?_modify]
  simp [hg]

theorem heap_setHeap_of_ne (heap : Heap) (hne : h ≠ g) : (st.setHeap h heap).heap g = st.heap g := by
  simp [setHeap, Store.heap, Array.getElem?_modify, hne]

/-- Putting back what is there changes nothing. -/
theorem setHeap_self (g : Nat) : st.setHeap g (st.heap g) = st := by
  have hheaps : (st.heaps.modify g fun _ => st.heap g) = st.heaps := by
    refine Array.ext_getElem? fun h => ?_
    rw [Array.getElem?_modify]
    split
    · next heq =>
      subst heq
      cases hget : st.heaps[g]? <;> simp [Store.heap, hget]
    · rfl
  rw [setHeap, hheaps]

/-- A new heap is empty, as an unknown one is. -/
theorem heap_push (g : Nat) : ({ st with heaps := st.heaps.push {} } : Store).heap g = st.heap g := by
  simp only [heap, Array.getElem?_push]
  split
  · next heq => simp [heq]
  · rfl

/-- A heap that has handed out an address is known. -/
theorem known_of_issued {a : Address} (h : (st.heap g).objects.Issued a) : g < st.heaps.size := by
  refine Decidable.by_contra fun hg => ?_
  obtain ⟨i, generation, slot, -, hslot, -⟩ := h
  simp [heap, hg] at hslot

/-! ### Destroy routines -/

variable {type : ForeignType}

/-- The destroy routine of a type whose objects live elsewhere leaves a heap alone. -/
theorem heap_afterDestroy_of_off (htype : type.isOnHeap g = false) (a : Address) :
    (st.afterDestroy type a).heap g = st.heap g := by
  have hobject (h : Nat) (hroutines : type.routines = .heapObject h) : h ≠ g := by
    rintro rfl
    simp [ForeignType.isOnHeap, hroutines] at htype
  have hvalue (h : Nat) (hroutines : type.routines = .heapValue h) : h ≠ g := by
    rintro rfl
    simp [ForeignType.isOnHeap, hroutines] at htype
  unfold afterDestroy destroyKnown?
  cases hroutines : type.routines with
  | heapObject h => exact st.heap_setHeap_of_ne _ (hobject h hroutines)
  | heapValue h => exact st.heap_setHeap_of_ne _ (hvalue h hroutines)
  | _ => rfl

/-- The destroy routine of a type of the heap gives up a reference. -/
theorem heap_afterDestroy {kind : TypeKind} (htype : type.Serves g kind) (hg : g < st.heaps.size)
    (a : Address) : (st.afterDestroy type a).heap g = (st.heap g).giveUp kind a := by
  unfold afterDestroy destroyKnown?
  rw [htype.routines]
  cases kind with
  | reference => exact st.heap_setHeap _ hg
  | value => exact st.heap_setHeap _ hg

theorem registries_afterDestroy (type : ForeignType) (a : Address) :
    (st.afterDestroy type a).registries = st.registries := by
  obtain ⟨_, _, heq⟩ := st.afterDestroy_eq type a
  rw [heq]

end Store

/-! ### Work -/

theorem History.entered_cons (e : Happening) (h : History) (d : Disposal) :
    History.entered (e :: h) d = h.entered d + if e.isEntering d then 1 else 0 :=
  List.countP_cons ..

namespace Change

variable {move : Move} {s t : Site} {g : Nat}

/-- **What a change outside of operations does to a heap.**  It leaves the heap alone, unless a
    disposal of one of its objects comes to its destroy routine, or a client calls that. -/
theorem heap_cases (h : Change move s t) (hmove : ∀ operation, move ≠ .operate operation)
    (g : Nat) :
    (t.1.heap g = s.1.heap g ∧
        ∀ d, d.type.isOnHeap g = true → t.1.history.entered d = s.1.history.entered d) ∨
      (∃ thread d k, d.type.isOnHeap g = true ∧ s.2 = .counted thread d :: k ∧
        t.1 = (s.1.note (.destroying thread d)).afterDestroy d.type d.address) ∨
      ∃ thread type a, type.isOnHeap g = true ∧ move = .start (.destroy thread type a) ∧
        t.1 = s.1.afterDestroy type a := by
  cases h with
  | @entered st k thread d =>
    cases hd : d.type.isOnHeap g with
    | true => exact .inr (.inl ⟨thread, d, k, hd, rfl, rfl⟩)
    | false =>
      -- the object lives elsewhere, so this is the disposal of none of those that live here
      refine .inl ⟨Store.heap_afterDestroy_of_off _ hd d.address, fun other hother => ?_⟩
      have hne : d ≠ other := by
        rintro rfl
        rw [hd] at hother
        cases hother
      simp [History.entered_cons, Happening.isEntering, hne]
  | called thread type a hcalled =>
    cases htype : type.isOnHeap g with
    | true => exact .inr (.inr ⟨thread, type, a, htype, hcalled, rfl⟩)
    | false => exact .inl ⟨Store.heap_afterDestroy_of_off _ htype a, fun d _ => by simp⟩
  | note e he =>
    refine .inl ⟨rfl, fun d _ => ?_⟩
    rw [Store.history_note, History.entered_cons, (Happening.quiet_of_isPlain he).2 d]
    rfl
  | retype operation _ _ hoperate | registryAdded operation hoperate
  | registryUsed operation _ _ hoperate | heapAdded operation hoperate
  | heapUsed operation _ _ hoperate | flagAdded operation hoperate
  | opened operation _ _ hoperate | accepted operation _ _ _ hoperate
  | tracked operation _ _ hoperate => exact absurd hoperate (hmove operation)
  | push | pop | missed | settled | letGo | cleanerAdded | resumed | died | spent | marked =>
    exact .inl ⟨rfl, fun _ _ => rfl⟩
  | _ => exact .inl ⟨rfl, fun d _ => by simp [History.entered_cons, Happening.isEntering]⟩

/-- So where clients do not call destroy routines, only disposals free objects. -/
theorem heap_or_entered (h : Change move s t) (hmove : ∀ operation, move ≠ .operate operation)
    (hspares : move.Spares g) :
    (t.1.heap g = s.1.heap g ∧
        ∀ d, d.type.isOnHeap g = true → t.1.history.entered d = s.1.history.entered d) ∨
      ∃ thread d k, d.type.isOnHeap g = true ∧ s.2 = .counted thread d :: k ∧
        t.1 = (s.1.note (.destroying thread d)).afterDestroy d.type d.address := by
  obtain hsame | hentered | ⟨thread, type, a, htype, hcalled, -⟩ := h.heap_cases hmove g
  · exact .inl hsame
  · exact .inr hentered
  · rw [hspares.destroyed thread type a hcalled] at htype
    cases htype

/-- A change outside of operations leaves all registries alone. -/
theorem registries_eq (h : Change move s t) (hmove : ∀ operation, move ≠ .operate operation) :
    t.1.registries = s.1.registries := by
  cases h with
  | entered | called => exact Store.registries_afterDestroy ..
  | registryAdded operation hoperate | registryUsed operation _ _ hoperate =>
    exact absurd hoperate (hmove operation)
  | _ => rfl

/-- An operation that does not use a heap leaves it alone. -/
theorem heap_eq {operation : Operation} (h : Change (.operate operation) s t)
    (hheap : operation.heap? ≠ some g) : t.1.heap g = s.1.heap g := by
  cases h with
  | heapUsed _ other heap hoperate hother =>
    cases hoperate
    exact Store.heap_setHeap_of_ne _ heap fun heq => hheap (heq ▸ hother)
  | heapAdded => exact Store.heap_push _ g
  | called _ _ _ hcalled => cases hcalled
  | entered _ _ hoperate => exact absurd rfl (hoperate operation)
  | _ => rfl

/-- No disposal comes to its destroy routine in an operation. -/
theorem entered_eq {operation : Operation} (h : Change (.operate operation) s t) (d : Disposal) :
    t.1.history.entered d = s.1.history.entered d := by
  have hstep := h.disposal d
  have hview {v : DisposalView} (hstep : (s.disposalView d).Step (.operate operation) v) :
      v.entered = s.1.history.entered d := by
    cases hstep with
    | entered _ hoperate => exact absurd rfl (hoperate operation)
    | _ => rfl
  exact hview hstep

end Change

/-! ### Operations -/

namespace Store

variable {st : Store} {operation : Operation} {g : Nat}

theorem apply_heap (hadmits : st.admits operation) (hheap : operation.heap? ≠ some g) :
    (st.apply operation).heap g = st.heap g :=
  Changes.keeps (fun site => site.1.heap g = st.heap g)
    (fun hchange hs => (hchange.heap_eq hheap).trans hs) (apply_changes operation st [] hadmits) rfl

/-- A disposal that is in order stays so. -/
theorem apply_orderly_of {k : List Frame} {d : Disposal} (hadmits : st.admits operation)
    (h : Site.Orderly (st, k) d) : Site.Orderly (st.apply operation, k) d :=
  Changes.keeps (·.Orderly d)
    (fun hchange h => hchange.orderly (by rintro ⟨thread, hstart | hstart⟩ <;> cases hstart) h)
    (apply_changes operation st k hadmits) h

theorem apply_entered (hadmits : st.admits operation) (d : Disposal) :
    (st.apply operation).history.entered d = st.history.entered d :=
  Changes.keeps (fun site => site.1.history.entered d = st.history.entered d)
    (fun hchange hs => (hchange.entered_eq d).trans hs) (apply_changes operation st [] hadmits) rfl

end Store

end ForeignArena
