import ForeignArena.Proofs.Arenas.Confinement
import ForeignArena.Proofs.Arenas.Sweeps
import ForeignArena.Proofs.Runtimes.Tending

namespace ForeignArena

/-!
# Refused objects leave no trace

An arena that refuses to take care of an object stays as it is, and so does everything else
that clients can see: nothing is registered, no routine is called, and nobody will ever
dispose of the object.  An object that was allocated for the purpose is freed on the spot.

* `Store.Declines`, `Store.takeOver_declined` — why an object is refused, and what is left;
* `Store.Refuses`, `Store.Untouched` — refused operations, and what they leave as it was;
* `Heap.GivenBack`, `Heap.Holds.givenBack` — a heap that has got a new object back;
* `Schedule.Roomy`, `Schedule.lends` — heaps in a run in which all new objects have addresses;
* `Schedule.RefusalsTraceless`, `Schedule.refusalsTraceless` — what holds in every run.

What is left of an attempt is at most a flag that nobody knows, and a type in the registry of
the runtime.
-/

namespace Store

/-! ### Why objects are refused -/

/-- An arena does not take disposals in: it is bound to another thread, or not active any more. -/
inductive Declines (st : Store) (thread : ThreadId) : ArenaRef → ArenaError → Prop where
  | foreign {a : Nat} {owner : ThreadId} : (st.arena a).confinement.owner = some owner →
    owner ≠ thread → Declines st thread (.confined a) (.wrongThread owner thread)
  | closed {a : Nat} : (st.arena a).confinement.admits thread = true →
    (st.arena a).isActive = false → Declines st thread (.confined a) .closed

variable {st : Store} {thread : ThreadId} {home : ArenaRef} {e : ArenaError}

/-- A registration is refused for one of these reasons, and changes nothing. -/
theorem register_declined {d : Disposal} (h : (st.register thread home d).2 = .error e) :
    st.Declines thread home e ∧ (st.register thread home d).1 = st := by
  cases home with
  | confined a =>
    simp only [register] at h ⊢
    unfold registerConfined at h ⊢
    split at h
    · next refusal hcheck =>
      cases h
      obtain ⟨owner, howner, hne, rfl⟩ := Confinement.check_eq_error hcheck
      exact ⟨.foreign howner hne, rfl⟩
    · next hcheck =>
      split at h
      · cases h
      · next hactive =>
        cases h
        refine ⟨.closed (Confinement.check_eq_ok.mp hcheck) (by simpa using hactive), ?_⟩
        rw [if_neg hactive]
  | auto c => cases h

/-- **An object is refused** because its address is null, or by the arena.  In the first case
    nothing has happened, in the second a flag was made for it. -/
theorem takeOver_declined {address : Address} {type : ForeignType}
    (h : (st.takeOver thread address type home).2 = .error e) :
    (address.isNull = true ∧ type.permitsNull = false ∧ e = .inst (.invalidAddress type.name) ∧
        (st.takeOver thread address type home).1 = st) ∨
      (st.Declines thread home e ∧ (st.takeOver thread address type home).1 = st.newFlag.1) := by
  unfold takeOver at h ⊢
  split at h
  · next hnull =>
    cases h
    have hnull' : address.isNull = true ∧ type.permitsNull = false := by simpa using hnull
    rw [if_pos hnull]
    exact .inl ⟨hnull'.1, hnull'.2, rfl, rfl⟩
  · next hnull =>
    right
    rw [if_neg hnull]
    dsimp only at h ⊢
    have hresult : (st.newFlag.1.register thread home ⟨address, type, st.newFlag.2⟩).2 =
        .error e := by
      cases hregistered : (st.newFlag.1.register thread home ⟨address, type, st.newFlag.2⟩).2 with
      | error refusal =>
        rw [hregistered] at h
        cases h
        rfl
      | ok receipt =>
        rw [hregistered] at h
        cases h
    obtain ⟨hdeclines, hsame⟩ := register_declined hresult
    refine ⟨?_, hsame⟩
    cases hdeclines with
    | foreign howner hne => exact .foreign howner hne
    | closed hadmits hactive => exact .closed hadmits hactive

/-! ### What is left -/

/-- Arenas, cleaners, tallies and flags are as they were, nothing was registered, and no routine was
    called. -/
structure Traceless (st after : Store) : Prop extends st.Undisturbed after where
  cleaners : after.cleaners = st.cleaners
  tallies : after.tallies = st.tallies

namespace Traceless

variable {middle after : Store}

theorem refl (st : Store) : st.Traceless st := ⟨.refl st, rfl, rfl⟩

theorem trans (h : st.Traceless middle) (h' : middle.Traceless after) : st.Traceless after :=
  ⟨h.toUndisturbed.trans h'.toUndisturbed, h'.cleaners.trans h.cleaners, h'.tallies.trans h.tallies⟩

/-- A heap is not among them. -/
theorem setHeap (st : Store) (h : Nat) (heap : Heap) : st.Traceless (st.setHeap h heap) :=
  ⟨⟨rfl, fun _ => rfl, rfl, rfl⟩, rfl, rfl⟩

theorem runtimeType (st : Store) (thread : ThreadId) (ρ : ForeignRuntime) (name : String)
    (kind : TypeKind) : st.Traceless (st.runtimeType thread ρ name kind).1 := by
  have hsame : (st.runtimeType thread ρ name kind).1.cleaners = st.cleaners ∧
      (st.runtimeType thread ρ name kind).1.tallies = st.tallies := by
    obtain ⟨fresh, heq⟩ := runtimeType_fst st thread ρ name kind
    rw [heq]
    unfold findOrMakeType
    dsimp only
    split <;> exact ⟨rfl, rfl⟩
  exact ⟨.runtimeType st thread ρ name kind, hsame.1, hsame.2⟩

end Traceless

/-- A refused object leaves no trace. -/
theorem takeOver_traceless {address : Address} {type : ForeignType}
    (h : (st.takeOver thread address type home).2 = .error e) :
    st.Traceless (st.takeOver thread address type home).1 := by
  obtain ⟨-, -, -, hsame⟩ | ⟨-, hsame⟩ := takeOver_declined h
  · rw [hsame]
    exact .refl st
  · rw [hsame]
    exact ⟨.newFlag st, rfl, rfl⟩

variable {ρ : ForeignRuntime} {typeName : String} {kind : TypeKind} {payload : Int64}

/-- A refused object that was made for the purpose leaves no trace but in its own heap. -/
theorem newOnHeap_traceless
    (h : (st.newOnHeap thread ρ typeName kind payload home).2 = .error e) :
    st.Traceless (st.newOnHeap thread ρ typeName kind payload home).1 ∧
      ∀ g ≠ ρ.heap, (st.newOnHeap thread ρ typeName kind payload home).1.heap g = st.heap g := by
  unfold newOnHeap at h ⊢
  dsimp only at h ⊢
  generalize (st.heap ρ.heap).allocate typeName payload = allocated at h ⊢
  have halloc := Traceless.setHeap st ρ.heap allocated.1
  have htype := halloc.trans (.runtimeType _ thread ρ typeName kind)
  have hheaps := heaps_runtimeType (st.setHeap ρ.heap allocated.1) thread ρ typeName kind
  generalize (st.setHeap ρ.heap allocated.1).runtimeType thread ρ typeName kind = typed
    at h htype hheaps ⊢
  obtain ⟨hheaps', -⟩ := typed.1.takeOver_frame thread allocated.2 typed.2 home
  cases hresult : (typed.1.takeOver thread allocated.2 typed.2 home).2 with
  | ok inst =>
    rw [hresult] at h
    cases h
  | error refusal =>
    have htake := htype.trans (takeOver_traceless hresult)
    have hother (g : Nat) (hg : g ≠ ρ.heap) :
        (typed.1.takeOver thread allocated.2 typed.2 home).1.heap g = st.heap g := by
      rw [Store.heap, hheaps', hheaps]
      exact st.heap_setHeap_of_ne _ hg.symm
    refine ⟨htake.trans ?_, fun g hg => ?_⟩
    · cases kind <;> exact .setHeap _ _ _
    · rw [← hother g hg]
      cases kind <;> exact heap_setHeap_of_ne _ _ hg.symm

end Store

/-! ### Heaps -/

namespace Heap

/-- A heap has got back an object that it had just handed out, at an address that it had never
    handed out before.  This is on record, and nothing else has changed. -/
structure GivenBack (before after : Heap) (a : Address) : Prop where
  fresh : ¬before.objects.Issued a
  freed : after.freed = before.freed.push a
  once : a ∉ before.freed
  live : after.live = before.live
  invalidFrees : after.invalidFrees = before.invalidFrees
  objects : ∀ b, after.get? b = before.get? b

/-- **A new object that is given up at once** is freed, and so once in all. -/
theorem Holds.givenBack {h : Heap} {d : Directory HeapObject} (hholds : h.Holds d)
    (hroom : h.objects.HasRoom) (typeName : String) (kind : TypeKind) (payload : Int64) :
    h.GivenBack ((h.allocate typeName payload).1.giveUp kind (h.allocate typeName payload).2)
      (h.allocate typeName payload).2 := by
  obtain ⟨hnew, -, hallocated⟩ := hholds.allocate hroom typeName payload
  have hfreed : (h.allocate typeName payload).1.freed = h.freed := rfl
  have hinvalid : (h.allocate typeName payload).1.invalidFrees = h.invalidFrees := rfl
  generalize h.allocate typeName payload = allocated at hnew hallocated hfreed hinvalid ⊢
  obtain ⟨heap, a⟩ := allocated
  dsimp only at hnew hallocated hfreed hinvalid ⊢
  have hget : heap.get? a = some ⟨typeName, 1, payload⟩ := by
    rw [hallocated.get?]
    exact Function.update_self ..
  -- its only reference is given back, or it is destroyed, which comes to the same
  have hgiveUp : heap.giveUp kind a =
      { heap with objects := (heap.objects.remove a).1, freed := heap.freed.push a } := by
    cases kind with
    | reference => exact congrArg Prod.fst (release_of_last hget (show (1 : UInt64) - 1 = 0 by decide))
    | value => exact congrArg Prod.fst (destroy_of_some hallocated.table.sound hget)
  have hafter := hallocated.removed hget
  have hnone : d.value a = none := by
    refine Option.not_isSome_iff_eq_none.mp fun hsome => hnew ?_
    exact ((hholds.table.present a).mp hsome).1
  rw [hgiveUp]
  constructor
  case fresh => exact fun hissued => hnew ((hholds.table.issued a).mp hissued)
  case freed =>
    dsimp only
    rw [hfreed]
  case once =>
    intro hmem
    refine hnew (hholds.table.subset a ?_)
    rw [← hholds.freed]
    exact Array.mem_toList_iff.mpr hmem
  case live =>
    have hsize := hholds.table.size
    have hsize' := hafter.table.size
    simp only [List.length_append, List.length_singleton] at hsize'
    show (heap.objects.remove a).1.size = h.objects.size
    omega
  case invalidFrees => exact hinvalid
  case objects =>
    intro b
    rw [hafter.get?, hholds.get?]
    dsimp only
    by_cases hba : b = a
    · rw [hba, Function.update_self, hnone]
    · rw [Function.update_of_ne hba, Function.update_of_ne hba]

/-- What is freed is on record for ever. -/
theorem freed_isPrefix_perform (h : Heap) (use : Use) :
    h.freed.toList <+: (h.perform use).1.freed.toList := by
  have hpush (a : Address) : h.freed.toList <+: (h.freed.push a).toList := by
    rw [Array.toList_push]
    exact List.prefix_append ..
  cases use with
  | allocate typeName payload => exact List.prefix_rfl
  | retain a =>
    unfold perform retain
    dsimp only
    split <;> exact List.prefix_rfl
  | release a =>
    unfold perform release
    dsimp only
    split
    · exact List.prefix_rfl
    · split
      · exact hpush a
      · exact List.prefix_rfl
  | destroy a =>
    unfold perform destroy
    dsimp only
    split
    · exact hpush a
    · exact List.prefix_rfl

end Heap

/-! ### Operations -/

namespace Store

variable {st : Store} {operation : Operation} {e : ArenaError} {thread : ThreadId}
  {home : ArenaRef} {h : Nat}

/-- An operation takes an object over, one that is there or a new one, and is refused. -/
inductive Refuses (st : Store) : Operation → ArenaError → Prop where
  | given {thread : ThreadId} {address : Address} {type : ForeignType} {home : ArenaRef}
      {e : ArenaError} : (st.takeOver thread address type home).2 = .error e →
    Refuses st (.takeOver thread address type home) e
  | object {thread : ThreadId} {ρ : ForeignRuntime} {payload : Int64} {home : ArenaRef}
      {e : ArenaError} : (st.newObject thread ρ payload home).2 = .error e →
    Refuses st (.newObject thread ρ payload home) e
  | value {thread : ThreadId} {ρ : ForeignRuntime} {payload : Int64} {home : ArenaRef}
      {e : ArenaError} : (st.newValue thread ρ payload home).2 = .error e →
    Refuses st (.newValue thread ρ payload home) e

/-- An object that was made for the purpose is refused for the same reasons. -/
theorem newOnHeap_declined {ρ : ForeignRuntime} {typeName : String} {kind : TypeKind}
    {payload : Int64} (h : (st.newOnHeap thread ρ typeName kind payload home).2 = .error e) :
    (((st.heap ρ.heap).allocate typeName payload).2.isNull = true ∧
        ∃ name, e = .inst (.invalidAddress name)) ∨
      (st.Declines thread home e ∧
        (st.newOnHeap thread ρ typeName kind payload home).1.flags = st.flags.push false) := by
  unfold newOnHeap at h ⊢
  dsimp only at h ⊢
  generalize (st.heap ρ.heap).allocate typeName payload = allocated at h ⊢
  have hflags : ((st.setHeap ρ.heap allocated.1).runtimeType thread ρ typeName kind).1.flags =
      st.flags := by
    obtain ⟨fresh, heq⟩ := runtimeType_fst (st.setHeap ρ.heap allocated.1) thread ρ typeName kind
    rw [heq]
    unfold findOrMakeType
    dsimp only
    split <;> rfl
  have htype := Undisturbed.runtimeType (st.setHeap ρ.heap allocated.1) thread ρ typeName kind
  generalize (st.setHeap ρ.heap allocated.1).runtimeType thread ρ typeName kind = typed
    at h hflags htype ⊢
  cases hresult : (typed.1.takeOver thread allocated.2 typed.2 home).2 with
  | ok inst =>
    rw [hresult] at h
    cases h
  | error refusal =>
    rw [hresult] at h
    cases h
    obtain ⟨hnull, -, he, -⟩ | ⟨hdeclines, hsame⟩ := takeOver_declined hresult
    · exact .inl ⟨hnull, _, he⟩
    · right
      rw [hsame]
      refine ⟨?_, ?_⟩
      · have harena (a : Nat) : typed.1.arena a = st.arena a := by
          rw [arena, arena, htype.arenas]
          rfl
        cases hdeclines with
        | @foreign a owner howner hne => exact .foreign (by rw [← harena]; exact howner) hne
        | @closed a hadmits hactive =>
          exact .closed (by rw [← harena]; exact hadmits) (by rw [← harena]; exact hactive)
      · rw [← hflags]
        cases kind <;> rfl

namespace Refuses

/-- **An object is refused** because its address is null, or by the arena; then a flag was made. -/
theorem declined (hrefuses : st.Refuses operation e)
    (hregisters : operation.registers? = some (thread, home)) :
    (∃ name, e = .inst (.invalidAddress name)) ∨
      st.Declines thread home e ∧ (st.apply operation).flags = st.flags.push false := by
  cases hrefuses with
  | given h =>
    cases hregisters
    obtain ⟨-, -, he, -⟩ | ⟨hdeclines, hsame⟩ := takeOver_declined h
    · exact .inl ⟨_, he⟩
    · exact .inr ⟨hdeclines, congrArg Store.flags hsame⟩
  | object h | value h =>
    cases hregisters
    obtain ⟨-, hname⟩ | hdeclined := newOnHeap_declined h
    · exact .inl hname
    · exact .inr hdeclined

/-- Nothing is registered. -/
theorem registered (hrefuses : st.Refuses operation e) : st.registered operation = [] := by
  cases hrefuses with
  | given h | object h | value h => simp [Store.registered, made, taken, h]

/-- **Nothing is left of it**, but in the heap where an object was made for the purpose. -/
theorem traceless (hrefuses : st.Refuses operation e) : st.Traceless (st.apply operation) := by
  cases hrefuses with
  | given h => exact takeOver_traceless h
  | object h | value h => exact (newOnHeap_traceless h).1

/-- An object that was made for the purpose is given back, and it was the arena that refused it. -/
theorem givenBack (hrefuses : st.Refuses operation e) (hadmits : st.admits operation)
    (hheap : operation.heap? = some h) {d : Directory HeapObject} (hholds : (st.heap h).Holds d)
    (hroom : (st.heap h).objects.HasRoom) :
    (∃ thread home, operation.registers? = some (thread, home) ∧ st.Declines thread home e) ∧
      ∃ a, (st.heap h).GivenBack ((st.apply operation).heap h) a := by
  have hnew {thread : ThreadId} {ρ : ForeignRuntime} {typeName : String} {kind : TypeKind}
      {payload : Int64} {home : ArenaRef}
      (hresult : (st.newOnHeap thread ρ typeName kind payload home).2 = .error e)
      (hruntime : st.hasRuntime ρ) (hρ : ρ.heap = h) :
      st.Declines thread home e ∧
        ∃ a, (st.heap h).GivenBack
          ((st.newOnHeap thread ρ typeName kind payload home).1.heap h) a := by
    subst hρ
    simp only [hasRuntime, Bool.and_eq_true, decide_eq_true_eq] at hruntime
    obtain ⟨-, hnull, -⟩ := hholds.allocate hroom typeName payload
    constructor
    · obtain ⟨hnull', -⟩ | ⟨hdeclines, -⟩ := newOnHeap_declined hresult
      · rw [hnull] at hnull'
        cases hnull'
      · exact hdeclines
    · rw [(st.newOnHeap_heap thread typeName kind payload home hruntime.1).2 e hresult]
      exact ⟨_, hholds.givenBack hroom typeName kind payload⟩
  cases hrefuses with
  | given => cases hheap
  | object hresult | value hresult =>
    simp only [admits, Bool.and_eq_true] at hadmits
    obtain ⟨hdeclines, hback⟩ := hnew hresult hadmits.2 (Option.some.inj hheap)
    exact ⟨⟨_, _, rfl, hdeclines⟩, hback⟩

end Refuses

/-! ### What was freed -/

/-- A use of a heap shows behind its handle, if the handle is known. -/
theorem setHeap_freed (st : Store) (h : Nat) (use : Heap.Use) :
    (st.heap h).freed.toList <+:
      ((st.setHeap h ((st.heap h).perform use).1).heap h).freed.toList := by
  by_cases hknown : h < st.heaps.size
  · rw [st.heap_setHeap _ hknown]
    exact Heap.freed_isPrefix_perform _ use
  · have hsame : (st.setHeap h ((st.heap h).perform use).1).heap h = st.heap h := by
      simp [setHeap, Store.heap, hknown]
    simp only [hsame, List.prefix_rfl]

/-- What is freed stays on record in an operation, -/
theorem apply_freed (hadmits : st.admits operation) :
    (st.heap h).freed.toList <+: ((st.apply operation).heap h).freed.toList := by
  have hnew {thread : ThreadId} {ρ : ForeignRuntime} {typeName : String} {kind : TypeKind}
      {payload : Int64} {home : ArenaRef} (hruntime : st.hasRuntime ρ) :
      (st.heap ρ.heap).freed.toList <+:
        ((st.newOnHeap thread ρ typeName kind payload home).1.heap ρ.heap).freed.toList := by
    simp only [hasRuntime, Bool.and_eq_true, decide_eq_true_eq] at hruntime
    obtain ⟨haccepted, hrefused⟩ :=
      st.newOnHeap_heap thread typeName kind payload home hruntime.1
    cases hresult : (st.newOnHeap thread ρ typeName kind payload home).2 with
    | ok i =>
      rw [(haccepted i hresult).2]
      exact List.prefix_rfl
    | error e =>
      rw [hrefused e hresult]
      have hallocated : ((st.heap ρ.heap).allocate typeName payload).1.freed =
          (st.heap ρ.heap).freed := rfl
      rw [← hallocated]
      cases kind with
      | reference => exact Heap.freed_isPrefix_perform _ (.release _)
      | value => exact Heap.freed_isPrefix_perform _ (.destroy _)
  by_cases hheap : operation.heap? = some h
  · cases operation with
    | allocate heap typeName payload =>
      cases hheap
      exact setHeap_freed st h (.allocate typeName payload)
    | retain heap a =>
      cases hheap
      have huse : ((st.heap h).retain a).1 = ((st.heap h).perform (.retain a)).1 := rfl
      simp only [apply, huse]
      exact setHeap_freed st h (.retain a)
    | release heap a =>
      cases hheap
      exact setHeap_freed st h (.release a)
    | destroy heap a =>
      cases hheap
      exact setHeap_freed st h (.destroy a)
    | retainObject inst heap =>
      cases hheap
      simp only [apply, retainObject_fst]
      split
      · exact setHeap_freed st h (.retain inst.address)
      · exact List.prefix_rfl
    | newObject thread ρ payload home | newValue thread ρ payload home =>
      simp only [admits, Bool.and_eq_true] at hadmits
      obtain rfl : ρ.heap = h := Option.some.inj hheap
      exact hnew hadmits.2
    | _ => cases hheap
  · simp only [apply_heap hadmits hheap, List.prefix_rfl]

/-- and when a destroy routine is called. -/
theorem afterDestroy_freed (st : Store) (h : Nat) (type : ForeignType) (a : Address) :
    (st.heap h).freed.toList <+: ((st.afterDestroy type a).heap h).freed.toList := by
  by_cases htype : type.isOnHeap h = true
  · have hroutines : type.routines = .heapObject h ∨ type.routines = .heapValue h := by
      simpa [ForeignType.isOnHeap] using htype
    unfold afterDestroy destroyKnown?
    obtain hobject | hvalue := hroutines
    · rw [hobject]
      exact setHeap_freed st h (.release a)
    · rw [hvalue]
      exact setHeap_freed st h (.destroy a)
  · simp only [st.heap_afterDestroy_of_off (Bool.eq_false_iff.mpr htype), List.prefix_rfl]

end Store

/-- In all other changes, too. -/
theorem Change.freed {move : Move} {s t : Site} (hchange : Change move s t)
    (hmove : ∀ operation, move ≠ .operate operation) (h : Nat) :
    (s.1.heap h).freed.toList <+: (t.1.heap h).freed.toList := by
  obtain ⟨hsame, -⟩ | ⟨thread, d, k, -, -, heq⟩ | ⟨thread, type, a, -, -, heq⟩ :=
    hchange.heap_cases hmove h
  · simp only [hsame, List.prefix_rfl]
  · rw [heq]
    exact Store.afterDestroy_freed (s.1.note (.destroying thread d)) h d.type d.address
  · rw [heq]
    exact Store.afterDestroy_freed s.1 h type a

/-! ### Runs -/

namespace Schedule

variable {σ : Schedule} {h k l m n : Nat}

/-- Before moment `n`, whoever allocates an object on a heap finds the heap there, and an address
    for the object. -/
def Roomy (σ : Schedule) (h n : Nat) : Prop :=
  ∀ l < n, ∀ operation, (σ.after l).operation? (σ l) = some operation →
    operation.allocates? = some h →
    h < (σ.after l).store.heaps.size ∧ ((σ.after l).store.heap h).objects.HasRoom

/-- **A heap holds what it has handed out**, as long as it finds addresses. -/
theorem Roomy.lends (hroom : σ.Roomy h n) (hmn : m ≤ n) :
    ∃ d, ((σ.after m).store.heap h).Lends d (σ.extra h m) := by
  induction m with
  | zero => exact ⟨{}, Heap.holds_empty, fun b hb => absurd hb (Nat.lt_irrefl 0)⟩
  | succ m ih =>
    obtain ⟨d, hlends⟩ := ih (Nat.le_of_succ_le hmn)
    rw [extra]
    cases hoperation : (σ.after m).operation? (σ m) with
    | some operation =>
      obtain ⟨hstore, hadmits, -⟩ := Machine.store_of_operation hoperation
      obtain ⟨d', hlends', -⟩ :=
        Store.apply_lends hlends hadmits (hroom m hmn operation hoperation)
      rw [after, hstore]
      exact ⟨d', hlends'⟩
    | none =>
      refine @Machine.keeps_of_no_operation (σ.after m) (σ m)
        (fun st _ => ∃ d, (st.heap h).Lends d (σ.extra h m)) hoperation (fun _ hs => hs)
        (fun {i move s t} _ hmove hchange hs => ?_) ⟨d, hlends⟩
      obtain ⟨d, hlends⟩ := hs
      have hcalled (st : Store) (type : ForeignType) (a : Address)
          (hlends : (st.heap h).Lends d (σ.extra h m)) :
          ∃ d', ((st.afterDestroy type a).heap h).Lends d' (σ.extra h m) := by
        obtain ⟨d', hlends', -⟩ := Store.afterDestroy_lends hlends type a
        exact ⟨d', hlends'⟩
      obtain ⟨hsame, -⟩ | ⟨thread, e, k, -, -, heq⟩ | ⟨thread, type, a, -, -, heq⟩ :=
        hchange.heap_cases hmove h
      · rw [hsame]
        exact ⟨d, hlends⟩
      · rw [heq]
        exact hcalled (s.1.note (.destroying thread e)) e.type e.address hlends
      · rw [heq]
        exact hcalled s.1 type a hlends

/-- What is freed is on record for ever. -/
theorem freed_mono (σ : Schedule) (h : Nat) (hnm : n ≤ m) :
    ((σ.after n).store.heap h).freed.toList <+: ((σ.after m).store.heap h).freed.toList := by
  induction hnm with
  | refl => exact List.prefix_rfl
  | @step m _ ih =>
    refine ih.trans ?_
    rw [after]
    cases hoperation : (σ.after m).operation? (σ m) with
    | some operation =>
      obtain ⟨hstore, hadmits, -⟩ := Machine.store_of_operation hoperation
      rw [hstore]
      exact Store.apply_freed hadmits
    | none =>
      exact @Machine.keeps_of_no_operation (σ.after m) (σ m)
        (fun st _ => ((σ.after m).store.heap h).freed.toList <+: (st.heap h).freed.toList)
        hoperation (fun _ hs => hs)
        (fun _ hmove hchange hs => hs.trans (hchange.freed hmove h)) List.prefix_rfl

/-- What was freed is not there any more, and was freed once. -/
theorem Roomy.freed_once (hroom : σ.Roomy h n) {a : Address}
    (hmem : a ∈ ((σ.after n).store.heap h).freed) :
    ((σ.after n).store.heap h).freed.toList.count a = 1 ∧
      ((σ.after n).store.heap h).get? a = none := by
  obtain ⟨d, hlends⟩ := hroom.lends (Nat.le_refl n)
  have honce : ((σ.after n).store.heap h).freed.toList.Nodup := by
    rw [hlends.holds.freed]
    exact hlends.holds.table.taken
  refine ⟨List.count_eq_one_of_mem honce (Array.mem_toList_iff.mpr hmem), ?_⟩
  refine Option.not_isSome_iff_eq_none.mp fun hsome => ?_
  exact ((hlends.holds.live_iff a).mp hsome).2 hmem

/-- What arenas and cleaners run of a flag that did not exist at some moment was registered then or
    later. -/
theorem registered_of_runs {flag : Nat} (hflag : (σ.after n).store.flags.size ≤ flag) {e : Entry}
    (he : e ∈ (σ.after m).store.history.runs flag) :
    ∃ l, n ≤ l ∧ l < m ∧ e ∈ (σ.after l).registered (σ l) := by
  have hentry := (σ.sound m).mem_of_runs he
  have heflag : e.disposal.flag = flag := (History.mem_runs.mp he).1
  -- on how far the entry goes back: at moment `n` it was not there
  clear he
  induction m with
  | zero => cases hentry
  | succ m ih =>
    by_cases hnm : n ≤ m
    · rw [σ.entries_succ m] at hentry
      obtain hentry | hentry := List.mem_append.mp hentry
      · obtain ⟨l, hnl, hlm, hregistered⟩ := ih hentry
        exact ⟨l, hnl, Nat.lt_succ_of_lt hlm, hregistered⟩
      · exact ⟨m, hnm, Nat.lt_succ_self m, hentry⟩
    · -- it was there at moment `n`, and so was the flag
      have hknown := (σ.flagView_grows flag (Nat.not_le.mp hnm)).1
        (heflag ▸ (σ.sound (m + 1)).flags e hentry)
      exact absurd hflag (Nat.not_le.mpr hknown)

/-- An entry that was registered with a flag which existed before was handed in by a client. -/
theorem operation_of_registered {e : Entry}
    (hflag : e.disposal.flag < (σ.after l).store.flags.size)
    (he : e ∈ (σ.after l).registered (σ l)) :
    ∃ thread, (σ.after l).operation? (σ l) = some (.register thread e.home e.disposal) := by
  unfold Machine.registered at he
  cases hoperation : (σ.after l).operation? (σ l) with
  | none =>
    rw [hoperation] at he
    cases he
  | some operation =>
    rw [hoperation] at he
    by_cases hregister : ∃ thread home d, operation = .register thread home d
    · obtain ⟨thread, home, d, rfl⟩ := hregister
      simp only [Store.registered] at he
      split at he
      · obtain rfl := List.mem_singleton.mp he
        exact ⟨thread, rfl⟩
      · cases he
    · -- all other entries are of new instances, whose flags are new
      have hmade : (σ.after l).store.registered operation =
          ((σ.after l).store.made operation).map fun taken => taken.2.entry taken.1 := by
        cases operation with
        | register thread home d => exact absurd ⟨thread, home, d, rfl⟩ hregister
        | _ => rfl
      dsimp only at he
      rw [hmade] at he
      obtain ⟨⟨home, i⟩, hmem, rfl⟩ := List.mem_map.mp he
      have hin : (home, i) ∈ (σ.after l).made (σ l) := by
        rw [Machine.made, hoperation]
        exact hmem
      exact absurd hflag (Nat.not_lt.mpr (Machine.of_made hin).2.1)

/-! ### What holds in every run -/

/-- What holds of the objects that are refused in a run. -/
structure RefusalsTraceless (σ : Schedule) : Prop where
  /-- A null address is refused if the type does not permit it, and then nothing has happened at
      all.  Otherwise it is the arena that refuses. -/
  given : ∀ n thread address type home e,
    (σ.after n).operation? (σ n) = some (.takeOver thread address type home) →
    ((σ.after n).store.takeOver thread address type home).2 = .error e →
    (address.isNull = true ∧ type.permitsNull = false ∧ e = .inst (.invalidAddress type.name) ∧
        σ.after (n + 1) = σ.after n) ∨
      (σ.after n).store.Declines thread home e
  /-- Arenas, cleaners, tallies and flags are as they were, no strand has moved, nothing was
      registered, and no routine was called. -/
  traceless : ∀ n operation e, (σ.after n).operation? (σ n) = some operation →
    (σ.after n).store.Refuses operation e →
    (σ.after n).store.Traceless (σ.after (n + 1)).store ∧
      (σ.after (n + 1)).strands = (σ.after n).strands ∧ (σ.after n).registered (σ n) = []
  /-- No heap has changed but the one where an object was made for the purpose. -/
  heaps : ∀ n operation e g, (σ.after n).operation? (σ n) = some operation →
    (σ.after n).store.Refuses operation e → operation.heap? ≠ some g →
    (σ.after (n + 1)).store.heap g = (σ.after n).store.heap g
  /-- The flag that was made for an object that an arena refuses is a new one.  Whatever happens
      later, no arena and no cleaner runs a disposal with it, unless a client who makes a disposal
      with this very flag registers it. -/
  never : ∀ n operation e thread home, (σ.after n).operation? (σ n) = some operation →
    (σ.after n).store.Refuses operation e → operation.registers? = some (thread, home) →
    (σ.after n).store.Declines thread home e →
    ∀ m, ∀ entry ∈ (σ.after m).store.history.runs (σ.after n).store.flags.size,
      ∃ l, n < l ∧ l < m ∧ ∃ client, (σ.after l).operation? (σ l) =
        some (.register client entry.home entry.disposal)
  /-- An object that was made for the purpose is given back to its heap, at a fresh address; it was
      the arena that refused it. -/
  givenBack : ∀ n operation e h, (σ.after n).operation? (σ n) = some operation →
    (σ.after n).store.Refuses operation e → operation.heap? = some h → σ.Roomy h (n + 1) →
    (∃ thread home, operation.registers? = some (thread, home) ∧
        (σ.after n).store.Declines thread home e) ∧
      ∃ a, ((σ.after n).store.heap h).GivenBack ((σ.after (n + 1)).store.heap h) a
  /-- It is freed once in all, and never there again. -/
  freedOnce : ∀ n m h a, ((σ.after n).store.heap h).GivenBack ((σ.after (n + 1)).store.heap h) a →
    n < m → σ.Roomy h m →
    ((σ.after m).store.heap h).freed.toList.count a = 1 ∧ ((σ.after m).store.heap h).get? a = none

/-- **Refused objects leave no trace.** -/
theorem refusalsTraceless (σ : Schedule) : σ.RefusalsTraceless where
  given n thread address type home e hoperation hresult := by
    obtain ⟨hstore, -, i, hact⟩ := Machine.store_of_operation hoperation
    obtain ⟨hnull, hpermits, he, hsame⟩ | ⟨hdeclines, -⟩ := Store.takeOver_declined hresult
    · refine .inl ⟨hnull, hpermits, he, ?_⟩
      have hstrands : (σ.after (n + 1)).strands = (σ.after n).strands := by
        rw [after, hact, Machine.strands_operate]
      have hstore : (σ.after (n + 1)).store = (σ.after n).store := hstore.trans hsame
      generalize σ.after (n + 1) = final at hstrands hstore
      obtain ⟨store, strands⟩ := final
      dsimp only at hstrands hstore
      rw [hstrands, hstore]
    · exact .inr hdeclines
  traceless n operation e hoperation hrefuses := by
    obtain ⟨hstore, -, i, hact⟩ := Machine.store_of_operation hoperation
    refine ⟨?_, ?_, ?_⟩
    · rw [after, hstore]
      exact hrefuses.traceless
    · rw [after, hact, Machine.strands_operate]
    · rw [Machine.registered, hoperation]
      exact hrefuses.registered
  heaps n operation e g hoperation _ hheap := by
    obtain ⟨hstore, hadmits, -⟩ := Machine.store_of_operation hoperation
    rw [after, hstore, Store.apply_heap hadmits hheap]
  never n operation e thread home hoperation hrefuses hregisters hdeclines m entry hentry := by
    obtain ⟨hstore, -⟩ := Machine.store_of_operation hoperation
    have hflags : (σ.after (n + 1)).store.flags.size = (σ.after n).store.flags.size + 1 := by
      obtain ⟨name, rfl⟩ | ⟨-, hflags⟩ := hrefuses.declined hregisters
      · cases hdeclines
      · rw [after, hstore, hflags, Array.size_push]
    obtain ⟨l, hnl, hlm, hregistered⟩ := registered_of_runs (Nat.le_refl _) hentry
    have heflag : entry.disposal.flag = (σ.after n).store.flags.size :=
      (History.mem_runs.mp hentry).1
    -- in the refused operation nothing was registered, so it was later, and the flag existed
    obtain rfl | hnl := Nat.eq_or_lt_of_le hnl
    · rw [Machine.registered, hoperation] at hregistered
      dsimp only at hregistered
      rw [hrefuses.registered] at hregistered
      cases hregistered
    · refine ⟨l, hnl, hlm, operation_of_registered ?_ hregistered⟩
      refine (σ.flagView_grows entry.disposal.flag (Nat.succ_le_of_lt hnl)).1 ?_
      show entry.disposal.flag < (σ.after (n + 1)).store.flags.size
      omega
  givenBack n operation e h hoperation hrefuses hheap hroomy := by
    obtain ⟨hstore, hadmits, -⟩ := Machine.store_of_operation hoperation
    obtain ⟨d, hlends⟩ := hroomy.lends (Nat.le_succ n)
    have hallocates : operation.allocates? = some h := by
      cases hrefuses with
      | given => cases hheap
      | object | value => exact hheap
    have hroom := (hroomy n (Nat.lt_succ_self n) operation hoperation hallocates).2
    rw [after, hstore]
    exact hrefuses.givenBack hadmits hheap hlends.holds hroom
  freedOnce n m h a hback hnm hroomy := by
    refine hroomy.freed_once ?_
    have hfreed : a ∈ ((σ.after (n + 1)).store.heap h).freed.toList := by
      rw [hback.freed, Array.toList_push]
      exact List.mem_append_right _ (List.mem_singleton.mpr rfl)
    exact Array.mem_toList_iff.mp ((σ.freed_mono h (Nat.succ_le_of_lt hnm)).subset hfreed)

/-- A run in which a second object is made for an arena by a thread that may not use it. -/
def refusing : Schedule
  | 0 => .spawn
  | 1 => .move 0 (.operate .newRuntime)
  | 2 => .move 0 (.operate (.openArena .main {}))
  | 3 => .move 0 (.operate (.newObject .main ⟨0, 0⟩ 7 (.confined 0)))
  | 4 => .move 0 (.operate (.newObject (.worker "w1") ⟨0, 0⟩ 8 (.confined 0)))
  | 5 => .move 0 (.start (.close .main 0))
  | _ => .move 0 .tick

theorem refusing_roomy : refusing.Roomy 0 5 := by
  intro l hl operation hoperation hallocates
  match l with
  | 0 => cases hoperation
  | 1 | 2 =>
    obtain rfl := Option.some.inj hoperation
    cases hallocates
  | 3 | 4 => exact ⟨by decide, fun _ => by decide⟩

/-- The second object is freed at once, and the first one is left alone. -/
theorem refusalsTraceless_refusing :
    (refusing.after 4).store.Refuses (.newObject (.worker "w1") ⟨0, 0⟩ 8 (.confined 0))
      (.wrongThread .main (.worker "w1")) ∧
    refusing.Roomy 0 5 ∧
    ∃ a, ((refusing.after 4).store.heap 0).GivenBack ((refusing.after 5).store.heap 0) a ∧
      ((refusing.after 5).store.heap 0).freed.toList.count a = 1 ∧
      ((refusing.after 5).store.heap 0).live = 1 := by
  have hrefuses : (refusing.after 4).store.Refuses
      (.newObject (.worker "w1") ⟨0, 0⟩ 8 (.confined 0)) (.wrongThread .main (.worker "w1")) :=
    .object rfl
  obtain ⟨-, a, hback⟩ :=
    (refusalsTraceless refusing).givenBack 4 _ _ 0 rfl hrefuses rfl refusing_roomy
  exact ⟨hrefuses, refusing_roomy, a, hback,
    ((refusalsTraceless refusing).freedOnce 4 5 0 a hback (by decide) refusing_roomy).1, rfl⟩

end Schedule

end ForeignArena
