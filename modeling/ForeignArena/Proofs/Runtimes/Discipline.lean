import ForeignArena.Proofs.AddressTables
import ForeignArena.Proofs.Disposals
import ForeignArena.Proofs.Registering
import ForeignArena.Proofs.Runtimes.Ledger

namespace ForeignArena

/-!
# The proper use of a runtime

A runtime is in proper use as long as its types come from its own constructors, and those
who free objects at once, without a wrapper, free only what they hold.  Wrappers may be
built and dropped, and arenas closed, in whatever order, from any thread, and from inside
of whatever supplied code; and nothing is asked of objects that live elsewhere.

* `Store.wraps`, `Schedule.wrapped` — the wrappers of a runtime;
* `Store.extraAfter`, `Schedule.extra` — the extra references to its objects;
* `Store.Uses` — how a client may use its heap, beside letting disposals run;
* `Store.Abides`, `Move.Spares`, `Schedule.Abides` — the proper use of a runtime.
-/

/-! ### Wrappers -/

/-- The kind and the payload of the object that an operation builds with a runtime. -/
def Operation.builds? (ρ : ForeignRuntime) : Operation → Option (TypeKind × Int64)
  | newObject _ runtime payload _ => if runtime = ρ then some (.reference, payload) else none
  | newValue _ runtime payload _ => if runtime = ρ then some (.value, payload) else none
  | _ => none

/-- The wrapper that an operation makes of a new object of a runtime, unless an arena refuses
    it. -/
def Store.wraps (st : Store) (ρ : ForeignRuntime) (operation : Operation) : List Wrapped :=
  match operation.builds? ρ with
  | some (kind, payload) =>
    (st.made operation).map fun (home, inst) => { home, inst, kind, payload }
  | none => []

/-! ### Extra references -/

/-- The extra references to the objects of a heap, by address, after an operation.  Who
    allocates an object without a wrapper holds its first reference. -/
def Store.extraAfter (st : Store) (h : Nat) (extra : Address → Nat) :
    Operation → Address → Nat
  | .allocate heap typeName payload =>
    if heap = h then Function.update extra ((st.heap h).allocate typeName payload).2 1 else extra
  | .retain heap a =>
    if heap = h ∧ ((st.heap h).get? a).isSome then Function.update extra a (extra a + 1) else extra
  | .retainObject inst heap =>
    match st.readObject st inst heap "object" with
    | .ok (.ok _) =>
      if heap = h then Function.update extra inst.address (extra inst.address + 1) else extra
    | _ => extra
  | .release heap a => if heap = h then Function.update extra a (extra a - 1) else extra
  | _ => extra

namespace Schedule

/-- The wrappers of a runtime that were made before moment `n`. -/
def wrapped (σ : Schedule) (ρ : ForeignRuntime) : Nat → List Wrapped
  | 0 => []
  | n + 1 =>
    match (σ.after n).operation? (σ n) with
    | some operation => σ.wrapped ρ n ++ (σ.after n).store.wraps ρ operation
    | none => σ.wrapped ρ n

/-- The extra references to the objects of a heap at moment `n`: those taken before and not
    given back. -/
def extra (σ : Schedule) (h : Nat) : Nat → Address → Nat
  | 0 => fun _ => 0
  | n + 1 =>
    match (σ.after n).operation? (σ n) with
    | some operation => (σ.after n).store.extraAfter h (σ.extra h n) operation
    | none => σ.extra h n

end Schedule

/-! ### Proper use -/

/-- Whether the objects of a type live on a heap. -/
def ForeignType.isOnHeap (type : ForeignType) (h : Nat) : Bool :=
  type.routines = .heapObject h ∨ type.routines = .heapValue h

theorem ForeignType.Serves.isOnHeap {type : ForeignType} {h : Nat} {kind : TypeKind}
    (htype : type.Serves h kind) : type.isOnHeap h = true := by
  cases kind <;> simp [ForeignType.isOnHeap, htype.routines, TypeKind.heapRoutines]

namespace Store

/-- An extra reference is taken to counted objects only, and only as long as it can be
    counted. -/
def Retainable (st : Store) (h : Nat) (a : Address) : Prop :=
  ∀ object, (st.heap h).get? a = some object →
    object.typeName = objectTypeName ∧ object.retainCount.toNat + 1 < 2 ^ 64

/-- How a client may use the heap of a runtime in an operation: it makes new objects, as long
    as they can be addressed, takes extra references, and gives back those that it has
    taken. -/
inductive Uses (st : Store) (ρ : ForeignRuntime) (extra : Address → Nat) : Operation → Prop where
  | build (operation : Operation) : (operation.builds? ρ).isSome →
    (st.heap ρ.heap).objects.HasRoom → Uses st ρ extra operation
  | allocate (typeName : String) (payload : Int64) : ρ.heap < st.heaps.size →
    (st.heap ρ.heap).objects.HasRoom → Uses st ρ extra (.allocate ρ.heap typeName payload)
  | retain (a : Address) : st.Retainable ρ.heap a → Uses st ρ extra (.retain ρ.heap a)
  | retainObject (inst : Instance) : st.Retainable ρ.heap inst.address →
    Uses st ρ extra (.retainObject inst ρ.heap)
  | release (a : Address) : 0 < extra a → Uses st ρ extra (.release ρ.heap a)

/-- An operation is in keeping with the proper use of a runtime: if it uses the heap it does so
    as a client may; and unless it builds an object of the runtime, it puts no type into the
    registry, and registers no disposal of an object of the heap. -/
structure Abides (st : Store) (ρ : ForeignRuntime) (extra : Address → Nat)
    (operation : Operation) : Prop where
  uses : operation.heap? = some ρ.heap → st.Uses ρ extra operation
  registry : operation.builds? ρ = none →
    ((st.apply operation).registry ρ.registry).entries = (st.registry ρ.registry).entries
  disposals : operation.builds? ρ = none →
    ∀ e ∈ st.registered operation, e.disposal.type.isOnHeap ρ.heap = false

end Store

/-- A move of another sort is so: it starts neither the destroy routine of a type of the heap
    nor a disposal of one of its objects. -/
structure Move.Spares (move : Move) (h : Nat) : Prop where
  destroyed : ∀ thread type a, move = .start (.destroy thread type a) → type.isOnHeap h = false
  disposed : ∀ d, move.Disposes d → d.type.isOnHeap h = false

/-- **A runtime is in proper use** before moment `n` of a run. -/
structure Schedule.Abides (σ : Schedule) (ρ : ForeignRuntime) (n : Nat) : Prop where
  operations : ∀ l < n, ∀ operation, (σ.after l).operation? (σ l) = some operation →
    (σ.after l).store.Abides ρ (σ.extra ρ.heap l) operation
  moves : ∀ l < n, ∀ i move, σ l = .move i move → move.Spares ρ.heap

theorem Schedule.Abides.mono {σ : Schedule} {ρ : ForeignRuntime} {m n : Nat}
    (h : σ.Abides ρ n) (hmn : m ≤ n) : σ.Abides ρ m where
  operations l hl := h.operations l (Nat.lt_of_lt_of_le hl hmn)
  moves l hl := h.moves l (Nat.lt_of_lt_of_le hl hmn)

end ForeignArena
