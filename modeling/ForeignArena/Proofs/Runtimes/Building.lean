import ForeignArena.Proofs.Runtimes.Lookups

namespace ForeignArena

/-!
# Building objects

An object is allocated before an arena is asked to take care of it, and given up if the
arena refuses.

* `Registry.Serves` — a registry that gives out the types of a heap;
* `Store.Built`, `Store.newOnHeap_built` — what becomes of a new object;
* `Store.apply_built` — and so in each operation that builds one.
-/

/-! ### Types -/

/-- A registry gives out the types of a heap under their names. -/
def Registry.Serves (r : Registry) (h : Nat) : Prop :=
  ∀ kind type, r.find? (TypeKind.typeName kind) = some type → type.Serves h kind

/-- The two kinds have types of different names. -/
theorem TypeKind.typeName_inj {kind other : TypeKind} (h : kind.typeName = other.typeName) :
    kind = other := by
  revert h
  cases kind <;> cases other <;> decide

namespace Registry

variable {r : Registry} {h : Nat} {kind : TypeKind} {type : ForeignType}

/-- A type found or made under its name is one of the heap, and those found later are too. -/
theorem findOrMake_serves (hr : r.Serves h) (htype : type.Serves h kind) :
    (r.findOrMake kind.typeName (.ok type)).1.Serves h ∧
      ∃ found, (r.findOrMake kind.typeName (.ok type)).2.result = .ok found ∧
        found.Serves h kind := by
  unfold findOrMake
  cases hfind : r.find? kind.typeName with
  | some found => exact ⟨hr, found, rfl, hr kind found hfind⟩
  | none =>
    -- a name that is found now was found before, or is the new one
    refine ⟨fun other found hfound => ?_, type, rfl, htype⟩
    have happend : (r.find? other.typeName).or (List.lookup other.typeName [(kind.typeName, type)]) =
        some found := by
      rw [← hfound, find?, find?, List.lookup_append]
    cases hold : r.find? other.typeName with
    | some old =>
      rw [hold] at happend
      cases happend
      exact hr other found hold
    | none =>
      rw [hold, Option.none_or] at happend
      by_cases hname : other.typeName = kind.typeName
      · obtain rfl := TypeKind.typeName_inj hname
        rw [List.lookup_cons_self] at happend
        cases happend
        exact htype
      · rw [List.lookup_cons, beq_false_of_ne hname] at happend
        cases happend

end Registry

namespace Store

variable (st : Store) {ρ : ForeignRuntime} {kind : TypeKind}

/-- A registry put behind a handle shows there, if the handle is known. -/
theorem registry_setRegistry (r : Nat) (registry : Registry) :
    (st.setRegistry r registry).registry r = registry ∨
      (st.setRegistry r registry).registry r = st.registry r := by
  simp only [setRegistry, Store.registry, Array.getElem?_modify]
  cases st.registries[r]? <;> simp

theorem findOrMakeType_serves (thread : ThreadId) {type : ForeignType}
    (hregistry : (st.registry ρ.registry).Serves ρ.heap) (htype : type.Serves ρ.heap kind) :
    ∃ after made found,
      st.findOrMakeType thread ρ.registry kind.typeName (.ok type) = (after, ⟨.ok found, made⟩) ∧
      (after.registry ρ.registry).Serves ρ.heap ∧ found.Serves ρ.heap kind := by
  obtain ⟨hafter, found, hresult, hfound⟩ := Registry.findOrMake_serves hregistry htype
  unfold findOrMakeType
  generalize (st.registry ρ.registry).findOrMake kind.typeName (.ok type) = looked at hafter hresult
  obtain ⟨registry, result, made⟩ := looked
  dsimp only at hafter hresult ⊢
  subst hresult
  refine ⟨_, made, found, rfl, ?_, hfound⟩
  obtain hput | hkept := registry_setRegistry
    (if made then st.note (.registeringType thread kind.typeName) else st) ρ.registry registry
  · rw [hput]
    exact hafter
  · rw [hkept]
    cases made <;> exact hregistry

/-- The type of a new object is one of the heap. -/
theorem runtimeType_serves (thread : ThreadId) (kind : TypeKind)
    (hregistry : (st.registry ρ.registry).Serves ρ.heap) :
    ∃ after type, st.runtimeType thread ρ kind.typeName kind = (after, type) ∧
      (after.registry ρ.registry).Serves ρ.heap ∧ type.Serves ρ.heap kind := by
  have hfresh : ForeignType.Serves
      { id := st.typeCount, name := kind.typeName, kind, routines := kind.heapRoutines ρ.heap }
      ρ.heap kind := ⟨rfl, rfl⟩
  obtain ⟨after, made, found, heq, hafter, hfound⟩ :=
    findOrMakeType_serves { st with typeCount := st.typeCount + 1 } thread hregistry hfresh
  refine ⟨after, found, ?_, hafter, hfound⟩
  cases kind <;> simp only [TypeKind.heapRoutines] at heq <;> simp only [runtimeType, newType, heq]

/-! ### New objects -/

/-- Taking an object over leaves heaps and registries alone, and the instance is the object. -/
theorem takeOver_frame (thread : ThreadId) (address : Address) (type : ForeignType)
    (home : ArenaRef) :
    (st.takeOver thread address type home).1.heaps = st.heaps ∧
      (st.takeOver thread address type home).1.registries = st.registries ∧
      ∀ i, (st.takeOver thread address type home).2 = .ok i → i.address = address ∧ i.type = type := by
  have hregister (before : Store) (d : Disposal) :
      (before.register thread home d).1.heaps = before.heaps ∧
        (before.register thread home d).1.registries = before.registries := by
    cases home with
    | confined a =>
      simp only [register]
      unfold registerConfined
      split
      · exact ⟨rfl, rfl⟩
      · split <;> exact ⟨rfl, rfl⟩
    | auto c => exact ⟨rfl, rfl⟩
  unfold takeOver
  split
  · exact ⟨rfl, rfl, fun i hi => by cases hi⟩
  · obtain ⟨hheaps, hregistries⟩ := hregister st.newFlag.1 ⟨address, type, st.newFlag.2⟩
    refine ⟨hheaps, hregistries, fun i hi => ?_⟩
    dsimp only at hi
    generalize (st.newFlag.1.register thread home ⟨address, type, st.newFlag.2⟩).2 = result at hi
    cases result with
    | error e => cases hi
    | ok receipt =>
      cases hi
      exact ⟨rfl, rfl⟩

/-- Looking up a type leaves heaps alone. -/
theorem heaps_runtimeType (thread : ThreadId) (runtime : ForeignRuntime) (name : String)
    (kind : TypeKind) : (st.runtimeType thread runtime name kind).1.heaps = st.heaps := by
  obtain ⟨fresh, heq⟩ := runtimeType_fst st thread runtime name kind
  rw [heq]
  unfold findOrMakeType
  dsimp only
  split <;> rfl

/-- What becomes of a new object of any type: an instance of it, or it is given up. -/
theorem newOnHeap_heap (thread : ThreadId) (typeName : String) (kind : TypeKind)
    (payload : Int64) (home : ArenaRef) (hknown : ρ.heap < st.heaps.size) :
    (∀ i, (st.newOnHeap thread ρ typeName kind payload home).2 = .ok i →
      i.address = ((st.heap ρ.heap).allocate typeName payload).2 ∧
        (st.newOnHeap thread ρ typeName kind payload home).1.heap ρ.heap =
          ((st.heap ρ.heap).allocate typeName payload).1) ∧
      ∀ e, (st.newOnHeap thread ρ typeName kind payload home).2 = .error e →
        (st.newOnHeap thread ρ typeName kind payload home).1.heap ρ.heap =
          ((st.heap ρ.heap).allocate typeName payload).1.giveUp kind
            ((st.heap ρ.heap).allocate typeName payload).2 := by
  unfold newOnHeap
  dsimp only
  generalize hallocated : (st.heap ρ.heap).allocate typeName payload = allocated
  have htyped := heaps_runtimeType (st.setHeap ρ.heap allocated.1) thread ρ typeName kind
  generalize (st.setHeap ρ.heap allocated.1).runtimeType thread ρ typeName kind = typed at htyped
  obtain ⟨hheaps, -, hinstance⟩ := takeOver_frame typed.1 thread allocated.2 typed.2 home
  generalize typed.1.takeOver thread allocated.2 typed.2 home = took at hheaps hinstance
  obtain ⟨after, result⟩ := took
  dsimp only at hheaps hinstance ⊢
  -- all that comes after the allocation leaves the heap alone, up to the give-back
  have hafter : after.heap ρ.heap = allocated.1 := by
    rw [Store.heap, hheaps, htyped]
    exact st.heap_setHeap _ hknown
  have hsize : ρ.heap < after.heaps.size := by
    rw [hheaps, htyped]
    simpa [setHeap] using hknown
  cases result with
  | ok inst =>
    refine ⟨fun i hi => ?_, fun e he => by cases he⟩
    cases hi
    exact ⟨(hinstance inst rfl).1, hafter⟩
  | error e =>
    refine ⟨(fun i hi => by cases hi), fun e he => ?_⟩
    rw [← hafter]
    cases kind with
    | reference => exact after.heap_setHeap _ hsize
    | value => exact after.heap_setHeap _ hsize

/-- What becomes of a new object of a runtime: an instance of it, or it is given up. -/
structure Built (st after : Store) (ρ : ForeignRuntime) (kind : TypeKind) (payload : Int64)
    (result : Except ArenaError Instance) : Prop where
  registry : (after.registry ρ.registry).Serves ρ.heap
  accepted : ∀ i, result = .ok i →
    i.address = ((st.heap ρ.heap).allocate kind.typeName payload).2 ∧ i.type.Serves ρ.heap kind ∧
      after.heap ρ.heap = ((st.heap ρ.heap).allocate kind.typeName payload).1
  refused : ∀ e, result = .error e →
    after.heap ρ.heap = ((st.heap ρ.heap).allocate kind.typeName payload).1.giveUp kind
      ((st.heap ρ.heap).allocate kind.typeName payload).2

theorem newOnHeap_built (thread : ThreadId) (kind : TypeKind) (payload : Int64) (home : ArenaRef)
    (hknown : ρ.heap < st.heaps.size) (hregistry : (st.registry ρ.registry).Serves ρ.heap) :
    st.Built (st.newOnHeap thread ρ kind.typeName kind payload home).1 ρ kind payload
      (st.newOnHeap thread ρ kind.typeName kind payload home).2 := by
  obtain ⟨haccepted, hrefused⟩ :=
    st.newOnHeap_heap thread kind.typeName kind payload home hknown
  have htype : ((st.newOnHeap thread ρ kind.typeName kind payload home).1.registry
      ρ.registry).Serves ρ.heap ∧
      ∀ i, (st.newOnHeap thread ρ kind.typeName kind payload home).2 = .ok i →
        i.type.Serves ρ.heap kind := by
    unfold newOnHeap
    dsimp only
    generalize (st.heap ρ.heap).allocate kind.typeName payload = allocated
    obtain ⟨typed, type, heq, htyped, htype⟩ :=
      runtimeType_serves (st.setHeap ρ.heap allocated.1) thread kind hregistry
    rw [heq]
    obtain ⟨-, hregistries, hinstance⟩ := takeOver_frame typed thread allocated.2 type home
    generalize typed.takeOver thread allocated.2 type home = took at hregistries hinstance
    obtain ⟨after, result⟩ := took
    dsimp only at hregistries hinstance ⊢
    have hserves : (after.registry ρ.registry).Serves ρ.heap := by
      rw [Store.registry, hregistries]
      exact htyped
    cases result with
    | ok inst =>
      refine ⟨hserves, fun i hi => ?_⟩
      cases hi
      rw [(hinstance inst rfl).2]
      exact htype
    | error e =>
      refine ⟨?_, fun i hi => by cases hi⟩
      cases kind <;> exact hserves
  refine ⟨htype.1, fun i hi => ?_, hrefused⟩
  obtain ⟨haddress, hheap⟩ := haccepted i hi
  exact ⟨haddress, htype.2 i hi, hheap⟩

variable {st} {operation : Operation} {payload : Int64}

/-- **Each operation that builds an object** makes an instance of it, or gives it up. -/
theorem apply_built (hbuilds : operation.builds? ρ = some (kind, payload))
    (hadmits : st.admits operation) (hregistry : (st.registry ρ.registry).Serves ρ.heap) :
    ∃ home result, st.made operation = taken home result ∧
      st.Built (st.apply operation) ρ kind payload result := by
  have hknown {runtime : ForeignRuntime} (h : st.hasRuntime runtime) :
      runtime.heap < st.heaps.size := by
    simp only [hasRuntime, Bool.and_eq_true, decide_eq_true_eq] at h
    exact h.1
  cases operation with
  | newObject thread runtime _ home =>
    obtain ⟨rfl, heq⟩ := Option.ite_none_right_eq_some.mp hbuilds
    cases heq
    simp only [admits, Bool.and_eq_true] at hadmits
    exact ⟨home, _, rfl,
      newOnHeap_built st thread .reference payload home (hknown hadmits.2) hregistry⟩
  | newValue thread runtime _ home =>
    obtain ⟨rfl, heq⟩ := Option.ite_none_right_eq_some.mp hbuilds
    cases heq
    simp only [admits, Bool.and_eq_true] at hadmits
    exact ⟨home, _, rfl,
      newOnHeap_built st thread .value payload home (hknown hadmits.2) hregistry⟩
  | _ => cases hbuilds

end Store

end ForeignArena
