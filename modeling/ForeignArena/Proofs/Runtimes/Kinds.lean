import ForeignArena.Proofs.Registries
import ForeignArena.Proofs.Runtimes.Leaks

namespace ForeignArena

/-!
# The kinds of the types of a runtime

A runtime makes the types of its counted objects and those of its values on first use, and
keeps both under their names.  It looks for the name only: so the first request under a
name fixes the descriptor, with its kind, also for those who ask for the other kind later.

* `ForeignType.Of` — a type of objects of a heap;
* `Operation.request?`, `Schedule.requests` — what a runtime is asked for;
* `Registry.Answers` — a registry that has a type of the kind requested first under each name;
* `Schedule.Dedicated`, `Schedule.answers` — so it is in every run, if the registry is left to
  its runtime;
* `Schedule.KindsFixed`, `Schedule.kindsFixed` — what requests are answered with, and which
  types new objects have.

A counted object with the type of a value is destroyed without being asked for its count.
-/

/-! ### Types of a heap -/

/-- A type of the objects of a heap, under a name.  A counted object gives up one reference when it
    is destroyed, a value is freed in place. -/
structure ForeignType.Of (type : ForeignType) (h : Nat) (name : String) (kind : TypeKind) :
    Prop where
  called : type.name = name
  held : type.kind = kind
  routines : type.routines = kind.heapRoutines h

/-- How the disposal of an object of a heap begins: a counted object is asked for its count before
    anything else, and a value is freed at once, whatever its count. -/
def System.DisposesAs (s : System) (thread : ThreadId) (d : Disposal) (h : Nat) :
    TypeKind → Prop
  | .reference =>
    (s.dispose thread d).store = (s.store.begin thread d).note (.counting thread d) ∧
      (s.dispose thread d).stack = .counted thread d :: s.stack ∧
      (s.dispose thread d).focus =
        .handing (.ok (.count ((s.store.heap h).retainCount? d.address)))
  | .value =>
    (s.dispose thread d).store = ((s.store.begin thread d).note (.destroying thread d)).setHeap h
        ((s.store.heap h).destroy d.address).1 ∧
      (s.dispose thread d).stack = .destroying thread d :: s.stack ∧
      (s.dispose thread d).focus = .handing (.ok .done)

/-- The kind of the type decides how a disposal begins. -/
theorem ForeignType.Of.disposes {d : Disposal} {h : Nat} {name : String} {kind : TypeKind}
    (htype : d.type.Of h name kind) (s : System) (thread : ThreadId) :
    s.DisposesAs thread d h kind := by
  cases kind with
  | reference =>
    have hkind : d.type.kind.isReference = true := by rw [htype.held]; rfl
    have hroutines : d.type.routines = .heapObject h := htype.routines
    simp only [System.DisposesAs, System.dispose, if_pos hkind, System.askCount, Store.knownCount?,
      hroutines]
    exact ⟨rfl, rfl, rfl⟩
  | value =>
    have hkind : d.type.kind.isReference = false := by rw [htype.held]; rfl
    have hroutines : d.type.routines = .heapValue h := htype.routines
    simp only [System.DisposesAs, System.dispose, hkind, Bool.false_eq_true, if_false,
      System.destroy, System.callDestroy, Store.destroyKnown?, hroutines]
    exact ⟨rfl, rfl, rfl⟩

/-! ### Requests -/

/-- The name and the kind for which an operation asks a runtime. -/
def Operation.request? (ρ : ForeignRuntime) : Operation → Option (String × TypeKind)
  | runtimeType _ runtime name kind => if runtime = ρ then some (name, kind) else none
  | newObject _ runtime _ _ => if runtime = ρ then some (Store.objectTypeName, .reference) else none
  | newValue _ runtime _ _ => if runtime = ρ then some (Store.valueTypeName, .value) else none
  | _ => none

/-- The types that an operation hands out: the one that was asked for, and those of the instances
    that it makes. -/
def Store.handsOut (st : Store) : Operation → List ForeignType
  | .runtimeType thread runtime name kind => [(st.runtimeType thread runtime name kind).2]
  | operation => (st.made operation).map (·.2.type)

/-- What a runtime is asked for, the first request first. -/
abbrev Requests := List (String × TypeKind)

/-- The kind that was requested first under a name, where the last request is for the given
    one. -/
def Requests.first (requests : Requests) (name : String) (kind : TypeKind) : TypeKind :=
  (requests.lookup name).getD kind

/-- The first request under a name stays the first. -/
theorem Requests.lookup_append {requests : Requests} {name : String} {kind : TypeKind}
    (hlookup : requests.lookup name = some kind) (more : Requests) :
    (requests ++ more).lookup name = some kind := by
  rw [List.lookup_append, hlookup, Option.some_or]

/-- If all requests under a name are for one kind, so is the first. -/
theorem Requests.first_eq {requests : Requests} {name : String} {kind : TypeKind}
    (hall : ∀ other, (name, other) ∈ requests → other = kind) : requests.first name kind = kind := by
  unfold first
  cases hlookup : requests.lookup name with
  | none => rfl
  | some other =>
    obtain ⟨before, after, heq, -⟩ := List.lookup_eq_some_iff.mp hlookup
    exact hall other (by rw [heq]; simp)

/-! ### Registries -/

/-- **A registry answers requests** about a heap if it has a type under each name that was
    requested, and under no other, and this is of the kind that was requested first. -/
def Registry.Answers (r : Registry) (h : Nat) (requests : Requests) : Prop :=
  ∀ name,
    match requests.lookup name with
    | none => r.find? name = none
    | some kind => ∃ type, r.find? name = some type ∧ type.Of h name kind

/-- A type that is found stays, whatever is looked up. -/
theorem Registry.find?_findOrMake {r : Registry} {name : String} {type : ForeignType}
    (hfind : r.find? name = some type) (other : String) (make : Except Payload ForeignType) :
    (r.findOrMake other make).1.find? name = some type := by
  obtain ⟨_, -, hlook⟩ | ⟨fresh, -, -, hlook⟩ | ⟨_, -, -, hlook⟩ := r.findOrMake_cases other make
  · rw [hlook]
    exact hfind
  · have happend : (r.entries ++ [(other, fresh)]).lookup name =
        (r.find? name).or (List.lookup name [(other, fresh)]) := List.lookup_append
    rw [hlook, find?, happend, hfind, Option.some_or]
  · rw [hlook]
    exact hfind

namespace Registry.Answers

variable {r : Registry} {h : Nat} {requests : Requests} {name : String} {kind : TypeKind}
  {fresh type : ForeignType}

theorem found (hr : r.Answers h requests) (hlookup : requests.lookup name = some kind) :
    ∃ type, r.find? name = some type ∧ type.Of h name kind := by
  have hname := hr name
  rwa [hlookup] at hname

theorem absent (hr : r.Answers h requests) (hlookup : requests.lookup name = none) :
    r.find? name = none := by
  have hname := hr name
  rwa [hlookup] at hname

/-- A name that was requested before changes nothing, when it is requested again. -/
theorem again (hr : r.Answers h requests) {first : TypeKind}
    (hlookup : requests.lookup name = some first) : r.Answers h (requests ++ [(name, kind)]) := by
  intro other
  cases hother : requests.lookup other with
  | some second =>
    rw [Requests.lookup_append hother]
    exact hr.found hother
  | none =>
    have hne : other ≠ name := by
      rintro rfl
      rw [hlookup] at hother
      cases hother
    rw [List.lookup_append, hother, Option.none_or, List.lookup_cons, beq_false_of_ne hne]
    exact hr.absent hother

/-- A name that is new gets the type that is made for it. -/
theorem added (hr : r.Answers h requests) (hlookup : requests.lookup name = none)
    (hfresh : fresh.Of h name kind) :
    ({ r with entries := r.entries ++ [(name, fresh)] } : Registry).Answers h
      (requests ++ [(name, kind)]) := by
  intro other
  have hfind : ({ r with entries := r.entries ++ [(name, fresh)] } : Registry).find? other =
      (r.find? other).or (List.lookup other [(name, fresh)]) := List.lookup_append
  rw [hfind]
  cases hother : requests.lookup other with
  | some second =>
    obtain ⟨type, hold, htype⟩ := hr.found hother
    rw [Requests.lookup_append hother]
    exact ⟨type, by rw [hold, Option.some_or], htype⟩
  | none =>
    rw [hr.absent hother, List.lookup_append, hother, Option.none_or, Option.none_or]
    by_cases hname : other = name
    · subst hname
      rw [List.lookup_cons_self, List.lookup_cons_self]
      exact ⟨fresh, rfl, hfresh⟩
    · rw [List.lookup_cons, List.lookup_cons, beq_false_of_ne hname]
      rfl

/-- **A request** is answered with a type of the kind that was requested first. -/
theorem request (hr : r.Answers h requests) (hfresh : fresh.Of h name kind) :
    ∃ type, (r.findOrMake name (.ok fresh)).2.result = .ok type ∧
      type.Of h name (requests.first name kind) ∧
      (r.findOrMake name (.ok fresh)).1.find? name = some type ∧
      (r.findOrMake name (.ok fresh)).1.Answers h (requests ++ [(name, kind)]) := by
  cases hlookup : requests.lookup name with
  | some first =>
    obtain ⟨type, hfind, htype⟩ := hr.found hlookup
    rw [(fixed_of_find? hfind).findOrMake (.ok fresh), Requests.first, hlookup]
    exact ⟨type, rfl, htype, hfind, hr.again hlookup⟩
  | none =>
    have habsent := hr.absent hlookup
    have hlook : r.findOrMake name (.ok fresh) =
        ({ r with entries := r.entries ++ [(name, fresh)] }, ⟨.ok fresh, true⟩) := by
      unfold findOrMake
      rw [habsent]
    have hfind : ({ r with entries := r.entries ++ [(name, fresh)] } : Registry).find? name =
        some fresh := by
      rw [find?, List.lookup_append]
      show (r.find? name).or _ = _
      rw [habsent, Option.none_or, List.lookup_cons_self]
    rw [hlook, Requests.first, hlookup]
    exact ⟨fresh, rfl, hfresh, hfind, hr.added hlookup hfresh⟩

end Registry.Answers

/-! ### Requests in a store -/

namespace Store

variable (st : Store) (ρ : ForeignRuntime) (thread : ThreadId) (name : String) (kind : TypeKind)

/-- A request looks for the name in the registry, and a type made on first use is of the kind that
    is asked for. -/
theorem runtimeType_find (hknown : ρ.registry < st.registries.size) :
    ∃ fresh : ForeignType, fresh.Of ρ.heap name kind ∧
      (st.runtimeType thread ρ name kind).1.registry ρ.registry =
        ((st.registry ρ.registry).findOrMake name (.ok fresh)).1 ∧
      ∀ type, ((st.registry ρ.registry).findOrMake name (.ok fresh)).2.result = .ok type →
        (st.runtimeType thread ρ name kind).2 = type := by
  have hput (before : Store) (registry : Registry)
      (hbefore : before.registries.size = st.registries.size) :
      (before.setRegistry ρ.registry registry).registry ρ.registry = registry := by
    simp only [setRegistry, Store.registry, Array.getElem?_modify]
    simp [hbefore, hknown]
  let fresh : ForeignType := { id := st.typeCount, name, kind, routines := kind.heapRoutines ρ.heap }
  have hrequest : (st.runtimeType thread ρ name kind).1 =
      (({ st with typeCount := st.typeCount + 1 } : Store).findOrMakeType thread ρ.registry name
        (.ok fresh)).1 ∧
      ∀ type, (({ st with typeCount := st.typeCount + 1 } : Store).findOrMakeType thread ρ.registry
        name (.ok fresh)).2.result = .ok type → (st.runtimeType thread ρ name kind).2 = type := by
    cases kind
    all_goals
      unfold runtimeType
      dsimp only [newType]
      split
      · next hlooked =>
        refine ⟨(congrArg (·.1) hlooked).symm, fun other hother => ?_⟩
        cases (congrArg (·.2.result) hlooked).symm.trans hother
        rfl
      · next hlooked =>
        refine ⟨(congrArg (·.1) hlooked).symm, fun other hother => ?_⟩
        cases (congrArg (·.2.result) hlooked).symm.trans hother
  have hsame : ({ st with typeCount := st.typeCount + 1 } : Store).registry ρ.registry =
      st.registry ρ.registry := rfl
  refine ⟨fresh, ⟨rfl, rfl, rfl⟩, ?_, fun type htype => hrequest.2 type ?_⟩
  · rw [hrequest.1, findOrMakeType, hsame]
    generalize (st.registry ρ.registry).findOrMake name (.ok fresh) = looked
    obtain ⟨registry, result, made⟩ := looked
    cases made <;> exact hput _ registry rfl
  · rw [findOrMakeType, hsame]
    exact htype

/-- A new object has the type that a request for it is answered with. -/
theorem newOnHeap_type (payload : Int64) (home : ArenaRef) :
    ∃ before : Store, before.registries = st.registries ∧
      (st.newOnHeap thread ρ name kind payload home).1.registries =
        (before.runtimeType thread ρ name kind).1.registries ∧
      ∀ i, (st.newOnHeap thread ρ name kind payload home).2 = .ok i →
        i.type = (before.runtimeType thread ρ name kind).2 := by
  unfold newOnHeap
  dsimp only
  generalize (st.heap ρ.heap).allocate name payload = allocated
  refine ⟨st.setHeap ρ.heap allocated.1, rfl, ?_⟩
  generalize (st.setHeap ρ.heap allocated.1).runtimeType thread ρ name kind = typed
  obtain ⟨-, hregistries, hinstance⟩ := takeOver_frame typed.1 thread allocated.2 typed.2 home
  generalize typed.1.takeOver thread allocated.2 typed.2 home = took at hregistries hinstance
  obtain ⟨after, result⟩ := took
  dsimp only at hregistries hinstance ⊢
  cases result with
  | ok inst =>
    refine ⟨hregistries, fun i hi => ?_⟩
    cases hi
    exact (hinstance inst rfl).2
  | error e =>
    refine ⟨?_, fun i hi => by cases hi⟩
    cases kind <;> exact hregistries

theorem size_registries_runtimeType :
    (st.runtimeType thread ρ name kind).1.registries.size = st.registries.size := by
  obtain ⟨fresh, heq⟩ := st.runtimeType_fst thread ρ name kind
  rw [heq]
  unfold findOrMakeType
  dsimp only
  split <;> exact Array.size_modify ..

/-- What it means that a request was answered: all types handed out are of the kind that was
    requested first under the name, and are what is found there from now on. -/
structure Answered (st after : Store) (ρ : ForeignRuntime) (requests : Requests) (name : String)
    (kind : TypeKind) (handed : List ForeignType) : Prop where
  known : ρ.registry < after.registries.size
  answers : (after.registry ρ.registry).Answers ρ.heap (requests ++ [(name, kind)])
  kept : ∀ other type, (st.registry ρ.registry).find? other = some type →
    (after.registry ρ.registry).find? other = some type
  handed : ∀ type ∈ handed, type.Of ρ.heap name (requests.first name kind) ∧
    (after.registry ρ.registry).find? name = some type

variable {st ρ} {requests : Requests}

theorem runtimeType_answered (hknown : ρ.registry < st.registries.size)
    (hr : (st.registry ρ.registry).Answers ρ.heap requests) :
    st.Answered (st.runtimeType thread ρ name kind).1 ρ requests name kind
      [(st.runtimeType thread ρ name kind).2] := by
  obtain ⟨fresh, hfresh, hregistry, hresult⟩ := st.runtimeType_find ρ thread name kind hknown
  obtain ⟨type, hlook, htype, hfind, hanswers⟩ := hr.request hfresh
  rw [← hregistry] at hfind hanswers
  refine ⟨?_, hanswers, fun other found hfound => ?_, fun handed hhanded => ?_⟩
  · rw [size_registries_runtimeType]
    exact hknown
  · rw [hregistry]
    exact Registry.find?_findOrMake hfound name (.ok fresh)
  · rw [List.mem_singleton.mp hhanded, hresult type hlook]
    exact ⟨htype, hfind⟩

theorem newOnHeap_answered (hknown : ρ.registry < st.registries.size)
    (hr : (st.registry ρ.registry).Answers ρ.heap requests) (payload : Int64) (home : ArenaRef) :
    st.Answered (st.newOnHeap thread ρ name kind payload home).1 ρ requests name kind
      ((taken home (st.newOnHeap thread ρ name kind payload home).2).map (·.2.type)) := by
  obtain ⟨before, hbefore, hafter, htype⟩ := st.newOnHeap_type ρ thread name kind payload home
  have hsame : before.registry ρ.registry = st.registry ρ.registry := by
    rw [Store.registry, hbefore, Store.registry]
  have hanswered : before.Answered (before.runtimeType thread ρ name kind).1 ρ requests name kind _ :=
    runtimeType_answered thread name kind (by rw [hbefore]; exact hknown) (by rw [hsame]; exact hr)
  have hregistry : (st.newOnHeap thread ρ name kind payload home).1.registry ρ.registry =
      (before.runtimeType thread ρ name kind).1.registry ρ.registry := by
    rw [Store.registry, hafter, Store.registry]
  constructor
  case known =>
    rw [hafter]
    exact hanswered.known
  case answers =>
    rw [hregistry]
    exact hanswered.answers
  case kept =>
    rw [hregistry, ← hsame]
    exact hanswered.kept
  case handed =>
    intro handed hhanded
    rw [hregistry]
    refine hanswered.handed handed (List.mem_singleton.mpr ?_)
    generalize (st.newOnHeap thread ρ name kind payload home).2 = result at htype hhanded
    cases result with
    | error e => cases hhanded
    | ok i =>
      rw [List.mem_singleton.mp hhanded]
      exact htype i rfl

variable {name kind} {operation : Operation}

/-- **Each operation that asks a runtime for a type** is answered. -/
theorem apply_answered (hrequest : operation.request? ρ = some (name, kind))
    (hknown : ρ.registry < st.registries.size)
    (hr : (st.registry ρ.registry).Answers ρ.heap requests) :
    st.Answered (st.apply operation) ρ requests name kind (st.handsOut operation) := by
  cases operation with
  | runtimeType thread runtime _ _ =>
    obtain ⟨rfl, heq⟩ := Option.ite_none_right_eq_some.mp hrequest
    cases heq
    exact runtimeType_answered thread name kind hknown hr
  | newObject thread runtime payload home =>
    obtain ⟨rfl, heq⟩ := Option.ite_none_right_eq_some.mp hrequest
    cases heq
    exact newOnHeap_answered thread objectTypeName .reference hknown hr payload home
  | newValue thread runtime payload home =>
    obtain ⟨rfl, heq⟩ := Option.ite_none_right_eq_some.mp hrequest
    cases heq
    exact newOnHeap_answered thread valueTypeName .value hknown hr payload home
  | _ => cases hrequest

end Store

/-! ### Registries that are left alone -/

/-- A registry is behind a handle. -/
def Store.Keeps (st : Store) (r : Nat) (registry : Registry) : Prop :=
  r < st.registries.size ∧ st.registry r = registry

/-- A registry that an operation does not use is left alone. -/
theorem Change.keepsRegistry {operation : Operation} {s t : Site} {r : Nat} {registry : Registry}
    (h : Change (.operate operation) s t) (hregistry : operation.registry? ≠ some r)
    (hs : s.1.Keeps r registry) : t.1.Keeps r registry := by
  obtain ⟨hknown, hsame⟩ := hs
  cases h with
  | @registryUsed st k _ other used hoperate hother =>
    cases hoperate
    have hne : other ≠ r := fun heq => hregistry (heq ▸ hother)
    refine ⟨by simpa [Store.setRegistry] using hknown, ?_⟩
    rw [← hsame]
    simp [Store.setRegistry, Store.registry, Array.getElem?_modify, hne]
  | registryAdded =>
    refine ⟨by simpa using Nat.lt_succ_of_lt hknown, ?_⟩
    rw [← hsame]
    simp [Store.registry, Array.getElem?_push, Nat.ne_of_lt hknown]
  | called _ _ _ hcalled => cases hcalled
  | entered _ _ hoperate => exact absurd rfl (hoperate operation)
  | _ => exact ⟨hknown, hsame⟩

/-! ### Runs -/

namespace Machine

variable {m : Machine} {act : Act} {r : Nat} {registry : Registry}

/-- An act in which nobody uses a registry leaves it alone. -/
theorem keepsRegistry (hact : ∀ operation, m.operation? act = some operation →
    operation.registry? ≠ some r) (h : m.store.Keeps r registry) :
    (m.perform act).store.Keeps r registry := by
  cases hoperation : m.operation? act with
  | some operation =>
    obtain ⟨hstore, hadmits, -⟩ := store_of_operation hoperation
    rw [hstore]
    exact Changes.keeps (fun site => site.1.Keeps r registry)
      (fun hchange => hchange.keepsRegistry (hact operation hoperation))
      (Store.apply_changes operation m.store [] hadmits) h
  | none =>
    refine keeps_of_no_operation (I := fun st _ => st.Keeps r registry) hoperation
      (fun _ hs => hs) (fun _ hmove hchange hs => ?_) h
    have hsame := hchange.registries_eq hmove
    rw [Store.Keeps, Store.registry, hsame]
    exact hs

end Machine

namespace Schedule

variable {σ : Schedule} {ρ : ForeignRuntime} {k m n : Nat}

/-- A runtime is made at moment `k`, and up to moment `n` its registry is used for nothing but to ask
    for types of the runtime, and to make its objects. -/
structure Dedicated (σ : Schedule) (ρ : ForeignRuntime) (k n : Nat) : Prop where
  made : (σ.after k).operation? (σ k) = some .newRuntime
  handle : (σ.after k).store.newRuntime.2 = ρ
  own : ∀ l, k < l → l < n → ∀ operation, (σ.after l).operation? (σ l) = some operation →
    operation.registry? = some ρ.registry → operation.request? ρ ≠ none

/-- What a runtime was asked for before moment `n`, from the moment after `k` on. -/
def requests (σ : Schedule) (ρ : ForeignRuntime) (k : Nat) : Nat → Requests
  | 0 => []
  | n + 1 =>
    if k < n then
      match (σ.after n).operation? (σ n) with
      | some operation => σ.requests ρ k n ++ (operation.request? ρ).toList
      | none => σ.requests ρ k n
    else []

/-- One more moment adds what is asked for in it. -/
theorem requests_succ (hkn : k < n) {operation : Operation}
    (hoperation : (σ.after n).operation? (σ n) = some operation) :
    σ.requests ρ k (n + 1) = σ.requests ρ k n ++ (operation.request? ρ).toList := by
  rw [requests, if_pos hkn, hoperation]

/-- Where nothing is asked for, none is added. -/
theorem requests_succ_of_none (hkn : k < n)
    (hnone : ∀ operation, (σ.after n).operation? (σ n) = some operation →
      operation.request? ρ = none) : σ.requests ρ k (n + 1) = σ.requests ρ k n := by
  rw [requests, if_pos hkn]
  cases hoperation : (σ.after n).operation? (σ n) with
  | none => rfl
  | some operation =>
    dsimp only
    rw [hnone operation hoperation]
    exact List.append_nil _

namespace Dedicated

/-- At any moment a dedicated runtime is asked for a type, or its registry is left alone. -/
theorem step (h : σ.Dedicated ρ k n) (hkm : k < m) (hmn : m < n) :
    (∃ operation name kind, (σ.after m).operation? (σ m) = some operation ∧
        operation.request? ρ = some (name, kind)) ∨
      ((∀ operation, (σ.after m).operation? (σ m) = some operation →
          operation.request? ρ = none) ∧
        ∀ registry, (σ.after m).store.Keeps ρ.registry registry →
          (σ.after (m + 1)).store.Keeps ρ.registry registry) := by
  by_cases hasked : ∃ operation, (σ.after m).operation? (σ m) = some operation ∧
      operation.request? ρ ≠ none
  · obtain ⟨operation, hoperation, hrequest⟩ := hasked
    obtain ⟨⟨name, kind⟩, hrequest⟩ := Option.ne_none_iff_exists'.mp hrequest
    exact .inl ⟨operation, name, kind, hoperation, hrequest⟩
  · right
    have hnone (operation : Operation) (hoperation : (σ.after m).operation? (σ m) = some operation) :
        operation.request? ρ = none :=
      Decidable.by_contra fun hne => hasked ⟨operation, hoperation, hne⟩
    refine ⟨hnone, fun registry => Machine.keepsRegistry fun operation hoperation hused => ?_⟩
    exact h.own m hkm hmn operation hoperation hused (hnone operation hoperation)

/-- **The registry of a dedicated runtime answers its requests.** -/
theorem answers (h : σ.Dedicated ρ k n) (hkm : k < m) (hmn : m ≤ n) :
    ρ.registry < (σ.after m).store.registries.size ∧
      ((σ.after m).store.registry ρ.registry).Answers ρ.heap (σ.requests ρ k m) := by
  induction hkm with
  | refl =>
    -- a new registry is empty
    have hstore : (σ.after (k + 1)).store = (σ.after k).store.newRuntime.1 :=
      (Machine.store_of_operation h.made).1
    have hregistry : ρ.registry = (σ.after k).store.registries.size := by rw [← h.handle]; rfl
    have hrequests : σ.requests ρ k (k + 1) = [] := by
      rw [requests, if_neg (Nat.lt_irrefl k)]
    have hempty : (σ.after (k + 1)).store.registry ρ.registry = {} := by
      rw [hstore, hregistry]
      simp [Store.newRuntime, Store.newHeap, Store.newRegistry, Store.registry]
    rw [hrequests, hempty, hstore, hregistry]
    refine ⟨?_, fun name => rfl⟩
    simp [Store.newRuntime, Store.newHeap, Store.newRegistry]
  | @step m hkm ih =>
    obtain ⟨hknown, hr⟩ := ih (Nat.le_of_succ_le hmn)
    obtain ⟨operation, name, kind, hoperation, hrequest⟩ | ⟨hnone, hkeeps⟩ := h.step hkm hmn
    · have hanswered := Store.apply_answered hrequest hknown hr
      rw [← (Machine.store_of_operation hoperation).1] at hanswered
      rw [requests_succ hkm hoperation, hrequest]
      exact ⟨hanswered.known, hanswered.answers⟩
    · obtain ⟨hknown', hsame⟩ := hkeeps _ ⟨hknown, rfl⟩
      rw [requests_succ_of_none hkm hnone, hsame]
      exact ⟨hknown', hr⟩

variable {operation : Operation} {name : String} {kind : TypeKind} {type : ForeignType}

/-- What a request is answered with. -/
theorem answered (h : σ.Dedicated ρ k n) (hkm : k < m) (hmn : m < n)
    (hoperation : (σ.after m).operation? (σ m) = some operation)
    (hrequest : operation.request? ρ = some (name, kind)) :
    (σ.after m).store.Answered (σ.after (m + 1)).store ρ (σ.requests ρ k m) name kind
      ((σ.after m).store.handsOut operation) := by
  obtain ⟨hknown, hr⟩ := h.answers hkm (Nat.le_of_lt hmn)
  have hanswered := Store.apply_answered hrequest hknown hr
  rwa [← (Machine.store_of_operation hoperation).1] at hanswered

/-- A type that is found under a name is found there for ever. -/
theorem found_stays (h : σ.Dedicated ρ k n) (hkm : k < m) {l : Nat} (hml : m ≤ l) (hln : l ≤ n)
    (hfind : ((σ.after m).store.registry ρ.registry).find? name = some type) :
    ((σ.after l).store.registry ρ.registry).find? name = some type := by
  induction hml with
  | refl => exact hfind
  | @step l hml ih =>
    have hfind := ih (Nat.le_of_succ_le hln)
    have hkl := Nat.lt_of_lt_of_le hkm hml
    obtain ⟨operation, other, kind, hoperation, hrequest⟩ | ⟨-, hkeeps⟩ := h.step hkl hln
    · exact (h.answered hkl hln hoperation hrequest).kept name type hfind
    · obtain ⟨hknown, -⟩ := h.answers hkl (Nat.le_of_succ_le hln)
      rw [(hkeeps _ ⟨hknown, rfl⟩).2]
      exact hfind

end Dedicated

/-! ### What requests are answered with -/

/-- What holds of the types that a runtime hands out between the moments `k` and `n`. -/
structure KindsFixed (σ : Schedule) (ρ : ForeignRuntime) (k n : Nat) : Prop where
  /-- They carry the name that was asked for, and are of the kind that was requested first under
      this name, whoever asked for it and for what. -/
  answered : ∀ m, k < m → m < n → ∀ operation name kind,
    (σ.after m).operation? (σ m) = some operation → operation.request? ρ = some (name, kind) →
    ∀ type ∈ (σ.after m).store.handsOut operation,
      type.Of ρ.heap name ((σ.requests ρ k m).first name kind)
  /-- So they are of the kind that was asked for, if nobody asked for the other under the name. -/
  unmixed : ∀ m, k < m → m < n → ∀ operation name kind,
    (σ.after m).operation? (σ m) = some operation → operation.request? ρ = some (name, kind) →
    (∀ other, (name, other) ∈ σ.requests ρ k m → other = kind) →
    ∀ type ∈ (σ.after m).store.handsOut operation, type.Of ρ.heap name kind
  /-- All requests under a name are answered with the same descriptor. -/
  shared : ∀ m l, k < m → m ≤ l → l < n → ∀ operation operation' name kind kind',
    (σ.after m).operation? (σ m) = some operation → operation.request? ρ = some (name, kind) →
    (σ.after l).operation? (σ l) = some operation' → operation'.request? ρ = some (name, kind') →
    ∀ type ∈ (σ.after m).store.handsOut operation,
      ∀ type' ∈ (σ.after l).store.handsOut operation', type = type'
  /-- It is the kind requested first that decides whether the disposal of an object, at whatever
      moment it begins, asks for the count, or frees the object at once. -/
  disposed : ∀ m, k < m → m < n → ∀ operation name kind,
    (σ.after m).operation? (σ m) = some operation → operation.request? ρ = some (name, kind) →
    ∀ type ∈ (σ.after m).store.handsOut operation, ∀ (s : System) thread d, d.type = type →
      s.DisposesAs thread d ρ.heap ((σ.requests ρ k m).first name kind)

/-- **The first request under a name fixes the kind**, also for the objects and the values that the
    runtime makes. -/
theorem kindsFixed (h : σ.Dedicated ρ k n) : σ.KindsFixed ρ k n where
  answered m hkm hmn operation name kind hoperation hrequest type htype :=
    ((h.answered hkm hmn hoperation hrequest).handed type htype).1
  unmixed m hkm hmn operation name kind hoperation hrequest hall type htype := by
    have hof := ((h.answered hkm hmn hoperation hrequest).handed type htype).1
    rwa [Requests.first_eq hall] at hof
  shared m l hkm hml hln operation operation' name kind kind' hoperation hrequest hoperation'
      hrequest' type htype type' htype' := by
    have hfirst := ((h.answered hkm (Nat.lt_of_le_of_lt hml hln) hoperation hrequest).handed type
      htype).2
    have hsecond := ((h.answered (Nat.lt_of_lt_of_le hkm hml) hln hoperation' hrequest').handed
      type' htype').2
    have hstays := h.found_stays (Nat.lt_succ_of_lt hkm) (Nat.succ_le_succ hml) hln hfirst
    exact Option.some.inj (hstays.symm.trans hsecond)
  disposed m hkm hmn operation name kind hoperation hrequest type htype s thread d hd := by
    subst hd
    exact ((h.answered hkm hmn hoperation hrequest).handed d.type htype).1.disposes s thread

/-- A run in which the name of counted objects is first used for a value.  An object that somebody
    else holds is made then, and its arena is closed. -/
def clashing : Schedule
  | 0 => .spawn
  | 1 => .move 0 (.operate .newRuntime)
  | 2 => .move 0 (.operate (.runtimeType .main ⟨0, 0⟩ Store.objectTypeName .value))
  | 3 => .move 0 (.operate (.openArena .main {}))
  | 4 => .move 0 (.operate (.newObject .main ⟨0, 0⟩ 7 (.confined 0)))
  | 5 => .move 0 (.operate (.retain 0 (.ofSlot 0 0)))
  | 6 => .move 0 (.start (.close .main 0))
  | _ => .move 0 .tick

theorem clashing_dedicated : clashing.Dedicated ⟨0, 0⟩ 1 7 where
  made := rfl
  handle := rfl
  own l hl hln operation hoperation hused := by
    match l with
    | 2 | 4 =>
      obtain rfl := Option.some.inj hoperation
      exact fun hnone => by cases hnone
    | 3 | 5 =>
      obtain rfl := Option.some.inj hoperation
      cases hused
    | 6 => cases hoperation

/-- The object has the type of a value, and is freed although it is held. -/
theorem kindsFixed_clashing : clashing.Dedicated ⟨0, 0⟩ 1 7 ∧
    ((clashing.after 6).store.heap 0).retainCount? (.ofSlot 0 0) = some 2 ∧
    ((clashing.after 7).store.heap 0).freed = #[.ofSlot 0 0] ∧
    ∀ type ∈ (clashing.after 4).store.handsOut (.newObject .main ⟨0, 0⟩ 7 (.confined 0)),
      type.Of 0 Store.objectTypeName .value :=
  ⟨clashing_dedicated, rfl, rfl, (kindsFixed clashing_dedicated).answered 4 (by decide) (by decide)
    _ _ _ rfl rfl⟩

/-- So requests are not always answered with a type of the kind that they ask for. -/
theorem not_kinds_clashing : ¬∀ (σ : Schedule) (ρ : ForeignRuntime) (k m n : Nat), σ.Dedicated ρ k n →
    k < m → m < n → ∀ operation name kind, (σ.after m).operation? (σ m) = some operation →
    operation.request? ρ = some (name, kind) →
    ∀ type ∈ (σ.after m).store.handsOut operation, type.kind = kind := by
  intro hall
  have hkind := hall clashing ⟨0, 0⟩ 1 4 7 clashing_dedicated (by decide) (by decide) _ _ _ rfl rfl _
    (List.mem_singleton.mpr rfl)
  cases hkind

end Schedule

end ForeignArena
