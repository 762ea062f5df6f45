import ForeignArena.Proofs.Changes.Operation

namespace ForeignArena

/-!
# Cleaners that differ in their handle

Whether the handle of a cleaner exists makes a difference to those only who register with it, and
to its thread once nothing is left to take.  So two machines that differ in the handle of one
cleaner go on alike, as long as nobody registers with it.

* `Cleaner.Alike`, `Store.Alike`, `System.Alike` — the difference that a handle makes;
* `Operation.RegistersWith` — the operations that need the handle;
* `Store.apply_alike`, `System.perform_alike` — all others keep two systems alike;
* `Machine.Alike`, `Schedule.after_insert` — so do the acts of a run that is lengthened by one.
-/

/-! ### Cleaners -/

namespace Cleaner

/-- Nothing is left to take for a thread that waits or has stopped. -/
def Spare (x : Cleaner) : Prop :=
  x.queue = [] ∧ x.tokens = [] ∧ (x.phase = .waiting ∨ x.phase = .stopped)

/-- Two states of a cleaner that differ in the handle only, and in whether the thread has
    stopped where it has nothing left to take. -/
structure Alike (x y : Cleaner) : Prop where
  rest : y = { x with held := y.held, phase := y.phase }
  phase : y.phase = x.phase ∨ x.Spare ∧ y.Spare

variable {x y : Cleaner}

theorem Alike.refl (x : Cleaner) : x.Alike x := ⟨rfl, .inl rfl⟩

theorem Alike.live (h : x.Alike y) : y.live = x.live := by rw [h.rest]

theorem Alike.tokens (h : x.Alike y) : y.tokens = x.tokens := by rw [h.rest]

theorem Alike.queue (h : x.Alike y) : y.queue = x.queue := by rw [h.rest]

theorem Alike.stats (h : x.Alike y) : y.stats = x.stats := by rw [h.rest]; rfl

/-- Where something is left to take, the thread does the same. -/
theorem Alike.phase_of_token (h : x.Alike y) {token : Nat} (htoken : x.tokens.contains token) :
    y.phase = x.phase := by
  obtain hphase | ⟨⟨-, hnone, -⟩, -⟩ := h.phase
  · exact hphase
  · simp [hnone] at htoken

/-- Without its handle a cleaner is alike. -/
theorem Alike.release_right (x : Cleaner) : x.Alike x.release := ⟨rfl, .inl rfl⟩

theorem Alike.release (h : x.Alike y) : x.release.Alike y.release := by
  refine ⟨?_, h.phase⟩
  rw [h.rest]
  rfl

/-- What concerns neither the handle nor the thread keeps two cleaners alike, if it makes no
    tokens. -/
theorem Alike.map (h : x.Alike y) (f : Cleaner → Cleaner)
    (hrest : ∀ (x : Cleaner) held phase, f { x with held, phase } = { f x with held, phase })
    (hsame : (f x).phase = x.phase)
    (hspare : x.queue = [] → x.tokens = [] → (f x).queue = [] ∧ (f x).tokens = []) :
    (f x).Alike (f y) := by
  have hy : f y = { f x with held := y.held, phase := y.phase } := by
    rw [h.rest]
    exact hrest x y.held y.phase
  refine ⟨by rw [hy], ?_⟩
  rw [hy, hsame]
  obtain hphase | ⟨⟨hqueue, htokens, hx⟩, -, -, hy'⟩ := h.phase
  · exact .inl hphase
  · obtain ⟨hqueue, htokens⟩ := hspare hqueue htokens
    right
    refine ⟨⟨hqueue, htokens, ?_⟩, hqueue, htokens, hy'⟩
    rw [hsame]
    exact hx

/-- What sets the thread going, or ends it, does so in both. -/
theorem Alike.setPhase (h : x.Alike y) (f : Cleaner → Cleaner)
    (hrest : ∀ (x : Cleaner) held phase,
      f { x with held, phase } = { f x with held, phase := (f x).phase }) :
    (f x).Alike (f y) := by
  have hy : f y = { f x with held := y.held, phase := (f x).phase } := by
    rw [h.rest]
    exact hrest x y.held y.phase
  exact ⟨by rw [hy], .inl (by rw [hy])⟩

theorem Alike.spare_iff (h : x.Alike y) : y.Spare ↔ x.Spare := by
  obtain hphase | ⟨hx, hy⟩ := h.phase
  · rw [Spare, Spare, h.queue, h.tokens, hphase]
  · exact ⟨fun _ => hx, fun _ => hy⟩

theorem settle_eq (x : Cleaner) :
    x.settle = x ∨ x.Spare ∧ x.settle = { x with phase := .stopped } := by
  unfold settle
  split
  · next hdone =>
    simp only [Bool.and_eq_true, beq_iff_eq, List.isEmpty_iff] at hdone
    exact .inr ⟨⟨hdone.1.1.2, hdone.2, .inl hdone.1.1.1⟩, rfl⟩
  · exact .inl rfl

/-- Only a thread that has nothing left to take may stop. -/
theorem Alike.settle (h : x.Alike y) : x.settle.Alike y.settle := by
  have hrest : y.settle = { x.settle with held := y.settle.held, phase := y.settle.phase } := by
    obtain hx | ⟨-, hx⟩ := x.settle_eq <;> obtain hy | ⟨-, hy⟩ := y.settle_eq <;>
      rw [hx, hy, h.rest]
  refine ⟨hrest, ?_⟩
  have hspare {z : Cleaner} (hz : z.Spare) : z.settle.Spare := by
    obtain heq | ⟨-, heq⟩ := z.settle_eq
    · rwa [heq]
    · rw [heq]
      exact ⟨hz.1, hz.2.1, .inr rfl⟩
  by_cases hx : x.Spare
  · exact .inr ⟨hspare hx, hspare (h.spare_iff.mpr hx)⟩
  · rw [(settle_eq x).resolve_right fun hs => hx hs.1,
      (settle_eq y).resolve_right fun hs => hx (h.spare_iff.mp hs.1)]
    exact h.phase

/-- A token that is dropped goes to the end of the queue. -/
theorem Alike.enqueue (h : x.Alike y) {token : Nat} (htoken : x.tokens.contains token) :
    ((x.spend token).enqueue token).Alike ((y.spend token).enqueue token) := by
  have hphase := h.phase_of_token htoken
  refine ⟨?_, .inl hphase⟩
  rw [h.rest]
  rfl

/-- Actions are taken out of the live set alike. -/
theorem Alike.take? (h : x.Alike y) (token : Nat) :
    (x.take? token = none ∧ y.take? token = none) ∨
      ∃ x' y' action, x.take? token = some (x', action) ∧ y.take? token = some (y', action) ∧
        x'.Alike y' := by
  unfold Cleaner.take?
  rw [h.live]
  cases x.live.lookup token with
  | none => exact .inl ⟨rfl, rfl⟩
  | some action =>
    refine .inr ⟨_, _, action, rfl, rfl, ?_⟩
    refine ⟨?_, h.phase⟩
    rw [h.rest]

/-- And so are tokens from the queue. -/
theorem Alike.dequeue? (h : x.Alike y) :
    (x.dequeue? = none ∧ y.dequeue? = none) ∨
      ∃ x' y' token, x.dequeue? = some (x', token) ∧ y.dequeue? = some (y', token) ∧
        x'.Alike y' ∧ y'.threadName = x'.threadName := by
  obtain hphase | ⟨⟨hnone, -⟩, -⟩ := h.phase
  · unfold Cleaner.dequeue?
    rw [h.queue, hphase]
    split
    · next token rest _ _ =>
      refine .inr ⟨_, _, token, rfl, rfl, ⟨?_, .inl rfl⟩, ?_⟩
      · rw [h.rest]
      · rw [h.rest]
    · exact .inl ⟨rfl, rfl⟩
  · left
    unfold Cleaner.dequeue?
    rw [h.queue, hnone]
    constructor <;> split <;> simp_all

end Cleaner

/-! ### Stores -/

/-- Two states of a cleaner in stores that differ in the handle of cleaner `c` only. -/
structure Cleaner.AlikeAt (c b : Nat) (x y : Cleaner) : Prop where
  alike : x.Alike y
  other : b ≠ c → y = x

theorem Cleaner.AlikeAt.refl (c b : Nat) (x : Cleaner) : x.AlikeAt c b x :=
  ⟨.refl x, fun _ => rfl⟩

/-- What keeps two cleaners alike does so in their stores. -/
theorem Cleaner.AlikeAt.map {c b : Nat} {x y : Cleaner} (h : x.AlikeAt c b y)
    {f : Cleaner → Cleaner} (hf : x.Alike y → (f x).Alike (f y)) : (f x).AlikeAt c b (f y) :=
  ⟨hf h.alike, fun hb => congrArg f (h.other hb)⟩

/-- Two stores that differ in the handle of a cleaner only. -/
structure Store.Alike (c : Nat) (st st' : Store) : Prop where
  rest : st' = { st with cleaners := st'.cleaners }
  size : st'.cleaners.size = st.cleaners.size
  cleaner : ∀ b, (st.cleaner b).AlikeAt c b (st'.cleaner b)

namespace Store

variable {c : Nat} {st st' : Store}

theorem Alike.refl (c : Nat) (st : Store) : st.Alike c st := ⟨rfl, rfl, fun b => .refl c b _⟩

theorem Alike.history (h : st.Alike c st') : st'.history = st.history := by rw [h.rest]

theorem Alike.flags (h : st.Alike c st') : st'.flags = st.flags := by rw [h.rest]

theorem Alike.arenas (h : st.Alike c st') : st'.arenas = st.arenas := by rw [h.rest]

theorem Alike.arena (h : st.Alike c st') (a : Nat) : st'.arena a = st.arena a := by
  rw [Store.arena, Store.arena, h.arenas]

/-- What reads no cleaner finds the same. -/
theorem Alike.read {α : Type} (h : st.Alike c st') (f : Store → α)
    (hf : ∀ (st : Store) cleaners, f { st with cleaners } = f st) : f st' = f st := by
  rw [h.rest]
  exact hf st st'.cleaners

/-- What neither reads nor changes cleaners keeps two stores alike. -/
theorem Alike.map (h : st.Alike c st') (f : Store → Store)
    (hf : ∀ (st : Store) cleaners, f { st with cleaners } = { f st with cleaners })
    (hcleaners : (f st).cleaners = st.cleaners) : (f st).Alike c (f st') := by
  have heq : f st' = { f st with cleaners := st'.cleaners } := by
    rw [h.rest]
    exact hf st st'.cleaners
  have hlook (b : Nat) : (f st').cleaner b = st'.cleaner b ∧ (f st).cleaner b = st.cleaner b := by
    rw [heq, Store.cleaner, Store.cleaner, Store.cleaner, Store.cleaner, hcleaners]
    exact ⟨rfl, rfl⟩
  refine ⟨by rw [heq], ?_, fun b => ?_⟩
  · rw [heq, hcleaners]
    exact h.size
  · rw [(hlook b).1, (hlook b).2]
    exact h.cleaner b

theorem Alike.note (h : st.Alike c st') (e : Happening) : (st.note e).Alike c (st'.note e) :=
  h.map (·.note e) (fun _ _ => rfl) rfl

/-- A cleaner that is changed alike in both stores. -/
theorem Alike.modifyCleaner (h : st.Alike c st') (b : Nat) {f g : Cleaner → Cleaner}
    (hf : (f (st.cleaner b)).AlikeAt c b (g (st'.cleaner b))) :
    (st.modifyCleaner b f).Alike c (st'.modifyCleaner b g) := by
  refine ⟨?_, ?_, fun d => ?_⟩
  · rw [Store.modifyCleaner, Store.modifyCleaner, h.rest]
  · rw [size_cleaners_modifyCleaner, size_cleaners_modifyCleaner, h.size]
  · by_cases hb : b < st.cleaners.size
    · rw [cleaner_modifyCleaner _ _ _ _ hb, cleaner_modifyCleaner _ _ _ _ (h.size.symm ▸ hb)]
      by_cases hbd : b = d
      · subst hbd
        simpa using hf
      · simpa [hbd] using h.cleaner d
    · have hb := Nat.not_lt.mp hb
      rw [cleaner_modifyCleaner_unknown _ hb, cleaner_modifyCleaner_unknown _ (h.size.symm ▸ hb)]
      exact h.cleaner d

/-- Without the handle of one cleaner a store is alike. -/
theorem Alike.release_right (c : Nat) (st : Store) :
    st.Alike c (st.modifyCleaner c (·.release)) := by
  refine ⟨rfl, size_cleaners_modifyCleaner .., fun b => ?_⟩
  by_cases hc : c < st.cleaners.size
  · rw [cleaner_modifyCleaner _ _ _ _ hc]
    split
    · next hcb => exact ⟨.release_right _, fun hbc => absurd hcb.symm hbc⟩
    · exact .refl c b _
  · rw [cleaner_modifyCleaner_unknown _ (Nat.not_lt.mp hc)]
    exact .refl c b _

/-- Each thread stops that may. -/
theorem cleaner_settle (st : Store) (b : Nat) : st.settle.cleaner b = (st.cleaner b).settle := by
  simp only [settle, cleaner, Array.getElem?_map]
  cases st.cleaners[b]? <;> rfl

theorem Alike.settle (h : st.Alike c st') : st.settle.Alike c st'.settle := by
  refine ⟨?_, ?_, fun b => ?_⟩
  · rw [Store.settle, Store.settle, h.rest]
  · simpa [Store.settle] using h.size
  · rw [cleaner_settle, cleaner_settle]
    exact (h.cleaner b).map (f := Cleaner.settle) (·.settle)

/-- A new cleaner is the same in both stores. -/
theorem Alike.push (h : st.Alike c st') (x : Cleaner) :
    Alike c { st with cleaners := st.cleaners.push x }
      { st' with cleaners := st'.cleaners.push x } := by
  refine ⟨?_, by simpa using h.size, fun b => ?_⟩
  · rw [h.rest]
  · have hb := h.cleaner b
    simp only [Store.cleaner, Array.getElem?_push, h.size] at hb ⊢
    split
    · exact .refl c b x
    · exact hb

end Store

/-! ### Operations -/

/-- An operation that needs the handle of a cleaner. -/
def Operation.RegistersWith (c : Nat) (operation : Operation) : Prop :=
  (∃ thread, operation.registers? = some (thread, .auto c)) ∨ ∃ tag, operation = .track c tag

/-- Two stores that differ in the handle of a cleaner only, with the same result. -/
structure Store.Same {α : Type} (c : Nat) (r r' : Store × α) : Prop where
  store : r.1.Alike c r'.1
  result : r'.2 = r.2

namespace Store

variable {c : Nat} {st st' : Store}

/-- Both results in parts: two stores, and what was returned. -/
theorem Same.parts {α : Type} {r r' : Store × α} (h : Same c r r') :
    ∃ (after after' : Store) (result : α),
      r = (after, result) ∧ r' = (after', result) ∧ after.Alike c after' :=
  ⟨r.1, r'.1, r.2, rfl, by rw [← h.result], h.store⟩

/-- What neither reads nor changes cleaners has the same result. -/
theorem Alike.same {α : Type} (h : st.Alike c st') (f : Store → Store × α)
    (hf : ∀ (st : Store) cleaners,
      f { st with cleaners } = ({ (f st).1 with cleaners }, (f st).2))
    (hcleaners : (f st).1.cleaners = st.cleaners) : Same c (f st) (f st') where
  store :=
    h.map (fun st => (f st).1) (fun st cleaners => congrArg Prod.fst (hf st cleaners)) hcleaners
  result := h.read (fun st => (f st).2) fun st cleaners => by rw [hf]

theorem track_same (h : st.Alike c st') {b : Nat} (hb : b ≠ c) (action : Action) :
    Same c (st.track b action) (st'.track b action) := by
  have hcleaner := (h.cleaner b).other hb
  unfold track
  rw [hcleaner]
  refine ⟨(h.modifyCleaner b ?_).note _, rfl⟩
  rw [hcleaner]
  exact .refl c b _

theorem register_same (h : st.Alike c st') (thread : ThreadId) {home : ArenaRef}
    (hhome : home ≠ .auto c) (d : Disposal) :
    Same c (st.register thread home d) (st'.register thread home d) := by
  cases home with
  | confined a =>
    simp only [register, registerConfined, h.arena]
    split
    · exact ⟨h, rfl⟩
    · split
      · exact ⟨(h.map (·.modifyArena a (·.accept d)) (fun _ _ => rfl) rfl).note _, rfl⟩
      · exact ⟨h, rfl⟩
  | auto b =>
    have htrack := track_same h (fun hb => hhome (congrArg _ hb)) (.dispose d)
    refine ⟨htrack.store, ?_⟩
    simp only [register]
    rw [htrack.result]

theorem takeOver_same (h : st.Alike c st') (thread : ThreadId) (address : Address)
    (type : ForeignType) {home : ArenaRef} (hhome : home ≠ .auto c) :
    Same c (st.takeOver thread address type home) (st'.takeOver thread address type home) := by
  have hflag := h.same newFlag (fun _ _ => rfl) rfl
  have hregister := register_same hflag.store thread hhome ⟨address, type, st.newFlag.2⟩
  unfold takeOver
  split
  · exact ⟨h, rfl⟩
  · dsimp only
    rw [hflag.result]
    exact ⟨hregister.store, by rw [hregister.result]⟩

theorem extendBatch_same (thread : ThreadId) (type : ForeignType) {home : ArenaRef}
    (hhome : home ≠ .auto c) (n : Nat) (h : st.Alike c st') (instances : Array Instance) :
    Same c (extendBatch thread type home n st instances)
      (extendBatch thread type home n st' instances) := by
  -- on the number of instances that are still to be made
  induction n generalizing st st' instances with
  | zero => exact ⟨h, rfl⟩
  | succ n ih =>
    obtain ⟨after, after', result, hfirst, hfirst', hstore⟩ :=
      (takeOver_same h thread ⟨UInt64.ofNat (instances.size + 1)⟩ type hhome).parts
    rw [extendBatch, extendBatch, hfirst, hfirst']
    cases result with
    | ok inst => exact ih hstore (instances.push inst)
    | error e => exact ⟨hstore, rfl⟩

theorem runtimeType_same (h : st.Alike c st') (thread : ThreadId) (runtime : ForeignRuntime)
    (name : String) (kind : TypeKind) :
    Same c (st.runtimeType thread runtime name kind) (st'.runtimeType thread runtime name kind) := by
  refine h.same (·.runtimeType thread runtime name kind) (fun st cleaners => ?_) ?_
  all_goals
    unfold runtimeType findOrMakeType newType registry
    dsimp only
    generalize Registry.findOrMake _ name _ = found
    obtain ⟨registry, ⟨type | payload, made⟩⟩ := found <;> cases made <;> rfl

theorem newOnHeap_same (h : st.Alike c st') (thread : ThreadId) (runtime : ForeignRuntime)
    (typeName : String) (kind : TypeKind) (payload : Int64) {home : ArenaRef}
    (hhome : home ≠ .auto c) :
    Same c (st.newOnHeap thread runtime typeName kind payload home)
      (st'.newOnHeap thread runtime typeName kind payload home) := by
  unfold newOnHeap
  dsimp only
  rw [h.read (·.heap runtime.heap) fun _ _ => rfl]
  generalize (st.heap runtime.heap).allocate typeName payload = allocated
  have halloc : (st.setHeap runtime.heap allocated.1).Alike c
      (st'.setHeap runtime.heap allocated.1) :=
    h.map (·.setHeap runtime.heap allocated.1) (fun _ _ => rfl) rfl
  have htype := runtimeType_same halloc thread runtime typeName kind
  rw [htype.result]
  obtain ⟨after, after', result, htake, htake', hstore⟩ :=
    (takeOver_same htype.store thread allocated.2
      ((st.setHeap runtime.heap allocated.1).runtimeType thread runtime typeName kind).2 hhome).parts
  rw [htake, htake']
  cases result with
  | ok inst => exact ⟨hstore, rfl⟩
  | error e =>
    refine ⟨?_, rfl⟩
    cases kind
    · exact hstore.map (·.giveBack runtime.heap .reference allocated.2) (fun _ _ => rfl) rfl
    · exact hstore.map (·.giveBack runtime.heap .value allocated.2) (fun _ _ => rfl) rfl

theorem openArena_same (h : st.Alike c st') (thread : ThreadId) (config : ArenaConfig) :
    Same c (st.openArena thread config) (st'.openArena thread config) := by
  refine h.same (·.openArena thread config) (fun st cleaners => ?_) ?_
  all_goals
    unfold openArena
    split <;> rfl

theorem startCleaner_same (h : st.Alike c st') (thread : ThreadId) (config : CleanerConfig) :
    Same c (st.startCleaner thread config) (st'.startCleaner thread config) := by
  unfold startCleaner
  split
  · exact ⟨h, rfl⟩
  · dsimp only
    rw [h.size]
    exact ⟨(h.push _).note _, rfl⟩

theorem openAuto_same (h : st.Alike c st') (thread : ThreadId) (config : CleanerConfig) :
    Same c (st.openAuto thread config) (st'.openAuto thread config) := by
  obtain ⟨after, after', result, hstart, hstart', hstore⟩ :=
    (startCleaner_same h thread config).parts
  rw [openAuto, openAuto, hstart, hstart']
  cases result with
  | ok b => exact ⟨hstore.note _, rfl⟩
  | error e => exact ⟨hstore, rfl⟩

theorem openFilled_same (h : st.Alike c st') (thread : ThreadId) (n : Nat) :
    Same c (st.openFilled thread n) (st'.openFilled thread n) := by
  obtain ⟨opened, opened', result, hopen, hopen', hstore⟩ :=
    (openArena_same h thread { initialCapacity := n }).parts
  rw [openFilled, openFilled, hopen, hopen']
  cases result with
  | error e => exact ⟨hstore, rfl⟩
  | ok a =>
    have htype := hstore.same newInertType (fun _ _ => rfl) rfl
    have hhome : ArenaRef.confined a ≠ .auto c := by simp
    obtain ⟨after, after', ⟨instances, error⟩, hfill, hfill', hstore⟩ :=
      (extendBatch_same thread opened.newInertType.2 hhome n htype.store #[]).parts
    unfold takeOverMany
    dsimp only
    rw [htype.result, hfill, hfill']
    cases error with
    | none => exact ⟨hstore, rfl⟩
    | some e => exact ⟨hstore, rfl⟩

theorem retainObject_alike (h : st.Alike c st') (i : Instance) (heap : Nat) :
    (st.retainObject st i heap).1.Alike c (st'.retainObject st' i heap).1 := by
  refine h.map (fun st => (st.retainObject st i heap).1) (fun st cleaners => ?_) ?_
  · rw [retainObject_fst, retainObject_fst]
    rw [show ({ st with cleaners } : Store).readObject { st with cleaners } i heap "object" =
      st.readObject st i heap "object" from rfl]
    split <;> rfl
  · rw [retainObject_fst]
    split <;> rfl

/-- **Operations that do not need the handle keep two stores alike.** -/
theorem apply_alike (h : st.Alike c st') {operation : Operation}
    (hhome : ¬operation.RegistersWith c) : (st.apply operation).Alike c (st'.apply operation) := by
  have hother {thread : ThreadId} {home : ArenaRef}
      (hsome : operation.registers? = some (thread, home)) : home ≠ .auto c := by
    rintro rfl
    exact hhome (.inl ⟨thread, hsome⟩)
  cases operation with
  | findOrMakeType thread r name make =>
    refine h.map (fun st => (st.findOrMakeType thread r name make).1) (fun st cleaners => ?_) ?_
    all_goals
      unfold findOrMakeType registry
      dsimp only
      split <;> rfl
  | runtimeType thread runtime name kind => exact (runtimeType_same h thread runtime name kind).store
  | openArena thread config => exact (openArena_same h thread config).store
  | openAuto thread config => exact (openAuto_same h thread config).store
  | startCleaner thread config => exact (startCleaner_same h thread config).store
  | register thread home d => exact (register_same h thread (hother rfl) d).store
  | takeOver thread address type home =>
    exact (takeOver_same h thread address type (hother rfl)).store
  | takeOverMany thread type home n =>
    exact (extendBatch_same thread type (hother rfl) n h #[]).store
  | openFilled thread n => exact (openFilled_same h thread n).store
  | newObject thread runtime payload home =>
    exact (newOnHeap_same h thread runtime objectTypeName .reference payload (hother rfl)).store
  | newValue thread runtime payload home =>
    exact (newOnHeap_same h thread runtime valueTypeName .value payload (hother rfl)).store
  | retainObject i heap => exact retainObject_alike h i heap
  | track b tag =>
    refine (track_same h (fun hb => hhome (.inr ⟨tag, ?_⟩)) (.supplied tag)).store
    rw [hb]
  | letGo b => exact h.modifyCleaner b ((h.cleaner b).map (f := Cleaner.release) (·.release))
  | settle => exact h.settle
  | _ => exact h.map (·.apply _) (fun _ _ => rfl) rfl

/-- And what can be done in one store can be done in the other. -/
theorem admits_alike (h : st.Alike c st') {operation : Operation}
    (hhome : ¬operation.RegistersWith c) : st'.admits operation = st.admits operation := by
  have hsize : st'.arenas.size = st.arenas.size := by rw [h.arenas]
  have hhas {home : ArenaRef} (hother : home ≠ .auto c) : st'.hasHome home = st.hasHome home := by
    cases home with
    | confined a => rw [hasHome, hasHome, hsize]
    | auto b => rw [hasHome, hasHome, h.size, (h.cleaner b).other fun hb => hother (congrArg _ hb)]
  have hother (thread : ThreadId) {home : ArenaRef}
      (hsome : operation.registers? = some (thread, home)) :
      st'.hasHome home = st.hasHome home := by
    refine hhas ?_
    rintro rfl
    exact hhome (.inl ⟨thread, hsome⟩)
  have hruntime (runtime : ForeignRuntime) : st'.hasRuntime runtime = st.hasRuntime runtime :=
    h.read (·.hasRuntime runtime) fun _ _ => rfl
  cases operation with
  | register thread home d => simp only [admits, hother thread rfl, h.flags]
  | takeOver thread address type home => simp only [admits, hother thread rfl]
  | takeOverMany thread type home n => simp only [admits, hother thread rfl]
  | newObject thread runtime payload home | newValue thread runtime payload home =>
    simp only [admits, hother thread rfl, hruntime]
  | track b tag =>
    show st'.hasHome (.auto b) = st.hasHome (.auto b)
    refine hhas fun hb => hhome (.inr ⟨tag, ?_⟩)
    cases hb
    rfl
  | _ => rfl

end Store

/-! ### Systems -/

/-- Two systems that differ in the handle of a cleaner only. -/
structure System.Alike (c : Nat) (s s' : System) : Prop where
  store : s.store.Alike c s'.store
  stack : s'.stack = s.stack
  focus : s'.focus = s.focus

namespace System

variable {c : Nat} {s s' : System}

theorem Alike.note (h : s.Alike c s') (e : Happening) : (s.note e).Alike c (s'.note e) :=
  ⟨h.store.note e, h.stack, h.focus⟩

theorem Alike.push (h : s.Alike c s') (f : Frame) : (s.push f).Alike c (s'.push f) :=
  ⟨h.store, congrArg (f :: ·) h.stack, h.focus⟩

theorem Alike.hand (h : s.Alike c s') (o : Outcome) : (s.hand o).Alike c (s'.hand o) :=
  ⟨h.store, h.stack, rfl⟩

theorem Alike.reply (h : s.Alike c s') (r : Reply) : (s.reply r).Alike c (s'.reply r) :=
  h.hand (.ok r)

theorem Alike.yield (h : s.Alike c s') (news : Option Outcome) :
    (s.yield news).Alike c (s'.yield news) :=
  ⟨h.store, h.stack, rfl⟩

theorem Alike.request (h : s.Alike c s') (r : Request) : (s.request r).Alike c (s'.request r) :=
  (h.push (.awaiting r)).yield none

theorem Alike.discard (h : s.Alike c s') (payload : Payload) (next : System → System)
    (hnext : (next s).Alike c (next s')) :
    (s.discard payload next).Alike c (s'.discard payload next) := by
  unfold System.discard
  split
  · exact h.hand _
  · exact hnext

/-- What neither reads nor changes cleaners keeps two systems alike. -/
theorem Alike.mapStore (h : s.Alike c s') (f : Store → Store)
    (hf : ∀ (st : Store) cleaners, f { st with cleaners } = { f st with cleaners })
    (hcleaners : (f s.store).cleaners = s.store.cleaners) :
    (s.mapStore f).Alike c (s'.mapStore f) :=
  ⟨h.store.map f hf hcleaners, h.stack, h.focus⟩

/-- A cleaner that is changed alike in both systems. -/
theorem Alike.modifyCleaner (h : s.Alike c s') (b : Nat) {f g : Cleaner → Cleaner}
    (hf : (f (s.store.cleaner b)).AlikeAt c b (g (s'.store.cleaner b))) :
    (s.mapStore (·.modifyCleaner b f)).Alike c (s'.mapStore (·.modifyCleaner b g)) :=
  ⟨h.store.modifyCleaner b hf, h.stack, h.focus⟩

section

variable (thread : ThreadId) (d : Disposal) (a b token n : Nat) (failures : List DisposalError)

theorem askCount_alike (h : s.Alike c s') (type : ForeignType) (address : Address) :
    (s.askCount thread type address).Alike c (s'.askCount thread type address) := by
  unfold askCount
  rw [h.store.read (·.knownCount? type address) fun _ _ => rfl]
  split
  · exact h.reply _
  · exact h.request _

theorem callDestroy_alike (h : s.Alike c s') (type : ForeignType) (address : Address) :
    (s.callDestroy thread type address).Alike c (s'.callDestroy thread type address) := by
  have hknown : (s.store.destroyKnown? type address = none ∧
      s'.store.destroyKnown? type address = none) ∨
      ∃ st st' panic, s.store.destroyKnown? type address = some (st, panic) ∧
        s'.store.destroyKnown? type address = some (st', panic) ∧ st.Alike c st' := by
    unfold Store.destroyKnown?
    cases type.routines with
    | supplied => exact .inl ⟨rfl, rfl⟩
    | tallied t panics =>
      exact .inr ⟨_, _, _, rfl, rfl, h.store.map (·.modifyTally t _) (fun _ _ => rfl) rfl⟩
    | inert => exact .inr ⟨_, _, _, rfl, rfl, h.store⟩
    | uncounted => exact .inr ⟨_, _, _, rfl, rfl, h.store⟩
    | heapObject heap =>
      exact .inr ⟨_, _, _, rfl, rfl,
        h.store.map (fun st => st.setHeap heap ((st.heap heap).release address).1)
          (fun _ _ => rfl) rfl⟩
    | heapValue heap =>
      exact .inr ⟨_, _, _, rfl, rfl,
        h.store.map (fun st => st.setHeap heap ((st.heap heap).destroy address).1)
          (fun _ _ => rfl) rfl⟩
  unfold callDestroy
  obtain ⟨hnone, hnone'⟩ | ⟨st, st', panic, hsome, hsome', hst⟩ := hknown
  · rw [hnone, hnone']
    exact h.request _
  · rw [hsome, hsome']
    cases panic with
    | some payload => exact ⟨hst, h.stack, rfl⟩
    | none => exact ⟨hst, h.stack, rfl⟩

theorem destroy_alike (h : s.Alike c s') : (s.destroy thread d).Alike c (s'.destroy thread d) :=
  callDestroy_alike thread ((h.note _).push _) d.type d.address

theorem dispose_alike (h : s.Alike c s') : (s.dispose thread d).Alike c (s'.dispose thread d) := by
  have hbegun := h.mapStore (·.begin thread d) (fun _ _ => rfl) rfl
  unfold dispose
  dsimp only
  split
  · exact askCount_alike thread ((hbegun.note _).push _) d.type d.address
  · exact destroy_alike thread d hbegun

theorem resumeCounted_alike (h : s.Alike c s') (count : Option UInt64) :
    (s.resumeCounted thread d count).Alike c (s'.resumeCounted thread d count) := by
  unfold resumeCounted
  split
  · split
    · exact h.reply _
    · exact destroy_alike thread d h
  · exact destroy_alike thread d h

theorem contain_alike (h : s.Alike c s') (payload : Payload) :
    (s.contain d payload).Alike c (s'.contain d payload) :=
  h.discard payload _ (h.reply _)

theorem sweep_alike (h : s.Alike c s') (todo : List Disposal) :
    (s.sweep thread a n failures todo).Alike c (s'.sweep thread a n failures todo) := by
  cases todo with
  | nil =>
    unfold sweep
    dsimp only
    split
    · exact (h.note _).reply _
    · exact (h.note _).reply _
  | cons d rest => exact dispose_alike thread d (((h.note _).push _).push _)

theorem resumeSweep_alike (h : s.Alike c s') (todo : List Disposal)
    (result : Except DisposalError Unit) :
    (s.resumeSweep thread a n failures todo result).Alike c
      (s'.resumeSweep thread a n failures todo result) := by
  cases result with
  | ok _ => exact sweep_alike thread a n failures h todo
  | error e => exact sweep_alike thread a n (failures ++ [e]) (h.note _) todo

theorem close_alike (h : s.Alike c s') : (s.close thread a).Alike c (s'.close thread a) := by
  unfold close
  dsimp only
  rw [h.store.arena]
  split
  · exact h.reply _
  · split
    · exact sweep_alike thread a _ []
        ((h.mapStore (·.modifyArena a _) (fun _ _ => rfl) rfl).note _) _
    · exact h.reply _

theorem drop_alike (h : s.Alike c s') : (s.drop thread a).Alike c (s'.drop thread a) := by
  unfold drop
  dsimp only
  rw [h.store.arena]
  split
  · exact h.reply _
  · split
    · exact ((h.note _).mapStore (·.modifyArena a _) (fun _ _ => rfl) rfl).reply _
    · exact close_alike thread a (h.push _)

theorem runAction_alike (h : s.Alike c s') :
    (s.runAction thread b token).Alike c (s'.runAction thread b token) := by
  have hcleaner := h.store.cleaner b
  unfold runAction
  obtain ⟨hnone, hnone'⟩ | ⟨x, x', action, hsome, hsome', hx⟩ := hcleaner.alike.take? token
  · rw [hnone, hnone']
    exact h.reply _
  · have hat : x.AlikeAt c b x' := by
      refine ⟨hx, fun hb => ?_⟩
      rw [hcleaner.other hb, hsome] at hsome'
      cases hsome'
      rfl
    rw [hsome, hsome']
    have hbegun := ((h.modifyCleaner b (f := fun _ => x) (g := fun _ => x') hat).note
      (.started thread b token action)).push (.running thread b token)
    cases action with
    | dispose d => exact dispose_alike thread d (hbegun.push _)
    | supplied tag => exact hbegun.request _

theorem resumeEnded_alike (h : s.Alike c s') :
    (s.resumeEnded thread b token).Alike c (s'.resumeEnded thread b token) := by
  have hfinish := (h.store.cleaner b).map (f := Cleaner.finish) fun hx =>
    hx.map _ (fun _ _ _ => rfl) rfl fun hqueue htokens => ⟨hqueue, htokens⟩
  exact ((h.modifyCleaner b hfinish).note _).reply _

theorem resumePanicked_alike (h : s.Alike c s') (payload : Payload) :
    (s.resumePanicked thread b token payload).Alike c
      (s'.resumePanicked thread b token payload) := by
  have hfail := (h.store.cleaner b).map (f := Cleaner.fail) fun hx =>
    hx.map _ (fun _ _ _ => rfl) rfl fun hqueue htokens => ⟨hqueue, htokens⟩
  have hnoted := (h.modifyCleaner b hfail).note (.actionPanicked thread b token payload.message)
  exact hnoted.discard payload (·.reply (.cleaned true)) (hnoted.reply _)

theorem takeAction_alike (h : s.Alike c s') :
    (s.takeAction thread b token).Alike c (s'.takeAction thread b token) :=
  (h.push _).reply _

theorem Alike.spend (h : s.Alike c s') :
    (s.mapStore (·.modifyCleaner b (·.spend token))).Alike c
      (s'.mapStore (·.modifyCleaner b (·.spend token))) := by
  refine h.modifyCleaner b ((h.store.cleaner b).map (f := (·.spend token)) fun hx => ?_)
  refine hx.map (·.spend token) (fun _ _ _ => rfl) rfl fun hqueue htokens => ⟨hqueue, ?_⟩
  simp only [Cleaner.spend, htokens, List.erase_nil]

theorem clean_alike (h : s.Alike c s') :
    (s.clean thread b token).Alike c (s'.clean thread b token) := by
  unfold clean
  rw [(h.store.cleaner b).alike.tokens]
  split
  · exact takeAction_alike thread b token (h.spend b token)
  · exact h.reply _

theorem dropToken_alike (h : s.Alike c s') :
    (s.dropToken thread b token).Alike c (s'.dropToken thread b token) := by
  have hcleaner := h.store.cleaner b
  unfold dropToken
  rw [hcleaner.alike.tokens]
  split
  · next htoken =>
    -- both threads do the same, as the token is still there for them to wait for
    have hreceiving : (s'.store.cleaner b).isReceiving = (s.store.cleaner b).isReceiving := by
      rw [Cleaner.isReceiving, Cleaner.isReceiving, hcleaner.alike.phase_of_token htoken]
    dsimp only [mapStore]
    rw [Store.isReceiving_spend, Store.isReceiving_spend, hreceiving]
    split
    · have hdrop := h.modifyCleaner b (f := fun x => (x.spend token).enqueue token)
        (g := fun x => (x.spend token).enqueue token)
        ⟨hcleaner.alike.enqueue htoken, fun hb => by rw [hcleaner.other hb]⟩
      rw [note, note, mapStore, mapStore, Store.modifyCleaner_modifyCleaner,
        Store.modifyCleaner_modifyCleaner]
      exact (hdrop.note (.queued b token)).reply _
    · exact takeAction_alike thread b token (((h.spend b token).note _).push _)
  · exact h.reply _

theorem receive_alike (h : s.Alike c s') : (s.receive b).Alike c (s'.receive b) := by
  have hcleaner := h.store.cleaner b
  unfold receive
  obtain ⟨hnone, hnone'⟩ | ⟨x, x', token, hsome, hsome', hx, hname⟩ := hcleaner.alike.dequeue?
  · rw [hnone, hnone']
    exact h.reply _
  · have hat : x.AlikeAt c b x' := by
      refine ⟨hx, fun hb => ?_⟩
      rw [hcleaner.other hb, hsome] at hsome'
      cases hsome'
      rfl
    rw [hsome, hsome']
    dsimp only
    rw [hname]
    have htaken := h.modifyCleaner b (f := fun _ => x) (g := fun _ => x') hat
    exact takeAction_alike _ b token ((htaken.note _).push _)

/-- All work that is started keeps two systems alike. -/
theorem start_alike (h : s.Alike c s') (work : Work) : (s.start work).Alike c (s'.start work) := by
  unfold start
  rw [h.focus]
  cases s.focus with
  | handing o => exact h
  | client news =>
    cases work with
    | count thread type address => exact askCount_alike thread h type address
    | destroy thread type address => exact callDestroy_alike thread h type address
    | dispose thread d => exact dispose_alike thread d h
    | disposeGuarded thread d => exact dispose_alike thread d (h.push _)
    | close thread a => exact close_alike thread a h
    | drop thread a => exact drop_alike thread a h
    | clean thread b token => exact clean_alike thread b token h
    | dropRegistration thread r =>
      cases r with
      | plain => exact h.reply _
      | tracked b token => exact dropToken_alike thread b token h
    | receive b => exact receive_alike b h

/-- And all work that goes on. -/
theorem resume_alike (h : s.Alike c s') (f : Frame) (o : Outcome) :
    (s.resume f o).Alike c (s'.resume f o) := by
  unfold resume
  split
  · exact (h.push _).yield _
  · exact resumeCounted_alike _ _ h _
  · exact (h.note _).reply _
  · exact contain_alike _ h _
  · exact resumeSweep_alike _ _ _ _ h _ _
  · exact (h.note _).reply _
  · exact h.reply _
  · exact (h.note _).reply _
  · exact h.reply _
  · exact runAction_alike _ _ _ h
  · exact resumeEnded_alike _ _ _ h
  · exact resumePanicked_alike _ _ _ h _
  · exact h.reply _
  · next b _ =>
    have hresume := (h.store.cleaner b).map (f := Cleaner.resume) fun hx =>
      hx.setPhase _ fun _ _ _ => rfl
    exact (h.modifyCleaner b hresume).reply _
  · next b _ =>
    have hdie := (h.store.cleaner b).map (f := Cleaner.die) fun hx =>
      hx.setPhase _ fun _ _ _ => rfl
    exact (h.modifyCleaner b hdie).reply _
  · exact h.hand _

end

theorem tick_alike (h : s.Alike c s') : s.tick.Alike c s'.tick := by
  unfold tick
  rw [h.focus, h.stack]
  cases s.focus with
  | client news => exact h
  | handing o =>
    cases s.stack with
    | nil => exact h.yield _
    | cons f rest =>
      have hrest : System.Alike c { s with stack := rest } { s' with stack := rest } :=
        ⟨h.store, rfl, h.focus⟩
      exact resume_alike hrest f o

theorem answer_alike (h : s.Alike c s') (o : Outcome) : (s.answer o).Alike c (s'.answer o) := by
  unfold answer
  rw [h.focus, h.stack]
  split
  · split
    · exact ⟨h.store, rfl, rfl⟩
    · exact h
  · exact h

/-- **Two systems that differ in a handle go on alike while nobody registers through it.** -/
theorem perform_alike (h : s.Alike c s') {move : Move}
    (hmove : ∀ operation, move = .operate operation → ¬operation.RegistersWith c) :
    (s.perform move).Alike c (s'.perform move) := by
  cases move with
  | start work =>
    unfold perform
    have hadmits : s'.store.admitsWork work = s.store.admitsWork work := by
      cases work with
      | dispose thread d | disposeGuarded thread d =>
        simp only [Store.admitsWork, h.store.flags]
      | _ => rfl
    dsimp only
    rw [hadmits]
    split
    · exact start_alike h work
    · exact h
  | answer o => exact answer_alike h o
  | tick => exact tick_alike h
  | operate operation =>
    have hhome := hmove operation rfl
    unfold perform
    dsimp only
    rw [h.focus, Store.admits_alike h.store hhome]
    split
    · exact h
    · split
      · exact ⟨Store.apply_alike h.store hhome, h.stack, h.focus⟩
      · exact h

/-- To let the handle go makes this difference and no other. -/
theorem letGo_alike (s : System) (c : Nat) : s.Alike c (s.perform (.operate (.letGo c))) := by
  have hrefl : s.Alike c s := ⟨.refl c s.store, rfl, rfl⟩
  unfold perform
  cases s.focus with
  | handing o => exact hrefl
  | client news =>
    exact ⟨.release_right c s.store, rfl, rfl⟩

end System

/-! ### Runs -/

/-- Two machines that differ in the handle of a cleaner only. -/
structure Machine.Alike (c : Nat) (m m' : Machine) : Prop where
  store : m.store.Alike c m'.store
  strands : m'.strands = m.strands

namespace Machine

variable {c : Nat} {m m' : Machine}

/-- An act that registers with a cleaner, through its handle. -/
def RegistersWith (c : Nat) (act : Act) : Prop :=
  ∃ i operation, act = .move i (.operate operation) ∧ operation.RegistersWith c

theorem perform_alike (h : m.Alike c m') {act : Act} (hact : ¬RegistersWith c act) :
    (m.perform act).Alike c (m'.perform act) := by
  cases act with
  | spawn => exact ⟨h.store, by rw [perform, perform, h.strands]⟩
  | move i move =>
    unfold perform
    dsimp only
    rw [h.strands]
    cases m.strands[i]? with
    | none => exact h
    | some strand =>
      have hs : (m.system strand).Alike c (m'.system strand) := ⟨h.store, rfl, rfl⟩
      have hsystem : ((m.system strand).perform move).Alike c ((m'.system strand).perform move) :=
        System.perform_alike hs fun operation hmove hregisters =>
          hact ⟨i, operation, by rw [hmove], hregisters⟩
      refine ⟨hsystem.store, ?_⟩
      dsimp only
      rw [hsystem.stack, hsystem.focus]

/-- Letting a handle go is no more than that. -/
theorem letGo_alike (m : Machine) (i c : Nat) :
    m.Alike c (m.perform (.move i (.operate (.letGo c)))) := by
  cases hi : m.strands[i]? with
  | none =>
    rw [perform_of_none hi]
    exact ⟨.refl c m.store, rfl⟩
  | some strand =>
    have hs := System.letGo_alike (m.system strand) c
    have hstrand : strand = ⟨((m.system strand).perform (.operate (.letGo c))).stack,
        ((m.system strand).perform (.operate (.letGo c))).focus⟩ := by
      rw [hs.stack, hs.focus]
      rfl
    refine ⟨?_, ?_⟩
    · rw [store_perform hi]
      exact hs.store
    · simp only [perform, hi]
      rw [← hstrand]
      obtain ⟨hlt, rfl⟩ := List.getElem?_eq_some_iff.mp hi
      exact List.set_getElem_self hlt

end Machine

namespace Schedule

/-- A run with one more act before act `k`. -/
def insert (σ : Schedule) (k : Nat) (act : Act) : Schedule := fun n =>
  if n < k then σ n else if n = k then act else σ (n - 1)

variable {σ : Schedule} {k n : Nat}

theorem after_insert_of_le (act : Act) (h : n ≤ k) : (σ.insert k act).after n = σ.after n := by
  -- on the length of the run before the new act
  induction n with
  | zero => rfl
  | succ n ih =>
    have hearlier : σ.insert k act n = σ n := if_pos h
    rw [after, after, ih (Nat.le_of_succ_le h), hearlier]

/-- **A handle that is let go earlier makes no difference but that it is gone**, if nobody
    registers through it later. -/
theorem after_insert_letGo (i : Nat) {c : Nat} (hk : k ≤ n)
    (hlast : ∀ l, k ≤ l → l < n → ¬Machine.RegistersWith c (σ l)) :
    (σ.after n).Alike c ((σ.insert k (.move i (.operate (.letGo c)))).after (n + 1)) := by
  -- on the acts since the handle was let go
  induction hk with
  | refl =>
    have hnew : σ.insert k (.move i (.operate (.letGo c))) k = .move i (.operate (.letGo c)) := by
      simp [insert]
    rw [after, hnew, after_insert_of_le _ (Nat.le_refl k)]
    exact (σ.after k).letGo_alike i c
  | @step n hk ih =>
    have hlater : σ.insert k (.move i (.operate (.letGo c))) (n + 1) = σ n := by
      have hn : ¬n + 1 < k ∧ n + 1 ≠ k := by
        have hkn : k ≤ n := hk
        omega
      simp only [insert, if_neg hn.1, if_neg hn.2, Nat.add_sub_cancel]
    rw [after, after, hlater]
    exact Machine.perform_alike (ih fun l hkl hln => hlast l hkl (by omega)) (hlast n hk (by omega))

end Schedule

end ForeignArena
