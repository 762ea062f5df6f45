import ForeignArena.Proofs.Arenas.Sweeps
import Mathlib.Data.List.Forall2
import Mathlib.Logic.Function.Iterate

namespace ForeignArena

/-!
# Libraries

Supplied code may be a library: routines that keep a state of their own and leave arenas alone.
With a library a closing can be told from beginning to end.

* `Library`, `World` — the routines, and all that a disposal can touch;
* `Library.call` — one call of a routine, supplied or not;
* `Library.dispose`, `Library.run`, `Library.sweep` — a disposal, the same with its panics
  contained, and a closing, each in one piece;
* `Library.sweep_names` — each failure names its object;
* `Library.drive` — a system in which the library answers all requests;
* `Library.drives_close` — such a system closes an arena as `Library.sweep` says, and returns.
-/

/-- Supplied code that keeps a state of its own.  All its payloads can be dropped. -/
structure Library (W : Type) where
  respond : Request → W → Outcome × W
  admits : ∀ (r : Request) (w : W), r.admits (respond r w).1
  droppable : ∀ (r : Request) (w : W) (payload : Payload),
    (respond r w).1 = .error payload → payload.dropped? = none

/-- What a disposal can touch: the store, and the state of the library. -/
structure World (W : Type) where
  store : Store
  own : W

namespace World

variable {W : Type}

/-- The world with one more happening. -/
def note (x : World W) (h : Happening) : World W :=
  { x with store := x.store.note h }

/-- The world as a disposal begins. -/
def begin (x : World W) (thread : ThreadId) (d : Disposal) : World W :=
  { x with store := x.store.begin thread d }

/-- A closing takes note of the result of a disposal. -/
def record (x : World W) (thread : ThreadId) (a : Nat) : Except DisposalError Unit → World W
  | .ok _ => x
  | .error e => x.note (.leaked thread a e)

/-- The system in which an outcome comes to some frames. -/
def system (x : World W) (o : Outcome) (stack : List Frame) : System :=
  { store := x.store, stack, focus := .handing o }

end World

/-- What a part of the work does: the routines that it calls, its result, and what it leaves. -/
structure Course (W α : Type) where
  calls : List Request
  result : α
  left : World W

/-- What becomes of one disposal in a closing. -/
structure Visit where
  calls : List Request
  result : Except DisposalError Unit

/-- The count in the outcome of a count routine. -/
def Outcome.counted : Outcome → Except Payload (Option UInt64)
  | .ok (.count count) => .ok count
  | .ok _ => .ok none
  | .error payload => .error payload

theorem Outcome.eq_error_of_counted {o : Outcome} {payload : Payload}
    (h : o.counted = .error payload) : o = .error payload := by
  unfold counted at h
  split at h
  · cases h
  · cases h
  · cases h
    rfl

/-- The outcome of a disposal whose panics come out of it. -/
def Outcome.ofDisposal (result : Except Payload (Except DisposalError Unit)) : Outcome :=
  result.map .disposed

/-- An error names the object that a disposal was to destroy. -/
def DisposalError.Names (e : DisposalError) (d : Disposal) : Prop :=
  e.typeName = d.type.name ∧ e.address = d.address

/-- What the guard of a disposal makes of its result. -/
def Disposal.contained (d : Disposal) :
    Except Payload (Except DisposalError Unit) → Except DisposalError Unit
  | .ok result => result
  | .error payload => .error (.destroyPanicked d.type.name d.address payload.message)

namespace Library

variable {W : Type} (lib : Library W) (thread : ThreadId) (d : Disposal) (x : World W)

/-! ### Disposals in one piece -/

/-- Ask the library. -/
def ask (r : Request) : Outcome × World W :=
  ((lib.respond r x.own).1, { x with own := (lib.respond r x.own).2 })

/-- Call a routine.  The library is asked only if the routine is supplied. -/
def call (r : Request) : Outcome × World W :=
  match r with
  | .count _ type address =>
    match x.store.knownCount? type address with
    | some count => (.ok (.count count), x)
    | none => lib.ask x r
  | .destroy _ type address =>
    match x.store.destroyKnown? type address with
    | some (store, some payload) => (.error payload, { x with store })
    | some (store, none) => (.ok .done, { x with store })
    | none => lib.ask x r
  | .action _ _ => lib.ask x r

/-- The last part of a disposal. -/
def destroy : Course W (Except Payload (Except DisposalError Unit)) :=
  let r : Request := .destroy thread d.type d.address
  let answered := lib.call (x.note (.destroying thread d)) r
  match answered.1 with
  | .ok _ => ⟨[r], .ok (.ok ()), answered.2.note (.destroyed thread d)⟩
  | .error payload => ⟨[r], .error payload, answered.2⟩

/-- The part of a disposal that follows its count. -/
def goOn (count : Except Payload (Option UInt64)) :
    Course W (Except Payload (Except DisposalError Unit)) :=
  match count with
  | .ok (some n) =>
    if 1 < n then ⟨[], .ok (.error (.unexpectedRetainCount d.type.name d.address n)), x⟩
    else lib.destroy thread d x
  | .ok none => lib.destroy thread d x
  | .error payload => ⟨[], .error payload, x⟩

/-- A disposal. -/
def dispose : Course W (Except Payload (Except DisposalError Unit)) :=
  let begun := x.begin thread d
  if d.type.kind.isReference then
    let r : Request := .count thread d.type d.address
    let answered := lib.call (begun.note (.counting thread d)) r
    let course := lib.goOn thread d answered.2 answered.1.counted
    { course with calls := r :: course.calls }
  else lib.destroy thread d begun

/-- A disposal with its panics contained. -/
def run : Course W (Except DisposalError Unit) :=
  let course := lib.dispose thread d x
  ⟨course.calls, d.contained course.result, course.left⟩

/-- A closing: each disposal runs in what the one before has left. -/
def sweep (lib : Library W) (thread : ThreadId) (a : Nat) :
    List Disposal → World W → List Visit × World W
  | [], x => ([], x)
  | d :: rest, x =>
    let course := lib.run thread d (x.note (.attempting thread a d))
    let others := lib.sweep thread a rest (course.left.record thread a course.result)
    (⟨course.calls, course.result⟩ :: others.1, others.2)

/-- Routines end as they can. -/
theorem call_admits (r : Request) : r.admits (lib.call x r).1 = true := by
  unfold call
  split
  · split
    · rfl
    · exact lib.admits _ _
  · split
    · rfl
    · rfl
    · exact lib.admits _ _
  · exact lib.admits _ _

/-- A panic of a routine can be contained. -/
theorem call_droppable {r : Request} {payload : Payload} (h : (lib.call x r).1 = .error payload) :
    payload.dropped? = none := by
  unfold call at h
  split at h
  · split at h
    · cases h
    · exact lib.droppable _ _ _ h
  · split at h
    · next hknown =>
      cases h
      exact Store.dropped?_of_destroyKnown? hknown
    · cases h
    · exact lib.droppable _ _ _ h
  · exact lib.droppable _ _ _ h

theorem destroy_droppable {payload : Payload}
    (h : (lib.destroy thread d x).result = .error payload) : payload.dropped? = none := by
  unfold destroy at h
  dsimp only at h
  split at h
  · cases h
  · next other hother =>
    cases h
    exact lib.call_droppable _ hother

theorem goOn_droppable {count : Except Payload (Option UInt64)} {payload : Payload}
    (hcount : ∀ raised, count = .error raised → raised.dropped? = none)
    (h : (lib.goOn thread d x count).result = .error payload) : payload.dropped? = none := by
  unfold goOn at h
  split at h
  · split at h
    · cases h
    · exact lib.destroy_droppable thread d x h
  · exact lib.destroy_droppable thread d x h
  · cases h
    exact hcount _ rfl

theorem dispose_droppable {payload : Payload}
    (h : (lib.dispose thread d x).result = .error payload) : payload.dropped? = none := by
  unfold dispose at h
  dsimp only at h
  split at h
  · refine lib.goOn_droppable thread d _ (fun raised hraised => ?_) h
    exact lib.call_droppable _ (Outcome.eq_error_of_counted hraised)
  · exact lib.destroy_droppable thread d _ h

/-! ### Failures -/

theorem destroy_eq_ok {result : Except DisposalError Unit}
    (h : (lib.destroy thread d x).result = .ok result) : result = .ok () := by
  unfold destroy at h
  dsimp only at h
  split at h
  · cases h
    rfl
  · cases h

theorem goOn_names {count : Except Payload (Option UInt64)} {e : DisposalError}
    (h : (lib.goOn thread d x count).result = .ok (.error e)) : e.Names d := by
  unfold goOn at h
  split at h
  · split at h
    · cases h
      exact ⟨rfl, rfl⟩
    · cases lib.destroy_eq_ok thread d x h
  · cases lib.destroy_eq_ok thread d x h
  · cases h

theorem run_names {e : DisposalError} (h : (lib.run thread d x).result = .error e) :
    e.Names d := by
  have h : d.contained (lib.dispose thread d x).result = .error e := h
  cases hresult : (lib.dispose thread d x).result with
  | error payload =>
    rw [hresult] at h
    cases h
    exact ⟨rfl, rfl⟩
  | ok result =>
    rw [hresult] at h
    -- without a panic, a disposal fails by its count only
    obtain rfl : result = .error e := h
    unfold dispose at hresult
    dsimp only at hresult
    split at hresult
    · exact lib.goOn_names thread d _ hresult
    · cases lib.destroy_eq_ok thread d _ hresult

/-- Each disposal of a closing is visited, and a failure names the object it was about. -/
theorem sweep_names (a : Nat) (todo : List Disposal) :
    List.Forall₂ (fun d visit => ∀ e, visit.result = .error e → e.Names d) todo
      (lib.sweep thread a todo x).1 := by
  induction todo generalizing x with
  | nil => exact .nil
  | cons d rest ih => exact .cons (fun _ h => lib.run_names thread d _ h) (ih _)

/-! ### Systems that a library serves -/

/-- One move of a system: the library answers, or the system makes a step. -/
def step : System × W → System × W
  | (s, w) =>
    match s.request? with
    | some r => (s.perform (.answer (lib.respond r w).1), (lib.respond r w).2)
    | none => (s.perform .tick, w)

/-- So many moves of a system. -/
def drive (k : Nat) (sw : System × W) : System × W := lib.step^[k] sw

/-- A system that the library serves comes from one state to another. -/
def Drives (sw tw : System × W) : Prop := ∃ k, lib.drive k sw = tw

variable {lib}

theorem Drives.refl (sw : System × W) : lib.Drives sw sw := ⟨0, rfl⟩

theorem Drives.trans {sw tw uw : System × W} (h : lib.Drives sw tw) (h' : lib.Drives tw uw) :
    lib.Drives sw uw := by
  obtain ⟨k, rfl⟩ := h
  obtain ⟨l, rfl⟩ := h'
  exact ⟨l + k, Function.iterate_add_apply lib.step l k sw⟩

variable (lib) {s : System} {w : W}

/-- An outcome comes to some frames, in some world. -/
def arrives (o : Outcome) (x : World W) (stack : List Frame) : System × W :=
  (x.system o stack, x.own)

/-- The client is in control, with what it was given, in some world. -/
def waits (news : Option Outcome) (x : World W) (stack : List Frame) : System × W :=
  ({ store := x.store, stack, focus := .client news }, x.own)

/-- What comes to the client, who is not always at the bottom of the stack, is news for it. -/
theorem drives_return {stack : List Frame} (hbase : Grounded stack) (o : Outcome) (x : World W) :
    lib.Drives (arrives o x stack) (waits (some o) x stack) := by
  obtain rfl | ⟨r, rest, rfl⟩ := hbase
  · exact ⟨1, rfl⟩
  · exact ⟨1, rfl⟩

/-- The frame below takes the outcome. -/
theorem drives_resume (o : Outcome) (x : World W) (f : Frame) (rest : List Frame) :
    lib.Drives (arrives o x (f :: rest))
      ((x.system o rest).resume f o, x.own) :=
  ⟨1, rfl⟩

/-- The library answers a request. -/
theorem drives_request (r : Request) :
    lib.Drives (s.request r, w)
      (arrives (lib.ask ⟨s.store, w⟩ r).1 (lib.ask ⟨s.store, w⟩ r).2 s.stack) := by
  refine ⟨1, ?_⟩
  show (System.answer (s.request r) (lib.respond r w).1, (lib.respond r w).2) = _
  simp only [System.answer, System.request, System.push, System.yield, lib.admits r w]
  rfl

theorem drives_askCount (type : ForeignType) (address : Address) :
    lib.Drives (s.askCount thread type address, w)
      (arrives (lib.call ⟨s.store, w⟩ (.count thread type address)).1
        (lib.call ⟨s.store, w⟩ (.count thread type address)).2 s.stack) := by
  unfold System.askCount call
  dsimp only
  cases s.store.knownCount? type address with
  | some count => exact .refl _
  | none => exact lib.drives_request _

theorem drives_callDestroy (type : ForeignType) (address : Address) :
    lib.Drives (s.callDestroy thread type address, w)
      (arrives (lib.call ⟨s.store, w⟩ (.destroy thread type address)).1
        (lib.call ⟨s.store, w⟩ (.destroy thread type address)).2 s.stack) := by
  unfold System.callDestroy call
  dsimp only
  cases s.store.destroyKnown? type address with
  | none => exact lib.drives_request _
  | some known =>
    obtain ⟨store, panic⟩ := known
    cases panic with
    | some payload => exact .refl _
    | none => exact .refl _

theorem drives_destroy :
    lib.Drives (s.destroy thread d, w)
      (arrives (.ofDisposal (lib.destroy thread d ⟨s.store, w⟩).result)
        (lib.destroy thread d ⟨s.store, w⟩).left s.stack) := by
  refine (lib.drives_callDestroy (s := (s.note (.destroying thread d)).push (.destroying thread d))
    thread d.type d.address).trans ?_
  unfold destroy
  show lib.Drives (arrives (lib.call (World.note ⟨s.store, w⟩ (.destroying thread d)) _).1
    (lib.call (World.note ⟨s.store, w⟩ (.destroying thread d)) _).2
    (.destroying thread d :: s.stack)) _
  dsimp only
  generalize lib.call _ _ = answered
  obtain ⟨o, x⟩ := answered
  refine (lib.drives_resume o x (.destroying thread d) s.stack).trans ?_
  cases o with
  | ok r => exact .refl _
  | error payload => exact .refl _

theorem drives_resumeCounted (count : Option UInt64) :
    lib.Drives (s.resumeCounted thread d count, w)
      (arrives (.ofDisposal (lib.goOn thread d ⟨s.store, w⟩ (.ok count)).result)
        (lib.goOn thread d ⟨s.store, w⟩ (.ok count)).left s.stack) := by
  unfold System.resumeCounted goOn
  cases count with
  | none => exact lib.drives_destroy thread d
  | some n =>
    dsimp only
    split
    · exact .refl _
    · exact lib.drives_destroy thread d

/-- A disposal runs as `Library.dispose` says. -/
theorem drives_dispose :
    lib.Drives (s.dispose thread d, w)
      (arrives (.ofDisposal (lib.dispose thread d ⟨s.store, w⟩).result)
        (lib.dispose thread d ⟨s.store, w⟩).left s.stack) := by
  unfold System.dispose dispose
  dsimp only
  split
  · refine (lib.drives_askCount thread d.type d.address).trans ?_
    show lib.Drives (arrives
      (lib.call ((World.begin ⟨s.store, w⟩ thread d).note (.counting thread d)) _).1
      (lib.call ((World.begin ⟨s.store, w⟩ thread d).note (.counting thread d)) _).2
      (.counted thread d :: s.stack)) _
    have hadmits := lib.call_admits ((World.begin ⟨s.store, w⟩ thread d).note (.counting thread d))
      (.count thread d.type d.address)
    generalize lib.call _ _ = answered at hadmits ⊢
    obtain ⟨o, x⟩ := answered
    refine (lib.drives_resume o x (.counted thread d) s.stack).trans ?_
    cases o with
    | error payload => exact .refl _
    | ok r =>
      -- a count routine that does not panic answers a count
      cases r with
      | count count => exact lib.drives_resumeCounted thread d count
      | _ => cases hadmits
  · exact lib.drives_destroy thread d

/-- The guard of a disposal contains its panics, as their payloads can be dropped. -/
theorem drives_disposeGuarded :
    lib.Drives (s.disposeGuarded thread d, w)
      (arrives (.ok (.disposed (lib.run thread d ⟨s.store, w⟩).result))
        (lib.run thread d ⟨s.store, w⟩).left s.stack) := by
  refine (lib.drives_dispose (s := s.push (.guarded d)) thread d).trans ?_
  unfold run
  dsimp only
  have hdroppable (payload : Payload)
      (h : (lib.dispose thread d ⟨s.store, w⟩).result = .error payload) :=
    lib.dispose_droppable thread d _ h
  show lib.Drives (arrives (.ofDisposal (lib.dispose thread d ⟨s.store, w⟩).result)
    (lib.dispose thread d ⟨s.store, w⟩).left (.guarded d :: s.stack)) _
  generalize lib.dispose _ _ _ = course at hdroppable ⊢
  obtain ⟨calls, result, left⟩ := course
  refine (lib.drives_resume _ left (.guarded d) s.stack).trans ?_
  cases result with
  | ok result => exact .refl _
  | error payload =>
    show lib.Drives ((left.system (.error payload) s.stack).contain d payload, left.own) _
    rw [System.contain, System.discard, hdroppable payload rfl]
    exact .refl _

/-- **A closing runs as `Library.sweep` says**, from any disposal on. -/
theorem drives_sweep (a k : Nat) (done : List (Except DisposalError Unit)) (todo : List Disposal)
    (hk : k = done.length + todo.length) :
    lib.Drives (s.sweep thread a k (failures done) todo, w)
      (let swept := lib.sweep thread a todo ⟨s.store, w⟩
        let results := done ++ swept.1.map (·.result)
        arrives (.ok (.closed (report results)))
          (swept.2.note (.arenaClosed thread a k (failures results).length)) s.stack) := by
  -- on the disposals that are still to do, for whatever state the closing is in
  induction todo generalizing s w done with
  | nil =>
    rw [System.sweep_nil s thread a k done hk]
    dsimp only [sweep]
    rw [List.map_nil, List.append_nil]
    exact .refl _
  | cons d rest ih =>
    refine (lib.drives_disposeGuarded (s := (s.note (.attempting thread a d)).push
      (.sweeping thread a k (failures done) rest)) thread d).trans ?_
    dsimp only [sweep]
    show lib.Drives (arrives
      (.ok (.disposed (lib.run thread d (World.note ⟨s.store, w⟩ (.attempting thread a d))).result))
      (lib.run thread d (World.note ⟨s.store, w⟩ (.attempting thread a d))).left
      (.sweeping thread a k (failures done) rest :: s.stack)) _
    generalize lib.run _ _ _ = course
    obtain ⟨calls, result, left⟩ := course
    refine (lib.drives_resume _ left (.sweeping thread a k (failures done) rest) s.stack).trans ?_
    show lib.Drives ((left.system (.ok (.disposed result)) s.stack).resumeSweep thread a k
      (failures done) rest result, left.own) _
    rw [System.resumeSweep_eq]
    -- the disposals that are left find what this one has left, with its failure taken note of
    have hworld : World.mk ((left.system (.ok (.disposed result)) s.stack).record thread a
        result).store left.own = left.record thread a result := by
      cases result <;> rfl
    have hsweep := ih (s := (left.system (.ok (.disposed result)) s.stack).record thread a result)
      (w := left.own) (done ++ [result])
      (by rw [hk, List.length_append, List.length_cons, List.length_singleton]; omega)
    rw [hworld, System.stack_record] at hsweep
    dsimp only at hsweep
    rw [List.append_assoc] at hsweep
    exact hsweep

/-- **A system that a library serves closes an arena**, and the client is given the report. -/
theorem drives_close {news : Option Outcome} {a : Nat} (hfocus : s.focus = .client news)
    (hbase : Grounded s.stack) (hactive : (s.store.arena a).isActive)
    (hcheck : (s.store.arena a).confinement.check thread = .ok ()) :
    let todo := (s.store.arena a).pending.toList
    let swept := lib.sweep thread a todo ⟨(s.swap thread a).store, w⟩
    let results := swept.1.map (·.result)
    lib.Drives (s.start (.close thread a), w)
      ({ store := swept.2.store.note (.arenaClosed thread a todo.length (failures results).length),
         stack := s.stack, focus := .client (some (.ok (.closed (report results)))) },
        swept.2.own) := by
  dsimp only
  have hstart : s.start (.close thread a) = s.close thread a := by
    unfold System.start
    rw [hfocus]
  rw [hstart, System.close_eq_sweep hactive hcheck]
  exact (lib.drives_sweep thread a _ [] _ (Nat.zero_add _).symm).trans
    (lib.drives_return hbase _ _)

end Library

end ForeignArena
