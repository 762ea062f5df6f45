import ForeignArena.Machine.Basic
import Mathlib.Logic.Relation

namespace ForeignArena

/-!
# Small changes

Every move of a strand is a chain of small changes of the store and of the top of the
stack.  There is one kind of change for each thing that can happen to an arena, to a
cleaner, to a flag or to a heap; everything else is plain.

* `Change` — one small change, with the conditions under which it occurs;
* `Changes` — a chain of them;
* `Changes.keeps` — what every change keeps, a chain keeps.

A change knows the move that it is part of, as some are due only to certain moves.  In
the middle of a chain a stack can be one that no system ever shows: a closing holds all
its disposals in a `sweeping` frame before it turns to the first, and a disposal passes
through a `counted` frame even if its type has no counts.
-/

/-! ### Plain happenings and frames -/

/-- Happenings that say nothing on arenas, tokens, actions and the begin of disposals, nor on
    calls of routines. -/
def Happening.isPlain : Happening → Bool
  | dropFailed _ _ _ | registeringType _ _ | reclaimerStarted _ _ _ | autoOpened _ _
  | autoFailed _ _ _ _ | threadGone _ _ _ | destroyed _ _ => true
  | _ => false

/-- Frames that hold no disposal, no token and no action. -/
def Frame.isPlain : Frame → Bool
  | awaiting _ | destroying _ _ | guarded _ | dropping _ _ | reporting _ _ _ | inline => true
  | _ => false

/-- Frames that a panic just passes. -/
def Frame.isLoose : Frame → Bool
  | counted _ _ | sweeping _ _ _ _ _ => true
  | f => f.isPlain

/-- The store after the destroy routine of a type was called. -/
def Store.afterDestroy (st : Store) (type : ForeignType) (address : Address) : Store :=
  match st.destroyKnown? type address with
  | some (after, _) => after
  | none => st

namespace Store

variable (st : Store) (type : ForeignType) (address : Address)

/-- The destroy routines that need no supplied code touch tallies and heaps only. -/
theorem afterDestroy_eq :
    ∃ tallies heaps, st.afterDestroy type address = { st with tallies, heaps } := by
  unfold afterDestroy destroyKnown?
  cases type.routines <;> exact ⟨_, _, rfl⟩

@[simp] theorem arenas_afterDestroy : (st.afterDestroy type address).arenas = st.arenas := by
  obtain ⟨_, _, heq⟩ := st.afterDestroy_eq type address
  rw [heq]

@[simp] theorem cleaners_afterDestroy : (st.afterDestroy type address).cleaners = st.cleaners := by
  obtain ⟨_, _, heq⟩ := st.afterDestroy_eq type address
  rw [heq]

@[simp] theorem flags_afterDestroy : (st.afterDestroy type address).flags = st.flags := by
  obtain ⟨_, _, heq⟩ := st.afterDestroy_eq type address
  rw [heq]

@[simp] theorem history_afterDestroy : (st.afterDestroy type address).history = st.history := by
  obtain ⟨_, _, heq⟩ := st.afterDestroy_eq type address
  rw [heq]

end Store

/-! ### What operations use -/

/-- The heap that an operation uses. -/
def Operation.heap? : Operation → Option Nat
  | allocate heap _ _ | retain heap _ | release heap _ | destroy heap _
  | retainObject _ heap => some heap
  | newObject _ runtime _ _ | newValue _ runtime _ _ => some runtime.heap
  | _ => none

/-- The registry that an operation uses. -/
def Operation.registry? : Operation → Option Nat
  | findOrMakeType _ registry _ _ => some registry
  | runtimeType _ runtime _ _ | newObject _ runtime _ _ | newValue _ runtime _ _ =>
    some runtime.registry
  | _ => none

/-- The thread that registers something by an operation, and the arena with which it does. -/
def Operation.registers? : Operation → Option (ThreadId × ArenaRef)
  | register thread home _ | takeOver thread _ _ home | takeOverMany thread _ home _
  | newObject thread _ _ home | newValue thread _ _ home => some (thread, home)
  | _ => none

/-! ### Changes -/

/-- A store and the work that waits over it. -/
abbrev Site := Store × List Frame

/-- A move that uses a token up: by cleaning it, or by dropping it. -/
def Move.Spends (c token : Nat) (move : Move) : Prop :=
  ∃ thread, move = .start (.clean thread c token) ∨
    move = .start (.dropRegistration thread (.tracked c token))

/-- A small change, as part of a move. -/
inductive Change (move : Move) : Site → Site → Prop where
  | push {st k} (f : Frame) : f.isPlain → Change move (st, k) (st, f :: k)
  | pop {st k} (f : Frame) : f.isLoose → Change move (st, f :: k) (st, k)
  | note {st k} (h : Happening) : h.isPlain → Change move (st, k) (st.note h, k)
  /-- A client made types, or told a tally what to answer. -/
  | retype {st k} (operation : Operation) (tallies : Array Tally) (typeCount : Nat) :
    move = .operate operation → Change move (st, k) ({ st with tallies, typeCount }, k)
  /-- A client made a registry. -/
  | registryAdded {st k} (operation : Operation) : move = .operate operation →
    Change move (st, k) ({ st with registries := st.registries.push {} }, k)
  /-- A client used a registry. -/
  | registryUsed {st k} (operation : Operation) (r : Nat) (registry : Registry) :
    move = .operate operation → operation.registry? = some r →
    Change move (st, k) (st.setRegistry r registry, k)
  /-- A client made a heap. -/
  | heapAdded {st k} (operation : Operation) : move = .operate operation →
    Change move (st, k) ({ st with heaps := st.heaps.push {} }, k)
  /-- A client used a heap. -/
  | heapUsed {st k} (operation : Operation) (h : Nat) (heap : Heap) :
    move = .operate operation → operation.heap? = some h →
    Change move (st, k) (st.setHeap h heap, k)
  /-- A client called the destroy routine of a type. -/
  | called {st k} (thread : ThreadId) (type : ForeignType) (address : Address) :
    move = .start (.destroy thread type address) →
    Change move (st, k) (st.afterDestroy type address, k)
  /-- A new flag. -/
  | flagAdded {st k} (operation : Operation) : move = .operate operation →
    Change move (st, k) (st.newFlag.1, k)
  /-- A client set a flag. -/
  | marked {st k} (flag : Nat) : move = .operate (.mark flag) →
    Change move (st, k) (st.setFlag flag, k)
  /-- A client began a disposal of its own. -/
  | begun {st k} (thread : ThreadId) (d : Disposal) :
    move = .start (.dispose thread d) ∨ move = .start (.disposeGuarded thread d) →
    d.flag < st.flags.size →
    Change move (st, k) (st.begin thread d, .counted thread d :: k)
  /-- A disposal came to its count routine. -/
  | asked {st k} (thread : ThreadId) (d : Disposal) :
    (∀ operation, move ≠ .operate operation) →
    Change move (st, .counted thread d :: k)
      (st.note (.counting thread d), .counted thread d :: k)
  /-- A disposal came to its destroy routine. -/
  | entered {st k} (thread : ThreadId) (d : Disposal) :
    (∀ operation, move ≠ .operate operation) →
    Change move (st, .counted thread d :: k)
      ((st.note (.destroying thread d)).afterDestroy d.type d.address, .destroying thread d :: k)
  /-- A new scoped arena. -/
  | opened {st k} (operation : Operation) (thread : ThreadId) (config : ArenaConfig) :
    move = .operate operation →
    Change move (st, k) ((st.buildArena thread config).1, k)
  /-- A scoped arena took a disposal in. -/
  | accepted {st k} (operation : Operation) (thread : ThreadId) (a : Nat) (d : Disposal) :
    move = .operate operation →
    (st.arena a).confinement.check thread = .ok () → (st.arena a).isActive →
    d.flag < st.flags.size →
    Change move (st, k) ((st.modifyArena a (·.accept d)).note (.accepted a d), k)
  /-- A scoped arena was closed; its disposals are all still to do. -/
  | swapped {st k} (thread : ThreadId) (a : Nat) :
    move = .start (.close thread a) ∨ move = .start (.drop thread a) →
    (st.arena a).confinement.check thread = .ok () → (st.arena a).isActive →
    Change move (st, k)
      ((st.modifyArena a fun _ => (st.arena a).takePending.1).note (.closing thread a),
        .sweeping thread a (st.arena a).pending.toList.length [] (st.arena a).pending.toList :: k)
  /-- A scoped arena was dropped where it could not be closed. -/
  | abandoned {st k} (thread : ThreadId) (a : Nat) :
    move = .start (.drop thread a) →
    (st.arena a).confinement.admits thread = false → (st.arena a).isActive →
    Change move (st, k)
      ((st.note (.arenaAbandoned thread a (st.arena a).confinement
        (st.arena a).pending.size)).modifyArena a (·.abandon), k)
  /-- A closing turned to its next disposal, which began. -/
  | attempted {st k} (thread : ThreadId) (a n : Nat) (failures : List DisposalError)
      (d : Disposal) (rest : List Disposal) :
    (∀ operation, move ≠ .operate operation) →
    Change move (st, .sweeping thread a n failures (d :: rest) :: k)
      ((st.note (.attempting thread a d)).begin thread d,
        .counted thread d :: .guarded d :: .sweeping thread a n failures rest :: k)
  /-- A disposal of a closing failed. -/
  | failed {st k} (thread : ThreadId) (a n : Nat) (failures : List DisposalError)
      (todo : List Disposal) (e : DisposalError) :
    Change move (st, .sweeping thread a n failures todo :: k)
      (st.note (.leaked thread a e), .sweeping thread a n (failures ++ [e]) todo :: k)
  /-- A closing came to its regular end. -/
  | swept {st k} (thread : ThreadId) (a n : Nat) (failures : List DisposalError) :
    Change move (st, .sweeping thread a n failures [] :: k)
      (st.note (.arenaClosed thread a n failures.length), k)
  /-- A new cleaner. -/
  | cleanerAdded {st k} (name : String) :
    Change move (st, k) ({ st with cleaners := st.cleaners.push { threadName := name } }, k)
  /-- A cleaner took an action in. -/
  | tracked {st k} (operation : Operation) (c : Nat) (action : Action) :
    move = .operate operation →
    c < st.cleaners.size → (st.cleaner c).held →
    (∀ d, action = .dispose d → d.flag < st.flags.size) →
    Change move (st, k) ((st.track c action).1, k)
  /-- The handle of a cleaner was dropped. -/
  | letGo {st k} (c : Nat) : Change move (st, k) (st.modifyCleaner c (·.release), k)
  /-- Threads that nobody needs stopped. -/
  | settled {st k} : Change move (st, k) (st.settle, k)
  /-- A token was used up to run its action at once: it was cleaned, or dropped where
      the thread receives no more. -/
  | spent {st k} (thread : ThreadId) (c token : Nat) :
    move.Spends c token →
    (st.cleaner c).tokens.contains token →
    Change move (st, k) (st.modifyCleaner c (·.spend token), .taking thread c token :: k)
  /-- A token was dropped and queued. -/
  | queued {st k} (thread : ThreadId) (c token : Nat) :
    move = .start (.dropRegistration thread (.tracked c token)) →
    (st.cleaner c).tokens.contains token → (st.cleaner c).isReceiving →
    Change move (st, k)
      (((st.modifyCleaner c (·.spend token)).modifyCleaner c (·.enqueue token)).note
        (.queued c token), k)
  /-- A reclamation thread took a token from its queue. -/
  | received {st k} (thread : ThreadId) (c token : Nat) (cleaner : Cleaner) :
    move = .start (.receive c) →
    (st.cleaner c).dequeue? = some (cleaner, token) →
    Change move (st, k)
      ((st.modifyCleaner c fun _ => cleaner).note (.received c token),
        .taking thread c token :: .reclaiming c :: k)
  /-- The action of a token was gone already. -/
  | missed {st k} (thread : ThreadId) (c token : Nat) :
    move = .tick →
    (st.cleaner c).take? token = none →
    Change move (st, .taking thread c token :: k) (st, k)
  /-- Supplied code left the live set to run. -/
  | tookSupplied {st k} (thread : ThreadId) (c token tag : Nat) (cleaner : Cleaner) :
    move = .tick →
    (st.cleaner c).take? token = some (cleaner, .supplied tag) →
    Change move (st, .taking thread c token :: k)
      ((st.modifyCleaner c fun _ => cleaner).note (.started thread c token (.supplied tag)),
        .running thread c token :: k)
  /-- A disposal left the live set and began. -/
  | tookDisposal {st k} (thread : ThreadId) (c token : Nat) (d : Disposal) (cleaner : Cleaner) :
    move = .tick →
    (st.cleaner c).take? token = some (cleaner, .dispose d) →
    Change move (st, .taking thread c token :: k)
      (((st.modifyCleaner c fun _ => cleaner).note (.started thread c token (.dispose d))).begin
        thread d,
        .counted thread d :: .reporting thread c token :: .running thread c token :: k)
  /-- An action ended normally. -/
  | ended {st k} (thread : ThreadId) (c token : Nat) : move = .tick →
    Change move (st, .running thread c token :: k)
      ((st.modifyCleaner c (·.finish)).note (.actionEnded thread c token), k)
  /-- An action panicked. -/
  | panicked {st k} (thread : ThreadId) (c token : Nat) (panic : String) : move = .tick →
    Change move (st, .running thread c token :: k)
      ((st.modifyCleaner c (·.fail)).note (.actionPanicked thread c token panic), k)
  /-- A reclamation thread went back to its queue. -/
  | resumed {st k} (c : Nat) :
    Change move (st, .reclaiming c :: k) (st.modifyCleaner c (·.resume), k)
  /-- A reclamation thread died. -/
  | died {st k} (c : Nat) : move = .tick →
    Change move (st, .reclaiming c :: k) (st.modifyCleaner c (·.die), k)

/-- A chain of changes, all part of one move. -/
abbrev Changes (move : Move) : Site → Site → Prop := Relation.ReflTransGen (Change move)

/-- Changes take place at the top of the stack. -/
theorem Change.append {move : Move} {s t : Site} (h : Change move s t) (others : List Frame) :
    Change move (s.1, s.2 ++ others) (t.1, t.2 ++ others) := by
  cases h
  case missed thread c token htick none => exact .missed thread c token htick none
  case asked thread d hmove => exact .asked thread d hmove
  all_goals constructor <;> assumption

theorem Changes.append {move : Move} {s t : Site} (h : Changes move s t) (others : List Frame) :
    Changes move (s.1, s.2 ++ others) (t.1, t.2 ++ others) := by
  induction h with
  | refl => exact .refl
  | tail _ last ih => exact ih.tail (last.append others)

/-- What every change keeps, a chain of changes keeps. -/
theorem Changes.keeps {move : Move} {s t : Site} (I : Site → Prop)
    (hchange : ∀ {s t}, Change move s t → I s → I t) (h : Changes move s t) (hs : I s) : I t := by
  induction h with
  | refl => exact hs
  | tail _ last ih => exact hchange last ih

end ForeignArena
