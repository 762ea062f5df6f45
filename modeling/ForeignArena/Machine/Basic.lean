import ForeignArena.Machine.Operation
import ForeignArena.System.Step

namespace ForeignArena

/-!
# Machines

Several strands of control that share one store.  Each strand is a system of its own as
far as its stack and its focus go: at any moment one of them makes one move, and in
between its moves all others may make theirs.

* `Move`, `System.perform` — what one strand can do;
* `Strand`, `Machine` — the state;
* `Act`, `Machine.perform` — a move of one strand, or a new strand;
* `Schedule`, `Schedule.after` — a whole run: who moves when, and how.

A move that is not possible at the moment does nothing, so every sequence of acts is a
run.
-/

/-- What a strand can do: start work, say how supplied code ended, let the work in
    progress make one step, or change the store at once. -/
inductive Move where
  | start (work : Work)
  | answer (outcome : Outcome)
  | tick
  | operate (operation : Operation)

/-- Whether a client can start some work: a disposal needs a handle of its flag. -/
def Store.admitsWork (st : Store) : Work → Bool
  | .dispose _ d | .disposeGuarded _ d => d.flag < st.flags.size
  | _ => true

/-- The system after a move. -/
def System.perform (s : System) : Move → System
  | .start work => if s.store.admitsWork work then s.start work else s
  | .answer outcome => s.answer outcome
  | .tick => s.tick
  | .operate operation =>
    match s.focus with
    | .handing _ => s
    | .client _ =>
      if s.store.admits operation then s.mapStore (·.apply operation) else s

/-- A strand of control: the work that waits in it, innermost first, and who moves
    next. -/
structure Strand where
  stack : List Frame := []
  focus : Focus := .client none

/-- A store and the strands that share it. -/
structure Machine where
  store : Store := {}
  strands : List Strand := []

/-- What happens at one moment: a new strand, or a move of one that exists. -/
inductive Act where
  | spawn
  | move (strand : Nat) (move : Move)

namespace Machine

/-- A strand with the store, as a system. -/
def system (m : Machine) (strand : Strand) : System :=
  { store := m.store, stack := strand.stack, focus := strand.focus }

/-- All work that waits in some strand. -/
def frames (m : Machine) : List Frame :=
  m.strands.flatMap (·.stack)

/-- The machine after an act. -/
def perform (m : Machine) : Act → Machine
  | .spawn => { m with strands := m.strands ++ [{}] }
  | .move i move =>
    match m.strands[i]? with
    | none => m
    | some strand =>
      let s := (m.system strand).perform move
      { store := s.store, strands := m.strands.set i ⟨s.stack, s.focus⟩ }

@[simp] theorem store_system (m : Machine) (strand : Strand) :
    (m.system strand).store = m.store := rfl

@[simp] theorem stack_system (m : Machine) (strand : Strand) :
    (m.system strand).stack = strand.stack := rfl

@[simp] theorem focus_system (m : Machine) (strand : Strand) :
    (m.system strand).focus = strand.focus := rfl

variable {m : Machine} {i : Nat} {strand : Strand}

theorem perform_of_none (h : m.strands[i]? = none) (move : Move) : m.perform (.move i move) = m := by
  simp only [perform, h]

theorem store_perform (h : m.strands[i]? = some strand) (move : Move) :
    (m.perform (.move i move)).store = ((m.system strand).perform move).store := by
  simp only [perform, h]

/-- A move shows in the strand that makes it. -/
theorem strand_perform (h : m.strands[i]? = some strand) (move : Move) :
    (m.perform (.move i move)).strands[i]? =
      some ⟨((m.system strand).perform move).stack, ((m.system strand).perform move).focus⟩ := by
  obtain ⟨hi, -⟩ := List.getElem?_eq_some_iff.mp h
  simp only [perform, h]
  exact List.getElem?_set_self hi

/-- The strand that made a move, with the store after it, is the system after the move. -/
theorem system_perform (h : m.strands[i]? = some strand) (move : Move) :
    (m.perform (.move i move)).system
        ⟨((m.system strand).perform move).stack, ((m.system strand).perform move).focus⟩ =
      (m.system strand).perform move := by
  simp only [system, store_perform h]

/-- No other strand is changed. -/
theorem strand_perform_of_ne (h : m.strands[i]? = some strand) {act : Act}
    (hact : ∀ move, act ≠ .move i move) : (m.perform act).strands[i]? = some strand := by
  obtain ⟨hi, -⟩ := List.getElem?_eq_some_iff.mp h
  cases act with
  | spawn => simp [perform, List.getElem?_append_left hi, h]
  | move j move =>
    have hji : j ≠ i := fun hji => hact move (by rw [hji])
    unfold perform
    dsimp only
    split
    · exact h
    · rw [List.getElem?_set_ne hji, h]

/-- A strand after an act is new, or was left alone, or made the move. -/
theorem strand_origin {act : Act} (h : (m.perform act).strands[i]? = some strand) :
    strand = {} ∨ m.strands[i]? = some strand ∨ ∃ before move, act = .move i move ∧
      m.strands[i]? = some before ∧ strand =
        ⟨((m.system before).perform move).stack, ((m.system before).perform move).focus⟩ := by
  cases hi : m.strands[i]? with
  | none =>
    left
    cases act with
    | spawn =>
      rw [List.getElem?_eq_none_iff] at hi
      simp only [perform, List.getElem?_append_right hi] at h
      exact (List.mem_singleton.mp (List.mem_of_getElem? h))
    | move j move =>
      have hnone : (m.perform (.move j move)).strands[i]? = none := by
        rw [List.getElem?_eq_none_iff] at hi ⊢
        unfold perform
        dsimp only
        split
        · exact hi
        · simpa using hi
      rw [hnone] at h
      cases h
  | some before =>
    right
    by_cases hact : ∃ move, act = .move i move
    · obtain ⟨move, rfl⟩ := hact
      rw [strand_perform hi] at h
      exact .inr ⟨before, move, rfl, rfl, (Option.some.inj h).symm⟩
    · rw [strand_perform_of_ne hi fun move hmove => hact ⟨move, hmove⟩] at h
      exact .inl h

end Machine

/-- A run: the act of each moment. -/
abbrev Schedule := Nat → Act

/-- The machine after the first `n` acts of a run, from an empty one. -/
def Schedule.after (σ : Schedule) : Nat → Machine
  | 0 => {}
  | n + 1 => (σ.after n).perform (σ n)

end ForeignArena
