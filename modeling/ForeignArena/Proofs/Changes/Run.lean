import ForeignArena.Proofs.Changes.Operation
import ForeignArena.Proofs.Changes.Work

namespace ForeignArena

/-!
# The changes of a run

* `System.perform_changes` — each move of a strand is a chain of changes;
* `Machine.perform_changes` — and so is each act, whatever waits in other strands;
* `Machine.keeps`, `Schedule.stays` — what every change keeps, acts and parts of runs keep;
* `Schedule.always` — so it holds throughout every run.
-/

/-- Each move is a chain of changes. -/
theorem System.perform_changes (s : System) (move : Move) :
    Changes move s.site (s.perform move).site := by
  cases move with
  | start w =>
    unfold perform
    dsimp only
    split
    · next hadmits => exact start_changes s w hadmits
    · exact .refl
  | answer o => exact answer_changes s o
  | tick => exact tick_changes s
  | operate operation =>
    unfold perform
    dsimp only
    split
    · exact .refl
    · split
      · next hadmits => exact Store.apply_changes operation s.store s.stack hadmits
      · exact .refl

namespace Machine

/-- The stack of a strand can be put on top of all others, also once the strand has changed. -/
theorem frames_perm {m : Machine} {i : Nat} {strand : Strand} (h : m.strands[i]? = some strand) :
    ∃ others, m.frames.Perm (strand.stack ++ others) ∧ ∀ after : Strand,
      ((m.strands.set i after).flatMap (·.stack)).Perm (after.stack ++ others) := by
  obtain ⟨hi, hget⟩ := List.getElem?_eq_some_iff.mp h
  obtain ⟨before, rest, hall, hlength, -⟩ := @List.exists_of_set _ i strand m.strands hi
  rw [hget] at hall
  have hperm (x : Strand) : ((before ++ x :: rest).flatMap (·.stack)).Perm
      (x.stack ++ (before.flatMap (·.stack) ++ rest.flatMap (·.stack))) := by
    rw [List.flatMap_append, List.flatMap_cons]
    exact List.perm_append_comm_assoc ..
  refine ⟨before.flatMap (·.stack) ++ rest.flatMap (·.stack), ?_, fun after => ?_⟩
  · rw [frames, hall]
    exact hperm strand
  · rw [hall, ← hlength, List.set_append_right _ _ (Nat.le_refl _), Nat.sub_self, List.set_cons_zero]
    exact hperm after

/-- What an act does: it makes a strand, or leaves all as it is, or makes a chain of
    changes with all that waits in other strands below. -/
theorem perform_changes (m : Machine) (act : Act) :
    ((m.perform act).store = m.store ∧ (m.perform act).frames = m.frames) ∨
      ∃ i move k k' others, act = .move i move ∧
        m.frames.Perm (k ++ others) ∧ (m.perform act).frames.Perm (k' ++ others) ∧
        Changes move (m.store, k ++ others) ((m.perform act).store, k' ++ others) := by
  cases act with
  | spawn =>
    left
    simp [perform, frames]
  | move i move =>
    unfold perform
    dsimp only
    split
    · left
      simp
    · next strand hstrand =>
      right
      let s := (m.system strand).perform move
      obtain ⟨others, hbefore, hafter⟩ := frames_perm hstrand
      exact ⟨i, move, strand.stack, s.stack, others, rfl, hbefore, hafter ⟨s.stack, s.focus⟩,
        ((m.system strand).perform_changes move).append _⟩

/-- What every change of an act keeps, wherever the frames stand, the act keeps. -/
theorem keeps {I : Store → List Frame → Prop} (m : Machine) (act : Act)
    (hperm : ∀ {st k k'}, k.Perm k' → I st k → I st k')
    (hchange : ∀ {i move s t}, act = .move i move → Change move s t → I s.1 s.2 → I t.1 t.2)
    (h : I m.store m.frames) : I (m.perform act).store (m.perform act).frames := by
  obtain ⟨hstore, hframes⟩ | ⟨i, move, k, k', others, hact, hk, hk', hall⟩ :=
    m.perform_changes act
  · rw [hstore, hframes]
    exact h
  · refine hperm hk'.symm ?_
    exact Changes.keeps (fun site => I site.1 site.2) (hchange hact) hall (hperm hk h)

end Machine

namespace Schedule

variable {I : Store → List Frame → Prop} (σ : Schedule)

/-- What every change between two moments keeps holds at the second, if it holds at the first. -/
theorem stays {n m : Nat} (hnm : n ≤ m) (hperm : ∀ {st k k'}, k.Perm k' → I st k → I st k')
    (hchange : ∀ {l i move s t}, n ≤ l → l < m → σ l = .move i move → Change move s t →
      I s.1 s.2 → I t.1 t.2)
    (h : I (σ.after n).store (σ.after n).frames) : I (σ.after m).store (σ.after m).frames := by
  induction hnm with
  | refl => exact h
  | @step m hnm ih =>
    exact (σ.after m).keeps (σ m) hperm (hchange hnm (Nat.lt_succ_self m))
      (ih fun hl hlm => hchange hl (Nat.lt_succ_of_lt hlm))

/-- What every change keeps holds throughout every run. -/
theorem always (hperm : ∀ {st k k'}, k.Perm k' → I st k → I st k')
    (hchange : ∀ {move s t}, Change move s t → I s.1 s.2 → I t.1 t.2) (hstart : I {} []) (n : Nat) :
    I (σ.after n).store (σ.after n).frames :=
  σ.stays (Nat.zero_le n) hperm (fun _ _ _ => hchange) hstart

end Schedule

end ForeignArena
