import ForeignArena.Proofs.Libraries

namespace ForeignArena

/-!
# Disposals that share nothing

In a closing each disposal runs in what the ones before have left.  Where its routines have a
part of the foreign state to themselves, this makes no difference to them: which routines the
disposal calls, and its result, depend on that part only, however the other disposals fail or
succeed.

* `World.foreign` — what routines can touch;
* `Library.Acts`, `Library.Spares` — routines that have a part to themselves, and routines that
  leave it alone;
* `Library.Apart` — a disposal of a list that shares nothing with the others;
* `Library.visit_isolated` — such a disposal goes alike in two closings in which it finds its
  part alike;
* `Library.calls_sweep` — the calls of a closing are those that its history tells of.
-/

/-- The foreign state: what routines can touch. -/
structure Foreign (W : Type) where
  tallies : Array Tally
  heaps : Array Heap
  own : W

namespace World

variable {W : Type} (x : World W)

/-- The foreign state of a world. -/
def foreign : Foreign W := ⟨x.store.tallies, x.store.heaps, x.own⟩

/-- No note that a closing takes is foreign state. -/
@[simp] theorem foreign_note (h : Happening) : (x.note h).foreign = x.foreign := rfl

/-- Nor are flags. -/
@[simp] theorem foreign_begin (thread : ThreadId) (d : Disposal) :
    (x.begin thread d).foreign = x.foreign := rfl

@[simp] theorem foreign_record (thread : ThreadId) (a : Nat) (result : Except DisposalError Unit) :
    (x.record thread a result).foreign = x.foreign := by
  cases result <;> rfl

end World

namespace Library

variable {W W' V : Type} (lib : Library W) (lib' : Library W') (thread : ThreadId) (d : Disposal)
  (view : Foreign W → V) (view' : Foreign W' → V) (conduct : Request → V → Outcome × V)

/-- The routines of a disposal act on a part of the foreign state, in a way that depends on
    nothing else. -/
def Acts : Prop :=
  ∀ r, d.Routine thread r → ∀ x : World W,
    (lib.call x r).1 = (conduct r (view x.foreign)).1 ∧
      view (lib.call x r).2.foreign = (conduct r (view x.foreign)).2

/-- The routines of a disposal leave a part of the foreign state alone. -/
def Spares : Prop :=
  ∀ r, d.Routine thread r → ∀ x : World W, view (lib.call x r).2.foreign = view x.foreign

/-- The disposal at some place of a list has a part of the foreign state to itself, on which its
    routines act in some way. -/
structure Apart (todo : List Disposal) (j : Nat) : Prop where
  own : ∀ d, todo[j]? = some d → lib.Acts thread d view conduct
  others : ∀ k d, k ≠ j → todo[k]? = some d → lib.Spares thread d view

variable {lib lib' thread d view view' conduct} {x : World W} {x' : World W'}

/-! ### Disposals that leave a part alone -/

theorem Spares.destroy (h : lib.Spares thread d view) (x : World W) :
    view (lib.destroy thread d x).left.foreign = view x.foreign := by
  have hcall := h _ (.inr rfl) (x.note (.destroying thread d))
  unfold Library.destroy
  dsimp only
  split <;> exact hcall

theorem Spares.goOn (h : lib.Spares thread d view) (x : World W)
    (count : Except Payload (Option UInt64)) :
    view (lib.goOn thread d x count).left.foreign = view x.foreign := by
  unfold Library.goOn
  split
  · split
    · rfl
    · exact h.destroy x
  · exact h.destroy x
  · rfl

theorem Spares.run (h : lib.Spares thread d view) (x : World W) :
    view (lib.run thread d x).left.foreign = view x.foreign := by
  show view (lib.dispose thread d x).left.foreign = view x.foreign
  unfold Library.dispose
  dsimp only
  split
  · show view (lib.goOn thread d _ _).left.foreign = _
    rw [h.goOn, h _ (.inl rfl)]
    rfl
  · exact h.destroy (x.begin thread d)

/-! ### Disposals that find their part alike -/

/-- The routines of a disposal that find their part alike end alike, and leave it alike. -/
theorem Acts.call (h : lib.Acts thread d view conduct) (h' : lib'.Acts thread d view' conduct)
    (x : World W) (x' : World W') (hview : view x.foreign = view' x'.foreign) {r : Request}
    (hr : d.Routine thread r) :
    (lib.call x r).1 = (lib'.call x' r).1 ∧
      view (lib.call x r).2.foreign = view' (lib'.call x' r).2.foreign := by
  rw [(h r hr x).1, (h r hr x).2, (h' r hr x').1, (h' r hr x').2, hview]
  exact ⟨rfl, rfl⟩

theorem Acts.destroy (h : lib.Acts thread d view conduct) (h' : lib'.Acts thread d view' conduct)
    (x : World W) (x' : World W') (hview : view x.foreign = view' x'.foreign) :
    (lib.destroy thread d x).calls = (lib'.destroy thread d x').calls ∧
      (lib.destroy thread d x).result = (lib'.destroy thread d x').result := by
  have hcall := (h.call h' (x.note (.destroying thread d)) (x'.note (.destroying thread d)) hview
    (.inr rfl)).1
  unfold Library.destroy
  dsimp only
  rw [hcall]
  cases (lib'.call (x'.note (.destroying thread d)) (.destroy thread d.type d.address)).1 with
  | ok _ => exact ⟨rfl, rfl⟩
  | error _ => exact ⟨rfl, rfl⟩

theorem Acts.goOn (h : lib.Acts thread d view conduct) (h' : lib'.Acts thread d view' conduct)
    (x : World W) (x' : World W') (hview : view x.foreign = view' x'.foreign)
    (count : Except Payload (Option UInt64)) :
    (lib.goOn thread d x count).calls = (lib'.goOn thread d x' count).calls ∧
      (lib.goOn thread d x count).result = (lib'.goOn thread d x' count).result := by
  unfold Library.goOn
  split
  · split
    · exact ⟨rfl, rfl⟩
    · exact h.destroy h' x x' hview
  · exact h.destroy h' x x' hview
  · exact ⟨rfl, rfl⟩

/-- A disposal that finds its part alike calls the same routines, with the same result. -/
theorem Acts.run (h : lib.Acts thread d view conduct) (h' : lib'.Acts thread d view' conduct)
    (x : World W) (x' : World W') (hview : view x.foreign = view' x'.foreign) :
    (lib.run thread d x).calls = (lib'.run thread d x').calls ∧
      (lib.run thread d x).result = (lib'.run thread d x').result := by
  have hdispose : (lib.dispose thread d x).calls = (lib'.dispose thread d x').calls ∧
      (lib.dispose thread d x).result = (lib'.dispose thread d x').result := by
    unfold Library.dispose
    dsimp only
    split
    · obtain ⟨houtcome, hleft⟩ := h.call h' ((x.begin thread d).note (.counting thread d))
        ((x'.begin thread d).note (.counting thread d)) hview (.inl rfl)
      rw [houtcome]
      obtain ⟨hcalls, hresult⟩ := h.goOn h' _ _ hleft
        (lib'.call ((x'.begin thread d).note (.counting thread d))
          (.count thread d.type d.address)).1.counted
      exact ⟨congrArg _ hcalls, hresult⟩
    · exact h.destroy h' (x.begin thread d) (x'.begin thread d) hview
  exact ⟨hdispose.1, congrArg d.contained hdispose.2⟩

/-! ### Closings -/

theorem length_sweep (a : Nat) (todo : List Disposal) (x : World W) :
    (lib.sweep thread a todo x).1.length = todo.length :=
  (lib.sweep_names thread x a todo).length_eq.symm

/-- What comes before a disposal in a list leaves its part as it is. -/
theorem Apart.visit {todo : List Disposal} {j : Nat} (h : lib.Apart thread view conduct todo j)
    (hd : todo[j]? = some d) (a : Nat) (x : World W) :
    ∃ y : World W, view y.foreign = view x.foreign ∧
      (lib.sweep thread a todo x).1[j]? =
        some ⟨(lib.run thread d y).calls, (lib.run thread d y).result⟩ := by
  induction todo generalizing j x with
  | nil => cases hd
  | cons first rest ih =>
    cases j with
    | zero =>
      obtain rfl : first = d := Option.some.inj hd
      exact ⟨x.note (.attempting thread a first), rfl, rfl⟩
    | succ j =>
      -- the first disposal is another one, so it leaves the part alone
      have hrest : lib.Apart thread view conduct rest j :=
        ⟨h.own, fun k other hk => h.others (k + 1) other (by omega)⟩
      have hfirst := (h.others 0 first (Nat.succ_ne_zero j).symm rfl).run
        (x.note (.attempting thread a first))
      obtain ⟨y, hy, hvisit⟩ := ih hrest hd _
      refine ⟨y, ?_, hvisit⟩
      rw [hy, World.foreign_record, hfirst]
      rfl

/-- **A disposal that shares nothing with the others** goes alike in two closings in which it
    finds its part of the foreign state alike. -/
theorem visit_isolated {todo todo' : List Disposal} {j : Nat}
    (h : lib.Apart thread view conduct todo j) (h' : lib'.Apart thread view' conduct todo' j)
    (hsame : todo[j]? = todo'[j]?) (hview : view x.foreign = view' x'.foreign) (a a' : Nat) :
    (lib.sweep thread a todo x).1[j]? = (lib'.sweep thread a' todo' x').1[j]? := by
  cases hd : todo[j]? with
  | none =>
    have hnone : todo'[j]? = none := by rw [← hsame, hd]
    rw [List.getElem?_eq_none_iff] at hd hnone
    rw [List.getElem?_eq_none (by rw [length_sweep]; exact hd),
      List.getElem?_eq_none (by rw [length_sweep]; exact hnone)]
  | some d =>
    have hd' : todo'[j]? = some d := by rw [← hsame, hd]
    obtain ⟨y, hy, hvisit⟩ := h.visit hd a x
    obtain ⟨y', hy', hvisit'⟩ := h'.visit hd' a' x'
    obtain ⟨hcalls, hresult⟩ := (h.own d hd).run (h'.own d hd') y y' (by rw [hy, hy', hview])
    rw [hvisit, hvisit', hcalls, hresult]

end Library

/-! ### Calls -/

namespace World

variable {W : Type} (x : World W)

/-- The routines that were called for disposals. -/
def calls : List Request := x.store.history.calls

theorem calls_note (h : Happening) : (x.note h).calls = x.calls ++ h.call?.toList :=
  History.pick_cons h x.store.history _

theorem calls_record (thread : ThreadId) (a : Nat) (result : Except DisposalError Unit) :
    (x.record thread a result).calls = x.calls := by
  cases result with
  | ok _ => rfl
  | error e => exact (x.calls_note _).trans (List.append_nil _)

end World

namespace Library

variable {W : Type} (lib : Library W) (thread : ThreadId) (d : Disposal) (x : World W)

/-- No routine writes to the history. -/
theorem calls_call (r : Request) : (lib.call x r).2.calls = x.calls := by
  unfold call
  split
  · split <;> rfl
  · next type address =>
    have hhistory := x.store.history_afterDestroy type address
    unfold Store.afterDestroy at hhistory
    split
    · next hknown =>
      rw [hknown] at hhistory
      exact congrArg History.calls hhistory
    · next hknown =>
      rw [hknown] at hhistory
      exact congrArg History.calls hhistory
    · rfl
  · rfl

theorem calls_destroy :
    (lib.destroy thread d x).left.calls = x.calls ++ (lib.destroy thread d x).calls := by
  have hcall := lib.calls_call (x.note (.destroying thread d)) (.destroy thread d.type d.address)
  rw [World.calls_note] at hcall
  unfold destroy
  dsimp only
  split
  · rw [World.calls_note, hcall]
    exact List.append_nil _
  · exact hcall

theorem calls_goOn (count : Except Payload (Option UInt64)) :
    (lib.goOn thread d x count).left.calls = x.calls ++ (lib.goOn thread d x count).calls := by
  unfold goOn
  split
  · split
    · exact (List.append_nil _).symm
    · exact lib.calls_destroy thread d x
  · exact lib.calls_destroy thread d x
  · exact (List.append_nil _).symm

theorem calls_run : (lib.run thread d x).left.calls = x.calls ++ (lib.run thread d x).calls := by
  have hbegin : (x.begin thread d).calls = x.calls :=
    (History.pick_cons _ _ _).trans (List.append_nil _)
  show (lib.dispose thread d x).left.calls = x.calls ++ (lib.dispose thread d x).calls
  unfold dispose
  dsimp only
  split
  · show (lib.goOn thread d _ _).left.calls = _
    rw [calls_goOn, calls_call, World.calls_note, hbegin, List.append_assoc]
    rfl
  · rw [calls_destroy, hbegin]

/-- **The history tells of all calls of a closing.** -/
theorem calls_sweep (a : Nat) (todo : List Disposal) :
    (lib.sweep thread a todo x).2.calls =
      x.calls ++ (lib.sweep thread a todo x).1.flatMap (·.calls) := by
  induction todo generalizing x with
  | nil => exact (List.append_nil _).symm
  | cons d rest ih =>
    dsimp only [sweep]
    rw [ih, World.calls_record, calls_run, World.calls_note, List.flatMap_cons, List.append_assoc]
    exact congrArg (· ++ _) (List.append_nil _)

end Library

end ForeignArena
