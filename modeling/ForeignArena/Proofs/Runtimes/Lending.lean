import ForeignArena.Proofs.Journals
import ForeignArena.Proofs.Runtimes.Life

namespace ForeignArena

/-!
# Lent references

Who takes an extra reference to an object of a heap owes it to the heap.  Whether all give
back what they owe, and only that, is up to the clients: here it is followed what each
operation, and each call of a destroy routine, does to the object at one address and to
the references that are owed there.  Nobody is asked to behave.

* `Heap.Lends` — a heap that holds what a directory says, and lends only what was allocated;
* `Operation.Turns` — what an operation can do to an object and to what is owed for it;
* `Operation.Turns.account` — an account stays right if only what is owed is given back;
* `Store.apply_lends` — and each operation does just that;
* `Store.afterDestroy_lends` — a destroy routine is about one address.
-/

/-- **A heap that lends references** holds what a directory says, and no reference is owed
    for an address that was not handed out. -/
structure Heap.Lends (h : Heap) (d : Directory HeapObject) (extra : Address → Nat) : Prop where
  holds : h.Holds d
  lent : ∀ b, 0 < extra b → b ∈ d.given

/-- One more reference to what was handed out may be lent. -/
theorem Heap.Lends.lend {h : Heap} {d : Directory HeapObject} {extra : Address → Nat} {a : Address}
    (hlends : h.Lends d extra) (ha : a ∈ d.given) :
    h.Lends d (Function.update extra a (extra a + 1)) where
  holds := hlends.holds
  lent b hb := by
    by_cases hba : b = a
    · rw [hba]
      exact ha
    · rw [Function.update_of_ne hba] at hb
      exact hlends.lent b hb

/-- The heap on which an operation allocates an object. -/
def Operation.allocates? : Operation → Option Nat
  | allocate heap _ _ => some heap
  | newObject _ runtime _ _ | newValue _ runtime _ _ => some runtime.heap
  | _ => none

/-- What an operation can do to the object at an address of a heap, and to the number of
    references that are owed there. -/
inductive Operation.Turns (operation : Operation) (h : Nat) (a : Address) :
    Option HeapObject → Nat → Option HeapObject → Nat → Prop where
  | same {value : Option HeapObject} {owed : Nat} : Turns operation h a value owed value owed
  | retained {object : HeapObject} {owed : Nat} :
    Turns operation h a (some object) owed
      (some { object with retainCount := object.retainCount + 1 }) (owed + 1)
  | released {object : HeapObject} {owed : Nat} : operation = .release h a →
    object.retainCount - 1 ≠ 0 →
    Turns operation h a (some object) owed
      (some { object with retainCount := object.retainCount - 1 }) (owed - 1)
  | last {object : HeapObject} {owed : Nat} : operation = .release h a →
    object.retainCount - 1 = 0 → Turns operation h a (some object) owed none (owed - 1)
  | missed {owed : Nat} : operation = .release h a → Turns operation h a none owed none (owed - 1)
  | destroyed {value after : Option HeapObject} {owed : Nat} : operation = .destroy h a →
    Turns operation h a value owed after owed

/-- **An account stays right** where only references are given back that are owed, and nothing is
    freed at once: `kept` references are held by others all the time.  And nothing is owed again
    once the object is gone. -/
theorem Operation.Turns.account {operation : Operation} {h : Nat} {a : Address}
    {value value' : Option HeapObject} {owed owed' : Nat}
    (hturns : operation.Turns h a value owed value' owed') {typeName : String} {payload : Int64}
    (kept : Nat) (hvalue : value = Account.object? ⟨typeName, payload, kept + owed⟩)
    (hsmall : kept + owed < 2 ^ 64) (hreleased : operation = .release h a → 0 < owed)
    (hdestroyed : operation ≠ .destroy h a) :
    value' = Account.object? ⟨typeName, payload, kept + owed'⟩ ∧ (kept + owed = 0 → owed' = 0) := by
  -- an object is there as long as references to it are held
  have hheld {object : HeapObject}
      (hsome : some object = Account.object? ⟨typeName, payload, kept + owed⟩) :
      kept + owed ≠ 0 ∧ object = ⟨typeName, UInt64.ofNat (kept + owed), payload⟩ := by
    by_cases hzero : kept + owed = 0
    · rw [Account.object?_of_not_held _ _ hzero] at hsome
      cases hsome
    · rw [Account.object?_of_held _ _ hzero] at hsome
      exact ⟨hzero, Option.some.inj hsome⟩
  cases hturns with
  | same => exact ⟨hvalue, fun hzero => by omega⟩
  | retained =>
    obtain ⟨hne, rfl⟩ := hheld hvalue
    refine ⟨?_, fun hzero => absurd hzero hne⟩
    have hcount : UInt64.ofNat (kept + (owed + 1)) = UInt64.ofNat (kept + owed) + 1 :=
      UInt64.ofNat_add (kept + owed) 1
    rw [Account.object?_of_held _ _ (by omega), hcount]
  | released hoperation hmore =>
    obtain ⟨hne, rfl⟩ := hheld hvalue
    have hpos := hreleased hoperation
    obtain ⟨hcount, hlast⟩ := Account.count_sub_one hne hsmall
    refine ⟨?_, fun hzero => absurd hzero hne⟩
    rw [← Nat.add_sub_assoc hpos, Account.object?_of_held, ← hcount]
    exact fun hzero => hmore (hlast.mpr (by omega))
  | last hoperation hlast =>
    obtain ⟨hne, rfl⟩ := hheld hvalue
    have hpos := hreleased hoperation
    have hone := (Account.count_sub_one hne hsmall).2.mp hlast
    exact ⟨(Account.object?_of_not_held _ _ (by omega)).symm, fun hzero => absurd hzero hne⟩
  | missed hoperation =>
    have hpos := hreleased hoperation
    rw [Account.object?_of_held _ _ (by omega)] at hvalue
    cases hvalue
  | destroyed hoperation => exact absurd hoperation hdestroyed

namespace Store

variable {st : Store} {h : Nat} {d : Directory HeapObject} {extra : Address → Nat} {a : Address}

/-- A heap that has given out an address is known. -/
theorem known_of_given (hholds : (st.heap h).Holds d) (ha : a ∈ d.given) : h < st.heaps.size :=
  st.known_of_issued ((hholds.table.issued a).mpr ha)

/-- What a use does to a heap shows behind its handle, wherever it has given out addresses. -/
theorem setHeap_holds (hholds : (st.heap h).Holds d) (use : Heap.Use)
    (hroom : ∀ typeName payload, use = .allocate typeName payload → (st.heap h).objects.HasRoom) :
    ∃ d', ((st.setHeap h ((st.heap h).perform use).1).heap h).Holds d' ∧ d.given ⊆ d'.given ∧
      ∀ b ∈ d.given, ∃ answer misuses, Heap.Outcome d use answer d' misuses := by
  by_cases hknown : h < st.heaps.size
  · obtain ⟨d', misuses, houtcome, hafter, -⟩ := hholds.perform use hroom
    rw [st.heap_setHeap _ hknown]
    exact ⟨d', hafter, houtcome.given_subset, fun _ _ => ⟨_, misuses, houtcome⟩⟩
  · -- an unknown heap is empty and stays so
    have hsame : (st.setHeap h ((st.heap h).perform use).1).heap h = st.heap h := by
      simp [setHeap, Store.heap, hknown]
    rw [hsame]
    exact ⟨d, hholds, List.Subset.refl _, fun b hb => absurd (known_of_given hholds hb) hknown⟩

/-! ### Destroy routines -/

/-- Calling the destroy routine of a type shows in the heap where its objects live, and nowhere
    but at the address. -/
theorem afterDestroy_lends (hlends : (st.heap h).Lends d extra) (type : ForeignType)
    (a : Address) :
    ∃ d', ((st.afterDestroy type a).heap h).Lends d' extra ∧ d.given ⊆ d'.given ∧
      ∀ b ∈ d.given, (b = a → type.isOnHeap h = false) → d'.value b = d.value b := by
  have huse (use : Heap.Use) (hnew : use.address? = some a) (htype : type.isOnHeap h = true)
      (hafter : st.afterDestroy type a = st.setHeap h ((st.heap h).perform use).1) :
      ∃ d', ((st.afterDestroy type a).heap h).Lends d' extra ∧ d.given ⊆ d'.given ∧
        ∀ b ∈ d.given, (b = a → type.isOnHeap h = false) → d'.value b = d.value b := by
    obtain ⟨d', hholds, hgiven, houtcome⟩ := setHeap_holds hlends.holds use fun _ _ heq => by
      rw [heq] at hnew
      cases hnew
    rw [hafter]
    refine ⟨d', ⟨hholds, fun b hb => hgiven (hlends.lent b hb)⟩, hgiven, fun b hb hne => ?_⟩
    obtain ⟨answer, misuses, houtcome⟩ := houtcome b hb
    refine houtcome.elsewhere hb fun heq => ?_
    rw [hnew, Option.some.injEq] at heq
    rw [hne heq.symm] at htype
    cases htype
  by_cases htype : type.isOnHeap h = true
  · have hroutines : type.routines = .heapObject h ∨ type.routines = .heapValue h := by
      simpa [ForeignType.isOnHeap] using htype
    obtain hobject | hvalue := hroutines
    · refine huse (.release a) rfl htype ?_
      rw [afterDestroy, destroyKnown?, hobject]
      rfl
    · refine huse (.destroy a) rfl htype ?_
      rw [afterDestroy, destroyKnown?, hvalue]
      rfl
  · rw [st.heap_afterDestroy_of_off (Bool.eq_false_iff.mpr htype)]
    exact ⟨d, hlends, List.Subset.refl _, fun _ _ _ => rfl⟩

/-! ### New objects -/

/-- A new object of a runtime is put at a new address.  If it is refused it leaves the heap
    again, and nothing else does. -/
theorem newOnHeap_lends {ρ : ForeignRuntime} (hlends : (st.heap ρ.heap).Lends d extra)
    (hknown : ρ.heap < st.heaps.size) (hroom : (st.heap ρ.heap).objects.HasRoom)
    (thread : ThreadId) (typeName : String) (kind : TypeKind) (payload : Int64) (home : ArenaRef) :
    ∃ d', ((st.newOnHeap thread ρ typeName kind payload home).1.heap ρ.heap).Lends d' extra ∧
      d.given ⊆ d'.given ∧ (∀ b ∈ d.given, d'.value b = d.value b) ∧
      ∀ i, (st.newOnHeap thread ρ typeName kind payload home).2 = .ok i →
        i.address ∉ d.given ∧ i.address ∈ d'.given ∧
          d'.value i.address = some ⟨typeName, 1, payload⟩ := by
  obtain ⟨haccepted, hrefused⟩ := st.newOnHeap_heap thread typeName kind payload home hknown
  obtain ⟨hnew, -, hallocated⟩ := hlends.holds.allocate hroom typeName payload
  generalize (st.heap ρ.heap).allocate typeName payload = allocated at *
  obtain ⟨heap, a⟩ := allocated
  dsimp only at haccepted hrefused hnew hallocated
  have hother (b : Address) (hb : b ∈ d.given) : b ≠ a := by
    rintro rfl
    exact hnew hb
  cases hresult : (st.newOnHeap thread ρ typeName kind payload home).2 with
  | ok i =>
    obtain ⟨haddress, hheap⟩ := haccepted i hresult
    rw [hheap]
    refine ⟨_, ⟨hallocated, fun b hb => List.mem_append_left _ (hlends.lent b hb)⟩,
      List.subset_append_left _ _, fun b hb => Function.update_of_ne (hother b hb) _ _, ?_⟩
    intro j hj
    cases hj
    rw [haddress]
    exact ⟨hnew, by simp, Function.update_self _ _ _⟩
  | error e =>
    rw [hrefused e hresult]
    -- giving the object up is one more use, at the new address
    have hgiveUp : ∃ use : Heap.Use, use.address? = some a ∧
        heap.giveUp kind a = (heap.perform use).1 := by
      cases kind with
      | reference => exact ⟨.release a, rfl, rfl⟩
      | value => exact ⟨.destroy a, rfl, rfl⟩
    obtain ⟨use, haddress, hgiveUp⟩ := hgiveUp
    obtain ⟨d', misuses, houtcome, hafter, -⟩ := hallocated.perform use fun _ _ heq => by
      rw [heq] at haddress
      cases haddress
    have hgiven : d.given ⊆ d'.given :=
      List.Subset.trans (List.subset_append_left _ _) houtcome.given_subset
    rw [hgiveUp]
    refine ⟨d', ⟨hafter, fun b hb => hgiven (hlends.lent b hb)⟩, hgiven, fun b hb => ?_,
      fun j hj => by cases hj⟩
    have hsame := houtcome.elsewhere (List.mem_append_left [a] hb) fun heq => by
      rw [haddress, Option.some.injEq] at heq
      exact hother b hb heq.symm
    rw [hsame]
    exact Function.update_of_ne (hother b hb) _ _

/-! ### Operations -/

variable {operation : Operation}

/-- A reference to a live object is taken, and owed from now on. -/
theorem retain_lends (hlends : (st.heap h).Lends d extra) {object : HeapObject}
    (hget : (st.heap h).get? a = some object) :
    ∃ d', ((st.setHeap h ((st.heap h).retain a).1).heap h).Lends d'
        (Function.update extra a (extra a + 1)) ∧
      d.given ⊆ d'.given ∧ ∀ b ∈ d.given, operation.Turns h b (d.value b) (extra b) (d'.value b)
        (Function.update extra a (extra a + 1) b) := by
  have hsome : d.value a = some object := (hlends.holds.get? a).symm.trans hget
  have hgiven : a ∈ d.given := ((hlends.holds.live_iff a).mp (by rw [hget]; rfl)).1
  rw [st.heap_setHeap _ (known_of_given hlends.holds hgiven), Heap.retain_of_some hget]
  refine ⟨_, ⟨hlends.holds.counted hget _, (hlends.lend hgiven).lent⟩, List.Subset.refl _,
    fun b _ => ?_⟩
  by_cases hba : b = a
  · rw [hba, hsome]
    dsimp only
    rw [Function.update_self, Function.update_self]
    exact .retained
  · dsimp only
    rw [Function.update_of_ne hba, Function.update_of_ne hba]
    exact .same

/-- A reference is given back, whether it is owed or not. -/
theorem release_lends (hlends : (st.heap h).Lends d extra) (a : Address) :
    ∃ d', ((st.setHeap h ((st.heap h).release a).1).heap h).Lends d'
        (Function.update extra a (extra a - 1)) ∧
      d.given ⊆ d'.given ∧ ∀ b ∈ d.given, (Operation.release h a).Turns h b (d.value b) (extra b)
        (d'.value b) (Function.update extra a (extra a - 1) b) := by
  obtain ⟨d', hholds, hgiven, houtcome⟩ :=
    setHeap_holds hlends.holds (.release a) fun _ _ heq => by cases heq
  refine ⟨d', ⟨hholds, fun b hb => ?_⟩, hgiven, fun b hb => ?_⟩
  · refine hgiven (hlends.lent b ?_)
    by_cases hba : b = a
    · rw [hba, Function.update_self] at hb
      rw [hba]
      exact Nat.lt_of_lt_of_le hb (Nat.sub_le _ _)
    · rwa [Function.update_of_ne hba] at hb
  · obtain ⟨answer, misuses, houtcome⟩ := houtcome b hb
    by_cases hba : b = a
    · subst hba
      rw [Function.update_self]
      cases houtcome with
      | notReleased hnone =>
        rw [hnone]
        exact .missed rfl
      | released hsome hmore =>
        rw [hsome]
        dsimp only
        rw [Function.update_self]
        exact .released rfl hmore
      | last hsome hlast =>
        rw [hsome]
        dsimp only
        rw [Function.update_self]
        exact .last rfl hlast
    · have hne : (Heap.Use.release a).address? ≠ some b := fun heq => hba (Option.some.inj heq).symm
      rw [Function.update_of_ne hba, houtcome.elsewhere hb hne]
      exact .same

/-- So does the destroy routine of a counted type: what it gives back is a reference that somebody
    holds beside the extra ones. -/
theorem afterDestroy_account (hlends : (st.heap h).Lends d extra) (ha : a ∈ d.given)
    {type : ForeignType} (hroutines : type.routines = .heapObject h) {typeName : String}
    {payload : Int64} (hvalue : d.value a = Account.object? ⟨typeName, payload, 1 + extra a⟩)
    (hsmall : 1 + extra a < 2 ^ 64) :
    ∃ d', ((st.afterDestroy type a).heap h).Lends d' extra ∧ a ∈ d'.given ∧
      d'.value a = Account.object? ⟨typeName, payload, extra a⟩ := by
  have hafter : st.afterDestroy type a = st.setHeap h ((st.heap h).release a).1 := by
    rw [afterDestroy, destroyKnown?, hroutines]
  -- it is as if this reference were lent, too
  obtain ⟨d', hlends', hgiven, hturns⟩ := release_lends (hlends.lend ha) a
  have hturned := hturns a ha
  rw [Function.update_self, Function.update_self, Nat.add_sub_cancel] at hturned
  rw [Function.update_self, Function.update_idem, Nat.add_sub_cancel, Function.update_eq_self]
    at hlends'
  obtain ⟨hvalue', -⟩ := hturned.account 0 (by rw [hvalue, Nat.zero_add, Nat.add_comm]) (by omega)
    (fun _ => Nat.succ_pos _) (fun heq => by cases heq)
  rw [hafter]
  exact ⟨d', hlends', hgiven ha, by rw [hvalue', Nat.zero_add]⟩

theorem destroy_lends (hlends : (st.heap h).Lends d extra) (a : Address) :
    ∃ d', ((st.setHeap h ((st.heap h).destroy a).1).heap h).Lends d' extra ∧
      d.given ⊆ d'.given ∧ ∀ b ∈ d.given, (Operation.destroy h a).Turns h b (d.value b) (extra b)
        (d'.value b) (extra b) := by
  obtain ⟨d', hholds, hgiven, houtcome⟩ :=
    setHeap_holds hlends.holds (.destroy a) fun _ _ heq => by cases heq
  refine ⟨d', ⟨hholds, fun b hb => hgiven (hlends.lent b hb)⟩, hgiven, fun b hb => ?_⟩
  obtain ⟨answer, misuses, houtcome⟩ := houtcome b hb
  by_cases hba : b = a
  · subst hba
    exact .destroyed rfl
  · have hne : (Heap.Use.destroy a).address? ≠ some b := fun heq => hba (Option.some.inj heq).symm
    rw [houtcome.elsewhere hb hne]
    exact .same

/-- Who allocates an object without a wrapper owes its first reference. -/
theorem allocate_lends (hlends : (st.heap h).Lends d extra) (hknown : h < st.heaps.size)
    (hroom : (st.heap h).objects.HasRoom) (typeName : String) (payload : Int64) :
    ∃ d', ((st.setHeap h ((st.heap h).allocate typeName payload).1).heap h).Lends d'
        (Function.update extra ((st.heap h).allocate typeName payload).2 1) ∧
      d.given ⊆ d'.given ∧ ∀ b ∈ d.given, operation.Turns h b (d.value b) (extra b) (d'.value b)
        (Function.update extra ((st.heap h).allocate typeName payload).2 1 b) := by
  obtain ⟨hnew, -, hallocated⟩ := hlends.holds.allocate hroom typeName payload
  generalize (st.heap h).allocate typeName payload = allocated at hnew hallocated ⊢
  rw [st.heap_setHeap _ hknown]
  refine ⟨_, ⟨hallocated, fun b hb => ?_⟩, List.subset_append_left _ _, fun b hb => ?_⟩
  · by_cases hba : b = allocated.2
    · simp [hba]
    · rw [Function.update_of_ne hba] at hb
      exact List.mem_append_left _ (hlends.lent b hb)
  · have hba : b ≠ allocated.2 := by
      rintro rfl
      exact hnew hb
    dsimp only
    rw [Function.update_of_ne hba, Function.update_of_ne hba]
    exact .same

/-- **What an operation does** to the objects of a heap, and to what is owed for them. -/
theorem apply_lends (hlends : (st.heap h).Lends d extra) (hadmits : st.admits operation)
    (hroom : operation.allocates? = some h →
      h < st.heaps.size ∧ (st.heap h).objects.HasRoom) :
    ∃ d', ((st.apply operation).heap h).Lends d' (st.extraAfter h extra operation) ∧
      d.given ⊆ d'.given ∧ ∀ b ∈ d.given, operation.Turns h b (d.value b) (extra b) (d'.value b)
        (st.extraAfter h extra operation b) := by
  by_cases hheap : operation.heap? = some h
  · cases operation with
    | allocate heap typeName payload =>
      obtain rfl : heap = h := Option.some.inj hheap
      obtain ⟨hknown, hroom⟩ := hroom rfl
      rw [extraAfter, if_pos rfl]
      exact allocate_lends hlends hknown hroom typeName payload
    | retain heap a =>
      obtain rfl : heap = h := Option.some.inj hheap
      cases hget : (st.heap heap).get? a with
      | none =>
        have hsame : (st.apply (.retain heap a)).heap heap = st.heap heap := by
          rw [apply, Heap.retain_of_none hget, st.setHeap_self]
        rw [hsame, extraAfter, if_neg (by simp [hget])]
        exact ⟨d, hlends, List.Subset.refl _, fun b _ => .same⟩
      | some object =>
        rw [extraAfter, if_pos ⟨rfl, by simp [hget]⟩]
        exact retain_lends hlends hget
    | release heap a =>
      obtain rfl : heap = h := Option.some.inj hheap
      rw [extraAfter, if_pos rfl]
      exact release_lends hlends a
    | destroy heap a =>
      obtain rfl : heap = h := Option.some.inj hheap
      exact destroy_lends hlends a
    | retainObject inst heap =>
      obtain rfl : heap = h := Option.some.inj hheap
      simp only [apply, extraAfter, retainObject_fst]
      cases hread : st.readObject st inst heap "object" with
      | error e => exact ⟨d, hlends, List.Subset.refl _, fun b _ => .same⟩
      | ok result =>
        cases result with
        | error payload => exact ⟨d, hlends, List.Subset.refl _, fun b _ => .same⟩
        | ok object =>
          rw [if_pos trivial]
          exact retain_lends hlends (get?_of_readObject hread)
    | newObject thread ρ payload home =>
      obtain rfl : ρ.heap = h := Option.some.inj hheap
      obtain ⟨hknown, hroom⟩ := hroom rfl
      obtain ⟨d', hafter, hgiven, hsame, -⟩ := newOnHeap_lends hlends hknown hroom thread
        objectTypeName .reference payload home
      refine ⟨d', hafter, hgiven, fun b hb => ?_⟩
      rw [hsame b hb]
      exact .same
    | newValue thread ρ payload home =>
      obtain rfl : ρ.heap = h := Option.some.inj hheap
      obtain ⟨hknown, hroom⟩ := hroom rfl
      obtain ⟨d', hafter, hgiven, hsame, -⟩ := newOnHeap_lends hlends hknown hroom thread
        valueTypeName .value payload home
      refine ⟨d', hafter, hgiven, fun b hb => ?_⟩
      rw [hsame b hb]
      exact .same
    | _ => cases hheap
  · rw [apply_heap hadmits hheap, extraAfter_of_ne hheap]
    exact ⟨d, hlends, List.Subset.refl _, fun b _ => .same⟩

end Store

end ForeignArena
