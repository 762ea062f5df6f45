import ForeignArena.Heap
import ForeignArena.Proofs.AddressTables
import Mathlib.Logic.Function.Basic

namespace ForeignArena

/-!
# Heaps and their books

What a heap should hold can be kept in books: for each address, what was allocated there
and how many references are held to it.  A heap agrees with its books as long as nobody
gives back what is not held.

* `Account`, `Books` — what is on record for an address, and for all of them;
* `Heap.Agrees` — a heap that holds what its books say;
* `Heap.allocate_agrees`, `Heap.retain_agrees`, `Heap.release_agrees`, `Heap.destroy_agrees`
  — how the operations are booked.
-/

/-- What is on record for an address: the object that was allocated there, and the number of
    references that are held to it. -/
structure Account where
  typeName : String
  payload : Int64
  held : Nat

/-- The object that an account stands for, as long as references to it are held. -/
def Account.object? (x : Account) : Option HeapObject :=
  if x.held = 0 then none else some ⟨x.typeName, UInt64.ofNat x.held, x.payload⟩

theorem Account.object?_of_held (typeName : String) (payload : Int64) {held : Nat} (h : held ≠ 0) :
    Account.object? ⟨typeName, payload, held⟩ = some ⟨typeName, UInt64.ofNat held, payload⟩ :=
  if_neg h

theorem Account.object?_of_not_held (typeName : String) (payload : Int64) {held : Nat}
    (h : held = 0) : Account.object? ⟨typeName, payload, held⟩ = none :=
  if_pos h

/-- Giving a reference back takes one away from the count, as long as references are held and
    can be counted. -/
theorem Account.count_sub_one {held : Nat} (hheld : held ≠ 0) (hsmall : held < 2 ^ 64) :
    UInt64.ofNat held - 1 = UInt64.ofNat (held - 1) ∧ (UInt64.ofNat held - 1 = 0 ↔ held = 1) := by
  have hcount : UInt64.ofNat held - 1 = UInt64.ofNat (held - 1) := by
    rw [UInt64.ofNat_sub (by omega)]
    rfl
  refine ⟨hcount, ?_⟩
  rw [hcount, ← UInt64.toNat_inj, UInt64.toNat_ofNat', Nat.mod_eq_of_lt (by omega), UInt64.toNat_zero]
  omega

/-- The accounts of all addresses. -/
abbrev Books := Address → Account

/-- The books once another number of references is held to the object at an address. -/
def Books.hold (books : Books) (a : Address) (n : Nat) : Books :=
  Function.update books a { books a with held := n }

@[simp] theorem Books.hold_same (books : Books) (a : Address) (n : Nat) :
    books.hold a n a = { books a with held := n } := Function.update_self ..

theorem Books.hold_of_ne (books : Books) {a b : Address} (h : b ≠ a) (n : Nat) :
    books.hold a n b = books b := Function.update_of_ne h ..

namespace Heap

/-- **A heap agrees with its books**: it has the objects to which references are held, what it
    has freed are the other addresses that it has handed out, and it was never asked to free
    anything else. -/
structure Agrees (h : Heap) (books : Books) : Prop where
  table : h.objects.Sound
  object : ∀ a, h.get? a = (books a).object?
  counts : ∀ a, (books a).held < 2 ^ 64
  once : h.freed.toList.Nodup
  freed : ∀ a, a ∈ h.freed ↔ h.objects.Issued a ∧ (books a).held = 0
  valid : h.invalidFrees = 0

variable {h : Heap} {books : Books} {a : Address}

/-- The object to which references are held. -/
theorem Agrees.of_held (hagrees : h.Agrees books) (hheld : (books a).held ≠ 0) :
    h.get? a = some ⟨(books a).typeName, UInt64.ofNat (books a).held, (books a).payload⟩ := by
  rw [hagrees.object, Account.object?, if_neg hheld]

theorem Agrees.of_not_held (hagrees : h.Agrees books) (hheld : (books a).held = 0) :
    h.get? a = none := by
  rw [hagrees.object, Account.object?, if_pos hheld]

theorem Agrees.held_of_get? (hagrees : h.Agrees books) {object : HeapObject}
    (hget : h.get? a = some object) : (books a).held ≠ 0 := by
  intro hheld
  rw [hagrees.of_not_held hheld] at hget
  cases hget

/-- References are held only to what was handed out. -/
theorem Agrees.issued (hagrees : h.Agrees books) (hheld : (books a).held ≠ 0) :
    h.objects.Issued a :=
  .of_get? (hagrees.of_held hheld)

/-- A count can be read off a heap. -/
theorem Agrees.retainCount (hagrees : h.Agrees books) {object : HeapObject}
    (hget : h.get? a = some object) : object.retainCount.toNat = (books a).held := by
  have hobject := hagrees.of_held (hagrees.held_of_get? hget)
  rw [hget] at hobject
  cases hobject
  rw [UInt64.toNat_ofNat']
  exact Nat.mod_eq_of_lt (hagrees.counts a)

/-- What happens at one address shows in its account, and in what was freed, only. -/
theorem Agrees.change (hagrees : h.Agrees books) (x : Account) {objects : AddressTable HeapObject}
    {freed : Array Address} (hsound : objects.Sound)
    (hget : ∀ b, objects.get? b = if b = a then x.object? else h.objects.get? b)
    (hcount : x.held < 2 ^ 64) (honce : freed.toList.Nodup)
    (hfreed : ∀ b, b ∈ freed ↔ objects.Issued b ∧ (Function.update books a x b).held = 0) :
    ({ h with objects, freed } : Heap).Agrees (Function.update books a x) where
  table := hsound
  object b := by
    rw [get?, hget]
    by_cases hba : b = a
    · rw [if_pos hba, hba, Function.update_self]
    · rw [if_neg hba, Function.update_of_ne hba]
      exact hagrees.object b
  counts b := by
    by_cases hba : b = a
    · rw [hba, Function.update_self]
      exact hcount
    · rw [Function.update_of_ne hba]
      exact hagrees.counts b
  once := honce
  freed := hfreed
  valid := hagrees.valid

/-- An empty heap has empty books. -/
theorem agrees_empty (books : Books) (hbooks : ∀ a, (books a).held = 0) :
    ({} : Heap).Agrees books where
  table := ⟨by decide, .nil, by simp⟩
  object a := by
    rw [Account.object?, if_pos (hbooks a)]
    unfold get? AddressTable.get? AddressTable.resolve?
    cases a.slot? <;> simp
  counts a := by simp [hbooks a]
  once := .nil
  freed a := by simp [AddressTable.Issued]
  valid := rfl

/-- **A new object** has an address of its own, and one reference to it is held. -/
theorem allocate_agrees (hagrees : h.Agrees books) (hroom : h.objects.HasRoom) (typeName : String)
    (payload : Int64) :
    ¬h.objects.Issued (h.allocate typeName payload).2 ∧
      (∀ b, (h.allocate typeName payload).1.objects.Issued b ↔
        b = (h.allocate typeName payload).2 ∨ h.objects.Issued b) ∧
      (h.allocate typeName payload).1.Agrees
        (Function.update books (h.allocate typeName payload).2 ⟨typeName, payload, 1⟩) := by
  have hinsert := AddressTable.insert_spec hagrees.table hroom
    ({ typeName, retainCount := 1, payload } : HeapObject)
  have hallocate : h.allocate typeName payload =
      ({ h with objects := (h.objects.insert { typeName, retainCount := 1, payload }).1 },
        (h.objects.insert { typeName, retainCount := 1, payload }).2) := rfl
  rw [hallocate]
  generalize h.objects.insert { typeName, retainCount := 1, payload } = inserted at hinsert
  obtain ⟨after, a⟩ := inserted
  dsimp only at hinsert ⊢
  refine ⟨hinsert.fresh, hinsert.issued, hagrees.change ⟨typeName, payload, 1⟩ hinsert.sound
    (fun b => ?_) (show 1 < 2 ^ 64 by decide) hagrees.once fun b => ?_⟩
  · rw [hinsert.get?, Account.object?]
    rfl
  · -- the new address was not handed out before, so it is not among those that were freed
    rw [hagrees.freed, hinsert.issued]
    by_cases hba : b = a
    · subst hba
      simp [hinsert.fresh]
    · simp [hba]

/-- A heap whose object at one address got another count. -/
theorem update_agrees (hagrees : h.Agrees books) (hheld : (books a).held ≠ 0) (n : Nat)
    (hn : n ≠ 0) (hsmall : n < 2 ^ 64) :
    (∀ b, (h.objects.update a fun o => { o with retainCount := UInt64.ofNat n }).Issued b ↔
        h.objects.Issued b) ∧
      ({ h with objects := h.objects.update a fun o => { o with retainCount := UInt64.ofNat n } } :
        Heap).Agrees (books.hold a n) := by
  obtain ⟨hsound, hissued, hget⟩ := AddressTable.update_spec hagrees.table (hagrees.of_held hheld)
    fun o => { o with retainCount := UInt64.ofNat n }
  refine ⟨hissued, hagrees.change { books a with held := n } hsound (fun b => ?_) hsmall
    hagrees.once fun b => ?_⟩
  · rw [hget, Account.object?, if_neg hn]
  · rw [hagrees.freed, hissued]
    by_cases hba : b = a
    · subst hba
      simp [hn, hheld]
    · rw [Function.update_of_ne hba]

/-- A heap whose object at one address was freed. -/
theorem remove_agrees (hagrees : h.Agrees books) (hheld : (books a).held ≠ 0) :
    (∀ b, (h.objects.remove a).1.Issued b ↔ h.objects.Issued b) ∧
      ({ h with objects := (h.objects.remove a).1, freed := h.freed.push a } : Heap).Agrees
        (books.hold a 0) := by
  obtain ⟨-, hsound, hissued, hget⟩ :=
    AddressTable.remove_spec hagrees.table (hagrees.of_held hheld)
  refine ⟨hissued, hagrees.change { books a with held := 0 } hsound (fun b => ?_)
    (Nat.two_pow_pos 64) ?_ fun b => ?_⟩
  · rw [hget, Account.object?, if_pos rfl]
  · -- the object was there, so it is freed for the first time
    have hnot : a ∉ h.freed.toList := by
      rw [Array.mem_toList_iff, hagrees.freed]
      exact fun hfreed => hheld hfreed.2
    rw [Array.toList_push]
    refine List.nodup_append.mpr ⟨hagrees.once, by simp, ?_⟩
    rintro b hb c hc rfl
    rw [List.mem_singleton.mp hc] at hb
    exact hnot hb
  · rw [Array.mem_push, hagrees.freed, hissued]
    by_cases hba : b = a
    · subst hba
      simp [hagrees.issued hheld]
    · rw [Function.update_of_ne hba]
      simp [hba]

/-- **Taking a reference**, as long as the count does not start over. -/
theorem retain_agrees (hagrees : h.Agrees books) (hheld : (books a).held ≠ 0)
    (hsmall : (books a).held + 1 < 2 ^ 64) :
    (∀ b, (h.retain a).1.objects.Issued b ↔ h.objects.Issued b) ∧
      (h.retain a).1.Agrees (books.hold a ((books a).held + 1)) := by
  have hretain : (h.retain a).1 = { h with objects := h.objects.update a fun o =>
      { o with retainCount := UInt64.ofNat ((books a).held + 1) } } := by
    rw [retain, hagrees.of_held hheld, UInt64.ofNat_add]
    rfl
  rw [hretain]
  exact update_agrees hagrees hheld _ (Nat.succ_ne_zero _) hsmall

/-- **Giving a reference back** that is held; the last one frees the object. -/
theorem release_agrees (hagrees : h.Agrees books) (hheld : (books a).held ≠ 0) :
    (∀ b, (h.release a).1.objects.Issued b ↔ h.objects.Issued b) ∧
      (h.release a).1.Agrees (books.hold a ((books a).held - 1)) := by
  have hcounts := hagrees.counts a
  obtain ⟨hcount, hzero⟩ := Account.count_sub_one hheld hcounts
  by_cases hlast : (books a).held = 1
  · have hrelease : (h.release a).1 =
        { h with objects := (h.objects.remove a).1, freed := h.freed.push a } := by
      rw [release, hagrees.of_held hheld]
      simp [hlast]
    rw [hrelease, hlast]
    exact remove_agrees hagrees hheld
  · -- counts are small enough that taking one away does not start over
    have hne : UInt64.ofNat ((books a).held - 1) ≠ 0 := hcount ▸ fun heq => hlast (hzero.mp heq)
    have hrelease : (h.release a).1 = { h with objects := h.objects.update a fun o =>
        { o with retainCount := UInt64.ofNat ((books a).held - 1) } } := by
      rw [release, hagrees.of_held hheld]
      simp [hcount, hne]
    rw [hrelease]
    exact update_agrees hagrees hheld _ (by omega) (by omega)

/-- **Freeing an object** whatever its count. -/
theorem destroy_agrees (hagrees : h.Agrees books) (hheld : (books a).held ≠ 0) :
    (∀ b, (h.destroy a).1.objects.Issued b ↔ h.objects.Issued b) ∧
      (h.destroy a).1.Agrees (books.hold a 0) := by
  obtain ⟨hvalue, -⟩ := AddressTable.remove_spec hagrees.table (hagrees.of_held hheld)
  have hdestroy : (h.destroy a).1 =
      { h with objects := (h.objects.remove a).1, freed := h.freed.push a } := by
    unfold destroy
    split
    · next objects object heq => simp [heq]
    · next objects heq =>
      rw [heq] at hvalue
      cases hvalue
  rw [hdestroy]
  exact remove_agrees hagrees hheld

end Heap

end ForeignArena
