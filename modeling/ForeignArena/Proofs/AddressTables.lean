import ForeignArena.AddressTable
import Mathlib.Algebra.Group.Nat.Defs

namespace ForeignArena

/-!
# Addresses are used once

An address table reuses its slots but not its addresses: what it hands out was never
handed out before, also after generations have started over.

* `Address.slot?_eq_some` — the layout of an address;
* `AddressTable.Sound` — free slots are empty, and none is free twice;
* `AddressTable.Issued` — the addresses that a table has handed out, as its slots show it;
* `AddressTable.insert_spec`, `AddressTable.update_spec`, `AddressTable.remove_spec` — what
  the operations do to the value at every address.

The last slot that 32 bits can number has no address but null, so a table has room for
one slot less.
-/

/-! ### The layout of an address -/

namespace Address

theorem toNat_ofSlot (i g : UInt32) :
    (ofSlot i g).word.toNat = (i.toNat + 1) % 2 ^ 32 * 2 ^ 32 + g.toNat := by
  have hi := i.toNat_lt
  have hg := g.toNat_lt
  -- what a shift moves out of the upper half is lost
  have hupper : ((i.toUInt64 + 1) <<< 32).toNat = ((i.toNat + 1) % 2 ^ 32) <<< 32 := by
    rw [UInt64.toNat_shiftLeft, UInt64.toNat_add, UInt32.toNat_toUInt64, Nat.shiftLeft_eq,
      Nat.shiftLeft_eq]
    show (i.toNat + 1) % 2 ^ 64 * 2 ^ 32 % 2 ^ 64 = (i.toNat + 1) % 2 ^ 32 * 2 ^ 32
    rw [Nat.mod_eq_of_lt (a := i.toNat + 1) (by omega),
      show (2 : Nat) ^ 64 = 2 ^ 32 * 2 ^ 32 from rfl, Nat.mul_mod_mul_right]
  rw [ofSlot, UInt64.toNat_or, hupper, UInt32.toNat_toUInt64, ← Nat.shiftLeft_add_eq_or_of_lt hg,
    Nat.shiftLeft_eq]

/-- The slot and the generation of an address are the halves of its word. -/
theorem slot?_eq_some {a : Address} {i g : UInt32} :
    a.slot? = some (i, g) ↔ a.word.toNat = (i.toNat + 1) * 2 ^ 32 + g.toNat := by
  have hi := i.toNat_lt
  have hg := g.toNat_lt
  have ha := a.word.toNat_lt
  have hupper : ((a.word >>> 32).toUInt32).toNat = a.word.toNat / 2 ^ 32 := by
    rw [UInt64.toNat_toUInt32, UInt64.toNat_shiftRight, Nat.shiftRight_eq_div_pow]
    show a.word.toNat / 2 ^ 32 % 2 ^ 32 = a.word.toNat / 2 ^ 32
    exact Nat.mod_eq_of_lt (by omega)
  have hlower : a.word.toUInt32.toNat = a.word.toNat % 2 ^ 32 := UInt64.toNat_toUInt32 _
  unfold slot?
  dsimp only
  split
  · next hnull =>
    -- the upper half is one more than a slot, so it is not zero
    have hzero : a.word.toNat / 2 ^ 32 = 0 := by rw [← hupper, hnull]; rfl
    constructor
    · intro h
      cases h
    · intro h
      omega
  · next hne =>
    have hpos : a.word.toNat / 2 ^ 32 ≠ 0 := fun h => hne (UInt32.toNat_inj.mp (hupper.trans h))
    have hone : (1 : UInt32) ≤ (a.word >>> 32).toUInt32 := by
      rw [UInt32.le_iff_toNat_le, hupper]
      exact Nat.pos_of_ne_zero hpos
    have hsub : ((a.word >>> 32).toUInt32 - 1).toNat = a.word.toNat / 2 ^ 32 - 1 := by
      rw [UInt32.toNat_sub_of_le _ _ hone, hupper]
      rfl
    rw [Option.some.injEq, Prod.mk.injEq, ← UInt32.toNat_inj, ← UInt32.toNat_inj, hsub, hlower]
    omega

/-- Every slot but the last can be read off its addresses. -/
theorem slot?_ofSlot {i : UInt32} (g : UInt32) (hi : i.toNat + 1 < 2 ^ 32) :
    (ofSlot i g).slot? = some (i, g) := by
  rw [slot?_eq_some, toNat_ofSlot, Nat.mod_eq_of_lt hi]

theorem eq_of_slot? {a b : Address} {s : UInt32 × UInt32} (ha : a.slot? = some s)
    (hb : b.slot? = some s) : a = b := by
  obtain ⟨i, g⟩ := s
  rw [slot?_eq_some] at ha hb
  have hword : a.word = b.word := UInt64.toNat_inj.mp (ha.trans hb.symm)
  exact congrArg Address.mk hword

theorem eq_iff_of_slot? {a b : Address} {s s' : UInt32 × UInt32} (ha : a.slot? = some s)
    (hb : b.slot? = some s') : b = a ↔ s' = s := by
  constructor
  · rintro rfl
    exact Option.some.inj (hb.symm.trans ha)
  · rintro rfl
    exact eq_of_slot? hb ha

/-- An address that names a slot is not null. -/
theorem ne_null_of_slot? {a : Address} {s : UInt32 × UInt32} (h : a.slot? = some s) :
    a.isNull = false := by
  obtain ⟨i, g⟩ := s
  rw [slot?_eq_some] at h
  have hne : a.word ≠ 0 := by
    intro hzero
    rw [hzero] at h
    have hpos : 0 < (i.toNat + 1) * 2 ^ 32 := by omega
    have hword : (0 : UInt64).toNat = 0 := rfl
    omega
  simpa [isNull] using hne

end Address

/-! ### What slots show -/

variable {α : Type}

/-- The value in a slot for those who know its generation. -/
def Slot.at? (s : Slot α) (g : UInt32) : Option α :=
  if s.generation = g then s.value else none

/-- The generations in which a slot was handed out: those before the current one, the current
    one if there is a value, and all of them once the slot is out of use. -/
def Slot.Issued (s : Slot α) (g : UInt32) : Prop :=
  g < s.generation ∨ (g = s.generation ∧ s.value.isSome) ∨ (s.generation = 0 ∧ s.value = none)

/-- A slot that moved on was handed out up to its last generation.  It is out of use once these
    start over. -/
theorem Slot.issued_next (g g' : UInt32) : (⟨g + 1, none⟩ : Slot α).Issued g' ↔ g' ≤ g := by
  have hissued : (⟨g + 1, none⟩ : Slot α).Issued g' ↔ g' < g + 1 ∨ g + 1 = 0 := by
    simp [Slot.Issued]
  have hg := g.toNat_lt
  have hg' := g'.toNat_lt
  have hnext : (g + 1).toNat = (g.toNat + 1) % 2 ^ 32 := UInt32.toNat_add g 1
  -- either the next generation is one more, or the last one was the greatest
  rw [hissued, ← UInt32.toNat_inj, UInt32.le_iff_toNat_le, UInt32.lt_iff_toNat_lt, hnext,
    UInt32.toNat_zero]
  omega

namespace AddressTable

variable {t after : AddressTable α} {a b : Address} {i j g : UInt32} {v : α}

/-- The addresses that a table has handed out. -/
def Issued (t : AddressTable α) (a : Address) : Prop :=
  ∃ i g slot, a.slot? = some (i, g) ∧ t.slots[i.toNat]? = some slot ∧ slot.Issued g

/-- What holds of a table: its slots can be numbered and addressed, and the free ones are
    those that are empty and have a generation left, each of them once. -/
structure Sound (t : AddressTable α) : Prop where
  bounded : t.slots.size < 2 ^ 32
  nodup : t.free.Nodup
  free : ∀ i, i ∈ t.free ↔ ∃ g, t.slots[i.toNat]? = some ⟨g, none⟩ ∧ g ≠ 0

theorem get?_eq (ha : a.slot? = some (i, g)) :
    t.get? a = t.slots[i.toNat]?.bind (·.at? g) := by
  unfold get? resolve?
  rw [ha]
  dsimp only
  cases t.slots[i.toNat]? with
  | none => rfl
  | some slot =>
    rw [Option.bind_some, Slot.at?]
    dsimp only
    split <;> rfl

/-- A value is where the slot of its address has it in the generation of the address. -/
theorem get?_eq_some :
    t.get? a = some v ↔ ∃ i g, a.slot? = some (i, g) ∧ t.slots[i.toNat]? = some ⟨g, some v⟩ := by
  constructor
  · intro h
    cases ha : a.slot? with
    | none => simp [get?, resolve?, ha] at h
    | some s =>
      obtain ⟨i, g⟩ := s
      rw [get?_eq ha] at h
      obtain ⟨slot, hslot, hvalue⟩ := Option.bind_eq_some_iff.mp h
      rw [Slot.at?] at hvalue
      split at hvalue
      · next hgeneration =>
        obtain ⟨generation, value⟩ := slot
        dsimp only at hgeneration hvalue
        subst hgeneration hvalue
        exact ⟨i, generation, rfl, hslot⟩
      · cases hvalue
  · rintro ⟨i, g, ha, hslot⟩
    simp [get?_eq ha, hslot, Slot.at?]

theorem issued_iff (ha : a.slot? = some (i, g)) :
    t.Issued a ↔ ∃ slot, t.slots[i.toNat]? = some slot ∧ slot.Issued g := by
  constructor
  · rintro ⟨i', g', slot, ha', hslot, hissued⟩
    rw [ha] at ha'
    cases ha'
    exact ⟨slot, hslot, hissued⟩
  · rintro ⟨slot, hslot, hissued⟩
    exact ⟨i, g, slot, ha, hslot, hissued⟩

/-- Which addresses of a slot were handed out. -/
theorem issued_iff_of_slot {slot : Slot α} (ha : a.slot? = some (i, g))
    (hslot : t.slots[i.toNat]? = some slot) : t.Issued a ↔ slot.Issued g := by
  rw [issued_iff ha, hslot]
  simp

/-- Addresses without a slot were not. -/
theorem not_issued_of_slot (ha : a.slot? = some (i, g)) (hslot : t.slots[i.toNat]? = none) :
    ¬t.Issued a := by
  rw [issued_iff ha, hslot]
  simp

/-- The address of a value was handed out. -/
theorem Issued.of_get? (h : t.get? a = some v) : t.Issued a := by
  obtain ⟨i, g, ha, hslot⟩ := get?_eq_some.mp h
  exact ⟨i, g, _, ha, hslot, .inr (.inl ⟨rfl, rfl⟩)⟩

theorem Issued.ne_null (h : t.Issued a) : a.isNull = false := by
  obtain ⟨i, g, slot, ha, -, -⟩ := h
  exact Address.ne_null_of_slot? ha

/-! ### Changing one slot -/

section

variable {new : Slot α}
  (hslots : ∀ n, after.slots[n]? = if n = i.toNat then some new else t.slots[n]?)

include hslots

theorem get?_change (hb : b.slot? = some (j, g)) :
    after.get? b = if j = i then new.at? g else t.get? b := by
  rw [get?_eq hb, get?_eq hb, hslots]
  by_cases hji : j = i
  · simp [hji]
  · have hne : j.toNat ≠ i.toNat := fun h => hji (UInt32.toNat_inj.mp h)
    simp [hji, hne]

theorem issued_change (hb : b.slot? = some (j, g)) :
    after.Issued b ↔ if j = i then new.Issued g else t.Issued b := by
  rw [issued_iff hb, issued_iff hb, hslots]
  by_cases hji : j = i
  · subst hji
    simp
  · have hne : j.toNat ≠ i.toNat := fun h => hji (UInt32.toNat_inj.mp h)
    simp [hji, hne]

/-- A change of one slot shows at the address of its generation only, if it leaves all
    other generations as they were. -/
theorem get?_change_at (ha : a.slot? = some (i, g)) {value : Option α} (hnew : new.at? g = value)
    (hothers : ∀ g', g' ≠ g → new.at? g' = t.slots[i.toNat]?.bind (·.at? g')) (b : Address) :
    after.get? b = if b = a then value else t.get? b := by
  cases hb : b.slot? with
  | none =>
    have hba : b ≠ a := by
      rintro rfl
      rw [ha] at hb
      cases hb
    rw [if_neg hba]
    simp [get?, resolve?, hb]
  | some s =>
    obtain ⟨j, g'⟩ := s
    rw [get?_change hslots hb]
    by_cases hba : b = a
    · subst hba
      rw [ha] at hb
      cases hb
      simp [hnew]
    · rw [if_neg hba]
      split
      · next hji =>
        subst hji
        have hne : g' ≠ g := by
          rintro rfl
          exact hba (Address.eq_of_slot? hb ha)
        rw [hothers g' hne, get?_eq hb]
      · rfl

end

/-! ### What the operations do -/

/-- Whether there is a slot for one more value. -/
def HasRoom (t : AddressTable α) : Prop := t.free = [] → t.slots.size + 1 < 2 ^ 32

/-- A value is stored in a free slot, or in a new one. -/
theorem insert_slot (h : t.Sound) (hroom : t.HasRoom) (v : α) :
    ∃ i g, i.toNat + 1 < 2 ^ 32 ∧ (t.insert v).2 = .ofSlot i g ∧
      (t.slots[i.toNat]? = some ⟨g, none⟩ ∧ g ≠ 0 ∨ t.slots[i.toNat]? = none ∧ g = 0) ∧
      (∀ n, (t.insert v).1.slots[n]? = if n = i.toNat then some ⟨g, some v⟩ else t.slots[n]?) ∧
      (t.insert v).1.slots.size < 2 ^ 32 ∧ (t.insert v).1.free = t.free.erase i := by
  have hbounded := h.bounded
  unfold insert
  split
  · next i rest hfree =>
    -- the slot that was freed last is used again, in its next generation
    obtain ⟨g, hslot, hg⟩ := (h.free i).mp (by simp [hfree])
    have hi : i.toNat < t.slots.size := (Array.getElem?_eq_some_iff.mp hslot).1
    refine ⟨i, g, by omega, by simp [hslot], .inl ⟨hslot, hg⟩, fun n => ?_, ?_, by simp [hfree]⟩
    · rw [Array.getElem?_modify]
      by_cases hn : i.toNat = n
      · subst hn
        simp [hslot]
      · simp [hn, Ne.symm hn]
    · rw [Array.size_modify]
      exact hbounded
  · next hfree =>
    -- a new slot starts with the first generation, and its number can be told from its address
    have hsize := hroom hfree
    have hi : (UInt32.ofNat t.slots.size).toNat = t.slots.size := by
      rw [UInt32.toNat_ofNat']
      exact Nat.mod_eq_of_lt hbounded
    refine ⟨UInt32.ofNat t.slots.size, 0, by omega, rfl, .inr ⟨by simp [hi], rfl⟩, fun n => ?_, ?_,
      by simp [hfree]⟩
    · rw [Array.getElem?_push, hi]
    · rw [Array.size_push]
      exact hsize

/-- What it means that a table is another one with a value stored at a new address. -/
structure Inserts (t : AddressTable α) (v : α) (after : AddressTable α) (a : Address) : Prop where
  sound : after.Sound
  fresh : ¬t.Issued a
  issued : ∀ b, after.Issued b ↔ b = a ∨ t.Issued b
  get? : ∀ b, after.get? b = if b = a then some v else t.get? b

/-- **Storing a value** puts it at an address that was never handed out before. -/
theorem insert_spec (h : t.Sound) (hroom : t.HasRoom) (v : α) :
    t.Inserts v (t.insert v).1 (t.insert v).2 := by
  obtain ⟨i, g, hi, haddress, hbefore, hslots, hsize, hfree⟩ := insert_slot h hroom v
  have ha : ((t.insert v).2).slot? = some (i, g) := by rw [haddress, Address.slot?_ofSlot g hi]
  constructor
  case sound =>
    refine ⟨hsize, hfree ▸ h.nodup.erase i, fun j => ?_⟩
    rw [hfree, h.nodup.mem_erase_iff, h.free, hslots]
    by_cases hji : j = i
    · simp [hji]
    · have hne : j.toNat ≠ i.toNat := fun heq => hji (UInt32.toNat_inj.mp heq)
      simp [hji, hne]
  case fresh =>
    obtain ⟨hvacant, hg⟩ | ⟨hnone, -⟩ := hbefore
    · simp [issued_iff_of_slot ha hvacant, Slot.Issued, hg]
    · exact not_issued_of_slot ha hnone
  case issued =>
    intro b
    cases hb : b.slot? with
    | none =>
      have hba : b ≠ (t.insert v).2 := by
        rintro rfl
        rw [ha] at hb
        cases hb
      simp [Issued, hb, hba]
    | some s =>
      obtain ⟨j, g'⟩ := s
      rw [issued_change hslots hb, Address.eq_iff_of_slot? ha hb, Prod.mk.injEq]
      by_cases hji : j = i
      · subst hji
        -- of this slot all generations before the one that is handed out now were handed out
        have hold : t.Issued b ↔ g' < g := by
          obtain ⟨hvacant, hg⟩ | ⟨hnone, hg⟩ := hbefore
          · simp [issued_iff_of_slot hb hvacant, Slot.Issued, hg]
          · simp [not_issued_of_slot hb hnone, hg]
        simp [Slot.Issued, hold, or_comm]
      · simp [hji]
  case get? =>
    refine get?_change_at hslots ha (by simp [Slot.at?]) fun g' hg' => ?_
    obtain ⟨hvacant, -⟩ | ⟨hnone, -⟩ := hbefore
    · simp [hvacant, Slot.at?, Ne.symm hg']
    · simp [hnone, Slot.at?, Ne.symm hg']

/-- The value at an address is changed in its slot. -/
theorem update_slot (hget : t.get? a = some v) (f : α → α) :
    ∃ i g, a.slot? = some (i, g) ∧ t.slots[i.toNat]? = some ⟨g, some v⟩ ∧
      (∀ n, (t.update a f).slots[n]? =
        if n = i.toNat then some ⟨g, some (f v)⟩ else t.slots[n]?) ∧
      (t.update a f).slots.size = t.slots.size ∧ (t.update a f).free = t.free ∧
      (t.update a f).size = t.size := by
  obtain ⟨i, g, ha, hslot⟩ := get?_eq_some.mp hget
  have hresolve : t.resolve? a = some (i, ⟨g, some v⟩) := by simp [resolve?, ha, hslot]
  have hupdate : t.update a f =
      { t with
        slots := t.slots.modify i.toNat fun slot => { slot with value := slot.value.map f } } := by
    rw [update, hresolve]
  rw [hupdate]
  refine ⟨i, g, ha, hslot, fun n => ?_, Array.size_modify, rfl, rfl⟩
  rw [Array.getElem?_modify]
  by_cases hn : i.toNat = n
  · subst hn
    simp [hslot]
  · simp [hn, Ne.symm hn]

/-- **Changing a value** leaves all other addresses alone. -/
theorem update_spec (h : t.Sound) (hget : t.get? a = some v) (f : α → α) :
    (t.update a f).Sound ∧ (∀ b, (t.update a f).Issued b ↔ t.Issued b) ∧
      ∀ b, (t.update a f).get? b = if b = a then some (f v) else t.get? b := by
  obtain ⟨i, g, ha, hslot, hslots, hsize, hfree, -⟩ := update_slot hget f
  refine ⟨⟨?_, hfree ▸ h.nodup, fun j => ?_⟩, fun b => ?_, ?_⟩
  · rw [hsize]
    exact h.bounded
  · rw [hfree, h.free, hslots]
    split
    · next hji => simp [hji, hslot]
    · rfl
  · cases hb : b.slot? with
    | none => simp [Issued, hb]
    | some s =>
      obtain ⟨j, g'⟩ := s
      rw [issued_change hslots hb]
      split
      · next hji =>
        subst hji
        simp [issued_iff_of_slot hb hslot, Slot.Issued]
      · rfl
  · exact get?_change_at hslots ha (by simp [Slot.at?]) fun g' hg' => by
      simp [hslot, Slot.at?, Ne.symm hg']

/-- Where nothing is, there is nothing to change. -/
theorem update_of_none (hget : t.get? a = none) (f : α → α) : t.update a f = t := by
  unfold update
  split
  · next i slot hresolve =>
    have hempty : slot.value = none := by simpa [get?, hresolve] using hget
    have hslot : t.slots[i.toNat]? = some slot := by
      unfold resolve? at hresolve
      split at hresolve
      · cases hresolve
      · split at hresolve
        · cases hresolve
        · next hslot =>
          split at hresolve
          · cases hresolve
            exact hslot
          · cases hresolve
    -- the slot is there, but it is empty
    have hslots : (t.slots.modify i.toNat fun slot => { slot with value := slot.value.map f }) =
        t.slots := by
      apply Array.ext_getElem?
      intro n
      rw [Array.getElem?_modify]
      split
      · next hn =>
        subst hn
        obtain ⟨g, value⟩ := slot
        dsimp only at hempty
        subst hempty
        rw [hslot]
        rfl
      · rfl
    rw [hslots]
  · rfl

/-- A value that is taken out leaves its slot to the next generation, if there is one. -/
theorem remove_slot (hget : t.get? a = some v) :
    ∃ i g, a.slot? = some (i, g) ∧ t.slots[i.toNat]? = some ⟨g, some v⟩ ∧
      (t.remove a).2 = some v ∧
      (∀ n, (t.remove a).1.slots[n]? =
        if n = i.toNat then some ⟨g + 1, none⟩ else t.slots[n]?) ∧
      (t.remove a).1.slots.size = t.slots.size ∧
      (t.remove a).1.free = (if g + 1 = 0 then t.free else i :: t.free) ∧
      (t.remove a).1.size = t.size - 1 := by
  obtain ⟨i, g, ha, hslot⟩ := get?_eq_some.mp hget
  have hresolve : t.resolve? a = some (i, ⟨g, some v⟩) := by simp [resolve?, ha, hslot]
  have hremove : t.remove a =
      ({ slots := t.slots.modify i.toNat fun _ => ⟨g + 1, none⟩
         free := if g + 1 = 0 then t.free else i :: t.free
         size := t.size - 1 }, some v) := by
    rw [remove, hresolve]
  rw [hremove]
  refine ⟨i, g, ha, hslot, rfl, fun n => ?_, Array.size_modify, rfl, rfl⟩
  rw [Array.getElem?_modify]
  by_cases hn : i.toNat = n
  · subst hn
    simp [hslot]
  · simp [hn, Ne.symm hn]

/-- **Taking a value out** leaves all other addresses alone, and its own address is not free. -/
theorem remove_spec (h : t.Sound) (hget : t.get? a = some v) :
    (t.remove a).2 = some v ∧ (t.remove a).1.Sound ∧
      (∀ b, (t.remove a).1.Issued b ↔ t.Issued b) ∧
      ∀ b, (t.remove a).1.get? b = if b = a then none else t.get? b := by
  obtain ⟨i, g, ha, hslot, hvalue, hslots, hsize, hfree, -⟩ := remove_slot hget
  -- a slot with a value is not free, so it does not get into the list twice
  have hnot : i ∉ t.free := by
    intro hmem
    obtain ⟨g', hvacant, -⟩ := (h.free i).mp hmem
    rw [hslot] at hvacant
    cases hvacant
  refine ⟨hvalue, ⟨?_, ?_, fun j => ?_⟩, fun b => ?_, ?_⟩
  · rw [hsize]
    exact h.bounded
  · rw [hfree]
    split
    · exact h.nodup
    · exact List.nodup_cons.mpr ⟨hnot, h.nodup⟩
  · rw [hfree, hslots]
    by_cases hji : j = i
    · subst hji
      by_cases hg : g + 1 = 0 <;> simp [hg, hnot]
    · have hne : j.toNat ≠ i.toNat := fun heq => hji (UInt32.toNat_inj.mp heq)
      rw [if_neg hne, ← h.free]
      split <;> simp [hji]
  · cases hb : b.slot? with
    | none => simp [Issued, hb]
    | some s =>
      obtain ⟨j, g'⟩ := s
      rw [issued_change hslots hb]
      split
      · next hji =>
        subst hji
        rw [Slot.issued_next]
        simp [issued_iff_of_slot hb hslot, Slot.Issued, UInt32.le_iff_lt_or_eq]
      · rfl
  · exact get?_change_at hslots ha (by simp [Slot.at?]) fun g' hg' => by
      simp [hslot, Slot.at?, Ne.symm hg']

/-- Where nothing is, nothing can be taken out. -/
theorem remove_of_none (hget : t.get? a = none) : t.remove a = (t, none) := by
  unfold remove
  split
  · next i g value hresolve =>
    simp [get?, hresolve] at hget
  · rfl

end AddressTable

end ForeignArena
