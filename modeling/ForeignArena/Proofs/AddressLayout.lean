import ForeignArena.Proofs.AddressTables
import Mathlib.Data.Set.Function

namespace ForeignArena

/-!
# The layout of addresses is one-to-one

A slot that is not the last, in any of its generations, has an address of its own, and the
addresses with something in their upper half are all addresses of that kind.

* `Address.LaidOut` — what an address is that a slot has in a generation;
* `Address.Names` — what can be read off an address, whoever made it up;
* `Address.layout_bijective` — the two are inverse to each other;
* `Address.slot?_ofSlot_iff` — no more slots could be addressed.
-/

namespace Address

variable {a : Address} {i g : UInt32}

/-! ### From slots to addresses -/

/-- What the address of a slot in a generation is: nothing is carried out of the word when it
    is made, it is not null, and it tells the slot and the generation. -/
structure LaidOut (i g : UInt32) : Prop where
  /-- The number that goes into the upper half is one more than that of the slot. -/
  raised : (i.toUInt64 + 1).toNat = i.toNat + 1
  /-- All of its bits get there. -/
  shifted : ((i.toUInt64 + 1) <<< 32).toNat = (i.toNat + 1) * 2 ^ 32
  /-- The generation is added to it. -/
  word : (ofSlot i g).word.toNat = (i.toNat + 1) * 2 ^ 32 + g.toNat
  upper : 2 ^ 32 ≤ (ofSlot i g).word.toNat
  ne_null : (ofSlot i g).isNull = false
  slot? : (ofSlot i g).slot? = some (i, g)

theorem laidOut (g : UInt32) (hi : i.toNat < 2 ^ 32 - 1) : LaidOut i g := by
  have hnext : i.toNat + 1 < 2 ^ 32 := by omega
  have hraised : (i.toUInt64 + 1).toNat = i.toNat + 1 := by
    rw [UInt64.toNat_add, UInt32.toNat_toUInt64]
    exact Nat.mod_eq_of_lt (Nat.lt_trans hnext (by decide))
  have hword : (ofSlot i g).word.toNat = (i.toNat + 1) * 2 ^ 32 + g.toNat := by
    rw [toNat_ofSlot, Nat.mod_eq_of_lt hnext]
  have hslot := slot?_ofSlot g hnext
  constructor
  case raised => exact hraised
  case shifted =>
    rw [UInt64.toNat_shiftLeft, hraised, Nat.shiftLeft_eq]
    show (i.toNat + 1) * 2 ^ 32 % 2 ^ 64 = (i.toNat + 1) * 2 ^ 32
    exact Nat.mod_eq_of_lt (by omega)
  case word => exact hword
  case upper => omega
  case ne_null => exact ne_null_of_slot? hslot
  case slot? => exact hslot

/-! ### From addresses to slots -/

/-- An address names no slot exactly if its upper half is empty. -/
theorem slot?_eq_none : a.slot? = none ↔ a.word.toNat < 2 ^ 32 := by
  have ha := a.word.toNat_lt
  constructor
  · intro hnone
    by_contra hupper
    -- one less than the upper half is a slot, and the lower half is one of its generations
    have hi : (UInt32.ofNat (a.word.toNat / 2 ^ 32 - 1)).toNat = a.word.toNat / 2 ^ 32 - 1 := by
      rw [UInt32.toNat_ofNat']
      exact Nat.mod_eq_of_lt (by omega)
    have hg : (UInt32.ofNat a.word.toNat).toNat = a.word.toNat % 2 ^ 32 := UInt32.toNat_ofNat'
    have hnames : a.slot? =
        some (UInt32.ofNat (a.word.toNat / 2 ^ 32 - 1), UInt32.ofNat a.word.toNat) := by
      rw [slot?_eq_some, hi, hg]
      omega
    rw [hnone] at hnames
    cases hnames
  · intro hlower
    cases hslot : a.slot? with
    | none => rfl
    | some s =>
      obtain ⟨i, g⟩ := s
      rw [slot?_eq_some] at hslot
      omega

/-- The slot that an address names is not the last. -/
theorem slot_lt (h : a.slot? = some (i, g)) : i.toNat < 2 ^ 32 - 1 := by
  have ha := a.word.toNat_lt
  rw [slot?_eq_some] at h
  omega

/-- It is the address of what it names. -/
theorem ofSlot_of_slot? (h : a.slot? = some (i, g)) : ofSlot i g = a :=
  eq_of_slot? (laidOut g (slot_lt h)).slot? h

/-- What an address names, be it one that was handed out or one that was made up: nothing if
    its upper half is empty, and otherwise one slot in one generation. -/
structure Names (a : Address) : Prop where
  none_iff : a.slot? = none ↔ a.word.toNat < 2 ^ 32
  ofSlot : ∀ i g, a.slot? = some (i, g) → i.toNat < 2 ^ 32 - 1 ∧ Address.ofSlot i g = a
  existsUnique : 2 ^ 32 ≤ a.word.toNat →
    ∃! s : UInt32 × UInt32, s.1.toNat < 2 ^ 32 - 1 ∧ Address.ofSlot s.1 s.2 = a

theorem names (a : Address) : a.Names := by
  constructor
  case none_iff => exact slot?_eq_none
  case ofSlot =>
    intro i g h
    exact ⟨slot_lt h, ofSlot_of_slot? h⟩
  case existsUnique =>
    intro hupper
    obtain ⟨⟨i, g⟩, hslot⟩ : ∃ s, a.slot? = some s := by
      rw [← Option.ne_none_iff_exists', ne_eq, slot?_eq_none]
      omega
    refine ⟨(i, g), ⟨slot_lt hslot, ofSlot_of_slot? hslot⟩, ?_⟩
    rintro ⟨j, g'⟩ ⟨hj, rfl⟩
    -- the slot and the generation are read off the address again
    rw [(laidOut g' hj).slot?] at hslot
    exact Option.some.inj hslot

/-! ### The bijection -/

/-- **Slots and addresses correspond.**  Every slot but the last has an address of its own in
    every generation, which is exact, not null and leads back to them.  Every address with a
    number in its upper half is that of one slot and generation, and no other address names
    any.  So slots but the last, with their generations, and such addresses are in bijection. -/
theorem layout_bijective :
    (∀ i g : UInt32, i.toNat < 2 ^ 32 - 1 → LaidOut i g) ∧ (∀ a : Address, a.Names) ∧
      Set.BijOn (fun s : UInt32 × UInt32 => ofSlot s.1 s.2)
        {s | s.1.toNat < 2 ^ 32 - 1} {a | 2 ^ 32 ≤ a.word.toNat} := by
  refine ⟨fun i g hi => laidOut g hi, names, ?_, ?_, ?_⟩
  · rintro ⟨i, g⟩ hi
    exact (laidOut g hi).upper
  · rintro ⟨i, g⟩ hi ⟨j, g'⟩ hj heq
    have hslot := (laidOut g hi).slot?
    rw [show ofSlot i g = ofSlot j g' from heq, (laidOut g' hj).slot?] at hslot
    exact (Option.some.inj hslot).symm
  · intro a ha
    obtain ⟨s, hs, -⟩ := (names a).existsUnique ha
    exact ⟨s, hs.1, hs.2⟩

/-- The first slot starts at the least address that is not below the boundary, and the last
    one with an address ends at the greatest address of all. -/
theorem layout_bijective_ends :
    (ofSlot 0 0).word.toNat = 2 ^ 32 ∧ (ofSlot 0 0).slot? = some (0, 0) ∧
      (ofSlot 4294967294 4294967295).word.toNat = 2 ^ 64 - 1 ∧
      (ofSlot 4294967294 4294967295).slot? = some (4294967294, 4294967295) := by
  have hfirst := layout_bijective.1 0 0 (by decide)
  have hgreatest := layout_bijective.1 4294967294 4294967295 (by decide)
  exact ⟨hfirst.word, hfirst.slot?, hgreatest.word, hgreatest.slot?⟩

/-- The bound is exact: for the last slot nothing is left in the upper half of its addresses,
    so that they are its generations only, and name no slot. -/
theorem slot?_ofSlot_iff (i g : UInt32) :
    (ofSlot i g).slot? = some (i, g) ↔ i.toNat < 2 ^ 32 - 1 :=
  ⟨slot_lt, fun hi => (laidOut g hi).slot?⟩

end Address

end ForeignArena
