import ForeignArena.Proofs.AddressTables
import ForeignArena.Proofs.Sequences
import Mathlib.Data.List.Perm.Basic
import Mathlib.Logic.Function.Basic
import Mathlib.Order.Monotone.Basic

namespace ForeignArena

/-!
# Address tables are directories

A directory is what users of an address table may think it is: a finite map from
addresses to values, whose addresses are given out once.  It knows nothing of slots,
generations and free lists.  Whatever a table is asked, about addresses it gave out, has
taken back or never saw, it answers as the directory does.

* `AddressTable.Use`, `AddressTable.perform` — the ways in which a table is used;
* `Directory`, `Directory.note`, `Directory.Answers` — what the answers so far amount to, and
  what may be answered next;
* `AddressTable.Represents` — a table that holds what a directory says;
* `AddressTable.Represents.perform` — each use keeps it so;
* `AddressTable.refines_directory` — and so do all of them.
-/

/-! ### Uses and answers -/

namespace AddressTable

/-- The ways in which a table is used. -/
inductive Use (α : Type) where
  | insert (v : α)
  | get (a : Address)
  /-- Look a value up in order to change it in place. -/
  | change (a : Address) (f : α → α)
  | remove (a : Address)

/-- An answer is a new address, or the value that was found. -/
inductive Answer (α : Type) where
  | address (a : Address)
  | value (found : Option α)

variable {α : Type}

/-- Use a table once. -/
def perform (t : AddressTable α) : Use α → AddressTable α × Answer α
  | .insert v => ((t.insert v).1, .address (t.insert v).2)
  | .get a => (t, .value (t.get? a))
  | .change a f => (t.update a f, .value (t.get? a))
  | .remove a => ((t.remove a).1, .value (t.remove a).2)

/-- A table in use, empty at first. -/
def inUse : Component (AddressTable α) (Use α) (Answer α) := ⟨{}, perform⟩

end AddressTable

/-! ### Directories -/

open AddressTable (Use Answer)

variable {α : Type}

/-- What the answers of a table amount to: the addresses it has given out for new values, those
    whose value it has given back, and what was last stored at each address that has a value. -/
structure Directory (α : Type) where
  given : List Address := []
  taken : List Address := []
  value : Address → Option α := fun _ => none

namespace Directory

/-- Note what was asked and answered. -/
def note (d : Directory α) : Use α × Answer α → Directory α
  | (.insert v, .address a) =>
    { d with given := d.given ++ [a], value := Function.update d.value a (some v) }
  | (.change a f, .value (some v)) => { d with value := Function.update d.value a (some (f v)) }
  | (.remove a, .value (some _)) =>
    { d with taken := d.taken ++ [a], value := Function.update d.value a none }
  | _ => d

/-- What a directory lets a table answer: for a new value an address that is not null and was
    never given out, and for an address the value that is on record there. -/
def Answers (d : Directory α) : Use α → Answer α → Prop
  | .insert _, .address a => a.isNull = false ∧ a ∉ d.given
  | .get a, .value found => found = d.value a
  | .change a _, .value found => found = d.value a
  | .remove a, .value found => found = d.value a
  | _, _ => False

/-- The addresses that were given out and not taken back. -/
def present (d : Directory α) : List Address :=
  d.given.filter (· ∉ d.taken)

/-- The directory of the first uses of a table. -/
def ofUses (uses : Nat → Use α) (n : Nat) : Directory α :=
  (AddressTable.inUse.transcript uses n).foldl note {}

theorem ofUses_succ (uses : Nat → Use α) (n : Nat) :
    ofUses uses (n + 1) =
      (ofUses uses n).note (uses n, AddressTable.inUse.answer uses n) := by
  rw [ofUses, Component.transcript_succ, List.foldl_append]
  rfl

/-- Addresses that were given out stay on record. -/
theorem given_subset_note (d : Directory α) (x : Use α × Answer α) :
    d.given ⊆ (d.note x).given := by
  intro a ha
  unfold note
  split
  · exact List.mem_append_left _ ha
  · exact ha
  · exact ha
  · exact ha

end Directory

namespace AddressTable

variable {t after : AddressTable α} {d : Directory α} {a : Address} {v : α}

/-! ### Counting the values -/

/-- The number of slots that have a value. -/
def full (t : AddressTable α) : Nat :=
  t.slots.countP fun slot => slot.value.isSome

/-- A slot that gets a value, or loses it, counts. -/
theorem full_change {i : UInt32} {old new : Slot α}
    (hslots : ∀ n, after.slots[n]? = if n = i.toNat then some new else t.slots[n]?)
    (hold : t.slots[i.toNat]? = some old) :
    after.full + old.value.toList.length = t.full + new.value.toList.length := by
  obtain ⟨hi, heq⟩ := Array.getElem?_eq_some_iff.mp hold
  have hset : after.slots = t.slots.set i.toNat new := by
    apply Array.ext_getElem?
    intro n
    rw [hslots, Array.getElem?_set]
    by_cases hn : n = i.toNat
    · simp [hn]
    · simp [hn, Ne.symm hn]
  rw [full, full, hset, Array.countP_set, heq]
  obtain ⟨g, value⟩ := old
  obtain ⟨g', value'⟩ := new
  cases value with
  | none => cases value' <;> simp
  | some x =>
    -- the old value is one of those that are counted, so one can be taken off
    have hpos : 0 < t.slots.countP fun slot => slot.value.isSome :=
      Array.countP_pos_iff.mpr ⟨⟨g, some x⟩, by simp [← heq], rfl⟩
    cases value' <;> simp <;> omega

/-- So does one that a new slot has from the beginning. -/
theorem full_grow {i : UInt32} {new : Slot α}
    (hslots : ∀ n, after.slots[n]? = if n = i.toNat then some new else t.slots[n]?)
    (hnone : t.slots[i.toNat]? = none) : after.full = t.full + new.value.toList.length := by
  have hle : t.slots.size ≤ i.toNat := Array.getElem?_eq_none_iff.mp hnone
  -- there is no gap before the new slot
  have hsize : i.toNat = t.slots.size := by
    by_contra hne
    have hgap : after.slots[t.slots.size]? = none := by
      rw [hslots, if_neg (Ne.symm hne)]
      exact Array.getElem?_eq_none_iff.mpr (Nat.le_refl _)
    have hnew : after.slots[i.toNat]? = some new := by rw [hslots, if_pos rfl]
    have hlt := (Array.getElem?_eq_some_iff.mp hnew).1
    have hge := Array.getElem?_eq_none_iff.mp hgap
    omega
  have hpush : after.slots = t.slots.push new := by
    apply Array.ext_getElem?
    intro n
    rw [hslots, Array.getElem?_push, hsize]
  rw [full, full, hpush, Array.countP_push]
  obtain ⟨g, value⟩ := new
  cases value <;> rfl

theorem full_insert (h : t.Sound) (hroom : t.HasRoom) (v : α) :
    (t.insert v).1.full = t.full + 1 := by
  obtain ⟨i, g, -, -, hbefore, hslots, -, -⟩ := insert_slot h hroom v
  obtain ⟨hvacant, -⟩ | ⟨hnone, -⟩ := hbefore
  · exact full_change hslots hvacant
  · exact full_grow hslots hnone

theorem full_update (hget : t.get? a = some v) (f : α → α) : (t.update a f).full = t.full := by
  obtain ⟨i, g, -, hslot, hslots, -⟩ := update_slot hget f
  have hfull : (t.update a f).full + 1 = t.full + 1 := full_change hslots hslot
  exact Nat.add_right_cancel hfull

theorem full_remove (hget : t.get? a = some v) : (t.remove a).1.full + 1 = t.full := by
  obtain ⟨i, g, -, hslot, -, hslots, -⟩ := remove_slot hget
  exact full_change hslots hslot

/-! ### Slots come and stay -/

/-- Slots are never given up. -/
theorem slots_le_perform (t : AddressTable α) (use : Use α) :
    t.slots.size ≤ (t.perform use).1.slots.size := by
  cases use with
  | insert v =>
    show t.slots.size ≤ (t.insert v).1.slots.size
    unfold insert
    split
    · simp
    · simp
  | get a => exact Nat.le_refl _
  | change a f =>
    show t.slots.size ≤ (t.update a f).slots.size
    unfold update
    split
    · simp
    · exact Nat.le_refl _
  | remove a =>
    show t.slots.size ≤ (t.remove a).1.slots.size
    unfold remove
    split
    · simp
    · exact Nat.le_refl _

/-- A table that can number its slots after it stored a value had room for it. -/
theorem hasRoom_of_insert (hslots : (t.insert v).1.slots.size < 2 ^ 32) : t.HasRoom := by
  intro hfree
  unfold insert at hslots
  rw [hfree] at hslots
  simpa using hslots

/-! ### One use -/

/-- **A table represents a directory** if it has what is on record there, and its own records
    are in order. -/
structure Represents (t : AddressTable α) (d : Directory α) : Prop where
  sound : t.Sound
  full : t.size = t.full
  get? : ∀ a, t.get? a = d.value a
  issued : ∀ a, t.Issued a ↔ a ∈ d.given
  given : d.given.Nodup
  taken : d.taken.Nodup
  subset : ∀ a ∈ d.taken, a ∈ d.given
  present : ∀ a, (d.value a).isSome ↔ a ∈ d.given ∧ a ∉ d.taken
  size : t.size + d.taken.length = d.given.length

theorem represents_empty : ({} : AddressTable α).Represents {} where
  sound := ⟨Nat.two_pow_pos 32, .nil, by simp⟩
  full := rfl
  get? a := by
    unfold AddressTable.get? resolve?
    cases a.slot? <;> simp
  issued a := by simp [Issued]
  given := .nil
  taken := .nil
  subset a ha := by cases ha
  present a := by simp
  size := rfl

namespace Represents

theorem insert (h : t.Represents d) (hroom : t.HasRoom) (v : α) :
    d.Answers (.insert v) (.address (t.insert v).2) ∧
      (t.insert v).1.Represents (d.note (.insert v, .address (t.insert v).2)) := by
  have hinsert := insert_spec h.sound hroom v
  have hfull := full_insert h.sound hroom v
  have hsize : (t.insert v).1.size = t.size + 1 := by
    unfold AddressTable.insert
    split <;> rfl
  generalize t.insert v = inserted at hinsert hfull hsize ⊢
  obtain ⟨after, a⟩ := inserted
  dsimp only at hinsert hfull hsize ⊢
  have hnew : a ∉ d.given := fun hmem => hinsert.fresh ((h.issued a).mpr hmem)
  have hnull : a.isNull = false := ((hinsert.issued a).mpr (.inl rfl)).ne_null
  refine ⟨⟨hnull, hnew⟩, ?_⟩
  constructor
  case sound => exact hinsert.sound
  case full => rw [hsize, hfull, h.full]
  case get? =>
    intro b
    rw [hinsert.get?]
    by_cases hb : b = a
    · simp [Directory.note, hb]
    · simp [Directory.note, hb, h.get?]
  case issued =>
    intro b
    rw [hinsert.issued, h.issued]
    simp [Directory.note, or_comm]
  case given =>
    refine List.nodup_append.mpr ⟨h.given, by simp, ?_⟩
    rintro b hb c hc rfl
    rw [List.mem_singleton.mp hc] at hb
    exact hnew hb
  case taken => exact h.taken
  case subset =>
    intro b hb
    exact List.mem_append_left _ (h.subset b hb)
  case present =>
    intro b
    have htaken : a ∉ d.taken := fun hmem => hnew (h.subset a hmem)
    by_cases hb : b = a
    · subst hb
      simp [Directory.note, htaken]
    · simp [Directory.note, hb, h.present]
  case size =>
    have hcount := h.size
    simp only [Directory.note, List.length_append, List.length_singleton]
    omega

theorem change (h : t.Represents d) (a : Address) (f : α → α) :
    d.Answers (.change a f) (.value (t.get? a)) ∧
      (t.update a f).Represents (d.note (.change a f, .value (t.get? a))) := by
  refine ⟨h.get? a, ?_⟩
  cases hget : t.get? a with
  | none =>
    rw [update_of_none hget]
    exact h
  | some v =>
    obtain ⟨hsound, hissued, hvalue⟩ := update_spec h.sound hget f
    have hsize : (t.update a f).size = t.size := by
      obtain ⟨-, -, -, -, -, -, -, hsize⟩ := update_slot hget f
      exact hsize
    have hthere : a ∈ d.given ∧ a ∉ d.taken := by
      rw [← h.present, ← h.get?, hget]
      rfl
    constructor
    case sound => exact hsound
    case full => rw [hsize, full_update hget, h.full]
    case get? =>
      intro b
      rw [hvalue]
      by_cases hb : b = a
      · simp [Directory.note, hb]
      · simp [Directory.note, hb, h.get?]
    case issued =>
      intro b
      rw [hissued, h.issued]
      rfl
    case given => exact h.given
    case taken => exact h.taken
    case subset => exact h.subset
    case present =>
      intro b
      by_cases hb : b = a
      · subst hb
        simp [Directory.note, hthere]
      · simp [Directory.note, hb, h.present]
    case size =>
      rw [hsize]
      exact h.size

theorem remove (h : t.Represents d) (a : Address) :
    d.Answers (.remove a) (.value (t.remove a).2) ∧
      (t.remove a).1.Represents (d.note (.remove a, .value (t.remove a).2)) := by
  cases hget : t.get? a with
  | none =>
    rw [remove_of_none hget]
    exact ⟨hget.symm.trans (h.get? a), h⟩
  | some v =>
    obtain ⟨hanswer, hsound, hissued, hvalue⟩ := remove_spec h.sound hget
    have hsize : (t.remove a).1.size = t.size - 1 := by
      obtain ⟨-, -, -, -, -, -, -, -, hsize⟩ := remove_slot hget
      exact hsize
    have hfull := full_remove hget
    have hthere : a ∈ d.given ∧ a ∉ d.taken := by
      rw [← h.present, ← h.get?, hget]
      rfl
    rw [hanswer]
    refine ⟨hget.symm.trans (h.get? a), ?_⟩
    constructor
    case sound => exact hsound
    case full =>
      have := h.full
      omega
    case get? =>
      intro b
      rw [hvalue]
      by_cases hb : b = a
      · simp [Directory.note, hb]
      · simp [Directory.note, hb, h.get?]
    case issued =>
      intro b
      rw [hissued, h.issued]
      rfl
    case given => exact h.given
    case taken =>
      refine List.nodup_append.mpr ⟨h.taken, by simp, ?_⟩
      rintro b hb c hc rfl
      rw [List.mem_singleton.mp hc] at hb
      exact hthere.2 hb
    case subset =>
      intro b hb
      obtain hb | hb := List.mem_append.mp hb
      · exact h.subset b hb
      · rw [List.mem_singleton.mp hb]
        exact hthere.1
    case present =>
      intro b
      by_cases hb : b = a
      · subst hb
        simp [Directory.note]
      · simp [Directory.note, hb, h.present]
    case size =>
      -- there was a value, so the count does not start below zero
      have hcount := h.size
      have hpos := h.full
      simp only [Directory.note, List.length_append, List.length_singleton]
      omega

/-- **One use**: the answer is one of the directory's, and afterwards the table has what is
    noted there. -/
theorem perform (h : t.Represents d) (use : Use α)
    (hslots : (t.perform use).1.slots.size < 2 ^ 32) :
    d.Answers use (t.perform use).2 ∧
      (t.perform use).1.Represents (d.note (use, (t.perform use).2)) := by
  cases use with
  | insert v => exact h.insert (hasRoom_of_insert hslots) v
  | get a => exact ⟨h.get? a, h⟩
  | change a f => exact h.change a f
  | remove a => exact h.remove a

/-- The values are as many as the addresses that were given out and not taken back. -/
theorem size_eq (h : t.Represents d) : t.size = d.present.length := by
  have hperm : (d.given.filter (· ∈ d.taken)).Perm d.taken := by
    rw [List.perm_ext_iff_of_nodup (h.given.filter _) h.taken]
    intro a
    rw [List.mem_filter, decide_eq_true_eq]
    exact ⟨fun hmem => hmem.2, fun hmem => ⟨h.subset a hmem, hmem⟩⟩
  have hsplit := List.length_eq_length_filter_add (l := d.given) (· ∈ d.taken)
  have hcount := h.size
  have hlength := hperm.length_eq
  have hpresent : d.present = d.given.filter fun a => !decide (a ∈ d.taken) := by
    simp [Directory.present]
  rw [hpresent]
  omega

end Represents

/-! ### All uses -/

section

variable (uses : Nat → Use α)

/-- Slots are only added. -/
theorem slots_mono : Monotone fun n => (inUse.after uses n).slots.size :=
  monotone_nat_of_le_succ fun n => slots_le_perform (inUse.after uses n) (uses n)

/-- A table in use represents the directory of its answers. -/
theorem represents_ofUses {reach : Nat} (hslots : (inUse.after uses reach).slots.size < 2 ^ 32) :
    ∀ n ≤ reach, (inUse.after uses n).Represents (.ofUses uses n) := by
  intro n
  induction n with
  | zero =>
    intro _
    exact represents_empty
  | succ n ih =>
    intro hn
    have hbefore := ih (Nat.le_of_lt hn)
    rw [Directory.ofUses_succ]
    exact (hbefore.perform (uses n) (Nat.lt_of_le_of_lt (slots_mono uses hn) hslots)).2

/-- What holds of a table after its first uses, and of each of these uses. -/
structure Refines (n : Nat) : Prop where
  /-- Everything that was asked was answered as the directory of the answers until then allows. -/
  answers : ∀ k < n, (Directory.ofUses uses k).Answers (uses k) (inUse.answer uses k)
  /-- New values got addresses that are not null and that were not answered before. -/
  fresh : ∀ k < n, ∀ v, uses k = .insert v → ∃ a, inUse.answer uses k = .address a ∧
    a.isNull = false ∧ ∀ j < k, inUse.answer uses j ≠ .address a
  /-- At each address there is what was last stored there, -/
  found : ∀ a, (inUse.after uses n).get? a = (Directory.ofUses uses n).value a
  /-- if it was given out and not taken back. -/
  present : ∀ a, ((Directory.ofUses uses n).value a).isSome ↔
    a ∈ (Directory.ofUses uses n).given ∧ a ∉ (Directory.ofUses uses n).taken
  /-- Just these addresses can be taken back.  Who does gets what is stored there, -/
  removed : ∀ a, ((inUse.after uses n).remove a).2 = (Directory.ofUses uses n).value a
  /-- and finds everything as it was at all other addresses. -/
  spared : ∀ a b, b ≠ a →
    ((inUse.after uses n).remove a).1.get? b = (inUse.after uses n).get? b
  /-- Where nothing is stored, nothing changes. -/
  missed : ∀ a, (Directory.ofUses uses n).value a = none →
    ((inUse.after uses n).remove a).1 = inUse.after uses n ∧
      ∀ f, (inUse.after uses n).update a f = inUse.after uses n
  /-- The size is the number of addresses that were given out and not taken back. -/
  size : (inUse.after uses n).size = (Directory.ofUses uses n).present.length
  /-- It is the number of slots with a value. -/
  full : (inUse.after uses n).size = (inUse.after uses n).full
  /-- No slot is free twice, -/
  nodup : (inUse.after uses n).free.Nodup
  /-- and the free slots are the empty ones that have a generation left. -/
  free : ∀ i : UInt32, i ∈ (inUse.after uses n).free ↔
    ∃ g, (inUse.after uses n).slots[i.toNat]? = some ⟨g, none⟩ ∧ g ≠ 0

end

/-- Only a new value is answered with an address, and the directory has it from then on. -/
theorem mem_given_of_answer {uses : Nat → Use α} {j k : Nat} (hjk : j < k)
    (hanswer : inUse.answer uses j = .address a) : a ∈ (Directory.ofUses uses k).given := by
  induction k with
  | zero => exact absurd hjk (Nat.not_lt_zero j)
  | succ k ih =>
    rw [Directory.ofUses_succ]
    obtain hlt | rfl := Nat.lt_succ_iff_lt_or_eq.mp hjk
    · exact Directory.given_subset_note _ _ (ih hlt)
    · rw [hanswer]
      cases huse : uses j with
      | insert v => simp [Directory.note]
      | get b => simp [Component.answer, huse, inUse, perform] at hanswer
      | change b f => simp [Component.answer, huse, inUse, perform] at hanswer
      | remove b => simp [Component.answer, huse, inUse, perform] at hanswer

/-- **An address table refines a directory**: for every sequence of uses, of any length and with
    any addresses, as long as the slots can be numbered.  Addresses are never given out twice,
    and one that was taken back, forged or never given out finds nothing and changes nothing. -/
theorem refines_directory (uses : Nat → Use α) (n : Nat)
    (hslots : (inUse.after uses n).slots.size < 2 ^ 32) : Refines uses n := by
  have hrepresents := represents_ofUses uses hslots
  have hnow := hrepresents n (Nat.le_refl n)
  have hanswers (k : Nat) (hk : k < n) :
      (Directory.ofUses uses k).Answers (uses k) (inUse.answer uses k) := by
    have hbefore := hrepresents k (Nat.le_of_lt hk)
    exact (hbefore.perform (uses k) (Nat.lt_of_le_of_lt (slots_mono uses hk) hslots)).1
  constructor
  case answers => exact hanswers
  case fresh =>
    intro k hk v huse
    have hanswer := hanswers k hk
    rw [huse] at hanswer
    cases hgot : inUse.answer uses k with
    | value found =>
      rw [hgot] at hanswer
      exact hanswer.elim
    | address a =>
      rw [hgot] at hanswer
      refine ⟨a, rfl, hanswer.1, ?_⟩
      intro j hj hsame
      exact hanswer.2 (mem_given_of_answer hj hsame)
  case found => exact hnow.get?
  case present => exact hnow.present
  case removed =>
    intro a
    exact (hnow.remove a).1
  case spared =>
    intro a b hb
    cases hget : (inUse.after uses n).get? a with
    | none => rw [remove_of_none hget]
    | some v =>
      obtain ⟨-, -, -, hvalue⟩ := remove_spec hnow.sound hget
      rw [hvalue, if_neg hb]
  case missed =>
    intro a hnone
    have hget : (inUse.after uses n).get? a = none := (hnow.get? a).trans hnone
    rw [remove_of_none hget]
    exact ⟨rfl, update_of_none hget⟩
  case size => exact hnow.size_eq
  case full => exact hnow.full
  case nodup => exact hnow.sound.nodup
  case free => exact hnow.sound.free

/-- A value is stored, taken back and asked for again after another one got its slot. -/
def reusing : Nat → Use Nat
  | 0 => .insert 7
  | 1 => .remove (.ofSlot 0 0)
  | 2 => .insert 8
  | 3 => .change (.ofSlot 0 1) (· + 1)
  | _ => .get (.ofSlot 0 0)

/-- The slot is used again, but not its address. -/
theorem reusing_refines : (inUse.after reusing 5).slots.size < 2 ^ 32 ∧
    (inUse.after reusing 5).slots.size = 1 ∧
    (inUse.after reusing 5).get? (.ofSlot 0 1) = some 9 ∧
    (inUse.after reusing 5).get? (.ofSlot 0 0) = none ∧ Refines reusing 5 :=
  ⟨by decide, by decide, by decide, by decide, refines_directory reusing 5 (by decide)⟩

end AddressTable

end ForeignArena
