import ForeignArena.Proofs.Directories
import ForeignArena.Proofs.Heaps

namespace ForeignArena

/-!
# Heaps and their journals

Who writes down what a heap is asked and what it answers can tell from the journal alone
what the heap holds, what it has freed and how often it was misused.  This does not take
anybody to behave: addresses may be stale, forged, freed before or never handed out.

* `Heap.Use`, `Heap.perform` — the ways in which a heap is used;
* `Heap.Holds` — a heap whose table represents a directory, and which has freed what was
  taken out of it;
* `Heap.Holds.perform` — each use keeps it so;
* `Journal`, `Journal.note` — what the answers so far amount to;
* `Heap.Keeps` — a heap as its journal tells;
* `Heap.keeps_accounts` — and so it is after any sequence of uses.

The books of `Heap.Agrees` say what a heap should hold as long as it is used properly;
a journal says what it does hold.
-/

/-! ### Uses and answers -/

namespace Heap

/-- The ways in which a heap is used. -/
inductive Use where
  | allocate (typeName : String) (payload : Int64)
  | retain (a : Address)
  | release (a : Address)
  | destroy (a : Address)

/-- An answer is a new address, a new count, or whether something was freed. -/
inductive Answer where
  | address (a : Address)
  | count (n : Option UInt64)
  | freed (done : Bool)

/-- Use a heap once. -/
def perform (h : Heap) : Use → Heap × Answer
  | .allocate typeName payload =>
    ((h.allocate typeName payload).1, .address (h.allocate typeName payload).2)
  | .retain a => ((h.retain a).1, .count (h.retain a).2)
  | .release a => ((h.release a).1, .count (h.release a).2)
  | .destroy a => ((h.destroy a).1, .freed (h.destroy a).2)

/-- A heap in use, empty at first. -/
def inUse : Component Heap Use Answer := ⟨{}, perform⟩

variable {h : Heap} {d : Directory HeapObject} {a b : Address} {object : HeapObject}

/-! ### What the operations do -/

theorem retain_of_none (hget : h.get? a = none) : h.retain a = (h, none) := by
  rw [retain, hget]

theorem retain_of_some (hget : h.get? a = some object) :
    h.retain a = ({ h with objects := h.objects.update a fun o =>
      { o with retainCount := object.retainCount + 1 } }, some (object.retainCount + 1)) := by
  rw [retain, hget]

theorem release_of_none (hget : h.get? a = none) :
    h.release a = ({ h with invalidFrees := h.invalidFrees + 1 }, none) := by
  rw [release, hget]

/-- The last reference frees the object. -/
theorem release_of_last (hget : h.get? a = some object) (hlast : object.retainCount - 1 = 0) :
    h.release a =
      ({ h with objects := (h.objects.remove a).1, freed := h.freed.push a }, some 0) := by
  rw [release, hget]
  dsimp only
  rw [if_pos hlast]

theorem release_of_some (hget : h.get? a = some object) (hmore : object.retainCount - 1 ≠ 0) :
    h.release a = ({ h with objects := h.objects.update a fun o =>
      { o with retainCount := object.retainCount - 1 } }, some (object.retainCount - 1)) := by
  rw [release, hget]
  dsimp only
  rw [if_neg hmore]

theorem destroy_of_none (hget : h.get? a = none) :
    h.destroy a = ({ h with invalidFrees := h.invalidFrees + 1 }, false) := by
  have hremove : h.objects.remove a = (h.objects, none) := AddressTable.remove_of_none hget
  rw [destroy, hremove]

theorem destroy_of_some (hsound : h.objects.Sound) (hget : h.get? a = some object) :
    h.destroy a =
      ({ h with objects := (h.objects.remove a).1, freed := h.freed.push a }, true) := by
  obtain ⟨hvalue, -⟩ := AddressTable.remove_spec hsound hget
  unfold destroy
  split
  · next objects found heq => rw [heq]
  · next objects heq =>
    rw [heq] at hvalue
    cases hvalue

/-! ### What a heap holds -/

/-- **A heap holds what a directory says**, and has freed what was taken out of it, in that
    order. -/
structure Holds (h : Heap) (d : Directory HeapObject) : Prop where
  table : h.objects.Represents d
  freed : h.freed.toList = d.taken

theorem holds_empty : ({} : Heap).Holds {} := ⟨AddressTable.represents_empty, rfl⟩

namespace Holds

theorem get? (hholds : h.Holds d) (a : Address) : h.get? a = d.value a :=
  hholds.table.get? a

/-- An object is live if its address was handed out and not freed. -/
theorem live_iff (hholds : h.Holds d) (a : Address) :
    (h.get? a).isSome ↔ a ∈ d.given ∧ a ∉ h.freed := by
  rw [hholds.get?, hholds.table.present, ← hholds.freed, Array.mem_toList_iff]

theorem allocate (hholds : h.Holds d) (hroom : h.objects.HasRoom) (typeName : String)
    (payload : Int64) :
    (h.allocate typeName payload).2 ∉ d.given ∧
      (h.allocate typeName payload).2.isNull = false ∧
      (h.allocate typeName payload).1.Holds
        { d with
          given := d.given ++ [(h.allocate typeName payload).2]
          value := Function.update d.value (h.allocate typeName payload).2
            (some ⟨typeName, 1, payload⟩) } := by
  obtain ⟨hanswer, htable⟩ := hholds.table.insert hroom ⟨typeName, 1, payload⟩
  exact ⟨hanswer.2, hanswer.1, htable, hholds.freed⟩

/-- Another count changes the object at its own address only. -/
theorem counted (hholds : h.Holds d) (hget : h.get? a = some object) (count : UInt64) :
    ({ h with objects := h.objects.update a fun o => { o with retainCount := count } } :
      Heap).Holds
      { d with
        value := Function.update d.value a (some { object with retainCount := count }) } := by
  obtain ⟨-, htable⟩ := hholds.table.change a fun o => { o with retainCount := count }
  have hfound : h.objects.get? a = some object := hget
  rw [hfound] at htable
  exact ⟨htable, hholds.freed⟩

/-- What is freed is put on record. -/
theorem removed (hholds : h.Holds d) (hget : h.get? a = some object) :
    ({ h with objects := (h.objects.remove a).1, freed := h.freed.push a } : Heap).Holds
      { d with taken := d.taken ++ [a], value := Function.update d.value a none } := by
  obtain ⟨hvalue, -⟩ := AddressTable.remove_spec hholds.table.sound hget
  obtain ⟨-, htable⟩ := hholds.table.remove a
  rw [hvalue] at htable
  refine ⟨htable, ?_⟩
  rw [Array.toList_push, hholds.freed]

/-- Counting misuse changes nothing else. -/
theorem misused (hholds : h.Holds d) (n : Nat) : ({ h with invalidFrees := n } : Heap).Holds d :=
  ⟨hholds.table, hholds.freed⟩

end Holds

/-- What a use of a heap can come to: the answer, what the heap holds afterwards, and whether
    the use is counted as misuse. -/
inductive Outcome (d : Directory HeapObject) : Use → Answer → Directory HeapObject → Nat → Prop
  | allocated {typeName : String} {payload : Int64} {a : Address} (hnew : a ∉ d.given)
      (hnull : a.isNull = false) :
      Outcome d (.allocate typeName payload) (.address a)
        { d with
          given := d.given ++ [a]
          value := Function.update d.value a (some ⟨typeName, 1, payload⟩) } 0
  | notRetained {a : Address} (hnone : d.value a = none) :
      Outcome d (.retain a) (.count none) d 0
  | retained {a : Address} {object : HeapObject} (hsome : d.value a = some object) :
      Outcome d (.retain a) (.count (some (object.retainCount + 1)))
        { d with
          value := Function.update d.value a
            (some { object with retainCount := object.retainCount + 1 }) } 0
  | notReleased {a : Address} (hnone : d.value a = none) :
      Outcome d (.release a) (.count none) d 1
  | released {a : Address} {object : HeapObject} (hsome : d.value a = some object)
      (hmore : object.retainCount - 1 ≠ 0) :
      Outcome d (.release a) (.count (some (object.retainCount - 1)))
        { d with
          value := Function.update d.value a
            (some { object with retainCount := object.retainCount - 1 }) } 0
  | last {a : Address} {object : HeapObject} (hsome : d.value a = some object)
      (hlast : object.retainCount - 1 = 0) :
      Outcome d (.release a) (.count (some 0))
        { d with taken := d.taken ++ [a], value := Function.update d.value a none } 0
  | notDestroyed {a : Address} (hnone : d.value a = none) :
      Outcome d (.destroy a) (.freed false) d 1
  | destroyed {a : Address} {object : HeapObject} (hsome : d.value a = some object) :
      Outcome d (.destroy a) (.freed true)
        { d with taken := d.taken ++ [a], value := Function.update d.value a none } 0

/-- A heap that can number its slots after a use had room for it. -/
theorem hasRoom_of_perform {use : Use} (hslots : (h.perform use).1.objects.slots.size < 2 ^ 32) :
    ∀ typeName payload, use = .allocate typeName payload → h.objects.HasRoom := by
  rintro typeName payload rfl
  exact AddressTable.hasRoom_of_insert hslots

/-- **One use** of a heap has one of these outcomes. -/
theorem Holds.perform (hholds : h.Holds d) (use : Use)
    (hroom : ∀ typeName payload, use = .allocate typeName payload → h.objects.HasRoom) :
    ∃ d' misuses, Outcome d use (h.perform use).2 d' misuses ∧ (h.perform use).1.Holds d' ∧
      (h.perform use).1.invalidFrees = h.invalidFrees + misuses := by
  cases use with
  | allocate typeName payload =>
    obtain ⟨hnew, hnull, hafter⟩ :=
      hholds.allocate (hroom typeName payload rfl) typeName payload
    exact ⟨_, 0, .allocated hnew hnull, hafter, rfl⟩
  | retain a =>
    cases hget : h.get? a with
    | none =>
      have hnone : d.value a = none := (hholds.get? a).symm.trans hget
      rw [Heap.perform, retain_of_none hget]
      exact ⟨d, 0, .notRetained hnone, hholds, rfl⟩
    | some object =>
      have hsome : d.value a = some object := (hholds.get? a).symm.trans hget
      rw [Heap.perform, retain_of_some hget]
      exact ⟨_, 0, .retained hsome, hholds.counted hget _, rfl⟩
  | release a =>
    cases hget : h.get? a with
    | none =>
      have hnone : d.value a = none := (hholds.get? a).symm.trans hget
      rw [Heap.perform, release_of_none hget]
      exact ⟨d, 1, .notReleased hnone, hholds.misused _, rfl⟩
    | some object =>
      have hsome : d.value a = some object := (hholds.get? a).symm.trans hget
      by_cases hlast : object.retainCount - 1 = 0
      · rw [Heap.perform, release_of_last hget hlast]
        exact ⟨_, 0, .last hsome hlast, hholds.removed hget, rfl⟩
      · rw [Heap.perform, release_of_some hget hlast]
        exact ⟨_, 0, .released hsome hlast, hholds.counted hget _, rfl⟩
  | destroy a =>
    cases hget : h.get? a with
    | none =>
      have hnone : d.value a = none := (hholds.get? a).symm.trans hget
      rw [Heap.perform, destroy_of_none hget]
      exact ⟨d, 1, .notDestroyed hnone, hholds.misused _, rfl⟩
    | some object =>
      have hsome : d.value a = some object := (hholds.get? a).symm.trans hget
      rw [Heap.perform, destroy_of_some hholds.table.sound hget]
      exact ⟨_, 0, .destroyed hsome, hholds.removed hget, rfl⟩

/-- Slots are never given up. -/
theorem slots_le_perform (h : Heap) (use : Use) :
    h.objects.slots.size ≤ (h.perform use).1.objects.slots.size := by
  have hinsert (v : HeapObject) := AddressTable.slots_le_perform h.objects (.insert v)
  have hchange (a : Address) (f : HeapObject → HeapObject) :=
    AddressTable.slots_le_perform h.objects (.change a f)
  have hremove (a : Address) := AddressTable.slots_le_perform h.objects (.remove a)
  cases use with
  | allocate typeName payload => exact hinsert _
  | retain a =>
    cases hget : h.get? a with
    | none =>
      rw [perform, retain_of_none hget]
    | some object =>
      rw [perform, retain_of_some hget]
      exact hchange _ _
  | release a =>
    cases hget : h.get? a with
    | none =>
      rw [perform, release_of_none hget]
    | some object =>
      by_cases hlast : object.retainCount - 1 = 0
      · rw [perform, release_of_last hget hlast]
        exact hremove _
      · rw [perform, release_of_some hget hlast]
        exact hchange _ _
  | destroy a =>
    show h.objects.slots.size ≤ (h.destroy a).1.objects.slots.size
    unfold destroy
    split
    · next objects object heq =>
      have hslots := hremove a
      rw [AddressTable.perform, heq] at hslots
      exact hslots
    · exact Nat.le_refl _

end Heap

/-! ### Journals -/

/-- What can be told from what a heap was asked and what it answered: the addresses of its
    objects in the order of allocation, how often each of them was retained and released, what
    was freed in the order of freeing, and how many attempts to free something failed. -/
structure Journal where
  allocated : List Address := []
  retained : Address → Nat := fun _ => 0
  released : Address → Nat := fun _ => 0
  freed : List Address := []
  invalid : Nat := 0

namespace Journal

/-- Note what was asked and answered.  Only a count tells whether a release was the last. -/
def note (j : Journal) : Heap.Use × Heap.Answer → Journal
  | (.allocate _ _, .address a) => { j with allocated := j.allocated ++ [a] }
  | (.retain a, .count (some _)) =>
    { j with retained := Function.update j.retained a (j.retained a + 1) }
  | (.release a, .count (some n)) =>
    { j with
      released := Function.update j.released a (j.released a + 1)
      freed := if n = 0 then j.freed ++ [a] else j.freed }
  | (.release _, .count none) => { j with invalid := j.invalid + 1 }
  | (.destroy a, .freed true) => { j with freed := j.freed ++ [a] }
  | (.destroy _, .freed false) => { j with invalid := j.invalid + 1 }
  | _ => j

/-- The journal of the first uses of a heap. -/
def ofUses (uses : Nat → Heap.Use) (n : Nat) : Journal :=
  (Heap.inUse.transcript uses n).foldl note {}

theorem ofUses_succ (uses : Nat → Heap.Use) (n : Nat) :
    ofUses uses (n + 1) = (ofUses uses n).note (uses n, Heap.inUse.answer uses n) := by
  rw [ofUses, Component.transcript_succ, List.foldl_append]
  rfl

/-- What was noted is not taken back. -/
theorem retained_le_note (j : Journal) (x : Heap.Use × Heap.Answer) (a : Address) :
    j.retained a ≤ (j.note x).retained a := by
  unfold note
  split
  case h_2 b n =>
    show j.retained a ≤ Function.update j.retained b (j.retained b + 1) a
    by_cases hab : a = b
    · subst hab
      rw [Function.update_self]
      exact Nat.le_succ _
    · rw [Function.update_of_ne hab]
  all_goals exact Nat.le_refl _

/-- Each note is about one reference. -/
theorem retained_note_le (j : Journal) (x : Heap.Use × Heap.Answer) (a : Address) :
    (j.note x).retained a ≤ j.retained a + 1 := by
  unfold note
  split
  case h_2 b n =>
    show Function.update j.retained b (j.retained b + 1) a ≤ j.retained a + 1
    by_cases hab : a = b
    · subst hab
      rw [Function.update_self]
    · rw [Function.update_of_ne hab]
      exact Nat.le_succ _
  all_goals exact Nat.le_succ _

theorem retained_mono (uses : Nat → Heap.Use) (a : Address) :
    Monotone fun n => (ofUses uses n).retained a := by
  refine monotone_nat_of_le_succ fun n => ?_
  rw [ofUses_succ]
  exact retained_le_note _ _ a

end Journal

namespace Heap

variable {h : Heap} {d : Directory HeapObject} {j : Journal}

/-- **A heap as its journal tells**: it holds the objects that are on record, each with one
    reference and those that were taken and not given back. -/
structure Keeps (h : Heap) (d : Directory HeapObject) (j : Journal) : Prop where
  holds : h.Holds d
  allocated : d.given = j.allocated
  freed : d.taken = j.freed
  invalid : h.invalidFrees = j.invalid
  counts : ∀ a object, d.value a = some object → 0 < object.retainCount.toNat ∧
    object.retainCount.toNat + j.released a = 1 + j.retained a
  unused : ∀ a, a ∉ d.given → j.retained a = 0 ∧ j.released a = 0

theorem keeps_empty : ({} : Heap).Keeps {} {} where
  holds := holds_empty
  allocated := rfl
  freed := rfl
  invalid := rfl
  counts a object hsome := by cases hsome
  unused a _ := ⟨rfl, rfl⟩

/-- A reference that is given back is one less. -/
theorem toNat_sub_one {c : UInt64} (hpos : 0 < c.toNat) : (c - 1).toNat = c.toNat - 1 := by
  have hone : (1 : UInt64) ≤ c := UInt64.le_iff_toNat_le.mpr hpos
  rw [UInt64.toNat_sub_of_le _ _ hone]
  rfl

/-- A reference that is taken is one more, unless the count starts over. -/
theorem toNat_add_one {c : UInt64} (hsmall : c.toNat + 1 < 2 ^ 64) :
    (c + 1).toNat = c.toNat + 1 := by
  rw [UInt64.toNat_add]
  exact Nat.mod_eq_of_lt hsmall

namespace Keeps

variable {h' : Heap} {d' : Directory HeapObject} {j' : Journal} {a : Address}

/-- There are objects only where they were allocated. -/
theorem given_of_some (hkeeps : h.Keeps d j) {object : HeapObject}
    (hsome : d.value a = some object) : a ∈ d.given := by
  have hthere := (hkeeps.holds.table.present a).mp (by rw [hsome]; rfl)
  exact hthere.1

/-- What happens at one address leaves the records of all others alone. -/
theorem change (hkeeps : h.Keeps d j) (a : Address) (hholds : h'.Holds d')
    (hallocated : d'.given = j'.allocated) (hfreed : d'.taken = j'.freed)
    (hinvalid : h'.invalidFrees = j'.invalid) (hgiven : a ∈ d'.given ∧ d.given ⊆ d'.given)
    (hvalue : ∀ b, b ≠ a → d'.value b = d.value b)
    (hnoted : ∀ b, b ≠ a → j'.retained b = j.retained b ∧ j'.released b = j.released b)
    (hcount : ∀ object, d'.value a = some object → 0 < object.retainCount.toNat ∧
      object.retainCount.toNat + j'.released a = 1 + j'.retained a) : h'.Keeps d' j' where
  holds := hholds
  allocated := hallocated
  freed := hfreed
  invalid := hinvalid
  counts b object hsome := by
    by_cases hb : b = a
    · subst hb
      exact hcount object hsome
    · obtain ⟨hretained, hreleased⟩ := hnoted b hb
      rw [hvalue b hb] at hsome
      rw [hretained, hreleased]
      exact hkeeps.counts b object hsome
  unused b hb := by
    have hne : b ≠ a := by
      rintro rfl
      exact hb hgiven.1
    obtain ⟨hretained, hreleased⟩ := hnoted b hne
    rw [hretained, hreleased]
    exact hkeeps.unused b fun hmem => hb (hgiven.2 hmem)

/-- **Each outcome** is as its note tells, as long as the counts do not start over. -/
theorem outcome (hkeeps : h.Keeps d j) {use : Use} {answer : Answer} {misuses : Nat}
    (houtcome : Outcome d use answer d' misuses) (hafter : h'.Holds d')
    (hinvalid : h'.invalidFrees = h.invalidFrees + misuses)
    (hsmall : ∀ a, (j.note (use, answer)).retained a + 1 < 2 ^ 64) :
    h'.Keeps d' (j.note (use, answer)) := by
  have hmisuses : h'.invalidFrees = j.invalid + misuses := by rw [hinvalid, hkeeps.invalid]
  cases houtcome with
  | @allocated typeName payload a hnew hnull =>
    refine hkeeps.change a hafter (congrArg (· ++ [a]) hkeeps.allocated) hkeeps.freed hmisuses
      ⟨by simp, List.subset_append_left _ _⟩ (fun b hb => Function.update_of_ne hb _ _)
      (fun b _ => ⟨rfl, rfl⟩) ?_
    intro object hsome
    dsimp only at hsome
    rw [Function.update_self, Option.some.injEq] at hsome
    subst hsome
    -- the address is new, so nothing was noted for it so far
    obtain ⟨hretained, hreleased⟩ := hkeeps.unused a hnew
    show 0 < 1 ∧ 1 + j.released a = 1 + j.retained a
    omega
  | notRetained hnone =>
    exact { hkeeps with holds := hafter, invalid := hmisuses }
  | @retained a object hsome =>
    obtain ⟨-, hcount⟩ := hkeeps.counts a object hsome
    have hroom : (j.retained a + 1) + 1 < 2 ^ 64 := by
      have hnoted : Function.update j.retained a (j.retained a + 1) a + 1 < 2 ^ 64 := hsmall a
      rwa [Function.update_self] at hnoted
    refine hkeeps.change a hafter hkeeps.allocated hkeeps.freed hmisuses
      ⟨hkeeps.given_of_some hsome, List.Subset.refl _⟩ (fun b hb => Function.update_of_ne hb _ _)
      (fun b hb => ⟨Function.update_of_ne hb _ _, rfl⟩) ?_
    intro found hfound
    dsimp only at hfound
    rw [Function.update_self, Option.some.injEq] at hfound
    subst hfound
    have hnext : (object.retainCount + 1).toNat = object.retainCount.toNat + 1 :=
      toNat_add_one (by omega)
    show 0 < (object.retainCount + 1).toNat ∧ (object.retainCount + 1).toNat + j.released a =
      1 + Function.update j.retained a (j.retained a + 1) a
    rw [Function.update_self]
    omega
  | notReleased hnone =>
    exact { hkeeps with holds := hafter, invalid := hmisuses }
  | @released a object hsome hmore =>
    obtain ⟨hpos, hcount⟩ := hkeeps.counts a object hsome
    rw [Journal.note, if_neg hmore]
    refine hkeeps.change a hafter hkeeps.allocated hkeeps.freed hmisuses
      ⟨hkeeps.given_of_some hsome, List.Subset.refl _⟩ (fun b hb => Function.update_of_ne hb _ _)
      (fun b hb => ⟨rfl, Function.update_of_ne hb _ _⟩) ?_
    intro found hfound
    dsimp only at hfound
    rw [Function.update_self, Option.some.injEq] at hfound
    subst hfound
    have hnext := toNat_sub_one hpos
    have hne : (object.retainCount - 1).toNat ≠ 0 := fun hzero => hmore (UInt64.toNat_inj.mp hzero)
    show 0 < (object.retainCount - 1).toNat ∧ (object.retainCount - 1).toNat +
      Function.update j.released a (j.released a + 1) a = 1 + j.retained a
    rw [Function.update_self]
    omega
  | @last a object hsome hlast =>
    refine hkeeps.change a hafter hkeeps.allocated (congrArg (· ++ [a]) hkeeps.freed) hmisuses
      ⟨hkeeps.given_of_some hsome, List.Subset.refl _⟩ (fun b hb => Function.update_of_ne hb _ _)
      (fun b hb => ⟨rfl, Function.update_of_ne hb _ _⟩) ?_
    intro found hfound
    dsimp only at hfound
    rw [Function.update_self] at hfound
    cases hfound
  | notDestroyed hnone =>
    exact { hkeeps with holds := hafter, invalid := hmisuses }
  | @destroyed a object hsome =>
    refine hkeeps.change a hafter hkeeps.allocated (congrArg (· ++ [a]) hkeeps.freed) hmisuses
      ⟨hkeeps.given_of_some hsome, List.Subset.refl _⟩ (fun b hb => Function.update_of_ne hb _ _)
      (fun b hb => ⟨rfl, rfl⟩) ?_
    intro found hfound
    dsimp only at hfound
    rw [Function.update_self] at hfound
    cases hfound

end Keeps

/-- The address that a use is about, unless it is about a new one. -/
def Use.address? : Use → Option Address
  | allocate _ _ => none
  | retain a | release a | destroy a => some a

/-- Addresses that were handed out stay on record. -/
theorem Outcome.given_subset {use : Use} {answer : Answer} {d' : Directory HeapObject}
    {misuses : Nat} (houtcome : Outcome d use answer d' misuses) : d.given ⊆ d'.given := by
  intro b hb
  cases houtcome with
  | allocated => exact List.mem_append_left _ hb
  | _ => exact hb

/-- A use shows at its own address, or at a new one. -/
theorem Outcome.elsewhere {use : Use} {answer : Answer} {d' : Directory HeapObject} {misuses : Nat}
    {a : Address} (houtcome : Outcome d use answer d' misuses) (ha : a ∈ d.given)
    (hne : use.address? ≠ some a) : d'.value a = d.value a := by
  cases houtcome with
  | @allocated typeName payload b hnew hnull =>
    have hab : a ≠ b := by
      rintro rfl
      exact hnew ha
    exact Function.update_of_ne hab _ _
  | notRetained | notReleased | notDestroyed => rfl
  | @retained b | @released b | @last b | @destroyed b =>
    have hab : a ≠ b := by
      rintro rfl
      exact hne rfl
    exact Function.update_of_ne hab _ _

/-- An object leaves the heap by its last release, or by being destroyed. -/
theorem Outcome.gone_iff {use : Use} {answer : Answer} {d' : Directory HeapObject} {misuses : Nat}
    {a : Address} {object : HeapObject} (houtcome : Outcome d use answer d' misuses)
    (hsome : d.value a = some object) :
    d'.value a = none ↔ use = .release a ∧ answer = .count (some 0) ∨ use = .destroy a := by
  cases houtcome with
  | @allocated typeName payload b hnew hnull =>
    by_cases hab : a = b
    · simp [hab]
    · simp [hab, hsome]
  | notRetained hnone => simp [hsome]
  | @retained b found hfound =>
    by_cases hab : a = b
    · simp [hab]
    · simp [hab, hsome]
  | @notReleased b hnone =>
    have hab : a ≠ b := by
      rintro rfl
      rw [hsome] at hnone
      cases hnone
    simp [hsome]
  | @released b found hfound hmore =>
    by_cases hab : a = b
    · simp [hab, hmore]
    · simp [hab, hsome, hmore]
  | @last b found hfound hlast =>
    by_cases hab : a = b
    · simp [hab]
    · simp [hab, Ne.symm hab, hsome]
  | @notDestroyed b hnone =>
    have hab : a ≠ b := by
      rintro rfl
      rw [hsome] at hnone
      cases hnone
    simp [hsome, Ne.symm hab]
  | @destroyed b found hfound =>
    by_cases hab : a = b
    · simp [hab]
    · simp [hab, Ne.symm hab, hsome]

/-! ### All uses -/

section

variable (uses : Nat → Use)

theorem slots_mono : Monotone fun n => (inUse.after uses n).objects.slots.size :=
  monotone_nat_of_le_succ fun n => slots_le_perform (inUse.after uses n) (uses n)

/-- Each retain takes a use. -/
theorem retained_le (a : Address) (n : Nat) : (Journal.ofUses uses n).retained a ≤ n := by
  induction n with
  | zero => exact Nat.le_refl 0
  | succ n ih =>
    rw [Journal.ofUses_succ]
    exact Nat.le_trans (Journal.retained_note_le _ _ a) (Nat.succ_le_succ ih)

/-- A heap in use is as its journal tells. -/
theorem keeps_ofUses {reach : Nat}
    (hslots : (inUse.after uses reach).objects.slots.size < 2 ^ 32)
    (hsmall : ∀ a, (Journal.ofUses uses reach).retained a + 1 < 2 ^ 64) :
    ∀ n ≤ reach, ∃ d, (inUse.after uses n).Keeps d (.ofUses uses n) := by
  intro n
  induction n with
  | zero =>
    intro _
    exact ⟨{}, keeps_empty⟩
  | succ n ih =>
    intro hn
    obtain ⟨d, hkeeps⟩ := ih (Nat.le_of_lt hn)
    obtain ⟨d', misuses, houtcome, hafter, hinvalid⟩ := hkeeps.holds.perform (uses n)
      (hasRoom_of_perform (Nat.lt_of_le_of_lt (slots_mono uses hn) hslots))
    refine ⟨d', ?_⟩
    rw [Journal.ofUses_succ]
    refine hkeeps.outcome houtcome hafter hinvalid fun a => ?_
    -- what was noted until now is noted in the end
    have hnoted := Journal.retained_mono uses a hn
    dsimp only at hnoted
    rw [Journal.ofUses_succ] at hnoted
    exact Nat.lt_of_le_of_lt (Nat.succ_le_succ hnoted) (hsmall a)

/-- What holds of a heap after its first uses. -/
structure Accounts (n : Nat) : Prop where
  /-- A live object has a reference, -/
  positive : ∀ a object, (inUse.after uses n).get? a = some object → 1 ≤ object.retainCount
  /-- so its count does not start over when one is given back. -/
  released : ∀ a object, (inUse.after uses n).get? a = some object →
    ((inUse.after uses n).release a).2 = some (object.retainCount - 1) ∧
      (object.retainCount - 1).toNat + 1 = object.retainCount.toNat
  /-- Nor did it when one was taken. -/
  retained : ∀ k < n, ∀ a object, uses k = .retain a →
    (inUse.after uses k).get? a = some object →
      inUse.answer uses k = .count (some (object.retainCount + 1)) ∧
        (object.retainCount + 1).toNat = object.retainCount.toNat + 1
  /-- The count is one and the references that were taken, without those given back. -/
  count : ∀ a object, (inUse.after uses n).get? a = some object →
    object.retainCount.toNat + (Journal.ofUses uses n).released a =
      1 + (Journal.ofUses uses n).retained a
  /-- The last reference is the one that is left when as many were given back as taken. -/
  last : ∀ a object, (inUse.after uses n).get? a = some object →
    (((inUse.after uses n).release a).2 = some 0 ↔
      (Journal.ofUses uses n).retained a = (Journal.ofUses uses n).released a)
  /-- An object leaves the heap when its last reference is given back or it is destroyed. -/
  leaves : ∀ k < n, ∀ a, ((inUse.after uses k).get? a).isSome →
    ((inUse.after uses (k + 1)).get? a = none ↔
      uses k = .release a ∧ inUse.answer uses k = .count (some 0) ∨ uses k = .destroy a)
  /-- What was allocated is live or was freed. -/
  total : (inUse.after uses n).live + (inUse.after uses n).freed.size =
    (Journal.ofUses uses n).allocated.length
  /-- What was freed is listed in the order of freeing, -/
  order : (inUse.after uses n).freed.toList = (Journal.ofUses uses n).freed
  /-- each address once: -/
  once : (inUse.after uses n).freed.toList.Nodup
  /-- those that were allocated and are not live any more. -/
  freed : ∀ a, a ∈ (inUse.after uses n).freed ↔
    a ∈ (Journal.ofUses uses n).allocated ∧ (inUse.after uses n).get? a = none
  /-- Nothing else was ever live. -/
  allocated : ∀ a, ((inUse.after uses n).get? a).isSome → a ∈ (Journal.ofUses uses n).allocated
  /-- Failed attempts to free are counted. -/
  invalid : (inUse.after uses n).invalidFrees = (Journal.ofUses uses n).invalid
  /-- A call fails where no object is, -/
  failing : ∀ a, (((inUse.after uses n).retain a).2 = none ∨
      ((inUse.after uses n).release a).2 = none ∨ ((inUse.after uses n).destroy a).2 = false) →
    (inUse.after uses n).get? a = none
  /-- and changes nothing but the counter of failed attempts. -/
  failed : ∀ a, (inUse.after uses n).get? a = none →
    (inUse.after uses n).retain a = (inUse.after uses n, none) ∧
      (inUse.after uses n).release a =
        ({ inUse.after uses n with invalidFrees := (inUse.after uses n).invalidFrees + 1 },
          none) ∧
      (inUse.after uses n).destroy a =
        ({ inUse.after uses n with invalidFrees := (inUse.after uses n).invalidFrees + 1 },
          false)

end

/-- A call that fails tells that no object is there. -/
theorem get?_of_failing (hsound : h.objects.Sound) {a : Address}
    (hfailing : (h.retain a).2 = none ∨ (h.release a).2 = none ∨ (h.destroy a).2 = false) :
    h.get? a = none := by
  cases hget : h.get? a with
  | none => rfl
  | some object =>
    obtain hnone | hnone | hfalse := hfailing
    · rw [retain_of_some hget] at hnone
      cases hnone
    · by_cases hlast : object.retainCount - 1 = 0
      · rw [release_of_last hget hlast] at hnone
        cases hnone
      · rw [release_of_some hget hlast] at hnone
        cases hnone
    · rw [destroy_of_some hsound hget] at hfalse
      cases hfalse

/-- Giving back a reference answers how many are left. -/
theorem release_answer {a : Address} {object : HeapObject} (hget : h.get? a = some object) :
    (h.release a).2 = some (object.retainCount - 1) := by
  by_cases hlast : object.retainCount - 1 = 0
  · rw [release_of_last hget hlast, hlast]
  · rw [release_of_some hget hlast]

/-- **A heap keeps its accounts** over every sequence of uses, of any length and at any addresses,
    as long as its slots can be numbered and no count starts over.  It never frees twice, counts
    each failed attempt, and loses no object. -/
theorem keeps_accounts (uses : Nat → Use) (n : Nat)
    (hslots : (inUse.after uses n).objects.slots.size < 2 ^ 32)
    (hsmall : ∀ a, (Journal.ofUses uses n).retained a + 1 < 2 ^ 64) : Accounts uses n := by
  have hkept := keeps_ofUses uses hslots hsmall
  obtain ⟨d, hkeeps⟩ := hkept n (Nat.le_refl n)
  have hholds := hkeeps.holds
  have hvalue {a : Address} {object : HeapObject}
      (hget : (inUse.after uses n).get? a = some object) : d.value a = some object :=
    (hholds.get? a).symm.trans hget
  constructor
  case positive =>
    intro a object hget
    exact UInt64.le_iff_toNat_le.mpr (hkeeps.counts a object (hvalue hget)).1
  case released =>
    intro a object hget
    have hpos := (hkeeps.counts a object (hvalue hget)).1
    have hnext := toNat_sub_one hpos
    exact ⟨release_answer hget, by omega⟩
  case retained =>
    intro k hk a object huse hget
    obtain ⟨d₀, hbefore⟩ := hkept k (Nat.le_of_lt hk)
    have hanswer : inUse.answer uses k = .count (some (object.retainCount + 1)) := by
      show ((inUse.after uses k).perform (uses k)).2 = _
      rw [huse, perform, retain_of_some hget]
    -- the reference that is taken is one of those that are noted in the end
    have hnoted := Journal.retained_mono uses a hk
    dsimp only at hnoted
    rw [Journal.ofUses_succ, huse, hanswer, Journal.note] at hnoted
    dsimp only at hnoted
    rw [Function.update_self] at hnoted
    have hcount := (hbefore.counts a object ((hbefore.holds.get? a).symm.trans hget)).2
    have hlimit := hsmall a
    exact ⟨hanswer, toNat_add_one (by omega)⟩
  case count =>
    intro a object hget
    exact (hkeeps.counts a object (hvalue hget)).2
  case last =>
    intro a object hget
    obtain ⟨hpos, hcount⟩ := hkeeps.counts a object (hvalue hget)
    have hnext := toNat_sub_one hpos
    rw [release_answer hget, Option.some.injEq, ← UInt64.toNat_inj, hnext, UInt64.toNat_zero]
    omega
  case leaves =>
    intro k hk a hlive
    obtain ⟨d₀, hbefore⟩ := hkept k (Nat.le_of_lt hk)
    obtain ⟨d₁, misuses, houtcome, hafter, -⟩ := hbefore.holds.perform (uses k)
      (hasRoom_of_perform (Nat.lt_of_le_of_lt (slots_mono uses hk) hslots))
    obtain ⟨object, hget⟩ := Option.isSome_iff_exists.mp hlive
    rw [hbefore.holds.get?] at hget
    have hgone := houtcome.gone_iff hget
    rw [← hafter.get?] at hgone
    exact hgone
  case total =>
    have hsize := hholds.table.size
    rw [← hholds.freed, hkeeps.allocated, Array.length_toList] at hsize
    exact hsize
  case order => exact hholds.freed.trans hkeeps.freed
  case once =>
    rw [hholds.freed]
    exact hholds.table.taken
  case freed =>
    intro a
    have hlive := hholds.live_iff a
    have hsubset := hholds.table.subset a
    rw [← hholds.freed, Array.mem_toList_iff] at hsubset
    rw [← hkeeps.allocated, ← Option.not_isSome_iff_eq_none, hlive]
    tauto
  case allocated =>
    intro a hlive
    rw [← hkeeps.allocated]
    exact ((hholds.live_iff a).mp hlive).1
  case invalid => exact hkeeps.invalid
  case failing =>
    intro a hfailing
    exact get?_of_failing hholds.table.sound hfailing
  case failed =>
    intro a hget
    exact ⟨retain_of_none hget, release_of_none hget, destroy_of_none hget⟩

/-- An object is freed by its last release.  Another one gets its slot and is destroyed, and the
    address of the first is released once more. -/
def misused : Nat → Use
  | 0 => .allocate "Point" 7
  | 1 => .retain (.ofSlot 0 0)
  | 2 => .release (.ofSlot 0 0)
  | 3 => .release (.ofSlot 0 0)
  | 4 => .allocate "Point" 8
  | 5 => .release (.ofSlot 0 0)
  | _ => .destroy (.ofSlot 0 1)

/-- The misuse is counted, and both objects are freed once. -/
theorem misused_accounts : (inUse.after misused 7).objects.slots.size < 2 ^ 32 ∧
    (∀ a, (Journal.ofUses misused 7).retained a + 1 < 2 ^ 64) ∧
    (inUse.after misused 7).freed = #[.ofSlot 0 0, .ofSlot 0 1] ∧
    (inUse.after misused 7).invalidFrees = 1 ∧ Accounts misused 7 := by
  have hsmall (a : Address) : (Journal.ofUses misused 7).retained a + 1 < 2 ^ 64 :=
    Nat.lt_of_le_of_lt (Nat.succ_le_succ (retained_le misused a 7)) (by decide)
  exact ⟨by decide, hsmall, by decide, by decide, keeps_accounts misused 7 (by decide) hsmall⟩

end Heap

end ForeignArena
