import ForeignArena.Address

namespace ForeignArena

/-!
# Address tables

A table that hands out addresses for values and takes them back.  Slots are reused,
addresses are not: each slot counts its generations, and an address names a slot
together with the generation it was handed out in.  So the address of a removed
value never resolves to a newer one.

* `Address.ofSlot` / `Address.slot?` — the layout of an address;
* `AddressTable.insert` — store a value under a fresh address;
* `AddressTable.get?` / `AddressTable.update` / `AddressTable.remove` — use an address.
-/

/-! ### The layout of an address -/

namespace Address

/-- The address of a slot in one of its generations: the slot's number plus one in the
    upper half, the generation in the lower.  It is null for no slot but the very last
    that can be numbered. -/
def ofSlot (slot generation : UInt32) : Address :=
  ⟨((slot.toUInt64 + 1) <<< 32) ||| generation.toUInt64⟩

/-- The slot and the generation that an address names.  Addresses with an empty upper
    half name none. -/
def slot? (a : Address) : Option (UInt32 × UInt32) :=
  let upper := (a.word >>> 32).toUInt32
  if upper = 0 then none else some (upper - 1, a.word.toUInt32)

end Address

/-! ### Tables -/

/-- A slot: its current generation, and its value while it has one. -/
structure Slot (α : Type) where
  generation : UInt32
  value : Option α
  deriving Inhabited

/-- Values by slot, and the free slots, last freed first. -/
structure AddressTable (α : Type) where
  slots : Array (Slot α) := #[]
  free : List UInt32 := []
  size : Nat := 0
  deriving Inhabited

namespace AddressTable

variable {α : Type}

/-- The number of the slot that an address names in its current generation, with the
    slot. -/
def resolve? (t : AddressTable α) (a : Address) : Option (UInt32 × Slot α) :=
  match a.slot? with
  | none => none
  | some (i, generation) =>
    match t.slots[i.toNat]? with
    | none => none
    | some slot => if slot.generation = generation then some (i, slot) else none

/-- The value at an address, unless it was removed or never stored. -/
def get? (t : AddressTable α) (a : Address) : Option α :=
  (t.resolve? a).bind (·.2.value)

/-- Store a value, in the slot freed last if there is a free one, and in a new slot of
    generation zero otherwise. -/
def insert (t : AddressTable α) (value : α) : AddressTable α × Address :=
  match t.free with
  | i :: rest =>
    let generation := (t.slots[i.toNat]?.map (·.generation)).getD 0
    ({ slots := t.slots.modify i.toNat fun slot => { slot with value := some value }
       free := rest
       size := t.size + 1 },
      .ofSlot i generation)
  | [] =>
    let i := UInt32.ofNat t.slots.size
    ({ t with slots := t.slots.push ⟨0, some value⟩, size := t.size + 1 }, .ofSlot i 0)

/-- Change the value at an address, if there is one. -/
def update (t : AddressTable α) (a : Address) (f : α → α) : AddressTable α :=
  match t.resolve? a with
  | some (i, _) =>
    { t with slots := t.slots.modify i.toNat fun slot => { slot with value := slot.value.map f } }
  | none => t

/-- Take the value at an address out of the table, if there is one.  The slot moves on
    to its next generation and becomes free, unless the generations start over: then
    the slot is never used again. -/
def remove (t : AddressTable α) (a : Address) : AddressTable α × Option α :=
  match t.resolve? a with
  | some (i, ⟨generation, some value⟩) =>
    let next := generation + 1
    ({ slots := t.slots.modify i.toNat fun _ => ⟨next, none⟩
       free := if next = 0 then t.free else i :: t.free
       size := t.size - 1 },
      some value)
  | _ => (t, none)

end AddressTable

end ForeignArena
