import ForeignArena.AddressTable

namespace ForeignArena

/-!
# Heaps of counted objects

A heap hands out objects that start with one reference.  An object is freed when its
last reference is given back, or at once when it is destroyed in place.  Giving back
or destroying what is not there is counted and changes nothing else.
-/

/-- An object of a heap. -/
structure HeapObject where
  typeName : String
  /-- The references held to the object. -/
  retainCount : UInt64
  payload : Int64
  deriving Inhabited

/-- A heap: its objects, the freed addresses in the order of freeing, and the number
    of calls that tried to free what was not there. -/
structure Heap where
  objects : AddressTable HeapObject := {}
  freed : Array Address := #[]
  invalidFrees : Nat := 0
  deriving Inhabited

namespace Heap

/-- The object at an address, while it is live. -/
def get? (h : Heap) (a : Address) : Option HeapObject :=
  h.objects.get? a

/-- The references held to a live object. -/
def retainCount? (h : Heap) (a : Address) : Option UInt64 :=
  (h.get? a).map (·.retainCount)

/-- The number of live objects. -/
def live (h : Heap) : Nat :=
  h.objects.size

/-- A new object with one reference. -/
def allocate (h : Heap) (typeName : String) (payload : Int64) : Heap × Address :=
  let (objects, a) := h.objects.insert { typeName, retainCount := 1, payload }
  ({ h with objects }, a)

/-- Take one more reference.  Returns the new count. -/
def retain (h : Heap) (a : Address) : Heap × Option UInt64 :=
  match h.get? a with
  | none => (h, none)
  | some object =>
    let count := object.retainCount + 1
    ({ h with objects := h.objects.update a fun o => { o with retainCount := count } },
      some count)

/-- Give back one reference; the last one frees the object.  Returns the new count. -/
def release (h : Heap) (a : Address) : Heap × Option UInt64 :=
  match h.get? a with
  | none => ({ h with invalidFrees := h.invalidFrees + 1 }, none)
  | some object =>
    let count := object.retainCount - 1
    if count = 0 then
      ({ h with objects := (h.objects.remove a).1, freed := h.freed.push a }, some 0)
    else
      ({ h with objects := h.objects.update a fun o => { o with retainCount := count } },
        some count)

/-- Free an object whatever its count.  Returns whether there was one. -/
def destroy (h : Heap) (a : Address) : Heap × Bool :=
  match h.objects.remove a with
  | (objects, some _) => ({ h with objects, freed := h.freed.push a }, true)
  | (_, none) => ({ h with invalidFrees := h.invalidFrees + 1 }, false)

/-- How diagnostics show a heap. -/
def debugText (h : Heap) : String :=
  Text.record "MockHeap"
    [("live", toString h.live), ("invalid_frees", toString h.invalidFrees)]

end Heap

end ForeignArena
