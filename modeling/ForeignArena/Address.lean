import ForeignArena.Text.Layout
import ForeignArena.Text.Quoted

namespace ForeignArena

/-!
# Foreign addresses

The address of an object owned by the foreign side.  It is carried from the wrapper
that received it to the routine that destroys the object, and never followed.

* `Address.null` — the address that names no object;
* `Address.hex` — how messages show an address;
* `Address.debugText` — how diagnostics show it.
-/

/-- A 64-bit address of foreign memory. -/
structure Address where
  word : UInt64
  deriving DecidableEq, Inhabited, Repr

namespace Address

/-- The address that names no object. -/
def null : Address := ⟨0⟩

/-- Whether an address names no object. -/
def isNull (a : Address) : Bool :=
  a.word == 0

/-- Addresses are ordered as numbers. -/
def le (a b : Address) : Bool :=
  a.word ≤ b.word

/-- The address in a message: lowercase hexadecimal after `0x`. -/
def hex (a : Address) : String :=
  "0x" ++ String.ofList (Text.hexDigits a.word.toNat)

example : hex ⟨255⟩ = "0xff" := by decide +kernel

example : hex null = "0x0" := by decide +kernel

/-- The address in a diagnostic: a decimal number. -/
def debugText (a : Address) : String :=
  Text.wrapped "ForeignAddress" (toString a.word.toNat)

/-- Addresses in ascending order, equal ones side by side. -/
def sort (addresses : List Address) : List Address :=
  addresses.mergeSort le

/-- The greatest of some addresses, if there is one. -/
def greatest? (addresses : List Address) : Option Address :=
  (sort addresses).getLast?

end Address

end ForeignArena
