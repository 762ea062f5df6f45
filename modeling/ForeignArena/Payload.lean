namespace ForeignArena

/-!
# Panic payloads

What a panicking routine throws.  A payload may carry a text, and it is itself an
object with a destructor: an *armed* payload panics again when it is dropped.  So
code that catches a panic has only contained it once it has dropped the payload.

* `Payload.message` — the text by which a panic is reported;
* `Payload.dropped?` — the panic raised by dropping a payload, if there is one.
-/

/-- The value thrown by a panic: a fixed text, a text made at run time, a boxed
    text, a number, or a value whose destructor panics. -/
inductive Payload where
  | literal (text : String)
  | owned (text : String)
  | boxed (text : String)
  | number (n : UInt8)
  | armed
  deriving DecidableEq, Inhabited, Repr

namespace Payload

/-- The text by which a panic is reported.  Only the first two kinds of payload can
    be read; all others share one description. -/
def message : Payload → String
  | literal text => text
  | owned text => text
  | _ => "non-string panic payload"

/-- The panic that dropping a payload raises. -/
def dropped? : Payload → Option Payload
  | armed => some (literal "payload destructor panicked")
  | _ => none

end Payload

end ForeignArena
