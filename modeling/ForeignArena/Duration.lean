namespace ForeignArena

/-!
# Durations

A span of time as whole seconds and nanoseconds, and its text in the largest unit
of which it holds at least one.

* `Duration.isZero` — whether the span is empty;
* `Duration.text` — for instance `60s`, `1.5ms`, `999ns`.
-/

/-- A span of time: whole seconds, and the nanoseconds of a broken one. -/
structure Duration where
  seconds : UInt64
  nanos : Nat
  nanos_lt : nanos < 1000000000 := by decide

namespace Duration

/-- Whether the span is empty. -/
def isZero (d : Duration) : Bool :=
  d.seconds == 0 && d.nanos == 0

/-- The digits of a fraction with `width` places, the zeros at its end left out. -/
def fractionDigits (width n : Nat) : List Char :=
  let digits := Nat.toDigits 10 n
  let padded := List.replicate (width - digits.length) '0' ++ digits
  (padded.reverse.dropWhile (· == '0')).reverse

/-- A number with `width` decimal places; a fraction of zero is left out with its
    point. -/
def decimal (whole fraction width : Nat) : String :=
  let digits := fractionDigits width fraction
  if digits.isEmpty then toString whole
  else toString whole ++ "." ++ String.ofList digits

/-- The span in seconds, milliseconds, microseconds or nanoseconds: in the first of
    these of which it holds at least one, and in nanoseconds if it is empty. -/
def text (d : Duration) : String :=
  if 0 < d.seconds then decimal d.seconds.toNat d.nanos 9 ++ "s"
  else if 1000000 ≤ d.nanos then decimal (d.nanos / 1000000) (d.nanos % 1000000) 6 ++ "ms"
  else if 1000 ≤ d.nanos then decimal (d.nanos / 1000) (d.nanos % 1000) 3 ++ "µs"
  else toString d.nanos ++ "ns"

example : text { seconds := 1, nanos := 500000000 } = "1.5s" := by decide +kernel

example : text { seconds := 0, nanos := 1000001 } = "1.000001ms" := by decide +kernel

example : text { seconds := 0, nanos := 0 } = "0ns" := by decide +kernel

end Duration

end ForeignArena
