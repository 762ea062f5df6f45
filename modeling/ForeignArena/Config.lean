import ForeignArena.Duration
import ForeignArena.Text.Layout
import ForeignArena.Text.Quoted

namespace ForeignArena

/-!
# Configurations

What an arena and a cleaner can be told when they are made, with the checks that a
configuration has to pass.

* `ArenaConfig`, `ArenaConfig.validate` — scoped arenas;
* `CleanerConfig`, `CleanerConfig.validate` — reclamation threads.
-/

/-! ### Scoped arenas -/

/-- How a scoped arena is set up: whether it is bound to its creator's thread, and the
    room reserved for its list of pending disposals. -/
structure ArenaConfig where
  confined : Bool := true
  initialCapacity : Nat := 16
  deriving DecidableEq, Inhabited, Repr

/-- Why an arena configuration is refused. -/
inductive ArenaConfigError where
  | capacityTooLarge (requested max : Nat)
  deriving DecidableEq, Inhabited, Repr

namespace ArenaConfig

/-- The room reserved by default. -/
def defaultCapacity : Nat := 16

/-- The most room that may be reserved. -/
def maxCapacity : Nat := 1048576

/-- The default configuration for an arena that any thread may use. -/
def unconfined : ArenaConfig := { confined := false }

/-- Refuses to reserve more than the most room allowed. -/
def validate (c : ArenaConfig) : Except ArenaConfigError Unit :=
  if c.initialCapacity ≤ maxCapacity then .ok ()
  else .error (.capacityTooLarge c.initialCapacity maxCapacity)

end ArenaConfig

namespace ArenaConfigError

/-- The message of a refused arena configuration. -/
def message : ArenaConfigError → String
  | capacityTooLarge requested max =>
    "initial_capacity " ++ toString requested ++ " exceeds maximum " ++ toString max

/-- How diagnostics show a refused arena configuration. -/
def debugText : ArenaConfigError → String
  | capacityTooLarge requested max =>
    Text.record "CapacityTooLarge" [("requested", toString requested), ("max", toString max)]

end ArenaConfigError

/-! ### Reclamation threads -/

/-- How a cleaner's thread is set up: its name, and how long it sleeps on an empty
    queue before it looks again. -/
structure CleanerConfig where
  threadName : String := "swiftkit-auto-arena-cleaner"
  pollInterval : Duration := { seconds := 60, nanos := 0 }

/-- Why a cleaner configuration is refused. -/
inductive CleanerConfigError where
  | invalidThreadName (name : String)
  | zeroPollInterval
  deriving DecidableEq, Inhabited, Repr

namespace CleanerConfig

/-- Refuses a name with a NUL character, then an empty poll interval. -/
def validate (c : CleanerConfig) : Except CleanerConfigError Unit :=
  if c.threadName.toList.contains '\x00' then .error (.invalidThreadName c.threadName)
  else if c.pollInterval.isZero then .error .zeroPollInterval
  else .ok ()

/-- How diagnostics show a cleaner configuration. -/
def debugText (c : CleanerConfig) : String :=
  Text.record "CleanerConfig"
    [("thread_name", Text.quoted c.threadName), ("poll_interval", c.pollInterval.text)]

end CleanerConfig

namespace CleanerConfigError

/-- The message of a refused cleaner configuration. -/
def message : CleanerConfigError → String
  | invalidThreadName name => "thread name " ++ Text.quoted name ++ " contains a NUL byte"
  | zeroPollInterval => "poll_interval must be non-zero"

/-- How diagnostics show a refused cleaner configuration. -/
def debugText : CleanerConfigError → String
  | invalidThreadName name => Text.record "InvalidThreadName" [("name", Text.quoted name)]
  | zeroPollInterval => "ZeroPollInterval"

end CleanerConfigError

end ForeignArena
