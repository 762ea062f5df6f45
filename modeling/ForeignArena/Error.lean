import ForeignArena.Address
import ForeignArena.Config
import ForeignArena.Thread

namespace ForeignArena

/-!
# Errors

What can go wrong with an instance, a disposal, a cleaner and an arena.  Every error
is a cause; each family has

* `message` — its text for a reader;
* `debugText` — its text in diagnostics;
* `chain` — the messages of the causes behind it, nearest first.
-/

/-! ### Instances -/

/-- Raised before foreign memory is touched: the instance was already destroyed, or a
    null address was offered for a type that has no null object. -/
inductive InstanceError where
  | useAfterFree (typeName : String)
  | invalidAddress (typeName : String)
  deriving DecidableEq, Inhabited, Repr

namespace InstanceError

/-- The message of an instance error. -/
def message : InstanceError → String
  | useAfterFree typeName =>
    "attempted to call method on already destroyed instance of " ++ typeName
  | invalidAddress typeName => "null address is not a valid instance of " ++ typeName

/-- How diagnostics show an instance error. -/
def debugText : InstanceError → String
  | useAfterFree typeName =>
    Text.record "UseAfterFree" [("type_name", Text.quoted typeName)]
  | invalidAddress typeName =>
    Text.record "InvalidAddress" [("type_name", Text.quoted typeName)]

end InstanceError

/-! ### Disposals -/

/-- Why a disposal did not destroy its object: someone else still held a reference, so
    that the object was leaked, or a routine of the type panicked. -/
inductive DisposalError where
  | unexpectedRetainCount (typeName : String) (address : Address) (retainCount : UInt64)
  | destroyPanicked (typeName : String) (address : Address) (panic : String)
  deriving DecidableEq, Inhabited, Repr

namespace DisposalError

/-- The object that was not destroyed. -/
def address : DisposalError → Address
  | unexpectedRetainCount _ address _ => address
  | destroyPanicked _ address _ => address

/-- The name of the object's type. -/
def typeName : DisposalError → String
  | unexpectedRetainCount typeName _ _ => typeName
  | destroyPanicked typeName _ _ => typeName

/-- The message of a disposal error. -/
def message : DisposalError → String
  | unexpectedRetainCount typeName address retainCount =>
    typeName ++ " at " ++ address.hex ++ " has retain count " ++ toString retainCount.toNat
      ++ ", expected 1; it is retained outside its arena and was leaked"
  | destroyPanicked typeName address panic =>
    "destroying " ++ typeName ++ " at " ++ address.hex ++ " panicked: " ++ panic

/-- How diagnostics show a disposal error. -/
def debugText : DisposalError → String
  | unexpectedRetainCount typeName address retainCount =>
    Text.record "UnexpectedRetainCount"
      [("type_name", Text.quoted typeName), ("address", address.debugText),
        ("retain_count", toString retainCount.toNat)]
  | destroyPanicked typeName address panic =>
    Text.record "DestroyPanicked"
      [("type_name", Text.quoted typeName), ("address", address.debugText),
        ("message", Text.quoted panic)]

end DisposalError

/-! ### Cleaners -/

/-- Why a cleaner could not be started. -/
inductive CleanerError where
  | config (error : CleanerConfigError)
  | threadSpawnFailed (reason : String)
  deriving DecidableEq, Inhabited, Repr

namespace CleanerError

/-- The message of a cleaner error. -/
def message : CleanerError → String
  | config error => "config: " ++ error.message
  | threadSpawnFailed reason => "reclamation thread spawn failed: " ++ reason

/-- The causes behind a cleaner error. -/
def chain : CleanerError → List String
  | config error => [error.message]
  | threadSpawnFailed _ => []

/-- How diagnostics show a cleaner error. -/
def debugText : CleanerError → String
  | config error => Text.wrapped "Config" error.debugText
  | threadSpawnFailed reason =>
    Text.record "ThreadSpawnFailed" [("reason", Text.quoted reason)]

end CleanerError

/-! ### Arenas -/

/-- The failures of one closing: how many disposals were attempted, and which of them
    failed, in the order of registration. -/
structure FailedClosing where
  attempted : Nat
  failures : List DisposalError
  deriving DecidableEq, Inhabited, Repr

namespace FailedClosing

/-- The number of disposals that succeeded. -/
def disposed (e : FailedClosing) : Nat :=
  e.attempted - e.failures.length

/-- The addresses of the objects that were not destroyed. -/
def leaked (e : FailedClosing) : List Address :=
  e.failures.map (·.address)

/-- The message of a failed closing: its counts, then each failure. -/
def message (e : FailedClosing) : String :=
  let head := toString e.failures.length ++ " of " ++ toString e.attempted
    ++ " resources failed to dispose"
  if e.failures.isEmpty then head
  else head ++ ": " ++ String.intercalate "; " (e.failures.map (·.message))

/-- The cause behind a failed closing is its first failure. -/
def chain (e : FailedClosing) : List String :=
  e.failures.head?.toList.map (·.message)

/-- How diagnostics show a failed closing. -/
def debugText (e : FailedClosing) : String :=
  Text.record "CloseError"
    [("attempted", toString e.attempted),
      ("failures", Text.bracketed (e.failures.map (·.debugText)))]

end FailedClosing

/-- Why an arena could not be made, or refused a registration or a closing. -/
inductive ArenaError where
  | closed
  | wrongThread (owner caller : ThreadId)
  | inst (error : InstanceError)
  | disposal (error : FailedClosing)
  | config (error : ArenaConfigError)
  | cleaner (error : CleanerError)
  deriving DecidableEq, Inhabited, Repr

namespace ArenaError

/-- The message of an arena error. -/
def message : ArenaError → String
  | closed => "arena is closed"
  | wrongThread owner caller =>
    "confined arena owned by " ++ owner.debugText ++ " used from " ++ caller.debugText
  | inst error => "instance: " ++ error.message
  | disposal error => "close: " ++ error.message
  | config error => "config: " ++ error.message
  | cleaner error => "cleaner: " ++ error.message

/-- The causes behind an arena error. -/
def chain : ArenaError → List String
  | closed => []
  | wrongThread _ _ => []
  | inst error => [error.message]
  | disposal error => error.message :: error.chain
  | config error => [error.message]
  | cleaner error => error.message :: error.chain

/-- How diagnostics show an arena error. -/
def debugText : ArenaError → String
  | closed => "Closed"
  | wrongThread owner caller =>
    Text.record "WrongThread" [("owner", owner.debugText), ("caller", caller.debugText)]
  | inst error => Text.wrapped "Instance" error.debugText
  | disposal error => Text.wrapped "Disposal" error.debugText
  | config error => Text.wrapped "Config" error.debugText
  | cleaner error => Text.wrapped "Cleaner" error.debugText

end ArenaError

/-! ### All errors together -/

/-- An error of any family.  Errors of different families are never equal. -/
inductive Failure where
  | inst (error : InstanceError)
  | disposal (error : DisposalError)
  | arenaConfig (error : ArenaConfigError)
  | cleanerConfig (error : CleanerConfigError)
  | cleaner (error : CleanerError)
  | arena (error : ArenaError)
  deriving DecidableEq, Inhabited, Repr

namespace Failure

/-- The message of an error. -/
def message : Failure → String
  | inst error => error.message
  | disposal error => error.message
  | arenaConfig error => error.message
  | cleanerConfig error => error.message
  | cleaner error => error.message
  | arena error => error.message

/-- How diagnostics show an error. -/
def debugText : Failure → String
  | inst error => error.debugText
  | disposal error => error.debugText
  | arenaConfig error => error.debugText
  | cleanerConfig error => error.debugText
  | cleaner error => error.debugText
  | arena error => error.debugText

/-- The causes behind an error.  Instance, disposal and configuration errors have
    none. -/
def chain : Failure → List String
  | cleaner error => error.chain
  | arena error => error.chain
  | _ => []

end Failure

end ForeignArena
