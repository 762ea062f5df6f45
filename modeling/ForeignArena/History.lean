import ForeignArena.Cleaner
import ForeignArena.Error

namespace ForeignArena

/-!
# Histories

Everything of note that happens to arenas, cleaners and registries, in the order in
which it happens.  Some happenings are also reported to the outside as records.

* `Happening` — one entry of a history;
* `Happening.record?` — the record by which it is reported, if it is;
* `Happening.thread?` — the thread that reports it.
-/

/-- How urgent a record is. -/
inductive Level where
  | trace
  | debug
  | warn
  | error
  deriving DecidableEq, Inhabited, Repr

/-- A value in a record. -/
inductive RecordValue where
  | text (s : String)
  | number (n : Nat)
  deriving DecidableEq, Inhabited, Repr

/-- A report to the outside. -/
structure Record where
  level : Level
  message : String
  fields : List (String × RecordValue)
  deriving DecidableEq, Inhabited, Repr

/-- Something that happened.  The first group is reported, the second is not. -/
inductive Happening where
  /-- A scoped arena was made. -/
  | arenaOpened (thread : ThreadId) (arena : Nat) (confinement : Confinement)
  /-- The closing of an arena came to its regular end. -/
  | arenaClosed (thread : ThreadId) (arena attempted failed : Nat)
  /-- A disposal failed during the closing of an arena. -/
  | leaked (thread : ThreadId) (arena : Nat) (error : DisposalError)
  /-- An active arena was dropped by a thread that may not close it. -/
  | arenaAbandoned (thread : ThreadId) (arena : Nat) (confinement : Confinement) (lost : Nat)
  /-- The closing of a dropped arena had failures. -/
  | dropFailed (thread : ThreadId) (arena : Nat) (error : ArenaError)
  /-- The destroy routine of a type is about to be called for a disposal. -/
  | destroying (thread : ThreadId) (disposal : Disposal)
  /-- A registry is about to make a descriptor. -/
  | registeringType (thread : ThreadId) (name : String)
  /-- A reclamation thread was started. -/
  | reclaimerStarted (thread : ThreadId) (cleaner : Nat) (name : String)
  /-- A cleaner was put to the service of an arena. -/
  | autoOpened (thread : ThreadId) (cleaner : Nat)
  /-- A disposal run by a cleaner failed without a panic. -/
  | autoFailed (thread : ThreadId) (cleaner token : Nat) (error : DisposalError)
  /-- An action panicked. -/
  | actionPanicked (thread : ThreadId) (cleaner token : Nat) (panic : String)
  /-- A dropped token found its thread dead. -/
  | threadGone (thread : ThreadId) (cleaner token : Nat)
  /-- An arena accepted a disposal. -/
  | accepted (arena : Nat) (disposal : Disposal)
  /-- An arena went from active to closed. -/
  | closing (thread : ThreadId) (arena : Nat)
  /-- The closing of an arena turned to a disposal. -/
  | attempting (thread : ThreadId) (arena : Nat) (disposal : Disposal)
  /-- A disposal began: its flag was set. -/
  | began (thread : ThreadId) (disposal : Disposal)
  /-- The count routine of a type is about to be called for a disposal. -/
  | counting (thread : ThreadId) (disposal : Disposal)
  /-- The destroy routine of a type has ended normally for a disposal. -/
  | destroyed (thread : ThreadId) (disposal : Disposal)
  /-- An action was registered. -/
  | tracked (cleaner token : Nat) (action : Action)
  /-- An action left the live set and began. -/
  | started (thread : ThreadId) (cleaner token : Nat) (action : Action)
  /-- An action ended normally. -/
  | actionEnded (thread : ThreadId) (cleaner token : Nat)
  /-- A dropped token was queued. -/
  | queued (cleaner token : Nat)
  /-- A reclamation thread took a token from its queue. -/
  | received (cleaner token : Nat)
  deriving DecidableEq, Inhabited, Repr

/-- What has happened so far, the latest first. -/
abbrev History := List Happening

namespace Happening

/-- The record by which a happening is reported. -/
def record? : Happening → Option Record
  | arenaOpened _ _ confinement =>
    some ⟨.debug, "confined arena opened", [("owner", .text confinement.ownerText)]⟩
  | arenaClosed _ _ attempted failed =>
    some ⟨.debug, "confined arena closed",
      [("attempted", .number attempted), ("failed", .number failed)]⟩
  | leaked _ _ error =>
    some ⟨.warn, "instance leaked during arena close", [("error", .text error.message)]⟩
  | arenaAbandoned _ _ confinement lost =>
    some ⟨.warn, "confined arena dropped off its owning thread; pending instances leaked",
      [("owner", .text confinement.ownerText), ("leaked", .number lost)]⟩
  | dropFailed _ _ error =>
    some ⟨.error, "confined arena dropped with disposal failures",
      [("error", .text error.message)]⟩
  | destroying _ disposal =>
    some ⟨.trace, "destroying swift instance",
      [("type_name", .text disposal.type.name), ("address", .text disposal.address.hex),
        ("kind", .text disposal.type.kind.debugText)]⟩
  | registeringType _ name =>
    some ⟨.debug, "registering swift type descriptor", [("type_name", .text name)]⟩
  | reclaimerStarted _ _ name =>
    some ⟨.debug, "reclamation thread started", [("thread", .text name)]⟩
  | autoOpened _ _ => some ⟨.debug, "auto arena opened", []⟩
  | autoFailed _ _ _ error =>
    some ⟨.warn, "auto arena failed to dispose instance", [("error", .text error.message)]⟩
  | actionPanicked _ _ token panic =>
    some ⟨.warn, "cleanup action panicked; continuing",
      [("cleanable", .number token), ("panic", .text panic)]⟩
  | threadGone _ _ token =>
    some ⟨.warn, "reclamation thread is gone; running cleanup inline",
      [("cleanable", .number token)]⟩
  | _ => none

/-- The thread on which a reported happening took place. -/
def thread? : Happening → Option ThreadId
  | arenaOpened thread _ _ | arenaClosed thread _ _ _ | leaked thread _ _
  | arenaAbandoned thread _ _ _ | dropFailed thread _ _ | destroying thread _
  | registeringType thread _ | reclaimerStarted thread _ _ | autoOpened thread _
  | autoFailed thread _ _ _ | actionPanicked thread _ _ _ | threadGone thread _ _
  | closing thread _ | attempting thread _ _ | began thread _ | counting thread _
  | destroyed thread _ | started thread _ _ _ | actionEnded thread _ _ => some thread
  | accepted _ _ | tracked _ _ _ | queued _ _ | received _ _ => none

/-- The record of a happening with its thread. -/
def reported? (h : Happening) : Option (ThreadId × Record) :=
  match h.thread?, h.record? with
  | some thread, some record => some (thread, record)
  | _, _ => none

end Happening

namespace History

/-- The records of a history, oldest first: those of the driving threads, then those of
    the reclamation threads, each group in order. -/
def records (h : History) : List Record :=
  let reported := h.reverse.filterMap Happening.reported?
  let (late, early) := reported.partition fun (thread, _) => thread.isReclaimer
  (early ++ late).map (·.2)

end History

end ForeignArena
