import ForeignArena.Scenario.Plain

namespace ForeignArena.Scenario

/-!
# Running a scenario

The steps of a scenario run one after the other.  Work that may call supplied code is
started in the system and driven until its outcome comes back; whenever the system
waits for supplied code, the hook of that code runs, and its steps may start work of
their own.  After each top-level step the reclamation threads take what is queued, in
the order in which the tokens were dropped.

* `State.perform`, `State.drive` — one step, and work in progress;
* `State.settle` — the reclamation threads, until all queues are empty;
* `run` — a whole scenario, with one report for each step.

Hooks can call each other without end, so the work of a step is limited by a number far
above what a terminating scenario needs.
-/

namespace State

/-! ### Supplied code -/

/-- What a piece of supplied code does when it is called: what it logs first, the steps
    that it runs, and how it ends. -/
structure Routine where
  entry : LogEntry
  body : Hook
  outcome : Outcome

/-- An outcome, unless a panic is planned. -/
def outcomeOf (panic : Option Payload) (reply : Reply) : Outcome :=
  match panic with
  | some payload => .error payload
  | none => .ok reply

/-- The code behind a request.  A count routine answers the count that is set when it is
    entered. -/
def routine? (s : State) : Request → Option Routine
  | .count _ type address => do
    let code ← s.codeOf? type
    let count := (code.counts.lookup address).getD code.count
    pure
      { entry := .count type.name address count
        body := code.onCount
        outcome := outcomeOf (code.countPanic.payloadFor? address) (.count (some count)) }
  | .destroy thread type address => do
    let code ← s.codeOf? type
    pure
      { entry := .destroy type.name address thread
        body := code.onDestroy
        outcome := outcomeOf (code.destroyPanic.payloadFor? address) .done }
  | .action thread tag => do
    let code ← s.actions[tag]?
    pure
      { entry := .action code.token thread
        body := code.body
        outcome := outcomeOf code.panic.payload .done }

/-! ### Moving the system -/

/-- Start some work in the system. -/
def start (s : State) (work : Work) : State :=
  { s with system := s.system.start work }

/-- Let the system make one step. -/
def tick (s : State) : State :=
  { s with system := s.system.tick }

/-- Tell the system how supplied code has ended. -/
def reply (s : State) (o : Outcome) : State :=
  { s with system := s.system.answer o }

/-- The answer to an outcome, if it is no panic. -/
def answerOf (o : Outcome) (f : Reply → Answer) : Answer :=
  match o with
  | .ok reply => f reply
  | .error payload => .panicked payload

/-- The answer that shows a count. -/
def countAnswer (type : ForeignType) : Reply → Answer
  | .count count => .typeInfo type count
  | _ => .ok

/-- The answer that shows a disposal. -/
def disposalAnswer : Reply → Answer
  | .disposed result => .ofDisposal result
  | _ => .ok

/-- The answer that shows a closing. -/
def closingAnswer : Reply → Answer
  | .closed result => .ofClosing result
  | _ => .ok

/-- The answer that shows the error of a closing, if there was one. -/
def chainAnswer : Reply → Answer
  | .closed (.error e) => .failure e
  | _ => .nothing

/-- The answer that shows whether an action ran. -/
def cleanAnswer : Reply → Answer
  | .cleaned ran => .truth ran
  | _ => .ok

/-- A number for each of the next `n` threads of a race. -/
def racersFrom (s : State) (n : Nat) : List ThreadId :=
  (List.range' s.racers n).map .racer

/-! ### Dropping things -/

/-- The receipts that go with a thing. -/
def receipts : Item → List Registration
  | .registration r => [r]
  | .token c token => [.tracked c token]
  | .inst _ i => [i.registration]
  | .batch instances => instances.toList.map (·.registration)
  | _ => []

/-- What dropping a thing starts, piece by piece.  Most things just vanish. -/
def dropWork (thread : ThreadId) : Item → List Work
  | .arena a => [.drop thread a]
  | item => (receipts item).map (.dropRegistration thread)

/-- Drop the handle of a cleaner, if the thing is one. -/
def dropHandle (s : State) : Item → State
  | .auto c | .cleaner c => s.setStore (s.store.modifyCleaner c (·.release))
  | _ => s

/-- Take a thing out of the scenario to drop it.  An instance on which a call is in
    progress stays until the call is over. -/
def takeOut (s : State) (id : String) (item : Item) : State × List Item :=
  let s := (s.erase id).dropHandle item
  match item with
  | .inst _ i =>
    if s.inUse.contains i.flag then ({ s with retired := s.retired ++ [i] }, [])
    else (s, [item])
  | _ => (s, [item])

/-- Vacate a name, if it is in use.  Returns what is left to drop. -/
def vacate (s : State) (id : String) : State × List Item :=
  match s.find? id with
  | some item => s.takeOut id item
  | none => (s, [])

/-- A call on an instance begins. -/
def borrow (s : State) (i : Instance) : State :=
  { s with inUse := i.flag :: s.inUse }

/-- A call on an instance is over.  Returns the receipts that can now be dropped. -/
def giveBack (s : State) (i : Instance) : State × List Registration :=
  let s := { s with inUse := s.inUse.erase i.flag }
  if s.inUse.contains i.flag then (s, [])
  else
    let (ended, kept) := s.retired.partition fun r => r.flag == i.flag
    ({ s with retired := kept }, ended.map (·.registration))

/-! ### Steps -/

mutual

/-- Run one step on a thread. -/
def perform (limit : Nat) (s : State) (thread : ThreadId) (step : Step) : State × Answer :=
  match limit with
  | 0 => (s, .refused .exhausted)
  | limit + 1 =>
    match step with
    | .step _ worker fresh command =>
      let thread := match worker with
        | some name => ThreadId.worker name
        | none => thread
      if fresh.any fun id => !s.isFree id then (s, .badInput)
      else
        let done := match command with
          | .flag c => s.onFlag c
          | .type c => s.onType c
          | .registry c => s.onRegistry thread c
          | .disposal c => s.onDisposal thread c
          | .arena c => s.onArena thread c
          | .cleaner c => s.onCleaner thread c
          | .inst c => s.onInstance thread c
          | .heap c => s.onHeap thread c
          | .slots c => s.onSlots c
          | .confinement c => s.onConfinement thread c
          | .work c => work limit s thread c
          | .debug other => do
            let item ← s.find? other
            let text ← s.itemText? item
            pure (s, .text text)
          | .mark text => some (s.write (.mark text thread), .ok)
          | .wait => some (s, .ok)
          | .malformed => none
        done.getD (s, .badInput)

/-- Run a command that may call supplied code. -/
def work (limit : Nat) (s : State) (thread : ThreadId) (c : WorkCommand Hook) :
    Option (State × Answer) :=
  match limit with
  | 0 => some (s, .refused .exhausted)
  | limit + 1 =>
    match c with
    | .count other address => do
      let type ← s.type? other
      let (s, o) := drive limit (s.start (.count thread type address))
      pure (s, answerOf o (countAnswer type))
    | .destroy other address => do
      let type ← s.type? other
      let (s, o) := drive limit (s.start (.destroy thread type address))
      pure (s, answerOf o fun _ => .ok)
    | .dispose other guarded => do
      let d ← s.disposal? other
      let s := s.erase other
      let work := if guarded then Work.disposeGuarded thread d else .dispose thread d
      let (s, o) := drive limit (s.start work)
      pure (s, answerOf o disposalAnswer)
    | .close other => do
      let a ← s.arena? other
      let (s, o) := drive limit (s.start (.close thread a))
      pure (s, answerOf o closingAnswer)
    | .race other n => do
      let a ← s.arena? other
      let racers := s.racersFrom n
      let s := { s with racers := s.racers + n }
      let (s, answers) := racers.foldl (fun (s, answers) racer =>
        let (s, o) := drive limit (s.start (.close racer a))
        (s, answerOf o closingAnswer :: answers)) (s, [])
      pure (s, .race answers.reverse)
    | .closeChain other => do
      let a ← s.arena? other
      let (s, o) := drive limit (s.start (.close thread a))
      pure (s, answerOf o chainAnswer)
    | .clean other => do
      let (c, token) ← s.token? other
      let s := s.erase other
      let (s, o) := drive limit (s.start (.clean thread c token))
      pure (s, answerOf o cleanAnswer)
    | .call other add body => do
      let (_, i) ← s.inst? other
      match s.store.call i fun address =>
        (performAll limit (s.borrow i) thread body, address) with
      | .error e => pure (s, .refused (.inst e))
      | .ok (s, address) =>
        let (s, receipts) := s.giveBack i
        match driveAll limit s (receipts.map (.dropRegistration thread)) with
        | (s, some payload) => pure (s, .panicked payload)
        | (s, none) => pure (s, .number (address.word + add).toNat)
    | .fill id n =>
      match s.store.openFilled thread n with
      | (st, .error e) => some (s.setStore st, .refused (.arena e))
      | (st, .ok (a, instances)) =>
        match supplant limit (s.setStore st) thread (id ++ ".all") (.batch instances) with
        | (s, .ok) => some (supplant limit s thread id (.arena a))
        | (s, panicked) =>
          -- the arena has no name yet, so the panic takes it along
          let (s, _) := dropAll limit s thread [.arena a]
          some (s, panicked)
    | .drop ids =>
      some <| ids.foldl (fun (s, answer) id =>
        match answer with
        | .ok =>
          match id.bind fun id => (s.find? id).map (id, ·) with
          | none => (s, .badInput)
          | some (id, item) =>
            let (s, items) := s.takeOut id item
            dropAll limit s thread items
        | stopped => (s, stopped)) (s, .ok)

/-- Drop things that were taken out of the scenario. -/
def dropAll (limit : Nat) (s : State) (thread : ThreadId) (items : List Item) :
    State × Answer :=
  match limit with
  | 0 => (s, .refused .exhausted)
  | limit + 1 =>
    let (s, panic) := driveAll limit s (items.flatMap (dropWork thread))
    match panic with
    | some payload => (s, .panicked payload)
    | none => (s, .ok)

/-- Give a name to a thing, then drop what had the name. -/
def supplant (limit : Nat) (s : State) (thread : ThreadId) (id : String) (item : Item) :
    State × Answer :=
  match limit with
  | 0 => (s, .refused .exhausted)
  | limit + 1 =>
    let (s, items) := s.vacate id
    dropAll limit (s.add id item) thread items

/-- Run the steps of a hook on a thread, and log each with its answer. -/
def performAll (limit : Nat) (s : State) (thread : ThreadId) (hook : Hook) : State :=
  match limit with
  | 0 => s
  | limit + 1 =>
    hook.foldl (fun s step =>
      let (s, answer) := perform limit s thread step
      s.write (.step step.name answer)) s

/-- Drive pieces of work one after the other.  Returns the first panic that came out of
    one of them; the others are driven all the same. -/
def driveAll (limit : Nat) (s : State) (works : List Work) :
    State × Option Payload :=
  match limit with
  | 0 => (s, none)
  | limit + 1 =>
    works.foldl (fun (s, panic) work =>
      match drive limit (s.start work) with
      | (s, .error payload) => (s, panic.or (some payload))
      | (s, .ok _) => (s, panic)) (s, none)

/-- Drive the work in progress until its outcome comes back to the client. -/
def drive (limit : Nat) (s : State) : State × Outcome :=
  match limit with
  | 0 => (s, .ok .done)
  | limit + 1 =>
    match s.system.focus with
    | .client (some outcome) => (s, outcome)
    | .handing _ => drive limit s.tick
    | .client none =>
      match s.system.request? with
      | none => (s, .ok .done)
      | some request =>
        match s.routine? request with
        | none => drive limit (s.reply request.idle)
        | some routine =>
          let s := performAll limit (s.write routine.entry) request.thread routine.body
          drive limit (s.reply routine.outcome)

end

/-! ### Settling -/

/-- The cleaner whose thread should take from its queue next: of those that wait with
    something queued, the one whose first token was dropped first. -/
def nextReceiver? (st : Store) : Option Nat :=
  let waiting := (List.range st.cleaners.size).filter fun c => (st.cleaner c).dequeue?.isSome
  match waiting with
  | [] => none
  | [c] => some c
  | _ => st.history.reverse.findSome? fun h =>
      match h with
      | .queued c token =>
        if waiting.contains c && (st.cleaner c).queue.head? == some token then some c else none
      | _ => none

/-- Let the reclamation threads take what is queued until nothing is, then stop those
    that nobody needs any more. -/
def settle (limit : Nat) (s : State) : State :=
  match limit with
  | 0 => s
  | limit + 1 =>
    match nextReceiver? s.store with
    | some c =>
      let (s, _) := drive limit (s.start (.receive c))
      settle limit s
    | none => s.setStore s.store.settle

end State

/-! ### Whole scenarios -/

/-- What is reported of a step: its answer, what hooks logged during it and during the
    settling after it, and the records of what happened, if they are asked for. -/
structure Report where
  answer : Answer
  log : List LogEntry
  records : List Record

/-- The limit on the work of one step. -/
def workLimit : Nat := 1000000000

/-- Run one top-level step and let the reclamation threads settle. -/
def State.advance (s : State) (traced : Bool) (step : Step) : State × Report :=
  let (s', answer) := State.perform workLimit { s with log := [] } .main step
  let s' := State.settle workLimit s'
  let new := s'.store.history.take (s'.store.history.length - s.store.history.length)
  let records := if traced then History.records new else []
  (s', { answer, log := s'.log.reverse, records })

/-- Run a scenario from nothing.  Returns one report for each step. -/
def run (traced : Bool) (steps : List Step) : List Report :=
  let (_, reports) := steps.foldl (fun (s, reports) step =>
    let (s, report) := State.advance s traced step
    (s, report :: reports)) (({} : State), [])
  reports.reverse

end ForeignArena.Scenario
