namespace ForeignArena

/-!
# Components in use

A component on its own answers one use after another.  What it promises for every
sequence of uses, of any length, is a fact about each moment of an endless one: only the
uses before the moment bear on what is there.

* `Component` — what a component starts as, and what a use makes of it and answers;
* `Component.after`, `Component.answer` — what it is at a moment, and what it answers then;
* `Component.transcript` — the uses before a moment with their answers.
-/

/-- What a component starts as, and what each use makes of it, with the answer. -/
structure Component (State Use Answer : Type) where
  start : State
  perform : State → Use → State × Answer

namespace Component

variable {State Use Answer : Type} (c : Component State Use Answer) (uses : Nat → Use)

/-- What the component is after the first uses. -/
def after : Nat → State
  | 0 => c.start
  | n + 1 => (c.perform (after n) (uses n)).1

/-- What the component answers to a use. -/
def answer (n : Nat) : Answer :=
  (c.perform (c.after uses n) (uses n)).2

/-- The first uses, each with its answer. -/
def transcript : Nat → List (Use × Answer)
  | 0 => []
  | n + 1 => transcript n ++ [(uses n, c.answer uses n)]

theorem after_succ (n : Nat) :
    c.after uses (n + 1) = (c.perform (c.after uses n) (uses n)).1 := rfl

theorem transcript_succ (n : Nat) :
    c.transcript uses (n + 1) = c.transcript uses n ++ [(uses n, c.answer uses n)] := rfl

end Component

end ForeignArena
