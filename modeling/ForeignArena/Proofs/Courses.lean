import ForeignArena.Proofs.Bases
import ForeignArena.Proofs.Following
import ForeignArena.Proofs.Routines

namespace ForeignArena

/-!
# The course of a disposal

A disposal calls its count routine, if its type has counts, and its destroy routine, if nobody else
holds the object.  What else happens in the meantime, happens in these routines.

* `Disposal.Event`, `Disposal.Course` — what a disposal can do, up to its outcome;
* `Disposal.Course.counts`, `Disposal.Course.destroys`, `Disposal.Course.leaks`,
  `Disposal.Course.panics` — how often it calls its routines, and what comes of it;
* `System.eventsOver`, `Schedule.events` — what happens in a call itself, right over its base;
* `System.Follows`, `System.Follows.perform` — a disposal in progress stays on its course;
* `Schedule.BeginsOver`, `Schedule.course` — so every disposal takes such a course.
-/

/-! ### Courses -/

/-- What happens in a disposal itself: a routine is called, or an outcome is taken. -/
inductive Disposal.Event where
  | called (r : Request)
  | took (o : Outcome)

namespace Disposal

/-- What a disposal makes of the outcome of its destroy routine. -/
def ending : Outcome → Outcome
  | .ok _ => .ok (.disposed (.ok ()))
  | .error payload => .error payload

/-- The courses that a disposal can take: what has happened in it up to some moment, and its outcome
    if it has one. -/
inductive Course (thread : ThreadId) (d : Disposal) : List Event → Option Outcome → Prop where
  /-- The count of an object is asked for, if it has one. -/
  | counting : d.type.kind.isReference = true →
    Course thread d [.called (.count thread d.type d.address)] none
  /-- An object that others still hold is leaked. -/
  | held (count : UInt64) : d.type.kind.isReference = true → 1 < count →
    Course thread d
      [.called (.count thread d.type d.address), .took (.ok (.count (some count)))]
      (some (.ok (.disposed (.error (.unexpectedRetainCount d.type.name d.address count)))))
  /-- And so is one whose count is not known because of a panic. -/
  | unanswered (payload : Payload) : d.type.kind.isReference = true →
    Course thread d [.called (.count thread d.type d.address), .took (.error payload)]
      (some (.error payload))
  /-- Every other object is destroyed. -/
  | releasing (count : Option UInt64) : d.type.kind.isReference = true →
    (∀ n, count = some n → n ≤ 1) →
    Course thread d
      [.called (.count thread d.type d.address), .took (.ok (.count count)),
        .called (.destroy thread d.type d.address)] none
  | released (count : Option UInt64) (o : Outcome) : d.type.kind.isReference = true →
    (∀ n, count = some n → n ≤ 1) →
    Course thread d
      [.called (.count thread d.type d.address), .took (.ok (.count count)),
        .called (.destroy thread d.type d.address), .took o] (some (ending o))
  | destroying : d.type.kind.isReference = false →
    Course thread d [.called (.destroy thread d.type d.address)] none
  | destroyed (o : Outcome) : d.type.kind.isReference = false →
    Course thread d [.called (.destroy thread d.type d.address), .took o] (some (ending o))

/-! ### What comes of a course -/

/-- Whether a count routine is called. -/
def Event.isCount : Event → Bool
  | called (.count _ _ _) => true
  | _ => false

/-- Whether a destroy routine is called. -/
def Event.isDestroy : Event → Bool
  | called (.destroy _ _ _) => true
  | _ => false

/-- How the count routine came out, if it was called. -/
def answer? : List Event → Option Outcome
  | .called (.count _ _ _) :: .took o :: _ => some o
  | _ => none

/-- Whether an object is destroyed when its count routine has come out like this. -/
def permits : Outcome → Bool
  | .ok (.count (some n)) => n ≤ 1
  | .ok _ => true
  | .error _ => false

variable {thread : ThreadId} {d : Disposal} {events : List Event} {last : Option Outcome}
  {o : Outcome}

/-- An object is asked for its count once, or never if it has none. -/
theorem Course.counts (h : d.Course thread events last) :
    events.countP (·.isCount) = if d.type.kind.isReference then 1 else 0 := by
  cases h <;> simp [Event.isCount, *]

/-- It is destroyed once, as soon as an answer permits that if it is asked for its count. -/
theorem Course.destroys (h : d.Course thread events last) :
    events.countP (·.isDestroy) =
      if !d.type.kind.isReference || (answer? events).any permits then 1 else 0 := by
  have hpermits {count : Option UInt64} (hone : ∀ n, count = some n → n ≤ 1) :
      permits (.ok (.count count)) = true := by
    cases count with
    | none => rfl
    | some n => exact decide_eq_true (hone n rfl)
  -- each course is a list of calls and outcomes, so that its answer can be read off
  cases h with
  | counting href | unanswered _ href => simp [Event.isDestroy, answer?, permits, href]
  | held count href hcount =>
    simp [Event.isDestroy, answer?, permits, href, UInt64.not_le.mpr hcount]
  | releasing count href hone | released count _ href hone =>
    simp [Event.isDestroy, answer?, href, hpermits hone]
  | destroying hvalue | destroyed _ hvalue => simp [Event.isDestroy, hvalue]

/-- An object is leaked if the count that was answered is above one, and is reported with it. -/
theorem Course.leaks (h : d.Course thread events last) (e : DisposalError) :
    last = some (.ok (.disposed (.error e))) ↔
      ∃ count, 1 < count ∧ answer? events = some (.ok (.count (some count))) ∧
        e = .unexpectedRetainCount d.type.name d.address count := by
  constructor
  · intro hlast
    cases h with
    | held count _ hcount =>
      cases hlast
      exact ⟨count, hcount, rfl, rfl⟩
    | released _ o | destroyed o => cases o <;> cases hlast
    | _ => cases hlast
  · rintro ⟨n, hn, hanswer, rfl⟩
    cases h with
    | held count =>
      cases hanswer
      rfl
    | releasing count _ hone | released count _ _ hone =>
      cases hanswer
      exact absurd hn (UInt64.not_lt.mpr (hone n rfl))
    | _ => cases hanswer

/-- A disposal panics if a routine does, with the same payload. -/
theorem Course.panics (h : d.Course thread events (some o)) (payload : Payload) :
    o = .error payload ↔ .took (.error payload) ∈ events := by
  cases h with
  | held count | unanswered => simp [eq_comm]
  | released count o | destroyed o => cases o <;> simp [ending, eq_comm]

end Disposal

namespace System

/-! ### What happens right over a base -/

/-- How many frames wait, without the request that is on top. -/
def height (s : System) : Nat :=
  match s.stack with
  | .awaiting _ :: rest => rest.length
  | stack => stack.length

/-- The outcome that is taken with a move right over a base of some height. -/
def tookOver (k : Nat) (s : System) : Move → List Disposal.Event
  | .tick =>
    match s.focus with
    | .handing o => if s.stack.length = k + 1 then [.took o] else []
    | .client _ => []
  | _ => []

/-- The routine that was called last right over a base of some height, after some other calls. -/
def calledOver (k : Nat) (before : List Request) (s : System) : List Disposal.Event :=
  if s.height = k + 1 then (s.calls.drop before.length).map .called else []

/-- What happens with a move right over a base of some height: an outcome is taken there, and a
    routine is called from there. -/
def eventsOver (k : Nat) (s : System) (move : Move) : List Disposal.Event :=
  s.tookOver k move ++ (s.perform move).calledOver k s.calls

variable {s : System} {k : Nat} {before : List Request} {move : Move}

theorem tookOver_of_ne_tick (hmove : move ≠ .tick) : s.tookOver k move = [] := by
  cases move <;> first | rfl | exact absurd rfl hmove

theorem tookOver_of_length_ne (hlength : s.stack.length ≠ k + 1) : s.tookOver k move = [] := by
  cases move with
  | tick =>
    unfold tookOver
    cases s.focus with
    | handing o => exact if_neg hlength
    | client news => rfl
  | _ => rfl

/-- Where the calls are the same, nothing was called. -/
theorem calledOver_nil (h : s.calls = before) : s.calledOver k before = [] := by
  rw [calledOver, h, List.drop_length]
  exact ite_self _

theorem calledOver_one {r : Request} (h : s.calls = before ++ [r]) (hheight : s.height = k + 1) :
    s.calledOver k before = [.called r] := by
  rw [calledOver, if_pos hheight, h, List.drop_left]
  rfl

end System

/-! ### Work above a disposal -/

section

variable {asked : Disposal → Prop} {h : History} {thread : ThreadId} {d : Disposal} {f : Frame}
  {r : Request} {rest base : List Frame}

theorem Grounded.above (hf : f.routine? = some r) (hbase : Grounded (rest ++ f :: base)) :
    Grounded rest := by
  cases rest with
  | nil =>
    obtain hnil | ⟨r', _, heq⟩ := hbase
    · cases hnil
    · cases heq
      cases hf
  | cons g rest =>
    obtain hnil | ⟨r', _, heq⟩ := hbase
    · cases hnil
    · cases heq
      exact .inr ⟨r', rest, rfl⟩

/-- What a disposal rests on that runs above another one lies above that, too. -/
theorem Warrant.above (hf : f.routine? = some r)
    (hwarrant : Warrant asked h thread d (rest ++ f :: base)) : Warrant asked h thread d rest := by
  generalize hall : rest ++ f :: base = all at hwarrant
  cases hwarrant with
  | closing a n failures todo below hmem =>
    obtain _ | ⟨g, _ | ⟨g', rest⟩⟩ := rest
    · cases hall
      cases hf
    · cases hall
      cases hf
    · cases hall
      exact .closing a n failures todo rest hmem
  | action c token below hmem =>
    obtain _ | ⟨g, _ | ⟨g', rest⟩⟩ := rest
    · cases hall
      cases hf
    · cases hall
      cases hf
    · cases hall
      exact .action c token rest hmem
  | client _ hbase hasked => exact .client rest (Grounded.above hf (hall ▸ hbase)) hasked
  | guarded below hbase hasked =>
    cases rest with
    | nil =>
      cases hall
      cases hf
    | cons g rest =>
      cases hall
      exact .guarded rest (Grounded.above hf hbase) hasked

theorem Warranted.above (hf : f.routine? = some r)
    (hall : Warranted asked h (rest ++ f :: base)) : Warranted asked h rest := by
  induction rest with
  | nil => trivial
  | cons g rest ih => exact ⟨fun run hrun => (hall.1 run hrun).above hf, ih hall.2⟩

end

namespace System

variable {s : System} {base : List Frame} {thread : ThreadId} {d : Disposal} {f : Frame} {r : Request}

/-- A routine is called from where its frame stands. -/
theorem height_of_called {t : System} {rest : List Frame} (hf : f.routine? = some r)
    (hstack : t.stack = f :: rest ∨ t.stack = .awaiting r :: f :: rest) :
    t.height = rest.length + 1 := by
  obtain hstack | hstack := hstack
  · rw [height, hstack]
    cases f <;> first | rfl | cases hf
  · rw [height, hstack]
    rfl

/-- Where an outcome has come to the base of a call, the call has ended. -/
theorem Serves.ends {kind : ReplyKind} (h : s.Serves kind base) (hstack : s.stack = base) :
    s.Ends kind base := by
  obtain ⟨above, o, first, habove, hfocus, ho, hfits⟩ | ⟨r, above, -, habove, -, -⟩ := h
  · obtain rfl : above = [] := List.self_eq_append_left.mp (hstack.symm.trans habove)
    exact ⟨hstack, o, hfocus, (show first = kind from hfits) ▸ ho⟩
  · have hlength := congrArg List.length (hstack.symm.trans habove)
    simp only [List.length_cons, List.length_append] at hlength
    omega

/-- Before a step takes its outcome, it goes on. -/
theorem Serves.goes {kind : ReplyKind} (h : s.Serves kind base) {move : Move}
    (hmove : ¬(s.stack = base ∧ move = .tick)) : (s.perform move).Serves kind base := by
  obtain ⟨hstack, o, hfocus, -⟩ | hgoes := perform_serves move h
  · rw [perform_handing hfocus move fun htick => hmove ⟨hstack, htick⟩]
    exact h
  · exact hgoes

/-- While a routine runs, nothing happens in the disposal that has called it. -/
theorem Serves.quiet {kind : ReplyKind} (h : s.Serves kind (f :: base)) (hf : f.routine? = some r)
    (hbase : ∀ news, s.focus = .client news → Grounded s.stack)
    (hwarranted : Warranted (fun _ => True) s.store.history s.stack) {move : Move}
    (hmove : ¬(s.stack = f :: base ∧ move = .tick)) : s.eventsOver base.length move = [] := by
  obtain ⟨above, habove, hnil⟩ := h.within
  by_cases hempty : above = []
  · -- its outcome waits for a step
    subst hempty
    obtain ⟨o, hfocus⟩ := hnil rfl
    have htick : move ≠ .tick := fun htick => hmove ⟨habove, htick⟩
    rw [eventsOver, perform_handing hfocus move htick, tookOver_of_ne_tick htick, calledOver_nil rfl]
    rfl
  · -- what is called is called from above
    obtain ⟨store, stack, focus⟩ := s
    dsimp only at habove hbase hwarranted
    subst habove
    let u : System := ⟨store, above, focus⟩
    have habove : Warranted (fun _ => True) u.store.history u.stack := hwarranted.above hf
    have hasks := u.perform_asks move (fun news hfocus => Grounded.above hf (hbase news hfocus))
      (fun _ _ => trivial) habove
    have htook : (u.onto (f :: base)).tookOver base.length move = [] := by
      refine tookOver_of_length_ne ?_
      have hpos := List.length_pos_iff.mpr hempty
      simp only [u, stack_onto, List.length_append, List.length_cons]
      omega
    have hcalled : ((u.perform move).onto (f :: base)).calledOver base.length u.calls = [] := by
      obtain hnone | ⟨g, r', rest, hg, hstack, -⟩ := hasks.calls
      · exact calledOver_nil hnone
      · have hheight : ((u.perform move).onto (f :: base)).height = (rest ++ f :: base).length + 1 :=
          height_of_called hg (hstack.imp
            (fun hstack => by rw [stack_onto, hstack]; rfl)
            (fun hstack => by rw [stack_onto, hstack]; rfl))
        refine if_neg ?_
        rw [hheight, List.length_append, List.length_cons]
        omega
    show (u.onto (f :: base)).eventsOver base.length move = []
    rw [eventsOver, perform_onto (f :: base) hempty move, htook, List.nil_append]
    exact hcalled

/-! ### The parts of a disposal -/

/-- A disposal calls its destroy routine. -/
theorem destroy_called (s : System) (thread : ThreadId) (d : Disposal) :
    (s.destroy thread d).calls = s.calls ++ [.destroy thread d.type d.address] ∧
      (s.destroy thread d).height = s.stack.length + 1 := by
  obtain ⟨hhistory, hstack⟩ := callDestroy_view thread
    ((s.note (.destroying thread d)).push (.destroying thread d)) d.type d.address
  exact ⟨(congrArg History.calls hhistory).trans (History.calls_cons ..),
    height_of_called (f := .destroying thread d) rfl hstack⟩

/-- Before that, it calls its count routine if objects of its type are counted. -/
theorem dispose_called (s : System) (thread : ThreadId) (d : Disposal) :
    (s.dispose thread d).calls = s.calls ++
        [if d.type.kind.isReference then .count thread d.type d.address
          else .destroy thread d.type d.address] ∧
      (s.dispose thread d).height = s.stack.length + 1 := by
  have hbegun : (s.mapStore (·.begin thread d)).calls = s.calls :=
    (History.calls_cons ..).trans (List.append_nil _)
  unfold dispose
  dsimp only
  split
  · obtain ⟨hstore, hstack⟩ := askCount_view thread
      (((s.mapStore (·.begin thread d)).note (.counting thread d)).push (.counted thread d)) d.type
      d.address
    refine ⟨?_, height_of_called (f := .counted thread d) rfl hstack⟩
    rw [calls, hstore, ← hbegun]
    exact History.calls_cons ..
  · obtain ⟨hcalls, hheight⟩ := destroy_called (s.mapStore (·.begin thread d)) thread d
    exact ⟨hcalls.trans (congrArg (· ++ _) hbegun), hheight⟩

/-- A disposal over a base is on its course: some things have happened, and a routine runs or the
    outcome is on its way. -/
inductive Follows (thread : ThreadId) (d : Disposal) (base : List Frame) :
    List Disposal.Event → System → Prop where
  | counting (s : System) : d.type.kind.isReference = true →
    s.Serves .count (.counted thread d :: base) →
    Follows thread d base [.called (.count thread d.type d.address)] s
  | destroying (events : List Disposal.Event) (s : System) : d.Course thread events none →
    (∀ o, d.Course thread (events ++ [.took o]) (some (Disposal.ending o))) →
    s.Serves .done (.destroying thread d :: base) → Follows thread d base events s
  | ended (events : List Disposal.Event) (s : System) (o : Outcome) :
    d.Course thread events (some o) → s.stack = base → s.focus = .handing o →
    Follows thread d base events s

variable {events : List Disposal.Event}

theorem Follows.elsewhere (h : s.Follows thread d base events) (store : Store) :
    ({ s with store } : System).Follows thread d base events := by
  cases h with
  | counting _ href hserves => exact .counting _ href (hserves.elsewhere store)
  | destroying _ _ hopen hends hserves => exact .destroying _ _ hopen hends (hserves.elsewhere store)
  | ended _ _ o hcourse hstack hfocus => exact .ended _ _ o hcourse hstack hfocus

theorem Follows.within (h : s.Follows thread d base events) :
    Strand.within ⟨s.stack, s.focus⟩ base := by
  cases h with
  | counting _ _ hserves => exact (hserves.frame _ rfl rfl).within
  | destroying _ _ _ _ hserves => exact (hserves.frame _ rfl rfl).within
  | ended _ _ o _ hstack hfocus => exact ⟨[], hstack, fun _ => ⟨o, hfocus⟩⟩

/-- What has happened is a course, and the outcome on its way is its last one. -/
theorem Follows.course (h : s.Follows thread d base events) : ∃ last, d.Course thread events last ∧
    ∀ o, s.stack = base → s.focus = .handing o → last = some o := by
  -- the frame of a disposal that waits for a routine lies over its base
  have hwaits {kind : ReplyKind} {f : Frame} (hserves : s.Serves kind (f :: base)) :
      s.stack ≠ base := by
    obtain ⟨above, habove, -⟩ := hserves.within
    intro hbase
    have hlength := congrArg List.length (hbase.symm.trans habove)
    simp only [List.length_append, List.length_cons] at hlength
    omega
  cases h with
  | counting _ href hserves =>
    exact ⟨none, .counting href, fun _ hstack => absurd hstack (hwaits hserves)⟩
  | destroying _ _ hopen _ hserves =>
    exact ⟨none, hopen, fun _ hstack => absurd hstack (hwaits hserves)⟩
  | ended _ _ o hcourse _ hfocus =>
    refine ⟨some o, hcourse, fun p _ hp => ?_⟩
    rw [hfocus] at hp
    cases hp
    rfl

/-- A disposal that begins is on its course. -/
theorem dispose_follows (s : System) (thread : ThreadId) (d : Disposal) :
    (s.dispose thread d).Follows thread d s.stack
      ((s.dispose thread d).calledOver s.stack.length s.calls) := by
  obtain ⟨hcalls, hheight⟩ := dispose_called s thread d
  rw [calledOver_one hcalls hheight]
  cases hkind : d.type.kind.isReference with
  | true =>
    refine .counting _ hkind ?_
    simp only [dispose, hkind, if_true]
    exact askCount_serves thread d.type d.address rfl
  | false =>
    refine .destroying _ _ (.destroying hkind) (fun o => .destroyed o hkind) ?_
    simp only [dispose, hkind, Bool.false_eq_true, if_false]
    exact callDestroy_serves thread d.type d.address rfl

/-- A disposal takes the outcome of its count routine. -/
theorem counted_follows (hstack : s.stack = base) {o : Outcome} (ho : o.Is .count)
    (href : d.type.kind.isReference = true) :
    (s.resume (.counted thread d) o).Follows thread d base
      ([.called (.count thread d.type d.address), .took o] ++
        (s.resume (.counted thread d) o).calledOver base.length s.calls) := by
  have hdestroy {count : Option UInt64} (hone : ∀ n, count = some n → n ≤ 1) :
      (s.destroy thread d).Follows thread d base
        ([.called (.count thread d.type d.address), .took (.ok (.count count))] ++
          (s.destroy thread d).calledOver base.length s.calls) := by
    obtain ⟨hcalls, hheight⟩ := s.destroy_called thread d
    rw [calledOver_one hcalls (hstack ▸ hheight)]
    exact .destroying _ _ (.releasing count href hone) (fun o => .released count o href hone)
      (callDestroy_serves thread d.type d.address (congrArg (_ :: ·) hstack))
  cases o with
  | error payload =>
    rw [calledOver_nil (show (s.resume (.counted thread d) (.error payload)).calls = s.calls from rfl)]
    exact .ended _ _ _ (.unanswered payload href) hstack rfl
  | ok reply =>
    cases reply with
    | count count =>
      show (s.resumeCounted thread d count).Follows thread d base
        (_ ++ (s.resumeCounted thread d count).calledOver _ _)
      unfold resumeCounted
      cases count with
      | none => exact hdestroy (by simp)
      | some n =>
        dsimp only
        split
        · next hn =>
          rw [calledOver_nil (show (s.reply _).calls = s.calls from rfl)]
          exact .ended _ _ _ (.held n href hn) hstack rfl
        · next hn => exact hdestroy fun m hm => by cases hm; exact UInt64.not_lt.mp hn
    | _ => exact absurd (ho _ rfl) (by simp [Reply.kind])

/-- A disposal takes the outcome of its destroy routine. -/
theorem destroying_ended (hstack : s.stack = base) (o : Outcome) :
    (s.resume (.destroying thread d) o).stack = base ∧
      (s.resume (.destroying thread d) o).focus = .handing (Disposal.ending o) ∧
      (s.resume (.destroying thread d) o).calls = s.calls := by
  cases o with
  | error payload => exact ⟨hstack, rfl, rfl⟩
  | ok reply => exact ⟨hstack, rfl, calls_note_of_none rfl rfl⟩

/-- **A disposal in progress stays on its course**, until a step takes its outcome. -/
theorem Follows.perform (h : s.Follows thread d base events)
    (hbase : ∀ news, s.focus = .client news → Grounded s.stack)
    (hwarranted : Warranted (fun _ => True) s.store.history s.stack) (move : Move) :
    (s.perform move).Follows thread d base (events ++ s.eventsOver base.length move) ∨
      (move = .tick ∧ s.stack = base ∧ ∃ o, s.focus = .handing o) := by
  -- with a step that takes the outcome of a routine, the frame of the disposal goes on
  have htick {f : Frame} {o : Outcome} (hstack : s.stack = f :: base) (hfocus : s.focus = .handing o) :
      s.perform .tick = ({ s with stack := base } : System).resume f o ∧
        s.eventsOver base.length .tick =
          [.took o] ++ (({ s with stack := base } : System).resume f o).calledOver base.length s.calls := by
    have hperform : s.perform .tick = ({ s with stack := base } : System).resume f o := by
      simp only [System.perform, tick, hfocus, hstack]
    refine ⟨hperform, ?_⟩
    rw [eventsOver, hperform]
    simp only [tookOver, hfocus, hstack, List.length_cons, if_true]
  cases h with
  | counting _ href hserves =>
    left
    by_cases hends : s.stack = .counted thread d :: base ∧ move = .tick
    · obtain ⟨hstack, rfl⟩ := hends
      obtain ⟨-, o, hfocus, ho⟩ := hserves.ends hstack
      obtain ⟨hperform, hevents⟩ := htick hstack hfocus
      rw [hperform, hevents]
      exact counted_follows (s := { s with stack := base }) rfl ho href
    · rw [hserves.quiet (f := .counted thread d) rfl hbase hwarranted hends, List.append_nil]
      exact .counting _ href (hserves.goes hends)
  | destroying _ _ hopen hends hserves =>
    left
    by_cases hended : s.stack = .destroying thread d :: base ∧ move = .tick
    · obtain ⟨hstack, rfl⟩ := hended
      obtain ⟨-, o, hfocus, -⟩ := hserves.ends hstack
      obtain ⟨hperform, hevents⟩ := htick hstack hfocus
      obtain ⟨hbelow, hfocus, hcalls⟩ :=
        @destroying_ended { s with stack := base } base thread d rfl o
      rw [hperform, hevents, calledOver_nil (show _ = s.calls from hcalls), List.append_nil]
      exact .ended _ _ _ (hends o) hbelow hfocus
    · rw [hserves.quiet (f := .destroying thread d) rfl hbase hwarranted hended, List.append_nil]
      exact .destroying _ _ hopen hends (hserves.goes hended)
  | ended _ _ o hcourse hstack hfocus =>
    by_cases hmove : move = .tick
    · exact .inr ⟨hmove, hstack, o, hfocus⟩
    · left
      rw [perform_handing hfocus move hmove, eventsOver, perform_handing hfocus move hmove,
        tookOver_of_ne_tick hmove, calledOver_nil rfl, List.append_nil, List.append_nil]
      exact .ended events s o hcourse hstack hfocus

end System

/-! ### Courses in a run -/

namespace Schedule

variable {σ : Schedule} {i k l n m : Nat} {s : System} {thread : ThreadId} {d : Disposal}
  {base : List Frame} {o : Outcome} {past : List Disposal.Event}

/-- What happens with the act of moment `l` on strand `i`, right over a base of some height. -/
def eventsAt (σ : Schedule) (i k l : Nat) : List Disposal.Event :=
  match σ l, (σ.after l).strands[i]? with
  | .move j move, some strand =>
    if j = i then ((σ.after l).system strand).eventsOver k move else []
  | _, _ => []

/-- What happens there from moment `n` on, up to moment `m`. -/
def events (σ : Schedule) (i k n m : Nat) : List Disposal.Event :=
  (List.range' n (m - n)).flatMap (σ.eventsAt i k)

theorem eventsAt_move {move : Move} (h : σ.At i l s) (hact : σ l = .move i move) :
    σ.eventsAt i k l = s.eventsOver k move := by
  obtain ⟨strand, hstrand, rfl⟩ := h
  simp only [eventsAt, hact, hstrand, if_true]

theorem eventsAt_of_ne (hact : ∀ move, σ l ≠ .move i move) : σ.eventsAt i k l = [] := by
  unfold eventsAt
  split
  · next j move _ hmove _ =>
    refine if_neg fun hji => hact move ?_
    rw [hmove, hji]
  · rfl

theorem events_succ (hnm : n ≤ m) :
    σ.events i k n (m + 1) = σ.events i k n m ++ σ.eventsAt i k m := by
  rw [events, Nat.succ_sub hnm, List.range'_1_concat, List.flatMap_append, Nat.add_sub_cancel' hnm]
  exact congrArg (_ ++ ·) (List.append_nil _)

theorem events_one (σ : Schedule) (i k n : Nat) : σ.events i k n (n + 1) = σ.eventsAt i k n := by
  rw [events_succ (Nat.le_refl n), events, Nat.sub_self]
  rfl

/-- Nothing happens over the base of a call whose outcome waits there. -/
theorem eventsAt_of_handing (h : σ.At i l s) (hfocus : s.focus = .handing o)
    (hbase : Grounded s.stack) (hk : s.stack.length ≤ k) : σ.eventsAt i k l = [] := by
  by_cases hact : ∃ move, σ l = .move i move
  · -- the strand hands the outcome on or does nothing, and the base is lower than what counts here
    obtain ⟨move, hact⟩ := hact
    have hquiet : (s.perform move).calls = s.calls := by
      by_cases htick : move = .tick
      · rw [htick]
        exact congrArg (·.history.calls) (System.tick_returned rfl hfocus hbase).2
      · rw [System.perform_handing hfocus move htick]
    rw [eventsAt_move h hact, System.eventsOver, System.calledOver_nil hquiet,
      System.tookOver_of_length_ne (by omega)]
    rfl
  · exact eventsAt_of_ne fun move hmove => hact ⟨move, hmove⟩

/-- A disposal in progress stays on its course, until its strand takes the outcome. -/
theorem follows_succ (h : σ.At i l s) (hfollows : s.Follows thread d base past) :
    (∃ t, σ.At i (l + 1) t ∧ t.Follows thread d base (past ++ σ.eventsAt i base.length l)) ∨
      ∃ o, σ.Takes i l base o := by
  by_cases hact : ∃ move, σ l = .move i move
  · obtain ⟨move, hact⟩ := hact
    have hwarranted : Warranted (fun _ => True) s.store.history s.stack := by
      rw [h.store]
      exact (warranted h.strand).mono (fun _ _ => trivial) (List.Subset.refl _)
    have hbase (news : Option Outcome) (hfocus : s.focus = .client news) : Grounded s.stack :=
      σ.grounded l i (hfocus ▸ h.strand)
    obtain hgoes | ⟨rfl, hstack, o, hfocus⟩ := hfollows.perform hbase hwarranted move
    · left
      rw [eventsAt_move h hact]
      exact ⟨_, h.move hact, hgoes⟩
    · right
      refine ⟨o, ?_, hact⟩
      rw [← h.store, ← hstack, ← hfocus]
      exact h
  · -- another strand moves, which can change the store only
    left
    have hact (move : Move) : σ l ≠ .move i move := fun hmove => hact ⟨move, hmove⟩
    rw [eventsAt_of_ne hact, List.append_nil]
    obtain ⟨move, hmove, -⟩ | hsame := h.succ
    · exact absurd hmove (hact move)
    · exact ⟨_, hsame, hfollows.elsewhere _⟩

/-- With the act of moment `n` strand `i` begins a disposal over a base. -/
def BeginsOver (σ : Schedule) (i n : Nat) (base : List Frame) (thread : ThreadId) (d : Disposal) :
    Prop :=
  ∃ (s t : System) (move : Move), σ.At i n s ∧ σ n = .move i move ∧ s.perform move = t.dispose thread d ∧
    t.stack = base ∧ t.calls = s.calls ∧ s.stack.length ≤ base.length

theorem BeginsOver.follows (h : σ.BeginsOver i n base thread d) :
    ∃ s, σ.At i (n + 1) s ∧ s.Follows thread d base (σ.events i base.length n (n + 1)) := by
  obtain ⟨s, t, move, hat, hact, hperform, rfl, hcalls, hlength⟩ := h
  refine ⟨_, hat.move hact, ?_⟩
  rw [events_one, eventsAt_move hat hact, System.eventsOver,
    System.tookOver_of_length_ne (by omega), hperform, ← hcalls, List.nil_append]
  exact System.dispose_follows t thread d

/-- Before moment `m` nothing has come of what strand `i` has begun over a base at moment `n`. -/
def Pending (σ : Schedule) (i n m : Nat) (base : List Frame) : Prop :=
  ∀ l o, n < l → l < m → ¬σ.Takes i l base o

/-- Of what is not pending any more, a first outcome was taken. -/
theorem exists_first (h : ¬σ.Pending i n m base) :
    ∃ l o, n < l ∧ l < m ∧ σ.Takes i l base o ∧ σ.Pending i n l base := by
  -- on the moment by which an outcome was taken: the first one was taken before it, or just then
  induction m with
  | zero => exact absurd (fun l o _ hl => absurd hl (Nat.not_lt_zero l)) h
  | succ m ih =>
    by_cases hpending : σ.Pending i n m base
    · have htaken : ∃ o, n < m ∧ σ.Takes i m base o := by
        refine Classical.byContradiction fun hnone => h fun l o hnl hlm htakes => ?_
        obtain hlm | rfl := Nat.lt_succ_iff_lt_or_eq.mp hlm
        · exact hpending l o hnl hlm htakes
        · exact hnone ⟨o, hnl, htakes⟩
      obtain ⟨o, hnm, htakes⟩ := htaken
      exact ⟨m, o, hnm, Nat.lt_succ_self m, htakes, hpending⟩
    · obtain ⟨l, o, hnl, hlm, hfirst⟩ := ih hpending
      exact ⟨l, o, hnl, Nat.lt_succ_of_lt hlm, hfirst⟩

/-- A disposal follows its course as long as nothing has come of it. -/
theorem BeginsOver.follows_until (h : σ.BeginsOver i n base thread d) (hnm : n < m)
    (hpending : σ.Pending i n m base) :
    ∃ s, σ.At i m s ∧ s.Follows thread d base (σ.events i base.length n m) := by
  -- on the acts since the disposal has begun
  induction hnm with
  | refl => exact h.follows
  | @step m hnm ih =>
    obtain ⟨s, hat, hs⟩ := ih fun l o hnl hlm => hpending l o hnl (Nat.lt_succ_of_lt hlm)
    obtain hgoes | ⟨o, htakes⟩ := follows_succ hat hs
    · rw [events_succ (Nat.le_of_succ_le hnm)]
      exact hgoes
    · exact absurd htakes (hpending m o hnm (Nat.lt_succ_self m))

/-- **What happens in a disposal is a course**, with the outcome that is taken in the end. -/
theorem course (h : σ.BeginsOver i n base thread d) (hnm : n < m) (hpending : σ.Pending i n m base) :
    ∃ last, d.Course thread (σ.events i base.length n m) last ∧
      ∀ o, σ.Takes i m base o → last = some o := by
  obtain ⟨s, hat, hs⟩ := h.follows_until hnm hpending
  obtain ⟨last, hcourse, hlast⟩ := hs.course
  refine ⟨last, hcourse, fun o htakes => ?_⟩
  obtain rfl := hat.unique htakes.ended
  exact hlast o rfl rfl

/-- A disposal whose base was left behind has an outcome, which was taken. -/
theorem BeginsOver.exists_outcome (h : σ.BeginsOver i n base thread d) (hnm : n < m)
    (hleft : ¬σ.Within i m base) :
    ∃ l o, n < l ∧ l < m ∧ σ.Takes i l base o ∧ σ.Pending i n l base ∧
      d.Course thread (σ.events i base.length n l) (some o) := by
  -- as long as it is pending the disposal follows its course, over the base
  have htaken : ¬σ.Pending i n m base := by
    intro hpending
    obtain ⟨s, hat, hs⟩ := h.follows_until hnm hpending
    exact hleft ⟨_, hat.strand, hs.within⟩
  obtain ⟨l, o, hnl, hlm, htakes, hpending⟩ := exists_first htaken
  obtain ⟨last, hcourse, hlast⟩ := course h hnl hpending
  rw [hlast o htakes] at hcourse
  exact ⟨l, o, hnl, hlm, htakes, hpending, hcourse⟩

end Schedule

end ForeignArena
