import ForeignArena.Proofs.Arenas.Report
import ForeignArena.Proofs.Batches

namespace ForeignArena

/-!
# Arenas that are filled at once

Handing a batch of objects over is all or nothing, and so is opening an arena that is filled with
a batch.  The objects of such an arena need no destruction, so closing it fails with none of them.

The objects of a batch are handed over one by one.  As long as nobody comes in between, the arena
says the same to each of them.  If somebody closes it in between, the first ones are left in its
care.

* `Store.FilledBy`, `Store.openFilled_filled` — an arena that was filled as it was opened;
* `System.Idles` — a closing that calls no supplied code, step by step;
* `Schedule.Persists`, `Schedule.Starts.idle_returns` — it returns, if its strand goes on at all;
* `Schedule.AllOrNothing`, `Schedule.allOrNothing` — batches and fillings in a run.
-/

/-! ### Filling an arena -/

/-- The disposal of an object that needs no destruction. -/
def Disposal.Inert (d : Disposal) : Prop :=
  d.type.kind = .reference ∧ d.type.routines = .inert

namespace Store

variable {st : Store} {thread : ThreadId} {n : Nat}

/-- An arena was opened that holds `n` objects from the start: those at the addresses one to `n`,
    in order.  They need no destruction.  The arena belongs to the thread that has opened it. -/
structure FilledBy (st : Store) (thread : ThreadId) (n : Nat) (after : Store) (a : Nat)
    (instances : Array Instance) : Prop where
  fresh : a = st.arenas.size
  arena : after.arena a =
    { confinement := .bound thread, state := .active, pending := instances.map (·.disposal) }
  others : ∀ b, b ≠ a → after.arena b = st.arena b
  cleaners : ∀ c, after.cleaner c = st.cleaner c
  length : instances.size = n
  addresses : instances.toList.map (·.address.word.toNat) = List.range' 1 n
  inert : ∀ i ∈ instances, i.disposal.Inert
  usable : ∀ i ∈ instances, after.Usable i

/-- An arena is not opened for more objects than there may be room for. -/
theorem openFilled_refused (st : Store) (thread : ThreadId) (h : ArenaConfig.maxCapacity < n) :
    st.openFilled thread n =
      (st, .error (.config (.capacityTooLarge n ArenaConfig.maxCapacity))) := by
  have hvalidate : ({ initialCapacity := n } : ArenaConfig).validate =
      .error (.capacityTooLarge n ArenaConfig.maxCapacity) := if_neg (Nat.not_le.mpr h)
  rw [openFilled, openArena, hvalidate]

/-- The store in which an arena is about to be filled, with the type of the objects. -/
def aboutToFill (st : Store) (thread : ThreadId) (n : Nat) : Store × ForeignType :=
  (st.buildArena thread { initialCapacity := n }).1.newInertType

/-- Its new arena is empty and belongs to the thread. -/
theorem arena_aboutToFill (st : Store) (thread : ThreadId) (n a : Nat) :
    (st.aboutToFill thread n).1.arena a =
      if a = st.arenas.size then .opened (.bound thread) else st.arena a := by
  show ((st.arenas.push (.opened (.bound thread)))[a]?).getD .void = _
  rw [Array.getElem?_push]
  split <;> rfl

/-- So it takes in whatever the thread hands over. -/
theorem aboutToFill_open (st : Store) (thread : ThreadId) (n : Nat) (e : ArenaError) :
    ¬(st.aboutToFill thread n).1.Declines thread (.confined st.arenas.size) e := by
  have hown : (st.aboutToFill thread n).1.arena st.arenas.size = .opened (.bound thread) := by
    rw [arena_aboutToFill, if_pos rfl]
  rintro (⟨howner, hne⟩ | ⟨-, hclosed⟩)
  · rw [hown] at howner
    exact hne (Option.some.inj howner).symm
  · rw [hown] at hclosed
    cases hclosed

/-- Otherwise it is, and filled. -/
theorem openFilled_filled (st : Store) (thread : ThreadId) (h : n ≤ ArenaConfig.maxCapacity) :
    ∃ instances, (st.openFilled thread n).2 = .ok (st.arenas.size, instances) ∧
      st.FilledBy thread n (st.openFilled thread n).1 st.arenas.size instances := by
  have hhome : (st.aboutToFill thread n).1.hasHome (.confined st.arenas.size) := by
    show decide (st.arenas.size < (st.arenas.push (.opened (.bound thread))).size) = true
    simp
  have htaken := takeOverMany_taken (st.aboutToFill thread n).2 hhome
    (Nat.lt_of_le_of_lt h (by decide)) (st.aboutToFill_open thread n)
  have hvalidate : ({ initialCapacity := n } : ArenaConfig).validate = .ok () := if_pos h
  have harena := st.arena_aboutToFill thread n
  have hcleaners (c : Nat) : (st.aboutToFill thread n).1.cleaner c = st.cleaner c := rfl
  have hinert : (st.aboutToFill thread n).2.kind = .reference ∧
      (st.aboutToFill thread n).2.routines = .inert := ⟨rfl, rfl⟩
  rw [openFilled, openArena, hvalidate]
  dsimp only
  rw [show ((st.buildArena thread { initialCapacity := n }).1.newInertType) =
      st.aboutToFill thread n from rfl,
    show (st.buildArena thread { initialCapacity := n }).2 = st.arenas.size from rfl]
  generalize st.aboutToFill thread n = typed at htaken harena hcleaners hinert ⊢
  obtain ⟨store, type⟩ := typed
  dsimp only at htaken harena hcleaners hinert ⊢
  generalize store.takeOverMany thread type (.confined st.arenas.size) n = taken at htaken ⊢
  obtain ⟨after, instances, error⟩ := taken
  obtain rfl : error = none := htaken.error
  refine ⟨instances, rfl, ?_⟩
  constructor
  case fresh => rfl
  case arena =>
    rw [htaken.adds.arena, if_pos rfl, harena, if_pos rfl]
    simp [Arena.acceptAll, Arena.opened, ← Array.toList_map]
  case others =>
    intro b hb
    rw [htaken.adds.arena, if_neg fun heq => hb (ArenaRef.confined.inj heq).symm, harena, if_neg hb]
  case cleaners =>
    intro c
    rw [htaken.adds.cleaner, if_neg fun heq => (by cases heq), hcleaners]
  case length => exact htaken.length
  case addresses => exact htaken.addresses
  case inert =>
    intro i hi
    have htype : i.type = type := htaken.types i hi
    show i.type.kind = .reference ∧ i.type.routines = .inert
    rw [htype]
    exact hinert
  case usable => exact htaken.usable

end Store

/-! ### Closing it -/

namespace System

/-- A closing of disposals none of which calls supplied code has `j` steps left, over a base.  Its
    strand is handed one outcome after the other, and nobody else is in control. -/
inductive Idles (thread : ThreadId) (a k : Nat) (base : List Frame) : Nat → System → Prop where
  | counted {s : System} {d : Disposal} {todo : List Disposal} :
    s.stack = .counted thread d :: .guarded d :: .sweeping thread a k [] todo :: base →
    s.focus = .handing (.ok (.count (some 1))) → d.Inert → (∀ d ∈ todo, d.Inert) →
    Idles thread a k base (4 * todo.length + 4) s
  | destroying {s : System} {d : Disposal} {todo : List Disposal} :
    s.stack = .destroying thread d :: .guarded d :: .sweeping thread a k [] todo :: base →
    s.focus = .handing (.ok .done) → (∀ d ∈ todo, d.Inert) →
    Idles thread a k base (4 * todo.length + 3) s
  | guarded {s : System} {d : Disposal} {todo : List Disposal} :
    s.stack = .guarded d :: .sweeping thread a k [] todo :: base →
    s.focus = .handing (.ok (.disposed (.ok ()))) → (∀ d ∈ todo, d.Inert) →
    Idles thread a k base (4 * todo.length + 2) s
  | sweeping {s : System} {todo : List Disposal} :
    s.stack = .sweeping thread a k [] todo :: base →
    s.focus = .handing (.ok (.disposed (.ok ()))) → (∀ d ∈ todo, d.Inert) →
    Idles thread a k base (4 * todo.length + 1) s
  | ended {s : System} : s.stack = base → s.focus = .handing (.ok (.closed (.ok ⟨k, true⟩))) →
    Idles thread a k base 0 s

variable {s : System} {thread : ThreadId} {a j k : Nat} {base : List Frame}

/-- Its strand is always handed an outcome. -/
theorem Idles.handing (h : s.Idles thread a k base j) : ∃ o, s.focus = .handing o := by
  cases h with
  | counted _ hfocus | destroying _ hfocus | guarded _ hfocus | sweeping _ hfocus
  | ended _ hfocus => exact ⟨_, hfocus⟩

theorem Idles.above (h : s.Idles thread a k base j) : ∃ above, s.stack = above ++ base := by
  cases h with
  | counted hstack => exact ⟨[_, _, _], hstack⟩
  | destroying hstack => exact ⟨[_, _, _], hstack⟩
  | guarded hstack => exact ⟨[_, _], hstack⟩
  | sweeping hstack => exact ⟨[_], hstack⟩
  | ended hstack => exact ⟨[], hstack⟩

/-- It has nothing to do with the store. -/
theorem Idles.elsewhere (h : s.Idles thread a k base j) (store : Store) :
    ({ s with store } : System).Idles thread a k base j := by
  cases h with
  | counted hstack hfocus hd htodo => exact .counted hstack hfocus hd htodo
  | destroying hstack hfocus htodo => exact .destroying hstack hfocus htodo
  | guarded hstack hfocus htodo => exact .guarded hstack hfocus htodo
  | sweeping hstack hfocus htodo => exact .sweeping hstack hfocus htodo
  | ended hstack hfocus => exact .ended hstack hfocus

/-- The destroy routine does nothing. -/
theorem destroy_inert {d : Disposal} (hd : d.Inert) :
    s.destroy thread d =
      ((s.note (.destroying thread d)).push (.destroying thread d)).reply .done := by
  unfold destroy callDestroy Store.destroyKnown?
  rw [hd.2]

/-- There is one reference, for all that is known. -/
theorem disposeGuarded_inert (thread : ThreadId) {d : Disposal} (hd : d.Inert) :
    (s.disposeGuarded thread d).stack = .counted thread d :: .guarded d :: s.stack ∧
      (s.disposeGuarded thread d).focus = .handing (.ok (.count (some 1))) := by
  unfold disposeGuarded dispose askCount Store.knownCount?
  rw [hd.1, hd.2]
  exact ⟨rfl, rfl⟩

/-- A closing that turns to disposals which call no supplied code. -/
theorem sweep_idles {todo : List Disposal} (hstack : s.stack = base)
    (htodo : ∀ d ∈ todo, d.Inert) :
    (s.sweep thread a k [] todo).Idles thread a k base (4 * todo.length) := by
  cases todo with
  | nil => exact .ended hstack rfl
  | cons d rest =>
    obtain ⟨hstack', hfocus⟩ := disposeGuarded_inert thread
      (s := (s.note (.attempting thread a d)).push (.sweeping thread a k [] rest))
      (htodo d (List.mem_cons_self ..))
    have hbelow : ((s.note (.attempting thread a d)).push (.sweeping thread a k [] rest)).stack =
        .sweeping thread a k [] rest :: base := congrArg (_ :: ·) hstack
    rw [hbelow] at hstack'
    exact .counted hstack' hfocus (htodo d (List.mem_cons_self ..))
      fun d hd => htodo d (List.mem_cons_of_mem _ hd)

/-- **One step less is left after each step.** -/
theorem Idles.tick (h : s.Idles thread a k base (j + 1)) :
    (s.perform .tick).Idles thread a k base j := by
  have htick (f : Frame) (rest : List Frame) (o : Outcome) (hstack : s.stack = f :: rest)
      (hfocus : s.focus = .handing o) :
      s.perform .tick = ({ s with stack := rest } : System).resume f o := by
    simp only [perform, System.tick, hfocus, hstack]
  generalize hleft : j + 1 = left at h
  cases h with
  | @counted _ d todo hstack hfocus hd htodo =>
    obtain rfl : j = 4 * todo.length + 3 := by omega
    rw [htick _ _ _ hstack hfocus]
    have hgoes : ({ s with stack := .guarded d :: .sweeping thread a k [] todo :: base } :
        System).resume (.counted thread d) (.ok (.count (some 1))) =
          ({ s with stack := .guarded d :: .sweeping thread a k [] todo :: base } :
            System).destroy thread d := rfl
    rw [hgoes, destroy_inert hd]
    exact .destroying rfl rfl htodo
  | @destroying _ d todo hstack hfocus htodo =>
    obtain rfl : j = 4 * todo.length + 2 := by omega
    rw [htick _ _ _ hstack hfocus]
    exact .guarded rfl rfl htodo
  | @guarded _ d todo hstack hfocus htodo =>
    obtain rfl : j = 4 * todo.length + 1 := by omega
    rw [htick _ _ _ hstack hfocus]
    exact .sweeping rfl rfl htodo
  | @sweeping _ todo hstack hfocus htodo =>
    obtain rfl : j = 4 * todo.length := by omega
    rw [htick _ _ _ hstack hfocus]
    exact sweep_idles rfl htodo
  | ended => cases hleft

/-- So nothing else can happen to it but that it goes on or is at its end. -/
theorem Idles.perform (h : s.Idles thread a k base j) (move : Move) :
    (s.stack = base ∧ s.focus = .handing (.ok (.closed (.ok ⟨k, true⟩)))) ∨
      ∃ j, (s.perform move).Idles thread a k base j := by
  by_cases hmove : move = .tick
  · subst hmove
    cases j with
    | zero =>
      generalize hleft : 0 = left at h
      cases h with
      | ended hstack hfocus => exact .inl ⟨hstack, hfocus⟩
      | _ => cases hleft
    | succ j => exact .inr ⟨j, h.tick⟩
  · obtain ⟨o, hfocus⟩ := h.handing
    rw [perform_handing hfocus move hmove]
    exact .inr ⟨j, h⟩

end System

namespace Schedule

variable {σ : Schedule} {i n m a k j : Nat} {base : List Frame} {s : System} {thread : ThreadId}

/-- A strand goes on again and again. -/
def Persists (σ : Schedule) (i : Nat) : Prop := ∀ n, ∃ m, n ≤ m ∧ σ m = .move i .tick

/-- There is a first moment at which it goes on. -/
theorem Persists.next (h : σ.Persists i) (n : Nat) :
    ∃ m, n ≤ m ∧ σ m = .move i .tick ∧ ∀ l, n ≤ l → l < m → σ l ≠ .move i .tick := by
  classical
  have hsome := h n
  exact ⟨Nat.find hsome, (Nat.find_spec hsome).1, (Nat.find_spec hsome).2,
    fun l hnl hlm hact => Nat.find_min hsome hlm ⟨hnl, hact⟩⟩

/-- **A closing that calls no supplied code comes to its end**, if its strand goes on at all. -/
theorem Persists.ends (h : σ.Persists i) (hbase : Grounded base) (hat : σ.At i n s)
    (hs : s.Idles thread a k base j) :
    ∃ m t, n ≤ m ∧ σ.At i m t ∧ ¬∃ j, t.Idles thread a k base j := by
  -- on the number of steps that are left
  induction j generalizing n s with
  | zero =>
    obtain ⟨m, hnm, hact, hfirst⟩ := h.next n
    obtain ⟨o, hfocus⟩ := hs.handing
    have hthere := hat.waits hfocus hnm hfirst
    have hended := hs.elsewhere (σ.after m).store
    generalize ({ s with store := (σ.after m).store } : System) = u at hthere hended
    refine ⟨m + 1, _, Nat.le_succ_of_le hnm, hthere.move hact, ?_⟩
    rintro ⟨j, hidles⟩
    generalize hleft : 0 = left at hended
    cases hended with
    | ended hstack hfocus =>
      obtain ⟨store, stack, focus⟩ := u
      dsimp only at hstack hfocus
      subst hstack hfocus
      rw [System.tick_grounded hbase] at hidles
      obtain ⟨o, hhanding⟩ := hidles.handing
      cases hhanding
    | _ => cases hleft
  | succ j ih =>
    obtain ⟨m, hnm, hact, hfirst⟩ := h.next n
    obtain ⟨o, hfocus⟩ := hs.handing
    have hthere := hat.waits hfocus hnm hfirst
    obtain ⟨l, t, hml, hend⟩ := ih (hthere.move hact) (hs.elsewhere (σ.after m).store).tick
    exact ⟨l, t, by omega, hend⟩

/-- The call that closes an arena of such disposals. -/
theorem Starts.idles (h : σ.Starts i n base (.close thread a))
    (hactive : ((σ.after n).store.arena a).isActive)
    (hcheck : ((σ.after n).store.arena a).confinement.check thread = .ok ())
    (hinert : ∀ d ∈ σ.accepted a n, d.Inert) :
    ∃ s, σ.At i (n + 1) s ∧
      s.Idles thread a (σ.accepted a n).length base (4 * (σ.accepted a n).length) := by
  obtain ⟨news, hat⟩ := h.at_next rfl
  let s : System := { store := (σ.after n).store, stack := base, focus := .client news }
  have hsweeps : s.start (.close thread a) = (s.swap thread a).sweep thread a
      (s.store.arena a).pending.toList.length [] (s.store.arena a).pending.toList :=
    System.close_eq_sweep hactive hcheck
  rw [hsweeps] at hat
  rw [accepted_eq_pending hactive] at hinert ⊢
  exact ⟨_, hat, System.sweep_idles rfl hinert⟩

/-- As soon as it does not go on any more, it has returned. -/
theorem Starts.idle_ends {t : System} (h : σ.Starts i n base (.close thread a))
    (hs : σ.At i (n + 1) s) (hidles : s.Idles thread a k base j) (hnm : n < m) (ht : σ.At i m t)
    (hend : ¬∃ j, t.Idles thread a k base j) :
    ∃ l, n < l ∧ l < m ∧
      σ.Calls i n (l + 1) base (.close thread a) (.ok (.closed (.ok ⟨k, true⟩))) := by
  have hbase : Grounded base := by
    obtain ⟨news, hclient⟩ := h.client
    exact σ.grounded n i hclient
  obtain ⟨l, o, hnl, hlm, hall, htakes, rfl⟩ := exists_takes
    (fun u => ∃ j, u.Idles thread a k base j) (fun o => o = .ok (.closed (.ok ⟨k, true⟩)))
    (fun u store ⟨j, hu⟩ => ⟨j, hu.elsewhere store⟩)
    (fun u move ⟨j, hu⟩ => (hu.perform move).imp (fun hended => ⟨hended.1, _, hended.2, rfl⟩) id)
    hs ⟨j, hidles⟩ hnm ht hend
  refine ⟨l, hnl, hlm, h.started, h.client, by omega, fun e hne hel => ?_,
    (htakes.returned hbase).1⟩
  -- up to then its frames lie over the base, or the outcome has come there
  obtain ⟨u, ⟨strand, hstrand, rfl⟩, j, hu⟩ := hall e hne (by omega)
  obtain ⟨above, habove⟩ := hu.above
  exact ⟨strand, hstrand, above, habove, fun _ => hu.handing⟩

/-- **The call returns that it has disposed of all**, if it returns, and it does if its strand goes
    on. -/
theorem Starts.idle_returns (h : σ.Starts i n base (.close thread a))
    (hactive : ((σ.after n).store.arena a).isActive)
    (hcheck : ((σ.after n).store.arena a).confinement.check thread = .ok ())
    (hinert : ∀ d ∈ σ.accepted a n, d.Inert) :
    (∀ m o, σ.Calls i n m base (.close thread a) o →
      o = .ok (.closed (.ok ⟨(σ.accepted a n).length, true⟩))) ∧
    (σ.Persists i → ∃ m, σ.Calls i n m base (.close thread a)
      (.ok (.closed (.ok ⟨(σ.accepted a n).length, true⟩)))) := by
  obtain ⟨s, hs, hidles⟩ := h.idles hactive hcheck hinert
  constructor
  · intro m o hcalls
    obtain ⟨strand, hstrand, -, hclient⟩ := hcalls.returns
    have ht : σ.At i m ((σ.after m).system strand) := ⟨strand, hstrand, rfl⟩
    obtain ⟨l, hnl, hlm, hended⟩ := h.idle_ends hs hidles hcalls.order ht fun ⟨j, hidles⟩ => by
      obtain ⟨p, hhanding⟩ := hidles.handing
      rw [Machine.focus_system, hclient] at hhanding
      cases hhanding
    exact (hcalls.last hlm (Nat.le_of_lt hnl) hended.returns).2
  · intro hpersists
    have hbase : Grounded base := by
      obtain ⟨news, hclient⟩ := h.client
      exact σ.grounded n i hclient
    obtain ⟨m, t, hnm, ht, hend⟩ := hpersists.ends hbase hs hidles
    obtain ⟨l, -, -, hended⟩ := h.idle_ends hs hidles hnm ht hend
    exact ⟨l + 1, hended⟩

/-! ### What holds in every run -/

/-- A flag that is set stays set. -/
theorem refused_stays {inst : Instance} (h : (σ.after n).store.Refused inst) (hnm : n ≤ m) :
    (σ.after m).store.Refused inst :=
  Store.refused_iff.mpr ((σ.flagView_grows inst.flag hnm).2.1 (Store.refused_iff.mp h))

/-- What holds of batches of objects, and of arenas that are filled at once, in a run.  As many
    objects can be in a batch as there are addresses. -/
structure AllOrNothing (σ : Schedule) : Prop where
  /-- A batch that nobody interrupts is taken over as a whole, or refused as a whole, and then
      nothing is in the care of anybody that was not there before. -/
  outcome : ∀ k thread type home (n : UInt64),
    (σ.after k).operation? (σ k) = some (.takeOverMany thread type home n.toNat) →
    let batch := ((σ.after k).store.takeOverMany thread type home n.toNat).2
    (σ.after k).store.TakesBatch type home n.toNat (σ.after (k + 1)).store batch ∨
      ∃ e, (σ.after k).store.RefusesBatch thread home (σ.after (k + 1)).store batch e
  /-- It is taken over unless the arena declines.  An arena with a cleaner never does. -/
  taken_iff : ∀ k thread type home (n : UInt64),
    (σ.after k).operation? (σ k) = some (.takeOverMany thread type home n.toNat) →
    (((σ.after k).store.takeOverMany thread type home n.toNat).2.error = none ↔
      n = 0 ∨ ∀ e, ¬(σ.after k).store.Declines thread home e)
  auto : ∀ k thread c e, ¬(σ.after k).store.Declines thread (.auto c) e
  /-- A batch without objects is taken over by every arena, also by a closed or a foreign one, and
      nothing changes. -/
  empty : ∀ k thread type home,
    (σ.after k).operation? (σ k) = some (.takeOverMany thread type home 0) →
    ((σ.after k).store.takeOverMany thread type home 0).2 = {} ∧
      (σ.after (k + 1)).store = (σ.after k).store
  /-- Objects that are handed over one by one can be refused after others were taken over only if
      the arena was closed or abandoned in between. -/
  midway : ∀ l m thread address type address' type' home i e, l < m →
    (σ.after l).operation? (σ l) = some (.takeOver thread address type home) →
    ((σ.after l).store.takeOver thread address type home).2 = .ok i →
    (address'.isNull = true → type'.permitsNull = true) →
    ((σ.after m).store.takeOver thread address' type' home).2 = .error e →
    e = .closed ∧ ∃ a, home = .confined a ∧ ((σ.after l).store.arena a).state = .active ∧
      ((σ.after m).store.arena a).state ≠ .active
  /-- So a batch whose objects are handed over at moments of their own, and which is refused after
      the object `k`, was interrupted by whoever closed or abandoned the arena.  The objects up to
      this one are left in the care of the arena. -/
  interrupted : ∀ (moment : Nat → Nat) thread type home k e, (∀ j ≤ k, moment j < moment (j + 1)) →
    k + 2 < 2 ^ 64 →
    (∀ j ≤ k, (σ.after (moment j)).operation? (σ (moment j)) =
        some (.takeOver thread ⟨UInt64.ofNat (j + 1)⟩ type home) ∧
      ∃ i, ((σ.after (moment j)).store.takeOver thread ⟨UInt64.ofNat (j + 1)⟩ type home).2 = .ok i) →
    ((σ.after (moment (k + 1))).store.takeOver thread ⟨UInt64.ofNat (k + 2)⟩ type home).2 =
      .error e →
    e = .closed ∧ ∃ a, home = .confined a ∧
      ((σ.after (moment k)).store.arena a).state = .active ∧
      ((σ.after (moment (k + 1))).store.arena a).state ≠ .active ∧
      ∀ j ≤ k, ∀ i,
        ((σ.after (moment j)).store.takeOver thread ⟨UInt64.ofNat (j + 1)⟩ type home).2 = .ok i →
        i.disposal ∈ σ.accepted a (moment (k + 1))
  /-- An arena is filled as it is opened, or it is not opened, if there may not be so much room. -/
  filled : ∀ k thread n, (σ.after k).operation? (σ k) = some (.openFilled thread n) →
    (n ≤ 2 ^ 20 ∧ ∃ a instances, ((σ.after k).store.openFilled thread n).2 = .ok (a, instances) ∧
        (σ.after k).store.FilledBy thread n (σ.after (k + 1)).store a instances) ∨
      (2 ^ 20 < n ∧ ((σ.after k).store.openFilled thread n).2 =
          .error (.config (.capacityTooLarge n (2 ^ 20))) ∧
        (σ.after (k + 1)).store = (σ.after k).store)
  /-- If it is closed by its thread as it was filled, the call returns that it has disposed of all
      objects, and then all of them are refused for ever. -/
  closed : ∀ k thread n a instances i l m base o,
    (σ.after k).operation? (σ k) = some (.openFilled thread n) →
    ((σ.after k).store.openFilled thread n).2 = .ok (a, instances) →
    (σ.after l).store.arena a = (σ.after (k + 1)).store.arena a →
    σ.Calls i l m base (.close thread a) o →
    o = .ok (.closed (.ok ⟨n, true⟩)) ∧
      ∀ inst ∈ instances, ∀ j, m ≤ j → (σ.after j).store.Refused inst
  /-- The call returns as soon as its strand goes on often enough. -/
  returns : ∀ k thread n a instances i l base,
    (σ.after k).operation? (σ k) = some (.openFilled thread n) →
    ((σ.after k).store.openFilled thread n).2 = .ok (a, instances) →
    (σ.after l).store.arena a = (σ.after (k + 1)).store.arena a →
    σ.Starts i l base (.close thread a) → σ.Persists i →
    ∃ m, σ.Calls i l m base (.close thread a) (.ok (.closed (.ok ⟨n, true⟩)))

/-- An arena that was filled is ready to be closed as long as nobody has used it. -/
theorem closing_filled {l : Nat} {instances : Array Instance}
    (h : (σ.after k).store.FilledBy thread n (σ.after (k + 1)).store a instances)
    (hsame : (σ.after l).store.arena a = (σ.after (k + 1)).store.arena a) :
    ((σ.after l).store.arena a).isActive = true ∧
      ((σ.after l).store.arena a).confinement.check thread = .ok () ∧
      σ.accepted a l = (instances.map (·.disposal)).toList ∧ (σ.accepted a l).length = n ∧
      ∀ d ∈ σ.accepted a l, d.Inert := by
  have hactive : ((σ.after l).store.arena a).isActive = true := by
    rw [hsame, h.arena]
    rfl
  have haccepted : σ.accepted a l = (instances.map (·.disposal)).toList := by
    rw [accepted_eq_pending hactive, hsame, h.arena]
  refine ⟨hactive, ?_, haccepted, ?_, ?_⟩
  · rw [hsame, h.arena]
    exact if_pos rfl
  · rw [haccepted, Array.length_toList, Array.size_map, h.length]
  · intro d hd
    rw [haccepted, Array.toList_map] at hd
    obtain ⟨inst, hinst, rfl⟩ := List.mem_map.mp hd
    exact h.inert inst (Array.mem_toList_iff.mp hinst)

/-- A filling that succeeds has filled the arena. -/
theorem filledBy_of_openFilled {instances : Array Instance}
    (hoperation : (σ.after k).operation? (σ k) = some (.openFilled thread n))
    (hresult : ((σ.after k).store.openFilled thread n).2 = .ok (a, instances)) :
    (σ.after k).store.FilledBy thread n (σ.after (k + 1)).store a instances := by
  obtain ⟨hstore, -⟩ := Machine.store_of_operation hoperation
  by_cases hroom : n ≤ ArenaConfig.maxCapacity
  · obtain ⟨others, hothers, hfilled⟩ := Store.openFilled_filled (σ.after k).store thread hroom
    rw [hresult] at hothers
    cases hothers
    rw [after, hstore]
    exact hfilled
  · rw [Store.openFilled_refused _ thread (Nat.not_le.mp hroom)] at hresult
    cases hresult

/-- Whom an arena belongs to does not change. -/
theorem confinement_stays (hnm : n ≤ m) (hknown : a < (σ.after n).store.arenas.size) :
    ((σ.after m).store.arena a).confinement = ((σ.after n).store.arena a).confinement :=
  (@σ.stays (fun st _ => a < st.arenas.size ∧
    (st.arena a).confinement = ((σ.after n).store.arena a).confinement) n m hnm (fun _ h => h)
    (fun _ _ _ hchange hs => ⟨(hchange.arena a).known hs.1,
      ((hchange.arena a).confinement hs.1).trans hs.2⟩) ⟨hknown, rfl⟩).2

/-- An arena that declines what it would have taken over before was closed or abandoned in
    between. -/
theorem declines_later {home : ArenaRef} {e : ArenaError} (hnm : n ≤ m)
    (hhome : (σ.after n).store.hasHome home)
    (hopen : ∀ e, ¬(σ.after n).store.Declines thread home e)
    (hdeclines : (σ.after m).store.Declines thread home e) :
    e = .closed ∧ ∃ a, home = .confined a ∧ ((σ.after n).store.arena a).state = .active ∧
      ((σ.after m).store.arena a).state ≠ .active := by
  cases hdeclines with
  | @foreign a owner howner hne =>
    -- the thread was as foreign then
    have hknown : a < (σ.after n).store.arenas.size := of_decide_eq_true hhome
    rw [confinement_stays hnm hknown] at howner
    exact absurd (.foreign howner hne) (hopen (.wrongThread owner thread))
  | @closed a hadmits hinactive =>
    have hknown : a < (σ.after n).store.arenas.size := of_decide_eq_true hhome
    rw [confinement_stays hnm hknown] at hadmits
    refine ⟨rfl, a, rfl, ?_, fun hactive => ?_⟩
    · refine Arena.isActive_iff.mp (Bool.eq_true_of_not_eq_false fun hclosed => ?_)
      exact hopen .closed (.closed hadmits hclosed)
    · rw [Arena.isActive_iff.mpr hactive] at hinactive
      cases hinactive

/-- An object that was taken over by a scoped arena is in its care. -/
theorem accepted_of_takeOver {address : Address} {type : ForeignType} {i : Instance}
    (hoperation : (σ.after n).operation? (σ n) =
      some (.takeOver thread address type (.confined a)))
    (hresult : ((σ.after n).store.takeOver thread address type (.confined a)).2 = .ok i)
    (hnm : n < m) : i.disposal ∈ σ.accepted a m := by
  have hmade : (.confined a, i) ∈ (σ.after n).made (σ n) := by
    rw [Machine.made, hoperation]
    simp [Store.made, Store.taken, hresult]
  obtain ⟨-, -, hentry, -⟩ := Machine.of_made hmade
  have haccepted : i.disposal ∈ σ.accepted a (n + 1) := by
    rw [accepted, History.accepted_eq]
    exact List.mem_filterMap.mpr ⟨_, hentry, if_pos rfl⟩
  exact (σ.arenaView_grows a (Nat.succ_le_of_lt hnm)).1.subset haccepted

/-- An arena that has taken an object over, and declines another one, was closed or abandoned in
    between. -/
theorem refused_midway {address address' : Address} {type type' : ForeignType} {home : ArenaRef}
    {i : Instance} {e : ArenaError} (hnm : n < m)
    (hoperation : (σ.after n).operation? (σ n) = some (.takeOver thread address type home))
    (hresult : ((σ.after n).store.takeOver thread address type home).2 = .ok i)
    (haddress : address'.isNull = true → type'.permitsNull = true)
    (hrefused : ((σ.after m).store.takeOver thread address' type' home).2 = .error e) :
    e = .closed ∧ ∃ a, home = .confined a ∧ ((σ.after n).store.arena a).state = .active ∧
      ((σ.after m).store.arena a).state ≠ .active := by
  obtain ⟨-, hhome, -⟩ := Machine.store_of_operation hoperation
  obtain ⟨hnull, hpermits, -⟩ | ⟨hdeclines, -⟩ := Store.takeOver_declined hrefused
  · rw [haddress hnull] at hpermits
    cases hpermits
  · exact declines_later (Nat.le_of_lt hnm) hhome (Store.not_declines_of_takeOver hresult) hdeclines

/-- **Bulk registration is all or nothing**, and so is filling an arena as it is opened. -/
theorem allOrNothing (σ : Schedule) : σ.AllOrNothing where
  outcome k thread type home n hoperation := by
    obtain ⟨hstore, hhome, -⟩ := Machine.store_of_operation hoperation
    have hhome : (σ.after k).store.hasHome home = true := hhome
    rw [after, hstore]
    by_cases hopen : ∀ e, ¬(σ.after k).store.Declines thread home e
    · exact .inl (Store.takeOverMany_taken type hhome n.toNat_lt hopen)
    · -- a batch with a first object is refused, and without one there is nothing to refuse
      obtain ⟨e, hdeclines⟩ := not_forall_not.mp hopen
      cases hn : n.toNat with
      | zero => exact .inl (Store.takesBatch_zero _ type home)
      | succ j => exact .inr ⟨e, Store.takeOverMany_refused_at_once type hdeclines j⟩
  taken_iff k thread type home n hoperation := by
    obtain ⟨hstore, hhome, -⟩ := Machine.store_of_operation hoperation
    have hhome : (σ.after k).store.hasHome home = true := hhome
    constructor
    · intro herror
      by_cases hn : n.toNat = 0
      · exact .inl (UInt64.toNat_inj.mp hn)
      · right
        intro e hdeclines
        obtain ⟨j, hj⟩ := Nat.exists_eq_succ_of_ne_zero hn
        have hrefused := Store.takeOverMany_refused_at_once type hdeclines j
        rw [hj, hrefused.error] at herror
        cases herror
    · rintro (rfl | hopen)
      · rfl
      · exact (Store.takeOverMany_taken type hhome n.toNat_lt hopen).error
  auto k thread c e hdeclines := by cases hdeclines
  empty k thread type home hoperation := by
    obtain ⟨hstore, -⟩ := Machine.store_of_operation hoperation
    exact ⟨rfl, hstore⟩
  midway l m thread address type address' type' home i e hlm hoperation hresult :=
    refused_midway hlm hoperation hresult
  interrupted moment thread type home k e hmoment hk htaken hrefused := by
    obtain ⟨hoperation, i, hresult⟩ := htaken k (Nat.le_refl k)
    have hnull : (⟨UInt64.ofNat (k + 2)⟩ : Address).isNull = false := Store.address_ne_null hk
    obtain ⟨hclosed, a, rfl, hactive, hinactive⟩ := refused_midway (hmoment k (Nat.le_refl k))
      hoperation hresult (fun htrue => by rw [hnull] at htrue; cases htrue) hrefused
    refine ⟨hclosed, a, rfl, hactive, hinactive, fun j hjk i hresult => ?_⟩
    have hbefore (l : Nat) (hl : l ≤ k - j) : moment j < moment (j + l + 1) := by
      induction l with
      | zero => exact hmoment j hjk
      | succ l ih => exact Nat.lt_trans (ih (by omega)) (hmoment (j + l + 1) (by omega))
    have hlast := hbefore (k - j) (Nat.le_refl _)
    rw [Nat.add_sub_cancel' hjk] at hlast
    exact accepted_of_takeOver (htaken j hjk).1 hresult hlast
  filled k thread n hoperation := by
    obtain ⟨hstore, -⟩ := Machine.store_of_operation hoperation
    by_cases hroom : n ≤ ArenaConfig.maxCapacity
    · obtain ⟨instances, hresult, -⟩ := Store.openFilled_filled (σ.after k).store thread hroom
      exact .inl ⟨hroom, _, instances, hresult, filledBy_of_openFilled hoperation hresult⟩
    · have hrefused := Store.openFilled_refused (σ.after k).store thread (Nat.not_le.mp hroom)
      refine .inr ⟨Nat.not_le.mp hroom, congrArg Prod.snd hrefused, ?_⟩
      rw [after, hstore]
      exact congrArg Prod.fst hrefused
  closed k thread n a instances i l m base o hoperation hresult hsame hcalls := by
    obtain ⟨hactive, hcheck, haccepted, hlength, hinert⟩ :=
      closing_filled (filledBy_of_openFilled hoperation hresult) hsame
    obtain rfl := (hcalls.starts.idle_returns hactive hcheck hinert).1 m o hcalls
    rw [hlength] at hcalls ⊢
    refine ⟨rfl, fun inst hinst j hmj => refused_stays (Store.refused_iff.mpr ?_) hmj⟩
    refine hcalls.marked hactive hcheck (d := inst.disposal) ?_
    rw [haccepted, Array.toList_map]
    exact List.mem_map_of_mem (Array.mem_toList_iff.mpr hinst)
  returns k thread n a instances i l base hoperation hresult hsame hstarts hpersists := by
    obtain ⟨hactive, hcheck, -, hlength, hinert⟩ :=
      closing_filled (filledBy_of_openFilled hoperation hresult) hsame
    rw [← hlength]
    exact (hstarts.idle_returns hactive hcheck hinert).2 hpersists

/-- A run in which an arena is opened that is filled with two objects.  Another thread tries to hand
    three more over, and then the arena is closed. -/
def fillingTwo : Schedule
  | 0 => .spawn
  | 1 => .move 0 (.operate (.openFilled .main 2))
  | 2 => .move 0 (.operate (.takeOverMany (.worker "w1") closedOne.type (.confined 0) 3))
  | 3 => .move 0 (.start (.close .main 0))
  | _ => .move 0 .tick

theorem fillingTwo_persists : fillingTwo.Persists 0 :=
  fun n => ⟨n + 4, Nat.le_add_right n 4, rfl⟩

theorem allOrNothing_fillingTwo :
    (∃ e, (fillingTwo.after 2).store.RefusesBatch (.worker "w1") (.confined 0)
      (fillingTwo.after 3).store { error := some e } e) ∧
    ∃ instances : Array Instance, instances.size = 2 ∧
      ∃ m, fillingTwo.Calls 0 3 m [] (.close .main 0) (.ok (.closed (.ok ⟨2, true⟩))) ∧
        ∀ inst ∈ instances, (fillingTwo.after m).store.Refused inst := by
  have hall := allOrNothing fillingTwo
  constructor
  · obtain htaken | ⟨e, hrefused⟩ := hall.outcome 2 (.worker "w1") closedOne.type (.confined 0) 3 rfl
    · cases htaken.error
    · exact ⟨e, hrefused.error ▸ hrefused⟩
  · obtain ⟨-, a, instances, hresult, hfilled⟩ | ⟨hroom, -⟩ := hall.filled 1 .main 2 rfl
    · obtain rfl : a = 0 := hfilled.fresh
      have hstarts : fillingTwo.Starts 0 3 [] (.close .main 0) := ⟨rfl, none, rfl⟩
      obtain ⟨m, hcalls⟩ := hall.returns 1 .main 2 0 instances 0 3 [] rfl hresult rfl hstarts
        fillingTwo_persists
      obtain ⟨-, hrefused⟩ := hall.closed 1 .main 2 0 instances 0 3 m [] _ rfl hresult rfl hcalls
      exact ⟨instances, hfilled.length, m, hcalls, fun inst hinst =>
        hrefused inst hinst m (Nat.le_refl m)⟩
    · exact absurd hroom (by decide)

end Schedule

end ForeignArena
