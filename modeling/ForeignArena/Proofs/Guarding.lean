import ForeignArena.Proofs.Arenas.Sweeps
import ForeignArena.Proofs.Cleaners.Handles
import ForeignArena.Proofs.Courses

namespace ForeignArena

/-!
# Guarded disposals

A disposal whose panics are contained does all that a plain one does, with one more frame below
it.  Only when the outcome comes to that frame, the two are told apart.

* `Disposal.caught` — what the guard of a disposal makes of an outcome;
* `Machine.Inlaid`, `Machine.Inlaid.perform` — a machine with one more frame, and its acts;
* `Schedule.guarding`, `Schedule.guarding_inlaid` — a run in which a disposal is guarded.
-/

namespace Disposal

/-- What the guard of a disposal makes of an outcome.  A panic is reported, unless dropping its
    payload panics again. -/
def caught (d : Disposal) : Outcome → Outcome
  | .ok r => .ok r
  | .error payload =>
    match payload.dropped? with
    | none => .ok (.disposed (.error (.destroyPanicked d.type.name d.address payload.message)))
    | some again => .error again

end Disposal

theorem System.resume_guarded (s : System) (d : Disposal) (o : Outcome) :
    s.resume (.guarded d) o = s.hand (d.caught o) := by
  cases o with
  | ok r => rfl
  | error payload =>
    show s.contain d payload = _
    rw [contain, discard, Disposal.caught]
    cases payload.dropped? <;> rfl

/-! ### One more frame -/

namespace Machine

/-- The second machine is the first with one more frame in a strand, right over a base. -/
def Inlaid (i : Nat) (base : List Frame) (f : Frame) (m m' : Machine) : Prop :=
  ∃ above focus, m.strands[i]? = some ⟨above ++ base, focus⟩ ∧
    m' = { m with strands := m.strands.set i ⟨above ++ f :: base, focus⟩ }

variable {i : Nat} {base : List Frame} {f : Frame} {m m' : Machine}

/-- A move of a strand that was put in the place of another one. -/
theorem perform_set (hi : i < m.strands.length) {strand : Strand} {move : Move} {u : System}
    (hu : (m.system strand).perform move = u) :
    perform { m with strands := m.strands.set i strand } (.move i move) =
      { store := u.store, strands := m.strands.set i ⟨u.stack, u.focus⟩ } := by
  have hset : (m.strands.set i strand)[i]? = some strand := List.getElem?_set_self hi
  have hsystem : system { m with strands := m.strands.set i strand } strand = m.system strand := rfl
  simp only [perform, hset, hsystem, hu, List.set_set]

/-- A strand makes the same move in both machines. -/
theorem Inlaid.perform_move (h : Inlaid i base f m m') {strand : Strand}
    (hstrand : m.strands[i]? = some strand) (hwithin : strand.within base) {move : Move}
    (hgoes : strand.stack = base → move ≠ .tick) :
    Inlaid i base f (m.perform (.move i move)) (m'.perform (.move i move)) := by
  obtain ⟨above, focus, habove, rfl⟩ := h
  obtain rfl : strand = ⟨above ++ base, focus⟩ := Option.some.inj (hstrand.symm.trans habove)
  obtain ⟨hi, -⟩ := List.getElem?_eq_some_iff.mp hstrand
  -- above the base both do the same
  obtain ⟨u, hu, hu'⟩ : ∃ u : System,
      (m.system ⟨above ++ base, focus⟩).perform move = u.onto base ∧
      (m.system ⟨above ++ f :: base, focus⟩).perform move = u.onto (f :: base) := by
    by_cases hempty : above = []
    · -- an outcome waits to be taken, and is not
      subst hempty
      obtain ⟨rest, hrest, hhanding⟩ := hwithin
      obtain rfl : rest = [] := List.append_left_eq_self.mp hrest.symm
      obtain ⟨o, rfl⟩ := hhanding rfl
      have htick : move ≠ .tick := hgoes rfl
      refine ⟨⟨m.store, [], .handing o⟩, ?_, ?_⟩
      · exact System.perform_handing rfl move htick
      · exact System.perform_handing rfl move htick
    · have honto (below : List Frame) := System.perform_onto (s := ⟨m.store, above, focus⟩) below
        hempty move
      exact ⟨_, honto base, honto (f :: base)⟩
  refine ⟨u.stack, u.focus, ?_, ?_⟩
  · rw [strand_perform hstrand, hu]
    rfl
  · rw [perform_set hi hu']
    simp only [perform, hstrand, hu, System.store_onto, System.stack_onto, System.focus_onto,
      List.set_set]

/-- **Each act does the same in both machines**, unless it takes an outcome over the base. -/
theorem Inlaid.perform (h : Inlaid i base f m m') {strand : Strand}
    (hstrand : m.strands[i]? = some strand) (hwithin : strand.within base) (act : Act)
    (hgoes : strand.stack = base → act ≠ .move i .tick) :
    Inlaid i base f (m.perform act) (m'.perform act) := by
  by_cases hact : ∃ move, act = .move i move
  · obtain ⟨move, rfl⟩ := hact
    exact h.perform_move hstrand hwithin fun hstack htick => hgoes hstack (by rw [htick])
  · -- the two differ in a strand that is left alone
    have hact (move : Move) : act ≠ .move i move := fun hmove => hact ⟨move, hmove⟩
    obtain ⟨above, focus, habove, rfl⟩ := h
    refine ⟨above, focus, strand_perform_of_ne habove hact, ?_⟩
    obtain ⟨hi, -⟩ := List.getElem?_eq_some_iff.mp habove
    cases act with
    | spawn => simp only [Machine.perform, List.set_append_left _ _ hi]
    | move j move =>
      have hij : i ≠ j := fun hij => hact move (by rw [hij])
      have hsame : (m.strands.set i ⟨above ++ f :: base, focus⟩)[j]? = m.strands[j]? :=
        List.getElem?_set_ne hij
      simp only [Machine.perform, hsame]
      cases m.strands[j]? with
      | none => rfl
      | some other =>
        dsimp only
        rw [List.set_comm _ _ hij.symm]
        rfl

end Machine

namespace Schedule

variable {σ : Schedule} {i n m : Nat} {base : List Frame} {thread : ThreadId} {d : Disposal}
  {o : Outcome} {w : Work}

/-! ### Clients that start disposals -/

theorem Starts.disposes (h : σ.Starts i n base (.dispose thread d))
    (hadmits : (σ.after n).store.admitsWork (.dispose thread d)) : σ.BeginsOver i n base thread d := by
  obtain ⟨news, hclient⟩ := h.client
  exact ⟨_, _, _, ⟨_, hclient, rfl⟩, h.started, if_pos hadmits, rfl, rfl, Nat.le_refl _⟩

/-- A guarded disposal runs over its guard. -/
theorem Starts.disposes_guarded (h : σ.Starts i n base (.disposeGuarded thread d))
    (hadmits : (σ.after n).store.admitsWork (.disposeGuarded thread d)) :
    σ.BeginsOver i n (.guarded d :: base) thread d := by
  obtain ⟨news, hclient⟩ := h.client
  exact ⟨_, _, _, ⟨_, hclient, rfl⟩, h.started, if_pos hadmits, rfl, rfl, Nat.le_succ _⟩

/-- Nothing happens over a base from when an outcome waits there until it is given to a client. -/
theorem events_until {l k : Nat} {s : System} (h : σ.Calls i n m base w o) (hnl : n ≤ l)
    (hlm : l ≤ m) (hat : σ.At i l s) (hstack : s.stack = base) (hfocus : s.focus = .handing o)
    (hk : base.length ≤ k) : σ.events i k n m = σ.events i k n l := by
  obtain ⟨-, hwaits⟩ := h.waits hnl hlm hat hstack hfocus
  have hquiet (j : Nat) (hlj : l ≤ j) (hjm : j ≤ m) : σ.events i k n j = σ.events i k n l := by
    induction hlj with
    | refl => rfl
    | @step j hlj ih =>
      obtain ⟨u, hu, hbase, hhanding⟩ := hwaits j hlj hjm
      rw [events_succ (Nat.le_trans hnl hlj), ih (Nat.le_of_succ_le hjm),
        eventsAt_of_handing hu hhanding (hbase ▸ h.grounded) (hbase ▸ hk), List.append_nil]
  exact hquiet m hlm (Nat.le_refl m)

/-- A call of a disposal takes a course. -/
theorem Calls.course (h : σ.Calls i n m base (.dispose thread d) o)
    (hadmits : (σ.after n).store.admitsWork (.dispose thread d)) :
    d.Course thread (σ.events i base.length n m) (some o) := by
  obtain ⟨l, p, hnl, hlm, htakes, -, hcourse⟩ :=
    (h.starts.disposes hadmits).exists_outcome h.order h.returns.not_within
  obtain rfl := h.returned (Nat.le_of_lt hnl) (Nat.le_of_lt hlm) htakes.ended rfl rfl
  rw [events_until h (Nat.le_of_lt hnl) (Nat.le_of_lt hlm) htakes.ended rfl rfl (Nat.le_refl _)]
  exact hcourse

/-- So does one whose panics are contained, and what it returns is what its guard makes of the
    outcome. -/
theorem Calls.guarded_course (h : σ.Calls i n m base (.disposeGuarded thread d) o)
    (hadmits : (σ.after n).store.admitsWork (.disposeGuarded thread d)) :
    ∃ p, d.Course thread (σ.events i (base.length + 1) n m) (some p) ∧ o = d.caught p := by
  -- where the guard still waits, so does the client
  have hleft : ¬σ.Within i m (.guarded d :: base) := by
    rintro ⟨strand, hstrand, above, hstack, -⟩
    refine h.returns.not_within ⟨strand, hstrand, above ++ [.guarded d], ?_, fun hnil => ?_⟩
    · rw [hstack, List.append_assoc]
      rfl
    · exact absurd hnil (List.append_ne_nil_of_right_ne_nil _ (List.cons_ne_nil _ _))
  obtain ⟨l, p, hnl, hlm, htakes, -, hcourse⟩ :=
    (h.starts.disposes_guarded hadmits).exists_outcome h.order hleft
  have hat := htakes.resumed
  rw [System.resume_guarded] at hat
  obtain rfl := h.returned (Nat.le_succ_of_le (Nat.le_of_lt hnl)) hlm hat rfl rfl
  refine ⟨p, ?_, rfl⟩
  -- with its own step the guard does nothing else
  have hquiet : σ.eventsAt i (base.length + 1) l = [] := by
    have hcalls : (({ store := (σ.after l).store, stack := base, focus := .handing p } :
        System).resume (.guarded d) p).calls = (σ.after l).store.history.calls := by
      rw [System.resume_guarded]
      rfl
    rw [eventsAt_move htakes.ended htakes.taken, System.eventsOver,
      System.tookOver_of_length_ne (by simp)]
    exact System.calledOver_nil hcalls
  rw [events_until h (Nat.le_succ_of_le (Nat.le_of_lt hnl)) hlm hat rfl rfl (Nat.le_succ _),
    events_succ (Nat.le_of_lt hnl), hquiet, List.append_nil]
  exact hcourse

/-! ### Runs with a guard -/

/-- The run in which strand `i` starts a disposal with its panics contained at moment `n`. -/
def guarding (σ : Schedule) (i n : Nat) (thread : ThreadId) (d : Disposal) : Schedule := fun l =>
  if l = n then .move i (.start (.disposeGuarded thread d)) else σ l

theorem after_guarding (σ : Schedule) (i n : Nat) (thread : ThreadId) (d : Disposal) :
    (σ.guarding i n thread d).after n = σ.after n := by
  have hle (k : Nat) (hk : k ≤ n) : (σ.guarding i n thread d).after k = σ.after k := by
    induction k with
    | zero => rfl
    | succ k ih =>
      have hsame : (σ.guarding i n thread d) k = σ k := if_neg (Nat.ne_of_lt hk)
      rw [after, after, ih (Nat.le_of_succ_le hk), hsame]
  exact hle n (Nat.le_refl n)

/-- **A guard makes no difference** as long as nothing has come of the disposal, but that its frame
    is there. -/
theorem guarding_inlaid (h : σ.Starts i n base (.dispose thread d))
    (hadmits : (σ.after n).store.admitsWork (.dispose thread d)) (hnm : n < m)
    (hpending : σ.Pending i n m base) :
    (σ.after m).Inlaid i base (.guarded d) ((σ.guarding i n thread d).after m) := by
  -- on the acts since the disposal was started
  induction hnm with
  | refl =>
    -- the same disposal begins, over the base and over the guard
    obtain ⟨news, hclient⟩ := h.client
    let u : System := ⟨(σ.after n).store, [], .client news⟩
    have hguarded : (σ.guarding i n thread d) n = .move i (.start (.disposeGuarded thread d)) :=
      if_pos rfl
    have hplain : ((σ.after n).system ⟨base, .client news⟩).perform (.start (.dispose thread d)) =
        (u.dispose thread d).onto base :=
      (if_pos hadmits).trans (System.dispose_onto u base thread d)
    have hinlaid : ((σ.after n).system ⟨base, .client news⟩).perform
        (.start (.disposeGuarded thread d)) = (u.dispose thread d).onto (.guarded d :: base) :=
      (if_pos hadmits).trans (System.dispose_onto u (.guarded d :: base) thread d)
    rw [after, after, after_guarding, hguarded, h.started]
    refine ⟨(u.dispose thread d).stack, (u.dispose thread d).focus, ?_, ?_⟩
    · rw [Machine.strand_perform hclient, hplain]
      rfl
    · simp only [Machine.perform, hclient, hplain, hinlaid, System.store_onto, System.stack_onto,
        System.focus_onto, List.set_set]
  | @step m hnm ih =>
    have hbefore : σ.Pending i n m base := fun l o hnl hlm => hpending l o hnl (Nat.lt_succ_of_lt hlm)
    obtain ⟨s, hat, hs⟩ := (h.disposes hadmits).follows_until hnm hbefore
    have hsame : (σ.guarding i n thread d) m = σ m := if_neg (Nat.ne_of_gt hnm)
    rw [after, after, hsame]
    refine (ih hbefore).perform hat.strand hs.within (σ m) fun hstack htick => ?_
    -- the outcome of the disposal would be taken
    obtain ⟨above, habove, hhanding⟩ := hs.within
    obtain rfl : above = [] := List.self_eq_append_left.mp (hstack.symm.trans habove)
    obtain ⟨o, hfocus⟩ := hhanding rfl
    refine hpending m o hnm (Nat.lt_succ_self m) ⟨?_, htick⟩
    have hsystem : s = { store := (σ.after m).store, stack := base, focus := .handing o } := by
      rw [← hat.store, ← show s.stack = base from hstack, ← show s.focus = .handing o from hfocus]
    exact hsystem ▸ hat

/-- Up to then the guarded disposal is in progress, too. -/
theorem guarding_within (h : σ.Starts i n base (.dispose thread d))
    (hadmits : (σ.after n).store.admitsWork (.dispose thread d)) (hnm : n < m)
    (hpending : σ.Pending i n m base) : (σ.guarding i n thread d).Within i m base := by
  obtain ⟨above, focus, habove, hmachine⟩ := guarding_inlaid h hadmits hnm hpending
  rw [Within, hmachine]
  refine ⟨_, List.getElem?_set_self (List.getElem?_eq_some_iff.mp habove).1,
    above ++ [.guarded d], by simp, fun hnil => ?_⟩
  exact absurd hnil (List.append_ne_nil_of_right_ne_nil _ (List.cons_ne_nil _ _))

/-- When the outcome of the plain disposal is taken, the guard takes that of the other one. -/
theorem guarding_caught (h : σ.Starts i n base (.dispose thread d))
    (hadmits : (σ.after n).store.admitsWork (.dispose thread d)) (hnm : n < m)
    (hpending : σ.Pending i n m base) (htakes : σ.Takes i m base o) :
    (σ.guarding i n thread d).after (m + 1) = { σ.after m with
      strands := (σ.after m).strands.set i ⟨base, .handing (d.caught o)⟩ } := by
  have hstrand := htakes.ended.strand
  obtain ⟨hi, -⟩ := List.getElem?_eq_some_iff.mp hstrand
  obtain ⟨above, focus, habove, hmachine⟩ := guarding_inlaid h hadmits hnm hpending
  obtain ⟨hstack, rfl⟩ : base = above ++ base ∧ .handing o = focus := by
    simpa using hstrand.symm.trans habove
  obtain rfl : above = [] := List.self_eq_append_left.mp hstack
  have hsame : (σ.guarding i n thread d) m = .move i .tick := by
    rw [← htakes.taken]
    exact if_neg (Nat.ne_of_gt hnm)
  have hguard : ((σ.after m).system ⟨.guarded d :: base, .handing o⟩).perform .tick =
      ⟨(σ.after m).store, base, .handing (d.caught o)⟩ :=
    System.resume_guarded ⟨(σ.after m).store, base, .handing o⟩ d o
  rw [after, hsame, hmachine]
  exact Machine.perform_set hi hguard

/-- **A guard makes a difference to the outcome only.**  With one step more, what a call of a
    disposal returns is what its guard makes of it. -/
theorem guarding_calls (h : σ.Calls i n m base (.dispose thread d) o)
    (hadmits : (σ.after n).store.admitsWork (.dispose thread d)) :
    ((σ.guarding i n thread d).insert m (.move i .tick)).Calls i n (m + 1) base
        (.disposeGuarded thread d) (d.caught o) ∧
      ((σ.guarding i n thread d).insert m (.move i .tick)).after (m + 1) =
        { σ.after m with
          strands := (σ.after m).strands.set i ⟨base, .client (some (d.caught o))⟩ } := by
  obtain ⟨l, p, hnl, hlm, htakes, hpending, -⟩ :=
    (h.starts.disposes hadmits).exists_outcome h.order h.returns.not_within
  obtain ⟨rfl, rfl⟩ := h.last hlm (Nat.le_of_lt hnl) (htakes.returned h.grounded).1
  have hcaught := guarding_caught h.starts hadmits hnl hpending htakes
  obtain ⟨hi, -⟩ := List.getElem?_eq_some_iff.mp htakes.ended.strand
  generalize hρ : (σ.guarding i n thread d).insert (l + 1) (.move i .tick) = ρ
  have hbefore (k : Nat) (hkl : k ≤ l + 1) : ρ.after k = (σ.guarding i n thread d).after k :=
    hρ ▸ after_insert_of_le _ hkl
  have htick : ρ (l + 1) = .move i .tick := by
    rw [← hρ]
    simp [insert]
  -- the client takes what the guard has made of the outcome
  have hreturned : ρ.after (l + 1 + 1) = { σ.after (l + 1) with
      strands := (σ.after (l + 1)).strands.set i ⟨base, .client (some (d.caught o))⟩ } := by
    rw [after, htick, hbefore (l + 1) (Nat.le_refl _), hcaught,
      Machine.perform_set hi (System.tick_grounded h.grounded), htakes.after_succ h.grounded,
      List.set_set]
  have hclient : (ρ.after (l + 1 + 1)).strands[i]? = some ⟨base, .client (some (d.caught o))⟩ := by
    rw [hreturned]
    obtain ⟨strand, hlast, -⟩ := h.returns
    exact List.getElem?_set_self (List.getElem?_eq_some_iff.mp hlast).1
  refine ⟨⟨?_, ?_, Nat.lt_succ_of_lt h.order, fun j hnj hjl => ?_, ⟨_, hclient, rfl, rfl⟩⟩, hreturned⟩
  · rw [← hρ, insert, if_pos h.order]
    exact if_pos rfl
  · rw [hbefore n (Nat.le_of_lt h.order), after_guarding]
    exact h.client
  · rw [Within, hbefore j (Nat.le_of_lt_succ hjl)]
    obtain hjl | rfl := Nat.lt_succ_iff_lt_or_eq.mp hjl
    · exact guarding_within h.starts hadmits hnj fun k q hnk hkj =>
        hpending k q hnk (Nat.lt_of_lt_of_le hkj (Nat.le_of_lt_succ hjl))
    · rw [hcaught]
      exact ⟨_, List.getElem?_set_self hi, [], rfl, fun _ => ⟨_, rfl⟩⟩

end Schedule

end ForeignArena
