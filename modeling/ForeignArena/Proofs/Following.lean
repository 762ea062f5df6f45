import ForeignArena.Proofs.Calls

namespace ForeignArena.Schedule

/-!
# Following a call

A part of the work goes on over its base until an outcome has come out of it, and stays
there until the strand takes the outcome in its next step.

* `Schedule.At` — what a strand is at some moment, with the store;
* `Schedule.Takes` — an outcome that is taken, by a frame (`Schedule.Takes.resumed`) or by a
  client (`Schedule.Takes.returned`);
* `Schedule.exists_takes` — a strand goes on until there is an outcome to take;
* `Schedule.Runs` — a part of the work, from its beginning to the moment at which its
  outcome is taken;
* `Schedule.exists_runs` — a part of the work that is not in progress for ever has an end;
* `Schedule.Starts`, `Schedule.Calls` — work that is started, and a call as its client sees it;
* `Schedule.Calls.waits` — the outcome waits for the client.
-/

variable {σ : Schedule} {i n m : Nat} {s t : System} {kind : ReplyKind} {base : List Frame}
  {o : Outcome}

/-! ### What a strand is at some moment -/

/-- At moment `n` strand `i` is some system, together with the store. -/
def At (σ : Schedule) (i n : Nat) (s : System) : Prop :=
  ∃ strand, (σ.after n).strands[i]? = some strand ∧ (σ.after n).system strand = s

theorem At.unique (h : σ.At i n s) (h' : σ.At i n t) : s = t := by
  obtain ⟨strand, hstrand, rfl⟩ := h
  obtain ⟨other, hother, rfl⟩ := h'
  rw [hstrand] at hother
  cases hother
  rfl

theorem At.store (h : σ.At i n s) : s.store = (σ.after n).store := by
  obtain ⟨strand, -, rfl⟩ := h
  rfl

theorem At.strand (h : σ.At i n s) : (σ.after n).strands[i]? = some ⟨s.stack, s.focus⟩ := by
  obtain ⟨strand, hstrand, rfl⟩ := h
  exact hstrand

/-- A strand makes the move of the moment, or only its store may change. -/
theorem At.succ (h : σ.At i n s) :
    (∃ move, σ n = .move i move ∧ σ.At i (n + 1) (s.perform move)) ∨
      σ.At i (n + 1) { s with store := (σ.after (n + 1)).store } := by
  obtain ⟨strand, hstrand, rfl⟩ := h
  obtain ⟨move, after, hact, hafter, -, hsystem⟩ | hafter := strand_succ hstrand
  · exact .inl ⟨move, hact, after, hafter, hsystem⟩
  · exact .inr ⟨strand, hafter, rfl⟩

theorem At.move {move : Move} (h : σ.At i n s) (hact : σ n = .move i move) :
    σ.At i (n + 1) (s.perform move) := by
  obtain ⟨strand, hstrand, rfl⟩ := h
  rw [At, after, hact]
  exact ⟨_, Machine.strand_perform hstrand move, Machine.system_perform hstrand move⟩

/-- An outcome waits until its strand takes it. -/
theorem At.waits (h : σ.At i n s) (hfocus : s.focus = .handing o) (hnm : n ≤ m)
    (hwaits : ∀ l, n ≤ l → l < m → σ l ≠ .move i .tick) :
    σ.At i m { s with store := (σ.after m).store } := by
  induction hnm with
  | refl =>
    have hsame : ({ s with store := (σ.after n).store } : System) = s := by rw [← h.store]
    rw [hsame]
    exact h
  | @step m hnm ih =>
    have hat := ih fun l hnl hlm => hwaits l hnl (Nat.lt_succ_of_lt hlm)
    obtain ⟨move, hact, hafter⟩ | hafter := hat.succ
    · have htick : move ≠ .tick := by
        rintro rfl
        exact hwaits m hnm (Nat.lt_succ_self m) hact
      rw [System.perform_handing (s := { s with store := (σ.after m).store }) hfocus move htick]
        at hafter
      have hstore : (σ.after m).store = (σ.after (m + 1)).store := hafter.store
      rw [hstore] at hafter
      exact hafter
    · exact hafter

theorem At.within (h : σ.At i n s) (hserves : s.Serves kind base) : σ.Within i n base := by
  obtain ⟨strand, hstrand, rfl⟩ := h
  exact ⟨strand, hstrand, hserves.within⟩

/-- Where frames wait, a call over the empty stack is in progress. -/
theorem within_of_stack {strand : Strand} (h : (σ.after n).strands[i]? = some strand)
    (hstack : strand.stack ≠ []) : σ.Within i n [] :=
  ⟨strand, h, strand.stack, (List.append_nil _).symm, fun hnil => absurd hnil hstack⟩

/-- So it is where an outcome has come to its base. -/
theorem within_of_handing (h : (σ.after n).strands[i]? = some ⟨base, .handing o⟩) :
    σ.Within i n base :=
  ⟨_, h, [], rfl, fun _ => ⟨o, rfl⟩⟩

/-- A call that has returned is not in progress. -/
theorem Returns.not_serves (h : σ.Returns i n base o) (hat : σ.At i n s) : ¬s.Serves kind base :=
  fun hserves => h.not_within (hat.within hserves)

/-! ### Outcomes -/

/-- At moment `m` an outcome has come to some frames, and strand `i` takes it. -/
structure Takes (σ : Schedule) (i m : Nat) (base : List Frame) (o : Outcome) : Prop where
  ended : σ.At i m { store := (σ.after m).store, stack := base, focus := .handing o }
  taken : σ m = .move i .tick

/-- The frame below takes the outcome. -/
theorem Takes.resumed {f : Frame} (h : σ.Takes i m (f :: base) o) :
    σ.At i (m + 1)
      (({ store := (σ.after m).store, stack := base, focus := .handing o } : System).resume f o) :=
  h.ended.move h.taken

/-- A client takes the outcome. -/
theorem Takes.returned (h : σ.Takes i m base o) (hbase : Grounded base) :
    σ.Returns i (m + 1) base o ∧ (σ.after (m + 1)).store = (σ.after m).store := by
  have hafter := h.ended.move h.taken
  obtain ⟨hreturned, hstore⟩ := System.tick_returned
    (s := { store := (σ.after m).store, stack := base, focus := .handing o }) rfl rfl hbase
  refine ⟨?_, hafter.store.symm.trans hstore⟩
  obtain ⟨strand, hstrand, hsystem⟩ := hafter
  rw [← hsystem] at hreturned
  exact ⟨strand, hstrand, hreturned⟩

/-- It changes nothing else with that. -/
theorem Takes.after_succ (h : σ.Takes i m base o) (hbase : Grounded base) :
    σ.after (m + 1) = { σ.after m with
      strands := (σ.after m).strands.set i ⟨base, .client (some o)⟩ } := by
  rw [after, h.taken]
  simp only [Machine.perform, h.ended.strand, Machine.system, System.tick_grounded hbase]

/-- **Following a strand.**  A strand that goes through stages until an outcome has come to some
    frames takes the outcome at some moment, if it is not in a stage any more at a later one. -/
theorem exists_takes (Stage : System → Prop) (Good : Outcome → Prop)
    (hstore : ∀ s store, Stage s → Stage { s with store })
    (hmove : ∀ s move, Stage s →
      (s.stack = base ∧ ∃ o, s.focus = .handing o ∧ Good o) ∨ Stage (s.perform move))
    (h : σ.At i n s) (hs : Stage s) (hnm : n ≤ m) (hat : σ.At i m t) (hend : ¬Stage t) :
    ∃ l o, n ≤ l ∧ l < m ∧ (∀ k, n ≤ k → k ≤ l → ∃ u, σ.At i k u ∧ Stage u) ∧
      σ.Takes i l base o ∧ Good o := by
  -- up to any moment, the strand has gone through stages or has taken an outcome
  have hstages (k : Nat) (hnk : n ≤ k) : (∀ l, n ≤ l → l ≤ k → ∃ u, σ.At i l u ∧ Stage u) ∨
      ∃ l o, n ≤ l ∧ l < k ∧ (∀ k, n ≤ k → k ≤ l → ∃ u, σ.At i k u ∧ Stage u) ∧
        σ.Takes i l base o ∧ Good o := by
    induction hnk with
    | refl =>
      left
      intro l hnl hln
      obtain rfl : n = l := Nat.le_antisymm hnl hln
      exact ⟨s, h, hs⟩
    | @step k hnk ih =>
      obtain hall | ⟨l, o, hnl, hlk, htaken⟩ := ih
      · obtain ⟨u, hu, hstage⟩ := hall k hnk (Nat.le_refl k)
        have hgoes {v : System} (hv : σ.At i (k + 1) v) (hstage : Stage v) (l : Nat)
            (hnl : n ≤ l) (hlk : l ≤ k + 1) : ∃ u, σ.At i l u ∧ Stage u := by
          rcases Nat.le_succ_iff.mp hlk with hlk | rfl
          · exact hall l hnl hlk
          · exact ⟨v, hv, hstage⟩
        obtain ⟨move, hact, hafter⟩ | hsame := hu.succ
        · obtain ⟨hstack, o, hfocus, hgood⟩ | hmoved := hmove u move hstage
          · by_cases htick : move = .tick
            · right
              subst htick
              obtain ⟨store, stack, focus⟩ := u
              dsimp only at hstack hfocus
              subst hstack hfocus
              have hstore : store = (σ.after k).store := hu.store
              rw [hstore] at hu
              exact ⟨k, o, hnk, Nat.lt_succ_self k, hall, ⟨hu, hact⟩, hgood⟩
            · -- the outcome waits, as the strand does something that is not possible
              rw [System.perform_handing hfocus move htick] at hafter
              exact .inl (hgoes hafter hstage)
          · exact .inl (hgoes hafter hmoved)
        · exact .inl (hgoes hsame (hstore u _ hstage))
      · exact .inr ⟨l, o, hnl, Nat.lt_succ_of_lt hlk, htaken⟩
  obtain hall | htaken := hstages m hnm
  · obtain ⟨u, hu, hstage⟩ := hall m hnm (Nat.le_refl m)
    rw [hu.unique hat] at hstage
    exact absurd hstage hend
  · exact htaken

/-- An outcome on its way waits for the strand to take it. -/
theorem exists_taken (h : σ.At i n s) (hstack : s.stack = base) (hfocus : s.focus = .handing o)
    (hnm : n ≤ m) (hat : σ.At i m t) (hend : t.stack = base → t.focus ≠ .handing o) :
    ∃ l, n ≤ l ∧ l < m ∧ σ.Takes i l base o := by
  obtain ⟨l, p, hnl, hlm, -, htakes, rfl⟩ := exists_takes
    (fun u => u.stack = base ∧ u.focus = .handing o) (fun p => p = o) (fun _ _ hu => hu)
    (fun _ _ hu => .inl ⟨hu.1, o, hu.2, rfl⟩) h ⟨hstack, hfocus⟩ hnm hat fun ht => hend ht.1 ht.2
  exact ⟨l, hnl, hlm, htakes⟩

/-! ### Parts of the work -/

/-- From moment `n` to moment `m` a part of the work goes on over a base, on strand `i`.  At
    the end an outcome has come out of it, which the strand takes. -/
structure Runs (σ : Schedule) (i n m : Nat) (kind : ReplyKind) (base : List Frame)
    (o : Outcome) : Prop extends σ.Takes i m base o where
  order : n ≤ m
  serves : ∀ l, n ≤ l → l ≤ m → ∃ s, σ.At i l s ∧ s.Serves kind base
  fits : o.Is kind

/-- **A part of the work comes to its end**, if at some later moment it is not in progress. -/
theorem exists_runs (h : σ.At i n s) (hserves : s.Serves kind base) (hnm : n ≤ m)
    (hat : σ.At i m t) (hend : ¬t.Serves kind base) :
    ∃ l o, l < m ∧ σ.Runs i n l kind base o := by
  obtain ⟨l, o, hnl, hlm, hall, htakes, hfits⟩ := exists_takes (·.Serves kind base) (·.Is kind)
    (fun _ store hs => hs.elsewhere store) (fun _ move hs => System.perform_serves move hs) h
    hserves hnm hat hend
  exact ⟨l, o, hlm, htakes, hnl, hall, hfits⟩

/-! ### Calls -/

/-- At moment `n` strand `i` starts some work over a base. -/
structure Starts (σ : Schedule) (i n : Nat) (base : List Frame) (w : Work) : Prop where
  started : σ n = .move i (.start w)
  client : ∃ news, (σ.after n).strands[i]? = some ⟨base, .client news⟩

variable {w : Work}

/-- The system that starts the work. -/
theorem Starts.at_next (h : σ.Starts i n base w) (hadmits : (σ.after n).store.admitsWork w) :
    ∃ news, σ.At i (n + 1)
      (({ store := (σ.after n).store, stack := base, focus := .client news } : System).start w) := by
  obtain ⟨news, hclient⟩ := h.client
  have hat : σ.At i n { store := (σ.after n).store, stack := base, focus := .client news } :=
    ⟨_, hclient, rfl⟩
  have hafter := hat.move h.started
  rw [System.perform, if_pos hadmits] at hafter
  exact ⟨news, hafter⟩

/-- At moment `n` strand `i` starts some work over a base, and at moment `m` it is given the
    outcome. -/
structure Calls (σ : Schedule) (i n m : Nat) (base : List Frame) (w : Work) (o : Outcome) :
    Prop where
  started : σ n = .move i (.start w)
  client : ∃ news, (σ.after n).strands[i]? = some ⟨base, .client news⟩
  order : n < m
  within : ∀ l, n < l → l < m → σ.Within i l base
  returns : σ.Returns i m base o

theorem Calls.starts (h : σ.Calls i n m base w o) : σ.Starts i n base w :=
  ⟨h.started, h.client⟩

theorem Calls.grounded (h : σ.Calls i n m base w o) : Grounded base := by
  obtain ⟨news, hclient⟩ := h.client
  exact σ.grounded n i hclient

theorem Calls.at_start (h : σ.Calls i n m base w o) (hadmits : (σ.after n).store.admitsWork w) :
    ∃ news, σ.At i (n + 1)
      (({ store := (σ.after n).store, stack := base, focus := .client news } : System).start w) :=
  h.starts.at_next hadmits

/-- A call returns as soon as it has come to its end. -/
theorem Calls.last {l : Nat} {p : Outcome} (h : σ.Calls i n m base w o) (hl : l < m) (hnl : n ≤ l)
    (hreturns : σ.Returns i (l + 1) base p) : m = l + 1 ∧ o = p := by
  have hlm : m = l + 1 := by
    refine Decidable.by_contra fun hne => ?_
    exact hreturns.not_within (h.within (l + 1) (by omega) (by omega))
  subst hlm
  exact ⟨rfl, h.returns.unique hreturns⟩

/-- What comes to the base is what the call returns.  It waits there until the client takes it. -/
theorem Calls.waits {l : Nat} {p : Outcome} (h : σ.Calls i n m base w o) (hnl : n ≤ l)
    (hlm : l ≤ m) (hat : σ.At i l s) (hstack : s.stack = base) (hfocus : s.focus = .handing p) :
    o = p ∧ ∀ j, l ≤ j → j < m → ∃ u, σ.At i j u ∧ u.stack = base ∧ u.focus = .handing p := by
  obtain ⟨strand, hstrand, -, hclient⟩ := h.returns
  have ht : σ.At i m ((σ.after m).system strand) := ⟨strand, hstrand, rfl⟩
  obtain ⟨e, q, hle, hem, hall, htakes, rfl⟩ := exists_takes
    (fun u => u.stack = base ∧ u.focus = .handing p) (fun q => q = p) (fun _ _ hu => hu)
    (fun _ _ hu => .inl ⟨hu.1, _, hu.2, rfl⟩) hat ⟨hstack, hfocus⟩ hlm ht fun ⟨_, hhanding⟩ => by
      rw [Machine.focus_system, hclient] at hhanding
      cases hhanding
  obtain ⟨rfl, rfl⟩ := h.last hem (Nat.le_trans hnl hle) (htakes.returned h.grounded).1
  exact ⟨rfl, fun j hlj hje => hall j hlj (Nat.le_of_lt_succ hje)⟩

end ForeignArena.Schedule
