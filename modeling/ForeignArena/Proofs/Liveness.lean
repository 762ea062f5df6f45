import ForeignArena.Proofs.Arenas.ClosedOnce
import ForeignArena.Proofs.Flags

namespace ForeignArena

/-!
# Instances are refused once their disposal has begun

An instance shares its flag with its own disposal only.  So as long as nobody else sets the
flag, it tells exactly whether this disposal has begun.

* `Store.Usable`, `Store.Refused` — what is said to all who use an instance;
* `Schedule.Began` — the disposal of an instance has begun;
* `Schedule.Spared` — nobody else has set the flag;
* `Schedule.LivenessKept`, `Schedule.livenessKept` — what this means for instances.
-/

/-! ### What is said to users -/

namespace Store

variable {st : Store} {i : Instance}

/-- All who use an instance are given its address. -/
structure Usable (st : Store) (i : Instance) : Prop where
  check : st.checkAlive i = .ok ()
  address : st.liveAddress i = .ok i.address
  call : ∀ {α : Type} (use : Address → α), st.call i use = .ok (use i.address)

/-- All who use an instance are told that it was destroyed, and no use takes place. -/
structure Refused (st : Store) (i : Instance) : Prop where
  check : st.checkAlive i = .error (.useAfterFree i.type.name)
  address : st.liveAddress i = .error (.useAfterFree i.type.name)
  call : ∀ {α : Type} (use : Address → α), st.call i use = .error (.useAfterFree i.type.name)

theorem usable_iff : st.Usable i ↔ st.isDestroyed i.flag = false := by
  have hcheck : st.checkAlive i =
      if st.isDestroyed i.flag then .error (.useAfterFree i.type.name) else .ok () := rfl
  constructor
  · intro h
    cases hflag : st.isDestroyed i.flag with
    | false => rfl
    | true =>
      rw [h.check, hflag] at hcheck
      cases hcheck
  · intro hflag
    rw [hflag] at hcheck
    exact ⟨hcheck, by simp [liveAddress, hcheck], fun use => by simp [call, liveAddress, hcheck]⟩

theorem refused_iff : st.Refused i ↔ st.isDestroyed i.flag = true := by
  have hcheck : st.checkAlive i =
      if st.isDestroyed i.flag then .error (.useAfterFree i.type.name) else .ok () := rfl
  constructor
  · intro h
    cases hflag : st.isDestroyed i.flag with
    | true => rfl
    | false =>
      rw [h.check, hflag] at hcheck
      cases hcheck
  · intro hflag
    rw [hflag] at hcheck
    exact ⟨hcheck, by simp [liveAddress, hcheck], fun use => by simp [call, liveAddress, hcheck]⟩

end Store

/-! ### A flag that only registered disposals set -/

namespace FlagView

/-- A flag that tells exactly whether a registered disposal with it has begun. -/
structure Faithful (v : FlagView) : Prop where
  set : v.set = true → v.begun ≠ []
  begun : v.begun = v.runs.map (·.disposal)

variable {move : Move} {flag : Nat} {v w : FlagView}

/-- Changes keep a flag faithful where no client sets it, neither at once nor by a disposal
    of its own. -/
theorem Step.faithful (hstep : Step move flag v w) (hmark : move ≠ .operate (.mark flag))
    (hdispose : ∀ d, d.flag = flag → ¬move.Disposes d) (h : v.Faithful) : w.Faithful := by
  cases hstep with
  | same => exact h
  | created => exact ⟨h.set, h.begun⟩
  | marked hmove => exact absurd hmove hmark
  | began d hflag hmove => exact absurd hmove (hdispose d hflag)
  | ran e => exact ⟨fun _ => by simp, by simp [h.begun]⟩

end FlagView

namespace Schedule

variable {σ : Schedule} {k n : Nat} {home : ArenaRef} {i : Instance}

/-- A registered disposal has begun before moment `n`. -/
def Began (σ : Schedule) (e : Entry) (n : Nat) : Prop :=
  e ∈ (σ.after n).store.history.runs e.disposal.flag

/-- After moment `k` and before moment `n` nobody sets the flag of a registered disposal but
    this disposal itself: neither a client at once, nor a disposal that a client begins, nor
    another one that is registered. -/
structure Spared (σ : Schedule) (own : Entry) (k n : Nat) : Prop where
  marked : ∀ l, k < l → l < n → ∀ j, σ l ≠ .move j (.operate (.mark own.disposal.flag))
  disposed : ∀ l, k < l → l < n → ∀ j move d, σ l = .move j move →
    d.flag = own.disposal.flag → ¬move.Disposes d
  others : ∀ e, e.disposal.flag = own.disposal.flag → σ.Began e n → e = own

/-- The flag of a new instance is faithful as long as it is spared. -/
theorem Spared.faithful (h : σ.Spared (i.entry home) k n) (hmade : (home, i) ∈ (σ.after k).made (σ k))
    (hkn : k < n) : (σ.flagView i.flag n).Faithful := by
  obtain ⟨⟨j, operation, hact, hmark⟩, hfresh, -, -⟩ := Machine.of_made hmade
  have hall (l : Nat) (hkl : k ≤ l) (hln : l ≤ n) : (σ.flagView i.flag l).Faithful := by
    -- from the moment at which the instance is made, when its flag does not exist yet
    induction hkl with
    | refl =>
      obtain ⟨hset, hbegun, hruns⟩ := (σ.flagView_sound i.flag k).unknown (Nat.not_lt.mpr hfresh)
      exact ⟨fun htrue => by simp [hset] at htrue, by rw [hbegun, hruns]; rfl⟩
    | @step l hkl ih =>
      refine σ.flagView_keeps i.flag FlagView.Faithful l (fun {j' move v w} hmove hstep => ?_)
        (ih (Nat.le_of_succ_le hln))
      obtain rfl | hlt := Nat.eq_or_lt_of_le hkl
      · -- the act that makes the instance leaves its flag as it is
        rw [hact] at hmove
        cases hmove
        refine hstep.faithful (fun heq => ?_) ?_
        · cases heq
          exact hmark i.flag rfl
        · rintro d - ⟨thread, heq | heq⟩ <;> cases heq
      · refine hstep.faithful ?_ fun d hd => h.disposed l hlt hln j' move d hmove hd
        rintro rfl
        exact h.marked l hlt hln j' hmove
  exact hall n (Nat.le_of_lt hkn) (Nat.le_refl n)

/-- **The flag of an instance is set once its own disposal has begun.** -/
theorem Spared.isDestroyed_iff (h : σ.Spared (i.entry home) k n)
    (hmade : (home, i) ∈ (σ.after k).made (σ k)) (hkn : k < n) :
    (σ.after n).store.isDestroyed i.flag = true ↔ σ.Began (i.entry home) n := by
  have hfaithful := h.faithful hmade hkn
  have hbegun : (σ.flagView i.flag n).begun = _ := hfaithful.begun
  constructor
  · -- a disposal with the flag has begun, and nobody else's has
    intro hset
    have hsome : (σ.flagView i.flag n).runs ≠ [] := by
      intro hnone
      rw [hnone] at hbegun
      exact hfaithful.set hset hbegun
    obtain ⟨e, he⟩ := List.exists_mem_of_ne_nil _ hsome
    have hflag : e.disposal.flag = i.flag := (History.mem_runs.mp he).1
    have hbegan : σ.Began e n := by
      rw [Began, hflag]
      exact he
    rw [← h.others e hflag hbegan]
    exact hbegan
  · intro hbegan
    refine (σ.flagView_sound i.flag n).set fun hnone => ?_
    rw [hnone] at hbegun
    have hruns := List.map_eq_nil_iff.mp hbegun.symm
    have hmem : i.entry home ∈ (σ.flagView i.flag n).runs := hbegan
    rw [hruns] at hmem
    cases hmem

/-- What has begun stays so. -/
theorem Began.mono {e : Entry} {m : Nat} (h : σ.Began e n) (hnm : n ≤ m) : σ.Began e m :=
  (σ.flagView_grows e.disposal.flag hnm).2.2.2.subset h

theorem Spared.mono {own : Entry} {m : Nat} (h : σ.Spared own k m) (hnm : n ≤ m) :
    σ.Spared own k n where
  marked l hkl hln := h.marked l hkl (Nat.lt_of_lt_of_le hln hnm)
  disposed l hkl hln := h.disposed l hkl (Nat.lt_of_lt_of_le hln hnm)
  others e he hbegan := h.others e he (hbegan.mono hnm)

/-- A disposal in the care of a scoped arena begins in the call that closes the arena. -/
theorem began_within {a : Nat} {d : Disposal} (hbefore : ¬σ.Began ⟨.confined a, .plain, d⟩ n)
    (hafter : σ.Began ⟨.confined a, .plain, d⟩ (n + 1)) :
    ∃ m j base move, σ.Closes a m j base ∧ m ≤ n ∧ σ n = .move j move ∧
      ∀ l, m < l → l ≤ n → σ.Within j l base := by
  refine attempted_within fun hsame => hbefore ?_
  obtain ⟨-, ⟨b, heq, hattempted⟩ | ⟨c, token, heq, -⟩⟩ := History.mem_runs.mp hafter
  · cases heq
    have hmem : d ∈ (σ.arenaView a (n + 1)).attempted := hattempted
    rw [hsame] at hmem
    exact History.mem_runs.mpr ⟨rfl, .inl ⟨a, rfl, hmem⟩⟩
  · cases heq

/-- An instance in the care of a scoped arena has a receipt that does nothing. -/
theorem receipt_of_confined {a : Nat} (hmade : (.confined a, i) ∈ (σ.after k).made (σ k)) :
    i.registration = .plain := by
  obtain ⟨-, -, hentry, -⟩ := Machine.of_made hmade
  obtain ⟨b, heq, -⟩ | ⟨c, token, heq, -⟩ := History.mem_entries.mp hentry
  · exact congrArg Entry.receipt heq
  · cases congrArg Entry.home heq

/-- An instance in the care of a cleaner has a token, which exists from the beginning. -/
theorem receipt_of_auto {c : Nat} (hmade : (.auto c, i) ∈ (σ.after k).made (σ k)) :
    ∃ token, i.registration = .tracked c token ∧
      token ∈ ((σ.after (k + 1)).store.cleaner c).tokens := by
  obtain ⟨-, -, hentry, hheld⟩ := Machine.of_made hmade
  obtain ⟨b, heq, -⟩ | ⟨b, token, heq, -⟩ := History.mem_entries.mp hentry
  · cases congrArg Entry.home heq
  · have hhome : ArenaRef.auto c = .auto b := congrArg Entry.home heq
    cases hhome
    have hreceipt : i.registration = .tracked c token := congrArg Entry.receipt heq
    exact ⟨token, hreceipt, hheld c token rfl hreceipt⟩

/-- A disposal in the care of a cleaner has not begun while its token exists. -/
theorem not_began_of_token {c token : Nat} {d : Disposal}
    (htoken : token ∈ ((σ.after n).store.cleaner c).tokens) :
    ¬σ.Began ⟨.auto c, .tracked c token, d⟩ n := by
  intro hbegan
  obtain ⟨-, ⟨a, heq, -⟩ | ⟨b, other, heq, hstarted⟩⟩ := History.mem_runs.mp hbegan
  · cases congrArg Entry.home heq
  · cases heq
    exact (σ.cleanerView_sound c n).not_started
      (by simp [show token ∈ (σ.cleanerView c n).cleaner.tokens from htoken]) _ hstarted

/-- What it means that the use of instances is checked in a run.  Each instance is one that
    was made at some moment `k`, and the moments `n` come after it. -/
structure LivenessKept (σ : Schedule) : Prop where
  /-- An instance is refused if its own disposal has begun. -/
  refused : ∀ k n home i, (home, i) ∈ (σ.after k).made (σ k) → k < n →
    σ.Spared (i.entry home) k n → ((σ.after n).store.Refused i ↔ σ.Began (i.entry home) n)
  /-- It can be used if not. -/
  usable : ∀ k n home i, (home, i) ∈ (σ.after k).made (σ k) → k < n →
    σ.Spared (i.entry home) k n → ((σ.after n).store.Usable i ↔ ¬σ.Began (i.entry home) n)
  /-- Once refused it is refused forever, whatever has become of the disposal. -/
  forever : ∀ n m i, n ≤ m → (σ.after n).store.Refused i → (σ.after m).store.Refused i
  /-- In a scoped arena it comes to be refused only in the call that closes the arena. -/
  closing : ∀ k n a i, (.confined a, i) ∈ (σ.after k).made (σ k) → k < n →
    σ.Spared (i.entry (.confined a)) k (n + 1) →
    (σ.after n).store.Usable i → (σ.after (n + 1)).store.Refused i →
    ∃ m j base move, σ.Closes a m j base ∧ m ≤ n ∧ σ n = .move j move ∧
      ∀ l, m < l → l ≤ n → σ.Within j l base
  /-- With a cleaner it can be used as long as its token is neither dropped nor cleaned. -/
  held : ∀ k n c i, (.auto c, i) ∈ (σ.after k).made (σ k) → k < n →
    σ.Spared (i.entry (.auto c)) k n → ∃ token, i.registration = .tracked c token ∧
      (token ∈ ((σ.after n).store.cleaner c).tokens → (σ.after n).store.Usable i) ∧
      ((∀ l, k < l → l < n → ∀ j move, σ l = .move j move → ¬move.Spends c token) →
        token ∈ ((σ.after n).store.cleaner c).tokens)

/-- **The use of instances is checked.**  Where nobody else sets its flag, an instance can be
    used up to the moment at which its own disposal begins, and never after it. -/
theorem livenessKept (σ : Schedule) : σ.LivenessKept where
  refused k n home i hmade hkn hspared :=
    Store.refused_iff.trans (hspared.isDestroyed_iff hmade hkn)
  usable k n home i hmade hkn hspared := by
    rw [Store.usable_iff, ← hspared.isDestroyed_iff hmade hkn, Bool.not_eq_true]
  forever n m i hnm hrefused :=
    Store.refused_iff.mpr ((σ.flagView_grows i.flag hnm).2.1 (Store.refused_iff.mp hrefused))
  closing k n a i hmade hkn hspared husable hrefused := by
    have hentry : i.entry (.confined a) = ⟨.confined a, .plain, i.disposal⟩ := by
      rw [Instance.entry, receipt_of_confined hmade]
    have hbefore : ¬σ.Began (i.entry (.confined a)) n := by
      rw [← (hspared.mono (Nat.le_succ n)).isDestroyed_iff hmade hkn, Bool.not_eq_true]
      exact Store.usable_iff.mp husable
    have hafter : σ.Began (i.entry (.confined a)) (n + 1) :=
      (hspared.isDestroyed_iff hmade (Nat.lt_succ_of_lt hkn)).mp (Store.refused_iff.mp hrefused)
    rw [hentry] at hbefore hafter
    exact began_within hbefore hafter
  held k n c i hmade hkn hspared := by
    obtain ⟨token, hreceipt, hheld⟩ := receipt_of_auto hmade
    refine ⟨token, hreceipt, fun htoken => ?_, fun hmoves => ?_⟩
    · rw [Store.usable_iff, ← Bool.not_eq_true, hspared.isDestroyed_iff hmade hkn, Instance.entry,
        hreceipt]
      exact not_began_of_token htoken
    · exact σ.token_stays c hkn (fun l hkl hln => hmoves l hkl hln) hheld

theorem livenessKept_closingOne : (closingOne.after 3).store.Usable closedOne ∧
    (closingOne.after 4).store.Refused closedOne ∧
    ∃ m j base, m ≤ 3 ∧ closingOne.Closes 0 m j base := by
  have hmade : (.confined 0, closedOne) ∈ (closingOne.after 2).made (closingOne 2) :=
    List.mem_singleton.mpr rfl
  have hspared : closingOne.Spared (closedOne.entry (.confined 0)) 2 4 := by
    constructor
    case marked =>
      intro l hl hl4 j heq
      obtain rfl : l = 3 := by omega
      cases heq
    case disposed =>
      intro l hl hl4 j move d heq _ hdisposes
      obtain rfl : l = 3 := by omega
      cases heq
      obtain ⟨thread, h | h⟩ := hdisposes <;> cases h
    case others =>
      intro e hflag hbegan
      rw [Began, hflag] at hbegan
      exact List.mem_singleton.mp hbegan
  have husable : (closingOne.after 3).store.Usable closedOne := by
    refine ((livenessKept closingOne).usable 2 3 _ _ hmade (by omega)
      (hspared.mono (Nat.le_succ 3))).mpr fun hbegan => ?_
    cases hbegan
  have hrefused : (closingOne.after 4).store.Refused closedOne :=
    ((livenessKept closingOne).refused 2 4 _ _ hmade (by omega) hspared).mpr
      (List.mem_singleton.mpr rfl)
  obtain ⟨m, j, base, -, hcloses, hm, -⟩ :=
    (livenessKept closingOne).closing 2 3 0 closedOne hmade (by omega) hspared husable hrefused
  exact ⟨husable, hrefused, m, j, base, hm, hcloses⟩

end Schedule

end ForeignArena
