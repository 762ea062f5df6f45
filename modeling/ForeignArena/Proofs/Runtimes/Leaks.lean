import ForeignArena.Proofs.Beginnings
import ForeignArena.Proofs.Runtimes.HeapKept
import ForeignArena.Proofs.Runtimes.Tending

namespace ForeignArena

/-!
# Leaking comes before freeing

A disposal asks how many references there are to its object, and gives back its own only
if there is no other.  An object that others still hold is leaked: it stays, also when the
others give their references back later.

* `System.dispose_onHeap`, `System.destroy_onHeap` — what a disposal does with its object;
* `Schedule.Entrusts` — an object that is left to its wrapper;
* `Schedule.GivesUp`, `Schedule.Leaks` — the two ways in which its disposal goes on;
* `Schedule.HeldLeaked`, `Schedule.heldLeaked` — which of them it takes, and that there is no
  way back.

The question and what follows from the answer are two steps of a strand, and others may
move in between.
-/

/-! ### What a disposal does with its object -/

namespace System

variable (s : System) (thread : ThreadId) {d : Disposal} {h : Nat}

/-- A disposal of a counted object is told the count of the heap. -/
theorem dispose_onHeap (hkind : d.type.kind = .reference)
    (hroutines : d.type.routines = .heapObject h) :
    (s.dispose thread d).stack = .counted thread d :: s.stack ∧
      (s.dispose thread d).focus = .handing
        (.ok (.count (((s.dispose thread d).store.heap h).retainCount? d.address))) := by
  have hreference : d.type.kind.isReference = true := by rw [hkind]; rfl
  unfold dispose
  dsimp only
  rw [if_pos hreference]
  unfold askCount Store.knownCount?
  rw [hroutines]
  exact ⟨rfl, rfl⟩

/-- Its destroy routine ends at once. -/
theorem destroy_onHeap (hroutines : d.type.routines = .heapObject h) :
    (s.destroy thread d).stack = .destroying thread d :: s.stack ∧
      (s.destroy thread d).focus = .handing (.ok .done) ∧
      (s.destroy thread d).store.history = .destroying thread d :: s.store.history := by
  unfold destroy callDestroy Store.destroyKnown?
  rw [hroutines]
  exact ⟨rfl, rfl, rfl⟩

end System

namespace Schedule

variable {σ : Schedule} {h : Nat} {payload : Int64} {k l m n : Nat}

/-! ### Objects with a wrapper -/

/-- What waits elsewhere stays where a strand makes its move. -/
theorem At.frames_perm {i : Nat} {s t : System} {move : Move} (h : σ.At i n s)
    (hact : σ n = .move i move) (hafter : σ.At i (n + 1) t) :
    ∃ others, (σ.after n).frames.Perm (s.stack ++ others) ∧
      (σ.after (n + 1)).frames.Perm (t.stack ++ others) := by
  obtain rfl := (h.move hact).unique hafter
  obtain ⟨strand, hstrand, rfl⟩ := h
  obtain ⟨others, hbefore, hall⟩ := Machine.frames_perm hstrand
  refine ⟨others, hbefore, ?_⟩
  rw [after, hact, Machine.frames]
  simp only [Machine.perform, hstrand]
  exact hall _

/-- The object at an address is there at moment `m`, with one reference beside the extra ones. -/
def Counted (σ : Schedule) (h : Nat) (payload : Int64) (a : Address) (m : Nat) : Prop :=
  ∃ object, ((σ.after m).store.heap h).get? a = some object ∧
    object.typeName = Store.objectTypeName ∧ object.payload = payload ∧
    object.retainCount.toNat = 1 + σ.extra h m a

/-- **A disposal gives up the reference of its wrapper**: in moment `l` strand `j` goes on to the
    destroy routine, which ends at once.  From then on the object is there as long as somebody has
    an extra reference.  If nobody has one, it is freed, once and for all. -/
structure GivesUp (σ : Schedule) (h : Nat) (payload : Int64) (i : Instance) (n j l : Nat)
    (thread : ThreadId) (base : List Frame) : Prop where
  before : σ.Counted h payload i.address l
  destroyed : (σ.after (l + 1)).strands[j]? =
    some ⟨.destroying thread i.disposal :: base, .handing (.ok .done)⟩
  account : ∀ m, l < m → m ≤ n → ((σ.after m).store.heap h).get? i.address =
    Account.object? ⟨Store.objectTypeName, payload, σ.extra h m i.address⟩
  freed : σ.extra h l i.address = 0 → i.address ∉ ((σ.after l).store.heap h).freed ∧
    ∀ m, l < m → m ≤ n → ((σ.after m).store.heap h).get? i.address = none ∧
      ((σ.after m).store.heap h).freed.toList.count i.address = 1

/-- **A disposal leaks its object**: in moment `l` it fails with the count that it was told, and
    nothing else happens.  From then on the object is there, with one reference beside the extra
    ones, whether these are given back or not. -/
structure Leaks (σ : Schedule) (h : Nat) (payload : Int64) (i : Instance) (n j l : Nat)
    (base : List Frame) (c : UInt64) : Prop where
  failed : (σ.after (l + 1)).strands[j]? = some ⟨base, .handing
    (.ok (.disposed (.error (.unexpectedRetainCount i.type.name i.address c))))⟩
  same : (σ.after (l + 1)).store = (σ.after l).store
  stays : ∀ m, l < m → m ≤ n → σ.Counted h payload i.address m ∧
    i.address ∉ ((σ.after m).store.heap h).freed

/-- **At moment `k` an object is made** on a heap, with a wrapper for it in the care of an arena,
    and it is not disturbed before moment `n`.  The type of the wrapper knows the counts of the
    heap. -/
structure Entrusts (σ : Schedule) (h : Nat) (payload : Int64) (home : ArenaRef) (i : Instance)
    (k n : Nat) : Prop where
  made : ∃ thread ρ, ρ.heap = h ∧
    (σ.after k).operation? (σ k) = some (.newObject thread ρ payload home) ∧
    (home, i) ∈ (σ.after k).made (σ k)
  kind : i.type.kind = .reference
  routines : i.type.routines = .heapObject h
  undisturbed : σ.Undisturbed h i.address k n

namespace Entrusts

variable {home : ArenaRef} {i : Instance}

/-- **The object is tended** as long as it is not disturbed. -/
theorem tends (ho : σ.Entrusts h payload home i k n) (hkm : k < m) (hmn : m ≤ n) :
    σ.Tends h i.address (some (i.entry home)) payload m := by
  induction hkm with
  | refl =>
    obtain ⟨thread, ρ, rfl, hoperation, hmade⟩ := ho.made
    obtain ⟨hstore, hadmits, -⟩ := Machine.store_of_operation hoperation
    obtain ⟨hknown, hroom⟩ := ho.undisturbed.room k hmn _ hoperation rfl
    rw [Machine.made, hoperation] at hmade
    have hbefore : σ.Tends ρ.heap i.address none payload k :=
      ho.undisturbed.tends (Nat.le_refl k) (Nat.le_of_lt hmn)
    unfold Tends
    rw [extra, hoperation, after, hstore, Machine.frames_of_operation hoperation]
    exact Store.newObject_tended hbefore hadmits hknown hroom hmade ho.routines
  | @step m hkm ih =>
    exact ((ih (Nat.le_of_succ_le hmn)).succ ho.undisturbed hmn (Nat.ne_of_gt hkm)).1

/-- Whether the object is there, and with how many references, is told by its disposal and by
    the extra references. -/
theorem account (ho : σ.Entrusts h payload home i k n) (hkm : k < m) (hmn : m ≤ n) :
    ((σ.after m).store.heap h).get? i.address = Account.object? ⟨Store.objectTypeName, payload,
      (σ.after m).store.history.own i.disposal + σ.extra h m i.address⟩ := by
  obtain ⟨d, hlends, hthere⟩ := (ho.tends hkm hmn).there
  exact (hlends.holds.get? i.address).trans (hthere _ rfl).2

/-- Before it comes to the destroy routine, the object is there. -/
theorem counted (ho : σ.Entrusts h payload home i k n) (hkm : k < m) (hmn : m ≤ n)
    (hentered : (σ.after m).store.history.entered i.disposal = 0) :
    σ.Counted h payload i.address m :=
  (ho.tends hkm hmn).get?_of_own (ho.undisturbed.small m hmn) hentered

/-- What is there was not freed. -/
theorem not_freed (ho : σ.Entrusts h payload home i k n) (hkm : k < m) (hmn : m ≤ n)
    (hcounted : σ.Counted h payload i.address m) :
    i.address ∉ ((σ.after m).store.heap h).freed := by
  obtain ⟨d, hlends, -⟩ := (ho.tends hkm hmn).there
  obtain ⟨object, hget, -⟩ := hcounted
  exact ((hlends.holds.live_iff i.address).mp (by rw [hget]; rfl)).2

/-- What is not there was freed, and it was freed once. -/
theorem freed_once (ho : σ.Entrusts h payload home i k n) (hkm : k < m) (hmn : m ≤ n)
    (hnone : ((σ.after m).store.heap h).get? i.address = none) :
    ((σ.after m).store.heap h).freed.toList.count i.address = 1 := by
  obtain ⟨d, hlends, hthere⟩ := (ho.tends hkm hmn).there
  have honce : ((σ.after m).store.heap h).freed.toList.Nodup := by
    rw [hlends.holds.freed]
    exact hlends.holds.table.taken
  refine List.count_eq_one_of_mem honce (Array.mem_toList_iff.mpr ?_)
  refine Decidable.by_contra fun hnot => ?_
  have hsome := (hlends.holds.live_iff i.address).mpr ⟨(hthere _ rfl).1, hnot⟩
  rw [hnone] at hsome
  cases hsome

/-- A disposal that has not begun has not come there. -/
theorem not_entered_of_not_began (ho : σ.Entrusts h payload home i k n) (hkm : k < m) (hmn : m ≤ n)
    (hbegan : ¬σ.Began (i.entry home) m) :
    (σ.after m).store.history.entered i.disposal = 0 := by
  have hs := ho.tends hkm hmn
  have hway : (σ.after m).frames.countP (Frame.isCounted i.disposal) +
      (σ.after m).store.history.entered i.disposal ≤
      ((σ.after m).store.history.begun i.disposal.flag).count i.disposal :=
    (hs.orderly i.disposal hs.frees.1).way
  have hnone : ((σ.after m).store.history.begun i.disposal.flag).count i.disposal = 0 :=
    List.count_eq_zero.mpr fun hmem => hbegan (hs.began_iff.mpr hmem)
  rw [hnone] at hway
  omega

/-- Nor has one that waits for its count; and it does so once. -/
theorem of_waiting (ho : σ.Entrusts h payload home i k n) (hkm : k < m) (hmn : m ≤ n)
    {thread : ThreadId} {below others : List Frame}
    (hframes : (σ.after m).frames.Perm (.counted thread i.disposal :: below ++ others)) :
    (σ.after m).store.history.entered i.disposal = 0 ∧
      (below ++ others).countP (Frame.isCounted i.disposal) = 0 := by
  have hs := ho.tends hkm hmn
  have hle := (hs.waiting_le hs.frees.1).2
  have hwaiting : (σ.after m).frames.countP (Frame.isCounted i.disposal) =
      (below ++ others).countP (Frame.isCounted i.disposal) + 1 := by
    rw [hframes.countP_eq, List.cons_append]
    exact List.countP_cons_of_pos (by simp [Frame.isCounted])
  rw [show (i.entry home).disposal = i.disposal from rfl, hwaiting] at hle
  omega

/-- What is gone does not come back. -/
theorem gone (ho : σ.Entrusts h payload home i k n) (hkm : k < m)
    (hgone : (σ.after m).store.history.own i.disposal + σ.extra h m i.address = 0) (hml : m ≤ l)
    (hln : l ≤ n) :
    (σ.after l).store.history.own i.disposal + σ.extra h l i.address = 0 := by
  induction hml with
  | refl => exact hgone
  | @step l hml ih =>
    have hbefore := ih (Nat.le_of_succ_le hln)
    have hextra := ((ho.tends (Nat.lt_of_lt_of_le hkm hml) (Nat.le_of_succ_le hln)).succ
      ho.undisturbed hln (Nat.ne_of_gt (Nat.lt_of_lt_of_le hkm hml))).2 _ rfl hbefore
    have hentered := σ.entered_mono i.disposal (Nat.le_add_right l 1)
    show (σ.after (l + 1)).store.history.own i.disposal + σ.extra h (l + 1) i.address = 0
    rw [History.own] at hbefore ⊢
    rw [hextra]
    omega

/-- If its frame goes and nothing else happens, it is lost on its way. -/
theorem lost (ho : σ.Entrusts h payload home i k n) (hkm : k < m) (hmn : m ≤ n)
    {thread : ThreadId} {below others : List Frame}
    (hframes : (σ.after m).frames.Perm (.counted thread i.disposal :: below ++ others))
    (hframes' : (σ.after (m + 1)).frames.Perm (below ++ others))
    (hstore : (σ.after (m + 1)).store = (σ.after m).store) :
    (σ.disposalView i.disposal (m + 1)).Lost := by
  have hs := ho.tends hkm hmn
  obtain ⟨hentered, hwaiting⟩ := ho.of_waiting hkm hmn hframes
  have hbegun : (σ.after m).frames.countP (Frame.isCounted i.disposal) +
      (σ.after m).store.history.entered i.disposal ≤
      ((σ.after m).store.history.begun i.disposal.flag).count i.disposal :=
    (hs.orderly i.disposal hs.frees.1).way
  have hframe : 0 < (σ.after m).frames.countP (Frame.isCounted i.disposal) := by
    rw [hframes.countP_eq]
    simp [Frame.isCounted]
  show (σ.after (m + 1)).frames.countP (Frame.isCounted i.disposal) +
    (σ.after (m + 1)).store.history.entered i.disposal <
    ((σ.after (m + 1)).store.history.begun i.disposal.flag).count i.disposal
  rw [hframes'.countP_eq, hstore]
  omega

/-- A disposal that was lost never comes to the destroy routine. -/
theorem not_entered_of_lost (ho : σ.Entrusts h payload home i k n) (hkm : k < m)
    (hlost : (σ.disposalView i.disposal m).Lost) (hml : m ≤ l) (hln : l ≤ n) :
    (σ.after l).store.history.entered i.disposal = 0 := by
  have hs := ho.tends (Nat.lt_of_lt_of_le hkm hml) hln
  have hbegun : (σ.disposalView i.disposal l).begun ≤ 1 := (hs.waiting_le hs.frees.1).1
  have hstays := σ.disposalView_keeps i.disposal DisposalView.Lost (fun hstep => hstep.lost) hml hlost
  have hle : (σ.disposalView i.disposal l).waiting + (σ.disposalView i.disposal l).entered <
      (σ.disposalView i.disposal l).begun := hstays
  show (σ.disposalView i.disposal l).entered = 0
  omega

/-- A disposal that has just begun is told the count of the object. -/
theorem asks (ho : σ.Entrusts h payload home i k n) (hkm : k < m) (hmn : m < n)
    (hbefore : ¬σ.Began (i.entry home) m) (hafter : σ.Began (i.entry home) (m + 1)) :
    ∃ (j : Nat) (thread : ThreadId) (base : List Frame) (c : UInt64),
      (σ.after (m + 1)).strands[j]? =
        some ⟨.counted thread i.disposal :: base, .handing (.ok (.count (some c)))⟩ ∧
      c.toNat = 1 + σ.extra h (m + 1) i.address := by
  have hkm' := Nat.lt_succ_of_lt hkm
  have hold : i.disposal ∉ (σ.after m).store.history.begun i.disposal.flag :=
    (ho.tends hkm (Nat.le_of_lt hmn)).began_iff.not.mp hbefore
  have hnew : i.disposal ∈ (σ.after (m + 1)).store.history.begun i.disposal.flag :=
    (ho.tends hkm' hmn).began_iff.mp hafter
  obtain ⟨j, move, s, thread, -, -, hat⟩ := exists_begins hold hnew
  obtain ⟨hstack, hfocus⟩ := s.dispose_onHeap thread (d := i.disposal) ho.kind ho.routines
  have hstrand := hat.strand
  rw [hstack, hfocus, hat.store] at hstrand
  -- it waits for its count, so the object is there
  obtain ⟨others, hframes, -⟩ := Machine.frames_perm hstrand
  obtain ⟨object, hget, -, -, hcount⟩ := ho.counted hkm' hmn (ho.of_waiting hkm' hmn hframes).1
  have hasked : ((σ.after (m + 1)).store.heap h).retainCount? i.disposal.address =
      some object.retainCount := congrArg (Option.map HeapObject.retainCount) hget
  rw [hasked] at hstrand
  exact ⟨j, thread, s.stack, object.retainCount, hstrand, hcount⟩

variable {j : Nat} {thread : ThreadId} {base : List Frame} {c : UInt64}

/-- If there is no other reference, the disposal goes on to the destroy routine. -/
theorem givesUp (ho : σ.Entrusts h payload home i k n) (hkl : k < l) (hln : l < n)
    (htakes : σ.Takes j l (.counted thread i.disposal :: base) (.ok (.count (some c))))
    (hc : ¬1 < c) : σ.GivesUp h payload i n j l thread base := by
  have hkl' := Nat.lt_succ_of_lt hkl
  obtain ⟨others, hframes, -⟩ := Machine.frames_perm htakes.ended.strand
  have hbefore := ho.counted hkl (Nat.le_of_lt hln) (ho.of_waiting hkl (Nat.le_of_lt hln) hframes).1
  have hat := htakes.resumed
  simp only [System.resume, System.resumeCounted, if_neg hc] at hat
  obtain ⟨hstack, hfocus, hhistory⟩ := System.destroy_onHeap
    { store := (σ.after l).store, stack := base, focus := .handing (.ok (.count (some c))) } thread
    (d := i.disposal) ho.routines
  have hstrand := hat.strand
  rw [hstack, hfocus] at hstrand
  -- the reference of the wrapper is gone from now on
  have hown (m : Nat) (hlm : l < m) : (σ.after m).store.history.own i.disposal = 0 := by
    have hentered : 0 < (σ.after (l + 1)).store.history.entered i.disposal := by
      rw [← hat.store, hhistory, History.entered_cons]
      simp [Happening.isEntering]
    have hstays := Nat.lt_of_lt_of_le hentered (σ.entered_mono i.disposal (Nat.succ_le_of_lt hlm))
    exact Nat.sub_eq_zero_of_le hstays
  refine ⟨hbefore, hstrand, fun m hlm hmn => ?_, fun hextra => ⟨?_, fun m hlm hmn => ?_⟩⟩
  · rw [ho.account (Nat.lt_trans hkl hlm) hmn, hown m hlm, Nat.zero_add]
  · exact ho.not_freed hkl (Nat.le_of_lt hln) hbefore
  · have hzero : (σ.after (l + 1)).store.history.own i.disposal +
        σ.extra h (l + 1) i.address = 0 := by
      rw [hown (l + 1) (Nat.lt_succ_self l), extra_succ htakes.taken (fun operation heq => by cases heq),
        hextra]
    have hgone := ho.gone hkl' hzero (Nat.succ_le_of_lt hlm) hmn
    have hnone : ((σ.after m).store.heap h).get? i.address = none := by
      rw [ho.account (Nat.lt_trans hkl hlm) hmn, Account.object?_of_not_held _ _ hgone]
    exact ⟨hnone, ho.freed_once (Nat.lt_trans hkl hlm) hmn hnone⟩

/-- If there are others, it fails, and the object is never freed. -/
theorem leaks (ho : σ.Entrusts h payload home i k n) (hkl : k < l) (hln : l < n)
    (htakes : σ.Takes j l (.counted thread i.disposal :: base) (.ok (.count (some c))))
    (hc : 1 < c) : σ.Leaks h payload i n j l base c := by
  have hkl' := Nat.lt_succ_of_lt hkl
  have hat := htakes.resumed
  simp only [System.resume, System.resumeCounted, if_pos hc] at hat
  have hstore : (σ.after l).store = (σ.after (l + 1)).store := hat.store
  obtain ⟨others, hframes, hframes'⟩ := htakes.ended.frames_perm htakes.taken hat
  have hlost := ho.lost hkl (Nat.le_of_lt hln) hframes hframes' hstore.symm
  refine ⟨hat.strand, hstore.symm, fun m hlm hmn => ?_⟩
  have hkm := Nat.lt_trans hkl hlm
  have hcounted := ho.counted hkm hmn (ho.not_entered_of_lost hkl' hlost (Nat.succ_le_of_lt hlm) hmn)
  exact ⟨hcounted, ho.not_freed hkm hmn hcounted⟩

end Entrusts

/-! ### What it means -/

/-- What becomes of an object that is left to its wrapper, from moment `k` on and up to
    moment `n`. -/
structure HeldLeaked (σ : Schedule) (h : Nat) (payload : Int64) (home : ArenaRef) (i : Instance)
    (k n : Nat) : Prop where
  /-- Whether the object is there, and with how many references, is told by its disposal and by the
      extra references. -/
  account : ∀ m, k < m → m ≤ n → ((σ.after m).store.heap h).get? i.address =
    Account.object? ⟨Store.objectTypeName, payload,
      (σ.after m).store.history.own i.disposal + σ.extra h m i.address⟩
  /-- As long as the disposal has not begun, there is one reference beside the extra ones. -/
  live : ∀ m, k < m → m ≤ n → ¬σ.Began (i.entry home) m → σ.Counted h payload i.address m
  /-- Once it has begun, the instance is refused. -/
  refused : ∀ m, σ.Began (i.entry home) m → (σ.after m).store.Refused i
  /-- When it begins, it is told how many references there are.  The object stays until the strand
      goes on.  What it does then is settled by that count: without extra references it gives up
      the one of the wrapper, and with some it leaks the object. -/
  cleanup : ∀ m, k < m → m < n → ¬σ.Began (i.entry home) m → σ.Began (i.entry home) (m + 1) →
    ∃ (j : Nat) (thread : ThreadId) (base : List Frame) (c : UInt64),
      (σ.after (m + 1)).strands[j]? =
        some ⟨.counted thread i.disposal :: base, .handing (.ok (.count (some c)))⟩ ∧
      c.toNat = 1 + σ.extra h (m + 1) i.address ∧
      ∀ l, m < l → (∀ b, m < b → b < l → σ b ≠ .move j .tick) →
        (l ≤ n → σ.Counted h payload i.address l) ∧
        (l < n → σ l = .move j .tick →
          (σ.extra h (m + 1) i.address = 0 → σ.GivesUp h payload i n j l thread base) ∧
            (0 < σ.extra h (m + 1) i.address → σ.Leaks h payload i n j l base c))

/-- **What is held by others is leaked, and not freed**, whatever happens elsewhere, and in
    whatever order the strands make their steps. -/
theorem heldLeaked {home : ArenaRef} {i : Instance} (ho : σ.Entrusts h payload home i k n) :
    σ.HeldLeaked h payload home i k n where
  account _ := ho.account
  live m hkm hmn hbegan := ho.counted hkm hmn (ho.not_entered_of_not_began hkm hmn hbegan)
  refused m hbegan := by
    refine Store.refused_iff.mpr ((σ.flagView_sound i.flag m).set fun hnone => ?_)
    have hruns := (σ.flagView_sound i.flag m).begun.subset (List.mem_map_of_mem hbegan)
    rw [hnone] at hruns
    cases hruns
  cleanup m hkm hmn hbefore hafter := by
    obtain ⟨j, thread, base, c, hstrand, hc⟩ := ho.asks hkm hmn hbefore hafter
    refine ⟨j, thread, base, c, hstrand, hc, fun l hml hwaits => ?_⟩
    -- the count waits until the strand takes it
    have hat : σ.At j l ⟨(σ.after l).store, .counted thread i.disposal :: base,
        .handing (.ok (.count (some c)))⟩ := At.waits ⟨_, hstrand, rfl⟩ rfl hml hwaits
    have hkl := Nat.lt_trans hkm hml
    refine ⟨fun hln => ?_, fun hln htick => ⟨fun hextra => ?_, fun hextra => ?_⟩⟩
    · obtain ⟨others, hframes, -⟩ := Machine.frames_perm hat.strand
      exact ho.counted hkl hln (ho.of_waiting hkl hln hframes).1
    · refine ho.givesUp hkl hln ⟨hat, htick⟩ fun hlt => ?_
      have hlt : 1 < c.toNat := UInt64.lt_iff_toNat_lt.mp hlt
      omega
    · refine ho.leaks hkl hln ⟨hat, htick⟩ (UInt64.lt_iff_toNat_lt.mpr ?_)
      show 1 < c.toNat
      omega

/-- A run in which the arena is closed while somebody has an extra reference, which is given back
    afterwards. -/
def leaking : Schedule
  | 5 => .move 0 (.start (.close .main 0))
  | 6 | 7 | 8 | 9 => .move 0 .tick
  | 10 => .move 0 (.operate (.release 0 (.ofSlot 0 0)))
  | m => retaining m

theorem leaking_operations {operation : Operation}
    (hoperation : (leaking.after l).operation? (leaking l) = some operation) :
    (l, operation) ∈ [(1, .newRuntime), (2, .openArena .main {}),
      (3, .newObject .main ⟨0, 0⟩ 7 (.confined 0)), (4, .retain 0 (.ofSlot 0 0)),
      (10, .release 0 (.ofSlot 0 0))] := by
  match l with
  | 0 | 5 | 6 | 7 | 8 | 9 | l + 11 => cases hoperation
  | 1 | 2 | 3 | 4 | 10 =>
    obtain rfl := Option.some.inj hoperation
    simp

theorem leaking_starts {j : Nat} {w : Work} (hact : leaking l = .move j (.start w)) :
    w = .close .main 0 := by
  match l with
  | 0 | 1 | 2 | 3 | 4 | 6 | 7 | 8 | 9 | 10 | l + 11 => cases hact
  | 5 =>
    cases hact
    rfl

theorem leaking_entrusts : leaking.Entrusts 0 7 (.confined 0) retained.inst 3 11 where
  made := ⟨.main, ⟨0, 0⟩, rfl, rfl, List.mem_singleton.mpr rfl⟩
  kind := rfl
  routines := rfl
  undisturbed := by
    constructor
    case room =>
      intro l _ operation hoperation hallocates
      have hmem := leaking_operations hoperation
      simp only [List.mem_cons, Prod.mk.injEq, List.not_mem_nil, or_false] at hmem
      obtain ⟨rfl, rfl⟩ | ⟨rfl, rfl⟩ | ⟨rfl, rfl⟩ | ⟨rfl, rfl⟩ | ⟨rfl, rfl⟩ := hmem
      case inr.inr.inl => exact ⟨by decide, fun _ => by decide⟩
      all_goals cases hallocates
    case small =>
      have hone : ∀ l ≤ 11, leaking.extra 0 l retained.inst.address ≤ 1 := by decide
      intro l hl
      have hle := hone l hl
      omega
    case released =>
      intro l _ hoperation
      obtain ⟨rfl, -⟩ : l = 10 ∧ retained.inst.address = .ofSlot 0 0 := by
        simpa using leaking_operations hoperation
      decide
    case destroyed =>
      intro l _ hoperation
      simpa using leaking_operations hoperation
    case called =>
      intro l _ j thread type hact
      cases leaking_starts hact
    case disposed =>
      rintro l _ j move d hact - ⟨thread, rfl | rfl⟩ <;> cases leaking_starts hact
    case registered =>
      intro l _ hl e he
      cases hoperation : (leaking.after l).operation? (leaking l) with
      | none =>
        rw [Machine.registered, hoperation] at he
        cases he
      | some operation =>
        rw [Machine.registered, hoperation] at he
        have hmem := leaking_operations hoperation
        simp only [List.mem_cons, Prod.mk.injEq, List.not_mem_nil, or_false] at hmem
        obtain ⟨rfl, rfl⟩ | ⟨rfl, rfl⟩ | ⟨rfl, rfl⟩ | ⟨rfl, rfl⟩ | ⟨rfl, rfl⟩ := hmem
        case inr.inr.inl => exact absurd rfl hl
        all_goals cases he

/-- The object is leaked, and stays when the extra reference is given back. -/
theorem heldLeaked_leaking : leaking.Entrusts 0 7 (.confined 0) retained.inst 3 11 ∧
    leaking.extra 0 6 retained.inst.address = 1 ∧ leaking.extra 0 11 retained.inst.address = 0 ∧
    ∃ base, leaking.Leaks 0 7 retained.inst 11 0 6 base 2 := by
  obtain ⟨j, thread, base, c, hstrand, hc, hall⟩ := (heldLeaked leaking_entrusts).cleanup 5
    (by decide) (by decide) (fun hbegan => by cases hbegan) (List.mem_singleton.mpr rfl)
  match j with
  | 0 =>
    obtain rfl : 2 = c := by
      cases hstrand
      rfl
    obtain ⟨-, hgoes⟩ := hall 6 (by decide) fun b hb hb' => by omega
    exact ⟨leaking_entrusts, by decide, by decide, base, (hgoes (by decide) rfl).2 (by decide)⟩
  | j + 1 => cases hstrand

end Schedule

end ForeignArena
