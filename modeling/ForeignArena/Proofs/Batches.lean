import ForeignArena.Proofs.Flavours
import ForeignArena.Proofs.Refusals

namespace ForeignArena

/-!
# Objects that are taken over in bulk

A batch of objects is taken over as a whole, or none of it is.  An arena that takes the first
object in takes in all others, and one that refuses any refuses the first.

* `Store.Adds` — disposals in the care of an arena, and nothing else that is new;
* `Store.extendBatch_adds` — a batch that is taken over, object by object;
* `Store.TakesBatch`, `Store.RefusesBatch` — the two outcomes;
* `Store.takeOverMany_taken`, `Store.takeOverMany_refused_at_once` — which of them it is.
-/

/-! ### Disposals that are added to the care of an arena -/

/-- The arena with more disposals at the end of its list. -/
def Arena.acceptAll (arena : Arena) (ds : List Disposal) : Arena :=
  { arena with pending := arena.pending ++ ds.toArray }

/-- The cleaner with more disposals, each of them live under a token of its own.  The tokens are
    the next numbers. -/
def Cleaner.trackAll (c : Cleaner) (ds : List Disposal) : Cleaner :=
  { c with
    live := c.live ++ (ds.zipIdx c.nextId).map fun (d, token) => (token, .dispose d)
    tokens := c.tokens ++ List.range' c.nextId ds.length
    nextId := c.nextId + ds.length
    registered := c.registered + ds.length }

theorem Arena.acceptAll_acceptAll (arena : Arena) (ds others : List Disposal) :
    (arena.acceptAll ds).acceptAll others = arena.acceptAll (ds ++ others) := by
  simp [acceptAll]

theorem Cleaner.trackAll_trackAll (c : Cleaner) (ds others : List Disposal) :
    (c.trackAll ds).trackAll others = c.trackAll (ds ++ others) := by
  simp [trackAll, List.zipIdx_append, Nat.add_assoc]

/-- The receipt for the `j`-th of some disposals that are registered one after the other. -/
def ArenaRef.receipt (st : Store) (home : ArenaRef) (j : Nat) : Registration :=
  match home with
  | .confined _ => .plain
  | .auto c => .tracked c ((st.cleaner c).nextId + j)

namespace Store

/-- A store is another one in which an arena has some more disposals in its care, in order: a
    scoped one at the end of its list, a cleaner in its live set.  Each has a new flag, and nothing
    else has changed. -/
structure Adds (st : Store) (home : ArenaRef) (ds : List Disposal) (after : Store) : Prop where
  arena : ∀ a, after.arena a =
    if home = .confined a then (st.arena a).acceptAll ds else st.arena a
  cleaner : ∀ c, after.cleaner c =
    if home = .auto c then (st.cleaner c).trackAll ds else st.cleaner c
  flags : after.flags = st.flags ++ Array.replicate ds.length false
  tallies : after.tallies = st.tallies
  heaps : after.heaps = st.heaps
  sizes : after.arenas.size = st.arenas.size ∧ after.cleaners.size = st.cleaners.size

variable {st middle after : Store} {thread : ThreadId} {home : ArenaRef} {type : ForeignType}
  {address : Address} {e : ArenaError} {ds others : List Disposal}

theorem Adds.nil (st : Store) (home : ArenaRef) : st.Adds home [] st where
  arena a := by simp [Arena.acceptAll]
  cleaner c := by simp [Cleaner.trackAll]
  flags := by simp
  tallies := rfl
  heaps := rfl
  sizes := ⟨rfl, rfl⟩

theorem Adds.trans (h : st.Adds home ds middle) (h' : middle.Adds home others after) :
    st.Adds home (ds ++ others) after where
  arena a := by
    rw [h'.arena, h.arena]
    split
    · exact Arena.acceptAll_acceptAll _ ds others
    · rfl
  cleaner c := by
    rw [h'.cleaner, h.cleaner]
    split
    · exact Cleaner.trackAll_trackAll _ ds others
    · rfl
  flags := by
    rw [h'.flags, h.flags, Array.append_assoc, Array.replicate_append_replicate, List.length_append]
  tallies := h'.tallies.trans h.tallies
  heaps := h'.heaps.trans h.heaps
  sizes := ⟨h'.sizes.1.trans h.sizes.1, h'.sizes.2.trans h.sizes.2⟩

theorem Adds.hasHome (h : st.Adds home ds after) (hhome : st.hasHome home) : after.hasHome home := by
  cases home with
  | confined a =>
    simp only [Store.hasHome, decide_eq_true_eq] at hhome ⊢
    rw [h.sizes.1]
    exact hhome
  | auto c =>
    simp only [Store.hasHome, Bool.and_eq_true, decide_eq_true_eq] at hhome ⊢
    rw [h.sizes.2, h.cleaner, if_pos rfl]
    exact hhome

/-- **What an arena says to an object depends on nothing that objects change**: if it declines now
    it has declined before the others came. -/
theorem Adds.declines (h : st.Adds home ds after) (hdeclines : after.Declines thread home e) :
    st.Declines thread home e := by
  cases hdeclines with
  | @foreign a owner howner hne =>
    rw [h.arena, if_pos rfl] at howner
    exact .foreign howner hne
  | @closed a hadmits hactive =>
    rw [h.arena, if_pos rfl] at hadmits hactive
    exact .closed hadmits hactive

theorem Adds.receipt (h : st.Adds home ds after) (j : Nat) :
    home.receipt after j = home.receipt st (ds.length + j) := by
  cases home with
  | confined a => rfl
  | auto c =>
    simp only [ArenaRef.receipt, h.cleaner, if_true, Cleaner.trackAll, Nat.add_assoc]

/-! ### One object -/

/-- An arena that declines refuses every disposal. -/
theorem register_of_declines (h : st.Declines thread home e) (d : Disposal) :
    st.register thread home d = (st, .error e) := by
  cases h with
  | @foreign a owner howner hne =>
    have hcheck : (st.arena a).confinement.check thread = .error (.wrongThread owner thread) := by
      rw [Confinement.check, howner]
      exact if_neg hne
    simp [register, registerConfined, hcheck]
  | @closed a hadmits hactive =>
    simp [register, registerConfined, Confinement.check_eq_ok.mpr hadmits, hactive]

/-- One that does not decline takes it in, for the next receipt. -/
theorem register_of_open (hopen : ∀ e, ¬st.Declines thread home e) (d : Disposal) :
    st.register thread home d = (match home with
      | .confined a => (st.modifyArena a (·.accept d)).note (.accepted a d)
      | .auto c => (st.track c (.dispose d)).1, .ok (home.receipt st 0)) := by
  cases home with
  | confined a =>
    have hcheck : (st.arena a).confinement.check thread = .ok () := by
      cases hcheck : (st.arena a).confinement.check thread with
      | ok _ => rfl
      | error e =>
        obtain ⟨owner, howner, hne, -⟩ := Confinement.check_eq_error hcheck
        exact absurd (.foreign howner hne) (hopen (.wrongThread owner thread))
    have hactive : (st.arena a).isActive = true := by
      refine Bool.eq_true_of_not_eq_false fun hclosed => ?_
      exact hopen .closed (.closed (Confinement.check_eq_ok.mp hcheck) hclosed)
    simp [register, registerConfined, hcheck, hactive, ArenaRef.receipt]
  | auto c => rfl

/-- A new flag does not matter to an arena. -/
theorem declines_newFlag : st.newFlag.1.Declines thread home e ↔ st.Declines thread home e := by
  constructor
  · rintro (⟨howner, hne⟩ | ⟨hadmits, hactive⟩)
    · exact .foreign howner hne
    · exact .closed hadmits hactive
  · rintro (⟨howner, hne⟩ | ⟨hadmits, hactive⟩)
    · exact .foreign howner hne
    · exact .closed hadmits hactive

/-- An arena that declines refuses every object that has an address. -/
theorem takeOver_of_declines (h : st.Declines thread home e)
    (haddress : address.isNull = true → type.permitsNull = true) :
    st.takeOver thread address type home = (st.newFlag.1, .error e) := by
  rw [takeOver_accepted (o := (address, type)) haddress,
    register_of_declines (declines_newFlag.mpr h)]
  rfl

/-- So one that has taken an object over does not decline. -/
theorem not_declines_of_takeOver {inst : Instance}
    (h : (st.takeOver thread address type home).2 = .ok inst) (e : ArenaError) :
    ¬st.Declines thread home e := by
  intro hdeclines
  by_cases hnull : address.isNull = true → type.permitsNull = true
  · rw [takeOver_of_declines hdeclines hnull] at h
    cases h
  · have hnull : (address.isNull && !type.permitsNull) = true := by simpa using hnull
    rw [takeOver, hnull] at h
    cases h

/-- An arena that does not decline takes every object in that has an address. -/
theorem takeOver_adds (address : Address) (type : ForeignType) (hhome : st.hasHome home)
    (hopen : ∀ e, ¬st.Declines thread home e)
    (haddress : address.isNull = true → type.permitsNull = true) :
    let inst : Instance := ⟨address, type, st.flags.size, home.receipt st 0⟩
    (st.takeOver thread address type home).2 = .ok inst ∧
      st.Adds home [inst.disposal] (st.takeOver thread address type home).1 := by
  rw [takeOver_accepted (o := (address, type)) haddress,
    register_of_open fun e h => hopen e (declines_newFlag.mp h)]
  cases home with
  | confined a =>
    have hknown : a < st.newFlag.1.arenas.size := of_decide_eq_true hhome
    refine ⟨rfl, fun b => ?_, fun c => rfl, rfl, rfl, rfl, size_arenas_modifyArena .., rfl⟩
    dsimp only
    rw [arena_note, arena_modifyArena _ _ _ _ hknown]
    by_cases hab : a = b
    · subst hab
      simp [Arena.accept, Arena.acceptAll, Instance.disposal, newFlag, arena]
    · simp [hab, newFlag, arena]
  | auto c =>
    have hknown : c < st.newFlag.1.cleaners.size := by
      simp only [hasHome, Bool.and_eq_true, decide_eq_true_eq] at hhome
      exact hhome.1
    refine ⟨rfl, fun b => rfl, fun b => ?_, rfl, rfl, rfl, rfl, size_cleaners_modifyCleaner ..⟩
    dsimp only
    rw [track, cleaner_note, cleaner_modifyCleaner _ _ _ _ hknown]
    by_cases hcb : c = b
    · subst hcb
      simp [Cleaner.track_eq, Cleaner.trackAll, Instance.disposal, newFlag, cleaner]
    · simp [hcb, newFlag, cleaner]

/-! ### A batch -/

/-- The `j`-th instance of a batch. -/
def batchInstance (st : Store) (type : ForeignType) (home : ArenaRef) (j : Nat) : Instance :=
  ⟨⟨UInt64.ofNat (j + 1)⟩, type, st.flags.size + j, home.receipt st j⟩

/-- The instances of a batch, in order. -/
def batch (st : Store) (type : ForeignType) (home : ArenaRef) (n : Nat) : List Instance :=
  (List.range n).map (st.batchInstance type home)

theorem batch_succ (st : Store) (type : ForeignType) (home : ArenaRef) (n : Nat) :
    st.batch type home (n + 1) = st.batch type home n ++ [st.batchInstance type home n] := by
  rw [batch, List.range_succ, List.map_append]
  rfl

@[simp] theorem length_batch (st : Store) (type : ForeignType) (home : ArenaRef) (n : Nat) :
    (st.batch type home n).length = n := by
  simp [batch]

/-- As far as words can number objects, the addresses of a batch are the numbers from one on. -/
theorem addresses_batch (st : Store) (type : ForeignType) (home : ArenaRef) {n : Nat}
    (hn : n < 2 ^ 64) :
    (st.batch type home n).map (·.address.word.toNat) = List.range' 1 n := by
  have hword (j : Nat) (hj : j ∈ List.range n) : (UInt64.ofNat (j + 1)).toNat = 1 + j := by
    have hlt := List.mem_range.mp hj
    rw [UInt64.toNat_ofNat', Nat.mod_eq_of_lt (by omega), Nat.add_comm]
  rw [batch, List.map_map, List.range'_eq_map_range]
  exact List.map_congr_left hword

/-- The address of an object of a batch is not null. -/
theorem address_ne_null {j : Nat} (hj : j + 1 < 2 ^ 64) :
    (⟨UInt64.ofNat (j + 1)⟩ : Address).isNull = false := by
  have hne : UInt64.ofNat (j + 1) ≠ 0 := by
    intro hzero
    have htoNat : (UInt64.ofNat (j + 1)).toNat = j + 1 := by
      rw [UInt64.toNat_ofNat', Nat.mod_eq_of_lt hj]
    rw [hzero] at htoNat
    exact absurd htoNat (by simp)
  simpa [Address.isNull] using hne

/-- **A batch is taken over object by object.**  As none of them changes what the arena says to
    the next, all that are left are taken over too. -/
theorem extendBatch_adds (type : ForeignType) (hhome : st.hasHome home)
    (hopen : ∀ e, ¬st.Declines thread home e) {k n : Nat} (hn : k + n < 2 ^ 64)
    {instances : Array Instance}
    (hinstances : instances.toList = st.batch type home k)
    (hadds : st.Adds home ((st.batch type home k).map (·.disposal)) middle) :
    ∃ after, extendBatch thread type home n middle instances =
        (after, { instances := (st.batch type home (k + n)).toArray }) ∧
      st.Adds home ((st.batch type home (k + n)).map (·.disposal)) after := by
  induction n generalizing k middle instances with
  | zero =>
    refine ⟨middle, ?_, hadds⟩
    rw [extendBatch, Nat.add_zero, ← hinstances]
  | succ n ih =>
    have hsize : instances.size = k := by
      rw [← Array.length_toList, hinstances, length_batch]
    have hnull := address_ne_null (j := k) (by omega)
    obtain ⟨hresult, hnext⟩ := takeOver_adds ⟨UInt64.ofNat (k + 1)⟩ type
      (hadds.hasHome hhome) (fun e hdeclines => hopen e (hadds.declines hdeclines))
      (fun hisNull => absurd hisNull (by rw [hnull]; decide))
    -- what the store has before is as much as `k` objects have added
    have hflags : middle.flags.size = st.flags.size + k := by
      rw [hadds.flags, Array.size_append, Array.size_replicate, List.length_map, length_batch]
    have hreceipt : home.receipt middle 0 = home.receipt st k := by
      rw [hadds.receipt, List.length_map, length_batch, Nat.add_zero]
    have hinst : (⟨⟨UInt64.ofNat (k + 1)⟩, type, middle.flags.size, home.receipt middle 0⟩ :
        Instance) = st.batchInstance type home k := by
      rw [batchInstance, hflags, hreceipt]
    rw [hinst] at hresult hnext
    rw [extendBatch, hsize]
    generalize middle.takeOver thread ⟨UInt64.ofNat (k + 1)⟩ type home = taken at hresult hnext ⊢
    obtain ⟨store, result⟩ := taken
    dsimp only at hresult hnext
    subst hresult
    have hall := ih (k := k + 1) (by omega)
      (show (instances.push (st.batchInstance type home k)).toList = _ by
        rw [Array.toList_push, hinstances, batch_succ])
      (show st.Adds home _ store by
        rw [batch_succ, List.map_append]
        exact hadds.trans hnext)
    rw [Nat.add_assoc, Nat.add_comm 1 n] at hall
    exact hall

/-! ### The two outcomes -/

/-- A batch of `n` objects was taken over by an arena: their instances are those at the addresses
    one to `n`, in order, and their disposals are in the care of the arena, in the same order. -/
structure TakesBatch (st : Store) (type : ForeignType) (home : ArenaRef) (n : Nat) (after : Store)
    (batch : Batch) : Prop where
  error : batch.error = none
  length : batch.instances.size = n
  addresses : batch.instances.toList.map (·.address.word.toNat) = List.range' 1 n
  types : ∀ i ∈ batch.instances, i.type = type
  /-- Each has a new flag of its own, which is not set. -/
  flags : batch.instances.toList.map (·.flag) = List.range' st.flags.size n
  usable : ∀ i ∈ batch.instances, after.Usable i
  receipts : batch.instances.toList.map (·.registration) = (List.range n).map (home.receipt st)
  adds : st.Adds home (batch.instances.toList.map (·.disposal)) after

/-- A batch was refused: there is no instance, and nothing is in the care of any arena or cleaner
    that was not there before. -/
structure RefusesBatch (st : Store) (thread : ThreadId) (home : ArenaRef) (after : Store)
    (batch : Batch) (e : ArenaError) : Prop extends st.Traceless after where
  declines : st.Declines thread home e
  error : batch = { error := some e }
  history : after.history = st.history
  heaps : after.heaps = st.heaps

theorem not_isDestroyed_of_replicate {n flag : Nat}
    (hflags : after.flags = st.flags ++ Array.replicate n false) (hflag : st.flags.size ≤ flag) :
    after.isDestroyed flag = false := by
  rw [isDestroyed, hflags, Array.getElem?_append_right hflag, Array.getElem?_replicate]
  split <;> rfl

/-- **An arena that does not decline takes a batch over**, to its last object. -/
theorem takeOverMany_taken (type : ForeignType) (hhome : st.hasHome home) {n : Nat}
    (hn : n < 2 ^ 64) (hopen : ∀ e, ¬st.Declines thread home e) :
    st.TakesBatch type home n (st.takeOverMany thread type home n).1
      (st.takeOverMany thread type home n).2 := by
  have hempty : (#[] : Array Instance).toList = st.batch type home 0 := rfl
  obtain ⟨after, hbatch, hadds⟩ := extendBatch_adds type hhome hopen (k := 0) (n := n) (by omega)
    hempty (.nil st home)
  rw [takeOverMany, hbatch, Nat.zero_add]
  rw [Nat.zero_add] at hadds
  constructor
  case error => rfl
  case length => simp
  case addresses => exact addresses_batch st type home hn
  case types =>
    intro i hi
    obtain ⟨j, -, rfl⟩ := List.mem_map.mp (List.mem_toArray.mp hi)
    rfl
  case flags =>
    rw [batch, List.map_map, List.range'_eq_map_range]
    rfl
  case usable =>
    intro i hi
    obtain ⟨j, -, rfl⟩ := List.mem_map.mp (List.mem_toArray.mp hi)
    exact usable_iff.mpr
      (not_isDestroyed_of_replicate hadds.flags (Nat.le_add_right st.flags.size j))
  case receipts =>
    rw [batch, List.map_map]
    rfl
  case adds => exact hadds

/-- A batch without objects is always taken over. -/
theorem takesBatch_zero (st : Store) (type : ForeignType) (home : ArenaRef) :
    st.TakesBatch type home 0 st {} where
  error := rfl
  length := rfl
  addresses := rfl
  types i hi := by simp at hi
  flags := rfl
  usable i hi := by simp at hi
  receipts := rfl
  adds := .nil st home

/-- **An arena that declines refuses a batch at its first object.** -/
theorem takeOverMany_refused_at_once (type : ForeignType) (h : st.Declines thread home e)
    (n : Nat) :
    st.RefusesBatch thread home (st.takeOverMany thread type home (n + 1)).1
      (st.takeOverMany thread type home (n + 1)).2 e := by
  have htake : st.takeOver thread ⟨1⟩ type home = (st.newFlag.1, .error e) :=
    takeOver_of_declines h fun hnull => absurd hnull (by decide)
  have hbatch : st.takeOverMany thread type home (n + 1) = (st.newFlag.1, { error := some e }) := by
    simp [takeOverMany, extendBatch, htake]
  rw [hbatch]
  exact ⟨⟨.newFlag st, rfl, rfl⟩, h, rfl, rfl, rfl⟩

end Store

end ForeignArena
