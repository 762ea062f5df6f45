import ForeignArena.Proofs.Liveness
import ForeignArena.Proofs.Runtimes.Life

namespace ForeignArena

/-!
# Nothing is used or freed after it was freed

In every run in which a runtime is in proper use, its heap is safe: an instance that can be
used stands for an object that is there, and nothing is freed twice.

A wrapper checks its instance first and looks at the heap afterwards, with nothing locked in
between.  So a use can be overtaken: the check is passed, then the disposal of the instance
frees the object, and then the object is looked for in vain.

* `Store.readObject_of_usable`, `Store.retainObject_of_usable` — uses that have passed the check;
* `Schedule.kept` — a runtime in proper use is kept in order;
* `Schedule.began_of_entered`, `Schedule.freed_between` — what comes in between if one is overtaken;
* `Schedule.HeapKept`, `Schedule.heapKept` — what this means for its heap.
-/

/-! ### Uses that have passed the check -/

namespace Store

variable {st : Store} {i : Instance}

theorem readObject_of_usable (h : st.Usable i) (later : Store) (heap : Nat) (what : String) :
    st.readObject later i heap what = .ok (later.objectAt heap what i.address) :=
  h.call _

/-- A reference is taken as by somebody who has nothing to check. -/
theorem retainObject_of_usable (h : st.Usable i) (later : Store) (heap : Nat) :
    st.retainObject later i heap = (later.apply (.retain heap i.address),
      .ok ((later.objectAt heap "object" i.address).map (·.retainCount + 1))) := by
  unfold retainObject
  rw [h.call]
  unfold retainAt objectAt apply
  cases hget : (later.heap heap).get? i.address with
  | none =>
    dsimp only
    rw [Heap.retain, hget, setHeap_self]
    rfl
  | some object => rfl

/-- What is not on the heap is not found. -/
theorem objectAt_of_none {heap : Nat} {a : Address} (h : (st.heap heap).get? a = none)
    (what : String) :
    st.objectAt heap what a = .error (.literal ("live wrapper points at a freed " ++ what)) := by
  rw [objectAt, h]

theorem objectAt_of_some {heap : Nat} {a : Address} {object : HeapObject}
    (h : (st.heap heap).get? a = some object) (what : String) :
    st.objectAt heap what a = .ok object := by
  rw [objectAt, h]

end Store

/-! ### Runs -/

namespace Schedule

variable (σ : Schedule) (ρ : ForeignRuntime)

/-- **A runtime in proper use is kept in order**, at every moment. -/
theorem kept (n : Nat) (habides : σ.Abides ρ n) :
    Site.Kept ((σ.after n).store, (σ.after n).frames) ρ (σ.wrapped ρ n) (σ.extra ρ.heap n) := by
  induction n with
  | zero =>
    refine ⟨fun d _ => ⟨σ.sound 0, Nat.le_refl 0, rfl⟩, rfl, by simp [wrapped], ?_, _, .empty _⟩
    intro kind type hfind
    cases hfind
  | succ n ih =>
    have hs := ih (habides.mono (Nat.le_succ n))
    cases hoperation : (σ.after n).operation? (σ n) with
    | some operation =>
      -- an operation is done: the ledger may grow, and the strands stay as they are
      obtain ⟨hstore, hadmits, -⟩ := Machine.store_of_operation hoperation
      rw [wrapped, extra, hoperation, after, hstore, Machine.frames_of_operation hoperation]
      exact Store.apply_kept hs hadmits
        (habides.operations n (Nat.lt_succ_self n) operation hoperation)
    | none =>
      rw [wrapped, extra, hoperation]
      exact @Machine.keeps_of_no_operation (σ.after n) (σ n)
        (fun st k => Site.Kept (st, k) ρ (σ.wrapped ρ n) (σ.extra ρ.heap n)) hoperation
        (fun hperm h => h.perm hperm) (fun {i move _ _} hact hmove hchange h =>
          hchange.kept hmove (habides.moves n (Nat.lt_succ_self n) i move hact) h) hs

/-- A wrapper that was made stays made. -/
theorem mem_wrapped_mono {k n : Nat} (hkn : k ≤ n) {w : Wrapped} (hw : w ∈ σ.wrapped ρ k) :
    w ∈ σ.wrapped ρ n := by
  induction hkn with
  | refl => exact hw
  | step _ ih =>
    rw [wrapped]
    split
    · exact List.mem_append_left _ ih
    · exact ih

variable {σ ρ} {n : Nat} {w : Wrapped}

/-- No disposal has begun with the flag of an instance that can be used. -/
theorem begun_of_usable {i : Instance} (husable : (σ.after n).store.Usable i) :
    (σ.after n).store.history.begun i.flag = [] := by
  refine Decidable.by_contra fun hbegun => ?_
  have hset := (σ.flagView_sound i.flag n).set hbegun
  have hunset : (σ.flagView i.flag n).set = false := Store.usable_iff.mp husable
  rw [hunset] at hset
  cases hset

theorem not_began_of_usable {i : Instance} {home : ArenaRef}
    (husable : (σ.after n).store.Usable i) : ¬σ.Began (i.entry home) n := by
  intro hbegan
  have hbegun := (σ.flagView_sound i.flag n).begun.subset (List.mem_map_of_mem hbegan)
  rw [show (σ.flagView i.flag n).begun = [] from begun_of_usable husable] at hbegun
  cases hbegun

/-- The disposal of an instance that can be used has not come to the destroy routine. -/
theorem entered_of_usable (habides : σ.Abides ρ n) (hw : w ∈ σ.wrapped ρ n)
    (husable : (σ.after n).store.Usable w.inst) :
    (σ.after n).store.history.entered w.inst.disposal = 0 := by
  have hkept := σ.kept ρ n habides
  exact (hkept.orderly _ (hkept.typed w hw).isOnHeap).entered_of_not_begun (begun_of_usable husable)

/-- What comes to the destroy routine has begun as it was registered. -/
theorem began_of_entered (habides : σ.Abides ρ n) (hw : w ∈ σ.wrapped ρ n)
    (hentered : 0 < (σ.after n).store.history.entered w.inst.disposal) : σ.Began w.entry n := by
  have hkept := σ.kept ρ n habides
  have honHeap := (hkept.typed w hw).isOnHeap
  obtain ⟨-, hway, hrunOnly⟩ := hkept.orderly w.inst.disposal honHeap
  have hruns : 0 < ((σ.after n).store.history.runs w.inst.flag).countP
      (·.disposal = w.inst.disposal) := by
    refine Nat.lt_of_lt_of_le hentered ?_
    exact Nat.le_trans (Nat.le_add_left _ _) (Nat.le_trans hway (Nat.le_of_eq hrunOnly))
  obtain ⟨e, he, heq⟩ := List.countP_pos_iff.mp hruns
  have heq : e.disposal = w.inst.disposal := of_decide_eq_true heq
  -- no other wrapper has its disposal
  have hmem : e ∈ (σ.after n).store.history.entries.filter
      (·.disposal.type.isOnHeap ρ.heap) :=
    List.mem_filter.mpr ⟨(σ.sound n).mem_of_runs he, by rw [heq]; exact honHeap⟩
  rw [hkept.entries] at hmem
  obtain ⟨v, hv, rfl⟩ := List.mem_map.mp hmem
  obtain ⟨books, hserves⟩ := hkept.served
  obtain rfl : v = w := hserves.eq_of_address hw hv (congrArg Disposal.address heq)
  exact he

/-- The moment at which a disposal begins. -/
theorem Began.at_last {e : Entry} {k : Nat} (hkn : k ≤ n) (hbefore : ¬σ.Began e k)
    (hafter : σ.Began e n) : ∃ l, k ≤ l ∧ l < n ∧ ¬σ.Began e l ∧ σ.Began e (l + 1) := by
  induction hkn with
  | refl => exact absurd hafter hbefore
  | @step m hkm ih =>
    by_cases hm : σ.Began e m
    · obtain ⟨l, hkl, hlm, hl⟩ := ih hm
      exact ⟨l, hkl, Nat.lt_succ_of_lt hlm, hl⟩
    · exact ⟨m, hkm, Nat.lt_succ_self m, hm, hafter⟩

/-- What is at the address of a wrapper is told by its disposal and by the extra references. -/
theorem get?_of_wrapped (habides : σ.Abides ρ n) (hw : w ∈ σ.wrapped ρ n) :
    ((σ.after n).store.heap ρ.heap).get? w.inst.address =
      Account.object? ⟨w.kind.typeName, w.payload,
        (σ.after n).store.history.own w.inst.disposal + σ.extra ρ.heap n w.inst.address⟩ := by
  obtain ⟨books, hserves⟩ := (σ.kept ρ n habides).served
  rw [hserves.agrees.object, hserves.account w hw]

/-- An object is freed once its disposal has come to the destroy routine and nobody has an extra
    reference to it. -/
theorem mem_freed_iff (habides : σ.Abides ρ n) (hw : w ∈ σ.wrapped ρ n) :
    w.inst.address ∈ ((σ.after n).store.heap ρ.heap).freed ↔
      0 < (σ.after n).store.history.entered w.inst.disposal ∧
        σ.extra ρ.heap n w.inst.address = 0 := by
  obtain ⟨books, hserves⟩ := (σ.kept ρ n habides).served
  -- what was handed out and is not held was freed
  rw [hserves.agrees.freed, hserves.account w hw, and_iff_right (hserves.issued w hw), History.own]
  dsimp only
  omega

/-- Whoever comes to the destroy routine finds the flag set. -/
theorem refused_of_entered (habides : σ.Abides ρ n) (hw : w ∈ σ.wrapped ρ n)
    (hentered : 0 < (σ.after n).store.history.entered w.inst.disposal) :
    (σ.after n).store.Refused w.inst := by
  refine Store.refused_iff.mpr (Bool.not_eq_false _ ▸ fun hunset => ?_)
  have hzero := entered_of_usable habides hw (Store.usable_iff.mpr hunset)
  omega

/-- **What frees an object after a check that was passed**: a closing of the arena that has the
    object in its care, or that its token was dropped or cleaned. -/
theorem freed_between {k : Nat} (hkn : k ≤ n) (habides : σ.Abides ρ n) (hw : w ∈ σ.wrapped ρ n)
    (husable : (σ.after k).store.Usable w.inst)
    (hfreed : w.inst.address ∈ ((σ.after n).store.heap ρ.heap).freed) :
    (∃ a l m j base move, w.home = .confined a ∧ k ≤ l ∧ l < n ∧ σ.Closes a m j base ∧ m ≤ l ∧
      σ l = .move j move ∧ ∀ l', m < l' → l' ≤ l → σ.Within j l' base) ∨
    ∃ c token, w.home = .auto c ∧ w.inst.registration = .tracked c token ∧
      token ∉ ((σ.after n).store.cleaner c).tokens := by
  have hbegan := began_of_entered habides hw ((mem_freed_iff habides hw).mp hfreed).1
  obtain ⟨-, ⟨a, heq, -⟩ | ⟨c, token, heq, -⟩⟩ := History.mem_runs.mp hbegan
  · have hhome : w.home = .confined a := congrArg Entry.home heq
    have hnot : ¬σ.Began w.entry k := not_began_of_usable husable
    obtain ⟨l, hkl, hln, hbefore, hafter⟩ := Began.at_last hkn hnot hbegan
    rw [heq] at hbefore hafter
    obtain ⟨m, j, base, move, hcloses, hml, hact, hwithin⟩ := began_within hbefore hafter
    exact .inl ⟨a, l, m, j, base, move, hhome, hkl, hln, hcloses, hml, hact, hwithin⟩
  · have hhome : w.home = .auto c := congrArg Entry.home heq
    have hreceipt : w.inst.registration = .tracked c token := congrArg Entry.receipt heq
    refine .inr ⟨c, token, hhome, hreceipt, fun htoken => ?_⟩
    rw [heq] at hbegan
    exact not_began_of_token htoken hbegan

/-! ### What it means -/

/-- What it means that the heap of a runtime is safe in a run.  Each wrapper is one that was made
    before moment `n`, up to which the runtime is in proper use. -/
structure HeapKept (σ : Schedule) (ρ : ForeignRuntime) : Prop where
  /-- The object of an instance that can be used is there, with its own type and payload, and with
      one reference beside the extra ones; and reading it at once never panics. -/
  usable : ∀ n, σ.Abides ρ n → ∀ w ∈ σ.wrapped ρ n, (σ.after n).store.Usable w.inst →
    ∃ object, ((σ.after n).store.heap ρ.heap).get? w.inst.address = some object ∧
      object.typeName = w.kind.typeName ∧ object.payload = w.payload ∧
      object.retainCount.toNat = 1 + σ.extra ρ.heap n w.inst.address ∧
      ∀ what, (σ.after n).store.readObject (σ.after n).store w.inst ρ.heap what = .ok (.ok object)
  /-- Others may come in after the check, which is passed at moment `k`, and before the heap is
      looked at, at moment `n`.  Unless the object was freed by then it is found, with its own type
      and payload, -/
  found : ∀ k n, k ≤ n → σ.Abides ρ n → ∀ w ∈ σ.wrapped ρ k, (σ.after k).store.Usable w.inst →
    w.inst.address ∉ ((σ.after n).store.heap ρ.heap).freed →
    ∃ object, ((σ.after n).store.heap ρ.heap).get? w.inst.address = some object ∧
      object.typeName = w.kind.typeName ∧ object.payload = w.payload ∧
      (∀ what, (σ.after k).store.readObject (σ.after n).store w.inst ρ.heap what =
        .ok (.ok object)) ∧
      (σ.after k).store.retainObject (σ.after n).store w.inst ρ.heap =
        ((σ.after n).store.apply (.retain ρ.heap w.inst.address), .ok (.ok (object.retainCount + 1)))
  /-- and if it was freed the use panics, and does nothing to the heap.  Then its own disposal has
      overtaken it: this came to the destroy routine after the check, and set the flag before, so
      that whoever checks now is refused. -/
  overtaken : ∀ k n, k ≤ n → σ.Abides ρ n → ∀ w ∈ σ.wrapped ρ k, (σ.after k).store.Usable w.inst →
    w.inst.address ∈ ((σ.after n).store.heap ρ.heap).freed →
    (σ.after k).store.history.entered w.inst.disposal = 0 ∧
      0 < (σ.after n).store.history.entered w.inst.disposal ∧ (σ.after n).store.Refused w.inst ∧
      (∀ what, (σ.after k).store.readObject (σ.after n).store w.inst ρ.heap what =
        .ok (.error (.literal ("live wrapper points at a freed " ++ what)))) ∧
      (σ.after k).store.retainObject (σ.after n).store w.inst ρ.heap =
        ((σ.after n).store, .ok (.error (.literal "live wrapper points at a freed object")))
  /-- Its arena was closing in between, or its token was dropped or cleaned. -/
  between : ∀ k n, k ≤ n → σ.Abides ρ n → ∀ w ∈ σ.wrapped ρ k, (σ.after k).store.Usable w.inst →
    w.inst.address ∈ ((σ.after n).store.heap ρ.heap).freed →
    (∃ a l m j base move, w.home = .confined a ∧ k ≤ l ∧ l < n ∧ σ.Closes a m j base ∧ m ≤ l ∧
      σ l = .move j move ∧ ∀ l', m < l' → l' ≤ l → σ.Within j l' base) ∨
    ∃ c token, w.home = .auto c ∧ w.inst.registration = .tracked c token ∧
      token ∉ ((σ.after n).store.cleaner c).tokens
  /-- Whether an object is there, and with how many references, is told by its disposal and by the
      extra references. -/
  counted : ∀ n, σ.Abides ρ n → ∀ w ∈ σ.wrapped ρ n,
    ((σ.after n).store.heap ρ.heap).get? w.inst.address =
      Account.object? ⟨w.kind.typeName, w.payload,
        (σ.after n).store.history.own w.inst.disposal + σ.extra ρ.heap n w.inst.address⟩
  /-- What somebody has an extra reference to is there. -/
  extra : ∀ n, σ.Abides ρ n → ∀ a, 0 < σ.extra ρ.heap n a →
    ∃ object, ((σ.after n).store.heap ρ.heap).get? a = some object ∧
      σ.extra ρ.heap n a ≤ object.retainCount.toNat
  /-- No address is handed out twice. -/
  distinct : ∀ n, σ.Abides ρ n → ((σ.wrapped ρ n).map (·.inst.address)).Nodup
  /-- No object is freed twice. -/
  once : ∀ n, σ.Abides ρ n → ((σ.after n).store.heap ρ.heap).freed.toList.Nodup
  /-- An object is freed once its disposal has come to the destroy routine and all extra references
      to it are given back. -/
  freed : ∀ n, σ.Abides ρ n → ∀ w ∈ σ.wrapped ρ n,
    (w.inst.address ∈ ((σ.after n).store.heap ρ.heap).freed ↔
      0 < (σ.after n).store.history.entered w.inst.disposal ∧ σ.extra ρ.heap n w.inst.address = 0)
  /-- Nobody frees what is not there. -/
  valid : ∀ n, σ.Abides ρ n → ((σ.after n).store.heap ρ.heap).invalidFrees = 0

/-- **Nothing is used after it was freed, and nothing is freed twice**, as long as the runtime is
    in proper use, and whatever happens elsewhere.  What is looked for after it was freed is not
    found. -/
theorem heapKept (σ : Schedule) (ρ : ForeignRuntime) : σ.HeapKept ρ where
  usable n habides w hw husable := by
    obtain ⟨books, hserves⟩ := (σ.kept ρ n habides).served
    have hheld : (books w.inst.address).held = 1 + σ.extra ρ.heap n w.inst.address := by
      rw [hserves.account w hw, History.own, entered_of_usable habides hw husable]
    have hget := hserves.agrees.of_held (a := w.inst.address) (by omega)
    refine ⟨_, hget, ?_, ?_, ?_, fun what => ?_⟩
    · rw [hserves.account w hw]
    · rw [hserves.account w hw]
    · rw [hserves.agrees.retainCount hget, hheld]
    · rw [Store.readObject_of_usable husable, Store.objectAt_of_some hget]
  found k n hkn habides w hw husable hfreed := by
    have hw' := σ.mem_wrapped_mono ρ hkn hw
    have hheld : (σ.after n).store.history.own w.inst.disposal +
        σ.extra ρ.heap n w.inst.address ≠ 0 := by
      rw [mem_freed_iff habides hw'] at hfreed
      rw [History.own]
      omega
    have hget := get?_of_wrapped habides hw'
    rw [Account.object?_of_held _ _ hheld] at hget
    refine ⟨_, hget, rfl, rfl, fun what => ?_, ?_⟩
    · rw [Store.readObject_of_usable husable, Store.objectAt_of_some hget]
    · rw [Store.retainObject_of_usable husable, Store.objectAt_of_some hget]
      rfl
  overtaken k n hkn habides w hw husable hfreed := by
    have hw' := σ.mem_wrapped_mono ρ hkn hw
    obtain ⟨hentered, hextra⟩ := (mem_freed_iff habides hw').mp hfreed
    have hget := get?_of_wrapped habides hw'
    rw [Account.object?_of_not_held _ _ (by rw [History.own]; omega)] at hget
    refine ⟨entered_of_usable (habides.mono hkn) hw husable, hentered,
      refused_of_entered habides hw' hentered, fun what => ?_, ?_⟩
    · rw [Store.readObject_of_usable husable, Store.objectAt_of_none hget]
    · rw [Store.retainObject_of_usable husable, Store.objectAt_of_none hget, Store.apply,
        Heap.retain, hget, Store.setHeap_self]
      rfl
  between k n hkn habides w hw :=
    freed_between hkn habides (σ.mem_wrapped_mono ρ hkn hw)
  counted n habides w hw := get?_of_wrapped habides hw
  extra n habides a hpos := by
    obtain ⟨books, hserves⟩ := (σ.kept ρ n habides).served
    have hle := hserves.extra_le a
    have hget := hserves.agrees.of_held (a := a) (by omega)
    refine ⟨_, hget, ?_⟩
    rw [hserves.agrees.retainCount hget]
    exact hle
  distinct n habides := by
    obtain ⟨books, hserves⟩ := (σ.kept ρ n habides).served
    exact hserves.distinct
  once n habides := by
    obtain ⟨books, hserves⟩ := (σ.kept ρ n habides).served
    exact hserves.agrees.once
  freed n habides w hw := mem_freed_iff habides hw
  valid n habides := by
    obtain ⟨books, hserves⟩ := (σ.kept ρ n habides).served
    exact hserves.agrees.valid

/-- A run in which a wrapper is built, and an extra reference to its object is taken. -/
def retaining : Schedule
  | 0 => .spawn
  | 1 => .move 0 (.operate .newRuntime)
  | 2 => .move 0 (.operate (.openArena .main {}))
  | 3 => .move 0 (.operate (.newObject .main ⟨0, 0⟩ 7 (.confined 0)))
  | 4 => .move 0 (.operate (.retain 0 (.ofSlot 0 0)))
  | _ => .spawn

/-- The wrapper that is built. -/
def retained : Wrapped where
  home := .confined 0
  inst :=
    { address := .ofSlot 0 0
      type := { id := 0, name := "MySwiftClass", kind := .reference, routines := .heapObject 0 }
      flag := 0
      registration := .plain }
  kind := .reference
  payload := 7

/-- A run in which another wrapper is built after that, and then the arena is closed. -/
def overtaking : Schedule
  | 5 => .move 0 (.operate (.newObject .main ⟨0, 0⟩ 8 (.confined 0)))
  | 6 => .move 0 (.start (.close .main 0))
  | _ + 7 => .move 0 .tick
  | l => retaining l

/-- The other wrapper. -/
def unretained : Wrapped :=
  { retained with
    inst := { retained.inst with address := .ofSlot 1 0, flag := 1 }
    payload := 8 }

theorem overtaking_abides (n : Nat) : overtaking.Abides ⟨0, 0⟩ n where
  operations l _ operation hoperation := by
    match l with
    | 0 | 6 | l + 7 => cases hoperation
    | 1 =>
      obtain rfl : Operation.newRuntime = operation := Option.some.inj hoperation
      exact ⟨fun h => (by cases h), fun _ => rfl, fun _ e he => by cases he⟩
    | 2 =>
      obtain rfl : Operation.openArena .main {} = operation := Option.some.inj hoperation
      exact ⟨fun h => (by cases h), fun _ => rfl, fun _ e he => by cases he⟩
    | 3 | 5 =>
      obtain rfl := Option.some.inj hoperation
      exact ⟨fun _ => .build _ rfl fun _ => by decide, fun h => (by cases h), fun h => by cases h⟩
    | 4 =>
      obtain rfl : Operation.retain 0 (.ofSlot 0 0) = operation := Option.some.inj hoperation
      refine ⟨fun _ => .retain _ fun object hobject => ?_, fun _ => rfl, fun _ e he => by cases he⟩
      obtain rfl : (⟨"MySwiftClass", 1, 7⟩ : HeapObject) = object := Option.some.inj hobject
      decide
  moves l _ i move hmove := by
    match l with
    | 0 => cases hmove
    | 1 | 2 | 3 | 4 | 5 | 6 | l + 7 =>
      cases hmove
      refine ⟨fun _ _ _ h => (by cases h), ?_⟩
      rintro d ⟨thread, h | h⟩ <;> cases h

/-- Both instances can be used before the arena is closed.  Then the first object is left where it
    is, as it has a second reference, and the second one is freed.  Uses that were checked before
    find the first one, and not the second one. -/
theorem heapKept_overtaking : overtaking.Abides ⟨0, 0⟩ 15 ∧
    overtaking.wrapped ⟨0, 0⟩ 6 = [retained, unretained] ∧
    (∃ object, ((overtaking.after 6).store.heap 0).get? (.ofSlot 0 0) = some object ∧
      object.payload = 7 ∧ object.retainCount.toNat = 2) ∧
    ((overtaking.after 15).store.heap 0).freed = #[.ofSlot 1 0] ∧
    0 < (overtaking.after 15).store.history.entered unretained.inst.disposal ∧
    ((overtaking.after 15).store.heap 0).invalidFrees = 0 ∧
    (∃ object, object.payload = 7 ∧ (overtaking.after 6).store.readObject
      (overtaking.after 15).store retained.inst 0 "object" = .ok (.ok object)) ∧
    (overtaking.after 6).store.readObject (overtaking.after 15).store unretained.inst 0 "object" =
      .ok (.error (.literal "live wrapper points at a freed object")) := by
  have hkept := heapKept overtaking ⟨0, 0⟩
  have hwrapped : overtaking.wrapped ⟨0, 0⟩ 6 = [retained, unretained] := rfl
  have hfirst : retained ∈ overtaking.wrapped ⟨0, 0⟩ 6 := by simp [hwrapped]
  have hsecond : unretained ∈ overtaking.wrapped ⟨0, 0⟩ 6 := by simp [hwrapped]
  have husable : (overtaking.after 6).store.Usable retained.inst ∧
      (overtaking.after 6).store.Usable unretained.inst :=
    ⟨Store.usable_iff.mpr rfl, Store.usable_iff.mpr rfl⟩
  have hfreed : ((overtaking.after 15).store.heap 0).freed = #[.ofSlot 1 0] := rfl
  have hother : retained.inst.address ≠ .ofSlot 1 0 := by decide
  have hmem : unretained.inst.address ∈ ((overtaking.after 15).store.heap 0).freed :=
    hfreed ▸ Array.mem_singleton_self _
  refine ⟨overtaking_abides 15, hwrapped, ?_, hfreed, ?_, hkept.valid 15 (overtaking_abides 15), ?_,
    ?_⟩
  · obtain ⟨object, hget, -, hpayload, hcount, -⟩ :=
      hkept.usable 6 (overtaking_abides 6) _ hfirst husable.1
    refine ⟨object, hget, hpayload, ?_⟩
    rw [hcount]
    rfl
  · have hsecond := overtaking.mem_wrapped_mono _ (show 6 ≤ 15 by decide) hsecond
    exact ((hkept.freed 15 (overtaking_abides 15) _ hsecond).mp hmem).1
  · obtain ⟨object, -, -, hpayload, hread, -⟩ := hkept.found 6 15 (by decide)
      (overtaking_abides 15) _ hfirst husable.1 (by simpa [hfreed] using hother)
    exact ⟨object, hpayload, hread "object"⟩
  · obtain ⟨-, -, -, hread, -⟩ := hkept.overtaken 6 15 (by decide) (overtaking_abides 15) _ hsecond
      husable.2 hmem
    exact hread "object"

/-- So it does not hold that a use never panics if it has passed the check: the arena can be closed
    before the object is looked for. -/
theorem not_always_found : ¬∀ (σ : Schedule) (ρ : ForeignRuntime) (k n : Nat), k ≤ n →
    σ.Abides ρ n → ∀ w ∈ σ.wrapped ρ k, (σ.after k).store.Usable w.inst → ∀ what,
      ∃ object, (σ.after k).store.readObject (σ.after n).store w.inst ρ.heap what =
        .ok (.ok object) := by
  intro hfound
  have husable : (overtaking.after 6).store.Usable unretained.inst := Store.usable_iff.mpr rfl
  obtain ⟨object, hread⟩ := hfound overtaking ⟨0, 0⟩ 6 15 (by decide) (overtaking_abides 15)
    unretained (List.mem_cons_of_mem _ (List.mem_singleton.mpr rfl)) husable "object"
  have hnone : ((overtaking.after 15).store.heap 0).get? unretained.inst.address = none := rfl
  have hlooked := Store.objectAt_of_none hnone "object"
  rw [Store.readObject_of_usable husable] at hread
  cases hlooked.symm.trans (Except.ok.inj hread)

end Schedule

end ForeignArena
