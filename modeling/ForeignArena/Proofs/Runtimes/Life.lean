import ForeignArena.Proofs.Runtimes.Building

namespace ForeignArena

/-!
# The life of a runtime

Whatever happens, the heap of a runtime in proper use serves the wrappers of the runtime.
The invariant holds at every site, also in the middle of a move, where a disposal may be
on its way to the destroy routine.

* `Site.Kept` — the invariant;
* `Change.kept` — work keeps it;
* `Store.apply_kept` — operations keep it.
-/

/-- The references that wrappers hold: one each, up to the moment at which the disposal of the
    wrapper comes to its destroy routine. -/
def History.own (h : History) (d : Disposal) : Nat := 1 - h.entered d

/-- **A runtime that is kept in order**: the disposals of its objects are in order, and those
    in the care of arenas are those of its wrappers, whose types are as its registry gives them
    out; and its heap serves the wrappers. -/
structure Site.Kept (s : Site) (ρ : ForeignRuntime) (wrapped : List Wrapped)
    (extra : Address → Nat) : Prop where
  orderly : ∀ d, d.type.isOnHeap ρ.heap = true → s.Orderly d
  entries : s.1.history.entries.filter (·.disposal.type.isOnHeap ρ.heap) = wrapped.map (·.entry)
  typed : ∀ w ∈ wrapped, w.inst.type.Serves ρ.heap w.kind
  registry : (s.1.registry ρ.registry).Serves ρ.heap
  served : ∃ books, (s.1.heap ρ.heap).Serves books wrapped s.1.history.own extra

namespace Site.Kept

variable {st : Store} {k : List Frame} {ρ : ForeignRuntime} {wrapped : List Wrapped}
  {extra : Address → Nat} {d : Disposal}

theorem perm {k' : List Frame} (hperm : k.Perm k') (h : Site.Kept (st, k) ρ wrapped extra) :
    Site.Kept (st, k') ρ wrapped extra :=
  ⟨fun d hd => (h.orderly d hd).perm hperm, h.entries, h.typed, h.registry, h.served⟩

/-- What was registered with a type of the heap are the wrappers. -/
theorem countP_entries (h : Site.Kept (st, k) ρ wrapped extra)
    (hd : d.type.isOnHeap ρ.heap = true) :
    st.history.entries.countP (·.disposal = d) = wrapped.countP (·.inst.disposal = d) := by
  rw [st.history.countP_entries (·.type.isOnHeap ρ.heap) hd, h.entries, List.countP_map]
  rfl

/-- A disposal comes to its destroy routine as often at most as it is that of a wrapper. -/
theorem entered_le (h : Site.Kept (st, k) ρ wrapped extra) (hd : d.type.isOnHeap ρ.heap = true) :
    k.countP (Frame.isCounted d) + st.history.entered d ≤
      wrapped.countP (·.inst.disposal = d) := by
  rw [← h.countP_entries hd]
  exact (h.orderly d hd).entered_le

/-- No two wrappers have the same disposal. -/
theorem count_le_one (h : Site.Kept (st, k) ρ wrapped extra) (d : Disposal) :
    wrapped.countP (·.inst.disposal = d) ≤ 1 := by
  obtain ⟨books, hserves⟩ := h.served
  have haddress := List.nodup_iff_count_le_one.mp hserves.distinct d.address
  rw [List.count_eq_countP, List.countP_map] at haddress
  refine Nat.le_trans (List.countP_mono_left fun w _ hw => ?_) haddress
  have hw : w.inst.disposal = d := by simpa using hw
  simp [← hw, Instance.disposal]

/-- A disposal that waits for its destroy routine is that of a wrapper, and comes there for the
    first time. -/
theorem of_counted (h : Site.Kept (st, k) ρ wrapped extra) (hd : d.type.isOnHeap ρ.heap = true)
    {thread : ThreadId} {below : List Frame} (hk : k = .counted thread d :: below) :
    st.history.entered d = 0 ∧ ∃ w ∈ wrapped, w.inst.disposal = d := by
  subst hk
  obtain ⟨hzero, e, he, heq⟩ := (h.orderly d hd).of_counted (by
    rw [h.countP_entries hd]
    exact h.count_le_one d)
  -- what was registered with a type of the heap is the entry of a wrapper
  have hmem : e ∈ st.history.entries.filter (·.disposal.type.isOnHeap ρ.heap) :=
    List.mem_filter.mpr ⟨he, by rw [heq, hd]⟩
  rw [h.entries] at hmem
  obtain ⟨w, hw, rfl⟩ := List.mem_map.mp hmem
  exact ⟨hzero, w, hw, heq⟩

/-- A disposal at an address that no wrapper has did not come to its destroy routine. -/
theorem own_of_new (h : Site.Kept (st, k) ρ wrapped extra) (hd : d.type.isOnHeap ρ.heap = true)
    (hnone : ∀ w ∈ wrapped, w.inst.address ≠ d.address) : st.history.own d = 1 := by
  have hle := h.entered_le hd
  have hzero : wrapped.countP (·.inst.disposal = d) = 0 := by
    refine List.countP_eq_zero.mpr fun w hw heq => hnone w hw ?_
    have heq : w.inst.disposal = d := by simpa using heq
    exact congrArg Disposal.address heq
  rw [History.own]
  omega

end Site.Kept

/-! ### Work -/

/-- **Work keeps a runtime in order**, wherever it is about to free an object. -/
theorem Change.kept {move : Move} {s t : Site} {ρ : ForeignRuntime} {wrapped : List Wrapped}
    {extra : Address → Nat} (h : Change move s t) (hmove : ∀ operation, move ≠ .operate operation)
    (hspares : move.Spares ρ.heap) (hs : s.Kept ρ wrapped extra) : t.Kept ρ wrapped extra where
  orderly d hd := by
    refine h.orderly (fun hdisposes => ?_) (hs.orderly d hd)
    rw [hspares.disposed d hdisposes] at hd
    cases hd
  entries := by
    rw [h.entries_eq hmove]
    exact hs.entries
  typed := hs.typed
  registry := by
    rw [Store.registry, h.registries_eq hmove]
    exact hs.registry
  served := by
    obtain ⟨books, hserves⟩ := hs.served
    obtain ⟨hheap, hentered⟩ | ⟨thread, d, k, hd, hk, ht⟩ := h.heap_or_entered hmove hspares
    · -- no disposal of an object comes to its destroy routine, so nobody's reference changes
      refine ⟨books, ?_⟩
      rw [hheap]
      refine hserves.of_own fun w hw => ?_
      rw [History.own, History.own, hentered _ (hs.typed w hw).isOnHeap]
    · -- one does: it is that of a wrapper, and it was not there before
      obtain ⟨st, stack⟩ := s
      obtain ⟨hzero, w, hw, rfl⟩ := hs.of_counted hd hk
      have hheap : t.1.heap ρ.heap = (st.heap ρ.heap).giveUp w.kind w.inst.address := by
        rw [ht]
        exact (st.note (.destroying thread w.inst.disposal)).heap_afterDestroy (hs.typed w hw)
          (st.known_of_issued (hserves.issued w hw)) w.inst.address
      have hhistory : t.1.history = .destroying thread w.inst.disposal :: st.history := by
        rw [ht, Store.history_afterDestroy]
        rfl
      rw [hheap, hhistory]
      refine hserves.ended hw ?_ ?_ fun d hne => ?_
      · simp [History.own, hzero]
      · simp [History.own, History.entered_cons, Happening.isEntering]
      · simp [History.own, History.entered_cons, Happening.isEntering, Ne.symm hne]

/-! ### Operations -/

namespace Store

variable {st : Store} {k : List Frame} {ρ : ForeignRuntime} {wrapped : List Wrapped}
  {extra : Address → Nat} {operation : Operation}

theorem apply_own (hadmits : st.admits operation) :
    (st.apply operation).history.own = st.history.own := by
  funext d
  rw [History.own, History.own, apply_entered hadmits]

/-- An operation that builds an object of a runtime uses its heap, and takes no extra
    reference. -/
theorem of_builds (st : Store) (extra : Address → Nat) {kind : TypeKind} {payload : Int64}
    (hbuilds : operation.builds? ρ = some (kind, payload)) :
    operation.heap? = some ρ.heap ∧ st.extraAfter ρ.heap extra operation = extra ∧
      st.registered operation = (st.made operation).map fun (home, i) => i.entry home := by
  cases operation with
  | newObject thread runtime _ home | newValue thread runtime _ home =>
    obtain ⟨rfl, -⟩ := Option.ite_none_right_eq_some.mp hbuilds
    exact ⟨rfl, rfl, rfl⟩
  | _ => cases hbuilds

/-- An operation that does not use a heap takes and gives back no reference to its objects. -/
theorem extraAfter_of_ne {h : Nat} (hheap : operation.heap? ≠ some h) :
    st.extraAfter h extra operation = extra := by
  have hne {other : Nat} (heq : operation.heap? = some other) : other ≠ h :=
    fun hother => hheap (hother ▸ heq)
  cases operation with
  | allocate heap _ _ | release heap _ => exact if_neg (hne rfl)
  | retain heap a => exact if_neg fun hboth => hne rfl hboth.1
  | retainObject inst heap =>
    simp only [extraAfter, if_neg (hne rfl)]
    split <;> rfl
  | _ => rfl

/-- What an instance reads is at its address. -/
theorem get?_of_readObject {later : Store} {inst : Instance} {h : Nat} {what : String}
    {object : HeapObject} (hread : st.readObject later inst h what = .ok (.ok object)) :
    (later.heap h).get? inst.address = some object := by
  unfold readObject call at hread
  split at hread
  · next address haddress =>
    obtain rfl : inst.address = address := by
      unfold liveAddress at haddress
      split at haddress <;> cases haddress
      rfl
    have hobject : later.objectAt h what inst.address = .ok object := Except.ok.inj hread
    unfold objectAt at hobject
    split at hobject
    · next hget =>
      cases hobject
      exact hget
    · cases hobject
  · cases hread

/-- A client takes a reference. -/
theorem retain_served {books : Books} {a : Address}
    (hserves : (st.heap ρ.heap).Serves books wrapped st.history.own extra)
    (hretainable : st.Retainable ρ.heap a) :
    ∃ books', ((st.apply (.retain ρ.heap a)).heap ρ.heap).Serves books' wrapped st.history.own
      (st.extraAfter ρ.heap extra (.retain ρ.heap a)) := by
  cases hget : (st.heap ρ.heap).get? a with
  | none =>
    have hheap : (st.apply (.retain ρ.heap a)).heap ρ.heap = st.heap ρ.heap := by
      rw [apply, Heap.retain, hget, st.setHeap_self]
    rw [hheap, extraAfter, if_neg (by simp [hget])]
    exact ⟨books, hserves⟩
  | some object =>
    have hknown : ρ.heap < st.heaps.size := st.known_of_issued (.of_get? hget)
    have hheap : (st.apply (.retain ρ.heap a)).heap ρ.heap = ((st.heap ρ.heap).retain a).1 :=
      st.heap_setHeap _ hknown
    obtain ⟨hname, hcount⟩ := hretainable object hget
    rw [hheap, extraAfter, if_pos ⟨rfl, by simp [hget]⟩]
    exact hserves.retained hget hname hcount

/-- What a client does to the heap of a runtime in proper use, without building an object of
    it. -/
theorem apply_served {books : Books}
    (hserves : (st.heap ρ.heap).Serves books wrapped st.history.own extra)
    (hadmits : st.admits operation) (hbuilds : operation.builds? ρ = none)
    (huses : operation.heap? = some ρ.heap → st.Uses ρ extra operation) :
    ∃ books', ((st.apply operation).heap ρ.heap).Serves books' wrapped st.history.own
      (st.extraAfter ρ.heap extra operation) := by
  by_cases hheap : operation.heap? = some ρ.heap
  · cases huses hheap with
    | build _ hsome =>
      rw [hbuilds] at hsome
      cases hsome
    | allocate typeName payload hknown hroom =>
      have hheap : (st.apply (.allocate ρ.heap typeName payload)).heap ρ.heap =
          ((st.heap ρ.heap).allocate typeName payload).1 := st.heap_setHeap _ hknown
      rw [hheap, extraAfter, if_pos rfl]
      exact hserves.granted hroom typeName payload
    | retain a hretainable => exact retain_served hserves hretainable
    | retainObject inst hretainable =>
      simp only [apply, extraAfter, retainObject_fst]
      cases hread : st.readObject st inst ρ.heap "object" with
      | error e => exact ⟨books, hserves⟩
      | ok result =>
        cases result with
        | error payload => exact ⟨books, hserves⟩
        | ok object =>
          obtain ⟨books', hafter⟩ := retain_served hserves hretainable
          have hsome : ((st.heap ρ.heap).get? inst.address).isSome := by
            rw [get?_of_readObject hread]
            rfl
          rw [extraAfter, if_pos ⟨rfl, hsome⟩] at hafter
          refine ⟨books', ?_⟩
          rw [if_pos trivial]
          exact hafter
    | release a hpos =>
      -- what is given back was taken before, so the object is there
      have hheld : (books a).held ≠ 0 := Nat.ne_of_gt (Nat.lt_of_lt_of_le hpos (hserves.extra_le a))
      have hknown : ρ.heap < st.heaps.size := st.known_of_issued (hserves.agrees.issued hheld)
      have hheap : (st.apply (.release ρ.heap a)).heap ρ.heap = ((st.heap ρ.heap).release a).1 :=
        st.heap_setHeap _ hknown
      rw [hheap, extraAfter, if_pos rfl]
      exact hserves.released hpos
  · rw [apply_heap hadmits hheap, extraAfter_of_ne hheap]
    exact ⟨books, hserves⟩

theorem apply_orderly (hs : Site.Kept (st, k) ρ wrapped extra) (hadmits : st.admits operation)
    (d : Disposal) (hd : d.type.isOnHeap ρ.heap = true) : Site.Orderly (st.apply operation, k) d :=
  apply_orderly_of hadmits (hs.orderly d hd)

/-- Operations that build no object of a runtime keep it in order. -/
theorem apply_kept_of_other (hs : Site.Kept (st, k) ρ wrapped extra) (hadmits : st.admits operation)
    (habides : st.Abides ρ extra operation) (hbuilds : operation.builds? ρ = none) :
    Site.Kept (st.apply operation, k) ρ wrapped (st.extraAfter ρ.heap extra operation) where
  orderly := apply_orderly hs hadmits
  entries := by
    have hnone : (st.registered operation).filter (·.disposal.type.isOnHeap ρ.heap) = [] :=
      List.filter_eq_nil_iff.mpr fun e he => by simp [habides.disposals hbuilds e he]
    rw [apply_entries, List.filter_append, hnone, List.append_nil]
    exact hs.entries
  typed := hs.typed
  registry kind type hfind := by
    rw [Registry.find?, habides.registry hbuilds] at hfind
    exact hs.registry kind type hfind
  served := by
    obtain ⟨books, hserves⟩ := hs.served
    rw [apply_own hadmits]
    exact apply_served hserves hadmits hbuilds habides.uses

section Building

variable {kind : TypeKind} {payload : Int64} {home : ArenaRef}

/-- An object that is built and taken over has a wrapper from now on. -/
theorem apply_kept_of_accepted (hs : Site.Kept (st, k) ρ wrapped extra)
    (hadmits : st.admits operation) (hroom : (st.heap ρ.heap).objects.HasRoom)
    (hbuilds : operation.builds? ρ = some (kind, payload)) {i : Instance}
    (hmade : st.made operation = [(home, i)])
    (hbuilt : st.Built (st.apply operation) ρ kind payload (.ok i)) :
    Site.Kept (st.apply operation, k) ρ (wrapped ++ [⟨home, i, kind, payload⟩]) extra := by
  obtain ⟨books, hserves⟩ := hs.served
  obtain ⟨-, -, hregistered⟩ := of_builds st extra hbuilds
  obtain ⟨haddress, htype, hafter⟩ := hbuilt.accepted i rfl
  refine ⟨apply_orderly hs hadmits, ?_, fun w hw => ?_, hbuilt.registry, ?_⟩
  · have hone : [i.entry home].filter (·.disposal.type.isOnHeap ρ.heap) = [i.entry home] :=
      List.filter_eq_self.mpr fun e he => by
        rw [List.mem_singleton.mp he]
        exact htype.isOnHeap
    rw [apply_entries, hregistered, hmade, List.filter_append, hs.entries, List.map_append]
    exact congrArg _ hone
  · obtain hw | hw := List.mem_append.mp hw
    · exact hs.typed w hw
    · obtain rfl := List.mem_singleton.mp hw
      exact htype
  · -- no wrapper has the new address, so its disposal is new, too
    have hfresh := (hserves.of_fresh (Heap.allocate_agrees hserves.agrees hroom kind.typeName
      payload).1).1
    have hown : st.history.own i.disposal = 1 := by
      refine hs.own_of_new htype.isOnHeap fun w hw => ?_
      rw [Instance.disposal, haddress]
      exact hfresh w hw
    rw [hafter, apply_own hadmits]
    exact hserves.allocated hroom kind payload home haddress hown

/-- An object that is built and refused leaves no trace. -/
theorem apply_kept_of_refused (hs : Site.Kept (st, k) ρ wrapped extra)
    (hadmits : st.admits operation) (hroom : (st.heap ρ.heap).objects.HasRoom)
    (hbuilds : operation.builds? ρ = some (kind, payload)) {e : ArenaError}
    (hmade : st.made operation = [])
    (hbuilt : st.Built (st.apply operation) ρ kind payload (.error e)) :
    Site.Kept (st.apply operation, k) ρ wrapped extra := by
  obtain ⟨books, hserves⟩ := hs.served
  obtain ⟨-, -, hregistered⟩ := of_builds st extra hbuilds
  refine ⟨apply_orderly hs hadmits, ?_, hs.typed, hbuilt.registry, ?_⟩
  · rw [apply_entries, hregistered, hmade, List.map_nil, List.append_nil]
    exact hs.entries
  · rw [hbuilt.refused e rfl, apply_own hadmits]
    exact hserves.refused hroom kind.typeName payload kind

end Building

/-- **Operations keep a runtime in order**, also where they build objects of it. -/
theorem apply_kept (hs : Site.Kept (st, k) ρ wrapped extra) (hadmits : st.admits operation)
    (habides : st.Abides ρ extra operation) :
    Site.Kept (st.apply operation, k) ρ (wrapped ++ st.wraps ρ operation)
      (st.extraAfter ρ.heap extra operation) := by
  cases hbuilds : operation.builds? ρ with
  | none =>
    have hwraps : st.wraps ρ operation = [] := by rw [wraps, hbuilds]
    rw [hwraps, List.append_nil]
    exact apply_kept_of_other hs hadmits habides hbuilds
  | some built =>
    obtain ⟨kind, payload⟩ := built
    obtain ⟨hheap, hextra, -⟩ := of_builds st extra hbuilds
    obtain ⟨home, result, hmade, hbuilt⟩ := apply_built hbuilds hadmits hs.registry
    -- of all uses only building an object builds one
    have hroom : (st.heap ρ.heap).objects.HasRoom := by
      cases habides.uses hheap with
      | build _ _ hroom => exact hroom
      | _ => cases hbuilds
    rw [hextra, wraps, hbuilds, hmade]
    cases result with
    | ok i => exact apply_kept_of_accepted hs hadmits hroom hbuilds hmade hbuilt
    | error e =>
      dsimp only [taken]
      rw [List.map_nil, List.append_nil]
      exact apply_kept_of_refused hs hadmits hroom hbuilds hmade hbuilt

end Store

end ForeignArena
