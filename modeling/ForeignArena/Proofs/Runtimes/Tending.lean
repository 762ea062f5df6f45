import ForeignArena.Proofs.Runtimes.Lending

namespace ForeignArena

/-!
# Objects that are left to their wrappers

As long as nobody else frees it, the references to an object are the one of its wrapper, up
to the moment at which its disposal comes to the destroy routine, and the extra ones.

* `Schedule.Undisturbed` — nobody else frees the object at an address;
* `Site.Tended` — the references to the object are these;
* `Change.tended`, `Store.apply_tended` — and so they stay;
* `Store.newObject_tended` — from the moment at which the object is made;
* `Schedule.Undisturbed.tends`, `Schedule.Tends.succ` — runs before and after that moment.
-/

/-! ### What is asked of others, and what holds -/

/-- Whether a disposal would free what is at an address of a heap. -/
def Disposal.frees (d : Disposal) (h : Nat) (a : Address) : Bool :=
  d.address = a ∧ d.type.isOnHeap h

theorem Disposal.frees_iff {d : Disposal} {h : Nat} {a : Address} :
    d.frees h a = true ↔ d.address = a ∧ d.type.isOnHeap h = true := by
  simp [frees]

/-- **The object at an address of a heap is not disturbed** before moment `n`: extra references to
    it are given back only if they were taken, and otherwise it is left to the one wrapper that
    is made at moment `k`.  The heap can address its objects and count the references. -/
structure Schedule.Undisturbed (σ : Schedule) (h : Nat) (a : Address) (k n : Nat) : Prop where
  room : ∀ l < n, ∀ operation, (σ.after l).operation? (σ l) = some operation →
    operation.allocates? = some h →
      h < (σ.after l).store.heaps.size ∧ ((σ.after l).store.heap h).objects.HasRoom
  small : ∀ l ≤ n, 1 + σ.extra h l a < 2 ^ 64
  released : ∀ l < n, (σ.after l).operation? (σ l) = some (.release h a) → 0 < σ.extra h l a
  destroyed : ∀ l < n, (σ.after l).operation? (σ l) ≠ some (.destroy h a)
  called : ∀ l < n, ∀ j thread type, σ l = .move j (.start (.destroy thread type a)) →
    type.isOnHeap h = false
  disposed : ∀ l < n, ∀ j move d, σ l = .move j move → d.frees h a → ¬move.Disposes d
  registered : ∀ l < n, l ≠ k → ∀ e ∈ (σ.after l).registered (σ l), e.disposal.frees h a = false

/-- **An object is tended**: disposals that would free it are in order, and those in the care of
    arenas are its own, if it has one.  It is there as long as references to it are held: one by
    its own disposal, up to the destroy routine, and the extra ones. -/
structure Site.Tended (s : Site) (h : Nat) (a : Address) (own : Option Entry) (payload : Int64)
    (extra : Address → Nat) : Prop where
  orderly : ∀ d, d.frees h a → s.Orderly d
  entries : s.1.history.entries.filter (·.disposal.frees h a) = own.toList
  counted : ∀ e ∈ own, e.disposal.type.routines = .heapObject h
  there : ∃ d, (s.1.heap h).Lends d extra ∧ ∀ e ∈ own, a ∈ d.given ∧
    d.value a = Account.object? ⟨Store.objectTypeName, payload,
      s.1.history.own e.disposal + extra a⟩

theorem History.own_le_one (h : History) (d : Disposal) : h.own d ≤ 1 := Nat.sub_le ..

namespace Site.Tended

variable {st : Store} {k : List Frame} {h : Nat} {a : Address} {own : Option Entry} {e : Entry}
  {payload : Int64} {extra : Address → Nat} {d : Disposal}

theorem perm {k' : List Frame} (hperm : k.Perm k')
    (hs : Site.Tended (st, k) h a own payload extra) : Site.Tended (st, k') h a own payload extra :=
  ⟨fun d hd => (hs.orderly d hd).perm hperm, hs.entries, hs.counted, hs.there⟩

/-- Its own disposal would free it. -/
theorem frees (hs : Site.Tended (st, k) h a (some e) payload extra) :
    e.disposal.frees h a = true ∧ e ∈ st.history.entries := by
  have hmem : e ∈ st.history.entries.filter (·.disposal.frees h a) := by
    rw [hs.entries]
    exact List.mem_singleton.mpr rfl
  obtain ⟨hentry, hfrees⟩ := List.mem_filter.mp hmem
  exact ⟨hfrees, hentry⟩

/-- Disposals that would free it were registered for it only, -/
theorem countP_entries_le (hs : Site.Tended (st, k) h a own payload extra) (hd : d.frees h a) :
    st.history.entries.countP (·.disposal = d) ≤ 1 := by
  rw [st.history.countP_entries (·.frees h a) hd, hs.entries]
  exact Nat.le_trans List.countP_le_length (by cases own <;> simp)

/-- so they begin once at most. -/
theorem waiting_le (hs : Site.Tended (st, k) h a own payload extra) (hd : d.frees h a) :
    (Site.disposalView (st, k) d).begun ≤ 1 ∧
      k.countP (Frame.isCounted d) + st.history.entered d ≤ 1 := by
  have hone := hs.countP_entries_le hd
  exact ⟨Nat.le_trans (hs.orderly d hd).begun_le hone,
    Nat.le_trans (hs.orderly d hd).entered_le hone⟩

/-- One that waits for its count is its own. -/
theorem of_counted {thread : ThreadId}
    (hs : Site.Tended (st, .counted thread d :: k) h a own payload extra) (hd : d.frees h a) :
    st.history.entered d = 0 ∧ ∃ e ∈ own, e.disposal = d := by
  obtain ⟨hzero, e, he, heq⟩ := (hs.orderly d hd).of_counted (hs.countP_entries_le hd)
  have hmem : e ∈ st.history.entries.filter (·.disposal.frees h a) :=
    List.mem_filter.mpr ⟨he, by rw [heq, hd]⟩
  rw [hs.entries] at hmem
  exact ⟨hzero, e, Option.mem_toList.mp hmem, heq⟩

/-- Its own disposal has begun once an arena has run it. -/
theorem began_iff (hs : Site.Tended (st, k) h a (some e) payload extra) :
    e ∈ st.history.runs e.disposal.flag ↔
      e.disposal ∈ st.history.begun e.disposal.flag := by
  obtain ⟨hfrees, -⟩ := hs.frees
  have horderly := hs.orderly e.disposal hfrees
  have hcount : (st.history.begun e.disposal.flag).count e.disposal =
      (st.history.runs e.disposal.flag).countP (·.disposal = e.disposal) := horderly.runOnly
  rw [← List.count_pos_iff (a := e.disposal), hcount, List.countP_pos_iff]
  constructor
  · exact fun hmem => ⟨e, hmem, by simp⟩
  · rintro ⟨other, hmem, heq⟩
    have heq : other.disposal = e.disposal := by simpa using heq
    -- all that was run was registered, and nothing else was registered for the object
    have hother : other ∈ st.history.entries.filter (·.disposal.frees h a) :=
      List.mem_filter.mpr ⟨horderly.sound.mem_of_runs hmem, by rw [heq, hfrees]⟩
    rw [hs.entries] at hother
    rwa [List.mem_singleton.mp hother] at hmem

/-- The object is there, and its count is right, until its own disposal comes to the destroy
    routine. -/
theorem get?_of_own (hs : Site.Tended (st, k) h a (some e) payload extra)
    (hsmall : 1 + extra a < 2 ^ 64) (hentered : st.history.entered e.disposal = 0) :
    ∃ object, (st.heap h).get? a = some object ∧ object.typeName = Store.objectTypeName ∧
      object.payload = payload ∧ object.retainCount.toNat = 1 + extra a := by
  obtain ⟨d, hlends, hvalue⟩ := hs.there
  obtain ⟨-, hvalue⟩ := hvalue e rfl
  have hown : st.history.own e.disposal = 1 := by rw [History.own, hentered]
  rw [hown, Account.object?_of_held _ _ (by omega)] at hvalue
  refine ⟨_, (hlends.holds.get? a).trans hvalue, rfl, rfl, ?_⟩
  rw [UInt64.toNat_ofNat']
  exact Nat.mod_eq_of_lt hsmall

end Site.Tended

/-! ### Work -/

section

variable {h : Nat} {a : Address} {own : Option Entry} {payload : Int64} {extra : Address → Nat}

/-- **Work leaves an object alone**, unless this is its own disposal, which gives back the
    reference of its wrapper. -/
theorem Change.tended {move : Move} {s t : Site} (hchange : Change move s t)
    (hmove : ∀ operation, move ≠ .operate operation)
    (hcalled : ∀ thread type, move = .start (.destroy thread type a) → type.isOnHeap h = false)
    (hdisposed : ∀ d, d.frees h a → ¬move.Disposes d) (hsmall : 1 + extra a < 2 ^ 64)
    (hs : s.Tended h a own payload extra) : t.Tended h a own payload extra where
  orderly d hd := hchange.orderly (hdisposed d hd) (hs.orderly d hd)
  entries := by
    rw [hchange.entries_eq hmove]
    exact hs.entries
  counted := hs.counted
  there := by
    obtain ⟨d, hlends, hthere⟩ := hs.there
    obtain ⟨st, stack⟩ := s
    have hfrees (e : Entry) (he : e ∈ own) :
        e.disposal.address = a ∧ e.disposal.type.isOnHeap h = true := by
      cases he
      exact Disposal.frees_iff.mp hs.frees.1
    obtain ⟨hheap, hentered⟩ | ⟨thread, other, k, hother, hk, ht⟩ |
      ⟨thread, type, b, htype, hstart, ht⟩ := hchange.heap_cases hmove h
    · -- no object of the heap comes to its destroy routine
      rw [hheap]
      refine ⟨d, hlends, fun e he => ?_⟩
      have hown : t.1.history.own e.disposal = st.history.own e.disposal := by
        rw [History.own, History.own, hentered _ (hfrees e he).2]
      rw [hown]
      exact hthere e he
    · obtain rfl : stack = _ := hk
      have hhistory : t.1.history = .destroying thread other :: st.history := by
        rw [ht, Store.history_afterDestroy]
        rfl
      have hnoted : ((st.note (.destroying thread other)).heap h).Lends d extra := hlends
      rw [hhistory, ht]
      by_cases hat : other.address = a
      · -- one at its address does, so this is the disposal of its own wrapper
        obtain ⟨hzero, e, he, rfl⟩ := hs.of_counted (Disposal.frees_iff.mpr ⟨hat, hother⟩)
        obtain ⟨hgiven, hvalue⟩ := hthere e he
        rw [History.own, hzero] at hvalue
        obtain ⟨d', hlends', hgiven', hvalue'⟩ :=
          Store.afterDestroy_account hnoted hgiven (hs.counted e he) hvalue hsmall
        rw [hat]
        refine ⟨d', hlends', fun f hf => ⟨hgiven', ?_⟩⟩
        obtain rfl : f = e := Option.mem_unique hf he
        rw [hvalue', History.own, History.entered_cons, hzero]
        simp [Happening.isEntering]
      · obtain ⟨d', hlends', hgiven', hsame⟩ :=
          Store.afterDestroy_lends hnoted other.type other.address
        refine ⟨d', hlends', fun e he => ?_⟩
        obtain ⟨hgiven, hvalue⟩ := hthere e he
        have hne : other ≠ e.disposal := by
          rintro rfl
          exact hat (hfrees e he).1
        rw [hsame a hgiven fun heq => absurd heq.symm hat, hvalue, History.own, History.own,
          History.entered_cons]
        exact ⟨hgiven' hgiven, by simp [Happening.isEntering, hne]⟩
    · -- a client calls the destroy routine of a type, but not for this object
      have hat : a ≠ b := by
        rintro rfl
        rw [hcalled thread type hstart] at htype
        cases htype
      obtain ⟨d', hlends', hgiven', hsame⟩ := Store.afterDestroy_lends hlends type b
      rw [ht]
      refine ⟨d', hlends', fun e he => ?_⟩
      obtain ⟨hgiven, hvalue⟩ := hthere e he
      rw [hsame a hgiven fun heq => absurd heq hat, hvalue, Store.history_afterDestroy]
      exact ⟨hgiven' hgiven, rfl⟩

/-! ### Operations -/

namespace Store

variable {st : Store} {k : List Frame} {operation : Operation}

/-- **Operations keep an object tended** that give back only what was taken, and nothing is taken
    any more once it is gone. -/
theorem apply_tended (hs : Site.Tended (st, k) h a own payload extra)
    (hadmits : st.admits operation)
    (hroom : operation.allocates? = some h →
      h < st.heaps.size ∧ (st.heap h).objects.HasRoom)
    (hsmall : 1 + extra a < 2 ^ 64) (hreleased : operation = .release h a → 0 < extra a)
    (hdestroyed : operation ≠ .destroy h a)
    (hregistered : ∀ e ∈ st.registered operation, e.disposal.frees h a = false) :
    Site.Tended (st.apply operation, k) h a own payload (st.extraAfter h extra operation) ∧
      ∀ e ∈ own, st.history.own e.disposal + extra a = 0 →
        st.extraAfter h extra operation a = 0 := by
  obtain ⟨d, hlends, hthere⟩ := hs.there
  obtain ⟨d', hlends', hgiven', hturns⟩ := apply_lends hlends hadmits hroom
  have haccount (e : Entry) (he : e ∈ own) := (hturns a (hthere e he).1).account
    (st.history.own e.disposal) (hthere e he).2
    (Nat.lt_of_le_of_lt (Nat.add_le_add_right (st.history.own_le_one _) _) hsmall) hreleased
    hdestroyed
  refine ⟨⟨fun d hd => apply_orderly_of hadmits (hs.orderly d hd), ?_, hs.counted, d', hlends',
    fun e he => ⟨hgiven' (hthere e he).1, ?_⟩⟩, fun e he => (haccount e he).2⟩
  · have hnone : (st.registered operation).filter (·.disposal.frees h a) = [] :=
      List.filter_eq_nil_iff.mpr fun e he => by simp [hregistered e he]
    rw [apply_entries, List.filter_append, hnone, List.append_nil]
    exact hs.entries
  · rw [apply_own hadmits]
    exact (haccount e he).1

/-- **A new object is tended** from the moment at which its wrapper is made. -/
theorem newObject_tended {thread : ThreadId} {ρ : ForeignRuntime} {home : ArenaRef} {i : Instance}
    {before : Int64} (hs : Site.Tended (st, k) ρ.heap i.address none before extra)
    (hadmits : st.admits (.newObject thread ρ payload home))
    (hknown : ρ.heap < st.heaps.size) (hroom : (st.heap ρ.heap).objects.HasRoom)
    (hmade : (home, i) ∈ st.made (.newObject thread ρ payload home))
    (hroutines : i.type.routines = .heapObject ρ.heap) :
    Site.Tended (st.apply (.newObject thread ρ payload home), k) ρ.heap i.address
      (some (i.entry home)) payload extra := by
  have hfrees : i.disposal.frees ρ.heap i.address = true :=
    Disposal.frees_iff.mpr ⟨rfl, by simp [Instance.disposal, ForeignType.isOnHeap, hroutines]⟩
  have hresult : (st.newOnHeap thread ρ objectTypeName .reference payload home).2 = .ok i := by
    have htaken : (home, i) ∈
        taken home (st.newOnHeap thread ρ objectTypeName .reference payload home).2 := hmade
    cases hcases : (st.newOnHeap thread ρ objectTypeName .reference payload home).2 with
    | ok j =>
      rw [hcases] at htaken
      cases List.mem_singleton.mp htaken
      rfl
    | error e =>
      rw [hcases] at htaken
      cases htaken
  obtain ⟨d, hlends, -⟩ := hs.there
  obtain ⟨d', hlends', -, -, hnew⟩ :=
    newOnHeap_lends hlends hknown hroom thread objectTypeName .reference payload home
  obtain ⟨hfresh, hgiven, hvalue⟩ := hnew i hresult
  refine ⟨fun d hd => apply_orderly_of hadmits (hs.orderly d hd), ?_, fun e he => ?_, d', hlends',
    fun e he => ?_⟩
  · have hregistered : st.registered (.newObject thread ρ payload home) = [i.entry home] := by
      show (taken home (st.newOnHeap thread ρ objectTypeName .reference payload home).2).map _ = _
      rw [hresult]
      rfl
    have hown : [i.entry home].filter (·.disposal.frees ρ.heap i.address) = [i.entry home] :=
      List.filter_eq_self.mpr fun e he => by
        rw [List.mem_singleton.mp he]
        exact hfrees
    rw [apply_entries, List.filter_append, hs.entries, hregistered, hown]
    rfl
  · cases he
    exact hroutines
  · cases he
    -- no reference was lent at the new address, and no disposal has come to its destroy routine
    have hextra : extra i.address = 0 :=
      Nat.eq_zero_of_not_pos fun hpos => hfresh (hlends.lent _ hpos)
    have hentered : st.history.entered i.disposal = 0 := by
      have hle := (hs.orderly i.disposal hfrees).entered_le
      rw [st.history.countP_entries (·.frees ρ.heap i.address) hfrees, hs.entries] at hle
      exact Nat.eq_zero_of_le_zero (Nat.le_trans (Nat.le_add_left _ _) hle)
    refine ⟨hgiven, ?_⟩
    rw [hvalue, apply_own hadmits, hextra, History.own]
    show _ = Account.object? ⟨_, _, 1 - st.history.entered i.disposal + 0⟩
    rw [hentered]
    rfl

end Store

end

/-! ### Runs -/

namespace Schedule

variable {σ : Schedule} {h : Nat} {a : Address} {own : Option Entry} {payload : Int64}
  {k l m n : Nat}

/-- An object is tended at moment `m` of a run. -/
def Tends (σ : Schedule) (h : Nat) (a : Address) (own : Option Entry) (payload : Int64)
    (m : Nat) : Prop :=
  Site.Tended ((σ.after m).store, (σ.after m).frames) h a own payload (σ.extra h m)

/-- At first there is nothing. -/
theorem tends_zero : σ.Tends h a none payload 0 where
  orderly d _ := ⟨σ.sound 0, Nat.le_refl 0, rfl⟩
  entries := rfl
  counted e he := by cases he
  there := ⟨{}, ⟨Heap.holds_empty, fun b hb => absurd hb (Nat.lt_irrefl 0)⟩, fun e he => by cases he⟩

/-- Extra references are a matter of operations. -/
theorem extra_succ {j : Nat} {move : Move} (hact : σ m = .move j move)
    (hmove : ∀ operation, move ≠ .operate operation) (h : Nat) :
    σ.extra h (m + 1) = σ.extra h m := by
  rw [extra, hact, Machine.operation?_of_ne _ _ hmove]

/-- **Whatever happens, an object that is not disturbed stays tended**, and nothing is taken any
    more once it is gone. -/
theorem Tends.succ (hs : σ.Tends h a own payload m) (hfree : σ.Undisturbed h a k n) (hmn : m < n)
    (hmk : m ≠ k) :
    σ.Tends h a own payload (m + 1) ∧
      ∀ e ∈ own, (σ.after m).store.history.own e.disposal + σ.extra h m a = 0 →
        σ.extra h (m + 1) a = 0 := by
  have hsmall := hfree.small m (Nat.le_of_lt hmn)
  unfold Tends
  rw [extra]
  cases hoperation : (σ.after m).operation? (σ m) with
  | some operation =>
    obtain ⟨hstore, hadmits, -⟩ := Machine.store_of_operation hoperation
    have hregistered := hfree.registered m hmn hmk
    rw [Machine.registered, hoperation] at hregistered
    rw [after, hstore, Machine.frames_of_operation hoperation]
    refine Store.apply_tended hs hadmits (hfree.room m hmn operation hoperation) hsmall ?_ ?_
      hregistered
    · rintro rfl
      exact hfree.released m hmn hoperation
    · rintro rfl
      exact hfree.destroyed m hmn hoperation
  | none =>
    refine ⟨?_, fun e he hzero => by dsimp only; omega⟩
    refine @Machine.keeps_of_no_operation (σ.after m) (σ m)
      (fun st k => Site.Tended (st, k) h a own payload (σ.extra h m)) hoperation
      (fun hperm h => h.perm hperm) (fun {j move _ _} hact hmove hchange h => ?_) hs
    refine hchange.tended hmove (fun thread type heq => ?_)
      (fun d hd => hfree.disposed m hmn j move d hact hd) hsmall h
    rw [heq] at hact
    exact hfree.called m hmn j thread type hact

/-- Nobody has a reference to what is not made yet. -/
theorem Undisturbed.tends (hfree : σ.Undisturbed h a k n) (hmk : m ≤ k) (hmn : m ≤ n) :
    σ.Tends h a none payload m := by
  induction m with
  | zero => exact tends_zero
  | succ m ih =>
    exact ((ih (Nat.le_of_succ_le hmk) (Nat.le_of_succ_le hmn)).succ hfree hmn
      (Nat.ne_of_lt hmk)).1

end Schedule

end ForeignArena
