import ForeignArena.Proofs.Arenas.Isolation
import ForeignArena.Proofs.Cleaners.Life

namespace ForeignArena

/-!
# Draining a queue

The actions of a cleaner that is put to the service of an arena are disposals.  With a library,
what its thread does with each of them can be told from beginning to end.

* `Library.Serves`, `Library.Performs` — works that the client starts one after the other;
* `Library.drives_receive` — the thread takes a disposal from its queue, runs it, and goes back;
* `Cleaner.Holds` — a cleaner with disposals that wait, in its queue or for their tokens;
* `Draining` — works that drop all tokens in order and drain the queue.
-/

namespace World

variable {W : Type} (x : World W)

/-- The world with a cleaner changed. -/
def modifyCleaner (c : Nat) (f : Cleaner → Cleaner) : World W :=
  { x with store := x.store.modifyCleaner c f }

/-- The world in which the thread of a cleaner has come to a disposal. -/
def takeUp (thread : ThreadId) (c token : Nat) (d : Disposal) (taken : Cleaner) : World W :=
  ((x.modifyCleaner c fun _ => taken).note (.received c token)).note
    (.started thread c token (.dispose d))

/-- The world in which it has gone back to its queue. -/
def handBack (thread : ThreadId) (c token : Nat) :
    Except Payload (Except DisposalError Unit) → World W
  | .ok (.ok _) =>
    ((x.modifyCleaner c (·.finish)).note (.actionEnded thread c token)).modifyCleaner c (·.resume)
  | .ok (.error e) =>
    (((x.note (.autoFailed thread c token e)).modifyCleaner c (·.finish)).note
      (.actionEnded thread c token)).modifyCleaner c (·.resume)
  | .error payload =>
    ((x.modifyCleaner c (·.fail)).note
      (.actionPanicked thread c token payload.message)).modifyCleaner c (·.resume)

end World

namespace Library

variable {W : Type} (lib : Library W) {s : System} {w : W} {news : Option Outcome} {c token : Nat}

/-! ### Works, one after the other -/

/-- The client starts a work, and gets an outcome. -/
structure Serves (work : Work) (sw tw : System × W) : Prop where
  starts : ∃ news, sw.1.focus = .client news
  drives : lib.Drives (sw.1.start work, sw.2) tw
  returns : ∃ o, tw.1.focus = .client (some o)

/-- A work that is served ends in one way only. -/
theorem Serves.unique {lib : Library W} {work : Work} {sw tw uw : System × W}
    (h : lib.Serves work sw tw) (h' : lib.Serves work sw uw) : tw = uw := by
  -- the client that was given an outcome waits, so the library leaves it as it is
  have hwaits {vw : System × W} (hreturns : ∃ o, vw.1.focus = .client (some o)) (k : Nat) :
      lib.step^[k] vw = vw := by
    obtain ⟨⟨store, stack, focus⟩, w⟩ := vw
    obtain ⟨o, rfl⟩ := hreturns
    exact Function.iterate_fixed rfl k
  obtain ⟨k, hk⟩ := h.drives
  obtain ⟨l, hl⟩ := h'.drives
  unfold drive at hk hl
  obtain hkl | hlk := Nat.le_total k l
  · obtain ⟨m, rfl⟩ := Nat.exists_eq_add_of_le' hkl
    rw [← hl, Function.iterate_add_apply, hk, hwaits h.returns]
  · obtain ⟨m, rfl⟩ := Nat.exists_eq_add_of_le' hlk
    rw [← hk, Function.iterate_add_apply, hl, hwaits h'.returns]

/-- The client starts some works, each after the one before. -/
inductive Performs : List Work → System × W → System × W → Prop
  | nil (sw : System × W) : Performs [] sw sw
  | cons {work : Work} {works : List Work} {sw tw uw : System × W} :
    lib.Serves work sw tw → Performs works tw uw → Performs (work :: works) sw uw

/-! ### Works on a queue -/

/-- A token that is dropped goes to the end of the queue. -/
theorem drives_dropRegistration (hfocus : s.focus = .client news) (hbase : Grounded s.stack)
    (thread : ThreadId) (htoken : (s.store.cleaner c).tokens.contains token)
    (hreceiving : (s.store.cleaner c).isReceiving) :
    lib.Drives (s.start (.dropRegistration thread (.tracked c token)), w)
      (waits (some (.ok .done)) ((World.modifyCleaner ⟨s.store, w⟩ c fun x =>
        (x.spend token).enqueue token).note (.queued c token)) s.stack) := by
  have hstart : s.start (.dropRegistration thread (.tracked c token)) =
      (World.system ((World.modifyCleaner ⟨s.store, w⟩ c fun x =>
        (x.spend token).enqueue token).note (.queued c token)) (.ok .done) s.stack) := by
    have hdrop : s.start (.dropRegistration thread (.tracked c token)) =
        s.dropToken thread c token := by
      unfold System.start
      rw [hfocus]
      rfl
    rw [hdrop, System.dropToken, if_pos htoken]
    dsimp only [System.mapStore]
    rw [Store.isReceiving_spend, if_pos hreceiving]
    dsimp only [System.note, System.mapStore]
    rw [Store.modifyCleaner_modifyCleaner]
    rfl
  rw [hstart]
  exact lib.drives_return hbase _ _

/-- A disposal that ends, however it does, leaves its thread to its queue. -/
theorem drives_handBack {stack : List Frame} (hbase : Grounded stack) (thread : ThreadId)
    (x : World W) (result : Except Payload (Except DisposalError Unit))
    (hdroppable : ∀ payload, result = .error payload → payload.dropped? = none) :
    lib.Drives (arrives (.ofDisposal result) x
        (.reporting thread c token :: .running thread c token :: .reclaiming c :: stack))
      (waits (some (.ok .done)) (x.handBack thread c token result) stack) := by
  -- once the action is counted, only the loop of the thread is left
  have hback (y : World W) : lib.Drives (arrives (.ok (.cleaned true)) y (.reclaiming c :: stack))
      (waits (some (.ok .done)) (y.modifyCleaner c (·.resume)) stack) :=
    (lib.drives_resume _ y _ _).trans
      (lib.drives_return hbase (.ok .done) (y.modifyCleaner c (·.resume)))
  have hended (y : World W) : lib.Drives
      (arrives (.ok .done) y (.running thread c token :: .reclaiming c :: stack))
      (waits (some (.ok .done)) (((y.modifyCleaner c (·.finish)).note
        (.actionEnded thread c token)).modifyCleaner c (·.resume)) stack) :=
    (lib.drives_resume _ y _ _).trans
      (hback ((y.modifyCleaner c (·.finish)).note (.actionEnded thread c token)))
  cases result with
  | ok result =>
    cases result with
    | ok _ => exact (lib.drives_resume _ x _ _).trans (hended x)
    | error e =>
      exact (lib.drives_resume _ x _ _).trans (hended (x.note (.autoFailed thread c token e)))
  | error payload =>
    refine (lib.drives_resume _ x _ _).trans ((lib.drives_resume (.error payload) x
      (.running thread c token) (.reclaiming c :: stack)).trans ?_)
    show lib.Drives (System.resumePanicked _ thread c token payload, x.own) _
    rw [System.resumePanicked, System.discard, hdroppable payload rfl]
    exact hback ((x.modifyCleaner c (·.fail)).note (.actionPanicked thread c token payload.message))

/-- **The thread of a cleaner takes a disposal from its queue**, runs it, and goes back. -/
theorem drives_receive (hfocus : s.focus = .client news) (hbase : Grounded s.stack)
    {received taken : Cleaner} {d : Disposal}
    (hdequeue : (s.store.cleaner c).dequeue? = some (received, token))
    (htake : received.take? token = some (taken, .dispose d)) :
    let thread := ThreadId.reclaimer c received.threadName
    let course := lib.dispose thread d (World.takeUp ⟨s.store, w⟩ thread c token d taken)
    lib.Drives (s.start (.receive c), w)
      (waits (some (.ok .done)) (course.left.handBack thread c token course.result) s.stack) := by
  dsimp only
  generalize hthread : ThreadId.reclaimer c received.threadName = thread
  have hstart : s.start (.receive c) = s.receive c := by
    unfold System.start
    rw [hfocus]
  rw [hstart, System.receive, hdequeue]
  dsimp only
  rw [hthread]
  -- the token is used up, and in the next step its action is taken
  refine (lib.drives_resume (.ok .done)
    ((World.modifyCleaner ⟨s.store, w⟩ c fun _ => received).note (.received c token))
    (.taking thread c token) (.reclaiming c :: s.stack)).trans ?_
  show lib.Drives (System.runAction _ thread c token, w) _
  have hcleaner : (s.store.modifyCleaner c fun _ => received).cleaner c = received := by
    rw [Store.cleaner_modifyCleaner _ _ _ _ (Change.known_of_dequeue hdequeue), if_pos rfl]
  rw [System.runAction]
  dsimp only [World.note, World.modifyCleaner, World.system, System.mapStore, Store.cleaner_note]
  rw [hcleaner, htake]
  dsimp only
  rw [Store.modifyCleaner_note, Store.modifyCleaner_modifyCleaner]
  refine (lib.drives_dispose (s := System.push _ (.reporting thread c token)) thread d).trans ?_
  exact lib.drives_handBack hbase thread _ _ fun _ h => lib.dispose_droppable thread d _ h

end Library

/-! ### Cleaners with disposals that wait -/

/-- A waiting thread with some disposals to do: some whose tokens are in its queue, and others
    whose tokens still exist. -/
structure Cleaner.Holds (x : Cleaner) (queued kept : List (Nat × Disposal)) : Prop where
  live : x.live = (queued ++ kept).map fun e => (e.1, .dispose e.2)
  queue : x.queue = queued.map Prod.fst
  tokens : x.tokens = kept.map Prod.fst
  phase : x.phase = .waiting
  nodup : ((queued ++ kept).map Prod.fst).Nodup
  below : ∀ e ∈ queued ++ kept, e.1 < x.nextId

namespace Cleaner.Holds

variable {x : Cleaner} {queued kept : List (Nat × Disposal)} {entry : Nat × Disposal}

/-- A cleaner with such a thread was made. -/
theorem known {st : Store} {c : Nat} (h : (st.cleaner c).Holds queued kept) :
    c < st.cleaners.size := by
  refine Change.known_of_ne_void fun hvoid => ?_
  have hwaiting := h.phase
  rw [hvoid] at hwaiting
  cases hwaiting

/-- A disposal that is registered waits for its token. -/
theorem track (h : x.Holds [] kept) (d : Disposal) :
    (x.track (.dispose d)).Holds [] (kept ++ [(x.nextId, d)]) where
  live := by
    show x.live ++ _ = _
    rw [h.live, List.nil_append, List.nil_append, List.map_append]
    rfl
  queue := h.queue
  tokens := by
    show x.tokens ++ _ = _
    rw [h.tokens, List.map_append]
    rfl
  phase := h.phase
  nodup := by
    rw [List.nil_append, List.map_append, List.nodup_append]
    refine ⟨h.nodup, List.pairwise_singleton _ _, fun token htoken other hother => ?_⟩
    obtain ⟨e, he, rfl⟩ := List.mem_map.mp htoken
    obtain rfl := List.mem_singleton.mp hother
    exact Nat.ne_of_lt (h.below e he)
  below e he := by
    rw [List.nil_append] at he
    obtain hmem | hnew := List.mem_append.mp he
    · exact Nat.lt_succ_of_lt (h.below e hmem)
    · rw [List.mem_singleton.mp hnew]
      exact Nat.lt_succ_self x.nextId

/-- The token that was made first may be dropped next. -/
theorem drop (h : x.Holds queued (entry :: kept)) :
    ((x.spend entry.1).enqueue entry.1).Holds (queued ++ [entry]) kept where
  live := by
    rw [List.append_assoc]
    exact h.live
  queue := by
    show x.queue ++ _ = _
    rw [h.queue, List.map_append]
    rfl
  tokens := by
    show x.tokens.erase entry.1 = _
    rw [h.tokens, List.map_cons, List.erase_cons_head]
  phase := h.phase
  nodup := by
    rw [List.append_assoc]
    exact h.nodup
  below := by
    rw [List.append_assoc]
    exact h.below

/-- The cleaner once the first disposal of its queue has been taken. -/
def taken (x : Cleaner) (queued kept : List (Nat × Disposal)) : Cleaner :=
  { x with
    live := (queued ++ kept).map fun e => (e.1, .dispose e.2)
    queue := queued.map Prod.fst
    phase := .busy }

/-- The first disposal of the queue may be taken. -/
theorem receive (h : x.Holds (entry :: queued) kept) : ∃ received,
    x.dequeue? = some (received, entry.1) ∧ received.threadName = x.threadName ∧
      received.take? entry.1 = some (taken x queued kept, .dispose entry.2) := by
  refine ⟨{ x with queue := queued.map Prod.fst, phase := .busy }, ?_, rfl, ?_⟩
  · rw [Cleaner.dequeue?, h.phase, h.queue, List.map_cons]
  · -- no other action has this token, so it is the first one of the live set that goes
    have hothers : ∀ e ∈ (queued ++ kept).map fun e => (e.1, Action.dispose e.2),
        (e.1 != entry.1) = true := by
      intro e he
      obtain ⟨other, hother, rfl⟩ := List.mem_map.mp he
      have hnot : entry.1 ∉ (queued ++ kept).map Prod.fst := (List.nodup_cons.mp h.nodup).1
      simp only [bne_iff_ne, ne_eq]
      intro heq
      exact hnot (heq ▸ List.mem_map_of_mem hother)
    have hlive : x.live = (entry.1, .dispose entry.2) ::
        (queued ++ kept).map fun e => (e.1, .dispose e.2) := h.live
    rw [Cleaner.take?]
    dsimp only
    rw [hlive, List.lookup_cons, beq_self_eq_true, List.filter_cons_of_neg (by simp),
      List.filter_eq_self.mpr hothers]
    rfl

/-- The thread that has gone back to its queue has the others to do. -/
theorem resumed (h : x.Holds (entry :: queued) kept) (y : Cleaner)
    (hy : y = { taken x queued kept with cleaned := y.cleaned, panicked := y.panicked }) :
    y.resume.Holds queued kept := by
  rw [hy]
  exact ⟨rfl, rfl, h.tokens, rfl, (List.nodup_cons.mp h.nodup).2,
    fun e he => h.below e (List.mem_cons_of_mem _ he)⟩

end Cleaner.Holds

/-! ### Works that drain the queue -/

/-- Works that drop some receipts, in their order, and let the thread of a cleaner take all
    tokens, those that are queued and those that come. -/
inductive Draining (c : Nat) : Nat → List Registration → List Work → Prop
  | done : Draining c 0 [] []
  | drop {queued : Nat} {kept : List Registration} {works : List Work} (thread : ThreadId)
    (r : Registration) : Draining c (queued + 1) kept works →
    Draining c queued (r :: kept) (.dropRegistration thread r :: works)
  | receive {queued : Nat} {kept : List Registration} {works : List Work} :
    Draining c queued kept works → Draining c (queued + 1) kept (.receive c :: works)

/-- Such works are to drop all receipts first, and then to take all tokens. -/
theorem draining_all (c : Nat) (thread : ThreadId) (queued : Nat) (kept : List Registration) :
    Draining c queued kept (kept.map (.dropRegistration thread) ++
      List.replicate (queued + kept.length) (.receive c)) := by
  induction kept generalizing queued with
  | nil =>
    induction queued with
    | zero => exact .done
    | succ queued ih =>
      rw [List.length_nil, Nat.add_zero, List.replicate_succ]
      exact .receive ih
  | cons r kept ih =>
    have hlength : queued + (r :: kept).length = queued + 1 + kept.length := by
      rw [List.length_cons]
      omega
    rw [hlength]
    exact .drop thread r (ih (queued + 1))

end ForeignArena
