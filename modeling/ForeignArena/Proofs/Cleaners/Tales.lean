import ForeignArena.Proofs.Arenas.Placeless
import ForeignArena.Proofs.Cleaners.Accounts
import ForeignArena.Proofs.Cleaners.Draining

namespace ForeignArena

/-!
# What reclamation threads tell

A disposal that is run by the thread of a cleaner does what it does in a closing, and each failure
of it is told: by a report of its own, and by the counters.

* `Tale` — what the history tells of the work of a cleaner;
* `Visit.tale` — what a disposal that a closing comes to would tell;
* `World.Reclaims`, `Library.reclaims_visit` — a thread that takes it from its queue tells that;
* `Draining.performs` — and so for all of a queue that is drained.
-/

/-! ### Results -/

/-- The text of the panic, if a disposal failed by one. -/
def DisposalError.panic? : DisposalError → Option String
  | destroyPanicked _ _ panic => some panic
  | unexpectedRetainCount _ _ _ => none

/-- Whether a disposal came to its end without a panic. -/
def endedNormally : Except DisposalError Unit → Bool
  | .ok _ => true
  | .error e => e.panic?.isNone

/-! ### Tales -/

/-- The failure that was reported of a disposal run by a cleaner. -/
def Happening.failedBy? (c : Nat) : Happening → Option DisposalError
  | autoFailed _ b _ error => if b = c then some error else none
  | _ => none

/-- The text of the panic that was reported of an action of a cleaner. -/
def Happening.panickedBy? (c : Nat) : Happening → Option String
  | actionPanicked _ b _ panic => if b = c then some panic else none
  | _ => none

/-- What is told of the work of a cleaner: the routines that are called, the failures and the
    panics that are reported, and how its actions end. -/
@[ext]
structure Tale where
  calls : List Request := []
  failed : List DisposalError := []
  panics : List String := []
  ended : List (Nat × Bool) := []

namespace Tale

/-- One tale after another. -/
def append (t u : Tale) : Tale :=
  ⟨t.calls ++ u.calls, t.failed ++ u.failed, t.panics ++ u.panics, t.ended ++ u.ended⟩

instance : Append Tale := ⟨append⟩

@[simp] theorem calls_append (t u : Tale) : (t ++ u).calls = t.calls ++ u.calls := rfl

@[simp] theorem failed_append (t u : Tale) : (t ++ u).failed = t.failed ++ u.failed := rfl

@[simp] theorem panics_append (t u : Tale) : (t ++ u).panics = t.panics ++ u.panics := rfl

@[simp] theorem ended_append (t u : Tale) : (t ++ u).ended = t.ended ++ u.ended := rfl

theorem append_assoc (t u v : Tale) : t ++ u ++ v = t ++ (u ++ v) := by
  ext1 <;> simp

@[simp] theorem append_nil (t : Tale) : t ++ ({} : Tale) = t := by
  ext1 <;> simp

@[simp] theorem nil_append (t : Tale) : ({} : Tale) ++ t = t := by
  ext1 <;> simp

end Tale

/-- What one happening tells of a cleaner. -/
def Happening.tale (c : Nat) (e : Happening) : Tale :=
  ⟨e.call?.toList, (e.failedBy? c).toList, (e.panickedBy? c).toList, (e.endedBy? c).toList⟩

/-- What a history tells of a cleaner. -/
def History.tale (h : History) (c : Nat) : Tale :=
  ⟨h.calls, h.pick (Happening.failedBy? c), h.pick (Happening.panickedBy? c), h.ended c⟩

theorem History.tale_cons (e : Happening) (h : History) (c : Nat) :
    tale (e :: h) c = h.tale c ++ e.tale c := by
  ext1 <;> exact pick_cons e h _

/-- What a disposal that a closing comes to would tell of a cleaner that runs it. -/
def Visit.tale (thread : ThreadId) (token : Nat) (v : Visit) : Tale where
  calls := v.calls.map (·.on thread)
  failed := (failures [v.result]).filter (·.panic?.isNone)
  panics := (failures [v.result]).filterMap (·.panic?)
  ended := [(token, endedNormally v.result)]

/-- What some disposals would tell, one after the other. -/
def tales (thread : ThreadId) : List Nat → List Visit → Tale
  | token :: tokens, v :: visits => v.tale thread token ++ tales thread tokens visits
  | _, _ => {}

/-- All that they would tell. -/
theorem tales_eq (thread : ThreadId) {tokens : List Nat} {visits : List Visit}
    (hlength : tokens.length = visits.length) : tales thread tokens visits =
      { calls := (visits.flatMap (·.calls)).map (·.on thread)
        failed := (failures (visits.map (·.result))).filter (·.panic?.isNone)
        panics := (failures (visits.map (·.result))).filterMap (·.panic?)
        ended := tokens.zip (visits.map fun v => endedNormally v.result) } := by
  induction tokens generalizing visits with
  | nil =>
    obtain rfl : visits = [] := List.eq_nil_of_length_eq_zero hlength.symm
    rfl
  | cons token tokens ih =>
    obtain ⟨v, visits, rfl⟩ := List.exists_cons_of_length_eq_add_one hlength.symm
    have hcons : failures ((v :: visits).map (·.result)) =
        failures [v.result] ++ failures (visits.map (·.result)) := failures_append [v.result] _
    rw [tales, ih (Nat.succ.inj hlength), hcons]
    ext1 <;> simp [Visit.tale]

/-- The panics that are counted are those that a closing reports. -/
theorem countP_endedNormally (results : List (Except DisposalError Unit)) :
    results.countP (!endedNormally ·) = (failures results).countP (·.panic?.isSome) := by
  induction results with
  | nil => rfl
  | cons r rest ih =>
    have hcons : failures (r :: rest) = failures [r] ++ failures rest := failures_append [r] rest
    rw [hcons, List.countP_append, ← ih, List.countP_cons, Nat.add_comm]
    congr 1
    cases r with
    | ok _ => rfl
    | error e => cases e <;> rfl

/-- So are the actions that end normally, and all others. -/
theorem countP_tales (thread : ThreadId) {tokens : List Nat} {visits : List Visit}
    (hlength : tokens.length = visits.length) (p : Bool → Bool) :
    (tales thread tokens visits).ended.countP (fun e => p e.2) =
      (visits.map (·.result)).countP fun r => p (endedNormally r) := by
  rw [tales_eq thread hlength]
  calc (tokens.zip (visits.map fun v => endedNormally v.result)).countP (fun e => p e.2)
      = ((tokens.zip (visits.map fun v => endedNormally v.result)).map Prod.snd).countP p :=
        (List.countP_map ..).symm
    _ = (visits.map fun v => endedNormally v.result).countP p := by
        rw [List.map_snd_zip (by simp [hlength])]
    _ = (visits.map (·.result)).countP fun r => p (endedNormally r) := by
        rw [List.countP_map, List.countP_map]
        rfl

namespace World

variable {W : Type} (x : World W) (c : Nat)

/-- What the history of a world tells of a cleaner. -/
def tale : Tale := x.store.history.tale c

theorem tale_note (e : Happening) : (x.note e).tale c = x.tale c ++ e.tale c :=
  History.tale_cons e x.store.history c

@[simp] theorem tale_modifyCleaner (b : Nat) (f : Cleaner → Cleaner) :
    (x.modifyCleaner b f).tale c = x.tale c := rfl

end World

/-! ### What disposals leave alone -/

/-- Between two worlds some routines were called, and cleaners were left alone. -/
structure World.Spared {W : Type} (c : Nat) (x y : World W) (calls : List Request) : Prop where
  cleaners : y.store.cleaners = x.store.cleaners
  tale : y.tale c = x.tale c ++ { calls }

namespace World.Spared

variable {W : Type} {c : Nat} {x y z : World W} {calls others : List Request}

theorem refl (x : World W) : x.Spared c x [] := ⟨rfl, (Tale.append_nil _).symm⟩

theorem trans (h : x.Spared c y calls) (h' : y.Spared c z others) :
    x.Spared c z (calls ++ others) where
  cleaners := h'.cleaners.trans h.cleaners
  tale := by
    rw [h'.tale, h.tale, Tale.append_assoc]
    rfl

theorem note (h : x.Spared c y calls) (e : Happening) (he : e.tale c = { calls := others }) :
    x.Spared c (y.note e) (calls ++ others) :=
  h.trans ⟨rfl, by rw [World.tale_note, he]⟩

end World.Spared

namespace Library

variable {W : Type} (lib : Library W) (thread : ThreadId) (d : Disposal) (x : World W) (c : Nat)

/-- Routines touch foreign state only. -/
theorem store_call (r : Request) :
    ∃ tallies heaps, (lib.call x r).2.store = { x.store with tallies, heaps } := by
  unfold call
  split
  · split <;> exact ⟨_, _, rfl⟩
  · next type address =>
    have hafter := x.store.afterDestroy_eq type address
    unfold Store.afterDestroy at hafter
    split
    · next hknown =>
      rw [hknown] at hafter
      exact hafter
    · next hknown =>
      rw [hknown] at hafter
      exact hafter
    · exact ⟨_, _, rfl⟩
  · exact ⟨_, _, rfl⟩

theorem call_spared (r : Request) : x.Spared c (lib.call x r).2 [] := by
  obtain ⟨tallies, heaps, hstore⟩ := lib.store_call x r
  refine ⟨by rw [hstore], ?_⟩
  rw [World.tale, hstore, show ({ calls := [] } : Tale) = {} from rfl, Tale.append_nil]
  rfl

theorem destroy_spared :
    x.Spared c (lib.destroy thread d x).left (lib.destroy thread d x).calls := by
  have hcall := ((World.Spared.refl (c := c) x).note (.destroying thread d) rfl).trans
    (lib.call_spared (x.note (.destroying thread d)) c (.destroy thread d.type d.address))
  unfold destroy
  dsimp only
  split
  · have hquiet : (Happening.destroyed thread d).tale c = { calls := [] } := rfl
    exact hcall.note _ hquiet
  · exact hcall

theorem goOn_spared (count : Except Payload (Option UInt64)) :
    x.Spared c (lib.goOn thread d x count).left (lib.goOn thread d x count).calls := by
  unfold goOn
  split
  · split
    · exact .refl x
    · exact lib.destroy_spared thread d x c
  · exact lib.destroy_spared thread d x c
  · exact .refl x

/-- A disposal leaves cleaners alone, and what it tells is which routines it calls. -/
theorem dispose_spared :
    x.Spared c (lib.dispose thread d x).left (lib.dispose thread d x).calls := by
  have hbegin : x.Spared c (x.begin thread d) [] :=
    ⟨rfl, (History.tale_cons (.began thread d) x.store.history c).trans rfl⟩
  unfold dispose
  dsimp only
  split
  · have hcall := (hbegin.note (.counting thread d) rfl).trans
      (lib.call_spared ((x.begin thread d).note (.counting thread d)) c
        (.count thread d.type d.address))
    exact hcall.trans (lib.goOn_spared thread d _ c _)
  · exact hbegin.trans (lib.destroy_spared thread d _ c)

/-- A disposal that fails without a panic fails by its count. -/
theorem panic?_of_dispose {e : DisposalError}
    (h : (lib.dispose thread d x).result = .ok (.error e)) : e.panic? = none := by
  have hgoOn (y : World W) (count : Except Payload (Option UInt64))
      (h : (lib.goOn thread d y count).result = .ok (.error e)) : e.panic? = none := by
    unfold goOn at h
    split at h
    · split at h
      · cases h
        rfl
      · cases lib.destroy_eq_ok thread d y h
    · cases lib.destroy_eq_ok thread d y h
    · cases h
  unfold dispose at h
  dsimp only at h
  split at h
  · exact hgoOn _ _ h
  · cases lib.destroy_eq_ok thread d _ h

end Library

/-! ### What reclamation threads do -/

namespace World

variable {W : Type} {c token : Nat} {thread : ThreadId} {x y z : World W}

/-- A known cleaner that is changed. -/
theorem cleaner_modifyCleaner (hknown : c < x.store.cleaners.size) (f : Cleaner → Cleaner) :
    (x.modifyCleaner c f).store.cleaner c = f (x.store.cleaner c) := by
  rw [modifyCleaner, Store.cleaner_modifyCleaner _ _ _ _ hknown, if_pos rfl]

/-- How the cleaner counts a disposal that has ended. -/
theorem cleaner_handBack (thread : ThreadId) (token : Nat) (hknown : c < x.store.cleaners.size)
    (result : Except Payload (Except DisposalError Unit)) :
    (x.handBack thread c token result).store.cleaner c =
      (match result with
        | .ok _ => (x.store.cleaner c).finish
        | .error _ => (x.store.cleaner c).fail).resume := by
  have htwo (f g : Cleaner → Cleaner) (e : Happening) :
      (((x.modifyCleaner c f).note e).modifyCleaner c g).store.cleaner c =
        g (f (x.store.cleaner c)) := by
    rw [cleaner_modifyCleaner]
    · exact congrArg g (cleaner_modifyCleaner hknown f)
    · show c < (x.store.modifyCleaner c f).cleaners.size
      rw [Store.size_cleaners_modifyCleaner]
      exact hknown
  unfold handBack
  split
  · exact htwo _ _ (.actionEnded thread c token)
  · exact htwo _ _ (.actionEnded thread c token)
  · exact htwo _ _ (.actionPanicked thread c token _)

theorem Matches.handBack (h : x.Matches y) (result : Except Payload (Except DisposalError Unit)) :
    x.Matches (y.handBack thread c token result) := by
  unfold World.handBack
  split <;> exact ⟨h.foreign, h.flags⟩

/-- What is told at the end of a disposal that calls some routines. -/
theorem tale_handBack (d : Disposal) (result : Except Payload (Except DisposalError Unit))
    (hcount : ∀ e, result = .ok (.error e) → e.panic? = none) :
    (y.handBack thread c token result).tale c =
      y.tale c ++ (⟨[], d.contained result⟩ : Visit).tale thread token := by
  cases result with
  | ok result =>
    cases result with
    | ok _ =>
      rw [handBack, tale_modifyCleaner, tale_note, tale_modifyCleaner]
      simp [Happening.tale, Happening.call?, Happening.failedBy?, Happening.panickedBy?, Visit.tale,
        Disposal.contained, endedNormally, failures]
    | error e =>
      rw [handBack, tale_modifyCleaner, tale_note, tale_modifyCleaner, tale_note, Tale.append_assoc]
      congr 1
      ext1 <;> simp [Happening.tale, Happening.call?, Happening.failedBy?, Happening.panickedBy?,
        Visit.tale, Disposal.contained, endedNormally, failures, hcount e rfl]
  | error payload =>
    rw [handBack, tale_modifyCleaner, tale_note, tale_modifyCleaner]
    simp [Happening.tale, Happening.call?, Happening.failedBy?, Happening.panickedBy?, Visit.tale,
      Disposal.contained, endedNormally, failures, DisposalError.panic?]

/-- A disposal that is counted as cleaned has ended without a panic. -/
theorem endedNormally_contained (d : Disposal)
    (result : Except Payload (Except DisposalError Unit))
    (hcount : ∀ e, result = .ok (.error e) → e.panic? = none) :
    endedNormally (d.contained result) = result.isOk := by
  cases result with
  | ok result =>
    cases result with
    | ok _ => rfl
    | error e =>
      simp only [Disposal.contained, endedNormally, hcount e rfl]
      rfl
  | error payload => rfl

/-- Between two worlds a cleaner has done what a tale tells. -/
structure Reclaims (c : Nat) (x y : World W) (t : Tale) : Prop where
  tale : y.tale c = x.tale c ++ t
  threadName : (y.store.cleaner c).threadName = (x.store.cleaner c).threadName
  registered : (y.store.cleaner c).registered = (x.store.cleaner c).registered
  cleaned : (y.store.cleaner c).cleaned = (x.store.cleaner c).cleaned + t.ended.countP (·.2)
  panicked : (y.store.cleaner c).panicked = (x.store.cleaner c).panicked + t.ended.countP (!·.2)

theorem Reclaims.refl (x : World W) : x.Reclaims c x {} :=
  ⟨(Tale.append_nil _).symm, rfl, rfl, rfl, rfl⟩

theorem Reclaims.trans {t u : Tale} (h : x.Reclaims c y t) (h' : y.Reclaims c z u) :
    x.Reclaims c z (t ++ u) where
  tale := by rw [h'.tale, h.tale, Tale.append_assoc]
  threadName := h'.threadName.trans h.threadName
  registered := h'.registered.trans h.registered
  cleaned := by
    rw [h'.cleaned, h.cleaned, Tale.ended_append, List.countP_append, Nat.add_assoc]
  panicked := by
    rw [h'.panicked, h.panicked, Tale.ended_append, List.countP_append, Nat.add_assoc]

end World

namespace World

variable {W : Type} {c : Nat} {thread : ThreadId} {queued kept : List (Nat × Disposal)}
  {entry : Nat × Disposal} {y : World W}

/-- A thread that takes up a disposal tells nothing but what that does, and how it ends. -/
theorem reclaims_handBack (hholds : (y.store.cleaner c).Holds (entry :: queued) kept)
    {course : Course W (Except Payload (Except DisposalError Unit))}
    (hspared : (y.takeUp thread c entry.1 entry.2
      (Cleaner.Holds.taken (y.store.cleaner c) queued kept)).Spared c course.left course.calls)
    (hcount : ∀ e, course.result = .ok (.error e) → e.panic? = none) :
    ((course.left.handBack thread c entry.1 course.result).store.cleaner c).Holds queued kept ∧
      y.Reclaims c (course.left.handBack thread c entry.1 course.result)
        ({ calls := course.calls } ++
          (⟨[], entry.2.contained course.result⟩ : Visit).tale thread entry.1) := by
  have hknown := hholds.known
  have hleft : c < course.left.store.cleaners.size := by
    rw [hspared.cleaners]
    show c < (y.store.modifyCleaner c _).cleaners.size
    rw [Store.size_cleaners_modifyCleaner]
    exact hknown
  have htaken : course.left.store.cleaner c =
      Cleaner.Holds.taken (y.store.cleaner c) queued kept := by
    rw [Store.cleaner, hspared.cleaners]
    exact cleaner_modifyCleaner hknown fun _ => Cleaner.Holds.taken (y.store.cleaner c) queued kept
  have htale : course.left.tale c = y.tale c ++ { calls := course.calls } := by
    rw [hspared.tale, takeUp, tale_note, tale_note, tale_modifyCleaner]
    exact congrArg (· ++ _) ((Tale.append_nil _).trans (Tale.append_nil _))
  have hafter := cleaner_handBack thread entry.1 hleft course.result
  have hended := endedNormally_contained entry.2 course.result hcount
  rw [htaken] at hafter
  refine ⟨?_, ?_, ?_, ?_, ?_, ?_⟩
  · rw [hafter]
    cases course.result with
    | ok _ => exact hholds.resumed (Cleaner.Holds.taken (y.store.cleaner c) queued kept).finish rfl
    | error _ => exact hholds.resumed (Cleaner.Holds.taken (y.store.cleaner c) queued kept).fail rfl
  · rw [tale_handBack entry.2 course.result hcount, htale, Tale.append_assoc]
  · rw [hafter]
    cases course.result <;> rfl
  · rw [hafter]
    cases course.result <;> rfl
  · show _ = _ + [(entry.1, endedNormally (entry.2.contained course.result))].countP (·.2)
    rw [hafter, hended]
    cases course.result <;> rfl
  · show _ = _ + [(entry.1, endedNormally (entry.2.contained course.result))].countP (!·.2)
    rw [hafter, hended]
    cases course.result <;> rfl

end World

namespace Library

variable {W : Type} (lib : Library W) {c a : Nat} {queued kept : List (Nat × Disposal)}
  {entry : Nat × Disposal} {x y : World W}

/-- **A disposal by a reclamation thread does what it does in a closing**, and tells of it. -/
theorem reclaims_visit (owner thread : ThreadId) (hmatches : x.Matches y)
    (hlib : lib.Placeless entry.2.address entry.2.type)
    (hholds : (y.store.cleaner c).Holds (entry :: queued) kept) :
    let visited := lib.run owner entry.2 (x.note (.attempting owner a entry.2))
    let course := lib.dispose thread entry.2
      (y.takeUp thread c entry.1 entry.2 (Cleaner.Holds.taken (y.store.cleaner c) queued kept))
    let after := course.left.handBack thread c entry.1 course.result
    (visited.left.record owner a visited.result).Matches after ∧
      (after.store.cleaner c).Holds queued kept ∧
      y.Reclaims c after ((⟨visited.calls, visited.result⟩ : Visit).tale thread entry.1) := by
  have hdispose := lib.dispose_matches (d := entry.2) owner thread
    (x := x.note (.attempting owner a entry.2))
    (y := y.takeUp thread c entry.1 entry.2 (Cleaner.Holds.taken (y.store.cleaner c) queued kept))
    ⟨hmatches.foreign, hmatches.flags⟩ hlib
  obtain ⟨hwaits, hreclaims⟩ := World.reclaims_handBack hholds
    (lib.dispose_spared thread entry.2 _ c) fun e => lib.panic?_of_dispose thread entry.2 _
  refine ⟨(hdispose.left.record owner a _).handBack _, hwaits, ?_⟩
  refine cast (congrArg _ ?_) hreclaims
  rw [hdispose.calls, hdispose.result]
  ext1 <;> simp [Visit.tale, Library.run]

end Library

/-- A token that is dropped tells nothing. -/
theorem World.reclaims_drop {W : Type} {c : Nat} {queued kept : List (Nat × Disposal)}
    {entry : Nat × Disposal} {y : World W}
    (hholds : (y.store.cleaner c).Holds queued (entry :: kept)) :
    let dropped := (y.modifyCleaner c fun x => (x.spend entry.1).enqueue entry.1).note
      (.queued c entry.1)
    (dropped.store.cleaner c).Holds (queued ++ [entry]) kept ∧ y.Reclaims c dropped {} := by
  have hcleaner := cleaner_modifyCleaner hholds.known
    fun x => (x.spend entry.1).enqueue entry.1
  refine ⟨?_, ?_, ?_, ?_, ?_, ?_⟩
  · exact hcleaner ▸ hholds.drop
  · rw [tale_note, tale_modifyCleaner]
    rfl
  · exact (congrArg Cleaner.threadName hcleaner).trans rfl
  · exact (congrArg Cleaner.registered hcleaner).trans rfl
  · exact (congrArg Cleaner.cleaned hcleaner).trans rfl
  · exact (congrArg Cleaner.panicked hcleaner).trans rfl

open Library in
/-- **A queue that is drained** does what a closing does with the same disposals, and tells of
    it. -/
theorem Draining.performs {W : Type} (lib : Library W) {c count : Nat}
    {receipts : List Registration} {works : List Work} (h : Draining c count receipts works)
    {stack : List Frame} (hbase : Grounded stack) (owner : ThreadId) (a : Nat)
    {queued kept : List (Nat × Disposal)} (hcount : count = queued.length)
    (hreceipts : receipts = kept.map fun e => .tracked c e.1) (news : Option Outcome)
    {x y : World W} (hmatches : x.Matches y)
    (hholds : (y.store.cleaner c).Holds queued kept)
    (hlib : ∀ e ∈ queued ++ kept, lib.Placeless e.2.address e.2.type) :
    let swept := lib.sweep owner a ((queued ++ kept).map Prod.snd) x
    ∃ z news', lib.Performs works (waits news y stack) (waits news' z stack) ∧
      swept.2.Matches z ∧ (z.store.cleaner c).Holds [] [] ∧
      y.Reclaims c z (tales (.reclaimer c (y.store.cleaner c).threadName)
        ((queued ++ kept).map Prod.fst) swept.1) := by
  -- on the works; what is queued comes before what is still to be dropped, as in the closing
  induction h generalizing queued kept x y news with
  | done =>
    obtain rfl : queued = [] := List.eq_nil_of_length_eq_zero hcount.symm
    obtain rfl : kept = [] := List.map_eq_nil_iff.mp hreceipts.symm
    exact ⟨y, news, .nil _, hmatches, hholds, .refl y⟩
  | drop thread r _ ih =>
    cases kept with
    | nil => cases hreceipts
    | cons entry kept =>
      obtain ⟨rfl, hothers⟩ := List.cons.inj hreceipts
      obtain ⟨hdropped, hquiet⟩ := World.reclaims_drop hholds
      have htoken : (y.store.cleaner c).tokens.contains entry.1 := by
        rw [hholds.tokens]
        simp
      have hreceiving : (y.store.cleaner c).isReceiving := by
        rw [Cleaner.isReceiving, hholds.phase]
        rfl
      have hdrives := lib.drives_dropRegistration (s := (waits news y stack).1) (w := y.own) rfl
        hbase thread htoken hreceiving
      have happend : queued ++ entry :: kept = queued ++ [entry] ++ kept := by
        rw [List.append_assoc]
        rfl
      rw [happend] at hlib ⊢
      obtain ⟨z, news', hperforms, hsame, hempty, hreclaims⟩ := ih
        (by rw [List.length_append, hcount]; rfl) hothers (some (.ok .done))
        (y := (y.modifyCleaner c fun x => (x.spend entry.1).enqueue entry.1).note
          (.queued c entry.1))
        ⟨hmatches.foreign, hmatches.flags⟩ hdropped hlib
      refine ⟨z, news', .cons ⟨⟨_, rfl⟩, hdrives, ⟨_, rfl⟩⟩ hperforms, hsame, hempty, ?_⟩
      rw [hquiet.threadName] at hreclaims
      have hboth := hquiet.trans hreclaims
      rwa [Tale.nil_append] at hboth
  | receive _ ih =>
    obtain ⟨entry, queued, rfl⟩ := List.exists_cons_of_length_eq_add_one hcount.symm
    obtain ⟨received, hdequeue, hname, htake⟩ := hholds.receive
    have hdrives := lib.drives_receive (s := (waits news y stack).1) (w := y.own) rfl hbase hdequeue
      htake
    rw [hname] at hdrives
    obtain ⟨hvisited, hwaits, hvisit⟩ := lib.reclaims_visit (a := a) owner
      (.reclaimer c (y.store.cleaner c).threadName) hmatches (hlib entry (List.mem_cons_self ..))
      hholds
    obtain ⟨z, news', hperforms, hsame, hempty, hreclaims⟩ := ih (Nat.succ.inj hcount) hreceipts
      (some (.ok .done)) hvisited hwaits fun e he => hlib e (List.mem_cons_of_mem _ he)
    refine ⟨z, news', .cons ⟨⟨_, rfl⟩, hdrives, ⟨_, rfl⟩⟩ hperforms, hsame, hempty, ?_⟩
    rw [hvisit.threadName] at hreclaims
    exact hvisit.trans hreclaims

end ForeignArena
