import ForeignArena.Proofs.Calls

namespace ForeignArena

/-!
# Panics

How far a panic goes.  A disposal of a closing and an action of a cleaner contain theirs, by
dropping the payload.  That fails for one kind of payload only, which panics again when it
is dropped, and such a payload comes from nowhere but supplied code.  So where supplied code
throws none, no panic ever reaches a closing or a reclamation thread.

* `Frame.panics`, `Frame.bears` — the frames out of which panics come, and those that
  can take one;
* `Sheltered` — a stack where no panic comes to a frame that cannot take it;
* `System.Orderly` — a system on such a stack, with what holds of a panic on its way;
* `System.Orderly.perform` — each move keeps a system orderly;
* `Schedule.Tame`, `Schedule.Tame.orderly` — stretches of a run in which no payload panics as
  it is dropped.
-/

/-! ### Sheltered stacks -/

/-- Whether a panic can come out of a frame, as long as all payloads can be dropped. -/
def Frame.panics : Frame → Bool
  | awaiting _ | counted _ _ | destroying _ _ | reporting _ _ _ => true
  | _ => false

/-- Whether a panic can be handed to a frame: it passes the panic on to one that can take it
    too, or contains it. -/
def Frame.bears : Frame → Bool
  | sweeping _ _ _ _ _ | dropping _ _ | inline | reclaiming _ => false
  | _ => true

/-- Whether a panic can be handed to a stack. -/
def Bears : List Frame → Prop
  | [] => True
  | f :: _ => f.bears

/-- A frame out of which panics come lies over one that can take them. -/
def Sheltered : List Frame → Prop
  | [] => True
  | f :: rest => (f.panics → Bears rest) ∧ Sheltered rest

/-- A frame out of which no panic comes can lie over any other. -/
theorem Sheltered.cover {f : Frame} {rest : List Frame} (h : Sheltered rest)
    (hf : f.panics = false) : Sheltered (f :: rest) := by
  refine ⟨fun hpanics => ?_, h⟩
  rw [hf] at hpanics
  cases hpanics

theorem Grounded.bears {base : List Frame} (h : Grounded base) : Bears base := by
  obtain rfl | ⟨r, rest, rfl⟩ := h
  · trivial
  · rfl

/-- The payloads of routines that need no supplied code can be dropped. -/
theorem Store.dropped?_of_destroyKnown? {st after : Store} {type : ForeignType}
    {address : Address} {payload : Payload}
    (h : st.destroyKnown? type address = some (after, some payload)) : payload.dropped? = none := by
  unfold destroyKnown? at h
  split at h
  · cases h
  · split at h
    · cases h
      rfl
    · cases h
  all_goals cases h

namespace System

/-! ### Orderly systems -/

/-- A system on a sheltered stack.  A panic comes to a frame that cannot take it only if it
    was raised by dropping a payload.  If the system is tame, there is no such panic. -/
structure Orderly (tame : Prop) (s : System) : Prop where
  sheltered : Sheltered s.stack
  raised : ∀ payload, s.focus = .handing (.error payload) →
    Bears s.stack ∨ ∃ first : Payload, first.dropped? = some payload
  calm : tame → ∀ payload, s.focus = .handing (.error payload) →
    payload.dropped? = none ∧ Bears s.stack

variable {tame : Prop} {s : System}

/-- Whether a system is orderly has nothing to do with the store. -/
theorem Orderly.elsewhere (h : s.Orderly tame) (store : Store) :
    ({ s with store } : System).Orderly tame :=
  ⟨h.sheltered, h.raised, h.calm⟩

/-- While the client is in control, no panic is on its way. -/
theorem orderly_of_client {news : Option Outcome} (hfocus : s.focus = .client news)
    (h : Sheltered s.stack) : s.Orderly tame := by
  refine ⟨h, fun _ hhanding => ?_, fun _ _ hhanding => ?_⟩
  all_goals
    rw [hfocus] at hhanding
    cases hhanding

theorem reply_orderly (r : Reply) (h : Sheltered s.stack) : (s.reply r).Orderly tame :=
  ⟨h, fun _ hfocus => (by cases hfocus), fun _ _ hfocus => by cases hfocus⟩

theorem panic_orderly {payload : Payload} (h : Sheltered s.stack)
    (hraised : Bears s.stack ∨ ∃ first : Payload, first.dropped? = some payload)
    (hcalm : tame → payload.dropped? = none ∧ Bears s.stack) :
    (s.hand (.error payload)).Orderly tame := by
  refine ⟨h, fun other hfocus => ?_, fun htame other hfocus => ?_⟩
  · cases hfocus
    exact hraised
  · cases hfocus
    exact hcalm htame

theorem request_orderly (r : Request) (h : Sheltered s.stack) (hbears : Bears s.stack) :
    (s.request r).Orderly tame :=
  orderly_of_client rfl ⟨fun _ => hbears, h⟩

/-- A payload that can be dropped stops a panic. -/
theorem discard_orderly {payload : Payload} {next : System → System} (h : Sheltered s.stack)
    (hpayload : tame → payload.dropped? = none) (hnext : (next s).Orderly tame) :
    (s.discard payload next).Orderly tame := by
  unfold discard
  split
  -- dropping the payload panics: this is the only way past a guard
  · next again hagain =>
    refine panic_orderly h (.inr ⟨payload, hagain⟩) fun htame => ?_
    rw [hpayload htame] at hagain
    cases hagain
  · exact hnext

/-! ### The parts of the work -/

section

variable (thread : ThreadId) (d : Disposal) (a c token n : Nat) (failures : List DisposalError)

theorem askCount_orderly (type : ForeignType) (address : Address) (h : Sheltered s.stack)
    (hbears : Bears s.stack) : (s.askCount thread type address).Orderly tame := by
  unfold askCount
  split
  · exact reply_orderly _ h
  · exact request_orderly _ h hbears

theorem callDestroy_orderly (type : ForeignType) (address : Address) (h : Sheltered s.stack)
    (hbears : Bears s.stack) : (s.callDestroy thread type address).Orderly tame := by
  unfold callDestroy
  split
  · next store payload hknown =>
    exact panic_orderly h (.inl hbears) fun _ => ⟨Store.dropped?_of_destroyKnown? hknown, hbears⟩
  · exact reply_orderly _ h
  · exact request_orderly _ h hbears

theorem destroy_orderly (h : Sheltered s.stack) (hbears : Bears s.stack) :
    (s.destroy thread d).Orderly tame :=
  callDestroy_orderly thread d.type d.address ⟨fun _ => hbears, h⟩ rfl

theorem dispose_orderly (h : Sheltered s.stack) (hbears : Bears s.stack) :
    (s.dispose thread d).Orderly tame := by
  unfold dispose
  dsimp only
  split
  · exact askCount_orderly thread d.type d.address ⟨fun _ => hbears, h⟩ rfl
  · exact destroy_orderly thread d h hbears

/-- Nothing comes out of the guard of a disposal, so it can stand on any frame. -/
theorem disposeGuarded_orderly (h : Sheltered s.stack) :
    (s.disposeGuarded thread d).Orderly tame :=
  dispose_orderly thread d (h.cover rfl) rfl

theorem resumeCounted_orderly (count : Option UInt64) (h : Sheltered s.stack)
    (hbears : Bears s.stack) : (s.resumeCounted thread d count).Orderly tame := by
  unfold resumeCounted
  split
  · split
    · exact reply_orderly _ h
    · exact destroy_orderly thread d h hbears
  · exact destroy_orderly thread d h hbears

theorem contain_orderly {payload : Payload} (h : Sheltered s.stack)
    (hpayload : tame → payload.dropped? = none) : (s.contain d payload).Orderly tame := by
  unfold contain
  exact discard_orderly h hpayload (reply_orderly _ h)

theorem sweep_orderly (todo : List Disposal) (h : Sheltered s.stack) :
    (s.sweep thread a n failures todo).Orderly tame := by
  cases todo with
  | nil =>
    unfold sweep
    dsimp only
    split
    · exact reply_orderly _ h
    · exact reply_orderly _ h
  -- a disposal of a closing is guarded, so nothing comes out of it to the frame of the closing
  | cons d rest => exact disposeGuarded_orderly thread d (h.cover rfl)

theorem resumeSweep_orderly (todo : List Disposal) (result : Except DisposalError Unit)
    (h : Sheltered s.stack) : (s.resumeSweep thread a n failures todo result).Orderly tame := by
  cases result with
  | ok _ => exact sweep_orderly thread a n failures todo h
  | error e => exact sweep_orderly thread a n (failures ++ [e]) todo h

theorem close_orderly (h : Sheltered s.stack) : (s.close thread a).Orderly tame := by
  unfold close
  dsimp only
  split
  · exact reply_orderly _ h
  · split
    · exact sweep_orderly thread a _ [] _ h
    · exact reply_orderly _ h

theorem drop_orderly (h : Sheltered s.stack) : (s.drop thread a).Orderly tame := by
  unfold drop
  dsimp only
  split
  · exact reply_orderly _ h
  · split
    · exact reply_orderly _ h
    -- the frame of a drop takes no panic, but no panic comes out of it either
    · exact close_orderly thread a (h.cover rfl)

theorem runAction_orderly (h : Sheltered s.stack) : (s.runAction thread c token).Orderly tame := by
  unfold runAction
  split
  · exact reply_orderly _ h
  · next cleaner action _ =>
    -- the frame of a running action lets no panic out, and takes those of its disposal
    have hrunning : Sheltered (.running thread c token :: s.stack) := h.cover rfl
    cases action with
    | dispose d => exact dispose_orderly thread d ⟨fun _ => rfl, hrunning⟩ rfl
    | supplied tag => exact request_orderly _ hrunning rfl

theorem resumePanicked_orderly {payload : Payload} (h : Sheltered s.stack)
    (hpayload : tame → payload.dropped? = none) :
    (s.resumePanicked thread c token payload).Orderly tame := by
  unfold resumePanicked
  exact discard_orderly h hpayload (reply_orderly _ h)

theorem takeAction_orderly (h : Sheltered s.stack) :
    (s.takeAction thread c token).Orderly tame :=
  reply_orderly _ (h.cover rfl)

theorem clean_orderly (h : Sheltered s.stack) : (s.clean thread c token).Orderly tame := by
  unfold clean
  split
  · exact takeAction_orderly thread c token h
  · exact reply_orderly _ h

theorem dropToken_orderly (h : Sheltered s.stack) : (s.dropToken thread c token).Orderly tame := by
  unfold dropToken
  split
  · dsimp only
    split
    · exact reply_orderly _ h
    · exact takeAction_orderly thread c token (h.cover rfl)
  · exact reply_orderly _ h

theorem receive_orderly (h : Sheltered s.stack) : (s.receive c).Orderly tame := by
  unfold receive
  split
  · exact reply_orderly _ h
  · exact takeAction_orderly _ c _ (h.cover rfl)

end

theorem start_orderly (w : Work) (h : s.Orderly tame)
    (hbase : ∀ news, s.focus = .client news → Grounded s.stack) : (s.start w).Orderly tame := by
  unfold start
  split
  · exact h
  · next news hfocus =>
    have hstack := h.sheltered
    have hbears := (hbase news hfocus).bears
    cases w with
    | count thread type address => exact askCount_orderly thread type address hstack hbears
    | destroy thread type address => exact callDestroy_orderly thread type address hstack hbears
    | dispose thread d => exact dispose_orderly thread d hstack hbears
    | disposeGuarded thread d => exact disposeGuarded_orderly thread d hstack
    | close thread a => exact close_orderly thread a hstack
    | drop thread a => exact drop_orderly thread a hstack
    | clean thread c token => exact clean_orderly thread c token hstack
    | dropRegistration thread r =>
      cases r with
      | plain => exact reply_orderly _ hstack
      | tracked c token => exact dropToken_orderly thread c token hstack
    | receive c => exact receive_orderly c hstack

/-- Waiting work that gets an outcome goes on orderly. -/
theorem resume_orderly (f : Frame) (o : Outcome) (h : Sheltered (f :: s.stack))
    (hraised : ∀ payload, o = .error payload →
      f.bears ∨ ∃ first : Payload, first.dropped? = some payload)
    (hcalm : tame → ∀ payload, o = .error payload → payload.dropped? = none ∧ f.bears) :
    (s.resume f o).Orderly tame := by
  obtain ⟨hbears, hstack⟩ := h
  -- the frames that pass a panic on stand over frames that can take it
  have hpass (hpanics : ∀ payload, o = .error payload → f.bears → f.panics) :
      (s.hand o).Orderly tame := by
    cases o with
    | ok r => exact reply_orderly r hstack
    | error payload =>
      refine panic_orderly hstack ?_ fun htame => ?_
      · exact (hraised payload rfl).imp (fun hf => hbears (hpanics payload rfl hf)) id
      · obtain ⟨hdropped, hf⟩ := hcalm htame payload rfl
        exact ⟨hdropped, hbears (hpanics payload rfl hf)⟩
  unfold resume
  split
  · exact orderly_of_client rfl ⟨hbears, hstack⟩
  · next thread d count => exact resumeCounted_orderly thread d count hstack (hbears rfl)
  · exact reply_orderly _ hstack
  · next d payload => exact contain_orderly d hstack fun htame => (hcalm htame payload rfl).1
  · next thread a n failures todo result =>
    exact resumeSweep_orderly thread a n failures todo result hstack
  · exact reply_orderly _ hstack
  · exact reply_orderly _ hstack
  · exact reply_orderly _ hstack
  · exact reply_orderly _ hstack
  · next thread c token => exact runAction_orderly thread c token hstack
  · exact reply_orderly _ hstack
  · next thread c token payload =>
    exact resumePanicked_orderly thread c token hstack fun htame => (hcalm htame payload rfl).1
  · exact reply_orderly _ hstack
  · exact reply_orderly _ hstack
  · exact reply_orderly _ hstack
  · refine hpass fun payload ho hf => ?_
    subst ho
    cases f <;> grind [Frame.bears, Frame.panics]

/-- **Each move keeps a system orderly**, unless supplied code throws a payload that panics as
    it is dropped. -/
theorem Orderly.perform (h : s.Orderly tame)
    (hbase : ∀ news, s.focus = .client news → Grounded s.stack) {move : Move}
    (hmove : tame → ∀ payload, move = .answer (.error payload) → payload.dropped? = none) :
    (s.perform move).Orderly tame := by
  obtain ⟨store, stack, focus⟩ := s
  cases move with
  | start w =>
    unfold System.perform
    dsimp only
    split
    · exact start_orderly w h hbase
    · exact h
  | operate operation =>
    unfold System.perform
    dsimp only
    split
    · exact h
    · split
      · exact h.elsewhere _
      · exact h
  -- supplied code may throw any payload, to a frame that can take it
  | answer o =>
    show (System.answer _ o).Orderly tame
    unfold System.answer
    split
    · next r rest hfocus hstack =>
      dsimp only at hstack
      subst hstack
      obtain ⟨hbears, hrest⟩ := h.sheltered
      split
      · cases o with
        | ok reply => exact reply_orderly reply hrest
        | error payload =>
          exact panic_orderly hrest (.inl (hbears rfl)) fun htame =>
            ⟨hmove htame payload rfl, hbears rfl⟩
      · exact h
    · exact h
  | tick =>
    cases focus with
    | client news => cases stack <;> exact h
    | handing o =>
      cases stack with
      | nil => exact orderly_of_client rfl h.sheltered
      | cons f rest =>
        refine @resume_orderly tame ⟨store, rest, .handing o⟩ f o h.sheltered
          (fun payload ho => h.raised payload ?_) fun htame payload ho => h.calm htame payload ?_
        · rw [ho]
        · rw [ho]

end System

namespace Schedule

variable {σ : Schedule} {i n m : Nat}

/-! ### Tame stretches of a run -/

/-- From moment `n` to moment `m` supplied code on strand `i` throws no payload that panics as
    it is dropped. -/
def Tame (σ : Schedule) (i n m : Nat) : Prop :=
  ∀ l, n ≤ l → l < m → ∀ payload, σ l = .move i (.answer (.error payload)) →
    payload.dropped? = none

/-- A strand that is orderly stays so. -/
theorem orderly_stays {tame : Prop} (hnm : n ≤ m)
    (hmoves : tame → σ.Tame i n m)
    (h : ∀ strand, (σ.after n).strands[i]? = some strand →
      ((σ.after n).system strand).Orderly tame) (strand : Strand)
    (hstrand : (σ.after m).strands[i]? = some strand) :
    ((σ.after m).system strand).Orderly tame := by
  induction hnm generalizing strand with
  | refl => exact h strand hstrand
  | @step m hnm ih =>
    -- only a move of the strand itself changes more of it than its store
    have hbefore := ih fun htame l hnl hlm => hmoves htame l hnl (Nat.lt_succ_of_lt hlm)
    obtain rfl | hsame | ⟨before, move, hact, hbefore', rfl⟩ := Machine.strand_origin hstrand
    · exact System.orderly_of_client rfl trivial
    · exact (hbefore strand hsame).elsewhere _
    · refine ((hbefore before hbefore').perform (fun news hfocus => ?_) fun htame payload hpayload =>
        hmoves htame m hnm (Nat.lt_succ_self m) payload (by rw [hact, hpayload])).elsewhere _
      obtain ⟨stack, focus⟩ := before
      cases hfocus
      exact σ.grounded m i hbefore'

/-- In every run, no panic comes to a frame that cannot take it, unless it was raised by
    dropping a payload. -/
theorem orderly {strand : Strand} (h : (σ.after n).strands[i]? = some strand) :
    ((σ.after n).system strand).Orderly False :=
  orderly_stays (Nat.zero_le n) (fun htame => htame.elim) (fun _ hstrand => by cases hstrand) strand h

/-- From a moment on at which the client was in control, a strand stays orderly as long as it
    is tame. -/
theorem Tame.orderly (h : σ.Tame i n m) (hnm : n ≤ m) {base : List Frame} {news : Option Outcome}
    (hclient : (σ.after n).strands[i]? = some ⟨base, .client news⟩) {strand : Strand}
    (hstrand : (σ.after m).strands[i]? = some strand) :
    ((σ.after m).system strand).Orderly True := by
  refine orderly_stays hnm (fun _ => h) (fun before hbefore => ?_) strand hstrand
  rw [hclient] at hbefore
  cases hbefore
  exact System.orderly_of_client rfl (Schedule.orderly hclient).sheltered

theorem Tame.mono (h : σ.Tame i n m) {l k : Nat} (hnl : n ≤ l) (hkm : k ≤ m) : σ.Tame i l k :=
  fun x hlx hxk => h x (Nat.le_trans hnl hlx) (Nat.lt_of_lt_of_le hxk hkm)

end Schedule

end ForeignArena
