import ForeignArena.Machine.Basic

namespace ForeignArena

/-!
# Calls

A call is work that was started over some stack, its *base*.  As long as it is in
progress, the base lies untouched below the frames of the call, and when it ends, its
outcome comes to the base.  Each frame waits for replies of one kind and ends with
replies of one kind, and neighbours fit each other.  So a reply never comes to work that
waits for another kind, and only a panic passes a frame.

* `Reply.kind`, `Frame.takes`, `Frame.gives`, `Work.kind` — the kinds of replies;
* `System.Serves` — a call in progress: the base, and the kind of reply it waits for;
* `System.start_serves` — starting work begins such a call;
* `System.perform_serves` — and each move keeps it in progress, unless its outcome has
  come to the base;
* `Strand.within` — the same as seen from outside.
-/

/-! ### Kinds of replies -/

/-- What a reply is about. -/
inductive ReplyKind where
  | done
  | count
  | disposed
  | closed
  | cleaned
  deriving DecidableEq

/-- The kind of a reply. -/
def Reply.kind : Reply → ReplyKind
  | done => .done
  | count _ => .count
  | disposed _ => .disposed
  | closed _ => .closed
  | cleaned _ => .cleaned

/-- The kind of the replies of supplied code. -/
def Request.kind : Request → ReplyKind
  | count _ _ _ => .count
  | destroy _ _ _ => .done
  | action _ _ => .done

/-- Whether a frame waits for replies of a kind.  Supplied code can start any work. -/
def Frame.takes : Frame → ReplyKind → Bool
  | awaiting _, _ => true
  | taking _ _ _, _ => true
  | counted _ _, kind => kind = .count
  | destroying _ _, kind => kind = .done
  | guarded _, kind => kind = .disposed
  | sweeping _ _ _ _ _, kind => kind = .disposed
  | dropping _ _, kind => kind = .closed
  | reporting _ _ _, kind => kind = .disposed
  | running _ _ _, kind => kind = .done
  | inline, kind => kind = .cleaned
  | reclaiming _, kind => kind = .cleaned

/-- The kind of the replies with which a frame ends. -/
def Frame.gives : Frame → ReplyKind
  | awaiting r => r.kind
  | counted _ _ | destroying _ _ | guarded _ => .disposed
  | sweeping _ _ _ _ _ => .closed
  | dropping _ _ | reporting _ _ _ | inline | reclaiming _ => .done
  | taking _ _ _ | running _ _ _ => .cleaned

/-- The kind of the replies of work. -/
def Work.kind : Work → ReplyKind
  | count _ _ _ => .count
  | destroy _ _ _ => .done
  | dispose _ _ | disposeGuarded _ _ => .disposed
  | close _ _ => .closed
  | drop _ _ => .done
  | clean _ _ _ => .cleaned
  | dropRegistration _ _ => .done
  | receive _ => .done

/-- An outcome is a panic, or a reply of a kind. -/
def Outcome.Is (kind : ReplyKind) (o : Outcome) : Prop :=
  ∀ r, o = .ok r → r.kind = kind

/-- A reply of the first kind, handed to the top of some frames, comes out of them as a
    reply of the second. -/
def Fits (kind : ReplyKind) : List Frame → ReplyKind → Prop
  | [], last => kind = last
  | f :: rest, last => f.takes kind ∧ Fits f.gives rest last

/-! ### Calls in progress -/

namespace System

/-- A call over a base is in progress: it will end with a reply of a kind, or a panic. -/
inductive Serves (kind : ReplyKind) (base : List Frame) (s : System) : Prop where
  | handing (above : List Frame) (o : Outcome) (first : ReplyKind) :
    s.stack = above ++ base → s.focus = .handing o → o.Is first → Fits first above kind →
    Serves kind base s
  | client (r : Request) (above : List Frame) (news : Option Outcome) :
    s.stack = .awaiting r :: (above ++ base) → s.focus = .client news →
    Fits r.kind above kind → Serves kind base s

variable {kind : ReplyKind} {base : List Frame} {s : System}

/-- A call that serves a frame is part of the call that the frame belongs to. -/
theorem Serves.under (first : ReplyKind) (above : List Frame) (h : s.Serves first (above ++ base))
    (hfits : Fits first above kind) : s.Serves kind base := by
  have hfits_append (inner : List Frame) (start : ReplyKind) (hinner : Fits start inner first) :
      Fits start (inner ++ above) kind := by
    -- on the inner frames, for whatever kind they start with
    induction inner generalizing start with
    | nil =>
      have hstart : start = first := hinner
      rw [hstart]
      exact hfits
    | cons f rest ih => exact ⟨hinner.1, ih f.gives hinner.2⟩
  cases h with
  | handing inner o start hstack hfocus ho hinner =>
    refine .handing (inner ++ above) o start ?_ hfocus ho (hfits_append inner start hinner)
    rw [hstack, List.append_assoc]
  | client r inner news hstack hfocus hinner =>
    refine .client r (inner ++ above) news ?_ hfocus (hfits_append inner r.kind hinner)
    rw [hstack, List.append_assoc]

/-- The call of a frame goes on with a call that serves the frame. -/
theorem Serves.frame (f : Frame) {first : ReplyKind} (h : s.Serves first (f :: base))
    (htakes : f.takes first) (hgives : f.gives = kind) : s.Serves kind base :=
  .under first [f] h ⟨htakes, hgives⟩

/-- Whether a call is in progress has nothing to do with the store. -/
theorem Serves.elsewhere (h : s.Serves kind base) (store : Store) :
    ({ s with store } : System).Serves kind base := by
  cases h with
  | handing above o first hstack hfocus ho hfits =>
    exact .handing above o first hstack hfocus ho hfits
  | client r above news hstack hfocus hfits => exact .client r above news hstack hfocus hfits

theorem hand_serves {o : Outcome} (ho : o.Is kind) (hbase : s.stack = base) :
    (s.hand o).Serves kind base :=
  .handing [] o kind hbase rfl ho rfl

theorem reply_serves {r : Reply} (hr : r.kind = kind) (hbase : s.stack = base) :
    (s.reply r).Serves kind base :=
  hand_serves (by rintro _ ⟨⟩; exact hr) hbase

theorem panic_serves {payload : Payload} (hbase : s.stack = base) :
    (s.hand (.error payload)).Serves kind base :=
  hand_serves (by rintro _ ⟨⟩) hbase

theorem request_serves {r : Request} (hr : r.kind = kind) (hbase : s.stack = base) :
    (s.request r).Serves kind base :=
  .client r [] none (by rw [← hbase]; rfl) rfl hr

theorem discard_serves {payload : Payload} {next : System → System}
    (h : (next s).Serves kind base) (hbase : s.stack = base) :
    (s.discard payload next).Serves kind base := by
  unfold discard
  split
  · exact panic_serves hbase
  · exact h

/-! ### The parts of the work -/

section

variable (thread : ThreadId) (d : Disposal) (a c token n : Nat) (failures : List DisposalError)

theorem askCount_serves (type : ForeignType) (address : Address) (hbase : s.stack = base) :
    (s.askCount thread type address).Serves .count base := by
  unfold askCount
  split
  · exact reply_serves rfl hbase
  · exact request_serves rfl hbase

theorem callDestroy_serves (type : ForeignType) (address : Address) (hbase : s.stack = base) :
    (s.callDestroy thread type address).Serves .done base := by
  unfold callDestroy
  split
  · exact panic_serves hbase
  · exact reply_serves rfl hbase
  · exact request_serves rfl hbase

theorem destroy_serves (hbase : s.stack = base) :
    (s.destroy thread d).Serves .disposed base :=
  .frame (.destroying thread d)
    (callDestroy_serves thread d.type d.address (congrArg (_ :: ·) hbase)) rfl rfl

theorem dispose_serves (hbase : s.stack = base) : (s.dispose thread d).Serves .disposed base := by
  unfold dispose
  dsimp only
  split
  · exact .frame (.counted thread d)
      (askCount_serves thread d.type d.address (congrArg (_ :: ·) hbase)) rfl rfl
  · exact destroy_serves thread d hbase

theorem disposeGuarded_serves (hbase : s.stack = base) :
    (s.disposeGuarded thread d).Serves .disposed base :=
  .frame (.guarded d) (dispose_serves thread d (congrArg (_ :: ·) hbase)) rfl rfl

theorem resumeCounted_serves (count : Option UInt64) (hbase : s.stack = base) :
    (s.resumeCounted thread d count).Serves .disposed base := by
  unfold resumeCounted
  split
  · split
    · exact reply_serves rfl hbase
    · exact destroy_serves thread d hbase
  · exact destroy_serves thread d hbase

theorem contain_serves (payload : Payload) (hbase : s.stack = base) :
    (s.contain d payload).Serves .disposed base := by
  unfold contain
  exact discard_serves (reply_serves rfl hbase) hbase

/-- While a closing runs one of its disposals, its frame waits for the outcome. -/
theorem sweep_cons_serves (rest : List Disposal) (hbase : s.stack = base) :
    (s.sweep thread a n failures (d :: rest)).Serves .disposed
      (.sweeping thread a n failures rest :: base) :=
  disposeGuarded_serves thread d (congrArg (_ :: ·) hbase)

theorem sweep_serves (todo : List Disposal) (hbase : s.stack = base) :
    (s.sweep thread a n failures todo).Serves .closed base := by
  cases todo with
  | nil =>
    unfold sweep
    dsimp only
    split
    · exact reply_serves rfl hbase
    · exact reply_serves rfl hbase
  | cons d rest =>
    exact .frame (.sweeping thread a n failures rest)
      (sweep_cons_serves thread d a n failures rest hbase) rfl rfl

theorem resumeSweep_serves (todo : List Disposal) (result : Except DisposalError Unit)
    (hbase : s.stack = base) :
    (s.resumeSweep thread a n failures todo result).Serves .closed base := by
  cases result with
  | ok _ => exact sweep_serves thread a n failures todo hbase
  | error e => exact sweep_serves thread a n (failures ++ [e]) todo hbase

theorem close_serves (hbase : s.stack = base) : (s.close thread a).Serves .closed base := by
  unfold close
  dsimp only
  split
  · exact reply_serves rfl hbase
  · split
    · exact sweep_serves thread a _ [] _ hbase
    · exact reply_serves rfl hbase

theorem drop_serves (hbase : s.stack = base) : (s.drop thread a).Serves .done base := by
  unfold drop
  dsimp only
  split
  · exact reply_serves rfl hbase
  · split
    · exact reply_serves rfl hbase
    · exact .frame (.dropping thread a) (close_serves thread a (congrArg (_ :: ·) hbase)) rfl rfl

theorem runAction_serves (hbase : s.stack = base) :
    (s.runAction thread c token).Serves .cleaned base := by
  unfold runAction
  split
  · exact reply_serves rfl hbase
  · next cleaner action _ =>
    refine .under .done [.running thread c token] ?_ ⟨rfl, rfl⟩
    cases action with
    | dispose d =>
      exact .frame (.reporting thread c token)
        (dispose_serves thread d (congrArg (_ :: _ :: ·) hbase)) rfl rfl
    | supplied tag => exact request_serves rfl (congrArg (_ :: ·) hbase)

theorem resumePanicked_serves (payload : Payload) (hbase : s.stack = base) :
    (s.resumePanicked thread c token payload).Serves .cleaned base := by
  unfold resumePanicked
  exact discard_serves (reply_serves rfl hbase) hbase

theorem takeAction_serves (hbase : s.stack = base) :
    (s.takeAction thread c token).Serves .cleaned base :=
  .frame (.taking thread c token) (reply_serves rfl (congrArg (_ :: ·) hbase)) rfl rfl

theorem clean_serves (hbase : s.stack = base) :
    (s.clean thread c token).Serves .cleaned base := by
  unfold clean
  split
  · exact takeAction_serves thread c token hbase
  · exact reply_serves rfl hbase

theorem dropToken_serves (hbase : s.stack = base) :
    (s.dropToken thread c token).Serves .done base := by
  unfold dropToken
  split
  · dsimp only
    split
    · exact reply_serves rfl hbase
    · exact .frame .inline (takeAction_serves thread c token (congrArg (_ :: ·) hbase)) rfl rfl
  · exact reply_serves rfl hbase

theorem receive_serves (hbase : s.stack = base) : (s.receive c).Serves .done base := by
  unfold receive
  split
  · exact reply_serves rfl hbase
  · exact .frame (.reclaiming c) (takeAction_serves _ c _ (congrArg (_ :: ·) hbase)) rfl rfl

end

/-- **Starting work begins a call** over the stack of the moment. -/
theorem start_serves (w : Work) {news : Option Outcome} (hfocus : s.focus = .client news)
    (hbase : s.stack = base) : (s.start w).Serves w.kind base := by
  unfold start
  rw [hfocus]
  cases w with
  | count thread type address => exact askCount_serves thread type address hbase
  | destroy thread type address => exact callDestroy_serves thread type address hbase
  | dispose thread d => exact dispose_serves thread d hbase
  | disposeGuarded thread d => exact disposeGuarded_serves thread d hbase
  | close thread a => exact close_serves thread a hbase
  | drop thread a => exact drop_serves thread a hbase
  | clean thread c token => exact clean_serves thread c token hbase
  | dropRegistration thread r =>
    cases r with
    | plain => exact reply_serves rfl hbase
    | tracked c token => exact dropToken_serves thread c token hbase
  | receive c => exact receive_serves c hbase

/-- Waiting work that gets an outcome of the kind it waits for goes on with its call. -/
theorem resume_serves (f : Frame) (o : Outcome) (ho : ∀ r, o = .ok r → f.takes r.kind)
    (hbase : s.stack = base) : (s.resume f o).Serves f.gives base := by
  -- A frame either passes a panic on or makes a reply of it.  Of the replies it meets those of
  -- one kind only, so the cases in which it would ignore one do not come up.
  cases f with
  | awaiting r => exact .client r [] (some o) (congrArg (_ :: ·) hbase) rfl rfl
  | taking thread c token => exact runAction_serves thread c token hbase
  | counted thread d =>
    cases o with
    | error payload => exact panic_serves hbase
    | ok r =>
      have hr := ho r rfl
      cases r with
      | count count => exact resumeCounted_serves thread d count hbase
      | _ => simp [Frame.takes, Reply.kind] at hr
  | destroying thread d =>
    cases o with
    | error payload => exact panic_serves hbase
    | ok r => exact reply_serves rfl hbase
  | guarded d =>
    cases o with
    | error payload => exact contain_serves d payload hbase
    | ok r =>
      have hr : r.kind = .disposed := by simpa [Frame.takes] using ho r rfl
      exact reply_serves hr hbase
  | sweeping thread a n failures todo =>
    cases o with
    | error payload => exact panic_serves hbase
    | ok r =>
      have hr := ho r rfl
      cases r with
      | disposed result => exact resumeSweep_serves thread a n failures todo result hbase
      | _ => simp [Frame.takes, Reply.kind] at hr
  | dropping thread a =>
    cases o with
    | error payload => exact panic_serves hbase
    | ok r =>
      have hr := ho r rfl
      cases r with
      | closed result => cases result <;> exact reply_serves rfl hbase
      | _ => simp [Frame.takes, Reply.kind] at hr
  | reporting thread c token =>
    cases o with
    | error payload => exact panic_serves hbase
    | ok r =>
      have hr := ho r rfl
      cases r with
      | disposed result => cases result <;> exact reply_serves rfl hbase
      | _ => simp [Frame.takes, Reply.kind] at hr
  | running thread c token =>
    cases o with
    | error payload => exact resumePanicked_serves thread c token payload hbase
    | ok r => exact reply_serves rfl hbase
  | inline =>
    cases o with
    | error payload => exact panic_serves hbase
    | ok r => exact reply_serves rfl hbase
  | reclaiming c =>
    cases o with
    | error payload => exact reply_serves rfl hbase
    | ok r => exact reply_serves rfl hbase

/-- While an outcome is on its way, a strand can do nothing but go on. -/
theorem perform_handing {o : Outcome} (hfocus : s.focus = .handing o) (move : Move)
    (hmove : move ≠ .tick) : s.perform move = s := by
  obtain ⟨store, stack, focus⟩ := s
  dsimp only at hfocus
  subst hfocus
  cases move with
  | start w => exact ite_self _
  | answer outcome => rfl
  | operate operation => rfl
  | tick => exact absurd rfl hmove

/-- The outcome of a call over a base has come out of its last frame. -/
def Ends (s : System) (kind : ReplyKind) (base : List Frame) : Prop :=
  s.stack = base ∧ ∃ o : Outcome, s.focus = .handing o ∧ o.Is kind

/-- **A call stays in progress** until its outcome has come out of its last frame: up to
    then no move touches the base. -/
theorem perform_serves (move : Move) (h : s.Serves kind base) :
    s.Ends kind base ∨ (s.perform move).Serves kind base := by
  obtain ⟨above, o, first, hstack, hfocus, ho, hfits⟩ | ⟨r, above, news, hstack, hfocus, hfits⟩ := h
  · cases above with
    | nil =>
      -- no frame of the call is left
      left
      refine ⟨hstack, o, hfocus, ?_⟩
      rw [← show first = kind from hfits]
      exact ho
    | cons f rest =>
      right
      by_cases hmove : move = .tick
      · -- its top frame takes the outcome, and becomes a call that serves the frames below
        subst hmove
        have htick : s.perform .tick = ({ s with stack := rest ++ base } : System).resume f o := by
          simp only [perform, tick, hfocus, hstack, List.cons_append]
        rw [htick]
        refine .under f.gives rest (resume_serves f o ?_ rfl) hfits.2
        intro r hr
        rw [ho r hr]
        exact hfits.1
      · rw [perform_handing hfocus move hmove]
        exact .handing (f :: rest) o first hstack hfocus ho hfits
  · right
    have hserves : s.Serves kind base := .client r above news hstack hfocus hfits
    -- supplied code is in control: what it starts is part of the call
    cases move with
    | start w =>
      unfold perform
      dsimp only
      split
      · exact .under w.kind (.awaiting r :: above) (start_serves w hfocus hstack) ⟨rfl, hfits⟩
      · exact hserves
    | answer outcome =>
      unfold perform answer
      rw [hfocus, hstack]
      dsimp only
      split
      · next hadmits =>
        refine .handing above outcome r.kind rfl rfl ?_ hfits
        rintro reply rfl
        cases r <;> cases reply <;> first | rfl | cases hadmits
      · exact hserves
    | operate operation =>
      unfold perform
      rw [hfocus]
      dsimp only
      split
      · exact hserves.elsewhere _
      · exact hserves
    | tick =>
      unfold perform tick
      rw [hfocus]
      exact hserves

end System

/-! ### Calls of a strand -/

/-- A call that a strand started over a base is in progress. -/
def Strand.within (strand : Strand) (base : List Frame) : Prop :=
  ∃ above, strand.stack = above ++ base ∧
    (above = [] → ∃ o, strand.focus = .handing o)

/-- A call that a strand started over a base has just ended with an outcome. -/
def Strand.returned (strand : Strand) (base : List Frame) (o : Outcome) : Prop :=
  strand.stack = base ∧ strand.focus = .client (some o)

/-- A client can start work over a stack: it is empty, or supplied code runs on it. -/
def Grounded (base : List Frame) : Prop :=
  base = [] ∨ ∃ r rest, base = .awaiting r :: rest

theorem System.Serves.within {kind : ReplyKind} {base : List Frame} {s : System}
    (h : s.Serves kind base) : Strand.within ⟨s.stack, s.focus⟩ base := by
  obtain ⟨above, o, first, hstack, hfocus, -, -⟩ | ⟨r, above, news, hstack, hfocus, -⟩ := h
  · exact ⟨above, hstack, fun _ => ⟨o, hfocus⟩⟩
  · exact ⟨.awaiting r :: above, hstack, fun habove => by cases habove⟩

/-- An outcome that is handed to the stack of a client becomes its news. -/
theorem System.tick_grounded {store : Store} {base : List Frame} {o : Outcome}
    (hbase : Grounded base) : System.perform ⟨store, base, .handing o⟩ .tick =
      ⟨store, base, .client (some o)⟩ := by
  obtain rfl | ⟨r, rest, rfl⟩ := hbase <;> rfl

theorem System.tick_returned {s : System} {base : List Frame} {o : Outcome}
    (hstack : s.stack = base) (hfocus : s.focus = .handing o) (hbase : Grounded base) :
    Strand.returned ⟨(s.perform .tick).stack, (s.perform .tick).focus⟩ base o ∧
      (s.perform .tick).store = s.store := by
  obtain ⟨store, stack, focus⟩ := s
  dsimp only at hstack hfocus
  subst hstack hfocus
  rw [tick_grounded hbase]
  exact ⟨⟨rfl, rfl⟩, rfl⟩

/-! ### Where clients are in control -/

/-- All the work that waits belongs to a call over the empty stack. -/
def System.Calm (s : System) : Prop := s.stack = [] ∨ ∃ kind, s.Serves kind []

theorem System.Calm.elsewhere {s : System} (h : s.Calm) (store : Store) :
    ({ s with store } : System).Calm :=
  h.imp id fun ⟨kind, hserves⟩ => ⟨kind, hserves.elsewhere store⟩

theorem System.Calm.perform {s : System} (h : s.Calm) (move : Move) : (s.perform move).Calm := by
  obtain hstack | ⟨kind, hserves⟩ := h
  · -- nothing waits: whatever is started has the empty stack as its base
    by_cases hfocus : ∃ o, s.focus = .handing o ∧ move ≠ .tick
    · obtain ⟨o, hfocus, hmove⟩ := hfocus
      rw [perform_handing hfocus move hmove]
      exact .inl hstack
    · obtain ⟨store, stack, focus⟩ := s
      dsimp only at hstack hfocus
      subst hstack
      cases move with
      | start w =>
        cases focus with
        | handing o => exact absurd ⟨o, rfl, by simp⟩ hfocus
        | client news =>
          unfold System.perform
          dsimp only
          split
          · exact .inr ⟨w.kind, start_serves w rfl rfl⟩
          · exact .inl rfl
      | answer o => cases focus <;> exact .inl rfl
      | tick => cases focus <;> exact .inl rfl
      | operate operation =>
        unfold System.perform
        dsimp only
        split
        · exact .inl rfl
        · split <;> exact .inl rfl
  · obtain hends | hserves := perform_serves move hserves
    · -- the call is at its end, so the stack is empty again
      obtain ⟨hstack, o, hfocus, -⟩ := hends
      by_cases hmove : move = .tick
      · subst hmove
        left
        simp [System.perform, tick, hfocus, hstack, yield]
      · rw [perform_handing hfocus move hmove]
        exact .inl hstack
    · exact .inr ⟨kind, hserves⟩

theorem System.Calm.grounded {s : System} (h : s.Calm) {news : Option Outcome}
    (hfocus : s.focus = .client news) : Grounded s.stack := by
  obtain hstack | ⟨kind, hserves⟩ := h
  · exact .inl hstack
  · obtain ⟨above, o, first, -, hhanding, -, -⟩ | ⟨r, above, -, hstack, -, -⟩ := hserves
    · rw [hfocus] at hhanding
      cases hhanding
    · exact .inr ⟨r, above ++ [], hstack⟩

/-- **A client is in control only where it can be**: on an empty stack, or in supplied
    code. -/
theorem Schedule.grounded (σ : Schedule) (n i : Nat) {stack : List Frame} {news : Option Outcome}
    (h : (σ.after n).strands[i]? = some ⟨stack, .client news⟩) : Grounded stack := by
  have hcalm (n : Nat) (strand : Strand) (h : (σ.after n).strands[i]? = some strand) :
      ((σ.after n).system strand).Calm := by
    induction n generalizing strand with
    | zero => cases h
    | succ n ih =>
      obtain rfl | hbefore | ⟨before, move, -, hbefore, rfl⟩ := Machine.strand_origin h
      · exact .inl rfl
      · exact (ih strand hbefore).elsewhere _
      · exact ((ih before hbefore).perform move).elsewhere _
  exact (hcalm n _ h).grounded rfl

namespace Schedule

/-! ### Calls in a run -/

/-- At moment `n` a call that strand `i` has started over a base is in progress. -/
def Within (σ : Schedule) (i n : Nat) (base : List Frame) : Prop :=
  ∃ strand, (σ.after n).strands[i]? = some strand ∧ strand.within base

/-- At moment `n` strand `i` has just been given the outcome of a call over a base. -/
def Returns (σ : Schedule) (i n : Nat) (base : List Frame) (o : Outcome) : Prop :=
  ∃ strand, (σ.after n).strands[i]? = some strand ∧ strand.returned base o

/-- A strand has made the move of the moment, or was left alone. -/
theorem strand_succ {σ : Schedule} {i n : Nat} {strand : Strand}
    (h : (σ.after n).strands[i]? = some strand) :
    (∃ move after, σ n = .move i move ∧ (σ.after (n + 1)).strands[i]? = some after ∧
      after = ⟨(((σ.after n).system strand).perform move).stack,
        (((σ.after n).system strand).perform move).focus⟩ ∧
      (σ.after (n + 1)).system after = ((σ.after n).system strand).perform move) ∨
    (σ.after (n + 1)).strands[i]? = some strand := by
  by_cases hact : ∃ move, σ n = .move i move
  · obtain ⟨move, hact⟩ := hact
    left
    refine ⟨move, _, hact, ?_, rfl, ?_⟩
    · rw [after, hact, Machine.strand_perform h]
    · rw [after, hact, Machine.system_perform h]
  · right
    exact Machine.strand_perform_of_ne h fun move hmove => hact ⟨move, hmove⟩

/-- A call that has returned is not in progress. -/
theorem Returns.not_within {σ : Schedule} {i n : Nat} {base : List Frame} {o : Outcome}
    (h : σ.Returns i n base o) : ¬σ.Within i n base := by
  rintro ⟨strand, hstrand, above, hstack, hfocus⟩
  obtain ⟨_, hsame, hbase, hclient⟩ := h
  rw [hstrand] at hsame
  cases hsame
  rw [hbase] at hstack
  obtain ⟨p, hhanding⟩ := hfocus (List.self_eq_append_left.mp hstack)
  rw [hclient] at hhanding
  cases hhanding

/-- A call returns one outcome. -/
theorem Returns.unique {σ : Schedule} {i n : Nat} {base : List Frame} {o p : Outcome}
    (h : σ.Returns i n base o) (h' : σ.Returns i n base p) : o = p := by
  obtain ⟨strand, hstrand, -, hfocus⟩ := h
  obtain ⟨_, hsame, -, hfocus'⟩ := h'
  rw [hstrand] at hsame
  cases hsame
  rw [hfocus] at hfocus'
  cases hfocus'
  rfl

/-- **Following a call to its end.**  If a call goes through stages, each of which leads to
    another one or to the end with a good outcome, then it ends with a good outcome, if it
    ends at all. -/
theorem returns_of_stages {σ : Schedule} {n m i : Nat} {base : List Frame} {o : Outcome}
    (Stage : Nat → Prop) (Good : Nat → Outcome → Prop) (hstart : Stage (n + 1))
    (hwithin : ∀ l, Stage l → σ.Within i l base)
    (hnext : ∀ l, n < l → Stage l → Stage (l + 1) ∨ ∃ o, σ.Returns i (l + 1) base o ∧ Good (l + 1) o)
    (hnm : n < m) (hfirst : ∀ l, n < l → l < m → σ.Within i l base)
    (hreturns : σ.Returns i m base o) : Good m o := by
  -- up to its end the call is in some stage, as it is still in progress
  have hstages (l : Nat) (hl : n < l) (hlm : l < m) : Stage l := by
    induction hl with
    | refl => exact hstart
    | @step l hl ih =>
      obtain hstage | ⟨p, hreturned, -⟩ := hnext l hl (ih (Nat.lt_of_succ_lt hlm))
      · exact hstage
      · exact absurd (hfirst (l + 1) (Nat.lt_succ_of_lt hl) hlm) hreturned.not_within
  obtain ⟨l, rfl⟩ : ∃ l, m = l + 1 := ⟨m - 1, by omega⟩
  obtain rfl | hl : l = n ∨ n < l := by omega
  · exact absurd (hwithin _ hstart) hreturns.not_within
  · -- the last stage leads to the end, since no other one comes after it
    obtain hstage | ⟨p, hreturned, hgood⟩ := hnext l hl (hstages l hl (Nat.lt_succ_self l))
    · exact absurd (hwithin _ hstage) hreturns.not_within
    · rw [hreturns.unique hreturned]
      exact hgood

end Schedule

end ForeignArena
