import ForeignArena.Proofs.Calls
import ForeignArena.Proofs.Cleaners.Life

namespace ForeignArena

/-!
# What reclamation threads hold in their hands

On its way from the queue to its action, a token is in the hands of the reclamation thread for a
moment: the thread has received it, and is about to take its action.

* `inHand`, `heldOnTop?` — the tokens that are in hand on a stack, and the one on top of it;
* `System.drops?`, `System.reclaims?` — the token that a move drops, and the one whose action the
  thread turns to;
* `System.Turn`, `System.perform_turn` — what a move does to the queue and to the hands.

Below the frame that takes an action on the reclamation thread there is the loop of the thread.
Wherever else an action is taken there is a client below, or the drop of a token.
-/

/-! ### Hands -/

/-- The tokens that are in hand on a stack, each with the thread that holds it. -/
def inHand (c : Nat) : List Frame → List (ThreadId × Nat)
  | [] => []
  | .taking thread b token :: .reclaiming b' :: rest =>
    if b = c ∧ b' = c then (thread, token) :: inHand c rest else inHand c rest
  | _ :: rest => inHand c rest

/-- The token that is in hand on top of a stack. -/
def heldOnTop? (c : Nat) : List Frame → Option Nat
  | .taking _ b token :: .reclaiming b' :: _ => if b = c ∧ b' = c then some token else none
  | _ => none

section

variable {c : Nat} {f : Frame} {rest : List Frame}

/-- Nothing is in hand with a frame that is not about to take an action. -/
theorem inHand_cons_of_none (hf : f.takingOf? c = none) : inHand c (f :: rest) = inHand c rest := by
  cases f with
  | taking thread b token =>
    have hbc : b ≠ c := by simpa [Frame.takingOf?] using hf
    cases rest with
    | nil => rfl
    | cons below rest => cases below <;> simp [inHand, hbc]
  | _ => simp [inHand]

/-- Over a client nothing is in hand. -/
theorem inHand_cons_of_grounded (hbase : Grounded rest) : inHand c (f :: rest) = inHand c rest := by
  obtain rfl | ⟨r, rest, rfl⟩ := hbase <;> cases f <;> rfl

theorem inHand_received (thread : ThreadId) (token : Nat) :
    inHand c (.taking thread c token :: .reclaiming c :: rest) =
      (thread, token) :: inHand c rest := by
  simp [inHand]

/-- Either a token is in hand with the top of a stack, or all that is in hand is so below. -/
theorem inHand_cons_cases (c : Nat) (f : Frame) (rest : List Frame) :
    (∃ thread token base, f = .taking thread c token ∧ rest = .reclaiming c :: base) ∨
      (heldOnTop? c (f :: rest) = none ∧ inHand c (f :: rest) = inHand c rest) := by
  cases f with
  | taking thread b token =>
    cases rest with
    | nil => exact .inr ⟨rfl, rfl⟩
    | cons below base =>
      cases below with
      | reclaiming b' =>
        by_cases hboth : b = c ∧ b' = c
        · obtain ⟨rfl, rfl⟩ := hboth
          exact .inl ⟨thread, token, base, rfl, rfl⟩
        · exact .inr (by simp [heldOnTop?, inHand, hboth])
      | _ => exact .inr ⟨rfl, rfl⟩
  | _ => exact .inr ⟨rfl, by simp [inHand]⟩

/-- There is no more in hand than there are loops that wait. -/
theorem length_inHand_le (k : List Frame) :
    (inHand c k).length ≤ k.countP (Frame.isReclaiming c) := by
  induction k using inHand.induct c with
  | case1 => exact Nat.le_refl 0
  | case2 thread b token b' rest hboth ih =>
    obtain ⟨rfl, rfl⟩ := hboth
    simpa [inHand, Frame.isReclaiming] using ih
  | case3 thread b token b' rest hne ih =>
    rw [inHand, if_neg hne, List.countP_cons, List.countP_cons]
    omega
  | case4 f rest hother ih =>
    rw [inHand, List.countP_cons]
    · omega
    · exact hother

end

/-! ### What changes leave alone -/

/-- Moves that neither use a token of a cleaner up nor let its thread receive one, and are no
    steps, leave the hands alone. -/
theorem Change.inHand_eq {move : Move} {s t : Site} (h : Change move s t) {c : Nat}
    (hspends : ∀ token, ¬move.Spends c token) (hreceive : move ≠ .start (.receive c))
    (htick : move ≠ .tick) : inHand c t.2 = inHand c s.2 := by
  have hother {f : Frame} (hf : f.takingOf? c = none) (k : List Frame) :
      inHand c (f :: k) = inHand c k :=
    inHand_cons_of_none hf
  cases h with
  | push f hf => exact hother (Frame.not_cleaner_of_isLoose (Frame.isLoose_of_isPlain hf) c).1 _
  | pop f hf => exact (hother (Frame.not_cleaner_of_isLoose hf c).1 _).symm
  | spent thread b token hmove =>
    have hbc : b ≠ c := by
      rintro rfl
      exact hspends token hmove
    exact hother (by simp [Frame.takingOf?, hbc]) _
  | received thread b token cleaner hmove =>
    have hbc : b ≠ c := by
      rintro rfl
      exact hreceive hmove
    exact (hother (by simp [Frame.takingOf?, hbc]) _).trans (hother rfl _)
  | missed _ _ _ hmove | tookSupplied _ _ _ _ _ hmove | tookDisposal _ _ _ _ _ hmove
  | ended _ _ _ hmove | panicked _ _ _ _ hmove | died _ hmove => exact absurd hmove htick
  | begun | swapped | entered | attempted | failed | swept | resumed | asked => simp [inHand]
  | _ => rfl

/-- And they leave the queue alone. -/
theorem CleanerView.Step.queue_eq {move : Move} {c : Nat} {v w : CleanerView}
    (hstep : Step move c v w) (hunknown : ¬v.known → v.cleaner = .void)
    (hspends : ∀ token, ¬move.Spends c token) (hreceive : move ≠ .start (.receive c))
    (htick : move ≠ .tick) : w.cleaner.queue = v.cleaner.queue := by
  cases hstep with
  | added name hnot =>
    rw [hunknown hnot]
    rfl
  | settled =>
    unfold Cleaner.settle
    split <;> rfl
  | queued thread token hmove => exact absurd ⟨thread, .inr hmove⟩ (hspends token)
  | received token cleaner hmove => exact absurd hmove hreceive
  | took token action cleaner taking _ htake => rw [Cleaner.take?_eq_some htake]
  | died busy hmove => exact absurd hmove htick
  | _ => rfl

/-- A chain of changes in which nothing of a cleaner is used up, received or taken. -/
theorem Changes.hands {move : Move} {s t : Site} (h : Changes move s t) {c : Nat}
    (hspends : ∀ token, ¬move.Spends c token) (hreceive : move ≠ .start (.receive c))
    (htick : move ≠ .tick) :
    inHand c t.2 = inHand c s.2 ∧ (t.1.cleaner c).queue = (s.1.cleaner c).queue :=
  h.keeps (fun site => inHand c site.2 = inHand c s.2 ∧
      (site.1.cleaner c).queue = (s.1.cleaner c).queue)
    (fun hchange hs => ⟨(hchange.inHand_eq hspends hreceive htick).trans hs.1,
      ((hchange.cleaner c).queue_eq (Store.cleaner_of_unknown _) hspends hreceive htick).trans hs.2⟩)
    ⟨rfl, rfl⟩

namespace System

variable {s : System} {c : Nat}

/-! ### What moves do -/

theorem perform_start {w : Work} (hadmits : s.store.admitsWork w) :
    s.perform (.start w) = s.start w :=
  if_pos hadmits

/-- The token that a move drops: it exists, and its client is in control. -/
def drops? (c : Nat) (s : System) : Move → Option Nat
  | .start (.dropRegistration _ (.tracked b token)) =>
    match s.focus with
    | .client _ => if b = c ∧ token ∈ (s.store.cleaner c).tokens then some token else none
    | .handing _ => none
  | _ => none

/-- The token whose action begins on the reclamation thread with a move: it is in hand, and the
    action is there. -/
def reclaims? (c : Nat) (s : System) : Move → Option Nat
  | .tick =>
    match s.focus with
    | .handing _ => (heldOnTop? c s.stack).filter fun token =>
        ((s.store.cleaner c).take? token).isSome
    | .client _ => none
  | _ => none

/-- What a move does to the queue of a cleaner and to what its thread has in hand, if it drops one
    token and reclaims another. -/
inductive Turn (c : Nat) (s t : System) : Option Nat → Option Nat → Prop where
  | none : inHand c t.stack = inHand c s.stack →
    (t.store.cleaner c).queue = (s.store.cleaner c).queue → Turn c s t .none .none
  | dropped (token : Nat) : inHand c t.stack = inHand c s.stack →
    (t.store.cleaner c).queue = (s.store.cleaner c).queue ++ [token] → Turn c s t (some token) .none
  | received (name : String) (token : Nat) : (s.store.cleaner c).phase = .waiting →
    (s.store.cleaner c).queue = token :: (t.store.cleaner c).queue →
    inHand c t.stack = (.reclaimer c name, token) :: inHand c s.stack → Turn c s t .none .none
  | reclaimed (thread : ThreadId) (token : Nat) :
    inHand c s.stack = (thread, token) :: inHand c t.stack →
    (t.store.cleaner c).queue = (s.store.cleaner c).queue → Turn c s t .none (some token)

/-- Running an action puts nothing in hand. -/
theorem runAction_hands (thread : ThreadId) (b token : Nat) :
    inHand c (s.runAction thread b token).stack = inHand c s.stack ∧
      ((s.runAction thread b token).store.cleaner c).queue = (s.store.cleaner c).queue := by
  unfold runAction
  split
  · exact ⟨rfl, rfl⟩
  · next cleaner action htake =>
    have hqueue : ((s.store.modifyCleaner b fun _ => cleaner).cleaner c).queue =
        (s.store.cleaner c).queue := by
      by_cases hbc : b = c
      · subst hbc
        rw [Store.cleaner_modifyCleaner _ _ _ _ (Change.known_of_take htake), if_pos rfl,
          Cleaner.take?_eq_some htake]
      · rw [Store.cleaner_modifyCleaner_ne _ hbc]
    cases action with
    | supplied tag => exact ⟨by simp [inHand, push, request, yield, note, mapStore], hqueue⟩
    | dispose d =>
      -- a disposal can be part of other moves too
      have hchanges : Changes (.answer (.ok .done)) _ _ := dispose_changes
        ((((s.mapStore (·.modifyCleaner b fun _ => cleaner)).note
          (.started thread b token (.dispose d))).push (.running thread b token)).push
          (.reporting thread b token)) thread d (by simp)
      obtain ⟨hhand, hsame⟩ := hchanges.hands (c := c) (by simp [Move.Spends]) (by simp) (by simp)
      exact ⟨hhand.trans (by simp [inHand, push, note, mapStore]), hsame.trans hqueue⟩

/-- Work that goes on puts nothing in hand, and leaves the queue alone unless the thread dies. -/
theorem resume_hands (f : Frame) (o : Outcome)
    (halive : ((s.resume f o).store.cleaner c).phase ≠ .dead) :
    inHand c (s.resume f o).stack = inHand c s.stack ∧
      ((s.resume f o).store.cleaner c).queue = (s.store.cleaner c).queue := by
  have hloose (hf : f.isLoose) : inHand c (s.resume f o).stack = inHand c s.stack ∧
      ((s.resume f o).store.cleaner c).queue = (s.store.cleaner c).queue := by
    have hchanges : Changes (.answer (.ok .done)) _ _ := resume_changes s f o (by simp) (by simp [hf])
    obtain ⟨hhand, hsame⟩ := hchanges.hands (c := c) (by simp [Move.Spends]) (by simp) (by simp)
    exact ⟨hhand.trans (inHand_cons_of_none (Frame.not_cleaner_of_isLoose hf c).1), hsame⟩
  cases f with
  | taking thread b token => exact runAction_hands thread b token
  | running thread b token =>
    cases o with
    | ok r => exact ⟨rfl, Store.view_modifyCleaner Cleaner.queue s.store b c (·.finish) fun _ => rfl⟩
    | error payload =>
      have hsite := site_discard ((s.mapStore (·.modifyCleaner b (·.fail))).note
        (.actionPanicked thread b token payload.message)) payload (·.reply (.cleaned true)) rfl
      have hqueue := Store.view_modifyCleaner Cleaner.queue s.store b c (·.fail) fun _ => rfl
      exact ⟨congrArg (fun site => inHand c site.2) hsite,
        (congrArg (fun site => (site.1.cleaner c).queue) hsite).trans hqueue⟩
  | reclaiming b =>
    cases o with
    | ok r => exact ⟨rfl, Store.view_modifyCleaner Cleaner.queue s.store b c (·.resume) fun _ => rfl⟩
    | error payload =>
      refine ⟨rfl, ?_⟩
      have halive : ((s.store.modifyCleaner b (·.die)).cleaner c).phase ≠ .dead := halive
      show ((s.store.modifyCleaner b (·.die)).cleaner c).queue = _
      by_cases hbc : b = c ∧ b < s.store.cleaners.size
      · obtain ⟨rfl, hb⟩ := hbc
        rw [Store.cleaner_modifyCleaner _ _ _ _ hb, if_pos rfl] at halive
        exact absurd rfl halive
      · rw [Change.cleaner_unchanged hbc]
  | _ => exact hloose rfl

/-- A token that is cleaned comes to its action over its client. -/
theorem clean_turn (thread : ThreadId) (token : Nat) (hbase : Grounded s.stack) :
    Turn c s (s.clean thread c token) none none := by
  unfold clean
  split
  · refine .none (inHand_cons_of_grounded hbase) ?_
    exact Store.view_modifyCleaner Cleaner.queue s.store c c (·.spend token) fun _ => rfl
  · exact .none rfl rfl

/-- A token that is dropped goes to the end of the queue, unless the thread is dead. -/
theorem dropToken_turn (thread : ThreadId) (token : Nat)
    (hneeded : (s.store.cleaner c).tokens ≠ [] → (s.store.cleaner c).phase ≠ .stopped)
    (halive : (s.store.cleaner c).phase ≠ .dead) :
    Turn c s (s.dropToken thread c token)
      (if token ∈ (s.store.cleaner c).tokens then some token else none) none := by
  unfold dropToken
  by_cases htoken : token ∈ (s.store.cleaner c).tokens
  · have hreceiving : ((s.store.modifyCleaner c (·.spend token)).cleaner c).isReceiving = true := by
      rw [Store.isReceiving_spend, Cleaner.isReceiving]
      have hphase := hneeded (List.ne_nil_of_mem htoken)
      cases hcases : (s.store.cleaner c).phase <;> simp_all
    have hknown := Change.known_of_token (List.contains_iff_mem.mpr htoken)
    rw [if_pos htoken, if_pos (List.contains_iff_mem.mpr htoken)]
    dsimp only [mapStore]
    rw [if_pos hreceiving]
    refine .dropped token rfl ?_
    simp [reply, hand, note, mapStore, Store.cleaner_modifyCleaner, hknown, Cleaner.enqueue,
      Cleaner.spend]
  · rw [if_neg htoken, if_neg fun hcontains => htoken (List.contains_iff_mem.mp hcontains)]
    exact .none rfl rfl

/-- A token that is received goes from the front of the queue into the hands of the thread. -/
theorem receive_turn : Turn c s (s.receive c) none none := by
  unfold receive
  split
  · exact .none rfl rfl
  · next cleaner token hdequeue =>
    have hknown := Change.known_of_dequeue hdequeue
    obtain ⟨rest, hphase, hqueue, heq⟩ := Cleaner.dequeue?_eq_some hdequeue
    refine .received cleaner.threadName token hphase ?_ (inHand_received ..)
    simp [takeAction, reply, hand, push, note, mapStore, Store.cleaner_modifyCleaner, hknown, heq,
      hqueue]

/-- A token that is in hand leaves it with the step that takes its action. -/
theorem tick_turn (hpending : ∀ thread token, .taking thread c token ∈ s.stack →
      ((s.store.cleaner c).take? token).isSome)
    (hafter : ((s.perform .tick).store.cleaner c).phase ≠ .dead) :
    Turn c s (s.perform .tick) none (s.reclaims? c .tick) := by
  obtain ⟨store, stack, focus⟩ := s
  cases focus with
  | client news => exact .none rfl rfl
  | handing o =>
    cases stack with
    | nil => exact .none rfl rfl
    | cons f rest =>
      obtain ⟨hhand, hqueue⟩ := resume_hands (s := ⟨store, rest, .handing o⟩) f o hafter
      obtain ⟨thread, token, base, rfl, rfl⟩ | ⟨hnone, hsame⟩ := inHand_cons_cases c f rest
      · have htake := hpending thread token (List.mem_cons_self ..)
        have hreclaims : reclaims? c ⟨store, .taking thread c token :: .reclaiming c :: base,
            .handing o⟩ .tick = some token := by
          simp only [reclaims?, heldOnTop?, and_self, if_true, Option.filter_some]
          exact if_pos htake
        rw [hreclaims]
        refine .reclaimed thread token ?_ hqueue
        exact (inHand_received thread token).trans (congrArg _ hhand.symm)
      · have hreclaims : reclaims? c ⟨store, f :: rest, .handing o⟩ .tick = none := by
          simp only [reclaims?, hnone, Option.filter_none]
        rw [hreclaims]
        exact .none (hhand.trans hsame.symm) hqueue

/-- **What a move does to the queue and to the hands.**  A token that is dropped joins the queue at
    its end, and one that is reclaimed leaves the hands. -/
theorem perform_turn (move : Move) (hbase : ∀ news, s.focus = .client news → Grounded s.stack)
    (hneeded : (s.store.cleaner c).tokens ≠ [] → (s.store.cleaner c).phase ≠ .stopped)
    (hpending : ∀ thread token, .taking thread c token ∈ s.stack →
      ((s.store.cleaner c).take? token).isSome)
    (halive : (s.store.cleaner c).phase ≠ .dead)
    (hafter : ((s.perform move).store.cleaner c).phase ≠ .dead) :
    Turn c s (s.perform move) (s.drops? c move) (s.reclaims? c move) := by
  have hplain (hspends : ∀ token, ¬move.Spends c token) (hreceive : move ≠ .start (.receive c))
      (htick : move ≠ .tick) : Turn c s (s.perform move) none none := by
    obtain ⟨hhand, hqueue⟩ := (s.perform_changes move).hands (c := c) hspends hreceive htick
    exact .none hhand hqueue
  cases move with
  | answer o => exact hplain (by simp [Move.Spends]) (by simp) (by simp)
  | operate operation => exact hplain (by simp [Move.Spends]) (by simp) (by simp)
  | tick => exact tick_turn hpending hafter
  | start w =>
    cases hfocus : s.focus with
    | handing o =>
      have hdrops : s.drops? c (.start w) = none := by
        unfold drops?
        split <;> simp_all
      rw [perform_handing hfocus (.start w) (by simp), hdrops]
      exact .none rfl rfl
    | client news =>
      cases w with
      | clean thread b token =>
        by_cases hbc : b = c
        · subst hbc
          rw [perform_start rfl, start, hfocus]
          exact clean_turn thread token (hbase news hfocus)
        · exact hplain (by simp [Move.Spends, hbc]) (by simp) (by simp)
      | dropRegistration thread r =>
        cases r with
        | plain => exact hplain (by simp [Move.Spends]) (by simp) (by simp)
        | tracked b token =>
          by_cases hbc : b = c
          · subst hbc
            have hdrops : s.drops? b (.start (.dropRegistration thread (.tracked b token))) =
                if token ∈ (s.store.cleaner b).tokens then some token else none := by
              simp [drops?, hfocus]
            rw [perform_start rfl, hdrops, start, hfocus]
            exact dropToken_turn thread token hneeded halive
          · have hdrops : s.drops? c (.start (.dropRegistration thread (.tracked b token))) = none := by
              simp [drops?, hfocus, hbc]
            rw [hdrops]
            exact hplain (by simp [Move.Spends, hbc]) (by simp) (by simp)
      | receive b =>
        by_cases hbc : b = c
        · subst hbc
          rw [perform_start rfl, start, hfocus]
          exact receive_turn
        · exact hplain (by simp [Move.Spends]) (by simp [hbc]) (by simp)
      | _ => exact hplain (by simp [Move.Spends]) (by simp) (by simp)

/-- So the line advances that begins in the hands and ends with the queue, also among the hands on
    other strands. -/
theorem Turn.line {t : System} {dropped reclaimed : Option Nat} (h : Turn c s t dropped reclaimed)
    {before rest : List (ThreadId × Nat)} (hone : (before ++ inHand c s.stack ++ rest).length ≤
      if (s.store.cleaner c).phase = .busy then 1 else 0) :
    (before ++ inHand c s.stack ++ rest).map Prod.snd ++ (s.store.cleaner c).queue ++
        dropped.toList =
      reclaimed.toList ++ ((before ++ inHand c t.stack ++ rest).map Prod.snd ++
        (t.store.cleaner c).queue) := by
  cases h with
  | none hhand hqueue => simp [hhand, hqueue]
  | dropped token hhand hqueue => simp [hhand, hqueue]
  | received name token hphase hqueue hhand =>
    -- the thread was waiting, so its hands were empty
    rw [hphase, if_neg (by decide), Nat.le_zero, List.length_eq_zero_iff] at hone
    simp only [List.append_eq_nil_iff] at hone
    simp [hhand, hqueue, hone.1.1, hone.1.2, hone.2]
  | reclaimed thread token hhand hqueue =>
    -- nothing else was in hand
    have hnone : before = [] ∧ inHand c t.stack = [] ∧ rest = [] := by
      have hlength := Nat.le_trans hone (by split <;> omega : _ ≤ 1)
      rw [hhand] at hlength
      simp only [List.length_append, List.length_cons] at hlength
      refine ⟨?_, ?_, ?_⟩ <;> refine List.length_eq_zero_iff.mp ?_ <;> omega
    simp [hhand, hqueue, hnone]

/-- What comes to hand does so in the hands of the reclamation thread. -/
theorem Turn.held {t : System} {dropped reclaimed : Option Nat} (h : Turn c s t dropped reclaimed)
    {held : ThreadId × Nat} (hheld : held ∈ inHand c t.stack) :
    held ∈ inHand c s.stack ∨ ∃ name, held.1 = .reclaimer c name := by
  cases h with
  | none hhand | dropped token hhand => exact .inl (hhand ▸ hheld)
  | received name token _ _ hhand =>
    rw [hhand] at hheld
    obtain rfl | hheld := List.mem_cons.mp hheld
    · exact .inr ⟨name, rfl⟩
    · exact .inl hheld
  | reclaimed thread token hhand =>
    rw [hhand]
    exact .inl (List.mem_cons_of_mem _ hheld)

end System

end ForeignArena
