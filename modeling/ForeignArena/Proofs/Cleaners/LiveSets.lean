import ForeignArena.Proofs.Cleaners.Life

namespace ForeignArena

/-!
# In what order live sets stand

An action that is registered comes to the end of the live set of its cleaner.  If each one that is
taken leaves its place to the last, the others do not stay in order.  As an action is found by its
token, that makes no difference.

* `swapRemove` — taking an entry out of a list, whose place the last one takes;
* `History.swapped` — the live set in the order to which this leads;
* `Schedule.swapped_perm`, `Schedule.lookup_swapped` — it has the same actions, each under its token.
-/

/-! ### Entries and keys -/

section

variable {α : Type} {entries others : List (Nat × α)} {key : Nat} {value : α}

/-- Where no key comes up twice, an entry is found under its key. -/
theorem lookup_eq_some_iff_mem (hkeys : (entries.map Prod.fst).Nodup) :
    entries.lookup key = some value ↔ (key, value) ∈ entries := by
  induction entries with
  | nil => simp
  | cons entry rest ih =>
    obtain ⟨k, v⟩ := entry
    rw [List.map_cons, List.nodup_cons] at hkeys
    rw [List.lookup_cons, List.mem_cons, Prod.mk.injEq]
    by_cases hk : key = k
    · subst hk
      have hrest : (key, value) ∉ rest := fun hmem => hkeys.1 (List.mem_map.mpr ⟨_, hmem, rfl⟩)
      simp [hrest, eq_comm]
    · have hne : (key == k) = false := by simpa using hk
      simp [hne, hk, ih hkeys.2]

/-- So it does not matter in what order the entries stand. -/
theorem lookup_eq_of_perm (hkeys : (entries.map Prod.fst).Nodup) (hperm : entries.Perm others)
    (key : Nat) : entries.lookup key = others.lookup key := by
  refine Option.ext fun value => ?_
  have hothers : (others.map Prod.fst).Nodup := (hperm.map Prod.fst).nodup_iff.mp hkeys
  rw [lookup_eq_some_iff_mem hkeys, lookup_eq_some_iff_mem hothers, hperm.mem_iff]

/-- Take the entry under a key out of a list.  The last entry comes to its place. -/
def swapRemove (key : Nat) : List (Nat × α) → List (Nat × α)
  | [] => []
  | entry :: rest =>
    if entry.1 = key then rest.getLast?.toList ++ rest.dropLast else entry :: swapRemove key rest

/-- All other entries are still there. -/
theorem swapRemove_perm (h : entries.lookup key = some value) :
    entries.Perm ((key, value) :: swapRemove key entries) := by
  induction entries with
  | nil => cases h
  | cons entry rest ih =>
    obtain ⟨k, v⟩ := entry
    by_cases hk : k = key
    · subst hk
      simp only [List.lookup_cons_self, Option.some.injEq] at h
      subst h
      rw [swapRemove, if_pos rfl]
      refine .cons (k, v) ?_
      obtain rfl | ⟨first, last, rfl⟩ := rest.eq_nil_or_concat
      · exact .refl _
      · rw [List.concat_eq_append, List.getLast?_concat, List.dropLast_concat]
        exact List.perm_append_comm
    · have hne : (key == k) = false := by simpa using Ne.symm hk
      rw [List.lookup_cons, hne] at h
      rw [swapRemove, if_neg hk]
      exact ((ih h).cons (k, v)).trans (.swap ..)

end

/-! ### Histories -/

/-- The live set of a cleaner, if each action that was taken has left its place to the last. -/
def History.swapped (c : Nat) : History → List (Nat × Action)
  | [] => []
  | e :: h =>
    match e.trackedBy? c, e.startedBy? c with
    | some entry, _ => swapped c h ++ [entry]
    | none, some entry => swapRemove entry.1 (swapped c h)
    | none, none => swapped c h

namespace History

variable {c : Nat}

/-- News on which nothing has begun add what they register. -/
theorem swapped_of_tracked (news h : History) (hstarted : started news c = []) :
    swapped c (news ++ h) = swapped c h ++ tracked news c := by
  induction news with
  | nil => exact (List.append_nil _).symm
  | cons e news ih =>
    rw [started_cons, List.append_eq_nil_iff] at hstarted
    have hnone : e.startedBy? c = none := by simpa using hstarted.2
    rw [List.cons_append, swapped, hnone, tracked_cons, ← List.append_assoc, ← ih hstarted.1]
    cases e.trackedBy? c with
    | none => exact (List.append_nil _).symm
    | some entry => rfl

/-- News in which nothing was registered take out what has begun. -/
theorem swapped_of_started (news h : History) (htracked : tracked news c = []) :
    swapped c (news ++ h) =
      (started news c).foldl (fun entries entry => swapRemove entry.1 entries) (swapped c h) := by
  induction news with
  | nil => rfl
  | cons e news ih =>
    rw [tracked_cons, List.append_eq_nil_iff] at htracked
    have hnone : e.trackedBy? c = none := by simpa using htracked.2
    rw [List.cons_append, swapped, hnone, started_cons, List.foldl_append, ← ih htracked.1]
    cases e.startedBy? c with
    | none => rfl
    | some entry => rfl

theorem tracked_append (news h : History) :
    tracked (news ++ h) c = tracked h c ++ tracked news c := by
  simp [tracked, pick]

theorem started_append (news h : History) :
    started (news ++ h) c = started h c ++ started news c := by
  simp [started, pick]

end History

/-- Histories only grow. -/
theorem Change.history_grows {move : Move} {s t : Site} (h : Change move s t) :
    ∃ news, t.1.history = news ++ s.1.history := by
  cases h with
  | called => exact ⟨[], by simp⟩
  | entered thread d => exact ⟨[.destroying thread d], by simp⟩
  | attempted thread a n failures d => exact ⟨[.began thread d, .attempting thread a d], rfl⟩
  | tookDisposal thread c token d => exact ⟨[.began thread d, .started thread c token _], rfl⟩
  | note | tracked | opened | accepted | swapped | abandoned | failed | swept | queued | received
  | tookSupplied | ended | panicked | begun | asked => exact ⟨[_], rfl⟩
  | _ => exact ⟨[], rfl⟩

/-! ### Runs -/

/-- What a change does to the live set of a cleaner shows in what was registered and in what has
    begun. -/
theorem CleanerView.Step.entries {move : Move} {c : Nat} {v w : CleanerView}
    (hstep : Step move c v w) (hunknown : ¬v.known → v.cleaner = .void) :
    (w.cleaner.live = v.cleaner.live ∧ w.tracked = v.tracked ∧ w.started = v.started) ∨
      (∃ entry, w.cleaner.live = v.cleaner.live ++ [entry] ∧ w.tracked = v.tracked ++ [entry] ∧
        w.started = v.started) ∨
      ∃ token action, v.cleaner.take? token = some (w.cleaner, action) ∧ w.tracked = v.tracked ∧
        w.started = v.started ++ [(token, action)] := by
  cases hstep with
  | added name hnot =>
    left
    rw [hunknown hnot]
    exact ⟨rfl, rfl, rfl⟩
  | tracked operation action => exact .inr (.inl ⟨_, rfl, rfl, rfl⟩)
  | settled =>
    left
    refine ⟨?_, rfl, rfl⟩
    show v.cleaner.settle.live = _
    unfold Cleaner.settle
    split <;> rfl
  | received token cleaner _ hdequeue =>
    obtain ⟨rest, -, -, rfl⟩ := Cleaner.dequeue?_eq_some hdequeue
    exact .inl ⟨rfl, rfl, rfl⟩
  | took token action cleaner taking _ htake => exact .inr (.inr ⟨token, action, htake, rfl, rfl⟩)
  | _ => exact .inl ⟨rfl, rfl, rfl⟩

/-- Each change keeps the two orders of a live set the same, up to the order. -/
theorem Change.swapped_perm {move : Move} {s t : Site} (h : Change move s t) {c : Nat}
    (hkeys : (s.1.cleaner c).keys.Nodup)
    (hperm : (s.1.history.swapped c).Perm (s.1.cleaner c).live) :
    (t.1.history.swapped c).Perm (t.1.cleaner c).live := by
  obtain ⟨news, hnews⟩ := h.history_grows
  have htracked : t.1.history.tracked c = s.1.history.tracked c ++ History.tracked news c := by
    rw [hnews, History.tracked_append]
  have hstarted : t.1.history.started c = s.1.history.started c ++ History.started news c := by
    rw [hnews, History.started_append]
  have happended {before after more : List (Nat × Action)} (h : after = before ++ more)
      (hsame : after = before) : more = [] :=
    List.append_right_eq_self.mp (h.symm.trans hsame)
  rw [hnews]
  obtain ⟨hlive, hsame, hnone⟩ | ⟨entry, hlive, hone, hnone⟩ | ⟨token, action, htake, hsame, hone⟩ :=
    (h.cleaner c).entries (s.1.cleaner_of_unknown ·)
  · have hlive : (t.1.cleaner c).live = (s.1.cleaner c).live := hlive
    rw [History.swapped_of_tracked news _ (happended hstarted hnone), happended htracked hsame,
      List.append_nil, hlive]
    exact hperm
  · have hlive : (t.1.cleaner c).live = (s.1.cleaner c).live ++ [entry] := hlive
    have hentry : History.tracked news c = [entry] :=
      List.append_cancel_left (htracked.symm.trans hone)
    rw [History.swapped_of_tracked news _ (happended hstarted hnone), hentry, hlive]
    exact hperm.append_right _
  · have hentry : History.started news c = [(token, action)] :=
      List.append_cancel_left (hstarted.symm.trans hone)
    rw [History.swapped_of_started news _ (happended htracked hsame), hentry]
    -- in both orders the entry can be put in front of the others
    have htake : (s.1.cleaner c).take? token = some (t.1.cleaner c, action) := htake
    have hlookup : (s.1.cleaner c).live.lookup token = some action := by
      obtain ⟨found, hfound, heq⟩ := Option.map_eq_some_iff.mp htake
      rw [hfound, (Prod.mk.inj heq).2]
    rw [lookup_eq_of_perm hkeys hperm.symm token] at hlookup
    exact List.Perm.cons_inv (((swapRemove_perm hlookup).symm.trans hperm).trans
      (Cleaner.take?_perm hkeys htake))

namespace Schedule

variable (σ : Schedule) (c n : Nat)

/-- **Both orders of a live set have the same actions.** -/
theorem swapped_perm :
    ((σ.after n).store.history.swapped c).Perm ((σ.after n).store.cleaner c).live := by
  refine (@σ.always (fun st k => (Site.cleanerView (st, k) c).Sound ∧
    (st.history.swapped c).Perm (st.cleaner c).live)
    (fun hperm hs => ⟨Site.cleaner_sound_perm hperm hs.1, hs.2⟩)
    (fun hchange hs => ⟨(hchange.cleaner c).sound hs.1,
      hchange.swapped_perm hs.1.nodup_keys hs.2⟩) ⟨σ.cleanerView_sound c 0, ?_⟩ n).2
  exact .refl _

/-- **So an action is found by its token**, in whichever order the others stand. -/
theorem lookup_swapped (token : Nat) : ((σ.after n).store.history.swapped c).lookup token =
    ((σ.after n).store.cleaner c).live.lookup token :=
  (lookup_eq_of_perm (σ.cleanerView_sound c n).nodup_keys (σ.swapped_perm c n).symm token).symm

end Schedule

end ForeignArena
