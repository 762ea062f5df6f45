import ForeignArena.Proofs.Sequences
import ForeignArena.Registry
import Mathlib.Data.List.Nodup

namespace ForeignArena

/-!
# The first descriptor wins

What a registry answers is decided by the calls that came to an end without a panic: the
first of them under a name fixes the descriptor for ever.  Makers that panic leave no
trace but the mark that one of them did, and the mark makes no difference to anybody.

* `Registry.Use`, `Registry.perform` — the ways in which a registry is used;
* `Registry.Log` — the completed calls, each with the name it was about and the descriptor
  it returned;
* `Registry.Follows` — a registry that knows what its log says;
* `Registry.Follows.perform` — each use keeps it so;
* `Registry.first_wins` — and so it is after any sequence of uses.

A maker may return a descriptor that carries another name than the one it is registered
under.  Only who registers descriptors under their own names finds them there.
-/

namespace Registry

/-! ### Uses and answers -/

/-- The ways in which a registry is used. -/
inductive Use where
  | register (type : ForeignType)
  /-- Look a descriptor up, and make it on first use.  The maker may panic, and the descriptor
      it makes may carry any name. -/
  | findOrMake (name : String) (make : Except Payload ForeignType)
  | find (name : String)

/-- An answer is what was found, or what a look-up that may register came to. -/
inductive Answer where
  | found (type? : Option ForeignType)
  | looked (lookup : Lookup)

namespace Use

/-- The name that a use is about. -/
def name : Use → String
  | register type => type.name
  | findOrMake name _ => name
  | find name => name

end Use

/-- Use a registry once. -/
def perform (r : Registry) : Use → Registry × Answer
  | .register type => ((r.register type).1, .looked (r.register type).2)
  | .findOrMake name make => ((r.findOrMake name make).1, .looked (r.findOrMake name make).2)
  | .find name => (r, .found (r.find? name))

/-- A registry in use, empty at first. -/
def inUse : Component Registry Use Answer := ⟨{}, perform⟩

/-! ### Logs -/

/-- The calls that came to an end without a panic, by name and with the descriptor they
    returned. -/
abbrev Log := List (String × ForeignType)

namespace Log

/-- Note what was asked and answered.  Looking without registering leaves no trace. -/
def note (log : Log) : Use × Answer → Log
  | (.find _, _) => log
  | (use, .looked ⟨.ok type, _⟩) => log ++ [(use.name, type)]
  | _ => log

/-- The log of the first uses of a registry. -/
def ofUses (uses : Nat → Use) (n : Nat) : Log :=
  (inUse.transcript uses n).foldl note []

theorem ofUses_succ (uses : Nat → Use) (n : Nat) :
    ofUses uses (n + 1) = (ofUses uses n).note (uses n, inUse.answer uses n) := by
  rw [ofUses, Component.transcript_succ, List.foldl_append]
  rfl

/-- The first completed call under a name stays the first. -/
theorem lookup_note {log : Log} {name : String} {type : ForeignType}
    (hlookup : log.lookup name = some type) (x : Use × Answer) :
    (log.note x).lookup name = some type := by
  unfold note
  split
  · exact hlookup
  · rw [List.lookup_append, hlookup]
    rfl
  · exact hlookup

/-- The names in the order of their first completed calls. -/
def names (log : Log) : List String :=
  (log.map (·.1)).eraseDups

/-- What a look-up comes to: the descriptor of the first completed call under the name, or what
    the maker comes to. -/
def lookUp (log : Log) (name : String) (make : Except Payload ForeignType) : Lookup :=
  match log.lookup name with
  | some type => ⟨.ok type, false⟩
  | none => ⟨make, true⟩

/-- What a log lets a registry answer. -/
def answer (log : Log) : Use → Answer
  | .register type => .looked (log.lookUp type.name (.ok type))
  | .findOrMake name make => .looked (log.lookUp name make)
  | .find name => .found (log.lookup name)

end Log

variable {r : Registry} {log : Log} {name other : String} {type : ForeignType}

/-! ### One use -/

/-- **A registry follows a log** if it has the descriptors of the first completed calls, in their
    order. -/
structure Follows (r : Registry) (log : Log) : Prop where
  find? : ∀ name, r.find? name = log.lookup name
  names : r.names = log.names
  nodup : r.names.Nodup

theorem follows_empty : ({} : Registry).Follows [] := ⟨fun _ => rfl, rfl, .nil⟩

/-- A name is registered if a descriptor is found under it. -/
theorem mem_names : name ∈ r.names ↔ (r.find? name).isSome := by
  rw [find?, List.lookup_isSome_iff, names, List.mem_map]
  constructor
  · rintro ⟨entry, hmem, rfl⟩
    exact ⟨entry, hmem, by simp⟩
  · rintro ⟨entry, hmem, heq⟩
    exact ⟨entry, hmem, (beq_iff_eq.mp heq).symm⟩

/-- **What a look-up comes to**: the descriptor that is there, a new one, or the maker's panic. -/
theorem findOrMake_cases (r : Registry) (name : String) (make : Except Payload ForeignType) :
    (∃ type, r.find? name = some type ∧ r.findOrMake name make = (r, ⟨.ok type, false⟩)) ∨
    (∃ type, r.find? name = none ∧ make = .ok type ∧ r.findOrMake name make =
      ({ r with entries := r.entries ++ [(name, type)] }, ⟨.ok type, true⟩)) ∨
    ∃ payload, r.find? name = none ∧ make = .error payload ∧
      r.findOrMake name make = ({ r with poisoned := true }, ⟨.error payload, true⟩) := by
  unfold findOrMake
  cases r.find? name with
  | some type => exact .inl ⟨type, rfl, rfl⟩
  | none =>
    cases make with
    | ok type => exact .inr (.inl ⟨type, rfl, rfl, rfl⟩)
    | error payload => exact .inr (.inr ⟨payload, rfl, rfl, rfl⟩)

namespace Follows

/-- What is found again was on record. -/
theorem repeated (h : r.Follows log) (hfind : r.find? name = some type) :
    r.Follows (log ++ [(name, type)]) where
  find? other := by
    rw [List.lookup_append, h.find?]
    cases hlookup : log.lookup other with
    | some found => rfl
    | none =>
      -- another name, since something is found under the first one
      have hne : other ≠ name := by
        rintro rfl
        rw [h.find?, hlookup] at hfind
        cases hfind
      rw [Option.none_or, List.lookup_cons, beq_false_of_ne hne]
      rfl
  names := by
    have hmem : name ∈ log.map (·.1) := by
      have hname : name ∈ r.names := mem_names.mpr (by rw [hfind]; rfl)
      rwa [h.names, Log.names, List.mem_eraseDups] at hname
    rw [h.names, Log.names, Log.names, List.map_append, List.eraseDups_append]
    simp [List.removeAll, hmem]
  nodup := h.nodup

/-- A new name goes behind all others. -/
theorem added (h : r.Follows log) (hfind : r.find? name = none) (type : ForeignType) :
    ({ r with entries := r.entries ++ [(name, type)] } : Registry).Follows
      (log ++ [(name, type)]) := by
  have hnew : name ∉ r.names := by
    rw [mem_names, hfind]
    exact Bool.false_ne_true
  have hnames : ({ r with entries := r.entries ++ [(name, type)] } : Registry).names =
      r.names ++ [name] := List.map_append
  constructor
  case find? =>
    intro other
    show (r.entries ++ [(name, type)]).lookup other = _
    rw [List.lookup_append, List.lookup_append, ← h.find?, Registry.find?]
  case names =>
    have hmem : name ∉ log.map (·.1) := by
      rwa [h.names, Log.names, List.mem_eraseDups] at hnew
    rw [hnames, h.names, Log.names, Log.names, List.map_append, List.eraseDups_append]
    simp [List.removeAll, hmem, List.eraseDups_cons]
  case nodup =>
    rw [hnames]
    refine List.nodup_append.mpr ⟨h.nodup, List.nodup_singleton name, ?_⟩
    rintro a ha b hb rfl
    rw [List.mem_singleton.mp hb] at ha
    exact hnew ha

/-- A mark changes nothing. -/
theorem poisoned (h : r.Follows log) (mark : Bool) :
    ({ r with poisoned := mark } : Registry).Follows log :=
  ⟨h.find?, h.names, h.nodup⟩

/-- **A look-up** answers what the log says, and is logged if it does not panic. -/
theorem findOrMake (h : r.Follows log) (use : Use) (make : Except Payload ForeignType)
    (huse : ∀ other, use ≠ .find other) :
    (r.findOrMake use.name make).2 = log.lookUp use.name make ∧
      (r.findOrMake use.name make).1.Follows
        (log.note (use, .looked (r.findOrMake use.name make).2)) := by
  have hnote (type : ForeignType) (made : Bool) :
      log.note (use, .looked ⟨.ok type, made⟩) = log ++ [(use.name, type)] := by
    cases use with
    | find other => exact absurd rfl (huse other)
    | register type => rfl
    | findOrMake name make => rfl
  obtain ⟨type, hfind, hlook⟩ | ⟨type, hfind, rfl, hlook⟩ | ⟨payload, hfind, rfl, hlook⟩ :=
    r.findOrMake_cases use.name make
  · rw [hlook, Log.lookUp, ← h.find?, hfind, hnote]
    exact ⟨rfl, h.repeated hfind⟩
  · rw [hlook, Log.lookUp, ← h.find?, hfind, hnote]
    exact ⟨rfl, h.added hfind type⟩
  · rw [hlook, Log.lookUp, ← h.find?, hfind]
    refine ⟨rfl, ?_⟩
    -- a call that panicked is not logged
    cases use <;> exact h.poisoned true

/-- **One use** is answered as the log says. -/
theorem perform (h : r.Follows log) (use : Use) :
    (r.perform use).2 = log.answer use ∧
      (r.perform use).1.Follows (log.note (use, (r.perform use).2)) := by
  cases use with
  | register type =>
    obtain ⟨hanswer, hafter⟩ := h.findOrMake (.register type) (.ok type) (by simp)
    exact ⟨congrArg Answer.looked hanswer, hafter⟩
  | findOrMake name make =>
    obtain ⟨hanswer, hafter⟩ := h.findOrMake (.findOrMake name make) make (by simp)
    exact ⟨congrArg Answer.looked hanswer, hafter⟩
  | find name => exact ⟨congrArg Answer.found (h.find? name), h⟩

end Follows

/-- Who finds a descriptor that was not there before has had it made. -/
theorem find?_perform {use : Use} (hfind : (r.perform use).1.find? name = some type) :
    r.find? name = some type ∨ use.name = name ∧ (r.perform use).2 = .looked ⟨.ok type, true⟩ := by
  have hlook (key : String) (make : Except Payload ForeignType)
      (hfind : (r.findOrMake key make).1.find? name = some type) :
      r.find? name = some type ∨
        key = name ∧ (r.findOrMake key make).2 = ⟨.ok type, true⟩ := by
    obtain ⟨found, -, hlook⟩ | ⟨made, -, rfl, hlook⟩ | ⟨payload, -, rfl, hlook⟩ :=
      r.findOrMake_cases key make
    · rw [hlook] at hfind
      exact .inl hfind
    · rw [hlook] at hfind ⊢
      have happend : (r.find? name).or ([(key, made)].lookup name) = some type := by
        rw [← hfind, find?, find?, List.lookup_append]
      cases hold : r.find? name with
      | some found =>
        rw [hold] at happend
        exact .inl happend
      | none =>
        -- then it is the new one that is found
        rw [hold, Option.none_or] at happend
        by_cases hname : name = key
        · subst hname
          rw [List.lookup_cons_self, Option.some.injEq] at happend
          rw [happend]
          exact .inr ⟨rfl, rfl⟩
        · rw [List.lookup_cons, beq_false_of_ne hname] at happend
          cases happend
    · rw [hlook] at hfind
      exact .inl hfind
  cases use with
  | register own =>
    obtain hold | ⟨hname, hmade⟩ := hlook own.name (.ok own) hfind
    · exact .inl hold
    · exact .inr ⟨hname, congrArg Answer.looked hmade⟩
  | findOrMake key make =>
    obtain hold | ⟨hname, hmade⟩ := hlook key make hfind
    · exact .inl hold
    · exact .inr ⟨hname, congrArg Answer.looked hmade⟩
  | find key => exact .inl hfind

/-! ### All uses -/

/-- A descriptor is fixed under a name: everybody who asks for the name gets it, no maker runs,
    and nothing changes. -/
structure Fixed (r : Registry) (name : String) (type : ForeignType) : Prop where
  find? : r.find? name = some type
  findOrMake : ∀ make, r.findOrMake name make = (r, ⟨.ok type, false⟩)
  register : ∀ own : ForeignType, own.name = name → r.register own = (r, ⟨.ok type, false⟩)

theorem fixed_of_find? (hfind : r.find? name = some type) : r.Fixed name type := by
  have hlook (make : Except Payload ForeignType) :
      r.findOrMake name make = (r, ⟨.ok type, false⟩) := by
    unfold Registry.findOrMake
    rw [hfind]
  refine ⟨hfind, hlook, ?_⟩
  rintro own rfl
  exact hlook (.ok own)

section

variable (uses : Nat → Use)

/-- A registry in use follows the log of its answers. -/
theorem follows_ofUses (n : Nat) : (inUse.after uses n).Follows (.ofUses uses n) := by
  induction n with
  | zero => exact follows_empty
  | succ n ih =>
    rw [Log.ofUses_succ]
    exact (ih.perform (uses n)).2

/-- A descriptor that is found is found for ever. -/
theorem find?_mono {m n : Nat} (hmn : m ≤ n) (hfind : (inUse.after uses m).find? name = some type) :
    (inUse.after uses n).find? name = some type := by
  induction hmn with
  | refl => exact hfind
  | @step n _ ih =>
    rw [(follows_ofUses uses n).find?] at ih
    rw [(follows_ofUses uses (n + 1)).find?, Log.ofUses_succ]
    exact Log.lookup_note ih _

/-- What holds of a registry that is used in any way. -/
structure FirstWins : Prop where
  /-- The log of the completed calls says what a use answers, -/
  answers : ∀ n, inUse.answer uses n = (Log.ofUses uses n).answer (uses n)
  /-- and what is found: the descriptor of the first completed call under the name. -/
  found : ∀ n name, (inUse.after uses n).find? name = (Log.ofUses uses n).lookup name
  /-- A maker runs if and only if the name is absent at that moment. -/
  made : ∀ n lookup, inUse.answer uses n = .looked lookup →
    (lookup.made = true ↔ (inUse.after uses n).find? (uses n).name = none)
  /-- A call that completes fixes the descriptor that it returns for all calls to come. -/
  fixed : ∀ n type made, inUse.answer uses n = .looked ⟨.ok type, made⟩ →
    ∀ m, n < m → (inUse.after uses m).Fixed (uses n).name type
  /-- So does a look that finds one, even if others come between it and the call it is for. -/
  early : ∀ n name type, (inUse.after uses n).find? name = some type →
    ∀ m, n ≤ m → (inUse.after uses m).Fixed name type
  /-- A maker that panics leaves everything as it was. -/
  panicked : ∀ n payload made, inUse.answer uses n = .looked ⟨.error payload, made⟩ →
    (inUse.after uses (n + 1)).names = (inUse.after uses n).names ∧
      (inUse.after uses (n + 1)).size = (inUse.after uses n).size ∧
      ∀ name, (inUse.after uses (n + 1)).find? name = (inUse.after uses n).find? name
  /-- Whether a maker has panicked makes no difference to later calls. -/
  poisoned : ∀ n mark use,
    (({ inUse.after uses n with poisoned := mark } : Registry).perform use).2 =
        ((inUse.after uses n).perform use).2 ∧
      (({ inUse.after uses n with poisoned := mark } : Registry).perform use).1.entries =
        ((inUse.after uses n).perform use).1.entries
  /-- Names come in the order of their first completed calls, -/
  order : ∀ n, (inUse.after uses n).names = (Log.ofUses uses n).names
  /-- each of them once. -/
  once : ∀ n, (inUse.after uses n).names.Nodup
  /-- The size is their number, -/
  size : ∀ n, (inUse.after uses n).size = (inUse.after uses n).names.length
  /-- and they are the names under which something is found. -/
  names : ∀ n name, ((inUse.after uses n).find? name).isSome ↔ name ∈ (inUse.after uses n).names
  /-- If all descriptors that are there came by being registered, each carries its name. -/
  own : ∀ n, (∀ k < n, ∀ name make type, uses k = .findOrMake name make →
      inUse.answer uses k ≠ .looked ⟨.ok type, true⟩) →
    ∀ name type, (inUse.after uses n).find? name = some type → type.name = name

end

/-- A mark makes no difference to a look-up. -/
theorem findOrMake_poisoned (r : Registry) (mark : Bool) (name : String)
    (make : Except Payload ForeignType) :
    (({ r with poisoned := mark } : Registry).findOrMake name make).2 =
        (r.findOrMake name make).2 ∧
      (({ r with poisoned := mark } : Registry).findOrMake name make).1.entries =
        (r.findOrMake name make).1.entries := by
  have hmarked : ({ r with poisoned := mark } : Registry).find? name = r.find? name := rfl
  unfold findOrMake
  rw [hmarked]
  cases r.find? name with
  | some type => exact ⟨rfl, rfl⟩
  | none => cases make <;> exact ⟨rfl, rfl⟩

section

variable {make : Except Payload ForeignType}

/-- A look-up that panics leaves nothing but the mark. -/
theorem findOrMake_of_error {payload : Payload}
    (hresult : (r.findOrMake name make).2.result = .error payload) :
    (r.findOrMake name make).1 = { r with poisoned := true } := by
  obtain ⟨type, -, hlook⟩ | ⟨type, -, -, hlook⟩ | ⟨payload, -, -, hlook⟩ :=
    r.findOrMake_cases name make
  · rw [hlook] at hresult
    cases hresult
  · rw [hlook] at hresult
    cases hresult
  · rw [hlook]

/-- One that completes has fixed what it returns. -/
theorem find?_of_ok (hresult : (r.findOrMake name make).2.result = .ok type) :
    (r.findOrMake name make).1.find? name = some type := by
  obtain ⟨found, hfind, hlook⟩ | ⟨made, hfind, -, hlook⟩ | ⟨payload, -, -, hlook⟩ :=
    r.findOrMake_cases name make
  · rw [hlook] at hresult ⊢
    rw [hfind]
    exact congrArg some (Except.ok.inj hresult)
  · rw [hlook] at hresult ⊢
    rw [find?] at hfind ⊢
    rw [List.lookup_append, hfind, Option.none_or, List.lookup_cons_self]
    exact congrArg some (Except.ok.inj hresult)
  · rw [hlook] at hresult
    cases hresult

/-- A maker runs if nothing is found. -/
theorem made_iff : (r.findOrMake name make).2.made = true ↔ r.find? name = none := by
  obtain ⟨type, hfind, hlook⟩ | ⟨type, hfind, -, hlook⟩ | ⟨payload, hfind, -, hlook⟩ :=
    r.findOrMake_cases name make
  · simp [hlook, hfind]
  · simp [hlook, hfind]
  · simp [hlook, hfind]

/-- What it returns is what is returned. -/
theorem make_of_made (hmade : (r.findOrMake name make).2 = ⟨.ok type, true⟩) :
    make = .ok type := by
  obtain ⟨found, -, hlook⟩ | ⟨made, -, rfl, hlook⟩ | ⟨payload, -, -, hlook⟩ :=
    r.findOrMake_cases name make
  · rw [hlook] at hmade
    cases hmade
  · rw [hlook] at hmade
    cases hmade
    rfl
  · rw [hlook] at hmade
    cases hmade

end

/-- A use that looks up and may register is a look-up with some maker. -/
theorem looked {use : Use} {lookup : Lookup} (hanswer : (r.perform use).2 = .looked lookup) :
    ∃ make, r.perform use =
      ((r.findOrMake use.name make).1, .looked (r.findOrMake use.name make).2) ∧
      lookup = (r.findOrMake use.name make).2 := by
  cases use with
  | register own =>
    cases hanswer
    exact ⟨.ok own, rfl, rfl⟩
  | findOrMake name make =>
    cases hanswer
    exact ⟨make, rfl, rfl⟩
  | find name => cases hanswer

/-- A mark makes no difference to any use. -/
theorem perform_poisoned (r : Registry) (mark : Bool) (use : Use) :
    (({ r with poisoned := mark } : Registry).perform use).2 = (r.perform use).2 ∧
      (({ r with poisoned := mark } : Registry).perform use).1.entries =
        (r.perform use).1.entries := by
  cases use with
  | register own =>
    obtain ⟨hanswer, hentries⟩ := findOrMake_poisoned r mark own.name (.ok own)
    exact ⟨congrArg Answer.looked hanswer, hentries⟩
  | findOrMake name make =>
    obtain ⟨hanswer, hentries⟩ := findOrMake_poisoned r mark name make
    exact ⟨congrArg Answer.looked hanswer, hentries⟩
  | find name => exact ⟨rfl, rfl⟩

/-- Descriptors that came by being registered carry the names under which they are found. -/
theorem own_of_registered (uses : Nat → Use) {n : Nat}
    (hregistered : ∀ k < n, ∀ name make type, uses k = .findOrMake name make →
      inUse.answer uses k ≠ .looked ⟨.ok type, true⟩)
    (hfind : (inUse.after uses n).find? name = some type) : type.name = name := by
  induction n with
  | zero => cases hfind
  | succ n ih =>
    obtain hold | ⟨hname, hmade⟩ := find?_perform hfind
    · exact ih (fun k hk => hregistered k (Nat.lt_succ_of_lt hk)) hold
    · cases huse : uses n with
      | register own =>
        -- what was made is the descriptor that was registered
        rw [huse] at hname hmade
        have hmake := make_of_made (Answer.looked.inj hmade)
        cases hmake
        exact hname
      | findOrMake key make =>
        exact absurd hmade (hregistered n (Nat.lt_succ_self n) key make type huse)
      | find key =>
        rw [huse] at hmade
        cases hmade

/-- **The first descriptor wins**, over every sequence of calls: makers that panic, descriptors
    that carry other names and calls on a registry where makers have panicked included. -/
theorem first_wins (uses : Nat → Use) : FirstWins uses := by
  have hfollows := follows_ofUses uses
  constructor
  case answers =>
    intro n
    exact ((hfollows n).perform (uses n)).1
  case found =>
    intro n
    exact (hfollows n).find?
  case made =>
    intro n lookup hanswer
    obtain ⟨make, -, rfl⟩ := looked hanswer
    exact made_iff
  case fixed =>
    intro n type made hanswer m hm
    obtain ⟨make, hperform, hlookup⟩ := looked hanswer
    have hafter : (inUse.after uses (n + 1)).find? (uses n).name = some type := by
      rw [Component.after_succ]
      show ((inUse.after uses n).perform (uses n)).1.find? _ = _
      rw [hperform]
      exact find?_of_ok (by rw [← hlookup])
    exact fixed_of_find? (find?_mono uses hm hafter)
  case early =>
    intro n name type hfind m hm
    exact fixed_of_find? (find?_mono uses hm hfind)
  case panicked =>
    intro n payload made hanswer
    obtain ⟨make, hperform, hlookup⟩ := looked hanswer
    have hafter : inUse.after uses (n + 1) = { inUse.after uses n with poisoned := true } := by
      rw [Component.after_succ]
      show ((inUse.after uses n).perform (uses n)).1 = _
      rw [hperform]
      exact findOrMake_of_error (by rw [← hlookup])
    rw [hafter]
    exact ⟨rfl, rfl, fun _ => rfl⟩
  case poisoned =>
    intro n mark use
    exact perform_poisoned (inUse.after uses n) mark use
  case order =>
    intro n
    exact (hfollows n).names
  case once =>
    intro n
    exact (hfollows n).nodup
  case size =>
    intro n
    exact (List.length_map _).symm
  case names =>
    intro n name
    exact mem_names.symm
  case own =>
    intro n hregistered name type hfind
    exact own_of_registered uses hregistered hfind

end Registry

end ForeignArena
