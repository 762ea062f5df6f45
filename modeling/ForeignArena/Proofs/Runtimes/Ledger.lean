import ForeignArena.Proofs.Heaps
import ForeignArena.Proofs.Histories
import Mathlib.Data.List.Nodup

namespace ForeignArena

/-!
# Who holds the objects of a heap

Each object of a heap is held by the wrapper that was made for it, up to the moment at
which the disposal of the wrapper comes to its destroy routine, and by those who have
taken extra references to it.  As long as all give back only what they hold, nothing is
freed that is held, and nothing is freed twice.

* `Wrapped` — an instance with the object that was allocated for it;
* `Heap.giveUp` — a wrapper gives up its reference, in the manner of its kind;
* `Heap.Serves` — a heap that serves its wrappers;
* `Heap.Serves.allocated`, `Heap.Serves.refused`, `Heap.Serves.granted` — new objects;
* `Heap.Serves.retained`, `Heap.Serves.released`, `Heap.Serves.ended` — what may happen to
  them.
-/

/-! ### Kinds of objects -/

/-- The name of the type of the objects of a kind. -/
def TypeKind.typeName : TypeKind → String
  | reference => Store.objectTypeName
  | value => Store.valueTypeName

/-- Where the routines of the objects of a kind are that live on a heap. -/
def TypeKind.heapRoutines (h : Nat) : TypeKind → Routines
  | reference => .heapObject h
  | value => .heapValue h

/-- A type of objects of some kind that live on a heap. -/
structure ForeignType.Serves (type : ForeignType) (h : Nat) (kind : TypeKind) : Prop where
  name : type.name = kind.typeName
  routines : type.routines = kind.heapRoutines h

namespace Heap

/-- Give up the reference to an object: a counted one is released, a value is destroyed. -/
def giveUp (h : Heap) (kind : TypeKind) (a : Address) : Heap :=
  match kind with
  | .reference => (h.release a).1
  | .value => (h.destroy a).1

/-- A reference is given up that is held; of a value it must be the only one. -/
theorem giveUp_agrees {h : Heap} {books : Books} {a : Address} (hagrees : h.Agrees books)
    (kind : TypeKind) (hheld : (books a).held ≠ 0)
    (hvalue : kind = .value → (books a).held = 1) :
    (∀ b, (h.giveUp kind a).objects.Issued b ↔ h.objects.Issued b) ∧
      (h.giveUp kind a).Agrees (books.hold a ((books a).held - 1)) := by
  cases kind with
  | reference => exact release_agrees hagrees hheld
  | value =>
    rw [hvalue rfl]
    exact destroy_agrees hagrees hheld

end Heap

/-! ### Wrappers and holders -/

/-- An instance that was made for a new object of a heap: the arena that takes care of it, and
    the kind and the payload of the object. -/
structure Wrapped where
  home : ArenaRef
  inst : Instance
  kind : TypeKind
  payload : Int64

/-- How it was registered. -/
def Wrapped.entry (w : Wrapped) : Entry := w.inst.entry w.home

namespace Heap

/-- **A heap serves its wrappers**: its books show each object with its own type and payload,
    held by its own wrapper or not, as `own` says of the disposal of the wrapper, and by the
    extra references, as `extra` says of its address.  Nothing else is held. -/
structure Serves (h : Heap) (books : Books) (wrapped : List Wrapped) (own : Disposal → Nat)
    (extra : Address → Nat) : Prop where
  agrees : h.Agrees books
  account : ∀ w ∈ wrapped, books w.inst.address =
    ⟨w.kind.typeName, w.payload, own w.inst.disposal + extra w.inst.address⟩
  stray : ∀ a, (∀ w ∈ wrapped, w.inst.address ≠ a) → (books a).held = extra a
  issued : ∀ w ∈ wrapped, h.objects.Issued w.inst.address
  distinct : (wrapped.map (·.inst.address)).Nodup
  single : ∀ w ∈ wrapped, w.kind = .value → extra w.inst.address = 0

namespace Serves

variable {h after : Heap} {books : Books} {wrapped : List Wrapped} {own own' : Disposal → Nat}
  {extra extra' : Address → Nat} {w : Wrapped} {a : Address}

/-- An empty heap serves nobody. -/
theorem empty (own : Disposal → Nat) :
    ({} : Heap).Serves (fun _ => ⟨"", 0, 0⟩) [] own fun _ => 0 where
  agrees := agrees_empty _ fun _ => rfl
  account := by simp
  stray _ _ := rfl
  issued := by simp
  distinct := .nil
  single := by simp

/-- No two wrappers have the same address. -/
theorem eq_of_address (hs : h.Serves books wrapped own extra) {v : Wrapped} (hw : w ∈ wrapped)
    (hv : v ∈ wrapped) (heq : v.inst.address = w.inst.address) : v = w :=
  List.inj_on_of_nodup_map hs.distinct hv hw heq

/-- Extra references are references. -/
theorem extra_le (hs : h.Serves books wrapped own extra) (a : Address) :
    extra a ≤ (books a).held := by
  by_cases hwrapped : ∃ w ∈ wrapped, w.inst.address = a
  · obtain ⟨w, hw, rfl⟩ := hwrapped
    rw [hs.account w hw]
    exact Nat.le_add_left ..
  · exact Nat.le_of_eq (hs.stray a fun w hw heq => hwrapped ⟨w, hw, heq⟩).symm

/-- The wrapper of a counted object, if there is one, is not one of a value. -/
theorem not_value (hs : h.Serves books wrapped own extra) {object : HeapObject}
    (hget : h.get? w.inst.address = some object) (hname : object.typeName = Store.objectTypeName)
    (hw : w ∈ wrapped) : w.kind ≠ .value := by
  intro hkind
  have hobject := hs.agrees.of_held (hs.agrees.held_of_get? hget)
  rw [hget, hs.account w hw, hkind] at hobject
  rw [Option.some.inj hobject] at hname
  have hne : TypeKind.value.typeName ≠ Store.objectTypeName := by decide
  exact hne hname

/-- Only what the wrappers hold matters. -/
theorem of_own (hs : h.Serves books wrapped own extra)
    (hown : ∀ w ∈ wrapped, own' w.inst.disposal = own w.inst.disposal) :
    h.Serves books wrapped own' extra :=
  { hs with account := fun w hw => by rw [hs.account w hw, hown w hw] }

/-- The references to one object are counted anew. -/
theorem recount (hs : h.Serves books wrapped own extra) (a : Address) {n : Nat}
    (hafter : after.Agrees (books.hold a n))
    (hissued : ∀ b, after.objects.Issued b ↔ h.objects.Issued b)
    (hwrapped : ∀ w ∈ wrapped, w.inst.address = a → n = own' w.inst.disposal + extra' a)
    (hstray : (∀ w ∈ wrapped, w.inst.address ≠ a) → n = extra' a)
    (hown : ∀ d, d.address ≠ a → own' d = own d) (hextra : ∀ b, b ≠ a → extra' b = extra b)
    (hsingle : ∀ w ∈ wrapped, w.inst.address = a → w.kind = .value → extra' a = 0) :
    after.Serves (books.hold a n) wrapped own' extra' where
  agrees := hafter
  account w hw := by
    by_cases hwa : w.inst.address = a
    · have hn := hwrapped w hw hwa
      have haccount := hs.account w hw
      rw [hwa] at haccount ⊢
      rw [Books.hold_same, haccount, hn]
    · rw [books.hold_of_ne hwa, hs.account w hw, hown w.inst.disposal hwa, hextra _ hwa]
  stray b hb := by
    by_cases hba : b = a
    · subst hba
      rw [Books.hold_same]
      exact hstray hb
    · rw [books.hold_of_ne hba, hextra b hba]
      exact hs.stray b hb
  issued w hw := (hissued _).mpr (hs.issued w hw)
  distinct := hs.distinct
  single w hw hkind := by
    by_cases hwa : w.inst.address = a
    · rw [hwa]
      exact hsingle w hw hwa hkind
    · rw [hextra _ hwa]
      exact hs.single w hw hkind

/-! ### What may happen to objects -/

/-- **An extra reference is taken** to a counted object. -/
theorem retained (hs : h.Serves books wrapped own extra) {object : HeapObject}
    (hget : h.get? a = some object) (hname : object.typeName = Store.objectTypeName)
    (hcount : object.retainCount.toNat + 1 < 2 ^ 64) :
    ∃ books', (h.retain a).1.Serves books' wrapped own
      (Function.update extra a (extra a + 1)) := by
  rw [hs.agrees.retainCount hget] at hcount
  obtain ⟨hissued, hagrees⟩ := retain_agrees hs.agrees (hs.agrees.held_of_get? hget) hcount
  refine ⟨_, hs.recount a hagrees hissued ?_ ?_ (fun _ _ => rfl)
    (fun b hba => Function.update_of_ne hba ..) ?_⟩
  · rintro w hw rfl
    rw [hs.account w hw, Function.update_self, Nat.add_assoc]
  · intro hnone
    rw [hs.stray a hnone, Function.update_self]
  · -- values are not counted, and this is a counted object
    rintro w hw rfl hkind
    exact absurd hkind (hs.not_value hget hname hw)

/-- **An extra reference is given back.** -/
theorem released (hs : h.Serves books wrapped own extra) (hpos : 0 < extra a) :
    ∃ books', (h.release a).1.Serves books' wrapped own
      (Function.update extra a (extra a - 1)) := by
  have hheld := hs.extra_le a
  obtain ⟨hissued, hagrees⟩ := release_agrees hs.agrees (a := a) (by omega)
  refine ⟨_, hs.recount a hagrees hissued ?_ ?_ (fun _ _ => rfl)
    (fun b hba => Function.update_of_ne hba ..) ?_⟩
  · rintro w hw rfl
    rw [hs.account w hw, Function.update_self]
    dsimp only
    omega
  · intro hnone
    rw [hs.stray a hnone, Function.update_self]
  · rintro w hw rfl hkind
    rw [hs.single w hw hkind] at hpos
    cases hpos

/-- **The disposal of a wrapper comes to its destroy routine**: it gives up the reference of
    the wrapper. -/
theorem ended (hs : h.Serves books wrapped own extra) (hw : w ∈ wrapped)
    (hown : own w.inst.disposal = 1) (hzero : own' w.inst.disposal = 0)
    (hothers : ∀ d, d ≠ w.inst.disposal → own' d = own d) :
    ∃ books', (h.giveUp w.kind w.inst.address).Serves books' wrapped own' extra := by
  have hheld : (books w.inst.address).held = 1 + extra w.inst.address := by
    rw [hs.account w hw, hown]
  -- a value is freed at once, which is right as its wrapper is the only one to hold it
  have hvalue (hkind : w.kind = .value) : (books w.inst.address).held = 1 := by
    rw [hheld, hs.single w hw hkind]
  obtain ⟨hissued, hagrees⟩ := giveUp_agrees hs.agrees w.kind (by omega) hvalue
  refine ⟨_, hs.recount w.inst.address hagrees hissued ?_ ?_ ?_ (fun _ _ => rfl) ?_⟩
  · intro v hv hvw
    rw [hs.eq_of_address hw hv hvw, hheld, hzero]
    omega
  · exact fun hnone => absurd rfl (hnone w hw)
  · exact fun d hd => hothers d fun heq => hd (congrArg Disposal.address heq)
  · intro v hv hvw hkind
    rw [← hvw]
    exact hs.single v hv hkind

/-! ### New objects -/

/-- The address of a new object belongs to no wrapper, and nobody holds it. -/
theorem of_fresh (hs : h.Serves books wrapped own extra) (hfresh : ¬h.objects.Issued a) :
    (∀ w ∈ wrapped, w.inst.address ≠ a) ∧ extra a = 0 := by
  have hne (w : Wrapped) (hw : w ∈ wrapped) : w.inst.address ≠ a := by
    rintro rfl
    exact hfresh (hs.issued w hw)
  refine ⟨hne, Decidable.by_contra fun hextra => hfresh (hs.agrees.issued ?_)⟩
  rw [hs.stray a hne]
  exact hextra

/-- **A new object is wrapped.** -/
theorem allocated (hs : h.Serves books wrapped own extra) (hroom : h.objects.HasRoom)
    (kind : TypeKind) (payload : Int64) (home : ArenaRef) {i : Instance}
    (haddress : i.address = (h.allocate kind.typeName payload).2) (hown : own i.disposal = 1) :
    ∃ books', (h.allocate kind.typeName payload).1.Serves books'
      (wrapped ++ [⟨home, i, kind, payload⟩]) own extra := by
  obtain ⟨hfresh, hissued, hagrees⟩ := allocate_agrees hs.agrees hroom kind.typeName payload
  rw [← haddress] at hfresh hissued hagrees
  obtain ⟨hnone, hextra⟩ := hs.of_fresh hfresh
  refine ⟨_, hagrees, fun w hw => ?_, fun b hb => ?_, fun w hw => ?_, ?_, fun w hw hkind => ?_⟩
  · obtain hw | hw := List.mem_append.mp hw
    · rw [Function.update_of_ne (hnone w hw)]
      exact hs.account w hw
    · obtain rfl := List.mem_singleton.mp hw
      rw [Function.update_self, hown, hextra]
  · have hbi : b ≠ i.address := fun heq => hb ⟨home, i, kind, payload⟩ (by simp) heq.symm
    rw [Function.update_of_ne hbi]
    exact hs.stray b fun w hw => hb w (List.mem_append_left _ hw)
  · rw [hissued]
    obtain hw | hw := List.mem_append.mp hw
    · exact .inr (hs.issued w hw)
    · obtain rfl := List.mem_singleton.mp hw
      exact .inl rfl
  · rw [List.map_append]
    refine List.nodup_append.mpr ⟨hs.distinct, by simp, ?_⟩
    rintro b hb c hc rfl
    obtain ⟨w, hw, rfl⟩ := List.mem_map.mp hb
    exact hnone w hw (List.mem_singleton.mp hc)
  · obtain hw | hw := List.mem_append.mp hw
    · exact hs.single w hw hkind
    · obtain rfl := List.mem_singleton.mp hw
      exact hextra

/-- **A new object is given up** as nobody takes it. -/
theorem refused (hs : h.Serves books wrapped own extra) (hroom : h.objects.HasRoom)
    (typeName : String) (payload : Int64) (kind : TypeKind) :
    ∃ books', ((h.allocate typeName payload).1.giveUp kind (h.allocate typeName payload).2).Serves
      books' wrapped own extra := by
  obtain ⟨hfresh, hissued, hagrees⟩ := allocate_agrees hs.agrees hroom typeName payload
  obtain ⟨hnone, hextra⟩ := hs.of_fresh hfresh
  obtain ⟨hissued', hagrees'⟩ := giveUp_agrees hagrees kind
    (a := (h.allocate typeName payload).2) (by simp) (by simp)
  refine ⟨_, hagrees', fun w hw => ?_, fun b hb => ?_, fun w hw => ?_, hs.distinct, hs.single⟩
  · rw [Books.hold_of_ne _ (hnone w hw), Function.update_of_ne (hnone w hw)]
    exact hs.account w hw
  · by_cases hba : b = (h.allocate typeName payload).2
    · subst hba
      simp [hextra]
    · rw [Books.hold_of_ne _ hba, Function.update_of_ne hba]
      exact hs.stray b hb
  · rw [hissued', hissued]
    exact .inr (hs.issued w hw)

/-- **A new object goes to a client**, who holds its reference as an extra one. -/
theorem granted (hs : h.Serves books wrapped own extra) (hroom : h.objects.HasRoom)
    (typeName : String) (payload : Int64) :
    ∃ books', (h.allocate typeName payload).1.Serves books' wrapped own
      (Function.update extra (h.allocate typeName payload).2 1) := by
  obtain ⟨hfresh, hissued, hagrees⟩ := allocate_agrees hs.agrees hroom typeName payload
  obtain ⟨hnone, -⟩ := hs.of_fresh hfresh
  refine ⟨_, hagrees, fun w hw => ?_, fun b hb => ?_, fun w hw => ?_, hs.distinct,
    fun w hw hkind => ?_⟩
  · rw [Function.update_of_ne (hnone w hw), Function.update_of_ne (hnone w hw)]
    exact hs.account w hw
  · by_cases hba : b = (h.allocate typeName payload).2
    · subst hba
      rw [Function.update_self, Function.update_self]
    · rw [Function.update_of_ne hba, Function.update_of_ne hba]
      exact hs.stray b hb
  · rw [hissued]
    exact .inr (hs.issued w hw)
  · rw [Function.update_of_ne (hnone w hw)]
    exact hs.single w hw hkind

end Serves

end Heap

end ForeignArena
