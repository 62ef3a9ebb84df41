import Dpcp.Machine.Keyed

/-!
# Things in the sets of their owners

A thing is made in the set of an owner, and can be held from outside as well.  It goes when it is in
no set and nothing holds it.  It refers to its owner by a number, and that does not hold the owner:
the owner can go before the thing does.

Things are numbered as they are made, so that a number does not come to stand for another thing.
-/

namespace Custody

open Keyed

/-- A thing with the number of its owner; `placed` tells whether it is in the set of the owner, and
`held` how often it is held from outside. -/
structure Thing (α : Type*) where
  num : Nat
  obj : α
  owner : Nat
  placed : Bool
  held : Nat

/-- The things that are there, with the newest first, and how many were made. -/
structure Store (α : Type*) where
  things : List (Thing α)
  made : Nat
  nodup : (things.map Thing.num).Nodup
  fresh : ∀ x ∈ things, x.num < made

namespace Store

variable {α β : Type*}

/-- No things. -/
def empty : Store α :=
  ⟨[], 0, List.nodup_nil, List.forall_mem_nil _⟩

/-- The thing under a number. -/
def find (s : Store α) (k : Nat) : Option (Thing α) :=
  lookup Thing.num k s.things

/-- A new thing, in the set of its owner. -/
def add (s : Store α) (obj : α) (owner : Nat) : Store α where
  things := ⟨s.made, obj, owner, true, 0⟩ :: s.things
  made := s.made + 1
  nodup := by
    apply List.nodup_cons.mpr ⟨_, s.nodup⟩
    intro hmem
    obtain ⟨x, hx, hnum⟩ := List.mem_map.mp hmem
    apply Nat.ne_of_lt (s.fresh x hx) hnum
  fresh := by
    intro x hx
    rcases List.mem_cons.mp hx with rfl | hx
    · apply Nat.lt_succ_self
    · apply Nat.lt_succ_of_lt (s.fresh x hx)

/-- A change of the thing under a number. -/
def change (s : Store α) (k : Nat) (obj : α → α) (placed : Bool → Bool) (held : Nat → Nat) :
    Store α where
  things := update Thing.num k (fun x =>
    { x with obj := obj x.obj, placed := placed x.placed, held := held x.held }) s.things
  made := s.made
  nodup := by
    rw [map_update]
    · apply s.nodup
    · intro x
      rfl
  fresh := by
    apply forall_mem_update
    · intro x hx _
      apply s.fresh x hx
    · intro x hx _
      apply s.fresh x hx

/-- The things that stay when the owners are those for which `alive` holds. -/
def sweep (s : Store α) (alive : Nat → Bool) : Store α where
  things := (s.things.map fun x => { x with placed := x.placed && alive x.owner }).filter fun x =>
    x.placed || 0 < x.held
  made := s.made
  nodup := by
    apply List.Nodup.sublist (List.filter_sublist.map _)
    rw [List.map_map]
    apply s.nodup
  fresh := by
    intro x hx
    obtain ⟨y, hy, rfl⟩ := List.mem_map.mp (List.mem_of_mem_filter hx)
    apply s.fresh y hy

theorem find_eq_some {s : Store α} {k : Nat} {x : Thing α} (h : s.find k = some x) :
  x ∈ s.things ∧ x.num = k
  := lookup_eq_some h

/-- A thing that is in a set after the sweep has its owner. -/
theorem alive_of_placed {s : Store α} {alive : Nat → Bool} {x : Thing α}
    (hx : x ∈ (s.sweep alive).things) (hplaced : x.placed = true) :
  alive x.owner = true
  := by
  obtain ⟨y, -, rfl⟩ := List.mem_map.mp (List.mem_of_mem_filter hx)
  apply (Bool.and_eq_true_iff.mp hplaced).2

/-- The things of the second store are some of those of the first one, and what `view` shows of them
is the same. -/
structure From (view : α → β) (s s' : Store α) : Prop where
  made : s'.made = s.made
  same : ∀ x' ∈ s'.things, ∃ x ∈ s.things,
    x'.num = x.num ∧ x'.owner = x.owner ∧ view x'.obj = view x.obj

namespace From

variable {view : α → β} {s : Store α}

theorem refl (view : α → β) (s : Store α) :
  From view s s
  := ⟨rfl, fun x hx => ⟨x, hx, rfl, rfl, rfl⟩⟩

theorem change {k : Nat} {obj : α → α}
    (hview : ∀ x ∈ s.things, x.num = k → view (obj x.obj) = view x.obj) (placed : Bool → Bool)
    (held : Nat → Nat) :
  From view s (s.change k obj placed held)
  := by
  refine ⟨rfl, ?_⟩
  apply forall_mem_update
  · intro x hx _
    exact ⟨x, hx, rfl, rfl, rfl⟩
  · intro x hx hnum
    exact ⟨x, hx, rfl, rfl, hview x hx hnum⟩

theorem sweep (view : α → β) (s : Store α) (alive : Nat → Bool) :
  From view s (s.sweep alive)
  := by
  refine ⟨rfl, ?_⟩
  intro x' hx'
  obtain ⟨x, hx, rfl⟩ := List.mem_map.mp (List.mem_of_mem_filter hx')
  exact ⟨x, hx, rfl, rfl, rfl⟩

end From

end Store

end Custody
