import Dpcp.Machine.Keyed
import Dpcp.Machine.Ledger

/-!
# Things that refer to each other

Things stand under keys and refer to others by their keys.  A thing can be given a number, one after
the other, and when a thing ends its number is written to a log.  A thing that refers to another is
to end first.

If a thing is given a number only when it has none, and ends only when nothing refers to it, then
every number given out is with one thing or in the log once, and the log has the numbers in the
order in which they are to end.
-/

namespace References

open Keyed Ledger

variable {κ : Type*} [DecidableEq κ]

/-- A thing, with the keys of those it refers to and its number. -/
structure Item (κ : Type*) where
  key : κ
  refs : List κ
  num : Option Nat

/-- The things that are there, how many numbers were given out, which have ended, and which were
given to a thing with reference to the thing of another. -/
structure Space (κ : Type*) where
  items : List (Item κ)
  made : Nat
  log : List Nat
  links : List (Nat × Nat)

/-- The numbers are with two things of which the first refers to the second. -/
def Refers (items : List (Item κ)) (i j : Nat) : Prop :=
  ∃ x ∈ items, ∃ y ∈ items, y.key ∈ x.refs ∧ x.num = some i ∧ y.num = some j

/-- Keys are not used twice, references lead to things, each number given out is with one thing or
in the log once, and the log has the order of the references. -/
structure Inv (s : Space κ) : Prop where
  keys : (s.items.map Item.key).Nodup
  refs : ∀ x ∈ s.items, ∀ k ∈ x.refs, ∃ y ∈ s.items, y.key = k
  once : ∀ i, s.log.count i + (s.items.filterMap Item.num).count i
    = if i < s.made then 1 else 0
  ordered : Ordered s.links (Refers s.items) s.log

namespace Inv

omit [DecidableEq κ] in
theorem empty :
  Inv (⟨[], 0, [], []⟩ : Space κ)
  := by
  constructor
  · apply List.nodup_nil
  · intro x hx
    cases hx
  · intro i
    rfl
  · intro l hl
    cases hl

omit [DecidableEq κ] in
/-- The order of the things does not matter. -/
theorem perm {s : Space κ} (hs : Inv s) {items : List (Item κ)} (h : items.Perm s.items) :
  Inv { s with items := items }
  := by
  constructor
  · apply (h.map Item.key).nodup_iff.mpr hs.keys
  · intro x hx k hk
    obtain ⟨y, hy, hkey⟩ := hs.refs x (h.mem_iff.mp hx) k hk
    exact ⟨y, h.mem_iff.mpr hy, hkey⟩
  · intro i
    rw [(h.filterMap Item.num).count_eq i]
    apply hs.once
  · apply hs.ordered.mono
    rintro i j ⟨x, hx, y, hy, hrefs⟩
    exact ⟨x, h.mem_iff.mpr hx, y, h.mem_iff.mpr hy, hrefs⟩

variable {s : Space κ} (hs : Inv s)

include hs

/-- A number is with one thing. -/
theorem unique {x y : Item κ} (hx : x ∈ s.items) (hy : y ∈ s.items) {i : Nat}
    (hi : x.num = some i) (hi' : y.num = some i) :
  x = y
  := by
  by_contra hne
  have hkey : y.key ≠ x.key := by
    intro hkey
    apply hne
    apply eq_of_key hs.keys hx hy hkey.symm
  have hrest : y ∈ remove Item.key x.key s.items := mem_remove.mpr ⟨hy, hkey⟩
  have hcount := count_remove Item.num hs.keys hx i
  have hpos := count_pos_of_mem hrest hi'
  have hone := hs.once i
  have hfirst : x.num.toList.count i = 1 := by
    simp [hi]
  split at hone <;> omega

omit [DecidableEq κ] in
/-- The number of a thing is not in the log. -/
theorem not_mem_log {x : Item κ} (hx : x ∈ s.items) {i : Nat} (hi : x.num = some i) :
  i ∉ s.log
  := by
  intro hmem
  have hlog := List.count_pos_iff.mpr hmem
  have hpos := count_pos_of_mem hx hi
  have hone := hs.once i
  split at hone <;> omega

/-- A thing ends to which nothing refers. -/
theorem finish {x : Item κ} (hx : x ∈ s.items) (hfree : ∀ y ∈ s.items, x.key ∉ y.refs) :
  Inv { s with items := remove Item.key x.key s.items, log := s.log ++ x.num.toList }
  := by
  constructor
  · apply nodup_remove hs.keys
  · intro y hy k hk
    obtain ⟨hy, -⟩ := mem_remove.mp hy
    obtain ⟨z, hz, rfl⟩ := hs.refs y hy k hk
    refine ⟨z, mem_remove.mpr ⟨hz, ?_⟩, rfl⟩
    intro hkey
    apply hfree y hy
    rw [← hkey]
    apply hk
  · intro i
    have hcount := count_remove Item.num hs.keys hx i
    have hone := hs.once i
    simp only [List.count_append]
    omega
  · apply hs.ordered.append
    rintro i j ⟨y, hy, z, hz, hrefs, hi, hj⟩
    have hne : z.key ≠ x.key := by
      intro hkey
      apply hfree y hy
      rw [← hkey]
      apply hrefs
    constructor
    · intro hmem
      rw [Option.mem_toList] at hmem
      apply hne
      rw [hs.unique hz hx hj hmem]
    · by_cases hkey : y.key = x.key
      · left
        rw [Option.mem_toList, ← eq_of_key hs.keys hy hx hkey]
        apply hi
      · right
        exact ⟨y, mem_remove.mpr ⟨hy, hkey⟩, z, mem_remove.mpr ⟨hz, hne⟩, hrefs, hi, hj⟩

omit [DecidableEq κ] in
/-- A new thing without a number. -/
theorem add {x : Item κ} (hfresh : ∀ y ∈ s.items, y.key ≠ x.key)
    (hrefs : ∀ k ∈ x.refs, ∃ y ∈ s.items, y.key = k) (hnum : x.num = none) :
  Inv { s with items := x :: s.items }
  := by
  constructor
  · apply List.nodup_cons.mpr ⟨?_, hs.keys⟩
    intro hmem
    obtain ⟨y, hy, hkey⟩ := List.mem_map.mp hmem
    apply hfresh y hy hkey
  · intro y hy k hk
    have hthere : ∃ z ∈ s.items, z.key = k := by
      rcases List.mem_cons.mp hy with rfl | hy
      · apply hrefs k hk
      · apply hs.refs y hy k hk
    obtain ⟨z, hz, hkey⟩ := hthere
    exact ⟨z, List.mem_cons_of_mem x hz, hkey⟩
  · intro i
    rw [List.filterMap_cons_none hnum]
    apply hs.once
  · apply hs.ordered.mono
    rintro i j ⟨y, hy, z, hz, hrefs⟩
    exact ⟨y, List.mem_cons_of_mem x hy, z, List.mem_cons_of_mem x hz, hrefs⟩

/-- A thing without a number is given one, with reference to things that it refers to. -/
theorem number {x : Item κ} (hx : x ∈ s.items) (hnum : x.num = none) {targets : List Nat}
    (htargets : ∀ j ∈ targets, ∃ y ∈ s.items, y.key ∈ x.refs ∧ y.num = some j) :
  Inv { s with
    items := update Item.key x.key (fun x => { x with num := some s.made }) s.items
    made := s.made + 1
    links := targets.map (fun j => (s.made, j)) ++ s.links }
  := by
  let f (x : Item κ) : Item κ := { x with num := some s.made }
  -- a thing with a number is another one, and stays as it is
  have hsame {y : Item κ} (hy : y ∈ s.items) {i : Nat} (hi : y.num = some i) :
      y ∈ update Item.key x.key f s.items := by
    apply mem_update.mpr ⟨y, hy, if_neg _⟩
    intro hkey
    rw [eq_of_key hs.keys hy hx hkey, hnum] at hi
    cases hi
  have hnew : f x ∈ update Item.key x.key f s.items := mem_update.mpr ⟨x, hx, if_pos rfl⟩
  have hkeys : (update Item.key x.key f s.items).map Item.key = s.items.map Item.key := by
    apply map_update
    intro y
    rfl
  constructor
  · apply hkeys ▸ hs.keys
  · intro y hy k hk
    obtain ⟨z, hz, rfl⟩ := mem_update.mp hy
    have hk : k ∈ z.refs := by
      split at hk <;> apply hk
    obtain ⟨w, hw, hkey⟩ := hs.refs z hz k hk
    refine ⟨_, mem_update.mpr ⟨w, hw, rfl⟩, ?_⟩
    split <;> apply hkey
  · intro i
    have hcount := count_remove Item.num hs.keys hx i
    have hcount' := count_update Item.num hs.keys hx f i
    have hone := hs.once i
    rw [hnum, Option.toList_none, List.count_nil] at hcount
    have hfirst : (f x).num.toList.count i = if s.made = i then 1 else 0 := by
      simp [f, List.count_singleton]
    have hgoal : s.log.count i + ((update Item.key x.key f s.items).filterMap Item.num).count i
        = if i < s.made + 1 then 1 else 0 := by
      rw [hcount', hfirst]
      split_ifs at hone ⊢ <;> omega
    apply hgoal
  · apply Ordered.add
    · apply hs.ordered.mono
      rintro i j ⟨y, hy, z, hz, hrefs, hi, hj⟩
      exact ⟨y, hsame hy hi, z, hsame hz hj, hrefs, hi, hj⟩
    · intro l hl
      obtain ⟨j, hj, rfl⟩ := List.mem_map.mp hl
      obtain ⟨y, hy, hrefs, hj⟩ := htargets j hj
      exact ⟨hs.not_mem_log hy hj, f x, hnew, y, hsame hy hj, hrefs, rfl, hj⟩

end Inv

end References
