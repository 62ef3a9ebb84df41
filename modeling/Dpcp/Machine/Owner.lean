import Mathlib.Data.List.Nodup
import Mathlib.Logic.Function.Basic
import Dpcp.Machine.Run

/-!
# Owners of objects

An owner has slots, and each slot holds an object or nothing.  Objects are numbered in the order
in which they are made.  An owner makes an object and stores it in a slot, whatever the slot held;
it stores nothing in a slot; or it destroys the object of a slot.

An object that no slot holds any more can never be destroyed.  So an owner that ends with empty
slots has destroyed each of its objects once exactly if it never stored over an object.

A `Lifecycle` is a class of owners, given by the calls on its objects.
-/

namespace Owner

open Machine

/-- What an owner does with a slot. -/
inductive Op (κ : Type*) where
  | keep
  | acquire (k : κ)
  | clear (k : κ)
  | release (k : κ)

/-- What the slots hold, how many objects were made, and which were destroyed. -/
structure Holdings (κ : Type*) where
  held : κ → Option Nat
  made : Nat
  freed : List Nat

namespace Holdings

variable {κ : Type*}

/-- An owner that has made nothing. -/
def new : Holdings κ :=
  ⟨fun _ => none, 0, []⟩

/-- The object was made and not destroyed. -/
def Live (s : Holdings κ) (i : Nat) : Prop :=
  i < s.made ∧ i ∉ s.freed

/-- At most one object is there. -/
def AtMostOne (s : Holdings κ) : Prop :=
  ∀ i j, s.Live i → s.Live j → i = j

/-- Every object that was made has been destroyed, once. -/
def FreedOnce (s : Holdings κ) : Prop :=
  ∀ i < s.made, s.freed.count i = 1

/-- No object is lost: it was destroyed, or a slot holds it. -/
def Tidy (s : Holdings κ) : Prop :=
  ∀ i < s.made, i ∈ s.freed ∨ ∃ k, s.held k = some i

/-- Nothing is held. -/
def Empty (s : Holdings κ) : Prop :=
  ∀ k, s.held k = none

/-- What an owner may do: make an object when it holds none, and store nothing only over nothing. -/
def Allowed (s : Holdings κ) : Op κ → Prop
  | .keep => True
  | .acquire _ => s.Empty
  | .clear k => s.held k = none
  | .release _ => True

variable [DecidableEq κ]

/-- The holdings after an operation. -/
def step (s : Holdings κ) : Op κ → Holdings κ
  | .keep => s
  | .acquire k => ⟨Function.update s.held k (some s.made), s.made + 1, s.freed⟩
  | .clear k => { s with held := Function.update s.held k none }
  | .release k =>
      { s with
        held := Function.update s.held k none
        freed := s.freed ++ (s.held k).toList }

/-! ### What always holds -/

/-- The objects in the slots are there, and each in one slot only. -/
structure Inv (s : Holdings κ) : Prop where
  heldLive : ∀ k i, s.held k = some i → s.Live i
  heldInj : ∀ k k' i, s.held k = some i → s.held k' = some i → k = k'
  freedLt : ∀ i ∈ s.freed, i < s.made
  freedNodup : s.freed.Nodup

omit [DecidableEq κ] in
theorem inv_new :
  (new : Holdings κ).Inv
  := by
  constructor
  · intro k i hk
    cases hk
  · intro k k' i hk
    cases hk
  · intro i hi
    cases hi
  · apply List.nodup_nil

/-- What a slot holds after something was stored in one. -/
theorem held_update {held : κ → Option Nat} {k k' : κ} {x : Option Nat} {i : Nat}
    (h : Function.update held k x k' = some i) :
  k' = k ∧ x = some i ∨ k' ≠ k ∧ held k' = some i
  := by
  by_cases heq : k' = k
  · subst heq
    rw [Function.update_self] at h
    exact .inl ⟨rfl, h⟩
  · rw [Function.update_of_ne heq] at h
    exact .inr ⟨heq, h⟩

/-- Each object is in one slot only after something was stored that no slot held. -/
theorem inj_update {held : κ → Option Nat}
    (hinj : ∀ k k' i, held k = some i → held k' = some i → k = k') {x : Option Nat}
    (hx : ∀ k i, held k = some i → x ≠ some i) (k k₁ k₂ : κ) (i : Nat)
    (h₁ : Function.update held k x k₁ = some i) (h₂ : Function.update held k x k₂ = some i) :
  k₁ = k₂
  := by
  rcases held_update h₁ with ⟨rfl, hi⟩ | ⟨-, h₁⟩
  · rcases held_update h₂ with ⟨rfl, -⟩ | ⟨-, h₂⟩
    · rfl
    · cases hx k₂ i h₂ hi
  · rcases held_update h₂ with ⟨-, hi⟩ | ⟨-, h₂⟩
    · cases hx k₁ i h₁ hi
    · apply hinj k₁ k₂ i h₁ h₂

theorem inv_step {s : Holdings κ} (hs : s.Inv) (op : Op κ) :
  (s.step op).Inv
  := by
  cases op with
  | keep => apply hs
  | acquire k =>
      constructor
      · intro k' i hk'
        rcases held_update hk' with ⟨-, hi⟩ | ⟨-, hk'⟩
        · cases hi
          exact ⟨Nat.lt_succ_self _, fun hmem => Nat.lt_irrefl _ (hs.freedLt _ hmem)⟩
        · obtain ⟨hlt, hmem⟩ := hs.heldLive k' i hk'
          exact ⟨Nat.lt_succ_of_lt hlt, hmem⟩
      · apply inj_update hs.heldInj
        intro k' i hk' hi
        cases hi
        cases Nat.lt_irrefl _ (hs.heldLive k' s.made hk').1
      · intro i hi
        apply Nat.lt_succ_of_lt (hs.freedLt i hi)
      · apply hs.freedNodup
  | clear k =>
      constructor
      · intro k' i hk'
        rcases held_update hk' with ⟨-, hi⟩ | ⟨-, hk'⟩
        · cases hi
        · apply hs.heldLive k' i hk'
      · apply inj_update hs.heldInj
        intro k' i _ hi
        cases hi
      · apply hs.freedLt
      · apply hs.freedNodup
  | release k =>
      have hfreed (i : Nat) (hi : i ∈ s.freed ++ (s.held k).toList) :
          i ∈ s.freed ∨ s.held k = some i := by
        simpa using hi
      constructor
      · intro k' i hk'
        rcases held_update hk' with ⟨-, hi⟩ | ⟨hne, hk'⟩
        · cases hi
        · obtain ⟨hlt, hmem⟩ := hs.heldLive k' i hk'
          refine ⟨hlt, ?_⟩
          intro hi
          rcases hfreed i hi with hi | hi
          · apply hmem hi
          · apply hne (hs.heldInj k' k i hk' hi)
      · apply inj_update hs.heldInj
        intro k' i _ hi
        cases hi
      · intro i hi
        rcases hfreed i hi with hi | hi
        · apply hs.freedLt i hi
        · apply (hs.heldLive k i hi).1
      · apply List.nodup_append'.mpr
        refine ⟨hs.freedNodup, by cases s.held k <;> simp, ?_⟩
        intro i hi hheld
        apply (hs.heldLive k i (by simpa using hheld)).2 hi

/-! ### Objects that are lost -/

/-- An object that is lost stays lost. -/
theorem tidy_of_step {s : Holdings κ} {op : Op κ} (h : (s.step op).Tidy) :
  s.Tidy
  := by
  intro i hi
  cases op with
  | keep => apply h i hi
  | acquire k =>
      rcases h i (Nat.lt_succ_of_lt hi) with hfreed | ⟨k', hk'⟩
      · exact .inl hfreed
      · rcases held_update hk' with ⟨-, heq⟩ | ⟨-, hk'⟩
        · cases heq
          cases Nat.lt_irrefl _ hi
        · exact .inr ⟨k', hk'⟩
  | clear k =>
      rcases h i hi with hfreed | ⟨k', hk'⟩
      · exact .inl hfreed
      · rcases held_update hk' with ⟨-, heq⟩ | ⟨-, hk'⟩
        · cases heq
        · exact .inr ⟨k', hk'⟩
  | release k =>
      rcases h i hi with hfreed | ⟨k', hk'⟩
      · rcases List.mem_append.mp hfreed with hfreed | hheld
        · exact .inl hfreed
        · exact .inr ⟨k, by simpa using hheld⟩
      · rcases held_update hk' with ⟨-, heq⟩ | ⟨-, hk'⟩
        · cases heq
        · exact .inr ⟨k', hk'⟩

theorem tidy_of_run {s : Holdings κ} {ops : List (Op κ)} (h : (run step s ops).Tidy) :
  s.Tidy
  := by
  induction ops generalizing s with
  | nil => apply h
  | cons op ops ih =>
      apply tidy_of_step
      apply ih h

omit [DecidableEq κ] in
/-- With nothing held, all objects were destroyed once if none is lost. -/
theorem Inv.freedOnce_iff_tidy {s : Holdings κ} (hs : s.Inv) (hempty : s.Empty) :
  s.FreedOnce ↔ s.Tidy
  := by
  constructor
  · intro h i hi
    left
    apply List.count_pos_iff.mp
    rw [h i hi]
    apply Nat.one_pos
  · intro h i hi
    rcases h i hi with hfreed | ⟨k, hk⟩
    · apply List.count_eq_one_of_mem hs.freedNodup hfreed
    · rw [hempty k] at hk
      cases hk

/-! ### What an owner may do -/

/-- One object is there after another is made just if none was held. -/
theorem atMostOne_acquire_iff {s : Holdings κ} (hs : s.Inv) (htidy : s.Tidy) (k : κ) :
  (s.step (.acquire k)).AtMostOne ↔ s.Empty
  := by
  constructor
  · intro hone k'
    by_contra hheld
    obtain ⟨i, hi⟩ := Option.ne_none_iff_exists'.mp hheld
    obtain ⟨hlt, hmem⟩ := hs.heldLive k' i hi
    -- the new object and the one that was held are both there
    have hnew : (s.step (.acquire k)).Live s.made :=
      ⟨Nat.lt_succ_self _, fun hmem => Nat.lt_irrefl _ (hs.freedLt _ hmem)⟩
    have heq := hone i s.made ⟨Nat.lt_succ_of_lt hlt, hmem⟩ hnew
    omega
  · intro hempty
    have hlive (i : Nat) (hi : (s.step (.acquire k)).Live i) : i = s.made := by
      obtain ⟨hlt, hmem⟩ := hi
      by_contra hne
      have hlt : i < s.made := Nat.lt_of_le_of_ne (Nat.le_of_lt_succ hlt) hne
      obtain ⟨k', hk'⟩ := (htidy i hlt).resolve_left hmem
      rw [hempty k'] at hk'
      cases hk'
    intro i j hi hj
    rw [hlive i hi, hlive j hj]

/-- Making an object loses none if none was held. -/
theorem tidy_acquire {s : Holdings κ} (htidy : s.Tidy) (hempty : s.Empty) (k : κ) :
  (s.step (.acquire k)).Tidy
  := by
  intro i hi
  rcases Nat.lt_succ_iff_lt_or_eq.mp hi with hlt | rfl
  · rcases htidy i hlt with hfreed | ⟨k', hk'⟩
    · exact .inl hfreed
    · rw [hempty k'] at hk'
      cases hk'
  · exact .inr ⟨k, Function.update_self ..⟩

/-- Storing nothing loses no object just if nothing was held. -/
theorem tidy_clear_iff {s : Holdings κ} (hs : s.Inv) (htidy : s.Tidy) (k : κ) :
  (s.step (.clear k)).Tidy ↔ s.held k = none
  := by
  constructor
  · intro htidy'
    by_contra hheld
    obtain ⟨i, hi⟩ := Option.ne_none_iff_exists'.mp hheld
    obtain ⟨hlt, hmem⟩ := hs.heldLive k i hi
    rcases htidy' i hlt with hfreed | ⟨k', hk'⟩
    · apply hmem hfreed
    · rcases held_update hk' with ⟨-, heq⟩ | ⟨hne, hk'⟩
      · cases heq
      · apply hne (hs.heldInj k' k i hk' hi)
  · intro hnone
    have hsame : s.step (.clear k) = s := by
      rw [step, ← hnone, Function.update_eq_self]
    rw [hsame]
    apply htidy

theorem tidy_release {s : Holdings κ} (htidy : s.Tidy) (k : κ) :
  (s.step (.release k)).Tidy
  := by
  intro i hi
  rcases htidy i hi with hfreed | ⟨k', hk'⟩
  · exact .inl (List.mem_append_left _ hfreed)
  · by_cases heq : k' = k
    · subst heq
      exact .inl (List.mem_append_right _ (by rw [hk']; simp))
    · exact .inr ⟨k', by rw [← hk']; apply Function.update_of_ne heq⟩

/-- From good holdings, what is allowed is just what leaves good holdings. -/
theorem good_step_iff {s : Holdings κ} (hs : s.Inv) (hone : s.AtMostOne) (htidy : s.Tidy)
    (op : Op κ) :
  (s.step op).AtMostOne ∧ (s.step op).Tidy ↔ s.Allowed op
  := by
  cases op with
  | keep => exact ⟨fun _ => trivial, fun _ => ⟨hone, htidy⟩⟩
  | acquire k =>
      rw [atMostOne_acquire_iff hs htidy]
      exact ⟨fun h => h.1, fun hempty => ⟨hempty, tidy_acquire htidy hempty k⟩⟩
  | clear k =>
      rw [tidy_clear_iff hs htidy]
      exact ⟨fun h => h.2, fun hnone => ⟨hone, hnone⟩⟩
  | release k =>
      refine ⟨fun _ => trivial, fun _ => ⟨?_, tidy_release htidy k⟩⟩
      rintro i j ⟨hi, hi'⟩ ⟨hj, hj'⟩
      apply hone
      · exact ⟨hi, fun hmem => hi' (List.mem_append_left _ hmem)⟩
      · exact ⟨hj, fun hmem => hj' (List.mem_append_left _ hmem)⟩

/-- An owner that ends with nothing held never had more than one object, and destroyed each once,
exactly if it did only what is allowed. -/
theorem freedOnce_iff_along {ops : List (Op κ)} (hempty : (run step new ops).Empty) :
  (∀ ops', ops' <+: ops → (run step new ops').AtMostOne) ∧ (run step new ops).FreedOnce
    ↔ Along step Allowed new ops
  := by
  let Good (s : Holdings κ) : Prop := s.AtMostOne ∧ s.Tidy
  have hend : (run step new ops).Inv := by
    apply inv_run _ inv_new
    intro s op hs
    apply inv_step hs
  have hgood : (∀ ops', ops' <+: ops → Good (run step new ops')) ↔ Along step Allowed new ops := by
    apply forall_prefix_iff_along _ _ inv_new
    · constructor
      · intro i j hi
        cases Nat.not_lt_zero _ hi.1
      · intro i hi
        cases Nat.not_lt_zero _ hi
    · intro s op _ hs hgood
      apply good_step_iff hs hgood.1 hgood.2
    · intro s op _ hs _ _
      apply inv_step hs
  rw [← hgood, hend.freedOnce_iff_tidy hempty]
  constructor
  · rintro ⟨hone, htidy⟩ ops' hinitial
    refine ⟨hone ops' hinitial, ?_⟩
    obtain ⟨rest, rfl⟩ := hinitial
    rw [run_append] at htidy
    apply tidy_of_run htidy
  · intro h
    exact ⟨fun ops' hinitial => (h ops' hinitial).1, (h ops (List.prefix_refl ops)).2⟩

end Holdings

/-! ### The end of an owner -/

section Destruct

variable {κ : Type*}

/-- An owner at its end does away with the objects of its slots; `ok` tells of each whether it is
then destroyed. -/
def destruct (slots : List κ) (ok : κ → Bool) : List (Op κ) :=
  slots.map fun k => if ok k then .release k else .clear k

variable [DecidableEq κ]

/-- Doing away with one slot. -/
theorem held_destruct_step (s : Holdings κ) (k : κ) (ok : Bool) :
  (s.step (if ok then .release k else .clear k)).held = Function.update s.held k none
  := by
  cases ok <;> rfl

theorem empty_destruct {s : Holdings κ} {slots : List κ} (ok : κ → Bool)
    (hslots : ∀ k, k ∈ slots ∨ s.held k = none) :
  (run Holdings.step s (destruct slots ok)).Empty
  := by
  induction slots generalizing s with
  | nil =>
      intro k
      rcases hslots k with hmem | hnone
      · cases hmem
      · apply hnone
  | cons k slots ih =>
      apply ih
      intro k'
      rw [held_destruct_step]
      by_cases heq : k' = k
      · exact .inr (by rw [heq]; apply Function.update_self)
      · rcases hslots k' with hmem | hnone
        · exact .inl (List.mem_of_ne_of_mem heq hmem)
        · exact .inr (by rw [← hnone]; apply Function.update_of_ne heq)

theorem along_destruct {s : Holdings κ} {slots : List κ} {ok : κ → Bool} :
  Along Holdings.step Holdings.Allowed s (destruct slots ok)
    ↔ ∀ k ∈ slots, s.held k = none ∨ ok k = true
  := by
  induction slots generalizing s with
  | nil =>
      constructor
      · intro _ k hk
        cases hk
      · intro _
        trivial
  | cons k slots ih =>
      have hfirst : s.Allowed (if ok k then .release k else .clear k)
          ↔ s.held k = none ∨ ok k = true := by
        cases ok k <;> simp [Holdings.Allowed]
      have hrest := ih (s := s.step (if ok k then .release k else .clear k))
      rw [held_destruct_step] at hrest
      rw [List.forall_mem_cons, ← hfirst]
      refine and_congr_right fun hallowed => hrest.trans ?_
      have hk := hfirst.mp hallowed
      constructor
      · intro h k' hk'
        rcases h k' hk' with hnone | hok
        · by_cases heq : k' = k
          · rw [heq]
            apply hk
          · rw [Function.update_of_ne heq] at hnone
            exact .inl hnone
        · exact .inr hok
      · intro h k' hk'
        by_cases heq : k' = k
        · exact .inl (by rw [heq]; apply Function.update_self)
        · rw [Function.update_of_ne heq]
          apply h k' hk'

end Destruct

/-! ### Classes of owners -/

/-- Which slots hold something after an operation. -/
def Op.after {κ : Type*} [DecidableEq κ] (holds : κ → Bool) : Op κ → κ → Bool
  | keep => holds
  | acquire k => Function.update holds k true
  | clear k => Function.update holds k false
  | release k => Function.update holds k false

theorem Holdings.isSome_held_step {κ : Type*} [DecidableEq κ] (o : Holdings κ) (op : Op κ) (k : κ) :
  ((o.step op).held k).isSome = op.after (fun k => (o.held k).isSome) k
  := by
  -- storing commutes with asking whether something is stored
  have hupdate (k' : κ) (x : Option Nat) : (Function.update o.held k' x k).isSome
      = Function.update (fun k => (o.held k).isSome) k' x.isSome k := by
    by_cases heq : k = k'
    · simp [heq]
    · simp [Function.update_of_ne heq]
  cases op with
  | keep => rfl
  | acquire k' => apply hupdate
  | clear k' => apply hupdate
  | release k' => apply hupdate

/-- A class of objects with slots in `κ`: what its calls do to the object, and what they do with the
slots; the object itself knows which slots hold something. -/
structure Lifecycle (κ : Type) [DecidableEq κ] where
  State : Type
  Call : Type
  step : State → Call → State
  op : State → Call → Op κ
  holds : State → κ → Bool
  holds_step : ∀ s c, holds (step s c) = (op s c).after (holds s)

namespace Lifecycle

variable {κ : Type} [DecidableEq κ] (L : Lifecycle κ)

/-- What a sequence of calls does with the slots. -/
def ops (s : L.State) : List L.Call → List (Op κ)
  | [] => []
  | c :: calls => L.op s c :: ops (L.step s c) calls

/-- The call makes no object while there is one, and stores nothing only over nothing. -/
def Allows (s : L.State) (c : L.Call) : Prop :=
  match L.op s c with
  | .keep => True
  | .acquire _ => ∀ k, L.holds s k = false
  | .clear k => L.holds s k = false
  | .release _ => True

/-- The object knows which slots of the owner hold something. -/
def Knows (s : L.State) (o : Holdings κ) : Prop :=
  ∀ k, L.holds s k = (o.held k).isSome

variable {L}

theorem Knows.step {s : L.State} {o : Holdings κ} (h : L.Knows s o) (c : L.Call) :
  L.Knows (L.step s c) (o.step (L.op s c))
  := by
  intro k
  rw [L.holds_step, Holdings.isSome_held_step, funext h]

theorem Knows.none_iff {s : L.State} {o : Holdings κ} (h : L.Knows s o) (k : κ) :
  L.holds s k = false ↔ o.held k = none
  := by
  rw [h k, Option.isSome_eq_false_iff, Option.isNone_iff_eq_none]

theorem Knows.allowed_iff {s : L.State} {o : Holdings κ} (h : L.Knows s o) (c : L.Call) :
  o.Allowed (L.op s c) ↔ L.Allows s c
  := by
  rw [Allows]
  cases L.op s c with
  | keep => exact Iff.rfl
  | acquire k =>
      constructor
      · intro hempty k'
        apply (h.none_iff k').mpr (hempty k')
      · intro hfalse k'
        apply (h.none_iff k').mp (hfalse k')
  | clear k => exact (h.none_iff k).symm
  | release k => exact Iff.rfl

theorem Knows.run {s : L.State} {o : Holdings κ} (h : L.Knows s o) (calls : List L.Call) :
  L.Knows (Machine.run L.step s calls) (Machine.run Holdings.step o (L.ops s calls))
  := by
  induction calls generalizing s o with
  | nil => apply h
  | cons c calls ih => apply ih (h.step c)

/-- The calls are along `Allows` exactly if what they do is along `Allowed`. -/
theorem Knows.along_iff {s : L.State} {o : Holdings κ} (h : L.Knows s o) (calls : List L.Call)
    (rest : List (Op κ)) :
  Along Holdings.step Holdings.Allowed o (L.ops s calls ++ rest)
    ↔ Along L.step L.Allows s calls
      ∧ Along Holdings.step Holdings.Allowed (Machine.run Holdings.step o (L.ops s calls)) rest
  := by
  induction calls generalizing s o with
  | nil =>
      constructor
      · intro hrest
        exact ⟨trivial, hrest⟩
      · rintro ⟨-, hrest⟩
        apply hrest
  | cons c calls ih =>
      have hrest := ih (h.step c)
      rw [ops, List.cons_append, Along, Along, h.allowed_iff, hrest, and_assoc, run_cons]

variable (L) in
/-- Along the calls on an object, and while the slots are emptied at its end, it never owns more
than one thing, and at the end everything it owned has been destroyed once. -/
def OwnsOne (s : L.State) (calls : List L.Call) (slots : List κ) (ok : κ → Bool) : Prop :=
  (∀ ops', ops' <+: L.ops s calls ++ destruct slots ok →
      (Machine.run Holdings.step .new ops').AtMostOne)
    ∧ (Machine.run Holdings.step .new (L.ops s calls ++ destruct slots ok)).FreedOnce

/-- An object that owned nothing owns one thing at a time, and all it owned is destroyed once,
exactly if no call makes anything while there is something or stores over something, and what there
is at the end is destroyed. -/
theorem ownsOne_iff {s : L.State} (hs : ∀ k, L.holds s k = false) {slots : List κ}
    (hslots : ∀ k, k ∈ slots) (calls : List L.Call) (ok : κ → Bool) :
  L.OwnsOne s calls slots ok
    ↔ Along L.step L.Allows s calls
      ∧ ∀ k, L.holds (Machine.run L.step s calls) k = true → ok k = true
  := by
  have hknows : L.Knows s .new := hs
  have hend : (Machine.run Holdings.step .new (L.ops s calls ++ destruct slots ok)).Empty := by
    rw [run_append]
    apply empty_destruct ok
    intro k
    exact .inl (hslots k)
  rw [OwnsOne, Holdings.freedOnce_iff_along hend, hknows.along_iff, along_destruct]
  refine and_congr_right fun _ => ?_
  have hknows := hknows.run calls
  constructor
  · intro h k hk
    rcases h k (hslots k) with hnone | hok
    · rw [(hknows.none_iff k).mpr hnone] at hk
      cases hk
    · apply hok
  · intro h k _
    by_cases hk : L.holds (Machine.run L.step s calls) k = true
    · exact .inr (h k hk)
    · exact .inl ((hknows.none_iff k).mp (Bool.eq_false_iff.mpr hk))

end Lifecycle

end Owner
