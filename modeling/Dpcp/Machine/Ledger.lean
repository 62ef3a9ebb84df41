import Mathlib.Data.List.Count

/-!
# Ledgers of resources

A ledger is the list of what was acquired and released, in that order.  An owner that has
released nothing yet owns what it acquired; once it has released a list of resources, each
resource it owned was released once exactly when it stands in the list once.

`Before a b` is the order in which things have to be released: `b` not until `a` has been.
-/

namespace Ledger

/-- A resource is acquired or released. -/
inductive Event (ρ : Type*) where
  | acquire (r : ρ)
  | release (r : ρ)
deriving DecidableEq

variable {ρ : Type*} [DecidableEq ρ]

/-- A resource that was acquired has been released, and only once. -/
def ReleasedOnce (log : List (Event ρ)) (r : ρ) : Prop :=
  .acquire r ∈ log → log.count (.release r) = 1

instance (log : List (Event ρ)) (r : ρ) : Decidable (ReleasedOnce log r) :=
  inferInstanceAs (Decidable (_ → _))

theorem count_release_map_acquire (held : List ρ) (r : ρ) :
  (held.map Event.acquire).count (.release r) = 0
  := by
  apply List.count_eq_zero.mpr
  simp

theorem count_release_map_release (released : List ρ) (r : ρ) :
  (released.map Event.release).count (.release r) = released.count r
  := by
  apply List.count_map_of_injective
  intro r₁ r₂ h
  apply Event.release.inj h

/-- The ledger of an owner that acquired `held` and then released `released`. -/
theorem releasedOnce_iff (held released : List ρ) (r : ρ) :
  ReleasedOnce (held.map .acquire ++ released.map .release) r
    ↔ (r ∈ held → released.count r = 1)
  := by
  have hacquire : .acquire r ∈ held.map Event.acquire ++ released.map Event.release
      ↔ r ∈ held := by
    simp
  rw [ReleasedOnce, hacquire, List.count_append, count_release_map_acquire,
    count_release_map_release, Nat.zero_add]

/-! ### Order -/

/-- `b` does not stand in the list before `a`. -/
def Before (a b : ρ) : List ρ → Prop
  | [] => True
  | x :: l => x = a ∨ x ≠ b ∧ Before a b l

instance (a b : ρ) : ∀ l : List ρ, Decidable (Before a b l)
  | [] => isTrue trivial
  | _ :: l =>
      have := instDecidableBefore a b l
      inferInstanceAs (Decidable (_ ∨ _))

omit [DecidableEq ρ] in
theorem Before.mem {a b : ρ} {l : List ρ} (h : Before a b l) (hb : b ∈ l) :
  a ∈ l
  := by
  induction l with
  | nil => cases hb
  | cons x l ih =>
      rcases h with rfl | ⟨hne, h⟩
      · apply List.mem_cons_self
      · apply List.mem_cons_of_mem
        apply ih h
        apply List.mem_of_ne_of_mem (Ne.symm hne) hb

omit [DecidableEq ρ] in
/-- Leaving out anything but `a` keeps the order. -/
theorem Before.filter {a b : ρ} {l : List ρ} (h : Before a b l) {p : ρ → Bool} (ha : p a = true) :
  Before a b (l.filter p)
  := by
  induction l with
  | nil => trivial
  | cons x l ih =>
      rcases h with rfl | ⟨hne, h⟩
      · rw [List.filter_cons_of_pos ha]
        exact .inl rfl
      · rw [List.filter_cons]
        split
        · exact .inr ⟨hne, ih h⟩
        · apply ih h

omit [DecidableEq ρ] in
theorem Before.of_not_mem {a b : ρ} {l : List ρ} (hb : b ∉ l) :
  Before a b l
  := by
  induction l with
  | nil => trivial
  | cons x l ih =>
      obtain ⟨hne, hb⟩ := not_or.mp (mt List.mem_cons.mpr hb)
      exact .inr ⟨Ne.symm hne, ih hb⟩

omit [DecidableEq ρ] in
theorem Before.append {a b : ρ} {l l' : List ρ} (h : Before a b l) (h' : a ∈ l ∨ b ∉ l') :
  Before a b (l ++ l')
  := by
  induction l with
  | nil =>
      rcases h' with ha | hb
      · cases ha
      · apply of_not_mem hb
  | cons x l ih =>
      rcases h with rfl | ⟨hne, h⟩
      · exact .inl rfl
      · by_cases hx : x = a
        · exact .inl hx
        · refine .inr ⟨hne, ih h ?_⟩
          exact h'.imp_left fun ha => List.mem_of_ne_of_mem (Ne.symm hx) ha

/-! ### Pairs in an order -/

/-- In each pair the first thing is to be released before the second: this was kept so far, and the
first was released or the pair is held. -/
def Ordered (links : List (ρ × ρ)) (Held : ρ → ρ → Prop) (log : List ρ) : Prop :=
  ∀ l ∈ links, Before l.1 l.2 log ∧ (l.1 ∈ log ∨ Held l.1 l.2)

omit [DecidableEq ρ] in
/-- Releasing no second thing of a pair that is held, and keeping the pairs whose first thing is not
released, keeps the order. -/
theorem Ordered.append {links : List (ρ × ρ)} {Held Held' : ρ → ρ → Prop} {log l : List ρ}
    (h : Ordered links Held log) (hl : ∀ a b, Held a b → b ∉ l ∧ (a ∈ l ∨ Held' a b)) :
  Ordered links Held' (log ++ l)
  := by
  intro p hp
  obtain ⟨hbefore, hmem | hheld⟩ := h p hp
  · exact ⟨hbefore.append (.inl hmem), .inl (List.mem_append_left l hmem)⟩
  · obtain ⟨hb, ha⟩ := hl p.1 p.2 hheld
    exact ⟨hbefore.append (.inr hb), ha.imp_left (List.mem_append_right log)⟩

omit [DecidableEq ρ] in
theorem Ordered.mono {links : List (ρ × ρ)} {Held Held' : ρ → ρ → Prop} {log : List ρ}
    (h : Ordered links Held log) (hheld : ∀ a b, Held a b → Held' a b) :
  Ordered links Held' log
  := by
  intro p hp
  obtain ⟨hbefore, hmem⟩ := h p hp
  exact ⟨hbefore, hmem.imp_right (hheld p.1 p.2)⟩

omit [DecidableEq ρ] in
/-- New pairs that are held, with nothing second in them that was released. -/
theorem Ordered.add {links links' : List (ρ × ρ)} {Held : ρ → ρ → Prop} {log : List ρ}
    (h : Ordered links Held log) (hnew : ∀ l ∈ links', l.2 ∉ log ∧ Held l.1 l.2) :
  Ordered (links' ++ links) Held log
  := by
  intro p hp
  rcases List.mem_append.mp hp with hp | hp
  · obtain ⟨hb, hheld⟩ := hnew p hp
    exact ⟨.of_not_mem hb, .inr hheld⟩
  · apply h p hp

end Ledger
