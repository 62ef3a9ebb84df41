import Mathlib.Tactic.Common

/-!
# Checks made one after another

A check makes some accesses and has a verdict: it passes, it fails, or it has none because what
it computes is undefined.  Checks are made one after another up to the first that fails; where there
is no verdict anything may follow, and also the next check.  `verdict` is what the checks come to,
`trace` are the accesses that may be made on the way, and `Reached P` says that `P` holds of every
check that may be made.
-/

namespace Machine

universe u

/-- A check with the accesses it makes; `passes` is `none` if it has no verdict. -/
structure Check (α : Type u) where
  accesses : List α
  passes : Option Bool

namespace Check

variable {α : Type u} {l l' : List (Check α)}

/-- The verdict of the first check that does not pass; with no such check, all is well. -/
def verdict : List (Check α) → Option Bool
  | [] => some true
  | c :: l => if c.passes = some true then verdict l else c.passes

/-- The accesses of the checks up to the first that fails. -/
def trace : List (Check α) → List α
  | [] => []
  | c :: l => c.accesses ++ if c.passes = some false then [] else trace l

/-- `P` holds of the checks up to the first that fails. -/
def Reached (P : Check α → Prop) : List (Check α) → Prop
  | [] => True
  | c :: l => P c ∧ (c.passes ≠ some false → Reached P l)

theorem verdict_eq_true_iff :
  verdict l = some true ↔ ∀ c ∈ l, c.passes = some true
  := by
  induction l with
  | nil => simp [verdict]
  | cons c l ih =>
      rw [List.forall_mem_cons, ← ih, verdict]
      split
      · rename_i hpasses
        rw [eq_true hpasses, true_and]
      · rename_i hpasses
        rw [eq_false hpasses, false_and]

theorem verdict_append (l l' : List (Check α)) :
  verdict (l ++ l') = if verdict l = some true then verdict l' else verdict l
  := by
  induction l with
  | nil => rfl
  | cons c l ih =>
      rw [List.cons_append, verdict, verdict, ih]
      split
      · rfl
      · rfl

/-- The checks have a verdict exactly when every check that may be made has one. -/
theorem verdict_ne_none_iff :
  verdict l ≠ none ↔ Reached (fun c => c.passes ≠ none) l
  := by
  induction l with
  | nil => simp [verdict, Reached]
  | cons c l ih =>
      rw [Reached, ← ih, verdict]
      cases c.passes with
      | none => simp
      | some passed => cases passed <;> simp

/-- All accesses are as `P` says exactly when those of every check that may be made are. -/
theorem forall_mem_trace_iff {P : α → Prop} :
  (∀ a ∈ trace l, P a) ↔ Reached (fun c => ∀ a ∈ c.accesses, P a) l
  := by
  induction l with
  | nil => simp [trace, Reached]
  | cons c l ih =>
      rw [Reached, ← ih, trace, List.forall_mem_append]
      split
      · rename_i hpasses
        simp [hpasses]
      · rename_i hpasses
        rw [forall_prop_of_true hpasses]

theorem reached_append {P : Check α → Prop} :
  Reached P (l ++ l') ↔ Reached P l ∧ ((∀ c ∈ l, c.passes ≠ some false) → Reached P l')
  := by
  induction l with
  | nil => simp [Reached]
  | cons c l ih =>
      rw [List.cons_append, Reached, Reached, ih, List.forall_mem_cons]
      tauto

theorem reached_of_forall {P : Check α → Prop} (h : ∀ c ∈ l, P c) :
  Reached P l
  := by
  induction l with
  | nil => trivial
  | cons c l ih =>
      rw [List.forall_mem_cons] at h
      exact ⟨h.1, fun _ => ih h.2⟩

end Check

end Machine
