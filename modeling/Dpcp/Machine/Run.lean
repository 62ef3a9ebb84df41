import Mathlib.Tactic.Common

/-!
# Runs of a machine

A machine is given by a step function `step : σ → α → σ`, where `α` is whatever chooses the
next step: a call, an event, the thread that moves.  `run` is the state after a list of
steps, and `Along P` says of a run that `P` holds of every state and step taken in it.

Two rules carry properties of steps to properties of runs: an invariant that the steps with
`P` keep holds at the end of a run along `P`, and a quantity that never falls, and grows at
every step without `P`, can be level only along `P`.

A machine can also go on by itself, by `next : σ → Option σ`, until it stops.  A rank that grows at
every step bounds how far it goes.
-/

namespace Machine

variable {σ α : Type*} {step : σ → α → σ}

/-- The state after the steps `l`. -/
def run (step : σ → α → σ) (s : σ) (l : List α) : σ :=
  l.foldl step s

@[simp]
theorem run_cons (s : σ) (a : α) (l : List α) :
  run step s (a :: l) = run step (step s a) l
  := rfl

theorem run_append (s : σ) (l l' : List α) :
  run step s (l ++ l') = run step (run step s l) l'
  := List.foldl_append

/-- Every step of the run from `s` along `l` is taken from a state where `P` holds of it. -/
def Along (step : σ → α → σ) (P : σ → α → Prop) : σ → List α → Prop
  | _, [] => True
  | s, a :: l => P s a ∧ Along step P (step s a) l

instance (P : σ → α → Prop) [∀ s a, Decidable (P s a)] :
    ∀ (s : σ) (l : List α), Decidable (Along step P s l)
  | _, [] => isTrue trivial
  | s, a :: l =>
      have := instDecidableAlong P (step s a) l
      inferInstanceAs (Decidable (_ ∧ _))

theorem Along.left {P : σ → α → Prop} {s : σ} {l l' : List α} (h : Along step P s (l ++ l')) :
  Along step P s l
  := by
  induction l generalizing s with
  | nil => trivial
  | cons a l ih => exact ⟨h.1, ih h.2⟩

theorem Along.and {P Q : σ → α → Prop} {s : σ} {l : List α} (hP : Along step P s l)
    (hQ : Along step Q s l) :
  Along step (fun s a => P s a ∧ Q s a) s l
  := by
  induction l generalizing s with
  | nil => trivial
  | cons a l ih => exact ⟨⟨hP.1, hQ.1⟩, ih hP.2 hQ.2⟩

/-- A run is along what holds of all its steps. -/
theorem along_of_forall {P : α → Prop} {l : List α} (h : ∀ a ∈ l, P a) (s : σ) :
  Along step (fun _ a => P a) s l
  := by
  induction l generalizing s with
  | nil => trivial
  | cons a l ih =>
      constructor
      · apply h a List.mem_cons_self
      · apply ih
        intro b hb
        apply h b (List.mem_cons_of_mem _ hb)

/-- A run is along `P` exactly when `P` holds of every step of it, from the state it is taken
from. -/
theorem along_iff_prefixes {P : σ → α → Prop} {s : σ} {l : List α} :
  Along step P s l ↔ ∀ l' a, l' ++ [a] <+: l → P (run step s l') a
  := by
  induction l generalizing s with
  | nil =>
      constructor
      · intro _ l' a h
        cases List.append_ne_nil_of_right_ne_nil l' (List.cons_ne_nil a []) (List.prefix_nil.mp h)
      · intro _
        trivial
  | cons b l ih =>
      constructor
      · rintro ⟨hb, hl⟩ l' a h
        cases l' with
        | nil =>
            obtain ⟨rfl, -⟩ := List.cons_prefix_cons.mp h
            apply hb
        | cons c l' =>
            obtain ⟨rfl, hrest⟩ := List.cons_prefix_cons.mp h
            apply ih.mp hl l' a hrest
      · intro h
        refine ⟨h [] b (List.prefix_append [b] l), ih.mpr ?_⟩
        intro l' a h'
        apply h (b :: l') a
        apply List.cons_prefix_cons.mpr ⟨rfl, h'⟩

/-- An invariant kept by the steps with `P` holds at the end of a run along `P`. -/
theorem inv_run_of_along {P : σ → α → Prop} {I : σ → Prop}
    (hstep : ∀ s a, P s a → I s → I (step s a)) {s : σ} {l : List α}
    (hl : Along step P s l) (hs : I s) :
  I (run step s l)
  := by
  induction l generalizing s with
  | nil => apply hs
  | cons a l ih =>
      obtain ⟨ha, hl⟩ := hl
      apply ih hl
      apply hstep s a ha hs

/-- An invariant kept by every step holds at the end of every run. -/
theorem inv_run {I : σ → Prop} (hstep : ∀ s a, I s → I (step s a)) {s : σ} (hs : I s)
    (l : List α) :
  I (run step s l)
  := by
  induction l generalizing s with
  | nil => apply hs
  | cons a l ih =>
      apply ih
      apply hstep s a hs

/-- What no step changes is not changed by a run. -/
theorem run_eq {β : Type*} {f : σ → β} (h : ∀ s a, f (step s a) = f s) (s : σ) (l : List α) :
  f (run step s l) = f s
  := by
  induction l generalizing s with
  | nil => rfl
  | cons a l ih =>
      rw [run_cons, ih, h]

/-- Runs from related states, by the same steps, lead to related states if steps do. -/
theorem run_rel {R : σ → σ → Prop} (h : ∀ s s' a, R s s' → R (step s a) (step s' a)) {s s' : σ}
    (hs : R s s') (l : List α) :
  R (run step s l) (run step s' l)
  := by
  induction l generalizing s s' with
  | nil => apply hs
  | cons a l ih =>
      apply ih
      apply h s s' a hs

/-- A run along `P` is along `Q` if `P` gives `Q` in states with `I`, which the steps keep. -/
theorem Along.imp {P Q : σ → α → Prop} {I : σ → Prop} (h : ∀ s a, I s → P s a → Q s a)
    (hinv : ∀ s a, I s → I (step s a)) {s : σ} {l : List α} (hl : Along step P s l) (hs : I s) :
  Along step Q s l
  := by
  induction l generalizing s with
  | nil => trivial
  | cons a l ih =>
      obtain ⟨ha, hl⟩ := hl
      exact ⟨h s a hs ha, ih hl (hinv s a hs)⟩

/-- If `P` and `Q` agree on the steps of `l` from states with `I`, and those with `P` keep `I`,
then `l` is along `Q` exactly when it is along `P`. -/
theorem along_iff_along {P Q : σ → α → Prop} {I : σ → Prop} {l : List α}
    (hiff : ∀ s, ∀ a ∈ l, I s → (Q s a ↔ P s a))
    (hinv : ∀ s, ∀ a ∈ l, I s → P s a → I (step s a)) {s : σ} (hs : I s) :
  Along step Q s l ↔ Along step P s l
  := by
  induction l generalizing s with
  | nil => exact Iff.rfl
  | cons a l ih =>
      have hmem : a ∈ a :: l := List.mem_cons_self
      have ih {s : σ} (hs : I s) : Along step Q s l ↔ Along step P s l := by
        apply ih _ _ hs
        · intro s b hb
          apply hiff s b (List.mem_cons_of_mem a hb)
        · intro s b hb
          apply hinv s b (List.mem_cons_of_mem a hb)
      constructor
      · rintro ⟨ha, hl⟩
        have ha := (hiff s a hmem hs).mp ha
        exact ⟨ha, (ih (hinv s a hmem hs ha)).mp hl⟩
      · rintro ⟨ha, hl⟩
        exact ⟨(hiff s a hmem hs).mpr ha, (ih (hinv s a hmem hs ha)).mpr hl⟩

/-- A property of the first state holds in every state of a run exactly when it holds after every
step. -/
theorem forall_prefix_iff_along_step {Good : σ → Prop} {s : σ} (hs : Good s) (l : List α) :
  (∀ l', l' <+: l → Good (run step s l')) ↔ Along step (fun s a => Good (step s a)) s l
  := by
  induction l generalizing s with
  | nil =>
      constructor
      · intro _
        trivial
      · intro _ l' hl'
        rw [List.prefix_nil.mp hl']
        apply hs
  | cons a l ih =>
      constructor
      · intro h
        have ha : Good (step s a) := h [a] (List.prefix_append [a] l)
        refine ⟨ha, (ih ha).mp ?_⟩
        intro l' hl'
        apply h (a :: l')
        apply List.cons_prefix_cons.mpr ⟨rfl, hl'⟩
      · rintro ⟨ha, hl⟩ l' hl'
        cases l' with
        | nil => apply hs
        | cons b l' =>
            obtain ⟨rfl, hrest⟩ := List.cons_prefix_cons.mp hl'
            apply (ih ha).mpr hl l' hrest

/-- If, from a state with `Good` and `I`, the steps of `l` with `P` are just those that keep
`Good`, and they keep `I` too, then `Good` holds in every state of the run exactly when the run
is along `P`. -/
theorem forall_prefix_iff_along {P : σ → α → Prop} {Good I : σ → Prop} {l : List α}
    (hgood : ∀ s, ∀ a ∈ l, I s → Good s → (Good (step s a) ↔ P s a))
    (hinv : ∀ s, ∀ a ∈ l, I s → Good s → P s a → I (step s a)) {s : σ} (hs : I s)
    (hs' : Good s) :
  (∀ l', l' <+: l → Good (run step s l')) ↔ Along step P s l
  := by
  rw [forall_prefix_iff_along_step hs']
  let Both (s : σ) : Prop := I s ∧ Good s
  have hboth : Both s := ⟨hs, hs'⟩
  apply along_iff_along _ _ hboth
  · rintro s a ha ⟨hs, hs'⟩
    apply hgood s a ha hs hs'
  · rintro s a ha ⟨hs, hs'⟩ hP
    exact ⟨hinv s a ha hs hs' hP, (hgood s a ha hs hs').mpr hP⟩

/-- If, from a state with `Good` and `I`, the steps with `R` that keep `Good` have `P`, and the
steps with `R` keep `I`, then a run along `R` with `Good` in every state is along `P`. -/
theorem along_of_forall_prefix {P R : σ → α → Prop} {Good I : σ → Prop}
    (hstep : ∀ s a, R s a → I s → Good s → Good (step s a) → P s a)
    (hinv : ∀ s a, R s a → I s → I (step s a)) {s : σ} {l : List α} (hl : Along step R s l)
    (hs : I s) (hgood : ∀ l', l' <+: l → Good (run step s l')) :
  Along step P s l
  := by
  induction l generalizing s with
  | nil => trivial
  | cons a l ih =>
      obtain ⟨ha, hl⟩ := hl
      constructor
      · apply hstep s a ha hs (hgood [] List.nil_prefix)
        apply hgood [a] (List.prefix_append [a] l)
      · apply ih hl (hinv s a ha hs)
        intro l' hl'
        apply hgood (a :: l')
        apply List.cons_prefix_cons.mpr ⟨rfl, hl'⟩

section Potential

variable {f : σ → Int} (hle : ∀ s a, f s ≤ f (step s a))

include hle

/-- A quantity that no step lowers is not lowered by a run. -/
theorem le_run (s : σ) (l : List α) :
  f s ≤ f (run step s l)
  := by
  induction l generalizing s with
  | nil => apply Int.le_refl
  | cons a l ih =>
      apply Int.le_trans (hle s a)
      apply ih

/-- A quantity that no step lowers, and that grows at every step without `P`, is level only
over a run along `P`. -/
theorem along_of_level {P : σ → α → Prop} (hlt : ∀ s a, ¬ P s a → f s < f (step s a))
    {s : σ} {l : List α} (hlevel : f (run step s l) ≤ f s) :
  Along step P s l
  := by
  induction l generalizing s with
  | nil => trivial
  | cons a l ih =>
      have hrest := le_run hle (step s a) l
      have hfirst := hle s a
      rw [run_cons] at hlevel
      constructor
      · by_contra hP
        have hgrows := hlt s a hP
        omega
      · apply ih
        omega

end Potential

section Follow

variable {next : σ → Option σ}

/-- The state after `n` steps of a machine that goes on by itself, if it does not stop before. -/
def follow (next : σ → Option σ) : Nat → σ → Option σ
  | 0, s => some s
  | n + 1, s => (next s).bind (follow next n)

/-- A rank that grows at every step grows with the number of steps. -/
theorem rank_follow {rank : σ → Nat} (hnext : ∀ s s', next s = some s' → rank s < rank s') {n : Nat}
    {s s' : σ} (h : follow next n s = some s') :
  rank s + n ≤ rank s'
  := by
  induction n generalizing s with
  | zero =>
      cases h
      apply Nat.le_refl
  | succ n ih =>
      obtain ⟨s₁, hs₁, h⟩ := Option.bind_eq_some_iff.mp h
      have hfirst := hnext s s₁ hs₁
      have hrest := ih h
      omega

end Follow

end Machine
