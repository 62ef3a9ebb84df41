import Dpcp.Dcmd.Devx

/-!
# Encoders as lists of steps

An encoder fills a buffer step by step: it sets a field of a structure of the buffer, it copies
bytes there, and between these it checks the status of a call and ends with the first one that is
not `done`.  `run` gives the status and the memory it ends with.

`stores` are the writes to memory that a run makes, each by its address and its number of bytes.  A
set stores the whole word of its field, also if the field is narrower.  `Within` says that all
stores lie in the first bytes of the memory, those of the buffer.
-/

namespace Dcmd

open Bits

/-- A step of an encoder.  The value of a field may depend on what the memory holds. -/
inductive Step (ε : Type) where
  | set (p : Nat) (f : Field) (v : Memory → BitVec 32)
  | copy (a : Nat) (bs : List (BitVec 8))
  | check (e : ε)

namespace Step

variable {ε : Type}

/-- The sets of several fields of the structure at `p`. -/
def sets (p : Nat) (l : List (Field × BitVec 32)) : List (Step ε) :=
  l.map fun fv => .set p fv.1 fun _ => fv.2

/-- Steps that are made only if `c` holds. -/
def onlyIf (c : Bool) (l : List (Step ε)) : List (Step ε) :=
  if c then l else []

variable [DecidableEq ε] (done : ε)

/-- The status and the memory that an encoder ends with. -/
def run : List (Step ε) → Memory → ε × Memory
  | [], m => (done, m)
  | set p f v :: rest, m => run rest (devxSet m p f (v m))
  | copy a bs :: rest, m => run rest (copyBytes m a bs)
  | check e :: rest, m => if e = done then run rest m else (e, m)

/-- The writes to memory of an encoder, in their order. -/
def stores : List (Step ε) → List (Nat × Nat)
  | [] => []
  | set p f _ :: rest => (p + 4 * (f.offset / 32), 4) :: stores rest
  | copy a bs :: rest => (a, bs.length) :: stores rest
  | check e :: rest => if e = done then stores rest else []

/-- An encoder writes to the first `n` bytes only. -/
def Within (n : Nat) (l : List (Step ε)) : Prop :=
  ∀ s ∈ stores done l, s.1 + s.2 ≤ n

/-! ### Runs -/

@[simp]
theorem run_nil (m : Memory) :
  run done [] m = (done, m)
  := rfl

@[simp]
theorem run_set (p : Nat) (f : Field) (v : Memory → BitVec 32) (l : List (Step ε)) (m : Memory) :
  run done (set p f v :: l) m = run done l (devxSet m p f (v m))
  := rfl

@[simp]
theorem run_copy (a : Nat) (bs : List (BitVec 8)) (l : List (Step ε)) (m : Memory) :
  run done (copy a bs :: l) m = run done l (copyBytes m a bs)
  := rfl

@[simp]
theorem run_check_done (l : List (Step ε)) (m : Memory) :
  run done (check done :: l) m = run done l m
  := if_pos rfl

theorem run_check_of_ne {e : ε} (h : e ≠ done) (l : List (Step ε)) (m : Memory) :
  run done (check e :: l) m = (e, m)
  := if_neg h

/-- The second part is run on what the first one leaves, if that was done. -/
theorem run_append (l l' : List (Step ε)) (m : Memory) :
  run done (l ++ l') m
    = if (run done l m).1 = done then run done l' (run done l m).2 else run done l m
  := by
  induction l generalizing m with
  | nil => simp
  | cons s rest ih =>
      cases s with
      | set p f v => apply ih
      | copy a bs => apply ih
      | check e =>
          by_cases he : e = done
          · subst he
            simp only [List.cons_append, run_check_done, ih]
          · simp only [List.cons_append, run_check_of_ne done he, he, if_false]

theorem run_sets (p : Nat) (l : List (Field × BitVec 32)) (m : Memory) :
  run done (sets p l) m = (done, l.foldl (fun m fv => devxSet m p fv.1 fv.2) m)
  := by
  induction l generalizing m with
  | nil => rfl
  | cons fv rest ih => apply ih

theorem run_onlyIf (c : Bool) (l : List (Step ε)) (m : Memory) :
  run done (onlyIf c l) m = if c then run done l m else (done, m)
  := by
  cases c <;> rfl

theorem run_onlyIf_sets (c : Bool) (p : Nat) (l : List (Field × BitVec 32)) (m : Memory) :
  run done (onlyIf c (sets p l)) m
    = (done, if c then l.foldl (fun m fv => devxSet m p fv.1 fv.2) m else m)
  := by
  cases c
  · rfl
  · apply run_sets

theorem run_onlyIf_copy (c : Bool) (a : Nat) (bs : List (BitVec 8)) (m : Memory) :
  run done (onlyIf c [copy a bs]) m = (done, if c then copyBytes m a bs else m)
  := by
  cases c <;> rfl

/-! ### Stores -/

variable {done}

theorem within_nil (n : Nat) :
  Within done n ([] : List (Step ε))
  := by
  intro s hs
  cases hs

theorem within_set {n p : Nat} {f : Field} {v : Memory → BitVec 32} {l : List (Step ε)}
    (h : p + 4 * (f.offset / 32) + 4 ≤ n) (hl : Within done n l) :
  Within done n (set p f v :: l)
  := by
  intro s hs
  rcases List.mem_cons.mp hs with rfl | hs
  · apply h
  · apply hl s hs

theorem within_copy {n a : Nat} {bs : List (BitVec 8)} {l : List (Step ε)}
    (h : a + bs.length ≤ n) (hl : Within done n l) :
  Within done n (copy a bs :: l)
  := by
  intro s hs
  rcases List.mem_cons.mp hs with rfl | hs
  · apply h
  · apply hl s hs

/-- What comes after a check counts only if the check passes. -/
theorem within_check {n : Nat} {e : ε} {l : List (Step ε)} (hl : e = done → Within done n l) :
  Within done n (check e :: l)
  := by
  intro s hs
  rw [stores] at hs
  split at hs
  · rename_i he
    apply hl he s hs
  · cases hs

/-- Nothing comes after a check that fails. -/
theorem within_failure {n : Nat} {e : ε} {l : List (Step ε)} (he : e ≠ done) :
  Within done n (check e :: l)
  := by
  apply within_check
  intro h
  cases he h

theorem within_append {n : Nat} {l l' : List (Step ε)} (h : Within done n l)
    (h' : Within done n l') :
  Within done n (l ++ l')
  := by
  induction l with
  | nil => apply h'
  | cons s rest ih =>
      cases s with
      | set p f v =>
          apply within_set (h _ List.mem_cons_self)
          apply ih
          intro s hs
          apply h s (List.mem_cons_of_mem _ hs)
      | copy a bs =>
          apply within_copy (h _ List.mem_cons_self)
          apply ih
          intro s hs
          apply h s (List.mem_cons_of_mem _ hs)
      | check e =>
          apply within_check
          intro he
          apply ih
          intro s hs
          apply h s
          rw [stores, if_pos he]
          apply hs

theorem within_onlyIf {n : Nat} {c : Bool} {l : List (Step ε)} (h : Within done n l) :
  Within done n (onlyIf c l)
  := by
  cases c
  · apply within_nil
  · apply h

/-- The words of the fields of a structure of `size` bytes lie in the structure. -/
theorem within_sets (size : Nat) {n p : Nat} {l : List (Field × BitVec 32)}
    (h : ∀ f ∈ l.map Prod.fst, 4 * (f.offset / 32) + 4 ≤ size) (hp : p + size ≤ n) :
  Within done n (sets p l : List (Step ε))
  := by
  induction l with
  | nil => apply within_nil
  | cons fv rest ih =>
      have hword := h fv.1 List.mem_cons_self
      apply within_set
      · omega
      · apply ih
        intro f hf
        apply h f (List.mem_cons_of_mem _ hf)

theorem within_flatMap {α : Type} {n : Nat} {l : List α} {f : α → List (Step ε)}
    (h : ∀ a ∈ l, Within done n (f a)) :
  Within done n (l.flatMap f)
  := by
  induction l with
  | nil => apply within_nil
  | cons a rest ih =>
      rw [List.flatMap_cons]
      apply within_append (h a List.mem_cons_self)
      apply ih
      intro b hb
      apply h b (List.mem_cons_of_mem _ hb)

/-- An encoder leaves what lies behind the bytes it writes to. -/
theorem run_of_within {n : Nat} {l : List (Step ε)} (h : Within done n l) (m : Memory) {i : Nat}
    (hi : n ≤ i) :
  (run done l m).2 i = m i
  := by
  induction l generalizing m with
  | nil => rfl
  | cons s rest ih =>
      cases s with
      | set p f v =>
          have hword : p + 4 * (f.offset / 32) + 4 ≤ n := h _ List.mem_cons_self
          rw [run_set, ih (fun s hs => h s (List.mem_cons_of_mem _ hs)), devxSet, store32,
            if_neg (by omega)]
      | copy a bs =>
          have hbytes : a + bs.length ≤ n := h _ List.mem_cons_self
          rw [run_copy, ih (fun s hs => h s (List.mem_cons_of_mem _ hs)), copyBytes,
            if_neg (by omega)]
      | check e =>
          by_cases he : e = done
          · subst he
            rw [run_check_done]
            apply ih
            intro s hs
            apply h s
            rw [stores, if_pos rfl]
            apply hs
          · rw [run_check_of_ne done he]

end Step

/-! ### Reading back -/

/-- Elements that are read one by one at their places. -/
theorem map_range_of_getElem? {α β : Type} {l : List α} {read : Nat → β} {f : α → β}
    (h : ∀ i x, l[i]? = some x → read i = f x) :
  (List.range l.length).map read = l.map f
  := by
  apply List.ext_getElem (by simp)
  intro i hi _
  rw [List.length_map, List.length_range] at hi
  simp only [List.getElem_map, List.getElem_range]
  apply h
  apply List.getElem?_eq_getElem hi

end Dcmd
