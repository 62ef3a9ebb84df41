import Dpcp.Bits.Writes

/-!
# Records written one after another

`records f size a l` are the writes of the records of the list `l`, where `f x a` are the writes of
the record `x` at the address `a`, and each record takes `size` bytes.  If the writes of a record
lie inside of its bytes and are pairwise disjoint, then the same holds of all records together, and
a bit of the `i`-th record is covered only by the writes of that record.
-/

namespace Bits

universe u

variable {α : Type u}

/-- The writes of the records of a list, the first of them at the address `a`. -/
def records (f : α → Nat → List Write) (size : Nat) : Nat → List α → List Write
  | _, [] => []
  | a, x :: l => f x a ++ records f size (a + size) l

section

variable {f : α → Nat → List Write} {size : Nat}

theorem records_cons (f : α → Nat → List Write) (size a : Nat) (x : α) (l : List α) :
  records f size a (x :: l) = f x a ++ records f size (a + size) l
  := rfl

/-- The writes of the records are those of the `i`-th at its address, for all `i`. -/
theorem mem_records {a : Nat} {l : List α} {w : Write} :
  w ∈ records f size a l ↔ ∃ i x, l[i]? = some x ∧ w ∈ f x (a + size * i)
  := by
  induction l generalizing a with
  | nil => simp [records]
  | cons x l ih =>
      rw [records_cons, List.mem_append, ih]
      constructor
      · rintro (hw | ⟨i, y, hy, hw⟩)
        · exact ⟨0, x, rfl, hw⟩
        · refine ⟨i + 1, y, hy, ?_⟩
          rw [Nat.mul_add_one, Nat.add_comm (size * i), ← Nat.add_assoc]
          apply hw
      · rintro ⟨i, y, hy, hw⟩
        cases i with
        | zero =>
            cases hy
            exact .inl hw
        | succ i =>
            refine .inr ⟨i, y, hy, ?_⟩
            rw [Nat.mul_add_one, Nat.add_comm (size * i), ← Nat.add_assoc] at hw
            apply hw

variable (hwithin : ∀ x a, ∀ w ∈ f x a, w.Within (8 * a) (8 * (a + size)))

include hwithin

/-- The writes of records lie inside of their bytes. -/
theorem records_within {a : Nat} {l : List α} {w : Write} (hw : w ∈ records f size a l) :
  w.Within (8 * a) (8 * (a + size * l.length))
  := by
  obtain ⟨i, x, hx, hw⟩ := mem_records.mp hw
  have hi : i < l.length := (List.getElem?_eq_some_iff.mp hx).1
  have hle : size * i + size ≤ size * l.length := by
    rw [← Nat.mul_add_one]
    apply Nat.mul_le_mul_left size hi
  apply (hwithin x (a + size * i) w hw).mono
  · omega
  · omega

/-- The writes of records are pairwise disjoint if those of each are. -/
theorem records_disjoint (hdisjoint : ∀ x a, (f x a).Pairwise Write.Disjoint) (a : Nat)
    (l : List α) :
  (records f size a l).Pairwise Write.Disjoint
  := by
  induction l generalizing a with
  | nil => apply List.Pairwise.nil
  | cons x l ih =>
      rw [records_cons, List.pairwise_append]
      refine ⟨hdisjoint x a, ih (a + size), ?_⟩
      intro w hw w' hw'
      apply (hwithin x a w hw).disjoint (records_within hwithin hw')
      exact .inl (Nat.le_refl _)

/-- A write that covers a bit of the `i`-th record is a write of that record. -/
theorem mem_record_of_covers {a i j : Nat} {l : List α} {w : Write} (hw : w ∈ records f size a l)
    (hj : w.Covers j) (hlo : 8 * (a + size * i) ≤ j) (hhi : j < 8 * (a + size * i + size)) :
  ∃ x, l[i]? = some x ∧ w ∈ f x (a + size * i)
  := by
  obtain ⟨i', x, hx, hw⟩ := mem_records.mp hw
  have hplace := hwithin x (a + size * i') w hw
  simp only [Write.Within, Write.Covers] at hplace hj
  -- the bit is in the bytes of both records, so they are the same one
  obtain rfl : i = i' := by
    rcases Nat.lt_trichotomy i i' with hlt | heq | hlt
    · have hle : size * i + size ≤ size * i' := by
        rw [← Nat.mul_add_one]
        apply Nat.mul_le_mul_left size hlt
      omega
    · apply heq
    · have hle : size * i' + size ≤ size * i := by
        rw [← Nat.mul_add_one]
        apply Nat.mul_le_mul_left size hlt
      omega
  exact ⟨x, hx, hw⟩

end

end Bits
