import Dpcp.Dcmd.Devx

/-!
# Masked comparison

A ternary match compares a bit string with a value on the bits that a mask selects, and looks at no
other bit.  `MaskedEq` is this comparison on a run of bits, which may start at a different place in
each of the three memories.

On a field and on a byte the comparison is an equation between numbers: the number that is compared
and the value are the same once both are masked.
-/

namespace Bits

/-- Two words are the same under a mask just if they have the same bits where the mask has one. -/
theorem and_eq_and_iff {n : Nat} (x v mask : BitVec n) :
  x &&& mask = v &&& mask ↔ ∀ k < n, mask.getLsbD k = true → x.getLsbD k = v.getLsbD k
  := by
  constructor
  · intro h k _ hmask
    have hbit := congrArg (BitVec.getLsbD · k) h
    simpa only [BitVec.getLsbD_and, hmask, Bool.and_true] using hbit
  · intro h
    apply BitVec.eq_of_getLsbD_eq
    intro k hk
    rw [BitVec.getLsbD_and, BitVec.getLsbD_and]
    cases hmask : mask.getLsbD k with
    | false => rw [Bool.and_false, Bool.and_false]
    | true => rw [h k hk hmask]

/-- Where the `n` bits of `mask` from `i` on are set, the bits of `h` from `k` on are those of
`value` from `j` on. -/
def MaskedEq (mask : Memory) (i : Nat) (value : Memory) (j : Nat) (h : Memory) (k n : Nat) : Prop :=
  ∀ t < n, bit mask (i + t) = true → bit h (k + t) = bit value (j + t)

namespace MaskedEq

variable {mask value h : Memory} {i j k n : Nat}

/-- A value matches itself. -/
theorem refl (mask : Memory) (i : Nat) (value : Memory) (j n : Nat) :
  MaskedEq mask i value j value j n
  := fun _ _ _ => rfl

/-- The comparison of a run is the comparison of each of its parts. -/
theorem part (heq : MaskedEq mask i value j h k n) {d s : Nat} (hle : d + s ≤ n) :
  MaskedEq mask (i + d) value (j + d) h (k + d) s
  := by
  intro t ht hmask
  have hbit := heq (d + t) (by omega)
  simp only [Nat.add_assoc] at hbit hmask ⊢
  apply hbit hmask

/-- A bit of a run is compared when a part with this bit is. -/
theorem bit_of_part {d s : Nat} (heq : MaskedEq mask (i + d) value (j + d) h (k + d) s) {t : Nat}
    (hlo : d ≤ t) (hhi : t < d + s) (hmask : bit mask (i + t) = true) :
  bit h (k + t) = bit value (j + t)
  := by
  have hpos (i : Nat) : i + d + (t - d) = i + t := by omega
  have hbit := heq (t - d) (by omega)
  rw [hpos, hpos, hpos] at hbit
  apply hbit hmask

end MaskedEq

/-- A bit that is set was written. -/
theorem exists_covers_of_bit {m : Memory} {ws : List Write} (hm : bit m = puts (bit zeros) ws)
    {i : Nat} (hi : bit m i = true) :
  ∃ w ∈ ws, w.Covers i
  := by
  by_contra hnone
  have hzero : bit m i = false := by
    rw [hm, puts_of_not_covers, bit_zeros]
    intro w hw hcovers
    apply hnone ⟨w, hw, hcovers⟩
  rw [hzero] at hi
  cases hi

/-- The bits from an address on. -/
theorem bit_slice (m : Memory) (a i : Nat) :
  bit (slice m a) i = bit m (8 * a + i)
  := by
  have hdiv : (8 * a + i) / 8 = a + i / 8 := by omega
  have hmod : (8 * a + i) % 8 = i % 8 := by omega
  rw [bit, bit, hdiv, hmod, slice]

/-- A byte that is compared. -/
theorem maskedEq_byte_iff (mask value h : Memory) (a b c : Nat) :
  MaskedEq mask (8 * a) value (8 * b) h (8 * c) 8 ↔ h c &&& mask a = value b &&& mask a
  := by
  have hbit (m : Memory) (a t : Nat) (ht : t < 8) : bit m (8 * a + t) = (m a).getLsbD (7 - t) := by
    have hdiv : (8 * a + t) / 8 = a := by omega
    have hmod : (8 * a + t) % 8 = t := by omega
    rw [bit, hdiv, hmod]
  rw [and_eq_and_iff]
  constructor
  · intro heq k hk hmask
    have hback : 7 - (7 - k) = k := by omega
    have hbits := heq (7 - k) (by omega)
    rw [hbit _ _ _ (by omega), hbit _ _ _ (by omega), hbit _ _ _ (by omega), hback] at hbits
    apply hbits hmask
  · intro heq t ht hmask
    rw [hbit _ _ _ ht] at hmask ⊢
    rw [hbit _ _ _ ht]
    apply heq _ (by omega) hmask

/-- Bytes that are compared. -/
theorem maskedEq_bytes_iff (mask value h : Memory) (a b c n : Nat) :
  MaskedEq mask (8 * a) value (8 * b) h (8 * c) (8 * n)
    ↔ ∀ i < n, h (c + i) &&& mask (a + i) = value (b + i) &&& mask (a + i)
  := by
  constructor
  · intro heq i hi
    apply (maskedEq_byte_iff mask value h (a + i) (b + i) (c + i)).mp
    rw [Nat.mul_add, Nat.mul_add, Nat.mul_add]
    apply heq.part (by omega)
  · intro heq t ht
    have hbyte := (maskedEq_byte_iff mask value h _ _ _).mpr (heq (t / 8) (by omega))
    have hpos (a : Nat) : 8 * (a + t / 8) + t % 8 = 8 * a + t := by omega
    have hbit := hbyte (t % 8) (by omega)
    rwa [hpos, hpos, hpos] at hbit

end Bits

namespace Dcmd

open Bits

/-- A bit of a field is a bit of the number that the field reads as. -/
theorem bit_eq_getLsbD_devxGet (m : Memory) {p : Nat} {f : Field} {i : Nat} (h : f.Has p i) :
  bit m i = (devxGet m p f).getLsbD (f.size - 1 - (i - (8 * p + f.offset)))
  := by
  have hk : f.size - 1 - (i - (8 * p + f.offset)) < f.size := by
    simp only [Field.Has] at h
    omega
  have hpos : 8 * p + f.offset + f.size - 1 - (f.size - 1 - (i - (8 * p + f.offset))) = i := by
    simp only [Field.Has] at h
    omega
  rw [getLsbD_devxGet, decide_eq_true hk, Bool.true_and, hpos]

/-- A field reads the same where its bits are the same. -/
theorem devxGet_eq_of_bits {m m' : Memory} {p p' : Nat} {f : Field}
    (h : ∀ t < f.size, bit m (8 * p + f.offset + t) = bit m' (8 * p' + f.offset + t)) :
  devxGet m p f = devxGet m' p' f
  := by
  apply BitVec.eq_of_getLsbD_eq
  intro k _
  rw [getLsbD_devxGet, getLsbD_devxGet]
  by_cases hk : k < f.size
  · have hpos (p : Nat) :
        8 * p + f.offset + f.size - 1 - k = 8 * p + f.offset + (f.size - 1 - k) := by omega
    rw [hpos, hpos, h _ (by omega)]
  · rw [decide_eq_false hk, Bool.false_and, Bool.false_and]

/-- A field that is compared. -/
theorem maskedEq_field_iff (mask value h : Memory) (p q r : Nat) (f : Field) :
  MaskedEq mask (8 * p + f.offset) value (8 * q + f.offset) h (8 * r + f.offset) f.size
    ↔ devxGet h r f &&& devxGet mask p f = devxGet value q f &&& devxGet mask p f
  := by
  have hpos (p k : Nat) (hk : k < f.size) :
      8 * p + f.offset + f.size - 1 - k = 8 * p + f.offset + (f.size - 1 - k) := by omega
  rw [and_eq_and_iff]
  constructor
  · intro heq k _ hmask
    rw [getLsbD_devxGet, Bool.and_eq_true, decide_eq_true_iff] at hmask
    obtain ⟨hk, hmask⟩ := hmask
    rw [getLsbD_devxGet, getLsbD_devxGet, hpos r k hk, hpos q k hk]
    rw [hpos p k hk] at hmask
    rw [heq _ (by omega) hmask]
  · intro heq t ht hmask
    have hback : f.size - 1 - (f.size - 1 - t) = t := by omega
    have hsize := f.size_le
    have hk : f.size - 1 - t < f.size := by omega
    have hbits := heq (f.size - 1 - t) (by omega)
    simp only [getLsbD_devxGet, hpos _ _ hk, hback, decide_eq_true hk, Bool.true_and] at hbits
    apply hbits hmask

end Dcmd
