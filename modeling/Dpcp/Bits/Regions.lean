import Dpcp.Bits.Bytes

/-!
# Writes by regions

A buffer is cut into regions that have no bit in common, and every write lies in one region.  What a
region holds at the end depends on the writes to that region only, in their order; they may lie over
one another.
-/

namespace Bits

universe u

/-- Regions of a bit string: `r` has the bits from `lo r` to before `hi r`. -/
structure Regions (ρ : Type u) where
  lo : ρ → Nat
  hi : ρ → Nat
  apart : ∀ r r', r ≠ r' → hi r ≤ lo r' ∨ hi r' ≤ lo r

namespace Regions

variable {ρ : Type u} [DecidableEq ρ] (R : Regions ρ)

/-- Every write lies in its region. -/
def Holds (ws : List (ρ × Write)) : Prop :=
  ∀ w ∈ ws, w.2.Within (R.lo w.1) (R.hi w.1)

/-- The writes to a region. -/
def writesTo (r : ρ) (ws : List (ρ × Write)) : List Write :=
  (ws.filter fun w => w.1 = r).map Prod.snd

variable {R}

/-- A bit of a region is made by the writes to the region. -/
theorem puts_eq {ws : List (ρ × Write)} (hws : R.Holds ws) {r : ρ} {i : Nat} (hlo : R.lo r ≤ i)
    (hhi : i < R.hi r) (s : Nat → Bool) :
  puts s (ws.map Prod.snd) i = puts s (writesTo r ws) i
  := by
  induction ws generalizing s with
  | nil => rfl
  | cons w ws ih =>
      have hrest := ih (fun w' hw' => hws w' (List.mem_cons_of_mem w hw')) (w.2.put s)
      rw [List.map_cons, puts_cons, hrest]
      by_cases hr : w.1 = r
      · rw [writesTo, writesTo, List.filter_cons_of_pos (by simpa using hr), List.map_cons,
          puts_cons]
      · rw [writesTo, writesTo, List.filter_cons_of_neg (by simpa using hr)]
        apply puts_congr
        apply Write.put_of_not_covers
        have hwithin := hws w List.mem_cons_self
        have hapart := R.apart w.1 r hr
        simp only [Write.Within, Write.Covers] at hwithin ⊢
        omega

end Regions

/-- The bits of bytes that were copied from another memory. -/
theorem bit_copyBytes_bytes (m : Memory) (a : Nat) (src : Memory) (b n : Nat) {t : Nat}
    (ht : t < 8 * n) :
  bit (copyBytes m a (bytes src b n)) (8 * a + t) = bit src (8 * b + t)
  := by
  have hdiv (a : Nat) : (8 * a + t) / 8 = a + t / 8 := by omega
  have hmod (a : Nat) : (8 * a + t) % 8 = t % 8 := by omega
  have hlt : t / 8 < (bytes src b n).length := by
    rw [length_bytes]
    omega
  have hbyte := copyBytes_of_lt m a hlt
  rw [bit, bit, hdiv, hdiv, hmod, hmod, hbyte]
  simp [bytes]

/-- Bytes are the same where their bits are. -/
theorem byte_eq_of_bit_eq {m m' : Memory} {a : Nat}
    (h : ∀ t < 8, bit m (8 * a + t) = bit m' (8 * a + t)) :
  m a = m' a
  := by
  apply byte_eq_of_bits
  intro k hk
  have hbyte : (8 * a + (7 - k)) / 8 = a := by omega
  have hoff : 7 - (8 * a + (7 - k)) % 8 = k := by omega
  rw [h (7 - k) (by omega), bit, hbyte, hoff]

/-- The bits of a memory whose first `n` bytes were cleared. -/
theorem bit_copyBytes_replicate (m : Memory) (n i : Nat) :
  bit (copyBytes m 0 (List.replicate n 0)) i = (bit m i && decide (8 * n ≤ i))
  := by
  by_cases hi : 8 * n ≤ i
  · have houtside : copyBytes m 0 (List.replicate n 0) (i / 8) = m (i / 8) := by
      apply copyBytes_of_outside
      rw [List.length_replicate]
      omega
    rw [bit, houtside, ← bit, decide_eq_true hi, Bool.and_true]
  · have hlt : i / 8 < (List.replicate n (0 : BitVec 8)).length := by
      rw [List.length_replicate]
      omega
    have hbyte := copyBytes_of_lt m 0 hlt
    rw [Nat.zero_add, List.getElem_replicate] at hbyte
    rw [bit, hbyte, decide_eq_false hi, Bool.and_false]
    apply BitVec.getLsbD_zero

end Bits
