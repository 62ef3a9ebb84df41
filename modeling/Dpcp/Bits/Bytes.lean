import Mathlib.Data.Nat.Digits.Defs
import Dpcp.Bits.Writes

/-!
# Runs of bytes

`bytes m a n` are the `n` bytes of a memory from address `a` on, and `bigEndian` is the number whose
bytes these are when the first is the most significant one.  Zero bytes in front do not change the
number.
-/

namespace Bits

/-- The `n` bytes from address `a` on. -/
def bytes (m : Memory) (a n : Nat) : List (BitVec 8) :=
  (List.range n).map fun i => m (a + i)

@[simp]
theorem length_bytes (m : Memory) (a n : Nat) :
  (bytes m a n).length = n
  := by
  rw [bytes, List.length_map, List.length_range]

/-- A run of bytes is given by its length and its bytes. -/
theorem bytes_eq_iff {m : Memory} {a : Nat} {bs : List (BitVec 8)} :
  bytes m a bs.length = bs ↔ ∀ i, (hi : i < bs.length) → m (a + i) = bs[i]
  := by
  constructor
  · intro h i hi
    have hbyte : (bytes m a bs.length)[i]? = some (m (a + i)) := by
      simp [bytes, hi]
    rw [h, List.getElem?_eq_getElem hi] at hbyte
    apply (Option.some.inj hbyte).symm
  · intro h
    apply List.ext_getElem (length_bytes _ _ _)
    intro i _ hi
    simp only [bytes, List.getElem_map, List.getElem_range]
    apply h i hi

/-- Runs of the same bytes. -/
theorem bytes_congr {m m' : Memory} {a a' n : Nat} (h : ∀ i < n, m (a + i) = m' (a' + i)) :
  bytes m a n = bytes m' a' n
  := by
  apply List.map_congr_left
  intro i hi
  apply h i (List.mem_range.mp hi)

theorem bytes_add (m : Memory) (a n n' : Nat) :
  bytes m a (n + n') = bytes m a n ++ bytes m (a + n) n'
  := by
  rw [bytes, List.range_add, List.map_append, List.map_map]
  simp only [bytes, Function.comp_def, Nat.add_assoc]

/-- Bytes that are all zero. -/
theorem bytes_eq_replicate {m : Memory} {a n : Nat} (h : ∀ i < n, m (a + i) = 0) :
  bytes m a n = List.replicate n 0
  := by
  rw [List.eq_replicate_iff]
  refine ⟨length_bytes m a n, ?_⟩
  intro b hb
  obtain ⟨i, hi, rfl⟩ := List.mem_map.mp hb
  apply h i (List.mem_range.mp hi)

/-- Bytes that were copied are read back. -/
theorem copyBytes_of_lt (m : Memory) (a : Nat) {bs : List (BitVec 8)} {i : Nat}
    (hi : i < bs.length) :
  copyBytes m a bs (a + i) = bs[i]
  := by
  rw [copyBytes, if_pos (by omega), Nat.add_sub_cancel_left, List.getD_eq_getElem?_getD,
    List.getElem?_eq_getElem hi, Option.getD_some]

theorem copyBytes_of_outside (m : Memory) {a : Nat} {bs : List (BitVec 8)} {i : Nat}
    (hi : i < a ∨ a + bs.length ≤ i) :
  copyBytes m a bs i = m i
  := by
  rw [copyBytes, if_neg (by omega)]

/-! ### Bytes after writes -/

/-- A byte is given by its bits. -/
theorem byte_eq_of_bits {m : Memory} {a : Nat} {b : BitVec 8}
    (h : ∀ k < 8, bit m (8 * a + (7 - k)) = b.getLsbD k) :
  m a = b
  := by
  apply BitVec.eq_of_getLsbD_eq
  intro k hk
  have hbyte : (8 * a + (7 - k)) / 8 = a := by omega
  have hoff : 7 - (8 * a + (7 - k)) % 8 = k := by omega
  have hbit := h k hk
  rwa [bit, hbyte, hoff] at hbit

/-- The bytes of a word, the most significant first. -/
def beBytes (w : BitVec 32) : List (BitVec 8) :=
  (List.range 4).map fun i => w.extractLsb' (8 * (3 - i)) 8

section Puts

variable {m : Memory} {ws : List Write} (hm : bit m = puts (bit zeros) ws)

include hm

/-- Bytes that are covered by no write are zero. -/
theorem bytes_eq_zero_of_puts {a n : Nat}
    (h : ∀ w ∈ ws, ∀ i, 8 * a ≤ i → i < 8 * (a + n) → ¬ w.Covers i) :
  bytes m a n = List.replicate n 0
  := by
  apply bytes_eq_replicate
  intro i hi
  apply byte_eq_of_bits
  intro k hk
  rw [hm, puts_of_not_covers, bit_zeros]
  · simp
  · intro w hw
    apply h w hw
    · omega
    · omega

variable (hws : ws.Pairwise Write.Disjoint)

include hws

/-- Among pairwise disjoint writes, a run of bytes that is written is read back. -/
theorem bytes_of_puts {a : Nat} {bs : List (BitVec 8)} (hmem : Write.ofBytes a bs ∈ ws) :
  bytes m a bs.length = bs
  := by
  apply bytes_eq_iff.mpr
  intro i hi
  apply byte_of_puts hm hws hmem hi

/-- Among pairwise disjoint writes, a word that is written is read back byte by byte. -/
theorem bytes_of_word {a : Nat} {v : BitVec 32}
    (hmem : ⟨8 * a, 32, fun j => v.getLsbD (31 - j)⟩ ∈ ws) :
  bytes m a 4 = beBytes v
  := by
  apply List.map_congr_left
  intro i hi
  rw [List.mem_range] at hi
  apply byte_eq_of_bits
  intro k hk
  have hcovers : (⟨8 * a, 32, fun j => v.getLsbD (31 - j)⟩ : Write).Covers
      (8 * (a + i) + (7 - k)) := by
    simp only [Write.Covers]
    omega
  have hoff : 31 - (8 * (a + i) + (7 - k) - 8 * a) = 8 * (3 - i) + k := by omega
  rw [hm, puts_of_mem _ hws hmem hcovers, BitVec.getLsbD_extractLsb', decide_eq_true hk,
    Bool.true_and, ← hoff]

end Puts

/-! ### Big-endian numbers -/

/-- The number with the bytes `bs`, the first of which is the most significant. -/
def bigEndian (bs : List (BitVec 8)) : Nat :=
  Nat.ofDigits 256 (bs.reverse.map BitVec.toNat)

/-- Zero bytes in front do not change the number. -/
theorem bigEndian_replicate_append (n : Nat) (bs : List (BitVec 8)) :
  bigEndian (List.replicate n 0 ++ bs) = bigEndian bs
  := by
  rw [bigEndian, List.reverse_append, List.map_append, List.reverse_replicate, List.map_replicate]
  apply Nat.ofDigits_append_replicate_zero

end Bits
