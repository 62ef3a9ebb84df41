import Mathlib.Algebra.Group.Nat.Defs
import Mathlib.Data.Nat.Bits
import Mathlib.Tactic.Common

/-!
# Byte memory and its bits

`Memory` is byte-addressed memory.  `load32` and `store32` are the accesses of a
little-endian host to a 32-bit word, `bswap32` reverses the bytes of a word,
`insertBits` replaces a run of bits of a word and `copyBytes` writes a run of bytes.

`bit m i` is the bit string of a memory, in the order of a big-endian document: bit `0`
is the most significant bit of the byte at address `0`.  A word stored with its bytes
reversed occupies 32 consecutive bits, most significant bit first; `putBits` is the
update of a run of bits by a number written in that order.
-/

namespace Bits

/-- Byte-addressed memory. -/
abbrev Memory : Type := Nat → BitVec 8

/-- The memory all of whose bytes are zero. -/
def zeros : Memory := fun _ => 0

/-- The word a little-endian host loads from address `a`. -/
def load32 (m : Memory) (a : Nat) : BitVec 32 :=
  m (a + 3) ++ m (a + 2) ++ m (a + 1) ++ m a

/-- The memory after a little-endian host stores the word `w` at address `a`. -/
def store32 (m : Memory) (a : Nat) (w : BitVec 32) : Memory :=
  fun i => if a ≤ i ∧ i < a + 4 then w.extractLsb' (8 * (i - a)) 8 else m i

/-- The word with its four bytes in reverse order. -/
def bswap32 (w : BitVec 32) : BitVec 32 :=
  w.extractLsb' 0 8 ++ w.extractLsb' 8 8 ++ w.extractLsb' 16 8 ++ w.extractLsb' 24 8

/-- The word whose low `size` bits are set. -/
def lowMask (size : Nat) : BitVec 32 :=
  BitVec.ofNat 32 (2 ^ size - 1)

/-- The word `w` with the `size` bits from bit `lo` up replaced by the low bits of `v`. -/
def insertBits (w : BitVec 32) (lo size : Nat) (v : BitVec 32) : BitVec 32 :=
  (w &&& ~~~ (lowMask size <<< lo)) ||| ((v &&& lowMask size) <<< lo)

/-- The memory after the bytes `bs` are written from address `a` on. -/
def copyBytes (m : Memory) (a : Nat) (bs : List (BitVec 8)) : Memory :=
  fun i => if a ≤ i ∧ i < a + bs.length then bs.getD (i - a) 0 else m i

/-- Bit `i` of a memory: bit `0` is the most significant bit of the first byte. -/
def bit (m : Memory) (i : Nat) : Bool :=
  (m (i / 8)).getLsbD (7 - i % 8)

/-- The bit string `s` with the `size` bits from `pos` on replaced by the low `size` bits
of `v`, most significant first. -/
def putBits {n : Nat} (s : Nat → Bool) (pos size : Nat) (v : BitVec n) : Nat → Bool :=
  fun i => if pos ≤ i ∧ i < pos + size then v.getLsbD (pos + size - 1 - i) else s i

/-! ### Bits of a word -/

theorem getLsbD_lowMask {size : Nat} (hsize : size ≤ 32) (k : Nat) :
  (lowMask size).getLsbD k = decide (k < size)
  := by
  rw [lowMask, BitVec.getLsbD_ofNat, Nat.testBit_two_pow_sub_one]
  by_cases h : k < size
  · have hk : k < 32 := by omega
    simp [h, hk]
  · simp [h]

theorem toNat_lowMask {size : Nat} (hsize : size ≤ 32) :
  (lowMask size).toNat = 2 ^ size - 1
  := by
  have hpow : 2 ^ size ≤ 2 ^ 32 := Nat.pow_le_pow_right (by decide) hsize
  have hpos := Nat.two_pow_pos size
  rw [lowMask, BitVec.toNat_ofNat]
  apply Nat.mod_eq_of_lt
  omega

/-- A word is left by the mask of its low bits exactly if it has no other bits. -/
theorem and_lowMask_eq_self_iff {size : Nat} (hsize : size ≤ 32) (v : BitVec 32) :
  v &&& lowMask size = v ↔ v.toNat < 2 ^ size
  := by
  rw [← BitVec.toNat_inj, BitVec.toNat_and, toNat_lowMask hsize, Nat.and_two_pow_sub_one_eq_mod]
  constructor
  · intro h
    rw [← h]
    apply Nat.mod_lt _ (Nat.two_pow_pos size)
  · apply Nat.mod_eq_of_lt

/-- A word has a bit in common with the mask of its low bits exactly if one of them is set. -/
theorem and_lowMask_ne_zero_iff {size : Nat} (hsize : size ≤ 32) (v : BitVec 32) :
  v &&& lowMask size ≠ 0 ↔ ∃ k < size, v.getLsbD k = true
  := by
  constructor
  · intro h
    by_contra hnone
    apply h
    apply BitVec.eq_of_getLsbD_eq
    intro k _
    rw [BitVec.getLsbD_and, getLsbD_lowMask hsize]
    by_cases hk : k < size
    · have hbit : v.getLsbD k = false := by
        rw [← Bool.not_eq_true]
        intro hbit
        apply hnone ⟨k, hk, hbit⟩
      simp [hbit]
    · simp [hk]
  · rintro ⟨k, hk, hbit⟩ hzero
    have hset : (v &&& lowMask size).getLsbD k = true := by
      rw [BitVec.getLsbD_and, getLsbD_lowMask hsize, hbit]
      simpa using hk
    rw [hzero] at hset
    simp at hset

/-- A word without its low bits is rounded down. -/
theorem toNat_and_not_lowMask {size : Nat} (hsize : size ≤ 32) (v : BitVec 32) :
  (v &&& ~~~ lowMask size).toNat = v.toNat / 2 ^ size * 2 ^ size
  := by
  have hshift : v &&& ~~~ lowMask size = (v >>> size) <<< size := by
    apply BitVec.eq_of_getLsbD_eq
    intro k hk
    simp only [BitVec.getLsbD_and, BitVec.getLsbD_not, getLsbD_lowMask hsize,
      BitVec.getLsbD_shiftLeft, BitVec.getLsbD_ushiftRight, hk, decide_true, Bool.true_and]
    by_cases h : k < size
    · simp [h]
    · have hback : size + (k - size) = k := by omega
      simp [h, hback]
  rw [hshift, BitVec.toNat_shiftLeft, BitVec.toNat_ushiftRight, Nat.shiftLeft_eq,
    Nat.shiftRight_eq_div_pow, Nat.mod_eq_of_lt]
  apply Nat.lt_of_le_of_lt (Nat.div_mul_le_self _ _) v.isLt

/-- The bits of a word with a run of its bits replaced. -/
theorem getLsbD_insertBits (w : BitVec 32) {lo size : Nat} (v : BitVec 32) (hsize : size ≤ 32)
    {k : Nat} (hk : k < 32) :
  (insertBits w lo size v).getLsbD k
    = if lo ≤ k ∧ k < lo + size then v.getLsbD (k - lo) else w.getLsbD k
  := by
  simp only [insertBits, BitVec.getLsbD_or, BitVec.getLsbD_and, BitVec.getLsbD_not,
    BitVec.getLsbD_shiftLeft, getLsbD_lowMask hsize, hk, decide_true, Bool.true_and]
  by_cases hlow : k < lo
  · have hout : ¬ (lo ≤ k ∧ k < lo + size) := by omega
    simp [hlow, hout]
  · by_cases hin : k - lo < size
    · have hin' : lo ≤ k ∧ k < lo + size := by omega
      simp [hlow, hin, hin']
    · have hout : ¬ (lo ≤ k ∧ k < lo + size) := by omega
      simp [hlow, hin, hout]

/-- Replacing all the bits of a word. -/
theorem insertBits_all (w v : BitVec 32) :
  insertBits w 0 32 v = v
  := by
  apply BitVec.eq_of_getLsbD_eq
  intro k hk
  rw [getLsbD_insertBits _ _ (by omega) hk, if_pos (by omega), Nat.sub_zero]

/-! ### Bits of the accesses -/

@[simp]
theorem bit_zeros (i : Nat) :
  bit zeros i = false
  := by
  simp [bit, zeros]

/-- A memory is determined by its bits. -/
theorem ext_bit {m m' : Memory} (h : ∀ i, bit m i = bit m' i) :
  m = m'
  := by
  funext a
  apply BitVec.eq_of_getLsbD_eq
  intro k hk
  have hbit := h (8 * a + (7 - k))
  have hdiv : (8 * a + (7 - k)) / 8 = a := by omega
  have hmod : 7 - (8 * a + (7 - k)) % 8 = k := by omega
  simpa only [bit, hdiv, hmod] using hbit

/-- The bits of four bytes put together, byte by byte. -/
theorem getLsbD_append_bytes (b : Nat → BitVec 8) {k : Nat} (hk : k < 32) :
  (b 3 ++ b 2 ++ b 1 ++ b 0).getLsbD k = (b (k / 8)).getLsbD (k % 8)
  := by
  have hcases : k / 8 = 0 ∨ k / 8 = 1 ∨ k / 8 = 2 ∨ k / 8 = 3 := by omega
  simp only [BitVec.getLsbD_append]
  rcases hcases with h | h | h | h
  · have h0 : k < 8 := by omega
    have h1 : k % 8 = k := by omega
    simp [h, h0, h1]
  · have h0 : ¬ k < 8 := by omega
    have h1 : k - 8 < 8 := by omega
    have h2 : k % 8 = k - 8 := by omega
    simp [h, h0, h1, h2]
  · have h0 : ¬ k < 8 := by omega
    have h1 : ¬ k - 8 < 8 := by omega
    have h2 : k - 8 - 8 < 8 := by omega
    have h3 : k % 8 = k - 8 - 8 := by omega
    simp [h, h0, h1, h2, h3]
  · have h0 : ¬ k < 8 := by omega
    have h1 : ¬ k - 8 < 8 := by omega
    have h2 : ¬ k - 8 - 8 < 8 := by omega
    have h3 : k % 8 = k - 8 - 8 - 8 := by omega
    simp [h, h0, h1, h2, h3]

/-- The bits of a loaded word, byte by byte. -/
theorem getLsbD_load32 (m : Memory) (a : Nat) {k : Nat} (hk : k < 32) :
  (load32 m a).getLsbD k = (m (a + k / 8)).getLsbD (k % 8)
  := getLsbD_append_bytes (fun j => m (a + j)) hk

/-- The bits of a word with its bytes reversed. -/
theorem getLsbD_bswap32 (w : BitVec 32) {k : Nat} (hk : k < 32) :
  (bswap32 w).getLsbD k = w.getLsbD (8 * (3 - k / 8) + k % 8)
  := by
  apply Eq.trans (getLsbD_append_bytes (fun j => w.extractLsb' (8 * (3 - j)) 8) hk)
  rw [BitVec.getLsbD_extractLsb', decide_eq_true (by omega), Bool.true_and]

/-- A word that was stored is loaded again. -/
@[simp]
theorem load32_store32 (m : Memory) (a : Nat) (w : BitVec 32) :
  load32 (store32 m a w) a = w
  := by
  apply BitVec.eq_of_getLsbD_eq
  intro k hk
  rw [getLsbD_load32 _ _ hk, store32, if_pos (by omega), BitVec.getLsbD_extractLsb',
    decide_eq_true (by omega), Bool.true_and]
  congr 1
  omega

/-- Storing a word does not change a word it does not meet. -/
theorem load32_store32_of_disjoint (m : Memory) {a a' : Nat} (w : BitVec 32)
    (h : a' + 4 ≤ a ∨ a + 4 ≤ a') :
  load32 (store32 m a w) a' = load32 m a'
  := by
  apply BitVec.eq_of_getLsbD_eq
  intro k hk
  rw [getLsbD_load32 _ _ hk, getLsbD_load32 _ _ hk, store32, if_neg (by omega)]

/-- The word loaded with its bytes reversed is the 32 bits from `8 * a` on, read as a
number. -/
theorem getLsbD_bswap32_load32 (m : Memory) (a : Nat) {k : Nat} (hk : k < 32) :
  (bswap32 (load32 m a)).getLsbD k = bit m (8 * a + 31 - k)
  := by
  rw [getLsbD_bswap32 _ hk, getLsbD_load32 _ _ (by omega), bit]
  have hbyte : a + (8 * (3 - k / 8) + k % 8) / 8 = (8 * a + 31 - k) / 8 := by omega
  have hoff : (8 * (3 - k / 8) + k % 8) % 8 = 7 - (8 * a + 31 - k) % 8 := by omega
  rw [hbyte, hoff]

/-- Storing a word with its bytes reversed writes it to the 32 bits from `8 * a` on. -/
theorem bit_store32_bswap32 (m : Memory) (a : Nat) (w : BitVec 32) :
  bit (store32 m a (bswap32 w)) = putBits (bit m) (8 * a) 32 w
  := by
  funext i
  by_cases h : a ≤ i / 8 ∧ i / 8 < a + 4
  · have hbits : 8 * a ≤ i ∧ i < 8 * a + 32 := by omega
    simp only [bit, store32, putBits, if_pos h, if_pos hbits, BitVec.getLsbD_extractLsb']
    rw [getLsbD_bswap32 _ (by omega), decide_eq_true (by omega), Bool.true_and]
    congr 1
    omega
  · have hbits : ¬ (8 * a ≤ i ∧ i < 8 * a + 32) := by omega
    simp only [bit, store32, putBits, if_neg h, if_neg hbits]

/-- Storing a word changes only its own bits. -/
theorem bit_store32_of_outside (m : Memory) {a i : Nat} (w : BitVec 32)
    (h : i < 8 * a ∨ 8 * a + 32 ≤ i) :
  bit (store32 m a w) i = bit m i
  := by
  have hbyte : ¬ (a ≤ i / 8 ∧ i / 8 < a + 4) := by omega
  simp only [bit, store32, if_neg hbyte]

/-! ### Parts of a memory -/

/-- The memory from address `a` on. -/
def slice (m : Memory) (a : Nat) : Memory :=
  fun i => m (a + i)

/-- The bytes of `m` before address `a`, and those of `tail` from there on. -/
def splice (m : Memory) (a : Nat) (tail : Memory) : Memory :=
  fun i => if i < a then m i else tail (i - a)

@[simp]
theorem slice_splice (m : Memory) (a : Nat) (tail : Memory) :
  slice (splice m a tail) a = tail
  := by
  funext i
  rw [slice, splice, if_neg (by omega), Nat.add_sub_cancel_left]

/-- The memory with the bytes before address `a` set to zero. -/
def clearBefore (m : Memory) (a : Nat) : Memory :=
  splice zeros a (slice m a)

theorem bit_clearBefore (m : Memory) (a i : Nat) :
  bit (clearBefore m a) i = (decide (8 * a ≤ i) && bit m i)
  := by
  simp only [bit, clearBefore, splice, slice]
  by_cases h : 8 * a ≤ i
  · rw [if_neg (by omega), Nat.add_sub_cancel' (by omega), decide_eq_true h, Bool.true_and]
  · rw [if_pos (by omega), decide_eq_false h, Bool.false_and]
    simp [zeros]

/-! ### Memories that agree on a part -/

/-- The memories have the same bytes from `lo` up to `hi`. -/
def AgreeOn (lo hi : Nat) (m m' : Memory) : Prop :=
  ∀ i, lo ≤ i → i < hi → m i = m' i

namespace AgreeOn

variable {lo hi : Nat} {m m' m'' : Memory}

theorem symm (h : AgreeOn lo hi m m') :
  AgreeOn lo hi m' m
  := fun i hlo hhi => (h i hlo hhi).symm

theorem trans (h : AgreeOn lo hi m m') (h' : AgreeOn lo hi m' m'') :
  AgreeOn lo hi m m''
  := fun i hlo hhi => (h i hlo hhi).trans (h' i hlo hhi)

/-- The same word stored in both. -/
theorem store32 (h : AgreeOn lo hi m m') (a : Nat) (w : BitVec 32) :
  AgreeOn lo hi (store32 m a w) (store32 m' a w)
  := by
  intro i hlo hhi
  simp only [Bits.store32, h i hlo hhi]

/-- A word stored elsewhere. -/
theorem store32_outside (m : Memory) {a : Nat} (w : BitVec 32) (ha : a + 4 ≤ lo ∨ hi ≤ a) :
  AgreeOn lo hi (Bits.store32 m a w) m
  := by
  intro i hlo hhi
  rw [Bits.store32, if_neg (by omega)]

/-- A word in the common part. -/
theorem load32_eq (h : AgreeOn lo hi m m') {a : Nat} (hlo : lo ≤ a) (hhi : a + 4 ≤ hi) :
  load32 m a = load32 m' a
  := by
  simp only [load32, h a hlo (by omega), h (a + 1) (by omega) (by omega),
    h (a + 2) (by omega) (by omega), h (a + 3) (by omega) (by omega)]

/-- A bit in the common part. -/
theorem bit_eq (h : AgreeOn lo hi m m') {i : Nat} (hlo : 8 * lo ≤ i) (hhi : i < 8 * hi) :
  bit m i = bit m' i
  := by
  rw [bit, bit, h (i / 8) (by omega) (by omega)]

end AgreeOn

end Bits
