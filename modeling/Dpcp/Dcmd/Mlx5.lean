import Dpcp.Dcmd.Devx

/-!
# The macros of the mailbox accessors

The macros `MLX5_SET`, `MLX5_GET`, `MLX5_SET64` and `MLX5_GET64` of `dcmd/windows/def.h` as they
are written.

* The value of a set may have 64 bits.  It is masked and shifted with as many, put together with the
  word that is promoted to them, and the byte swap takes the low 32 bits again.
* The mask is computed with 64 bits too, so that a field of 32 bits has a mask.
* The accesses of 64 bits load and store eight bytes at once.  A set wants an aligned field and a
  get does not.

They are `devxSet`, `devxGet`, `devxSet64` and `devxGet64`, from which they have their laws.
-/

namespace Dcmd

open Bits

/-! ### Words of 64 bits -/

/-- The 64-bit word a little-endian host loads from address `a`. -/
def load64 (m : Memory) (a : Nat) : BitVec 64 :=
  load32 m (a + 4) ++ load32 m a

/-- The memory after a little-endian host stores the 64-bit word `w` at address `a`. -/
def store64 (m : Memory) (a : Nat) (w : BitVec 64) : Memory :=
  store32 (store32 m a (w.setWidth 32)) (a + 4) (w.extractLsb' 32 32)

/-- The 64-bit word with its eight bytes in reverse order. -/
def bswap64 (w : BitVec 64) : BitVec 64 :=
  bswap32 (w.setWidth 32) ++ bswap32 (w.extractLsb' 32 32)

theorem setWidth_bswap64 (w : BitVec 64) :
  (bswap64 w).setWidth 32 = bswap32 (w.extractLsb' 32 32)
  := BitVec.setWidth_append_eq_right

theorem extractLsb'_bswap64 (w : BitVec 64) :
  (bswap64 w).extractLsb' 32 32 = bswap32 (w.setWidth 32)
  := BitVec.extractLsb'_append_eq_left

/-! ### The macros -/

namespace Field

/-- `__mlx5_mask`. -/
def mask (f : Field) : BitVec 32 :=
  ((1#64 <<< f.size) - 1#64).setWidth 32

/-- `__mlx5_dw_mask`. -/
def dwMask (f : Field) : BitVec 32 :=
  f.mask <<< f.dwBitOff

/-- `__mlx5_dw_off`. -/
def dwOff (f : Field) : Nat :=
  f.offset / 32

theorem mask_eq_lowMask (f : Field) :
  f.mask = lowMask f.size
  := by
  have hsize := f.size_le
  have hpow : 2 ^ f.size ≤ 2 ^ 32 := Nat.pow_le_pow_right (by decide) hsize
  have hpos := Nat.two_pow_pos f.size
  apply BitVec.eq_of_toNat_eq
  rw [toNat_lowMask hsize, mask, BitVec.toNat_setWidth, BitVec.toNat_sub, BitVec.toNat_shiftLeft,
    Nat.shiftLeft_eq, BitVec.toNat_ofNat, Nat.mod_eq_of_lt (by decide : 1 < 2 ^ 64), Nat.one_mul]
  omega

end Field

/-- A 64-bit field that `MLX5_SET64` compiles for: the bit it starts at. -/
structure Field64 where
  offset : Nat
  aligned : offset % 64 = 0

/-- `MLX5_SET`. -/
def mlx5Set (m : Memory) (p : Nat) (f : Field) (v : BitVec 64) : Memory :=
  let a := p + 4 * f.dwOff
  let word := bswap32 (load32 m a) &&& ~~~ f.dwMask
  let bits := (v &&& f.mask.setWidth 64) <<< f.dwBitOff
  store32 m a (bswap32 ((word.setWidth 64 ||| bits).setWidth 32))

/-- `MLX5_GET`. -/
def mlx5Get (m : Memory) (p : Nat) (f : Field) : BitVec 32 :=
  (bswap32 (load32 m (p + 4 * f.dwOff)) >>> f.dwBitOff) &&& f.mask

/-- `MLX5_SET64`. -/
def mlx5Set64 (m : Memory) (p : Nat) (f : Field64) (v : BitVec 64) : Memory :=
  store64 m (p + 8 * (f.offset / 64)) (bswap64 v)

/-- `MLX5_GET64`; `offset` need not be aligned. -/
def mlx5Get64 (m : Memory) (p offset : Nat) : BitVec 64 :=
  if offset % 64 = 0 then
    bswap64 (load64 m (p + 8 * (offset / 64)))
  else
    bswap64 (load64 m (p + offset / 8))

/-! ### What they are -/

theorem mlx5Set_eq (m : Memory) (p : Nat) (f : Field) (v : BitVec 64) :
  mlx5Set m p f v = devxSet m p f (v.setWidth 32)
  := by
  have hword (w : BitVec 32) :
      (w.setWidth 64 ||| (v &&& f.mask.setWidth 64) <<< f.dwBitOff).setWidth 32
        = w ||| (v.setWidth 32 &&& lowMask f.size) <<< f.dwBitOff := by
    rw [f.mask_eq_lowMask]
    apply BitVec.eq_of_getLsbD_eq
    intro k hk
    have hshift : k - f.dwBitOff < 64 := by omega
    simp [hk, hshift]
  simp only [mlx5Set, devxSet, insertBits, Field.dwOff, Field.dwMask, hword]
  rw [f.mask_eq_lowMask]

theorem mlx5Get_eq (m : Memory) (p : Nat) (f : Field) :
  mlx5Get m p f = devxGet m p f
  := by
  rw [mlx5Get, devxGet, f.mask_eq_lowMask, Field.dwOff]

theorem mlx5Set64_eq (m : Memory) (p : Nat) (f : Field64) (v : BitVec 64) :
  mlx5Set64 m p f v = devxSet64 m p f.offset v
  := by
  have hoffset : 8 * (f.offset / 64) = f.offset / 8 := by
    have := f.aligned
    omega
  simp only [mlx5Set64, store64, devxSet64, setWidth_bswap64, extractLsb'_bswap64, hoffset]

theorem bswap64_load64 (m : Memory) (a : Nat) :
  bswap64 (load64 m a) = bswap32 (load32 m a) ++ bswap32 (load32 m (a + 4))
  := by
  rw [bswap64, load64, BitVec.setWidth_append_eq_right, BitVec.extractLsb'_append_eq_left]

theorem mlx5Get64_eq (m : Memory) (p offset : Nat) :
  mlx5Get64 m p offset = devxGet64 m p offset
  := by
  rw [mlx5Get64, devxGet64, bswap64_load64, bswap64_load64]
  split
  · have hoffset : 8 * (offset / 64) = offset / 8 := by omega
    rw [hoffset]
  · rfl

/-! ### Their laws -/

/-- Sets of fields with no bit in common commute. -/
theorem devxSet_comm (m : Memory) {p q : Nat} {f g : Field} (h : f.apart p g q = true)
    (v w : BitVec 32) :
  devxSet (devxSet m p f v) q g w = devxSet (devxSet m q g w) p f v
  := by
  have hapart : (f.write p v).Disjoint (g.write q w) := of_decide_eq_true h
  apply ext_bit
  intro i
  rw [bit_devxSet, bit_devxSet, bit_devxSet, bit_devxSet, Write.put_comm _ hapart]

/-- A set of 64 bits leaves the bytes outside them. -/
theorem devxSet64_of_outside (m : Memory) {p offset : Nat} (v : BitVec 64) {a : Nat}
    (h : a < p + offset / 8 ∨ p + offset / 8 + 8 ≤ a) :
  devxSet64 m p offset v a = m a
  := by
  have hagree : AgreeOn a (a + 1) (devxSet64 m p offset v) m :=
    devxSet64_agreeOn_outside m v (by omega)
  apply hagree a (by omega) (by omega)

/-- A field reads as the value that was set modulo the width of the field, a set changes no bit
outside its field, and sets of fields with no bit in common commute; 64 bits read as the value that
was set, and their set changes no other byte. -/
theorem mlx5_set_get (m : Memory) (p : Nat) (f : Field) (f64 : Field64) (v : BitVec 64) :
  (mlx5Get (mlx5Set m p f v) p f).toNat = v.toNat % 2 ^ f.size
    ∧ (∀ i, ¬ f.Has p i → bit (mlx5Set m p f v) i = bit m i)
    ∧ (∀ q g w, f.apart p g q = true →
      mlx5Set (mlx5Set m p f v) q g w = mlx5Set (mlx5Set m q g w) p f v)
    ∧ mlx5Get64 (mlx5Set64 m p f64 v) p f64.offset = v
    ∧ (∀ a, a < p + f64.offset / 8 ∨ p + f64.offset / 8 + 8 ≤ a → mlx5Set64 m p f64 v a = m a)
  := by
  simp only [mlx5Set_eq, mlx5Get_eq, mlx5Set64_eq, mlx5Get64_eq]
  refine ⟨?_, ?_, ?_, ?_, ?_⟩
  · have hdvd : 2 ^ f.size ∣ 2 ^ 32 := Nat.pow_dvd_pow 2 f.size_le
    rw [toNat_devxGet_devxSet, BitVec.toNat_setWidth, Nat.mod_mod_of_dvd _ hdvd]
  · intro i hi
    apply bit_devxSet_of_not_has _ _ hi
  · intro q g w hapart
    apply devxSet_comm _ hapart
  · apply devxGet64_devxSet64_self
  · intro a ha
    apply devxSet64_of_outside _ _ ha

/-- The two halves of a word, with a value that is too wide for its field. -/
theorem mlx5_set_get_halves :
  let high : Field := ⟨0, 16, by decide⟩
  let low : Field := ⟨16, 16, by decide⟩
  let m := mlx5Set zeros 0 high 0x12345
  (mlx5Get m 0 high).toNat = 0x2345
    ∧ mlx5Set m 0 low 1 = mlx5Set (mlx5Set zeros 0 low 1) 0 high 0x12345
    ∧ mlx5Get64 (mlx5Set64 zeros 0 ⟨64, by decide⟩ 0x12345) 0 64 = 0x12345
  := by
  intro high low m
  have hmod : (0x12345 : BitVec 64).toNat % 2 ^ 16 = 0x2345 := by decide
  obtain ⟨hget, -, hcomm, hget64, -⟩ := mlx5_set_get zeros 0 high ⟨64, by decide⟩ 0x12345
  exact ⟨hget.trans hmod, hcomm 0 low 1 (by decide), hget64⟩

end Dcmd
