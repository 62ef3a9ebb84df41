import Dpcp.Bits.Writes

/-!
# The mailbox accessors

`devxSet` and `devxGet` are the macros `MLX5_SET` and `MLX5_GET` of
`dcmd/windows/def.h`, the names `DEVX_SET` and `DEVX_GET` stand for: a field of at most
32 bits inside one big-endian word of a mailbox is replaced, or read, by loading the whole
word, and a set stores it back.  A pointer into a mailbox is the number of bytes from its
start.

As a bit string, the mailbox after `devxSet` is the one before with the write `Field.write`
made, and `devxGet` reads the bits of the field as a number.
-/

namespace Dcmd

open Bits

/-- A field of a PRM structure: the bit it starts at and its width.  A field lies inside
one 32-bit word. -/
structure Field where
  offset : Nat
  size : Nat
  within : offset % 32 + size ≤ 32

namespace Field

/-- `__mlx5_dw_bit_off`: the distance of the field from the low end of its word. -/
def dwBitOff (f : Field) : Nat :=
  32 - f.size - f.offset % 32

/-- The write of the value `v` to the field of the structure at `p`. -/
def write (f : Field) (p : Nat) (v : BitVec 32) : Write where
  pos := 8 * p + f.offset
  size := f.size
  val j := v.getLsbD (f.size - 1 - j)

/-- Bit `i` lies in the field of the structure at `p`. -/
def Has (f : Field) (p i : Nat) : Prop :=
  8 * p + f.offset ≤ i ∧ i < 8 * p + f.offset + f.size

instance (f : Field) (p i : Nat) : Decidable (f.Has p i) :=
  inferInstanceAs (Decidable (_ ∧ _))

theorem size_le (f : Field) :
  f.size ≤ 32
  := by
  have := f.within
  omega

/-- Two fields of one structure with no bit in common. -/
def Disjoint (f g : Field) : Prop :=
  f.offset + f.size ≤ g.offset ∨ g.offset + g.size ≤ f.offset

instance (f g : Field) : Decidable (f.Disjoint g) :=
  inferInstanceAs (Decidable (_ ∨ _))

theorem Disjoint.write {f g : Field} (h : f.Disjoint g) (p : Nat) (v v' : BitVec 32) :
  (f.write p v).Disjoint (g.write p v')
  := by
  rcases h with h | h
  · left
    simp only [Field.write]
    omega
  · right
    simp only [Field.write]
    omega

/-- The writes of several fields of the structure at `p`. -/
def writes (p : Nat) (l : List (Field × BitVec 32)) : List Write :=
  l.map (fun fv => fv.1.write p fv.2)

theorem writes_disjoint (p : Nat) {l : List (Field × BitVec 32)}
    (h : (l.map Prod.fst).Pairwise Field.Disjoint) :
  (writes p l).Pairwise Write.Disjoint
  := by
  rw [List.pairwise_map] at h
  rw [writes, List.pairwise_map]
  apply h.imp
  intro fv gv hfg
  apply hfg.write

theorem within_of_mem_writes {p n : Nat} {l : List (Field × BitVec 32)}
    (h : ∀ f ∈ l.map Prod.fst, f.offset + f.size ≤ n) {w : Write} (hw : w ∈ writes p l) :
  w.Within (8 * p) (8 * p + n)
  := by
  obtain ⟨fv, hfv, rfl⟩ := List.mem_map.mp hw
  have hn := h fv.1 (List.mem_map_of_mem hfv)
  simp only [Write.Within, Field.write]
  omega

/-- The writes of fields of a structure lie inside the structure. -/
theorem writes_within {p n : Nat} {l : List (Field × BitVec 32)}
    (h : ∀ f ∈ l.map Prod.fst, f.offset + f.size ≤ n) {w : Write} (hw : w ∈ writes p l)
    {j : Nat} (hj : w.Covers j) :
  8 * p ≤ j ∧ j < 8 * p + n
  := by
  have hwithin := within_of_mem_writes h hw
  simp only [Write.Within, Write.Covers] at hwithin hj
  omega

end Field

/-- `DEVX_SET`. -/
def devxSet (m : Memory) (p : Nat) (f : Field) (v : BitVec 32) : Memory :=
  let a := p + 4 * (f.offset / 32)
  store32 m a (bswap32 (insertBits (bswap32 (load32 m a)) f.dwBitOff f.size v))

/-- `DEVX_SET64` of the 64-bit field at the bit `offset`, a multiple of 64: its two big-endian
words. -/
def devxSet64 (m : Memory) (p : Nat) (offset : Nat) (v : BitVec 64) : Memory :=
  let a := p + offset / 8
  store32 (store32 m a (bswap32 (v.extractLsb' 32 32))) (a + 4) (bswap32 (v.setWidth 32))

/-- `DEVX_GET`. -/
def devxGet (m : Memory) (p : Nat) (f : Field) : BitVec 32 :=
  (bswap32 (load32 m (p + 4 * (f.offset / 32))) >>> f.dwBitOff) &&& lowMask f.size

/-- A set makes the write of the field and changes no other bit. -/
theorem bit_devxSet (m : Memory) (p : Nat) (f : Field) (v : BitVec 32) :
  bit (devxSet m p f v) = Write.put (bit m) (f.write p v)
  := by
  have hwithin := f.within
  funext i
  simp only [devxSet]
  rw [bit_store32_bswap32]
  by_cases hword : 8 * (p + 4 * (f.offset / 32)) ≤ i ∧ i < 8 * (p + 4 * (f.offset / 32)) + 32
  · rw [putBits, if_pos hword, getLsbD_insertBits _ _ f.size_le (by omega),
      getLsbD_bswap32_load32 _ _ (by omega)]
    by_cases hfield : (f.write p v).Covers i
    · rw [Write.put_of_covers _ hfield]
      simp only [Write.Covers, Field.write] at hfield
      rw [if_pos (by rw [Field.dwBitOff]; omega)]
      simp only [Field.write, Field.dwBitOff]
      congr 1
      omega
    · rw [Write.put_of_not_covers _ hfield]
      simp only [Write.Covers, Field.write] at hfield
      rw [if_neg (by rw [Field.dwBitOff]; omega)]
      congr 1
      omega
  · have hfield : ¬ (f.write p v).Covers i := by
      simp only [Write.Covers, Field.write]
      omega
    rw [Write.put_of_not_covers _ hfield, putBits, if_neg hword]

/-- The bits of the field after a set. -/
theorem bit_devxSet_of_has (m : Memory) {p : Nat} {f : Field} (v : BitVec 32) {i : Nat}
    (h : f.Has p i) :
  bit (devxSet m p f v) i = v.getLsbD (f.size - 1 - (i - (8 * p + f.offset)))
  := by
  rw [bit_devxSet]
  apply if_pos h

/-- A set leaves the bits outside the field. -/
theorem bit_devxSet_of_not_has (m : Memory) {p : Nat} {f : Field} (v : BitVec 32) {i : Nat}
    (h : ¬ f.Has p i) :
  bit (devxSet m p f v) i = bit m i
  := by
  rw [bit_devxSet]
  apply if_neg h

/-- A set of 64 bits leaves the bits outside them. -/
theorem bit_devxSet64_of_outside (m : Memory) {p offset : Nat} (v : BitVec 64) {i : Nat}
    (h : i < 8 * (p + offset / 8) ∨ 8 * (p + offset / 8) + 64 ≤ i) :
  bit (devxSet64 m p offset v) i = bit m i
  := by
  simp only [devxSet64]
  rw [bit_store32_of_outside _ _ (by omega), bit_store32_of_outside _ _ (by omega)]

/-- A set of the value that the field has changes nothing. -/
theorem devxSet_eq_self {m : Memory} {p : Nat} {f : Field} {v : BitVec 32}
    (h : ∀ i, f.Has p i → bit m i = v.getLsbD (f.size - 1 - (i - (8 * p + f.offset)))) :
  devxSet m p f v = m
  := by
  apply ext_bit
  intro i
  by_cases hi : f.Has p i
  · rw [bit_devxSet_of_has _ _ hi, h i hi]
  · apply bit_devxSet_of_not_has _ _ hi

/-- The same set in memories that agree on the word of the field. -/
theorem devxSet_agreeOn {lo hi : Nat} {m m' : Memory} (h : AgreeOn lo hi m m') {p : Nat}
    {f : Field} (v : BitVec 32) (hlo : lo ≤ p + 4 * (f.offset / 32))
    (hhi : p + 4 * (f.offset / 32) + 4 ≤ hi) :
  AgreeOn lo hi (devxSet m p f v) (devxSet m' p f v)
  := by
  simp only [devxSet, h.load32_eq hlo hhi]
  apply h.store32

/-- A set in a word elsewhere. -/
theorem devxSet_agreeOn_outside {lo hi : Nat} (m : Memory) {p : Nat} {f : Field} (v : BitVec 32)
    (h : p + 4 * (f.offset / 32) + 4 ≤ lo ∨ hi ≤ p + 4 * (f.offset / 32)) :
  AgreeOn lo hi (devxSet m p f v) m
  := AgreeOn.store32_outside m _ h

/-- The same set of 64 bits in memories that agree. -/
theorem devxSet64_agreeOn {lo hi : Nat} {m m' : Memory} (h : AgreeOn lo hi m m') (p offset : Nat)
    (v : BitVec 64) :
  AgreeOn lo hi (devxSet64 m p offset v) (devxSet64 m' p offset v)
  := (h.store32 _ _).store32 _ _

/-- A set of 64 bits elsewhere. -/
theorem devxSet64_agreeOn_outside {lo hi : Nat} (m : Memory) {p offset : Nat} (v : BitVec 64)
    (h : p + offset / 8 + 8 ≤ lo ∨ hi ≤ p + offset / 8) :
  AgreeOn lo hi (devxSet64 m p offset v) m
  := by
  simp only [devxSet64]
  apply (AgreeOn.store32_outside _ _ (by omega)).trans
  apply AgreeOn.store32_outside _ _ (by omega)

/-- A field that is read fits its width. -/
theorem devxGet_lt (m : Memory) (p : Nat) (f : Field) :
  (devxGet m p f).toNat < 2 ^ f.size
  := by
  rw [devxGet, BitVec.toNat_and, toNat_lowMask f.size_le, Nat.and_two_pow_sub_one_eq_mod]
  apply Nat.mod_lt
  apply Nat.two_pow_pos

/-- A field reads the same in memories that agree. -/
theorem devxGet_agreeOn {lo hi : Nat} {m m' : Memory} (h : AgreeOn lo hi m m') {p : Nat} {f : Field}
    (hlo : lo ≤ p + 4 * (f.offset / 32)) (hhi : p + 4 * (f.offset / 32) + 4 ≤ hi) :
  devxGet m p f = devxGet m' p f
  := by
  rw [devxGet, devxGet, h.load32_eq hlo hhi]

/-- The bits of a field that is read. -/
theorem getLsbD_devxGet (m : Memory) (p : Nat) (f : Field) (k : Nat) :
  (devxGet m p f).getLsbD k
    = (decide (k < f.size) && bit m (8 * p + f.offset + f.size - 1 - k))
  := by
  have hwithin := f.within
  rw [devxGet, BitVec.getLsbD_and, getLsbD_lowMask f.size_le, Bool.and_comm]
  by_cases h : k < f.size
  · have hk : f.dwBitOff + k < 32 := by
      rw [Field.dwBitOff]
      omega
    have hbit : 8 * (p + 4 * (f.offset / 32)) + 31 - (f.dwBitOff + k)
        = 8 * p + f.offset + f.size - 1 - k := by
      rw [Field.dwBitOff]
      omega
    rw [BitVec.getLsbD_ushiftRight, getLsbD_bswap32_load32 m _ hk, hbit]
  · simp [h]

/-! ### Reading after a set -/

@[simp]
theorem devxGet_zeros (p : Nat) (f : Field) :
  devxGet zeros p f = 0
  := by
  apply BitVec.eq_of_getLsbD_eq
  intro k _
  simp [getLsbD_devxGet]

/-- A field of a structure, read in the part of the memory that starts with the structure. -/
theorem devxGet_slice (m : Memory) (a p : Nat) (f : Field) :
  devxGet (slice m a) p f = devxGet m (a + p) f
  := by
  simp only [devxGet, load32, slice, Nat.add_assoc]

/-- A field that was set reads as the low bits of the value. -/
theorem devxGet_devxSet_self (m : Memory) (p : Nat) (f : Field) (v : BitVec 32) :
  devxGet (devxSet m p f v) p f = v &&& lowMask f.size
  := by
  apply BitVec.eq_of_getLsbD_eq
  intro k _
  rw [getLsbD_devxGet, BitVec.getLsbD_and, getLsbD_lowMask f.size_le, Bool.and_comm]
  by_cases hk : k < f.size
  · rw [bit_devxSet_of_has]
    · congr 2
      omega
    · simp only [Field.Has]
      omega
  · simp [hk]

theorem toNat_devxGet_devxSet (m : Memory) (p : Nat) (f : Field) (v : BitVec 32) :
  (devxGet (devxSet m p f v) p f).toNat = v.toNat % 2 ^ f.size
  := by
  rw [devxGet_devxSet_self, BitVec.toNat_and, toNat_lowMask f.size_le,
    Nat.and_two_pow_sub_one_eq_mod]

/-- A value as wide as the field is read back. -/
theorem setWidth_devxGet_devxSet (m : Memory) (p : Nat) {f : Field} {n : Nat} (x : BitVec n)
    (hsize : f.size = n) :
  (devxGet (devxSet m p f (x.setWidth 32)) p f).setWidth n = x
  := by
  have hn : n ≤ 32 := hsize ▸ f.size_le
  apply BitVec.eq_of_getLsbD_eq
  intro k hk
  have hk32 : k < 32 := by omega
  rw [devxGet_devxSet_self, BitVec.getLsbD_setWidth, BitVec.getLsbD_and,
    getLsbD_lowMask f.size_le, BitVec.getLsbD_setWidth, hsize]
  simp [hk, hk32]

/-- A field that is copied reads as it did. -/
theorem devxGet_devxSet_devxGet (m m' : Memory) (p q : Nat) (f : Field) :
  devxGet (devxSet m p f (devxGet m' q f)) p f = devxGet m' q f
  := by
  apply BitVec.eq_of_getLsbD_eq
  intro k _
  rw [devxGet_devxSet_self, BitVec.getLsbD_and, getLsbD_lowMask f.size_le, getLsbD_devxGet]
  by_cases hk : k < f.size <;> simp [hk]

/-- The field `f` of the structure at `p` has no bit in common with the field `g` of the structure
at `q`. -/
def Field.apart (f : Field) (p : Nat) (g : Field) (q : Nat) : Bool :=
  decide (8 * p + f.offset + f.size ≤ 8 * q + g.offset
    ∨ 8 * q + g.offset + g.size ≤ 8 * p + f.offset)

/-- A field is not changed when a field with no bit in common is set. -/
theorem devxGet_devxSet_of_apart (m : Memory) {p q : Nat} {f g : Field} (v : BitVec 32)
    (h : f.apart p g q = true) :
  devxGet (devxSet m q g v) p f = devxGet m p f
  := by
  have hapart := of_decide_eq_true h
  apply BitVec.eq_of_getLsbD_eq
  intro k _
  rw [getLsbD_devxGet, getLsbD_devxGet]
  by_cases hk : k < f.size
  · rw [bit_devxSet_of_not_has]
    simp only [Field.Has]
    omega
  · simp [hk]

/-- The field `f` of the structure at `p` has no bit in common with the 64 bits at `offset` of the
structure at `q`. -/
def Field.apart64 (f : Field) (p offset q : Nat) : Bool :=
  decide (8 * p + f.offset + f.size ≤ 8 * (q + offset / 8)
    ∨ 8 * (q + offset / 8) + 64 ≤ 8 * p + f.offset)

/-- A field is not changed when 64 bits elsewhere are set. -/
theorem devxGet_devxSet64_of_apart (m : Memory) {p q offset : Nat} {f : Field} (v : BitVec 64)
    (h : f.apart64 p offset q = true) :
  devxGet (devxSet64 m q offset v) p f = devxGet m p f
  := by
  have hapart := of_decide_eq_true h
  apply BitVec.eq_of_getLsbD_eq
  intro k _
  rw [getLsbD_devxGet, getLsbD_devxGet]
  by_cases hk : k < f.size
  · rw [bit_devxSet64_of_outside]
    omega
  · simp [hk]

/-- What is read of the memory that a condition selects. -/
theorem devxGet_if {c : Prop} [Decidable c] (m m' : Memory) (p : Nat) (f : Field) :
  devxGet (if c then m else m') p f = if c then devxGet m p f else devxGet m' p f
  := apply_ite (devxGet · p f) c m m'

/-- A field that is the same in both memories is the same whichever is taken. -/
theorem devxGet_ite {c : Prop} [Decidable c] {m m' : Memory} {p : Nat} {f : Field}
    (h : devxGet m' p f = devxGet m p f) :
  devxGet (if c then m' else m) p f = devxGet m p f
  := by
  split
  · apply h
  · rfl

/-- `DEVX_SET` of several fields of the structure at `p`, if `c`. -/
def devxSetIf (c : Bool) (p : Nat) (l : List (Field × BitVec 32)) (m : Memory) : Memory :=
  if c then l.foldl (fun m fv => devxSet m p fv.1 fv.2) m else m

theorem devxSetIf_true (p : Nat) (l : List (Field × BitVec 32)) (m : Memory) :
  devxSetIf true p l m = l.foldl (fun m fv => devxSet m p fv.1 fv.2) m
  := rfl

theorem devxSetIf_false (p : Nat) (l : List (Field × BitVec 32)) (m : Memory) :
  devxSetIf false p l m = m
  := rfl

/-- A field is not changed when fields with no bit in common are set. -/
theorem devxGet_devxSetIf_of_apart (c : Bool) {p q : Nat} {f : Field}
    {l : List (Field × BitVec 32)} (m : Memory)
    (h : l.all (fun fv => f.apart p fv.1 q) = true) :
  devxGet (devxSetIf c q l m) p f = devxGet m p f
  := by
  cases c with
  | false => rfl
  | true =>
      rw [devxSetIf_true]
      induction l generalizing m with
      | nil => rfl
      | cons fv l ih =>
          rw [List.all_cons, Bool.and_eq_true] at h
          rw [List.foldl_cons, ih _ h.2, devxGet_devxSet_of_apart _ _ h.1]

/-- A value as wide as the field is read back if the fields that are set after it have no bit in
common with it. -/
theorem setWidth_devxGet_devxSetIf (p : Nat) (m : Memory) (f : Field) {n : Nat} (x : BitVec n)
    (l l' : List (Field × BitVec 32)) (hsize : f.size = n)
    (hl' : l'.all (fun fv => decide (f.Disjoint fv.1)) = true) :
  (devxGet (devxSetIf true p (l ++ (f, x.setWidth 32) :: l') m) p f).setWidth n = x
  := by
  have hapart : l'.all (fun fv => f.apart p fv.1 p) = true := by
    apply List.all_eq_true.mpr
    intro fv hfv
    have hdisjoint := of_decide_eq_true (List.all_eq_true.mp hl' fv hfv)
    simp only [Field.Disjoint] at hdisjoint
    simp only [Field.apart, decide_eq_true_eq]
    omega
  rw [devxSetIf_true, List.foldl_append, List.foldl_cons, ← devxSetIf_true,
    devxGet_devxSetIf_of_apart _ _ hapart, setWidth_devxGet_devxSet _ _ _ hsize]

/-- Setting one more bit of a field, the other bits of the field as they are, writes that bit
only. -/
theorem bit_devxSet_or_twoPow (m : Memory) (p : Nat) (f : Field) {k : Nat} (hk : k < f.size) :
  bit (devxSet m p f (devxGet m p f ||| BitVec.twoPow 32 k))
    = Write.put (bit m) ⟨8 * p + f.offset + f.size - 1 - k, 1, fun _ => true⟩
  := by
  have hsize := f.size_le
  rw [bit_devxSet]
  funext i
  by_cases hi : (f.write p (devxGet m p f ||| BitVec.twoPow 32 k)).Covers i
  · rw [Write.put_of_covers _ hi]
    simp only [Write.Covers, Field.write] at hi
    have hin : f.size - 1 - (i - (8 * p + f.offset)) < f.size := by omega
    have hback : 8 * p + f.offset + f.size - 1 - (f.size - 1 - (i - (8 * p + f.offset))) = i := by
      omega
    simp only [Field.write, BitVec.getLsbD_or, getLsbD_devxGet, BitVec.getLsbD_twoPow, hin, hback,
      decide_true, Bool.true_and]
    by_cases hk' : f.size - 1 - (i - (8 * p + f.offset)) = k
    · rw [Write.put_of_covers]
      · have hk32 : k < 32 := by omega
        simp [hk', hk32]
      · simp only [Write.Covers]
        omega
    · rw [Write.put_of_not_covers]
      · have hk'' : ¬ k = f.size - 1 - (i - (8 * p + f.offset)) := fun h => hk' h.symm
        simp [hk'']
      · simp only [Write.Covers]
        omega
  · rw [Write.put_of_not_covers _ hi]
    simp only [Write.Covers, Field.write] at hi
    rw [Write.put_of_not_covers]
    simp only [Write.Covers]
    omega

/-- A field all of whose bits are those of `v` reads as `v` modulo the width of the
field. -/
theorem devxGet_of_bits {m : Memory} {p : Nat} {f : Field} {v : BitVec 32}
    (h : ∀ i, (f.write p v).Covers i → bit m i = (f.write p v).val (i - (f.write p v).pos)) :
  (devxGet m p f).toNat = v.toNat % 2 ^ f.size
  := by
  have hmask : devxGet m p f = v &&& lowMask f.size := by
    apply BitVec.eq_of_getLsbD_eq
    intro k _
    rw [getLsbD_devxGet, BitVec.getLsbD_and, getLsbD_lowMask f.size_le, Bool.and_comm]
    by_cases hk : k < f.size
    · have hcovers : (f.write p v).Covers (8 * p + f.offset + f.size - 1 - k) := by
        simp only [Write.Covers, Field.write]
        omega
      rw [h _ hcovers]
      simp only [Field.write]
      congr 2
      omega
    · simp [hk]
  rw [hmask, BitVec.toNat_and, toNat_lowMask f.size_le, Nat.and_two_pow_sub_one_eq_mod]

/-- A field none of whose bits are set reads as zero. -/
theorem devxGet_of_bits_false {m : Memory} {p : Nat} {f : Field}
    (h : ∀ i, f.Has p i → bit m i = false) :
  (devxGet m p f).toNat = 0
  := by
  have hzero := devxGet_of_bits (m := m) (p := p) (f := f) (v := 0) (by
    intro i hi
    rw [h i hi]
    simp [Field.write])
  rw [hzero]
  simp

/-- Among pairwise disjoint writes, a field that is written reads as the value written. -/
theorem devxGet_of_puts {m : Memory} {s : Nat → Bool} {ws : List Write} (hm : bit m = puts s ws)
    (hws : ws.Pairwise Write.Disjoint) {p : Nat} {f : Field} {v : BitVec 32}
    (hmem : f.write p v ∈ ws) :
  (devxGet m p f).toNat = v.toNat % 2 ^ f.size
  := by
  apply devxGet_of_bits
  intro i hi
  rw [hm]
  apply puts_of_mem _ hws hmem hi

/-- Among pairwise disjoint writes, a value that fits its field is read back. -/
theorem devxGet_eq_of_puts {m : Memory} {s : Nat → Bool} {ws : List Write} (hm : bit m = puts s ws)
    (hws : ws.Pairwise Write.Disjoint) {p : Nat} {f : Field} {v : BitVec 32}
    (hfits : v.toNat < 2 ^ f.size) (hmem : f.write p v ∈ ws) :
  devxGet m p f = v
  := by
  apply BitVec.eq_of_toNat_eq
  rw [devxGet_of_puts hm hws hmem]
  apply Nat.mod_eq_of_lt hfits

/-- Fields of a structure that are written among pairwise disjoint writes are all read back if their
values fit. -/
theorem devxGet_of_writes {m : Memory} {s : Nat → Bool} {ws : List Write} (hm : bit m = puts s ws)
    (hws : ws.Pairwise Write.Disjoint) {p : Nat} {l : List (Field × BitVec 32)}
    (hfits : ∀ fv ∈ l, fv.2.toNat < 2 ^ fv.1.size) (hmem : ∀ w ∈ Field.writes p l, w ∈ ws) :
  ∀ fv ∈ l, devxGet m p fv.1 = fv.2
  := by
  intro fv hfv
  apply devxGet_eq_of_puts hm hws (hfits fv hfv)
  apply hmem
  apply List.mem_map_of_mem hfv

/-- Among pairwise disjoint conditional writes to zeros, a field reads as the value of its write if
this is made, and else as zero. -/
theorem devxGet_of_selected {m : Memory} {l : List (Bool × Write)}
    (hm : bit m = puts (bit zeros) (selected l)) (hl : (l.map Prod.snd).Pairwise Write.Disjoint)
    {p : Nat} {f : Field} {c : Bool} {v : BitVec 32} (hmem : (c, f.write p v) ∈ l)
    (hfits : c = true → v.toNat < 2 ^ f.size) :
  devxGet m p f = if c then v else 0
  := by
  have hbits := fun i hi => puts_selected (bit zeros) hl hmem (i := i) hi
  rw [← hm] at hbits
  apply BitVec.eq_of_toNat_eq
  cases c with
  | true => rw [devxGet_of_bits hbits, Nat.mod_eq_of_lt (hfits rfl), if_pos rfl]
  | false =>
      apply devxGet_of_bits_false
      intro i hi
      rw [hbits i hi]
      apply bit_zeros

/-- A value of `n` bits fits a field of `n` bits. -/
theorem toNat_setWidth_lt {n : Nat} (x : BitVec n) :
  (x.setWidth 32).toNat < 2 ^ n
  := by
  rw [BitVec.toNat_setWidth]
  apply Nat.lt_of_le_of_lt (Nat.mod_le _ _) x.isLt

/-! ### Fields of 64 bits -/

/-- The write of the value `v` to the 64-bit field at the bit `offset` of the structure at `p`. -/
def write64 (p offset : Nat) (v : BitVec 64) : Write where
  pos := 8 * (p + offset / 8)
  size := 64
  val j := v.getLsbD (63 - j)

/-- `DEVX_GET64` of the 64-bit field at the bit `offset`, a multiple of 64. -/
def devxGet64 (m : Memory) (p offset : Nat) : BitVec 64 :=
  let a := p + offset / 8
  bswap32 (load32 m a) ++ bswap32 (load32 m (a + 4))

/-- A set of 64 bits makes the write of the field and changes no other bit. -/
theorem bit_devxSet64 (m : Memory) (p offset : Nat) (v : BitVec 64) :
  bit (devxSet64 m p offset v) = Write.put (bit m) (write64 p offset v)
  := by
  funext i
  by_cases hcovers : (write64 p offset v).Covers i
  · rw [Write.put_of_covers _ hcovers]
    simp only [Write.Covers, write64] at hcovers
    simp only [devxSet64, bit_store32_bswap32, putBits, write64]
    by_cases hlow : 8 * (p + offset / 8 + 4) ≤ i
    · rw [if_pos (by omega), BitVec.getLsbD_setWidth, decide_eq_true (by omega), Bool.true_and]
      congr 1
      omega
    · rw [if_neg (by omega), if_pos (by omega), BitVec.getLsbD_extractLsb',
        decide_eq_true (by omega), Bool.true_and]
      congr 1
      omega
  · rw [Write.put_of_not_covers _ hcovers]
    apply bit_devxSet64_of_outside
    simp only [Write.Covers, write64] at hcovers
    omega

theorem getLsbD_devxGet64 (m : Memory) (p offset : Nat) {k : Nat} (hk : k < 64) :
  (devxGet64 m p offset).getLsbD k = bit m (8 * (p + offset / 8) + 63 - k)
  := by
  rw [devxGet64, BitVec.getLsbD_append]
  split
  · rename_i hlow
    rw [getLsbD_bswap32_load32 _ _ hlow]
    congr 1
  · rw [getLsbD_bswap32_load32 _ _ (by omega)]
    congr 1
    omega

/-- Among pairwise disjoint writes, 64 bits that are written are read back. -/
theorem devxGet64_of_puts {m : Memory} {s : Nat → Bool} {ws : List Write} (hm : bit m = puts s ws)
    (hws : ws.Pairwise Write.Disjoint) {p offset : Nat} {v : BitVec 64}
    (hmem : write64 p offset v ∈ ws) :
  devxGet64 m p offset = v
  := by
  apply BitVec.eq_of_getLsbD_eq
  intro k hk
  have hcovers : (write64 p offset v).Covers (8 * (p + offset / 8) + 63 - k) := by
    simp only [Write.Covers, write64]
    omega
  rw [getLsbD_devxGet64 _ _ _ hk, hm, puts_of_mem s hws hmem hcovers]
  simp only [write64]
  congr 1
  omega

theorem devxGet64_slice (m : Memory) (a p offset : Nat) :
  devxGet64 (slice m a) p offset = devxGet64 m (a + p) offset
  := by
  simp only [devxGet64, load32, slice, Nat.add_assoc]

/-- The 64 bits that were set are read back. -/
theorem devxGet64_devxSet64_self (m : Memory) (p offset : Nat) (v : BitVec 64) :
  devxGet64 (devxSet64 m p offset v) p offset = v
  := by
  have hputs : bit (devxSet64 m p offset v) = puts (bit m) [write64 p offset v] := by
    rw [bit_devxSet64]
    rfl
  apply devxGet64_of_puts hputs (List.pairwise_singleton _ _) List.mem_cons_self

/-- The 64 bits are not changed when a field elsewhere is set. -/
theorem devxGet64_devxSet_of_apart (m : Memory) {p q offset : Nat} {f : Field} (v : BitVec 32)
    (h : f.apart64 q offset p = true) :
  devxGet64 (devxSet m q f v) p offset = devxGet64 m p offset
  := by
  have hapart := of_decide_eq_true h
  apply BitVec.eq_of_getLsbD_eq
  intro k hk
  rw [getLsbD_devxGet64 _ _ _ hk, getLsbD_devxGet64 _ _ _ hk, bit_devxSet_of_not_has]
  simp only [Field.Has]
  omega

end Dcmd
