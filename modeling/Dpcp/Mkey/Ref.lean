import Dpcp.Mkey.Pattern

/-!
# The memory of ref mkeys

A ref mkey describes a part of the memory of its parent, which may be an mkey of any kind that
reports a region, another ref mkey among them.  `create` compares addresses and their ends in
64 bits, where the end of an interval can wrap around.

`Describes` says over the natural numbers when a ref mkey is a part of its parent, and `Slips`
which intervals `create` gets wrong.  A chain of ref mkeys without a slip stays in the region of
its root.
-/

namespace Dpcp

/-- The region an mkey reports, its address and its length, if the getters succeed. -/
def Mkey.region (k : Mkey) : Option (BitVec 64 × BitVec 64) :=
  match k.getAddress 0, k.getLength 0 with
  | (.ok, address), (.ok, length) => some (address, length)
  | _, _ => none

theorem Mkey.region_eq_some {k : Mkey} {address length : BitVec 64} :
  k.region = some (address, length)
    ↔ k.getAddress 0 = (.ok, address) ∧ k.getLength 0 = (.ok, length)
  := by
  rw [region]
  split
  · rename_i address' length' haddress hlength
    rw [haddress, hlength]
    simp
  · rename_i hnone
    constructor
    · intro h
      cases h
    · rintro ⟨haddress, hlength⟩
      cases hnone address length haddress hlength

/-- An mkey that can be the parent of a ref mkey, by its class. -/
inductive ParentMkey where
  | direct (m : DirectMkey)
  | reserved (m : ReservedMkey)
  | externMkey (address length : BitVec 64) (id : BitVec 32)
  | pattern (m : PatternMkey)
  | ref (m : RefMkey)

namespace ParentMkey

/-- The virtual getters. -/
def mkey : ParentMkey → Mkey
  | direct m => m.mkey
  | reserved m => m.mkey
  | externMkey address length id => (ExternMkey.new address length id).mkey
  | pattern m => m.mkey
  | ref m => m.mkey

/-- The id of the mkey, `0` if it has none. -/
def idx : ParentMkey → BitVec 32
  | direct m => m.mIdx
  | reserved m => m.mIdx
  | externMkey address length id => (ExternMkey.new address length id).mIdx
  | pattern m => m.mIdx
  | ref m => m.mIdx

def flags : ParentMkey → BitVec 32
  | direct m => m.mFlags
  | reserved m => m.mFlags
  | externMkey address length id => (ExternMkey.new address length id).mFlags
  | pattern m => m.mFlags
  | ref m => m.mFlags

/-- The region of the mkey does not wrap around. -/
def NoWrap (p : ParentMkey) : Prop :=
  ∀ address length, p.mkey.region = some (address, length) →
    address.toNat + length.toNat ≤ 2 ^ 64

/-- The getters of `reserved_mkey` and of `base_ref_mkey` report a region only with an index. -/
theorem idx_of_region_indexed {idx flags : BitVec 32} {address length : BitVec 64}
    {region : BitVec 64 × BitVec 64}
    (h : (Mkey.indexed idx address length flags).region = some region) :
  idx ≠ 0
  := by
  rintro rfl
  simp [Mkey.region, Mkey.indexed] at h

/-- An mkey that reports a region also reports its index and its flags. -/
theorem getters_of_region {p : ParentMkey} {region : BitVec 64 × BitVec 64}
    (h : p.mkey.region = some region) (id flags : BitVec 32) :
  p.mkey.getId id = (.ok, p.idx) ∧ p.mkey.getFlags flags = (.ok, p.flags)
  := by
  cases p with
  | direct m | pattern m => exact ⟨rfl, rfl⟩
  | reserved m | externMkey m | ref m =>
      have hidx := idx_of_region_indexed h
      constructor
      · apply if_neg hidx
      · apply if_neg hidx

end ParentMkey

namespace RefMkey

/-- `create` on a parent that reports a region. -/
theorem create_of_region {m : RefMkey} {p : ParentMkey} {address length : BitVec 64}
    (hregion : p.mkey.region = some (address, length)) :
  m.create (some p.mkey)
    = if m.mAddress = 0 ∨ m.mLength = 0 then
        (.errInvalidParam, m)
      else if m.mAddress < address ∨ address + length < m.mAddress + m.mLength then
        (.errOutOfRange, { m with mIdx := p.idx, mFlags := p.flags })
      else
        (.ok, { m with mIdx := p.idx, mFlags := p.flags })
  := by
  obtain ⟨haddress, hlength⟩ := Mkey.region_eq_some.mp hregion
  obtain ⟨hid, hflags⟩ := ParentMkey.getters_of_region hregion m.mIdx m.mFlags
  simp only [create, hid, haddress, hlength, hflags]

/-- A parent with which `create` succeeds reports a region. -/
theorem region_of_create {m m' : RefMkey} {parent : Mkey}
    (h : m.create (some parent) = (.ok, m')) :
  ∃ address length, parent.region = some (address, length)
  := by
  simp only [create] at h
  split at h
  · cases h
  · split at h
    · split at h
      · rename_i address haddress
        split at h
        · rename_i length hlength
          exact ⟨address, length, Mkey.region_eq_some.mpr ⟨haddress, hlength⟩⟩
        · rename_i ret _ hret _
          cases hret (congrArg Prod.fst h)
      · rename_i ret _ hret _
        cases hret (congrArg Prod.fst h)
    · rename_i ret hret
      cases hret (congrArg Prod.fst h)

/-- `create` succeeds on an interval with an address and a length that passes the comparison with
the region of the parent, and on no other. -/
theorem create_eq_ok_iff {m m' : RefMkey} {p : ParentMkey} :
  m.create (some p.mkey) = (.ok, m')
    ↔ m.mAddress ≠ 0 ∧ m.mLength ≠ 0
      ∧ (∃ address length, p.mkey.region = some (address, length) ∧ address ≤ m.mAddress
        ∧ m.mAddress + m.mLength ≤ address + length)
      ∧ m' = { m with mIdx := p.idx, mFlags := p.flags }
  := by
  constructor
  · intro h
    obtain ⟨address, length, hregion⟩ := region_of_create h
    rw [create_of_region hregion] at h
    split at h
    · cases h
    · rename_i hnull
      split at h
      · cases h
      · rename_i hrange
        obtain ⟨haddress, hlength⟩ := not_or.mp hnull
        obtain ⟨hstart, hend⟩ := not_or.mp hrange
        exact ⟨haddress, hlength, ⟨address, length, hregion, BitVec.not_lt.mp hstart,
          BitVec.not_lt.mp hend⟩, (congrArg Prod.snd h).symm⟩
  · rintro ⟨haddress, hlength, ⟨address, length, hregion, hstart, hend⟩, rfl⟩
    rw [create_of_region hregion, if_neg (not_or.mpr ⟨haddress, hlength⟩),
      if_neg (not_or.mpr ⟨BitVec.not_lt.mpr hstart, BitVec.not_lt.mpr hend⟩)]

/-- The ref mkey describes a part of its parent: the parent has an id, and the interval is not
empty, does not start at the null address and lies in the region of the parent. -/
def Describes (m : RefMkey) (p : ParentMkey) : Prop :=
  p.idx ≠ 0 ∧ m.mAddress ≠ 0 ∧ m.mLength ≠ 0
    ∧ ∃ address length, p.mkey.region = some (address, length)
      ∧ address.toNat ≤ m.mAddress.toNat
      ∧ m.mAddress.toNat + m.mLength.toNat ≤ address.toNat + length.toNat

/-- `create` gets an interval wrong that does not start before the region of the parent, if the
interval ends at `stop` and the region at `regionStop`: the end of the interval wraps around
and does not come out after that of the region; or the interval fits, but the parent has no id;
or the region ends with the address space, and its end wraps around to the null address. -/
def SlipsAt (idx : BitVec 32) (stop regionStop : Nat) : Prop :=
  regionStop < 2 ^ 64 ∧ 2 ^ 64 ≤ stop ∧ stop ≤ 2 ^ 64 + regionStop
    ∨ idx = 0 ∧ stop ≤ regionStop ∧ (regionStop = 2 ^ 64 → stop = 2 ^ 64)
    ∨ idx ≠ 0 ∧ regionStop = 2 ^ 64 ∧ stop < 2 ^ 64

/-- The interval of the ref mkey is one that `create` gets wrong. -/
def Slips (m : RefMkey) (p : ParentMkey) : Prop :=
  m.mAddress ≠ 0 ∧ m.mLength ≠ 0
    ∧ ∃ address length, p.mkey.region = some (address, length)
      ∧ address.toNat ≤ m.mAddress.toNat
      ∧ SlipsAt p.idx (m.mAddress.toNat + m.mLength.toNat) (address.toNat + length.toNat)

/-- The comparison of the ends, against what it is meant to say. -/
theorem end_le_iff {address length address' length' : BitVec 64} {idx : BitVec 32}
    (hnoWrap : address.toNat + length.toNat ≤ 2 ^ 64) (hlength' : length' ≠ 0) :
  (address' + length' ≤ address + length
      ↔ idx ≠ 0 ∧ address'.toNat + length'.toNat ≤ address.toNat + length.toNat)
    ↔ ¬ SlipsAt idx (address'.toNat + length'.toNat) (address.toNat + length.toNat)
  := by
  have hpos : 0 < length'.toNat := by
    apply Nat.pos_of_ne_zero
    intro h
    apply hlength' (BitVec.eq_of_toNat_eq h)
  have haddress' := address'.isLt
  have hlt := length'.isLt
  rw [BitVec.le_def, BitVec.toNat_add, BitVec.toNat_add, SlipsAt]
  by_cases hidx : idx = 0
  · simp only [hidx, ne_eq, not_true_eq_false, true_and, false_and, or_false, iff_false]
    omega
  · simp only [hidx, ne_eq, not_false_eq_true, true_and, false_and, false_or]
    omega

/-- `create` succeeds just on the parts of the parent, unless it gets the interval wrong. -/
theorem create_ok_iff_describes {m : RefMkey} {p : ParentMkey} (hp : p.NoWrap) :
  ((m.create (some p.mkey)).1 = .ok ↔ m.Describes p) ↔ ¬ m.Slips p
  := by
  have hok : (m.create (some p.mkey)).1 = .ok ↔ m.mAddress ≠ 0 ∧ m.mLength ≠ 0
      ∧ ∃ address length, p.mkey.region = some (address, length) ∧ address ≤ m.mAddress
        ∧ m.mAddress + m.mLength ≤ address + length := by
    constructor
    · intro h
      obtain ⟨haddress, hlength, hregion, -⟩ := create_eq_ok_iff.mp (Prod.ext h rfl)
      exact ⟨haddress, hlength, hregion⟩
    · rintro ⟨haddress, hlength, hregion⟩
      rw [create_eq_ok_iff.mpr ⟨haddress, hlength, hregion, rfl⟩]
  rw [hok, Describes, Slips]
  cases hregion : p.mkey.region with
  | none => simp
  | some region =>
      obtain ⟨address, length⟩ := region
      have hexists (P : BitVec 64 → BitVec 64 → Prop) :
          (∃ a l, some (address, length) = some (a, l) ∧ P a l) ↔ P address length := by
        simp
      by_cases hnull : m.mAddress = 0 ∨ m.mLength = 0
      · rcases hnull with hnull | hnull <;> simp [hnull]
      · obtain ⟨haddress, hlength⟩ := not_or.mp hnull
        have hend := @end_le_iff address length m.mAddress m.mLength p.idx
          (hp address length hregion) hlength
        by_cases hstart : address.toNat ≤ m.mAddress.toNat
        · simpa only [hexists, ne_eq, haddress, hlength, not_false_eq_true, BitVec.le_def, hstart,
            true_and] using hend
        · simp [BitVec.le_def, hstart]

end RefMkey

/-! ### Chains of ref mkeys -/

/-- The mkeys that can be made from `root` by creating ref mkeys, each one from the one before, with
intervals that `create` does not get wrong. -/
inductive RefChain (root : ParentMkey) : ParentMkey → Prop where
  | root : RefChain root root
  | link {p : ParentMkey} {m m' : RefMkey} : RefChain root p → ¬ m.Slips p →
      m.create (some p.mkey) = (.ok, m') → RefChain root (.ref m')

/-- The mkey has the id of `root`, and its region is a part of that of `root`. -/
structure ParentMkey.Within (p root : ParentMkey) : Prop where
  idx : p.idx = root.idx
  region : ∀ address length, p.mkey.region = some (address, length) →
    ∃ address' length', root.mkey.region = some (address', length')
      ∧ address'.toNat ≤ address.toNat
      ∧ address.toNat + length.toNat ≤ address'.toNat + length'.toNat

theorem ParentMkey.Within.noWrap {p root : ParentMkey} (h : p.Within root) (hroot : root.NoWrap) :
  p.NoWrap
  := by
  intro address length hregion
  obtain ⟨address', length', hregion', -, hend⟩ := h.region address length hregion
  apply Nat.le_trans hend (hroot address' length' hregion')

/-- The region of a ref mkey that was created is the interval it was constructed with. -/
theorem RefMkey.region_of_ref {m : RefMkey} {address length : BitVec 64}
    (h : (ParentMkey.ref m).mkey.region = some (address, length)) :
  address = m.mAddress ∧ length = m.mLength
  := by
  have hidx := ParentMkey.idx_of_region_indexed h
  obtain ⟨haddress, hlength⟩ := Mkey.region_eq_some.mp h
  simp only [ParentMkey.mkey, RefMkey.mkey, Mkey.indexed, if_neg hidx] at haddress hlength
  split at hlength
  · cases hlength
  · cases haddress
    cases hlength
    exact ⟨rfl, rfl⟩

/-- A chain of ref mkeys, however long, stays in the region of its root and has its id. -/
theorem RefChain.within {root p : ParentMkey} (hroot : root.NoWrap) (h : RefChain root p) :
  p.Within root
  := by
  induction h with
  | root =>
      constructor
      · rfl
      · intro address length hregion
        exact ⟨address, length, hregion, Nat.le_refl _, Nat.le_refl _⟩
  | @link p m m' hchain hslips hcreate ih =>
      have hdescribes : m.Describes p := by
        apply ((RefMkey.create_ok_iff_describes (ih.noWrap hroot)).mpr hslips).mp
        rw [hcreate]
      obtain ⟨-, -, -, address, length, hregion, hstart, hend⟩ := hdescribes
      obtain ⟨-, -, -, rfl⟩ := RefMkey.create_eq_ok_iff.mp hcreate
      constructor
      · apply ih.idx
      · intro address' length' hregion'
        obtain ⟨rfl, rfl⟩ := RefMkey.region_of_ref hregion'
        obtain ⟨address₀, length₀, hregion₀, hstart₀, hend₀⟩ := ih.region address length hregion
        exact ⟨address₀, length₀, hregion₀, Nat.le_trans hstart₀ hstart,
          Nat.le_trans hend hend₀⟩

/-- For a parent of any class with a region that does not wrap around and for any interval, `create`
succeeds exactly on the parts of the parent if and only if the interval is not one it gets
wrong.  A chain of ref mkeys on such intervals, of any length, stays in the region of its root
and has its id. -/
theorem refMkey_create_iff {p : ParentMkey} (hp : p.NoWrap) (m : RefMkey) :
  (((m.create (some p.mkey)).1 = .ok ↔ m.Describes p) ↔ ¬ m.Slips p)
    ∧ ∀ q, RefChain p q → q.Within p
  := by
  constructor
  · apply RefMkey.create_ok_iff_describes hp
  · intro q h
    apply h.within hp

/-! ### A page and its parts -/

/-- A registered page. -/
def page : ParentMkey :=
  .direct ⟨0x1000, 0x1000, 0, true, 0x77⟩

theorem page_region :
  page.mkey.region = some (0x1000, 0x1000)
  := rfl

theorem page_noWrap :
  page.NoWrap
  := by
  intro address length hregion
  cases hregion
  decide

/-- A part of the second half of the page. -/
theorem refMkey_create_page :
  page.NoWrap ∧ (((RefMkey.new 0x1800 0x800).create (some page.mkey)).1 = .ok
      ↔ (RefMkey.new 0x1800 0x800).Describes page)
    ∧ (ParentMkey.ref ⟨0x1800, 0x800, 0x77, 0⟩).Within page
  := by
  have hslips : ¬ (RefMkey.new 0x1800 0x800).Slips page := by
    rintro ⟨-, -, address, length, hregion, -, hslips⟩
    cases page_region.symm.trans hregion
    revert hslips
    simp only [RefMkey.SlipsAt]
    decide
  obtain ⟨hiff, hwithin⟩ := refMkey_create_iff page_noWrap (.new 0x1800 0x800)
  refine ⟨page_noWrap, hiff.mpr hslips, ?_⟩
  apply hwithin
  apply RefChain.link .root hslips
  rfl

/-- An interval of almost the whole address space is accepted as a part of the page, and the ref
mkey then has the id of the page. -/
theorem refMkey_create_wraps :
  (RefMkey.new 0x1800 (-0x100)).create (some page.mkey) = (.ok, ⟨0x1800, -0x100, 0x77, 0⟩)
    ∧ ¬ (RefMkey.new 0x1800 (-0x100)).Describes page
    ∧ ¬ (ParentMkey.ref ⟨0x1800, -0x100, 0x77, 0⟩).Within page
  := by
  refine ⟨rfl, ?_, ?_⟩
  · rintro ⟨-, -, -, address, length, hregion, -, hend⟩
    cases page_region.symm.trans hregion
    revert hend
    decide
  · intro h
    obtain ⟨address, length, hregion, -, hend⟩ := h.region 0x1800 (-0x100) rfl
    cases page_region.symm.trans hregion
    revert hend
    decide

end Dpcp
