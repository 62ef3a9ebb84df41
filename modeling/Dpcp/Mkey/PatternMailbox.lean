import Mathlib.Data.List.Forall2
import Dpcp.Bits.Records
import Dpcp.Mkey.Pattern

/-!
# The mailbox of a pattern mkey

`pattern_mkey::create` describes the building blocks in entries of 16 bytes, with 16 bits for the
stride and for the length of a block, and cuts off what does not fit.  The number of the blocks is
cut off to 16 bits and the number of the strides to 32.  The mailbox describes the pattern that was
asked for exactly if none of these numbers is cut off: the size of a stride and the length of the
mkey, which are computed in 64 bits, are then exact too, and the buffer has room for all entries.
-/

namespace Dpcp

open Bits Dcmd Prm

namespace PatternMkey

/-! ### The writes of the mailbox -/

/-- What an entry of the repeated block is made of. -/
structure Entry where
  strideSz : BitVec 64
  length : BitVec 64
  id : BitVec 32
  address : BitVec 64

/-- The entry is that of a building block: the id and the address are those that the getters of its
mkey give. -/
structure Entry.Of (e : Entry) (bb : PatternMkeyBb) : Prop where
  strideSz : e.strideSz = bb.mStrideSz
  length : e.length = bb.mLength
  id : ∃ id, bb.mKey.getId id = (.ok, e.id)
  address : bb.mKey.getAddress 0 = (.ok, e.address)

/-- The writes of an entry at the address `a`. -/
def entryWrites (e : Entry) (a : Nat) : List Write :=
  [WqeUmrRepeatEntSeg.stride.write a (e.strideSz.setWidth 32),
    WqeUmrRepeatEntSeg.byteCount.write a (e.length.setWidth 32),
    WqeUmrRepeatEntSeg.memkey.write a e.id,
    write64 a WqeUmrRepeatEntSeg.va e.address]

/-- Where the entries start. -/
def entries : Nat :=
  CreateMkeyIn.klmPasMttBsf + WqeUmrRepeatBlockSeg.bytes

/-- The writes of `create` before the loop. -/
def headerWrites (k : PatternMkey) (pd : BitVec 32) (mkeyCnt : Int) (pageSize : BitVec 64) :
    List Write :=
  let mkc := CreateMkeyIn.memoryKeyMkeyEntry
  let repbls := CreateMkeyIn.klmPasMttBsf
  [CreateMkeyIn.translationsOctwordActualSize.write 0 k.alignedSz,
    Mkc.accessMode42.write mkc 0x0,
    Mkc.lw.write mkc 0x1,
    Mkc.lr.write mkc 0x1,
    Mkc.accessMode10.write mkc 0x2,
    Mkc.qpn.write mkc 0xffffff,
    Mkc.mkey70.write mkc (BitVec.ofInt 32 (mkeyCnt.tmod 0xFF)),
    Mkc.pd.write mkc pd,
    write64 mkc Mkc.startAddr (k.startAddr pageSize),
    write64 mkc Mkc.len (k.mStrideSz * k.mStrideNum),
    Mkc.translationsOctwordSize.write mkc k.alignedSz,
    WqeUmrRepeatBlockSeg.byteCount.write repbls (k.mStrideSz.setWidth 32),
    WqeUmrRepeatBlockSeg.op.write repbls repeatedBlockFormat,
    WqeUmrRepeatBlockSeg.repeatCount.write repbls (k.mStrideNum.setWidth 32),
    WqeUmrRepeatBlockSeg.numEnt.write repbls (BitVec.ofNat 32 k.mBbsArr.length)]

/-- The writes of `create`, in order, for the entries `es`. -/
def writes (k : PatternMkey) (pd : BitVec 32) (mkeyCnt : Int) (pageSize : BitVec 64)
    (es : List Entry) : List Write :=
  k.headerWrites pd mkeyCnt pageSize ++ records entryWrites WqeUmrRepeatEntSeg.bytes entries es
    ++ [CreateMkeyIn.opcode.write 0 CryptoMkey.mlx5CmdOpCreateMkey]

theorem bit_header (k : PatternMkey) (pd : BitVec 32) (mkeyCnt : Int) (pageSize : BitVec 64) :
  bit (k.header pd mkeyCnt pageSize) = puts (bit zeros) (k.headerWrites pd mkeyCnt pageSize)
  := by
  simp only [header, bit_devxSet, bit_devxSet64]
  rfl

/-- A loop that succeeds has written an entry for each building block. -/
theorem setEntries_eq_ok {bbs : List PatternMkeyBb} {m m' : Memory} {entry : Nat} {id : BitVec 32}
    (h : setEntries m entry id bbs = (.ok, m')) :
  ∃ es, List.Forall₂ Entry.Of es bbs
    ∧ bit m' = puts (bit m) (records entryWrites WqeUmrRepeatEntSeg.bytes entry es)
  := by
  induction bbs generalizing m entry id with
  | nil =>
      cases h
      exact ⟨[], .nil, rfl⟩
  | cons bb bbs ih =>
      simp only [setEntries] at h
      split at h
      · rename_i id' hid
        split at h
        · rename_i ad had
          obtain ⟨es, hes, hbits⟩ := ih h
          refine ⟨⟨bb.mStrideSz, bb.mLength, id', ad⟩ :: es,
            .cons ⟨rfl, rfl, ⟨id, hid⟩, had⟩ hes, ?_⟩
          rw [hbits, records_cons, puts_append]
          simp only [bit_devxSet, bit_devxSet64]
          rfl
        · rename_i hret _
          cases hret (congrArg Prod.fst h)
      · rename_i hret _
        cases hret (congrArg Prod.fst h)

/-- A mailbox that is complete has the writes of `create`, with the entries of the blocks. -/
theorem mailbox_eq_ok {k : PatternMkey} {pd : BitVec 32} {mkeyCnt : Int} {pageSize : BitVec 64}
    {m : Memory} (h : k.mailbox pd mkeyCnt pageSize = (.ok, m)) :
  ∃ es, List.Forall₂ Entry.Of es k.mBbsArr
    ∧ bit m = puts (bit zeros) (k.writes pd mkeyCnt pageSize es)
  := by
  rw [mailbox] at h
  obtain ⟨m₁, hentries, h⟩ := Result.andThen_eq_ok.mp h
  obtain ⟨es, hes, hbits⟩ := setEntries_eq_ok hentries
  refine ⟨es, hes, ?_⟩
  cases h
  rw [bit_devxSet, hbits, bit_header, writes, puts_append, puts_append]
  rfl

theorem entryWrites_spans (e : Entry) (a : Nat) :
  (entryWrites e a).map Write.span
    = [(0x0, 0x10), (0x10, 0x10), (0x20, 0x20), (0x40, 0x40)].map (fun t => (8 * a + t.1, t.2))
  := by
  simp [entryWrites, Write.span, Field.write, write64, WqeUmrRepeatEntSeg.stride,
    WqeUmrRepeatEntSeg.byteCount, WqeUmrRepeatEntSeg.memkey, WqeUmrRepeatEntSeg.va, Nat.mul_add]

theorem entryWrites_disjoint (e : Entry) (a : Nat) :
  (entryWrites e a).Pairwise Write.Disjoint
  := by
  apply disjoint_of_spans _ _ (entryWrites_spans e a)
  decide

theorem entryWrites_within (e : Entry) (a : Nat) (w : Write) (hw : w ∈ entryWrites e a) :
  w.Within (8 * a) (8 * (a + WqeUmrRepeatEntSeg.bytes))
  := by
  rw [Nat.mul_add]
  apply within_of_spans _ _ (entryWrites_spans e a) (by decide) hw

theorem headerWrites_spans (k : PatternMkey) (pd : BitVec 32) (mkeyCnt : Int)
    (pageSize : BitVec 64) :
  (k.headerWrites pd mkeyCnt pageSize ++ [CreateMkeyIn.opcode.write 0
      CryptoMkey.mlx5CmdOpCreateMkey]).map Write.span
    = [(0x300, 0x20), (0x83, 0x3), (0x94, 0x1), (0x95, 0x1), (0x96, 0x2), (0xa0, 0x18),
        (0xb8, 0x8), (0xe8, 0x18), (0x100, 0x40), (0x140, 0x40), (0x220, 0x20), (0x880, 0x20),
        (0x8a0, 0x20), (0x8c0, 0x20), (0x8f0, 0x10), (0x0, 0x10)].map (fun t => (0 + t.1, t.2))
  := rfl

/-- What `create` writes apart from the entries stands before them. -/
theorem headerWrites_within {k : PatternMkey} {pd : BitVec 32} {mkeyCnt : Int}
    {pageSize : BitVec 64} {w : Write}
    (hw : w ∈ k.headerWrites pd mkeyCnt pageSize ++ [CreateMkeyIn.opcode.write 0
      CryptoMkey.mlx5CmdOpCreateMkey]) :
  w.Within 0 (8 * entries)
  := by
  apply within_of_spans (n := 8 * entries) 0 _ (headerWrites_spans k pd mkeyCnt pageSize) _ hw
  decide

theorem mem_writes {k : PatternMkey} {pd : BitVec 32} {mkeyCnt : Int} {pageSize : BitVec 64}
    {es : List Entry} {w : Write} :
  w ∈ k.writes pd mkeyCnt pageSize es
    ↔ w ∈ k.headerWrites pd mkeyCnt pageSize ++ [CreateMkeyIn.opcode.write 0
        CryptoMkey.mlx5CmdOpCreateMkey]
      ∨ w ∈ records entryWrites WqeUmrRepeatEntSeg.bytes entries es
  := by
  simp only [writes, List.mem_append]
  rw [or_right_comm]

/-- The writes of `create` are pairwise disjoint. -/
theorem writes_disjoint (k : PatternMkey) (pd : BitVec 32) (mkeyCnt : Int) (pageSize : BitVec 64)
    (es : List Entry) :
  (k.writes pd mkeyCnt pageSize es).Pairwise Write.Disjoint
  := by
  have hheader : (k.headerWrites pd mkeyCnt pageSize ++ [CreateMkeyIn.opcode.write 0
      CryptoMkey.mlx5CmdOpCreateMkey]).Pairwise Write.Disjoint := by
    apply disjoint_of_spans _ _ (headerWrites_spans k pd mkeyCnt pageSize)
    decide
  have hrecords := records_disjoint entryWrites_within entryWrites_disjoint entries es
  have hapart {w w' : Write}
      (hw : w ∈ k.headerWrites pd mkeyCnt pageSize ++ [CreateMkeyIn.opcode.write 0
        CryptoMkey.mlx5CmdOpCreateMkey])
      (hw' : w' ∈ records entryWrites WqeUmrRepeatEntSeg.bytes entries es) : w.Disjoint w' := by
    apply (headerWrites_within hw).disjoint (records_within entryWrites_within hw')
    exact .inl (Nat.le_refl _)
  obtain ⟨hfields, -, hopcode⟩ := List.pairwise_append.mp hheader
  rw [writes, List.pairwise_append, List.pairwise_append]
  refine ⟨⟨hfields, hrecords, ?_⟩, List.pairwise_singleton _ _, ?_⟩
  · intro w hw w' hw'
    apply hapart (List.mem_append_left _ hw) hw'
  · intro w hw w' hw'
    rcases List.mem_append.mp hw with hw | hw
    · apply hopcode w hw w' hw'
    · apply Or.symm
      apply hapart (List.mem_append_right _ hw') hw

/-! ### What the device reads -/

/-- The sum of the lengths of the building blocks. -/
def sumLengths (bbs : List PatternMkeyBb) : Nat :=
  (bbs.map fun bb => bb.mLength.toNat).sum

/-- The mailbox describes the pattern: `create` writes inside of the buffer, what the device reads
is what was asked for, and what is left of the buffer behind the entries is zero. -/
structure Describes (k : PatternMkey) (pd : BitVec 32) (mkeyCnt : Int) (pageSize : BitVec 64)
    (es : List Entry) (m : Memory) : Prop where
  inside : ∀ w ∈ k.writes pd mkeyCnt pageSize es, w.Within 0 (8 * k.inLen)
  byteCount : (devxGet m CreateMkeyIn.klmPasMttBsf WqeUmrRepeatBlockSeg.byteCount).toNat
    = sumLengths k.mBbsArr
  repeatCount : (devxGet m CreateMkeyIn.klmPasMttBsf WqeUmrRepeatBlockSeg.repeatCount).toNat
    = k.mStrideNum.toNat
  numEnt : (devxGet m CreateMkeyIn.klmPasMttBsf WqeUmrRepeatBlockSeg.numEnt).toNat
    = k.mBbsArr.length
  entry : ∀ i e, es[i]? = some e →
    let a := entries + WqeUmrRepeatEntSeg.bytes * i
    (devxGet m a WqeUmrRepeatEntSeg.stride).toNat = e.strideSz.toNat
      ∧ (devxGet m a WqeUmrRepeatEntSeg.byteCount).toNat = e.length.toNat
      ∧ devxGet m a WqeUmrRepeatEntSeg.memkey = e.id
      ∧ devxGet64 m a WqeUmrRepeatEntSeg.va = e.address
  padding : ∀ j, 8 * (entries + WqeUmrRepeatEntSeg.bytes * k.mBbsArr.length) ≤ j →
    j < 8 * k.inLen → bit m j = false
  len : (devxGet64 m CreateMkeyIn.memoryKeyMkeyEntry Mkc.len).toNat
    = sumLengths k.mBbsArr * k.mStrideNum.toNat
  getLength : (k.mkey.getLength 0).2.toNat = sumLengths k.mBbsArr * k.mStrideNum.toNat

/-- None of the numbers of the pattern is cut off. -/
structure Fits (bbs : List PatternMkeyBb) (strideNum : BitVec 64) : Prop where
  num : bbs.length < 2 ^ 16
  block : ∀ bb ∈ bbs, bb.mLength.toNat < 2 ^ 16 ∧ bb.mStrideSz.toNat < 2 ^ 16
  strides : strideNum.toNat < 2 ^ 32

/-! ### Sizes -/

theorem sumLengths_cons (bb : PatternMkeyBb) (bbs : List PatternMkeyBb) :
  sumLengths (bb :: bbs) = bb.mLength.toNat + sumLengths bbs
  := rfl

/-- The constructor adds the lengths in 64 bits. -/
theorem toNat_foldl_mLength (bbs : List PatternMkeyBb) (sz : BitVec 64) :
  (bbs.foldl (fun sz bb => sz + bb.mLength) sz).toNat = (sz.toNat + sumLengths bbs) % 2 ^ 64
  := by
  induction bbs generalizing sz with
  | nil =>
      simp only [List.foldl_nil, sumLengths, List.map_nil, List.sum_nil, Nat.add_zero]
      rw [Nat.mod_eq_of_lt sz.isLt]
  | cons bb bbs ih =>
      rw [List.foldl_cons, ih, BitVec.toNat_add, Nat.mod_add_mod, sumLengths_cons, Nat.add_assoc]

theorem sumLengths_le {bbs : List PatternMkeyBb}
    (hlength : ∀ bb ∈ bbs, bb.mLength.toNat < 2 ^ 16) :
  sumLengths bbs ≤ 0xffff * bbs.length
  := by
  induction bbs with
  | nil => apply Nat.le_refl
  | cons bb bbs ih =>
      obtain ⟨hhead, htail⟩ := List.forall_mem_cons.mp hlength
      have hrest := ih htail
      rw [sumLengths_cons, List.length_cons]
      omega

/-- The number of octwords is the next multiple of four. -/
theorem toNat_alignedSz {k : PatternMkey} (hnum : k.mBbsArr.length < 2 ^ 16) :
  k.alignedSz.toNat = (k.mBbsArr.length + 4) / 4 * 4
  := by
  have hmask : ~~~(4 - 1 : BitVec 32) = ~~~ lowMask 2 := by decide
  have hval : (BitVec.ofNat 32 (k.mBbsArr.length + 1) + 4 - 1).toNat = k.mBbsArr.length + 4 := by
    rw [BitVec.toNat_sub, BitVec.toNat_add, BitVec.toNat_ofNat]
    simp only [BitVec.reduceToNat]
    omega
  rw [alignedSz, align, hmask, toNat_and_not_lowMask (by decide), hval]
  rfl

/-- The buffer has room for the header and for all entries. -/
theorem entries_le_inLen {k : PatternMkey} (hnum : k.mBbsArr.length < 2 ^ 16) :
  entries + WqeUmrRepeatEntSeg.bytes * k.mBbsArr.length ≤ k.inLen
  := by
  simp only [inLen, toNat_alignedSz hnum, entries, CreateMkeyIn.klmPasMttBsf, CreateMkeyIn.bytes,
    WqeUmrRepeatBlockSeg.bytes, WqeUmrRepeatEntSeg.bytes, BitVec.toNat_ofNat]
  omega

/-! ### The mailbox describes the pattern -/

section

variable {k : PatternMkey} {pd : BitVec 32} {mkeyCnt : Int} {pageSize : BitVec 64}
  {es : List Entry} {m : Memory}
  (hbits : bit m = puts (bit zeros) (k.writes pd mkeyCnt pageSize es))

include hbits

theorem devxGet_header {p : Nat} {f : Field} {v : BitVec 32}
    (hmem : f.write p v ∈ k.headerWrites pd mkeyCnt pageSize) :
  (devxGet m p f).toNat = v.toNat % 2 ^ f.size
  := by
  apply devxGet_of_puts hbits (writes_disjoint _ _ _ _ _)
  apply mem_writes.mpr
  exact .inl (List.mem_append_left _ hmem)

/-- The numbers of the header are cut off. -/
theorem devxGet_repeatBlock :
  (devxGet m CreateMkeyIn.klmPasMttBsf WqeUmrRepeatBlockSeg.byteCount).toNat
      = k.mStrideSz.toNat % 2 ^ 32
    ∧ (devxGet m CreateMkeyIn.klmPasMttBsf WqeUmrRepeatBlockSeg.repeatCount).toNat
      = k.mStrideNum.toNat % 2 ^ 32
    ∧ (devxGet m CreateMkeyIn.klmPasMttBsf WqeUmrRepeatBlockSeg.numEnt).toNat
      = k.mBbsArr.length % 2 ^ 16
  := by
  refine ⟨?_, ?_, ?_⟩
  · rw [devxGet_header hbits (v := k.mStrideSz.setWidth 32) (by simp [headerWrites]),
      BitVec.toNat_setWidth]
    apply Nat.mod_mod
  · rw [devxGet_header hbits (v := k.mStrideNum.setWidth 32) (by simp [headerWrites]),
      BitVec.toNat_setWidth]
    apply Nat.mod_mod
  · rw [devxGet_header hbits (v := BitVec.ofNat 32 k.mBbsArr.length) (by simp [headerWrites]),
      BitVec.toNat_ofNat]
    apply Nat.mod_mod_of_dvd
    decide

/-- The stride and the length of an entry are cut off, and the id and the address are not. -/
theorem devxGet_entry {i : Nat} {e : Entry} (he : es[i]? = some e) :
  let a := entries + WqeUmrRepeatEntSeg.bytes * i
  (devxGet m a WqeUmrRepeatEntSeg.stride).toNat = e.strideSz.toNat % 2 ^ 16
    ∧ (devxGet m a WqeUmrRepeatEntSeg.byteCount).toNat = e.length.toNat % 2 ^ 16
    ∧ devxGet m a WqeUmrRepeatEntSeg.memkey = e.id
    ∧ devxGet64 m a WqeUmrRepeatEntSeg.va = e.address
  := by
  intro a
  have hmem {w : Write} (hw : w ∈ entryWrites e a) : w ∈ k.writes pd mkeyCnt pageSize es := by
    apply mem_writes.mpr
    exact .inr (mem_records.mpr ⟨i, e, he, hw⟩)
  have hws := k.writes_disjoint pd mkeyCnt pageSize es
  refine ⟨?_, ?_, ?_, ?_⟩
  · rw [devxGet_of_puts hbits hws (v := e.strideSz.setWidth 32) (hmem (by simp [entryWrites])),
      BitVec.toNat_setWidth]
    apply Nat.mod_mod_of_dvd
    decide
  · rw [devxGet_of_puts hbits hws (v := e.length.setWidth 32) (hmem (by simp [entryWrites])),
      BitVec.toNat_setWidth]
    apply Nat.mod_mod_of_dvd
    decide
  · apply devxGet_eq_of_puts hbits hws (BitVec.isLt _) (hmem (by simp [entryWrites]))
  · apply devxGet64_of_puts hbits hws (hmem (by simp [entryWrites]))

/-- Behind the entries there are only zeros. -/
theorem bit_padding {j : Nat} (hj : 8 * (entries + WqeUmrRepeatEntSeg.bytes * es.length) ≤ j) :
  bit m j = false
  := by
  rw [hbits, puts_of_not_covers, bit_zeros]
  intro w hw hcovers
  simp only [Write.Covers] at hcovers
  rcases mem_writes.mp hw with hw | hw
  · have hplace := headerWrites_within hw
    simp only [Write.Within] at hplace
    omega
  · have hplace := records_within entryWrites_within hw
    simp only [Write.Within] at hplace
    omega

/-- The length of the mkey is the product in 64 bits. -/
theorem devxGet64_len :
  devxGet64 m CreateMkeyIn.memoryKeyMkeyEntry Mkc.len = k.mStrideSz * k.mStrideNum
  := by
  apply devxGet64_of_puts hbits (writes_disjoint _ _ _ _ _)
  apply mem_writes.mpr
  simp [headerWrites]

/-- If the mailbox describes the pattern, none of its numbers is cut off. -/
theorem fits_of_describes (hes : List.Forall₂ Entry.Of es k.mBbsArr)
    (h : k.Describes pd mkeyCnt pageSize es m) :
  Fits k.mBbsArr k.mStrideNum
  := by
  obtain ⟨-, hrepeat, hnum⟩ := devxGet_repeatBlock hbits
  obtain ⟨hlength, hof⟩ := List.forall₂_iff_get.mp hes
  refine ⟨?_, ?_, ?_⟩
  · rw [← h.numEnt, hnum]
    apply Nat.mod_lt _ (Nat.two_pow_pos 16)
  · intro bb hbb
    obtain ⟨i, hi, rfl⟩ := List.mem_iff_getElem.mp hbb
    have hi' : i < es.length := hlength ▸ hi
    have hentry : es[i].Of k.mBbsArr[i] := hof i hi' hi
    have he : es[i]? = some es[i] := List.getElem?_eq_getElem hi'
    obtain ⟨hstride, hbyteCount, -, -⟩ := devxGet_entry hbits he
    obtain ⟨hstrideExact, hbyteCountExact, -, -⟩ := h.entry i _ he
    rw [← hentry.strideSz, ← hentry.length, ← hstrideExact, ← hbyteCountExact, hstride, hbyteCount]
    exact ⟨Nat.mod_lt _ (Nat.two_pow_pos 16), Nat.mod_lt _ (Nat.two_pow_pos 16)⟩
  · rw [← h.repeatCount, hrepeat]
    apply Nat.mod_lt _ (Nat.two_pow_pos 32)

/-- If none of its numbers is cut off, the mailbox describes the pattern. -/
theorem describes_of_fits (hsz : k.mStrideSz.toNat = sumLengths k.mBbsArr % 2 ^ 64)
    (hes : List.Forall₂ Entry.Of es k.mBbsArr) (h : Fits k.mBbsArr k.mStrideNum) :
  k.Describes pd mkeyCnt pageSize es m
  := by
  obtain ⟨hbyteCount, hrepeat, hnum⟩ := devxGet_repeatBlock hbits
  obtain ⟨hlength, hof⟩ := List.forall₂_iff_get.mp hes
  have hroom := entries_le_inLen h.num
  have hsum : sumLengths k.mBbsArr < 2 ^ 32 := by
    have hle := sumLengths_le fun bb hbb => (h.block bb hbb).1
    have hfew := h.num
    omega
  have hstrideSz : k.mStrideSz.toNat = sumLengths k.mBbsArr := by
    rw [hsz, Nat.mod_eq_of_lt (by omega)]
  have hproduct : (k.mStrideSz * k.mStrideNum).toNat
      = sumLengths k.mBbsArr * k.mStrideNum.toNat := by
    rw [BitVec.toNat_mul, hstrideSz, Nat.mod_eq_of_lt]
    calc sumLengths k.mBbsArr * k.mStrideNum.toNat
        < 2 ^ 32 * 2 ^ 32 := Nat.mul_lt_mul'' hsum h.strides
      _ = 2 ^ 64 := rfl
  constructor
  case inside =>
    intro w hw
    rcases mem_writes.mp hw with hw | hw
    · apply (headerWrites_within hw).mono (Nat.le_refl _)
      omega
    · rw [← hlength] at hroom
      apply (records_within entryWrites_within hw).mono (Nat.zero_le _)
      omega
  case byteCount => rw [hbyteCount, hstrideSz, Nat.mod_eq_of_lt hsum]
  case repeatCount => rw [hrepeat, Nat.mod_eq_of_lt h.strides]
  case numEnt => rw [hnum, Nat.mod_eq_of_lt h.num]
  case entry =>
    intro i e he a
    obtain ⟨hi, rfl⟩ := List.getElem?_eq_some_iff.mp he
    have hi' : i < k.mBbsArr.length := hlength ▸ hi
    have hentry := hof i hi hi'
    obtain ⟨hblock, hblock'⟩ := h.block _ (List.get_mem k.mBbsArr ⟨i, hi'⟩)
    rw [← hentry.length] at hblock
    rw [← hentry.strideSz] at hblock'
    obtain ⟨hstride, hbyteCount, hid, haddress⟩ := devxGet_entry hbits he
    refine ⟨?_, ?_, hid, haddress⟩
    · rw [hstride]
      apply Nat.mod_eq_of_lt hblock'
    · rw [hbyteCount]
      apply Nat.mod_eq_of_lt hblock
  case padding =>
    intro j hj _
    rw [← hlength] at hj
    apply bit_padding hbits hj
  case len => rw [devxGet64_len hbits, hproduct]
  case getLength =>
    rw [← hproduct, mkey]
    simp only
    split
    · rename_i hzero
      rw [hzero]
    · rfl

end

/-- Without a command `create` fails. -/
theorem create_of_command_none {k : PatternMkey} {pd : BitVec 32} {mkeyCnt : Int}
    {pageSize : BitVec 64} {alloc : Bool} (h : k.command pd mkeyCnt pageSize alloc = none)
    (device : Device) :
  (k.create pd mkeyCnt pageSize alloc device).1 ≠ .ok
  := by
  simp only [command] at h
  simp only [create]
  split
  · simp
  · split
    · simp
    · rename_i halloc hpd
      rw [if_neg halloc, if_neg hpd] at h
      split at h
      · cases h
      · rename_i hmailbox
        split
        · rename_i m hm
          cases hmailbox m hm
        · rename_i ret m hret _
          apply hret

/-- `create` fails before the command, or sends a mailbox with an entry for each building block.
The mailbox describes the pattern exactly if none of its numbers is cut off. -/
theorem pattern_describes_iff (address : BitVec 64) (flags : BitVec 32) (strideNum : BitVec 64)
    (bbs : List PatternMkeyBb) (pd : BitVec 32) (mkeyCnt : Int) (pageSize : BitVec 64)
    (alloc : Bool) (device : Device) :
  let k := new true address flags strideNum bbs
  k.command pd mkeyCnt pageSize alloc = none ∧ (k.create pd mkeyCnt pageSize alloc device).1 ≠ .ok
    ∨ ∃ m es, k.command pd mkeyCnt pageSize alloc = some ⟨m, k.inLen, CreateMkeyOut.bytes⟩
      ∧ List.Forall₂ Entry.Of es bbs ∧ bit m = puts (bit zeros) (k.writes pd mkeyCnt pageSize es)
      ∧ (k.Describes pd mkeyCnt pageSize es m ↔ Fits bbs strideNum)
  := by
  intro k
  cases hcommand : k.command pd mkeyCnt pageSize alloc with
  | none => exact .inl ⟨rfl, create_of_command_none hcommand device⟩
  | some c =>
      right
      simp only [command] at hcommand
      split at hcommand
      · cases hcommand
      · split at hcommand
        · cases hcommand
        · split at hcommand
          · rename_i m hm
            cases hcommand
            obtain ⟨es, hes, hbits⟩ := mailbox_eq_ok hm
            have hsz : k.mStrideSz.toNat = sumLengths k.mBbsArr % 2 ^ 64 := by
              simp [k, new, toNat_foldl_mLength]
            exact ⟨m, es, rfl, hes, hbits, fits_of_describes hbits hes,
              describes_of_fits hbits hsz hes⟩
          · cases hcommand

/-- One block of 64 KB, in one stride. -/
def largeBlock : List PatternMkeyBb :=
  [⟨.indexed 0x100 0x1000 0x10000 0, 0x10000, 0x10000⟩]

/-- The mkey is created, and its entry has a block of no bytes and no stride. -/
theorem create_cuts_off :
  ((new true 0x1000 0 1 largeBlock).create 1 0 4096 true fun _ _ => ⟨true, zeros⟩).1 = .ok
    ∧ ∃ c, (new true 0x1000 0 1 largeBlock).command 1 0 4096 true = some c
      ∧ devxGet c.mailbox CreateMkeyIn.klmPasMttBsf WqeUmrRepeatBlockSeg.byteCount = 0x10000
      ∧ devxGet c.mailbox entries WqeUmrRepeatEntSeg.byteCount = 0
      ∧ devxGet c.mailbox entries WqeUmrRepeatEntSeg.stride = 0
  := ⟨rfl, _, rfl, by decide +kernel, by decide +kernel, by decide +kernel⟩

end PatternMkey

end Dpcp
