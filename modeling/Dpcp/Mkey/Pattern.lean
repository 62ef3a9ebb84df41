import Dpcp.Mkey.Mkey

/-!
# Pattern mkeys

A pattern mkey describes memory made of strides, each stride made of the same building blocks,
and each block a part of the memory of another mkey.  The mailbox that creates it has a header
for the stride and an entry for each block after the `CREATE_MKEY` command.
-/

namespace Dpcp

open Bits Dcmd Prm

/-- `struct pattern_mkey_bb`. -/
structure PatternMkeyBb where
  mKey : Mkey
  mStrideSz : BitVec 64
  mLength : BitVec 64

/-- `class pattern_mkey`. -/
structure PatternMkey where
  base : Obj
  mBbsArr : List PatternMkeyBb
  mAddress : BitVec 64
  mStrideSz : BitVec 64
  mStrideNum : BitVec 64
  mFlags : BitVec 32
  mIdx : BitVec 32

namespace PatternMkey

/-- The constructor of `pattern_mkey`. -/
def new (ctx : Bool) (address : BitVec 64) (flags : BitVec 32) (strideNum : BitVec 64)
    (bbs : List PatternMkeyBb) : PatternMkey where
  base := .new ctx
  mBbsArr := bbs
  mAddress := address
  mStrideSz := bbs.foldl (fun sz bb => sz + bb.mLength) 0
  mStrideNum := strideNum
  mFlags := flags
  mIdx := 0

/-- The getters of `pattern_mkey`. -/
def mkey (k : PatternMkey) : Mkey where
  getId _ := (.ok, k.mIdx)
  getAddress _ := (if k.mAddress = 0 then .errNoMemory else .ok, k.mAddress)
  getLength len :=
    if k.mStrideSz * k.mStrideNum = 0 then
      (.errOutOfRange, len)
    else
      (.ok, k.mStrideSz * k.mStrideNum)
  getFlags _ := (.ok, k.mFlags)

/-- `align`. -/
def align (val alignment : BitVec 32) : BitVec 32 :=
  (val + alignment - 1) &&& ~~~(alignment - 1)

/-- The number of octwords of the repeated block, header and entries. -/
def alignedSz (k : PatternMkey) : BitVec 32 :=
  align (BitVec.ofNat 32 (k.mBbsArr.length + 1)) 4

/-- The length of the mailbox in bytes. -/
def inLen (k : PatternMkey) : Nat :=
  let repeatBlockSz : BitVec 32 :=
    BitVec.ofNat 32 (WqeUmrRepeatBlockSeg.bytes + k.alignedSz.toNat * WqeUmrRepeatEntSeg.bytes)
  CreateMkeyIn.bytes + repeatBlockSz.toNat / 4 * 4

/-- `MKEY_ZERO_BASED`. -/
def mkeyZeroBasedBit : Nat := 0

/-- The reserved mkey that stands for the repeated block format. -/
def repeatedBlockFormat : BitVec 32 := 0x400

/-- The address of the region, from its page on if it is zero based. -/
def startAddr (k : PatternMkey) (pageSize : BitVec 64) : BitVec 64 :=
  if k.mFlags.getLsbD mkeyZeroBasedBit then k.mAddress % pageSize else k.mAddress

/-- The mailbox up to the entries of the repeated block. -/
def header (k : PatternMkey) (pd : BitVec 32) (mkeyCnt : Int) (pageSize : BitVec 64) : Memory :=
  let m := zeros
  let m := devxSet m 0 CreateMkeyIn.translationsOctwordActualSize k.alignedSz
  let mkc := CreateMkeyIn.memoryKeyMkeyEntry
  let m := devxSet m mkc Mkc.accessMode42 0x0
  let m := devxSet m mkc Mkc.lw 0x1
  let m := devxSet m mkc Mkc.lr 0x1
  let m := devxSet m mkc Mkc.accessMode10 0x2
  let m := devxSet m mkc Mkc.qpn 0xffffff
  let m := devxSet m mkc Mkc.mkey70 (BitVec.ofInt 32 (mkeyCnt.tmod 0xFF))
  let m := devxSet m mkc Mkc.pd pd
  let m := devxSet64 m mkc Mkc.startAddr (k.startAddr pageSize)
  let m := devxSet64 m mkc Mkc.len (k.mStrideSz * k.mStrideNum)
  let m := devxSet m mkc Mkc.translationsOctwordSize k.alignedSz
  let repbls := CreateMkeyIn.klmPasMttBsf
  let m := devxSet m repbls WqeUmrRepeatBlockSeg.byteCount (k.mStrideSz.setWidth 32)
  let m := devxSet m repbls WqeUmrRepeatBlockSeg.op repeatedBlockFormat
  let m := devxSet m repbls WqeUmrRepeatBlockSeg.repeatCount (k.mStrideNum.setWidth 32)
  devxSet m repbls WqeUmrRepeatBlockSeg.numEnt (BitVec.ofNat 32 k.mBbsArr.length)

/-- The loop of `create` over the building blocks, at the entry `entry`; `id` is what the variable
of that name holds. -/
def setEntries (m : Memory) (entry : Nat) (id : BitVec 32) : List PatternMkeyBb → Result Memory
  | [] => (.ok, m)
  | bb :: rest =>
      let m := devxSet m entry WqeUmrRepeatEntSeg.stride (bb.mStrideSz.setWidth 32)
      let m := devxSet m entry WqeUmrRepeatEntSeg.byteCount (bb.mLength.setWidth 32)
      match bb.mKey.getId id with
      | (.ok, id) =>
          let m := devxSet m entry WqeUmrRepeatEntSeg.memkey id
          match bb.mKey.getAddress 0 with
          | (.ok, ad) =>
              let m := devxSet64 m entry WqeUmrRepeatEntSeg.va ad
              setEntries m (entry + WqeUmrRepeatEntSeg.bytes) id rest
          | (ret, _) => (ret, m)
      | (ret, _) => (ret, m)

/-- The mailbox of `pattern_mkey::create`. -/
def mailbox (k : PatternMkey) (pd : BitVec 32) (mkeyCnt : Int) (pageSize : BitVec 64) :
    Result Memory :=
  let m := k.header pd mkeyCnt pageSize
  let entries := CreateMkeyIn.klmPasMttBsf + WqeUmrRepeatBlockSeg.bytes
  (setEntries m entries pd k.mBbsArr).andThen fun m =>
    (.ok, devxSet m 0 CreateMkeyIn.opcode CryptoMkey.mlx5CmdOpCreateMkey)

/-- `pattern_mkey::create`; `alloc` tells whether there is memory for the mailbox, `mkeyCnt` is what
the counter gives. -/
def create (k : PatternMkey) (pd : BitVec 32) (mkeyCnt : Int) (pageSize : BitVec 64)
    (alloc : Bool) (device : Device) : Result PatternMkey :=
  if !alloc then
    (.errNoMemory, k)
  else if pd = 0 then
    (.errCreate, k)
  else
    match k.mailbox pd mkeyCnt pageSize with
    | (.ok, m) =>
        let (ret, base, out) :=
          k.base.create device (some m) k.inLen zeros CreateMkeyOut.bytes
        let k := { k with base := base }
        match ret with
        | .ok =>
            (.ok, { k with
              mIdx := (devxGet out 0 CreateMkeyOut.mkeyIndex <<< 8)
                ||| BitVec.ofInt 32 (mkeyCnt.tmod 0xFF) })
        | ret => (ret, k)
    | (ret, _) => (ret, k)

/-- The command that `create` sends, if it comes to that. -/
def command (k : PatternMkey) (pd : BitVec 32) (mkeyCnt : Int) (pageSize : BitVec 64)
    (alloc : Bool) : Option Obj.Command :=
  if !alloc then
    none
  else if pd = 0 then
    none
  else
    match k.mailbox pd mkeyCnt pageSize with
    | (.ok, m) => some ⟨m, k.inLen, CreateMkeyOut.bytes⟩
    | _ => none

/-- What `create` leaves of the object. -/
theorem create_base (k : PatternMkey) (pd : BitVec 32) (mkeyCnt : Int) (pageSize : BitVec 64)
    (alloc : Bool) (device : Device) :
  (k.create pd mkeyCnt pageSize alloc device).2.base
    = k.base.send device (k.command pd mkeyCnt pageSize alloc)
  := by
  simp only [command, create]
  split
  · rfl
  · split
    · rfl
    · generalize k.mailbox pd mkeyCnt pageSize = result
      obtain ⟨ret, m⟩ := result
      cases ret with
      | ok =>
          dsimp only
          split <;> rfl
      | _ => rfl

end PatternMkey

end Dpcp
