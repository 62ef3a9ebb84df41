import Dpcp.Obj

/-!
# Memory keys

The classes derived from `mkey` that need no mailbox of variable length: a direct mkey registers
memory with the verbs library, a reserved mkey is a constant of the device, a ref mkey describes
a part of the memory of another mkey, a crypto mkey is an object of the device.
-/

namespace Dpcp

open Bits Dcmd Prm

/-- `class mkey`, by what its virtual getters return for what the output parameter held. -/
structure Mkey where
  getId : BitVec 32 → Result (BitVec 32)
  getAddress : BitVec 64 → Result (BitVec 64)
  getLength : BitVec 64 → Result (BitVec 64)
  getFlags : BitVec 32 → Result (BitVec 32)

/-- The getters of `reserved_mkey` and of `base_ref_mkey`, which fail without an index. -/
def Mkey.indexed (idx : BitVec 32) (address length : BitVec 64) (flags : BitVec 32) : Mkey where
  getId id := if idx = 0 then (.errCreate, id) else (.ok, idx)
  getAddress address' := if idx = 0 then (.errCreate, address') else (.ok, address)
  getLength len :=
    if idx = 0 then
      (.errCreate, len)
    else if length = 0 then
      (.errOutOfRange, length)
    else
      (.ok, length)
  getFlags flags' := if idx = 0 then (.errCreate, flags') else (.ok, flags)

/-! ### Direct mkeys -/

/-- `class direct_mkey`; `mIbvMem` tells whether the memory is registered.  The pointer `m_umem` is
always null. -/
structure DirectMkey where
  mAddress : BitVec 64
  mLength : BitVec 64
  mFlags : BitVec 32
  mIbvMem : Bool
  mIdx : BitVec 32

namespace DirectMkey

/-- The constructor of `direct_mkey`. -/
def new (address length : BitVec 64) (flags : BitVec 32) : DirectMkey :=
  ⟨address, length, flags, false, 0⟩

/-- `direct_mkey::reg_mem`; `ibvMem` is the `lkey` of the memory region the verbs library makes, if
it makes one, by `ibv_reg_mem_reg_iova` for `MKEY_ZERO_BASED` and by `ibv_reg_mem_reg`
otherwise. -/
def regMem (m : DirectMkey) (ctx verbsPd : Bool) (ibvMem : Option (BitVec 32)) :
    Result DirectMkey :=
  if !ctx then
    (.errNoContext, m)
  else if m.mAddress = 0 then
    (.errNoMemory, m)
  else if m.mLength = 0 then
    (.errOutOfRange, m)
  else if verbsPd then
    match ibvMem with
    | none => (.errUmem, m)
    | some lkey =>
        let m := { m with mIbvMem := true, mIdx := lkey }
        if lkey = 0 then (.errNoMemory, m) else (.ok, m)
  else
    (.errUmem, m)

/-- `direct_mkey::create`.  Memory that is not registered has no umem either, and there is no
result. -/
def create (m : DirectMkey) (pd : BitVec 32) : Option (Result DirectMkey) :=
  if m.mIbvMem then
    some (.ok, m)
  else if pd = 0 then
    some (.errCreate, m)
  else
    none

/-- The getters of `direct_mkey`. -/
def mkey (m : DirectMkey) : Mkey where
  getId _ := (.ok, m.mIdx)
  getAddress _ := (if m.mAddress = 0 then .errNoMemory else .ok, m.mAddress)
  getLength _ := (if m.mLength = 0 then .errOutOfRange else .ok, m.mLength)
  getFlags _ := (.ok, m.mFlags)

end DirectMkey

/-! ### Reserved mkeys -/

/-- `MKEY_RESERVED_DUMP_AND_FILL`. -/
def mkeyReservedDumpAndFill : BitVec 32 := 1

/-- `class reserved_mkey`. -/
structure ReservedMkey where
  mAddress : BitVec 64
  mLength : BitVec 64
  mIdx : BitVec 32
  mType : BitVec 32
  mFlags : BitVec 32

namespace ReservedMkey

/-- The constructor of `reserved_mkey`. -/
def new (type : BitVec 32) (address length : BitVec 64) (flags : BitVec 32) : ReservedMkey :=
  ⟨address, length, 0, type, flags⟩

/-- `reserved_mkey::create`. -/
def create (m : ReservedMkey) : Result ReservedMkey :=
  if m.mType = mkeyReservedDumpAndFill then (.ok, { m with mIdx := 0x700 }) else (.errCreate, m)

/-- The getters of `reserved_mkey`. -/
def mkey (m : ReservedMkey) : Mkey :=
  .indexed m.mIdx m.mAddress m.mLength m.mFlags

end ReservedMkey

/-! ### Ref mkeys -/

/-- `class ref_mkey`, and `class extern_mkey`, which has the same members, all of them from
`base_ref_mkey`. -/
structure RefMkey where
  mAddress : BitVec 64
  mLength : BitVec 64
  mIdx : BitVec 32
  mFlags : BitVec 32

namespace RefMkey

/-- The constructor of `ref_mkey`. -/
def new (address length : BitVec 64) : RefMkey :=
  ⟨address, length, 0, 0⟩

/-- `ref_mkey::create`. -/
def create (m : RefMkey) (parent : Option Mkey) : Result RefMkey :=
  match parent with
  | none => (.errInvalidParam, m)
  | some parent =>
      if m.mAddress = 0 ∨ m.mLength = 0 then
        (.errInvalidParam, m)
      else
        let (ret, idx) := parent.getId m.mIdx
        let m := { m with mIdx := idx }
        match ret with
        | .ok =>
            match parent.getAddress 0 with
            | (.ok, parentAddr) =>
                match parent.getLength 0 with
                | (.ok, parentLength) =>
                    let (ret, flags) := parent.getFlags m.mFlags
                    let m := { m with mFlags := flags }
                    match ret with
                    | .ok =>
                        if m.mAddress < parentAddr
                            ∨ parentAddr + parentLength < m.mAddress + m.mLength then
                          (.errOutOfRange, m)
                        else
                          (.ok, m)
                    | ret => (ret, m)
                | (ret, _) => (ret, m)
            | (ret, _) => (ret, m)
        | ret => (ret, m)

/-- The getters of `base_ref_mkey`. -/
def mkey (m : RefMkey) : Mkey :=
  .indexed m.mIdx m.mAddress m.mLength m.mFlags

end RefMkey

/-- The constructor of `extern_mkey`. -/
def ExternMkey.new (address length : BitVec 64) (id : BitVec 32) : RefMkey :=
  ⟨address, length, id, 0⟩

/-! ### Crypto mkeys -/

namespace CryptoMkey

def mlx5CmdOpCreateMkey : BitVec 32 := 0x200

/-- `MLX5_MKC_ACCESS_MODE_KLMS`. -/
def accessModeKlms : BitVec 32 := 0x2

/-- The mailbox of `crypto_mkey::create`. -/
def mailbox (pd maxSge : BitVec 32) (mkeyCnt : Int) : Memory :=
  let m := zeros
  let mkc := CreateMkeyIn.memoryKeyMkeyEntry
  let m := devxSet m mkc Mkc.accessMode10 accessModeKlms
  let m := devxSet m mkc Mkc.logEntitySize 0
  let m := devxSet m mkc Mkc.free 1
  let m := devxSet m mkc Mkc.enRinval 1
  let m := devxSet m mkc Mkc.lw 1
  let m := devxSet m mkc Mkc.lr 1
  let m := devxSet m mkc Mkc.rw 0
  let m := devxSet m mkc Mkc.rr 0
  let m := devxSet m mkc Mkc.umrEn 1
  let m := devxSet m mkc Mkc.qpn 0xffffff
  let m := devxSet m mkc Mkc.pd pd
  let m := devxSet m mkc Mkc.translationsOctwordSize 128
  let m := devxSet m mkc Mkc.cryptoEn 1
  let m := devxSet m mkc Mkc.bsfEn 1
  let m := devxSet m mkc Mkc.bsfOctwordSize maxSge
  let m := devxSet m mkc Mkc.mkey70 (BitVec.ofInt 32 (mkeyCnt.tmod 0xFF))
  devxSet m 0 CreateMkeyIn.opcode mlx5CmdOpCreateMkey

/-- `crypto_mkey::create`, with the index of the mkey; `mkeyCnt` is what the counter gives. -/
def create (o : Obj) (pd maxSge : BitVec 32) (mkeyCnt : Int) (device : Device) :
    Status × Obj × BitVec 32 :=
  if pd = 0 then
    (.errInvalidParam, o, 0)
  else if maxSge.toNat % 4 ≠ 0 then
    (.errInvalidParam, o, 0)
  else
    let m := mailbox pd maxSge mkeyCnt
    let (ret, o, out) := o.create device (some m) CreateMkeyIn.bytes zeros CreateMkeyOut.bytes
    match ret with
    | .ok =>
        (.ok, o, (devxGet out 0 CreateMkeyOut.mkeyIndex <<< 8)
          ||| BitVec.ofInt 32 (mkeyCnt.tmod 0xFF))
    | ret => (ret, o, 0)

end CryptoMkey

/-- `class crypto_mkey`. -/
structure CryptoMkey where
  base : Obj
  mIdx : BitVec 32
  mMaxSge : BitVec 32

namespace CryptoMkey

/-- The constructor of `crypto_mkey`. -/
def new (ctx : Bool) (maxSge : BitVec 32) : CryptoMkey :=
  ⟨.new ctx, 0, maxSge⟩

/-- `crypto_mkey::create`, on the object. -/
def createMkey (k : CryptoMkey) (pd : BitVec 32) (mkeyCnt : Int) (device : Device) :
    Result CryptoMkey :=
  match create k.base pd k.mMaxSge mkeyCnt device with
  | (.ok, base, idx) => (.ok, { k with base := base, mIdx := idx })
  | (ret, base, _) => (ret, { k with base := base })

/-- The command that `create` sends, if it comes to that. -/
def command (k : CryptoMkey) (pd : BitVec 32) (mkeyCnt : Int) : Option Obj.Command :=
  if pd = 0 then
    none
  else if k.mMaxSge.toNat % 4 ≠ 0 then
    none
  else
    some ⟨mailbox pd k.mMaxSge mkeyCnt, CreateMkeyIn.bytes, CreateMkeyOut.bytes⟩

/-- What `create` leaves of the object. -/
theorem createMkey_base (k : CryptoMkey) (pd : BitVec 32) (mkeyCnt : Int) (device : Device) :
  (k.createMkey pd mkeyCnt device).2.base = k.base.send device (k.command pd mkeyCnt)
  := by
  have hbase : (k.createMkey pd mkeyCnt device).2.base
      = (create k.base pd k.mMaxSge mkeyCnt device).2.1 := by
    simp only [createMkey]
    split <;> rename_i h <;> rw [h]
  rw [hbase]
  simp only [command, create]
  split
  · rfl
  · split
    · rfl
    · split <;> rfl

end CryptoMkey

end Dpcp
