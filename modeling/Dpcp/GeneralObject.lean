import Dpcp.Obj

/-!
# Encryption keys and tag buffer tables

Both are general objects: one command creates them all, and its header tells the type.  The three
classes of data encryption keys share `dek::create` and `dek::modify`, and differ in the type of the
key and in the sizes they accept.

`create` and `modify` each fill the object of the key on their own; `modify` leaves out whether the
key has a keytag.
-/

namespace Dpcp

open Bits Dcmd Prm

def mlx5CmdOpCreateGeneralObject : BitVec 32 := 0xa00
def mlx5CmdOpModifyGeneralObject : BitVec 32 := 0xa01
def mlx5CmdOpQueryGeneralObject : BitVec 32 := 0xa02

/-- The mailbox of the query of a general object. -/
def queryGeneralObject (objType objId : BitVec 32) : Memory :=
  let m := zeros
  let m := devxSet m 0 GeneralObjInCmdHdr.opcode mlx5CmdOpQueryGeneralObject
  let m := devxSet m 0 GeneralObjInCmdHdr.objType objType
  devxSet m 0 GeneralObjInCmdHdr.objId objId

/-! ### Data encryption keys -/

/-- The classes derived from `dek`. -/
inductive DekKind where
  | tls
  | ipsec
  | aesXts
deriving DecidableEq

/-- `struct dek_attr`; the pointer `key_blob` is given by the memory it points to. -/
structure DekAttr where
  keyBlob : Option Memory
  keyBlobSize : BitVec 32
  keySize : BitVec 32
  pdId : BitVec 32
  opaqueData : BitVec 64

/-- `class dek`. -/
structure Dek where
  base : Obj
  kind : DekKind
  mKeyId : BitVec 32

namespace Dek

def mlx5GeneralObjectTypesEncryptionKey : BitVec 32 := 0xc
def keySize128 : BitVec 8 := 0x0
def keySize256 : BitVec 8 := 0x1
def key128BitSizeInBytes : BitVec 32 := 16
def key256BitSizeInBytes : BitVec 32 := 32

/-- `struct key_params`. -/
structure KeyParams where
  type : BitVec 8
  size : BitVec 8
  hasKeytag : Bool
  offset : BitVec 32

/-- The constructors of the classes. -/
def new (ctx : Bool) (kind : DekKind) : Dek :=
  ⟨.new ctx, kind, 0⟩

/-- The virtual `get_key_type`. -/
def getKeyType : DekKind → BitVec 8
  | .tls => 0x1
  | .ipsec => 0x2
  | .aesXts => 0x3

/-- `verify_attr`. -/
def verifyAttr (attr : DekAttr) : Status :=
  if attr.pdId = 0 then
    .errInvalidParam
  else if attr.keyBlob.isNone then
    .errInvalidParam
  else if attr.keyBlobSize = 0 then
    .errInvalidParam
  else if attr.keySize = 0 then
    .errInvalidParam
  else
    .ok

/-- `dek::get_key_params`; a key of 128 bits stands in the second half of the area. -/
def getKeyParamsOfSize (kind : DekKind) (keyBlobSize keySize : BitVec 32) :
    Except Status KeyParams :=
  if keyBlobSize ≠ keySize then
    .error .errInvalidParam
  else if keySize = key128BitSizeInBytes then
    .ok ⟨getKeyType kind, keySize128, false, keySize⟩
  else if keySize = key256BitSizeInBytes then
    .ok ⟨getKeyType kind, keySize256, false, 0⟩
  else
    .error .errInvalidParam

/-- `key_size_to_blob_size`. -/
def keySizeToBlobSize (keySize : BitVec 32) (hasKeytag : Bool) : BitVec 32 :=
  keySize * 2 + (if hasKeytag then 8 else 0)

/-- `aes_xts_dek::get_key_params`. -/
def getKeyParamsOfBlob (kind : DekKind) (keyBlobSize keySize : BitVec 32) :
    Except Status KeyParams := do
  let (size, hasKeytag) ←
    if keyBlobSize = keySizeToBlobSize key128BitSizeInBytes false then
      .ok (keySize128, false)
    else if keyBlobSize = keySizeToBlobSize key128BitSizeInBytes true then
      .ok (keySize128, true)
    else if keyBlobSize = keySizeToBlobSize key256BitSizeInBytes false then
      .ok (keySize256, false)
    else if keyBlobSize = keySizeToBlobSize key256BitSizeInBytes true then
      .ok (keySize256, true)
    else
      .error .errInvalidParam
  if keySizeToBlobSize keySize hasKeytag ≠ keyBlobSize then
    .error .errInvalidParam
  else
    .ok ⟨getKeyType kind, size, hasKeytag, 0⟩

/-- `dek::key_size_flag_to_bytes_size`. -/
def keySizeFlagToBytesSize (sizeFlag : BitVec 8) : BitVec 32 :=
  if sizeFlag = keySize128 then
    key128BitSizeInBytes
  else if sizeFlag = keySize256 then
    key256BitSizeInBytes
  else
    0

/-- The virtual `get_key_params`. -/
def getKeyParams (kind : DekKind) : BitVec 32 → BitVec 32 → Except Status KeyParams :=
  match kind with
  | .tls => getKeyParamsOfSize .tls
  | .ipsec => getKeyParamsOfSize .ipsec
  | .aesXts => getKeyParamsOfBlob .aesXts

/-- The mailbox of `create`; `keyBlob` is what the attributes point to. -/
def mailbox (attr : DekAttr) (keyBlob : Memory) (params : KeyParams) : Memory :=
  let p := CreateEncryptionKeyIn.encryptionKeyObject
  let m := zeros
  let m := copyBytes m (p + EncryptionKeyObj.key + params.offset.toNat)
    ((List.range attr.keyBlobSize.toNat).map keyBlob)
  let m := devxSet m p EncryptionKeyObj.keySize (params.size.setWidth 32)
  let m := devxSet m p EncryptionKeyObj.hasKeytag (if params.hasKeytag then 1 else 0)
  let m := devxSet m p EncryptionKeyObj.keyType (params.type.setWidth 32)
  let m := devxSet m 0 GeneralObjInCmdHdr.opcode mlx5CmdOpCreateGeneralObject
  let m := devxSet m 0 GeneralObjInCmdHdr.objType mlx5GeneralObjectTypesEncryptionKey
  let m := devxSet m p EncryptionKeyObj.pd attr.pdId
  devxSet64 m p EncryptionKeyObj.opaqueData attr.opaqueData

/-- The command of `create`, or the status with which it ends before. -/
def command (kind : DekKind) (attr : DekAttr) : Except Status Obj.Command :=
  match verifyAttr attr, attr.keyBlob with
  | .ok, some keyBlob => do
      let params ← getKeyParams kind attr.keyBlobSize attr.keySize
      .ok ⟨mailbox attr keyBlob params, CreateEncryptionKeyIn.bytes, GeneralObjOutCmdHdr.bytes⟩
  | ret, _ => .error ret

/-- `dek::create`. -/
def create (d : Dek) (attr : DekAttr) (device : Device) : Result Dek :=
  match command d.kind attr with
  | .error ret => (ret, d)
  | .ok c =>
      let (ret, base, out) := d.base.create device (some c.mailbox) c.inlen zeros c.outlen
      let d := { d with base := base }
      match ret with
      | .ok => (.ok, { d with mKeyId := devxGet out 0 GeneralObjOutCmdHdr.objId })
      | ret => (ret, d)

/-- What `create` leaves of the object. -/
theorem create_base (d : Dek) (attr : DekAttr) (device : Device) :
  (d.create attr device).2.base = d.base.send device (command d.kind attr).toOption
  := by
  simp only [create]
  split
  · rename_i ret hcommand
    rw [hcommand]
    rfl
  · rename_i c hcommand
    rw [hcommand]
    split <;> rfl

/-! ### Modifying a key -/

/-- The mailbox of `modify`, for the key `keyId`. -/
def modifyMailbox (attr : DekAttr) (keyBlob : Memory) (params : KeyParams) (keyId : BitVec 32) :
    Memory :=
  let p := CreateEncryptionKeyIn.encryptionKeyObject
  let m := zeros
  let m := copyBytes m (p + EncryptionKeyObj.key + params.offset.toNat)
    ((List.range attr.keyBlobSize.toNat).map keyBlob)
  let m := devxSet64 m p EncryptionKeyObj.modifyFieldSelect 0x1
  let m := devxSet m p EncryptionKeyObj.keySize (params.size.setWidth 32)
  let m := devxSet m p EncryptionKeyObj.keyType (params.type.setWidth 32)
  let m := devxSet m 0 GeneralObjInCmdHdr.opcode mlx5CmdOpModifyGeneralObject
  let m := devxSet m 0 GeneralObjInCmdHdr.objType mlx5GeneralObjectTypesEncryptionKey
  let m := devxSet m 0 GeneralObjInCmdHdr.objId keyId
  let m := devxSet m p EncryptionKeyObj.pd attr.pdId
  devxSet64 m p EncryptionKeyObj.opaqueData attr.opaqueData

/-- The command of `modify`, or the status with which it ends before. -/
def modifyCommand (d : Dek) (attr : DekAttr) : Except Status Obj.Command :=
  match verifyAttr attr, attr.keyBlob with
  | .ok, some keyBlob =>
      if d.base.getHandle ≠ .ok then
        .error .errInvalidParam
      else do
        let params ← getKeyParams d.kind attr.keyBlobSize attr.keySize
        .ok ⟨modifyMailbox attr keyBlob params d.mKeyId, CreateEncryptionKeyIn.bytes,
          GeneralObjOutCmdHdr.bytes⟩
  | ret, _ => .error ret

/-- `dek::modify`. -/
def modify (d : Dek) (attr : DekAttr) (answers : Answers) : Option (Result Dek) :=
  match d.modifyCommand attr with
  | .error ret => some (ret, d)
  | .ok c => do
      let (ret, base, _) ← d.base.modify answers c.mailbox c.inlen zeros c.outlen
      some (ret, { d with base := base })

/-- `dek::query`, with the attributes it leaves.  They are cleared first, and the key is not among
what is read. -/
def query (d : Dek) (answers : Answers) : Option (Status × Dek × DekAttr) :=
  let attr : DekAttr := ⟨none, 0, 0, 0, 0⟩
  if d.base.getHandle ≠ .ok then
    some (.errInvalidParam, d, attr)
  else do
    let (ret, base, out) ← d.base.query answers
      (queryGeneralObject mlx5GeneralObjectTypesEncryptionKey d.mKeyId) GeneralObjInCmdHdr.bytes
      zeros QueryEncryptionKeyOut.bytes
    let d := { d with base := base }
    match ret with
    | .ok =>
        let p := QueryEncryptionKeyOut.encryptionKeyObject
        some (.ok, d, { attr with
          keySize := keySizeFlagToBytesSize
            ((devxGet out p EncryptionKeyObj.keySize).setWidth 8)
          pdId := devxGet out p EncryptionKeyObj.pd
          opaqueData := devxGet64 out p EncryptionKeyObj.opaqueData })
    | _ => some (.errQuery, d, attr)

/-- The commands describe the same key: all bytes of the object after `modify_field_select` are
the same. -/
def SameKey (c c' : Obj.Command) : Prop :=
  let p := CreateEncryptionKeyIn.encryptionKeyObject
  AgreeOn (p + 8) (p + EncryptionKeyObj.bytes) c.mailbox c'.mailbox

/-- The AES-XTS keys by the flag of their size and whether they have a keytag. -/
def aesXtsKeys : List (BitVec 8 × Bool) :=
  [(keySize128, false), (keySize128, true), (keySize256, false), (keySize256, true)]

/-- A key is accepted if its blob has the size for one of the four keys, and the size of the key
gives that size too. -/
theorem getKeyParamsOfBlob_eq_ok {kind : DekKind} {keyBlobSize keySize : BitVec 32}
    {params : KeyParams} :
  getKeyParamsOfBlob kind keyBlobSize keySize = .ok params
    ↔ ∃ key ∈ aesXtsKeys, keyBlobSize = keySizeToBlobSize (keySizeFlagToBytesSize key.1) key.2
      ∧ keySizeToBlobSize keySize key.2 = keyBlobSize ∧ params = ⟨getKeyType kind, key.1, key.2, 0⟩
  := by
  have hlast {size : BitVec 8} {hasKeytag : Bool} :
      (if keySizeToBlobSize keySize hasKeytag ≠ keyBlobSize then
          .error Status.errInvalidParam
        else
          .ok (⟨getKeyType kind, size, hasKeytag, 0⟩ : KeyParams)) = Except.ok params
      ↔ keySizeToBlobSize keySize hasKeytag = keyBlobSize
        ∧ params = ⟨getKeyType kind, size, hasKeytag, 0⟩ := by
    split
    · rename_i hsize
      simp [hsize]
    · rename_i hsize
      rw [not_not] at hsize
      simp [hsize, eq_comm]
  constructor
  · intro h
    simp only [getKeyParamsOfBlob] at h
    split at h
    · rename_i hblob
      exact ⟨(keySize128, false), by simp [aesXtsKeys], hblob, hlast.mp h⟩
    · split at h
      · rename_i hblob
        exact ⟨(keySize128, true), by simp [aesXtsKeys], hblob, hlast.mp h⟩
      · split at h
        · rename_i hblob
          exact ⟨(keySize256, false), by simp [aesXtsKeys], hblob, hlast.mp h⟩
        · split at h
          · rename_i hblob
            exact ⟨(keySize256, true), by simp [aesXtsKeys], hblob, hlast.mp h⟩
          · cases h
  · rintro ⟨key, hkey, rfl, hsize, rfl⟩
    simp only [aesXtsKeys, List.mem_cons, List.not_mem_nil, or_false] at hkey
    rcases hkey with rfl | rfl | rfl | rfl <;> apply if_neg <;> simpa using hsize

/-- An AES-XTS key is given with a keytag just if its blob has one of two sizes, and other keys are
given without one. -/
theorem hasKeytag_of_getKeyParams {kind : DekKind} {keyBlobSize keySize : BitVec 32}
    {params : KeyParams} (h : getKeyParams kind keyBlobSize keySize = .ok params) :
  params.hasKeytag = true ↔ kind = .aesXts ∧ (keyBlobSize = 40 ∨ keyBlobSize = 72)
  := by
  cases kind with
  | tls | ipsec =>
      simp only [getKeyParams, getKeyParamsOfSize] at h
      split at h
      · cases h
      · split at h
        · cases h
          simp
        · split at h
          · cases h
            simp
          · cases h
  | aesXts =>
      obtain ⟨key, hkey, rfl, -, rfl⟩ := getKeyParamsOfBlob_eq_ok.mp h
      simp only [aesXtsKeys, List.mem_cons, List.not_mem_nil, or_false] at hkey
      rcases hkey with rfl | rfl | rfl | rfl <;> decide

/-- Doubling in 32 bits loses the top bit. -/
theorem keySizeToBlobSize_inj_iff (keySize keySize' : BitVec 32) (hasKeytag : Bool) :
  keySizeToBlobSize keySize hasKeytag = keySizeToBlobSize keySize' hasKeytag
    ↔ keySize = keySize' ∨ keySize = keySize' + 0x80000000
  := by
  simp only [keySizeToBlobSize, BitVec.add_left_inj]
  bv_omega

/-- The sizes of an AES-XTS key and of its blob, over the natural numbers: two keys of 16 or 32
bytes, and perhaps a tag of 8 bytes. -/
def AesXtsSizes (keyBlobSize keySize : Nat) : Prop :=
  (keySize = 16 ∨ keySize = 32) ∧ (keyBlobSize = 2 * keySize ∨ keyBlobSize = 2 * keySize + 8)

/-- The double of the size of the key wraps around to the size of a blob. -/
def Wraps (keyBlobSize keySize : BitVec 32) : Prop :=
  keySize = 0x80000010 ∧ (keyBlobSize = 32 ∨ keyBlobSize = 40)
    ∨ keySize = 0x80000020 ∧ (keyBlobSize = 64 ∨ keyBlobSize = 72)

/-- What holds of the size of the blob and of the key for one of the four keys. -/
theorem exists_aesXtsKeys_iff {P : BitVec 32 → BitVec 32 → Prop} :
  (∃ key ∈ aesXtsKeys, P (keySizeToBlobSize (keySizeFlagToBytesSize key.1) key.2)
      (keySizeFlagToBytesSize key.1))
    ↔ P 32 16 ∨ P 40 16 ∨ P 64 32 ∨ P 72 32
  := by
  simp only [aesXtsKeys, List.exists_mem_cons_iff, List.not_mem_nil, false_and, exists_false,
    or_false]
  rfl

theorem aesXtsSizes_iff {keyBlobSize keySize : BitVec 32} :
  AesXtsSizes keyBlobSize.toNat keySize.toNat
    ↔ ∃ key ∈ aesXtsKeys, keyBlobSize = keySizeToBlobSize (keySizeFlagToBytesSize key.1) key.2
      ∧ keySize = keySizeFlagToBytesSize key.1
  := by
  rw [exists_aesXtsKeys_iff (P := fun b k => keyBlobSize = b ∧ keySize = k), AesXtsSizes]
  bv_omega

theorem wraps_iff {keyBlobSize keySize : BitVec 32} :
  Wraps keyBlobSize keySize
    ↔ ∃ key ∈ aesXtsKeys, keyBlobSize = keySizeToBlobSize (keySizeFlagToBytesSize key.1) key.2
      ∧ keySize = keySizeFlagToBytesSize key.1 + 0x80000000
  := by
  rw [exists_aesXtsKeys_iff (P := fun b k => keyBlobSize = b ∧ keySize = k + 0x80000000), Wraps]
  bv_omega

/-- The AES-XTS keys that are accepted. -/
theorem aesXts_eq_ok {keyBlobSize keySize : BitVec 32} {params : KeyParams} :
  getKeyParams .aesXts keyBlobSize keySize = .ok params
    ↔ ∃ key ∈ aesXtsKeys, keyBlobSize = keySizeToBlobSize (keySizeFlagToBytesSize key.1) key.2
      ∧ (keySize = keySizeFlagToBytesSize key.1
        ∨ keySize = keySizeFlagToBytesSize key.1 + 0x80000000)
      ∧ params = ⟨getKeyType .aesXts, key.1, key.2, 0⟩
  := by
  rw [getKeyParams, getKeyParamsOfBlob_eq_ok]
  constructor
  · rintro ⟨key, hkey, rfl, hsize, rfl⟩
    exact ⟨key, hkey, rfl, (keySizeToBlobSize_inj_iff _ _ _).mp hsize, rfl⟩
  · rintro ⟨key, hkey, rfl, hsize, rfl⟩
    exact ⟨key, hkey, rfl, (keySizeToBlobSize_inj_iff _ _ _).mpr hsize, rfl⟩

/-- A key is accepted if its sizes are those of an AES-XTS key, or wrap around to them. -/
theorem aesXts_accepted_iff {keyBlobSize keySize : BitVec 32} :
  (∃ params, getKeyParams .aesXts keyBlobSize keySize = .ok params)
    ↔ AesXtsSizes keyBlobSize.toNat keySize.toNat ∨ Wraps keyBlobSize keySize
  := by
  rw [aesXtsSizes_iff, wraps_iff]
  constructor
  · rintro ⟨params, h⟩
    obtain ⟨key, hkey, hblob, hsize | hsize, -⟩ := aesXts_eq_ok.mp h
    · exact .inl ⟨key, hkey, hblob, hsize⟩
    · exact .inr ⟨key, hkey, hblob, hsize⟩
  · rintro (⟨key, hkey, hblob, hsize⟩ | ⟨key, hkey, hblob, hsize⟩)
    · exact ⟨_, aesXts_eq_ok.mpr ⟨key, hkey, hblob, .inl hsize, rfl⟩⟩
    · exact ⟨_, aesXts_eq_ok.mpr ⟨key, hkey, hblob, .inr hsize, rfl⟩⟩

/-- Sizes are accepted exactly if they are those of an AES-XTS key, and then the flag tells the size
of the key and the tag is told of, exactly for the sizes that do not wrap around. -/
theorem aesXts_keyParams_iff (keyBlobSize keySize : BitVec 32) :
  ((∃ params, getKeyParams .aesXts keyBlobSize keySize = .ok params)
        ↔ AesXtsSizes keyBlobSize.toNat keySize.toNat)
      ∧ (∀ params, getKeyParams .aesXts keyBlobSize keySize = .ok params →
        keySizeFlagToBytesSize params.size = keySize
          ∧ (params.hasKeytag = true ↔ keyBlobSize.toNat = 2 * keySize.toNat + 8))
    ↔ ¬ Wraps keyBlobSize keySize
  := by
  rw [aesXts_accepted_iff]
  constructor
  · rintro ⟨haccepted, -⟩ hwraps
    have hsizes := haccepted.mp (.inr hwraps)
    rcases hwraps with ⟨rfl, -⟩ | ⟨rfl, -⟩
    · rcases hsizes.1 with h | h <;> cases h
    · rcases hsizes.1 with h | h <;> cases h
  · intro hwraps
    refine ⟨or_iff_left hwraps, ?_⟩
    intro params h
    obtain ⟨key, hkey, hblob, rfl | hsize, rfl⟩ := aesXts_eq_ok.mp h
    · refine ⟨rfl, ?_⟩
      rw [hblob]
      simp only [aesXtsKeys, List.mem_cons, List.not_mem_nil, or_false] at hkey
      rcases hkey with rfl | rfl | rfl | rfl <;> decide
    · cases hwraps (wraps_iff.mpr ⟨key, hkey, hblob, hsize⟩)

/-- A key of `2 ^ 31 + 16` bytes in a blob of 32 bytes is accepted, as one of 16 bytes. -/
theorem aesXts_accepts_wrapped :
  getKeyParams .aesXts 32 0x80000010 = .ok ⟨getKeyType .aesXts, keySize128, false, 0⟩
    ∧ ¬ AesXtsSizes (32 : BitVec 32).toNat (0x80000010 : BitVec 32).toNat
    ∧ keySizeFlagToBytesSize keySize128 = 16
  := ⟨rfl, by simp [AesXtsSizes], rfl⟩

/-- The bit of the object that tells whether the key has a keytag. -/
def keytagBit : Nat :=
  8 * CreateEncryptionKeyIn.encryptionKeyObject + EncryptionKeyObj.hasKeytag.offset

/-- The key is copied to bytes behind the keytag bit. -/
theorem bit_copyBytes_keytagBit (offset : Nat) (bs : List (BitVec 8)) :
  bit (copyBytes zeros (CreateEncryptionKeyIn.encryptionKeyObject + EncryptionKeyObj.key + offset)
      bs) keytagBit = false
  := by
  rw [bit_copyBytes, Write.put_of_not_covers, bit_zeros]
  simp only [Write.Covers, Write.ofBytes, keytagBit, CreateEncryptionKeyIn.encryptionKeyObject,
    EncryptionKeyObj.key, EncryptionKeyObj.hasKeytag]
  omega

/-- `create` tells the device whether the key has a keytag. -/
theorem bit_mailbox_keytagBit (attr : DekAttr) (keyBlob : Memory) (params : KeyParams) :
  bit (mailbox attr keyBlob params) keytagBit = params.hasKeytag
  := by
  simp only [mailbox]
  rw [bit_devxSet64_of_outside _ _ (by decide), bit_devxSet_of_not_has _ _ (by decide),
    bit_devxSet_of_not_has _ _ (by decide), bit_devxSet_of_not_has _ _ (by decide),
    bit_devxSet_of_not_has _ _ (by decide), bit_devxSet_of_has _ _ (by decide)]
  cases params.hasKeytag <;> rfl

/-- `modify` tells the device that the key has no keytag. -/
theorem bit_modifyMailbox_keytagBit (attr : DekAttr) (keyBlob : Memory) (params : KeyParams)
    (keyId : BitVec 32) :
  bit (modifyMailbox attr keyBlob params keyId) keytagBit = false
  := by
  simp only [modifyMailbox]
  rw [bit_devxSet64_of_outside _ _ (by decide), bit_devxSet_of_not_has _ _ (by decide),
    bit_devxSet_of_not_has _ _ (by decide), bit_devxSet_of_not_has _ _ (by decide),
    bit_devxSet_of_not_has _ _ (by decide), bit_devxSet_of_not_has _ _ (by decide),
    bit_devxSet_of_not_has _ _ (by decide), bit_devxSet64_of_outside _ _ (by decide)]
  apply bit_copyBytes_keytagBit

/-- For a key without a keytag the two functions fill the object alike. -/
theorem mailbox_agreeOn_modifyMailbox (attr : DekAttr) (keyBlob : Memory) {params : KeyParams}
    (keyId : BitVec 32) (h : params.hasKeytag = false) :
  AgreeOn (CreateEncryptionKeyIn.encryptionKeyObject + 8)
    (CreateEncryptionKeyIn.encryptionKeyObject + EncryptionKeyObj.bytes)
    (mailbox attr keyBlob params) (modifyMailbox attr keyBlob params keyId)
  := by
  simp only [mailbox, modifyMailbox, h]
  rw [devxSet_eq_self (f := EncryptionKeyObj.hasKeytag)]
  · apply devxSet64_agreeOn
    apply devxSet_agreeOn _ _ (by decide) (by decide)
    apply AgreeOn.trans _ (devxSet_agreeOn_outside _ _ (by decide)).symm
    apply AgreeOn.trans _ (devxSet_agreeOn_outside _ _ (by decide)).symm
    apply AgreeOn.trans _ (devxSet_agreeOn_outside _ _ (by decide)).symm
    apply (devxSet_agreeOn_outside _ _ (by decide)).trans
    apply (devxSet_agreeOn_outside _ _ (by decide)).trans
    apply devxSet_agreeOn _ _ (by decide) (by decide)
    apply devxSet_agreeOn _ _ (by decide) (by decide)
    apply (devxSet64_agreeOn_outside _ _ (by decide)).symm
  · intro i hi
    obtain rfl : i = keytagBit := by
      simp only [Field.Has, keytagBit, EncryptionKeyObj.hasKeytag] at hi ⊢
      omega
    rw [bit_devxSet_of_not_has _ _ (by decide), bit_copyBytes_keytagBit]
    rfl

/-- On attributes that both `create` and `modify` accept, the two describe the same key to the
device just if it is not an AES-XTS key with a keytag. -/
theorem dek_modify_sameKey_iff {d : Dek} {attr : DekAttr} {c c' : Obj.Command}
    (hcreate : command d.kind attr = .ok c) (hmodify : d.modifyCommand attr = .ok c') :
  SameKey c c'
    ↔ ¬ (d.kind = .aesXts ∧ (attr.keyBlobSize = 40 ∨ attr.keyBlobSize = 72))
  := by
  simp only [command] at hcreate
  simp only [modifyCommand] at hmodify
  split at hcreate
  · rename_i keyBlob hverify hblob
    rw [hverify, hblob] at hmodify
    cases hparams : getKeyParams d.kind attr.keyBlobSize attr.keySize with
    | error ret =>
        rw [hparams] at hcreate
        cases hcreate
    | ok params =>
        rw [hparams] at hcreate hmodify
        cases hcreate
        simp only at hmodify
        split at hmodify
        · cases hmodify
        · cases hmodify
          rw [← hasKeytag_of_getKeyParams hparams, SameKey]
          constructor
          · intro hsame htag
            have hbit := hsame.bit_eq (i := keytagBit) (by decide) (by decide)
            rw [bit_mailbox_keytagBit, bit_modifyMailbox_keytagBit, htag] at hbit
            cases hbit
          · intro htag
            apply mailbox_agreeOn_modifyMailbox
            simpa using htag
  · cases hcreate

/-- An AES-XTS key that was created. -/
def created : Dek :=
  ⟨{ Obj.new true with mObjHandle := true, mHandle := true }, .aesXts, 7⟩

/-- An AES-XTS key of 128 bits in a blob of `keyBlobSize` bytes. -/
def xtsAttr (keyBlobSize : BitVec 32) : DekAttr :=
  ⟨some zeros, keyBlobSize, 16, 1, 0⟩

/-- A key without a keytag. -/
theorem dek_modify_sameKey_no_keytag :
  ∃ c c', command created.kind (xtsAttr 32) = .ok c ∧ created.modifyCommand (xtsAttr 32) = .ok c'
    ∧ SameKey c c'
  := by
  obtain ⟨c, hc⟩ : ∃ c, command created.kind (xtsAttr 32) = .ok c := ⟨_, rfl⟩
  obtain ⟨c', hc'⟩ : ∃ c', created.modifyCommand (xtsAttr 32) = .ok c' := ⟨_, rfl⟩
  refine ⟨c, c', hc, hc', (dek_modify_sameKey_iff hc hc').mpr ?_⟩
  decide

/-- For a key with a keytag both functions send a command, and `modify` says that there is none. -/
theorem dek_modify_drops_keytag :
  ∃ c c', command created.kind (xtsAttr 40) = .ok c ∧ created.modifyCommand (xtsAttr 40) = .ok c'
    ∧ devxGet c.mailbox CreateEncryptionKeyIn.encryptionKeyObject EncryptionKeyObj.hasKeytag = 1
    ∧ devxGet c'.mailbox CreateEncryptionKeyIn.encryptionKeyObject EncryptionKeyObj.hasKeytag = 0
    ∧ ¬ SameKey c c'
  := by
  refine ⟨_, _, rfl, rfl, by decide, by decide, ?_⟩
  intro h
  have hbit := h.bit_eq (i := keytagBit) (by decide) (by decide)
  rw [bit_mailbox_keytagBit, bit_modifyMailbox_keytagBit] at hbit
  cases hbit

end Dek

/-! ### Tag buffer tables -/

/-- `class tag_buffer_table_obj`. -/
structure TagBufferTableObj where
  base : Obj
  mKeyId : BitVec 32

namespace TagBufferTableObj

def mlx5GeneralObjectTypesNvmeotcpTagBufferTable : BitVec 32 := 0x21

/-- The constructor of `tag_buffer_table_obj`. -/
def new (ctx : Bool) : TagBufferTableObj :=
  ⟨.new ctx, 0⟩

/-- The command of `create`. -/
def command (logTagBufferTableSize : BitVec 32) : Obj.Command :=
  let m := zeros
  let m := devxSet m 0 GeneralObjInCmdHdr.opcode mlx5CmdOpCreateGeneralObject
  let m := devxSet m 0 GeneralObjInCmdHdr.objType mlx5GeneralObjectTypesNvmeotcpTagBufferTable
  let m := devxSet m CreateTagBufferTableObjIn.tagBufferTableObject
    Prm.TagBufferTableObj.logTagBufferTableSize logTagBufferTableSize
  ⟨m, CreateTagBufferTableObjIn.bytes, GeneralObjOutCmdHdr.bytes⟩

/-- `tag_buffer_table_obj::create`, by the attribute it reads. -/
def create (t : TagBufferTableObj) (logTagBufferTableSize : BitVec 32) (device : Device) :
    Result TagBufferTableObj :=
  let c := command logTagBufferTableSize
  let (ret, base, out) := t.base.create device (some c.mailbox) c.inlen zeros c.outlen
  let t := { t with base := base }
  match ret with
  | .ok => (.ok, { t with mKeyId := devxGet out 0 GeneralObjOutCmdHdr.objId })
  | ret => (ret, t)

/-- `struct attr` of `tag_buffer_table_obj`. -/
structure Attr where
  modifyFieldSelect : BitVec 32
  logTagBufferTableSize : BitVec 32

/-- `tag_buffer_table_obj::query`; `attr` is what the output parameter held. -/
def query (t : TagBufferTableObj) (attr : Attr) (answers : Answers) :
    Option (Status × TagBufferTableObj × Attr) :=
  if t.base.getHandle ≠ .ok then
    some (.errInvalidParam, t, attr)
  else do
    let (ret, base, out) ← t.base.query answers
      (queryGeneralObject mlx5GeneralObjectTypesNvmeotcpTagBufferTable t.mKeyId)
      GeneralObjInCmdHdr.bytes zeros QueryTagBufferTableObjOut.bytes
    let t := { t with base := base }
    match ret with
    | .ok =>
        some (.ok, t, ⟨0, devxGet out QueryTagBufferTableObjOut.tagBufferTableObject
          Prm.TagBufferTableObj.logTagBufferTableSize⟩)
    | _ => some (.errQuery, t, ⟨0, 0⟩)

/-- What `create` leaves of the object. -/
theorem create_base (t : TagBufferTableObj) (logTagBufferTableSize : BitVec 32)
    (device : Device) :
  (t.create logTagBufferTableSize device).2.base
    = t.base.send device (some (command logTagBufferTableSize))
  := by
  simp only [create]
  split <;> rfl

end TagBufferTableObj

end Dpcp
