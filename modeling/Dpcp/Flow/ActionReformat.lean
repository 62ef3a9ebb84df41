import Dpcp.Bits.Bytes
import Dpcp.Flow.Action

/-!
# The creation of a reformat action

A `flow_action_reformat` is made by its constructor, which encodes the header to insert in an
`ALLOC_PACKET_REFORMAT_CONTEXT` mailbox and creates the HW object.  The header starts in the last
two bytes of the structure and goes on behind it, and the length of the mailbox is filled up to
whole words.

`insertedData` reads the header back.
-/

namespace Dpcp

open Bits Dcmd Prm

/-- `struct flow_action_reformat_insert_attr`; `data` is the memory from where the pointer `data`
points to, unless this is null. -/
structure FlowActionReformatInsertAttr where
  startHdr : BitVec 32
  offset : BitVec 8
  dataLen : BitVec 10
  data : Option Memory

/-- `union flow_action_reformat_attr` by its type: `INSERT_HDR`, or a type that is not known. -/
inductive FlowActionReformatAttr where
  | insertHdr (insert : FlowActionReformatInsertAttr)
  | other (type : BitVec 32)

namespace FlowActionReformat

def mlx5CmdOpAllocPacketReformatContext : BitVec 32 := 0x93d
def mlx5ReformatTypeInsertHdr : BitVec 32 := 0xf

/-- The length of the mailbox of an insertion: there is always something added, a whole word if the
length is one of whole words already. -/
def insertInLen (attr : FlowActionReformatInsertAttr) : Nat :=
  let inLen := AllocPacketReformatContextIn.bytes + attr.dataLen.toNat
  inLen + (4 - inLen % 4)

/-- The mailbox of an insertion of the header at `data`. -/
def insertMailbox (attr : FlowActionReformatInsertAttr) (data : Memory) : Memory :=
  let pckReformatCtxIn := AllocPacketReformatContextIn.packetReformatContext
  let reformat := pckReformatCtxIn + PacketReformatContextIn.reformatData
  let m := devxSet zeros 0 AllocPacketReformatContextIn.opcode mlx5CmdOpAllocPacketReformatContext
  let m := devxSet m pckReformatCtxIn PacketReformatContextIn.reformatDataSize
    (attr.dataLen.setWidth 32)
  let m := devxSet m pckReformatCtxIn PacketReformatContextIn.reformatParam0 attr.startHdr
  let m := devxSet m pckReformatCtxIn PacketReformatContextIn.reformatType
    mlx5ReformatTypeInsertHdr
  let m := devxSet m pckReformatCtxIn PacketReformatContextIn.reformatParam1
    (attr.offset.setWidth 32)
  copyBytes m reformat (bytes data 0 attr.dataLen.toNat)

/-- `alloc_reformat_insert_action`, with the length and the mailbox; `alloc` tells whether the
mailbox could be allocated. -/
def allocReformatInsertAction (attr : FlowActionReformatInsertAttr) (alloc : Bool) :
    Status × Nat × Option Memory :=
  match attr.data with
  | none => (.errInvalidParam, 0, none)
  | some data =>
      if !alloc then
        (.errNoMemory, insertInLen attr, none)
      else
        (.ok, insertInLen attr, some (insertMailbox attr data))

/-- The constructor of `flow_action_reformat`, with the object of the device.  An action that is not
valid is made where anything fails. -/
def new (ctx : Bool) (attr : FlowActionReformatAttr) (alloc : Bool) (device : Device) :
    Obj × FlowActionReformat :=
  match attr with
  | .insertHdr insert =>
      match allocReformatInsertAction insert alloc with
      | (.ok, inLen, m) =>
          match (Obj.new ctx).create device m inLen zeros AllocPacketReformatContextOut.bytes with
          | (.ok, base, out) =>
              (base, ⟨true, devxGet out 0 AllocPacketReformatContextOut.packetReformatId⟩)
          | (_, base, _) => (base, ⟨false, 0⟩)
      | _ => (Obj.new ctx, ⟨false, 0⟩)
  | .other _ => (Obj.new ctx, ⟨false, 0⟩)

/-! ### The mailbox of an insertion -/

/-- The fields of the context of an insertion, with their values. -/
def insertFields (attr : FlowActionReformatInsertAttr) : List (Field × BitVec 32) :=
  [(PacketReformatContextIn.reformatDataSize, attr.dataLen.setWidth 32),
    (PacketReformatContextIn.reformatParam0, attr.startHdr),
    (PacketReformatContextIn.reformatType, mlx5ReformatTypeInsertHdr),
    (PacketReformatContextIn.reformatParam1, attr.offset.setWidth 32)]

/-- Where the header is copied to. -/
def reformatData : Nat :=
  AllocPacketReformatContextIn.packetReformatContext + PacketReformatContextIn.reformatData

/-- The writes of the mailbox of an insertion. -/
def insertWrites (attr : FlowActionReformatInsertAttr) (data : Memory) : List Write :=
  AllocPacketReformatContextIn.opcode.write 0 mlx5CmdOpAllocPacketReformatContext
    :: Field.writes AllocPacketReformatContextIn.packetReformatContext (insertFields attr)
    ++ [.ofBytes reformatData (bytes data 0 attr.dataLen.toNat)]

theorem bit_insertMailbox (attr : FlowActionReformatInsertAttr) (data : Memory) :
  bit (insertMailbox attr data) = puts (bit zeros) (insertWrites attr data)
  := by
  rw [insertWrites, puts_append, puts_cons, puts_nil, insertMailbox, bit_copyBytes]
  simp only [bit_devxSet, insertFields, Field.writes, List.map, puts_cons, puts_nil]
  rfl

/-- The opcode, the fields of the context and the header have no bit in common. -/
theorem insertWrites_disjoint (attr : FlowActionReformatInsertAttr) (data : Memory) :
  (insertWrites attr data).Pairwise Write.Disjoint
  := by
  have hctx : ∀ w ∈ Field.writes AllocPacketReformatContextIn.packetReformatContext
      (insertFields attr), w.Within 0xe0 (0xe0 + 0x28) := by
    intro w hw
    apply Field.within_of_mem_writes _ hw
    simp only [insertFields, List.map]
    decide
  have hdata : (Write.ofBytes reformatData (bytes data 0 attr.dataLen.toNat)).Within 0x110
      (0x110 + 8 * attr.dataLen.toNat) := by
    simp [Write.Within, Write.ofBytes, reformatData,
      AllocPacketReformatContextIn.packetReformatContext, PacketReformatContextIn.reformatData]
  have hopcode : (AllocPacketReformatContextIn.opcode.write 0
      mlx5CmdOpAllocPacketReformatContext).Within 0 0x10 := by
    simp only [Write.Within, Field.write]
    decide
  rw [insertWrites, List.cons_append, List.pairwise_cons, List.pairwise_append]
  refine ⟨?_, ?_, List.pairwise_singleton _ _, ?_⟩
  · intro w hw
    rcases List.mem_append.mp hw with hw | hw
    · apply hopcode.disjoint (hctx w hw)
      omega
    · obtain rfl := List.mem_singleton.mp hw
      apply hopcode.disjoint hdata
      omega
  · apply Field.writes_disjoint
    simp only [insertFields, List.map]
    decide
  · intro w hw w' hw'
    obtain rfl := List.mem_singleton.mp hw'
    apply (hctx w hw).disjoint hdata
    omega

/-- The fields of an insertion are read back modulo their widths. -/
theorem devxGet_insertMailbox (attr : FlowActionReformatInsertAttr) (data : Memory)
    {fv : Field × BitVec 32} (hfv : fv ∈ insertFields attr) :
  (devxGet (insertMailbox attr data) AllocPacketReformatContextIn.packetReformatContext
      fv.1).toNat
    = fv.2.toNat % 2 ^ fv.1.size
  := by
  apply devxGet_of_puts (bit_insertMailbox attr data) (insertWrites_disjoint attr data)
  apply List.mem_append_left
  apply List.mem_cons_of_mem
  apply List.mem_map_of_mem hfv

/-- The length of the header is read back. -/
theorem dataSize_insertMailbox (attr : FlowActionReformatInsertAttr) (data : Memory) :
  (devxGet (insertMailbox attr data) AllocPacketReformatContextIn.packetReformatContext
      PacketReformatContextIn.reformatDataSize).toNat
    = attr.dataLen.toNat
  := by
  have hlt := attr.dataLen.isLt
  have hread := devxGet_insertMailbox attr data List.mem_cons_self
  simp only [BitVec.toNat_setWidth, PacketReformatContextIn.reformatDataSize] at hread
  rw [PacketReformatContextIn.reformatDataSize, hread]
  omega

/-- The header that a mailbox asks to insert. -/
def insertedData (m : Memory) : List (BitVec 8) :=
  bytes m reformatData (devxGet m AllocPacketReformatContextIn.packetReformatContext
    PacketReformatContextIn.reformatDataSize).toNat

/-- The header is read back, byte by byte. -/
theorem insertedData_insertMailbox (attr : FlowActionReformatInsertAttr) (data : Memory) :
  insertedData (insertMailbox attr data) = bytes data 0 attr.dataLen.toNat
  := by
  have hread := bytes_of_puts (bit_insertMailbox attr data) (insertWrites_disjoint attr data)
    (List.mem_append_right _ (List.mem_singleton_self _))
  rw [length_bytes] at hread
  rw [insertedData, dataSize_insertMailbox, hread]

/-- The mailbox is of whole words, and longer than the structure and the header. -/
theorem insertInLen_spec (attr : FlowActionReformatInsertAttr) :
  insertInLen attr % 4 = 0 ∧ reformatData + attr.dataLen.toNat < insertInLen attr
  := by
  simp only [insertInLen, reformatData, AllocPacketReformatContextIn.packetReformatContext,
    PacketReformatContextIn.reformatData, AllocPacketReformatContextIn.bytes]
  omega

/-- An action is valid exactly if it inserts a header, there is memory for the mailbox, and the
device has made an object of it. -/
theorem new_isValid_iff (ctx : Bool) (attr : FlowActionReformatAttr) (alloc : Bool)
    (device : Device) :
  (new ctx attr alloc device).2.mIsValid = true
    ↔ ∃ insert data, attr = .insertHdr insert ∧ insert.data = some data ∧ alloc = true
      ∧ ((Obj.new ctx).create device (some (insertMailbox insert data)) (insertInLen insert) zeros
        AllocPacketReformatContextOut.bytes).1 = .ok
  := by
  cases attr with
  | other => simp [new]
  | insertHdr insert =>
      simp only [new, allocReformatInsertAction, FlowActionReformatAttr.insertHdr.injEq,
        exists_and_left, exists_eq_left']
      cases insert.data with
      | none => simp
      | some data =>
          cases alloc with
          | false => simp
          | true =>
              simp only [Bool.not_true, Bool.false_eq_true, if_false, Option.some.injEq,
                exists_eq_left', true_and]
              rcases (Obj.new ctx).create device (some (insertMailbox insert data))
                (insertInLen insert) zeros AllocPacketReformatContextOut.bytes with ⟨ret, base, out⟩
              cases ret <;> simp

end FlowActionReformat

end Dpcp
