import Dpcp.Flow.ActionReformat
import Dpcp.Flow.RuleSteps

/-!
# The encoders of the flow commands

Three mailboxes have a part of variable length: the entries of `ALLOC_MODIFY_HEADER_CONTEXT`, the
destinations of `SET_FLOW_TABLE_ENTRY` and the header of `ALLOC_PACKET_REFORMAT_CONTEXT`.  For each
of them:

* the encoder is the run of a list of steps, also where it fails;
* the stores of these steps lie in the buffer that is allocated, which is cleared first;
* what is read back from the buffer are the elements, in their order, and their number modulo the
  width of its field.
-/

namespace Dpcp

open Bits Dcmd Prm

namespace FlowActionModify

/-! ### The modify-header encoder -/

/-- The steps of the entry of an action at `p`. -/
def entrySteps (p : Nat) : FlowActionModifyTypeAttr → List (Step Status)
  | .other _ => [.check .errNoSupport]
  | a => Step.sets p (entryFields a)

/-- The steps of the loop of `prepare_prm_modify_buff`, at the entry `currAction`. -/
def entriesSteps (currAction : Nat) : List FlowActionModifyTypeAttr → List (Step Status)
  | [] => []
  | a :: rest =>
      entrySteps currAction a ++ entriesSteps (currAction + SetAddCopyActionInAuto.bytes) rest

/-- The steps of `prepare_prm_modify_buff`. -/
def modifySteps (attr : FlowActionModifyAttr) : List (Step Status) :=
  Step.sets 0
      [(AllocModifyHeaderContextIn.opcode, mlx5CmdOpAllocModifyHeaderContext),
        (AllocModifyHeaderContextIn.tableType, attr.tableType),
        (AllocModifyHeaderContextIn.numOfActions, BitVec.ofNat 32 attr.actions.length)]
    ++ entriesSteps AllocModifyHeaderContextIn.actions attr.actions

/-- The length of the mailbox. -/
def modifyInLen (attr : FlowActionModifyAttr) : Nat :=
  AllocModifyHeaderContextIn.bytes + SetAddCopyActionInAuto.bytes * attr.actions.length

theorem run_entriesSteps (m : Memory) (p : Nat) (l : List FlowActionModifyTypeAttr) :
  Step.run .ok (entriesSteps p l) m = applyModifyActions m p l
  := by
  induction l generalizing m p with
  | nil => rfl
  | cons a rest ih =>
      rw [entriesSteps, run_ok_append]
      cases a with
      | set => apply ih
      | copy => apply ih
      | other => rfl

/-- `prepare_prm_modify_buff` makes its steps. -/
theorem preparePrmModifyBuff_eq_run (a : FlowActionModify) :
  a.preparePrmModifyBuff true =
    ((Step.run .ok (modifySteps a.mAttr) zeros).1,
      { a with
        mInlen := modifyInLen a.mAttr
        mIn := some (Step.run .ok (modifySteps a.mAttr) zeros).2 })
  := by
  rw [modifySteps, run_ok_append, Step.run_sets]
  simp only [Result.andThen, run_entriesSteps]
  rfl

theorem within_entrySteps {n p : Nat} (a : FlowActionModifyTypeAttr)
    (h : p + SetAddCopyActionInAuto.bytes ≤ n) :
  Step.Within .ok n (entrySteps p a)
  := by
  cases a with
  | other =>
      apply Step.within_failure
      decide
  | _ =>
      apply Step.within_sets _ _ h
      simp only [entryFields, List.map]
      decide

theorem within_entriesSteps {n p : Nat} {l : List FlowActionModifyTypeAttr}
    (h : p + SetAddCopyActionInAuto.bytes * l.length ≤ n) :
  Step.Within .ok n (entriesSteps p l)
  := by
  induction l generalizing p with
  | nil => apply Step.within_nil
  | cons a rest ih =>
      rw [List.length_cons, Nat.mul_add_one] at h
      apply Step.within_append
      · apply within_entrySteps a
        omega
      · apply ih
        omega

/-- All stores of the encoder lie in its buffer. -/
theorem within_modifySteps (attr : FlowActionModifyAttr) :
  Step.Within .ok (modifyInLen attr) (modifySteps attr)
  := by
  apply Step.within_append
  · apply Step.within_sets AllocModifyHeaderContextIn.bytes
    · simp only [List.map]
      decide
    · rw [modifyInLen]
      omega
  · apply within_entriesSteps
    rfl

/-- The action of the entry at `p`, by the type that stands there. -/
def decodeEntry (m : Memory) (p : Nat) : Option FlowActionModifyTypeAttr :=
  if devxGet m p SetActionIn.actionType = mlx5ActionTypeSet then
    some (.set (devxGet m p SetActionIn.field) ((devxGet m p SetActionIn.offset).setWidth 5)
      ((devxGet m p SetActionIn.length).setWidth 5) (devxGet m p SetActionIn.data))
  else if devxGet m p CopyActionIn.actionType = mlx5ActionTypeCopy then
    some (.copy (devxGet m p CopyActionIn.srcField)
      ((devxGet m p CopyActionIn.srcOffset).setWidth 5)
      ((devxGet m p CopyActionIn.length).setWidth 5) (devxGet m p CopyActionIn.dstField)
      ((devxGet m p CopyActionIn.dstOffset).setWidth 5))
  else
    none

/-- The actions of a mailbox of `inlen` bytes. -/
def decodeActions (m : Memory) (inlen : Nat) : List (Option FlowActionModifyTypeAttr) :=
  (List.range ((inlen - AllocModifyHeaderContextIn.bytes) / SetAddCopyActionInAuto.bytes)).map
    fun i => decodeEntry m (AllocModifyHeaderContextIn.actions + SetAddCopyActionInAuto.bytes * i)

/-- The action with the fields of the packet it names cut to the 12 bits that they have in an
entry. -/
def narrowed : FlowActionModifyTypeAttr → FlowActionModifyTypeAttr
  | .set field offset length data => .set (field &&& lowMask 12) offset length data
  | .copy srcField srcOffset length dstField dstOffset =>
      .copy (srcField &&& lowMask 12) srcOffset length (dstField &&& lowMask 12) dstOffset
  | a => a

/-- The enumerators of `flow_action_modify_field`. -/
def modifyFields : List (BitVec 32) :=
  [0x1, 0x2, 0x3, 0x4, 0x5, 0x6, 0x7, 0x8, 0x9, 0xa, 0xb, 0xc, 0x51, 0x52]

/-- The action names fields of the enumeration `flow_action_modify_field`. -/
def NamesFields : FlowActionModifyTypeAttr → Prop
  | .set field _ _ _ => field ∈ modifyFields
  | .copy srcField _ _ dstField _ => srcField ∈ modifyFields ∧ dstField ∈ modifyFields
  | .other _ => True

theorem and_lowMask_of_mem {field : BitVec 32} (h : field ∈ modifyFields) :
  field &&& lowMask 12 = field
  := by
  have hall : ∀ f ∈ modifyFields, f.toNat < 2 ^ 12 := by simp [modifyFields]
  rw [and_lowMask_eq_self_iff (by decide)]
  apply hall field h

theorem narrowed_of_namesFields {a : FlowActionModifyTypeAttr} (h : NamesFields a) :
  narrowed a = a
  := by
  cases a with
  | set => rw [narrowed, and_lowMask_of_mem h]
  | copy => rw [narrowed, and_lowMask_of_mem h.1, and_lowMask_of_mem h.2]
  | other => rfl

/-- The fields of the entry of an action are read back modulo their widths. -/
theorem devxGet_fillEntries (m : Memory) (p : Nat) {l : List FlowActionModifyTypeAttr} {i : Nat}
    {a : FlowActionModifyTypeAttr} (ha : l[i]? = some a) {fv : Field × BitVec 32}
    (hfv : fv ∈ entryFields a) :
  devxGet (fillEntries applyModifyAction m p l) (p + 8 * i) fv.1 = fv.2 &&& lowMask fv.1.size
  := by
  obtain ⟨m', -, hm'⟩ := bit_fillEntries bit_applyModifyAction_of_outside m p ha
  have hmem : fv.1.write (p + 8 * i) fv.2 ∈ writes (p + 8 * i) a := List.mem_map_of_mem hfv
  apply BitVec.eq_of_toNat_eq
  rw [BitVec.toNat_and, toNat_lowMask fv.1.size_le, Nat.and_two_pow_sub_one_eq_mod]
  apply devxGet_of_bits
  intro j hj
  have hin := writes_within hmem hj
  have hbit := hm' (j - 8 * (p + 8 * i)) (by omega)
  rw [Nat.add_sub_cancel' hin.1, bit_applyModifyAction] at hbit
  rw [hbit]
  apply puts_of_mem _ (writes_disjoint (p + 8 * i) a) hmem hj

theorem setWidth_and_lowMask {n : Nat} (hn : n ≤ 32) (x : BitVec n) :
  (x.setWidth 32 &&& lowMask n).setWidth n = x
  := by
  rw [(and_lowMask_eq_self_iff hn _).mpr (toNat_setWidth_lt x), BitVec.setWidth_setWidth_of_le x hn,
    BitVec.setWidth_eq]

theorem and_lowMask_32 (x : BitVec 32) :
  x &&& lowMask 32 = x
  := by
  rw [and_lowMask_eq_self_iff (by decide)]
  apply x.isLt

/-- The entry of a known action says which action it is. -/
theorem decodeEntry_fillEntries (m : Memory) (p : Nat) {l : List FlowActionModifyTypeAttr} {i : Nat}
    {a : FlowActionModifyTypeAttr} (ha : l[i]? = some a) (hknown : IsSetOrCopy a) :
  decodeEntry (fillEntries applyModifyAction m p l) (p + 8 * i) = some (narrowed a)
  := by
  have hread := fun fv (hfv : fv ∈ entryFields a) => devxGet_fillEntries m p ha hfv
  generalize fillEntries applyModifyAction m p l = m' at hread ⊢
  cases a with
  | set field offset length data =>
      simp only [entryFields, List.forall_mem_cons, SetActionIn.actionType, SetActionIn.field,
        SetActionIn.offset, SetActionIn.length, SetActionIn.data] at hread
      obtain ⟨htype, hfield, hoffset, hlength, hdata, -⟩ := hread
      have hset : mlx5ActionTypeSet &&& lowMask 4 = mlx5ActionTypeSet := by decide
      simp only [decodeEntry, SetActionIn.actionType, SetActionIn.field, SetActionIn.offset,
        SetActionIn.length, SetActionIn.data, htype, hfield, hoffset, hlength, hdata, hset, if_true,
        setWidth_and_lowMask (by decide : 5 ≤ 32), and_lowMask_32, narrowed]
  | copy srcField srcOffset length dstField dstOffset =>
      simp only [entryFields, List.forall_mem_cons, CopyActionIn.actionType, CopyActionIn.srcField,
        CopyActionIn.srcOffset, CopyActionIn.length, CopyActionIn.dstField,
        CopyActionIn.dstOffset] at hread
      obtain ⟨htype, hsrc, hsrcOffset, hlength, hdst, hdstOffset, -⟩ := hread
      have hcopy : mlx5ActionTypeCopy &&& lowMask 4 = mlx5ActionTypeCopy := by decide
      have hset : mlx5ActionTypeCopy ≠ mlx5ActionTypeSet := by decide
      simp only [decodeEntry, SetActionIn.actionType, CopyActionIn.actionType,
        CopyActionIn.srcField, CopyActionIn.srcOffset, CopyActionIn.length, CopyActionIn.dstField,
        CopyActionIn.dstOffset, htype, hsrc, hsrcOffset, hlength, hdst, hdstOffset, hcopy, hset,
        if_true, if_false, setWidth_and_lowMask (by decide : 5 ≤ 32), narrowed]
  | other => cases hknown

/-- A field before the entries reads as it did before they were filled. -/
theorem devxGet_before_fillEntries (m : Memory) {p : Nat} (l : List FlowActionModifyTypeAttr)
    {f : Field} (h : f.offset + f.size ≤ 8 * p) :
  devxGet (fillEntries applyModifyAction m p l) 0 f = devxGet m 0 f
  := by
  apply BitVec.eq_of_getLsbD_eq
  intro k _
  rw [getLsbD_devxGet, getLsbD_devxGet]
  by_cases hk : k < f.size
  · rw [bit_fillEntries_of_lt bit_applyModifyAction_of_outside _ _ _ (by omega)]
  · simp [hk]

/-- The encoder succeeds exactly on the actions it knows. -/
theorem run_modifySteps_ok_iff (attr : FlowActionModifyAttr) :
  (Step.run .ok (modifySteps attr) zeros).1 = .ok ↔ ∀ a ∈ attr.actions, IsSetOrCopy a
  := by
  rw [modifySteps, run_ok_append, Step.run_sets]
  simp only [Result.andThen, run_entriesSteps]
  generalize List.foldl _ _ _ = m
  generalize AllocModifyHeaderContextIn.actions = p
  constructor
  · induction attr.actions generalizing m p with
    | nil => simp
    | cons a rest ih =>
        intro h
        rw [List.forall_mem_cons]
        cases a with
        | set => exact ⟨trivial, ih _ _ h⟩
        | copy => exact ⟨trivial, ih _ _ h⟩
        | other => cases h
  · intro h
    rw [applyModifyActions_eq m p h]

/-- What the encoder has written is read back: the number of the actions modulo its width, and every
action in its place. -/
theorem decode_modifySteps {attr : FlowActionModifyAttr} (h : ∀ a ∈ attr.actions, IsSetOrCopy a) :
  (devxGet (Step.run .ok (modifySteps attr) zeros).2 0
        AllocModifyHeaderContextIn.numOfActions).toNat
      = attr.actions.length % 2 ^ 8
    ∧ decodeActions (Step.run .ok (modifySteps attr) zeros).2 (modifyInLen attr)
      = attr.actions.map fun a => some (narrowed a)
  := by
  rw [modifySteps, run_ok_append, Step.run_sets]
  simp only [Result.andThen, run_entriesSteps, applyModifyActions_eq _ _ h]
  constructor
  · rw [devxGet_before_fillEntries _ _ (by decide), List.foldl_cons, List.foldl_cons,
      List.foldl_cons, List.foldl_nil, toNat_devxGet_devxSet, BitVec.toNat_ofNat]
    simp only [AllocModifyHeaderContextIn.numOfActions]
    omega
  · have hlength : (modifyInLen attr - AllocModifyHeaderContextIn.bytes)
        / SetAddCopyActionInAuto.bytes = attr.actions.length := by
      rw [modifyInLen, Nat.add_sub_cancel_left]
      apply Nat.mul_div_cancel_left
      decide
    rw [decodeActions, hlength]
    apply map_range_of_getElem?
    intro i a ha
    apply decodeEntry_fillEntries _ _ ha
    apply h a (List.mem_of_getElem? ha)

end FlowActionModify

/-! ### The encoder of a reformat action -/

namespace FlowActionReformat

/-- The steps of `alloc_reformat_insert_action`, when there is a header at `data`. -/
def insertSteps (attr : FlowActionReformatInsertAttr) (data : Memory) : List (Step Status) :=
  Step.sets 0 [(AllocPacketReformatContextIn.opcode, mlx5CmdOpAllocPacketReformatContext)]
    ++ (Step.sets AllocPacketReformatContextIn.packetReformatContext (insertFields attr)
      ++ [.copy reformatData (bytes data 0 attr.dataLen.toNat)])

/-- The mailbox of an insertion is filled by its steps. -/
theorem run_insertSteps (attr : FlowActionReformatInsertAttr) (data : Memory) :
  Step.run .ok (insertSteps attr data) zeros = (.ok, insertMailbox attr data)
  := by
  rw [insertSteps, run_ok_append, Step.run_sets, Result.andThen, run_ok_append, Step.run_sets]
  rfl

/-- All stores of the encoder lie in its buffer. -/
theorem within_insertSteps (attr : FlowActionReformatInsertAttr) (data : Memory) :
  Step.Within .ok (insertInLen attr) (insertSteps attr data)
  := by
  have hlen : AllocPacketReformatContextIn.bytes ≤ insertInLen attr := by
    simp only [insertInLen]
    omega
  simp only [AllocPacketReformatContextIn.bytes] at hlen
  apply Step.within_append
  · apply Step.within_sets 4
    · simp only [List.map]
      decide
    · omega
  apply Step.within_append
  · apply Step.within_sets 8
    · simp only [insertFields, List.map]
      decide
    · simp only [AllocPacketReformatContextIn.packetReformatContext]
      omega
  apply Step.within_copy
  · rw [length_bytes]
    apply Nat.le_of_lt (insertInLen_spec attr).2
  · apply Step.within_nil

end FlowActionReformat

/-! ### The three encoders -/

/-- An encoder with the steps `l` ends with the status `ret` and the memory `m`, and writes nothing
outside of its buffer of `inLen` bytes. -/
structure Fills (l : List (Step Status)) (inLen : Nat) (ret : Status) (m : Memory) : Prop where
  run : Step.run .ok l zeros = (ret, m)
  within : Step.Within .ok inLen l
  behind : ∀ i, inLen ≤ i → m i = 0

theorem Fills.of_run {l : List (Step Status)} {inLen : Nat} {ret : Status} {m : Memory}
    (hrun : Step.run .ok l zeros = (ret, m)) (hwithin : Step.Within .ok inLen l) :
  Fills l inLen ret m
  := by
  refine ⟨hrun, hwithin, ?_⟩
  intro i hi
  have hbehind := Step.run_of_within hwithin zeros hi
  rwa [hrun] at hbehind

/-- Whatever the actions, the destinations and the header of up to 1023 bytes are: each encoder
writes to its buffer only, and the buffer of a header is of whole words.  What is read back are the
actions, the destinations and the bytes of the header, in their order, and their number modulo the
width of its field.  A reformat action is valid exactly if the device has made an object of the
header. -/
theorem encoders_decode :
  (∀ a : FlowActionModify, ∃ ret m,
      a.preparePrmModifyBuff true
          = (ret, { a with mInlen := FlowActionModify.modifyInLen a.mAttr, mIn := some m })
        ∧ Fills (FlowActionModify.modifySteps a.mAttr) (FlowActionModify.modifyInLen a.mAttr) ret m
        ∧ (ret = .ok ↔ ∀ x ∈ a.mAttr.actions, FlowActionModify.IsSetOrCopy x)
        ∧ (ret = .ok →
          (devxGet m 0 AllocModifyHeaderContextIn.numOfActions).toNat
              = a.mAttr.actions.length % 2 ^ 8
            ∧ FlowActionModify.decodeActions m (FlowActionModify.modifyInLen a.mAttr)
              = a.mAttr.actions.map (fun x => some (FlowActionModify.narrowed x))
            ∧ ((∀ x ∈ a.mAttr.actions, FlowActionModify.NamesFields x) →
              FlowActionModify.decodeActions m (FlowActionModify.modifyInLen a.mAttr)
                = a.mAttr.actions.map some)))
    ∧ (∀ (r : FlowRuleExPrm) (env : Env) (order : List FlowAction),
      order.Perm r.mActions.entries → ∃ ret l m,
        r.mailbox env order = (ret, l, m)
          ∧ Fills (r.setFteSteps env order) r.inLen ret m
          ∧ (ret = .ok ↔ r.Applies env)
          ∧ (ret = .ok → ∀ a, .fwd a ∈ r.mActions.entries →
            (devxGet m SetFteIn.flowContext FlowContext.destinationListSize).toNat
                = a.mDests.length % 2 ^ 24
              ∧ FlowRuleExPrm.decodeDests m r.inLen
                = a.mDests.map fun dest => (dest.fwdType.value, dest.base.mId)))
    ∧ ∀ (attr : FlowActionReformatInsertAttr) (data : Memory), attr.data = some data → ∃ inLen m,
      FlowActionReformat.allocReformatInsertAction attr true = (.ok, inLen, some m)
        ∧ Fills (FlowActionReformat.insertSteps attr data) inLen .ok m
        ∧ inLen % 4 = 0
        ∧ (devxGet m AllocPacketReformatContextIn.packetReformatContext
          PacketReformatContextIn.reformatDataSize).toNat = attr.dataLen.toNat
        ∧ FlowActionReformat.insertedData m = bytes data 0 attr.dataLen.toNat
        ∧ ∀ ctx alloc device,
          (FlowActionReformat.new ctx (.insertHdr attr) alloc device).2.mIsValid = true
            ↔ alloc = true ∧ ((Obj.new ctx).create device (some m) inLen zeros
              AllocPacketReformatContextOut.bytes).1 = .ok
  := by
  refine ⟨?_, ?_, ?_⟩
  · intro a
    have hfills := Fills.of_run (Prod.eta (Step.run .ok (FlowActionModify.modifySteps a.mAttr)
      zeros)).symm (FlowActionModify.within_modifySteps a.mAttr)
    have hok := FlowActionModify.run_modifySteps_ok_iff a.mAttr
    refine ⟨_, _, FlowActionModify.preparePrmModifyBuff_eq_run a, hfills, hok, ?_⟩
    intro hret
    obtain ⟨hcount, hactions⟩ := FlowActionModify.decode_modifySteps (hok.mp hret)
    refine ⟨hcount, hactions, ?_⟩
    intro hnames
    rw [hactions]
    apply List.map_congr_left
    intro x hx
    rw [FlowActionModify.narrowed_of_namesFields (hnames x hx)]
  · intro r env order hperm
    have hfills := Fills.of_run (FlowRuleExPrm.run_setFteSteps r env order)
      (FlowRuleExPrm.within_setFteSteps env hperm)
    refine ⟨_, _, _, rfl, hfills, FlowRuleExPrm.mailbox_ok_iff hperm, ?_⟩
    intro hret a ha
    have hmailbox : r.mailbox env order
        = (.ok, (r.mailbox env order).2.1, (r.mailbox env order).2.2) := Prod.ext hret rfl
    constructor
    · apply (FlowRuleExPrm.decodes_of_mailbox hperm hmailbox).destListSize a ha
    · apply FlowRuleExPrm.decodeDests_of_mailbox hperm hmailbox ha
  · intro attr data hdata
    have hfills := Fills.of_run (FlowActionReformat.run_insertSteps attr data)
      (FlowActionReformat.within_insertSteps attr data)
    refine ⟨_, _, ?_, hfills, (FlowActionReformat.insertInLen_spec attr).1,
      FlowActionReformat.dataSize_insertMailbox attr data,
      FlowActionReformat.insertedData_insertMailbox attr data, ?_⟩
    · rw [FlowActionReformat.allocReformatInsertAction, hdata]
      rfl
    · intro ctx alloc device
      rw [FlowActionReformat.new_isValid_iff]
      constructor
      · rintro ⟨_, data', ⟨⟩, hdata', halloc, hok⟩
        obtain rfl : data' = data := Option.some.inj (hdata'.symm.trans hdata)
        exact ⟨halloc, hok⟩
      · rintro ⟨halloc, hok⟩
        exact ⟨attr, data, rfl, hdata, halloc, hok⟩

end Dpcp
