import Dpcp.Obj

/-!
# The modify-header action

A `flow_action_modify` encodes its list of actions twice.  `preparePrmModifyBuff` writes
the entries of an `ALLOC_MODIFY_HEADER_CONTEXT` mailbox field by field; it serves the rules
of a PRM table.  `prepareFlowDescBuffs` fills an array of `dcmd::modify_action`, host
bit-fields whose words are then put in network order; it serves the rules of a root table.

Both produce 8 bytes an action.  The entry of the root table is the PRM entry of the action
with the source and the destination of a copy exchanged.
-/

namespace Dcmd

open Bits

/-- A bit-field of a 32-bit unit, counted from the low end of the unit: the layout GCC
gives a `uint32_t` bit-field on a little-endian host. -/
structure BitField where
  lo : Nat
  size : Nat
  within : lo + size ≤ 32

/-- The PRM field a bit-field of word `word` of a structure becomes when the word is put in
network order. -/
def BitField.toField (f : BitField) (word : Nat) : Field where
  offset := 32 * word + (32 - f.lo - f.size)
  size := f.size
  within := by
    have := f.within
    omega

/-- The assignment of `v` to a bit-field of the unit at address `a`. -/
def setBitField (m : Memory) (a : Nat) (f : BitField) (v : BitVec 32) : Memory :=
  store32 m a (insertBits (load32 m a) f.lo f.size v)

namespace ModifyAction

/-- `sizeof(modify_action)`: the union `dst` and, after it, the union `src`. -/
def bytes : Nat := 8

def dst : Nat := 0
def src : Nat := 4

def dstLength : BitField := ⟨0, 5, by decide⟩
def dstOffset : BitField := ⟨8, 5, by decide⟩
def dstField : BitField := ⟨16, 12, by decide⟩
def dstActionType : BitField := ⟨28, 4, by decide⟩
def srcOffset : BitField := ⟨8, 5, by decide⟩
def srcField : BitField := ⟨16, 12, by decide⟩

def dstRsvd0 : BitField := ⟨5, 3, by decide⟩
def dstRsvd1 : BitField := ⟨13, 3, by decide⟩
def srcRsvd2 : BitField := ⟨0, 8, by decide⟩
def srcRsvd3 : BitField := ⟨13, 3, by decide⟩
def srcRsvd4 : BitField := ⟨28, 4, by decide⟩

end ModifyAction

end Dcmd

namespace Dpcp

open Bits Dcmd Prm

/-- `class flow_action_modify`. -/
structure FlowActionModify where
  base : Obj
  mAttr : FlowActionModifyAttr
  mIsValid : Bool
  mModifyId : BitVec 32
  mActionsRoot : Option Memory
  mOut : Memory
  mIn : Option Memory
  mInlen : Nat

namespace FlowActionModify

def mlx5ActionTypeSet : BitVec 32 := 0x1
def mlx5ActionTypeCopy : BitVec 32 := 0x3
def mlx5CmdOpAllocModifyHeaderContext : BitVec 32 := 0x940

/-! ### The mailbox of a PRM table -/

def applyModifySetAction (m : Memory) (p : Nat) (field : BitVec 32) (offset length : BitVec 5)
    (data : BitVec 32) : Memory :=
  let m := devxSet m p SetActionIn.actionType mlx5ActionTypeSet
  let m := devxSet m p SetActionIn.field field
  let m := devxSet m p SetActionIn.offset (offset.setWidth 32)
  let m := devxSet m p SetActionIn.length (length.setWidth 32)
  devxSet m p SetActionIn.data data

def applyModifyCopyAction (m : Memory) (p : Nat) (srcField : BitVec 32)
    (srcOffset length : BitVec 5) (dstField : BitVec 32) (dstOffset : BitVec 5) : Memory :=
  let m := devxSet m p CopyActionIn.actionType mlx5ActionTypeCopy
  let m := devxSet m p CopyActionIn.srcField srcField
  let m := devxSet m p CopyActionIn.srcOffset (srcOffset.setWidth 32)
  let m := devxSet m p CopyActionIn.length (length.setWidth 32)
  let m := devxSet m p CopyActionIn.dstField dstField
  devxSet m p CopyActionIn.dstOffset (dstOffset.setWidth 32)

/-- The loop of `prepare_prm_modify_buff`, at the entry `currAction`. -/
def applyModifyActions (m : Memory) (currAction : Nat) :
    List FlowActionModifyTypeAttr → Result Memory
  | [] => (.ok, m)
  | .set field offset length data :: rest =>
      applyModifyActions (applyModifySetAction m currAction field offset length data)
        (currAction + SetAddCopyActionInAuto.bytes) rest
  | .copy srcField srcOffset length dstField dstOffset :: rest =>
      applyModifyActions
        (applyModifyCopyAction m currAction srcField srcOffset length dstField dstOffset)
        (currAction + SetAddCopyActionInAuto.bytes) rest
  | .other _ :: _ => (.errNoSupport, m)

/-- `prepare_prm_modify_buff`; `alloc` tells whether the mailbox could be allocated. -/
def preparePrmModifyBuff (a : FlowActionModify) (alloc : Bool) : Result FlowActionModify :=
  let inlen := AllocModifyHeaderContextIn.bytes
    + SetAddCopyActionInAuto.bytes * a.mAttr.actions.length
  if alloc then
    let m := zeros
    let m := devxSet m 0 AllocModifyHeaderContextIn.opcode mlx5CmdOpAllocModifyHeaderContext
    let m := devxSet m 0 AllocModifyHeaderContextIn.tableType a.mAttr.tableType
    let m := devxSet m 0 AllocModifyHeaderContextIn.numOfActions
      (BitVec.ofNat 32 a.mAttr.actions.length)
    let (ret, m) := applyModifyActions m AllocModifyHeaderContextIn.actions a.mAttr.actions
    (ret, { a with mInlen := inlen, mIn := some m })
  else
    (.errNoMemory, { a with mInlen := inlen, mIn := none })

/-- `create_prm_modify`. -/
def createPrmModify (a : FlowActionModify) (alloc : Bool) (device : Device) :
    Result FlowActionModify :=
  (a.preparePrmModifyBuff alloc).andThen fun a =>
    let (ret, base, out) := a.base.create device a.mIn a.mInlen a.mOut
      AllocModifyHeaderContextOut.bytes
    let a := { a with base := base, mOut := out }
    match ret with
    | .ok =>
        (.ok, { a with
          mModifyId := devxGet out 0 AllocModifyHeaderContextOut.modifyHeaderId
          mIsValid := true })
    | ret => (ret, a)

/-! ### The description of a root table -/

/-- The words of the entry at `p` put in network order. -/
def entryToBe (m : Memory) (p : Nat) : Memory :=
  let m := store32 m (p + ModifyAction.dst) (bswap32 (load32 m (p + ModifyAction.dst)))
  store32 m (p + ModifyAction.src) (bswap32 (load32 m (p + ModifyAction.src)))

def setRootEntry (m : Memory) (p : Nat) (field : BitVec 32) (offset length : BitVec 5)
    (data : BitVec 32) : Memory :=
  let m := setBitField m (p + ModifyAction.dst) ModifyAction.dstActionType mlx5ActionTypeSet
  let m := setBitField m (p + ModifyAction.dst) ModifyAction.dstField field
  let m := setBitField m (p + ModifyAction.dst) ModifyAction.dstLength (length.setWidth 32)
  let m := setBitField m (p + ModifyAction.dst) ModifyAction.dstOffset (offset.setWidth 32)
  let m := store32 m (p + ModifyAction.src) data
  entryToBe m p

def copyRootEntry (m : Memory) (p : Nat) (srcField : BitVec 32) (srcOffset length : BitVec 5)
    (dstField : BitVec 32) (dstOffset : BitVec 5) : Memory :=
  let m := setBitField m (p + ModifyAction.dst) ModifyAction.dstActionType mlx5ActionTypeCopy
  let m := setBitField m (p + ModifyAction.dst) ModifyAction.dstField dstField
  let m := setBitField m (p + ModifyAction.dst) ModifyAction.dstLength (length.setWidth 32)
  let m := setBitField m (p + ModifyAction.dst) ModifyAction.dstOffset (dstOffset.setWidth 32)
  let m := setBitField m (p + ModifyAction.src) ModifyAction.srcField srcField
  let m := setBitField m (p + ModifyAction.src) ModifyAction.srcOffset (srcOffset.setWidth 32)
  entryToBe m p

/-- The loop of `prepare_flow_desc_buffs`, at the entry `p`. -/
def fillRootEntries (m : Memory) (p : Nat) : List FlowActionModifyTypeAttr → Result Memory
  | [] => (.ok, m)
  | .set field offset length data :: rest =>
      fillRootEntries (setRootEntry m p field offset length data) (p + ModifyAction.bytes) rest
  | .copy srcField srcOffset length dstField dstOffset :: rest =>
      fillRootEntries (copyRootEntry m p srcField srcOffset length dstField dstOffset)
        (p + ModifyAction.bytes) rest
  | .other _ :: _ => (.errNoSupport, m)

/-- `prepare_flow_desc_buffs`; `heap` is the memory the allocation of the array returns,
with its prior contents. -/
def prepareFlowDescBuffs (a : FlowActionModify) (heap : Option Memory) :
    Result FlowActionModify :=
  match heap with
  | none => (.errNoMemory, a)
  | some m =>
      match fillRootEntries m 0 a.mAttr.actions with
      | (.ok, m) => (.ok, { a with mActionsRoot := some m })
      | (ret, _) => (ret, a)

/-- The mailbox is made; the rest of the action stays as it is. -/
theorem preparePrmModifyBuff_eq (a : FlowActionModify) (alloc : Bool) :
  (a.preparePrmModifyBuff alloc).2 =
    { a with
      mIn := (a.preparePrmModifyBuff alloc).2.mIn
      mInlen := (a.preparePrmModifyBuff alloc).2.mInlen }
  := by
  cases alloc <;> rfl

/-- The array is made, or everything stays as it is. -/
theorem prepareFlowDescBuffs_cases (a : FlowActionModify) (heap : Option Memory) :
  (∃ m, a.prepareFlowDescBuffs heap = (.ok, { a with mActionsRoot := some m }))
    ∨ ∃ ret, ret ≠ .ok ∧ a.prepareFlowDescBuffs heap = (ret, a)
  := by
  cases heap with
  | none => exact Or.inr ⟨.errNoMemory, by decide, rfl⟩
  | some m =>
      rw [prepareFlowDescBuffs]
      rcases fillRootEntries m 0 a.mAttr.actions with ⟨ret, m⟩
      cases ret with
      | ok => exact Or.inl ⟨m, rfl⟩
      | _ => exact Or.inr ⟨_, by decide, rfl⟩

/-! ### The fields of an entry -/

/-- The fields of the PRM entry of an action, with their values. -/
def entryFields : FlowActionModifyTypeAttr → List (Field × BitVec 32)
  | .set field offset length data =>
      [(SetActionIn.actionType, mlx5ActionTypeSet), (SetActionIn.field, field),
        (SetActionIn.offset, offset.setWidth 32), (SetActionIn.length, length.setWidth 32),
        (SetActionIn.data, data)]
  | .copy srcField srcOffset length dstField dstOffset =>
      [(CopyActionIn.actionType, mlx5ActionTypeCopy), (CopyActionIn.srcField, srcField),
        (CopyActionIn.srcOffset, srcOffset.setWidth 32),
        (CopyActionIn.length, length.setWidth 32), (CopyActionIn.dstField, dstField),
        (CopyActionIn.dstOffset, dstOffset.setWidth 32)]
  | .other _ => []

/-- The writes that make the PRM entry of an action at `p`. -/
def writes (p : Nat) (a : FlowActionModifyTypeAttr) : List Write :=
  Field.writes p (entryFields a)

/-- The action with the source and the destination of a copy exchanged. -/
def exchanged : FlowActionModifyTypeAttr → FlowActionModifyTypeAttr
  | .copy srcField srcOffset length dstField dstOffset =>
      .copy dstField dstOffset length srcField srcOffset
  | a => a

theorem writes_disjoint (p : Nat) (a : FlowActionModifyTypeAttr) :
  (writes p a).Pairwise Write.Disjoint
  := by
  apply Field.writes_disjoint
  cases a <;> simp only [entryFields, List.map] <;> decide

/-- The writes of an entry lie in its 8 bytes. -/
theorem writes_within {p : Nat} {a : FlowActionModifyTypeAttr} {w : Write} (hw : w ∈ writes p a)
    {j : Nat} (hj : w.Covers j) :
  8 * p ≤ j ∧ j < 8 * p + 64
  := by
  apply Field.writes_within _ hw hj
  cases a <;> simp only [entryFields, List.map] <;> decide

/-! ### The entries of a PRM table -/

/-- The entry of one action in the mailbox. -/
def applyModifyAction (m : Memory) (p : Nat) : FlowActionModifyTypeAttr → Memory
  | .set field offset length data => applyModifySetAction m p field offset length data
  | .copy srcField srcOffset length dstField dstOffset =>
      applyModifyCopyAction m p srcField srcOffset length dstField dstOffset
  | .other _ => m

/-- The entry of an action is made by the writes of its fields. -/
theorem bit_applyModifyAction (m : Memory) (p : Nat) (a : FlowActionModifyTypeAttr) :
  bit (applyModifyAction m p a) = puts (bit m) (writes p a)
  := by
  cases a with
  | set =>
      simp only [applyModifyAction, applyModifySetAction, bit_devxSet, writes, entryFields,
        Field.writes, List.map, puts_cons, puts_nil]
  | copy =>
      simp only [applyModifyAction, applyModifyCopyAction, bit_devxSet, writes, entryFields,
        Field.writes, List.map, puts_cons, puts_nil]
  | other => rfl

/-! ### The entries of a root table -/

/-- Word `word` of an entry in network order: its bits are those of the host word, most
significant first. -/
theorem bit_entryToBe (m : Memory) (p : Nat) {word k : Nat} (hword : word < 2) (hk : k < 32) :
  bit (entryToBe m p) (8 * p + 32 * word + k) = (load32 m (p + 4 * word)).getLsbD (31 - k)
  := by
  simp only [entryToBe, bit_store32_bswap32, ModifyAction.dst, ModifyAction.src, putBits]
  by_cases h : word = 0
  · subst h
    rw [if_neg (by omega), if_pos (by omega)]
    congr 1
    omega
  · obtain rfl : word = 1 := by omega
    rw [if_pos (by omega), load32_store32_of_disjoint _ _ (by omega)]
    congr 1
    omega

theorem bit_entryToBe_of_outside (m : Memory) {p j : Nat} (h : j < 8 * p ∨ 8 * p + 64 ≤ j) :
  bit (entryToBe m p) j = bit m j
  := by
  simp only [entryToBe, ModifyAction.dst, ModifyAction.src]
  rw [bit_store32_of_outside _ _ (by omega), bit_store32_of_outside _ _ (by omega)]

/-- Replacing bits of a host word and then putting the entry in network order is putting
it in network order and then writing a PRM field. -/
theorem bit_entryToBe_setBitField (m : Memory) (p word : Nat) (hword : word < 2)
    (f : BitField) (v : BitVec 32) :
  bit (entryToBe (setBitField m (p + 4 * word) f v) p)
    = Write.put (bit (entryToBe m p)) ((f.toField word).write p v)
  := by
  have hwithin := f.within
  funext j
  rw [setBitField]
  by_cases hentry : j < 8 * p ∨ 8 * p + 64 ≤ j
  · have hcovers : ¬ ((f.toField word).write p v).Covers j := by
      simp only [Write.Covers, Field.write, BitField.toField]
      omega
    rw [Write.put_of_not_covers _ hcovers, bit_entryToBe_of_outside _ hentry,
      bit_entryToBe_of_outside _ hentry, bit_store32_of_outside _ _ (by omega)]
  · obtain ⟨word', k, hword', hk, rfl⟩ :
        ∃ word' k, word' < 2 ∧ k < 32 ∧ j = 8 * p + 32 * word' + k := by
      use (j - 8 * p) / 32, (j - 8 * p) % 32
      omega
    rw [bit_entryToBe _ _ hword' hk]
    by_cases hcovers : ((f.toField word).write p v).Covers (8 * p + 32 * word' + k)
    · rw [Write.put_of_covers _ hcovers]
      simp only [Write.Covers, Field.write, BitField.toField] at hcovers
      obtain rfl : word' = word := by omega
      rw [load32_store32, getLsbD_insertBits _ _ (by omega) (by omega), if_pos (by omega)]
      simp only [Field.write, BitField.toField]
      congr 1
      omega
    · rw [Write.put_of_not_covers _ hcovers, bit_entryToBe _ _ hword' hk]
      simp only [Write.Covers, Field.write, BitField.toField] at hcovers
      by_cases hsame : word' = word
      · subst hsame
        rw [load32_store32, getLsbD_insertBits _ _ (by omega) (by omega), if_neg (by omega)]
      · rw [load32_store32_of_disjoint _ _ (by omega)]

theorem bit_entryToBe_setDst (m : Memory) (p : Nat) (f : BitField) (v : BitVec 32) :
  bit (entryToBe (setBitField m (p + ModifyAction.dst) f v) p)
    = Write.put (bit (entryToBe m p)) ((f.toField 0).write p v)
  := bit_entryToBe_setBitField m p 0 (by decide) f v

theorem bit_entryToBe_setSrc (m : Memory) (p : Nat) (f : BitField) (v : BitVec 32) :
  bit (entryToBe (setBitField m (p + ModifyAction.src) f v) p)
    = Write.put (bit (entryToBe m p)) ((f.toField 1).write p v)
  := bit_entryToBe_setBitField m p 1 (by decide) f v

theorem bit_entryToBe_srcData (m : Memory) (p : Nat) (data : BitVec 32) :
  bit (entryToBe (store32 m (p + ModifyAction.src) data) p)
    = Write.put (bit (entryToBe m p)) (SetActionIn.data.write p data)
  := by
  have h := bit_entryToBe_setSrc m p ⟨0, 32, by decide⟩ data
  rw [setBitField, insertBits_all] at h
  apply h

/-- The entry of one action in the description of a root table. -/
def rootEntry (m : Memory) (p : Nat) : FlowActionModifyTypeAttr → Memory
  | .set field offset length data => setRootEntry m p field offset length data
  | .copy srcField srcOffset length dstField dstOffset =>
      copyRootEntry m p srcField srcOffset length dstField dstOffset
  | .other _ => entryToBe m p

/-- The two encoders write the length and the offset in different orders. -/
theorem put_dstLength_dstOffset (s : Nat → Bool) (p : Nat) (length offset : BitVec 32) :
  Write.put (Write.put s ((ModifyAction.dstLength.toField 0).write p length))
      ((ModifyAction.dstOffset.toField 0).write p offset)
    = Write.put (Write.put s ((ModifyAction.dstOffset.toField 0).write p offset))
      ((ModifyAction.dstLength.toField 0).write p length)
  := by
  apply Write.put_comm
  apply Field.Disjoint.write
  decide

/-- The root entry of an action is made by the writes of the PRM entry of the action with
its source and destination exchanged. -/
theorem bit_rootEntry (m : Memory) (p : Nat) (a : FlowActionModifyTypeAttr) :
  bit (rootEntry m p a) = puts (bit (entryToBe m p)) (writes p (exchanged a))
  := by
  cases a with
  | set =>
      simp only [rootEntry, setRootEntry, bit_entryToBe_srcData, bit_entryToBe_setDst]
      rw [put_dstLength_dstOffset]
      rfl
  | copy =>
      simp only [rootEntry, copyRootEntry, bit_entryToBe_setSrc, bit_entryToBe_setDst]
      rw [put_dstLength_dstOffset]
      rfl
  | other => rfl

/-! ### The two loops -/

/-- Fills consecutive 8-byte entries from `p` on, the entry of `a` by `step _ _ a`. -/
def fillEntries (step : Memory → Nat → FlowActionModifyTypeAttr → Memory) (m : Memory) (p : Nat) :
    List FlowActionModifyTypeAttr → Memory
  | [] => m
  | a :: rest => fillEntries step (step m p a) (p + 8) rest

section Loops

variable {step : Memory → Nat → FlowActionModifyTypeAttr → Memory}
variable (hstep : ∀ m p a j, j < 8 * p ∨ 8 * p + 64 ≤ j → bit (step m p a) j = bit m j)

include hstep

/-- Filling entries does not change what comes before them. -/
theorem bit_fillEntries_of_lt (m : Memory) (p : Nat) (l : List FlowActionModifyTypeAttr) {j : Nat}
    (hj : j < 8 * p) :
  bit (fillEntries step m p l) j = bit m j
  := by
  induction l generalizing m p with
  | nil => rfl
  | cons a rest ih =>
      rw [fillEntries, ih _ _ (by omega), hstep _ _ _ _ (by omega)]

/-- Each filled entry is the result of one step, on a memory that is still as it was from the entry
on. -/
theorem bit_fillEntries (m : Memory) (p : Nat) {l : List FlowActionModifyTypeAttr} {i : Nat}
    {a : FlowActionModifyTypeAttr} (ha : l[i]? = some a) :
  ∃ m', (∀ j, 8 * (p + 8 * i) ≤ j → bit m' j = bit m j) ∧ ∀ b < 64,
    bit (fillEntries step m p l) (8 * (p + 8 * i) + b)
      = bit (step m' (p + 8 * i) a) (8 * (p + 8 * i) + b)
  := by
  induction l generalizing m p i with
  | nil => simp at ha
  | cons a' rest ih =>
      rw [fillEntries]
      cases i with
      | zero =>
          obtain rfl : a' = a := by simpa using ha
          refine ⟨m, fun j _ => rfl, ?_⟩
          intro b hb
          rw [bit_fillEntries_of_lt hstep _ _ _ (by omega)]
          rfl
      | succ i =>
          obtain ⟨m', hsame, hm'⟩ := ih (step m p a') (p + 8) (by simpa using ha)
          have hpos : p + 8 * (i + 1) = p + 8 + 8 * i := by omega
          rw [hpos]
          refine ⟨m', ?_, hm'⟩
          intro j hj
          rw [hsame j hj]
          apply hstep
          omega

end Loops

/-- The actions `flow_action_modify` knows. -/
def IsSetOrCopy : FlowActionModifyTypeAttr → Prop
  | .other _ => False
  | _ => True

instance : DecidablePred IsSetOrCopy
  | .set .. => isTrue trivial
  | .copy .. => isTrue trivial
  | .other _ => isFalse id

/-- A loop that fills the entry of each known action succeeds on known actions. -/
theorem loop_eq {loop : Memory → Nat → List FlowActionModifyTypeAttr → Result Memory}
    {entry : Memory → Nat → FlowActionModifyTypeAttr → Memory}
    (hnil : ∀ m p, loop m p [] = (.ok, m))
    (hcons : ∀ m p a rest, IsSetOrCopy a → loop m p (a :: rest) = loop (entry m p a) (p + 8) rest)
    {l : List FlowActionModifyTypeAttr} (h : ∀ a ∈ l, IsSetOrCopy a) {m : Memory} {p : Nat} :
  loop m p l = (.ok, fillEntries entry m p l)
  := by
  induction l generalizing m p with
  | nil => apply hnil
  | cons a rest ih =>
      rw [hcons m p a rest (h a List.mem_cons_self), fillEntries]
      apply ih
      intro x hx
      apply h x (List.mem_cons_of_mem a hx)

/-- On known actions the loop of `prepare_prm_modify_buff` succeeds and fills the entries. -/
theorem applyModifyActions_eq (m : Memory) (p : Nat) {l : List FlowActionModifyTypeAttr}
    (h : ∀ a ∈ l, IsSetOrCopy a) :
  applyModifyActions m p l = (.ok, fillEntries applyModifyAction m p l)
  := by
  apply loop_eq (fun _ _ => rfl) _ h
  intro m p a rest ha
  cases a with
  | set => rfl
  | copy => rfl
  | other => cases ha

/-- On known actions the loop of `prepare_flow_desc_buffs` succeeds and fills the entries. -/
theorem fillRootEntries_eq (m : Memory) (p : Nat) {l : List FlowActionModifyTypeAttr}
    (h : ∀ a ∈ l, IsSetOrCopy a) :
  fillRootEntries m p l = (.ok, fillEntries rootEntry m p l)
  := by
  apply loop_eq (fun _ _ => rfl) _ h
  intro m p a rest ha
  cases a with
  | set => rfl
  | copy => rfl
  | other => cases ha

theorem bit_applyModifyAction_of_outside (m : Memory) (p : Nat) (a : FlowActionModifyTypeAttr)
    (j : Nat) (hj : j < 8 * p ∨ 8 * p + 64 ≤ j) :
  bit (applyModifyAction m p a) j = bit m j
  := by
  rw [bit_applyModifyAction]
  apply puts_of_not_covers
  intro w hw hcovers
  have := writes_within hw hcovers
  omega

theorem bit_rootEntry_of_outside (m : Memory) (p : Nat) (a : FlowActionModifyTypeAttr)
    (j : Nat) (hj : j < 8 * p ∨ 8 * p + 64 ≤ j) :
  bit (rootEntry m p a) j = bit m j
  := by
  rw [bit_rootEntry, ← bit_entryToBe_of_outside m hj]
  apply puts_of_not_covers
  intro w hw hcovers
  have := writes_within hw hcovers
  omega

/-! ### Comparing the two encodings -/

/-- Bit `b` of the PRM entry of an action belongs to a field: it is not reserved. -/
def Named (a : FlowActionModifyTypeAttr) (b : Nat) : Prop :=
  ∃ fv ∈ entryFields a, fv.1.offset ≤ b ∧ b < fv.1.offset + fv.1.size

/-- The entries of a root table and of the mailbox of a PRM table are equal, entry by entry,
on every bit that is not reserved. -/
def EntriesAgree (l : List FlowActionModifyTypeAttr) (root prm : Memory) : Prop :=
  ∀ i a, l[i]? = some a → ∀ b < 64, Named a b →
    bit root (8 * (ModifyAction.bytes * i) + b)
      = bit prm (8 * (AllocModifyHeaderContextIn.actions + SetAddCopyActionInAuto.bytes * i) + b)

/-- A copy of a field to itself, at the same offset, as far as the 12 bits of a field number
tell; a set is none to be compared. -/
def CopiesToItself : FlowActionModifyTypeAttr → Prop
  | .copy srcField srcOffset _ dstField dstOffset =>
      srcField.setWidth 12 = dstField.setWidth 12 ∧ srcOffset = dstOffset
  | _ => True

/-- After the writes of an entry, the bits of a field are those of its value. -/
theorem puts_writes_field (s : Nat → Bool) (p : Nat) {a : FlowActionModifyTypeAttr}
    {f : Field} {v : BitVec 32} (hf : (f, v) ∈ entryFields a) {b : Nat} (hb : f.offset ≤ b)
    (hb' : b < f.offset + f.size) :
  puts s (writes p a) (8 * p + b) = v.getLsbD (f.offset + f.size - 1 - b)
  := by
  have hmem : f.write p v ∈ writes p a := List.mem_map_of_mem hf
  have hcovers : (f.write p v).Covers (8 * p + b) := by
    simp only [Write.Covers, Field.write]
    omega
  rw [puts_of_mem _ (writes_disjoint p a) hmem hcovers]
  simp only [Field.write]
  congr 1
  omega

/-- Exchanging the ends of a copy of a field to itself leaves the value of every field as it
was, up to the width of the field. -/
theorem exchanged_of_copiesToItself {a : FlowActionModifyTypeAttr} (h : CopiesToItself a)
    {f : Field} {v : BitVec 32} (hf : (f, v) ∈ entryFields a) :
  ∃ v', (f, v') ∈ entryFields (exchanged a) ∧ ∀ k < f.size, v'.getLsbD k = v.getLsbD k
  := by
  cases a with
  | set =>
      use v
      simp [exchanged, hf]
  | copy srcField srcOffset length dstField dstOffset =>
      obtain ⟨hfield, rfl⟩ := h
      have hbits : ∀ k < 12, srcField.getLsbD k = dstField.getLsbD k := by
        intro k hk
        have := congrArg (fun x => x.getLsbD k) hfield
        simpa [hk] using this
      simp only [entryFields, List.mem_cons, List.not_mem_nil, or_false, Prod.mk.injEq] at hf
      rcases hf with ⟨rfl, rfl⟩ | ⟨rfl, rfl⟩ | ⟨rfl, rfl⟩ | ⟨rfl, rfl⟩ | ⟨rfl, rfl⟩ | ⟨rfl, rfl⟩
      · use mlx5ActionTypeCopy
        simp [exchanged, entryFields]
      · use dstField
        simp [exchanged, entryFields]
        intro k hk
        rw [hbits k hk]
      · use srcOffset.setWidth 32
        simp [exchanged, entryFields]
      · use length.setWidth 32
        simp [exchanged, entryFields]
      · use srcField
        simp [exchanged, entryFields]
        apply hbits
      · use srcOffset.setWidth 32
        simp [exchanged, entryFields]
  | other => cases hf

/-- The two encodings of one action agree exactly when it copies a field to itself, or is
no copy. -/
theorem entry_agrees_iff (m m' : Memory) (p q : Nat) (a : FlowActionModifyTypeAttr) :
  (∀ b < 64, Named a b →
      bit (rootEntry m p a) (8 * p + b) = bit (applyModifyAction m' q a) (8 * q + b))
    ↔ CopiesToItself a
  := by
  rw [bit_rootEntry, bit_applyModifyAction]
  constructor
  · intro h
    -- A field present in both entries has the same value in both, bit by bit.
    have hfields : ∀ f v v', (f, v) ∈ entryFields a → (f, v') ∈ entryFields (exchanged a) →
        f.offset + f.size ≤ 64 → ∀ k < f.size, v'.getLsbD k = v.getLsbD k := by
      intro f v v' hf hf' hwithin k hk
      have hbit := h (f.offset + f.size - 1 - k) (by omega) ⟨(f, v), hf, by simp only []; omega⟩
      rw [puts_writes_field _ _ hf' (by omega) (by omega),
        puts_writes_field _ _ hf (by omega) (by omega)] at hbit
      have hk' : f.offset + f.size - 1 - (f.offset + f.size - 1 - k) = k := by omega
      rwa [hk'] at hbit
    cases a with
    | set => trivial
    | other => trivial
    | copy srcField srcOffset length dstField dstOffset =>
        constructor
        · have hsrc := hfields CopyActionIn.srcField srcField dstField
            (by simp [entryFields]) (by simp [exchanged, entryFields]) (by decide)
          apply BitVec.eq_of_getLsbD_eq
          intro k hk
          have := hsrc k hk
          simp [hk, this]
        · have hsrc := hfields CopyActionIn.srcOffset (srcOffset.setWidth 32)
            (dstOffset.setWidth 32)
            (by simp [entryFields]) (by simp [exchanged, entryFields]) (by decide)
          apply BitVec.eq_of_getLsbD_eq
          intro k hk
          have hbit := hsrc k hk
          have hk' : k < 32 := by omega
          simpa [hk'] using hbit.symm
  · rintro h b hb ⟨⟨f, v⟩, hf, hlo, hhi⟩
    obtain ⟨v', hf', hbits⟩ := exchanged_of_copiesToItself h hf
    simp only [] at hlo hhi
    rw [puts_writes_field _ _ hf' hlo hhi, puts_writes_field _ _ hf hlo hhi,
      hbits _ (by omega)]

/-- The filled entries agree exactly when every copy of the list copies a field to itself. -/
theorem entriesAgree_fillEntries (m m' : Memory) (l : List FlowActionModifyTypeAttr) :
  EntriesAgree l (fillEntries rootEntry m 0 l)
      (fillEntries applyModifyAction m' AllocModifyHeaderContextIn.actions l)
    ↔ ∀ x ∈ l, CopiesToItself x
  := by
  have hroot := fun i x (hx : l[i]? = some x) =>
    bit_fillEntries bit_rootEntry_of_outside m 0 hx
  have hprm := fun i x (hx : l[i]? = some x) =>
    bit_fillEntries bit_applyModifyAction_of_outside m' AllocModifyHeaderContextIn.actions hx
  constructor
  · intro h x hx
    obtain ⟨i, hi⟩ := List.mem_iff_getElem?.mp hx
    obtain ⟨m₁, -, hm₁⟩ := hroot i x hi
    obtain ⟨m₂, -, hm₂⟩ := hprm i x hi
    rw [← entry_agrees_iff m₁ m₂ (0 + 8 * i) (AllocModifyHeaderContextIn.actions + 8 * i) x]
    intro b hb hnamed
    rw [← hm₁ b hb, ← hm₂ b hb, Nat.zero_add]
    apply h i x hi b hb hnamed
  · intro h i x hi b hb hnamed
    obtain ⟨m₁, -, hm₁⟩ := hroot i x hi
    obtain ⟨m₂, -, hm₂⟩ := hprm i x hi
    have hagree := (entry_agrees_iff m₁ m₂ (0 + 8 * i) (AllocModifyHeaderContextIn.actions + 8 * i)
      x).mpr (h x (List.mem_of_getElem? hi)) b hb hnamed
    rw [← hm₁ b hb, ← hm₂ b hb, Nat.zero_add] at hagree
    apply hagree

/-- On known actions `prepare_prm_modify_buff` leaves their entries in the mailbox. -/
theorem preparePrmModifyBuff_ok (a : FlowActionModify)
    (h : ∀ x ∈ a.mAttr.actions, IsSetOrCopy x) :
  ∃ a₁ m, preparePrmModifyBuff a true = (.ok, a₁) ∧ a₁.mAttr = a.mAttr
    ∧ a₁.mIn = some (fillEntries applyModifyAction m AllocModifyHeaderContextIn.actions
      a.mAttr.actions)
  := by
  simp only [preparePrmModifyBuff, if_true, applyModifyActions_eq _ _ h]
  refine ⟨_, _, rfl, rfl, rfl⟩

/-- On known actions `prepare_flow_desc_buffs` leaves their entries in the array. -/
theorem prepareFlowDescBuffs_ok (a : FlowActionModify) (heap : Memory)
    (h : ∀ x ∈ a.mAttr.actions, IsSetOrCopy x) :
  prepareFlowDescBuffs a (some heap)
    = (.ok, { a with mActionsRoot := some (fillEntries rootEntry heap 0 a.mAttr.actions) })
  := by
  simp only [prepareFlowDescBuffs, fillRootEntries_eq _ _ h]

/-- Both encoders succeed on every list of sets and copies, and their entries agree exactly
when every copy of the list copies a field to itself: the root entry of a copy has the
destination where the PRM layout has the source, and the source where it has the
destination. -/
theorem entriesAgree_iff (a : FlowActionModify) (heap : Memory)
    (h : ∀ x ∈ a.mAttr.actions, IsSetOrCopy x) :
  ∃ a₁ a₂ prm root,
    preparePrmModifyBuff a true = (.ok, a₁) ∧ a₁.mIn = some prm
      ∧ prepareFlowDescBuffs a₁ (some heap) = (.ok, a₂) ∧ a₂.mActionsRoot = some root
      ∧ (EntriesAgree a.mAttr.actions root prm ↔ ∀ x ∈ a.mAttr.actions, CopiesToItself x)
  := by
  obtain ⟨a₁, m, hprm, hattr, hin⟩ := preparePrmModifyBuff_ok a h
  have hroot := prepareFlowDescBuffs_ok a₁ heap (by rwa [hattr])
  refine ⟨a₁, _, _, _, hprm, hin, hroot, rfl, ?_⟩
  rw [hattr]
  apply entriesAgree_fillEntries

/-- A set of a metadata register and a copy of the UDP destination port to another one. -/
def setAndCopy : FlowActionModify where
  base := .new true
  mAttr := ⟨0, [.set 0x51 0 0 0xabcd, .copy 0xc 0 16 0x52 0]⟩
  mIsValid := false
  mModifyId := 0
  mActionsRoot := none
  mOut := zeros
  mIn := none
  mInlen := 0

theorem entriesAgree_iff_setAndCopy :
  (∀ x ∈ setAndCopy.mAttr.actions, IsSetOrCopy x) ∧ ∃ a₁ a₂ prm root,
    preparePrmModifyBuff setAndCopy true = (.ok, a₁) ∧ a₁.mIn = some prm
      ∧ prepareFlowDescBuffs a₁ (some zeros) = (.ok, a₂) ∧ a₂.mActionsRoot = some root
      ∧ (EntriesAgree setAndCopy.mAttr.actions root prm
          ↔ ∀ x ∈ setAndCopy.mAttr.actions, CopiesToItself x)
  := ⟨by decide, entriesAgree_iff setAndCopy zeros (by decide)⟩

/-- The copy of `setAndCopy` is encoded differently for the two kinds of table: bit 14 of its
entry is bit 1 of the field number `0x52` for a root table and of `0xc` for a PRM table. -/
theorem setAndCopy_not_entriesAgree :
  ∃ a₁ a₂ prm root,
    preparePrmModifyBuff setAndCopy true = (.ok, a₁) ∧ a₁.mIn = some prm
      ∧ prepareFlowDescBuffs a₁ (some zeros) = (.ok, a₂) ∧ a₂.mActionsRoot = some root
      ∧ ¬ EntriesAgree setAndCopy.mAttr.actions root prm
  := by
  refine ⟨_, _, _, _, rfl, rfl, rfl, rfl, ?_⟩
  intro h
  have hbit := h 1 (.copy 0xc 0 16 0x52 0) rfl 14 (by decide)
    ⟨(CopyActionIn.srcField, 0xc), by simp [entryFields], by decide⟩
  revert hbit
  decide +kernel

end FlowActionModify

end Dpcp
