import Dpcp.Flow.ActionModify

/-!
# The flow actions of a PRM table

Each action writes its part of a `SET_FLOW_TABLE_ENTRY` mailbox: the forward action the list of
destinations, the tag action the tag, the modify and the reformat actions an id, and all of
these but the tag set a bit of the mask `flow_context.action`.  A modify action allocates its
HW object the first time it is applied.

`prepare` is the part of `apply` that does not depend on the mailbox.  Once an action is
prepared, applying it makes the writes `writes` and no others.
-/

namespace Dpcp

open Bits Dcmd Prm

/-- `MLX5_FLOW_DESTINATION_TYPE_*`, the kinds of `forwardable_obj`. -/
inductive FwdType where
  | flowTable
  | tir
deriving DecidableEq

def FwdType.value : FwdType → BitVec 32
  | flowTable => 0x1
  | tir => 0x2

/-- `class forwardable_obj`. -/
structure ForwardableObj where
  base : Obj
  fwdType : FwdType

/-- `class flow_action_fwd`; `mRootActionFwd` tells whether the action of the root table was
created. -/
structure FlowActionFwd where
  mDests : List ForwardableObj
  mRootActionFwd : Bool

/-- `class flow_action_tag`. -/
structure FlowActionTag where
  mTagId : BitVec 32

/-- `class flow_action_reformat`. -/
structure FlowActionReformat where
  mIsValid : Bool
  mReformatId : BitVec 32

/-- A `flow_action`, by its dynamic type. -/
inductive FlowAction where
  | fwd (a : FlowActionFwd)
  | tag (a : FlowActionTag)
  | modify (a : FlowActionModify)
  | reformat (a : FlowActionReformat)
  | reparse

/-- The dynamic types of the flow actions, the `std::type_index` of an action. -/
inductive FlowActionType where
  | fwd
  | tag
  | modify
  | reformat
  | reparse
deriving DecidableEq

/-- What the environment does while actions are applied: whether the allocation of a mailbox
succeeds, and the device. -/
structure Env where
  alloc : Bool
  device : Device

/-- The numbers of the bits `MLX5_FLOW_CONTEXT_ACTION_*` of the mask of actions. -/
def fwdDestBit : Nat := 2
def packetReformatBit : Nat := 4
def modHdrBit : Nat := 6
def reparseBit : Nat := 15

/-- Sets a bit of `flow_context.action`, which is read, changed and written back. -/
def enableAction (m : Memory) (k : Nat) : Memory :=
  let actionEnabled := devxGet m SetFteIn.flowContext FlowContext.action
  devxSet m SetFteIn.flowContext FlowContext.action (actionEnabled ||| BitVec.twoPow 32 k)

namespace FlowActionFwd

/-- The loop of `flow_action_fwd::apply`, at the entry `currDest`. -/
def setDests (m : Memory) (currDest : Nat) : List ForwardableObj → Result Memory
  | [] => (.ok, m)
  | dest :: rest =>
      match dest.base.getId 0 with
      | (.ok, id) =>
          let m := devxSet m currDest DestFormatStruct.destinationId id
          let m := devxSet m currDest DestFormatStruct.destinationType dest.fwdType.value
          setDests m (currDest + DestFormatStruct.bytes) rest
      | (ret, _) => (ret, m)

/-- `flow_action_fwd::apply`. -/
def apply (a : FlowActionFwd) (m : Memory) : Result Memory :=
  (setDests m (SetFteIn.flowContext + FlowContext.destination) a.mDests).andThen fun m =>
    let m := enableAction m fwdDestBit
    (.ok, devxSet m SetFteIn.flowContext FlowContext.destinationListSize
      (BitVec.ofNat 32 a.mDests.length))

end FlowActionFwd

/-- `flow_action_tag::apply`. -/
def FlowActionTag.apply (a : FlowActionTag) (m : Memory) : Result Memory :=
  (.ok, devxSet m SetFteIn.flowContext FlowContext.flowTag a.mTagId)

/-- The part of `flow_action_modify::apply` that does not touch the mailbox: the HW object is
created unless it has been before. -/
def FlowActionModify.prepare (a : FlowActionModify) (env : Env) : Result FlowActionModify :=
  if !a.mIsValid then a.createPrmModify env.alloc env.device else (.ok, a)

/-- `flow_action_modify::apply`. -/
def FlowActionModify.apply (a : FlowActionModify) (env : Env) (m : Memory) :
    Status × FlowActionModify × Memory :=
  match a.prepare env with
  | (.ok, a) =>
      let m := enableAction m modHdrBit
      (.ok, a, devxSet m SetFteIn.flowContext FlowContext.modifyHeaderId a.mModifyId)
  | (ret, a) => (ret, a, m)

/-- `flow_action_reformat::apply`. -/
def FlowActionReformat.apply (a : FlowActionReformat) (m : Memory) : Result Memory :=
  if !a.mIsValid then
    (.errNotApplied, m)
  else
    let m := enableAction m packetReformatBit
    (.ok, devxSet m SetFteIn.flowContext FlowContext.packetReformatId a.mReformatId)

/-- `flow_action_reparse::apply`. -/
def FlowActionReparse.apply (m : Memory) : Result Memory :=
  (.ok, enableAction m reparseBit)

namespace FlowAction

def type : FlowAction → FlowActionType
  | fwd _ => .fwd
  | tag _ => .tag
  | modify _ => .modify
  | reformat _ => .reformat
  | reparse => .reparse

/-- The virtual `flow_action::apply` on a mailbox. -/
def apply (env : Env) (m : Memory) : FlowAction → Status × FlowAction × Memory
  | fwd a => let (ret, m) := a.apply m; (ret, fwd a, m)
  | tag a => let (ret, m) := a.apply m; (ret, tag a, m)
  | modify a => let (ret, a, m) := a.apply env m; (ret, modify a, m)
  | reformat a => let (ret, m) := a.apply m; (ret, reformat a, m)
  | reparse => let (ret, m) := FlowActionReparse.apply m; (ret, reparse, m)

/-! ### The writes of an action -/

/-- The write of bit `k` of the mask of actions. -/
def actionBit (k : Nat) : Write :=
  ⟨8 * SetFteIn.flowContext + FlowContext.action.offset + FlowContext.action.size - 1 - k, 1,
    fun _ => true⟩

theorem bit_enableAction (m : Memory) {k : Nat} (hk : k < 16) :
  bit (enableAction m k) = Write.put (bit m) (actionBit k)
  := bit_devxSet_or_twoPow m SetFteIn.flowContext FlowContext.action hk

/-- The writes of the destinations from `currDest` on. -/
def destWrites (currDest : Nat) : List ForwardableObj → List Write
  | [] => []
  | dest :: rest =>
      DestFormatStruct.destinationId.write currDest dest.base.mId
        :: DestFormatStruct.destinationType.write currDest dest.fwdType.value
        :: destWrites (currDest + DestFormatStruct.bytes) rest

/-- The writes of a prepared action to the fields of the flow context. -/
def fieldWrites : FlowAction → List Write
  | fwd a =>
      [actionBit fwdDestBit,
        FlowContext.destinationListSize.write SetFteIn.flowContext
          (BitVec.ofNat 32 a.mDests.length)]
  | tag a => [FlowContext.flowTag.write SetFteIn.flowContext a.mTagId]
  | modify a =>
      [actionBit modHdrBit, FlowContext.modifyHeaderId.write SetFteIn.flowContext a.mModifyId]
  | reformat a =>
      [actionBit packetReformatBit,
        FlowContext.packetReformatId.write SetFteIn.flowContext a.mReformatId]
  | reparse => [actionBit reparseBit]

/-- The destinations of an action; only the forward action has any. -/
def dests : FlowAction → List ForwardableObj
  | fwd a => a.mDests
  | _ => []

/-- The writes of a prepared action. -/
def writes (a : FlowAction) : List Write :=
  destWrites (SetFteIn.flowContext + FlowContext.destination) a.dests ++ a.fieldWrites

/-- `a'` is the action `a` as it is after a successful `apply`. -/
def Prepares (env : Env) (a a' : FlowAction) : Prop :=
  match a with
  | fwd f => (∀ dest ∈ f.mDests, dest.base.mObjHandle = true) ∧ a' = fwd f
  | tag t => a' = tag t
  | modify f => ∃ f', f.prepare env = (.ok, f') ∧ a' = modify f'
  | reformat f => f.mIsValid = true ∧ a' = reformat f
  | reparse => a' = reparse

theorem prepares_type {env : Env} {a a' : FlowAction} (h : Prepares env a a') :
  a'.type = a.type
  := by
  cases a with
  | fwd => rw [h.2]
  | tag => rw [h]
  | modify =>
      obtain ⟨f', -, rfl⟩ := h
      rfl
  | reformat => rw [h.2]
  | reparse => rw [h]

theorem setDests_of_handles (m : Memory) (p : Nat) {l : List ForwardableObj}
    (h : ∀ dest ∈ l, dest.base.mObjHandle = true) :
  ∃ m', FlowActionFwd.setDests m p l = (.ok, m') ∧ bit m' = puts (bit m) (destWrites p l)
  := by
  induction l generalizing m p with
  | nil => exact ⟨m, rfl, rfl⟩
  | cons dest rest ih =>
      have hdest := h dest List.mem_cons_self
      obtain ⟨m', hset, hbits⟩ := ih
        (devxSet (devxSet m p DestFormatStruct.destinationId dest.base.mId) p
          DestFormatStruct.destinationType dest.fwdType.value)
        (p + DestFormatStruct.bytes) (fun d hd => h d (List.mem_cons_of_mem dest hd))
      use m'
      constructor
      · rw [FlowActionFwd.setDests, Obj.getId, if_pos hdest]
        apply hset
      · rw [hbits]
        simp only [destWrites, puts_cons, bit_devxSet]

theorem handles_of_setDests {m m' : Memory} {p : Nat} {l : List ForwardableObj}
    (h : FlowActionFwd.setDests m p l = (.ok, m')) :
  ∀ dest ∈ l, dest.base.mObjHandle = true
  := by
  induction l generalizing m p with
  | nil => simp
  | cons dest rest ih =>
      cases hdest : dest.base.mObjHandle with
      | false => simp [FlowActionFwd.setDests, Obj.getId, hdest] at h
      | true =>
          simp only [FlowActionFwd.setDests, Obj.getId, hdest, if_true] at h
          intro d hd
          rcases List.mem_cons.mp hd with rfl | hd
          · apply hdest
          · apply ih h d hd

/-- Applying an action that can be prepared succeeds on every mailbox and makes its writes. -/
theorem apply_of_prepares {env : Env} {a a' : FlowAction} (h : Prepares env a a') (m : Memory) :
  ∃ m', a.apply env m = (.ok, a', m') ∧ bit m' = puts (bit m) a'.writes
  := by
  cases a with
  | fwd f =>
      obtain ⟨hdests, rfl⟩ := h
      obtain ⟨m₁, hset, hbits⟩ := setDests_of_handles m
        (SetFteIn.flowContext + FlowContext.destination) hdests
      use devxSet (enableAction m₁ fwdDestBit) SetFteIn.flowContext
          FlowContext.destinationListSize (BitVec.ofNat 32 f.mDests.length)
      constructor
      · simp only [apply, FlowActionFwd.apply, hset, Result.andThen]
      · rw [writes, puts_append]
        simp only [dests]
        rw [← hbits, bit_devxSet, bit_enableAction _ (by decide)]
        rfl
  | tag t =>
      obtain rfl : a' = tag t := h
      exact ⟨_, rfl, bit_devxSet _ _ _ _⟩
  | modify f =>
      obtain ⟨f', hprepare, rfl⟩ := h
      use devxSet (enableAction m modHdrBit) SetFteIn.flowContext
          FlowContext.modifyHeaderId f'.mModifyId
      constructor
      · simp only [apply, FlowActionModify.apply, hprepare]
      · rw [bit_devxSet, bit_enableAction _ (by decide)]
        rfl
  | reformat f =>
      obtain ⟨hvalid, rfl⟩ := h
      use devxSet (enableAction m packetReformatBit) SetFteIn.flowContext
          FlowContext.packetReformatId f.mReformatId
      constructor
      · simp [apply, FlowActionReformat.apply, hvalid]
      · rw [bit_devxSet, bit_enableAction _ (by decide)]
        rfl
  | reparse =>
      obtain rfl : a' = reparse := h
      exact ⟨_, rfl, bit_enableAction _ (by decide)⟩

/-- An action that was applied successfully could be prepared. -/
theorem prepares_of_apply {env : Env} {a a' : FlowAction} {m m' : Memory}
    (h : a.apply env m = (.ok, a', m')) :
  Prepares env a a'
  := by
  cases a with
  | fwd f =>
      simp only [apply, Prod.mk.injEq] at h
      obtain ⟨hret, rfl, -⟩ := h
      have happly : f.apply m = (.ok, (f.apply m).2) := Prod.ext hret rfl
      obtain ⟨m₁, hset, -⟩ := Result.andThen_eq_ok.mp happly
      apply And.intro (handles_of_setDests hset) rfl
  | tag t =>
      simp only [apply, Prod.mk.injEq] at h
      apply h.2.1.symm
  | modify f =>
      rcases hprepare : f.prepare env with ⟨ret, f'⟩
      cases ret <;>
        simp only [apply, FlowActionModify.apply, hprepare, Prod.mk.injEq, reduceCtorEq,
          false_and] at h
      exact ⟨f', hprepare, h.2.1.symm⟩
  | reformat f =>
      cases hvalid : f.mIsValid with
      | false => simp [apply, FlowActionReformat.apply, hvalid] at h
      | true =>
          simp only [apply, Prod.mk.injEq] at h
          apply And.intro hvalid h.2.1.symm
  | reparse =>
      simp only [apply, Prod.mk.injEq] at h
      apply h.2.1.symm

/-! ### The places of the writes -/

/-- Where the destinations start, in bits. -/
def destPos : Nat := 8 * (SetFteIn.flowContext + FlowContext.destination)

/-- The places of the writes of an action by its type, the destinations apart. -/
def spans : FlowActionType → List (Nat × Nat)
  | .fwd => [(0x27d, 1), (0x288, 0x18)]
  | .tag => [(0x248, 0x18)]
  | .modify => [(0x279, 1), (0x2e0, 0x20)]
  | .reformat => [(0x27b, 1), (0x2c0, 0x20)]
  | .reparse => [(0x270, 1)]

/-- Actions of different types have different places. -/
theorem spans_disjoint {t t' : FlowActionType} (h : t ≠ t') :
  ∀ x ∈ spans t, ∀ y ∈ spans t', x.1 + x.2 ≤ y.1 ∨ y.1 + y.2 ≤ x.1
  := by
  cases t <;> cases t' <;> first | contradiction | decide

/-- All places but the destinations lie between the group id and the match value. -/
theorem spans_within (t : FlowActionType) :
  ∀ x ∈ spans t, 0x248 ≤ x.1 ∧ x.1 + x.2 ≤ 0x300
  := by
  cases t <;> decide

/-- The writes of the destinations lie in their entries. -/
theorem destWrites_within {p : Nat} {l : List ForwardableObj} {w : Write}
    (hw : w ∈ destWrites p l) :
  w.Within (8 * p) (8 * p + 64 * l.length)
  := by
  induction l generalizing p with
  | nil => cases hw
  | cons dest rest ih =>
      rw [List.length_cons]
      rcases List.mem_cons.mp hw with rfl | hw
      · simp only [Write.Within, Field.write, DestFormatStruct.destinationId]
        omega
      · rcases List.mem_cons.mp hw with rfl | hw
        · simp only [Write.Within, Field.write, DestFormatStruct.destinationType]
          omega
        · apply (ih hw).mono
          · simp only [DestFormatStruct.bytes]
            omega
          · simp only [DestFormatStruct.bytes]
            omega

/-- The writes of one destination are among those of the list, at its entry. -/
theorem mem_destWrites (p : Nat) {l : List ForwardableObj} {i : Nat} {dest : ForwardableObj}
    (h : l[i]? = some dest) :
  DestFormatStruct.destinationId.write (p + DestFormatStruct.bytes * i) dest.base.mId
      ∈ destWrites p l
    ∧ DestFormatStruct.destinationType.write (p + DestFormatStruct.bytes * i) dest.fwdType.value
      ∈ destWrites p l
  := by
  induction l generalizing p i with
  | nil => simp at h
  | cons d rest ih =>
      cases i with
      | zero =>
          obtain rfl : d = dest := by simpa using h
          simp [destWrites]
      | succ i =>
          obtain ⟨hid, htype⟩ := ih (p + DestFormatStruct.bytes) (by simpa using h)
          have hpos : p + DestFormatStruct.bytes * (i + 1)
              = p + DestFormatStruct.bytes + DestFormatStruct.bytes * i := by
            rw [Nat.mul_add]
            omega
          rw [hpos]
          constructor
          · apply List.mem_cons_of_mem
            apply List.mem_cons_of_mem
            apply hid
          · apply List.mem_cons_of_mem
            apply List.mem_cons_of_mem
            apply htype

theorem destWrites_disjoint (p : Nat) (l : List ForwardableObj) :
  (destWrites p l).Pairwise Write.Disjoint
  := by
  induction l generalizing p with
  | nil => apply List.Pairwise.nil
  | cons dest rest ih =>
      have hid : (DestFormatStruct.destinationId.write p dest.base.mId).Within (8 * p + 0x8)
          (8 * p + 0x20) := by
        simp only [Write.Within, Field.write, DestFormatStruct.destinationId]
        omega
      have htype : (DestFormatStruct.destinationType.write p dest.fwdType.value).Within (8 * p)
          (8 * p + 0x8) := by
        simp only [Write.Within, Field.write, DestFormatStruct.destinationType]
        omega
      have hrest : ∀ w ∈ destWrites (p + DestFormatStruct.bytes) rest,
          w.Within (8 * p + 0x40) (8 * p + 0x40 + 64 * rest.length) := by
        intro w hw
        apply (destWrites_within hw).mono
        · simp only [DestFormatStruct.bytes]
          omega
        · simp only [DestFormatStruct.bytes]
          omega
      rw [destWrites, List.pairwise_cons, List.pairwise_cons]
      refine ⟨?_, ?_, ih _⟩
      · intro w hw
        rcases List.mem_cons.mp hw with rfl | hw
        · apply hid.disjoint htype
          omega
        · apply hid.disjoint (hrest w hw)
          omega
      · intro w hw
        apply htype.disjoint (hrest w hw)
        omega

theorem fieldWrites_spans (a : FlowAction) :
  a.fieldWrites.map Write.span = (spans a.type).map (fun t => (0 + t.1, t.2))
  := by
  cases a <;> rfl

/-- A write to a field of the flow context is at one of the places of the type. -/
theorem span_mem_of_fieldWrites {a : FlowAction} {w : Write} (hw : w ∈ a.fieldWrites) :
  w.span ∈ spans a.type
  := by
  have hspan : w.span ∈ a.fieldWrites.map Write.span := List.mem_map_of_mem hw
  rw [fieldWrites_spans] at hspan
  simpa using hspan

theorem fieldWrites_within {a : FlowAction} {w : Write} (hw : w ∈ a.fieldWrites) :
  w.Within 0x248 0x300
  := spans_within a.type _ (span_mem_of_fieldWrites hw)

theorem fieldWrites_disjoint (a : FlowAction) :
  a.fieldWrites.Pairwise Write.Disjoint
  := by
  apply disjoint_of_spans _ _ (fieldWrites_spans a)
  cases a <;> simp only [type] <;> decide

theorem dests_within {a : FlowAction} {w : Write}
    (hw : w ∈ destWrites (SetFteIn.flowContext + FlowContext.destination) a.dests) :
  w.Within destPos (destPos + 64 * a.dests.length)
  := destWrites_within hw

theorem writes_disjoint (a : FlowAction) :
  a.writes.Pairwise Write.Disjoint
  := by
  rw [writes, List.pairwise_append]
  refine ⟨destWrites_disjoint _ _, fieldWrites_disjoint a, ?_⟩
  intro w hw w' hw'
  apply (dests_within hw).disjoint (fieldWrites_within hw')
  simp only [destPos, SetFteIn.flowContext, FlowContext.destination]
  omega

/-- Only a forward action has destinations. -/
theorem dests_eq_nil {a : FlowAction} (h : a.type ≠ .fwd) :
  a.dests = []
  := by
  cases a with
  | fwd => contradiction
  | _ => rfl

/-- Actions of different types write different bits. -/
theorem writes_disjoint_of_type {a b : FlowAction} (h : a.type ≠ b.type) :
  ∀ w ∈ a.writes, ∀ w' ∈ b.writes, w.Disjoint w'
  := by
  intro w hw w' hw'
  rcases List.mem_append.mp hw with hw | hw <;> rcases List.mem_append.mp hw' with hw' | hw'
  · by_cases hfwd : a.type = .fwd
    · have hb : b.type ≠ .fwd := fun hb => h (hfwd.trans hb.symm)
      rw [dests_eq_nil hb] at hw'
      cases hw'
    · rw [dests_eq_nil hfwd] at hw
      cases hw
  · apply (dests_within hw).disjoint (fieldWrites_within hw')
    simp only [destPos, SetFteIn.flowContext, FlowContext.destination]
    omega
  · apply (fieldWrites_within hw).disjoint (dests_within hw')
    simp only [destPos, SetFteIn.flowContext, FlowContext.destination]
    omega
  · apply spans_disjoint h _ (span_mem_of_fieldWrites hw) _ (span_mem_of_fieldWrites hw')

/-! ### The mask of actions -/

/-- The bit of the mask an action of the type sets. -/
def maskBit : FlowActionType → Option Nat
  | .fwd => some fwdDestBit
  | .tag => none
  | .modify => some modHdrBit
  | .reformat => some packetReformatBit
  | .reparse => some reparseBit

/-- The flag `MLX5_FLOW_CONTEXT_ACTION_*` of a type; a tag has none. -/
def flag (t : FlowActionType) : BitVec 32 :=
  match maskBit t with
  | some k => BitVec.twoPow 32 k
  | none => 0

theorem getLsbD_flag {t : FlowActionType} {k : Nat} (hk : k < 32) :
  (flag t).getLsbD k = true ↔ maskBit t = some k
  := by
  rw [flag]
  cases h : maskBit t with
  | none => simp
  | some k' => simp [hk, eq_comm]

theorem actionBit_mem {a : FlowAction} {k : Nat} (h : maskBit a.type = some k) :
  actionBit k ∈ a.writes
  := by
  cases a <;> simp only [maskBit, type, Option.some.injEq, reduceCtorEq] at h <;> subst h <;>
    simp [writes, fieldWrites]

theorem maskBit_of_span (t : FlowActionType) :
  ∀ k < 16, ∀ x ∈ spans t, x.1 ≤ 0x27f - k → 0x27f - k < x.1 + x.2 → maskBit t = some k
  := by
  cases t <;> decide

/-- The bit of the mask an action covers is the one of its type. -/
theorem maskBit_of_covers {a : FlowAction} {k : Nat} (hk : k < 16) {w : Write}
    (hw : w ∈ a.writes) (hcovers : w.Covers (0x27f - k)) :
  maskBit a.type = some k
  := by
  rcases List.mem_append.mp hw with hw | hw
  · have hpos := (dests_within hw).1
    simp only [Write.Covers, destPos, SetFteIn.flowContext, FlowContext.destination] at *
    omega
  · apply maskBit_of_span _ k hk _ (span_mem_of_fieldWrites hw) hcovers.1 hcovers.2

/-- The OR of the flags of several types. -/
def mask (ts : List FlowActionType) : BitVec 32 :=
  (ts.map flag).foldr (· ||| ·) 0

theorem getLsbD_mask (ts : List FlowActionType) {k : Nat} (hk : k < 32) :
  (mask ts).getLsbD k = true ↔ ∃ t ∈ ts, maskBit t = some k
  := by
  induction ts with
  | nil => simp [mask]
  | cons t ts ih =>
      have hcons : mask (t :: ts) = flag t ||| mask ts := rfl
      rw [hcons, BitVec.getLsbD_or, Bool.or_eq_true, ih, getLsbD_flag hk]
      simp

theorem mask_perm {ts ts' : List FlowActionType} (h : ts.Perm ts') :
  mask ts = mask ts'
  := by
  apply BitVec.eq_of_getLsbD_eq
  intro k hk
  rw [Bool.eq_iff_iff, getLsbD_mask _ hk, getLsbD_mask _ hk]
  simp only [h.mem_iff]

end FlowAction

end Dpcp
