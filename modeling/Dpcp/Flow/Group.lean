import Dpcp.Obj
import Dpcp.Flow.Matcher

/-!
# Flow tables and flow groups

A flow group holds match criteria and the mask of the blocks of them that are enabled, and
makes the matcher its rules use.  A group of a PRM table is an object of the device, created
by a `CREATE_FLOW_GROUP` command; a group of the root table is not.
-/

namespace Dpcp

open Bits Dcmd Prm

/-- `class flow_table_prm`, as far as groups and rules use it. -/
structure FlowTablePrm where
  mIsInitialized : Bool
  mType : BitVec 32
  mTableId : BitVec 32

namespace FlowTablePrm

/-- `flow_table::get_table_type`; `tableType` is what the output parameter held. -/
def getTableType (t : FlowTablePrm) (tableType : BitVec 32) : Result (BitVec 32) :=
  if !t.mIsInitialized then (.errNotApplied, tableType) else (.ok, t.mType)

/-- `flow_table_prm::get_table_id`. -/
def getTableId (t : FlowTablePrm) (tableId : BitVec 32) : Result (BitVec 32) :=
  if !t.mIsInitialized then (.errNotApplied, tableId) else (.ok, t.mTableId)

end FlowTablePrm

/-- `struct flow_group_attr`. -/
structure FlowGroupAttr where
  startFlowIndex : BitVec 32
  endFlowIndex : BitVec 32
  matchCriteriaEnable : BitVec 8
  matchCriteria : MatchParamsEx

/-- The matcher a group makes of its attributes. -/
def FlowGroupAttr.matcher (attr : FlowGroupAttr) : FlowMatcher :=
  ⟨⟨attr.matchCriteria, attr.matchCriteriaEnable⟩⟩

/-- `class flow_group`. -/
structure FlowGroup where
  base : Obj
  mAttr : FlowGroupAttr
  mIsInitialized : Bool
  mMatcher : Option FlowMatcher

namespace FlowGroup

/-- The constructor of `flow_group`. -/
def new (ctx : Bool) (attr : FlowGroupAttr) : FlowGroup :=
  ⟨.new ctx, attr, false, none⟩

/-- `flow_group::create`; `table` tells whether the table of the group is still there. -/
def create (g : FlowGroup) (table : Bool) : Result FlowGroup :=
  if !table then
    (.errInvalidParam, g)
  else if g.mIsInitialized then
    (.errCreate, g)
  else
    (.ok, { g with mMatcher := some g.mAttr.matcher })

/-- `flow_group::get_match_criteria`. -/
def getMatchCriteria (g : FlowGroup) (match' : MatchParamsEx) : Result MatchParamsEx :=
  if !g.mIsInitialized then (.errNotApplied, match') else (.ok, g.mAttr.matchCriteria)

end FlowGroup

/-- `class flow_group_prm`. -/
structure FlowGroupPrm where
  group : FlowGroup
  mGroupId : BitVec 32

namespace FlowGroupPrm

def mlx5CmdOpCreateFlowGroup : BitVec 32 := 0x933

/-- The mailbox of `flow_group_prm::create`.  What the matcher returns is not looked at. -/
def mailbox (g : FlowGroup) (flowTableId : BitVec 32) (matcher : FlowMatcher) : Memory :=
  let m := zeros
  let m := devxSet m 0 CreateFlowGroupIn.opcode mlx5CmdOpCreateFlowGroup
  let m := devxSet m 0 CreateFlowGroupIn.tableId flowTableId
  let m := devxSet m 0 CreateFlowGroupIn.startFlowIndex g.mAttr.startFlowIndex
  let m := devxSet m 0 CreateFlowGroupIn.endFlowIndex g.mAttr.endFlowIndex
  let m := devxSet m 0 CreateFlowGroupIn.matchCriteriaEnable
    (g.mAttr.matchCriteriaEnable.setWidth 32)
  (matcher.apply m CreateFlowGroupIn.matchCriteria g.mAttr.matchCriteria).2

/-- `flow_group_prm::create`; `table` is the table of the group if it is still there and a PRM
table.  The result has the mailbox that was sent, if one was. -/
def create (g : FlowGroupPrm) (table : Option FlowTablePrm) (device : Device) :
    Status × FlowGroupPrm × Option Memory :=
  match g.group.create table.isSome with
  | (.ok, group) =>
      let g := { g with group := group }
      match table, group.mMatcher with
      | some t, some matcher =>
          match t.getTableId 0 with
          | (.ok, flowTableId) =>
              let m := mailbox group flowTableId matcher
              let (ret, base, out) := group.base.create device (some m) CreateFlowGroupIn.bytes
                zeros CreateFlowGroupOut.bytes
              let group := { group with base := base }
              match ret with
              | .ok =>
                  (.ok, { group := { group with mIsInitialized := true }
                          mGroupId := devxGet out 0 CreateFlowGroupOut.groupId }, some m)
              | ret => (ret, { g with group := group }, some m)
          | _ => (.errInvalidParam, g, none)
      | _, _ => (.errInvalidParam, g, none)
  | (_, group) => (.errNoMemory, { g with group := group }, none)

/-- `flow_group_prm::get_group_id`. -/
def getGroupId (g : FlowGroupPrm) (groupId : BitVec 32) : Result (BitVec 32) :=
  if !g.group.mIsInitialized then (.errNotApplied, groupId) else (.ok, g.mGroupId)

/-! ### The mailbox of a group -/

/-- The writes of a group before the match criteria. -/
def groupWrites (g : FlowGroup) (flowTableId : BitVec 32) : List Write :=
  Field.writes 0
    [(CreateFlowGroupIn.opcode, mlx5CmdOpCreateFlowGroup),
      (CreateFlowGroupIn.tableId, flowTableId),
      (CreateFlowGroupIn.startFlowIndex, g.mAttr.startFlowIndex),
      (CreateFlowGroupIn.endFlowIndex, g.mAttr.endFlowIndex),
      (CreateFlowGroupIn.matchCriteriaEnable, g.mAttr.matchCriteriaEnable.setWidth 32)]

theorem groupWrites_spans (g : FlowGroup) (flowTableId : BitVec 32) :
  (groupWrites g flowTableId).map Write.span
    = [(0x0, 0x10), (0xa8, 0x18), (0xe0, 0x20), (0x120, 0x20), (0x1f8, 0x8)].map
      (fun t => (0 + t.1, t.2))
  := rfl

/-- If the matcher accepts the criteria of the group, the mailbox has the writes of the group, and
then those of the matcher. -/
theorem bit_mailbox {g : FlowGroup} {matcher : FlowMatcher}
    (h : matcher.Accepts g.mAttr.matchCriteria) (flowTableId : BitVec 32) :
  bit (mailbox g flowTableId matcher) = puts (bit zeros) (groupWrites g flowTableId
    ++ selected (matcher.writes CreateFlowGroupIn.matchCriteria g.mAttr.matchCriteria))
  := by
  obtain ⟨m, hm⟩ := FlowMatcher.apply_ok h
    (devxSet (devxSet (devxSet (devxSet (devxSet zeros 0 CreateFlowGroupIn.opcode
      mlx5CmdOpCreateFlowGroup) 0 CreateFlowGroupIn.tableId flowTableId) 0
      CreateFlowGroupIn.startFlowIndex g.mAttr.startFlowIndex) 0
      CreateFlowGroupIn.endFlowIndex g.mAttr.endFlowIndex) 0
      CreateFlowGroupIn.matchCriteriaEnable (g.mAttr.matchCriteriaEnable.setWidth 32))
    CreateFlowGroupIn.matchCriteria
  obtain ⟨hbits, -⟩ := FlowMatcher.apply_eq_ok hm
  have hmailbox : mailbox g flowTableId matcher = m := by
    simp only [mailbox, hm]
  rw [hmailbox, hbits, puts_append]
  simp only [bit_devxSet]
  rfl

/-- The writes of the group stand before the match criteria. -/
theorem groupWrites_within {g : FlowGroup} {flowTableId : BitVec 32} {w : Write}
    (hw : w ∈ groupWrites g flowTableId) :
  w.Within 0 (8 * CreateFlowGroupIn.matchCriteria)
  := within_of_spans (n := 0x200) 0 _ (groupWrites_spans g flowTableId) (by decide) hw

/-- The writes of a group and of its matcher are pairwise disjoint. -/
theorem mailbox_disjoint {g : FlowGroup} {matcher : FlowMatcher}
    (h : matcher.Accepts g.mAttr.matchCriteria) (flowTableId : BitVec 32) :
  (groupWrites g flowTableId ++ selected (matcher.writes CreateFlowGroupIn.matchCriteria
    g.mAttr.matchCriteria)).Pairwise Write.Disjoint
  := by
  rw [List.pairwise_append]
  refine ⟨?_, selected_disjoint (FlowMatcher.writes_disjoint _ _ _), ?_⟩
  · apply disjoint_of_spans _ _ (groupWrites_spans g flowTableId)
    decide
  · intro w hw w' hw'
    have hmatch := FlowMatcher.writes_within (fun henabled => (h.2 henabled).2) hw'
    apply (groupWrites_within hw).disjoint hmatch
    omega

/-- What follows the fields of the group in the mailbox are the criteria that it enables. -/
theorem decodes_mailbox {g : FlowGroup} {matcher : FlowMatcher}
    (h : matcher.Accepts g.mAttr.matchCriteria) (flowTableId : BitVec 32) :
  matcher.Decodes CreateFlowGroupIn.matchCriteria g.mAttr.matchCriteria
    (clearBefore (mailbox g flowTableId matcher) CreateFlowGroupIn.matchCriteria)
  := by
  apply FlowMatcher.decodes_of_puts _ h.2
  funext i
  rw [bit_clearBefore, bit_mailbox h, puts_append]
  by_cases hi : 8 * CreateFlowGroupIn.matchCriteria ≤ i
  · rw [decide_eq_true hi, Bool.true_and]
    apply puts_congr
    apply puts_of_not_covers
    intro w hw hcovers
    have hgroup := groupWrites_within hw
    simp only [Write.Within, Write.Covers] at hgroup hcovers
    omega
  · rw [decide_eq_false hi, Bool.false_and, puts_of_not_covers, bit_zeros]
    intro w hw hcovers
    have hmatch := FlowMatcher.writes_within (fun henabled => (h.2 henabled).2) hw
    simp only [Write.Within, Write.Covers] at hmatch hcovers
    omega

/-- The mask of enabled blocks in the mailbox is the mask of the group. -/
theorem devxGet_matchCriteriaEnable {g : FlowGroup} {matcher : FlowMatcher}
    (h : matcher.Accepts g.mAttr.matchCriteria) (flowTableId : BitVec 32) :
  devxGet (mailbox g flowTableId matcher) 0 CreateFlowGroupIn.matchCriteriaEnable
    = g.mAttr.matchCriteriaEnable.setWidth 32
  := by
  apply devxGet_eq_of_puts (bit_mailbox h flowTableId) (mailbox_disjoint h flowTableId)
  · rw [BitVec.toNat_setWidth_of_le (by decide)]
    apply BitVec.isLt
  · apply List.mem_append_left
    simp [groupWrites, Field.writes]

/-- A group that was created has sent the mailbox of its attributes. -/
theorem create_eq_ok {attr : FlowGroupAttr} {table : Option FlowTablePrm} {device : Device}
    {g : FlowGroupPrm} {sent : Option Memory}
    (h : create ⟨.new true attr, 0⟩ table device = (.ok, g, sent)) :
  ∃ flowTableId, sent = some (mailbox
    { FlowGroup.new true attr with mMatcher := some attr.matcher } flowTableId attr.matcher)
  := by
  cases table with
  | none => simp [create, FlowGroup.create] at h
  | some t =>
      cases ht : t.mIsInitialized with
      | false =>
          simp [create, FlowGroup.create, FlowGroup.new, FlowTablePrm.getTableId, ht] at h
      | true =>
          use t.mTableId
          have hgroup : (FlowGroup.new true attr).create (some t).isSome
              = (.ok, { FlowGroup.new true attr with mMatcher := some attr.matcher }) := rfl
          have hid : t.getTableId 0 = (.ok, t.mTableId) := by
            simp [FlowTablePrm.getTableId, ht]
          simp only [create, hgroup, hid] at h
          split at h
          · apply (congrArg (fun r => r.2.2) h).symm
          · rename_i hret
            cases hret (congrArg Prod.fst h)

/-- The mask of enabled blocks that a created group has sent. -/
theorem enabled_of_create {attr : FlowGroupAttr} {table : Option FlowTablePrm} {device : Device}
    {g : FlowGroupPrm} {m : Memory} (haccepts : attr.matcher.Accepts attr.matchCriteria)
    (h : create ⟨.new true attr, 0⟩ table device = (.ok, g, some m)) :
  (devxGet m 0 CreateFlowGroupIn.matchCriteriaEnable).setWidth 8 = attr.matchCriteriaEnable
  := by
  obtain ⟨flowTableId, hsent⟩ := create_eq_ok h
  rw [Option.some.inj hsent, devxGet_matchCriteriaEnable haccepts,
    BitVec.setWidth_setWidth_of_le _ (by decide)]
  apply BitVec.setWidth_eq

/-! ### Criteria that the matcher rejects -/

/-- `create` minds what the matcher says about the criteria: it succeeds only with every enabled
criterion in the mailbox, and it fails before any command if the matcher rejects the criteria. -/
def MindsMatcher (attr : FlowGroupAttr) : Prop :=
  ∀ table device,
    let (ret, _, sent) := create ⟨.new true attr, 0⟩ table device
    (ret = .ok → ∃ m, sent = some m
        ∧ attr.matcher.Decodes CreateFlowGroupIn.matchCriteria attr.matchCriteria
          (clearBefore m CreateFlowGroupIn.matchCriteria))
      ∧ ((∀ m p, (attr.matcher.apply m p attr.matchCriteria).1 ≠ .ok) → ret ≠ .ok ∧ sent = none)

/-- The group of a table that is there is created whenever the device makes it. -/
theorem create_granted (attr : FlowGroupAttr) :
  (create ⟨.new true attr, 0⟩ (some ⟨true, 0, 0⟩) fun _ _ => ⟨true, zeros⟩).1 = .ok
  := by
  simp [create, FlowGroup.create, FlowGroup.new, FlowTablePrm.getTableId, Obj.create, Obj.new,
    CreateFlowGroupIn.bytes, CreateFlowGroupOut.bytes, devxGet_zeros]

/-- `create` does not look at what the matcher returns, and minds it exactly for criteria that the
matcher accepts: a known type of layer 4 if the outer headers are enabled, and at most 8 samples if
the fields of the parser are. -/
theorem mindsMatcher_iff (attr : FlowGroupAttr) :
  MindsMatcher attr
    ↔ (attr.matcher.enables fgMatchOuterHdr = true →
        ∀ type, attr.matchCriteria.matchLyr4.type ≠ .other type)
      ∧ (attr.matcher.enables fgMatchParserFields = true →
        attr.matchCriteria.matchParserSampleFieldVec.length ≤ 8)
  := by
  have haccepts : attr.matcher.Accepts attr.matchCriteria
      ↔ (attr.matcher.enables fgMatchOuterHdr = true →
          ∀ type, attr.matchCriteria.matchLyr4.type ≠ .other type)
        ∧ (attr.matcher.enables fgMatchParserFields = true →
          attr.matchCriteria.matchParserSampleFieldVec.length ≤ 8) := by
    simp only [FlowMatcher.Accepts, FlowMatcher.samples, FlowGroupAttr.matcher, true_and]
  rw [← haccepts]
  constructor
  · intro h
    by_contra hnot
    have hrejects (m : Memory) (p : Nat) :
        (attr.matcher.apply m p attr.matchCriteria).1 ≠ .ok := by
      intro hok
      apply hnot
      apply FlowMatcher.accepts_of_apply (Prod.ext hok rfl)
    apply ((h (some ⟨true, 0, 0⟩) fun _ _ => ⟨true, zeros⟩).2 hrejects).1
    apply create_granted
  · intro h table device
    constructor
    · intro hok
      obtain ⟨flowTableId, hsent⟩ := create_eq_ok (Prod.ext hok rfl)
      refine ⟨_, hsent, ?_⟩
      apply decodes_mailbox (g := { FlowGroup.new true attr with mMatcher := some attr.matcher }) h
    · intro hrejects
      obtain ⟨m, hm⟩ := FlowMatcher.apply_ok h zeros 0
      cases hrejects zeros 0 (congrArg Prod.fst hm)

/-- Criteria of nine parser samples, and of the metadata register. -/
def nineSamples : FlowGroupAttr where
  startFlowIndex := 0
  endFlowIndex := 0
  matchCriteriaEnable := fgMatchParserFields ||| fgMatchMetadataRegC0
  matchCriteria :=
    { MatchParamsEx.empty with
      matchParserSampleFieldVec := List.replicate 9 ⟨0xffff, 7⟩
      matchMetadataRegC0 := 0xffffffff }

/-- The matcher rejects nine samples; the group is created with criteria that have none of them,
and without the metadata register. -/
theorem create_ignores_matcher :
  ∃ g m, create ⟨.new true nineSamples, 0⟩ (some ⟨true, 0, 0⟩) (fun _ _ => ⟨true, zeros⟩)
      = (.ok, g, some m)
    ∧ (nineSamples.matcher.apply zeros 0 nineSamples.matchCriteria).1 = .errOutOfRange
    ∧ devxGet m (CreateFlowGroupIn.matchCriteria + FteMatchParam.miscParameters4)
      (FteMatchSetMisc4.progSampleFieldId 0) = 0
    ∧ devxGet m (CreateFlowGroupIn.matchCriteria + FteMatchParam.miscParameters2)
      FteMatchSetMisc2.metadataRegC0 = 0
  := ⟨_, _, rfl, rfl, by decide +kernel, by decide +kernel⟩

end FlowGroupPrm

/-- `flow_group_kernel::create`. -/
def FlowGroupKernel.create (g : FlowGroup) (table : Bool) : Result FlowGroup :=
  (g.create table).andThen fun g => (.ok, { g with mIsInitialized := true })

/-- A created group of the root table has the criteria and the matcher of its attributes. -/
theorem FlowGroupKernel.create_eq_ok {attr : FlowGroupAttr} {g : FlowGroup}
    (h : create (.new true attr) true = (.ok, g)) :
  g.mMatcher = some attr.matcher ∧ g.getMatchCriteria .empty = (.ok, attr.matchCriteria)
  := by
  cases h
  constructor <;> rfl

end Dpcp
