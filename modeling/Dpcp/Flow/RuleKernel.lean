import Dpcp.Flow.RulePrm

/-!
# The rules of the root table

A rule of the root table is not a command to the device: `flow_rule_ex_kernel::create` fills a
`dcmd::flow_desc`, and the constructor of `dcmd::flow` makes a verbs matcher and a verbs flow
from it.  Which blocks of the match criteria the matcher looks at is a constant of that
constructor; for a PRM table it is the mask of the group.
-/

namespace Dcmd

open Bits

/-- `struct flow_desc`; a destination handle is given by the object it belongs to. -/
structure FlowDesc where
  matchCriteria : Memory
  matchValue : Memory
  dstObj : List Dpcp.ForwardableObj
  flowId : BitVec 32
  priority : BitVec 16
  modifyActions : Option Memory
  numOfActions : Nat

/-- The constructor of `flow_desc`. -/
def FlowDesc.new : FlowDesc :=
  ⟨zeros, zeros, [], 0, 0, none, 0⟩

/-- `struct mlx5dv_flow_matcher_attr`, the fields `dcmd::flow` sets to other than constants of
no interest here. -/
structure MatcherAttr where
  priority : BitVec 16
  matchCriteriaEnable : BitVec 8
  matchMask : Memory

/-- What the verbs library answers: whether there is a matcher, a modify-header action and a
flow. -/
structure Verbs where
  createFlowMatcher : MatcherAttr → Bool
  createFlowActionModifyHeader : Memory → Nat → Bool
  createFlow : MatcherAttr → Memory → Bool

/-- `class dcmd::flow`: the matcher of the flow and its match value. -/
structure Flow where
  mMatcher : MatcherAttr
  matchValue : Memory

def mlx5CreateFlowGroupInMatchCriteriaEnableOuterHeaders : Nat := 0

/-- The constructor of `dcmd::flow`; `none` when it throws. -/
def Flow.new (verbs : Verbs) (desc : FlowDesc) : Option Flow :=
  let matcherAttr : MatcherAttr :=
    { priority := desc.priority
      -- only the outer headers, whatever the criteria
      matchCriteriaEnable := 1 <<< mlx5CreateFlowGroupInMatchCriteriaEnableOuterHeaders
      matchMask := desc.matchCriteria }
  if !verbs.createFlowMatcher matcherAttr then
    none
  else
    let modifyHeader := match desc.modifyActions with
      | some m => verbs.createFlowActionModifyHeader m desc.numOfActions
      | none => true
    if !modifyHeader then
      none
    else if !verbs.createFlow matcherAttr desc.matchValue then
      none
    else
      some ⟨matcherAttr, desc.matchValue⟩

/-- A flow that was made enables the outer headers. -/
theorem Flow.matchCriteriaEnable_of_new {verbs : Verbs} {desc : FlowDesc} {flow : Flow}
    (h : Flow.new verbs desc = some flow) :
  flow.mMatcher.matchCriteriaEnable = Dpcp.fgMatchOuterHdr
  := by
  simp only [Flow.new, Option.ite_none_left_eq_some, Option.some.injEq] at h
  obtain ⟨-, -, -, rfl⟩ := h
  rfl

end Dcmd

namespace Dpcp

open Bits Dcmd Prm

/-- What the environment does while a rule of the root table is created: the allocations of
the forward action, of the mailbox and of the entries of a modify action, and the verbs
library. -/
structure RootEnv where
  allocFwd : Bool
  allocMailbox : Bool
  heap : Option Memory
  verbs : Verbs

/-- `flow_action_fwd::apply` on a flow description, with `create_root_action_fwd`. -/
def FlowActionFwd.applyRoot (a : FlowActionFwd) (env : RootEnv) (desc : FlowDesc) :
    Status × FlowActionFwd × FlowDesc :=
  if a.mRootActionFwd then
    (.ok, a, { desc with dstObj := a.mDests })
  else if !a.mDests.all (fun dest => dest.base.mObjHandle) then
    (.errCreate, a, desc)
  else if !env.allocFwd then
    (.errCreate, a, desc)
  else
    (.ok, { a with mRootActionFwd := true }, { desc with dstObj := a.mDests })

/-- `flow_action_modify::apply` on a flow description. -/
def FlowActionModify.applyRoot (a : FlowActionModify) (env : RootEnv) (desc : FlowDesc) :
    Status × FlowActionModify × FlowDesc :=
  let prepared : Result FlowActionModify :=
    if a.mActionsRoot.isNone then
      (a.preparePrmModifyBuff env.allocMailbox).andThen fun a => a.prepareFlowDescBuffs env.heap
    else (.ok, a)
  match prepared with
  | (.ok, a) =>
      (.ok, a, { desc with
        modifyActions := a.mActionsRoot
        numOfActions := a.mAttr.actions.length })
  | (ret, a) => (ret, a, desc)

/-- The virtual `flow_action::apply` on a flow description. -/
def FlowAction.applyRoot (env : RootEnv) (desc : FlowDesc) :
    FlowAction → Status × FlowAction × FlowDesc
  | fwd a => let (ret, a, desc) := a.applyRoot env desc; (ret, fwd a, desc)
  | tag a => (.ok, tag a, { desc with flowId := a.mTagId })
  | modify a => let (ret, a, desc) := a.applyRoot env desc; (ret, modify a, desc)
  | reformat a => (.errNoSupport, reformat a, desc)
  | reparse => (.errNoSupport, reparse, desc)

/-- `class flow_rule_ex_kernel`. -/
structure FlowRuleExKernel where
  mMatchValue : MatchParamsEx
  mGroup : FlowGroup
  mIsValidActions : Bool
  mActions : ActionMap
  mMatcher : FlowMatcher
  mPriority : BitVec 16

namespace FlowRuleExKernel

/-- The constructor of `flow_rule_ex_kernel`. -/
def new (attr : FlowRuleAttrEx) (group : FlowGroup) (matcher : FlowMatcher) : FlowRuleExKernel :=
  let (isValidActions, actions) := verifyFlowActions attr.actions
  { mMatchValue := attr.matchValue
    mGroup := group
    mIsValidActions := isValidActions
    mActions := actions
    mMatcher := matcher
    mPriority := attr.priority }

/-- `set_match_params`. -/
def setMatchParams (r : FlowRuleExKernel) (desc : FlowDesc) : Result FlowDesc :=
  match r.mGroup.getMatchCriteria .empty with
  | (.ok, matchCriteria) =>
      match r.mMatcher.apply zeros 0 matchCriteria with
      | (.ok, criteria) =>
          match r.mMatcher.apply zeros 0 r.mMatchValue with
          | (.ok, values) => (.ok, { desc with matchCriteria := criteria, matchValue := values })
          | (ret, _) => (ret, desc)
      | (ret, _) => (ret, desc)
  | (ret, _) => (ret, desc)

/-- The loop of `create` over the actions, in the order the map gives them. -/
def applyActions (env : RootEnv) (desc : FlowDesc) :
    List FlowAction → Status × List FlowAction × FlowDesc
  | [] => (.ok, [], desc)
  | a :: rest =>
      match a.applyRoot env desc with
      | (.ok, a, desc) =>
          let (ret, rest, desc) := applyActions env desc rest
          (ret, a :: rest, desc)
      | (ret, a, desc) => (ret, a :: rest, desc)

/-- `flow_rule_ex_kernel::create`, with the flow it makes. -/
def create (r : FlowRuleExKernel) (env : RootEnv) (order : List FlowAction) :
    Status × Option Flow :=
  if !r.mIsValidActions then
    (.errInvalidParam, none)
  else
    match r.setMatchParams { FlowDesc.new with priority := r.mPriority } with
    | (.ok, desc) =>
        match applyActions env desc order with
        | (.ok, _, desc) =>
            match Flow.new env.verbs desc with
            | some flow => (.ok, some flow)
            | none => (.errCreate, none)
        | (ret, _, _) => (ret, none)
    | (ret, _) => (ret, none)

/-- The flow description that `create` makes, or the status with which it ends before. -/
def describe (r : FlowRuleExKernel) (env : RootEnv) (order : List FlowAction) :
    Except Status FlowDesc :=
  if !r.mIsValidActions then
    .error .errInvalidParam
  else
    match r.setMatchParams { FlowDesc.new with priority := r.mPriority } with
    | (.ok, desc) =>
        match applyActions env desc order with
        | (.ok, _, desc) => .ok desc
        | (ret, _, _) => .error ret
    | (ret, _) => .error ret

/-- The flow is made of the description. -/
theorem create_eq (r : FlowRuleExKernel) (env : RootEnv) (order : List FlowAction) :
  r.create env order = match r.describe env order with
    | .error ret => (ret, none)
    | .ok desc =>
        match Flow.new env.verbs desc with
        | some flow => (.ok, some flow)
        | none => (.errCreate, none)
  := by
  simp only [create, describe]
  split
  · rfl
  · split
    · split <;> rfl
    · rfl

end FlowRuleExKernel

/-- `class flow_rule_ex_kernel` with its base class and the flow it keeps. -/
structure RootRule extends FlowRuleExKernel where
  base : Obj
  mFlow : Option Flow

namespace RootRule

/-- The constructor of `flow_rule_ex_kernel`.  The context is the one of the root table. -/
def new (attr : FlowRuleAttrEx) (group : FlowGroup) (matcher : FlowMatcher) : RootRule :=
  { FlowRuleExKernel.new attr group matcher with
    base := .new true
    mFlow := none }

/-- `flow_rule_ex_kernel::create`, which stores the new flow over the one there was. -/
def createFlow (r : RootRule) (env : RootEnv) (order : List FlowAction) : Result RootRule :=
  match r.describe env order with
  | .error ret => (ret, r)
  | .ok desc =>
      let flow := Flow.new env.verbs desc
      (if flow.isSome then .ok else .errCreate, { r with mFlow := flow })

/-- Once the flow was described, what `create` makes is kept. -/
theorem createFlow_eq (r : RootRule) (env : RootEnv) (order : List FlowAction) :
  r.createFlow env order = ((r.toFlowRuleExKernel.create env order).1,
    if (r.describe env order).isOk then
      { r with mFlow := (r.toFlowRuleExKernel.create env order).2 }
    else r)
  := by
  rw [FlowRuleExKernel.create_eq, createFlow]
  split
  · rename_i ret hdescribe
    rw [hdescribe]
    rfl
  · rename_i desc hdescribe
    rw [hdescribe]
    cases Flow.new env.verbs desc <;> rfl

end RootRule

/-! ### The blocks enabled on the two paths -/

/-- The blocks of the match criteria a group can enable. -/
inductive MatchBlock where
  | outerHeaders
  | metadataRegister
  | parserSamples
deriving DecidableEq

def MatchBlock.flag : MatchBlock → BitVec 8
  | outerHeaders => fgMatchOuterHdr
  | metadataRegister => fgMatchMetadataRegC0
  | parserSamples => fgMatchParserFields

/-- Whether a mask enables a block. -/
def Enables (mask : BitVec 8) (b : MatchBlock) : Prop :=
  mask &&& b.flag ≠ 0

instance (mask : BitVec 8) (b : MatchBlock) : Decidable (Enables mask b) :=
  inferInstanceAs (Decidable (_ ≠ _))

namespace FlowRuleExKernel

/-- If the parameters of a match were set, the matcher accepts the criteria of the group. -/
theorem accepts_of_setMatchParams {r : FlowRuleExKernel} {desc desc' : FlowDesc}
    (h : r.setMatchParams desc = (.ok, desc')) :
  ∃ matchCriteria, r.mGroup.getMatchCriteria .empty = (.ok, matchCriteria)
    ∧ r.mMatcher.Accepts matchCriteria
  := by
  simp only [setMatchParams] at h
  split at h
  · rename_i matchCriteria hcriteria
    use matchCriteria
    constructor
    · apply hcriteria
    · split at h
      · rename_i m hm
        apply FlowMatcher.accepts_of_apply hm
      · rename_i ret m hret hm
        cases hret (congrArg Prod.fst h)
  · rename_i ret m hret hm
    cases hret (congrArg Prod.fst h)

/-- What a rule went through when it was created. -/
theorem create_eq_ok {r : FlowRuleExKernel} {env : RootEnv} {order : List FlowAction}
    {flow : Option Flow} (h : r.create env order = (.ok, flow)) :
  (∃ desc, r.setMatchParams { FlowDesc.new with priority := r.mPriority } = (.ok, desc))
    ∧ ∃ f desc, flow = some f ∧ Flow.new env.verbs desc = some f
  := by
  simp only [create] at h
  split at h
  · cases h
  · split at h
    · rename_i desc hdesc
      split at h
      · rename_i actions desc' hactions
        split at h
        · rename_i f hf
          exact ⟨⟨desc, hdesc⟩, f, desc', (congrArg Prod.snd h).symm, hf⟩
        · cases h
      · rename_i ret hret hactions
        cases hret (congrArg Prod.fst h)
    · rename_i ret hret hdesc
      cases hret (congrArg Prod.fst h)

end FlowRuleExKernel

/-- The outer headers are enabled by their own flag and no other. -/
theorem enables_outerHeaders (b : MatchBlock) :
  Enables fgMatchOuterHdr b ↔ b = .outerHeaders
  := by
  cases b <;> decide

/-- A mask enables just the outer headers when, of the three flags, it has that one only. -/
theorem enables_only_outerHeaders (mask : BitVec 8) :
  (∀ b, b = .outerHeaders ↔ Enables mask b)
    ↔ mask &&& (fgMatchOuterHdr ||| fgMatchMetadataRegC0 ||| fgMatchParserFields)
      = fgMatchOuterHdr
  := by
  have hsplit : (∀ b, b = .outerHeaders ↔ Enables mask b)
      ↔ Enables mask .outerHeaders ∧ ¬ Enables mask .metadataRegister
        ∧ ¬ Enables mask .parserSamples := by
    constructor
    · intro h
      simp [← h]
    · rintro ⟨houter, hmetadata, hsamples⟩ b
      cases b <;> simp [houter, hmetadata, hsamples]
  rw [hsplit]
  clear hsplit
  revert mask
  decide +kernel

/-- Let a group and a rule be created from the same attributes in the root table and in a PRM
table.  The flow of the root table enables the outer headers only, whatever the group asks for;
the mailbox of the PRM group enables the blocks the group asks for.  The two enable the same
blocks exactly when the group asks for the outer headers and for no other block. -/
theorem enabled_blocks_of_created {gattr : FlowGroupAttr} {rattr : FlowRuleAttrEx}
    {group : FlowGroup} {matcher : FlowMatcher} {env : RootEnv} {order : List FlowAction}
    {flow : Flow} {table : Option FlowTablePrm} {device : Device} {groupPrm : FlowGroupPrm}
    {m : Memory} (hgroup : FlowGroupKernel.create (.new true gattr) true = (.ok, group))
    (hmatcher : group.mMatcher = some matcher)
    (hrule : (FlowRuleExKernel.new rattr group matcher).create env order = (.ok, some flow))
    (hprm : FlowGroupPrm.create ⟨.new true gattr, 0⟩ table device = (.ok, groupPrm, some m)) :
  let root := flow.mMatcher.matchCriteriaEnable
  let prm := (devxGet m 0 CreateFlowGroupIn.matchCriteriaEnable).setWidth 8
  (∀ b, Enables root b ↔ b = .outerHeaders)
    ∧ (∀ b, Enables prm b ↔ Enables gattr.matchCriteriaEnable b)
    ∧ ((∀ b, Enables root b ↔ Enables prm b)
      ↔ gattr.matchCriteriaEnable
          &&& (fgMatchOuterHdr ||| fgMatchMetadataRegC0 ||| fgMatchParserFields)
        = fgMatchOuterHdr)
  := by
  obtain ⟨⟨desc, hdesc⟩, f, desc', hf, hflow⟩ := FlowRuleExKernel.create_eq_ok hrule
  cases hf
  obtain ⟨criteria, hcriteria, haccepts⟩ := FlowRuleExKernel.accepts_of_setMatchParams hdesc
  -- both paths use one matcher and one set of criteria
  obtain ⟨hmatcher', hcriteria'⟩ := FlowGroupKernel.create_eq_ok hgroup
  cases hmatcher.symm.trans hmatcher'
  cases hcriteria.symm.trans hcriteria'
  intro root prm
  have hroot : root = fgMatchOuterHdr := Flow.matchCriteriaEnable_of_new hflow
  have hprm : prm = gattr.matchCriteriaEnable := FlowGroupPrm.enabled_of_create haccepts hprm
  rw [hroot, hprm]
  refine ⟨enables_outerHeaders, fun b => Iff.rfl, ?_⟩
  simp only [enables_outerHeaders]
  apply enables_only_outerHeaders

/-! ### Two groups -/

/-- A group of eight rules that enables `mask`. -/
def groupAttr (mask : BitVec 8) : FlowGroupAttr :=
  ⟨0, 7, mask, .empty⟩

/-- A rule that forwards to one TIR. -/
def forwarding : FlowRuleAttrEx :=
  ⟨0, .empty, 0, [.fwd ⟨[FlowRuleExPrm.tirFive], false⟩]⟩

/-- A verbs library that makes everything. -/
def acceptingRoot : RootEnv :=
  ⟨true, true, none, ⟨fun _ => true, fun _ _ => true, fun _ _ => true⟩⟩

/-- A device that creates every object. -/
def accepting : Env where
  alloc := true
  device _ _ := ⟨true, zeros⟩

theorem enabled_blocks_outerHeaders :
  ∃ flow groupPrm m,
    (FlowRuleExKernel.new forwarding
        (FlowGroupKernel.create (.new true (groupAttr 0x1)) true).2 (groupAttr 0x1).matcher).create
      acceptingRoot forwarding.actions = (.ok, some flow)
    ∧ FlowGroupPrm.create ⟨.new true (groupAttr 0x1), 0⟩ (some ⟨true, 0, 3⟩) accepting.device
      = (.ok, groupPrm, some m)
    ∧ ∀ b, Enables flow.mMatcher.matchCriteriaEnable b
      ↔ Enables ((devxGet m 0 CreateFlowGroupIn.matchCriteriaEnable).setWidth 8) b
  := by
  obtain ⟨flow, hrule⟩ : ∃ flow, (FlowRuleExKernel.new forwarding
      (FlowGroupKernel.create (.new true (groupAttr 0x1)) true).2 (groupAttr 0x1).matcher).create
      acceptingRoot forwarding.actions = (.ok, some flow) := ⟨_, rfl⟩
  obtain ⟨groupPrm, m, hprm⟩ : ∃ groupPrm m, FlowGroupPrm.create ⟨.new true (groupAttr 0x1), 0⟩
      (some ⟨true, 0, 3⟩) accepting.device = (.ok, groupPrm, some m) := ⟨_, _, rfl⟩
  refine ⟨flow, groupPrm, m, hrule, hprm, ?_⟩
  have hsame := (enabled_blocks_of_created rfl rfl hrule hprm).2.2
  apply hsame.mpr
  decide

/-- A group that also asks for the metadata register: both tables take it and the rule, and only
the PRM table has the register enabled. -/
theorem metadataRegister_enabled_differs :
  ∃ flow groupPrm m,
    (FlowRuleExKernel.new forwarding
        (FlowGroupKernel.create (.new true (groupAttr 0x9)) true).2 (groupAttr 0x9).matcher).create
      acceptingRoot forwarding.actions = (.ok, some flow)
    ∧ FlowGroupPrm.create ⟨.new true (groupAttr 0x9), 0⟩ (some ⟨true, 0, 3⟩) accepting.device
      = (.ok, groupPrm, some m)
    ∧ ((FlowRuleExPrm.new true forwarding ⟨true, 0, 3⟩ groupPrm (groupAttr 0x9).matcher).create
      accepting true forwarding.actions).1 = .ok
    ∧ ¬ Enables flow.mMatcher.matchCriteriaEnable .metadataRegister
    ∧ Enables ((devxGet m 0 CreateFlowGroupIn.matchCriteriaEnable).setWidth 8) .metadataRegister
  := by
  refine ⟨_, _, _, rfl, rfl, rfl, ?_, ?_⟩
  · decide
  · decide +kernel

end Dpcp
