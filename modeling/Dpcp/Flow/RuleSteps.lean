import Dpcp.Dcmd.Encoder
import Dpcp.Flow.RulePrm

/-!
# The steps of a rule

The mailbox `SET_FLOW_TABLE_ENTRY` of a rule is filled by several functions: `config_flow_rule`, the
matcher, and each of the actions.  Each of them is the run of a list of steps, also where it fails,
and `setFteSteps` are the steps of all of them.

The stores of these steps lie in the buffer of `alloc_in_buff`, and the destinations are read back
from it.
-/

namespace Dpcp

open Bits Dcmd Prm

/-- The second part is run if the first one succeeds. -/
theorem run_ok_append (l l' : List (Step Status)) (m : Memory) :
  Step.run .ok (l ++ l') m = Result.andThen (Step.run .ok l m) (Step.run .ok l')
  := by
  rw [Step.run_append]
  generalize Step.run Status.ok l m = r
  obtain ⟨ret, m'⟩ := r
  cases ret <;> rfl

namespace FlowMatcher

def lyr2Steps (a : FlowMatcher) (outer : Nat) (matchValue : MatchParamsEx) : List (Step Status) :=
  let criteria := a.mAttr.matchCriteria.matchLyr2
  let value := matchValue.matchLyr2
  Step.onlyIf (criteria.dstMac != zeroMac)
      [.copy (outer + FteMatchSetLyr24.dmac4716) (value.dstMac.toList.take 6)]
    ++ (Step.onlyIf (criteria.srcMac != zeroMac)
        [.copy (outer + FteMatchSetLyr24.smac4716) (value.srcMac.toList.take 6)]
      ++ (Step.onlyIf (criteria.ethertype != 0)
          (Step.sets outer [(FteMatchSetLyr24.ethertype, value.ethertype.setWidth 32)])
        ++ Step.onlyIf (criteria.firstVlanId != 0)
          (Step.sets outer
            [(FteMatchSetLyr24.firstVid, value.firstVlanId.setWidth 32),
              (FteMatchSetLyr24.cvlanTag, 0x1)])))

def lyr3Steps (a : FlowMatcher) (outer : Nat) (matchValue : MatchParamsEx) : List (Step Status) :=
  let criteria := a.mAttr.matchCriteria.matchLyr3
  let value := matchValue.matchLyr3
  Step.onlyIf (criteria.dstIp != 0)
      (Step.sets outer [(FteMatchSetLyr24.dstIpv4, value.dstIp)])
    ++ (Step.onlyIf (criteria.srcIp != 0)
        (Step.sets outer [(FteMatchSetLyr24.srcIpv4, value.srcIp)])
      ++ (Step.onlyIf (criteria.ipProtocol != 0)
          (Step.sets outer [(FteMatchSetLyr24.ipProtocol, value.ipProtocol.setWidth 32)])
        ++ Step.onlyIf (criteria.ipVersion != 0)
          (Step.sets outer [(FteMatchSetLyr24.ipVersion, value.ipVersion.setWidth 32)])))

/-- The steps for the ports of layer 4, in the given fields. -/
def portSteps (a : FlowMatcher) (outer : Nat) (matchValue : MatchParamsEx) (dport sport : Field) :
    List (Step Status) :=
  let criteria := a.mAttr.matchCriteria.matchLyr4
  let value := matchValue.matchLyr4
  Step.onlyIf (criteria.dstPort != 0) (Step.sets outer [(dport, value.dstPort.setWidth 32)])
    ++ Step.onlyIf (criteria.srcPort != 0) (Step.sets outer [(sport, value.srcPort.setWidth 32)])

def lyr4Steps (a : FlowMatcher) (outer : Nat) (matchValue : MatchParamsEx) : List (Step Status) :=
  match a.mAttr.matchCriteria.matchLyr4.type with
  | .none => []
  | .udp => a.portSteps outer matchValue FteMatchSetLyr24.udpDport FteMatchSetLyr24.udpSport
  | .tcp => a.portSteps outer matchValue FteMatchSetLyr24.tcpDport FteMatchSetLyr24.tcpSport
  | .other _ => [.check .errNoSupport]

/-- The steps of the samples `n - 1`, ..., `0`. -/
def sampleSteps (progr : Nat) (samples : List ParserSampleField) : Nat → List (Step Status)
  | 0 => []
  | n + 1 =>
      let sample := samples.getD n ⟨0, 0⟩
      Step.sets progr
          [(FteMatchSetMisc4.progSampleFieldValue n, sample.val),
            (FteMatchSetMisc4.progSampleFieldId n, sample.id)]
        ++ sampleSteps progr samples n

def progSampleSteps (a : FlowMatcher) (matchParams : Nat) (matchValue : MatchParamsEx) :
    List (Step Status) :=
  let criteria := a.mAttr.matchCriteria.matchParserSampleFieldVec
  let value := matchValue.matchParserSampleFieldVec
  if criteria.length ≠ value.length then
    [.check .errInvalidParam]
  else if criteria.length ≤ 8 then
    sampleSteps (matchParams + FteMatchParam.miscParameters4) value criteria.length
  else
    [.check .errOutOfRange]

/-- The steps of `flow_matcher::apply`. -/
def steps (a : FlowMatcher) (matchParams : Nat) (matchValue : MatchParamsEx) :
    List (Step Status) :=
  let outer := matchParams + FteMatchParam.outerHeaders
  Step.onlyIf (a.enables fgMatchOuterHdr)
      (a.lyr2Steps outer matchValue ++ (a.lyr3Steps outer matchValue
        ++ a.lyr4Steps outer matchValue))
    ++ (Step.onlyIf (a.enables fgMatchParserFields) (a.progSampleSteps matchParams matchValue)
      ++ Step.onlyIf (a.enables fgMatchMetadataRegC0)
        (Step.onlyIf (a.mAttr.matchCriteria.matchMetadataRegC0 != 0)
          (Step.sets (matchParams + FteMatchParam.miscParameters2)
            [(FteMatchSetMisc2.metadataRegC0, matchValue.matchMetadataRegC0)])))

theorem run_lyr2Steps (a : FlowMatcher) (outer : Nat) (matchValue : MatchParamsEx) (m : Memory) :
  Step.run .ok (a.lyr2Steps outer matchValue) m = a.setOuterHeaderLyr2Fields m outer matchValue
  := by
  simp only [lyr2Steps, run_ok_append, Step.run_onlyIf_sets, Step.run_onlyIf_copy, Result.andThen]
  rfl

theorem run_lyr3Steps (a : FlowMatcher) (outer : Nat) (matchValue : MatchParamsEx) (m : Memory) :
  Step.run .ok (a.lyr3Steps outer matchValue) m = a.setOuterHeaderLyr3Fields m outer matchValue
  := by
  simp only [lyr3Steps, run_ok_append, Step.run_onlyIf_sets, Result.andThen]
  rfl

theorem run_lyr4Steps (a : FlowMatcher) (outer : Nat) (matchValue : MatchParamsEx) (m : Memory) :
  Step.run .ok (a.lyr4Steps outer matchValue) m = a.setOuterHeaderLyr4Fields m outer matchValue
  := by
  rw [lyr4Steps, setOuterHeaderLyr4Fields]
  cases a.mAttr.matchCriteria.matchLyr4.type with
  | none => rfl
  | other => rfl
  | _ =>
      simp only [portSteps, run_ok_append, Step.run_onlyIf_sets, Result.andThen]
      rfl

theorem run_sampleSteps (progr : Nat) (samples : List ParserSampleField) (n : Nat) (m : Memory) :
  Step.run .ok (sampleSteps progr samples n) m = (.ok, setProgSamplesFrom m progr samples n)
  := by
  induction n generalizing m with
  | zero => rfl
  | succ n ih =>
      rw [sampleSteps, run_ok_append, Step.run_sets]
      apply ih

theorem run_progSampleSteps (a : FlowMatcher) (p : Nat) (matchValue : MatchParamsEx)
    (m : Memory) :
  Step.run .ok (Step.onlyIf (a.enables fgMatchParserFields) (a.progSampleSteps p matchValue)) m
    = a.setProgSampleFileds m p matchValue
  := by
  rw [setProgSampleFileds, Step.run_onlyIf]
  cases a.enables fgMatchParserFields with
  | false => rfl
  | true =>
      simp only [progSampleSteps, Bool.not_true, Bool.false_eq_true, if_true, if_false]
      split
      · rfl
      · split
        · apply run_sampleSteps
        · rfl

/-- `apply` makes its steps. -/
theorem run_steps (a : FlowMatcher) (p : Nat) (matchValue : MatchParamsEx) (m : Memory) :
  Step.run .ok (a.steps p matchValue) m = a.apply m p matchValue
  := by
  have houter : ∀ m, Step.run .ok (Step.onlyIf (a.enables fgMatchOuterHdr)
      (a.lyr2Steps (p + FteMatchParam.outerHeaders) matchValue
        ++ (a.lyr3Steps (p + FteMatchParam.outerHeaders) matchValue
          ++ a.lyr4Steps (p + FteMatchParam.outerHeaders) matchValue))) m
      = a.setOuterHeaderFields m p matchValue := by
    intro m
    rw [setOuterHeaderFields, Step.run_onlyIf]
    cases a.enables fgMatchOuterHdr with
    | false => rfl
    | true =>
        simp only [run_ok_append, run_lyr2Steps, Bool.not_true, Bool.false_eq_true, if_true,
          if_false]
        congr 1
        funext m
        rw [run_ok_append, run_lyr3Steps]
        congr 1
        funext m
        apply run_lyr4Steps
  have hmetadata : ∀ m, Step.run .ok (Step.onlyIf (a.enables fgMatchMetadataRegC0)
      (Step.onlyIf (a.mAttr.matchCriteria.matchMetadataRegC0 != 0)
        (Step.sets (p + FteMatchParam.miscParameters2)
          [(FteMatchSetMisc2.metadataRegC0, matchValue.matchMetadataRegC0)]))) m
      = a.setMetadataRegistersFields m p matchValue := by
    intro m
    rw [setMetadataRegistersFields, setMetadataRegister0Field, Step.run_onlyIf, Step.run_onlyIf]
    cases a.enables fgMatchMetadataRegC0 with
    | false => rfl
    | true => cases a.mAttr.matchCriteria.matchMetadataRegC0 != 0 <;> rfl
  rw [steps, run_ok_append, houter, apply]
  congr 1
  funext m
  rw [run_ok_append, run_progSampleSteps]
  congr 1
  funext m
  apply hmetadata

/-- A set of a field of the outer headers. -/
theorem within_outerSet {n outer : Nat} {c : Bool} {f : Field} {v : BitVec 32}
    (hf : 4 * (f.offset / 32) + 4 ≤ 0x40) (h : outer + 0x40 ≤ n) :
  Step.Within Status.ok n (Step.onlyIf c (Step.sets outer [(f, v)]))
  := by
  apply Step.within_onlyIf
  apply Step.within_sets _ _ h
  simpa using hf

theorem within_macCopy {n outer a : Nat} (c : Bool) (mac : Vector (BitVec 8) 8)
    (ha : a + 6 ≤ 0x40) (h : outer + 0x40 ≤ n) :
  Step.Within Status.ok n (Step.onlyIf c [.copy (outer + a) (mac.toList.take 6)])
  := by
  apply Step.within_onlyIf
  apply Step.within_copy
  · rw [length_mac]
    omega
  · apply Step.within_nil

theorem within_lyr2Steps (a : FlowMatcher) {n outer : Nat} (matchValue : MatchParamsEx)
    (h : outer + 0x40 ≤ n) :
  Step.Within .ok n (a.lyr2Steps outer matchValue)
  := by
  apply Step.within_append
  · apply within_macCopy _ _ (by decide) h
  apply Step.within_append
  · apply within_macCopy _ _ (by decide) h
  apply Step.within_append
  · apply within_outerSet (by decide) h
  · apply Step.within_onlyIf
    apply Step.within_sets _ _ h
    simp only [List.map]
    decide

theorem within_lyr3Steps (a : FlowMatcher) {n outer : Nat} (matchValue : MatchParamsEx)
    (h : outer + 0x40 ≤ n) :
  Step.Within .ok n (a.lyr3Steps outer matchValue)
  := by
  apply Step.within_append
  · apply within_outerSet (by decide) h
  apply Step.within_append
  · apply within_outerSet (by decide) h
  apply Step.within_append
  · apply within_outerSet (by decide) h
  · apply within_outerSet (by decide) h

theorem within_portSteps (a : FlowMatcher) {n outer : Nat} (matchValue : MatchParamsEx)
    {dport sport : Field} (hdport : 4 * (dport.offset / 32) + 4 ≤ 0x40)
    (hsport : 4 * (sport.offset / 32) + 4 ≤ 0x40) (h : outer + 0x40 ≤ n) :
  Step.Within .ok n (a.portSteps outer matchValue dport sport)
  := by
  apply Step.within_append
  · apply within_outerSet hdport h
  · apply within_outerSet hsport h

theorem within_lyr4Steps (a : FlowMatcher) {n outer : Nat} (matchValue : MatchParamsEx)
    (h : outer + 0x40 ≤ n) :
  Step.Within .ok n (a.lyr4Steps outer matchValue)
  := by
  rw [lyr4Steps]
  split
  · apply Step.within_nil
  · apply within_portSteps a matchValue (by decide) (by decide) h
  · apply within_portSteps a matchValue (by decide) (by decide) h
  · apply Step.within_failure
    decide

theorem within_sampleSteps {n progr k : Nat} (samples : List ParserSampleField)
    (h : progr + 8 * k ≤ n) :
  Step.Within .ok n (sampleSteps progr samples k)
  := by
  induction k with
  | zero => apply Step.within_nil
  | succ k ih =>
      apply Step.within_append
      · apply Step.within_sets _ _ h
        simp only [List.map, List.forall_mem_cons, FteMatchSetMisc4.progSampleFieldValue,
          FteMatchSetMisc4.progSampleFieldId, List.not_mem_nil]
        refine ⟨by omega, by omega, fun _ hf => hf.elim⟩
      · apply ih
        omega

theorem within_progSampleSteps (a : FlowMatcher) {n p : Nat} (matchValue : MatchParamsEx)
    (h : p + FteMatchParam.bytes ≤ n) :
  Step.Within .ok n (a.progSampleSteps p matchValue)
  := by
  simp only [FteMatchParam.bytes] at h
  simp only [progSampleSteps]
  split
  · apply Step.within_failure
    decide
  · split
    · apply within_sampleSteps
      simp only [FteMatchParam.miscParameters4]
      omega
    · apply Step.within_failure
      decide

/-- A matcher writes to the match parameters only. -/
theorem within_steps (a : FlowMatcher) {n p : Nat} (matchValue : MatchParamsEx)
    (h : p + FteMatchParam.bytes ≤ n) :
  Step.Within .ok n (a.steps p matchValue)
  := by
  have houter : p + FteMatchParam.outerHeaders + 0x40 ≤ n := by
    simp only [FteMatchParam.bytes] at h
    simp only [FteMatchParam.outerHeaders]
    omega
  apply Step.within_append
  · apply Step.within_onlyIf
    apply Step.within_append (within_lyr2Steps a matchValue houter)
    apply Step.within_append (within_lyr3Steps a matchValue houter)
    apply within_lyr4Steps a matchValue houter
  apply Step.within_append
  · apply Step.within_onlyIf
    apply within_progSampleSteps a matchValue h
  · apply Step.within_onlyIf
    apply Step.within_onlyIf
    apply Step.within_sets 0x40
    · simp only [List.map]
      decide
    · simp only [FteMatchParam.bytes] at h
      simp only [FteMatchParam.miscParameters2]
      omega

end FlowMatcher

namespace FlowAction

/-- The steps of the loop of `flow_action_fwd::apply`, at the entry `currDest`. -/
def destSteps (currDest : Nat) : List ForwardableObj → List (Step Status)
  | [] => []
  | dest :: rest =>
      .check (dest.base.getId 0).1
        :: (Step.sets currDest
            [(DestFormatStruct.destinationId, (dest.base.getId 0).2),
              (DestFormatStruct.destinationType, dest.fwdType.value)]
          ++ destSteps (currDest + DestFormatStruct.bytes) rest)

/-- The step that sets a bit of the mask of actions. -/
def enableStep (k : Nat) : Step Status :=
  .set SetFteIn.flowContext FlowContext.action fun m =>
    devxGet m SetFteIn.flowContext FlowContext.action ||| BitVec.twoPow 32 k

/-- The steps of the virtual `flow_action::apply` on a mailbox. -/
def steps (env : Env) : FlowAction → List (Step Status)
  | fwd a =>
      destSteps (SetFteIn.flowContext + FlowContext.destination) a.mDests
        ++ enableStep fwdDestBit
          :: Step.sets SetFteIn.flowContext
            [(FlowContext.destinationListSize, BitVec.ofNat 32 a.mDests.length)]
  | tag a => Step.sets SetFteIn.flowContext [(FlowContext.flowTag, a.mTagId)]
  | modify a =>
      .check (a.prepare env).1 :: enableStep modHdrBit
        :: Step.sets SetFteIn.flowContext
          [(FlowContext.modifyHeaderId, (a.prepare env).2.mModifyId)]
  | reformat a =>
      .check (if !a.mIsValid then .errNotApplied else .ok) :: enableStep packetReformatBit
        :: Step.sets SetFteIn.flowContext [(FlowContext.packetReformatId, a.mReformatId)]
  | reparse => [enableStep reparseBit]

theorem run_destSteps (m : Memory) (p : Nat) (l : List ForwardableObj) :
  Step.run .ok (destSteps p l) m = FlowActionFwd.setDests m p l
  := by
  induction l generalizing m p with
  | nil => rfl
  | cons dest rest ih =>
      rw [destSteps, FlowActionFwd.setDests, Obj.getId]
      cases dest.base.mObjHandle with
      | true =>
          simp only [if_true, Step.run_check_done, run_ok_append, Step.run_sets]
          apply ih
      | false => rfl

/-- `apply` makes its steps. -/
theorem run_steps (env : Env) (a : FlowAction) (m : Memory) :
  Step.run .ok (a.steps env) m = ((a.apply env m).1, (a.apply env m).2.2)
  := by
  cases a with
  | fwd a =>
      rw [steps, run_ok_append, run_destSteps]
      rfl
  | tag => rfl
  | modify a =>
      simp only [steps, apply, FlowActionModify.apply]
      rcases a.prepare env with ⟨ret, a'⟩
      cases ret <;> rfl
  | reformat a =>
      simp only [steps, apply, FlowActionReformat.apply]
      cases a.mIsValid <;> rfl
  | reparse => rfl

theorem within_destSteps {n p : Nat} {l : List ForwardableObj}
    (h : p + DestFormatStruct.bytes * l.length ≤ n) :
  Step.Within .ok n (destSteps p l)
  := by
  induction l generalizing p with
  | nil => apply Step.within_nil
  | cons dest rest ih =>
      rw [List.length_cons, Nat.mul_add_one] at h
      apply Step.within_check
      intro _
      apply Step.within_append
      · apply Step.within_sets DestFormatStruct.bytes
        · simp only [List.map]
          decide
        · omega
      · apply ih
        omega

/-- A step that sets a bit of the mask, and one that sets a field of the flow context. -/
theorem within_enable {n k : Nat} {l : List (Field × BitVec 32)}
    (hl : ∀ f ∈ l.map Prod.fst, 4 * (f.offset / 32) + 4 ≤ 0x20) (h : SetFteIn.bytes ≤ n) :
  Step.Within .ok n (enableStep k :: Step.sets SetFteIn.flowContext l)
  := by
  simp only [SetFteIn.bytes] at h
  apply Step.within_set
  · simp only [SetFteIn.flowContext, FlowContext.action]
    omega
  · apply Step.within_sets _ hl
    simp only [SetFteIn.flowContext]
    omega

/-- An action writes to the mailbox only, if there is room for its destinations. -/
theorem within_steps {env : Env} {a : FlowAction} {n : Nat}
    (h : SetFteIn.bytes + DestFormatStruct.bytes * a.dests.length ≤ n) :
  Step.Within .ok n (a.steps env)
  := by
  have hbytes : SetFteIn.bytes ≤ n := by omega
  cases a with
  | fwd a =>
      apply Step.within_append
      · apply within_destSteps h
      · apply within_enable _ hbytes
        simp only [List.map]
        decide
  | tag a =>
      apply Step.within_sets 0x20
      · simp only [List.map]
        decide
      · simp only [SetFteIn.bytes] at hbytes
        simp only [SetFteIn.flowContext]
        omega
  | modify a =>
      apply Step.within_check
      intro _
      apply within_enable _ hbytes
      simp only [List.map]
      decide
  | reformat a =>
      apply Step.within_check
      intro _
      apply within_enable _ hbytes
      simp only [List.map]
      decide
  | reparse => apply within_enable (l := []) (by simp) hbytes

end FlowAction

namespace FlowRuleExPrm

/-- The steps of `config_flow_rule`. -/
def configSteps (r : FlowRuleExPrm) : List (Step Status) :=
  Step.sets 0
      [(SetFteIn.opcode, mlx5CmdOpSetFlowTableEntry), (SetFteIn.flowIndex, r.mFlowIndex)]
    ++ .check (r.mTable.getTableType 2).1
      :: .set 0 SetFteIn.tableType (fun _ => (r.mTable.getTableType 2).2)
      :: .check (r.mTable.getTableId 0).1
      :: .set 0 SetFteIn.tableId (fun _ => (r.mTable.getTableId 0).2)
      :: .check (r.mGroup.getGroupId 0).1
      :: Step.sets SetFteIn.flowContext [(FlowContext.groupId, (r.mGroup.getGroupId 0).2)]

/-- The steps that fill the mailbox of a rule, whose map gives the actions in the order `order`. -/
def setFteSteps (r : FlowRuleExPrm) (env : Env) (order : List FlowAction) : List (Step Status) :=
  r.configSteps
    ++ (r.mMatcher.steps (SetFteIn.flowContext + FlowContext.matchValue) r.mMatchValue
      ++ order.flatMap (FlowAction.steps env))

theorem run_configSteps (r : FlowRuleExPrm) (m : Memory) :
  Step.run .ok r.configSteps m = r.configFlowRule m
  := by
  rw [configSteps, run_ok_append, Step.run_sets]
  simp only [configFlowRule, FlowTablePrm.getTableType, FlowTablePrm.getTableId,
    FlowGroupPrm.getGroupId]
  cases r.mTable.mIsInitialized with
  | false => rfl
  | true => cases r.mGroup.group.mIsInitialized <;> rfl

theorem run_actionSteps (env : Env) (l : List FlowAction) (m : Memory) :
  Step.run .ok (l.flatMap (FlowAction.steps env)) m
    = ((applyActions env m l).1, (applyActions env m l).2.2)
  := by
  induction l generalizing m with
  | nil => rfl
  | cons a rest ih =>
      rw [List.flatMap_cons, run_ok_append, FlowAction.run_steps, applyActions]
      rcases a.apply env m with ⟨ret, a', m'⟩
      cases ret with
      | ok => apply ih
      | _ => rfl

/-- The mailbox of a rule is filled by its steps. -/
theorem run_setFteSteps (r : FlowRuleExPrm) (env : Env) (order : List FlowAction) :
  Step.run .ok (r.setFteSteps env order) zeros
    = ((r.mailbox env order).1, (r.mailbox env order).2.2)
  := by
  have hbefore : r.beforeActions = Result.andThen (r.configFlowRule zeros)
      (Step.run .ok (r.mMatcher.steps (SetFteIn.flowContext + FlowContext.matchValue)
        r.mMatchValue)) := by
    rw [beforeActions]
    congr 1
    funext m
    rw [FlowMatcher.run_steps]
  rw [setFteSteps, ← List.append_assoc, run_ok_append, run_ok_append, run_configSteps, ← hbefore,
    mailbox]
  rcases r.beforeActions with ⟨ret, m⟩
  cases ret with
  | ok => apply run_actionSteps
  | _ => rfl

/-- The buffer has room for the destinations of the forward action. -/
theorem destListSize_of_mem {r : FlowRuleExPrm} {a : FlowActionFwd}
    (ha : .fwd a ∈ r.mActions.entries) :
  r.destListSize = a.mDests.length
  := by
  rw [destListSize]
  cases hfind : r.mActions.entries.find? (fun a => a.type == .fwd) with
  | none =>
      have hnone := List.find?_eq_none.mp hfind _ ha
      simp [FlowAction.type] at hnone
  | some b =>
      have htype : b.type = .fwd := by simpa using List.find?_some hfind
      have hb := List.mem_of_find?_eq_some hfind
      rw [List.inj_on_of_nodup_map r.mActions.nodup hb ha htype]
      rfl

theorem within_configSteps {r : FlowRuleExPrm} {n : Nat} (h : SetFteIn.bytes ≤ n) :
  Step.Within .ok n r.configSteps
  := by
  simp only [SetFteIn.bytes] at h
  apply Step.within_append
  · apply Step.within_sets 0x24
    · simp only [List.map]
      decide
    · omega
  apply Step.within_check
  intro _
  apply Step.within_set
  · simp only [SetFteIn.tableType]
    omega
  apply Step.within_check
  intro _
  apply Step.within_set
  · simp only [SetFteIn.tableId]
    omega
  apply Step.within_check
  intro _
  apply Step.within_sets 0x20
  · simp only [List.map]
    decide
  · simp only [SetFteIn.flowContext]
    omega

/-- All stores of the encoder lie in the buffer of `alloc_in_buff`. -/
theorem within_setFteSteps {r : FlowRuleExPrm} (env : Env) {order : List FlowAction}
    (hperm : order.Perm r.mActions.entries) :
  Step.Within .ok r.inLen (r.setFteSteps env order)
  := by
  have hbytes : SetFteIn.bytes ≤ r.inLen := by
    rw [inLen]
    omega
  apply Step.within_append
  · apply within_configSteps hbytes
  apply Step.within_append
  · apply FlowMatcher.within_steps
    apply Nat.le_trans _ hbytes
    decide
  · apply Step.within_flatMap
    intro a ha
    apply FlowAction.within_steps
    rw [inLen]
    cases a with
    | fwd a =>
        rw [destListSize_of_mem (hperm.mem_iff.mp ha)]
        rfl
    | _ =>
        simp only [FlowAction.dests, List.length_nil]
        omega

/-- What a rule needs for its mailbox to be filled: its table and its group are created, the matcher
accepts the match value, and each action can be prepared. -/
def Applies (r : FlowRuleExPrm) (env : Env) : Prop :=
  r.mTable.mIsInitialized = true ∧ r.mGroup.group.mIsInitialized = true
    ∧ r.mMatcher.Accepts r.mMatchValue
    ∧ ∀ a ∈ r.mActions.entries, ∃ a', FlowAction.Prepares env a a'

theorem configFlowRule_ok_iff (r : FlowRuleExPrm) (m : Memory) :
  (r.configFlowRule m).1 = .ok
    ↔ r.mTable.mIsInitialized = true ∧ r.mGroup.group.mIsInitialized = true
  := by
  simp only [configFlowRule, FlowTablePrm.getTableType, FlowTablePrm.getTableId,
    FlowGroupPrm.getGroupId]
  cases r.mTable.mIsInitialized with
  | false => simp
  | true => cases r.mGroup.group.mIsInitialized <;> simp

theorem exists_prepared_list {env : Env} {l : List FlowAction}
    (h : ∀ a ∈ l, ∃ a', FlowAction.Prepares env a a') :
  ∃ l', List.Forall₂ (FlowAction.Prepares env) l l'
  := by
  induction l with
  | nil => exact ⟨[], .nil⟩
  | cons a rest ih =>
      obtain ⟨a', ha'⟩ := h a List.mem_cons_self
      obtain ⟨rest', hrest⟩ := ih (fun b hb => h b (List.mem_cons_of_mem a hb))
      exact ⟨a' :: rest', .cons ha' hrest⟩

/-- The mailbox of a rule is filled exactly if the rule has what it needs. -/
theorem mailbox_ok_iff {r : FlowRuleExPrm} {env : Env} {order : List FlowAction}
    (hperm : order.Perm r.mActions.entries) :
  (r.mailbox env order).1 = .ok ↔ r.Applies env
  := by
  constructor
  · intro h
    have hmailbox : r.mailbox env order
        = (.ok, (r.mailbox env order).2.1, (r.mailbox env order).2.2) := Prod.ext h rfl
    obtain ⟨m₀, hbefore, -, hforall, -⟩ := mailbox_eq_ok hmailbox
    obtain ⟨m₁, hconfig, hmatch⟩ := Result.andThen_eq_ok.mp hbefore
    have hinit := (configFlowRule_ok_iff r zeros).mp (congrArg Prod.fst hconfig)
    refine ⟨hinit.1, hinit.2, FlowMatcher.accepts_of_apply hmatch, ?_⟩
    intro a ha
    obtain ⟨a', -, hprepares⟩ := exists_prepared hforall (hperm.mem_iff.mpr ha)
    exact ⟨a', hprepares⟩
  · rintro ⟨htable, hgroup, haccepts, hactions⟩
    have hconfig : r.configFlowRule zeros = (.ok, (r.configFlowRule zeros).2) :=
      Prod.ext ((configFlowRule_ok_iff r zeros).mpr ⟨htable, hgroup⟩) rfl
    obtain ⟨m₁, hmatch⟩ := FlowMatcher.apply_ok haccepts (r.configFlowRule zeros).2
      (SetFteIn.flowContext + FlowContext.matchValue)
    have hbefore : r.beforeActions = (.ok, m₁) := Result.andThen_eq_ok.mpr ⟨_, hconfig, hmatch⟩
    obtain ⟨l, hforall⟩ := exists_prepared_list (fun a ha => hactions a (hperm.mem_iff.mp ha))
    obtain ⟨m₂, happly⟩ := applyActions_of_prepares hforall m₁
    simp only [mailbox, hbefore, happly]

/-- The destinations of a mailbox of `inLen` bytes, each by its type and its id. -/
def decodeDests (m : Memory) (inLen : Nat) : List (BitVec 32 × BitVec 32) :=
  (List.range ((inLen - SetFteIn.bytes) / DestFormatStruct.bytes)).map fun i =>
    let dest := SetFteIn.flowContext + FlowContext.destination + DestFormatStruct.bytes * i
    (devxGet m dest DestFormatStruct.destinationType, devxGet m dest DestFormatStruct.destinationId)

/-- The destinations of a rule are read back from its mailbox, each in its place. -/
theorem decodeDests_of_mailbox {r : FlowRuleExPrm} {env : Env} {order l : List FlowAction}
    {m : Memory} (hperm : order.Perm r.mActions.entries) (h : r.mailbox env order = (.ok, l, m))
    {a : FlowActionFwd} (ha : .fwd a ∈ r.mActions.entries) :
  decodeDests m r.inLen = a.mDests.map fun dest => (dest.fwdType.value, dest.base.mId)
  := by
  have hlength : (r.inLen - SetFteIn.bytes) / DestFormatStruct.bytes = a.mDests.length := by
    rw [inLen, destListSize_of_mem ha, Nat.add_sub_cancel_left]
    apply Nat.mul_div_cancel_left
    decide
  rw [decodeDests, hlength]
  apply map_range_of_getElem?
  intro i dest hdest
  obtain ⟨htype, hid⟩ := (decodes_of_mailbox hperm h).dest a ha i dest hdest
  apply Prod.ext htype hid

end FlowRuleExPrm

end Dpcp
