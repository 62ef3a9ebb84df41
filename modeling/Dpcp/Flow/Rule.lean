import Dpcp.Flow.DestFormats
import Dpcp.Flow.RuleKernel
import Dpcp.Ownership

/-!
# Legacy flow rules

A `flow_rule` collects a match value, a flow id and destinations, and `apply_settings` makes a
verbs flow from them.  What was changed since is told by one flag, `m_changed`; the getters report
`DPCP_ERR_NOT_APPLIED` if it is set and there is a flow.

The flows the rule has made, and what was changed since the last of them, are kept beside the
rule, to compare the flag with.
-/

namespace Dpcp

open Machine Bits Dcmd Prm Owner

/-! ### The rule -/

/-- The union of an IPv4 and an IPv6 address. -/
structure IpAddr where
  ipv6 : Vector (BitVec 8) 16

/-- `ipv4`: the first word, on a little-endian host. -/
def IpAddr.ipv4 (ip : IpAddr) : BitVec 32 :=
  ip.ipv6[3] ++ ip.ipv6[2] ++ ip.ipv6[1] ++ ip.ipv6[0]

/-- `struct match_params`. -/
structure MatchParams where
  dstMac : Vector (BitVec 8) 8
  ethertype : BitVec 16
  vlanId : BitVec 16
  dstIp : BitVec 32
  srcIp : BitVec 32
  dstPort : BitVec 16
  srcPort : BitVec 16
  protocol : BitVec 8
  ipVersion : BitVec 8
  dst : IpAddr
  src : IpAddr

/-- Parameters that are all zero. -/
def MatchParams.empty : MatchParams where
  dstMac := zeroMac
  ethertype := 0
  vlanId := 0
  dstIp := 0
  srcIp := 0
  dstPort := 0
  srcPort := 0
  protocol := 0
  ipVersion := 0
  dst := ⟨.replicate 16 0⟩
  src := ⟨.replicate 16 0⟩

/-- `class flow_rule`; a TIR is given by its address. -/
structure FlowRule where
  base : Obj
  mMask : MatchParams
  mValue : MatchParams
  mDstTir : List Nat
  mFlow : Option Flow
  mFlowId : BitVec 32
  mPriority : BitVec 16
  mChanged : Bool

/-- What the world outside decides while a rule is applied: whether there is memory for the
destinations, what the TIRs are, what stands in the new arrays of handles and formats, and the verbs
library. -/
structure FlowRuleEnv where
  alloc : Bool
  tir : Nat → Obj
  heap : Nat → ForwardableObj
  formatHeap : Memory
  verbs : Verbs

/-- A `flow_desc` with its `dst_formats`. -/
structure FlowRuleDesc extends FlowDesc where
  dstFormats : Memory

namespace FlowRule

/-- The constructor of `flow_rule`. -/
def new (ctx : Bool) (priority : BitVec 16) (matchCriteria : MatchParams) : FlowRule where
  base := .new ctx
  mMask := matchCriteria
  mValue := .empty
  mDstTir := []
  mFlow := none
  mFlowId := 0
  mPriority := priority
  mChanged := false

/-- `set_match_value`. -/
def setMatchValue (r : FlowRule) (val : MatchParams) : Result FlowRule :=
  (.ok, { r with mValue := val, mChanged := true })

/-- `get_match_value`. -/
def getMatchValue (r : FlowRule) : Result MatchParams :=
  (if r.mChanged && r.mFlow.isSome then .errNotApplied else .ok, r.mValue)

/-- `set_flow_id`. -/
def setFlowId (r : FlowRule) (flowId : BitVec 32) : Result FlowRule :=
  if 0xFFFFF < flowId then
    (.errOutOfRange, r)
  else
    (.ok, { r with mFlowId := flowId, mChanged := true })

/-- `get_flow_id`. -/
def getFlowId (r : FlowRule) : Result (BitVec 32) :=
  (if r.mChanged && r.mFlow.isSome then .errNotApplied else .ok, r.mFlowId)

/-- `add_dest_tir`. -/
def addDestTir (r : FlowRule) (tr : Nat) : Result FlowRule :=
  if tr = 0 then
    (.errInvalidParam, r)
  else
    (.ok, { r with mDstTir := r.mDstTir ++ [tr], mChanged := true })

/-- `remove_dest_tir`, which sets the flag when there is nothing to remove. -/
def removeDestTir (r : FlowRule) (dstTir : Nat) : Result FlowRule :=
  if dstTir ∈ r.mDstTir then
    (.ok, { r with mDstTir := r.mDstTir.filter (fun tr => tr ≠ dstTir) })
  else
    (.errInvalidParam, { r with mChanged := true })

/-! ### The buffers of `apply_settings` -/

/-- The fields that both buffers start with; `select` is the mask, `params` what is written. -/
def setHeader (m : Memory) (select params : MatchParams) : Memory :=
  let m := devxSet m 0 FteMatchSetLyr24.ethertype (params.ethertype.setWidth 32)
  let m :=
    if select.vlanId ≠ 0 then
      let m := devxSet m 0 FteMatchSetLyr24.cvlanTag 0x1
      devxSet m 0 FteMatchSetLyr24.firstVid (params.vlanId.setWidth 32)
    else m
  let m := devxSet m 0 FteMatchSetLyr24.ipProtocol (params.protocol.setWidth 32)
  if select.ipVersion ≠ 0 then
    devxSet m 0 FteMatchSetLyr24.ipVersion (params.ipVersion.setWidth 32)
  else m

/-- The destination MAC, if the mask has one. -/
def setMac (m : Memory) (select params : MatchParams) : Memory :=
  if select.dstMac ≠ zeroMac then
    copyEtherMac m FteMatchSetLyr24.dmac4716 params.dstMac
  else m

/-- Whether the addresses are taken from the deprecated fields. -/
def deprecatedIp (params : MatchParams) : Bool :=
  (params.srcIp ≠ 0 ∨ params.srcIp = params.src.ipv4)
    && (params.dstIp ≠ 0 ∨ params.dstIp = params.dst.ipv4)

/-- The IP addresses, if ethertype and IP version are matched in full. -/
def setIp (m : Memory) (mask value params : MatchParams) : Memory :=
  let m :=
    if (mask.ethertype = 0xffff ∧ value.ethertype = 0x0800)
        ∧ mask.ipVersion = 0xf ∧ value.ipVersion = 4 then
      if deprecatedIp params then
        let m := devxSet m 0 FteMatchSetLyr24.srcIpv4 params.srcIp
        devxSet m 0 FteMatchSetLyr24.dstIpv4 params.dstIp
      else
        let m := devxSet m 0 FteMatchSetLyr24.srcIpv4 params.src.ipv4
        devxSet m 0 FteMatchSetLyr24.dstIpv4 params.dst.ipv4
    else m
  if (mask.ethertype = 0xffff ∧ value.ethertype = 0x86DD)
      ∧ mask.ipVersion = 0xf ∧ value.ipVersion = 6 then
    let m := copyBytes m FteMatchSetLyr24.srcIpv6 params.src.ipv6.toList
    copyBytes m FteMatchSetLyr24.dstIpv6 params.dst.ipv6.toList
  else m

/-- The ports, in the fields for TCP if the value's protocol is TCP. -/
def setPorts (m : Memory) (value params : MatchParams) : Memory :=
  if value.protocol ≠ 6 then
    let m := devxSet m 0 FteMatchSetLyr24.udpDport (params.dstPort.setWidth 32)
    devxSet m 0 FteMatchSetLyr24.udpSport (params.srcPort.setWidth 32)
  else
    let m := devxSet m 0 FteMatchSetLyr24.tcpDport (params.dstPort.setWidth 32)
    devxSet m 0 FteMatchSetLyr24.tcpSport (params.srcPort.setWidth 32)

/-- The buffer of the match criteria. -/
def criteria (mask value : MatchParams) : Memory :=
  let m := setHeader zeros mask mask
  let m := setMac m mask mask
  let m := setIp m mask value mask
  setPorts m value mask

/-- The buffer of the match value. -/
def values (mask value : MatchParams) : Memory :=
  let m := setHeader zeros mask value
  let m := setPorts m value value
  let m := setMac m mask value
  setIp m mask value value

/-- The handle of the destination at the index `i`.  A TIR without a handle leaves what the array
had. -/
def dstTirObj (env : FlowRuleEnv) (i tr : Nat) : ForwardableObj :=
  if (env.tir tr).mObjHandle then ⟨env.tir tr, .tir⟩ else env.heap i

/-- The format of a destination; a TIR without a handle has none. -/
def dstFormat (env : FlowRuleEnv) (tr : Nat) : Option DestFormat :=
  if (env.tir tr).mObjHandle then some ⟨.tir, ((env.tir tr).getId 0).2⟩ else none

/-- The flow description that `apply_settings` fills. -/
def desc (r : FlowRule) (env : FlowRuleEnv) : FlowRuleDesc :=
  { FlowDesc.new with
    matchCriteria := criteria r.mMask r.mValue
    matchValue := values r.mMask r.mValue
    priority := r.mPriority
    flowId := r.mFlowId
    dstObj := r.mDstTir.mapIdx (dstTirObj env)
    dstFormats := Dpcp.dstFormats env.formatHeap (r.mDstTir.map (dstFormat env)) }

/-- The status with which `apply_settings` ends before it asks for a flow, if it does. -/
def refuses (r : FlowRule) (env : FlowRuleEnv) : Option Status :=
  if !r.base.mCtx then
    some .errNoContext
  else if r.mDstTir.length = 0 then
    some .errNotApplied
  else if !env.alloc then
    some .errNoMemory
  else
    none

theorem refuses_ne_ok {r : FlowRule} {env : FlowRuleEnv} {ret : Status}
    (h : r.refuses env = some ret) :
  ret ≠ .ok
  := by
  rintro rfl
  simp only [refuses] at h
  repeat' split at h
  all_goals cases h

/-- `apply_settings`. -/
def applySettings (r : FlowRule) (env : FlowRuleEnv) : Result FlowRule :=
  match r.refuses env with
  | some ret => (ret, r)
  | none =>
      let flow := Flow.new env.verbs (r.desc env).toFlowDesc
      (if flow.isNone then .errCreate else .ok, { r with mFlow := flow, mChanged := false })

/-- `revoke_settings`. -/
def revokeSettings (r : FlowRule) : Result FlowRule :=
  (.ok, { r with mFlow := none })

end FlowRule

/-! ### Calls -/

/-- A call on a rule, with what the world outside decides during it; `destroys` tells whether the
verbs library destroys the flow. -/
inductive FlowRuleCall where
  | setMatchValue (val : MatchParams)
  | setFlowId (flowId : BitVec 32)
  | addDestTir (tr : Nat)
  | removeDestTir (tr : Nat)
  | applySettings (env : FlowRuleEnv)
  | revokeSettings (destroys : Bool)

namespace FlowRule

/-- The status of a call, and the rule after it. -/
def call (r : FlowRule) : FlowRuleCall → Result FlowRule
  | .setMatchValue val => r.setMatchValue val
  | .setFlowId flowId => r.setFlowId flowId
  | .addDestTir tr => r.addDestTir tr
  | .removeDestTir tr => r.removeDestTir tr
  | .applySettings env => r.applySettings env
  | .revokeSettings _ => r.revokeSettings

/-- The flow that a call asks for, and whether the verbs library makes it. -/
def asksFlow (r : FlowRule) : FlowRuleCall → Option Bool
  | .applySettings env =>
      if (r.refuses env).isSome then none
      else some (Flow.new env.verbs (r.desc env).toFlowDesc).isSome
  | _ => none

/-- What a call does with the flow. -/
def op (r : FlowRule) (c : FlowRuleCall) : Op Slot :=
  match r.asksFlow c, c with
  | some true, _ => .acquire .flow
  | some false, _ => .clear .flow
  | none, .revokeSettings destroys => if destroys then .release .flow else .clear .flow
  | none, _ => .keep

/-- The rule knows whether it has a flow after a call. -/
theorem holding_call (r : FlowRule) (c : FlowRuleCall) (hw : Bool) :
  Slot.holding hw (r.call c).2.mFlow.isSome
    = (r.op c).after (Slot.holding hw r.mFlow.isSome)
  := by
  cases c with
  | setMatchValue val => rfl
  | setFlowId flowId =>
      simp only [call, setFlowId]
      split <;> rfl
  | addDestTir tr =>
      simp only [call, addDestTir]
      split <;> rfl
  | removeDestTir tr =>
      simp only [call, removeDestTir]
      split <;> rfl
  | applySettings env =>
      simp only [call, applySettings, op, asksFlow]
      cases hrefuses : r.refuses env with
      | some ret => rfl
      | none =>
          cases hflow : Flow.new env.verbs (r.desc env).toFlowDesc <;>
            simp only [Option.isSome_none, Option.isSome_some, Bool.false_eq_true, if_false] <;>
            funext k <;> cases k <;> rfl
  | revokeSettings destroys =>
      funext k
      cases destroys <;> cases k <;> rfl

end FlowRule

/-! ### What was changed -/

/-- A rule, with the flows it has made, and whether the match value, the flow id or the destinations
were changed since the last `apply_settings` that succeeded. -/
structure AppliedRule where
  rule : FlowRule
  flows : Holdings Slot
  changed : Bool

namespace AppliedRule

/-- A rule that was just constructed. -/
def new (ctx : Bool) (priority : BitVec 16) (matchCriteria : MatchParams) : AppliedRule :=
  ⟨.new ctx priority matchCriteria, .new, false⟩

/-- Whether there are changes after a call that returned `ret`. -/
def changes (changed : Bool) (ret : Status) : FlowRuleCall → Bool
  | .applySettings _ => changed && ret ≠ .ok
  | .revokeSettings _ => changed
  | _ => changed || ret = .ok

/-- The rule after a call. -/
def step (s : AppliedRule) (c : FlowRuleCall) : AppliedRule :=
  { rule := (s.rule.call c).2
    flows := s.flows.step (s.rule.op c)
    changed := changes s.changed (s.rule.call c).1 c }

/-- A flow of the rule is there, and something was changed. -/
def Outdated (s : AppliedRule) : Prop :=
  (∃ i, s.flows.Live i) ∧ s.changed = true

/-- The getters report what was changed. -/
def Reports (s : AppliedRule) : Prop :=
  (s.rule.getMatchValue.1 = .errNotApplied ↔ s.Outdated)
    ∧ (s.rule.getFlowId.1 = .errNotApplied ↔ s.Outdated)

/-- No flow of the rule is there. -/
def NoFlow (s : AppliedRule) : Prop :=
  ∀ i, ¬ s.flows.Live i

/-- The calls after which the getters still report what was changed.  A destination is removed from
a rule with a flow only while the flag is set.  The rule is changed without a flow only if it has
lost none, and a flow is not made, or revoked, only if none is left where something was changed. -/
def Keeps (s : AppliedRule) : FlowRuleCall → Prop
  | .setMatchValue _ => s.rule.mFlow = none → s.NoFlow
  | .setFlowId flowId => flowId ≤ 0xFFFFF → s.rule.mFlow = none → s.NoFlow
  | .addDestTir tr => tr ≠ 0 → s.rule.mFlow = none → s.NoFlow
  | .removeDestTir tr =>
      if s.rule.mFlow.isSome then s.rule.mChanged = true else tr ∈ s.rule.mDstTir → s.NoFlow
  | .applySettings env =>
      s.rule.asksFlow (.applySettings env) = some false → s.changed = true → s.NoFlow
  | .revokeSettings destroys =>
      s.changed = true → ∀ i, s.flows.Live i → s.flows.held .flow = some i ∧ destroys = true

/-- What every call keeps. -/
structure Inv (s : AppliedRule) : Prop where
  flows : s.flows.Inv
  noHw : s.flows.held .hw = none
  knows : s.rule.mFlow.isSome = (s.flows.held .flow).isSome

theorem inv_new (ctx : Bool) (priority : BitVec 16) (matchCriteria : MatchParams) :
  (new ctx priority matchCriteria).Inv
  := ⟨Holdings.inv_new, rfl, rfl⟩

theorem inv_step {s : AppliedRule} (hs : s.Inv) (c : FlowRuleCall) :
  (s.step c).Inv
  := by
  -- the rule and the holdings agree on every slot
  have hholds : Slot.holding false s.rule.mFlow.isSome
      = fun k => (s.flows.held k).isSome := by
    funext k
    cases k with
    | hw =>
        rw [hs.noHw]
        rfl
    | flow => apply hs.knows
  have hknows (k : Slot) : Slot.holding false (s.step c).rule.mFlow.isSome k
      = ((s.step c).flows.held k).isSome := by
    have hstep := Holdings.isSome_held_step s.flows (s.rule.op c) k
    rw [← hholds, ← FlowRule.holding_call] at hstep
    apply hstep.symm
  refine ⟨Holdings.inv_step hs.flows _, ?_, hknows .flow⟩
  apply Option.not_isSome_iff_eq_none.mp
  rw [← hknows .hw]
  apply Bool.false_ne_true

/-- The getters look at the flag and at the flow: with a flow the flag has to be right, and without
one there must be nothing to report. -/
theorem Inv.reports_iff {s : AppliedRule} (hs : s.Inv) :
  s.Reports ↔ if s.rule.mFlow.isSome then s.rule.mChanged = s.changed
    else s.changed = true → s.NoFlow
  := by
  have hflag : s.Reports ↔ ((s.rule.mChanged && s.rule.mFlow.isSome) = true ↔ s.Outdated) := by
    cases hreport : (s.rule.mChanged && s.rule.mFlow.isSome) <;>
      simp [Reports, FlowRule.getMatchValue, FlowRule.getFlowId, hreport]
  rw [hflag, Outdated]
  cases hsome : s.rule.mFlow.isSome with
  | true =>
      have hlive : ∃ i, s.flows.Live i := by
        obtain ⟨i, hi⟩ := Option.isSome_iff_exists.mp (hs.knows.symm.trans hsome)
        exact ⟨i, hs.flows.heldLive .flow i hi⟩
      simp only [Bool.and_true, hlive, true_and, if_true]
      exact Bool.eq_iff_iff.symm
  | false =>
      simp only [Bool.and_false, Bool.false_eq_true, if_false, false_iff, NoFlow]
      constructor
      · intro h hchanged i hi
        exact h ⟨⟨i, hi⟩, hchanged⟩
      · rintro h ⟨⟨i, hi⟩, hchanged⟩
        exact h hchanged i hi

/-- The three setters: they fail and leave the rule as it is, or change it and set the flag. -/
theorem reports_setter_iff {s : AppliedRule} (hs : s.Inv) (h : s.Reports) {c : FlowRuleCall}
    {fails : Prop} [Decidable fails] {ret : Status} {r : FlowRule}
    (hstep : s.step c = ⟨(s.rule.call c).2, s.flows, s.changed || (s.rule.call c).1 = .ok⟩)
    (hcall : s.rule.call c = if fails then (ret, s.rule) else (.ok, r)) (hret : ret ≠ .ok)
    (hflow : r.mFlow = s.rule.mFlow) (hflag : r.mChanged = true) :
  (s.step c).Reports ↔ (¬ fails → s.rule.mFlow = none → s.NoFlow)
  := by
  rw [hcall] at hstep
  by_cases hfails : fails
  · rw [if_pos hfails] at hstep
    simp only [hret, decide_false, Bool.or_false] at hstep
    rw [hstep]
    exact iff_of_true h fun hnot => absurd hfails hnot
  · rw [if_neg hfails] at hstep
    simp only [decide_true, Bool.or_true] at hstep
    rw [(inv_step hs c).reports_iff, hstep, hflow, hflag]
    simp only [hfails, not_false_eq_true, forall_const]
    cases s.rule.mFlow with
    | some flow => simp
    | none => simp [NoFlow]

theorem reports_removeDestTir_iff {s : AppliedRule} (hs : s.Inv) (h : s.Reports) (tr : Nat) :
  (s.step (.removeDestTir tr)).Reports ↔ s.Keeps (.removeDestTir tr)
  := by
  rw [hs.reports_iff] at h
  rw [(inv_step hs _).reports_iff, Keeps]
  by_cases hmem : tr ∈ s.rule.mDstTir
  · simp [step, FlowRule.call, FlowRule.removeDestTir, hmem, changes, NoFlow, FlowRule.op,
      FlowRule.asksFlow, Holdings.step]
  · cases hsome : s.rule.mFlow.isSome with
    | true =>
        rw [hsome, if_pos rfl] at h
        simp [step, FlowRule.call, FlowRule.removeDestTir, hmem, hsome, changes, h]
    | false =>
        rw [hsome, if_neg Bool.false_ne_true] at h
        simpa [step, FlowRule.call, FlowRule.removeDestTir, hmem, hsome, changes, NoFlow,
          FlowRule.op, FlowRule.asksFlow, Holdings.step] using h

theorem reports_applySettings_iff {s : AppliedRule} (hs : s.Inv) (h : s.Reports)
    (env : FlowRuleEnv) :
  (s.step (.applySettings env)).Reports ↔ s.Keeps (.applySettings env)
  := by
  cases hrefuses : s.rule.refuses env with
  | some ret =>
      have hstep : s.step (.applySettings env) = s := by
        simp [step, FlowRule.call, FlowRule.applySettings, FlowRule.op, FlowRule.asksFlow,
          hrefuses, Holdings.step, changes, FlowRule.refuses_ne_ok hrefuses]
      rw [hstep]
      refine iff_of_true h ?_
      simp [Keeps, FlowRule.asksFlow, hrefuses]
  | none =>
      rw [(inv_step hs _).reports_iff]
      cases hflow : Flow.new env.verbs (s.rule.desc env).toFlowDesc <;>
        simp [step, FlowRule.call, FlowRule.applySettings, FlowRule.op, FlowRule.asksFlow, hrefuses,
          hflow, changes, Keeps, NoFlow, Holdings.step, Holdings.Live]

theorem reports_revokeSettings_iff {s : AppliedRule} (hs : s.Inv) (destroys : Bool) :
  (s.step (.revokeSettings destroys)).Reports ↔ s.Keeps (.revokeSettings destroys)
  := by
  have hlive (i : Nat) : (s.step (.revokeSettings destroys)).flows.Live i
      ↔ s.flows.Live i ∧ ¬ (s.flows.held .flow = some i ∧ destroys = true) := by
    cases destroys <;>
      simp [step, FlowRule.op, FlowRule.asksFlow, Holdings.step, Holdings.Live, and_assoc, eq_comm]
  have hflow : (s.step (.revokeSettings destroys)).rule.mFlow = none := rfl
  have hchanged : (s.step (.revokeSettings destroys)).changed = s.changed := rfl
  rw [(inv_step hs _).reports_iff, hflow, hchanged, Keeps, NoFlow]
  have hgone : (∀ i, ¬ (s.flows.Live i ∧ ¬ (s.flows.held .flow = some i ∧ destroys = true)))
      ↔ ∀ i, s.flows.Live i → s.flows.held .flow = some i ∧ destroys = true := by
    apply forall_congr'
    intro i
    rw [not_and, not_not]
  simp only [Option.isSome_none, Bool.false_eq_true, if_false, hlive, hgone]

/-- From a state in which the getters are right, a call that is asked for is one after which they
are. -/
theorem reports_step_iff {s : AppliedRule} (hs : s.Inv) (h : s.Reports) (c : FlowRuleCall) :
  (s.step c).Reports ↔ s.Keeps c
  := by
  cases c with
  | setMatchValue val =>
      have hcall : s.rule.call (.setMatchValue val) = if False then (.errInvalidParam, s.rule)
          else (.ok, { s.rule with mValue := val, mChanged := true }) := (if_neg id).symm
      rw [reports_setter_iff hs h rfl hcall (by decide) rfl rfl, not_false_eq_true, forall_const]
      exact Iff.rfl
  | setFlowId flowId =>
      have hiff := reports_setter_iff (c := .setFlowId flowId) hs h rfl rfl (by decide) rfl rfl
      rw [hiff, BitVec.not_lt]
      exact Iff.rfl
  | addDestTir tr => exact reports_setter_iff hs h rfl rfl (by decide) rfl rfl
  | removeDestTir tr => apply reports_removeDestTir_iff hs h
  | applySettings env => apply reports_applySettings_iff hs h
  | revokeSettings destroys => apply reports_revokeSettings_iff hs

/-- In every state of a run the getters return `DPCP_ERR_NOT_APPLIED` exactly if a flow of the rule
is there and something was changed since the last `apply_settings` that succeeded, just if every
call of the run is one that is asked for: a destination is removed from a rule with a flow only
while the flag is set, and a rule without one is not changed while a flow that it has lost is
there. -/
theorem reports_run_iff (ctx : Bool) (priority : BitVec 16) (matchCriteria : MatchParams)
    (calls : List FlowRuleCall) :
  (∀ calls', calls' <+: calls → (run step (new ctx priority matchCriteria) calls').Reports)
    ↔ Along step Keeps (new ctx priority matchCriteria) calls
  := by
  have hinv := inv_new ctx priority matchCriteria
  apply forall_prefix_iff_along (I := Inv) _ _ hinv
  · apply hinv.reports_iff.mpr
    intro hchanged
    cases hchanged
  · intro s c _ hs h
    apply reports_step_iff hs h
  · intro s c _ hs _ _
    apply inv_step hs

/-- A world that makes every flow. -/
def accepting : FlowRuleEnv :=
  ⟨true, fun _ => .new true, fun _ => ⟨.new true, .tir⟩, zeros,
    ⟨fun _ => true, fun _ _ => true, fun _ _ => true⟩⟩

/-- A rule with two destinations that is applied. -/
def twoDests : List FlowRuleCall :=
  [.addDestTir 0x1000, .addDestTir 0x2000, .applySettings accepting]

/-- It is applied again, after its flow id was changed. -/
theorem reports_setFlowId :
  (run step (new true 0 .empty) (twoDests ++ [.setFlowId 5])).rule.getFlowId
      = (.errNotApplied, 5)
    ∧ ∀ calls', calls' <+: twoDests ++ [.setFlowId 5, .applySettings accepting] →
      (run step (new true 0 .empty) calls').Reports
  := by
  refine ⟨rfl, (reports_run_iff true 0 .empty _).mpr ?_⟩
  have hnone : (new true 0 .empty).NoFlow := fun i hi => Nat.not_lt_zero i hi.1
  refine ⟨fun _ _ => hnone, fun _ _ => hnone, nofun, nofun, nofun, trivial⟩

/-- A destination is removed from a rule that is applied, and the getters do not report it. -/
theorem not_reports_removeDestTir :
  (run step (new true 0 .empty) (twoDests ++ [.removeDestTir 0x1000])).rule.mDstTir = [0x2000]
    ∧ ¬ (run step (new true 0 .empty) (twoDests ++ [.removeDestTir 0x1000])).Reports
  := by
  refine ⟨rfl, ?_⟩
  rintro ⟨hreports, -⟩
  have hlive : (run step (new true 0 .empty)
      (twoDests ++ [.removeDestTir 0x1000])).flows.Live 0 :=
    ⟨Nat.one_pos, List.not_mem_nil⟩
  cases hreports.mpr ⟨⟨0, hlive⟩, rfl⟩

end AppliedRule

end Dpcp
