import Dpcp.GeneralObject
import Dpcp.Machine.Run
import Dpcp.Parser.Mailbox

/-!
# Queries of a parser graph node

`parser_graph_node::query` asks the device for the node and appends the ids of the samples that the
device says are enabled to those it has from earlier queries.  It reports an error if there are then
not as many ids as samples of the node.
-/

namespace Dpcp

open Bits Dcmd Prm Machine

namespace ParserGraphNode

/-- `class parser_graph_node`, with `m_sample_ids`. -/
structure Sampled extends ParserGraphNode where
  mSampleIds : List (BitVec 32)

/-- The mailbox of `query`; the id is that of `parser_graph_node::get_id`. -/
def queryMailbox (node : ParserGraphNode) : Memory :=
  queryGeneralObject mlx5GeneralObjectTypesParseGraphNode node.mParserGraphNodeId

/-- The address of the slot of the sample with the index `i` in what the device answers. -/
def outSlot (i : Nat) : Nat :=
  CreateParseGraphNodeOut.node + ParseGraphNode.flowMatchSample
    + ParseGraphFlowMatchSample.bytes * i

/-- The loop of `query`, from the address `sampleOffset` on. -/
def pushSampleIds (out : Memory) :
    List (BitVec 32) → Nat → List ParseGraphFlowMatchSampleAttr → List (BitVec 32)
  | sampleIds, _, [] => sampleIds
  | sampleIds, sampleOffset, _ :: samples =>
      let sampleIds :=
        if devxGet out sampleOffset ParseGraphFlowMatchSample.flowMatchSampleEn ≠ 0 then
          sampleIds ++ [devxGet out sampleOffset ParseGraphFlowMatchSample.flowMatchSampleFieldId]
        else sampleIds
      pushSampleIds out sampleIds (sampleOffset + ParseGraphFlowMatchSample.bytes) samples

namespace Sampled

/-- `parser_graph_node::get_sample_ids`. -/
def getSampleIds (node : Sampled) : List (BitVec 32) :=
  node.mSampleIds

/-- `parser_graph_node::query`; there is no result without a `dcmd::obj`. -/
def query (node : Sampled) (answers : Answers) : Option (Result Sampled) := do
  let (ret, base, out) ← node.base.query answers node.queryMailbox GeneralObjInCmdHdr.bytes zeros
    CreateParseGraphNodeOut.bytes
  let node := { node with base := base }
  match ret with
  | .ok =>
      let sampleIds := pushSampleIds out node.mSampleIds (outSlot 0) node.mAttrs.samples
      let node := { node with mSampleIds := sampleIds }
      if node.mAttrs.samples.length ≠ node.mSampleIds.length then
        some (.errQuery, node)
      else
        some (.ok, node)
  | _ => some (.errQuery, node)

/-- The node after a query; without a result it stays as it is. -/
def step (node : Sampled) (answers : Answers) : Sampled :=
  ((node.query answers).map Prod.snd).getD node

/-- The query succeeds and leaves the ids `ids`. -/
def Leaves (ids : List (BitVec 32)) (node : Sampled) (answers : Answers) : Prop :=
  ∃ node', node.query answers = some (.ok, node') ∧ node'.getSampleIds = ids

end Sampled

/-! ### A device that echoes the node -/

/-- The ids of the enabled samples of a list, in its order, where the first has the index `k`. -/
def enabledIds (ids : Nat → BitVec 32) (k : Nat) (samples : List ParseGraphFlowMatchSampleAttr) :
    List (BitVec 32) :=
  ((samples.zipIdx k).filter (fun sample => sample.1.enabled)).map (fun sample => ids sample.2)

/-- The answer has the samples of the list from the `k`-th slot on, and an id for each enabled
one. -/
def EchoesFrom (ids : Nat → BitVec 32) (out : Memory) (k : Nat)
    (samples : List ParseGraphFlowMatchSampleAttr) : Prop :=
  ∀ i sample, samples[i]? = some sample →
    devxGet out (outSlot (k + i)) ParseGraphFlowMatchSample.flowMatchSampleEn
        = (if sample.enabled then 1 else 0)
      ∧ (sample.enabled = true →
        devxGet out (outSlot (k + i)) ParseGraphFlowMatchSample.flowMatchSampleFieldId
          = ids (k + i))

/-- The device answers a query with the node and an id for each enabled sample. -/
structure Echoes (ids : Nat → BitVec 32) (node : ParserGraphNode) (answers : Answers) : Prop where
  ok : (answers node.queryMailbox GeneralObjInCmdHdr.bytes).Ok
  samples : EchoesFrom ids (answers node.queryMailbox GeneralObjInCmdHdr.bytes).out 0
    node.mAttrs.samples

theorem enabledIds_cons (ids : Nat → BitVec 32) (k : Nat) (sample : ParseGraphFlowMatchSampleAttr)
    (samples : List ParseGraphFlowMatchSampleAttr) :
  enabledIds ids k (sample :: samples)
    = (if sample.enabled then [ids k] else []) ++ enabledIds ids (k + 1) samples
  := by
  rw [enabledIds, List.zipIdx_cons, List.filter_cons]
  split
  · rfl
  · rfl

/-- There are as many ids as samples only if all of them are enabled. -/
theorem length_enabledIds_iff (ids : Nat → BitVec 32) (k : Nat)
    (samples : List ParseGraphFlowMatchSampleAttr) :
  samples.length = (enabledIds ids k samples).length
    ↔ ∀ sample ∈ samples, sample.enabled = true
  := by
  have hlength : (enabledIds ids k samples).length
      = (samples.filter ParseGraphFlowMatchSampleAttr.enabled).length := by
    have hfst : (samples.zipIdx k).map Prod.fst = samples := List.zipIdx_map_fst k samples
    rw [enabledIds, List.length_map]
    nth_rewrite 2 [← hfst]
    rw [List.filter_map, List.length_map]
    rfl
  rw [hlength, eq_comm, List.length_filter_eq_length_iff]

theorem outSlot_succ (k : Nat) :
  outSlot k + ParseGraphFlowMatchSample.bytes = outSlot (k + 1)
  := by
  rw [outSlot, outSlot, Nat.mul_add_one, Nat.add_assoc]

/-- The loop appends the ids of the enabled samples. -/
theorem pushSampleIds_of_echoes {ids : Nat → BitVec 32} {out : Memory} {k : Nat}
    {samples : List ParseGraphFlowMatchSampleAttr} (h : EchoesFrom ids out k samples)
    (sampleIds : List (BitVec 32)) :
  pushSampleIds out sampleIds (outSlot k) samples = sampleIds ++ enabledIds ids k samples
  := by
  induction samples generalizing k sampleIds with
  | nil => simp [pushSampleIds, enabledIds]
  | cons sample samples ih =>
      have htail : EchoesFrom ids out (k + 1) samples := by
        intro i sample' hsample'
        rw [Nat.add_assoc, Nat.add_comm 1 i]
        apply h (i + 1) sample' hsample'
      obtain ⟨hen, hid⟩ := h 0 sample rfl
      rw [Nat.add_zero] at hen hid
      rw [pushSampleIds, hen, outSlot_succ, ih htail, enabledIds_cons, ← List.append_assoc]
      cases henabled : sample.enabled with
      | false => simp
      | true => simp [hid henabled]

namespace Sampled

/-- The node can be queried: it has a context and a `dcmd::obj`, and `node` is what it was created
as. -/
structure Ready (node : ParserGraphNode) (s : Sampled) : Prop where
  ctx : s.base.mCtx = true
  handle : s.base.mObjHandle = true
  attrs : s.mAttrs = node.mAttrs
  id : s.mParserGraphNodeId = node.mParserGraphNodeId

/-- A query that the device answers with the node appends the ids of the enabled samples. -/
theorem query_of_echoes {node : ParserGraphNode} {ids : Nat → BitVec 32} {s : Sampled}
    {answers : Answers} (hready : Ready node s) (hecho : Echoes ids node answers) :
  ∃ s', s.query answers
      = some (if node.mAttrs.samples.length = s'.mSampleIds.length then .ok else .errQuery, s')
    ∧ Ready node s' ∧ s'.mSampleIds = s.mSampleIds ++ enabledIds ids 0 node.mAttrs.samples
  := by
  have hmailbox : s.queryMailbox = node.queryMailbox := by
    rw [queryMailbox, queryMailbox, hready.id]
  have hlen : ¬ (GeneralObjInCmdHdr.bytes < 16 ∨ CreateParseGraphNodeOut.bytes < 16) := by decide
  have hquery := Obj.command_eq hready.ctx hready.handle hlen .errQuery answers node.queryMailbox
    zeros
  have hids := pushSampleIds_of_echoes hecho.samples s.mSampleIds
  refine ⟨{ s with
    base := s.base.remember (answers node.queryMailbox GeneralObjInCmdHdr.bytes).out
    mSampleIds := s.mSampleIds ++ enabledIds ids 0 node.mAttrs.samples }, ?_, ?_, rfl⟩
  · simp only [query, Obj.query, hmailbox, hquery, if_pos hecho.ok, Option.bind_eq_bind,
      Option.bind_some, hready.attrs, hids]
    split
    · rfl
    · rename_i heq
      rw [if_pos (not_not.mp heq)]
  · exact ⟨hready.ctx, hready.handle, hready.attrs, hready.id⟩

/-- Such a query leaves the ids of the enabled samples exactly when it is the first to find any, and
all samples are enabled. -/
theorem leaves_iff {node : ParserGraphNode} {ids : Nat → BitVec 32} {s : Sampled}
    {answers : Answers} (hready : Ready node s) (hecho : Echoes ids node answers) :
  s.Leaves (enabledIds ids 0 node.mAttrs.samples) answers
    ↔ s.mSampleIds = [] ∧ ∀ sample ∈ node.mAttrs.samples, sample.enabled = true
  := by
  obtain ⟨s', hquery, -, hids⟩ := query_of_echoes hready hecho
  rw [Leaves, hquery, ← length_enabledIds_iff ids 0]
  constructor
  · rintro ⟨s'', hs'', hleft⟩
    split at hs''
    · rename_i hlength
      cases hs''
      rw [getSampleIds, hids, List.append_left_eq_self] at hleft
      rw [hids, hleft, List.nil_append] at hlength
      exact ⟨hleft, hlength⟩
    · cases hs''
  · rintro ⟨hnil, hlength⟩
    rw [hnil, List.nil_append] at hids
    rw [hids, if_pos hlength]
    exact ⟨s', rfl, hids⟩

theorem step_of_echoes {node : ParserGraphNode} {ids : Nat → BitVec 32} {s : Sampled}
    {answers : Answers} (hready : Ready node s) (hecho : Echoes ids node answers) :
  Ready node (s.step answers)
    ∧ (s.step answers).mSampleIds = s.mSampleIds ++ enabledIds ids 0 node.mAttrs.samples
  := by
  obtain ⟨s', hquery, hready', hids⟩ := query_of_echoes hready hecho
  rw [step, hquery]
  exact ⟨hready', hids⟩

/-- A node without samples can be queried again and again. -/
theorem along_of_no_samples {node : ParserGraphNode} {ids : Nat → BitVec 32} {s : Sampled}
    {l : List Answers} (hready : Ready node s) (hecho : ∀ answers ∈ l, Echoes ids node answers)
    (hsamples : node.mAttrs.samples = []) (hids : s.mSampleIds = []) :
  Along step (Leaves (enabledIds ids 0 node.mAttrs.samples)) s l
  := by
  induction l generalizing s with
  | nil => trivial
  | cons answers l ih =>
      rw [List.forall_mem_cons] at hecho
      obtain ⟨hready', hids'⟩ := step_of_echoes hready hecho.1
      rw [hids, hsamples] at hids'
      constructor
      · apply (leaves_iff hready hecho.1).mpr
        rw [hsamples]
        exact ⟨hids, List.forall_mem_nil _⟩
      · apply ih hready' hecho.2 hids'

end Sampled

/-- A node that was created can be queried. -/
theorem ready_of_create {ctx : Bool} {attrs : ParserGraphNodeAttr} {device : Device}
    {node : ParserGraphNode} (hcreate : (new ctx attrs).create device = some (.ok, node)) :
  node.mAttrs = attrs ∧ Sampled.Ready node ⟨node, []⟩
  := by
  obtain ⟨c, -, h⟩ := Option.bind_eq_some_iff.mp hcreate
  cases hsent : (new ctx attrs).base.create device (some c.mailbox) c.inlen zeros c.outlen with
  | mk ret rest =>
  obtain ⟨base, out⟩ := rest
  simp only [hsent] at h
  cases ret with
  | ok =>
      cases h
      obtain ⟨hctx, _, -, hlive, -⟩ := Obj.sent_of_create hsent
      rw [Obj.live, Bool.and_eq_true] at hlive
      exact ⟨rfl, hctx, hlive.1, rfl, rfl⟩
  | _ => cases h

/-- Every query of a node that was created, which the device answers with the node and ids for the
enabled samples, succeeds and leaves just these ids, exactly when there is no query, or all samples
are enabled and there is one query or no sample. -/
theorem queries_leave_ids_iff {ctx : Bool} {attrs : ParserGraphNodeAttr} {device : Device}
    {node : ParserGraphNode} (hcreate : (new ctx attrs).create device = some (.ok, node))
    {ids : Nat → BitVec 32} {l : List Answers}
    (hecho : ∀ answers ∈ l, Echoes ids node answers) :
  Along Sampled.step (Sampled.Leaves (enabledIds ids 0 attrs.samples)) ⟨node, []⟩ l
    ↔ l = [] ∨ (∀ sample ∈ attrs.samples, sample.enabled = true)
      ∧ (l.length = 1 ∨ attrs.samples = [])
  := by
  obtain ⟨rfl, hready⟩ := ready_of_create hcreate
  cases l with
  | nil => simp [Along]
  | cons answers l =>
      rw [List.forall_mem_cons] at hecho
      obtain ⟨hready', hids⟩ := Sampled.step_of_echoes hready hecho.1
      simp only [Along, Sampled.leaves_iff hready hecho.1, true_and, reduceCtorEq, false_or]
      apply and_congr_right
      intro henabled
      rw [List.length_cons, Nat.add_eq_right]
      constructor
      · intro h
        cases l with
        | nil => exact .inl rfl
        | cons answers' l =>
            -- the second query finds the ids of the first
            rw [List.forall_mem_cons] at hecho
            obtain ⟨hnil, -⟩ := (Sampled.leaves_iff hready' hecho.2.1).mp h.1
            have hlength := (length_enabledIds_iff ids 0 node.mAttrs.samples).mpr henabled
            rw [hids, List.nil_append] at hnil
            rw [hnil] at hlength
            exact .inr (List.eq_nil_of_length_eq_zero hlength)
      · rintro (hlength | hsamples)
        · rw [List.eq_nil_of_length_eq_zero hlength]
          trivial
        · rw [hsamples] at hids
          apply Sampled.along_of_no_samples hready' hecho.2 hsamples hids

/-- A node with an input arc is created whenever the device makes it. -/
theorem create_granted {attrs : ParserGraphNodeAttr} {arc : ParseGraphArcAttr}
    (harc : attrs.inArcs.head? = some arc) :
  ∃ node, (new true attrs).create (fun _ _ => ⟨true, zeros⟩) = some (.ok, node)
  := by
  simp [create, command, new, harc, Obj.create, Obj.new, CreateParseGraphNodeIn.bytes,
    GeneralObjOutCmdHdr.bytes, devxGet_zeros]

/-- A node with two samples, the first of them enabled and the second perhaps, with ids for both. -/
def twoSamples (enabled : Bool) : Memory :=
  let m := zeros
  let m := devxSet m (outSlot 0) ParseGraphFlowMatchSample.flowMatchSampleEn 1
  let m := devxSet m (outSlot 0) ParseGraphFlowMatchSample.flowMatchSampleFieldId 100
  let m := devxSet m (outSlot 1) ParseGraphFlowMatchSample.flowMatchSampleEn
    (if enabled then 1 else 0)
  devxSet m (outSlot 1) ParseGraphFlowMatchSample.flowMatchSampleFieldId 101

def twoIds (i : Nat) : BitVec 32 :=
  BitVec.ofNat 32 (100 + i)

theorem devxGet_twoSamples (enabled : Bool) :
  devxGet (twoSamples enabled) 0 StatusOut.status = 0
    ∧ devxGet (twoSamples enabled) (outSlot 0) ParseGraphFlowMatchSample.flowMatchSampleEn = 1
    ∧ devxGet (twoSamples enabled) (outSlot 0) ParseGraphFlowMatchSample.flowMatchSampleFieldId
      = twoIds 0
    ∧ devxGet (twoSamples enabled) (outSlot 1) ParseGraphFlowMatchSample.flowMatchSampleEn
      = (if enabled then 1 else 0)
    ∧ devxGet (twoSamples enabled) (outSlot 1) ParseGraphFlowMatchSample.flowMatchSampleFieldId
      = twoIds 1
  := by
  revert enabled
  decide +kernel

theorem echoes_twoSamples {node : ParserGraphNode} {enabled : Bool}
    (hattrs : node.mAttrs
      = { ecpri with samples := [ecpriSample 8, { ecpriSample 12 with enabled := enabled }] }) :
  Echoes twoIds node fun _ _ => ⟨false, twoSamples enabled⟩
  := by
  obtain ⟨hstatus, hfirst, hfirstId, hsecond, hsecondId⟩ := devxGet_twoSamples enabled
  refine ⟨⟨rfl, hstatus⟩, ?_⟩
  rw [hattrs]
  intro i sample hsample
  rcases i with _ | _ | i
  · cases hsample
    exact ⟨hfirst, fun _ => hfirstId⟩
  · cases hsample
    exact ⟨hsecond, fun _ => hsecondId⟩
  · cases hsample

/-- One query of the node of the eCPRI header leaves its ids. -/
theorem queries_leave_ids_ecpri :
  ∃ node, (new true ecpri).create (fun _ _ => ⟨true, zeros⟩) = some (.ok, node)
    ∧ Along Sampled.step (Sampled.Leaves [100, 101]) ⟨node, []⟩
      [fun _ _ => ⟨false, twoSamples true⟩]
  := by
  have harc : ecpri.inArcs.head? = some ecpriArc := rfl
  obtain ⟨node, hcreate⟩ := create_granted harc
  have hecho : ∀ answers ∈ [fun _ _ => ⟨false, twoSamples true⟩], Echoes twoIds node answers := by
    rw [List.forall_mem_singleton]
    apply echoes_twoSamples (ready_of_create hcreate).1
  exact ⟨node, hcreate, (queries_leave_ids_iff hcreate hecho).mpr (.inr ⟨by decide, .inl rfl⟩)⟩

/-- The node of the eCPRI header without its second sample. -/
def halfNode : ParserGraphNodeAttr :=
  { ecpri with samples := [ecpriSample 8, { ecpriSample 12 with enabled := false }] }

/-- A query of a node with a disabled sample fails, and so does the second query of a node, which
then has every id twice. -/
theorem queries_spoil_ids :
  (∃ node s, (new true halfNode).create (fun _ _ => ⟨true, zeros⟩) = some (.ok, node)
      ∧ Echoes twoIds node (fun _ _ => ⟨false, twoSamples false⟩)
      ∧ Sampled.query ⟨node, []⟩ (fun _ _ => ⟨false, twoSamples false⟩) = some (.errQuery, s))
    ∧ ∃ node s s', (new true ecpri).create (fun _ _ => ⟨true, zeros⟩) = some (.ok, node)
      ∧ Echoes twoIds node (fun _ _ => ⟨false, twoSamples true⟩)
      ∧ Sampled.query ⟨node, []⟩ (fun _ _ => ⟨false, twoSamples true⟩) = some (.ok, s)
      ∧ s.query (fun _ _ => ⟨false, twoSamples true⟩) = some (.errQuery, s')
      ∧ s'.getSampleIds = [100, 101, 100, 101]
  := by
  constructor
  · have harc : halfNode.inArcs.head? = some ecpriArc := rfl
    obtain ⟨node, hcreate⟩ := create_granted harc
    obtain ⟨hattrs, hready⟩ := ready_of_create hcreate
    have hecho := echoes_twoSamples hattrs
    obtain ⟨s, hquery, -, hids⟩ := Sampled.query_of_echoes hready hecho
    rw [hids, hattrs] at hquery
    exact ⟨node, s, hcreate, hecho, hquery⟩
  · have harc : ecpri.inArcs.head? = some ecpriArc := rfl
    obtain ⟨node, hcreate⟩ := create_granted harc
    obtain ⟨hattrs, hready⟩ := ready_of_create hcreate
    have hecho : Echoes twoIds node (fun _ _ => ⟨false, twoSamples true⟩) :=
      echoes_twoSamples hattrs
    obtain ⟨s, hquery, hready', hids⟩ := Sampled.query_of_echoes hready hecho
    obtain ⟨s', hquery', -, hids'⟩ := Sampled.query_of_echoes hready' hecho
    rw [hids, hattrs] at hquery
    rw [hids', hids, hattrs] at hquery'
    refine ⟨node, s, s', hcreate, hecho, hquery, hquery', ?_⟩
    rw [Sampled.getSampleIds, hids', hids, hattrs]
    rfl

end ParserGraphNode

end Dpcp
