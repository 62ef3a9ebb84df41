import Dpcp.Bits.Records
import Dpcp.Parser.GraphNode

/-!
# The mailbox of a parser graph node

`parser_graph_node::create` writes the header fields, one record for each enabled sample at the slot
of its index in the list, and the first input arc.  The writes are pairwise disjoint as long as
the enabled samples have slots, and then what was written is read back; the id of a sample and
an arc from the null node are not written.
-/

namespace Dpcp

open Bits Dcmd Prm

namespace ParserGraphNode

/-- The address of the slot of the sample with the index `i`. -/
def slot (i : Nat) : Nat :=
  CreateParseGraphNodeIn.node + ParseGraphNode.flowMatchSample + ParseGraphFlowMatchSample.bytes * i

/-- The address of the first input arc. -/
def inArc : Nat :=
  CreateParseGraphNodeIn.node + ParseGraphNode.inputArc

/-! ### What is written -/

/-- The header length attributes, with their fields. -/
def headerFields (attrs : ParserGraphNodeAttr) : List (Field × BitVec 32) :=
  [(ParseGraphNode.headerLengthMode, attrs.headerLengthMode.setWidth 32),
    (ParseGraphNode.headerLengthBaseValue, attrs.headerLengthBaseValue.setWidth 32),
    (ParseGraphNode.headerLengthFieldOffset, attrs.headerLengthFieldOffset.setWidth 32),
    (ParseGraphNode.headerLengthFieldShift, attrs.headerLengthFieldShift.setWidth 32),
    (ParseGraphNode.headerLengthFieldMask, attrs.headerLengthFieldMask)]

/-- The attributes of an enabled sample that `create` writes, with their fields. -/
def sampleFields (sample : ParseGraphFlowMatchSampleAttr) : List (Field × BitVec 32) :=
  [(ParseGraphFlowMatchSample.flowMatchSampleEn, 1),
    (ParseGraphFlowMatchSample.flowMatchSampleFieldOffset, sample.fieldOffset.setWidth 32),
    (ParseGraphFlowMatchSample.flowMatchSampleOffsetMode, sample.offsetMode.setWidth 32),
    (ParseGraphFlowMatchSample.flowMatchSampleFieldOffsetMask, sample.fieldOffsetMask),
    (ParseGraphFlowMatchSample.flowMatchSampleFieldOffsetShift,
      sample.fieldOffsetShift.setWidth 32),
    (ParseGraphFlowMatchSample.flowMatchSampleFieldBaseOffset, sample.fieldBaseOffset.setWidth 32),
    (ParseGraphFlowMatchSample.flowMatchSampleTunnelMode, sample.tunnelMode.setWidth 32)]

/-- The attributes of an arc, with their fields. -/
def arcFields (arc : ParseGraphArcAttr) : List (Field × BitVec 32) :=
  [(ParseGraphArc.compareConditionValue, arc.compareConditionValue.setWidth 32),
    (ParseGraphArc.startInnerTunnel, if arc.startInnerTunnel then 1 else 0),
    (ParseGraphArc.arcParseGraphNode, arc.arcParseGraphNode.setWidth 32),
    (ParseGraphArc.parseGraphNodeHandle, arc.parseGraphNodeHandle)]

/-- The writes of the command header and of the header length attributes. -/
def headerWrites (attrs : ParserGraphNodeAttr) : List Write :=
  Field.writes 0 [(GeneralObjInCmdHdr.opcode, mlx5CmdOpCreateGeneralObject),
    (GeneralObjInCmdHdr.objType, mlx5GeneralObjectTypesParseGraphNode)]
    ++ Field.writes CreateParseGraphNodeIn.node (headerFields attrs)

/-- The writes of a sample; a disabled one has none. -/
def sampleWrites (sample : ParseGraphFlowMatchSampleAttr) (sampleOffset : Nat) : List Write :=
  if sample.enabled then Field.writes sampleOffset (sampleFields sample) else []

/-- The writes of the loop over the samples. -/
def samplesWrites (attrs : ParserGraphNodeAttr) : List Write :=
  records sampleWrites ParseGraphFlowMatchSample.bytes (slot 0) attrs.samples

/-- The writes of the first input arc; one from the null node has none. -/
def arcWrites (arc : ParseGraphArcAttr) : List Write :=
  if arc.arcParseGraphNode ≠ 0 then Field.writes inArc (arcFields arc) else []

/-- The writes of `create`, in order. -/
def writes (attrs : ParserGraphNodeAttr) (arc : ParseGraphArcAttr) : List Write :=
  headerWrites attrs ++ samplesWrites attrs ++ arcWrites arc

theorem bit_setSamples (m : Memory) (sampleOffset : Nat)
    (samples : List ParseGraphFlowMatchSampleAttr) :
  bit (setSamples m sampleOffset samples)
    = puts (bit m) (records sampleWrites ParseGraphFlowMatchSample.bytes sampleOffset samples)
  := by
  induction samples generalizing m sampleOffset with
  | nil => rfl
  | cons sample samples ih =>
      rw [setSamples, ih, records_cons, puts_append, sampleWrites]
      split
      · simp only [setSample, bit_devxSet]
        rfl
      · rfl

theorem bit_setArc (m : Memory) (arc : ParseGraphArcAttr) :
  bit (setArc m inArc arc) = puts (bit m) (arcWrites arc)
  := by
  rw [setArc, arcWrites]
  split
  · simp only [bit_devxSet]
    rfl
  · rfl

/-- With an input arc there is a command, and its mailbox has the writes of `create`. -/
theorem command_of_head {node : ParserGraphNode} {arc : ParseGraphArcAttr}
    (harc : node.mAttrs.inArcs.head? = some arc) :
  ∃ c, node.command = some c ∧ bit c.mailbox = puts (bit zeros) (writes node.mAttrs arc)
  := by
  simp only [command, harc, Option.bind_eq_bind, Option.bind_some, Option.some.injEq]
  refine ⟨_, rfl, ?_⟩
  simp only [writes, puts_append]
  rw [← inArc, bit_setArc, bit_setSamples]
  simp only [bit_devxSet]
  rfl

/-! ### Where it is written -/

theorem headerFields_fit (attrs : ParserGraphNodeAttr) :
  ∀ fv ∈ headerFields attrs, fv.2.toNat < 2 ^ fv.1.size
  := by
  simp only [headerFields, List.forall_mem_cons]
  exact ⟨toNat_setWidth_lt _, toNat_setWidth_lt _, toNat_setWidth_lt _, toNat_setWidth_lt _,
    BitVec.isLt _, List.forall_mem_nil _⟩

theorem sampleFields_fit (sample : ParseGraphFlowMatchSampleAttr) :
  ∀ fv ∈ sampleFields sample, fv.2.toNat < 2 ^ fv.1.size
  := by
  simp only [sampleFields, List.forall_mem_cons]
  exact ⟨by decide, toNat_setWidth_lt _, toNat_setWidth_lt _, BitVec.isLt _, toNat_setWidth_lt _,
    toNat_setWidth_lt _, toNat_setWidth_lt _, List.forall_mem_nil _⟩

theorem arcFields_fit (arc : ParseGraphArcAttr) :
  ∀ fv ∈ arcFields arc, fv.2.toNat < 2 ^ fv.1.size
  := by
  simp only [arcFields, List.forall_mem_cons]
  refine ⟨toNat_setWidth_lt _, ?_, toNat_setWidth_lt _, BitVec.isLt _, List.forall_mem_nil _⟩
  cases arc.startInnerTunnel <;> decide

theorem sampleWrites_disjoint (sample : ParseGraphFlowMatchSampleAttr) (sampleOffset : Nat) :
  (sampleWrites sample sampleOffset).Pairwise Write.Disjoint
  := by
  rw [sampleWrites]
  split
  · apply Field.writes_disjoint
    simp only [sampleFields, List.map_cons, List.map_nil]
    decide
  · apply List.Pairwise.nil

/-- A sample is written before the last word of its slot, where its id stands. -/
theorem sampleWrites_within {sample : ParseGraphFlowMatchSampleAttr} {sampleOffset : Nat}
    {w : Write} (hw : w ∈ sampleWrites sample sampleOffset) :
  w.Within (8 * sampleOffset) (8 * sampleOffset + 0x60)
  := by
  rw [sampleWrites] at hw
  split at hw
  · apply Field.within_of_mem_writes _ hw
    simp only [sampleFields, List.map_cons, List.map_nil]
    decide
  · cases hw

theorem sampleWrites_within_slot (sample : ParseGraphFlowMatchSampleAttr) (sampleOffset : Nat)
    (w : Write) (hw : w ∈ sampleWrites sample sampleOffset) :
  w.Within (8 * sampleOffset) (8 * (sampleOffset + ParseGraphFlowMatchSample.bytes))
  := by
  apply (sampleWrites_within hw).mono (Nat.le_refl _)
  simp only [ParseGraphFlowMatchSample.bytes]
  omega

theorem hdrWrites_within {v v' : BitVec 32} {w : Write}
    (hw : w ∈ Field.writes 0 [(GeneralObjInCmdHdr.opcode, v), (GeneralObjInCmdHdr.objType, v')]) :
  w.Within 0 (8 * CreateParseGraphNodeIn.node)
  := by
  apply Field.within_of_mem_writes (p := 0) (n := 8 * CreateParseGraphNodeIn.node) _ hw
  simp only [List.map_cons, List.map_nil]
  decide

theorem nodeWrites_within {attrs : ParserGraphNodeAttr} {w : Write}
    (hw : w ∈ Field.writes CreateParseGraphNodeIn.node (headerFields attrs)) :
  w.Within (8 * CreateParseGraphNodeIn.node) (8 * slot 0)
  := by
  apply Field.within_of_mem_writes (n := 8 * ParseGraphNode.flowMatchSample) _ hw
  simp only [headerFields, List.map_cons, List.map_nil]
  decide

/-- The header is written before the samples. -/
theorem headerWrites_within {attrs : ParserGraphNodeAttr} {w : Write}
    (hw : w ∈ headerWrites attrs) :
  w.Within 0 (8 * slot 0)
  := by
  rcases List.mem_append.mp hw with hw | hw
  · apply (hdrWrites_within hw).mono (Nat.le_refl _)
    decide
  · apply (nodeWrites_within hw).mono (Nat.zero_le _) (Nat.le_refl _)

theorem headerWrites_disjoint (attrs : ParserGraphNodeAttr) :
  (headerWrites attrs).Pairwise Write.Disjoint
  := by
  rw [headerWrites, List.pairwise_append]
  refine ⟨?_, ?_, ?_⟩
  · apply Field.writes_disjoint
    simp only [List.map_cons, List.map_nil]
    decide
  · apply Field.writes_disjoint
    simp only [headerFields, List.map_cons, List.map_nil]
    decide
  · intro w hw w' hw'
    apply (hdrWrites_within hw).disjoint (nodeWrites_within hw')
    exact .inl (Nat.le_refl _)

theorem arcWrites_disjoint (arc : ParseGraphArcAttr) :
  (arcWrites arc).Pairwise Write.Disjoint
  := by
  rw [arcWrites]
  split
  · apply Field.writes_disjoint
    simp only [arcFields, List.map_cons, List.map_nil]
    decide
  · apply List.Pairwise.nil

theorem arcWrites_within {arc : ParseGraphArcAttr} {w : Write} (hw : w ∈ arcWrites arc) :
  w.Within (8 * inArc) (8 * inArc + 0x40)
  := by
  rw [arcWrites] at hw
  split at hw
  · apply Field.within_of_mem_writes _ hw
    simp only [arcFields, List.map_cons, List.map_nil]
    decide
  · cases hw

/-- The enabled samples of the list have slots in the node. -/
def Slotted (samples : List ParseGraphFlowMatchSampleAttr) : Prop :=
  ∀ i sample, samples[i]? = some sample → sample.enabled = true →
    i < ParseGraphNode.flowMatchSampleSlots

theorem enabled_of_mem_sampleWrites {sample : ParseGraphFlowMatchSampleAttr} {sampleOffset : Nat}
    {w : Write} (hw : w ∈ sampleWrites sample sampleOffset) :
  sample.enabled = true
  := by
  rw [sampleWrites] at hw
  split at hw
  · assumption
  · cases hw

/-- The enabled samples have slots exactly when the loop over the samples writes inside of the
array of slots. -/
theorem slotted_iff (attrs : ParserGraphNodeAttr) :
  Slotted attrs.samples ↔ ∀ w ∈ samplesWrites attrs, w.Within (8 * slot 0) (8 * inArc)
  := by
  constructor
  · intro h w hw
    obtain ⟨i, sample, hsample, hw⟩ := mem_records.mp hw
    have hi := h i sample hsample (enabled_of_mem_sampleWrites hw)
    apply (sampleWrites_within_slot sample _ w hw).mono
    · omega
    · simp only [ParseGraphNode.flowMatchSampleSlots, ParseGraphFlowMatchSample.bytes, slot, inArc,
        ParseGraphNode.flowMatchSample, ParseGraphNode.inputArc] at hi ⊢
      omega
  · intro h i sample hsample henabled
    -- the first field of the sample is at the start of its slot
    have hw : ParseGraphFlowMatchSample.flowMatchSampleEn.write
        (slot 0 + ParseGraphFlowMatchSample.bytes * i) 1 ∈ samplesWrites attrs := by
      apply mem_records.mpr
      refine ⟨i, sample, hsample, ?_⟩
      rw [sampleWrites, if_pos henabled]
      apply List.mem_cons_self
    have hplace := h _ hw
    simp only [Write.Within, Field.write, ParseGraphFlowMatchSample.flowMatchSampleEn,
      ParseGraphNode.flowMatchSampleSlots, ParseGraphFlowMatchSample.bytes, slot, inArc,
      ParseGraphNode.flowMatchSample, ParseGraphNode.inputArc] at hplace ⊢
    omega

theorem writes_disjoint {attrs : ParserGraphNodeAttr} (hslots : Slotted attrs.samples)
    (arc : ParseGraphArcAttr) :
  (writes attrs arc).Pairwise Write.Disjoint
  := by
  have hsamples := (slotted_iff attrs).mp hslots
  rw [writes, List.pairwise_append, List.pairwise_append]
  refine ⟨⟨headerWrites_disjoint attrs, ?_, ?_⟩, arcWrites_disjoint arc, ?_⟩
  · apply records_disjoint sampleWrites_within_slot sampleWrites_disjoint
  · intro w hw w' hw'
    apply (headerWrites_within hw).disjoint (hsamples w' hw')
    exact .inl (Nat.le_refl _)
  · intro w hw w' hw'
    rcases List.mem_append.mp hw with hw | hw
    · apply (headerWrites_within hw).disjoint (arcWrites_within hw')
      exact .inl (by decide)
    · apply (hsamples w hw).disjoint (arcWrites_within hw')
      exact .inl (Nat.le_refl _)

/-! ### What is read back -/

/-- The mailbox carries the node: every header length attribute, every attribute of every enabled
sample at its slot, zero in the slots of disabled samples, and the input arc. -/
structure Carries (attrs : ParserGraphNodeAttr) (arc : ParseGraphArcAttr) (m : Memory) :
    Prop where
  header : ∀ fv ∈ headerFields attrs, devxGet m CreateParseGraphNodeIn.node fv.1 = fv.2
  enabled : ∀ i sample, attrs.samples[i]? = some sample → sample.enabled = true →
    i < ParseGraphNode.flowMatchSampleSlots
      ∧ (∀ fv ∈ sampleFields sample, devxGet m (slot i) fv.1 = fv.2)
      ∧ devxGet m (slot i) ParseGraphFlowMatchSample.flowMatchSampleFieldId = sample.fieldId
  disabled : ∀ i sample, attrs.samples[i]? = some sample → sample.enabled = false →
    i < ParseGraphNode.flowMatchSampleSlots →
      ∀ j, 8 * slot i ≤ j → j < 8 * slot (i + 1) → bit m j = false
  arc : ∀ fv ∈ arcFields arc, devxGet m inArc fv.1 = fv.2

/-- Nothing of the arc is lost if it is not written. -/
def Blank (arc : ParseGraphArcAttr) : Prop :=
  arc.compareConditionValue = 0 ∧ arc.startInnerTunnel = false ∧ arc.parseGraphNodeHandle = 0

instance (arc : ParseGraphArcAttr) : Decidable (Blank arc) :=
  inferInstanceAs (Decidable (_ ∧ _ ∧ _))

section

variable {attrs : ParserGraphNodeAttr} {arc : ParseGraphArcAttr} {m : Memory}
  (hbits : bit m = puts (bit zeros) (writes attrs arc))

include hbits

/-- A bit of a slot is zero if the sample of the slot does not cover it. -/
theorem bit_slot {i j : Nat} (hi : i < ParseGraphNode.flowMatchSampleSlots)
    (hlo : 8 * slot i ≤ j) (hhi : j < 8 * slot (i + 1))
    (hcovers : ∀ sample, attrs.samples[i]? = some sample →
      ∀ w ∈ sampleWrites sample (slot i), ¬ w.Covers j) :
  bit m j = false
  := by
  simp only [slot] at hlo hhi
  rw [hbits, puts_of_not_covers, bit_zeros]
  intro w hw hj
  rcases List.mem_append.mp hw with hw | hw
  · rcases List.mem_append.mp hw with hw | hw
    · have hplace := headerWrites_within hw
      simp only [Write.Within, Write.Covers, slot] at hplace hj
      omega
    · obtain ⟨sample, hsample, hw⟩ := mem_record_of_covers sampleWrites_within_slot hw hj hlo hhi
      apply hcovers sample hsample w hw hj
  · have hplace := arcWrites_within hw
    simp only [Write.Within, Write.Covers, inArc, ParseGraphNode.flowMatchSampleSlots,
      ParseGraphNode.flowMatchSample, ParseGraphNode.inputArc,
      ParseGraphFlowMatchSample.bytes] at hplace hj hi hhi
    omega

/-- No id of a sample is written. -/
theorem devxGet_fieldId {i : Nat} (hi : i < ParseGraphNode.flowMatchSampleSlots) :
  devxGet m (slot i) ParseGraphFlowMatchSample.flowMatchSampleFieldId = 0
  := by
  apply BitVec.eq_of_toNat_eq
  apply devxGet_of_bits_false
  intro j hj
  simp only [Field.Has, ParseGraphFlowMatchSample.flowMatchSampleFieldId] at hj
  apply bit_slot hbits hi
  · omega
  · simp only [slot, ParseGraphFlowMatchSample.bytes] at hj ⊢
    omega
  · intro sample _ w hw hcovers
    have hplace := sampleWrites_within hw
    simp only [Write.Within, Write.Covers] at hplace hcovers
    omega

variable (hslots : Slotted attrs.samples)

include hslots

theorem devxGet_header :
  ∀ fv ∈ headerFields attrs, devxGet m CreateParseGraphNodeIn.node fv.1 = fv.2
  := by
  apply devxGet_of_writes hbits (writes_disjoint hslots arc) (headerFields_fit attrs)
  intro w hw
  apply List.mem_append_left
  apply List.mem_append_left
  apply List.mem_append_right _ hw

theorem devxGet_sample {i : Nat} {sample : ParseGraphFlowMatchSampleAttr}
    (hsample : attrs.samples[i]? = some sample) (henabled : sample.enabled = true) :
  ∀ fv ∈ sampleFields sample, devxGet m (slot i) fv.1 = fv.2
  := by
  apply devxGet_of_writes hbits (writes_disjoint hslots arc) (sampleFields_fit sample)
  intro w hw
  apply List.mem_append_left
  apply List.mem_append_right
  apply mem_records.mpr
  refine ⟨i, sample, hsample, ?_⟩
  rw [sampleWrites, if_pos henabled]
  apply hw

theorem devxGet_arc (hnode : arc.arcParseGraphNode ≠ 0) :
  ∀ fv ∈ arcFields arc, devxGet m inArc fv.1 = fv.2
  := by
  apply devxGet_of_writes hbits (writes_disjoint hslots arc) (arcFields_fit arc)
  intro w hw
  apply List.mem_append_right
  rw [arcWrites, if_pos hnode]
  apply hw

/-- An arc that is not written reads as zero. -/
theorem devxGet_arc_null (hnode : arc.arcParseGraphNode = 0) (f : Field) :
  devxGet m inArc f = 0
  := by
  apply BitVec.eq_of_toNat_eq
  apply devxGet_of_bits_false
  intro j hj
  simp only [Field.Has] at hj
  rw [hbits, puts_of_not_covers, bit_zeros]
  intro w hw hcovers
  rw [writes, arcWrites, if_neg (not_not_intro hnode), List.append_nil] at hw
  have hplace : w.Within 0 (8 * inArc) := by
    rcases List.mem_append.mp hw with hw | hw
    · apply (headerWrites_within hw).mono (Nat.le_refl _)
      decide
    · apply ((slotted_iff attrs).mp hslots w hw).mono (Nat.zero_le _) (Nat.le_refl _)
  simp only [Write.Within, Write.Covers] at hplace hcovers
  omega

/-- What is read of an arc that is not written is the arc if that is blank. -/
theorem devxGet_arc_null_iff (hnode : arc.arcParseGraphNode = 0) :
  (∀ fv ∈ arcFields arc, devxGet m inArc fv.1 = fv.2) ↔ Blank arc
  := by
  simp only [arcFields, List.forall_mem_cons, devxGet_arc_null hbits hslots hnode, hnode, Blank]
  have hvalue : 0 = arc.compareConditionValue.setWidth 32 ↔ arc.compareConditionValue = 0 := by
    bv_omega
  have hhandle : 0 = arc.parseGraphNodeHandle ↔ arc.parseGraphNodeHandle = 0 := eq_comm
  rw [hvalue, hhandle]
  cases arc.startInnerTunnel with
  | false => simp
  | true => simp

end

/-- The mailbox carries the node exactly when the enabled samples have slots and ask for no id, and
the arc is from a node or is blank. -/
theorem carries_iff {attrs : ParserGraphNodeAttr} {arc : ParseGraphArcAttr} {m : Memory}
    (hbits : bit m = puts (bit zeros) (writes attrs arc)) :
  Carries attrs arc m
    ↔ (∀ i sample, attrs.samples[i]? = some sample → sample.enabled = true →
        i < ParseGraphNode.flowMatchSampleSlots ∧ sample.fieldId = 0)
      ∧ (arc.arcParseGraphNode ≠ 0 ∨ Blank arc)
  := by
  constructor
  · intro h
    have hslots : Slotted attrs.samples := by
      intro i sample hsample henabled
      apply (h.enabled i sample hsample henabled).1
    constructor
    · intro i sample hsample henabled
      obtain ⟨hi, -, hid⟩ := h.enabled i sample hsample henabled
      rw [devxGet_fieldId hbits hi] at hid
      exact ⟨hi, hid.symm⟩
    · by_cases hnode : arc.arcParseGraphNode = 0
      · exact .inr ((devxGet_arc_null_iff hbits hslots hnode).mp h.arc)
      · exact .inl hnode
  · rintro ⟨hsamples, harc⟩
    have hslots : Slotted attrs.samples := by
      intro i sample hsample henabled
      apply (hsamples i sample hsample henabled).1
    refine ⟨devxGet_header hbits hslots, ?_, ?_, ?_⟩
    · intro i sample hsample henabled
      obtain ⟨hi, hid⟩ := hsamples i sample hsample henabled
      refine ⟨hi, devxGet_sample hbits hslots hsample henabled, ?_⟩
      rw [devxGet_fieldId hbits hi, hid]
    · intro i sample hsample hdisabled hi j hlo hhi
      apply bit_slot hbits hi hlo hhi
      intro sample' hsample' w hw
      cases hsample.symm.trans hsample'
      rw [sampleWrites, hdisabled] at hw
      cases hw
    · by_cases hnode : arc.arcParseGraphNode = 0
      · apply (devxGet_arc_null_iff hbits hslots hnode).mpr
        apply harc.resolve_left (not_not_intro hnode)
      · apply devxGet_arc hbits hslots hnode

end ParserGraphNode

end Dpcp
