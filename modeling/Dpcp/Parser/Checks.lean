import Dpcp.Machine.Check
import Dpcp.Parser.Mailbox

/-!
# The checks of a parser graph node

The checks of `adapter::create_parser_graph_node`, with the accesses they make on the way: the
distances of shifts, and the indices into the input arcs and into the slots of the samples.  From
the checks that are reached follow the attributes that pass, those for which the checks have a
result at all, and those for which no access goes wrong.
-/

namespace Dpcp

open Bits Dcmd Prm Machine

namespace ParserGraphNode

/-! ### The checks one after another -/

/-- What `create_parser_graph_node` and `create` do that can go wrong: shift an `int`, index the
input arcs, write to a slot of the samples. -/
inductive Access where
  | shift (distance : Nat)
  | arc (index : Nat)
  | slot (index : Nat)
deriving DecidableEq

/-- An access that does not go wrong. -/
def Access.Safe (attributes : ParserGraphNodeAttr) : Access → Prop
  | .shift distance => distance < 32
  | .arc index => index < attributes.inArcs.length
  | .slot index => index < ParseGraphNode.flowMatchSampleSlots

/-- The checks of a sample; a disabled one has none. -/
def sampleChecks (caps : HcaCapabilities) (sample : ParseGraphFlowMatchSampleAttr) :
    List (Check Access) :=
  if sample.enabled then
    [⟨[], some (sample.fieldBaseOffset ≤ caps.maxParseGraphFlowMatchSampleFieldBaseOffsetValue)⟩,
      ⟨[.shift sample.offsetMode.toNat], some (lengthModeSupported caps sample.offsetMode)⟩,
      ⟨[], some (sample.fieldId == 0 || caps.parseGraphFlowMatchSampleIdInOut)⟩]
  else []

/-- The accesses of the check of the first input arc. -/
def arcAccesses : List ParseGraphArcAttr → List Access
  | [] => [.arc 0]
  | arc :: _ => [.arc 0, .shift arc.arcParseGraphNode.toNat]

/-- The checks before those of the samples. -/
def nodeChecks (caps : HcaCapabilities) (attributes : ParserGraphNodeAttr) :
    List (Check Access) :=
  [⟨[], some caps.generalObjectTypesParseGraphNode⟩,
    ⟨[.shift attributes.headerLengthMode.toNat],
      some (lengthModeSupported caps attributes.headerLengthMode)⟩,
    ⟨if attributes.headerLengthFieldMask = 0 then []
      else [.shift caps.parseGraphHeaderLengthFieldMaskWidth.toNat],
      fieldMaskSupported caps attributes.headerLengthFieldMask⟩,
    ⟨[], some (attributes.headerLengthBaseValue ≤ caps.maxParseGraphHeaderLengthBaseValue)⟩,
    ⟨[], some (attributes.inArcs.length ≤ min caps.maxNumParseGraphArcIn.toNat maxInArcs)⟩,
    ⟨arcAccesses attributes.inArcs, nodeInSupported caps attributes.inArcs⟩,
    ⟨[], some (attributes.samples.length ≤ caps.maxNumParseGraphFlowMatchSample.toNat)⟩]

/-- The checks of `create_parser_graph_node`, in that order. -/
def checks (caps : HcaCapabilities) (attributes : ParserGraphNodeAttr) : List (Check Access) :=
  nodeChecks caps attributes ++ attributes.samples.flatMap (sampleChecks caps)

theorem verdict_sampleChecks (caps : HcaCapabilities) (sample : ParseGraphFlowMatchSampleAttr) :
  Check.verdict (sampleChecks caps sample) = some (sampleSupported caps sample)
  := by
  rw [sampleChecks, sampleSupported]
  cases sample.enabled with
  | false => rfl
  | true =>
      simp only [if_true, Check.verdict, Option.some.injEq, Bool.not_true, Bool.false_or]
      generalize decide (sample.fieldBaseOffset
        ≤ caps.maxParseGraphFlowMatchSampleFieldBaseOffsetValue) = base
      generalize lengthModeSupported caps sample.offsetMode = mode
      generalize (sample.fieldId == 0 || caps.parseGraphFlowMatchSampleIdInOut) = id
      revert base mode id
      decide

theorem verdict_samples (caps : HcaCapabilities) (samples : List ParseGraphFlowMatchSampleAttr) :
  Check.verdict (samples.flatMap (sampleChecks caps)) = some (samples.all (sampleSupported caps))
  := by
  induction samples with
  | nil => rfl
  | cons sample samples ih =>
      rw [List.flatMap_cons, Check.verdict_append, ih, verdict_sampleChecks, List.all_cons]
      cases sampleSupported caps sample <;> rfl

/-- What `supported` says is the verdict of the checks. -/
theorem verdict_checks (caps : HcaCapabilities) (attributes : ParserGraphNodeAttr) :
  Check.verdict (checks caps attributes) = supported caps attributes
  := by
  rw [checks, Check.verdict_append, verdict_samples, supported]
  simp only [nodeChecks, Check.verdict, Option.some.injEq, decide_eq_true_eq]
  cases caps.generalObjectTypesParseGraphNode with
  | false => rfl
  | true =>
  cases lengthModeSupported caps attributes.headerLengthMode with
  | false => rfl
  | true =>
  rcases fieldMaskSupported caps attributes.headerLengthFieldMask with _ | _ | _
  · rfl
  · rfl
  · by_cases hbase : caps.maxParseGraphHeaderLengthBaseValue < attributes.headerLengthBaseValue
    · simp [hbase, BitVec.not_le.mpr hbase]
    · by_cases harcs : min caps.maxNumParseGraphArcIn.toNat maxInArcs < attributes.inArcs.length
      · simp only [hbase, BitVec.not_lt.mp hbase, harcs, Nat.not_le.mpr harcs]
        simp
      · rcases nodeInSupported caps attributes.inArcs with _ | _ | _
        · simp [hbase, BitVec.not_lt.mp hbase, harcs, Nat.not_lt.mp harcs]
        · simp [hbase, BitVec.not_lt.mp hbase, harcs, Nat.not_lt.mp harcs]
        · by_cases hsamples :
            caps.maxNumParseGraphFlowMatchSample.toNat < attributes.samples.length
          · simp [hbase, BitVec.not_lt.mp hbase, harcs, Nat.not_lt.mp harcs, hsamples,
              Nat.not_le.mpr hsamples]
          · simp [hbase, BitVec.not_lt.mp hbase, harcs, Nat.not_lt.mp harcs, hsamples,
              Nat.not_lt.mp hsamples]

/-- The checks of samples have a verdict, and access nothing but a mode of four bits. -/
theorem forall_mem_sampleChecks {P : Check Access → Prop} (hpure : ∀ b, P ⟨[], some b⟩)
    (hmode : ∀ (mode : BitVec 4) b, P ⟨[.shift mode.toNat], some b⟩) (caps : HcaCapabilities)
    (samples : List ParseGraphFlowMatchSampleAttr) :
  ∀ c ∈ samples.flatMap (sampleChecks caps), P c
  := by
  intro c hc
  obtain ⟨sample, -, hc⟩ := List.mem_flatMap.mp hc
  rw [sampleChecks] at hc
  split at hc
  · simp only [List.mem_cons, List.not_mem_nil, or_false] at hc
    rcases hc with rfl | rfl | rfl
    · apply hpure
    · apply hmode
    · apply hpure
  · cases hc

theorem forall_samples_iff {caps : HcaCapabilities}
    {samples : List ParseGraphFlowMatchSampleAttr} :
  (∀ c ∈ samples.flatMap (sampleChecks caps), c.passes ≠ some false)
    ↔ ∀ sample ∈ samples, sampleSupported caps sample = true
  := by
  have hverdict (b : Bool) : some b ≠ some false ↔ some b = some true := by simp
  rw [← List.all_eq_true, ← Option.some_inj, ← verdict_samples, Check.verdict_eq_true_iff]
  apply forall₂_congr
  exact forall_mem_sampleChecks (P := fun c => c.passes ≠ some false ↔ c.passes = some true)
    hverdict (fun _ => hverdict) caps samples

theorem fieldMaskSupported_ne_none_iff {caps : HcaCapabilities} {mask : BitVec 32} :
  fieldMaskSupported caps mask ≠ none
    ↔ (mask ≠ 0 → caps.parseGraphHeaderLengthFieldMaskWidth.toNat < 31)
  := by
  simp only [fieldMaskSupported]
  split
  · rename_i hmask
    simp [hmask]
  · rename_i hmask
    split
    · rename_i hwidth
      simp [hwidth]
    · rename_i hwidth
      simpa [hwidth] using hmask

theorem nodeInSupported_ne_none_iff {caps : HcaCapabilities} {inArcs : List ParseGraphArcAttr} :
  nodeInSupported caps inArcs ≠ none ↔ ∃ arc ∈ inArcs.head?, arc.arcParseGraphNode.toNat < 32
  := by
  cases inArcs with
  | nil => simp [nodeInSupported]
  | cons arc arcs => simp [nodeInSupported]

/-! ### Accesses -/

/-- The accesses of `create`: the slots of the enabled samples, and the first input arc. -/
def createAccesses (attributes : ParserGraphNodeAttr) : List Access :=
  attributes.samples.zipIdx.filterMap
    (fun sample => if sample.1.enabled then some (.slot sample.2) else none) ++ [.arc 0]

/-- The accesses of `create_parser_graph_node`: those of its checks, and if none of them fails and
there is memory for the node, those of `create`. -/
def accesses (caps : HcaCapabilities) (attributes : ParserGraphNodeAttr) (newObj : Nat) :
    List Access :=
  Check.trace (checks caps attributes
    ++ [⟨if newObj = 0 then [] else createAccesses attributes, some true⟩])

/-- The first input arc is read: no check before fails. -/
structure ReachesArc (caps : HcaCapabilities) (attributes : ParserGraphNodeAttr) : Prop where
  general : caps.generalObjectTypesParseGraphNode = true
  mode : lengthModeSupported caps attributes.headerLengthMode = true
  mask : fieldMaskSupported caps attributes.headerLengthFieldMask ≠ some false
  base : attributes.headerLengthBaseValue ≤ caps.maxParseGraphHeaderLengthBaseValue
  arcs : attributes.inArcs.length ≤ min caps.maxNumParseGraphArcIn.toNat maxInArcs

/-- `create` is reached: no check fails. -/
structure ReachesCreate (caps : HcaCapabilities) (attributes : ParserGraphNodeAttr) : Prop
    extends ReachesArc caps attributes where
  node : nodeInSupported caps attributes.inArcs ≠ some false
  samples : attributes.samples.length ≤ caps.maxNumParseGraphFlowMatchSample.toNat
  sample : ∀ sample ∈ attributes.samples, sampleSupported caps sample = true

theorem reachesCreate_iff {caps : HcaCapabilities} {attributes : ParserGraphNodeAttr} :
  ReachesCreate caps attributes ↔ ∀ c ∈ checks caps attributes, c.passes ≠ some false
  := by
  rw [checks, List.forall_mem_append, forall_samples_iff]
  simp only [nodeChecks, List.forall_mem_cons, ne_eq, Option.some.injEq, Bool.not_eq_false,
    decide_eq_true_eq]
  constructor
  · rintro ⟨⟨hgeneral, hmode, hmask, hbase, harcs⟩, hnode, hsamples, hsample⟩
    exact ⟨⟨hgeneral, hmode, hmask, hbase, harcs, hnode, hsamples, List.forall_mem_nil _⟩,
      hsample⟩
  · rintro ⟨⟨hgeneral, hmode, hmask, hbase, harcs, hnode, hsamples, -⟩, hsample⟩
    exact ⟨⟨hgeneral, hmode, hmask, hbase, harcs⟩, hnode, hsamples, hsample⟩

/-- Of the checks that are reached, those of the mask and of the first arc need not have a verdict,
and access something else than a mode of four bits. -/
theorem reached_checks {P : Check Access → Prop} (hpure : ∀ b, P ⟨[], some b⟩)
    (hmode : ∀ (mode : BitVec 4) b, P ⟨[.shift mode.toNat], some b⟩) (caps : HcaCapabilities)
    (attributes : ParserGraphNodeAttr) :
  Check.Reached P (checks caps attributes)
    ↔ (caps.generalObjectTypesParseGraphNode = true →
        lengthModeSupported caps attributes.headerLengthMode = true →
        P ⟨if attributes.headerLengthFieldMask = 0 then []
          else [.shift caps.parseGraphHeaderLengthFieldMaskWidth.toNat],
          fieldMaskSupported caps attributes.headerLengthFieldMask⟩)
      ∧ (ReachesArc caps attributes →
        P ⟨arcAccesses attributes.inArcs, nodeInSupported caps attributes.inArcs⟩)
  := by
  have hsamples : Check.Reached P (attributes.samples.flatMap (sampleChecks caps)) := by
    apply Check.reached_of_forall
    apply forall_mem_sampleChecks hpure hmode
  rw [checks, Check.reached_append, and_iff_left fun _ => hsamples]
  simp only [nodeChecks, Check.Reached, hpure, hmode, true_and, ne_eq, Option.some.injEq,
    Bool.not_eq_false, decide_eq_true_eq, implies_true, and_true]
  constructor
  · intro h
    constructor
    · intro hgeneral hlength
      apply (h hgeneral hlength).1
    · rintro ⟨hgeneral, hlength, hmask, hbase, harcs⟩
      apply (h hgeneral hlength).2 hmask hbase harcs
  · rintro ⟨hshift, harc⟩ hgeneral hlength
    refine ⟨hshift hgeneral hlength, ?_⟩
    intro hmask hbase harcs
    apply harc ⟨hgeneral, hlength, hmask, hbase, harcs⟩

/-- A mask that comes to its check is checked against a width below `n`. -/
def WidthBelow (n : Nat) (caps : HcaCapabilities) (attributes : ParserGraphNodeAttr) : Prop :=
  caps.generalObjectTypesParseGraphNode = true →
    lengthModeSupported caps attributes.headerLengthMode = true →
    attributes.headerLengthFieldMask ≠ 0 → caps.parseGraphHeaderLengthFieldMaskWidth.toNat < n

/-- The checks have a result exactly when the mask can be computed and the node of the first arc is
the distance of a shift, if it comes to that. -/
theorem supported_ne_none_iff {caps : HcaCapabilities} {attributes : ParserGraphNodeAttr} :
  supported caps attributes ≠ none
    ↔ WidthBelow 31 caps attributes
      ∧ (ReachesArc caps attributes →
        ∃ arc ∈ attributes.inArcs.head?, arc.arcParseGraphNode.toNat < 32)
  := by
  have hpure : ∀ b : Bool, some b ≠ none := Option.some_ne_none
  rw [← verdict_checks, Check.verdict_ne_none_iff, reached_checks hpure fun _ => hpure]
  simp only [fieldMaskSupported_ne_none_iff, nodeInSupported_ne_none_iff, WidthBelow]

theorem arcAccesses_safe_iff {attributes : ParserGraphNodeAttr} :
  (∀ a ∈ arcAccesses attributes.inArcs, a.Safe attributes)
    ↔ ∃ arc ∈ attributes.inArcs.head?, arc.arcParseGraphNode.toNat < 32
  := by
  cases h : attributes.inArcs with
  | nil => simp [arcAccesses, Access.Safe, h]
  | cons arc arcs => simp [arcAccesses, Access.Safe, h]

theorem createAccesses_safe_iff {attributes : ParserGraphNodeAttr}
    (hinArcs : attributes.inArcs ≠ []) :
  (∀ a ∈ createAccesses attributes, a.Safe attributes) ↔ Slotted attributes.samples
  := by
  have harc : (Access.arc 0).Safe attributes := List.length_pos_iff.mpr hinArcs
  rw [createAccesses, List.forall_mem_append, List.forall_mem_singleton, and_iff_left harc]
  simp only [List.mem_filterMap, Prod.exists, List.mem_zipIdx_iff_getElem?]
  constructor
  · intro h i sample hsample henabled
    apply h (.slot i)
    refine ⟨sample, i, hsample, ?_⟩
    rw [if_pos henabled]
  · rintro h a ⟨sample, i, hsample, ha⟩
    split at ha
    · cases ha
      apply h i sample hsample
      assumption
    · cases ha

theorem maskAccesses_safe_iff {attributes : ParserGraphNodeAttr} {mask : BitVec 32} {width : Nat} :
  (∀ a ∈ if mask = 0 then [] else [Access.shift width], a.Safe attributes)
    ↔ (mask ≠ 0 → width < 32)
  := by
  split
  · rename_i hmask
    simp [hmask]
  · rename_i hmask
    simp only [List.forall_mem_singleton, Access.Safe]
    rw [forall_prop_of_true hmask]

/-- The accesses of the checks. -/
theorem reached_safe_iff {caps : HcaCapabilities} {attributes : ParserGraphNodeAttr} :
  Check.Reached (fun c => ∀ a ∈ c.accesses, a.Safe attributes) (checks caps attributes)
    ↔ WidthBelow 32 caps attributes
      ∧ (ReachesArc caps attributes →
        ∃ arc ∈ attributes.inArcs.head?, arc.arcParseGraphNode.toNat < 32)
  := by
  have hpure : ∀ a ∈ ([] : List Access), a.Safe attributes := List.forall_mem_nil _
  have hmode (mode : BitVec 4) : ∀ a ∈ [Access.shift mode.toNat], a.Safe attributes := by
    rw [List.forall_mem_singleton]
    apply Nat.lt_trans mode.isLt
    decide
  rw [reached_checks (fun _ => hpure) fun mode _ => hmode mode]
  simp only [maskAccesses_safe_iff, arcAccesses_safe_iff, WidthBelow]

/-- Creating a node through the adapter indexes the input arcs, writes the samples and shifts inside
of the bounds exactly when three conditions hold: a mask is checked against a width below that of
`int`; if it comes to the first arc, then there is one, from a node below 32; and if it comes to
`create`, then the enabled samples have slots. -/
theorem accesses_safe_iff (caps : HcaCapabilities) (attributes : ParserGraphNodeAttr)
    (newObj : Nat) :
  (∀ a ∈ accesses caps attributes newObj, a.Safe attributes)
    ↔ WidthBelow 32 caps attributes
      ∧ (ReachesArc caps attributes →
        ∃ arc ∈ attributes.inArcs.head?, arc.arcParseGraphNode.toNat < 32)
      ∧ (newObj ≠ 0 → ReachesCreate caps attributes → Slotted attributes.samples)
  := by
  rw [accesses, Check.forall_mem_trace_iff, Check.reached_append, reached_safe_iff,
    ← reachesCreate_iff, and_assoc]
  apply and_congr_right
  intro _
  apply and_congr_right
  intro harc
  simp only [Check.Reached, implies_true, and_true]
  -- where `create` is reached, there is an arc
  have hinArcs (hreaches : ReachesCreate caps attributes) : attributes.inArcs ≠ [] := by
    intro hnil
    obtain ⟨arc, hhead, -⟩ := harc hreaches.toReachesArc
    rw [hnil] at hhead
    cases hhead
  by_cases hnew : newObj = 0
  · simp [hnew]
  · rw [if_neg hnew, forall_prop_of_true hnew]
    apply forall_congr'
    intro hreaches
    apply createAccesses_safe_iff (hinArcs hreaches)

/-- `struct adapter_hca_capabilities`, with the modes of the samples, which no check reads. -/
structure ParserCapabilities extends HcaCapabilities where
  parseGraphFlowMatchSampleOffsetMode : BitVec 16

/-- Capabilities that the node of the eCPRI header meets.  The length of a header is fixed, and the
offset of a sample can be fixed or in a field. -/
def ecpriCaps : ParserCapabilities where
  generalObjectTypesEncryptionKey := false
  generalObjectTypesParseGraphNode := true
  parseGraphNodeIn := 0x24
  parseGraphHeaderLengthMode := 0x1
  maxNumParseGraphArcIn := 1
  maxNumParseGraphFlowMatchSample := 8
  parseGraphFlowMatchSampleIdInOut := true
  maxParseGraphHeaderLengthBaseValue := 64
  maxParseGraphFlowMatchSampleFieldBaseOffsetValue := 64
  parseGraphHeaderLengthFieldMaskWidth := 5
  parseGraphFlowMatchSampleOffsetMode := 0x3

/-- Without an input arc, the first one is read all the same. -/
theorem accesses_without_arc :
  .arc 0 ∈ accesses ecpriCaps.toHcaCapabilities { ecpri with inArcs := [] } 1
    ∧ ¬ (Access.arc 0).Safe { ecpri with inArcs := [] }
  := by
  constructor
  · decide
  · simp [Access.Safe]

/-! ### What is accepted -/

/-- What the checks and the documentation agree on. -/
structure Admissible (caps : HcaCapabilities) (attributes : ParserGraphNodeAttr) : Prop where
  general : caps.generalObjectTypesParseGraphNode = true
  mode : caps.parseGraphHeaderLengthMode.getLsbD attributes.headerLengthMode.toNat = true
  base : attributes.headerLengthBaseValue ≤ caps.maxParseGraphHeaderLengthBaseValue
  arcs : attributes.inArcs.length ≤ caps.maxNumParseGraphArcIn.toNat
  node : ∀ arc ∈ attributes.inArcs,
    caps.parseGraphNodeIn.getLsbD arc.arcParseGraphNode.toNat = true
  samples : attributes.samples.length ≤ caps.maxNumParseGraphFlowMatchSample.toNat
  sample : ∀ sample ∈ attributes.samples, sample.enabled = true →
    sample.fieldBaseOffset ≤ caps.maxParseGraphFlowMatchSampleFieldBaseOffsetValue
      ∧ (sample.fieldId = 0 ∨ caps.parseGraphFlowMatchSampleIdInOut = true)

/-- The modes of the enabled samples are in the mask. -/
def ModesIn (modes : BitVec 16) (samples : List ParseGraphFlowMatchSampleAttr) : Prop :=
  ∀ sample ∈ samples, sample.enabled = true → modes.getLsbD sample.offsetMode.toNat = true

/-- No bit of the mask is at the width or above. -/
def MaskFits (width : BitVec 8) (mask : BitVec 32) : Prop :=
  ∀ i, width.toNat ≤ i → mask.getLsbD i = false

/-- A bit of the mask is below the width, if there is one. -/
def MaskTouches (width : BitVec 8) (mask : BitVec 32) : Prop :=
  mask ≠ 0 → ∃ i < width.toNat, mask.getLsbD i = true

/-- The node meets the capabilities. -/
structure Meets (caps : ParserCapabilities) (attributes : ParserGraphNodeAttr) : Prop extends
    Admissible caps.toHcaCapabilities attributes where
  mask : MaskFits caps.parseGraphHeaderLengthFieldMaskWidth attributes.headerLengthFieldMask
  modes : ModesIn caps.parseGraphFlowMatchSampleOffsetMode attributes.samples

theorem one_shiftLeft_sub_one {width : Nat} (hwidth : width < 31) :
  (1 <<< width - 1 : BitVec 32) = lowMask width
  := by
  have hpow : 2 ^ width < 2 ^ 31 := Nat.pow_lt_pow_right (by decide) hwidth
  have hpos := Nat.two_pow_pos width
  have hone : (1 : BitVec 32).toNat = 1 := rfl
  apply BitVec.eq_of_toNat_eq
  rw [toNat_lowMask (by omega), BitVec.toNat_sub, hone]
  simp only [BitVec.natCast_eq_ofNat, BitVec.toNat_ofNat, Nat.shiftLeft_eq, Nat.one_mul]
  omega

/-- A width that can be computed with is compared with the bits of the mask below it. -/
theorem fieldMaskSupported_eq_true_iff {caps : HcaCapabilities} {mask : BitVec 32} :
  fieldMaskSupported caps mask = some true
    ↔ (mask ≠ 0 → caps.parseGraphHeaderLengthFieldMaskWidth.toNat < 31)
      ∧ MaskTouches caps.parseGraphHeaderLengthFieldMaskWidth mask
  := by
  simp only [fieldMaskSupported, MaskTouches]
  generalize caps.parseGraphHeaderLengthFieldMaskWidth.toNat = width
  by_cases hmask : mask = 0
  · simp [hmask]
  · rw [if_neg hmask, forall_prop_of_true hmask, forall_prop_of_true hmask]
    split
    · rename_i hwidth
      rw [one_shiftLeft_sub_one hwidth, Option.some_inj, bne_iff_ne, and_iff_right hwidth,
        and_lowMask_ne_zero_iff (by omega)]
    · rename_i hwidth
      simp [hwidth]

theorem sampleSupported_iff {caps : HcaCapabilities} {sample : ParseGraphFlowMatchSampleAttr} :
  sampleSupported caps sample = true
    ↔ (sample.enabled = true →
        sample.fieldBaseOffset ≤ caps.maxParseGraphFlowMatchSampleFieldBaseOffsetValue
          ∧ (sample.fieldId = 0 ∨ caps.parseGraphFlowMatchSampleIdInOut = true))
      ∧ (sample.enabled = true →
        caps.parseGraphHeaderLengthMode.getLsbD sample.offsetMode.toNat = true)
  := by
  rw [sampleSupported, lengthModeSupported]
  cases sample.enabled with
  | false => simp
  | true =>
      simp only [Bool.not_true, Bool.false_or, Bool.and_eq_true, decide_eq_true_eq,
        Bool.or_eq_true, beq_iff_eq, forall_const]
      tauto

theorem nodeInSupported_eq_true_iff {caps : HcaCapabilities} {arc : ParseGraphArcAttr} :
  nodeInSupported caps [arc] = some true
    ↔ caps.parseGraphNodeIn.getLsbD arc.arcParseGraphNode.toNat = true
  := by
  rw [nodeInSupported]
  split
  · rw [Option.some_inj]
  · rename_i hnode
    rw [BitVec.getLsbD_of_ge _ _ (Nat.not_lt.mp hnode)]
    simp

/-- A node with one input arc passes the checks if it is admissible, the mask can be computed and
has a bit below the width, and the samples have modes that the header length has. -/
theorem supported_eq_true_iff {caps : HcaCapabilities} {attributes : ParserGraphNodeAttr}
    {arc : ParseGraphArcAttr} (harc : attributes.inArcs = [arc]) :
  supported caps attributes = some true
    ↔ Admissible caps attributes
      ∧ (attributes.headerLengthFieldMask ≠ 0 →
        caps.parseGraphHeaderLengthFieldMaskWidth.toNat < 31)
      ∧ MaskTouches caps.parseGraphHeaderLengthFieldMaskWidth attributes.headerLengthFieldMask
      ∧ ModesIn caps.parseGraphHeaderLengthMode attributes.samples
  := by
  have harcs : attributes.inArcs.length ≤ min caps.maxNumParseGraphArcIn.toNat maxInArcs
      ↔ attributes.inArcs.length ≤ caps.maxNumParseGraphArcIn.toNat := by
    rw [harc, List.length_singleton, maxInArcs]
    omega
  have hsamples : (∀ c ∈ attributes.samples.flatMap (sampleChecks caps), c.passes = some true)
      ↔ ∀ sample ∈ attributes.samples, sampleSupported caps sample = true := by
    rw [← Check.verdict_eq_true_iff, verdict_samples, Option.some_inj, List.all_eq_true]
  rw [← verdict_checks, Check.verdict_eq_true_iff, checks, List.forall_mem_append, hsamples]
  simp only [nodeChecks, List.forall_mem_cons, Option.some.injEq, decide_eq_true_eq, harcs,
    fieldMaskSupported_eq_true_iff, sampleSupported_iff, lengthModeSupported]
  rw [harc, nodeInSupported_eq_true_iff, ← harc]
  constructor
  · rintro ⟨⟨hgeneral, hmode, ⟨hwidth, hmask⟩, hbase, harcs, hnode, hnum, -⟩, hsample⟩
    refine ⟨⟨hgeneral, hmode, hbase, harcs, ?_, hnum, ?_⟩, hwidth, hmask, ?_⟩
    · rw [harc, List.forall_mem_singleton]
      apply hnode
    · intro sample hmem
      apply (hsample sample hmem).1
    · intro sample hmem
      apply (hsample sample hmem).2
  · rintro ⟨⟨hgeneral, hmode, hbase, harcs, hnode, hnum, hsample⟩, hwidth, hmask, hmodes⟩
    rw [harc, List.forall_mem_singleton] at hnode
    refine ⟨⟨hgeneral, hmode, ⟨hwidth, hmask⟩, hbase, harcs, hnode, hnum, List.forall_mem_nil _⟩,
      ?_⟩
    intro sample hmem
    exact ⟨hsample sample hmem, hmodes sample hmem⟩

theorem meets_iff {caps : ParserCapabilities} {attributes : ParserGraphNodeAttr} :
  Meets caps attributes
    ↔ Admissible caps.toHcaCapabilities attributes
      ∧ MaskFits caps.parseGraphHeaderLengthFieldMaskWidth attributes.headerLengthFieldMask
      ∧ ModesIn caps.parseGraphFlowMatchSampleOffsetMode attributes.samples
  := by
  constructor
  · rintro ⟨hadmissible, hmask, hmodes⟩
    exact ⟨hadmissible, hmask, hmodes⟩
  · rintro ⟨hadmissible, hmask, hmodes⟩
    exact ⟨hadmissible, hmask, hmodes⟩

/-- The checks of a node with one input arc have a result, which says whether the node meets the
capabilities, exactly when no check is undefined, and for a node that is admissible, what is checked
of the mask and of the modes of the samples comes to the same as what the capabilities say of
them. -/
theorem checks_meet_iff {caps : ParserCapabilities} {attributes : ParserGraphNodeAttr}
    {arc : ParseGraphArcAttr} (harc : attributes.inArcs = [arc]) :
  (∃ passed, supported caps.toHcaCapabilities attributes = some passed
      ∧ (passed = true ↔ Meets caps attributes))
    ↔ WidthBelow 31 caps.toHcaCapabilities attributes
      ∧ (ReachesArc caps.toHcaCapabilities attributes → arc.arcParseGraphNode.toNat < 32)
      ∧ (Admissible caps.toHcaCapabilities attributes →
        (MaskTouches caps.parseGraphHeaderLengthFieldMaskWidth attributes.headerLengthFieldMask
            ∧ ModesIn caps.parseGraphHeaderLengthMode attributes.samples
          ↔ MaskFits caps.parseGraphHeaderLengthFieldMaskWidth attributes.headerLengthFieldMask
            ∧ ModesIn caps.parseGraphFlowMatchSampleOffsetMode attributes.samples))
  := by
  have hresult : (∃ passed, supported caps.toHcaCapabilities attributes = some passed
        ∧ (passed = true ↔ Meets caps attributes))
      ↔ supported caps.toHcaCapabilities attributes ≠ none
        ∧ (supported caps.toHcaCapabilities attributes = some true ↔ Meets caps attributes) := by
    cases supported caps.toHcaCapabilities attributes with
    | none => simp
    | some passed => simp
  have hhead : (∃ arc ∈ attributes.inArcs.head?, arc.arcParseGraphNode.toNat < 32)
      ↔ arc.arcParseGraphNode.toNat < 32 := by
    simp [harc]
  rw [hresult, supported_ne_none_iff, hhead, supported_eq_true_iff harc, meets_iff, and_assoc]
  apply and_congr_right
  intro hwidth
  apply and_congr_right
  intro _
  rw [and_congr_right_iff]
  apply forall_congr'
  intro hadmissible
  -- an admissible node comes to the check of its mask
  rw [and_iff_right (hwidth hadmissible.general hadmissible.mode)]

/-- The node of the eCPRI header is judged right. -/
theorem checks_meet_ecpri :
  ecpri.inArcs = [ecpriArc]
    ∧ ∃ passed, supported ecpriCaps.toHcaCapabilities ecpri = some passed
      ∧ (passed = true ↔ Meets ecpriCaps ecpri)
  := by
  have harc : ecpri.inArcs = [ecpriArc] := rfl
  refine ⟨harc, (checks_meet_iff harc).mpr ⟨?_, ?_, ?_⟩⟩
  · intro _ _ hmask
    cases hmask rfl
  · intro _
    decide
  · intro _
    simp [MaskTouches, MaskFits, ModesIn, ecpri, ecpriSample, ecpriCaps]

/-- The eCPRI header with a sample whose offset is in a field. -/
def fieldNode : ParserGraphNodeAttr :=
  { ecpri with samples := [{ ecpriSample 8 with offsetMode := 0x1 }] }

/-- The eCPRI header with a mask of six bits. -/
def wideNode : ParserGraphNodeAttr :=
  { ecpri with headerLengthFieldMask := 0x3f }

/-- A node that meets the capabilities is refused, because the header length does not have the mode
of its sample; and a node is accepted whose mask has six bits where five are valid. -/
theorem checks_misjudge :
  (Meets ecpriCaps fieldNode ∧ supported ecpriCaps.toHcaCapabilities fieldNode = some false)
    ∧ ¬ Meets ecpriCaps wideNode ∧ supported ecpriCaps.toHcaCapabilities wideNode = some true
  := by
  refine ⟨⟨⟨⟨rfl, rfl, by decide, by decide, by decide, by decide, ?_⟩, ?_, ?_⟩, by decide⟩, ?_,
    by decide⟩
  · simp [fieldNode, ecpriSample, ecpriCaps]
  · simp [MaskFits, fieldNode, ecpri]
  · simp [ModesIn, fieldNode, ecpriSample, ecpriCaps]
  · intro hmeets
    have hbit := hmeets.mask 5 (by decide)
    revert hbit
    decide

/-! ### The mailbox of an accepted node -/

/-- A node that is accepted has one input arc. -/
theorem inArcs_of_supported {caps : HcaCapabilities} {attributes : ParserGraphNodeAttr}
    (h : supported caps attributes = some true) :
  ∃ arc, attributes.inArcs = [arc]
  := by
  rw [← verdict_checks, Check.verdict_eq_true_iff, checks, List.forall_mem_append] at h
  simp only [nodeChecks, List.forall_mem_cons, Option.some.injEq, decide_eq_true_eq] at h
  obtain ⟨⟨-, -, -, -, harcs, hnode, -⟩, -⟩ := h
  cases hinArcs : attributes.inArcs with
  | nil =>
      rw [hinArcs, nodeInSupported] at hnode
      cases hnode
  | cons arc arcs =>
      have hlength : attributes.inArcs.length ≤ 1 := Nat.le_trans harcs (Nat.min_le_right _ _)
      rw [hinArcs, List.length_cons] at hlength
      have hnil : arcs = [] := List.eq_nil_of_length_eq_zero (by omega)
      rw [hnil]
      exact ⟨arc, rfl⟩

/-- The mailbox of a node that is accepted carries the node exactly when the enabled samples have
slots and ask for no id, and the input arc is from a node or is blank. -/
theorem mailbox_carries_iff {caps : HcaCapabilities} {attributes : ParserGraphNodeAttr}
    (h : supported caps attributes = some true) (ctx : Bool) :
  ∃ arc c, attributes.inArcs = [arc] ∧ (new ctx attributes).command = some c
    ∧ (Carries attributes arc c.mailbox
      ↔ (∀ i sample, attributes.samples[i]? = some sample → sample.enabled = true →
          i < ParseGraphNode.flowMatchSampleSlots ∧ sample.fieldId = 0)
        ∧ (arc.arcParseGraphNode ≠ 0 ∨ Blank arc))
  := by
  obtain ⟨arc, harc⟩ := inArcs_of_supported h
  have hhead : (new ctx attributes).mAttrs.inArcs.head? = some arc := by
    rw [new, harc]
    rfl
  obtain ⟨c, hcommand, hbits⟩ := command_of_head hhead
  exact ⟨arc, c, harc, hcommand, carries_iff hbits⟩

/-- The mailbox of the node of the eCPRI header carries it. -/
theorem mailbox_carries_ecpri :
  supported ecpriCaps.toHcaCapabilities ecpri = some true
    ∧ ∃ arc c, ecpri.inArcs = [arc] ∧ (new true ecpri).command = some c
      ∧ Carries ecpri arc c.mailbox
  := by
  have hsupported : supported ecpriCaps.toHcaCapabilities ecpri = some true := by decide
  obtain ⟨arc, c, harc, hcommand, hcarries⟩ := mailbox_carries_iff hsupported true
  refine ⟨hsupported, arc, c, harc, hcommand, hcarries.mpr ⟨?_, ?_⟩⟩
  · intro i sample hsample _
    rcases i with _ | _ | i
    · cases hsample
      decide
    · cases hsample
      decide
    · cases hsample
  · cases harc
    exact .inl (by decide)

/-- The node of the eCPRI header, where the first sample asks for an id. -/
def namedNode : ParserGraphNodeAttr :=
  { ecpri with samples := [{ ecpriSample 8 with fieldId := 7 }, ecpriSample 12] }

/-- An id that is asked for passes the checks and is not in the mailbox. -/
theorem mailbox_without_id :
  supported ecpriCaps.toHcaCapabilities namedNode = some true
    ∧ ∃ c, (new true namedNode).command = some c
      ∧ devxGet c.mailbox (slot 0) ParseGraphFlowMatchSample.flowMatchSampleFieldId = 0
      ∧ ¬ Carries namedNode ecpriArc c.mailbox
  := by
  have hhead : (new true namedNode).mAttrs.inArcs.head? = some ecpriArc := rfl
  obtain ⟨c, hcommand, hbits⟩ := command_of_head hhead
  refine ⟨by decide, c, hcommand, devxGet_fieldId hbits (by decide), ?_⟩
  intro hcarries
  have hid := ((carries_iff hbits).mp hcarries).1 0 _ rfl rfl
  revert hid
  decide

end ParserGraphNode

end Dpcp
