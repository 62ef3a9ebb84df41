import Dpcp.GeneralObject

/-!
# Parser graph nodes

What `adapter::create_parser_graph_node` checks against the capabilities of the device before it
builds the node, and the command that creates the node.
-/

namespace Dpcp

open Bits Dcmd Prm

/-- `struct adapter_hca_capabilities`, the fields that the factories read. -/
structure HcaCapabilities where
  generalObjectTypesEncryptionKey : Bool
  generalObjectTypesParseGraphNode : Bool
  parseGraphNodeIn : BitVec 32
  parseGraphHeaderLengthMode : BitVec 16
  maxNumParseGraphArcIn : BitVec 8
  maxNumParseGraphFlowMatchSample : BitVec 8
  parseGraphFlowMatchSampleIdInOut : Bool
  maxParseGraphHeaderLengthBaseValue : BitVec 16
  maxParseGraphFlowMatchSampleFieldBaseOffsetValue : BitVec 8
  parseGraphHeaderLengthFieldMaskWidth : BitVec 8

/-- `struct parse_graph_arc_attr`. -/
structure ParseGraphArcAttr where
  compareConditionValue : BitVec 16
  startInnerTunnel : Bool
  arcParseGraphNode : BitVec 8
  parseGraphNodeHandle : BitVec 32

/-- `struct parse_graph_flow_match_sample_attr`. -/
structure ParseGraphFlowMatchSampleAttr where
  enabled : Bool
  fieldOffset : BitVec 16
  offsetMode : BitVec 4
  fieldOffsetMask : BitVec 32
  fieldOffsetShift : BitVec 4
  fieldBaseOffset : BitVec 8
  tunnelMode : BitVec 3
  fieldId : BitVec 32

/-- `struct parser_graph_node_attr`. -/
structure ParserGraphNodeAttr where
  headerLengthBaseValue : BitVec 16
  headerLengthFieldOffset : BitVec 16
  headerLengthFieldMask : BitVec 32
  headerLengthMode : BitVec 4
  headerLengthFieldShift : BitVec 4
  samples : List ParseGraphFlowMatchSampleAttr
  inArcs : List ParseGraphArcAttr

namespace ParserGraphNode

/-- Whether `1 << mode` is in the mask of the header length modes. -/
def lengthModeSupported (caps : HcaCapabilities) (mode : BitVec 4) : Bool :=
  caps.parseGraphHeaderLengthMode.getLsbD mode.toNat

/-- The check of `header_length_field_mask`.  There is no result if `(1 << width) - 1`
overflows. -/
def fieldMaskSupported (caps : HcaCapabilities) (mask : BitVec 32) : Option Bool :=
  let width := caps.parseGraphHeaderLengthFieldMaskWidth.toNat
  if mask = 0 then
    some true
  else if width < 31 then
    some (mask &&& (1 <<< width - 1) != 0)
  else
    none

/-- The check of the first input arc.  There is no result if there is no arc, or if the shift is
too wide. -/
def nodeInSupported (caps : HcaCapabilities) (inArcs : List ParseGraphArcAttr) : Option Bool :=
  match inArcs with
  | [] => none
  | arc :: _ =>
      if arc.arcParseGraphNode.toNat < 32 then
        some (caps.parseGraphNodeIn.getLsbD arc.arcParseGraphNode.toNat)
      else
        none

/-- The checks of a sample.  The offset mode is checked against the header length modes. -/
def sampleSupported (caps : HcaCapabilities) (sample : ParseGraphFlowMatchSampleAttr) : Bool :=
  !sample.enabled
    || (sample.fieldBaseOffset ≤ caps.maxParseGraphFlowMatchSampleFieldBaseOffsetValue
      && lengthModeSupported caps sample.offsetMode
      && (sample.fieldId == 0 || caps.parseGraphFlowMatchSampleIdInOut))

/-- `max_in_arcs`. -/
def maxInArcs : Nat := 1

/-- The checks of `create_parser_graph_node`, in that order. -/
def supported (caps : HcaCapabilities) (attributes : ParserGraphNodeAttr) : Option Bool :=
  if !caps.generalObjectTypesParseGraphNode then
    some false
  else if !lengthModeSupported caps attributes.headerLengthMode then
    some false
  else
    match fieldMaskSupported caps attributes.headerLengthFieldMask with
    | none => none
    | some false => some false
    | some true =>
        if caps.maxParseGraphHeaderLengthBaseValue < attributes.headerLengthBaseValue then
          some false
        else if min caps.maxNumParseGraphArcIn.toNat maxInArcs < attributes.inArcs.length then
          some false
        else
          match nodeInSupported caps attributes.inArcs with
          | none => none
          | some false => some false
          | some true =>
              if caps.maxNumParseGraphFlowMatchSample.toNat < attributes.samples.length then
                some false
              else
                some (attributes.samples.all (sampleSupported caps))

end ParserGraphNode

/-! ### Creation -/

/-- `class parser_graph_node`. -/
structure ParserGraphNode where
  base : Obj
  mAttrs : ParserGraphNodeAttr
  mParserGraphNodeId : BitVec 32

namespace ParserGraphNode

def mlx5GeneralObjectTypesParseGraphNode : BitVec 32 := 0x22

/-- The constructor of `parser_graph_node`. -/
def new (ctx : Bool) (attrs : ParserGraphNodeAttr) : ParserGraphNode :=
  ⟨.new ctx, attrs, 0⟩

/-- The fields of a sample, at the address `sampleOffset`.  The id of the sample is not among
them. -/
def setSample (m : Memory) (sampleOffset : Nat) (sample : ParseGraphFlowMatchSampleAttr) :
    Memory :=
  let m := devxSet m sampleOffset ParseGraphFlowMatchSample.flowMatchSampleEn 1
  let m := devxSet m sampleOffset ParseGraphFlowMatchSample.flowMatchSampleFieldOffset
    (sample.fieldOffset.setWidth 32)
  let m := devxSet m sampleOffset ParseGraphFlowMatchSample.flowMatchSampleOffsetMode
    (sample.offsetMode.setWidth 32)
  let m := devxSet m sampleOffset ParseGraphFlowMatchSample.flowMatchSampleFieldOffsetMask
    sample.fieldOffsetMask
  let m := devxSet m sampleOffset ParseGraphFlowMatchSample.flowMatchSampleFieldOffsetShift
    (sample.fieldOffsetShift.setWidth 32)
  let m := devxSet m sampleOffset ParseGraphFlowMatchSample.flowMatchSampleFieldBaseOffset
    (sample.fieldBaseOffset.setWidth 32)
  devxSet m sampleOffset ParseGraphFlowMatchSample.flowMatchSampleTunnelMode
    (sample.tunnelMode.setWidth 32)

/-- The loop of `create` over the samples, at the address `sampleOffset`. -/
def setSamples (m : Memory) (sampleOffset : Nat) : List ParseGraphFlowMatchSampleAttr → Memory
  | [] => m
  | sample :: samples =>
      let m := if sample.enabled then setSample m sampleOffset sample else m
      setSamples m (sampleOffset + ParseGraphFlowMatchSample.bytes) samples

/-- The fields of the input arc. -/
def setArc (m : Memory) (inArc : Nat) (arc : ParseGraphArcAttr) : Memory :=
  if arc.arcParseGraphNode ≠ 0 then
    let m := devxSet m inArc ParseGraphArc.compareConditionValue
      (arc.compareConditionValue.setWidth 32)
    let m := devxSet m inArc ParseGraphArc.startInnerTunnel (if arc.startInnerTunnel then 1 else 0)
    let m := devxSet m inArc ParseGraphArc.arcParseGraphNode (arc.arcParseGraphNode.setWidth 32)
    devxSet m inArc ParseGraphArc.parseGraphNodeHandle arc.parseGraphNodeHandle
  else m

/-- The command of `create`.  There is none if there is no input arc to read. -/
def command (node : ParserGraphNode) : Option Obj.Command := do
  let attrs := node.mAttrs
  let p := CreateParseGraphNodeIn.node
  let m := zeros
  let m := devxSet m 0 GeneralObjInCmdHdr.opcode mlx5CmdOpCreateGeneralObject
  let m := devxSet m 0 GeneralObjInCmdHdr.objType mlx5GeneralObjectTypesParseGraphNode
  let m := devxSet m p ParseGraphNode.headerLengthMode (attrs.headerLengthMode.setWidth 32)
  let m := devxSet m p ParseGraphNode.headerLengthBaseValue
    (attrs.headerLengthBaseValue.setWidth 32)
  let m := devxSet m p ParseGraphNode.headerLengthFieldOffset
    (attrs.headerLengthFieldOffset.setWidth 32)
  let m := devxSet m p ParseGraphNode.headerLengthFieldShift
    (attrs.headerLengthFieldShift.setWidth 32)
  let m := devxSet m p ParseGraphNode.headerLengthFieldMask attrs.headerLengthFieldMask
  let m := setSamples m (p + ParseGraphNode.flowMatchSample) attrs.samples
  let arc ← attrs.inArcs.head?
  let m := setArc m (p + ParseGraphNode.inputArc) arc
  some ⟨m, CreateParseGraphNodeIn.bytes, GeneralObjOutCmdHdr.bytes⟩

/-- `parser_graph_node::create`; there is no result if there is no input arc. -/
def create (node : ParserGraphNode) (device : Device) : Option (Result ParserGraphNode) := do
  let c ← node.command
  let (ret, base, out) := node.base.create device (some c.mailbox) c.inlen zeros c.outlen
  let node := { node with base := base }
  match ret with
  | .ok =>
      some (.ok, { node with mParserGraphNodeId := devxGet out 0 GeneralObjOutCmdHdr.objId })
  | _ => some (.errCreate, node)

/-- What `create` leaves of the object. -/
theorem create_base {node node' : ParserGraphNode} {device : Device} {ret : Status}
    (h : node.create device = some (ret, node')) :
  node'.base = node.base.send device node.command
  := by
  obtain ⟨c, hc, h⟩ := Option.bind_eq_some_iff.mp h
  rw [hc, Obj.send]
  generalize node.base.create device (some c.mailbox) c.inlen zeros c.outlen = r at h
  obtain ⟨ret', base, out⟩ := r
  cases ret' <;> cases h <;> rfl

/-! ### The node of the eCPRI header -/

/-- The input arc of the eCPRI header, from the MAC header. -/
def ecpriArc : ParseGraphArcAttr where
  compareConditionValue := 0xaefe
  startInnerTunnel := false
  arcParseGraphNode := 0x2
  parseGraphNodeHandle := 0

/-- The sample of the eCPRI header at the octet `fieldBaseOffset`. -/
def ecpriSample (fieldBaseOffset : BitVec 8) : ParseGraphFlowMatchSampleAttr where
  enabled := true
  fieldOffset := 0
  offsetMode := 0x0
  fieldOffsetMask := 0
  fieldOffsetShift := 0
  fieldBaseOffset := fieldBaseOffset
  tunnelMode := 0x1
  fieldId := 0

/-- The node of the eCPRI header. -/
def ecpri : ParserGraphNodeAttr where
  headerLengthBaseValue := 16
  headerLengthFieldOffset := 0
  headerLengthFieldMask := 0
  headerLengthMode := 0x0
  headerLengthFieldShift := 0
  samples := [ecpriSample 8, ecpriSample 12]
  inArcs := [ecpriArc]

end ParserGraphNode

end Dpcp
