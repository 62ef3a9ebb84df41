import Dpcp.Adapter.Factories
import Dpcp.Flow.Miss
import Dpcp.Parser.Checks

/-!
# The capabilities of an adapter

The constructor of `adapter` queries nine pages of capabilities and copies what it needs of them to
one structure, with a callback for each group of members.  The factories look at that structure
only.

`Reports` says what the structure is for: each member has the value of a field of a page.  It has,
but for the periods of the LRO timer, which are cut to a byte, and for a few members that no
callback sets.  The tables that an adapter makes are those that the pages allow.
-/

namespace Dpcp

open Bits Dcmd Prm

/-! ### The members -/

/-- `struct flow_table_fields_capabilities`. -/
structure FlowTableFieldsCapabilities where
  outerEthertype : Bool
  outerUdpDport : Bool
  progSampleField : Bool
  metadataRegC0 : Bool
  metadataRegC1 : Bool
deriving Inhabited

/-- `struct modify_flow_action_capabilities`. -/
structure ModifyFlowActionCapabilities where
  maxObjLogNum : BitVec 8
  maxObjInFlowRule : BitVec 32
  logMaxNumHeaderModifyArgument : BitVec 8
  logHeaderModifyArgumentGranularity : BitVec 8
  logHeaderModifyArgumentMaxAlloc : BitVec 8
  setFieldsSupport : FlowTableFieldsCapabilities
  copyFieldsSupport : FlowTableFieldsCapabilities
deriving Inhabited

/-- `struct reformat_flow_action_capabilities`. -/
structure ReformatFlowActionCapabilities where
  maxSizeReformatInsertBuff : BitVec 8
  maxReformatInsertOffset : BitVec 8
  maxLogNumOfPacketReformat : BitVec 8
deriving Inhabited

deriving instance Inhabited for FlowTableTypeCapabilities

/-- `struct flow_table_type_capabilities`. -/
structure ReceiveCapabilities extends FlowTableTypeCapabilities where
  isFlowActionTagSupported : Bool
  isFlowActionModifySupported : Bool
  isFlowActionReformatSupported : Bool
  isFlowActionReformatFromTypeInsertSupported : Bool
  isFlowActionNonTunnelReformatAndFwdToFlowTable : Bool
  isFlowActionReformatAndModifySupported : Bool
  isFlowActionReformatAndFwdToFlowTable : Bool
  maxSteeringDepth : BitVec 32
  maxLogNumOfFlowTable : BitVec 8
  maxLogNumOfFlowRule : BitVec 8
  isFlowActionReparseSupported : Bool
  modifyFlowActionCaps : ModifyFlowActionCapabilities
  ftFieldSupport : FlowTableFieldsCapabilities
deriving Inhabited

/-- `struct flow_table_capabilities`. -/
structure FlowTableCapabilities where
  reformatFlowActionCaps : ReformatFlowActionCapabilities
  receive : ReceiveCapabilities
deriving Inhabited

/-- `struct nvmeotcp_capabilities`. -/
structure NvmeotcpCapabilities where
  enabled : Bool
  zerocopy : Bool
  crcRx : Bool
  crcTx : Bool
  version : BitVec 8
  logMaxNvmeotcpTagBufferTable : BitVec 8
  logMaxNvmeotcpTagBufferSize : BitVec 8
deriving Inhabited

deriving instance Inhabited for HcaCapabilities
deriving instance Inhabited for ParserGraphNode.ParserCapabilities

/-- `struct adapter_hca_capabilities`. -/
structure AdapterHcaCapabilities extends ParserGraphNode.ParserCapabilities where
  deviceFrequencyKhz : BitVec 32
  tlsTx : Bool
  tlsRx : Bool
  tls12AesGcm128 : Bool
  tls12AesGcm256 : Bool
  synchronizeDek : Bool
  logMaxNumDeks : BitVec 8
  logMaxDek : BitVec 8
  cryptoEnable : Bool
  aesXtsMultiBlockLeTweak : Bool
  aesXtsTweakInc64 : Bool
  aesXtsSingleBlockLeTweak : Bool
  aesXtsMultiBlockBeTweak : Bool
  aesXtsTweakIncShift : Bool
  sqTsFormat : BitVec 8
  rqTsFormat : BitVec 8
  lroCap : Bool
  lroPshFlag : Bool
  lroTimeStamp : Bool
  lroMaxMsgSzMode : BitVec 8
  lroMinMssSize : BitVec 16
  lroTimerSupportedPeriods : Fin 4 → BitVec 8
  ibq : Bool
  ibqWireProtocol : BitVec 64
  ibqMaxScatterOffset : BitVec 16
  isFlowTableCapsSupported : Bool
  flowTableCaps : FlowTableCapabilities
  nvmeotcpCaps : NvmeotcpCapabilities
deriving Inhabited

/-! ### The pages -/

/-- The types of `enum mlx5_cap_type` that are queried. -/
inductive CapType where
  | general
  | tls
  | parseGraphNode
  | ethernetOffloads
  | general2
  | flowTable
  | dpp
  | nvmeotcp
  | crypto
deriving DecidableEq

def CapType.value : CapType → Nat
  | general => 0
  | tls => 0x11
  | parseGraphNode => 0x1c
  | ethernetOffloads => 1
  | general2 => 0x20
  | flowTable => 7
  | dpp => 0x12
  | nvmeotcp => 0x19
  | crypto => 0x1a

/-- `s_supported_cap_types`. -/
def supportedCapTypes : List CapType :=
  [.general, .tls, .parseGraphNode, .ethernetOffloads, .general2, .flowTable, .dpp, .nvmeotcp,
    .crypto]

/-- `caps_map_t`. -/
abbrev CapsMap : Type := CapType → Option Memory

/-- `exec_cmd`: the command and the buffer for the answer, and the error and the buffer after it. -/
abbrev ExecCmd : Type := Memory → Memory → Nat × Memory

def mlx5CmdOpQueryHcaCap : BitVec 32 := 0x100
def hcaCapOpmodGetCur : Nat := 1

namespace Adapter

/-- The pages that the constructor allocates. -/
def allocCaps : CapsMap :=
  fun capType => if capType ∈ supportedCapTypes then some zeros else none

/-- A step of the loop of `query_hca_caps`.  The command is kept from one type to the next, and the
error is only logged. -/
def queryCap (execCmd : ExecCmd) (s : Memory × CapsMap) (capType : CapType) : Memory × CapsMap :=
  let opmod := capType.value <<< 1 ||| hcaCapOpmodGetCur
  let m := devxSet s.1 0 QueryHcaCapIn.opcode mlx5CmdOpQueryHcaCap
  let m := devxSet m 0 QueryHcaCapIn.opMod (.ofNat 32 opmod)
  (m, Function.update s.2 capType ((s.2 capType).map fun page => (execCmd m page).2))

/-- `adapter::query_hca_caps`. -/
def queryHcaCaps (execCmd : ExecCmd) (caps : CapsMap) : CapsMap :=
  (supportedCapTypes.foldl (queryCap execCmd) (zeros, caps)).2

end Adapter

/-! ### The callbacks -/

namespace Caps

/-- A flag of a page; `p` is where the structure of the flag starts. -/
def flag (page : Memory) (p : Nat) (f : Field) : Bool :=
  devxGet page p f != 0

/-- A number of a page, as it is stored in a member of `w` bits. -/
def number (w : Nat) (page : Memory) (p : Nat) (f : Field) : BitVec w :=
  (devxGet page p f).setWidth w

/-- Where the capabilities of a page start. -/
def cap : Nat := QueryHcaCapOut.capability

/-- Where the properties of receive tables start. -/
def rx : Nat := cap + FlowTableNicCap.flowTablePropertiesNicReceive

/-- Where the fields of receive tables start. -/
def rxFields : Nat := rx + FlowTablePropLayout.ftFieldSupport

/-- Where the fields to set start. -/
def setFields : Nat :=
  cap + FlowTableNicCap.headerModifyNicReceive + HeaderModifyCapProperties.setActionFieldSupport

/-- Where the fields to copy start. -/
def copyFields : Nat :=
  cap + FlowTableNicCap.headerModifyNicReceive + HeaderModifyCapProperties.copyActionFieldSupport

def mlx5GeneralObjectTypesEncryptionKey : Nat := 0xc
def mlx5GeneralObjectTypesParseGraphNode : Nat := 0x22

/-- A type of general objects is there. -/
def generalObjType (page : Memory) (type : Nat) : Bool :=
  devxGet64 page cap CmdHcaCap.generalObjTypes &&& 1 <<< type != 0

variable (caps : AdapterHcaCapabilities) (capsMap : CapsMap)

/-- `store_hca_device_frequency_khz_caps`. -/
def storeHcaDeviceFrequencyKhzCaps : AdapterHcaCapabilities :=
  match capsMap .general with
  | none => caps
  | some page =>
      { caps with deviceFrequencyKhz := number 32 page cap CmdHcaCap.deviceFrequencyKhz }

/-- `store_hca_tls_caps`. -/
def storeHcaTlsCaps : AdapterHcaCapabilities :=
  match capsMap .general with
  | none => caps
  | some page =>
      { caps with
        tlsTx := flag page cap CmdHcaCap.tlsTx
        tlsRx := flag page cap CmdHcaCap.tlsRx }

/-- `store_hca_cap_crypto_enable`. -/
def storeHcaCapCryptoEnable : AdapterHcaCapabilities :=
  match capsMap .general with
  | none => caps
  | some page =>
      { caps with
        cryptoEnable := flag page cap CmdHcaCap.crypto
        aesXtsMultiBlockLeTweak := flag page cap CmdHcaCap.aesXtsMultiBlockLeTweak
        aesXtsTweakIncShift := flag page cap CmdHcaCap.aesXtsTweakIncShift
        aesXtsSingleBlockLeTweak := flag page cap CmdHcaCap.aesXtsSingleBlockLeTweak
        aesXtsTweakInc64 := flag page cap CmdHcaCap.aesXtsTweakInc64
        aesXtsMultiBlockBeTweak := flag page cap CmdHcaCap.aesXtsMultiBlockBeTweak }

/-- `store_hca_general_object_types_encryption_key_caps`. -/
def storeHcaGeneralObjectTypesEncryptionKeyCaps : AdapterHcaCapabilities :=
  match capsMap .general with
  | none => caps
  | some page =>
      { caps with
        generalObjectTypesEncryptionKey :=
          if generalObjType page mlx5GeneralObjectTypesEncryptionKey then true
          else caps.generalObjectTypesEncryptionKey }

/-- `store_hca_log_max_dek_caps`. -/
def storeHcaLogMaxDekCaps : AdapterHcaCapabilities :=
  match capsMap .general with
  | none => caps
  | some page => { caps with logMaxDek := number 8 page cap CmdHcaCap.logMaxDek }

/-- `store_hca_tls_1_2_aes_gcm_caps`. -/
def storeHcaTls12AesGcmCaps : AdapterHcaCapabilities :=
  match capsMap .tls with
  | none => caps
  | some page =>
      { caps with
        tls12AesGcm128 := flag page cap TlsCap.tls12AesGcm128
        tls12AesGcm256 := flag page cap TlsCap.tls12AesGcm256 }

/-- `store_hca_sq_ts_format_caps`. -/
def storeHcaSqTsFormatCaps : AdapterHcaCapabilities :=
  match capsMap .general with
  | none => caps
  | some page => { caps with sqTsFormat := number 8 page cap CmdHcaCap.sqTsFormat }

/-- `store_hca_rq_ts_format_caps`. -/
def storeHcaRqTsFormatCaps : AdapterHcaCapabilities :=
  match capsMap .general with
  | none => caps
  | some page => { caps with rqTsFormat := number 8 page cap CmdHcaCap.rqTsFormat }

/-- `store_hca_lro_caps`. -/
def storeHcaLroCaps : AdapterHcaCapabilities :=
  match capsMap .ethernetOffloads with
  | none => caps
  | some page =>
      { caps with
        lroCap := flag page cap PerProtocolNetworkingOffloadCaps.lroCap
        lroPshFlag := flag page cap PerProtocolNetworkingOffloadCaps.lroPshFlag
        lroTimeStamp := flag page cap PerProtocolNetworkingOffloadCaps.lroTimeStamp
        lroMaxMsgSzMode := number 8 page cap PerProtocolNetworkingOffloadCaps.lroMaxMsgSzMode
        lroMinMssSize := number 16 page cap PerProtocolNetworkingOffloadCaps.lroMinMssSize
        -- with a cast to `uint8_t`
        lroTimerSupportedPeriods i :=
          number 8 page cap (PerProtocolNetworkingOffloadCaps.lroTimerSupportedPeriods i) }

/-- `store_hca_ibq_caps`. -/
def storeHcaIbqCaps : AdapterHcaCapabilities :=
  match capsMap .general, capsMap .dpp with
  | some general, some dpp =>
      { caps with
        ibq := flag general cap CmdHcaCap.ibq
        ibqWireProtocol := devxGet64 dpp cap IbqCap.ibqWireProtocol
        ibqMaxScatterOffset := number 16 dpp cap IbqCap.ibqMaxScatterOffset }
  | _, _ => caps

/-- `store_hca_parse_graph_node_caps`. -/
def storeHcaParseGraphNodeCaps : AdapterHcaCapabilities :=
  match capsMap .parseGraphNode, capsMap .general with
  | some page, some general =>
      { caps with
        generalObjectTypesParseGraphNode :=
          if generalObjType general mlx5GeneralObjectTypesParseGraphNode then true
          else caps.generalObjectTypesParseGraphNode
        parseGraphNodeIn := number 32 page cap ParseGraphNodeCap.parseGraphNodeIn
        parseGraphHeaderLengthMode :=
          number 16 page cap ParseGraphNodeCap.parseGraphHeaderLengthMode
        parseGraphFlowMatchSampleOffsetMode :=
          number 16 page cap ParseGraphNodeCap.parseGraphFlowMatchSampleOffsetMode
        maxNumParseGraphArcIn := number 8 page cap ParseGraphNodeCap.maxNumParseGraphArcIn
        maxNumParseGraphFlowMatchSample :=
          number 8 page cap ParseGraphNodeCap.maxNumParseGraphFlowMatchSample
        parseGraphFlowMatchSampleIdInOut :=
          flag page cap ParseGraphNodeCap.parseGraphFlowMatchSampleIdInOut
        maxParseGraphHeaderLengthBaseValue :=
          number 16 page cap ParseGraphNodeCap.maxParseGraphHeaderLengthBaseValue
        maxParseGraphFlowMatchSampleFieldBaseOffsetValue :=
          number 8 page cap ParseGraphNodeCap.maxParseGraphFlowMatchSampleFieldBaseOffsetValue
        parseGraphHeaderLengthFieldMaskWidth :=
          number 8 page cap ParseGraphNodeCap.parseGraphHeaderLengthFieldMaskWidth }
  | _, _ => caps

/-- `store_hca_2_reformat_caps`. -/
def storeHca2ReformatCaps : AdapterHcaCapabilities :=
  match capsMap .general2 with
  | none => caps
  | some page =>
      { caps with
        flowTableCaps.reformatFlowActionCaps.maxSizeReformatInsertBuff :=
          number 8 page cap CmdHcaCap2.maxReformatInsertSize
        flowTableCaps.reformatFlowActionCaps.maxReformatInsertOffset :=
          number 8 page cap CmdHcaCap2.maxReformatInsertOffset
        flowTableCaps.receive.isFlowActionNonTunnelReformatAndFwdToFlowTable :=
          flag page cap CmdHcaCap2.nonTunnelReformat }

/-- `store_hca_flow_table_caps`. -/
def storeHcaFlowTableCaps : AdapterHcaCapabilities :=
  match capsMap .general, capsMap .flowTable with
  | some general, some page =>
      { caps with
        isFlowTableCapsSupported := flag general cap CmdHcaCap.nicFlowTable
        flowTableCaps.receive.maxSteeringDepth :=
          number 32 page cap FlowTableNicCap.nicReceiveMaxSteeringDepth
        flowTableCaps.reformatFlowActionCaps.maxLogNumOfPacketReformat :=
          number 8 page cap FlowTableNicCap.logMaxPacketReformatContext }
  | _, _ => caps

/-- `store_hca_flow_table_nic_receive_caps`. -/
def storeHcaFlowTableNicReceiveCaps : AdapterHcaCapabilities :=
  match capsMap .flowTable, capsMap .general with
  | some page, some general =>
      { caps with
        flowTableCaps.receive :=
          { caps.flowTableCaps.receive with
            isFlowTableSupported := flag page rx FlowTablePropLayout.ftSupport
            isFlowActionTagSupported := flag page rx FlowTablePropLayout.flowTag
            isFlowActionModifySupported := flag page rx FlowTablePropLayout.flowModifyEn
            isFlowActionReformatSupported := flag page rx FlowTablePropLayout.reformat
            isFlowActionReformatAndModifySupported :=
              flag page rx FlowTablePropLayout.reformatAndModifyAction
            isFlowActionReformatAndFwdToFlowTable :=
              flag page rx FlowTablePropLayout.reformatAndFwdToTable
            maxLogSizeFlowTable := number 8 page rx FlowTablePropLayout.logMaxFtSize
            maxFlowTableLevel := number 32 page rx FlowTablePropLayout.maxFtLevel
            isFlowActionReformatFromTypeInsertSupported :=
              flag page rx FlowTablePropLayout.reformatInsert
            maxLogNumOfFlowTable := number 8 page rx FlowTablePropLayout.logMaxFtNum
            maxLogNumOfFlowRule := number 8 page rx FlowTablePropLayout.logMaxFlow
            isFlowActionReparseSupported := flag page rx FlowTablePropLayout.reparse
            ftFieldSupport :=
              { caps.flowTableCaps.receive.ftFieldSupport with
                outerUdpDport := flag page rxFields FlowTableFieldsSupported.outerUdpDport
                progSampleField := flag page rxFields FlowTableFieldsSupported.progSampleField
                metadataRegC0 := flag page rxFields FlowTableFieldsSupported.metadataRegC0
                metadataRegC1 := flag page rxFields FlowTableFieldsSupported.metadataRegC1 }
            modifyFlowActionCaps :=
              { caps.flowTableCaps.receive.modifyFlowActionCaps with
                maxObjLogNum := number 8 page rx FlowTablePropLayout.logMaxModifyHeaderContext
                maxObjInFlowRule := number 32 page rx FlowTablePropLayout.maxModifyHeaderActions
                logMaxNumHeaderModifyArgument :=
                  number 8 general cap CmdHcaCap.logMaxNumHeaderModifyArgument
                logHeaderModifyArgumentGranularity :=
                  number 8 general cap CmdHcaCap.logHeaderModifyArgumentGranularity
                logHeaderModifyArgumentMaxAlloc :=
                  number 8 general cap CmdHcaCap.logHeaderModifyArgumentMaxAlloc
                setFieldsSupport :=
                  { caps.flowTableCaps.receive.modifyFlowActionCaps.setFieldsSupport with
                    outerEthertype := flag page setFields FlowTableFieldsSupported.outerEtherType
                    outerUdpDport := flag page setFields FlowTableFieldsSupported.outerUdpDport
                    metadataRegC0 := flag page setFields FlowTableFieldsSupported.metadataRegC0
                    metadataRegC1 := flag page setFields FlowTableFieldsSupported.metadataRegC1 }
                copyFieldsSupport :=
                  { caps.flowTableCaps.receive.modifyFlowActionCaps.copyFieldsSupport with
                    outerUdpDport := flag page copyFields FlowTableFieldsSupported.outerUdpDport
                    metadataRegC0 := flag page copyFields FlowTableFieldsSupported.metadataRegC0
                    metadataRegC1 :=
                      flag page copyFields FlowTableFieldsSupported.metadataRegC1 } } } }
  | _, _ => caps

/-- `store_hca_crypto_caps`. -/
def storeHcaCryptoCaps : AdapterHcaCapabilities :=
  match capsMap .crypto with
  | none => caps
  | some page =>
      { caps with
        synchronizeDek := flag page cap CryptoCap.synchronizeDek
        logMaxNumDeks := number 8 page cap CryptoCap.logMaxNumDeks }

/-- `store_hca_nvmeotcp_caps`. -/
def storeHcaNvmeotcpCaps : AdapterHcaCapabilities :=
  match capsMap .general, capsMap .nvmeotcp with
  | some general, some page =>
      let enabled := flag general cap CmdHcaCap.nvmeotcp
      { caps with
        nvmeotcpCaps :=
          if enabled then
            { caps.nvmeotcpCaps with
              enabled := enabled
              zerocopy := flag page cap NvmeotcpCap.zerocopy
              crcRx := flag page cap NvmeotcpCap.crcRx
              crcTx := flag page cap NvmeotcpCap.crcTx
              logMaxNvmeotcpTagBufferTable :=
                number 8 page cap NvmeotcpCap.logMaxNvmeotcpTagBufferTable
              logMaxNvmeotcpTagBufferSize :=
                number 8 page cap NvmeotcpCap.logMaxNvmeotcpTagBufferSize }
          else
            { caps.nvmeotcpCaps with
              enabled := enabled
              zerocopy := false
              crcTx := false
              crcRx := false } }
  | _, _ => caps

/-- `caps_callbacks`. -/
def capsCallbacks : List (AdapterHcaCapabilities → CapsMap → AdapterHcaCapabilities) :=
  [storeHcaDeviceFrequencyKhzCaps, storeHcaTlsCaps, storeHcaGeneralObjectTypesEncryptionKeyCaps,
    storeHcaLogMaxDekCaps, storeHcaTls12AesGcmCaps, storeHcaCapCryptoEnable,
    storeHcaSqTsFormatCaps, storeHcaRqTsFormatCaps, storeHcaLroCaps, storeHcaIbqCaps,
    storeHcaParseGraphNodeCaps, storeHca2ReformatCaps, storeHcaFlowTableCaps,
    storeHcaFlowTableNicReceiveCaps, storeHcaCryptoCaps, storeHcaNvmeotcpCaps]

end Caps

namespace Adapter

/-- `adapter::set_external_hca_caps`; the new structure is all zero. -/
def setExternalHcaCaps (capsMap : CapsMap) : AdapterHcaCapabilities :=
  Caps.capsCallbacks.foldl (fun caps callback => callback caps capsMap) default

/-- The capabilities of a new adapter. -/
def externalHcaCaps (execCmd : ExecCmd) : AdapterHcaCapabilities :=
  setExternalHcaCaps (queryHcaCaps execCmd allocCaps)

end Adapter

/-! ### The queries -/

namespace Adapter

/-- The command that asks for a page. -/
def queryCommand (capType : CapType) : Memory :=
  devxSet (devxSet zeros 0 QueryHcaCapIn.opcode mlx5CmdOpQueryHcaCap) 0 QueryHcaCapIn.opMod
    (.ofNat 32 (capType.value <<< 1 ||| hcaCapOpmodGetCur))

/-- A page as the device fills it. -/
def page (execCmd : ExecCmd) (capType : CapType) : Memory :=
  (execCmd (queryCommand capType) zeros).2

/-- Nothing but the fields that are set again is there. -/
def OnlyQuery (m : Memory) : Prop :=
  ∀ i, ¬ QueryHcaCapIn.opcode.Has 0 i → ¬ QueryHcaCapIn.opMod.Has 0 i → bit m i = false

theorem command_of_onlyQuery {m : Memory} (hm : OnlyQuery m) (capType : CapType) :
  devxSet (devxSet m 0 QueryHcaCapIn.opcode mlx5CmdOpQueryHcaCap) 0 QueryHcaCapIn.opMod
      (.ofNat 32 (capType.value <<< 1 ||| hcaCapOpmodGetCur)) = queryCommand capType
  := by
  apply ext_bit
  intro i
  rw [queryCommand]
  by_cases hmod : QueryHcaCapIn.opMod.Has 0 i
  · rw [bit_devxSet_of_has _ _ hmod, bit_devxSet_of_has _ _ hmod]
  · rw [bit_devxSet_of_not_has _ _ hmod, bit_devxSet_of_not_has _ _ hmod]
    by_cases hop : QueryHcaCapIn.opcode.Has 0 i
    · rw [bit_devxSet_of_has _ _ hop, bit_devxSet_of_has _ _ hop]
    · rw [bit_devxSet_of_not_has _ _ hop, bit_devxSet_of_not_has _ _ hop, hm i hop hmod,
        bit_zeros]

theorem onlyQuery_queryCommand (capType : CapType) :
  OnlyQuery (queryCommand capType)
  := by
  intro i hop hmod
  rw [queryCommand, bit_devxSet_of_not_has _ _ hmod, bit_devxSet_of_not_has _ _ hop, bit_zeros]

/-- A query fills the page of its type, with the command for this type. -/
theorem queryCap_eq (execCmd : ExecCmd) {s : Memory × CapsMap} (hs : OnlyQuery s.1)
    (capType : CapType) :
  queryCap execCmd s capType
    = (queryCommand capType, Function.update s.2 capType
        ((s.2 capType).map fun page => (execCmd (queryCommand capType) page).2))
  := by
  rw [queryCap, command_of_onlyQuery hs]

/-- The loop fills the page of each type once. -/
theorem foldl_queryCap (execCmd : ExecCmd) {types : List CapType} (htypes : types.Nodup)
    {s : Memory × CapsMap} (hs : OnlyQuery s.1) (capType : CapType) :
  (types.foldl (queryCap execCmd) s).2 capType
    = if capType ∈ types then
        (s.2 capType).map fun page => (execCmd (queryCommand capType) page).2
      else s.2 capType
  := by
  induction types generalizing s with
  | nil => rfl
  | cons t types ih =>
      obtain ⟨ht, htypes⟩ := List.nodup_cons.mp htypes
      have hstep := queryCap_eq execCmd hs t
      have hquery : OnlyQuery (queryCap execCmd s t).1 := by
        rw [hstep]
        apply onlyQuery_queryCommand
      rw [List.foldl_cons, ih htypes hquery, hstep]
      by_cases heq : capType = t
      · simp only [heq, ht, List.mem_cons_self, if_true, if_false, Function.update_self]
      · simp only [List.mem_cons, heq, false_or]
        rw [Function.update_of_ne heq]

/-- The callbacks see a page of each type, as the device filled it. -/
theorem queryHcaCaps_allocCaps (execCmd : ExecCmd) :
  queryHcaCaps execCmd allocCaps = fun capType => some (page execCmd capType)
  := by
  funext capType
  have hmem : capType ∈ supportedCapTypes := by
    cases capType <;> decide
  have hzeros : OnlyQuery zeros := fun i _ _ => bit_zeros i
  have halloc : allocCaps capType = some zeros := if_pos hmem
  rw [queryHcaCaps, foldl_queryCap execCmd (by decide) hzeros, if_pos hmem]
  simp only [halloc, Option.map_some, page]

end Adapter

/-! ### What the members are to say -/

namespace Caps

/-- A member of the capabilities and the field of the pages that it stands for. -/
structure CapsField where
  member : AdapterHcaCapabilities → Nat
  capType : CapType
  start : Nat
  field : Field

/-- The value of the field. -/
def CapsField.value (e : CapsField) (pages : CapType → Memory) : Nat :=
  (devxGet (pages e.capType) e.start e.field).toNat

/-- The member says what the device says. -/
def CapsField.Told (e : CapsField) (pages : CapType → Memory) (caps : AdapterHcaCapabilities) :
    Prop :=
  e.member caps = e.value pages

/-- The flags that a callback stores. -/
def flagFields : List CapsField :=
  [⟨(·.tlsTx.toNat), .general, cap, CmdHcaCap.tlsTx⟩,
    ⟨(·.tlsRx.toNat), .general, cap, CmdHcaCap.tlsRx⟩,
    ⟨(·.cryptoEnable.toNat), .general, cap, CmdHcaCap.crypto⟩,
    ⟨(·.aesXtsMultiBlockLeTweak.toNat), .general, cap, CmdHcaCap.aesXtsMultiBlockLeTweak⟩,
    ⟨(·.aesXtsTweakIncShift.toNat), .general, cap, CmdHcaCap.aesXtsTweakIncShift⟩,
    ⟨(·.aesXtsSingleBlockLeTweak.toNat), .general, cap, CmdHcaCap.aesXtsSingleBlockLeTweak⟩,
    ⟨(·.aesXtsTweakInc64.toNat), .general, cap, CmdHcaCap.aesXtsTweakInc64⟩,
    ⟨(·.aesXtsMultiBlockBeTweak.toNat), .general, cap, CmdHcaCap.aesXtsMultiBlockBeTweak⟩,
    ⟨(·.ibq.toNat), .general, cap, CmdHcaCap.ibq⟩,
    ⟨(·.isFlowTableCapsSupported.toNat), .general, cap, CmdHcaCap.nicFlowTable⟩,
    ⟨(·.tls12AesGcm128.toNat), .tls, cap, TlsCap.tls12AesGcm128⟩,
    ⟨(·.tls12AesGcm256.toNat), .tls, cap, TlsCap.tls12AesGcm256⟩,
    ⟨(·.lroCap.toNat), .ethernetOffloads, cap, PerProtocolNetworkingOffloadCaps.lroCap⟩,
    ⟨(·.lroPshFlag.toNat), .ethernetOffloads, cap, PerProtocolNetworkingOffloadCaps.lroPshFlag⟩,
    ⟨(·.lroTimeStamp.toNat), .ethernetOffloads, cap,
      PerProtocolNetworkingOffloadCaps.lroTimeStamp⟩,
    ⟨(·.parseGraphFlowMatchSampleIdInOut.toNat), .parseGraphNode, cap,
      ParseGraphNodeCap.parseGraphFlowMatchSampleIdInOut⟩,
    ⟨(·.synchronizeDek.toNat), .crypto, cap, CryptoCap.synchronizeDek⟩,
    ⟨(·.flowTableCaps.receive.isFlowActionNonTunnelReformatAndFwdToFlowTable.toNat), .general2,
      cap, CmdHcaCap2.nonTunnelReformat⟩,
    ⟨(·.flowTableCaps.receive.isFlowTableSupported.toNat), .flowTable, rx,
      FlowTablePropLayout.ftSupport⟩,
    ⟨(·.flowTableCaps.receive.isFlowActionTagSupported.toNat), .flowTable, rx,
      FlowTablePropLayout.flowTag⟩,
    ⟨(·.flowTableCaps.receive.isFlowActionModifySupported.toNat), .flowTable, rx,
      FlowTablePropLayout.flowModifyEn⟩,
    ⟨(·.flowTableCaps.receive.isFlowActionReformatSupported.toNat), .flowTable, rx,
      FlowTablePropLayout.reformat⟩,
    ⟨(·.flowTableCaps.receive.isFlowActionReformatAndModifySupported.toNat), .flowTable, rx,
      FlowTablePropLayout.reformatAndModifyAction⟩,
    ⟨(·.flowTableCaps.receive.isFlowActionReformatAndFwdToFlowTable.toNat), .flowTable, rx,
      FlowTablePropLayout.reformatAndFwdToTable⟩,
    ⟨(·.flowTableCaps.receive.isFlowActionReformatFromTypeInsertSupported.toNat), .flowTable, rx,
      FlowTablePropLayout.reformatInsert⟩,
    ⟨(·.flowTableCaps.receive.isFlowActionReparseSupported.toNat), .flowTable, rx,
      FlowTablePropLayout.reparse⟩,
    ⟨(·.flowTableCaps.receive.ftFieldSupport.outerUdpDport.toNat), .flowTable, rxFields,
      FlowTableFieldsSupported.outerUdpDport⟩,
    ⟨(·.flowTableCaps.receive.ftFieldSupport.progSampleField.toNat), .flowTable, rxFields,
      FlowTableFieldsSupported.progSampleField⟩,
    ⟨(·.flowTableCaps.receive.ftFieldSupport.metadataRegC0.toNat), .flowTable, rxFields,
      FlowTableFieldsSupported.metadataRegC0⟩,
    ⟨(·.flowTableCaps.receive.ftFieldSupport.metadataRegC1.toNat), .flowTable, rxFields,
      FlowTableFieldsSupported.metadataRegC1⟩,
    ⟨(·.flowTableCaps.receive.modifyFlowActionCaps.setFieldsSupport.outerEthertype.toNat),
      .flowTable, setFields, FlowTableFieldsSupported.outerEtherType⟩,
    ⟨(·.flowTableCaps.receive.modifyFlowActionCaps.setFieldsSupport.outerUdpDport.toNat),
      .flowTable, setFields, FlowTableFieldsSupported.outerUdpDport⟩,
    ⟨(·.flowTableCaps.receive.modifyFlowActionCaps.setFieldsSupport.metadataRegC0.toNat),
      .flowTable, setFields, FlowTableFieldsSupported.metadataRegC0⟩,
    ⟨(·.flowTableCaps.receive.modifyFlowActionCaps.setFieldsSupport.metadataRegC1.toNat),
      .flowTable, setFields, FlowTableFieldsSupported.metadataRegC1⟩,
    ⟨(·.flowTableCaps.receive.modifyFlowActionCaps.copyFieldsSupport.outerUdpDport.toNat),
      .flowTable, copyFields, FlowTableFieldsSupported.outerUdpDport⟩,
    ⟨(·.flowTableCaps.receive.modifyFlowActionCaps.copyFieldsSupport.metadataRegC0.toNat),
      .flowTable, copyFields, FlowTableFieldsSupported.metadataRegC0⟩,
    ⟨(·.flowTableCaps.receive.modifyFlowActionCaps.copyFieldsSupport.metadataRegC1.toNat),
      .flowTable, copyFields, FlowTableFieldsSupported.metadataRegC1⟩]

/-- The numbers that a callback stores, with the widths of the members. -/
def numberFields : List (Nat × CapsField) :=
  [(32, ⟨(·.deviceFrequencyKhz.toNat), .general, cap, CmdHcaCap.deviceFrequencyKhz⟩),
    (8, ⟨(·.logMaxDek.toNat), .general, cap, CmdHcaCap.logMaxDek⟩),
    (8, ⟨(·.sqTsFormat.toNat), .general, cap, CmdHcaCap.sqTsFormat⟩),
    (8, ⟨(·.rqTsFormat.toNat), .general, cap, CmdHcaCap.rqTsFormat⟩),
    (8, ⟨(·.lroMaxMsgSzMode.toNat), .ethernetOffloads, cap,
      PerProtocolNetworkingOffloadCaps.lroMaxMsgSzMode⟩),
    (16, ⟨(·.lroMinMssSize.toNat), .ethernetOffloads, cap,
      PerProtocolNetworkingOffloadCaps.lroMinMssSize⟩),
    (16, ⟨(·.ibqMaxScatterOffset.toNat), .dpp, cap, IbqCap.ibqMaxScatterOffset⟩),
    (32, ⟨(·.parseGraphNodeIn.toNat), .parseGraphNode, cap, ParseGraphNodeCap.parseGraphNodeIn⟩),
    (16, ⟨(·.parseGraphHeaderLengthMode.toNat), .parseGraphNode, cap,
      ParseGraphNodeCap.parseGraphHeaderLengthMode⟩),
    (16, ⟨(·.parseGraphFlowMatchSampleOffsetMode.toNat), .parseGraphNode, cap,
      ParseGraphNodeCap.parseGraphFlowMatchSampleOffsetMode⟩),
    (8, ⟨(·.maxNumParseGraphArcIn.toNat), .parseGraphNode, cap,
      ParseGraphNodeCap.maxNumParseGraphArcIn⟩),
    (8, ⟨(·.maxNumParseGraphFlowMatchSample.toNat), .parseGraphNode, cap,
      ParseGraphNodeCap.maxNumParseGraphFlowMatchSample⟩),
    (16, ⟨(·.maxParseGraphHeaderLengthBaseValue.toNat), .parseGraphNode, cap,
      ParseGraphNodeCap.maxParseGraphHeaderLengthBaseValue⟩),
    (8, ⟨(·.maxParseGraphFlowMatchSampleFieldBaseOffsetValue.toNat), .parseGraphNode, cap,
      ParseGraphNodeCap.maxParseGraphFlowMatchSampleFieldBaseOffsetValue⟩),
    (8, ⟨(·.parseGraphHeaderLengthFieldMaskWidth.toNat), .parseGraphNode, cap,
      ParseGraphNodeCap.parseGraphHeaderLengthFieldMaskWidth⟩),
    (8, ⟨(·.logMaxNumDeks.toNat), .crypto, cap, CryptoCap.logMaxNumDeks⟩),
    (8, ⟨(·.flowTableCaps.reformatFlowActionCaps.maxSizeReformatInsertBuff.toNat), .general2, cap,
      CmdHcaCap2.maxReformatInsertSize⟩),
    (8, ⟨(·.flowTableCaps.reformatFlowActionCaps.maxReformatInsertOffset.toNat), .general2, cap,
      CmdHcaCap2.maxReformatInsertOffset⟩),
    (8, ⟨(·.flowTableCaps.reformatFlowActionCaps.maxLogNumOfPacketReformat.toNat), .flowTable,
      cap, FlowTableNicCap.logMaxPacketReformatContext⟩),
    (32, ⟨(·.flowTableCaps.receive.maxSteeringDepth.toNat), .flowTable, cap,
      FlowTableNicCap.nicReceiveMaxSteeringDepth⟩),
    (8, ⟨(·.flowTableCaps.receive.maxLogSizeFlowTable.toNat), .flowTable, rx,
      FlowTablePropLayout.logMaxFtSize⟩),
    (32, ⟨(·.flowTableCaps.receive.maxFlowTableLevel.toNat), .flowTable, rx,
      FlowTablePropLayout.maxFtLevel⟩),
    (8, ⟨(·.flowTableCaps.receive.maxLogNumOfFlowTable.toNat), .flowTable, rx,
      FlowTablePropLayout.logMaxFtNum⟩),
    (8, ⟨(·.flowTableCaps.receive.maxLogNumOfFlowRule.toNat), .flowTable, rx,
      FlowTablePropLayout.logMaxFlow⟩),
    (8, ⟨(·.flowTableCaps.receive.modifyFlowActionCaps.maxObjLogNum.toNat), .flowTable, rx,
      FlowTablePropLayout.logMaxModifyHeaderContext⟩),
    (32, ⟨(·.flowTableCaps.receive.modifyFlowActionCaps.maxObjInFlowRule.toNat), .flowTable, rx,
      FlowTablePropLayout.maxModifyHeaderActions⟩),
    (8, ⟨(·.flowTableCaps.receive.modifyFlowActionCaps.logMaxNumHeaderModifyArgument.toNat),
      .general, cap, CmdHcaCap.logMaxNumHeaderModifyArgument⟩),
    (8, ⟨(·.flowTableCaps.receive.modifyFlowActionCaps.logHeaderModifyArgumentGranularity.toNat),
      .general, cap, CmdHcaCap.logHeaderModifyArgumentGranularity⟩),
    (8, ⟨(·.flowTableCaps.receive.modifyFlowActionCaps.logHeaderModifyArgumentMaxAlloc.toNat),
      .general, cap, CmdHcaCap.logHeaderModifyArgumentMaxAlloc⟩)]

/-- The periods of the LRO timer. -/
def period (i : Fin 4) : CapsField :=
  ⟨fun caps => (caps.lroTimerSupportedPeriods i).toNat, .ethernetOffloads, cap,
    PerProtocolNetworkingOffloadCaps.lroTimerSupportedPeriods i⟩

/-- The flags that no callback stores. -/
def unstoredFields : List CapsField :=
  [⟨(·.flowTableCaps.receive.ftFieldSupport.outerEthertype.toNat), .flowTable, rxFields,
      FlowTableFieldsSupported.outerEtherType⟩,
    ⟨(·.flowTableCaps.receive.modifyFlowActionCaps.setFieldsSupport.progSampleField.toNat),
      .flowTable, setFields, FlowTableFieldsSupported.progSampleField⟩,
    ⟨(·.flowTableCaps.receive.modifyFlowActionCaps.copyFieldsSupport.outerEthertype.toNat),
      .flowTable, copyFields, FlowTableFieldsSupported.outerEtherType⟩,
    ⟨(·.flowTableCaps.receive.modifyFlowActionCaps.copyFieldsSupport.progSampleField.toNat),
      .flowTable, copyFields, FlowTableFieldsSupported.progSampleField⟩]

/-- What there is to say about NVMe/TCP if it is enabled. -/
def nvmeotcpFields : List CapsField :=
  [⟨(·.nvmeotcpCaps.zerocopy.toNat), .nvmeotcp, cap, NvmeotcpCap.zerocopy⟩,
    ⟨(·.nvmeotcpCaps.crcRx.toNat), .nvmeotcp, cap, NvmeotcpCap.crcRx⟩,
    ⟨(·.nvmeotcpCaps.crcTx.toNat), .nvmeotcp, cap, NvmeotcpCap.crcTx⟩,
    ⟨(·.nvmeotcpCaps.logMaxNvmeotcpTagBufferTable.toNat), .nvmeotcp, cap,
      NvmeotcpCap.logMaxNvmeotcpTagBufferTable⟩,
    ⟨(·.nvmeotcpCaps.logMaxNvmeotcpTagBufferSize.toNat), .nvmeotcp, cap,
      NvmeotcpCap.logMaxNvmeotcpTagBufferSize⟩]

/-- The versions of NVMe/TCP. -/
def nvmeotcpVersion : CapsField :=
  ⟨(·.nvmeotcpCaps.version.toNat), .nvmeotcp, cap, NvmeotcpCap.version⟩

/-- Each member says what the device says, those of NVMe/TCP if it is enabled. -/
structure Reports (caps : AdapterHcaCapabilities) (pages : CapType → Memory) : Prop where
  flags : ∀ e ∈ flagFields ++ unstoredFields, e.Told pages caps
  numbers : ∀ e ∈ numberFields, e.2.Told pages caps
  periods : ∀ i, (period i).Told pages caps
  ibqWireProtocol : caps.ibqWireProtocol = devxGet64 (pages .dpp) cap IbqCap.ibqWireProtocol
  encryptionKey : caps.generalObjectTypesEncryptionKey
    = (devxGet64 (pages .general) cap CmdHcaCap.generalObjTypes).getLsbD
      mlx5GeneralObjectTypesEncryptionKey
  parseGraphNode : caps.generalObjectTypesParseGraphNode
    = (devxGet64 (pages .general) cap CmdHcaCap.generalObjTypes).getLsbD
      mlx5GeneralObjectTypesParseGraphNode
  enabled : caps.nvmeotcpCaps.enabled = flag (pages .general) cap CmdHcaCap.nvmeotcp
  nvmeotcp : caps.nvmeotcpCaps.enabled = true →
    ∀ e ∈ nvmeotcpVersion :: nvmeotcpFields, e.Told pages caps

/-! ### What they say -/

theorem toNat_flag (page : Memory) (p : Nat) {f : Field} (hsize : f.size = 1) :
  (flag page p f).toNat = (devxGet page p f).toNat
  := by
  have hlt := devxGet_lt page p f
  rw [hsize] at hlt
  have hone : (devxGet page p f).toNat = 0 ∨ (devxGet page p f).toNat = 1 := by omega
  rw [flag]
  rcases hone with h | h
  · have hzero : devxGet page p f = 0 := BitVec.eq_of_toNat_eq h
    rw [hzero]
    rfl
  · have hone : devxGet page p f = 1 := BitVec.eq_of_toNat_eq h
    rw [hone]
    rfl

/-- A number is stored up to the width of the member. -/
theorem toNat_number_eq_iff (w : Nat) (page : Memory) (p : Nat) (f : Field) :
  (number w page p f).toNat = (devxGet page p f).toNat ↔ (devxGet page p f).toNat < 2 ^ w
  := by
  rw [number, BitVec.toNat_setWidth, Nat.mod_eq_iff_lt (Nat.two_pow_pos w).ne']

theorem generalObjType_eq (page : Memory) (type : Nat) :
  generalObjType page type = (devxGet64 page cap CmdHcaCap.generalObjTypes).getLsbD type
  := by
  have hpow : (1 <<< type : BitVec 64) = BitVec.twoPow 64 type := rfl
  rw [generalObjType, hpow, BitVec.and_twoPow]
  cases hbit : (devxGet64 page cap CmdHcaCap.generalObjTypes).getLsbD type with
  | false => rfl
  | true =>
      have htype : type < 64 := BitVec.lt_of_getLsbD hbit
      rw [if_pos rfl, bne_iff_ne]
      intro hzero
      have hbit := congrArg (BitVec.getLsbD · type) hzero
      simp [htype] at hbit

section Stored

variable (pages : CapType → Memory)

/-- The flags that are stored. -/
theorem flags_stored :
  ∀ e ∈ flagFields,
    e.member (Adapter.setExternalHcaCaps fun t => some (pages t))
      = (flag (pages e.capType) e.start e.field).toNat
  := by
  simp only [flagFields, List.forall_mem_cons]
  repeat' apply And.intro
  all_goals first | rfl | apply List.forall_mem_nil

/-- The numbers that are stored. -/
theorem numbers_stored :
  ∀ e ∈ numberFields,
    e.2.member (Adapter.setExternalHcaCaps fun t => some (pages t))
      = (number e.1 (pages e.2.capType) e.2.start e.2.field).toNat
  := by
  simp only [numberFields, List.forall_mem_cons]
  repeat' apply And.intro
  all_goals first | rfl | apply List.forall_mem_nil

/-- The flags that are not stored are off. -/
theorem unstored_eq_zero :
  ∀ e ∈ unstoredFields, e.member (Adapter.setExternalHcaCaps fun t => some (pages t)) = 0
  := by
  simp only [unstoredFields, List.forall_mem_cons]
  repeat' apply And.intro
  all_goals first | rfl | apply List.forall_mem_nil

/-- The flags have one bit. -/
theorem size_of_mem_flagFields :
  ∀ e ∈ flagFields, e.field.size = 1
  := by
  decide

/-- The members are as wide as the fields. -/
theorem size_le_of_mem_numberFields :
  ∀ e ∈ numberFields, e.2.field.size ≤ e.1
  := by
  decide

theorem encryptionKey_stored :
  (Adapter.setExternalHcaCaps fun t => some (pages t)).generalObjectTypesEncryptionKey
    = generalObjType (pages .general) mlx5GeneralObjectTypesEncryptionKey
  := by
  have hstored :
      (Adapter.setExternalHcaCaps fun t => some (pages t)).generalObjectTypesEncryptionKey
      = if generalObjType (pages .general) mlx5GeneralObjectTypesEncryptionKey then true
        else false := rfl
  rw [hstored, Bool.if_false_right, Bool.and_true, Bool.decide_eq_true]

theorem parseGraphNode_stored :
  (Adapter.setExternalHcaCaps fun t => some (pages t)).generalObjectTypesParseGraphNode
    = generalObjType (pages .general) mlx5GeneralObjectTypesParseGraphNode
  := by
  have hstored :
      (Adapter.setExternalHcaCaps fun t => some (pages t)).generalObjectTypesParseGraphNode
      = if generalObjType (pages .general) mlx5GeneralObjectTypesParseGraphNode then true
        else false := rfl
  rw [hstored, Bool.if_false_right, Bool.and_true, Bool.decide_eq_true]

/-- What is stored of NVMe/TCP. -/
theorem nvmeotcp_stored :
  (Adapter.setExternalHcaCaps fun t => some (pages t)).nvmeotcpCaps
    = if flag (pages .general) cap CmdHcaCap.nvmeotcp then
        { enabled := flag (pages .general) cap CmdHcaCap.nvmeotcp
          zerocopy := flag (pages .nvmeotcp) cap NvmeotcpCap.zerocopy
          crcRx := flag (pages .nvmeotcp) cap NvmeotcpCap.crcRx
          crcTx := flag (pages .nvmeotcp) cap NvmeotcpCap.crcTx
          version := 0
          logMaxNvmeotcpTagBufferTable :=
            number 8 (pages .nvmeotcp) cap NvmeotcpCap.logMaxNvmeotcpTagBufferTable
          logMaxNvmeotcpTagBufferSize :=
            number 8 (pages .nvmeotcp) cap NvmeotcpCap.logMaxNvmeotcpTagBufferSize }
      else
        { enabled := flag (pages .general) cap CmdHcaCap.nvmeotcp
          zerocopy := false, crcRx := false, crcTx := false, version := 0
          logMaxNvmeotcpTagBufferTable := 0, logMaxNvmeotcpTagBufferSize := 0 }
  := rfl

theorem enabled_stored :
  (Adapter.setExternalHcaCaps fun t => some (pages t)).nvmeotcpCaps.enabled
    = flag (pages .general) cap CmdHcaCap.nvmeotcp
  := by
  rw [nvmeotcp_stored]
  split <;> rfl

theorem toNat_number_of_size {w : Nat} (page : Memory) (p : Nat) {f : Field} (hsize : f.size ≤ w) :
  (number w page p f).toNat = (devxGet page p f).toNat
  := by
  apply (toNat_number_eq_iff w page p f).mpr
  apply Nat.lt_of_lt_of_le (devxGet_lt page p f)
  apply Nat.pow_le_pow_right (by decide) hsize

/-- If NVMe/TCP is enabled, all is told but the versions. -/
theorem nvmeotcp_told (henabled : flag (pages .general) cap CmdHcaCap.nvmeotcp = true) :
  ∀ e ∈ nvmeotcpFields, e.Told pages (Adapter.setExternalHcaCaps fun t => some (pages t))
  := by
  simp only [nvmeotcpFields, List.forall_mem_cons, CapsField.Told, CapsField.value,
    nvmeotcp_stored, if_pos henabled]
  refine ⟨toNat_flag _ _ rfl, toNat_flag _ _ rfl, toNat_flag _ _ rfl,
    toNat_number_of_size _ _ (by decide), toNat_number_of_size _ _ (by decide),
    List.forall_mem_nil _⟩

theorem nvmeotcpVersion_member :
  nvmeotcpVersion.member (Adapter.setExternalHcaCaps fun t => some (pages t)) = 0
  := by
  rw [nvmeotcpVersion]
  simp only [nvmeotcp_stored]
  split <;> rfl

/-- The capabilities are told exactly when each period of the LRO timer is less than 256, the
device has none of the features that are not stored, and no version of NVMe/TCP if it is
enabled. -/
theorem reports_iff :
  Reports (Adapter.setExternalHcaCaps fun t => some (pages t)) pages
    ↔ (∀ i, (period i).value pages < 256)
      ∧ (∀ e ∈ unstoredFields, e.value pages = 0)
      ∧ (flag (pages .general) cap CmdHcaCap.nvmeotcp = true →
        nvmeotcpVersion.value pages = 0)
  := by
  have hperiod (i : Fin 4) :
      (period i).Told pages (Adapter.setExternalHcaCaps fun t => some (pages t))
        ↔ (period i).value pages < 256 := toNat_number_eq_iff 8 _ _ _
  have hunstored (e : CapsField) (he : e ∈ unstoredFields) :
      e.Told pages (Adapter.setExternalHcaCaps fun t => some (pages t)) ↔ e.value pages = 0 := by
    rw [CapsField.Told, unstored_eq_zero pages e he, eq_comm]
  have hversion : nvmeotcpVersion.Told pages (Adapter.setExternalHcaCaps fun t => some (pages t))
      ↔ nvmeotcpVersion.value pages = 0 := by
    rw [CapsField.Told, nvmeotcpVersion_member, eq_comm]
  constructor
  · intro h
    refine ⟨fun i => (hperiod i).mp (h.periods i), ?_, ?_⟩
    · intro e he
      apply (hunstored e he).mp
      apply h.flags e (List.mem_append_right _ he)
    · intro henabled
      apply hversion.mp
      apply h.nvmeotcp ((enabled_stored pages).trans henabled) _ List.mem_cons_self
  · rintro ⟨hperiods, hzero, hversions⟩
    constructor
    case flags =>
      rw [List.forall_mem_append]
      constructor
      · intro e he
        rw [CapsField.Told, flags_stored pages e he]
        apply toNat_flag _ _ (size_of_mem_flagFields e he)
      · intro e he
        apply (hunstored e he).mpr (hzero e he)
    case numbers =>
      intro e he
      rw [CapsField.Told, numbers_stored pages e he]
      apply toNat_number_of_size _ _ (size_le_of_mem_numberFields e he)
    case periods =>
      intro i
      apply (hperiod i).mpr (hperiods i)
    case ibqWireProtocol => rfl
    case encryptionKey => rw [encryptionKey_stored, generalObjType_eq]
    case parseGraphNode => rw [parseGraphNode_stored, generalObjType_eq]
    case enabled => apply enabled_stored
    case nvmeotcp =>
      intro henabled
      rw [enabled_stored] at henabled
      rw [List.forall_mem_cons]
      exact ⟨hversion.mpr (hversions henabled), nvmeotcp_told pages henabled⟩

end Stored

end Caps

open Caps in
/-- Whatever the device answers, the capabilities of a new adapter say what the pages say, those of
NVMe/TCP if it is enabled, exactly when each period of the LRO timer is less than 256, the device
has none of the features whose members are never stored, and no version of NVMe/TCP if it is
enabled. -/
theorem capabilities_report_iff (execCmd : ExecCmd) :
  let pages := Adapter.page execCmd
  Reports (Adapter.externalHcaCaps execCmd) pages
    ↔ (∀ i, (period i).value pages < 256)
      ∧ (∀ e ∈ unstoredFields, e.value pages = 0)
      ∧ (flag (pages .general) cap CmdHcaCap.nvmeotcp = true → nvmeotcpVersion.value pages = 0)
  := by
  rw [Adapter.externalHcaCaps, Adapter.queryHcaCaps_allocCaps]
  apply reports_iff

/-! ### The tables of an adapter -/

namespace Caps

/-- The device can have the table. -/
structure HasTable (pages : CapType → Memory) (attr : FlowTableAttr) : Prop where
  type : attr.type = ftRx
  level : attr.level ≠ 0
  support : devxGet (pages .flowTable) rx FlowTablePropLayout.ftSupport = 1
  logSize_le :
    attr.logSize.toNat ≤ (devxGet (pages .flowTable) rx FlowTablePropLayout.logMaxFtSize).toNat
  level_le :
    attr.level.toNat ≤ (devxGet (pages .flowTable) rx FlowTablePropLayout.maxFtLevel).toNat

end Caps

/-- The calls on the tables are made with the capabilities of the adapter. -/
def TableCall.With (caps : FlowTableTypeCapabilities) : TableCall → Prop
  | createFlowTable _ c _ _ _ _ => c = caps
  | _ => True

namespace Adapter

/-- What `create_flow_table` looks at. -/
def receiveCaps (execCmd : ExecCmd) : FlowTableTypeCapabilities :=
  (externalHcaCaps execCmd).flowTableCaps.receive.toFlowTableTypeCapabilities

end Adapter

namespace TableSpace

open Caps Machine Keyed

/-- The attributes with which `create_flow_table` makes a table. -/
def Accepts (caps : FlowTableTypeCapabilities) (attr : FlowTableAttr) : Prop :=
  attr.level ≠ 0 ∧ attr.type = ftRx ∧ verifyFlowTableReceiveAttr caps attr = .ok

/-- What `create_flow_table` accepts is what the device can have. -/
theorem accepts_iff (execCmd : ExecCmd) (attr : FlowTableAttr) :
  Accepts (Adapter.receiveCaps execCmd) attr ↔ HasTable (Adapter.page execCmd) attr
  := by
  let m := Adapter.page execCmd .flowTable
  have hcaps : Adapter.receiveCaps execCmd
      = { isFlowTableSupported := flag m rx FlowTablePropLayout.ftSupport
          maxLogSizeFlowTable := number 8 m rx FlowTablePropLayout.logMaxFtSize
          maxFlowTableLevel := number 32 m rx FlowTablePropLayout.maxFtLevel } := by
    rw [Adapter.receiveCaps, Adapter.externalHcaCaps, Adapter.queryHcaCaps_allocCaps]
    rfl
  have hsupport : flag m rx FlowTablePropLayout.ftSupport = true
      ↔ devxGet m rx FlowTablePropLayout.ftSupport = 1 := by
    rw [← Bool.toNat_eq_one, toNat_flag _ _ rfl, ← BitVec.toNat_inj]
    rfl
  have hverify : verifyFlowTableReceiveAttr (Adapter.receiveCaps execCmd) attr = .ok
      ↔ flag m rx FlowTablePropLayout.ftSupport = true
        ∧ ¬ number 8 m rx FlowTablePropLayout.logMaxFtSize < attr.logSize
        ∧ ¬ number 32 m rx FlowTablePropLayout.maxFtLevel
          < attr.level.setWidth 32 := by
    rw [hcaps, verifyFlowTableReceiveAttr]
    split_ifs <;> simp_all
  have hlevel : (attr.level.setWidth 32).toNat = attr.level.toNat :=
    BitVec.toNat_setWidth_of_le (by decide)
  rw [Accepts, hverify, hsupport, BitVec.lt_def, BitVec.lt_def, hlevel,
    toNat_number_of_size _ _ (by decide), toNat_number_of_size _ _ (by decide), Nat.not_lt,
    Nat.not_lt]
  constructor
  · rintro ⟨hzero, htype, hsupport, hsize, hlevel⟩
    exact ⟨htype, hzero, hsupport, hsize, hlevel⟩
  · rintro ⟨htype, hzero, hsupport, hsize, hlevel⟩
    exact ⟨hzero, htype, hsupport, hsize, hlevel⟩

theorem createFlowTable_of_accepts {caps : FlowTableTypeCapabilities} {attr : FlowTableAttr}
    (h : Accepts caps attr) (s : TableSpace) (ctx : Bool) (tableMiss table : Option Nat)
    (alloc : Bool) :
  let s' := if alloc then s.add (.prm (.new ctx attr)) tableMiss else s
  s.createFlowTable ctx caps attr tableMiss table alloc
    = (if alloc then .ok else .errNoMemory, table.elim s' s'.release)
  := by
  obtain ⟨hlevel, htype, hverify⟩ := h
  simp only [createFlowTable, if_neg hlevel, if_pos htype, hverify, ne_eq, not_true_eq_false,
    if_false]

theorem createFlowTable_of_not_accepts {caps : FlowTableTypeCapabilities} {attr : FlowTableAttr}
    (h : ¬ Accepts caps attr) (s : TableSpace) (ctx : Bool) (tableMiss table : Option Nat)
    (alloc : Bool) :
  ∃ ret, ret ≠ .ok ∧ s.createFlowTable ctx caps attr tableMiss table alloc = (ret, s)
  := by
  rw [createFlowTable]
  split
  · exact ⟨.errInvalidParam, by decide, rfl⟩
  · rename_i hlevel
    by_cases htype : attr.type = ftRx
    · have hverify : verifyFlowTableReceiveAttr caps attr ≠ .ok := by
        intro hverify
        apply h ⟨hlevel, htype, hverify⟩
      refine ⟨_, hverify, ?_⟩
      simp only [if_pos htype, if_pos hverify]
    · refine ⟨.errNoSupport, by decide, ?_⟩
      simp [if_neg htype]

/-- Each PRM table is one that the device can have. -/
def Hosted (pages : CapType → Memory) (s : TableSpace) : Prop :=
  ∀ t ∈ s.tables, ∀ obj, t.obj.toPrm = some obj → HasTable pages obj.mAttr

namespace Hosted

variable {pages : CapType → Memory} {s : TableSpace} (hs : s.Hosted pages)

include hs

theorem add {obj : FlowTableObj} (hobj : ∀ p, obj.toPrm = some p → HasTable pages p.mAttr)
    (tableMiss : Option Nat) :
  (s.add obj tableMiss).Hosted pages
  := by
  intro t ht p hp
  rcases List.mem_cons.mp ht with rfl | ht
  · apply hobj p hp
  · apply hs t ht p hp

theorem update {k : Nat} {f : HeldTable → HeldTable}
    (hf : ∀ t ∈ s.tables, t.num = k → ∀ p, (f t).obj.toPrm = some p → HasTable pages p.mAttr) :
  Hosted pages { s with tables := Keyed.update HeldTable.num k f s.tables }
  := by
  intro t ht p hp
  obtain ⟨u, hu, rfl⟩ := mem_update.mp ht
  split at hp
  · rename_i hnum
    apply hf u hu hnum p hp
  · apply hs u hu p hp

theorem release (k : Nat) :
  (s.release k).Hosted pages
  := by
  intro t ht p hp
  obtain ⟨u, hu, -, hobj, -⟩ := mem_release ht
  apply hs u hu p
  rw [hobj, hp]

theorem create (k : Nat) (device : Device) :
  (s.create k device).2.Hosted pages
  := by
  rw [TableSpace.create]
  split
  · apply hs
  · rename_i t ht
    split
    · apply hs
    · rename_i obj hobj
      apply hs.update
      rintro u - - p hp
      obtain ⟨hattr, -⟩ := obj.create_spec (s.missTable t) device
      cases hp
      rw [hattr]
      apply hs t (lookup_eq_some ht).1 obj
      rw [hobj]
      rfl

/-- A call with the capabilities of the adapter keeps to what the device can have. -/
theorem step {caps : FlowTableTypeCapabilities}
    (hcaps : ∀ attr, Accepts caps attr → HasTable pages attr) {c : TableCall} (hc : c.With caps) :
  (s.step c).Hosted pages
  := by
  rw [TableSpace.step, call]
  split
  · cases c with
    | createFlowTable ctx caps' attr tableMiss table alloc =>
        obtain rfl : caps' = caps := hc
        simp only [exec]
        by_cases haccepts : Accepts caps' attr
        · rw [createFlowTable_of_accepts haccepts]
          have hadd : (if alloc then s.add (.prm (.new ctx attr)) tableMiss else s).Hosted
              pages := by
            split
            · apply hs.add
              rintro p ⟨⟩
              apply hcaps attr haccepts
            · apply hs
          cases table with
          | none => apply hadd
          | some k => apply hadd.release
        · obtain ⟨ret, -, heq⟩ := createFlowTable_of_not_accepts haccepts s ctx tableMiss table
            alloc
          rw [heq]
          apply hs
    | newRootTable type =>
        apply hs.add
        rintro p ⟨⟩
    | create k device => apply hs.create
    | copy k =>
        apply hs.update
        intro t ht _ p hp
        apply hs t ht p hp
    | release k => apply hs.release
  · apply hs

end Hosted

/-- The fields of the command that creates a table. -/
theorem fields_of_command {t : DevxTable} {tableMiss : Option DevxTable} {c : Obj.Command}
    (h : t.command tableMiss = .ok c) :
  let p := CreateFlowTableIn.flowTableContext
  (devxGet c.mailbox 0 CreateFlowTableIn.tableType).toNat = t.mAttr.type.toNat % 2 ^ 8
    ∧ (devxGet c.mailbox p FlowTableContext.level).toNat = t.mAttr.level.toNat
    ∧ (devxGet c.mailbox p FlowTableContext.logSize).toNat = t.mAttr.logSize.toNat
  := by
  intro p
  obtain ⟨m, -, hmailbox⟩ := DevxTable.mailbox_of_command h
  have hbyte (x : BitVec 8) : (x.setWidth 32).toNat % 2 ^ 8 = x.toNat := by
    rw [Nat.mod_eq_of_lt (toNat_setWidth_lt x), BitVec.toNat_setWidth_of_le (by decide)]
  rw [hmailbox]
  refine ⟨?_, ?_, ?_⟩
  · rw [devxGet_devxSet_of_apart _ _ (by decide), devxGet_devxSet_of_apart _ _ (by decide),
      devxGet_devxSet_of_apart _ _ (by decide), devxGet_devxSet_of_apart _ _ (by decide),
      toNat_devxGet_devxSet]
    rfl
  · rw [devxGet_devxSet_of_apart _ _ (by decide), devxGet_devxSet_of_apart _ _ (by decide),
      devxGet_devxSet_of_apart _ _ (by decide), toNat_devxGet_devxSet]
    apply hbyte
  · rw [devxGet_devxSet_of_apart _ _ (by decide), devxGet_devxSet_of_apart _ _ (by decide),
      toNat_devxGet_devxSet]
    apply hbyte

/-- Over any calls with the capabilities of the adapter, `create_flow_table` accepts just the
tables that the device can have, as long as there is memory, and no command asks the device for
another one. -/
theorem table_commands_hosted {execCmd : ExecCmd} {calls : List TableCall}
    (hcalls : ∀ c ∈ calls, c.With (Adapter.receiveCaps execCmd)) :
  let pages := Adapter.page execCmd
  let s := run step empty calls
  (∀ ctx attr tableMiss table alloc,
    (s.createFlowTable ctx (Adapter.receiveCaps execCmd) attr tableMiss table alloc).1 = .ok
      ↔ HasTable pages attr ∧ alloc = true)
  ∧ ∀ t ∈ s.tables, ∀ obj, t.obj.toPrm = some obj → ∀ c, obj.command (s.missTable t) = .ok c →
    let p := CreateFlowTableIn.flowTableContext
    devxGet c.mailbox 0 CreateFlowTableIn.tableType = ftRx
      ∧ devxGet (pages .flowTable) rx FlowTablePropLayout.ftSupport = 1
      ∧ devxGet c.mailbox p FlowTableContext.logSize
        ≤ devxGet (pages .flowTable) rx FlowTablePropLayout.logMaxFtSize
      ∧ 0 < devxGet c.mailbox p FlowTableContext.level
      ∧ devxGet c.mailbox p FlowTableContext.level
        ≤ devxGet (pages .flowTable) rx FlowTablePropLayout.maxFtLevel
  := by
  intro pages s
  have hcaps (attr : FlowTableAttr) :
      Accepts (Adapter.receiveCaps execCmd) attr → HasTable pages attr := (accepts_iff _ _).mp
  have hs : s.Hosted pages := by
    apply inv_run_of_along _ (along_of_forall hcalls empty)
    · intro t ht
      cases ht
    · intro s c hc hs
      apply hs.step hcaps hc
  constructor
  · intro ctx attr tableMiss table alloc
    rw [← accepts_iff]
    by_cases haccepts : Accepts (Adapter.receiveCaps execCmd) attr
    · rw [createFlowTable_of_accepts haccepts, and_iff_right haccepts]
      cases alloc with
      | false => simp
      | true => simp
    · obtain ⟨ret, hret, heq⟩ := createFlowTable_of_not_accepts haccepts s ctx tableMiss table alloc
      rw [heq, iff_false_intro haccepts, false_and]
      apply iff_false_intro hret
  · intro t ht obj hobj c hcommand p
    obtain ⟨htype, hlevel, hlogSize⟩ := fields_of_command hcommand
    have hhas := hs t ht obj hobj
    have hpos : 0 < obj.mAttr.level.toNat := by
      apply Nat.pos_of_ne_zero
      intro hzero
      apply hhas.level (BitVec.eq_of_toNat_eq hzero)
    rw [hhas.type] at htype
    refine ⟨BitVec.eq_of_toNat_eq htype, hhas.support, ?_, ?_, ?_⟩
    · rw [BitVec.le_def, hlogSize]
      apply hhas.logSize_le
    · rw [BitVec.lt_def, hlevel]
      apply hpos
    · rw [BitVec.le_def, hlevel]
      apply hhas.level_le

/-- A device with receive tables of up to 2^8 entries, on 64 levels. -/
def tableDevice : ExecCmd :=
  fun _ page =>
    let page := devxSet page rx FlowTablePropLayout.ftSupport 1
    let page := devxSet page rx FlowTablePropLayout.logMaxFtSize 8
    (0, devxSet page rx FlowTablePropLayout.maxFtLevel 64)

/-- A table of 16 entries on the level 1. -/
def smallAttr : FlowTableAttr :=
  ⟨0, 4, 1, ftRx, .normal, .dflt⟩

theorem hasTable_small :
  HasTable (Adapter.page tableDevice) smallAttr
  := ⟨rfl, by decide, by decide, by decide, by decide⟩

/-- The call that makes the small table. -/
def smallCalls : List TableCall :=
  [.createFlowTable true (Adapter.receiveCaps tableDevice) smallAttr none none true]

theorem run_smallCalls :
  run step empty smallCalls = empty.add (.prm (.new true smallAttr)) none
  := by
  have haccepts := (accepts_iff tableDevice smallAttr).mpr hasTable_small
  have hpointers : ∀ k ∈ TableCall.pointers
      (.createFlowTable true (Adapter.receiveCaps tableDevice) smallAttr none none true),
      (empty.table k).isSome := nofun
  rw [smallCalls, run_cons, TableSpace.step, call, if_pos hpointers, exec,
    createFlowTable_of_accepts haccepts]
  rfl

/-- The small table is made, and its command asks for what the device can have; a table of 2^9
entries is refused. -/
theorem table_commands_small :
  (∀ c ∈ smallCalls, c.With (Adapter.receiveCaps tableDevice))
    ∧ (∃ c, (DevxTable.new true smallAttr).command none = .ok c
      ∧ devxGet c.mailbox CreateFlowTableIn.flowTableContext FlowTableContext.logSize
        ≤ devxGet (Adapter.page tableDevice .flowTable) rx FlowTablePropLayout.logMaxFtSize)
    ∧ ((run step empty smallCalls).createFlowTable true (Adapter.receiveCaps tableDevice)
      { smallAttr with logSize := 9 } none none true).1 ≠ .ok
  := by
  have hcalls : ∀ c ∈ smallCalls, c.With (Adapter.receiveCaps tableDevice) :=
    List.forall_mem_singleton.mpr rfl
  obtain ⟨haccepted, hcommands⟩ := table_commands_hosted hcalls
  refine ⟨hcalls, ⟨_, rfl, ?_⟩, ?_⟩
  · rw [run_smallCalls] at hcommands
    obtain ⟨-, -, hlogSize, -⟩ := hcommands _ List.mem_cons_self _ rfl _ rfl
    apply hlogSize
  · rw [ne_eq, haccepted]
    rintro ⟨hhas, -⟩
    have hlogSize := hhas.logSize_le
    revert hlogSize
    decide

end TableSpace

end Dpcp
