import Dpcp.Dcmd.Devx

/-!
# Layouts of the PRM structures

The fields of the structures of `dcmd/prm.h` that the modelled functions access, one
namespace for a structure `mlx5_ifc_..._bits`, with the bit offset and the width `prm.h`
gives them.  `bytes` is the size of a structure in bytes, `DEVX_ST_SZ_BYTES`; a structure
inside another is given by the byte it starts at, as `DEVX_ADDR_OF` gives it.
-/

namespace Prm

open Dcmd

/-! ### Command mailboxes -/

namespace StatusOut

def status : Field := ⟨0x0, 0x8, by decide⟩
def syndrome : Field := ⟨0x20, 0x20, by decide⟩
def id : Field := ⟨0x48, 0x18, by decide⟩

end StatusOut

/-! ### Flow table entries -/

namespace SetFteIn

def bytes : Nat := 832
def opcode : Field := ⟨0x0, 0x10, by decide⟩
def tableType : Field := ⟨0x80, 0x8, by decide⟩
def tableId : Field := ⟨0xa8, 0x18, by decide⟩
def flowIndex : Field := ⟨0x100, 0x20, by decide⟩
def flowContext : Nat := 0x200 / 8

end SetFteIn

/-- `DEVX_ST_SZ_BYTES(set_fte_out)`. -/
def SetFteOut.bytes : Nat := 16

namespace FlowContext

def groupId : Field := ⟨0x20, 0x20, by decide⟩
def flowTag : Field := ⟨0x48, 0x18, by decide⟩
def action : Field := ⟨0x70, 0x10, by decide⟩
def destinationListSize : Field := ⟨0x88, 0x18, by decide⟩
def packetReformatId : Field := ⟨0xc0, 0x20, by decide⟩
def modifyHeaderId : Field := ⟨0xe0, 0x20, by decide⟩
def matchValue : Nat := 0x200 / 8
def destination : Nat := 0x1800 / 8

end FlowContext

namespace DestFormatStruct

def bytes : Nat := 8
def destinationType : Field := ⟨0x0, 0x8, by decide⟩
def destinationId : Field := ⟨0x8, 0x18, by decide⟩

end DestFormatStruct

namespace CreateFlowTableIn

def bytes : Nat := 64
def opcode : Field := ⟨0x0, 0x10, by decide⟩
def opMod : Field := ⟨0x30, 0x10, by decide⟩
def tableType : Field := ⟨0x80, 0x8, by decide⟩
def flowTableContext : Nat := 0xc0 / 8

end CreateFlowTableIn

namespace CreateFlowTableOut

def bytes : Nat := 16
def tableId : Field := ⟨0x48, 0x18, by decide⟩

end CreateFlowTableOut

namespace QueryFlowTableIn

def bytes : Nat := 64
def opcode : Field := ⟨0x0, 0x10, by decide⟩
def tableType : Field := ⟨0x80, 0x8, by decide⟩
def tableId : Field := ⟨0xa8, 0x18, by decide⟩

end QueryFlowTableIn

namespace QueryFlowTableOut

def bytes : Nat := 64
def flowTableContext : Nat := 0xc0 / 8

end QueryFlowTableOut

namespace FlowTableContext

def bytes : Nat := 40
def reformatEn : Field := ⟨0x0, 0x1, by decide⟩
def decapEn : Field := ⟨0x1, 0x1, by decide⟩
def tableMissAction : Field := ⟨0x4, 0x4, by decide⟩
def level : Field := ⟨0x8, 0x8, by decide⟩
def logSize : Field := ⟨0x18, 0x8, by decide⟩
def tableMissId : Field := ⟨0x28, 0x18, by decide⟩

end FlowTableContext

namespace CreateFlowGroupIn

def bytes : Nat := 1024
def opcode : Field := ⟨0x0, 0x10, by decide⟩
def tableId : Field := ⟨0xa8, 0x18, by decide⟩
def startFlowIndex : Field := ⟨0xe0, 0x20, by decide⟩
def endFlowIndex : Field := ⟨0x120, 0x20, by decide⟩
def matchCriteriaEnable : Field := ⟨0x1f8, 0x8, by decide⟩
def matchCriteria : Nat := 0x200 / 8

end CreateFlowGroupIn

namespace CreateFlowGroupOut

def bytes : Nat := 16
def groupId : Field := ⟨0x48, 0x18, by decide⟩

end CreateFlowGroupOut

/-! ### Modify-header actions -/

namespace AllocModifyHeaderContextIn

def bytes : Nat := 16
def opcode : Field := ⟨0x0, 0x10, by decide⟩
def tableType : Field := ⟨0x60, 0x8, by decide⟩
def numOfActions : Field := ⟨0x78, 0x8, by decide⟩
def actions : Nat := 0x80 / 8

end AllocModifyHeaderContextIn

namespace AllocModifyHeaderContextOut

def bytes : Nat := 16
def modifyHeaderId : Field := ⟨0x40, 0x20, by decide⟩

end AllocModifyHeaderContextOut

/-- The size of the union of the modify-header actions, `DEVX_UN_SZ_BYTES`. -/
def SetAddCopyActionInAuto.bytes : Nat := 8

namespace SetActionIn

def actionType : Field := ⟨0x0, 0x4, by decide⟩
def field : Field := ⟨0x4, 0xc, by decide⟩
def offset : Field := ⟨0x13, 0x5, by decide⟩
def length : Field := ⟨0x1b, 0x5, by decide⟩
def data : Field := ⟨0x20, 0x20, by decide⟩

end SetActionIn

namespace CopyActionIn

def actionType : Field := ⟨0x0, 0x4, by decide⟩
def srcField : Field := ⟨0x4, 0xc, by decide⟩
def srcOffset : Field := ⟨0x13, 0x5, by decide⟩
def length : Field := ⟨0x1b, 0x5, by decide⟩
def dstField : Field := ⟨0x24, 0xc, by decide⟩
def dstOffset : Field := ⟨0x33, 0x5, by decide⟩

end CopyActionIn

namespace AllocPacketReformatContextIn

def bytes : Nat := 36
def opcode : Field := ⟨0x0, 0x10, by decide⟩
def packetReformatContext : Nat := 0xe0 / 8

end AllocPacketReformatContextIn

namespace PacketReformatContextIn

def reformatType : Field := ⟨0x0, 0x8, by decide⟩
def reformatParam0 : Field := ⟨0xc, 0x4, by decide⟩
def reformatDataSize : Field := ⟨0x16, 0xa, by decide⟩
def reformatParam1 : Field := ⟨0x20, 0x8, by decide⟩
def reformatData : Nat := 0x30 / 8

end PacketReformatContextIn

namespace AllocPacketReformatContextOut

def bytes : Nat := 16
def packetReformatId : Field := ⟨0x40, 0x20, by decide⟩

end AllocPacketReformatContextOut

/-! ### Match parameters -/

namespace FteMatchSetLyr24

def smac4716 : Nat := 0x0 / 8
def ethertype : Field := ⟨0x30, 0x10, by decide⟩
def dmac4716 : Nat := 0x40 / 8
def firstVid : Field := ⟨0x74, 0xc, by decide⟩
def ipProtocol : Field := ⟨0x80, 0x8, by decide⟩
def cvlanTag : Field := ⟨0x90, 0x1, by decide⟩
def ipVersion : Field := ⟨0x93, 0x4, by decide⟩
def tcpSport : Field := ⟨0xa0, 0x10, by decide⟩
def tcpDport : Field := ⟨0xb0, 0x10, by decide⟩
def udpSport : Field := ⟨0xe0, 0x10, by decide⟩
def udpDport : Field := ⟨0xf0, 0x10, by decide⟩
/-- `src_ipv4_src_ipv6.ipv4_layout.ipv4`: the last word of the 16-byte union. -/
def srcIpv4 : Field := ⟨0x100 + 0x60, 0x20, by decide⟩
/-- `dst_ipv4_dst_ipv6.ipv4_layout.ipv4`. -/
def dstIpv4 : Field := ⟨0x180 + 0x60, 0x20, by decide⟩
/-- `src_ipv4_src_ipv6.ipv6_layout.ipv6`. -/
def srcIpv6 : Nat := 0x100 / 8
/-- `dst_ipv4_dst_ipv6.ipv6_layout.ipv6`. -/
def dstIpv6 : Nat := 0x180 / 8

end FteMatchSetLyr24

namespace FteMatchSetMisc2

def metadataRegC0 : Field := ⟨0x160, 0x20, by decide⟩

end FteMatchSetMisc2

namespace FteMatchSetMisc4

/-- `prog_sample_field_value_i`. -/
def progSampleFieldValue (i : Nat) : Field := ⟨0x40 * i, 0x20, by omega⟩
/-- `prog_sample_field_id_i`. -/
def progSampleFieldId (i : Nat) : Field := ⟨0x40 * i + 0x20, 0x20, by omega⟩

end FteMatchSetMisc4

namespace FteMatchParam

def bytes : Nat := 512
def outerHeaders : Nat := 0x0 / 8
def miscParameters2 : Nat := 0x600 / 8
def miscParameters4 : Nat := 0xa00 / 8

end FteMatchParam

/-! ### Queues -/

namespace CreateCqIn

def bytes : Nat := 272
def opcode : Field := ⟨0x0, 0x10, by decide⟩
def cqContext : Nat := 0x80 / 8
def eMttPointerOrCqUmemOffset : Nat := 0x280
def cqUmemId : Field := ⟨0x2c0, 0x20, by decide⟩

end CreateCqIn

/-- `DEVX_ST_SZ_BYTES(create_cq_out)`. -/
def CreateCqOut.bytes : Nat := 16

namespace Cqc

def cc : Field := ⟨0xb, 0x1, by decide⟩
def scqeBreakModerationEn : Field := ⟨0xd, 0x1, by decide⟩
def oi : Field := ⟨0xe, 0x1, by decide⟩
def cqPeriodMode : Field := ⟨0xf, 0x2, by decide⟩
def cqeCompressionEn : Field := ⟨0x11, 0x1, by decide⟩
def dbrUmemId : Field := ⟨0x20, 0x20, by decide⟩
def logCqSize : Field := ⟨0x63, 0x5, by decide⟩
def uarPage : Field := ⟨0x68, 0x18, by decide⟩
def cqPeriod : Field := ⟨0x84, 0xc, by decide⟩
def cqMaxCount : Field := ⟨0x90, 0x10, by decide⟩
def cEqn : Field := ⟨0xb8, 0x8, by decide⟩
def dbrAddr : Nat := 0x1c0

end Cqc

namespace CreateRqIn

def bytes : Nat := 272
def opcode : Field := ⟨0x0, 0x10, by decide⟩
def ctx : Nat := 0x100 / 8

end CreateRqIn

/-- `DEVX_ST_SZ_BYTES(create_rq_out)`. -/
def CreateRqOut.bytes : Nat := 16

namespace Rqc

def rlkey : Field := ⟨0x0, 0x1, by decide⟩
def delayDropEn : Field := ⟨0x1, 0x1, by decide⟩
def scatterFcs : Field := ⟨0x2, 0x1, by decide⟩
def vlanStripDisable : Field := ⟨0x3, 0x1, by decide⟩
def memRqType : Field := ⟨0x4, 0x4, by decide⟩
def state : Field := ⟨0x8, 0x4, by decide⟩
def flushInErrorEn : Field := ⟨0xd, 0x1, by decide⟩
def hairpin : Field := ⟨0xe, 0x1, by decide⟩
def tsFormat : Field := ⟨0x1a, 0x2, by decide⟩
def userIndex : Field := ⟨0x28, 0x18, by decide⟩
def cqn : Field := ⟨0x48, 0x18, by decide⟩
def ibqWireProtocol : Field := ⟨0xa0, 0x8, by decide⟩
def ibqSegmentSize : Field := ⟨0xc0, 0x10, by decide⟩
def ibqMkey : Field := ⟨0xe0, 0x20, by decide⟩
def ibqScatterOffset : Field := ⟨0x110, 0x8, by decide⟩
def logIbqBufferSize : Field := ⟨0x11b, 0x5, by decide⟩
def wq : Nat := 0x180 / 8

end Rqc

namespace Wq

def wqType : Field := ⟨0x0, 0x4, by decide⟩
def pd : Field := ⟨0x48, 0x18, by decide⟩
def uarPage : Field := ⟨0x68, 0x18, by decide⟩
def dbrAddr : Nat := 0x80
def logWqStride : Field := ⟨0x10c, 0x4, by decide⟩
def logWqPgSz : Field := ⟨0x113, 0x5, by decide⟩
def logWqSz : Field := ⟨0x11b, 0x5, by decide⟩
def dbrUmemValid : Field := ⟨0x120, 0x1, by decide⟩
def wqUmemValid : Field := ⟨0x121, 0x1, by decide⟩
def singleWqeLogNumOfStrides : Field := ⟨0x134, 0x4, by decide⟩
def twoByteShiftEn : Field := ⟨0x138, 0x1, by decide⟩
def singleStrideLogNumOfBytes : Field := ⟨0x13d, 0x3, by decide⟩
def dbrUmemId : Field := ⟨0x140, 0x20, by decide⟩
def wqUmemId : Field := ⟨0x160, 0x20, by decide⟩
def wqUmemOffset : Nat := 0x180

end Wq

namespace CreateSqIn

def bytes : Nat := 272
def opcode : Field := ⟨0x0, 0x10, by decide⟩
def ctx : Nat := 0x100 / 8

end CreateSqIn

/-- `DEVX_ST_SZ_BYTES(create_sq_out)`. -/
def CreateSqOut.bytes : Nat := 16

namespace Sqc

def rlkey : Field := ⟨0x0, 0x1, by decide⟩
def flushInErrorEn : Field := ⟨0x3, 0x1, by decide⟩
def allowMultiPktSendWqe : Field := ⟨0x4, 0x1, by decide⟩
def minWqeInlineMode : Field := ⟨0x5, 0x3, by decide⟩
def state : Field := ⟨0x8, 0x4, by decide⟩
def tsFormat : Field := ⟨0x1a, 0x2, by decide⟩
def cqn : Field := ⟨0x48, 0x18, by decide⟩
def packetPacingRateLimitIndex : Field := ⟨0xf0, 0x10, by decide⟩
def tisLstSz : Field := ⟨0x100, 0x10, by decide⟩
def tisNum0 : Field := ⟨0x168, 0x18, by decide⟩
def wq : Nat := 0x180 / 8

end Sqc

namespace ModifySqIn

def bytes : Nat := 272
def opcode : Field := ⟨0x0, 0x10, by decide⟩
def sqState : Field := ⟨0x40, 0x4, by decide⟩
def sqn : Field := ⟨0x48, 0x18, by decide⟩
def modifyBitmask : Nat := 0x80
def ctx : Nat := 0x100 / 8

end ModifySqIn

/-- `DEVX_ST_SZ_BYTES(modify_sq_out)`. -/
def ModifySqOut.bytes : Nat := 16

namespace QuerySqIn

def bytes : Nat := 16
def opcode : Field := ⟨0x0, 0x10, by decide⟩
def sqn : Field := ⟨0x48, 0x18, by decide⟩

end QuerySqIn

namespace QuerySqOut

def bytes : Nat := 272
def sqContext : Nat := 0x100 / 8

end QuerySqOut

namespace ModifyRqIn

def bytes : Nat := 272
def opcode : Field := ⟨0x0, 0x10, by decide⟩
def rqState : Field := ⟨0x40, 0x4, by decide⟩
def rqn : Field := ⟨0x48, 0x18, by decide⟩

end ModifyRqIn

/-- `DEVX_ST_SZ_BYTES(modify_rq_out)`. -/
def ModifyRqOut.bytes : Nat := 16

namespace QueryRqIn

def bytes : Nat := 16
def opcode : Field := ⟨0x0, 0x10, by decide⟩
def rqn : Field := ⟨0x48, 0x18, by decide⟩

end QueryRqIn

namespace QueryRqOut

def bytes : Nat := 272
def rqContext : Nat := 0x100 / 8

end QueryRqOut

namespace SetPpRateLimitContext

def rateLimit : Field := ⟨0x0, 0x20, by decide⟩
def burstUpperBound : Field := ⟨0x20, 0x20, by decide⟩
def rateMode : Field := ⟨0x4c, 0x4, by decide⟩
def typicalPacketSize : Field := ⟨0x50, 0x10, by decide⟩

end SetPpRateLimitContext

/-! ### Transport interfaces -/

namespace CreateTirIn

def bytes : Nat := 272
def opcode : Field := ⟨0x0, 0x10, by decide⟩
def tirContext : Nat := 0x100 / 8

end CreateTirIn

/-- `DEVX_ST_SZ_BYTES(create_tir_out)`. -/
def CreateTirOut.bytes : Nat := 16

namespace ModifyTirIn

def bytes : Nat := 272
def opcode : Field := ⟨0x0, 0x10, by decide⟩
def tirn : Field := ⟨0x48, 0x18, by decide⟩
def bitmask : Nat := 0x80 / 8
def tirContext : Nat := 0x100 / 8

end ModifyTirIn

/-- `DEVX_ST_SZ_BYTES(modify_tir_out)`. -/
def ModifyTirOut.bytes : Nat := 16

namespace ModifyTirBitmask

def selfLbEn : Field := ⟨0x3b, 0x1, by decide⟩
def hash : Field := ⟨0x3d, 0x1, by decide⟩
def lro : Field := ⟨0x3f, 0x1, by decide⟩

end ModifyTirBitmask

namespace QueryTirIn

def bytes : Nat := 16
def opcode : Field := ⟨0x0, 0x10, by decide⟩
def tirn : Field := ⟨0x48, 0x18, by decide⟩

end QueryTirIn

namespace QueryTirOut

def bytes : Nat := 272
def tirContext : Nat := 0x100 / 8

end QueryTirOut

namespace Tirc

def tlsEn : Field := ⟨0x24, 0x1, by decide⟩
def nvmeotcpZerocopyEn : Field := ⟨0x25, 0x1, by decide⟩
def nvmeotcpCrcEn : Field := ⟨0x26, 0x1, by decide⟩
def lroTimeoutPeriodUsecs : Field := ⟨0x84, 0x10, by decide⟩
def lroEnableMask : Field := ⟨0x94, 0x4, by decide⟩
def lroMaxIpPayloadSize : Field := ⟨0x98, 0x8, by decide⟩
def inlineRqn : Field := ⟨0xe8, 0x18, by decide⟩
def rxHashSymmetric : Field := ⟨0x100, 0x1, by decide⟩
def rxHashFn : Field := ⟨0x120, 0x4, by decide⟩
def selfLbBlock : Field := ⟨0x126, 0x2, by decide⟩
def transportDomain : Field := ⟨0x128, 0x18, by decide⟩
def rxHashToeplitzKey (i : Nat) : Field := ⟨0x140 + 0x20 * i, 0x20, by omega⟩
def rxHashFieldSelectorOuter : Field := ⟨0x280, 0x20, by decide⟩
def rxHashFieldSelectorInner : Field := ⟨0x2a0, 0x20, by decide⟩
def nvmeotcpTagBufferTableId : Field := ⟨0x2c0, 0x20, by decide⟩

end Tirc

namespace CreateTisIn

def bytes : Nat := 192
def opcode : Field := ⟨0x0, 0x10, by decide⟩
def ctx : Nat := 0x100 / 8

end CreateTisIn

/-- `DEVX_ST_SZ_BYTES(create_tis_out)`. -/
def CreateTisOut.bytes : Nat := 16

namespace QueryTisIn

def bytes : Nat := 16
def opcode : Field := ⟨0x0, 0x10, by decide⟩
def tisn : Field := ⟨0x48, 0x18, by decide⟩

end QueryTisIn

namespace QueryTisOut

def bytes : Nat := 176
def tisContext : Nat := 0x80 / 8

end QueryTisOut

namespace Tisc

def tlsEn : Field := ⟨0x1, 0x1, by decide⟩
def nvmeotcpEn : Field := ⟨0x2, 0x1, by decide⟩
def transportDomain : Field := ⟨0x128, 0x18, by decide⟩
def pd : Field := ⟨0x168, 0x18, by decide⟩

end Tisc

/-! ### Domains -/

namespace AllocPdIn

def bytes : Nat := 16
def opcode : Field := ⟨0x0, 0x10, by decide⟩

end AllocPdIn

/-- `DEVX_ST_SZ_BYTES(alloc_pd_out)`. -/
def AllocPdOut.bytes : Nat := 16

namespace AllocTransportDomainIn

def bytes : Nat := 16
def opcode : Field := ⟨0x0, 0x10, by decide⟩

end AllocTransportDomainIn

/-- `DEVX_ST_SZ_BYTES(alloc_transport_domain_out)`. -/
def AllocTransportDomainOut.bytes : Nat := 16

/-! ### Memory keys -/

namespace CreateMkeyIn

def bytes : Nat := 272
def opcode : Field := ⟨0x0, 0x10, by decide⟩
def memoryKeyMkeyEntry : Nat := 0x80 / 8
def translationsOctwordActualSize : Field := ⟨0x300, 0x20, by decide⟩
def klmPasMttBsf : Nat := 0x880 / 8

end CreateMkeyIn

namespace CreateMkeyOut

def bytes : Nat := 16
def mkeyIndex : Field := ⟨0x48, 0x18, by decide⟩

end CreateMkeyOut

namespace Mkc

def free : Field := ⟨0x1, 0x1, by decide⟩
def accessMode42 : Field := ⟨0x3, 0x3, by decide⟩
def umrEn : Field := ⟨0x10, 0x1, by decide⟩
def rw : Field := ⟨0x12, 0x1, by decide⟩
def rr : Field := ⟨0x13, 0x1, by decide⟩
def lw : Field := ⟨0x14, 0x1, by decide⟩
def lr : Field := ⟨0x15, 0x1, by decide⟩
def accessMode10 : Field := ⟨0x16, 0x2, by decide⟩
def qpn : Field := ⟨0x20, 0x18, by decide⟩
def mkey70 : Field := ⟨0x38, 0x8, by decide⟩
def bsfEn : Field := ⟨0x61, 0x1, by decide⟩
def enRinval : Field := ⟨0x67, 0x1, by decide⟩
def pd : Field := ⟨0x68, 0x18, by decide⟩
def startAddr : Nat := 0x80
def len : Nat := 0xc0
def bsfOctwordSize : Field := ⟨0x100, 0x20, by decide⟩
def translationsOctwordSize : Field := ⟨0x1a0, 0x20, by decide⟩
def logEntitySize : Field := ⟨0x1db, 0x5, by decide⟩
def cryptoEn : Field := ⟨0x1e3, 0x2, by decide⟩

end Mkc

/-! The structures of the repeated block format are C structures with big-endian members. -/

namespace WqeUmrRepeatBlockSeg

def bytes : Nat := 16
def byteCount : Field := ⟨0x0, 0x20, by decide⟩
def op : Field := ⟨0x20, 0x20, by decide⟩
def repeatCount : Field := ⟨0x40, 0x20, by decide⟩
def numEnt : Field := ⟨0x70, 0x10, by decide⟩

end WqeUmrRepeatBlockSeg

namespace WqeUmrRepeatEntSeg

def bytes : Nat := 16
def stride : Field := ⟨0x0, 0x10, by decide⟩
def byteCount : Field := ⟨0x10, 0x10, by decide⟩
def memkey : Field := ⟨0x20, 0x20, by decide⟩
def va : Nat := 0x40

end WqeUmrRepeatEntSeg

/-! ### General objects -/

namespace GeneralObjInCmdHdr

def bytes : Nat := 16
def opcode : Field := ⟨0x0, 0x10, by decide⟩
def objType : Field := ⟨0x30, 0x10, by decide⟩
def objId : Field := ⟨0x40, 0x20, by decide⟩

end GeneralObjInCmdHdr

namespace GeneralObjOutCmdHdr

def bytes : Nat := 16
def objId : Field := ⟨0x40, 0x20, by decide⟩

end GeneralObjOutCmdHdr

namespace CreateEncryptionKeyIn

def bytes : Nat := 528
def encryptionKeyObject : Nat := 0x80 / 8

end CreateEncryptionKeyIn

namespace EncryptionKeyObj

def bytes : Nat := 512
def modifyFieldSelect : Nat := 0x0
def keySize : Field := ⟨0x54, 0x4, by decide⟩
def hasKeytag : Field := ⟨0x58, 0x1, by decide⟩
def keyType : Field := ⟨0x5c, 0x4, by decide⟩
def pd : Field := ⟨0x68, 0x18, by decide⟩
/-- `opaque`. -/
def opaqueData : Nat := 0x180
def key : Nat := 0x200 / 8

end EncryptionKeyObj

namespace CreateTagBufferTableObjIn

def bytes : Nat := 32
def tagBufferTableObject : Nat := 0x80 / 8

end CreateTagBufferTableObjIn

def TagBufferTableObj.logTagBufferTableSize : Field := ⟨0x7b, 0x5, by decide⟩

namespace QueryEncryptionKeyOut

def bytes : Nat := 528
def encryptionKeyObject : Nat := 0x80 / 8

end QueryEncryptionKeyOut

namespace QueryTagBufferTableObjOut

def bytes : Nat := 32
def tagBufferTableObject : Nat := 0x80 / 8

end QueryTagBufferTableObjOut

namespace CreateParseGraphNodeIn

def bytes : Nat := 432
def node : Nat := 0x80 / 8

end CreateParseGraphNodeIn

namespace CreateParseGraphNodeOut

def bytes : Nat := 432
def node : Nat := 0x80 / 8

end CreateParseGraphNodeOut

namespace ParseGraphNode

def headerLengthBaseValue : Field := ⟨0x60, 0x10, by decide⟩
def headerLengthFieldShift : Field := ⟨0x74, 0x4, by decide⟩
def headerLengthMode : Field := ⟨0x7c, 0x4, by decide⟩
def headerLengthFieldOffset : Field := ⟨0x80, 0x10, by decide⟩
def headerLengthFieldMask : Field := ⟨0xc0, 0x20, by decide⟩
def flowMatchSample : Nat := 0x100 / 8
def flowMatchSampleSlots : Nat := 8
def inputArc : Nat := 0x500 / 8

end ParseGraphNode

namespace ParseGraphFlowMatchSample

def bytes : Nat := 16
def flowMatchSampleEn : Field := ⟨0x0, 0x1, by decide⟩
def flowMatchSampleOffsetMode : Field := ⟨0x4, 0x4, by decide⟩
def flowMatchSampleFieldOffset : Field := ⟨0x10, 0x10, by decide⟩
def flowMatchSampleFieldOffsetShift : Field := ⟨0x24, 0x4, by decide⟩
def flowMatchSampleFieldBaseOffset : Field := ⟨0x28, 0x8, by decide⟩
def flowMatchSampleTunnelMode : Field := ⟨0x3d, 0x3, by decide⟩
def flowMatchSampleFieldOffsetMask : Field := ⟨0x40, 0x20, by decide⟩
def flowMatchSampleFieldId : Field := ⟨0x60, 0x20, by decide⟩

end ParseGraphFlowMatchSample

namespace ParseGraphArc

def startInnerTunnel : Field := ⟨0x0, 0x1, by decide⟩
def arcParseGraphNode : Field := ⟨0x8, 0x8, by decide⟩
def compareConditionValue : Field := ⟨0x10, 0x10, by decide⟩
def parseGraphNodeHandle : Field := ⟨0x20, 0x20, by decide⟩

end ParseGraphArc

/-! ### Capabilities -/

namespace QueryHcaCapIn

def opcode : Field := ⟨0x0, 0x10, by decide⟩
def opMod : Field := ⟨0x30, 0x10, by decide⟩

end QueryHcaCapIn

def QueryHcaCapOut.capability : Nat := 0x80 / 8

namespace CmdHcaCap

def nvmeotcp : Field := ⟨0x96, 0x1, by decide⟩
def ibq : Field := ⟨0xf9, 0x1, by decide⟩
def nicFlowTable : Field := ⟨0x1a6, 0x1, by decide⟩
def aesXtsTweakInc64 : Field := ⟨0x3f0, 0x1, by decide⟩
def aesXtsSingleBlockLeTweak : Field := ⟨0x3f1, 0x1, by decide⟩
def aesXtsMultiBlockBeTweak : Field := ⟨0x3f2, 0x1, by decide⟩
def aesXtsTweakIncShift : Field := ⟨0x3f8, 0x1, by decide⟩
def generalObjTypes : Nat := 0x400
def sqTsFormat : Field := ⟨0x440, 0x2, by decide⟩
def rqTsFormat : Field := ⟨0x442, 0x2, by decide⟩
def aesXtsMultiBlockLeTweak : Field := ⟨0x468, 0x1, by decide⟩
def crypto : Field := ⟨0x469, 0x1, by decide⟩
def tlsTx : Field := ⟨0x481, 0x1, by decide⟩
def tlsRx : Field := ⟨0x482, 0x1, by decide⟩
def deviceFrequencyKhz : Field := ⟨0x4e0, 0x20, by decide⟩
def logMaxDek : Field := ⟨0x5b3, 0x5, by decide⟩
def logMaxNumHeaderModifyArgument : Field := ⟨0x763, 0x5, by decide⟩
def logHeaderModifyArgumentGranularity : Field := ⟨0x76c, 0x4, by decide⟩
def logHeaderModifyArgumentMaxAlloc : Field := ⟨0x773, 0x5, by decide⟩

end CmdHcaCap

namespace CmdHcaCap2

def maxReformatInsertSize : Field := ⟨0xa0, 0x8, by decide⟩
def maxReformatInsertOffset : Field := ⟨0xa8, 0x8, by decide⟩
def nonTunnelReformat : Field := ⟨0xc1, 0x1, by decide⟩

end CmdHcaCap2

namespace TlsCap

def tls12AesGcm128 : Field := ⟨0x0, 0x1, by decide⟩
def tls12AesGcm256 : Field := ⟨0x2, 0x1, by decide⟩

end TlsCap

namespace PerProtocolNetworkingOffloadCaps

def lroCap : Field := ⟨0x2, 0x1, by decide⟩
def lroPshFlag : Field := ⟨0x3, 0x1, by decide⟩
def lroTimeStamp : Field := ⟨0x4, 0x1, by decide⟩
def lroMaxMsgSzMode : Field := ⟨0x5, 0x2, by decide⟩
def lroMinMssSize : Field := ⟨0x50, 0x10, by decide⟩
def lroTimerSupportedPeriods (i : Nat) : Field := ⟨0x180 + 0x20 * i, 0x20, by omega⟩

end PerProtocolNetworkingOffloadCaps

namespace IbqCap

def ibqWireProtocol : Nat := 0x0
def ibqMaxScatterOffset : Field := ⟨0x68, 0x8, by decide⟩

end IbqCap

namespace ParseGraphNodeCap

def parseGraphNodeIn : Field := ⟨0x0, 0x20, by decide⟩
def parseGraphHeaderLengthMode : Field := ⟨0x40, 0x10, by decide⟩
def parseGraphFlowMatchSampleOffsetMode : Field := ⟨0x50, 0x10, by decide⟩
def maxNumParseGraphArcIn : Field := ⟨0x60, 0x8, by decide⟩
def maxNumParseGraphFlowMatchSample : Field := ⟨0x70, 0x8, by decide⟩
def parseGraphFlowMatchSampleIdInOut : Field := ⟨0x7f, 0x1, by decide⟩
def maxParseGraphHeaderLengthBaseValue : Field := ⟨0x80, 0x10, by decide⟩
def maxParseGraphFlowMatchSampleFieldBaseOffsetValue : Field := ⟨0x98, 0x8, by decide⟩
def parseGraphHeaderLengthFieldMaskWidth : Field := ⟨0xb8, 0x8, by decide⟩

end ParseGraphNodeCap

namespace CryptoCap

def synchronizeDek : Field := ⟨0x3, 0x1, by decide⟩
def logMaxNumDeks : Field := ⟨0x2b, 0x5, by decide⟩

end CryptoCap

namespace NvmeotcpCap

def zerocopy : Field := ⟨0x0, 0x1, by decide⟩
def crcRx : Field := ⟨0x1, 0x1, by decide⟩
def crcTx : Field := ⟨0x2, 0x1, by decide⟩
def version : Field := ⟨0x18, 0x8, by decide⟩
def logMaxNvmeotcpTagBufferTable : Field := ⟨0x33, 0x5, by decide⟩
def logMaxNvmeotcpTagBufferSize : Field := ⟨0x3b, 0x5, by decide⟩

end NvmeotcpCap

namespace FlowTableNicCap

def flowTablePropertiesNicReceive : Nat := 0x200 / 8
def headerModifyNicReceive : Nat := 0x1000 / 8
def nicReceiveMaxSteeringDepth : Field := ⟨0x18, 0x8, by decide⟩
def logMaxPacketReformatContext : Field := ⟨0x2b, 0x5, by decide⟩

end FlowTableNicCap

namespace FlowTablePropLayout

def ftFieldSupport : Nat := 0x100 / 8
def ftSupport : Field := ⟨0x0, 0x1, by decide⟩
def flowTag : Field := ⟨0x1, 0x1, by decide⟩
def flowModifyEn : Field := ⟨0x3, 0x1, by decide⟩
def reformat : Field := ⟨0x7, 0x1, by decide⟩
def reformatAndModifyAction : Field := ⟨0x14, 0x1, by decide⟩
def reformatAndFwdToTable : Field := ⟨0x19, 0x1, by decide⟩
def logMaxFtSize : Field := ⟨0x22, 0x6, by decide⟩
def logMaxModifyHeaderContext : Field := ⟨0x28, 0x8, by decide⟩
def maxModifyHeaderActions : Field := ⟨0x30, 0x8, by decide⟩
def maxFtLevel : Field := ⟨0x38, 0x8, by decide⟩
def reformatInsert : Field := ⟨0x62, 0x1, by decide⟩
def reparse : Field := ⟨0x6a, 0x1, by decide⟩
def logMaxFtNum : Field := ⟨0x78, 0x8, by decide⟩
def logMaxFlow : Field := ⟨0xb8, 0x8, by decide⟩

end FlowTablePropLayout

namespace HeaderModifyCapProperties

def setActionFieldSupport : Nat := 0x0 / 8
def copyActionFieldSupport : Nat := 0x200 / 8

end HeaderModifyCapProperties

namespace FlowTableFieldsSupported

def outerEtherType : Field := ⟨0x2, 0x1, by decide⟩
def outerUdpDport : Field := ⟨0x13, 0x1, by decide⟩
def progSampleField : Field := ⟨0x39, 0x1, by decide⟩
def metadataRegC1 : Field := ⟨0x7e, 0x1, by decide⟩
def metadataRegC0 : Field := ⟨0x7f, 0x1, by decide⟩

end FlowTableFieldsSupported

end Prm
