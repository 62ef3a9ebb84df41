import Dpcp.Mkey.Mkey
import Dpcp.Parser.GraphNode
import Dpcp.Queue.Cq
import Dpcp.Queue.PpSq
import Dpcp.Queue.Rq

/-!
# The factories of the adapter

The functions of `adapter` that return a new object through a reference to a pointer.  Most of
them store the pointer when the object is complete.  Those of the mkeys store it when the object
is allocated, and delete the object if its creation fails; `create_pp_sq` stores it when the
object is allocated, and does not delete the object.

An object is given by the address at which it is allocated, `0` if there is no memory for it.
-/

namespace Dpcp

open Bits Dcmd

/-- What a factory comes to: the status, the output pointer, and whether the new object was
deleted. -/
structure Made where
  status : Status
  out : Nat
  deleted : Bool
deriving DecidableEq

/-- The factories report `err` for any error of the object. -/
def Status.reportAs (ret err : Status) : Status :=
  if ret = .ok then .ok else err

namespace Adapter

/-- The body of a factory that stores the pointer last; `created` is what it reports about the
creation of the object. -/
def publishAfter (newObj : Nat) (created : Status) (out : Nat) : Made :=
  if newObj = 0 then
    ⟨.errNoMemory, out, false⟩
  else if created = .ok then
    ⟨.ok, newObj, false⟩
  else
    ⟨created, out, true⟩

/-- The body of a factory that stores the pointer first. -/
def publishBefore (newObj : Nat) (created : Status) : Made :=
  if newObj = 0 then
    ⟨.errNoMemory, newObj, false⟩
  else if created = .ok then
    ⟨.ok, newObj, false⟩
  else
    ⟨created, newObj, true⟩

/-! ### The pointer is stored last -/

/-- `adapter::create_tir`; `created` is the status of `tir::create`. -/
def createTir (newObj : Nat) (created : Status) (tirObj : Nat) : Made :=
  publishAfter newObj (created.reportAs .errCreate) tirObj

/-- `adapter::create_tis`; `created` is the status of `tis::create`. -/
def createTis (newObj : Nat) (created : Status) (tisObj : Nat) : Made :=
  publishAfter newObj (created.reportAs .errCreate) tisObj

/-- `adapter::create_tag_buffer_table_obj`; `created` is the status of
`tag_buffer_table_obj::create`. -/
def createTagBufferTableObj (newObj : Nat) (created : Status) (tagBufferTableObject : Nat) :
    Made :=
  publishAfter newObj (created.reportAs .errCreate) tagBufferTableObject

/-- The common body of `create_tls_dek`, `create_ipsec_dek` and `create_aes_txs_dek`; `caps` is
there if the capabilities are available, and `created` is the status of `dek::create`. -/
def createDek (caps : Option HcaCapabilities) (newObj : Nat) (created : Status) (dekObj : Nat) :
    Made :=
  if caps.any fun caps => !caps.generalObjectTypesEncryptionKey then
    ⟨.errNoSupport, dekObj, false⟩
  else
    publishAfter newObj (created.reportAs .errCreate) dekObj

/-- `adapter::create_tls_dek`. -/
def createTlsDek : Option HcaCapabilities → Nat → Status → Nat → Made :=
  createDek

/-- `adapter::create_ipsec_dek`. -/
def createIpsecDek : Option HcaCapabilities → Nat → Status → Nat → Made :=
  createDek

/-- `adapter::create_aes_txs_dek`. -/
def createAesTxsDek : Option HcaCapabilities → Nat → Status → Nat → Made :=
  createDek

/-- `adapter::create_parser_graph_node`; `created` is the status of `parser_graph_node::create`.
There is no result if there are no capabilities, or if a check has none. -/
def createParserGraphNode (caps : Option HcaCapabilities) (attributes : ParserGraphNodeAttr)
    (newObj : Nat) (created : Status) (outParserGraphNode : Nat) : Option Made := do
  let caps ← caps
  if ← ParserGraphNode.supported caps attributes then
    some (publishAfter newObj (created.reportAs .errCreate) outParserGraphNode)
  else
    some ⟨.errNoSupport, outParserGraphNode, false⟩

/-- `adapter::create_ibq_rq`, which reports the error of `init` itself. -/
def createIbqRq (ad : Adapter) (attr : RqAttr) (protocol mkey : BitVec 32) (device : Device)
    (newObj dRq : Nat) : Option Made :=
  if newObj = 0 then
    some ⟨.errNoMemory, dRq, false⟩
  else
    (IbqRq.init attr protocol mkey ad.mPdId Queue.rst device (.new ad.mDcmdCtx)).map
      fun r => publishAfter newObj r.1 dRq

/-- `adapter::create_flow_rule`. -/
def createFlowRule (newObj rule : Nat) : Made :=
  publishAfter newObj .ok rule

/-- `adapter::create_comp_channel`. -/
def createCompChannel (newObj outCch : Nat) : Made :=
  publishAfter newObj .ok outCch

/-! ### The pointer is stored first -/

/-- `adapter::create_direct_mkey`.  There is no result if `create` has none. -/
def createDirectMkey (ad : Adapter) (address length : BitVec 64) (flags : BitVec 32)
    (ibvMem : Option (BitVec 32)) (newObj : Nat) : Option Made :=
  if newObj = 0 then
    some (publishBefore newObj .errNoMemory)
  else
    match (DirectMkey.new address length flags).regMem ad.mDcmdCtx ad.mIbvPd ibvMem with
    | (.ok, dmk) =>
        (dmk.create ad.mPdId).map fun r => publishBefore newObj (r.1.reportAs .errCreate)
    | _ => some (publishBefore newObj .errUmem)

/-- `adapter::create_pattern_mkey`; `created` is the status of `pattern_mkey::create`. -/
def createPatternMkey (newObj : Nat) (created : Status) : Made :=
  publishBefore newObj (created.reportAs .errCreate)

/-- `adapter::create_reserved_mkey`, which passes on 32 bits of the length. -/
def createReservedMkey (type : BitVec 32) (address length : BitVec 64) (flags : BitVec 32)
    (newObj : Nat) : Made :=
  let rmk := ReservedMkey.new type address ((length.setWidth 32).setWidth 64) flags
  publishBefore newObj (rmk.create.1.reportAs .errCreate)

/-- `adapter::create_ref_mkey`. -/
def createRefMkey (parent : Option Mkey) (address length : BitVec 64) (newObj : Nat) : Made :=
  publishBefore newObj (((RefMkey.new address length).create parent).1.reportAs .errCreate)

/-- `adapter::create_extern_mkey`. -/
def createExternMkey (newObj : Nat) : Made :=
  publishBefore newObj .ok

/-- `adapter::create_crypto_mkey`; `mkeyCnt` is what the counter gives. -/
def createCryptoMkey (ad : Adapter) (maxSge : BitVec 32) (mkeyCnt : Int) (device : Device)
    (newObj : Nat) : Made :=
  let (ret, _) := CryptoMkey.create (.new ad.mDcmdCtx) ad.mPdId maxSge mkeyCnt device
  publishBefore newObj (ret.reportAs .errCreate)

end Adapter

/-- What the caller of `create_cq`, of the RQs and of `create_pp_sq` sees. -/
def Creation.made (r : Creation) : Made :=
  ⟨r.status, r.out, r.deleted⟩

/-! ### Calls -/

/-- A call of a factory, with what the world outside decides during it except for the address of
the new object. -/
inductive FactoryCall where
  | tir (created : Status)
  | tis (created : Status)
  | tagBufferTableObj (created : Status)
  | tlsDek (caps : Option HcaCapabilities) (created : Status)
  | ipsecDek (caps : Option HcaCapabilities) (created : Status)
  | aesTxsDek (caps : Option HcaCapabilities) (created : Status)
  | parserGraphNode (caps : Option HcaCapabilities) (attributes : ParserGraphNodeAttr)
      (created : Status)
  | flowRule
  | compChannel
  | cq (ad : Adapter) (attrs : CqAttr) (env : QueueEnv)
  | stridingRq (ad : Adapter) (attr : RqAttr) (env : QueueEnv)
  | regularRq (ad : Adapter) (attr : RqAttr) (env : QueueEnv)
  | ibqRq (ad : Adapter) (attr : RqAttr) (protocol mkey : BitVec 32) (device : Device)
  | directMkey (ad : Adapter) (address length : BitVec 64) (flags : BitVec 32)
      (ibvMem : Option (BitVec 32))
  | patternMkey (created : Status)
  | reservedMkey (type : BitVec 32) (address length : BitVec 64) (flags : BitVec 32)
  | refMkey (parent : Option Mkey) (address length : BitVec 64)
  | externMkey
  | cryptoMkey (ad : Adapter) (maxSge : BitVec 32) (mkeyCnt : Int) (device : Device)
  | ppSq (ad : Adapter) (attr : SqAttr) (env : QueueEnv) (pacing : PpEnv)

namespace FactoryCall

/-- The call, with the new object at `newObj` and with `out` in the output parameter. -/
def run (newObj out : Nat) : FactoryCall → Option Made
  | tir created => some (Adapter.createTir newObj created out)
  | tis created => some (Adapter.createTis newObj created out)
  | tagBufferTableObj created => some (Adapter.createTagBufferTableObj newObj created out)
  | tlsDek caps created => some (Adapter.createTlsDek caps newObj created out)
  | ipsecDek caps created => some (Adapter.createIpsecDek caps newObj created out)
  | aesTxsDek caps created => some (Adapter.createAesTxsDek caps newObj created out)
  | parserGraphNode caps attributes created =>
      Adapter.createParserGraphNode caps attributes newObj created out
  | flowRule => some (Adapter.createFlowRule newObj out)
  | compChannel => some (Adapter.createCompChannel newObj out)
  | cq ad attrs env => (ad.createCq attrs { env with newQueue := newObj } out).map Creation.made
  | stridingRq ad attr env =>
      (ad.createStridingRq attr { env with newQueue := newObj } out).map Creation.made
  | regularRq ad attr env =>
      (ad.createRegularRq attr { env with newQueue := newObj } out).map Creation.made
  | ibqRq ad attr protocol mkey device => ad.createIbqRq attr protocol mkey device newObj out
  | directMkey ad address length flags ibvMem =>
      ad.createDirectMkey address length flags ibvMem newObj
  | patternMkey created => some (Adapter.createPatternMkey newObj created)
  | reservedMkey type address length flags =>
      some (Adapter.createReservedMkey type address length flags newObj)
  | refMkey parent address length => some (Adapter.createRefMkey parent address length newObj)
  | externMkey => some (Adapter.createExternMkey newObj)
  | cryptoMkey ad maxSge mkeyCnt device =>
      some (ad.createCryptoMkey maxSge mkeyCnt device newObj)
  | ppSq ad attr env pacing =>
      (ad.createPpSq attr { env with newQueue := newObj } pacing out).map Creation.made

/-- The call stores the pointer before the object is complete: a mkey always, a send queue if there
is a UAR pool and memory for the object. -/
def PublishesFirst (newObj : Nat) : FactoryCall → Prop
  | directMkey .. | patternMkey .. | reservedMkey .. | refMkey .. | externMkey
  | cryptoMkey .. => True
  | ppSq ad _ env _ => (ad.mUarpool ≠ none ∨ env.newUarpool = true) ∧ newObj ≠ 0
  | _ => False

end FactoryCall

/-- The output pointer holds what it held, and does not point to the new object, which after a
failure is deleted or not complete. -/
structure Made.Intact (newObj out : Nat) (made : Made) : Prop where
  out_eq : made.out = out
  not_new : newObj ≠ 0 → made.out ≠ newObj

/-! ### The output pointer after a failure -/

namespace Adapter

theorem publishAfter_out {newObj out : Nat} {created : Status}
    (h : (publishAfter newObj created out).status ≠ .ok) :
  (publishAfter newObj created out).out = out
  := by
  simp only [publishAfter] at h ⊢
  split
  · rfl
  · split
    · simp_all
    · rfl

@[simp]
theorem publishBefore_out (newObj : Nat) (created : Status) :
  (publishBefore newObj created).out = newObj
  := by
  simp only [publishBefore]
  split
  · rfl
  · split <;> rfl

theorem createDek_out {caps : Option HcaCapabilities} {newObj out : Nat} {created : Status}
    (h : (createDek caps newObj created out).status ≠ .ok) :
  (createDek caps newObj created out).out = out
  := by
  simp only [createDek] at h ⊢
  split
  · rfl
  · rename_i hcaps
    rw [if_neg hcaps] at h
    apply publishAfter_out h

theorem createParserGraphNode_out {caps : Option HcaCapabilities}
    {attributes : ParserGraphNodeAttr} {newObj out : Nat} {created : Status} {made : Made}
    (hmade : createParserGraphNode caps attributes newObj created out = some made)
    (h : made.status ≠ .ok) :
  made.out = out
  := by
  obtain ⟨caps, -, hmade⟩ := Option.bind_eq_some_iff.mp hmade
  obtain ⟨supported, -, hmade⟩ := Option.bind_eq_some_iff.mp hmade
  split at hmade
  · cases hmade
    apply publishAfter_out h
  · cases hmade
    rfl

theorem createIbqRq_out {ad : Adapter} {attr : RqAttr} {protocol mkey : BitVec 32}
    {device : Device} {newObj out : Nat} {made : Made}
    (hmade : ad.createIbqRq attr protocol mkey device newObj out = some made)
    (h : made.status ≠ .ok) :
  made.out = out
  := by
  simp only [createIbqRq] at hmade
  split at hmade
  · cases hmade
    rfl
  · obtain ⟨r, -, rfl⟩ := Option.map_eq_some_iff.mp hmade
    apply publishAfter_out h

theorem createDirectMkey_out {ad : Adapter} {address length : BitVec 64} {flags : BitVec 32}
    {ibvMem : Option (BitVec 32)} {newObj : Nat} {made : Made}
    (hmade : ad.createDirectMkey address length flags ibvMem newObj = some made) :
  made.out = newObj
  := by
  simp only [createDirectMkey] at hmade
  split at hmade
  · cases hmade
    apply publishBefore_out
  · split at hmade
    · obtain ⟨r, -, rfl⟩ := Option.map_eq_some_iff.mp hmade
      apply publishBefore_out
    · cases hmade
      apply publishBefore_out

end Adapter

namespace FactoryCall

/-- After a failure the output pointer points to the new object if the call stores it first, and
is as it was otherwise. -/
theorem out_of_fails {c : FactoryCall} {newObj out : Nat} {made : Made}
    (hrun : c.run newObj out = some made) (hstatus : made.status ≠ .ok) :
  c.PublishesFirst newObj ∧ made.out = newObj ∨ ¬ c.PublishesFirst newObj ∧ made.out = out
  := by
  cases c with
  | tir | tis | tagBufferTableObj | flowRule | compChannel =>
      cases hrun
      exact .inr ⟨id, Adapter.publishAfter_out hstatus⟩
  | tlsDek | ipsecDek | aesTxsDek =>
      cases hrun
      exact .inr ⟨id, Adapter.createDek_out hstatus⟩
  | parserGraphNode => exact .inr ⟨id, Adapter.createParserGraphNode_out hrun hstatus⟩
  | ibqRq => exact .inr ⟨id, Adapter.createIbqRq_out hrun hstatus⟩
  | cq =>
      obtain ⟨r, hr, rfl⟩ := Option.map_eq_some_iff.mp hrun
      exact .inr ⟨id, Adapter.createCq_out hr hstatus⟩
  | stridingRq | regularRq =>
      obtain ⟨r, hr, rfl⟩ := Option.map_eq_some_iff.mp hrun
      exact .inr ⟨id, Adapter.createBasicRq_out hr hstatus⟩
  | directMkey => exact .inl ⟨trivial, Adapter.createDirectMkey_out hrun⟩
  | patternMkey | reservedMkey | refMkey | externMkey | cryptoMkey =>
      cases hrun
      exact .inl ⟨trivial, Adapter.publishBefore_out _ _⟩
  | ppSq ad attr env pacing =>
      obtain ⟨r, hr, rfl⟩ := Option.map_eq_some_iff.mp hrun
      have hout := Adapter.createPpSq_out hr
      have hpool := Adapter.makeUarpool_isSome ad { env with newQueue := newObj }
      by_cases hfirst : (ppSq ad attr env pacing).PublishesFirst newObj
      · rw [if_pos ⟨hpool.mpr hfirst.1, hfirst.2⟩] at hout
        exact .inl ⟨hfirst, hout⟩
      · rw [if_neg fun h => hfirst ⟨hpool.mp h.1, h.2⟩] at hout
        exact .inr ⟨hfirst, hout⟩

/-- After a failure of a factory, given that the new object is not allocated where the output
pointer already points, the output pointer holds what it held and does not point to the new
object exactly when the factory does not store the pointer first, or there was no memory for the
object and the pointer was null. -/
theorem intact_iff {c : FactoryCall} {newObj out : Nat} {made : Made}
    (hrun : c.run newObj out = some made) (hstatus : made.status ≠ .ok)
    (hfresh : newObj ≠ 0 → newObj ≠ out) :
  made.Intact newObj out ↔ ¬ c.PublishesFirst newObj ∨ newObj = 0 ∧ out = 0
  := by
  rcases out_of_fails hrun hstatus with ⟨hfirst, hout⟩ | ⟨hlast, hout⟩
  · constructor
    · rintro ⟨heq, hnew⟩
      have hzero : newObj = 0 := by
        by_contra hne
        apply hnew hne hout
      exact .inr ⟨hzero, by rw [← heq, hout, hzero]⟩
    · rintro (hnot | ⟨rfl, rfl⟩)
      · cases hnot hfirst
      · exact ⟨hout, fun hne => (hne rfl).elim⟩
  · apply iff_of_true _ (.inl hlast)
    constructor
    · apply hout
    · intro hne
      rw [hout]
      apply (hfresh hne).symm

/-- A TIR that the device refuses: the pointer is as it was. -/
theorem intact_tir :
  ∃ made, (tir .errCreate).run 0x1000 0x77 = some made ∧ made.status = .errCreate
    ∧ made.Intact 0x1000 0x77
  := by
  refine ⟨⟨.errCreate, 0x77, true⟩, rfl, rfl, ?_⟩
  have hrun : (tir .errCreate).run 0x1000 0x77 = some ⟨.errCreate, 0x77, true⟩ := rfl
  apply (intact_iff hrun (by decide) (by decide)).mpr
  exact .inl id

/-- A ref mkey without a parent leaves the pointer at the deleted object, and a send queue without
a buffer leaves it at an object that is not complete. -/
theorem not_intact_refMkey_ppSq :
  (∃ made, (refMkey none 0x5000 0x100).run 0x1000 0 = some made ∧ made.status = .errCreate
    ∧ made.out = 0x1000 ∧ made.deleted = true ∧ ¬ made.Intact 0x1000 0)
  ∧ ∃ made, (ppSq .fresh ⟨none, 0, 0, 0, 4, 4, 0⟩
      { QueueEnv.generous with allocBuf := false } ⟨true, fun _ => some ⟨0x3000, 1⟩⟩).run 0x1000 0
        = some made
    ∧ made.status = .errNoMemory ∧ made.out = 0x1000 ∧ made.deleted = false
    ∧ ¬ made.Intact 0x1000 0
  := by
  constructor
  · refine ⟨_, rfl, rfl, rfl, rfl, ?_⟩
    rintro ⟨heq, -⟩
    cases heq
  · refine ⟨_, rfl, rfl, rfl, rfl, ?_⟩
    rintro ⟨heq, -⟩
    cases heq

end FactoryCall

end Dpcp
