import Dpcp.Flow.LegacySelection

/-!
# Flows on Windows

On Windows the constructor of `dcmd::flow` does not call the verbs library.  It fills the mailbox of
`devx_fs_rule_add`: criteria and match value, and the destinations from the array `dst_formats`.

The copy counts 8 bytes for a destination, while an element of the array has 64.  So the mailbox has
the destinations at the wrong places once there are more than two, and from two on it has bytes that
nothing has written.

The IP version is not sent.  A packet is admitted on Windows when it is admitted on Linux with some
IP version.
-/

namespace Dpcp

open Bits Dcmd Prm

/-! ### The description -/

/-- A flow description on Windows. -/
structure WindowsFlowDesc extends FlowDesc where
  numDstObj : Nat
  dstFormats : Memory

/-- The constructor of `action_fwd`, and its `apply`. -/
def ActionFwd.apply (heap : Memory) (dests : List ForwardableObj) (desc : WindowsFlowDesc) :
    WindowsFlowDesc :=
  { desc with
    numDstObj := dests.length
    dstFormats := Dpcp.dstFormats heap (dests.map fun d => some d.destFormat) }

/-- The description that `flow_rule::apply_settings` fills. -/
def FlowRule.windowsDesc (r : FlowRule) (env : FlowRuleEnv) : WindowsFlowDesc :=
  { r.desc env with numDstObj := r.mDstTir.length }

/-! ### The mailbox -/

/-- The parts of `devx_fs_rule_add_in`. -/
inductive FsRuleField where
  | prio
  | flowTag
  | matchCriteriaEnable
  | matchCriteria
  | matchValue
  | dest
  | extraDestsCount
  | modifyHeaderId
  | hasModifyHeaderId
deriving DecidableEq

/-- Where the parts of `devx_fs_rule_add_in` are. -/
structure FsRuleLayout where
  bytes : Nat
  prio : Field
  flowTag : Field
  matchCriteriaEnable : Field
  matchCriteria : Nat
  matchValue : Nat
  dest : Nat
  extraDestsCount : Field
  modifyHeaderId : Field
  hasModifyHeaderId : Field

namespace FsRuleLayout

/-- The first bit of a part. -/
def lo (l : FsRuleLayout) : FsRuleField → Nat
  | .prio => l.prio.offset
  | .flowTag => l.flowTag.offset
  | .matchCriteriaEnable => l.matchCriteriaEnable.offset
  | .matchCriteria => 8 * l.matchCriteria
  | .matchValue => 8 * l.matchValue
  | .dest => 8 * l.dest
  | .extraDestsCount => l.extraDestsCount.offset
  | .modifyHeaderId => l.modifyHeaderId.offset
  | .hasModifyHeaderId => l.hasModifyHeaderId.offset

/-- The number of bits of a part. -/
def size (l : FsRuleLayout) : FsRuleField → Nat
  | .prio => l.prio.size
  | .flowTag => l.flowTag.size
  | .matchCriteriaEnable => l.matchCriteriaEnable.size
  | .matchCriteria => 8 * FteMatchParam.bytes
  | .matchValue => 8 * FteMatchParam.bytes
  | .dest => 8 * DestFormatStruct.bytes
  | .extraDestsCount => l.extraDestsCount.size
  | .modifyHeaderId => l.modifyHeaderId.size
  | .hasModifyHeaderId => l.hasModifyHeaderId.size

end FsRuleLayout

/-- A layout of `devx_fs_rule_add_in`, which is defined with the driver.  The parts have no bit in
common and lie inside of the structure, and the criteria can be enabled. -/
structure FsRuleAddIn extends FsRuleLayout where
  apart : ∀ r r', r ≠ r' → toFsRuleLayout.lo r + toFsRuleLayout.size r ≤ toFsRuleLayout.lo r'
    ∨ toFsRuleLayout.lo r' + toFsRuleLayout.size r' ≤ toFsRuleLayout.lo r
  within : ∀ r, toFsRuleLayout.lo r + toFsRuleLayout.size r ≤ 8 * bytes
  enable_pos : 0 < matchCriteriaEnable.size

/-- A field that is a word of its own. -/
def wordField (k : Nat) : Field :=
  ⟨32 * k, 32, by omega⟩

/-- A layout with a word for each field. -/
def fsRuleAddIn : FsRuleAddIn where
  bytes := 1056
  prio := wordField 0
  flowTag := wordField 1
  matchCriteriaEnable := wordField 2
  extraDestsCount := wordField 3
  modifyHeaderId := wordField 4
  hasModifyHeaderId := wordField 5
  matchCriteria := 24
  matchValue := 536
  dest := 1048
  apart r r' := by cases r <;> cases r' <;> decide
  within r := by cases r <;> decide
  enable_pos := by decide

/-- What the driver answers: the id of a new modify header, and whether a rule is added. -/
structure WindowsDriver where
  allocModifyHeader : Option (BitVec 32)
  fsRuleAdd : Memory → BitVec 32 → Bool

namespace FsRuleAddIn

variable (l : FsRuleAddIn)

/-- The mailbox up to the first destination. -/
def setMatch (desc : WindowsFlowDesc) : Memory :=
  let m := devxSet zeros 0 l.prio (desc.priority.setWidth 32)
  let m := devxSet m 0 l.flowTag desc.flowId
  let m := devxSet m 0 l.matchCriteriaEnable
    (1 <<< mlx5CreateFlowGroupInMatchCriteriaEnableOuterHeaders)
  let m := copyBytes m l.matchCriteria (bytes desc.matchCriteria 0 FteMatchParam.bytes)
  let m := devxSet m (l.matchCriteria + FteMatchParam.outerHeaders) FteMatchSetLyr24.ipVersion 0
  let m := copyBytes m l.matchValue (bytes desc.matchValue 0 FteMatchParam.bytes)
  devxSet m (l.matchValue + FteMatchParam.outerHeaders) FteMatchSetLyr24.ipVersion 0

/-- The mailbox but for the modify header. -/
def setDests (desc : WindowsFlowDesc) : Memory :=
  let extraDestNum := desc.numDstObj - 1
  let m := copyBytes (l.setMatch desc) l.dest (bytes desc.dstFormats 0 DestFormatStruct.bytes)
  if extraDestNum ≠ 0 then
    let m := devxSet m 0 l.extraDestsCount (.ofNat 32 extraDestNum)
    copyBytes m l.bytes
      (bytes desc.dstFormats destFormatStructBits (DestFormatStruct.bytes * extraDestNum))
  else m

/-- The mailbox, unless there is a modify header to make and the driver does not make it. -/
def setModify (driver : WindowsDriver) (desc : WindowsFlowDesc) : Option Memory :=
  if desc.numOfActions ≠ 0 then
    driver.allocModifyHeader.map fun modifyObjId =>
      let m := devxSet (l.setDests desc) 0 l.modifyHeaderId modifyObjId
      devxSet m 0 l.hasModifyHeaderId 1
  else some (l.setDests desc)

/-- The constructor of `dcmd::flow` on Windows: the mailbox it sends and the length of the mailbox,
`none` when it throws.  There is no result either when the length has more than 32 bits: the
destinations are then copied behind the end of the buffer. -/
def newFlow (driver : WindowsDriver) (desc : WindowsFlowDesc) : Option (Memory × BitVec 32) :=
  if desc.numDstObj = 0 then
    none
  else
    let size := l.bytes + DestFormatStruct.bytes * (desc.numDstObj - 1)
    let inLen : BitVec 32 := .ofNat 32 size
    if inLen.toNat < size then
      none
    else
      match l.setModify driver desc with
      | none => none
      | some m => if driver.fsRuleAdd m inLen then some (m, inLen) else none

/-! ### The writes of the mailbox -/

/-- The parts of the mailbox with `extra` destinations behind it. -/
def regions (extra : Nat) : Regions (Option FsRuleField) where
  lo
    | some r => l.lo r
    | none => 8 * l.bytes
  hi
    | some r => l.lo r + l.size r
    | none => 8 * l.bytes + 64 * extra
  apart := by
    rintro (- | r) (- | r') hne
    · cases hne rfl
    · exact .inr (l.within r')
    · exact .inl (l.within r)
    · apply l.apart r r'
      rintro rfl
      apply hne rfl

/-- The writes that are always made, each with the part it goes to. -/
def fixedWrites (desc : WindowsFlowDesc) : List (Option FsRuleField × Write) :=
  [(some .prio, l.prio.write 0 (desc.priority.setWidth 32)),
    (some .flowTag, l.flowTag.write 0 desc.flowId),
    (some .matchCriteriaEnable, l.matchCriteriaEnable.write 0
      (1 <<< mlx5CreateFlowGroupInMatchCriteriaEnableOuterHeaders)),
    (some .matchCriteria,
      .ofBytes l.matchCriteria (bytes desc.matchCriteria 0 FteMatchParam.bytes)),
    (some .matchCriteria, FteMatchSetLyr24.ipVersion.write l.matchCriteria 0),
    (some .matchValue, .ofBytes l.matchValue (bytes desc.matchValue 0 FteMatchParam.bytes)),
    (some .matchValue, FteMatchSetLyr24.ipVersion.write l.matchValue 0),
    (some .dest, .ofBytes l.dest (bytes desc.dstFormats 0 DestFormatStruct.bytes))]

/-- The writes for more than one destination. -/
def extraWrites (desc : WindowsFlowDesc) : List (Option FsRuleField × Write) :=
  let extraDestNum := desc.numDstObj - 1
  if extraDestNum ≠ 0 then
    [(some .extraDestsCount, l.extraDestsCount.write 0 (.ofNat 32 extraDestNum)),
      (none, .ofBytes l.bytes
        (bytes desc.dstFormats destFormatStructBits (DestFormatStruct.bytes * extraDestNum)))]
  else []

/-- The writes for a modify header. -/
def modifyWrites : Option (BitVec 32) → List (Option FsRuleField × Write)
  | some id => [(some .modifyHeaderId, l.modifyHeaderId.write 0 id),
      (some .hasModifyHeaderId, l.hasModifyHeaderId.write 0 1)]
  | none => []

/-- The writes of the constructor. -/
def writes (desc : WindowsFlowDesc) (modifyObjId : Option (BitVec 32)) :
    List (Option FsRuleField × Write) :=
  l.fixedWrites desc ++ l.extraWrites desc ++ l.modifyWrites modifyObjId

variable {l}

/-- Each write lies in its part. -/
theorem holds_writes (desc : WindowsFlowDesc) (modifyObjId : Option (BitVec 32)) :
  (l.regions (desc.numDstObj - 1)).Holds (l.writes desc modifyObjId)
  := by
  intro w hw
  simp only [writes, List.mem_append] at hw
  rcases hw with (hw | hw) | hw
  · simp only [fixedWrites, List.mem_cons, List.not_mem_nil, or_false] at hw
    rcases hw with rfl | rfl | rfl | rfl | rfl | rfl | rfl | rfl <;>
      simp [regions, FsRuleLayout.lo, FsRuleLayout.size, Write.Within, Field.write, Write.ofBytes,
        FteMatchParam.bytes, FteMatchSetLyr24.ipVersion, Nat.add_assoc]
  · rw [extraWrites] at hw
    split at hw
    · rcases List.mem_pair.mp hw with rfl | rfl
      · simp [regions, FsRuleLayout.lo, FsRuleLayout.size, Write.Within, Field.write]
      · simp [regions, Write.Within, Write.ofBytes, DestFormatStruct.bytes]
        omega
    · cases hw
  · cases modifyObjId with
    | none => cases hw
    | some id =>
        rcases List.mem_pair.mp hw with rfl | rfl <;>
          simp [regions, FsRuleLayout.lo, FsRuleLayout.size, Write.Within, Field.write]

/-- Parts that are always written are written once and for all. -/
theorem writesTo_fixed (desc : WindowsFlowDesc) (modifyObjId : Option (BitVec 32)) {r : FsRuleField}
    (hcount : r ≠ .extraDestsCount) (hid : r ≠ .modifyHeaderId) (hhas : r ≠ .hasModifyHeaderId) :
  Regions.writesTo (some r) (l.writes desc modifyObjId)
    = Regions.writesTo (some r) (l.fixedWrites desc)
  := by
  have hextra : (l.extraWrites desc).filter (fun w => w.1 = some r) = [] := by
    rw [extraWrites]
    split <;> simp [hcount.symm]
  have hmodify : (l.modifyWrites modifyObjId).filter (fun w => w.1 = some r) = [] := by
    cases modifyObjId <;> simp [modifyWrites, hid.symm, hhas.symm]
  rw [Regions.writesTo, Regions.writesTo, writes, List.filter_append, List.filter_append, hextra,
    hmodify, List.append_nil, List.append_nil]

/-- The destinations behind the mailbox are copied at once. -/
theorem writesTo_extra {desc : WindowsFlowDesc} (modifyObjId : Option (BitVec 32))
    (h : desc.numDstObj - 1 ≠ 0) :
  Regions.writesTo none (l.writes desc modifyObjId)
    = [.ofBytes l.bytes (bytes desc.dstFormats destFormatStructBits
      (DestFormatStruct.bytes * (desc.numDstObj - 1)))]
  := by
  rw [writes, extraWrites, if_pos h]
  cases modifyObjId <;> rfl

/-- The mailbox is made by the writes. -/
theorem bit_setModify {driver : WindowsDriver} {desc : WindowsFlowDesc} {m : Memory}
    (h : l.setModify driver desc = some m) :
  ∃ modifyObjId, bit m = puts (bit zeros) ((l.writes desc modifyObjId).map Prod.snd)
  := by
  have hdests : bit (l.setDests desc) = puts (bit zeros) ((l.writes desc none).map Prod.snd) := by
    rw [setDests, writes, extraWrites, modifyWrites, fixedWrites]
    split <;> simp only [setMatch, FteMatchParam.outerHeaders, Nat.zero_div, Nat.add_zero,
      bit_devxSet, bit_copyBytes, List.append_nil, List.cons_append, List.nil_append, List.map,
      puts_cons, puts_nil]
  rw [setModify] at h
  split at h
  · obtain ⟨id, -, rfl⟩ := Option.map_eq_some_iff.mp h
    have hwrites : l.writes desc (some id) = l.writes desc none
        ++ [(some .modifyHeaderId, l.modifyHeaderId.write 0 id),
          (some .hasModifyHeaderId, l.hasModifyHeaderId.write 0 1)] := by
      simp only [writes, modifyWrites, List.append_nil]
    refine ⟨some id, ?_⟩
    rw [bit_devxSet, bit_devxSet, hdests, hwrites, List.map_append, puts_append]
    rfl
  · cases h
    exact ⟨none, hdests⟩

/-- A flow that was made has destinations and sent the mailbox. -/
theorem newFlow_eq_some {driver : WindowsDriver} {desc : WindowsFlowDesc} {m : Memory}
    {len : BitVec 32} (h : l.newFlow driver desc = some (m, len)) :
  desc.numDstObj ≠ 0 ∧ l.setModify driver desc = some m
    ∧ len.toNat = l.bytes + DestFormatStruct.bytes * (desc.numDstObj - 1)
  := by
  simp only [newFlow, Option.ite_none_left_eq_some] at h
  obtain ⟨hnum, hfits, h⟩ := h
  split at h
  · cases h
  · rename_i m' hfilled
    split at h
    · cases h
      refine ⟨hnum, hfilled, Nat.le_antisymm ?_ (Nat.le_of_not_lt hfits)⟩
      rw [BitVec.toNat_ofNat]
      apply Nat.mod_le
    · cases h

end FsRuleAddIn

/-- A field of bytes that were copied and then set. -/
theorem bit_devxSet_copyBytes (m : Memory) (a : Nat) (src : Memory) (f : Field) (v : BitVec 32)
    {n j : Nat} (hj : j < 8 * n) :
  bit (devxSet (copyBytes m a (bytes src 0 n)) a f v) (8 * a + j) = bit (devxSet src 0 f v) j
  := by
  have hhas : f.Has a (8 * a + j) ↔ f.Has 0 j := by
    simp only [Field.Has]
    omega
  by_cases h : f.Has 0 j
  · rw [bit_devxSet_of_has _ _ (hhas.mpr h), bit_devxSet_of_has _ _ h]
    congr 2
    omega
  · rw [bit_devxSet_of_not_has _ _ (fun h' => h (hhas.mp h')), bit_devxSet_of_not_has _ _ h,
      bit_copyBytes_bytes _ _ _ _ _ hj, Nat.mul_zero, Nat.zero_add]

namespace FsRuleAddIn

section Mailbox

variable {l : FsRuleAddIn} {desc : WindowsFlowDesc} {modifyObjId : Option (BitVec 32)} {m : Memory}
variable (hm : bit m = puts (bit zeros) ((l.writes desc modifyObjId).map Prod.snd))

include hm

/-- A bit of a part of the mailbox is made by the writes `ws`, if these are the ones to the part. -/
theorem bit_part {r : Option FsRuleField} {ws : List Write}
    (hws : Regions.writesTo r (l.writes desc modifyObjId) = ws) {i : Nat}
    (hlo : (l.regions (desc.numDstObj - 1)).lo r ≤ i)
    (hhi : i < (l.regions (desc.numDstObj - 1)).hi r) :
  bit m i = puts (bit zeros) ws i
  := by
  rw [hm, ← hws]
  apply Regions.puts_eq (holds_writes desc modifyObjId) hlo hhi

/-- The criteria in the mailbox are those of the description without the IP version. -/
theorem bit_matchCriteria {j : Nat} (hj : j < 8 * FteMatchParam.bytes) :
  bit m (8 * l.matchCriteria + j)
    = bit (devxSet desc.matchCriteria 0 FteMatchSetLyr24.ipVersion 0) j
  := by
  have hws : Regions.writesTo (some .matchCriteria) (l.writes desc modifyObjId)
      = [.ofBytes l.matchCriteria (bytes desc.matchCriteria 0 FteMatchParam.bytes),
        FteMatchSetLyr24.ipVersion.write l.matchCriteria 0] := by
    rw [writesTo_fixed] <;> simp [Regions.writesTo, fixedWrites]
  have hpart : bit m (8 * l.matchCriteria + j) = puts (bit zeros) _ _ :=
    bit_part hm hws (Nat.le_add_right _ _) (Nat.add_lt_add_left hj _)
  rw [hpart, ← bit_devxSet_copyBytes zeros l.matchCriteria _ _ _ hj, bit_devxSet, bit_copyBytes]
  rfl

/-- The match value in the mailbox is that of the description without the IP version. -/
theorem bit_matchValue {j : Nat} (hj : j < 8 * FteMatchParam.bytes) :
  bit m (8 * l.matchValue + j) = bit (devxSet desc.matchValue 0 FteMatchSetLyr24.ipVersion 0) j
  := by
  have hws : Regions.writesTo (some .matchValue) (l.writes desc modifyObjId)
      = [.ofBytes l.matchValue (bytes desc.matchValue 0 FteMatchParam.bytes),
        FteMatchSetLyr24.ipVersion.write l.matchValue 0] := by
    rw [writesTo_fixed] <;> simp [Regions.writesTo, fixedWrites]
  have hpart : bit m (8 * l.matchValue + j) = puts (bit zeros) _ _ :=
    bit_part hm hws (Nat.le_add_right _ _) (Nat.add_lt_add_left hj _)
  rw [hpart, ← bit_devxSet_copyBytes zeros l.matchValue _ _ _ hj, bit_devxSet, bit_copyBytes]
  rfl

/-- The mailbox enables the outer headers. -/
theorem matchCriteriaEnable_eq :
  (devxGet m 0 l.matchCriteriaEnable).setWidth 8 = fgMatchOuterHdr
  := by
  have hws : Regions.writesTo (some .matchCriteriaEnable) (l.writes desc modifyObjId)
      = [l.matchCriteriaEnable.write 0 1] := by
    rw [writesTo_fixed]
    · rfl
    · decide
    · decide
    · decide
  have hget : (devxGet m 0 l.matchCriteriaEnable).toNat
      = (1 : BitVec 32).toNat % 2 ^ l.matchCriteriaEnable.size := by
    apply devxGet_of_bits
    intro i hi
    have hbounds := hi
    simp only [Write.Covers, Field.write, Nat.mul_zero, Nat.zero_add] at hbounds
    have hpart : bit m i = puts (bit zeros) [l.matchCriteriaEnable.write 0 1] i :=
      bit_part hm hws hbounds.1 hbounds.2
    rw [hpart]
    apply Write.put_of_covers _ hi
  have hone : devxGet m 0 l.matchCriteriaEnable = 1 := by
    apply BitVec.eq_of_toNat_eq
    rw [hget]
    apply Nat.mod_eq_of_lt
    apply Nat.one_lt_two_pow
    have hpos := l.enable_pos
    omega
  rw [hone]
  rfl

/-- The first destination of the mailbox. -/
theorem bit_dest {t : Nat} (ht : t < 64) :
  bit m (8 * l.dest + t) = bit desc.dstFormats t
  := by
  have hws : Regions.writesTo (some .dest) (l.writes desc modifyObjId)
      = [.ofBytes l.dest (bytes desc.dstFormats 0 DestFormatStruct.bytes)] := by
    rw [writesTo_fixed] <;> simp [Regions.writesTo, fixedWrites]
  have hpart : bit m (8 * l.dest + t) = puts (bit zeros) _ _ :=
    bit_part hm hws (Nat.le_add_right _ _) (Nat.add_lt_add_left ht _)
  rw [hpart, puts_cons, puts_nil, ← bit_copyBytes, bit_copyBytes_bytes _ _ _ _ _ ht, Nat.mul_zero,
    Nat.zero_add]

/-- The destinations behind the mailbox. -/
theorem bit_extraDests {t : Nat} (ht : t < 64 * (desc.numDstObj - 1)) :
  bit m (8 * l.bytes + t) = bit desc.dstFormats (8 * destFormatStructBits + t)
  := by
  have hws : Regions.writesTo none (l.writes desc modifyObjId) = _ :=
    writesTo_extra modifyObjId (by omega)
  have ht' : t < 8 * (DestFormatStruct.bytes * (desc.numDstObj - 1)) := by
    rw [DestFormatStruct.bytes]
    omega
  have hpart : bit m (8 * l.bytes + t) = puts (bit zeros) _ _ :=
    bit_part hm hws (Nat.le_add_right _ _) (Nat.add_lt_add_left ht _)
  rw [hpart, puts_cons, puts_nil, ← bit_copyBytes, bit_copyBytes_bytes _ _ _ _ _ ht']

end Mailbox

end FsRuleAddIn

/-! ### The packets a flow admits -/

/-- Buffers without the IP version match a packet just if the buffers match it with some IP
version. -/
theorem maskedEq_ipVersion_iff (criteria value headers : Memory) :
  MaskedEq (devxSet criteria 0 FteMatchSetLyr24.ipVersion 0) 0
      (devxSet value 0 FteMatchSetLyr24.ipVersion 0) 0 headers 0 0x200
    ↔ ∃ version, MaskedEq criteria 0 value 0
      (devxSet headers 0 FteMatchSetLyr24.ipVersion version) 0 0x200
  := by
  constructor
  · intro heq
    refine ⟨devxGet value 0 FteMatchSetLyr24.ipVersion, ?_⟩
    intro t ht hmask
    rw [Nat.zero_add] at hmask ⊢
    by_cases hhas : FteMatchSetLyr24.ipVersion.Has 0 t
    · -- the version that the value has
      rw [bit_devxSet_of_has _ _ hhas, bit_eq_getLsbD_devxGet value hhas]
    · have hbit := heq t ht
      rw [Nat.zero_add, bit_devxSet_of_not_has _ _ hhas, bit_devxSet_of_not_has _ _ hhas] at hbit
      rw [bit_devxSet_of_not_has _ _ hhas]
      apply hbit hmask
  · rintro ⟨version, heq⟩ t ht hmask
    rw [Nat.zero_add] at hmask ⊢
    by_cases hhas : FteMatchSetLyr24.ipVersion.Has 0 t
    · rw [bit_devxSet_of_has _ _ hhas] at hmask
      simp at hmask
    · rw [bit_devxSet_of_not_has _ _ hhas] at hmask ⊢
      have hbit := heq t ht
      rw [Nat.zero_add, bit_devxSet_of_not_has _ _ hhas] at hbit
      apply hbit hmask

/-- Let a flow be made from the same description on Linux and on Windows.  The flow on Windows
admits a packet exactly if the flow on Linux admits the packet with some IP version. -/
theorem windows_admits_iff {l : FsRuleAddIn} {driver : WindowsDriver} {desc : WindowsFlowDesc}
    {m : Memory} {len : BitVec 32} (h : l.newFlow driver desc = some (m, len)) {verbs : Verbs}
    {flow : Flow} (hflow : Flow.new verbs desc.toFlowDesc = some flow) (headers : Memory) :
  Admits ((devxGet m 0 l.matchCriteriaEnable).setWidth 8) m l.matchCriteria m l.matchValue headers
    ↔ ∃ version, Admits flow.mMatcher.matchCriteriaEnable flow.mMatcher.matchMask 0
      flow.matchValue 0 (devxSet headers 0 FteMatchSetLyr24.ipVersion version)
  := by
  obtain ⟨-, hmailbox, -⟩ := FsRuleAddIn.newFlow_eq_some h
  obtain ⟨modifyObjId, hm⟩ := FsRuleAddIn.bit_setModify hmailbox
  have henable := Flow.matchCriteriaEnable_of_new hflow
  simp only [Flow.new, Option.ite_none_left_eq_some, Option.some.injEq] at hflow
  obtain ⟨-, -, -, rfl⟩ := hflow
  have hwin : Admits ((devxGet m 0 l.matchCriteriaEnable).setWidth 8) m l.matchCriteria m
      l.matchValue headers
        ↔ MaskedEq (devxSet desc.matchCriteria 0 FteMatchSetLyr24.ipVersion 0) 0
          (devxSet desc.matchValue 0 FteMatchSetLyr24.ipVersion 0) 0 headers 0 0x200 := by
    rw [FsRuleAddIn.matchCriteriaEnable_eq hm]
    simp only [Admits, enables_outerHeaders, forall_eq, MatchBlock.first,
      FteMatchParam.outerHeaders, MaskedEq, Nat.zero_div, Nat.mul_zero, Nat.add_zero, Nat.zero_add]
    apply forall₂_congr
    intro t ht
    rw [FsRuleAddIn.bit_matchCriteria hm (by rw [FteMatchParam.bytes]; omega),
      FsRuleAddIn.bit_matchValue hm (by rw [FteMatchParam.bytes]; omega)]
  rw [hwin, maskedEq_ipVersion_iff, henable]
  simp only [Admits, enables_outerHeaders, forall_eq]
  rfl

/-- A driver that adds every rule. -/
def acceptingDriver : WindowsDriver where
  allocModifyHeader := some 7
  fsRuleAdd _ _ := true

/-- The description of a legacy rule for TCP to one address. -/
def tcpDesc : WindowsFlowDesc :=
  (FlowRule.matching FlowRule.tcpMask FlowRule.tcpValue).windowsDesc AppliedRule.accepting

theorem windows_admits_tcp :
  ∃ m len flow, fsRuleAddIn.newFlow acceptingDriver tcpDesc = some (m, len)
    ∧ Flow.new AppliedRule.accepting.verbs tcpDesc.toFlowDesc = some flow
    ∧ ∀ headers, Admits ((devxGet m 0 fsRuleAddIn.matchCriteriaEnable).setWidth 8) m
        fsRuleAddIn.matchCriteria m fsRuleAddIn.matchValue headers
      ↔ ∃ version, Admits flow.mMatcher.matchCriteriaEnable flow.mMatcher.matchMask 0
        flow.matchValue 0 (devxSet headers 0 FteMatchSetLyr24.ipVersion version)
  := by
  obtain ⟨m, len, hwin⟩ : ∃ m len, fsRuleAddIn.newFlow acceptingDriver tcpDesc = some (m, len) :=
    ⟨_, _, rfl⟩
  obtain ⟨flow, hflow⟩ : ∃ flow, Flow.new AppliedRule.accepting.verbs tcpDesc.toFlowDesc
      = some flow := ⟨_, rfl⟩
  exact ⟨m, len, flow, hwin, hflow, fun headers => windows_admits_iff hwin hflow headers⟩

/-! ### The destinations of a flow -/

namespace FsRuleAddIn

/-- Where a destination is in the mailbox. -/
def destAt (l : FsRuleAddIn) (i : Nat) : Nat :=
  if i = 0 then l.dest else l.bytes + DestFormatStruct.bytes * (i - 1)

/-- The mailbox has the destinations, in their order. -/
def Lists (l : FsRuleAddIn) (m : Memory) (formats : List DestFormat) : Prop :=
  ∀ i d, formats[i]? = some d →
    devxGet m (l.destAt i) DestFormatStruct.destinationType = d.type.value
      ∧ devxGet m (l.destAt i) DestFormatStruct.destinationId = d.id &&& lowMask 24

/-- Where a destination of the mailbox was in the array. -/
def sourceAt (i : Nat) : Nat :=
  if i = 0 then 0 else destFormatStructBits + DestFormatStruct.bytes * (i - 1)

/-- A destination of the mailbox, and the 8 bytes of the array it was copied from. -/
theorem devxGet_destAt {l : FsRuleAddIn} {desc : WindowsFlowDesc} {modifyObjId : Option (BitVec 32)}
    {m : Memory} (hm : bit m = puts (bit zeros) ((l.writes desc modifyObjId).map Prod.snd))
    {i : Nat} (hi : i < desc.numDstObj) {f : Field} (hf : f.offset + f.size ≤ 64) :
  devxGet m (l.destAt i) f = devxGet desc.dstFormats (sourceAt i) f
  := by
  apply devxGet_eq_of_bits
  intro t ht
  cases i with
  | zero =>
      have hbit := bit_dest hm (t := f.offset + t) (by omega)
      simpa only [destAt, sourceAt, if_true, Nat.mul_zero, Nat.zero_add, Nat.add_assoc] using hbit
  | succ i =>
      have hbit := bit_extraDests hm (t := 64 * i + f.offset + t) (by omega)
      simp only [destAt, sourceAt, Nat.succ_ne_zero, if_false, Nat.add_sub_cancel,
        DestFormatStruct.bytes, Nat.mul_add, ← Nat.mul_assoc, ← Nat.add_assoc] at hbit ⊢
      apply hbit

end FsRuleAddIn

/-! ### Descriptions with destinations -/

/-- A description that has the destinations `formats`. -/
def WindowsFlowDesc.withDests (desc : WindowsFlowDesc) (heap : Memory) (formats : List DestFormat) :
    WindowsFlowDesc :=
  { desc with
    numDstObj := formats.length
    dstFormats := Dpcp.dstFormats heap (formats.map some) }

/-- What is filled with the destinations `formats`, by what the new array held: the description of
an action that forwards, or that of a legacy rule whose TIRs have handles. -/
inductive Forwards : (Memory → WindowsFlowDesc) → List DestFormat → Prop
  | action (dests : List ForwardableObj) (desc : WindowsFlowDesc) :
      Forwards (fun heap => ActionFwd.apply heap dests desc)
        (dests.map ForwardableObj.destFormat)
  | rule (r : FlowRule) (env : FlowRuleEnv)
      (h : ∀ tr ∈ r.mDstTir, (env.tir tr).mObjHandle = true) :
      Forwards (fun heap => r.windowsDesc { env with formatHeap := heap })
        (r.mDstTir.map fun tr => ⟨.tir, ((env.tir tr).getId 0).2⟩)

theorem Forwards.eq_withDests {desc : Memory → WindowsFlowDesc} {formats : List DestFormat}
    (h : Forwards desc formats) (heap : Memory) :
  desc heap = (desc zeros).withDests heap formats
  := by
  cases h with
  | action dests desc =>
      simp only [ActionFwd.apply, WindowsFlowDesc.withDests, List.length_map, List.map_map]
      rfl
  | rule r env hhandles =>
      have hformats : r.mDstTir.map (FlowRule.dstFormat { env with formatHeap := heap })
          = (r.mDstTir.map fun tr => ⟨.tir, ((env.tir tr).getId 0).2⟩).map some := by
        rw [List.map_map]
        apply List.map_congr_left
        intro tr htr
        rw [FlowRule.dstFormat, if_pos (hhandles tr htr)]
        rfl
      simp only [FlowRule.windowsDesc, FlowRule.desc, WindowsFlowDesc.withDests, List.length_map,
        hformats]
      rfl

section Dests

variable {l : FsRuleAddIn} {driver : WindowsDriver} {formats : List DestFormat}

/-- Of the bits behind the mailbox, one that no element of the array has: in the second word of the
second destination, or of the first one that was not cleared. -/
def heldAt (n : Nat) : Nat :=
  if n ≤ 8 then 32 else 64 * n + 32 - 512

theorem heldAt_lt {n : Nat} (h : 1 < n) :
  heldAt n < 64 * (n - 1)
  := by
  rw [heldAt]
  split <;> omega

section Filled

variable {desc : WindowsFlowDesc}

/-- The mailbox of one destination. -/
theorem setModify_of_length (hone : formats.length = 1) (heap heap' : Memory) :
  l.setModify driver (desc.withDests heap formats)
    = l.setModify driver (desc.withDests heap' formats)
  := by
  have hbytes : bytes (desc.withDests heap formats).dstFormats 0 DestFormatStruct.bytes
      = bytes (desc.withDests heap' formats).dstFormats 0 DestFormatStruct.bytes := by
    apply bytes_congr
    intro i hi
    apply byte_eq_of_bit_eq
    intro t ht
    rw [DestFormatStruct.bytes] at hi
    apply bit_dstFormats_cleared
    rw [List.length_map]
    omega
  have hsets : l.setDests (desc.withDests heap formats)
      = l.setDests (desc.withDests heap' formats) := by
    have hextra (heap : Memory) : ¬ (desc.withDests heap formats).numDstObj - 1 ≠ 0 := by
      simp [WindowsFlowDesc.withDests, hone]
    simp only [FsRuleAddIn.setDests, if_neg (hextra heap), if_neg (hextra heap'), hbytes]
    rfl
  rw [FsRuleAddIn.setModify, FsRuleAddIn.setModify, hsets]
  rfl

variable {heap m : Memory} {modifyObjId : Option (BitVec 32)}
variable (hm : bit m = puts (bit zeros)
  ((l.writes (desc.withDests heap formats) modifyObjId).map Prod.snd))

include hm

/-- Two destinations are at their places. -/
theorem lists_of_length_le (hle : formats.length ≤ 2) :
  l.Lists m formats
  := by
  intro i d hd
  have hi : i < formats.length := (List.getElem?_eq_some_iff.mp hd).1
  have hsource : FsRuleAddIn.sourceAt i = destFormatStructBits * i := by
    obtain rfl | rfl : i = 0 ∨ i = 1 := by omega
    · rfl
    · rfl
  have hformat : (formats.map some)[i]? = some (some d) := by
    rw [List.getElem?_map, hd, Option.map_some]
  obtain ⟨htype, hid⟩ := devxGet_dstFormats heap hformat
  rw [FsRuleAddIn.devxGet_destAt hm hi (by decide), FsRuleAddIn.devxGet_destAt hm hi (by decide),
    hsource]
  exact ⟨htype, hid⟩

/-- The third destination is not read from an element of its own: in memory that was zero it has no
type. -/
theorem not_lists_of_length_lt (hzero : heap = zeros) (hlt : 2 < formats.length) :
  ¬ l.Lists m formats
  := by
  intro hlists
  obtain ⟨htype, -⟩ := hlists 2 _ (List.getElem?_eq_getElem hlt)
  have hnone : (devxGet (dstFormats heap (formats.map some)) (FsRuleAddIn.sourceAt 2)
      DestFormatStruct.destinationType).toNat = 0 := by
    apply devxGet_of_bits_false
    intro i hi
    have hi : 576 ≤ i ∧ i < 576 + 8 := hi
    rw [bit_dstFormats_gap heap (by omega), hzero, bit_zeros, Bool.false_and]
  rw [FsRuleAddIn.devxGet_destAt hm hlt (by decide)] at htype
  have hvalue := (congrArg BitVec.toNat htype).symm.trans hnone
  cases hkind : formats[2].type <;> rw [hkind] at hvalue <;> cases hvalue

/-- With more than one destination, a bit behind the mailbox is what the memory held. -/
theorem bit_held (hlt : 1 < formats.length) :
  bit m (8 * l.bytes + heldAt formats.length) = bit heap (512 + heldAt formats.length)
  := by
  have hbit : bit m (8 * l.bytes + heldAt formats.length)
      = bit (dstFormats heap (formats.map some)) (512 + heldAt formats.length) :=
    FsRuleAddIn.bit_extraDests hm (heldAt_lt hlt)
  have hgap : 32 ≤ (512 + heldAt formats.length) % 512 := by
    rw [heldAt]
    split <;> omega
  have hbehind : 64 * formats.length ≤ 512 + heldAt formats.length := by
    rw [heldAt]
    split <;> omega
  rw [hbit, bit_dstFormats_gap heap hgap, List.length_map, decide_eq_true hbehind, Bool.and_true]

end Filled

/-- Let a flow with the destinations `formats` be made on Windows, whatever the heap holds.  The
mailbox has the destinations for every heap exactly if there are at most two, and it is the same for
every heap exactly if there is only one. -/
theorem windows_dests_iff {desc : Memory → WindowsFlowDesc} (hdesc : Forwards desc formats)
    {m : Memory → Memory} {len : BitVec 32}
    (h : ∀ heap, l.newFlow driver (desc heap) = some (m heap, len)) :
  ((∀ heap, l.Lists (m heap) formats) ↔ formats.length ≤ 2)
    ∧ ((∀ heap heap', ∀ a < len.toNat, m heap a = m heap' a) ↔ formats.length ≤ 1)
  := by
  have hsent (heap : Memory) : l.newFlow driver ((desc zeros).withDests heap formats)
      = some (m heap, len) := by
    rw [← hdesc.eq_withDests heap]
    apply h
  have hbits (heap : Memory) : ∃ modifyObjId, bit (m heap) = puts (bit zeros)
      ((l.writes ((desc zeros).withDests heap formats) modifyObjId).map Prod.snd) :=
    FsRuleAddIn.bit_setModify (FsRuleAddIn.newFlow_eq_some (hsent heap)).2.1
  have hnum : formats.length ≠ 0 := (FsRuleAddIn.newFlow_eq_some (hsent zeros)).1
  have hlen : len.toNat = l.bytes + DestFormatStruct.bytes * (formats.length - 1) :=
    (FsRuleAddIn.newFlow_eq_some (hsent zeros)).2.2
  constructor
  · constructor
    · intro hlists
      by_contra hmany
      obtain ⟨_, hm⟩ := hbits zeros
      apply not_lists_of_length_lt hm rfl (by omega) (hlists zeros)
    · intro htwo heap
      obtain ⟨_, hm⟩ := hbits heap
      apply lists_of_length_le hm htwo
  · constructor
    · intro hsame
      by_contra hmany
      have hheld := heldAt_lt (n := formats.length) (by omega)
      have hbyte := hsame zeros (fun _ => .allOnes 8)
        ((8 * l.bytes + heldAt formats.length) / 8) (by rw [hlen, DestFormatStruct.bytes]; omega)
      obtain ⟨_, hm⟩ := hbits zeros
      obtain ⟨_, hm'⟩ := hbits fun _ => .allOnes 8
      have hclear := bit_held hm (by omega)
      have hset := bit_held hm' (by omega)
      rw [bit, hbyte, ← bit, hset, bit_zeros, bit, BitVec.getLsbD_allOnes, decide_eq_false_iff_not]
        at hclear
      omega
    · intro hone heap heap' a _
      have hsame : l.setModify driver ((desc zeros).withDests heap formats)
          = l.setModify driver ((desc zeros).withDests heap' formats) :=
        setModify_of_length (by omega) heap heap'
      rw [(FsRuleAddIn.newFlow_eq_some (hsent heap)).2.1,
        (FsRuleAddIn.newFlow_eq_some (hsent heap')).2.1] at hsame
      rw [Option.some.inj hsame]

end Dests

/-- The description of an action with three TIRs. -/
def threeTirs (heap : Memory) : WindowsFlowDesc :=
  ActionFwd.apply heap (List.replicate 3 FlowRuleExPrm.tirFive) ⟨FlowDesc.new, 0, zeros⟩

/-- The flow of an action with three TIRs does not always go to these. -/
theorem windows_dests_three :
  ∃ (m : Memory → Memory) (len : BitVec 32),
    (∀ heap, fsRuleAddIn.newFlow acceptingDriver (threeTirs heap) = some (m heap, len))
      ∧ ¬ ∀ heap, fsRuleAddIn.Lists (m heap) (List.replicate 3 FlowRuleExPrm.tirFive.destFormat)
  := by
  have h (heap : Memory) : fsRuleAddIn.newFlow acceptingDriver (threeTirs heap)
      = some (fsRuleAddIn.setDests (threeTirs heap), 1072) := by
    have hnum : (threeTirs heap).numDstObj = 3 := rfl
    rw [FsRuleAddIn.newFlow, hnum]
    rfl
  refine ⟨_, _, h, ?_⟩
  intro hlists
  have hle := (windows_dests_iff (.action _ _) h).1.mp hlists
  revert hle
  decide

end Dpcp
