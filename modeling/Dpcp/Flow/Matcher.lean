import Dpcp.Api
import Dpcp.Dcmd.Prm

/-!
# The flow matcher

A `flow_matcher` holds the match criteria of a flow group and writes match parameters to a
`fte_match_param` buffer: the criteria themselves for the group, the match value of each
rule.  A field is written when its block is enabled and its criteria entry is not zero; of
the parser samples all are written.

Every function writes fields with `DEVX_SET`, and the MAC addresses by copying bytes.
`writes` is the list of these writes, each with the condition under which it is made.  The
conditions depend on the criteria only.
-/

namespace Dpcp

open Bits Dcmd Prm

/-- `struct flow_matcher_attr`. -/
structure FlowMatcherAttr where
  matchCriteria : MatchParamsEx
  matchCriteriaEnabled : BitVec 8

/-- `class flow_matcher`. -/
structure FlowMatcher where
  mAttr : FlowMatcherAttr

/-- `copy_ether_mac`: copies the first 6 bytes. -/
def copyEtherMac (m : Memory) (dst : Nat) (src : Vector (BitVec 8) 8) : Memory :=
  copyBytes m dst (src.toList.take 6)

def zeroMac : Vector (BitVec 8) 8 := .replicate 8 0

namespace FlowMatcher

/-- The test of a bit of `match_criteria_enabled`. -/
def enables (a : FlowMatcher) (block : BitVec 8) : Bool :=
  a.mAttr.matchCriteriaEnabled &&& block != 0

def setOuterHeaderLyr2Fields (a : FlowMatcher) (m : Memory) (outer : Nat)
    (matchValue : MatchParamsEx) : Result Memory :=
  let criteria := a.mAttr.matchCriteria.matchLyr2
  let value := matchValue.matchLyr2
  let m := if criteria.dstMac != zeroMac then
      copyEtherMac m (outer + FteMatchSetLyr24.dmac4716) value.dstMac
    else m
  let m := if criteria.srcMac != zeroMac then
      copyEtherMac m (outer + FteMatchSetLyr24.smac4716) value.srcMac
    else m
  let m := if criteria.ethertype != 0 then
      devxSet m outer FteMatchSetLyr24.ethertype (value.ethertype.setWidth 32)
    else m
  let m := if criteria.firstVlanId != 0 then
      let m := devxSet m outer FteMatchSetLyr24.firstVid (value.firstVlanId.setWidth 32)
      devxSet m outer FteMatchSetLyr24.cvlanTag 0x1
    else m
  (.ok, m)

def setOuterHeaderLyr3Fields (a : FlowMatcher) (m : Memory) (outer : Nat)
    (matchValue : MatchParamsEx) : Result Memory :=
  let criteria := a.mAttr.matchCriteria.matchLyr3
  let value := matchValue.matchLyr3
  let m := if criteria.dstIp != 0 then
      devxSet m outer FteMatchSetLyr24.dstIpv4 value.dstIp
    else m
  let m := if criteria.srcIp != 0 then
      devxSet m outer FteMatchSetLyr24.srcIpv4 value.srcIp
    else m
  let m := if criteria.ipProtocol != 0 then
      devxSet m outer FteMatchSetLyr24.ipProtocol (value.ipProtocol.setWidth 32)
    else m
  let m := if criteria.ipVersion != 0 then
      devxSet m outer FteMatchSetLyr24.ipVersion (value.ipVersion.setWidth 32)
    else m
  (.ok, m)

def setOuterHeaderLyr4Fields (a : FlowMatcher) (m : Memory) (outer : Nat)
    (matchValue : MatchParamsEx) : Result Memory :=
  let criteria := a.mAttr.matchCriteria.matchLyr4
  let value := matchValue.matchLyr4
  match criteria.type with
  | .none => (.ok, m)
  | .udp =>
      let m := if criteria.dstPort != 0 then
          devxSet m outer FteMatchSetLyr24.udpDport (value.dstPort.setWidth 32)
        else m
      let m := if criteria.srcPort != 0 then
          devxSet m outer FteMatchSetLyr24.udpSport (value.srcPort.setWidth 32)
        else m
      (.ok, m)
  | .tcp =>
      let m := if criteria.dstPort != 0 then
          devxSet m outer FteMatchSetLyr24.tcpDport (value.dstPort.setWidth 32)
        else m
      let m := if criteria.srcPort != 0 then
          devxSet m outer FteMatchSetLyr24.tcpSport (value.srcPort.setWidth 32)
        else m
      (.ok, m)
  | .other _ => (.errNoSupport, m)

def setOuterHeaderFields (a : FlowMatcher) (m : Memory) (matchParams : Nat)
    (matchValue : MatchParamsEx) : Result Memory :=
  let outer := matchParams + FteMatchParam.outerHeaders
  if !a.enables fgMatchOuterHdr then
    (.ok, m)
  else
    (a.setOuterHeaderLyr2Fields m outer matchValue).andThen fun m =>
    (a.setOuterHeaderLyr3Fields m outer matchValue).andThen fun m =>
    a.setOuterHeaderLyr4Fields m outer matchValue

/-- The cases `n`, `n - 1`, ..., `0` of the switch of `set_prog_sample_fileds`, each falling
through to the next. -/
def setProgSamplesFrom (m : Memory) (progr : Nat) (samples : List ParserSampleField) :
    Nat → Memory
  | 0 => m
  | n + 1 =>
      let sample := samples.getD n ⟨0, 0⟩
      let m := devxSet m progr (FteMatchSetMisc4.progSampleFieldValue n) sample.val
      let m := devxSet m progr (FteMatchSetMisc4.progSampleFieldId n) sample.id
      setProgSamplesFrom m progr samples n

def setProgSampleFileds (a : FlowMatcher) (m : Memory) (matchParams : Nat)
    (matchValue : MatchParamsEx) : Result Memory :=
  let criteria := a.mAttr.matchCriteria.matchParserSampleFieldVec
  let value := matchValue.matchParserSampleFieldVec
  let progr := matchParams + FteMatchParam.miscParameters4
  if !a.enables fgMatchParserFields then
    (.ok, m)
  else if criteria.length ≠ value.length then
    (.errInvalidParam, m)
  else if criteria.length ≤ 8 then
    (.ok, setProgSamplesFrom m progr value criteria.length)
  else
    (.errOutOfRange, m)

def setMetadataRegister0Field (a : FlowMatcher) (m : Memory) (metadataRegisters : Nat)
    (matchValue : MatchParamsEx) : Result Memory :=
  if !a.enables fgMatchMetadataRegC0 then
    (.ok, m)
  else if a.mAttr.matchCriteria.matchMetadataRegC0 != 0 then
    (.ok, devxSet m metadataRegisters FteMatchSetMisc2.metadataRegC0 matchValue.matchMetadataRegC0)
  else
    (.ok, m)

def setMetadataRegistersFields (a : FlowMatcher) (m : Memory) (matchParams : Nat)
    (matchValue : MatchParamsEx) : Result Memory :=
  a.setMetadataRegister0Field m (matchParams + FteMatchParam.miscParameters2) matchValue

/-- `flow_matcher::apply`, on the buffer at `matchParams`. -/
def apply (a : FlowMatcher) (m : Memory) (matchParams : Nat) (matchValue : MatchParamsEx) :
    Result Memory :=
  (a.setOuterHeaderFields m matchParams matchValue).andThen fun m =>
  (a.setProgSampleFileds m matchParams matchValue).andThen fun m =>
  a.setMetadataRegistersFields m matchParams matchValue

/-! ### The writes of a matcher -/

/-- The conditional writes to the fields of layer 2. -/
def lyr2Writes (a : FlowMatcher) (outer : Nat) (matchValue : MatchParamsEx) :
    List (Bool × Write) :=
  let criteria := a.mAttr.matchCriteria.matchLyr2
  let value := matchValue.matchLyr2
  [(criteria.dstMac != zeroMac,
      .ofBytes (outer + FteMatchSetLyr24.dmac4716) (value.dstMac.toList.take 6)),
    (criteria.srcMac != zeroMac,
      .ofBytes (outer + FteMatchSetLyr24.smac4716) (value.srcMac.toList.take 6)),
    (criteria.ethertype != 0,
      FteMatchSetLyr24.ethertype.write outer (value.ethertype.setWidth 32)),
    (criteria.firstVlanId != 0,
      FteMatchSetLyr24.firstVid.write outer (value.firstVlanId.setWidth 32)),
    (criteria.firstVlanId != 0, FteMatchSetLyr24.cvlanTag.write outer 0x1)]

/-- The conditional writes to the fields of layer 3. -/
def lyr3Writes (a : FlowMatcher) (outer : Nat) (matchValue : MatchParamsEx) :
    List (Bool × Write) :=
  let criteria := a.mAttr.matchCriteria.matchLyr3
  let value := matchValue.matchLyr3
  [(criteria.dstIp != 0, FteMatchSetLyr24.dstIpv4.write outer value.dstIp),
    (criteria.srcIp != 0, FteMatchSetLyr24.srcIpv4.write outer value.srcIp),
    (criteria.ipProtocol != 0,
      FteMatchSetLyr24.ipProtocol.write outer (value.ipProtocol.setWidth 32)),
    (criteria.ipVersion != 0,
      FteMatchSetLyr24.ipVersion.write outer (value.ipVersion.setWidth 32))]

/-- The conditional writes to the fields of layer 4. -/
def lyr4Writes (a : FlowMatcher) (outer : Nat) (matchValue : MatchParamsEx) :
    List (Bool × Write) :=
  let criteria := a.mAttr.matchCriteria.matchLyr4
  let value := matchValue.matchLyr4
  [(criteria.type == .udp && criteria.dstPort != 0,
      FteMatchSetLyr24.udpDport.write outer (value.dstPort.setWidth 32)),
    (criteria.type == .udp && criteria.srcPort != 0,
      FteMatchSetLyr24.udpSport.write outer (value.srcPort.setWidth 32)),
    (criteria.type == .tcp && criteria.dstPort != 0,
      FteMatchSetLyr24.tcpDport.write outer (value.dstPort.setWidth 32)),
    (criteria.type == .tcp && criteria.srcPort != 0,
      FteMatchSetLyr24.tcpSport.write outer (value.srcPort.setWidth 32))]

/-- The writes of the samples `n - 1`, ..., `0`. -/
def sampleWrites (progr : Nat) (samples : List ParserSampleField) : Nat → List Write
  | 0 => []
  | n + 1 =>
      let sample := samples.getD n ⟨0, 0⟩
      (FteMatchSetMisc4.progSampleFieldValue n).write progr sample.val
        :: (FteMatchSetMisc4.progSampleFieldId n).write progr sample.id
        :: sampleWrites progr samples n

theorem bit_devxSet_ite (c : Bool) (m : Memory) (p : Nat) (f : Field) (v : BitVec 32) :
  bit (if c then devxSet m p f v else m)
    = if c then Write.put (bit m) (f.write p v) else bit m
  := by
  cases c
  · rfl
  · apply bit_devxSet

theorem bit_copyEtherMac_ite (c : Bool) (m : Memory) (dst : Nat) (src : Vector (BitVec 8) 8) :
  bit (if c then copyEtherMac m dst src else m)
    = if c then Write.put (bit m) (.ofBytes dst (src.toList.take 6)) else bit m
  := by
  cases c
  · rfl
  · apply bit_copyBytes

theorem setOuterHeaderLyr2Fields_eq_ok {a : FlowMatcher} {m m' : Memory} {outer : Nat}
    {matchValue : MatchParamsEx}
    (h : a.setOuterHeaderLyr2Fields m outer matchValue = (.ok, m')) :
  bit m' = puts (bit m) (selected (a.lyr2Writes outer matchValue))
  := by
  simp only [setOuterHeaderLyr2Fields, Prod.mk.injEq, true_and] at h
  subst h
  simp only [lyr2Writes, puts_selected_cons, selected_nil, puts_nil]
  cases a.mAttr.matchCriteria.matchLyr2.firstVlanId != 0 with
  | false => simp only [bit_devxSet_ite, bit_copyEtherMac_ite, Bool.false_eq_true, if_false]
  | true => simp only [bit_devxSet, bit_devxSet_ite, bit_copyEtherMac_ite, if_true]

theorem setOuterHeaderLyr3Fields_eq_ok {a : FlowMatcher} {m m' : Memory} {outer : Nat}
    {matchValue : MatchParamsEx}
    (h : a.setOuterHeaderLyr3Fields m outer matchValue = (.ok, m')) :
  bit m' = puts (bit m) (selected (a.lyr3Writes outer matchValue))
  := by
  simp only [setOuterHeaderLyr3Fields, Prod.mk.injEq, true_and] at h
  subst h
  simp only [lyr3Writes, puts_selected_cons, selected_nil, puts_nil, bit_devxSet_ite]

theorem setOuterHeaderLyr4Fields_eq_ok {a : FlowMatcher} {m m' : Memory} {outer : Nat}
    {matchValue : MatchParamsEx}
    (h : a.setOuterHeaderLyr4Fields m outer matchValue = (.ok, m')) :
  bit m' = puts (bit m) (selected (a.lyr4Writes outer matchValue))
  := by
  simp only [lyr4Writes, puts_selected_cons, selected_nil, puts_nil]
  cases htype : a.mAttr.matchCriteria.matchLyr4.type with
  | none =>
      simp only [setOuterHeaderLyr4Fields, htype, Prod.mk.injEq, true_and] at h
      subst h
      simp
  | udp =>
      have hudp : (MatchParamsLyr4Type.udp == .udp) = true := rfl
      have htcp : (MatchParamsLyr4Type.udp == .tcp) = false := rfl
      simp only [setOuterHeaderLyr4Fields, htype, Prod.mk.injEq, true_and] at h
      subst h
      simp only [bit_devxSet_ite, hudp, htcp, Bool.true_and, Bool.false_and, Bool.false_eq_true,
        if_false]
  | tcp =>
      have hudp : (MatchParamsLyr4Type.tcp == .udp) = false := rfl
      have htcp : (MatchParamsLyr4Type.tcp == .tcp) = true := rfl
      simp only [setOuterHeaderLyr4Fields, htype, Prod.mk.injEq, true_and] at h
      subst h
      simp only [bit_devxSet_ite, hudp, htcp, Bool.true_and, Bool.false_and, Bool.false_eq_true,
        if_false]
  | other =>
      simp [setOuterHeaderLyr4Fields, htype] at h

theorem bit_setProgSamplesFrom (m : Memory) (progr : Nat) (samples : List ParserSampleField)
    (n : Nat) :
  bit (setProgSamplesFrom m progr samples n) = puts (bit m) (sampleWrites progr samples n)
  := by
  induction n generalizing m with
  | zero => rfl
  | succ n ih =>
      rw [setProgSamplesFrom, ih]
      simp only [sampleWrites, bit_devxSet, puts_cons]

/-- The conditional writes to the outer headers. -/
def outerWrites (a : FlowMatcher) (outer : Nat) (matchValue : MatchParamsEx) :
    List (Bool × Write) :=
  a.lyr2Writes outer matchValue ++ a.lyr3Writes outer matchValue ++ a.lyr4Writes outer matchValue

/-- The number of parser samples of the criteria. -/
def samples (a : FlowMatcher) : Nat :=
  a.mAttr.matchCriteria.matchParserSampleFieldVec.length

/-- The conditional writes of `apply`. -/
def writes (a : FlowMatcher) (p : Nat) (matchValue : MatchParamsEx) : List (Bool × Write) :=
  guarded (a.enables fgMatchOuterHdr) (a.outerWrites (p + FteMatchParam.outerHeaders) matchValue)
    ++ guarded (a.enables fgMatchParserFields)
      ((sampleWrites (p + FteMatchParam.miscParameters4) matchValue.matchParserSampleFieldVec
        a.samples).map (Prod.mk true))
    ++ guarded (a.enables fgMatchMetadataRegC0)
      [(a.mAttr.matchCriteria.matchMetadataRegC0 != 0,
        FteMatchSetMisc2.metadataRegC0.write (p + FteMatchParam.miscParameters2)
          matchValue.matchMetadataRegC0)]

theorem setOuterHeaderFields_eq_ok {a : FlowMatcher} {m m' : Memory} {p : Nat}
    {matchValue : MatchParamsEx} (h : a.setOuterHeaderFields m p matchValue = (.ok, m')) :
  bit m' = puts (bit m) (selected (guarded (a.enables fgMatchOuterHdr)
    (a.outerWrites (p + FteMatchParam.outerHeaders) matchValue)))
  := by
  rw [setOuterHeaderFields] at h
  cases henabled : a.enables fgMatchOuterHdr with
  | false =>
      simp only [henabled, Bool.not_false, if_true, Prod.mk.injEq, true_and] at h
      rw [selected_guarded_false, puts_nil, h]
  | true =>
      simp only [henabled, Bool.not_true, Bool.false_eq_true, if_false] at h
      obtain ⟨m₂, h₂, h⟩ := Result.andThen_eq_ok.mp h
      obtain ⟨m₃, h₃, h₄⟩ := Result.andThen_eq_ok.mp h
      rw [selected_guarded_true, outerWrites, selected_append, selected_append, puts_append,
        puts_append, ← setOuterHeaderLyr2Fields_eq_ok h₂, ← setOuterHeaderLyr3Fields_eq_ok h₃]
      apply setOuterHeaderLyr4Fields_eq_ok h₄

theorem selected_map_true (ws : List Write) :
  selected (ws.map (Prod.mk true)) = ws
  := by
  simp [selected, List.filter_map, Function.comp_def]

theorem setProgSampleFileds_eq_ok {a : FlowMatcher} {m m' : Memory} {p : Nat}
    {matchValue : MatchParamsEx} (h : a.setProgSampleFileds m p matchValue = (.ok, m')) :
  (a.enables fgMatchParserFields = true →
      matchValue.matchParserSampleFieldVec.length = a.samples ∧ a.samples ≤ 8)
    ∧ bit m' = puts (bit m) (selected (guarded (a.enables fgMatchParserFields)
      ((sampleWrites (p + FteMatchParam.miscParameters4) matchValue.matchParserSampleFieldVec
        a.samples).map (Prod.mk true))))
  := by
  rw [setProgSampleFileds] at h
  cases henabled : a.enables fgMatchParserFields with
  | false =>
      simp only [henabled, Bool.not_false, if_true, Prod.mk.injEq, true_and] at h
      rw [selected_guarded_false, puts_nil, h]
      simp
  | true =>
      simp only [henabled, Bool.not_true, Bool.false_eq_true, if_false] at h
      rw [selected_guarded_true, selected_map_true]
      split at h
      · simp at h
      · split at h
        · rename_i hlength hle
          simp only [Prod.mk.injEq, true_and] at h
          rw [← h, bit_setProgSamplesFrom, samples]
          simp only [forall_const, and_true]
          omega
        · simp at h

theorem setMetadataRegistersFields_eq_ok {a : FlowMatcher} {m m' : Memory} {p : Nat}
    {matchValue : MatchParamsEx} (h : a.setMetadataRegistersFields m p matchValue = (.ok, m')) :
  bit m' = puts (bit m) (selected (guarded (a.enables fgMatchMetadataRegC0)
    [(a.mAttr.matchCriteria.matchMetadataRegC0 != 0,
      FteMatchSetMisc2.metadataRegC0.write (p + FteMatchParam.miscParameters2)
        matchValue.matchMetadataRegC0)]))
  := by
  rw [setMetadataRegistersFields, setMetadataRegister0Field] at h
  cases henabled : a.enables fgMatchMetadataRegC0 with
  | false =>
      simp only [henabled, Bool.not_false, if_true, Prod.mk.injEq, true_and] at h
      rw [selected_guarded_false, puts_nil, h]
  | true =>
      simp only [henabled, Bool.not_true, Bool.false_eq_true, if_false] at h
      rw [selected_guarded_true, puts_selected_cons]
      cases hreg : a.mAttr.matchCriteria.matchMetadataRegC0 != 0 with
      | false =>
          simp only [hreg, Bool.false_eq_true, if_false, Prod.mk.injEq, true_and] at h
          rw [h]
          rfl
      | true =>
          simp only [hreg, if_true, Prod.mk.injEq, true_and] at h
          rw [← h, bit_devxSet]
          rfl

/-- When `apply` succeeds it has made the selected writes, and the value has as many parser
samples as the criteria if these are enabled. -/
theorem apply_eq_ok {a : FlowMatcher} {m m' : Memory} {p : Nat} {matchValue : MatchParamsEx}
    (h : a.apply m p matchValue = (.ok, m')) :
  bit m' = puts (bit m) (selected (a.writes p matchValue))
    ∧ (a.enables fgMatchParserFields = true →
      matchValue.matchParserSampleFieldVec.length = a.samples ∧ a.samples ≤ 8)
  := by
  obtain ⟨m₁, h₁, h⟩ := Result.andThen_eq_ok.mp h
  obtain ⟨m₂, h₂, h₃⟩ := Result.andThen_eq_ok.mp h
  obtain ⟨hlength, hbits⟩ := setProgSampleFileds_eq_ok h₂
  constructor
  · rw [writes, selected_append, selected_append, puts_append, puts_append,
      ← setOuterHeaderFields_eq_ok h₁, ← hbits]
    apply setMetadataRegistersFields_eq_ok h₃
  · apply hlength

/-! ### When a matcher succeeds -/

/-- The match values a matcher takes: an outer-header block needs a layer 4 type it knows, a
parser block as many samples as the criteria have, and at most 8. -/
def Accepts (a : FlowMatcher) (matchValue : MatchParamsEx) : Prop :=
  (a.enables fgMatchOuterHdr = true →
      ∀ type, a.mAttr.matchCriteria.matchLyr4.type ≠ .other type)
    ∧ (a.enables fgMatchParserFields = true →
      matchValue.matchParserSampleFieldVec.length = a.samples ∧ a.samples ≤ 8)

theorem setOuterHeaderFields_ok {a : FlowMatcher} {matchValue : MatchParamsEx}
    (h : a.enables fgMatchOuterHdr = true →
      ∀ type, a.mAttr.matchCriteria.matchLyr4.type ≠ .other type) (m : Memory) (p : Nat) :
  ∃ m', a.setOuterHeaderFields m p matchValue = (.ok, m')
  := by
  cases henabled : a.enables fgMatchOuterHdr with
  | false => exact ⟨m, by simp [setOuterHeaderFields, henabled]⟩
  | true =>
      cases htype : a.mAttr.matchCriteria.matchLyr4.type with
      | other type => cases h henabled type htype
      | _ =>
          refine ⟨(a.setOuterHeaderFields m p matchValue).2, Prod.ext ?_ rfl⟩
          simp [setOuterHeaderFields, henabled, setOuterHeaderLyr2Fields, setOuterHeaderLyr3Fields,
            setOuterHeaderLyr4Fields, htype, Result.andThen]

theorem setProgSampleFileds_ok {a : FlowMatcher} {matchValue : MatchParamsEx}
    (h : a.enables fgMatchParserFields = true →
      matchValue.matchParserSampleFieldVec.length = a.samples ∧ a.samples ≤ 8) (m : Memory)
    (p : Nat) :
  ∃ m', a.setProgSampleFileds m p matchValue = (.ok, m')
  := by
  cases henabled : a.enables fgMatchParserFields with
  | false => exact ⟨m, by simp [setProgSampleFileds, henabled]⟩
  | true =>
      obtain ⟨hlength, hle⟩ := h henabled
      rw [samples] at hlength hle
      refine ⟨(a.setProgSampleFileds m p matchValue).2, Prod.ext ?_ rfl⟩
      simp [setProgSampleFileds, henabled, hlength, hle]

theorem setMetadataRegistersFields_ok (a : FlowMatcher) (matchValue : MatchParamsEx) (m : Memory)
    (p : Nat) :
  ∃ m', a.setMetadataRegistersFields m p matchValue = (.ok, m')
  := by
  refine ⟨(a.setMetadataRegistersFields m p matchValue).2, Prod.ext ?_ rfl⟩
  simp only [setMetadataRegistersFields, setMetadataRegister0Field]
  split
  · rfl
  · split <;> rfl

/-- A matcher succeeds on the values it accepts, whatever the buffer holds. -/
theorem apply_ok {a : FlowMatcher} {matchValue : MatchParamsEx} (h : a.Accepts matchValue)
    (m : Memory) (p : Nat) :
  ∃ m', a.apply m p matchValue = (.ok, m')
  := by
  obtain ⟨m₁, h₁⟩ := setOuterHeaderFields_ok h.1 m p
  obtain ⟨m₂, h₂⟩ := setProgSampleFileds_ok h.2 m₁ p
  obtain ⟨m₃, h₃⟩ := setMetadataRegistersFields_ok a matchValue m₂ p
  use m₃
  apply Result.andThen_eq_ok.mpr
  refine ⟨m₁, h₁, ?_⟩
  apply Result.andThen_eq_ok.mpr
  exact ⟨m₂, h₂, h₃⟩

/-- A matcher succeeds only on the values it accepts. -/
theorem accepts_of_apply {a : FlowMatcher} {matchValue : MatchParamsEx} {m m' : Memory} {p : Nat}
    (h : a.apply m p matchValue = (.ok, m')) :
  a.Accepts matchValue
  := by
  constructor
  · intro henabled type htype
    obtain ⟨m₁, h₁, -⟩ := Result.andThen_eq_ok.mp h
    simp [setOuterHeaderFields, henabled, setOuterHeaderLyr2Fields, setOuterHeaderLyr3Fields,
      setOuterHeaderLyr4Fields, htype, Result.andThen] at h₁
  · apply (apply_eq_ok h).2

/-! ### The writes do not meet -/

theorem length_mac (mac : Vector (BitVec 8) 8) :
  (mac.toList.take 6).length = 6
  := by
  simp

/-- The places of the fields of the outer headers, in the order of `outerWrites`. -/
def outerSpans : List (Nat × Nat) :=
  [(0x40, 48), (0x0, 48), (0x30, 0x10), (0x74, 0xc), (0x90, 0x1), (0x1e0, 0x20), (0x160, 0x20),
    (0x80, 0x8), (0x93, 0x4), (0xf0, 0x10), (0xe0, 0x10), (0xb0, 0x10), (0xa0, 0x10)]

theorem outerWrites_spans (a : FlowMatcher) (outer : Nat) (matchValue : MatchParamsEx) :
  ((a.outerWrites outer matchValue).map Prod.snd).map Write.span
    = outerSpans.map (fun t => (8 * outer + t.1, t.2))
  := by
  simp only [outerWrites, lyr2Writes, lyr3Writes, lyr4Writes, List.cons_append, List.nil_append,
    List.map, Write.span, Write.ofBytes, Field.write, length_mac, Nat.mul_add]
  rfl

theorem outerWrites_disjoint (a : FlowMatcher) (outer : Nat) (matchValue : MatchParamsEx) :
  ((a.outerWrites outer matchValue).map Prod.snd).Pairwise Write.Disjoint
  := by
  apply disjoint_of_spans _ _ (outerWrites_spans a outer matchValue)
  decide

theorem outerWrites_within {a : FlowMatcher} {outer : Nat} {matchValue : MatchParamsEx} {w : Write}
    (hw : w ∈ (a.outerWrites outer matchValue).map Prod.snd) :
  w.Within (8 * outer) (8 * outer + 0x200)
  := by
  apply within_of_spans _ _ (outerWrites_spans a outer matchValue) _ hw
  decide

/-- The samples below `n` occupy the first `n` slots. -/
theorem sampleWrites_within {progr : Nat} {samples : List ParserSampleField} {n : Nat} {w : Write}
    (hw : w ∈ sampleWrites progr samples n) :
  w.Within (8 * progr) (8 * progr + 0x40 * n)
  := by
  induction n with
  | zero => cases hw
  | succ n ih =>
      rcases List.mem_cons.mp hw with rfl | hw
      · simp only [Write.Within, Field.write, FteMatchSetMisc4.progSampleFieldValue]
        omega
      · rcases List.mem_cons.mp hw with rfl | hw
        · simp only [Write.Within, Field.write, FteMatchSetMisc4.progSampleFieldId]
          omega
        · apply (ih hw).mono
          · omega
          · omega

theorem sampleWrites_disjoint (progr : Nat) (samples : List ParserSampleField) (n : Nat) :
  (sampleWrites progr samples n).Pairwise Write.Disjoint
  := by
  induction n with
  | zero => apply List.Pairwise.nil
  | succ n ih =>
      -- The two writes of slot `n` lie behind the slots below `n`, and the value before the id.
      have hvalue : ((FteMatchSetMisc4.progSampleFieldValue n).write progr
          (samples.getD n ⟨0, 0⟩).val).Within (8 * progr + 0x40 * n)
          (8 * progr + 0x40 * n + 0x20) := by
        simp only [Write.Within, Field.write, FteMatchSetMisc4.progSampleFieldValue]
        omega
      have hid : ((FteMatchSetMisc4.progSampleFieldId n).write progr
          (samples.getD n ⟨0, 0⟩).id).Within (8 * progr + 0x40 * n + 0x20)
          (8 * progr + 0x40 * n + 0x40) := by
        simp only [Write.Within, Field.write, FteMatchSetMisc4.progSampleFieldId]
        omega
      rw [sampleWrites, List.pairwise_cons, List.pairwise_cons]
      refine ⟨?_, ?_, ih⟩
      · intro w hw
        rcases List.mem_cons.mp hw with rfl | hw
        · apply hvalue.disjoint hid
          omega
        · apply hvalue.disjoint (sampleWrites_within hw)
          omega
      · intro w hw
        apply hid.disjoint (sampleWrites_within hw)
        omega

/-- The writes of the three blocks do not meet. -/
theorem writes_disjoint (a : FlowMatcher) (p : Nat) (matchValue : MatchParamsEx) :
  ((a.writes p matchValue).map Prod.snd).Pairwise Write.Disjoint
  := by
  have hmetadata : (FteMatchSetMisc2.metadataRegC0.write (p + FteMatchParam.miscParameters2)
      matchValue.matchMetadataRegC0).Within (8 * p + 0x760) (8 * p + 0x780) := by
    simp only [Write.Within, Field.write, FteMatchSetMisc2.metadataRegC0,
      FteMatchParam.miscParameters2]
    omega
  have houter : ∀ w ∈ (a.outerWrites (p + FteMatchParam.outerHeaders) matchValue).map Prod.snd,
      w.Within (8 * p) (8 * p + 0x200) := fun w hw => outerWrites_within hw
  have hsamples : ∀ w ∈ sampleWrites (p + FteMatchParam.miscParameters4)
      matchValue.matchParserSampleFieldVec a.samples,
      w.Within (8 * p + 0xa00) (8 * p + 0xa00 + 0x40 * a.samples) := by
    intro w hw
    apply (sampleWrites_within hw).mono
    · simp only [FteMatchParam.miscParameters4]
      omega
    · simp only [FteMatchParam.miscParameters4]
      omega
  simp only [writes, List.map_append, map_snd_guarded, List.map_map, List.map_cons, List.map_nil,
    Function.comp_def, List.map_id_fun', id_eq, List.pairwise_append]
  refine ⟨⟨outerWrites_disjoint _ _ _, sampleWrites_disjoint _ _ _, ?_⟩,
    List.pairwise_singleton _ _, ?_⟩
  · intro w hw w' hw'
    apply (houter w hw).disjoint (hsamples w' hw')
    omega
  · intro w hw w' hw'
    obtain rfl := List.mem_singleton.mp hw'
    rcases List.mem_append.mp hw with hw | hw
    · apply (houter w hw).disjoint hmetadata
      omega
    · apply (hsamples w hw).disjoint hmetadata
      omega

/-- With at most 8 samples the writes lie in the buffer. -/
theorem writes_within {a : FlowMatcher} {p : Nat} {matchValue : MatchParamsEx}
    (hsamples : a.enables fgMatchParserFields = true → a.samples ≤ 8) {w : Write}
    (hw : w ∈ selected (a.writes p matchValue)) :
  w.Within (8 * p) (8 * (p + FteMatchParam.bytes))
  := by
  simp only [mem_selected, writes, List.mem_append, mem_guarded] at hw
  simp only [FteMatchParam.bytes]
  rcases hw with (⟨-, hw⟩ | ⟨henabled, hw⟩) | ⟨-, hw⟩
  · apply (outerWrites_within (List.mem_map_of_mem hw)).mono
    · simp only [FteMatchParam.outerHeaders]
      omega
    · simp only [FteMatchParam.outerHeaders]
      omega
  · obtain ⟨_, hmem, heq⟩ := List.mem_map.mp hw
    obtain rfl := (Prod.mk.inj heq).2
    have hle := hsamples henabled
    apply (sampleWrites_within hmem).mono
    · omega
    · simp only [FteMatchParam.miscParameters4]
      omega
  · obtain rfl := (Prod.mk.inj (List.mem_singleton.mp hw)).2
    simp only [Write.Within, Field.write, FteMatchSetMisc2.metadataRegC0,
      FteMatchParam.miscParameters2]
    omega

end FlowMatcher

/-! ### What a buffer says -/

/-- The fields of the outer headers other than the MAC addresses. -/
inductive OuterField where
  | ethertype
  | firstVid
  | cvlanTag
  | dstIp
  | srcIp
  | ipProtocol
  | ipVersion
  | udpDport
  | udpSport
  | tcpDport
  | tcpSport

namespace OuterField

/-- Where the PRM has the field. -/
def field : OuterField → Field
  | ethertype => FteMatchSetLyr24.ethertype
  | firstVid => FteMatchSetLyr24.firstVid
  | cvlanTag => FteMatchSetLyr24.cvlanTag
  | dstIp => FteMatchSetLyr24.dstIpv4
  | srcIp => FteMatchSetLyr24.srcIpv4
  | ipProtocol => FteMatchSetLyr24.ipProtocol
  | ipVersion => FteMatchSetLyr24.ipVersion
  | udpDport => FteMatchSetLyr24.udpDport
  | udpSport => FteMatchSetLyr24.udpSport
  | tcpDport => FteMatchSetLyr24.tcpDport
  | tcpSport => FteMatchSetLyr24.tcpSport

/-- Whether the criteria entry of the field is not zero; the ports belong to TCP or to UDP by
the type of the criteria, and the VLAN tag goes with the VLAN id. -/
def SelectedBy (criteria : MatchParamsEx) : OuterField → Prop
  | ethertype => criteria.matchLyr2.ethertype ≠ 0
  | firstVid => criteria.matchLyr2.firstVlanId ≠ 0
  | cvlanTag => criteria.matchLyr2.firstVlanId ≠ 0
  | dstIp => criteria.matchLyr3.dstIp ≠ 0
  | srcIp => criteria.matchLyr3.srcIp ≠ 0
  | ipProtocol => criteria.matchLyr3.ipProtocol ≠ 0
  | ipVersion => criteria.matchLyr3.ipVersion ≠ 0
  | udpDport => criteria.matchLyr4.type = .udp ∧ criteria.matchLyr4.dstPort ≠ 0
  | udpSport => criteria.matchLyr4.type = .udp ∧ criteria.matchLyr4.srcPort ≠ 0
  | tcpDport => criteria.matchLyr4.type = .tcp ∧ criteria.matchLyr4.dstPort ≠ 0
  | tcpSport => criteria.matchLyr4.type = .tcp ∧ criteria.matchLyr4.srcPort ≠ 0

/-- The value of the field in a match value, as a word. -/
def valueOf (matchValue : MatchParamsEx) : OuterField → BitVec 32
  | ethertype => matchValue.matchLyr2.ethertype.setWidth 32
  | firstVid => matchValue.matchLyr2.firstVlanId.setWidth 32
  | cvlanTag => 1
  | dstIp => matchValue.matchLyr3.dstIp
  | srcIp => matchValue.matchLyr3.srcIp
  | ipProtocol => matchValue.matchLyr3.ipProtocol.setWidth 32
  | ipVersion => matchValue.matchLyr3.ipVersion.setWidth 32
  | udpDport => matchValue.matchLyr4.dstPort.setWidth 32
  | udpSport => matchValue.matchLyr4.srcPort.setWidth 32
  | tcpDport => matchValue.matchLyr4.dstPort.setWidth 32
  | tcpSport => matchValue.matchLyr4.srcPort.setWidth 32

end OuterField

namespace FlowMatcher

/-- The bits of the buffer at `p` that the criteria select.  A match value has no part in
it. -/
inductive Selects (a : FlowMatcher) (p j : Nat) : Prop where
  | outer (f : OuterField) (henabled : a.enables fgMatchOuterHdr = true)
      (hcriteria : f.SelectedBy a.mAttr.matchCriteria)
      (hj : f.field.Has (p + FteMatchParam.outerHeaders) j)
  | dstMac (henabled : a.enables fgMatchOuterHdr = true)
      (hcriteria : a.mAttr.matchCriteria.matchLyr2.dstMac ≠ zeroMac)
      (hlo : 8 * (p + FteMatchParam.outerHeaders + FteMatchSetLyr24.dmac4716) ≤ j)
      (hhi : j < 8 * (p + FteMatchParam.outerHeaders + FteMatchSetLyr24.dmac4716) + 48)
  | srcMac (henabled : a.enables fgMatchOuterHdr = true)
      (hcriteria : a.mAttr.matchCriteria.matchLyr2.srcMac ≠ zeroMac)
      (hlo : 8 * (p + FteMatchParam.outerHeaders + FteMatchSetLyr24.smac4716) ≤ j)
      (hhi : j < 8 * (p + FteMatchParam.outerHeaders + FteMatchSetLyr24.smac4716) + 48)
  | sampleValue (i : Nat) (henabled : a.enables fgMatchParserFields = true) (hi : i < a.samples)
      (hj : (FteMatchSetMisc4.progSampleFieldValue i).Has (p + FteMatchParam.miscParameters4) j)
  | sampleId (i : Nat) (henabled : a.enables fgMatchParserFields = true) (hi : i < a.samples)
      (hj : (FteMatchSetMisc4.progSampleFieldId i).Has (p + FteMatchParam.miscParameters4) j)
  | metadata (henabled : a.enables fgMatchMetadataRegC0 = true)
      (hcriteria : a.mAttr.matchCriteria.matchMetadataRegC0 ≠ 0)
      (hj : FteMatchSetMisc2.metadataRegC0.Has (p + FteMatchParam.miscParameters2) j)

/-- The buffer at `p` says what the match value says about the fields the criteria select,
and nothing else. -/
structure Decodes (a : FlowMatcher) (p : Nat) (matchValue : MatchParamsEx) (m : Memory) :
    Prop where
  outer : ∀ f : OuterField, a.enables fgMatchOuterHdr = true →
    f.SelectedBy a.mAttr.matchCriteria →
    (devxGet m (p + FteMatchParam.outerHeaders) f.field).toNat
      = (f.valueOf matchValue).toNat % 2 ^ f.field.size
  dstMac : a.enables fgMatchOuterHdr = true →
    a.mAttr.matchCriteria.matchLyr2.dstMac ≠ zeroMac →
    ∀ i, ∀ hi : i < 6, m (p + FteMatchParam.outerHeaders + FteMatchSetLyr24.dmac4716 + i)
      = matchValue.matchLyr2.dstMac[i]
  srcMac : a.enables fgMatchOuterHdr = true →
    a.mAttr.matchCriteria.matchLyr2.srcMac ≠ zeroMac →
    ∀ i, ∀ hi : i < 6, m (p + FteMatchParam.outerHeaders + FteMatchSetLyr24.smac4716 + i)
      = matchValue.matchLyr2.srcMac[i]
  cvlanTag : (devxGet m (p + FteMatchParam.outerHeaders) FteMatchSetLyr24.cvlanTag).toNat = 1
    ↔ a.enables fgMatchOuterHdr = true ∧ a.mAttr.matchCriteria.matchLyr2.firstVlanId ≠ 0
  sample : a.enables fgMatchParserFields = true →
    matchValue.matchParserSampleFieldVec.length = a.samples ∧ a.samples ≤ 8 ∧
    ∀ i sample, matchValue.matchParserSampleFieldVec[i]? = some sample →
      devxGet m (p + FteMatchParam.miscParameters4) (FteMatchSetMisc4.progSampleFieldValue i)
          = sample.val
        ∧ devxGet m (p + FteMatchParam.miscParameters4) (FteMatchSetMisc4.progSampleFieldId i)
          = sample.id
  metadata : a.enables fgMatchMetadataRegC0 = true →
    a.mAttr.matchCriteria.matchMetadataRegC0 ≠ 0 →
    devxGet m (p + FteMatchParam.miscParameters2) FteMatchSetMisc2.metadataRegC0
      = matchValue.matchMetadataRegC0
  rest : ∀ j, ¬ a.Selects p j → bit m j = false

theorem mem_writes_of_outer {a : FlowMatcher} {p : Nat} {matchValue : MatchParamsEx} {w : Write}
    (henabled : a.enables fgMatchOuterHdr = true)
    (hw : (true, w) ∈ a.outerWrites (p + FteMatchParam.outerHeaders) matchValue) :
  w ∈ selected (a.writes p matchValue)
  := by
  simp only [mem_selected, writes, List.mem_append, mem_guarded]
  left
  left
  apply And.intro henabled hw

theorem mem_writes_of_sample {a : FlowMatcher} {p : Nat} {matchValue : MatchParamsEx} {w : Write}
    (henabled : a.enables fgMatchParserFields = true)
    (hw : w ∈ sampleWrites (p + FteMatchParam.miscParameters4)
      matchValue.matchParserSampleFieldVec a.samples) :
  w ∈ selected (a.writes p matchValue)
  := by
  simp only [mem_selected, writes, List.mem_append, mem_guarded]
  left
  right
  apply And.intro henabled (List.mem_map_of_mem hw)

/-- A field of the outer headers is written exactly when the criteria select it. -/
theorem mem_outerWrites_field {a : FlowMatcher} {outer : Nat} {matchValue : MatchParamsEx}
    {f : OuterField} (h : f.SelectedBy a.mAttr.matchCriteria) :
  (true, f.field.write outer (f.valueOf matchValue)) ∈ a.outerWrites outer matchValue
  := by
  cases f <;> simp [OuterField.SelectedBy] at h <;>
    simp [outerWrites, lyr2Writes, lyr3Writes, lyr4Writes, OuterField.field, OuterField.valueOf, h]

/-- What the writes to the outer headers are. -/
theorem outerWrites_cases {a : FlowMatcher} {outer : Nat} {matchValue : MatchParamsEx} {w : Write}
    (hw : (true, w) ∈ a.outerWrites outer matchValue) :
  (∃ f : OuterField, f.SelectedBy a.mAttr.matchCriteria
      ∧ w = f.field.write outer (f.valueOf matchValue))
    ∨ (a.mAttr.matchCriteria.matchLyr2.dstMac ≠ zeroMac
      ∧ w = .ofBytes (outer + FteMatchSetLyr24.dmac4716)
        (matchValue.matchLyr2.dstMac.toList.take 6))
    ∨ (a.mAttr.matchCriteria.matchLyr2.srcMac ≠ zeroMac
      ∧ w = .ofBytes (outer + FteMatchSetLyr24.smac4716)
        (matchValue.matchLyr2.srcMac.toList.take 6))
  := by
  simp only [outerWrites, lyr2Writes, lyr3Writes, lyr4Writes, List.mem_append, List.mem_cons,
    List.not_mem_nil, or_false, Prod.mk.injEq, Eq.comm (a := true), bne_iff_ne, ne_eq,
    Bool.and_eq_true, beq_iff_eq] at hw
  rcases hw with ((h | h | h | h | h) | h | h | h | h) | h | h | h | h
  · right
    left
    apply h
  · right
    right
    apply h
  · left
    use .ethertype
    apply h
  · left
    use .firstVid
    apply h
  · left
    use .cvlanTag
    apply h
  · left
    use .dstIp
    apply h
  · left
    use .srcIp
    apply h
  · left
    use .ipProtocol
    apply h
  · left
    use .ipVersion
    apply h
  · left
    use .udpDport
    apply h
  · left
    use .udpSport
    apply h
  · left
    use .tcpDport
    apply h
  · left
    use .tcpSport
    apply h

/-- The writes of a sample are among those of all samples. -/
theorem mem_sampleWrites (progr : Nat) {samples : List ParserSampleField} {n i : Nat}
    (hi : i < n) {sample : ParserSampleField} (hsample : samples[i]? = some sample) :
  (FteMatchSetMisc4.progSampleFieldValue i).write progr sample.val
      ∈ sampleWrites progr samples n
    ∧ (FteMatchSetMisc4.progSampleFieldId i).write progr sample.id
      ∈ sampleWrites progr samples n
  := by
  induction n with
  | zero => omega
  | succ n ih =>
      simp only [sampleWrites, List.mem_cons]
      by_cases hin : i = n
      · subst hin
        have hget : samples.getD i ⟨0, 0⟩ = sample := by
          rw [List.getD_eq_getElem?_getD, hsample, Option.getD_some]
        rw [hget]
        simp
      · obtain ⟨hvalue, hid⟩ := ih (by omega)
        simp [hvalue, hid]

/-- What the writes of the samples are. -/
theorem sampleWrites_cases {progr : Nat} {samples : List ParserSampleField} {n : Nat} {w : Write}
    (hw : w ∈ sampleWrites progr samples n) :
  ∃ i < n, (∃ v, w = (FteMatchSetMisc4.progSampleFieldValue i).write progr v)
    ∨ (∃ v, w = (FteMatchSetMisc4.progSampleFieldId i).write progr v)
  := by
  induction n with
  | zero => cases hw
  | succ n ih =>
      simp only [sampleWrites, List.mem_cons] at hw
      rcases hw with rfl | rfl | hw
      · use n, by omega
        left
        exact ⟨_, rfl⟩
      · use n, by omega
        right
        exact ⟨_, rfl⟩
      · obtain ⟨i, hi, h⟩ := ih hw
        use i, by omega

/-- A bit that is written is one the criteria select. -/
theorem selects_of_covers {a : FlowMatcher} {p : Nat} {matchValue : MatchParamsEx} {w : Write}
    (hw : w ∈ selected (a.writes p matchValue)) {j : Nat} (hj : w.Covers j) :
  a.Selects p j
  := by
  simp only [mem_selected, writes, List.mem_append, mem_guarded] at hw
  rcases hw with (⟨henabled, hw⟩ | ⟨henabled, hw⟩) | ⟨henabled, hw⟩
  · rcases outerWrites_cases hw with ⟨f, hf, rfl⟩ | ⟨hmac, rfl⟩ | ⟨hmac, rfl⟩
    · apply Selects.outer f henabled hf hj
    · simp only [Write.Covers, Write.ofBytes, length_mac] at hj
      apply Selects.dstMac henabled hmac hj.1 hj.2
    · simp only [Write.Covers, Write.ofBytes, length_mac] at hj
      apply Selects.srcMac henabled hmac hj.1 hj.2
  · obtain ⟨_, hmem, heq⟩ := List.mem_map.mp hw
    obtain rfl := (Prod.mk.inj heq).2
    obtain ⟨i, hi, ⟨v, rfl⟩ | ⟨v, rfl⟩⟩ := sampleWrites_cases hmem
    · apply Selects.sampleValue i henabled hi hj
    · apply Selects.sampleId i henabled hi hj
  · simp only [List.mem_singleton, Prod.mk.injEq, Eq.comm (a := true), bne_iff_ne] at hw
    obtain ⟨hreg, rfl⟩ := hw
    apply Selects.metadata henabled hreg hj

/-- The tag of a VLAN the criteria do not select is not among the bits they select. -/
theorem not_selects_cvlanTag {a : FlowMatcher} {p j : Nat}
    (h : ¬ (a.enables fgMatchOuterHdr = true ∧ a.mAttr.matchCriteria.matchLyr2.firstVlanId ≠ 0))
    (hj : FteMatchSetLyr24.cvlanTag.Has (p + FteMatchParam.outerHeaders) j) :
  ¬ a.Selects p j
  := by
  simp only [Field.Has, FteMatchSetLyr24.cvlanTag, FteMatchParam.outerHeaders] at hj
  rintro (⟨f, henabled, hf, hj'⟩ | ⟨-, -, hlo, hhi⟩ | ⟨-, -, hlo, hhi⟩ | ⟨i, -, -, hj'⟩ |
    ⟨i, -, -, hj'⟩ | ⟨-, -, hj'⟩)
  · cases f with
    | cvlanTag => exact h ⟨henabled, hf⟩
    | _ =>
        simp only [Field.Has, OuterField.field, FteMatchSetLyr24.ethertype,
          FteMatchSetLyr24.firstVid, FteMatchSetLyr24.dstIpv4, FteMatchSetLyr24.srcIpv4,
          FteMatchSetLyr24.ipProtocol, FteMatchSetLyr24.ipVersion, FteMatchSetLyr24.udpDport,
          FteMatchSetLyr24.udpSport, FteMatchSetLyr24.tcpDport, FteMatchSetLyr24.tcpSport,
          FteMatchParam.outerHeaders] at hj'
        omega
  · simp only [FteMatchParam.outerHeaders, FteMatchSetLyr24.dmac4716] at hlo hhi
    omega
  · simp only [FteMatchParam.outerHeaders, FteMatchSetLyr24.smac4716] at hhi
    omega
  · simp only [Field.Has, FteMatchSetMisc4.progSampleFieldValue,
      FteMatchParam.miscParameters4] at hj'
    omega
  · simp only [Field.Has, FteMatchSetMisc4.progSampleFieldId, FteMatchParam.miscParameters4] at hj'
    omega
  · simp only [Field.Has, FteMatchSetMisc2.metadataRegC0, FteMatchParam.miscParameters2] at hj'
    omega

/-- A MAC address that is written is read back byte for byte. -/
theorem mac_of_puts {m : Memory} {ws : List Write} (hm : bit m = puts (bit zeros) ws)
    (hws : ws.Pairwise Write.Disjoint) {q : Nat} {mac : Vector (BitVec 8) 8}
    (hmem : .ofBytes q (mac.toList.take 6) ∈ ws) {i : Nat} (hi : i < 6) :
  m (q + i) = mac[i]
  := by
  rw [byte_of_puts hm hws hmem (by rw [length_mac]; exact hi), List.getElem_take,
    Vector.getElem_toList]

/-- A buffer with the selected writes and no others says what the match value says about the
fields the criteria select, and nothing else. -/
theorem decodes_of_puts {a : FlowMatcher} {p : Nat} {matchValue : MatchParamsEx} {m : Memory}
    (hm : bit m = puts (bit zeros) (selected (a.writes p matchValue)))
    (hlength : a.enables fgMatchParserFields = true →
      matchValue.matchParserSampleFieldVec.length = a.samples ∧ a.samples ≤ 8) :
  a.Decodes p matchValue m
  := by
  have hws := selected_disjoint (a.writes_disjoint p matchValue)
  have hrest : ∀ j, ¬ a.Selects p j → bit m j = false := by
    intro j hj
    rw [hm, puts_of_not_covers, bit_zeros]
    intro w hw hcovers
    apply hj (selects_of_covers hw hcovers)
  have houter : ∀ f : OuterField, a.enables fgMatchOuterHdr = true →
      f.SelectedBy a.mAttr.matchCriteria →
      (devxGet m (p + FteMatchParam.outerHeaders) f.field).toNat
        = (f.valueOf matchValue).toNat % 2 ^ f.field.size := by
    intro f henabled hf
    apply devxGet_of_puts hm hws
    apply mem_writes_of_outer henabled (mem_outerWrites_field hf)
  constructor
  case outer => apply houter
  case dstMac =>
    intro henabled hmac i hi
    apply mac_of_puts hm hws _ hi
    apply mem_writes_of_outer henabled
    simp [outerWrites, lyr2Writes, hmac]
  case srcMac =>
    intro henabled hmac i hi
    apply mac_of_puts hm hws _ hi
    apply mem_writes_of_outer henabled
    simp [outerWrites, lyr2Writes, hmac]
  case cvlanTag =>
    constructor
    · intro htag
      by_contra hnot
      have hzero : (devxGet m (p + FteMatchParam.outerHeaders) FteMatchSetLyr24.cvlanTag).toNat
          = 0 := by
        apply devxGet_of_bits_false
        intro j hj
        apply hrest j (not_selects_cvlanTag hnot hj)
      omega
    · rintro ⟨henabled, hvlan⟩
      apply houter .cvlanTag henabled hvlan
  case sample =>
    intro henabled
    obtain ⟨hlen, hle⟩ := hlength henabled
    refine ⟨hlen, hle, ?_⟩
    intro i sample hsample
    have hi : i < a.samples := by
      rw [← hlen]
      apply (List.getElem?_eq_some_iff.mp hsample).1
    obtain ⟨hvalue, hid⟩ := mem_sampleWrites (p + FteMatchParam.miscParameters4) hi hsample
    constructor
    · apply devxGet_eq_of_puts hm hws (BitVec.isLt _) (mem_writes_of_sample henabled hvalue)
    · apply devxGet_eq_of_puts hm hws (BitVec.isLt _) (mem_writes_of_sample henabled hid)
  case metadata =>
    intro henabled hreg
    simp only [BitVec.ofNat_eq_ofNat, ne_eq] at hreg
    apply devxGet_eq_of_puts hm hws (BitVec.isLt _)
    simp [mem_selected, writes, mem_guarded, henabled, hreg]
  case rest => apply hrest

/-- After `apply` succeeds on a zero buffer, the buffer says what the match value says about
the fields the criteria select, and nothing else. -/
theorem decodes_of_apply {a : FlowMatcher} {p : Nat} {matchValue : MatchParamsEx} {m : Memory}
    (h : a.apply zeros p matchValue = (.ok, m)) :
  a.Decodes p matchValue m
  := by
  obtain ⟨hm, hlength⟩ := apply_eq_ok h
  apply decodes_of_puts hm hlength

/-- Criteria on a destination MAC, a VLAN, a destination address, a UDP port, one sample and the
metadata register. -/
def udpCriteria : FlowMatcher where
  mAttr :=
    { matchCriteria :=
        { matchLyr2 := ⟨zeroMac, #v[0xff, 0xff, 0xff, 0xff, 0xff, 0xff, 0, 0], 0, 0xfff⟩
          matchLyr3 := ⟨0, 0xffffffff, 0, 0⟩
          matchLyr4 := ⟨.udp, 0, 0xffff⟩
          matchParserSampleFieldVec := [⟨0xffff, 7⟩]
          matchMetadataRegC0 := 0xffffffff }
      matchCriteriaEnabled := fgMatchOuterHdr ||| fgMatchMetadataRegC0 ||| fgMatchParserFields }

/-- A value for `udpCriteria`. -/
def udpValue : MatchParamsEx where
  matchLyr2 := ⟨zeroMac, #v[1, 2, 3, 4, 5, 6, 0, 0], 0, 100⟩
  matchLyr3 := ⟨0, 0x0a000001, 0, 0⟩
  matchLyr4 := ⟨.none, 0, 4791⟩
  matchParserSampleFieldVec := [⟨42, 7⟩]
  matchMetadataRegC0 := 5

theorem decodes_of_apply_udp :
  ∃ m, udpCriteria.apply zeros 0 udpValue = (.ok, m) ∧ udpCriteria.Decodes 0 udpValue m
  := ⟨_, rfl, decodes_of_apply rfl⟩

/-- Criteria with one parser sample and no other entry, whose sample entry is zero. -/
def zeroSample : FlowMatcher where
  mAttr :=
    { matchCriteria := { MatchParamsEx.empty with matchParserSampleFieldVec := [⟨0, 0⟩] }
      matchCriteriaEnabled := fgMatchParserFields }

/-- Though every entry of `zeroSample` is zero, the value of the sample is written: bit 31 of
the first slot is set. -/
theorem zeroSample_written :
  ∃ m, zeroSample.apply zeros 0
      { MatchParamsEx.empty with matchParserSampleFieldVec := [⟨1, 0⟩] } = (.ok, m)
    ∧ bit m (8 * FteMatchParam.miscParameters4 + 31) = true
  := ⟨_, rfl, by decide⟩

end FlowMatcher

end Dpcp
