import Dpcp.Dcmd.Masked
import Dpcp.Flow.RuleKernel

/-!
# The packets a rule admits

A flow group gives the device match criteria and a rule gives it a match value.  The device admits a
packet to the rule when, in the blocks that are enabled, the headers of the packet and the match
value have the same bits wherever the criteria have one.

What the buffers mean is said of the fields: `MatchBlock.Meets` compares the headers of a packet
with a match value field by field, each under its criteria.

* The criteria in the mailbox of a PRM group and the match value in the mailbox of a rule admit the
  packets that meet every block the group enables.
* The flow of a root table compares the outer headers only.  It admits whatever the rule of a PRM
  table with the same attributes admits.
* Two rules of a group admit a packet in common just if the packet that the one describes meets the
  other.
-/

namespace Dpcp

open Bits Dcmd Prm

/-! ### What a device compares -/

/-- The first bit of a block in `fte_match_param`.  Every block has 512 bits. -/
def MatchBlock.first : MatchBlock → Nat
  | outerHeaders => 8 * FteMatchParam.outerHeaders
  | metadataRegister => 8 * FteMatchParam.miscParameters2
  | parserSamples => 8 * FteMatchParam.miscParameters4

/-- The headers of a packet, in the layout of `fte_match_param`, match the value at `pv` under the
criteria at `pc`, in the blocks that `enable` enables. -/
def Admits (enable : BitVec 8) (criteria : Memory) (pc : Nat) (value : Memory) (pv : Nat)
    (headers : Memory) : Prop :=
  ∀ b : MatchBlock, Enables enable b →
    MaskedEq criteria (8 * pc + b.first) value (8 * pv + b.first) headers b.first 0x200

/-- Whether a packet is admitted depends on the bits of the two buffers only. -/
theorem admits_congr {enable : BitVec 8} {mc mc' mv mv' : Memory} {pc pv : Nat}
    (hc : ∀ j, j < 8 * FteMatchParam.bytes → bit mc' (8 * pc + j) = bit mc (8 * pc + j))
    (hv : ∀ j, j < 8 * FteMatchParam.bytes → bit mv' (8 * pv + j) = bit mv (8 * pv + j))
    (headers : Memory) :
  Admits enable mc' pc mv' pv headers ↔ Admits enable mc pc mv pv headers
  := by
  have hfirst (b : MatchBlock) {t : Nat} (ht : t < 0x200) :
      b.first + t < 8 * FteMatchParam.bytes := by
    cases b <;> simp only [MatchBlock.first, FteMatchParam.outerHeaders,
      FteMatchParam.miscParameters2, FteMatchParam.miscParameters4, FteMatchParam.bytes] <;> omega
  have hrun (b : MatchBlock) :
      MaskedEq mc' (8 * pc + b.first) mv' (8 * pv + b.first) headers b.first 0x200
        ↔ MaskedEq mc (8 * pc + b.first) mv (8 * pv + b.first) headers b.first 0x200 := by
    constructor
    · intro heq t ht hmask
      rw [Nat.add_assoc, ← hc _ (hfirst b ht), ← Nat.add_assoc] at hmask
      rw [heq t ht hmask, Nat.add_assoc, hv _ (hfirst b ht)]
    · intro heq t ht hmask
      rw [Nat.add_assoc, hc _ (hfirst b ht), ← Nat.add_assoc] at hmask
      rw [heq t ht hmask, Nat.add_assoc, ← hv _ (hfirst b ht)]
  simp only [Admits, hrun]

/-! ### The headers of a packet -/

/-- A byte of a MAC address. -/
def macByte (mac : Vector (BitVec 8) 8) (i : Nat) : BitVec 8 :=
  mac.toList.getD i 0

theorem macByte_eq (mac : Vector (BitVec 8) 8) {i : Nat} (hi : i < 8) :
  macByte mac i = mac[i]
  := by
  simp [macByte, List.getD_eq_getElem?_getD, hi]

theorem macByte_zeroMac (i : Nat) :
  macByte zeroMac i = 0
  := by
  by_cases hi : i < 8
  · rw [macByte_eq _ hi]
    simp [zeroMac]
  · simp [macByte, List.getD_eq_getElem?_getD, hi]

/-- What a device knows of a packet: the fields of its outer headers, the samples of the parser and
the metadata register. -/
structure Headers where
  outer : OuterField → BitVec 32
  dstMac : Nat → BitVec 8
  srcMac : Nat → BitVec 8
  sample : Nat → ParserSampleField
  metadataRegC0 : BitVec 32

namespace Headers

/-- The headers in the layout of `fte_match_param`. -/
def parse (m : Memory) : Headers where
  outer f := devxGet m FteMatchParam.outerHeaders f.field
  dstMac i := m (FteMatchParam.outerHeaders + FteMatchSetLyr24.dmac4716 + i)
  srcMac i := m (FteMatchParam.outerHeaders + FteMatchSetLyr24.smac4716 + i)
  sample i :=
    { val := devxGet m FteMatchParam.miscParameters4 (FteMatchSetMisc4.progSampleFieldValue i)
      id := devxGet m FteMatchParam.miscParameters4 (FteMatchSetMisc4.progSampleFieldId i) }
  metadataRegC0 := devxGet m FteMatchParam.miscParameters2 FteMatchSetMisc2.metadataRegC0

/-- The packet that a match value describes. -/
def describedBy (value : MatchParamsEx) : Headers where
  outer f := f.valueOf value &&& lowMask f.field.size
  dstMac i := macByte value.matchLyr2.dstMac i
  srcMac i := macByte value.matchLyr2.srcMac i
  sample i := value.matchParserSampleFieldVec.getD i ⟨0, 0⟩
  metadataRegC0 := value.matchMetadataRegC0

end Headers

/-- A packet meets a block of the criteria: under the criteria, its headers are those of the match
value. -/
def MatchBlock.Meets (criteria value : MatchParamsEx) (headers : Headers) : MatchBlock → Prop
  | outerHeaders =>
      (∀ f : OuterField, f.SelectedBy criteria →
          headers.outer f &&& f.valueOf criteria
            = f.valueOf value &&& lowMask f.field.size &&& f.valueOf criteria)
        ∧ (∀ i < 6, headers.dstMac i &&& macByte criteria.matchLyr2.dstMac i
          = macByte value.matchLyr2.dstMac i &&& macByte criteria.matchLyr2.dstMac i)
        ∧ ∀ i < 6, headers.srcMac i &&& macByte criteria.matchLyr2.srcMac i
          = macByte value.matchLyr2.srcMac i &&& macByte criteria.matchLyr2.srcMac i
  | metadataRegister =>
      headers.metadataRegC0 &&& criteria.matchMetadataRegC0
        = value.matchMetadataRegC0 &&& criteria.matchMetadataRegC0
  | parserSamples =>
      ∀ i c v, criteria.matchParserSampleFieldVec[i]? = some c →
        value.matchParserSampleFieldVec[i]? = some v →
        (headers.sample i).val &&& c.val = v.val &&& c.val
          ∧ (headers.sample i).id &&& c.id = v.id &&& c.id

/-- The blocks that a group enables are met. -/
def FlowGroupAttr.Meets (attr : FlowGroupAttr) (value : MatchParamsEx) (headers : Headers) : Prop :=
  ∀ b : MatchBlock, Enables attr.matchCriteriaEnable b → b.Meets attr.matchCriteria value headers

/-! ### Fields and buffers -/

/-- A word that fits a field, compared with a value of the field under its criteria. -/
theorem and_lowMask_eq_iff {size : Nat} (hsize : size ≤ 32) {h : BitVec 32}
    (hfits : h.toNat < 2 ^ size) (v c : BitVec 32) :
  h &&& (c &&& lowMask size) = v &&& lowMask size &&& (c &&& lowMask size)
    ↔ h &&& c = v &&& lowMask size &&& c
  := by
  have hself : h &&& lowMask size = h := (and_lowMask_eq_self_iff hsize h).mpr hfits
  have hleft : h &&& (c &&& lowMask size) = h &&& c := by
    rw [BitVec.and_comm c, ← BitVec.and_assoc, hself]
  have hright : v &&& lowMask size &&& (c &&& lowMask size) = v &&& lowMask size &&& c := by
    rw [BitVec.and_comm c, ← BitVec.and_assoc, BitVec.and_assoc v, BitVec.and_self]
  rw [hleft, hright]

namespace OuterField

theorem field_within (f : OuterField) :
  f.field.offset + f.field.size ≤ 0x200
  := by
  cases f <;> decide

end OuterField

namespace FlowMatcher

variable {a : FlowMatcher}

theorem enables_flag (a : FlowMatcher) (b : MatchBlock) :
  a.enables b.flag = true ↔ Enables a.mAttr.matchCriteriaEnabled b
  := by
  simp only [enables, Enables, bne_iff_ne]

/-- The bits of a block that the criteria select, counted from the start of the block. -/
def SelectsIn (a : FlowMatcher) (t : Nat) : MatchBlock → Prop
  | .outerHeaders =>
      (∃ f : OuterField, f.SelectedBy a.mAttr.matchCriteria
          ∧ f.field.offset ≤ t ∧ t < f.field.offset + f.field.size)
        ∨ (a.mAttr.matchCriteria.matchLyr2.dstMac ≠ zeroMac ∧ 0x40 ≤ t ∧ t < 0x40 + 48)
        ∨ (a.mAttr.matchCriteria.matchLyr2.srcMac ≠ zeroMac ∧ 0 ≤ t ∧ t < 0 + 48)
  | .metadataRegister =>
      a.mAttr.matchCriteria.matchMetadataRegC0 ≠ 0 ∧ 0x160 ≤ t ∧ t < 0x160 + 0x20
  | .parserSamples =>
      ∃ i < a.samples, 0x40 * i ≤ t ∧ t < 0x40 * i + 0x20
        ∨ 0x40 * i + 0x20 ≤ t ∧ t < 0x40 * i + 0x20 + 0x20

/-- A bit that the criteria select lies in the block it belongs to, and the block is enabled. -/
theorem selectsIn_of_selects {b : MatchBlock} {p t : Nat} (ht : t < 0x200)
    (h : a.Selects p (8 * p + b.first + t)) :
  a.enables b.flag = true ∧ a.SelectsIn t b
  := by
  rcases h with ⟨f, henabled, hf, hj⟩ | ⟨henabled, hmac, hlo, hhi⟩ | ⟨henabled, hmac, hlo, hhi⟩ |
    ⟨i, henabled, hi, hj⟩ | ⟨i, henabled, hi, hj⟩ | ⟨henabled, hreg, hj⟩
  · have hwithin := f.field_within
    cases b <;> simp only [Field.Has, MatchBlock.first, FteMatchParam.outerHeaders,
      FteMatchParam.miscParameters2, FteMatchParam.miscParameters4] at hj
    · exact ⟨henabled, .inl ⟨f, hf, by omega, by omega⟩⟩
    · omega
    · omega
  · cases b <;> simp only [MatchBlock.first, FteMatchParam.outerHeaders,
      FteMatchParam.miscParameters2, FteMatchParam.miscParameters4,
      FteMatchSetLyr24.dmac4716] at hlo hhi
    · exact ⟨henabled, .inr (.inl ⟨hmac, by omega, by omega⟩)⟩
    · omega
    · omega
  · cases b <;> simp only [MatchBlock.first, FteMatchParam.outerHeaders,
      FteMatchParam.miscParameters2, FteMatchParam.miscParameters4,
      FteMatchSetLyr24.smac4716] at hlo hhi
    · exact ⟨henabled, .inr (.inr ⟨hmac, by omega, by omega⟩)⟩
    · omega
    · omega
  · cases b <;> simp only [Field.Has, MatchBlock.first, FteMatchParam.outerHeaders,
      FteMatchParam.miscParameters2, FteMatchParam.miscParameters4,
      FteMatchSetMisc4.progSampleFieldValue] at hj
    · omega
    · omega
    · exact ⟨henabled, i, hi, .inl ⟨by omega, by omega⟩⟩
  · cases b <;> simp only [Field.Has, MatchBlock.first, FteMatchParam.outerHeaders,
      FteMatchParam.miscParameters2, FteMatchParam.miscParameters4,
      FteMatchSetMisc4.progSampleFieldId] at hj
    · omega
    · omega
    · exact ⟨henabled, i, hi, .inr ⟨by omega, by omega⟩⟩
  · cases b <;> simp only [Field.Has, MatchBlock.first, FteMatchParam.outerHeaders,
      FteMatchParam.miscParameters2, FteMatchParam.miscParameters4,
      FteMatchSetMisc2.metadataRegC0] at hj
    · omega
    · exact ⟨henabled, hreg, by omega, by omega⟩
    · omega

/-- A field of the outer headers in a buffer. -/
theorem Decodes.devxGet_outer {p : Nat} {value : MatchParamsEx} {m : Memory}
    (h : a.Decodes p value m) (henabled : a.enables fgMatchOuterHdr = true) {f : OuterField}
    (hf : f.SelectedBy a.mAttr.matchCriteria) :
  devxGet m (p + FteMatchParam.outerHeaders) f.field = f.valueOf value &&& lowMask f.field.size
  := by
  apply BitVec.eq_of_toNat_eq
  rw [h.outer f henabled hf, BitVec.toNat_and, toNat_lowMask f.field.size_le,
    Nat.and_two_pow_sub_one_eq_mod]

/-- A byte of the destination MAC in a buffer. -/
theorem Decodes.dstMac_byte {p : Nat} {value : MatchParamsEx} {m : Memory} (h : a.Decodes p value m)
    (henabled : a.enables fgMatchOuterHdr = true)
    (hmac : a.mAttr.matchCriteria.matchLyr2.dstMac ≠ zeroMac) (i : Nat) (hi : i < 6) :
  m (p + FteMatchParam.outerHeaders + FteMatchSetLyr24.dmac4716 + i)
    = macByte value.matchLyr2.dstMac i
  := by
  rw [h.dstMac henabled hmac i hi, macByte_eq]

/-- A byte of the source MAC in a buffer. -/
theorem Decodes.srcMac_byte {p : Nat} {value : MatchParamsEx} {m : Memory} (h : a.Decodes p value m)
    (henabled : a.enables fgMatchOuterHdr = true)
    (hmac : a.mAttr.matchCriteria.matchLyr2.srcMac ≠ zeroMac) (i : Nat) (hi : i < 6) :
  m (p + FteMatchParam.outerHeaders + FteMatchSetLyr24.smac4716 + i)
    = macByte value.matchLyr2.srcMac i
  := by
  rw [h.srcMac henabled hmac i hi, macByte_eq]

/-- A MAC address that is compared: the criteria are written unless all their bytes are zero. -/
theorem mac_iff {mc mv : Memory} {q q' : Nat} {criteria value : Vector (BitVec 8) 8}
    (hc : criteria ≠ zeroMac → ∀ i < 6, mc (q + i) = macByte criteria i)
    (hv : criteria ≠ zeroMac → ∀ i < 6, mv (q' + i) = macByte value i) (headers : Memory)
    (r : Nat) :
  (criteria ≠ zeroMac → MaskedEq mc (8 * q) mv (8 * q') headers (8 * r) 48)
    ↔ ∀ i < 6, headers (r + i) &&& macByte criteria i = macByte value i &&& macByte criteria i
  := by
  by_cases hzero : criteria = zeroMac
  · constructor
    · intro _ i _
      rw [hzero, macByte_zeroMac]
      simp only [BitVec.ofNat_eq_ofNat, BitVec.and_zero]
    · intro _ hne
      cases hne hzero
  · have hbytes := maskedEq_bytes_iff mc mv headers q q' r 6
    rw [show 8 * 6 = 48 from rfl] at hbytes
    constructor
    · intro heq i hi
      rw [← hc hzero i hi, ← hv hzero i hi]
      apply hbytes.mp (heq hzero) i hi
    · intro heq _
      apply hbytes.mpr
      intro i hi
      rw [hc hzero i hi, hv hzero i hi]
      apply heq i hi

section Buffers

variable {value : MatchParamsEx} {mc mv : Memory} {pc pv : Nat}
variable (hc : a.Decodes pc a.mAttr.matchCriteria mc) (hv : a.Decodes pv value mv)

include hc

/-- A bit of the criteria that is set is one they select. -/
theorem selectsIn_of_bit {b : MatchBlock} {t : Nat} (ht : t < 0x200)
    (hbit : bit mc (8 * pc + b.first + t) = true) :
  a.enables b.flag = true ∧ a.SelectsIn t b
  := by
  apply selectsIn_of_selects ht
  by_contra hnot
  rw [hc.rest _ hnot] at hbit
  cases hbit

/-- A block that the matcher does not enable has no criteria. -/
theorem maskedEq_of_not_enables {b : MatchBlock} (h : ¬ Enables a.mAttr.matchCriteriaEnabled b)
    (mv : Memory) (pv : Nat) (headers : Memory) :
  MaskedEq mc (8 * pc + b.first) mv (8 * pv + b.first) headers b.first 0x200
  := by
  intro t ht hmask
  cases h ((enables_flag a b).mp (selectsIn_of_bit hc ht hmask).1)

include hv

/-- The outer headers are compared field by field. -/
theorem outer_iff (henabled : a.enables fgMatchOuterHdr = true) (headers : Memory) :
  MaskedEq mc (8 * pc + MatchBlock.outerHeaders.first) mv (8 * pv + MatchBlock.outerHeaders.first)
      headers MatchBlock.outerHeaders.first 0x200
    ↔ MatchBlock.outerHeaders.Meets a.mAttr.matchCriteria value (.parse headers)
  := by
  have hdst := mac_iff (hc.dstMac_byte henabled) (hv.dstMac_byte henabled) headers
    (FteMatchParam.outerHeaders + FteMatchSetLyr24.dmac4716)
  have hsrc := mac_iff (hc.srcMac_byte henabled) (hv.srcMac_byte henabled) headers
    (FteMatchParam.outerHeaders + FteMatchSetLyr24.smac4716)
  have hfield : ∀ f : OuterField, f.SelectedBy a.mAttr.matchCriteria →
      (MaskedEq mc (8 * (pc + FteMatchParam.outerHeaders) + f.field.offset) mv
          (8 * (pv + FteMatchParam.outerHeaders) + f.field.offset) headers
          (8 * FteMatchParam.outerHeaders + f.field.offset) f.field.size
        ↔ (Headers.parse headers).outer f &&& f.valueOf a.mAttr.matchCriteria
          = f.valueOf value &&& lowMask f.field.size &&& f.valueOf a.mAttr.matchCriteria) := by
    intro f hf
    rw [maskedEq_field_iff, hc.devxGet_outer henabled hf, hv.devxGet_outer henabled hf]
    apply and_lowMask_eq_iff f.field.size_le (devxGet_lt _ _ _)
  simp only [MatchBlock.Meets, Headers.parse] at hfield ⊢
  rw [← hdst, ← hsrc]
  simp only [MatchBlock.first, FteMatchParam.outerHeaders, FteMatchSetLyr24.dmac4716,
    FteMatchSetLyr24.smac4716] at hfield ⊢
  constructor
  · intro heq
    refine ⟨?_, ?_, ?_⟩
    · intro f hf
      apply (hfield f hf).mp
      apply heq.part f.field_within
    · intro _
      apply heq.part (d := 0x40) (s := 48) (by decide)
    · intro _
      apply heq.part (d := 0) (s := 48) (by decide)
  · rintro ⟨hfields, hdsts, hsrcs⟩ t ht hmask
    rcases (selectsIn_of_bit (b := .outerHeaders) hc ht hmask).2 with ⟨f, hf, hlo, hhi⟩ |
      ⟨hmac, hlo, hhi⟩ | ⟨hmac, hlo, hhi⟩
    · apply ((hfield f hf).mpr (hfields f hf)).bit_of_part hlo hhi hmask
    · apply MaskedEq.bit_of_part (d := 0x40) (hdsts hmac) hlo hhi hmask
    · apply MaskedEq.bit_of_part (d := 0) (hsrcs hmac) hlo hhi hmask

/-- The metadata register is compared as a whole. -/
theorem metadata_iff (henabled : a.enables fgMatchMetadataRegC0 = true) (headers : Memory) :
  MaskedEq mc (8 * pc + MatchBlock.metadataRegister.first) mv
      (8 * pv + MatchBlock.metadataRegister.first) headers MatchBlock.metadataRegister.first 0x200
    ↔ MatchBlock.metadataRegister.Meets a.mAttr.matchCriteria value (.parse headers)
  := by
  have hfield := maskedEq_field_iff mc mv headers (pc + FteMatchParam.miscParameters2)
    (pv + FteMatchParam.miscParameters2) FteMatchParam.miscParameters2
    FteMatchSetMisc2.metadataRegC0
  simp only [MatchBlock.Meets, Headers.parse]
  by_cases hreg : a.mAttr.matchCriteria.matchMetadataRegC0 = 0
  · simp only [hreg, BitVec.ofNat_eq_ofNat, BitVec.and_zero, iff_true]
    intro t ht hmask
    cases (selectsIn_of_bit (b := .metadataRegister) hc ht hmask).2.1 hreg
  · rw [hc.metadata henabled hreg, hv.metadata henabled hreg] at hfield
    rw [← hfield]
    simp only [MatchBlock.first, Nat.mul_add]
    constructor
    · intro heq
      apply heq.part (d := 0x160) (s := 0x20) (by decide)
    · intro heq t ht hmask
      obtain ⟨-, hlo, hhi⟩ := (selectsIn_of_bit (b := .metadataRegister) hc ht hmask).2
      apply MaskedEq.bit_of_part (d := 0x160) heq hlo hhi hmask

/-- The samples are compared one by one. -/
theorem samples_iff (henabled : a.enables fgMatchParserFields = true) (headers : Memory) :
  MaskedEq mc (8 * pc + MatchBlock.parserSamples.first) mv
      (8 * pv + MatchBlock.parserSamples.first) headers MatchBlock.parserSamples.first 0x200
    ↔ MatchBlock.parserSamples.Meets a.mAttr.matchCriteria value (.parse headers)
  := by
  obtain ⟨-, hle, hcriteria⟩ := hc.sample henabled
  obtain ⟨hlength, -, hvalue⟩ := hv.sample henabled
  have hfield := maskedEq_field_iff mc mv headers (pc + FteMatchParam.miscParameters4)
    (pv + FteMatchParam.miscParameters4) FteMatchParam.miscParameters4
  simp only [MatchBlock.Meets, Headers.parse]
  constructor
  · intro heq i c v hci hvi
    have hi : i < a.samples := (List.getElem?_eq_some_iff.mp hci).1
    obtain ⟨hcval, hcid⟩ := hcriteria i c hci
    obtain ⟨hvval, hvid⟩ := hvalue i v hvi
    constructor
    · rw [← hcval, ← hvval]
      apply (hfield (FteMatchSetMisc4.progSampleFieldValue i)).mp
      simp only [MatchBlock.first, Nat.mul_add] at heq ⊢
      apply heq.part (d := 0x40 * i) (s := 0x20) (by omega)
    · rw [← hcid, ← hvid]
      apply (hfield (FteMatchSetMisc4.progSampleFieldId i)).mp
      simp only [MatchBlock.first, Nat.mul_add] at heq ⊢
      apply heq.part (d := 0x40 * i + 0x20) (s := 0x20) (by omega)
  · intro hmeets t ht hmask
    obtain ⟨i, hi, hrun⟩ := (selectsIn_of_bit (b := .parserSamples) hc ht hmask).2
    obtain ⟨c, hci⟩ : ∃ c, a.mAttr.matchCriteria.matchParserSampleFieldVec[i]? = some c :=
      ⟨_, List.getElem?_eq_getElem hi⟩
    obtain ⟨v, hvi⟩ : ∃ v, value.matchParserSampleFieldVec[i]? = some v :=
      ⟨_, List.getElem?_eq_getElem (hlength.symm ▸ hi)⟩
    obtain ⟨hval, hid⟩ := hmeets i c v hci hvi
    obtain ⟨hcval, hcid⟩ := hcriteria i c hci
    obtain ⟨hvval, hvid⟩ := hvalue i v hvi
    rcases hrun with ⟨hlo, hhi⟩ | ⟨hlo, hhi⟩
    · rw [← hcval, ← hvval] at hval
      have heq := (hfield (FteMatchSetMisc4.progSampleFieldValue i)).mpr hval
      simp only [MatchBlock.first, Nat.mul_add] at heq hmask ⊢
      apply MaskedEq.bit_of_part (d := 0x40 * i) heq hlo hhi hmask
    · rw [← hcid, ← hvid] at hid
      have heq := (hfield (FteMatchSetMisc4.progSampleFieldId i)).mpr hid
      simp only [MatchBlock.first, Nat.mul_add] at heq hmask ⊢
      apply MaskedEq.bit_of_part (d := 0x40 * i + 0x20) heq hlo hhi hmask

/-- The device admits the packets that meet the blocks which both the device and the matcher
enable. -/
theorem admits_iff_meets (enable : BitVec 8) (headers : Memory) :
  Admits enable mc pc mv pv headers
    ↔ ∀ b, Enables enable b → Enables a.mAttr.matchCriteriaEnabled b →
      b.Meets a.mAttr.matchCriteria value (.parse headers)
  := by
  have hblock (b : MatchBlock) (hb : Enables a.mAttr.matchCriteriaEnabled b) :
      MaskedEq mc (8 * pc + b.first) mv (8 * pv + b.first) headers b.first 0x200
        ↔ b.Meets a.mAttr.matchCriteria value (.parse headers) := by
    rw [← enables_flag] at hb
    cases b with
    | outerHeaders => apply outer_iff hc hv hb
    | metadataRegister => apply metadata_iff hc hv hb
    | parserSamples => apply samples_iff hc hv hb
  constructor
  · intro h b henable hb
    apply (hblock b hb).mp (h b henable)
  · intro h b henable
    by_cases hb : Enables a.mAttr.matchCriteriaEnabled b
    · apply (hblock b hb).mpr (h b henable hb)
    · apply maskedEq_of_not_enables hc hb

end Buffers

/-- Where the buffer was zero before, the part from it on says what the match value says. -/
theorem decodes_clearBefore {p : Nat} {value : MatchParamsEx} {m₀ m : Memory}
    (haccepts : a.Accepts value)
    (hm : bit m = puts (bit m₀) (selected (a.writes p value)))
    (hzero : ∀ j, 8 * p ≤ j → bit m₀ j = false) :
  a.Decodes p value (clearBefore m p)
  := by
  apply decodes_of_puts _ haccepts.2
  funext i
  rw [bit_clearBefore, hm]
  by_cases hi : 8 * p ≤ i
  · rw [decide_eq_true hi, Bool.true_and]
    apply puts_congr
    rw [hzero i hi, bit_zeros]
  · rw [decide_eq_false hi, Bool.false_and, puts_of_not_covers, bit_zeros]
    intro w hw hcovers
    have hwithin := writes_within (fun henabled => (haccepts.2 henabled).2) hw
    simp only [Write.Within, Write.Covers] at hwithin hcovers
    omega

/-- The criteria of a matcher that accepts some value. -/
theorem accepts_criteria {value : MatchParamsEx} (h : a.Accepts value) :
  a.Accepts a.mAttr.matchCriteria
  := ⟨h.1, fun henabled => ⟨rfl, (h.2 henabled).2⟩⟩

end FlowMatcher

/-! ### A rule of a PRM table -/

/-- The match value in the mailbox of a rule. -/
theorem FlowRuleExPrm.decodes_matchValue {r : FlowRuleExPrm} {env : Env} {m : Memory}
    (h : r.Decodes env m) :
  r.mMatcher.Accepts r.mMatchValue
    ∧ ∃ m₀, r.mMatcher.Decodes (SetFteIn.flowContext + FlowContext.matchValue) r.mMatchValue m₀
      ∧ ∀ j, j < 8 * FteMatchParam.bytes →
        bit m (8 * (SetFteIn.flowContext + FlowContext.matchValue) + j)
          = bit m₀ (8 * (SetFteIn.flowContext + FlowContext.matchValue) + j)
  := by
  obtain ⟨m₁, hbefore, hbits⟩ := h.before
  obtain ⟨m₂, hconfig, hmatch⟩ := Result.andThen_eq_ok.mp hbefore
  have haccepts := FlowMatcher.accepts_of_apply hmatch
  refine ⟨haccepts, _,
    FlowMatcher.decodes_clearBefore haccepts (FlowMatcher.apply_eq_ok hmatch).1 ?_, ?_⟩
  · intro j hj
    rw [configFlowRule_eq_ok hconfig, puts_of_not_covers, bit_zeros]
    intro w hw hcovers
    have hwithin := configWrites_within hw
    simp only [Write.Within, Write.Covers] at hwithin hcovers
    simp only [SetFteIn.flowContext, FlowContext.matchValue] at hj
    omega
  · intro j hj
    rw [bit_clearBefore, decide_eq_true (by omega), Bool.true_and]
    apply hbits
    simp only [SetFteIn.flowContext, FlowContext.matchValue, FteMatchParam.bytes] at hj ⊢
    omega

section PrmRule

variable {gattr : FlowGroupAttr} {table : Option FlowTablePrm} {device : Device}
variable {group : FlowGroupPrm} {mg : Memory}

/-- The criteria in the mailbox of a created group, if its matcher accepts them. -/
theorem FlowGroupPrm.decodes_criteria
    (hgroup : FlowGroupPrm.create ⟨.new true gattr, 0⟩ table device = (.ok, group, some mg))
    (haccepts : gattr.matcher.Accepts gattr.matchCriteria) :
  ∃ m₀, gattr.matcher.Decodes CreateFlowGroupIn.matchCriteria gattr.matchCriteria m₀
    ∧ ∀ j, j < 8 * FteMatchParam.bytes →
      bit mg (8 * CreateFlowGroupIn.matchCriteria + j)
        = bit m₀ (8 * CreateFlowGroupIn.matchCriteria + j)
  := by
  obtain ⟨flowTableId, hsent⟩ := create_eq_ok hgroup
  rw [Option.some.inj hsent]
  refine ⟨_, decodes_mailbox (g := { FlowGroup.new true gattr with
    mMatcher := some gattr.matcher }) haccepts flowTableId, ?_⟩
  intro j _
  rw [bit_clearBefore, decide_eq_true (by omega), Bool.true_and]

variable {rattr : FlowRuleAttrEx} {table' : FlowTablePrm} {env : Env} {alloc : Bool}
variable {order : List FlowAction} {rule : FlowRuleExPrm} {mr : Memory} {len : Nat}

/-- A rule that was created has sent a mailbox that says what the rule says. -/
theorem FlowRuleExPrm.decodes_of_create {r : FlowRuleExPrm}
    (hperm : order.Perm r.mActions.entries)
    (hrule : r.create env alloc order = (.ok, rule, some (mr, len))) :
  r.Decodes env mr
  := by
  obtain ⟨-, -, -, l, hmailbox⟩ := mailbox_of_create (congrArg (fun r => r.2.2) hrule)
  apply decodes_of_mailbox hperm hmailbox

/-- A rule that was created has a sample for each sample of the criteria, if these are enabled. -/
theorem FlowRuleExPrm.samples_of_create
    (hperm : order.Perm (FlowRuleExPrm.new true rattr table' group gattr.matcher).mActions.entries)
    (hrule : (FlowRuleExPrm.new true rattr table' group gattr.matcher).create env alloc order
      = (.ok, rule, some (mr, len)))
    (hb : Enables gattr.matchCriteriaEnable .parserSamples) :
  rattr.matchValue.matchParserSampleFieldVec.length
    = gattr.matchCriteria.matchParserSampleFieldVec.length
  := by
  have haccepts := (decodes_matchValue (decodes_of_create hperm hrule)).1
  apply (haccepts.2 ((FlowMatcher.enables_flag gattr.matcher .parserSamples).mpr hb)).1

/-- With the criteria and the mask in the mailbox of a group, the match value in the mailbox of a
rule admits the packets that meet every block the group enables. -/
theorem FlowRuleExPrm.admits_iff_meets
    (hgroup : FlowGroupPrm.create ⟨.new true gattr, 0⟩ table device = (.ok, group, some mg))
    {r : FlowRuleExPrm} (hmatcher : r.mMatcher = gattr.matcher) (hdecodes : r.Decodes env mr)
    (headers : Memory) :
  Admits ((devxGet mg 0 CreateFlowGroupIn.matchCriteriaEnable).setWidth 8) mg
      CreateFlowGroupIn.matchCriteria mr (SetFteIn.flowContext + FlowContext.matchValue) headers
    ↔ gattr.Meets r.mMatchValue (.parse headers)
  := by
  obtain ⟨haccepts, mv, hv, hvbits⟩ := decodes_matchValue hdecodes
  rw [hmatcher] at haccepts hv
  have hcriteria := FlowMatcher.accepts_criteria haccepts
  obtain ⟨mc, hc, hcbits⟩ := FlowGroupPrm.decodes_criteria hgroup hcriteria
  rw [FlowGroupPrm.enabled_of_create hcriteria hgroup, admits_congr hcbits hvbits,
    FlowMatcher.admits_iff_meets hc hv]
  constructor
  · intro h b hb
    apply h b hb hb
  · intro h b _ hb
    apply h b hb

/-- Let a group be created in a PRM table and a rule in the group.  The rule names the group, and
with the criteria and the mask in the mailbox of the group, the match value in the mailbox of the
rule admits exactly the packets that meet every block the group enables. -/
theorem prm_rule_admits_iff
    (hgroup : FlowGroupPrm.create ⟨.new true gattr, 0⟩ table device = (.ok, group, some mg))
    (hperm : order.Perm (FlowRuleExPrm.new true rattr table' group gattr.matcher).mActions.entries)
    (hrule : (FlowRuleExPrm.new true rattr table' group gattr.matcher).create env alloc order
      = (.ok, rule, some (mr, len))) :
  devxGet mr SetFteIn.flowContext FlowContext.groupId = group.mGroupId
    ∧ ∀ headers, Admits ((devxGet mg 0 CreateFlowGroupIn.matchCriteriaEnable).setWidth 8) mg
        CreateFlowGroupIn.matchCriteria mr (SetFteIn.flowContext + FlowContext.matchValue) headers
      ↔ gattr.Meets rattr.matchValue (.parse headers)
  := by
  have hdecodes := FlowRuleExPrm.decodes_of_create hperm hrule
  constructor
  · apply hdecodes.groupId
  · apply FlowRuleExPrm.admits_iff_meets hgroup rfl hdecodes

end PrmRule

/-- A group with the criteria of `udpCriteria`. -/
def udpGroup : FlowGroupAttr :=
  ⟨0, 7, FlowMatcher.udpCriteria.mAttr.matchCriteriaEnabled,
    FlowMatcher.udpCriteria.mAttr.matchCriteria⟩

/-- A rule of `udpGroup` that forwards to one TIR what goes to a UDP port. -/
def udpRule (dstPort : BitVec 16) : FlowRuleAttrEx where
  priority := 0
  matchValue := { FlowMatcher.udpValue with matchLyr4 := ⟨.none, 0, dstPort⟩ }
  flowIndex := 0
  actions := [.fwd ⟨[FlowRuleExPrm.tirFive], false⟩]

/-- `udpGroup`, created in a PRM table. -/
def udpGroupCreated : Status × FlowGroupPrm × Option Memory :=
  FlowGroupPrm.create ⟨.new true udpGroup, 0⟩ (some ⟨true, 0, 3⟩) accepting.device

theorem udpGroup_created :
  ∃ mg, udpGroupCreated = (.ok, udpGroupCreated.2.1, some mg)
  := ⟨_, rfl⟩

/-- A rule of `udpGroup`, before it is created. -/
def udpRuleNew (dstPort : BitVec 16) : FlowRuleExPrm :=
  .new true (udpRule dstPort) ⟨true, 0, 3⟩ udpGroupCreated.2.1 udpGroup.matcher

theorem udpRule_created {dstPort : BitVec 16} (h : dstPort = 4791 ∨ dstPort = 4789) :
  ∃ rule mr len, (udpRuleNew dstPort).create accepting true (udpRule dstPort).actions
    = (.ok, rule, some (mr, len))
  := by
  rcases h with rfl | rfl <;> exact ⟨_, _, _, rfl⟩

theorem udpRule_actions (dstPort : BitVec 16) :
  (udpRule dstPort).actions.Perm (udpRuleNew dstPort).mActions.entries
  := List.Perm.refl _

theorem prm_rule_admits_udp :
  ∃ mg rule mr len, udpGroupCreated = (.ok, udpGroupCreated.2.1, some mg)
    ∧ (udpRuleNew 4791).create accepting true (udpRule 4791).actions = (.ok, rule, some (mr, len))
    ∧ ∀ headers, Admits ((devxGet mg 0 CreateFlowGroupIn.matchCriteriaEnable).setWidth 8) mg
        CreateFlowGroupIn.matchCriteria mr (SetFteIn.flowContext + FlowContext.matchValue) headers
      ↔ udpGroup.Meets (udpRule 4791).matchValue (.parse headers)
  := by
  obtain ⟨mg, hgroup⟩ := udpGroup_created
  obtain ⟨rule, mr, len, hrule⟩ := udpRule_created (.inl rfl)
  exact ⟨mg, rule, mr, len, hgroup, hrule,
    (prm_rule_admits_iff hgroup (udpRule_actions 4791) hrule).2⟩

/-! ### Two rules of a group -/

/-- Among the packets that meet a block with the one value, those that meet it with the other are
all or none: the packet that the one value describes tells. -/
theorem MatchBlock.meets_describedBy_iff {b : MatchBlock} {criteria value value' : MatchParamsEx}
    {headers : Headers} (h : b.Meets criteria value' headers)
    (hlength : b = .parserSamples → value'.matchParserSampleFieldVec.length
      = criteria.matchParserSampleFieldVec.length) :
  b.Meets criteria value headers ↔ b.Meets criteria value (.describedBy value')
  := by
  cases b with
  | outerHeaders =>
      obtain ⟨hfields, hdst, hsrc⟩ := h
      simp only [Meets, Headers.describedBy]
      constructor
      · rintro ⟨hfields', hdst', hsrc'⟩
        refine ⟨?_, ?_, ?_⟩
        · intro f hf
          rw [← hfields f hf, hfields' f hf]
        · intro i hi
          rw [← hdst i hi, hdst' i hi]
        · intro i hi
          rw [← hsrc i hi, hsrc' i hi]
      · rintro ⟨hfields', hdst', hsrc'⟩
        refine ⟨?_, ?_, ?_⟩
        · intro f hf
          rw [hfields f hf, hfields' f hf]
        · intro i hi
          rw [hdst i hi, hdst' i hi]
        · intro i hi
          rw [hsrc i hi, hsrc' i hi]
  | metadataRegister =>
      simp only [Meets, Headers.describedBy] at h ⊢
      rw [h]
  | parserSamples =>
      have hsample {i : Nat} {c : ParserSampleField}
          (hci : criteria.matchParserSampleFieldVec[i]? = some c) :
          (headers.sample i).val &&& c.val = ((Headers.describedBy value').sample i).val &&& c.val
            ∧ (headers.sample i).id &&& c.id
              = ((Headers.describedBy value').sample i).id &&& c.id := by
        have hi : i < value'.matchParserSampleFieldVec.length := by
          rw [hlength rfl]
          apply (List.getElem?_eq_some_iff.mp hci).1
        have hvi := List.getElem?_eq_getElem hi
        simp only [Headers.describedBy, List.getD_eq_getElem?_getD, hvi, Option.getD_some]
        apply h i c _ hci hvi
      simp only [Meets]
      constructor
      · intro h' i c v hci hvi
        obtain ⟨hval, hid⟩ := hsample hci
        rw [← hval, ← hid]
        apply h' i c v hci hvi
      · intro h' i c v hci hvi
        obtain ⟨hval, hid⟩ := hsample hci
        rw [hval, hid]
        apply h' i c v hci hvi

section Overlap

variable {gattr : FlowGroupAttr} {table : Option FlowTablePrm} {device : Device}
variable {group : FlowGroupPrm} {mg : Memory}
variable {rattr rattr' : FlowRuleAttrEx} {ftable ftable' : FlowTablePrm} {env env' : Env}
variable {alloc alloc' : Bool} {order order' : List FlowAction} {rule rule' : FlowRuleExPrm}
variable {mr mr' : Memory} {len len' : Nat}

/-- Let two rules be created in a group.  There is a packet that both admit exactly if the packet
which the match value of the one describes meets the other in every block the group enables. -/
theorem prm_rules_overlap_iff
    (hgroup : FlowGroupPrm.create ⟨.new true gattr, 0⟩ table device = (.ok, group, some mg))
    (hperm : order.Perm (FlowRuleExPrm.new true rattr ftable group gattr.matcher).mActions.entries)
    (hrule : (FlowRuleExPrm.new true rattr ftable group gattr.matcher).create env alloc order
      = (.ok, rule, some (mr, len)))
    (hperm' : order'.Perm
      (FlowRuleExPrm.new true rattr' ftable' group gattr.matcher).mActions.entries)
    (hrule' : (FlowRuleExPrm.new true rattr' ftable' group gattr.matcher).create env' alloc' order'
      = (.ok, rule', some (mr', len'))) :
  let enable := (devxGet mg 0 CreateFlowGroupIn.matchCriteriaEnable).setWidth 8
  (∃ headers,
      Admits enable mg CreateFlowGroupIn.matchCriteria mr
        (SetFteIn.flowContext + FlowContext.matchValue) headers
      ∧ Admits enable mg CreateFlowGroupIn.matchCriteria mr'
        (SetFteIn.flowContext + FlowContext.matchValue) headers)
    ↔ gattr.Meets rattr.matchValue (.describedBy rattr'.matchValue)
  := by
  intro enable
  have hdecodes' := FlowRuleExPrm.decodes_of_create hperm' hrule'
  have hadmits := FlowRuleExPrm.admits_iff_meets hgroup rfl
    (FlowRuleExPrm.decodes_of_create hperm hrule)
  have hadmits' := FlowRuleExPrm.admits_iff_meets hgroup rfl hdecodes'
  -- the second rule was created, so it has a sample for each of the criteria
  have hlength (b : MatchBlock) (hb : Enables gattr.matchCriteriaEnable b) :
      b = .parserSamples → rattr'.matchValue.matchParserSampleFieldVec.length
        = gattr.matchCriteria.matchParserSampleFieldVec.length := by
    rintro rfl
    apply FlowRuleExPrm.samples_of_create hperm' hrule' hb
  constructor
  · rintro ⟨headers, h, h'⟩ b hb
    apply (MatchBlock.meets_describedBy_iff ((hadmits' headers).mp h' b hb) (hlength b hb)).mp
    apply (hadmits headers).mp h b hb
  · intro hmeets
    -- the headers that are the match value of the second rule
    let headers := slice mr' (SetFteIn.flowContext + FlowContext.matchValue)
    have h' : Admits enable mg CreateFlowGroupIn.matchCriteria mr'
        (SetFteIn.flowContext + FlowContext.matchValue) headers := by
      intro b _ t _ _
      rw [bit_slice, Nat.add_assoc]
    refine ⟨headers, ?_, h'⟩
    apply (hadmits headers).mpr
    intro b hb
    apply (MatchBlock.meets_describedBy_iff ((hadmits' headers).mp h' b hb) (hlength b hb)).mpr
    apply hmeets b hb

end Overlap

/-- No packet is admitted by the rules of two UDP ports. -/
theorem prm_rules_apart_udp :
  ∃ mg rule mr len rule' mr' len', udpGroupCreated = (.ok, udpGroupCreated.2.1, some mg)
    ∧ (udpRuleNew 4791).create accepting true (udpRule 4791).actions = (.ok, rule, some (mr, len))
    ∧ (udpRuleNew 4789).create accepting true (udpRule 4789).actions
      = (.ok, rule', some (mr', len'))
    ∧ ¬ ∃ headers,
      Admits ((devxGet mg 0 CreateFlowGroupIn.matchCriteriaEnable).setWidth 8) mg
        CreateFlowGroupIn.matchCriteria mr (SetFteIn.flowContext + FlowContext.matchValue) headers
      ∧ Admits ((devxGet mg 0 CreateFlowGroupIn.matchCriteriaEnable).setWidth 8) mg
        CreateFlowGroupIn.matchCriteria mr' (SetFteIn.flowContext + FlowContext.matchValue) headers
  := by
  obtain ⟨mg, hgroup⟩ := udpGroup_created
  obtain ⟨rule, mr, len, hrule⟩ := udpRule_created (.inl rfl)
  obtain ⟨rule', mr', len', hrule'⟩ := udpRule_created (.inr rfl)
  refine ⟨mg, rule, mr, len, rule', mr', len', hgroup, hrule, hrule', ?_⟩
  intro h
  have hmeets := (prm_rules_overlap_iff hgroup (udpRule_actions 4791) hrule (udpRule_actions 4789)
    hrule').mp h
  have hport := (hmeets .outerHeaders (by decide)).1 .udpDport ⟨rfl, by decide⟩
  revert hport
  decide

/-! ### A rule of the root table -/

/-- Applying an action leaves the match parameters of a flow description. -/
theorem FlowAction.applyRoot_match (env : RootEnv) (desc : FlowDesc) (a : FlowAction) :
  (a.applyRoot env desc).2.2.matchCriteria = desc.matchCriteria
    ∧ (a.applyRoot env desc).2.2.matchValue = desc.matchValue
  := by
  cases a with
  | fwd a =>
      simp only [applyRoot, FlowActionFwd.applyRoot]
      split
      · exact ⟨rfl, rfl⟩
      · split
        · exact ⟨rfl, rfl⟩
        · split <;> exact ⟨rfl, rfl⟩
  | tag a => exact ⟨rfl, rfl⟩
  | modify a =>
      simp only [applyRoot, FlowActionModify.applyRoot]
      split <;> exact ⟨rfl, rfl⟩
  | reformat a => exact ⟨rfl, rfl⟩
  | reparse => exact ⟨rfl, rfl⟩

namespace FlowRuleExKernel

theorem applyActions_match (env : RootEnv) (desc : FlowDesc) (order : List FlowAction) :
  (applyActions env desc order).2.2.matchCriteria = desc.matchCriteria
    ∧ (applyActions env desc order).2.2.matchValue = desc.matchValue
  := by
  induction order generalizing desc with
  | nil => exact ⟨rfl, rfl⟩
  | cons a rest ih =>
      have happly := a.applyRoot_match env desc
      rw [applyActions]
      split
      · rename_i a' desc' h
        rw [h] at happly
        obtain ⟨hcriteria, hvalue⟩ := ih desc'
        exact ⟨hcriteria.trans happly.1, hvalue.trans happly.2⟩
      · rename_i ret a' desc' _ h
        rw [h] at happly
        apply happly

/-- The match parameters of a description, once they were set. -/
theorem setMatchParams_eq_ok {r : FlowRuleExKernel} {desc desc' : FlowDesc}
    (h : r.setMatchParams desc = (.ok, desc')) :
  ∃ criteria, r.mGroup.getMatchCriteria .empty = (.ok, criteria)
    ∧ r.mMatcher.apply zeros 0 criteria = (.ok, desc'.matchCriteria)
    ∧ r.mMatcher.apply zeros 0 r.mMatchValue = (.ok, desc'.matchValue)
  := by
  simp only [setMatchParams] at h
  split at h
  case h_2 ret _ hret _ => cases hret (congrArg Prod.fst h)
  case h_1 criteria hcriteria =>
    split at h
    case h_2 ret _ hret _ => cases hret (congrArg Prod.fst h)
    case h_1 mc hmc =>
      split at h
      case h_2 ret _ hret _ => cases hret (congrArg Prod.fst h)
      case h_1 mv hmv =>
        cases h
        exact ⟨criteria, hcriteria, hmc, hmv⟩

/-- The flow of a created rule has the buffers that the matcher makes of the criteria of the group
and of the match value. -/
theorem flow_of_create {r : FlowRuleExKernel} {env : RootEnv} {order : List FlowAction}
    {flow : Flow} (h : r.create env order = (.ok, some flow)) :
  ∃ criteria, r.mGroup.getMatchCriteria .empty = (.ok, criteria)
    ∧ r.mMatcher.apply zeros 0 criteria = (.ok, flow.mMatcher.matchMask)
    ∧ r.mMatcher.apply zeros 0 r.mMatchValue = (.ok, flow.matchValue)
    ∧ flow.mMatcher.matchCriteriaEnable = fgMatchOuterHdr
  := by
  simp only [create] at h
  split at h
  · cases h
  split at h
  case h_2 ret _ hret hparams => cases hret (congrArg Prod.fst h)
  case h_1 desc hparams =>
    have hmatch := applyActions_match env desc order
    split at h
    case h_2 ret hret hactions => cases hret (congrArg Prod.fst h)
    case h_1 actions desc' hactions =>
      rw [hactions] at hmatch
      split at h
      case h_2 hflow => cases h
      case h_1 f hflow =>
        cases h
        have henable := Flow.matchCriteriaEnable_of_new hflow
        simp only [Flow.new, Option.ite_none_left_eq_some, Option.some.injEq] at hflow
        obtain ⟨-, -, -, rfl⟩ := hflow
        obtain ⟨criteria, hcriteria, hmc, hmv⟩ := setMatchParams_eq_ok hparams
        refine ⟨criteria, hcriteria, ?_, ?_, henable⟩
        · rw [hmc, ← hmatch.1]
        · rw [hmv, ← hmatch.2]

/-- The flow of a created rule admits the packets that meet the outer headers, if the group enables
them, and else all packets. -/
theorem admits_iff_meets {gattr : FlowGroupAttr} {rattr : FlowRuleAttrEx} {group : FlowGroup}
    {env : RootEnv} {order : List FlowAction} {flow : Flow}
    (hgroup : FlowGroupKernel.create (.new true gattr) true = (.ok, group))
    (hrule : (FlowRuleExKernel.new rattr group gattr.matcher).create env order = (.ok, some flow))
    (headers : Memory) :
  Admits flow.mMatcher.matchCriteriaEnable flow.mMatcher.matchMask 0 flow.matchValue 0 headers
    ↔ (Enables gattr.matchCriteriaEnable .outerHeaders →
      MatchBlock.outerHeaders.Meets gattr.matchCriteria rattr.matchValue (.parse headers))
  := by
  obtain ⟨criteria, hcriteria, hmc, hmv, henable⟩ := flow_of_create hrule
  obtain ⟨-, hcriteria'⟩ := FlowGroupKernel.create_eq_ok hgroup
  cases hcriteria.symm.trans hcriteria'
  obtain ⟨hcbits, hclength⟩ := FlowMatcher.apply_eq_ok hmc
  obtain ⟨hvbits, hvlength⟩ := FlowMatcher.apply_eq_ok hmv
  have hc := FlowMatcher.decodes_of_puts hcbits hclength
  have hv := FlowMatcher.decodes_of_puts hvbits hvlength
  rw [henable, FlowMatcher.admits_iff_meets hc hv]
  simp only [enables_outerHeaders, forall_eq]
  rfl

/-- The flow of a created rule enables the outer headers only. -/
theorem enable_of_create {r : FlowRuleExKernel} {env : RootEnv} {order : List FlowAction}
    {flow : Flow} (h : r.create env order = (.ok, some flow)) :
  flow.mMatcher.matchCriteriaEnable = fgMatchOuterHdr
  := by
  obtain ⟨-, -, -, -, henable⟩ := flow_of_create h
  apply henable

end FlowRuleExKernel

/-! ### The same rule in both tables -/

/-- The enabled criteria outside the outer headers have no bit. -/
def FlowGroupAttr.OuterOnly (attr : FlowGroupAttr) : Prop :=
  (Enables attr.matchCriteriaEnable .metadataRegister → attr.matchCriteria.matchMetadataRegC0 = 0)
    ∧ (Enables attr.matchCriteriaEnable .parserSamples →
      ∀ c ∈ attr.matchCriteria.matchParserSampleFieldVec, c.val = 0 ∧ c.id = 0)

/-- Flipping the bits of a mask changes what is seen under it, unless the mask has no bit. -/
theorem eq_zero_of_xor_and {n : Nat} {x c : BitVec n} (h : (x ^^^ c) &&& c = x &&& c) :
  c = 0
  := by
  apply BitVec.eq_of_getLsbD_eq
  intro k hk
  cases hc : c.getLsbD k with
  | false => simp
  | true =>
      have hbit := (and_eq_and_iff _ _ _).mp h k hk hc
      simp [BitVec.getLsbD_xor, hc] at hbit

/-- A packet with the bits of a mask flipped in one word is not what it was under the mask, unless
the mask has no bit. -/
theorem eq_zero_of_flipped (base : Memory) (q : Nat) {f : Field} (hsize : f.size = 32)
    {x c : BitVec 32} (h : devxGet (devxSet base q f (x ^^^ c)) q f &&& c = x &&& c) :
  c = 0
  := by
  apply eq_zero_of_xor_and (x := x)
  rw [← h, devxGet_devxSet_self, hsize,
    (and_lowMask_eq_self_iff (by decide) _).mpr (BitVec.isLt _)]

section BothTables

variable {gattr : FlowGroupAttr} {rattr : FlowRuleAttrEx}
variable {group : FlowGroup} {renv : RootEnv} {rorder : List FlowAction} {flow : Flow}
variable {table : Option FlowTablePrm} {device : Device} {groupPrm : FlowGroupPrm} {mg : Memory}
variable {ftable : FlowTablePrm} {env : Env} {alloc : Bool} {order : List FlowAction}
variable {rule : FlowRuleExPrm} {mr : Memory} {len : Nat}

/-- Let a group and a rule be created from the same attributes in the root table and in a PRM table.
The flow of the root table admits every packet that the rule of the PRM table admits, and it admits
no other packet exactly if the enabled criteria outside the outer headers have no bit. -/
theorem root_prm_admit_same_iff
    (hgroup : FlowGroupKernel.create (.new true gattr) true = (.ok, group))
    (hrule : (FlowRuleExKernel.new rattr group gattr.matcher).create renv rorder
      = (.ok, some flow))
    (hprm : FlowGroupPrm.create ⟨.new true gattr, 0⟩ table device = (.ok, groupPrm, some mg))
    (hperm : order.Perm
      (FlowRuleExPrm.new true rattr ftable groupPrm gattr.matcher).mActions.entries)
    (hrulePrm : (FlowRuleExPrm.new true rattr ftable groupPrm gattr.matcher).create env alloc order
      = (.ok, rule, some (mr, len))) :
  let root := Admits flow.mMatcher.matchCriteriaEnable flow.mMatcher.matchMask 0 flow.matchValue 0
  let prm := Admits ((devxGet mg 0 CreateFlowGroupIn.matchCriteriaEnable).setWidth 8) mg
    CreateFlowGroupIn.matchCriteria mr (SetFteIn.flowContext + FlowContext.matchValue)
  (∀ headers, prm headers → root headers)
    ∧ ((∀ headers, root headers → prm headers) ↔ gattr.OuterOnly)
  := by
  intro root prm
  have hroot (headers : Memory) : root headers ↔ _ :=
    FlowRuleExKernel.admits_iff_meets hgroup hrule headers
  have hmeets (headers : Memory) : prm headers ↔ gattr.Meets rattr.matchValue (.parse headers) :=
    FlowRuleExPrm.admits_iff_meets hprm rfl (FlowRuleExPrm.decodes_of_create hperm hrulePrm) headers
  have hincl (headers : Memory) (h : prm headers) : root headers := by
    apply (hroot headers).mpr
    intro hb
    apply (hmeets headers).mp h _ hb
  refine ⟨hincl, ?_⟩
  constructor
  · intro hsame
    -- the headers that are the match value, with one field behind the outer headers flipped
    let base := slice mr (SetFteIn.flowContext + FlowContext.matchValue)
    have hbase : prm base := by
      intro b _ t _ _
      rw [bit_slice, Nat.add_assoc]
    have hflip (q : Nat) (f : Field) (hsize : f.size = 32) (hbehind : 0x200 ≤ 8 * q + f.offset)
        (x c : BitVec 32)
        (hfield : ∀ headers, prm headers → devxGet headers q f &&& c = x &&& c) : c = 0 := by
      apply eq_zero_of_flipped base q hsize (x := x)
      apply hfield
      apply hsame
      intro b hb t ht hmask
      have houter := hincl base hbase b hb t ht hmask
      rw [FlowRuleExKernel.enable_of_create hrule, enables_outerHeaders] at hb
      rw [← houter, hb, bit_devxSet_of_not_has]
      simp only [Field.Has, MatchBlock.first, FteMatchParam.outerHeaders]
      omega
    constructor
    · intro hb
      apply hflip FteMatchParam.miscParameters2 FteMatchSetMisc2.metadataRegC0 rfl (by decide)
        rattr.matchValue.matchMetadataRegC0
      intro headers h
      apply (hmeets headers).mp h _ hb
    · intro hb c hc
      obtain ⟨i, hci⟩ := List.mem_iff_getElem?.mp hc
      have hi : i < rattr.matchValue.matchParserSampleFieldVec.length := by
        rw [FlowRuleExPrm.samples_of_create hperm hrulePrm hb]
        apply (List.getElem?_eq_some_iff.mp hci).1
      have hsample (headers : Memory) (h : prm headers) :=
        (hmeets headers).mp h _ hb i c _ hci (List.getElem?_eq_getElem hi)
      have hbehind : 0x200 ≤ 8 * FteMatchParam.miscParameters4 := by decide
      constructor
      · apply hflip _ (FteMatchSetMisc4.progSampleFieldValue i) rfl (by omega) _ _
          fun headers h => (hsample headers h).1
      · apply hflip _ (FteMatchSetMisc4.progSampleFieldId i) rfl (by omega) _ _
          fun headers h => (hsample headers h).2
  · intro honly headers h
    apply (hmeets headers).mpr
    intro b hb
    cases b with
    | outerHeaders => apply (hroot headers).mp h hb
    | metadataRegister => simp [MatchBlock.Meets, honly.1 hb]
    | parserSamples =>
        intro i c v hci _
        obtain ⟨hval, hid⟩ := honly.2 hb c (List.mem_of_getElem? hci)
        simp [hval, hid]

end BothTables

/-- The flow of the root table admits packets that the rule of the PRM table does not: it does not
look at the sample and at the metadata register. -/
theorem root_admits_more_udp :
  ∃ group flow mg rule mr len,
    FlowGroupKernel.create (.new true udpGroup) true = (.ok, group)
    ∧ (FlowRuleExKernel.new (udpRule 4791) group udpGroup.matcher).create acceptingRoot
      (udpRule 4791).actions = (.ok, some flow)
    ∧ udpGroupCreated = (.ok, udpGroupCreated.2.1, some mg)
    ∧ (udpRuleNew 4791).create accepting true (udpRule 4791).actions = (.ok, rule, some (mr, len))
    ∧ ¬ ∀ headers,
      Admits flow.mMatcher.matchCriteriaEnable flow.mMatcher.matchMask 0 flow.matchValue 0 headers →
      Admits ((devxGet mg 0 CreateFlowGroupIn.matchCriteriaEnable).setWidth 8) mg
        CreateFlowGroupIn.matchCriteria mr (SetFteIn.flowContext + FlowContext.matchValue) headers
  := by
  obtain ⟨mg, hgroup⟩ := udpGroup_created
  obtain ⟨rule, mr, len, hrule⟩ := udpRule_created (.inl rfl)
  obtain ⟨flow, hflow⟩ : ∃ flow, (FlowRuleExKernel.new (udpRule 4791)
      (FlowGroupKernel.create (.new true udpGroup) true).2 udpGroup.matcher).create acceptingRoot
      (udpRule 4791).actions = (.ok, some flow) := ⟨_, rfl⟩
  refine ⟨_, flow, mg, rule, mr, len, rfl, hflow, hgroup, hrule, ?_⟩
  intro h
  have honly := (root_prm_admit_same_iff rfl hflow hgroup (udpRule_actions 4791) hrule).2.mp h
  have hreg := honly.1 (by decide)
  revert hreg
  decide

end Dpcp
