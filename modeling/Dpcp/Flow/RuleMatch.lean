import Dpcp.Bits.Bytes
import Dpcp.Flow.Rule

/-!
# The match buffers of legacy flow rules

`flow_rule::apply_settings` fills a buffer of match criteria from the mask of the rule and a buffer
of match values from its value.  A buffer is made by the writes `writes`, each with the condition
under which it is made; the conditions look at the mask and the value, and the same ones hold for
both buffers.

The addresses are written only if ethertype and IP version are matched in full.  If they are, then
both buffers have what the parameters say; if they are not, an address in the mask is left out of
the criteria, and the rule is applied all the same.
-/

namespace Dpcp

open Bits Dcmd Prm

/-- The two addresses of a packet. -/
inductive IpSide where
  | src
  | dst

namespace IpSide

/-- The deprecated field. -/
def ip : IpSide → MatchParams → BitVec 32
  | src, params => params.srcIp
  | dst, params => params.dstIp

/-- The union. -/
def addr : IpSide → MatchParams → IpAddr
  | src, params => params.src
  | dst, params => params.dst

/-- Where the 16 bytes of the address are in a buffer. -/
def slot : IpSide → Nat
  | src => FteMatchSetLyr24.srcIpv6
  | dst => FteMatchSetLyr24.dstIpv6

/-- The IPv4 address that is written. -/
def sent (side : IpSide) (params : MatchParams) : BitVec 32 :=
  if FlowRule.deprecatedIp params then side.ip params else (side.addr params).ipv4

end IpSide

namespace FlowRule

/-! ### The writes -/

/-- Ethertype and IP version are matched in full, and are those of IPv4. -/
def MatchesIpv4 (mask value : MatchParams) : Prop :=
  (mask.ethertype = 0xffff ∧ value.ethertype = 0x0800) ∧ mask.ipVersion = 0xf ∧ value.ipVersion = 4

/-- Ethertype and IP version are matched in full, and are those of IPv6. -/
def MatchesIpv6 (mask value : MatchParams) : Prop :=
  (mask.ethertype = 0xffff ∧ value.ethertype = 0x86DD) ∧ mask.ipVersion = 0xf ∧ value.ipVersion = 6

instance (mask value : MatchParams) : Decidable (MatchesIpv4 mask value) :=
  inferInstanceAs (Decidable (_ ∧ _))

instance (mask value : MatchParams) : Decidable (MatchesIpv6 mask value) :=
  inferInstanceAs (Decidable (_ ∧ _))

theorem not_matchesIpv6 {mask value : MatchParams} (h : MatchesIpv4 mask value) :
  ¬ MatchesIpv6 mask value
  := by
  rintro ⟨⟨-, h6⟩, -⟩
  rw [h.1.2] at h6
  cases h6

/-- The conditional writes of `setHeader`. -/
def headerWrites (select params : MatchParams) : List (Bool × Write) :=
  [(true, FteMatchSetLyr24.ethertype.write 0 (params.ethertype.setWidth 32)),
    (select.vlanId ≠ 0, FteMatchSetLyr24.cvlanTag.write 0 0x1),
    (select.vlanId ≠ 0, FteMatchSetLyr24.firstVid.write 0 (params.vlanId.setWidth 32)),
    (true, FteMatchSetLyr24.ipProtocol.write 0 (params.protocol.setWidth 32)),
    (select.ipVersion ≠ 0, FteMatchSetLyr24.ipVersion.write 0 (params.ipVersion.setWidth 32))]

/-- The conditional write of `setMac`. -/
def macWrites (select params : MatchParams) : List (Bool × Write) :=
  [(select.dstMac ≠ zeroMac, .ofBytes FteMatchSetLyr24.dmac4716 (params.dstMac.toList.take 6))]

/-- The conditional writes of `setPorts`. -/
def portWrites (value params : MatchParams) : List (Bool × Write) :=
  [(value.protocol ≠ 6, FteMatchSetLyr24.udpDport.write 0 (params.dstPort.setWidth 32)),
    (value.protocol ≠ 6, FteMatchSetLyr24.udpSport.write 0 (params.srcPort.setWidth 32)),
    (value.protocol = 6, FteMatchSetLyr24.tcpDport.write 0 (params.dstPort.setWidth 32)),
    (value.protocol = 6, FteMatchSetLyr24.tcpSport.write 0 (params.srcPort.setWidth 32))]

/-- The writes of `setIp`. -/
def ipWrites (mask value params : MatchParams) : List Write :=
  if MatchesIpv4 mask value then
    [FteMatchSetLyr24.srcIpv4.write 0 (IpSide.src.sent params),
      FteMatchSetLyr24.dstIpv4.write 0 (IpSide.dst.sent params)]
  else if MatchesIpv6 mask value then
    [.ofBytes FteMatchSetLyr24.srcIpv6 params.src.ipv6.toList,
      .ofBytes FteMatchSetLyr24.dstIpv6 params.dst.ipv6.toList]
  else
    []

/-- The conditional writes but those of the addresses. -/
def fieldWrites (mask value params : MatchParams) : List (Bool × Write) :=
  headerWrites mask params ++ macWrites mask params ++ portWrites value params

/-- The conditional writes of a buffer with the parameters `params`. -/
def writes (mask value params : MatchParams) : List (Bool × Write) :=
  fieldWrites mask value params ++ (ipWrites mask value params).map (Prod.mk true)

theorem bit_setHeader (m : Memory) (select params : MatchParams) :
  bit (setHeader m select params) = puts (bit m) (selected (headerWrites select params))
  := by
  simp only [setHeader, headerWrites, puts_selected_cons, selected_nil, puts_nil,
    decide_eq_true_eq, if_true]
  split <;> split <;> simp only [bit_devxSet]

theorem bit_setMac (m : Memory) (select params : MatchParams) :
  bit (setMac m select params) = puts (bit m) (selected (macWrites select params))
  := by
  simp only [setMac, macWrites, puts_selected_cons, selected_nil, puts_nil, decide_eq_true_eq]
  split
  · apply bit_copyBytes
  · rfl

theorem bit_setPorts (m : Memory) (value params : MatchParams) :
  bit (setPorts m value params) = puts (bit m) (selected (portWrites value params))
  := by
  simp only [setPorts, portWrites, puts_selected_cons, selected_nil, puts_nil, decide_eq_true_eq]
  by_cases htcp : value.protocol = 6
  · simp only [htcp, ne_eq, not_true_eq_false, if_false, if_true, bit_devxSet]
  · simp only [htcp, ne_eq, not_false_eq_true, if_false, if_true, bit_devxSet]

theorem bit_setIp (m : Memory) (mask value params : MatchParams) :
  bit (setIp m mask value params) = puts (bit m) (ipWrites mask value params)
  := by
  by_cases h4 : MatchesIpv4 mask value
  · have h6 := not_matchesIpv6 h4
    simp only [MatchesIpv6] at h6
    rw [ipWrites, if_pos h4]
    simp only [MatchesIpv4] at h4
    simp only [setIp, if_pos h4, if_neg h6, IpSide.sent]
    split <;> simp only [bit_devxSet, puts_cons, puts_nil, IpSide.ip, IpSide.addr]
  · rw [ipWrites, if_neg h4]
    simp only [MatchesIpv4] at h4
    by_cases h6 : MatchesIpv6 mask value
    · rw [if_pos h6]
      simp only [MatchesIpv6] at h6
      simp only [setIp, if_neg h4, if_pos h6, bit_copyBytes, puts_cons, puts_nil]
    · rw [if_neg h6]
      simp only [MatchesIpv6] at h6
      simp only [setIp, if_neg h4, if_neg h6, puts_nil]

/-! ### The writes do not meet -/

theorem fieldWrites_spans (mask value params : MatchParams) :
  ((fieldWrites mask value params).map Prod.snd).map Write.span
    = [(0x30, 0x10), (0x90, 0x1), (0x74, 0xc), (0x80, 0x8), (0x93, 0x4), (0x40, 48), (0xf0, 0x10),
      (0xe0, 0x10), (0xb0, 0x10), (0xa0, 0x10)].map (fun t => (0 + t.1, t.2))
  := by
  simp only [fieldWrites, headerWrites, macWrites, portWrites, List.cons_append, List.nil_append,
    List.map, Write.span, Write.ofBytes, Field.write, FlowMatcher.length_mac]
  rfl

theorem fieldWrites_disjoint (mask value params : MatchParams) :
  ((fieldWrites mask value params).map Prod.snd).Pairwise Write.Disjoint
  := by
  apply disjoint_of_spans _ _ (fieldWrites_spans mask value params)
  decide

theorem fieldWrites_within {mask value params : MatchParams} {w : Write}
    (hw : w ∈ (fieldWrites mask value params).map Prod.snd) :
  w.Within 0 0x100
  := by
  have h := within_of_spans (n := 0x100) 0 _ (fieldWrites_spans mask value params) (by decide) hw
  rwa [Nat.zero_add] at h

/-- The source address is written before the destination address, and to its own bytes. -/
theorem ipWrites_cases (mask value params : MatchParams) :
  ipWrites mask value params = [] ∨ ∃ w w', ipWrites mask value params = [w, w']
    ∧ w.Within 0x100 0x180 ∧ w'.Within 0x180 0x200
  := by
  rw [ipWrites]
  split
  · right
    refine ⟨_, _, rfl, ⟨?_, ?_⟩, ⟨?_, ?_⟩⟩ <;>
      simp [Field.write, FteMatchSetLyr24.srcIpv4, FteMatchSetLyr24.dstIpv4]
  · split
    · right
      refine ⟨_, _, rfl, ⟨?_, ?_⟩, ⟨?_, ?_⟩⟩ <;>
        simp [Write.ofBytes, FteMatchSetLyr24.srcIpv6, FteMatchSetLyr24.dstIpv6]
    · exact .inl rfl

theorem ipWrites_within {mask value params : MatchParams} {w : Write}
    (hw : w ∈ ipWrites mask value params) :
  w.Within 0x100 0x200
  := by
  obtain h | ⟨v, v', h, hv, hv'⟩ := ipWrites_cases mask value params
  · rw [h] at hw
    cases hw
  · rw [h] at hw
    rcases List.mem_pair.mp hw with rfl | rfl
    · apply hv.mono (by omega) (by omega)
    · apply hv'.mono (by omega) (by omega)

theorem writes_disjoint (mask value params : MatchParams) :
  ((writes mask value params).map Prod.snd).Pairwise Write.Disjoint
  := by
  have hip : ((ipWrites mask value params).map (Prod.mk true)).map Prod.snd
      = ipWrites mask value params := by
    rw [List.map_map]
    apply List.map_id
  rw [writes, List.map_append, hip, List.pairwise_append]
  refine ⟨fieldWrites_disjoint mask value params, ?_, ?_⟩
  · obtain h | ⟨w, w', h, hw, hw'⟩ := ipWrites_cases mask value params
    · rw [h]
      apply List.Pairwise.nil
    · rw [h]
      apply List.pairwise_pair.mpr
      apply hw.disjoint hw' (.inl (by omega))
  · intro w hw w' hw'
    apply (fieldWrites_within hw).disjoint (ipWrites_within hw') (.inl (by omega))

theorem selected_writes (mask value params : MatchParams) :
  selected (writes mask value params)
    = selected (fieldWrites mask value params) ++ ipWrites mask value params
  := by
  rw [writes, selected_append, FlowMatcher.selected_map_true]

/-- The criteria are made by the writes with the mask as parameters. -/
theorem bit_criteria (mask value : MatchParams) :
  bit (criteria mask value) = puts (bit zeros) (selected (writes mask value mask))
  := by
  have hperm : (selected (writes mask value mask)).Perm
      (selected (headerWrites mask mask) ++ (selected (macWrites mask mask)
        ++ (ipWrites mask value mask ++ selected (portWrites value mask)))) := by
    rw [selected_writes, fieldWrites, selected_append, selected_append, List.append_assoc,
      List.append_assoc]
    apply List.Perm.append_left
    apply List.Perm.append_left
    apply List.perm_append_comm
  rw [puts_perm _ hperm (selected_disjoint (writes_disjoint mask value mask)), puts_append,
    puts_append, puts_append, ← bit_setHeader, ← bit_setMac, ← bit_setIp, ← bit_setPorts]
  rfl

/-- The match values are made by the writes with the value as parameters. -/
theorem bit_values (mask value : MatchParams) :
  bit (values mask value) = puts (bit zeros) (selected (writes mask value value))
  := by
  have hperm : (selected (writes mask value value)).Perm
      (selected (headerWrites mask value) ++ (selected (portWrites value value)
        ++ (selected (macWrites mask value) ++ ipWrites mask value value))) := by
    rw [selected_writes, fieldWrites, selected_append, selected_append, List.append_assoc,
      List.append_assoc]
    apply List.Perm.append_left
    apply List.perm_append_comm_assoc
  rw [puts_perm _ hperm (selected_disjoint (writes_disjoint mask value value)), puts_append,
    puts_append, puts_append, ← bit_setHeader, ← bit_setPorts, ← bit_setMac, ← bit_setIp]
  rfl

/-! ### The slots of the addresses -/

/-- An IPv4 address in the 16 bytes of a slot. -/
def ipv4Layout (ip : BitVec 32) : List (BitVec 8) :=
  List.replicate 12 0 ++ beBytes ip

/-- What a slot holds; `ip` is the IPv4 address that is written, `addr` the IPv6 address. -/
def ipSlot (mask value : MatchParams) (ip : BitVec 32) (addr : IpAddr) : List (BitVec 8) :=
  if MatchesIpv4 mask value then
    ipv4Layout ip
  else if MatchesIpv6 mask value then
    addr.ipv6.toList
  else
    List.replicate 16 0

theorem slot_bounds (side : IpSide) :
  0x100 ≤ 8 * side.slot ∧ 8 * side.slot + 128 ≤ 0x200
  := by
  cases side <;> decide

/-- Only the writes of addresses come to the slots. -/
theorem not_covers_of_fieldWrites {mask value params : MatchParams} {w : Write}
    (hw : w ∈ selected (fieldWrites mask value params)) {i : Nat} (hi : 0x100 ≤ i) :
  ¬ w.Covers i
  := by
  have hmem : w ∈ (fieldWrites mask value params).map Prod.snd :=
    List.mem_map_of_mem (mem_selected.mp hw)
  have hwithin := fieldWrites_within hmem
  simp only [Write.Within, Write.Covers] at hwithin ⊢
  omega

section Buffer

variable {mask value params : MatchParams} {m : Memory}
variable (hm : bit m = puts (bit zeros) (selected (writes mask value params)))

include hm

/-- The slot of an IPv4 address. -/
theorem slot_of_ipv4 (h4 : MatchesIpv4 mask value) (side : IpSide) :
  bytes m side.slot 16 = ipv4Layout (side.sent params)
  := by
  have hip : ipWrites mask value params =
      [FteMatchSetLyr24.srcIpv4.write 0 (IpSide.src.sent params),
        FteMatchSetLyr24.dstIpv4.write 0 (IpSide.dst.sent params)] := if_pos h4
  have hbounds := slot_bounds side
  -- the first 12 bytes are reserved, and the address is the last word
  have hfront : bytes m side.slot 12 = List.replicate 12 0 := by
    apply bytes_eq_zero_of_puts hm
    rw [selected_writes, hip]
    intro w hw i hlo hhi
    rcases List.mem_append.mp hw with hw | hw
    · apply not_covers_of_fieldWrites hw (by omega)
    · rcases List.mem_pair.mp hw with rfl | rfl <;> cases side <;>
        simp only [IpSide.slot, FteMatchSetLyr24.srcIpv6, FteMatchSetLyr24.dstIpv6] at hlo hhi <;>
        simp only [Write.Covers, Field.write, FteMatchSetLyr24.srcIpv4,
          FteMatchSetLyr24.dstIpv4] <;>
        omega
  have hword : bytes m (side.slot + 12) 4 = beBytes (side.sent params) := by
    apply bytes_of_word hm (selected_disjoint (writes_disjoint mask value params))
    rw [selected_writes, hip]
    apply List.mem_append_right
    cases side with
    | src => apply List.mem_cons_self
    | dst => apply List.mem_cons_of_mem _ List.mem_cons_self
  rw [ipv4Layout, ← hfront, ← hword]
  apply bytes_add m side.slot 12 4

/-- The slot of an IPv6 address. -/
theorem slot_of_ipv6 (h6 : MatchesIpv6 mask value) (side : IpSide) :
  bytes m side.slot 16 = (side.addr params).ipv6.toList
  := by
  have h4 : ¬ MatchesIpv4 mask value := fun h4 => not_matchesIpv6 h4 h6
  have hip : ipWrites mask value params
      = [.ofBytes FteMatchSetLyr24.srcIpv6 params.src.ipv6.toList,
        .ofBytes FteMatchSetLyr24.dstIpv6 params.dst.ipv6.toList] := by
    rw [ipWrites, if_neg h4, if_pos h6]
  have hmem : Write.ofBytes side.slot (side.addr params).ipv6.toList
      ∈ selected (writes mask value params) := by
    rw [selected_writes, hip]
    apply List.mem_append_right
    cases side with
    | src => apply List.mem_cons_self
    | dst => apply List.mem_cons_of_mem _ List.mem_cons_self
  have hbytes := bytes_of_puts hm (selected_disjoint (writes_disjoint mask value params)) hmem
  rwa [Vector.length_toList] at hbytes

/-- What the slot of an address holds. -/
theorem slot_eq (side : IpSide) :
  bytes m side.slot 16 = ipSlot mask value (side.sent params) (side.addr params)
  := by
  rw [ipSlot]
  split
  · rename_i h4
    apply slot_of_ipv4 hm h4
  · rename_i h4
    split
    · rename_i h6
      apply slot_of_ipv6 hm h6
    · rename_i h6
      apply bytes_eq_zero_of_puts hm
      intro w hw i hlo _
      have hbounds := slot_bounds side
      rw [selected_writes, ipWrites, if_neg h4, if_neg h6, List.append_nil] at hw
      apply not_covers_of_fieldWrites hw (by omega)

/-- A field other than the addresses reads as the value of its write, or as zero if this is not
made. -/
theorem field_eq (i : Nat) {P : Prop} [Decidable P] {f : Field} {v : BitVec 32}
    (hget : (fieldWrites mask value params)[i]? = some (decide P, f.write 0 v))
    (hfits : P → v.toNat < 2 ^ f.size) :
  devxGet m 0 f = if P then v else 0
  := by
  have hmem := List.mem_append_left ((ipWrites mask value params).map (Prod.mk true))
    (List.mem_of_getElem? hget)
  have hfield := devxGet_of_selected hm (writes_disjoint mask value params) hmem
    (fun h => hfits (of_decide_eq_true h))
  simpa only [decide_eq_true_eq] using hfield

/-- A field that is always written. -/
theorem field_eq_of_true (i : Nat) {f : Field} {v : BitVec 32}
    (hget : (fieldWrites mask value params)[i]? = some (true, f.write 0 v))
    (hfits : v.toNat < 2 ^ f.size) :
  devxGet m 0 f = v
  := by
  rw [field_eq hm i (P := True) hget fun _ => hfits, if_pos trivial]

/-- The bytes of the destination MAC. -/
theorem mac_eq :
  bytes m FteMatchSetLyr24.dmac4716 6
    = if mask.dstMac ≠ zeroMac then params.dstMac.toList.take 6 else List.replicate 6 0
  := by
  let w := Write.ofBytes FteMatchSetLyr24.dmac4716 (params.dstMac.toList.take 6)
  have hmem : (decide (mask.dstMac ≠ zeroMac), w) ∈ writes mask value params := by
    simp [writes, fieldWrites, macWrites, w]
  split
  · rename_i hmac
    have hselected : w ∈ selected (writes mask value params) := by
      apply mem_selected.mpr
      rwa [decide_eq_true hmac] at hmem
    have hdisjoint := selected_disjoint (writes_disjoint mask value params)
    have hbytes := bytes_of_puts hm hdisjoint hselected
    rwa [FlowMatcher.length_mac] at hbytes
  · rename_i hmac
    rw [decide_eq_false hmac] at hmem
    apply bytes_eq_replicate
    intro i hi
    apply byte_eq_of_bits
    intro k hk
    have hcovers : w.Covers (8 * (FteMatchSetLyr24.dmac4716 + i) + (7 - k)) := by
      simp only [w, Write.Covers, Write.ofBytes, FlowMatcher.length_mac]
      omega
    rw [hm, puts_selected _ (writes_disjoint mask value params) hmem hcovers]
    simp

end Buffer

/-! ### Decoding -/

/-- The IPv4 address of the parameters: the deprecated field, or the union if that is zero. -/
def ipv4Of (side : IpSide) (params : MatchParams) : BitVec 32 :=
  if side.ip params ≠ 0 then side.ip params else (side.addr params).ipv4

/-- The parameters give IPv4 addresses through the deprecated fields only, or through the unions
only. -/
def OneForm (params : MatchParams) : Prop :=
  (∀ side : IpSide, (side.addr params).ipv4 = 0) ∨ ∀ side : IpSide, side.ip params = 0

/-- The buffer has the parameters: the ports in the fields for TCP just if the value's protocol is
TCP and else in those for UDP, and VLAN id and MAC if the mask selects them. -/
structure Decodes (m : Memory) (mask value params : MatchParams) : Prop where
  ethertype : devxGet m 0 FteMatchSetLyr24.ethertype = params.ethertype.setWidth 32
  protocol : devxGet m 0 FteMatchSetLyr24.ipProtocol = params.protocol.setWidth 32
  ipVersion : devxGet m 0 FteMatchSetLyr24.ipVersion = params.ipVersion.setWidth 32
  tcpDport : devxGet m 0 FteMatchSetLyr24.tcpDport
    = if value.protocol = 6 then params.dstPort.setWidth 32 else 0
  tcpSport : devxGet m 0 FteMatchSetLyr24.tcpSport
    = if value.protocol = 6 then params.srcPort.setWidth 32 else 0
  udpDport : devxGet m 0 FteMatchSetLyr24.udpDport
    = if value.protocol ≠ 6 then params.dstPort.setWidth 32 else 0
  udpSport : devxGet m 0 FteMatchSetLyr24.udpSport
    = if value.protocol ≠ 6 then params.srcPort.setWidth 32 else 0
  cvlanTag : devxGet m 0 FteMatchSetLyr24.cvlanTag = if mask.vlanId ≠ 0 then 1 else 0
  vlanId : devxGet m 0 FteMatchSetLyr24.firstVid
    = if mask.vlanId ≠ 0 then params.vlanId.setWidth 32 else 0
  dstMac : bytes m FteMatchSetLyr24.dmac4716 6
    = if mask.dstMac ≠ zeroMac then params.dstMac.toList.take 6 else List.replicate 6 0
  addresses : ∀ side : IpSide, bytes m side.slot 16
    = if MatchesIpv4 mask value then ipv4Layout (ipv4Of side params)
      else (side.addr params).ipv6.toList

/-- An address that is given in one form is the one that is written. -/
theorem sent_eq_ipv4Of {params : MatchParams} (h : OneForm params) (side : IpSide) :
  side.sent params = ipv4Of side params
  := by
  rw [IpSide.sent, ipv4Of]
  rcases h with haddr | hip
  · have hdeprecated : deprecatedIp params = true := by
      have hsrc : params.src.ipv4 = 0 := haddr .src
      have hdst : params.dst.ipv4 = 0 := haddr .dst
      simp [deprecatedIp, hsrc, hdst, em']
    rw [if_pos hdeprecated, haddr side]
    split
    · rfl
    · rename_i hzero
      rwa [not_not] at hzero
  · rw [hip side, if_neg (not_not.mpr rfl)]
    split
    · -- the deprecated fields are zero, and are taken only if the unions are zero too
      rename_i hdeprecated
      have hsrc : params.srcIp = 0 := hip .src
      have hdst : params.dstIp = 0 := hip .dst
      simp only [deprecatedIp, hsrc, hdst, ne_eq, not_true_eq_false, false_or, Bool.and_eq_true,
        decide_eq_true_eq] at hdeprecated
      cases side with
      | src => apply hdeprecated.1
      | dst => apply hdeprecated.2
    · rfl

theorem toNat_setWidth_lt_of_lt {n k : Nat} {x : BitVec n} (h : x.toNat < 2 ^ k) :
  (x.setWidth 32).toNat < 2 ^ k
  := by
  rw [BitVec.toNat_setWidth]
  apply Nat.lt_of_le_of_lt (Nat.mod_le _ _) h

/-- A buffer made by the writes has its parameters. -/
theorem decodes_of_writes {mask value params : MatchParams} {m : Memory}
    (hm : bit m = puts (bit zeros) (selected (writes mask value params)))
    (hfamily : MatchesIpv4 mask value ∨ MatchesIpv6 mask value) (hform : OneForm params)
    (hvlan : mask.vlanId ≠ 0 → params.vlanId.toNat < 4096)
    (hversion : params.ipVersion.toNat < 16) :
  Decodes m mask value params
  := by
  have hmask : mask.ipVersion ≠ 0 := by
    rcases hfamily with h | h <;> simp [h.2.1]
  constructor
  · exact field_eq_of_true hm 0 rfl (toNat_setWidth_lt _)
  · exact field_eq_of_true hm 3 rfl (toNat_setWidth_lt _)
  · have hfield : devxGet m 0 FteMatchSetLyr24.ipVersion
        = if mask.ipVersion ≠ 0 then params.ipVersion.setWidth 32 else 0 :=
      field_eq hm 4 rfl fun _ => toNat_setWidth_lt_of_lt hversion
    rw [hfield, if_pos hmask]
  · exact field_eq hm 8 rfl fun _ => toNat_setWidth_lt _
  · exact field_eq hm 9 rfl fun _ => toNat_setWidth_lt _
  · exact field_eq hm 6 rfl fun _ => toNat_setWidth_lt _
  · exact field_eq hm 7 rfl fun _ => toNat_setWidth_lt _
  · exact field_eq hm 1 rfl fun _ => by decide
  · exact field_eq hm 2 rfl fun hselect => toNat_setWidth_lt_of_lt (hvlan hselect)
  · apply mac_eq hm
  · intro side
    rw [slot_eq hm, ipSlot, sent_eq_ipv4Of hform]
    rcases hfamily with h4 | h6
    · rw [if_pos h4, if_pos h4]
    · have h4 : ¬ MatchesIpv4 mask value := fun h4 => not_matchesIpv6 h4 h6
      rw [if_neg h4, if_neg h4, if_pos h6]

/-- Let ethertype and IP version be matched in full, as those of IPv4 or of IPv6, let the mask and
the value each give IPv4 addresses in one form, and let VLAN ids be below 4096.  Then the criteria
have what the mask says and the match values what the value says. -/
theorem desc_decodes {r : FlowRule}
    (hfamily : MatchesIpv4 r.mMask r.mValue ∨ MatchesIpv6 r.mMask r.mValue)
    (hmask : OneForm r.mMask) (hvalue : OneForm r.mValue) (hvlanMask : r.mMask.vlanId.toNat < 4096)
    (hvlanValue : r.mValue.vlanId.toNat < 4096) (env : FlowRuleEnv) :
  Decodes (r.desc env).matchCriteria r.mMask r.mValue r.mMask
    ∧ Decodes (r.desc env).matchValue r.mMask r.mValue r.mValue
  := by
  have hversions : r.mMask.ipVersion.toNat < 16 ∧ r.mValue.ipVersion.toNat < 16 := by
    rcases hfamily with ⟨-, hmask, hvalue⟩ | ⟨-, hmask, hvalue⟩ <;> rw [hmask, hvalue] <;> decide
  constructor
  · apply decodes_of_writes (bit_criteria r.mMask r.mValue) hfamily hmask (fun _ => hvlanMask)
      hversions.1
  · apply decodes_of_writes (bit_values r.mMask r.mValue) hfamily hvalue (fun _ => hvlanValue)
      hversions.2

/-- An IPv4 address in the union. -/
def unionIpv4 (a b c d : BitVec 8) : IpAddr :=
  ⟨#v[a, b, c, d, 0, 0, 0, 0, 0, 0, 0, 0, 0, 0, 0, 0]⟩

/-- A mask of ethertype, VLAN id, protocol, IP version, destination address and destination port. -/
def tcpMask : MatchParams :=
  { MatchParams.empty with
    ethertype := 0xffff
    vlanId := 0xfff
    protocol := 0xff
    ipVersion := 0xf
    dst := unionIpv4 0xff 0xff 0xff 0xff
    dstPort := 0xffff }

/-- TCP to a port of one address. -/
def tcpValue : MatchParams :=
  { MatchParams.empty with
    ethertype := 0x0800
    vlanId := 7
    protocol := 6
    ipVersion := 4
    dst := unionIpv4 1 0 0 10
    dstPort := 443 }

/-- A rule with the mask and the value, to one TIR. -/
def matching (mask value : MatchParams) : FlowRule :=
  { FlowRule.new true 0 mask with mValue := value, mDstTir := [0x1000] }

theorem desc_decodes_tcp :
  OneForm tcpMask ∧ OneForm tcpValue
    ∧ devxGet ((matching tcpMask tcpValue).desc AppliedRule.accepting).matchValue 0
      FteMatchSetLyr24.tcpDport = 443
    ∧ bytes ((matching tcpMask tcpValue).desc AppliedRule.accepting).matchValue IpSide.dst.slot 16
      = ipv4Layout 0x0a000001
  := by
  have hmask : OneForm tcpMask := .inr fun side => by cases side <;> rfl
  have hvalue : OneForm tcpValue := .inr fun side => by cases side <;> rfl
  have hfamily : MatchesIpv4 tcpMask tcpValue := ⟨⟨rfl, rfl⟩, rfl, rfl⟩
  obtain ⟨-, hvalues⟩ := desc_decodes (r := matching tcpMask tcpValue) (.inl hfamily) hmask hvalue
    (by decide) (by decide) AppliedRule.accepting
  refine ⟨hmask, hvalue, hvalues.tcpDport, ?_⟩
  rw [hvalues.addresses .dst]
  rfl

/-! ### What the criteria leave out -/

/-- The criteria have the fields of the mask that are not zero.  An address in a union is there as
the IPv4 address of the union, or with all 16 bytes; a port is there in the fields for UDP or for
TCP. -/
structure Contains (m : Memory) (mask : MatchParams) : Prop where
  dstMac : mask.dstMac.toList.take 6 ≠ List.replicate 6 0 →
    bytes m FteMatchSetLyr24.dmac4716 6 = mask.dstMac.toList.take 6
  ethertype : mask.ethertype ≠ 0 →
    devxGet m 0 FteMatchSetLyr24.ethertype = mask.ethertype.setWidth 32
  vlanId : mask.vlanId ≠ 0 → devxGet m 0 FteMatchSetLyr24.cvlanTag = 1
    ∧ devxGet m 0 FteMatchSetLyr24.firstVid = mask.vlanId.setWidth 32
  protocol : mask.protocol ≠ 0 →
    devxGet m 0 FteMatchSetLyr24.ipProtocol = mask.protocol.setWidth 32
  ipVersion : mask.ipVersion ≠ 0 →
    devxGet m 0 FteMatchSetLyr24.ipVersion = mask.ipVersion.setWidth 32
  ip : ∀ side : IpSide, side.ip mask ≠ 0 → bytes m side.slot 16 = ipv4Layout (side.ip mask)
  addr : ∀ side : IpSide, (side.addr mask).ipv6 ≠ .replicate 16 0 →
    (side.addr mask).ipv4 ≠ 0 ∧ bytes m side.slot 16 = ipv4Layout (side.addr mask).ipv4
      ∨ bytes m side.slot 16 = (side.addr mask).ipv6.toList
  dstPort : mask.dstPort ≠ 0 → devxGet m 0 FteMatchSetLyr24.udpDport = mask.dstPort.setWidth 32
    ∨ devxGet m 0 FteMatchSetLyr24.tcpDport = mask.dstPort.setWidth 32
  srcPort : mask.srcPort ≠ 0 → devxGet m 0 FteMatchSetLyr24.udpSport = mask.srcPort.setWidth 32
    ∨ devxGet m 0 FteMatchSetLyr24.tcpSport = mask.srcPort.setWidth 32

/-- The address of the mask is not left out.  For IPv4, the union and the deprecated field are the
same if both are given, and for IPv6 there is no deprecated field or it is the address in the union;
for other rules there is no address. -/
def KeepsAddress (mask value : MatchParams) (side : IpSide) : Prop :=
  let ip := side.ip mask
  let addr := side.addr mask
  if MatchesIpv4 mask value then
    if deprecatedIp mask then
      addr.ipv6 = .replicate 16 0 ∨ addr.ipv4 ≠ 0 ∧ ip = addr.ipv4
        ∨ addr.ipv6.toList = ipv4Layout ip
    else
      (ip = 0 ∨ ip = addr.ipv4) ∧ (addr.ipv6 = .replicate 16 0 ∨ addr.ipv4 ≠ 0)
  else if MatchesIpv6 mask value then
    ip = 0 ∨ addr.ipv6.toList = ipv4Layout ip
  else
    ip = 0 ∧ addr.ipv6 = .replicate 16 0

/-- Nothing of the mask is left out: VLAN id and IP version fit their fields, and the addresses are
written. -/
def KeepsMask (mask value : MatchParams) : Prop :=
  mask.vlanId.toNat < 4096 ∧ mask.ipVersion.toNat < 16 ∧ ∀ side, KeepsAddress mask value side

theorem beBytes_inj {w w' : BitVec 32} (h : beBytes w = beBytes w') :
  w = w'
  := by
  apply BitVec.eq_of_getLsbD_eq
  intro k hk
  have hbyte : w.extractLsb' (8 * (3 - (3 - k / 8))) 8
      = w'.extractLsb' (8 * (3 - (3 - k / 8))) 8 := by
    apply List.map_inj_left.mp h
    rw [List.mem_range]
    omega
  have hbit := congrArg (BitVec.getLsbD · (k % 8)) hbyte
  have hpos : 8 * (3 - (3 - k / 8)) + k % 8 = k := by omega
  have hlt : k % 8 < 8 := by omega
  simpa [BitVec.getLsbD_extractLsb', hpos, hlt] using hbit

theorem ipv4Layout_inj {w w' : BitVec 32} (h : ipv4Layout w = ipv4Layout w') :
  w = w'
  := beBytes_inj (List.append_cancel_left h)

theorem ipv4Layout_zero :
  ipv4Layout 0 = List.replicate 16 0
  := rfl

/-- An address that looks like an IPv4 address in a slot starts with zeros. -/
theorem ipv4_of_toList_eq {addr : IpAddr} {w : BitVec 32} (h : addr.ipv6.toList = ipv4Layout w) :
  addr.ipv4 = 0
  := by
  have hbyte (i : Nat) (hi : i < 12) : addr.ipv6[i] = 0 := by
    have hget : addr.ipv6.toList[i]? = some 0 := by
      rw [h, ipv4Layout, List.getElem?_append_left (by simpa using hi), List.getElem?_replicate,
        if_pos hi]
    rw [Vector.getElem?_toList] at hget
    obtain ⟨_, hget⟩ := Vector.getElem?_eq_some_iff.mp hget
    apply hget
  rw [IpAddr.ipv4, hbyte 0 (by decide), hbyte 1 (by decide), hbyte 2 (by decide),
    hbyte 3 (by decide)]
  rfl

theorem toList_eq_replicate_iff {addr : IpAddr} :
  addr.ipv6.toList = List.replicate 16 0 ↔ addr.ipv6 = .replicate 16 0
  := by
  rw [← Vector.toList_replicate, Vector.toList_inj]

/-- What the slot of an address must be, and when it is that. -/
theorem keepsAddress_iff (mask value : MatchParams) (side : IpSide) :
  (side.ip mask ≠ 0 →
      ipSlot mask value (side.sent mask) (side.addr mask) = ipv4Layout (side.ip mask))
    ∧ ((side.addr mask).ipv6 ≠ .replicate 16 0 →
      (side.addr mask).ipv4 ≠ 0
          ∧ ipSlot mask value (side.sent mask) (side.addr mask)
            = ipv4Layout (side.addr mask).ipv4
        ∨ ipSlot mask value (side.sent mask) (side.addr mask) = (side.addr mask).ipv6.toList)
    ↔ KeepsAddress mask value side
  := by
  simp only [KeepsAddress, ipSlot, IpSide.sent]
  generalize side.ip mask = ip
  generalize side.addr mask = addr
  split
  · split
    · -- the deprecated field is written
      constructor
      · rintro ⟨-, haddr⟩
        by_cases hgiven : addr.ipv6 = .replicate 16 0
        · exact .inl hgiven
        · rcases haddr hgiven with ⟨hipv4, hsame⟩ | hform
          · exact .inr (.inl ⟨hipv4, ipv4Layout_inj hsame⟩)
          · exact .inr (.inr hform.symm)
      · intro h
        refine ⟨fun _ => rfl, fun hgiven => ?_⟩
        rcases h with hzero | ⟨hipv4, hsame⟩ | hform
        · cases hgiven hzero
        · exact .inl ⟨hipv4, congrArg ipv4Layout hsame⟩
        · exact .inr hform.symm
    · -- the union is written, and an address of another form starts with zeros
      constructor
      · rintro ⟨hip, haddr⟩
        constructor
        · by_cases hgiven : ip = 0
          · exact .inl hgiven
          · exact .inr (ipv4Layout_inj (hip hgiven)).symm
        · by_cases hgiven : addr.ipv6 = .replicate 16 0
          · exact .inl hgiven
          · rcases haddr hgiven with ⟨hipv4, -⟩ | hform
            · exact .inr hipv4
            · rw [ipv4_of_toList_eq hform.symm, ipv4Layout_zero] at hform
              cases hgiven (toList_eq_replicate_iff.mp hform.symm)
      · rintro ⟨hip, haddr⟩
        constructor
        · intro hgiven
          rw [← hip.resolve_left hgiven]
        · intro hgiven
          exact .inl ⟨haddr.resolve_left hgiven, rfl⟩
  · split
    · -- all of the union is written
      constructor
      · rintro ⟨hip, -⟩
        by_cases hgiven : ip = 0
        · exact .inl hgiven
        · exact .inr (hip hgiven)
      · intro h
        exact ⟨h.resolve_left, fun _ => .inr rfl⟩
    · -- nothing is written
      rw [← ipv4Layout_zero]
      constructor
      · rintro ⟨hip, haddr⟩
        constructor
        · by_contra hgiven
          apply hgiven (ipv4Layout_inj (hip hgiven)).symm
        · by_contra hgiven
          rcases haddr hgiven with ⟨hipv4, hzero⟩ | hzero
          · apply hipv4 (ipv4Layout_inj hzero).symm
          · apply hgiven (toList_eq_replicate_iff.mp hzero.symm)
      · rintro ⟨hip, haddr⟩
        exact ⟨fun hgiven => absurd hip hgiven, fun hgiven => absurd haddr hgiven⟩

/-- A port is in the field for UDP or in the one for TCP. -/
theorem port_of_fields {m : Memory} {value : MatchParams} {udp tcp : Field} {port : BitVec 32}
    (hudp : devxGet m 0 udp = if value.protocol ≠ 6 then port else 0)
    (htcp : devxGet m 0 tcp = if value.protocol = 6 then port else 0) :
  devxGet m 0 udp = port ∨ devxGet m 0 tcp = port
  := by
  by_cases hprotocol : value.protocol = 6
  · right
    rw [htcp, if_pos hprotocol]
  · left
    rw [hudp, if_pos hprotocol]

/-- The criteria have all of the mask exactly if nothing of it is left out. -/
theorem contains_criteria_iff (mask value : MatchParams) :
  Contains (criteria mask value) mask ↔ KeepsMask mask value
  := by
  have hm := bit_criteria mask value
  constructor
  · intro h
    refine ⟨?_, ?_, ?_⟩
    · by_cases hvlan : mask.vlanId = 0
      · rw [hvlan]
        decide
      · have hfits := devxGet_lt (criteria mask value) 0 FteMatchSetLyr24.firstVid
        rw [(h.vlanId hvlan).2, BitVec.toNat_setWidth_of_le (by decide)] at hfits
        apply hfits
    · by_cases hversion : mask.ipVersion = 0
      · rw [hversion]
        decide
      · have hfits := devxGet_lt (criteria mask value) 0 FteMatchSetLyr24.ipVersion
        rw [h.ipVersion hversion, BitVec.toNat_setWidth_of_le (by decide)] at hfits
        apply hfits
    · intro side
      have hip := h.ip side
      have haddr := h.addr side
      rw [slot_eq hm] at hip haddr
      apply (keepsAddress_iff mask value side).mp ⟨hip, haddr⟩
  · rintro ⟨hvlan, hversion, haddress⟩
    have hslot (side : IpSide) := (keepsAddress_iff mask value side).mpr (haddress side)
    simp only [← slot_eq hm] at hslot
    constructor
    · intro hmac
      have hselect : mask.dstMac ≠ zeroMac := by
        intro hzero
        apply hmac
        rw [hzero]
        rfl
      rw [mac_eq hm, if_pos hselect]
    · intro _
      exact field_eq_of_true hm 0 rfl (toNat_setWidth_lt _)
    · intro hselect
      have htag : devxGet (criteria mask value) 0 FteMatchSetLyr24.cvlanTag
          = if mask.vlanId ≠ 0 then 1 else 0 := field_eq hm 1 rfl fun _ => by decide
      have hvid : devxGet (criteria mask value) 0 FteMatchSetLyr24.firstVid
          = if mask.vlanId ≠ 0 then mask.vlanId.setWidth 32 else 0 :=
        field_eq hm 2 rfl fun _ => toNat_setWidth_lt_of_lt hvlan
      rw [htag, hvid, if_pos hselect, if_pos hselect]
      exact ⟨rfl, rfl⟩
    · intro _
      exact field_eq_of_true hm 3 rfl (toNat_setWidth_lt _)
    · intro hselect
      have hfield : devxGet (criteria mask value) 0 FteMatchSetLyr24.ipVersion
          = if mask.ipVersion ≠ 0 then mask.ipVersion.setWidth 32 else 0 :=
        field_eq hm 4 rfl fun _ => toNat_setWidth_lt_of_lt hversion
      rw [hfield, if_pos hselect]
    · intro side
      apply (hslot side).1
    · intro side
      apply (hslot side).2
    · intro _
      exact port_of_fields (field_eq hm 6 rfl fun _ => toNat_setWidth_lt _)
        (field_eq hm 8 rfl fun _ => toNat_setWidth_lt _)
    · intro _
      exact port_of_fields (field_eq hm 7 rfl fun _ => toNat_setWidth_lt _)
        (field_eq hm 9 rfl fun _ => toNat_setWidth_lt _)

/-- The flow of a rule that was applied looks at the criteria. -/
theorem applySettings_eq_ok {r r' : FlowRule} {env : FlowRuleEnv}
    (h : r.applySettings env = (.ok, r')) :
  r.refuses env = none
    ∧ ∃ flow, Flow.new env.verbs (r.desc env).toFlowDesc = some flow ∧ r'.mFlow = some flow
      ∧ flow.mMatcher.matchMask = criteria r.mMask r.mValue
  := by
  simp only [applySettings] at h
  split at h
  · rename_i ret hrefuses
    cases refuses_ne_ok hrefuses (congrArg Prod.fst h)
  · rename_i hrefuses
    cases hflow : Flow.new env.verbs (r.desc env).toFlowDesc with
    | none =>
        rw [hflow] at h
        cases h
    | some flow =>
        rw [hflow] at h
        cases h
        refine ⟨hrefuses, flow, rfl, rfl, ?_⟩
        simp only [Flow.new, Option.ite_none_left_eq_some, Option.some.injEq] at hflow
        obtain ⟨-, -, -, rfl⟩ := hflow
        rfl

/-- A rule with a context and destinations is applied, in a world that makes every flow. -/
theorem applySettings_accepting {r : FlowRule} (hctx : r.base.mCtx = true)
    (hdests : r.mDstTir ≠ []) :
  (r.applySettings AppliedRule.accepting).1 = .ok
  := by
  have hlength : r.mDstTir.length ≠ 0 := fun h => hdests (List.length_eq_zero_iff.mp h)
  have hrefuses : r.refuses AppliedRule.accepting = none := by
    simp [refuses, hctx, hlength, AppliedRule.accepting]
  rw [applySettings, hrefuses]
  cases hmodify : (r.desc AppliedRule.accepting).modifyActions with
  | none => rfl
  | some m => cases hmodify

/-- Whenever a rule is applied, the criteria of its flow have all of the mask, exactly if the rule
has no context or no destination, or nothing of the mask is left out. -/
theorem applySettings_contains_iff (r : FlowRule) :
  (∀ env r', r.applySettings env = (.ok, r') →
      ∃ flow, r'.mFlow = some flow ∧ Contains flow.mMatcher.matchMask r.mMask)
    ↔ (r.base.mCtx = true → r.mDstTir ≠ [] → KeepsMask r.mMask r.mValue)
  := by
  constructor
  · intro h hctx hdests
    have hok : r.applySettings AppliedRule.accepting
        = (.ok, (r.applySettings AppliedRule.accepting).2) :=
      Prod.ext (applySettings_accepting hctx hdests) rfl
    obtain ⟨flow, hflow, hcontains⟩ := h AppliedRule.accepting _ hok
    obtain ⟨-, flow', -, hflow', hcriteria⟩ := applySettings_eq_ok hok
    cases hflow.symm.trans hflow'
    rw [hcriteria] at hcontains
    apply (contains_criteria_iff r.mMask r.mValue).mp hcontains
  · intro h env r' hok
    obtain ⟨hrefuses, flow, -, hflow, hcriteria⟩ := applySettings_eq_ok hok
    refine ⟨flow, hflow, ?_⟩
    rw [hcriteria]
    apply (contains_criteria_iff r.mMask r.mValue).mpr
    simp only [refuses] at hrefuses
    split at hrefuses
    · cases hrefuses
    · rename_i hctx
      split at hrefuses
      · cases hrefuses
      · rename_i hdests
        apply h
        · simpa using hctx
        · intro hnil
          apply hdests
          rw [hnil]
          rfl

/-- A mask of ethertype and destination address. -/
def addressMask : MatchParams :=
  { MatchParams.empty with
    ethertype := 0xffff
    dst := unionIpv4 0xff 0xff 0xff 0xff }

/-- IPv4 to one address. -/
def addressValue : MatchParams :=
  { MatchParams.empty with
    ethertype := 0x0800
    dst := unionIpv4 1 0 0 10 }

/-- A rule that does not mask the IP version is applied without its destination address. -/
theorem applySettings_drops_address :
  ∃ r' flow, (matching addressMask addressValue).applySettings AppliedRule.accepting = (.ok, r')
    ∧ r'.mFlow = some flow
    ∧ bytes flow.mMatcher.matchMask IpSide.dst.slot 16 = List.replicate 16 0
    ∧ ¬ Contains flow.mMatcher.matchMask addressMask
  := by
  refine ⟨_, _, rfl, rfl, ?_, ?_⟩
  · have h4 : ¬ MatchesIpv4 addressMask addressValue := by decide
    have h6 : ¬ MatchesIpv6 addressMask addressValue := by decide
    apply (slot_eq (bit_criteria addressMask addressValue) .dst).trans
    rw [ipSlot, if_neg h4, if_neg h6]
  · intro h
    have hkeeps := ((contains_criteria_iff addressMask addressValue).mp h).2.2 .dst
    have h4 : ¬ MatchesIpv4 addressMask addressValue := by decide
    have h6 : ¬ MatchesIpv6 addressMask addressValue := by decide
    rw [KeepsAddress, if_neg h4, if_neg h6] at hkeeps
    cases congrArg (fun v => v.toList[0]?) hkeeps.2

end FlowRule

end Dpcp
