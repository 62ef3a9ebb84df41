import Dpcp.Bits.Records
import Dpcp.Bits.Regions
import Dpcp.Flow.Action

/-!
# The formats of destinations

A flow description has an array `dst_formats` beside the handles of its destinations.  An element of
the array has the size of `mlx5_ifc_dest_format_struct_bits`, a byte for each bit of the structure,
while the `memset` before it is filled counts 8 bytes for a destination, the size of the structure
itself.  So a new array keeps some of what the memory held.
-/

namespace Dpcp

open Bits Dcmd Prm

/-- What is set of a destination. -/
structure DestFormat where
  type : FwdType
  id : BitVec 32

/-- The format of an object that is forwarded to. -/
def ForwardableObj.destFormat (d : ForwardableObj) : DestFormat :=
  ⟨d.fwdType, d.base.mId⟩

/-- `sizeof(mlx5_ifc_dest_format_struct_bits)`. -/
def destFormatStructBits : Nat := 64

/-- The loop over the destinations from the element at `p` on; a destination without a handle leaves
its element as it is. -/
def setFormats (m : Memory) (p : Nat) : List (Option DestFormat) → Memory
  | [] => m
  | none :: rest => setFormats m (p + destFormatStructBits) rest
  | some d :: rest =>
      let m := devxSet m p DestFormatStruct.destinationType d.type.value
      let m := devxSet m p DestFormatStruct.destinationId d.id
      setFormats m (p + destFormatStructBits) rest

/-- `dst_formats`, in memory that held `heap`. -/
def dstFormats (heap : Memory) (dests : List (Option DestFormat)) : Memory :=
  let m := copyBytes heap 0 (List.replicate (DestFormatStruct.bytes * dests.length) 0)
  setFormats m 0 dests

/-- The writes for a destination at `p`. -/
def formatWrites : Option DestFormat → Nat → List Write
  | none, _ => []
  | some d, p => [DestFormatStruct.destinationType.write p d.type.value,
      DestFormatStruct.destinationId.write p d.id]

theorem formatWrites_within (d : Option DestFormat) (p : Nat) :
  ∀ w ∈ formatWrites d p, w.Within (8 * p) (8 * (p + destFormatStructBits))
  := by
  intro w hw
  cases d with
  | none => cases hw
  | some d =>
      rcases List.mem_pair.mp hw with rfl | rfl <;>
        simp only [Write.Within, Field.write, DestFormatStruct.destinationType,
          DestFormatStruct.destinationId, destFormatStructBits] <;>
        omega

theorem formatWrites_disjoint (d : Option DestFormat) (p : Nat) :
  (formatWrites d p).Pairwise Write.Disjoint
  := by
  cases d with
  | none => apply List.Pairwise.nil
  | some d =>
      apply List.pairwise_pair.mpr
      simp only [Write.Disjoint, Field.write, DestFormatStruct.destinationType,
        DestFormatStruct.destinationId]
      omega

theorem bit_setFormats (m : Memory) (p : Nat) (dests : List (Option DestFormat)) :
  bit (setFormats m p dests) = puts (bit m) (records formatWrites destFormatStructBits p dests)
  := by
  induction dests generalizing m p with
  | nil => rfl
  | cons d rest ih =>
      cases d with
      | none =>
          rw [setFormats, ih, records_cons, formatWrites, List.nil_append]
      | some d =>
          rw [setFormats, ih, records_cons, puts_append, formatWrites, bit_devxSet, bit_devxSet]
          rfl

section Formats

variable (heap : Memory) {dests : List (Option DestFormat)}

/-- A destination in the array. -/
theorem devxGet_dstFormats {i : Nat} {d : DestFormat} (hd : dests[i]? = some (some d)) :
  devxGet (dstFormats heap dests) (destFormatStructBits * i) DestFormatStruct.destinationType
      = d.type.value
    ∧ devxGet (dstFormats heap dests) (destFormatStructBits * i) DestFormatStruct.destinationId
      = d.id &&& lowMask 24
  := by
  have hm := bit_setFormats (copyBytes heap 0 (List.replicate (DestFormatStruct.bytes
    * dests.length) 0)) 0 dests
  have hdisjoint := records_disjoint formatWrites_within formatWrites_disjoint 0 dests
  have hmem (w : Write) (hw : w ∈ formatWrites (some d) (destFormatStructBits * i)) :
      w ∈ records formatWrites destFormatStructBits 0 dests :=
    mem_records.mpr ⟨i, some d, hd, by rwa [Nat.zero_add]⟩
  constructor
  · apply devxGet_eq_of_puts hm hdisjoint _ (hmem _ List.mem_cons_self)
    cases d.type <;> decide
  · have hid := devxGet_of_puts hm hdisjoint (hmem _ (List.mem_cons_of_mem _ List.mem_cons_self))
    apply BitVec.eq_of_toNat_eq
    rw [BitVec.toNat_and, toNat_lowMask (by decide), Nat.and_two_pow_sub_one_eq_mod]
    apply hid

/-- A bit that was cleared does not depend on what the memory held. -/
theorem bit_dstFormats_cleared (heap' : Memory) {j : Nat} (hj : j < 64 * dests.length) :
  bit (dstFormats heap dests) j = bit (dstFormats heap' dests) j
  := by
  have hcleared : ¬ 8 * (DestFormatStruct.bytes * dests.length) ≤ j := by
    rw [DestFormatStruct.bytes]
    omega
  rw [dstFormats, dstFormats, bit_setFormats, bit_setFormats]
  apply puts_congr
  rw [bit_copyBytes_replicate, bit_copyBytes_replicate, decide_eq_false hcleared, Bool.and_false,
    Bool.and_false]

/-- A bit behind the first word of an element is zero, or what the memory held. -/
theorem bit_dstFormats_gap {j : Nat} (hj : 32 ≤ j % 512) :
  bit (dstFormats heap dests) j = (bit heap j && decide (64 * dests.length ≤ j))
  := by
  have hlength : 8 * (DestFormatStruct.bytes * dests.length) = 64 * dests.length := by
    rw [DestFormatStruct.bytes]
    omega
  rw [dstFormats, bit_setFormats, puts_of_not_covers, bit_copyBytes_replicate, hlength]
  intro w hw
  obtain ⟨i, d, -, hw⟩ := mem_records.mp hw
  cases d with
  | none => cases hw
  | some d =>
      rcases List.mem_pair.mp hw with rfl | rfl <;>
        simp only [Write.Covers, Field.write, DestFormatStruct.destinationType,
          DestFormatStruct.destinationId, destFormatStructBits] <;>
        omega

end Formats

end Dpcp
