import Dpcp.Bits.Bytes
import Dpcp.Flow.SharedModify

/-!
# The reserved bits of root entries

`prepare_flow_desc_buffs` allocates the entries it hands to the OS layer, and sets their bit-fields
one by one.  It does not set the reserved ones: these are what the memory had before, also after
the words were put in network order.  The mailbox of a PRM table is zeroed instead.

Each bit of an entry belongs to a field, and then it is the same whatever the memory had, or to a
reserved bit-field, and then it is a bit the memory had.
-/

namespace Dcmd

open Bits

/-- The value of a bit-field of the unit at address `a`. -/
def getBitField (m : Memory) (a : Nat) (f : BitField) : BitVec f.size :=
  (load32 m a).extractLsb' f.lo f.size

end Dcmd

namespace Dpcp

open Bits Dcmd Prm

namespace FlowActionModify

/-! ### One entry -/

/-- The reserved bit-fields of an entry, with the words they are in. -/
def reservedFields : FlowActionModifyTypeAttr → List (Nat × BitField)
  | .set .. => [(0, ModifyAction.dstRsvd0), (0, ModifyAction.dstRsvd1)]
  | .copy .. =>
      [(0, ModifyAction.dstRsvd0), (0, ModifyAction.dstRsvd1), (1, ModifyAction.srcRsvd2),
        (1, ModifyAction.srcRsvd3), (1, ModifyAction.srcRsvd4)]
  | .other _ => []

/-- Bit `b` of an entry in network order belongs to a reserved bit-field. -/
def Reserved (x : FlowActionModifyTypeAttr) (b : Nat) : Prop :=
  ∃ wf ∈ reservedFields x, (wf.2.toField wf.1).offset ≤ b
    ∧ b < (wf.2.toField wf.1).offset + (wf.2.toField wf.1).size

/-- The fields of an entry and its reserved bit-fields, by their places. -/
theorem covers_iff {x : FlowActionModifyTypeAttr} (hx : IsSetOrCopy x) {p b : Nat} (hb : b < 64) :
  (∃ w ∈ writes p (exchanged x), w.Covers (8 * p + b)) ↔ ¬ Reserved x b
  := by
  cases x with
  | set field offset length data =>
      simp only [writes, Field.writes, exchanged, entryFields, List.map, List.mem_cons,
        List.not_mem_nil, or_false, exists_eq_or_imp, exists_eq_left, Write.Covers, Field.write,
        Reserved, reservedFields, BitField.toField, SetActionIn.actionType, SetActionIn.field,
        SetActionIn.offset, SetActionIn.length, SetActionIn.data, ModifyAction.dstRsvd0,
        ModifyAction.dstRsvd1]
      omega
  | copy srcField srcOffset length dstField dstOffset =>
      simp only [writes, Field.writes, exchanged, entryFields, List.map, List.mem_cons,
        List.not_mem_nil, or_false, exists_eq_or_imp, exists_eq_left, Write.Covers, Field.write,
        Reserved, reservedFields, BitField.toField, CopyActionIn.actionType, CopyActionIn.srcField,
        CopyActionIn.srcOffset, CopyActionIn.length, CopyActionIn.dstField, CopyActionIn.dstOffset,
        ModifyAction.dstRsvd0, ModifyAction.dstRsvd1, ModifyAction.srcRsvd2, ModifyAction.srcRsvd3,
        ModifyAction.srcRsvd4]
      omega
  | other => cases hx

/-- A bit of a field is the same whatever the memory had. -/
theorem bit_rootEntry_of_not_reserved {x : FlowActionModifyTypeAttr} (hx : IsSetOrCopy x)
    {b : Nat} (hb : b < 64) (h : ¬ Reserved x b) (m m' : Memory) (p : Nat) :
  bit (rootEntry m p x) (8 * p + b) = bit (rootEntry m' p x) (8 * p + b)
  := by
  obtain ⟨w, hw, hcovers⟩ := (covers_iff (p := p) hx hb).mpr h
  rw [bit_rootEntry, bit_rootEntry, puts_of_mem _ (writes_disjoint p _) hw hcovers,
    puts_of_mem _ (writes_disjoint p _) hw hcovers]

/-- A reserved bit is what the memory had. -/
theorem bit_rootEntry_of_reserved {x : FlowActionModifyTypeAttr} (hx : IsSetOrCopy x) {b : Nat}
    (hb : b < 64) (h : Reserved x b) (m : Memory) (p : Nat) :
  bit (rootEntry m p x) (8 * p + b) = bit (entryToBe m p) (8 * p + b)
  := by
  rw [bit_rootEntry]
  apply puts_of_not_covers
  intro w hw hcovers
  apply (covers_iff (p := p) hx hb).mp ⟨w, hw, hcovers⟩ h

/-- A reserved bit-field is in one of the two words of the entry. -/
theorem word_of_reserved {x : FlowActionModifyTypeAttr} {wf : Nat × BitField}
    (h : wf ∈ reservedFields x) :
  wf.1 < 2
  := by
  cases x <;> simp only [reservedFields, List.mem_cons, List.not_mem_nil, or_false] at h
  · rcases h with rfl | rfl <;> decide
  · rcases h with rfl | rfl | rfl | rfl | rfl <;> decide

/-- In network order, a bit-field reads as it did before. -/
theorem devxGet_entryToBe (m : Memory) (p : Nat) {word : Nat} (hword : word < 2) (f : BitField) :
  devxGet (entryToBe m p) p (f.toField word)
    = (getBitField m (p + 4 * word) f).setWidth 32
  := by
  have hwithin := f.within
  apply BitVec.eq_of_getLsbD_eq
  intro k hk
  rw [getLsbD_devxGet, BitVec.getLsbD_setWidth, getBitField, BitVec.getLsbD_extractLsb']
  by_cases hsize : k < f.size
  · have hpos : 8 * p + (f.toField word).offset + (f.toField word).size - 1 - k
        = 8 * p + 32 * word + (31 - (f.lo + k)) := by
      simp only [BitField.toField]
      omega
    have hback : 31 - (31 - (f.lo + k)) = f.lo + k := by omega
    rw [hpos, bit_entryToBe _ _ hword (by omega), hback]
    simp [BitField.toField, hsize, hk]
  · simp [BitField.toField, hsize]

/-- The reserved bit-fields of an entry are in its 8 bytes. -/
theorem lt_of_reserved {x : FlowActionModifyTypeAttr} {wf : Nat × BitField}
    (h : wf ∈ reservedFields x) {b : Nat}
    (hb : b < (wf.2.toField wf.1).offset + (wf.2.toField wf.1).size) :
  b < 64
  := by
  have hword := word_of_reserved h
  have hwithin := wf.2.within
  simp only [BitField.toField] at hb
  omega

/-! ### All entries -/

/-- The reserved bit-fields of the entries of `l` are zero in the memory `heap`. -/
def HeapClear (l : List FlowActionModifyTypeAttr) (heap : Memory) : Prop :=
  ∀ i x, l[i]? = some x → ∀ wf ∈ reservedFields x,
    getBitField heap (ModifyAction.bytes * i + 4 * wf.1) wf.2 = 0

/-- The reserved fields of the entries of `l` are zero in network order. -/
def ReservedClear (l : List FlowActionModifyTypeAttr) (root : Memory) : Prop :=
  ∀ i x, l[i]? = some x → ∀ wf ∈ reservedFields x,
    devxGet root (ModifyAction.bytes * i) (wf.2.toField wf.1) = 0

/-- The two arrays have the same entries. -/
def SameEntries (l : List FlowActionModifyTypeAttr) (root root' : Memory) : Prop :=
  ∀ j, j < 8 * (ModifyAction.bytes * l.length) → bit root j = bit root' j

/-- An entry in network order depends on its own 8 bytes. -/
theorem bit_entryToBe_congr {m m' : Memory} {p : Nat} (h : ∀ j, 8 * p ≤ j → bit m' j = bit m j)
    {b : Nat} (hb : b < 64) :
  bit (entryToBe m' p) (8 * p + b) = bit (entryToBe m p) (8 * p + b)
  := by
  obtain ⟨word, k, hword, hk, rfl⟩ : ∃ word k, word < 2 ∧ k < 32 ∧ b = 32 * word + k := by
    use b / 32, b % 32
    omega
  have hbyte : m' (p + 4 * word + (31 - k) / 8) = m (p + 4 * word + (31 - k) / 8) := by
    apply byte_eq_of_bits
    intro j hj
    have hbyte : (8 * (p + 4 * word + (31 - k) / 8) + (7 - j)) / 8
        = p + 4 * word + (31 - k) / 8 := by omega
    have hoff : 7 - (8 * (p + 4 * word + (31 - k) / 8) + (7 - j)) % 8 = j := by omega
    rw [h _ (by omega), bit, hbyte, hoff]
  rw [← Nat.add_assoc, bit_entryToBe _ _ hword hk, bit_entryToBe _ _ hword hk,
    getLsbD_load32 _ _ (by omega), getLsbD_load32 _ _ (by omega), hbyte]

section Root

variable {l : List FlowActionModifyTypeAttr} (hl : ∀ x ∈ l, IsSetOrCopy x) {i : Nat}
  {x : FlowActionModifyTypeAttr} (hx : l[i]? = some x)

include hl hx

/-- A reserved bit of an entry of the array is what the memory had. -/
theorem bit_root_of_reserved (heap : Memory) {b : Nat} (hb : b < 64) (h : Reserved x b) :
  bit (fillEntries rootEntry heap 0 l) (8 * (8 * i) + b)
    = bit (entryToBe heap (8 * i)) (8 * (8 * i) + b)
  := by
  obtain ⟨m', hsame, hm'⟩ := bit_fillEntries bit_rootEntry_of_outside heap 0 hx
  rw [Nat.zero_add] at hsame hm'
  rw [hm' b hb, bit_rootEntry_of_reserved (hl x (List.mem_of_getElem? hx)) hb h,
    bit_entryToBe_congr hsame hb]

/-- A bit of a field is the same in both arrays. -/
theorem bit_root_of_not_reserved (heap heap' : Memory) {b : Nat} (hb : b < 64)
    (h : ¬ Reserved x b) :
  bit (fillEntries rootEntry heap 0 l) (8 * (8 * i) + b)
    = bit (fillEntries rootEntry heap' 0 l) (8 * (8 * i) + b)
  := by
  obtain ⟨m₁, -, hm₁⟩ := bit_fillEntries bit_rootEntry_of_outside heap 0 hx
  obtain ⟨m₂, -, hm₂⟩ := bit_fillEntries bit_rootEntry_of_outside heap' 0 hx
  rw [Nat.zero_add] at hm₁ hm₂
  rw [hm₁ b hb, hm₂ b hb]
  apply bit_rootEntry_of_not_reserved (hl x (List.mem_of_getElem? hx)) hb h

/-- A reserved field of an entry of the array is the bit-field that the memory had. -/
theorem devxGet_root (heap : Memory) {wf : Nat × BitField} (hwf : wf ∈ reservedFields x) :
  devxGet (fillEntries rootEntry heap 0 l) (8 * i) (wf.2.toField wf.1)
    = (getBitField heap (8 * i + 4 * wf.1) wf.2).setWidth 32
  := by
  rw [← devxGet_entryToBe heap (8 * i) (word_of_reserved hwf) wf.2]
  apply BitVec.eq_of_getLsbD_eq
  intro k _
  rw [getLsbD_devxGet, getLsbD_devxGet]
  by_cases hk : k < (wf.2.toField wf.1).size
  · obtain ⟨b, hb⟩ : ∃ b, b = (wf.2.toField wf.1).offset + (wf.2.toField wf.1).size - 1 - k :=
      ⟨_, rfl⟩
    have hpos : 8 * (8 * i) + (wf.2.toField wf.1).offset + (wf.2.toField wf.1).size - 1 - k
        = 8 * (8 * i) + b := by omega
    rw [hpos, bit_root_of_reserved hl hx heap]
    · apply lt_of_reserved hwf
      omega
    · refine ⟨wf, hwf, ?_⟩
      omega
  · simp [hk]

end Root

/-- The reserved fields of the array are zero exactly if they were in the memory. -/
theorem reservedClear_iff {l : List FlowActionModifyTypeAttr} (hl : ∀ x ∈ l, IsSetOrCopy x)
    (heap : Memory) :
  ReservedClear l (fillEntries rootEntry heap 0 l) ↔ HeapClear l heap
  := by
  have hzero : ∀ (f : BitField) (v : BitVec f.size), v.setWidth 32 = 0 ↔ v = 0 := by
    intro f v
    have hsize : f.size ≤ 32 := by
      have := f.within
      omega
    constructor
    · intro h
      apply BitVec.eq_of_toNat_eq
      have := congrArg BitVec.toNat h
      simpa [BitVec.toNat_setWidth, Nat.mod_eq_of_lt
        (lt_of_lt_of_le v.isLt (Nat.pow_le_pow_right (by decide) hsize))] using this
    · rintro rfl
      simp
  constructor
  · intro h i x hx wf hwf
    rw [← hzero, ModifyAction.bytes, ← devxGet_root hl hx heap hwf]
    apply h i x hx wf hwf
  · intro h i x hx wf hwf
    rw [ModifyAction.bytes, devxGet_root hl hx heap hwf, hzero]
    apply h i x hx wf hwf

/-- The entries do not depend on what the memory had if their reserved fields are zero. -/
theorem sameEntries_of_clear {l : List FlowActionModifyTypeAttr} (hl : ∀ x ∈ l, IsSetOrCopy x)
    {heap heap' : Memory} (h : ReservedClear l (fillEntries rootEntry heap 0 l))
    (h' : ReservedClear l (fillEntries rootEntry heap' 0 l)) :
  SameEntries l (fillEntries rootEntry heap 0 l) (fillEntries rootEntry heap' 0 l)
  := by
  intro j hj
  rw [ModifyAction.bytes] at hj
  obtain ⟨i, b, hi, hb, rfl⟩ : ∃ i b, i < l.length ∧ b < 64 ∧ j = 8 * (8 * i) + b := by
    use j / 64, j % 64
    omega
  have hx : l[i]? = some l[i] := List.getElem?_eq_getElem hi
  by_cases hreserved : Reserved l[i] b
  · -- both bits are of a field that is zero
    obtain ⟨wf, hwf, hlo, hhi⟩ := hreserved
    have hzero : ∀ root, ReservedClear l root → bit root (8 * (8 * i) + b) = false := by
      intro root hroot
      have hfield := congrArg (fun v => v.getLsbD
        ((wf.2.toField wf.1).offset + (wf.2.toField wf.1).size - 1 - b)) (hroot i l[i] hx wf hwf)
      simp only [getLsbD_devxGet, ModifyAction.bytes] at hfield
      have hpos : 8 * (8 * i) + (wf.2.toField wf.1).offset + (wf.2.toField wf.1).size - 1
          - ((wf.2.toField wf.1).offset + (wf.2.toField wf.1).size - 1 - b) = 8 * (8 * i) + b := by
        omega
      have hin : (wf.2.toField wf.1).offset + (wf.2.toField wf.1).size - 1 - b
          < (wf.2.toField wf.1).size := by
        omega
      rw [hpos] at hfield
      simpa [hin] using hfield
    rw [hzero _ h, hzero _ h']
  · apply bit_root_of_not_reserved hl hx heap heap' hb hreserved

/-! ### What a rule hands on -/

/-- The entries that the action hands to the OS layer when a rule of the root table applies it. -/
def handed (a : FlowActionModify) (env : RootEnv) : Option Memory :=
  match a.applyRoot env .new with
  | (.ok, _, desc) => desc.modifyActions
  | _ => none

/-- An action that is not known ends the loop over the PRM entries. -/
theorem applyModifyActions_of_unknown (m : Memory) (p : Nat) {l : List FlowActionModifyTypeAttr}
    (h : ¬ ∀ x ∈ l, IsSetOrCopy x) :
  (applyModifyActions m p l).1 = .errNoSupport
  := by
  induction l generalizing m p with
  | nil => simp at h
  | cons x rest ih =>
      cases x with
      | other => rfl
      | _ =>
          apply ih
          intro hrest
          apply h
          intro y hy
          rcases List.mem_cons.mp hy with rfl | hy
          · trivial
          · apply hrest y hy

/-- A new action hands on the entries of its list, filled into the memory that was allocated. -/
theorem handed_new (ctx : Bool) (attr : FlowActionModifyAttr) (env : RootEnv) (heap : Memory) :
  handed (.new ctx attr) { env with heap := some heap }
    = if env.allocMailbox = true ∧ ∀ x ∈ attr.actions, IsSetOrCopy x then
        some (fillEntries rootEntry heap 0 attr.actions)
      else none
  := by
  cases halloc : env.allocMailbox with
  | false =>
      simp [handed, applyRoot, new, preparePrmModifyBuff, Result.andThen]
  | true =>
      by_cases hl : ∀ x ∈ attr.actions, IsSetOrCopy x
      · obtain ⟨b, m, hbuff, hattr, -⟩ := preparePrmModifyBuff_ok (.new ctx attr) hl
        have hentries := prepareFlowDescBuffs_ok b heap (by rwa [hattr])
        rw [if_pos ⟨rfl, hl⟩]
        simp only [handed, applyRoot, hbuff, Result.andThen, hentries, hattr]
        rfl
      · have hfail : ((new ctx attr).preparePrmModifyBuff true).1 = .errNoSupport := by
          simp only [preparePrmModifyBuff, if_true]
          apply applyModifyActions_of_unknown _ _ hl
        rw [if_neg (fun h => hl h.2)]
        rcases hbuff : (new ctx attr).preparePrmModifyBuff true with ⟨ret, b⟩
        rw [hbuff] at hfail
        cases hfail
        simp only [handed, applyRoot, hbuff, Result.andThen]
        rfl

/-- Whatever the list of actions, and whatever the memory that is allocated for the entries had in
two runs: the entries that are handed on are the same, with zeros where they are reserved, exactly
if nothing is handed on or the memory had zeros there, both times. -/
theorem handed_same_iff (ctx : Bool) (attr : FlowActionModifyAttr) (env : RootEnv)
    (heap heap' : Memory) :
  (∀ root root', handed (.new ctx attr) { env with heap := some heap } = some root →
      handed (.new ctx attr) { env with heap := some heap' } = some root' →
      SameEntries attr.actions root root' ∧ ReservedClear attr.actions root
        ∧ ReservedClear attr.actions root')
    ↔ (env.allocMailbox = true → (∀ x ∈ attr.actions, IsSetOrCopy x) →
      HeapClear attr.actions heap ∧ HeapClear attr.actions heap')
  := by
  rw [handed_new, handed_new]
  constructor
  · intro h halloc hl
    rw [if_pos ⟨halloc, hl⟩, if_pos ⟨halloc, hl⟩] at h
    obtain ⟨-, hclear, hclear'⟩ := h _ _ rfl rfl
    exact ⟨(reservedClear_iff hl heap).mp hclear, (reservedClear_iff hl heap').mp hclear'⟩
  · intro h root root' hroot hroot'
    split at hroot
    · rename_i hhands
      rw [if_pos hhands] at hroot'
      cases hroot
      cases hroot'
      obtain ⟨hheap, hheap'⟩ := h hhands.1 hhands.2
      have hclear := (reservedClear_iff hhands.2 heap).mpr hheap
      have hclear' := (reservedClear_iff hhands.2 heap').mpr hheap'
      exact ⟨sameEntries_of_clear hhands.2 hclear hclear', hclear, hclear'⟩
    · cases hroot

/-- A set of a metadata register: of the memory's bits, the entry keeps the reserved ones. -/
theorem handed_keeps_heap :
  ∃ root root', handed (.new true ⟨0, [.set 0x51 0 0 0xabcd]⟩)
        { acceptingRoot with heap := some zeros } = some root
      ∧ handed (.new true ⟨0, [.set 0x51 0 0 0xabcd]⟩)
        { acceptingRoot with heap := some fun _ => 0xff } = some root'
      ∧ devxGet root 0 (ModifyAction.dstRsvd0.toField 0) = 0
      ∧ devxGet root' 0 (ModifyAction.dstRsvd0.toField 0) = 7
  := by
  refine ⟨_, _, rfl, rfl, ?_, ?_⟩
  · decide +kernel
  · decide +kernel

end FlowActionModify

end Dpcp
