import Mathlib.Data.BitVec

/-!
# The public interface

The status codes and the attribute structures of `api/dpcp.h` that the modelled functions
read.  An enumeration an application can set to any of its representable values is kept as
its 32-bit representation.
-/

namespace Dpcp

/-- `enum status`. -/
inductive Status where
  | ok
  | errNoSupport
  | errNoProvider
  | errNoDevices
  | errNoMemory
  | errOutOfRange
  | errInvalidId
  | errNoContext
  | errInvalidParam
  | errCreate
  | errModify
  | errQuery
  | errUmem
  | errAllocUar
  | errNotApplied
deriving DecidableEq, Repr

/-- A status together with what the call leaves behind, also when it fails. -/
abbrev Result (α : Type) : Type := Status × α

namespace Result

variable {α : Type}

/-- Goes on with `k` if the status is `ok`, and returns the error otherwise. -/
def andThen (r : Result α) (k : α → Result α) : Result α :=
  match r.1 with
  | .ok => k r.2
  | _ => r

theorem andThen_eq_ok {r : Result α} {k : α → Result α} {a : α} :
  r.andThen k = (.ok, a) ↔ ∃ b, r = (.ok, b) ∧ k b = (.ok, a)
  := by
  obtain ⟨ret, b⟩ := r
  cases ret <;> simp [andThen]

/-- What holds where `r` fails, and where the rest ends if `r` does not fail, holds where the
whole ends. -/
theorem andThen_inv {P : α → Prop} {r : Result α} {k : α → Result α}
    (hfail : r.1 ≠ .ok → P r.2) (hok : r.1 = .ok → P (k r.2).2) :
  P (r.andThen k).2
  := by
  by_cases h : r.1 = .ok
  · simp only [andThen, h]
    apply hok h
  · have hself : r.andThen k = r := by
      obtain ⟨ret, a⟩ := r
      cases ret <;> first | rfl | cases h rfl
    rw [hself]
    apply hfail h

end Result

/-- Calls that have related results, or both none, still do when they go on in related ways. -/
theorem rel_bind {α β : Type} {R : α → α → Prop} {S : β → β → Prop} {x y : Option α}
    {f g : α → Option β} (h : Option.Rel R x y) (hfg : ∀ a b, R a b → Option.Rel S (f a) (g b)) :
  Option.Rel S (x >>= f) (y >>= g)
  := by
  cases h with
  | none => exact .none
  | some hab => exact hfg _ _ hab

/-- What is made of the results of such calls is related if it is for related results. -/
theorem rel_elim {α β : Type} {R : α → α → Prop} {S : β → β → Prop} {x y : Option α} {b c : β}
    {f g : α → β} (h : Option.Rel R x y) (hbc : S b c) (hfg : ∀ a a', R a a' → S (f a) (g a')) :
  S (x.elim b f) (y.elim c g)
  := by
  cases h with
  | none => apply hbc
  | some haa' => exact hfg _ _ haa'

/-! ### Match parameters -/

/-- `struct parser_sample_field`. -/
structure ParserSampleField where
  val : BitVec 32
  id : BitVec 32
deriving DecidableEq

/-- `struct match_params_lyr_2`; a MAC address is 6 bytes and 2 bytes of alignment. -/
structure MatchParamsLyr2 where
  srcMac : Vector (BitVec 8) 8
  dstMac : Vector (BitVec 8) 8
  ethertype : BitVec 16
  firstVlanId : BitVec 16

/-- `struct match_params_lyr_3`. -/
structure MatchParamsLyr3 where
  srcIp : BitVec 32
  dstIp : BitVec 32
  ipProtocol : BitVec 8
  ipVersion : BitVec 4

/-- `enum match_params_lyr_4_type`, and any other value of its representation. -/
inductive MatchParamsLyr4Type where
  | none
  | tcp
  | udp
  | other (type : BitVec 32)
deriving DecidableEq

/-- `struct match_params_lyr_4`. -/
structure MatchParamsLyr4 where
  type : MatchParamsLyr4Type
  srcPort : BitVec 16
  dstPort : BitVec 16

/-- `struct match_params_ex`. -/
structure MatchParamsEx where
  matchLyr2 : MatchParamsLyr2
  matchLyr3 : MatchParamsLyr3
  matchLyr4 : MatchParamsLyr4
  matchParserSampleFieldVec : List ParserSampleField
  matchMetadataRegC0 : BitVec 32

/-- The parameters the constructor of `match_params_ex` makes. -/
def MatchParamsEx.empty : MatchParamsEx where
  matchLyr2 := ⟨.replicate 8 0, .replicate 8 0, 0, 0⟩
  matchLyr3 := ⟨0, 0, 0, 0⟩
  matchLyr4 := ⟨.none, 0, 0⟩
  matchParserSampleFieldVec := []
  matchMetadataRegC0 := 0

def fgMatchOuterHdr : BitVec 8 := 0x1
def fgMatchMetadataRegC0 : BitVec 8 := 0x8
def fgMatchParserFields : BitVec 8 := 0x20

/-! ### Modify-header actions -/

/-- `union flow_action_modify_type_attr`, the attributes of a modify action by its type:
`set` for `flow_action_modify_set_attr`, `copy` for `flow_action_modify_copy_attr`, and
`other` for a type that is neither. -/
inductive FlowActionModifyTypeAttr where
  | set (field : BitVec 32) (offset length : BitVec 5) (data : BitVec 32)
  | copy (srcField : BitVec 32) (srcOffset length : BitVec 5) (dstField : BitVec 32)
      (dstOffset : BitVec 5)
  | other (type : BitVec 32)
deriving DecidableEq

/-- `struct flow_action_modify_attr`. -/
structure FlowActionModifyAttr where
  tableType : BitVec 32
  actions : List FlowActionModifyTypeAttr

end Dpcp
