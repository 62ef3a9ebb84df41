import Dpcp.Queue.Geometry

/-!
# The context of a completion queue

`cq::create` writes the attributes of the queue to fields of one to sixteen bits, and cuts off what
does not fit.  It asks `cq_attr_use` for the moderation only: the flags are written whether or not
they are selected, and the flag of the period mode never is.
-/

namespace Dpcp

open Bits Dcmd Prm Ledger

namespace Cq

/-- What the device reads in the context of the CQ. -/
def read (m : Memory) (f : Field) : BitVec 32 :=
  devxGet m CreateCqIn.cqContext f

/-- The flags of `enum cq_flags`, with the fields of the context that stand for them. -/
def flagFields : List (Nat × Field) :=
  [(attrCqCqeCollapsedFlag, Cqc.cc), (attrCqBreakModerationEnFlag, Cqc.scqeBreakModerationEn),
    (attrCqOverrunIgnoreFlag, Cqc.oi), (attrCqPeriodModeFlag, Cqc.cqPeriodMode)]

/-- The context in the mailbox carries the attributes that `cq_attr_use` selects, with their full
values, and no others. -/
structure Carries (attrs : CqAttr) (m : Memory) : Prop where
  eqNum : read m Cqc.cEqn = if attrs.cqAttrUse.getLsbD cqEqNumBit then attrs.eqNum else 0
  period : read m Cqc.cqPeriod
    = if attrs.cqAttrUse.getLsbD cqModerationBit then attrs.moderation.cqPeriod else 0
  maxCnt : read m Cqc.cqMaxCount
    = if attrs.cqAttrUse.getLsbD cqModerationBit then attrs.moderation.cqMaxCnt else 0
  flags : ∀ p ∈ flagFields, read m p.2
    = if attrs.cqAttrUse.getLsbD cqFlagsBit ∧ attrs.flags.getLsbD p.1 then 1 else 0

/-- The numbers that are selected fit their fields, a flag is set only if the flags are selected,
and the flag of the period mode is not set. -/
structure Fits (attrs : CqAttr) : Prop where
  eqNum : attrs.eqNum.toNat < 2 ^ 8
  moderation : attrs.cqAttrUse.getLsbD cqModerationBit = true →
    attrs.moderation.cqPeriod.toNat < 2 ^ 12 ∧ attrs.moderation.cqMaxCnt.toNat < 2 ^ 16
  flags : (∃ flag ∈ [attrCqCqeCollapsedFlag, attrCqBreakModerationEnFlag, attrCqOverrunIgnoreFlag],
    attrs.flags.getLsbD flag = true) → attrs.cqAttrUse.getLsbD cqFlagsBit = true
  periodMode : ¬ (attrs.cqAttrUse.getLsbD cqFlagsBit = true
    ∧ attrs.flags.getLsbD attrCqPeriodModeFlag = true)

/-- The numbers in the mailbox are cut off to the widths of their fields. -/
theorem read_mailbox (attrs : CqAttr) (q : Queue) (uar : UarT) (logCqBufSz : Int) :
  let m := mailbox attrs q uar logCqBufSz
  read m Cqc.cEqn = attrs.eqNum &&& lowMask 8
    ∧ read m Cqc.cqPeriod = (if attrs.cqAttrUse.getLsbD cqModerationBit then
      attrs.moderation.cqPeriod &&& lowMask 12 else 0)
    ∧ read m Cqc.cqMaxCount = (if attrs.cqAttrUse.getLsbD cqModerationBit then
      attrs.moderation.cqMaxCnt &&& lowMask 16 else 0)
  := by
  simp only [read, mailbox]
  simp (disch := decide) only [devxGet_if, devxGet_devxSet_of_apart, devxGet_devxSet64_of_apart,
    devxGet_devxSet_self, ite_self, devxGet_zeros]
  exact ⟨rfl, rfl, rfl⟩

/-- The flags in the mailbox are those of the attributes, but for the period mode. -/
theorem read_mailbox_flags (attrs : CqAttr) (q : Queue) (uar : UarT) (logCqBufSz : Int) :
  let m := mailbox attrs q uar logCqBufSz
  read m Cqc.cc = (if attrs.flags.getLsbD attrCqCqeCollapsedFlag then 1 else 0)
    ∧ read m Cqc.scqeBreakModerationEn
      = (if attrs.flags.getLsbD attrCqBreakModerationEnFlag then 1 else 0)
    ∧ read m Cqc.oi = (if attrs.flags.getLsbD attrCqOverrunIgnoreFlag then 1 else 0)
    ∧ read m Cqc.cqPeriodMode = 0
  := by
  simp only [read, mailbox]
  simp (disch := decide) only [devxGet_if, devxGet_devxSet_of_apart, devxGet_devxSet64_of_apart,
    devxGet_devxSet_self, ite_self, devxGet_zeros]
  exact ⟨rfl, rfl, rfl, trivial⟩

/-- A flag that is written whether or not the flags are selected. -/
theorem flag_eq_iff (selected set : Bool) :
  (if set then (1 : BitVec 32) else 0) = (if selected ∧ set then 1 else 0)
    ↔ (set = true → selected = true)
  := by
  cases selected <;> cases set <;> decide

/-- The context carries the attributes exactly if they fit. -/
theorem carries_mailbox_iff {attrs : CqAttr} (heqNum : attrs.cqAttrUse.getLsbD cqEqNumBit = true)
    (q : Queue) (uar : UarT) (logCqBufSz : Int) :
  Carries attrs (mailbox attrs q uar logCqBufSz) ↔ Fits attrs
  := by
  obtain ⟨hreadEqn, hreadPeriod, hreadMaxCnt⟩ := read_mailbox attrs q uar logCqBufSz
  obtain ⟨hreadCc, hreadBreak, hreadOi, hreadMode⟩ := read_mailbox_flags attrs q uar logCqBufSz
  constructor
  · intro h
    have heqn := h.eqNum
    have hperiod := h.period
    have hmaxCnt := h.maxCnt
    have hflags := h.flags
    simp only [flagFields, List.forall_mem_cons, hreadCc, hreadBreak, hreadOi, hreadMode,
      flag_eq_iff] at hflags
    obtain ⟨hcc, hbreak, hoi, hmode, -⟩ := hflags
    rw [hreadEqn, if_pos heqNum, and_lowMask_eq_self_iff (by decide)] at heqn
    refine ⟨heqn, ?_, ?_, ?_⟩
    · intro hmod
      rw [hreadPeriod, if_pos hmod, if_pos hmod, and_lowMask_eq_self_iff (by decide)] at hperiod
      rw [hreadMaxCnt, if_pos hmod, if_pos hmod, and_lowMask_eq_self_iff (by decide)] at hmaxCnt
      exact ⟨hperiod, hmaxCnt⟩
    · simp only [List.exists_mem_cons_iff]
      rintro (hset | hset | hset | ⟨_, hmem, -⟩)
      · apply hcc hset
      · apply hbreak hset
      · apply hoi hset
      · cases hmem
    · intro hset
      rw [if_pos hset] at hmode
      cases hmode
  · intro h
    refine ⟨?_, ?_, ?_, ?_⟩
    · rw [hreadEqn, if_pos heqNum]
      apply (and_lowMask_eq_self_iff (by decide) _).mpr h.eqNum
    · rw [hreadPeriod]
      split
      · rename_i hmod
        apply (and_lowMask_eq_self_iff (by decide) _).mpr (h.moderation hmod).1
      · rfl
    · rw [hreadMaxCnt]
      split
      · rename_i hmod
        apply (and_lowMask_eq_self_iff (by decide) _).mpr (h.moderation hmod).2
      · rfl
    · simp only [flagFields, List.forall_mem_cons, hreadCc, hreadBreak, hreadOi, hreadMode,
        flag_eq_iff]
      refine ⟨fun hset => h.flags ⟨_, by simp, hset⟩, fun hset => h.flags ⟨_, by simp, hset⟩,
        fun hset => h.flags ⟨_, by simp, hset⟩, (if_neg h.periodMode).symm, by simp⟩

end Cq

/-- The device makes the queue with the attributes that are selected exactly if they fit. -/
theorem Adapter.cq_carries_iff {ad : Adapter} {attrs : CqAttr} {env : QueueEnv} {outCq : Nat}
    {r : Creation} (hr : ad.createCq attrs env outCq = some r) (hok : r.status = .ok) :
  ∃ q uar m, r.queue = some q ∧ q.mUar = some uar ∧ Cq.createMailbox attrs q uar = some m
    ∧ (env.device m CreateCqIn.bytes).handle = true ∧ (Cq.Carries attrs m ↔ Cq.Fits attrs)
  := by
  obtain ⟨-, s, s', id, hqueue, -, huar, hcreate⟩ := createCq_eq_ok hr hok
  obtain ⟨-, hmUar, m, hm, hmade⟩ := Cq.sent_of_create hcreate
  refine ⟨s'.queue, s.uarP, m, hqueue, ?_, hm, hmade, ?_⟩
  · rw [hmUar, huar]
  · obtain ⟨logCqBufSz, -, rfl⟩ := Option.map_eq_some_iff.mp hm
    apply Cq.carries_mailbox_iff (buildsCq_of_ok hr hok).eqNum

/-- A queue with a period of 100 usec and a counter of 32, which ignores overruns. -/
def CqAttr.moderated : CqAttr :=
  ⟨16, 5, ⟨100, 32⟩, 0x8, 0xf⟩

theorem Adapter.cq_carries_moderated :
  ∃ r, Adapter.fresh.createCq .moderated .generous 0 = some r
    ∧ ∃ q uar m, r.queue = some q ∧ q.mUar = some uar
      ∧ Cq.createMailbox .moderated q uar = some m ∧ Cq.Carries .moderated m
  := by
  have hmade : (Adapter.fresh.createCq .moderated .generous 0).map Creation.status = some .ok := by
    rfl
  obtain ⟨r, hr, hok⟩ := Option.map_eq_some_iff.mp hmade
  obtain ⟨q, uar, m, hq, huar, hm, -, hcarries⟩ := cq_carries_iff hr hok
  refine ⟨r, hr, q, uar, m, hq, huar, hm, hcarries.mpr ⟨by decide, ?_, ?_, by decide⟩⟩
  · intro
    decide
  · intro
    rfl

/-- The flags are not selected, and the CQEs are collapsed nevertheless; a period of 4096 usec
becomes none. -/
theorem Adapter.cq_carries_unselected :
  ∃ r q uar m, Adapter.fresh.createCq ⟨16, 5, ⟨4096, 32⟩, 0x2, 0x7⟩ .generous 0 = some r
    ∧ r.status = .ok ∧ r.queue = some q ∧ q.mUar = some uar
    ∧ Cq.createMailbox ⟨16, 5, ⟨4096, 32⟩, 0x2, 0x7⟩ q uar = some m
    ∧ Cq.read m Cqc.cc = 1 ∧ Cq.read m Cqc.cqPeriod = 0
  := ⟨_, _, _, _, rfl, rfl, rfl, rfl, rfl, by decide +kernel, by decide +kernel⟩

end Dpcp
