import Dpcp.Queue.Basic

/-!
# Completion queues

`adapter::create_cq` acquires what the queue needs step by step, and at each step where it can
fail releases by hand what it has acquired, before it deletes the queue; the destructor of the
queue then releases it again.
-/

namespace Dpcp

open Bits Dcmd Prm Ledger

/-- `struct cq_moderation`. -/
structure CqModeration where
  cqPeriod : BitVec 32
  cqMaxCnt : BitVec 32

/-- `struct cq_attr`. -/
structure CqAttr where
  cqSz : BitVec 32
  eqNum : BitVec 32
  moderation : CqModeration
  flags : BitVec 5
  cqAttrUse : BitVec 4

/-- The bits of `enum cq_attr_use`. -/
def cqSizeBit : Nat := 0
def cqEqNumBit : Nat := 1
def cqModerationBit : Nat := 2
def cqFlagsBit : Nat := 3

/-- The bits of `enum cq_flags`. -/
def attrCqCqeCollapsedFlag : Nat := 1
def attrCqBreakModerationEnFlag : Nat := 2
def attrCqOverrunIgnoreFlag : Nat := 3
def attrCqPeriodModeFlag : Nat := 4

namespace Cq

def cqeSize : Nat := 64

/-- `MAX_CQ_SZ`. -/
def maxCqSz : Nat := 2 ^ 22

def mlx5CmdOpCreateCq : BitVec 32 := 0x400

/-- The size of the CQ buffer in bytes, by the constructor of `cq`. -/
def cqBufSzBytes (attrs : CqAttr) : BitVec 32 :=
  BitVec.ofNat 32 (cqeSize * attrs.cqSz.toNat)

/-- The mailbox of `cq::create`. -/
def mailbox (attrs : CqAttr) (q : Queue) (uar : UarT) (logCqBufSz : Int) : Memory :=
  let m := zeros
  let m := devxSet m 0 CreateCqIn.cqUmemId q.mBufUmemId
  let m := devxSet64 m 0 CreateCqIn.eMttPointerOrCqUmemOffset 0
  let cqCtx := CreateCqIn.cqContext
  let m := devxSet m cqCtx Cqc.logCqSize (BitVec.ofInt 32 logCqBufSz)
  let m := devxSet m cqCtx Cqc.cEqn attrs.eqNum
  let m := devxSet m cqCtx Cqc.dbrUmemId q.mDbRecUmemId
  let m := devxSet64 m cqCtx Cqc.dbrAddr 0
  let m := devxSet m cqCtx Cqc.uarPage uar.mPageId
  let m :=
    if attrs.cqAttrUse.getLsbD cqModerationBit then
      let m := devxSet m cqCtx Cqc.cqPeriod attrs.moderation.cqPeriod
      devxSet m cqCtx Cqc.cqMaxCount attrs.moderation.cqMaxCnt
    else m
  let m := if attrs.flags.getLsbD attrCqCqeCollapsedFlag then devxSet m cqCtx Cqc.cc 1 else m
  let m :=
    if attrs.flags.getLsbD attrCqBreakModerationEnFlag then
      devxSet m cqCtx Cqc.scqeBreakModerationEn 1
    else m
  let m := if attrs.flags.getLsbD attrCqOverrunIgnoreFlag then devxSet m cqCtx Cqc.oi 1 else m
  let m := devxSet m cqCtx Cqc.cqeCompressionEn 0
  devxSet m 0 CreateCqIn.opcode mlx5CmdOpCreateCq

/-- `cq::create`; there is no result if `ilog2` gives none. -/
def create (attrs : CqAttr) (env : QueueEnv) (s : Prep) : Option (Result Prep) :=
  match ilog2 (castInt (attrs.cqSz.setWidth 64)) with
  | none => none
  | some logCqBufSz =>
      let m := mailbox attrs s.queue s.uarP logCqBufSz
      some (s.createObj env m CreateCqIn.bytes CreateCqOut.bytes)

/-- `cq::init`. -/
def init (attrs : CqAttr) (env : QueueEnv) (s : Prep) : Option (Result Prep) :=
  if maxCqSz < attrs.cqSz.toNat then
    some (.errInvalidParam, s)
  else
    match s.copyUar env with
    | (.ok, s) => create attrs env s
    | r => some r

end Cq

namespace Adapter

/-- The second half of `create_cq`, from where the queue has its buffer.  At each failure the
resources released by hand are those the source releases there, in that order. -/
def createCqWithBuf (ad : Adapter) (attrs : CqAttr) (env : QueueEnv) (outCq : Nat) (s : Prep) :
    Option Creation :=
  match s.regBuf env (Cq.cqBufSzBytes attrs).toNat with
  | (.ok, s) =>
      match s.allocateDbRec env 64 with
      | (.ok, s) =>
          match s.regDbRec env with
          | (.ok, s) =>
              match Cq.init attrs env s with
              | some (.ok, s) => some (.publish ad env s)
              | some (ret, s) =>
                  some (.abandon ad env outCq ret [.dbRecUmem, .dbRec, .bufUmem, .buf] s)
              | none => none
          | (ret, s) => some (.abandon ad env outCq ret [.dbRec, .bufUmem, .buf] s)
      | (ret, s) => some (.abandon ad env outCq ret [.bufUmem, .buf] s)
  | (ret, s) => some (.abandon ad env outCq ret [.buf] s)

/-- `adapter::create_cq`; `outCq` is what the output parameter held. -/
def createCq (ad : Adapter) (attrs : CqAttr) (env : QueueEnv) (outCq : Nat) : Option Creation :=
  if !attrs.cqAttrUse.getLsbD cqSizeBit ∨ attrs.cqSz = 0 then
    some (.refuse ad outCq .errInvalidParam)
  else if !attrs.cqAttrUse.getLsbD cqEqNumBit then
    some (.refuse ad outCq .errInvalidParam)
  else
    match ad.makeUarpool env with
    | none => some (.refuse ad outCq .errNoMemory)
    | some uarpool =>
        let ad := { ad with mUarpool := some uarpool }
        if env.newQueue = 0 then
          some (.refuse ad outCq .errNoMemory)
        else
          let cqBufSz := (Cq.cqBufSzBytes attrs).toNat
          match (Prep.new ad.mDcmdCtx uarpool (Cq.cqBufSzBytes attrs)).obtainUar env with
          | (.ok, s) =>
              match s.allocateBuf env cqBufSz cqBufSz with
              | (.ok, s) => ad.createCqWithBuf attrs env outCq s
              | (ret, s) => some (.abandon ad env outCq ret [] s)
          | (ret, s) => some (.abandon ad env outCq ret [] s)

end Adapter

/-! ### Failures of `create_cq` -/

namespace Cq

/-- A size that passes the check of `init` has a logarithm. -/
theorem init_isSome (attrs : CqAttr) (env : QueueEnv) (s : Prep) :
  (init attrs env s).isSome = true
  := by
  simp only [init]
  split
  · rfl
  · rename_i hsz
    have hcast : castInt (attrs.cqSz.setWidth 64) ≤ 2 ^ 30 := by
      simp only [castInt, maxCqSz] at hsz ⊢
      rw [BitVec.setWidth_setWidth_of_le _ (by decide), BitVec.setWidth_eq,
        BitVec.toInt_eq_toNat_of_lt (by omega)]
      omega
    obtain ⟨logCqBufSz, hlog⟩ := Option.isSome_iff_exists.mp (ilog2_isSome hcast)
    split
    · simp [create, hlog]
    · rfl

/-- `init` acquires the copy of the UAR page and the object of the device, or less. -/
theorem init_owns {attrs : CqAttr} {env : QueueEnv} {s s' : Prep} {l : List Resource}
    {ret : Status} (h : s.Owns l) (hnew : .hw ∉ l)
    (hinit : init attrs env s = some (ret, s')) :
  ∃ l', s'.Owns (l ++ l')
  := by
  have hleaves := Prep.copyUar_leaves env h
  simp only [init] at hinit
  split at hinit
  · cases hinit
    exact ⟨[], by simpa using h⟩
  · split at hinit
    · rename_i s₁ hcopy
      rw [hcopy] at hleaves
      simp only [create] at hinit
      split at hinit
      · cases hinit
      · obtain ⟨l', hl'⟩ := Prep.createObj_owns env
          (mailbox attrs s₁.queue s₁.uarP _) CreateCqIn.bytes CreateCqOut.bytes (hleaves.ok rfl)
          (by simp [hnew])
        rw [Option.some.inj hinit] at hl'
        exact ⟨[.uarT] ++ l', by simpa using hl'⟩
    · rw [Option.some.inj hinit] at hleaves
      apply hleaves.exists

end Cq

namespace Adapter

/-- `create_cq` gets as far as building the `cq` object. -/
structure BuildsCq (ad : Adapter) (attrs : CqAttr) (env : QueueEnv) : Prop where
  size : attrs.cqAttrUse.getLsbD cqSizeBit = true ∧ attrs.cqSz ≠ 0
  eqNum : attrs.cqAttrUse.getLsbD cqEqNumBit = true
  uarpool : ad.mUarpool ≠ none ∨ env.newUarpool = true
  object : env.newQueue ≠ 0

/-- There is no UAR for the queue, or no CQ buffer. -/
def NoUarOrBuf (ad : Adapter) (env : QueueEnv) : Prop :=
  ad.sharedUar = none ∧ env.allocUar = false ∨ env.allocBuf = false

theorem createCqWithBuf_isSome (ad : Adapter) (attrs : CqAttr) (env : QueueEnv) (outCq : Nat)
    (s : Prep) :
  (ad.createCqWithBuf attrs env outCq s).isSome = true
  := by
  simp only [createCqWithBuf]
  split
  · split
    · split
      · rename_i s₃ h₃
        have hinit := Cq.init_isSome attrs env s₃
        split
        · rfl
        · rfl
        · rename_i hnone
          rw [hnone] at hinit
          cases hinit
      · rfl
    · rfl
  · rfl

/-- `create_cq` returns. -/
theorem createCq_isSome (ad : Adapter) (attrs : CqAttr) (env : QueueEnv) (outCq : Nat) :
  (ad.createCq attrs env outCq).isSome = true
  := by
  simp only [createCq]
  split
  · rfl
  · split
    · rfl
    · split
      · rfl
      · split
        · rfl
        · split
          · split
            · apply createCqWithBuf_isSome
            · rfl
          · rfl

/-- `create_cq` stores the output pointer last. -/
theorem createCq_out {ad : Adapter} {attrs : CqAttr} {env : QueueEnv} {outCq : Nat} {r : Creation}
    (hr : ad.createCq attrs env outCq = some r) (hstatus : r.status ≠ .ok) :
  r.out = outCq
  := by
  simp only [createCq, createCqWithBuf] at hr
  -- every end of the function either publishes, with status `ok`, or leaves the pointer alone
  repeat' split at hr
  all_goals cases hr <;> first | rfl | cases hstatus rfl

/-- The failures with a CQ buffer: the buffer was acquired, and is released by hand. -/
theorem createCqWithBuf_fails {ad : Adapter} {attrs : CqAttr} {env : QueueEnv} {outCq : Nat}
    {s : Prep} {r : Creation} (howns : s.Owns [.buf])
    (hr : ad.createCqWithBuf attrs env outCq s = some r) (hstatus : r.status ≠ .ok) :
  ∃ status explicit s' l, r = .abandon ad env outCq status explicit s' ∧ s'.Owns l
    ∧ .buf ∈ l ∧ .buf ∈ explicit
  := by
  have howns := Prep.regBuf_leaves env (Cq.cqBufSzBytes attrs).toNat howns (by decide)
  simp only [createCqWithBuf] at hr
  split at hr
  · rename_i s₁ h₁
    rw [h₁] at howns
    have howns := Prep.allocateDbRec_leaves env 64 (howns.ok rfl)
    split at hr
    · rename_i s₂ h₂
      rw [h₂] at howns
      have howns := Prep.regDbRec_leaves env (howns.ok rfl) (by decide)
      split at hr
      · rename_i s₃ h₃
        rw [h₃] at howns
        split at hr
        · cases hr
          cases hstatus rfl
        · rename_i ret s₄ hret h₄
          obtain ⟨l', hl'⟩ := Cq.init_owns (howns.ok rfl) (by decide) h₄
          exact ⟨_, _, _, _, (Option.some.inj hr).symm, hl', by simp, by simp⟩
        · cases hr
      · rename_i ret s₃ hret h₃
        rw [h₃] at howns
        exact ⟨_, _, _, _, (Option.some.inj hr).symm, howns.fail hret, by simp, by simp⟩
    · rename_i ret s₂ hret h₂
      rw [h₂] at howns
      exact ⟨_, _, _, _, (Option.some.inj hr).symm, howns.fail hret, by simp, by simp⟩
  · rename_i ret s₁ hret h₁
    rw [h₁] at howns
    exact ⟨_, _, _, _, (Option.some.inj hr).symm, howns.fail hret, by simp, by simp⟩

/-- The failures after the object is built: with no UAR or no CQ buffer nothing was acquired;
later the CQ buffer was acquired, and is released by hand. -/
theorem createCq_fails {ad : Adapter} {attrs : CqAttr} {env : QueueEnv} {outCq : Nat}
    {r : Creation} (hbuilds : ad.BuildsCq attrs env)
    (hr : ad.createCq attrs env outCq = some r) (hstatus : r.status ≠ .ok) :
  ∃ ad' status explicit s l, r = .abandon ad' env outCq status explicit s ∧ s.Owns l
    ∧ (ad.NoUarOrBuf env ∧ l = [] ∨ ¬ ad.NoUarOrBuf env ∧ .buf ∈ l ∧ .buf ∈ explicit)
  := by
  obtain ⟨⟨hsize, hsz⟩, heqNum, huarpool, hobject⟩ := hbuilds
  obtain ⟨uarpool, hmake, hshared⟩ := makeUarpool_eq huarpool
  have huar := Prep.obtainUar_ok_iff hobject
    (Prep.new ad.mDcmdCtx uarpool (Cq.cqBufSzBytes attrs))
  have howns := Prep.obtainUar_owns env
    (Prep.owns_new ad.mDcmdCtx uarpool (Cq.cqBufSzBytes attrs))
  rw [Prep.new, hshared, ← Prep.new] at huar
  simp only [createCq, hsize, hsz, heqNum, hmake, hobject, Bool.not_true, Bool.false_eq_true,
    or_self, if_false] at hr
  split at hr
  · rename_i s₁ h₁
    rw [h₁] at howns huar
    have hbuf := Prep.allocateBuf_ok_iff env (Cq.cqBufSzBytes attrs).toNat
      (Cq.cqBufSzBytes attrs).toNat s₁
    have howns := Prep.allocateBuf_leaves env (Cq.cqBufSzBytes attrs).toNat
      (Cq.cqBufSzBytes attrs).toNat howns
    split at hr
    · rename_i s₂ h₂
      rw [h₂] at howns hbuf
      have hnot : ¬ ad.NoUarOrBuf env := by
        rintro (hnone | hfalse)
        · apply huar.mp rfl hnone
        · rw [hbuf.mp rfl] at hfalse
          cases hfalse
      obtain ⟨status, explicit, s, l, hr, hl, hbuf⟩ :=
        createCqWithBuf_fails (howns.ok rfl) hr hstatus
      exact ⟨_, status, explicit, s, l, hr, hl, .inr ⟨hnot, hbuf⟩⟩
    · rename_i ret s₂ hret h₂
      rw [h₂] at howns hbuf
      refine ⟨_, _, _, _, _, (Option.some.inj hr).symm, howns.fail hret, .inl ⟨.inr ?_, rfl⟩⟩
      apply Bool.eq_false_iff.mpr
      intro htrue
      apply hret (hbuf.mpr htrue)
  · rename_i ret s₁ hret h₁
    rw [h₁] at howns huar
    refine ⟨_, _, _, _, [], (Option.some.inj hr).symm, howns, .inl ⟨.inl ?_, rfl⟩⟩
    by_contra hnot
    apply hret (huar.mpr hnot)

/-- `create_cq` returns, and if it fails after the object is built, then what it acquired (the CQ
buffer, the doorbell record, their umems and the copy of the UAR page) has been released once
exactly when the failure was at the UAR or at the CQ buffer. -/
theorem createCq_releasedOnce_iff {ad : Adapter} {attrs : CqAttr} {env : QueueEnv}
    (hbuilds : ad.BuildsCq attrs env) (outCq : Nat) :
  ∃ r, ad.createCq attrs env outCq = some r
    ∧ (r.status ≠ .ok →
      ((∀ res, res ≠ .hw → ReleasedOnce r.log res) ↔ ad.NoUarOrBuf env))
  := by
  obtain ⟨r, hr⟩ := Option.isSome_iff_exists.mp (createCq_isSome ad attrs env outCq)
  refine ⟨r, hr, ?_⟩
  intro hstatus
  obtain ⟨ad', status, explicit, s, l, rfl, hl, hcases⟩ := createCq_fails hbuilds hr hstatus
  rw [Creation.releasedOnce_abandon hl]
  rcases hcases with ⟨hno, rfl⟩ | ⟨hnot, hbuf, hexplicit⟩
  · apply iff_of_true _ hno
    intro res _ hres
    cases hres
  · apply iff_of_false _ hnot
    intro hreleased
    apply hreleased .buf (by decide) hbuf hexplicit

/-- The attributes of a CQ of 16 entries. -/
def sixteenEntries : CqAttr := ⟨16, 0, ⟨0, 0⟩, 0, 0x3⟩

theorem createCq_noBuf :
  ∃ r, fresh.createCq sixteenEntries { QueueEnv.generous with allocBuf := false } 0 = some r
    ∧ r.status = .errNoMemory
    ∧ ∀ res, res ≠ .hw → ReleasedOnce r.log res
  := by
  have hbuilds : fresh.BuildsCq sixteenEntries { QueueEnv.generous with allocBuf := false } :=
    ⟨by decide, by decide, .inr rfl, by decide⟩
  obtain ⟨r, hr, hiff⟩ := createCq_releasedOnce_iff hbuilds 0
  have hstatus : r.status = .errNoMemory := by
    cases hr
    rfl
  refine ⟨r, hr, hstatus, (hiff ?_).mpr (.inr rfl)⟩
  rw [hstatus]
  decide

/-- With a buffer that cannot be registered, the buffer is released twice. -/
theorem createCq_noUmem :
  ∃ r, fresh.createCq sixteenEntries { QueueEnv.generous with regBuf := none } 0 = some r
    ∧ r.status = .errUmem
    ∧ r.log = [.acquire .buf, .release .buf, .release .buf]
    ∧ ¬ ReleasedOnce r.log .buf
  := by
  refine ⟨_, rfl, rfl, rfl, ?_⟩
  intro h
  have htwice := h (by decide)
  revert htwice
  decide

end Adapter

end Dpcp
