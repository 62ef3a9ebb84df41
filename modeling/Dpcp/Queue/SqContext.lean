import Dpcp.Queue.Geometry

/-!
# The context of a send queue

`pp_sq::create` masks some of the numbers it writes to the context of a send queue, and leaves the
others to the widths of the fields, so that all of them are cut off to what the fields hold.

The ring is told by its logarithms, which are rounded up.  The buffer has sixteen times the bytes
that the sizes ask for, which is room for the rounding as long as the product does not wrap around.
-/

namespace Dpcp

open Bits Dcmd Prm Ledger

/-- `reg_mem` gives the id of the umem that it makes. -/
theorem regMem_id {ctx : Bool} {buf : Option Nat} {sz : Nat} {made : Option (BitVec 32)}
    {umem : Option Umem} {memId : BitVec 32} (h : (regMem ctx buf sz made umem memId).1 = .ok) :
  (regMem ctx buf sz made umem memId).2.1 = some ⟨(regMem ctx buf sz made umem memId).2.2, sz⟩
  := by
  simp only [regMem] at h ⊢
  repeat' split at h
  all_goals cases h
  simp_all

namespace Prep

/-- The umems of the queue are the ones whose ids it has, the buffer with `sz` bytes and the
doorbell record with 64, and the page of the UAR is copied. -/
structure Registered (s : Prep) (sz : Nat) : Prop where
  bufUmem : s.queue.mBufUmem = some ⟨s.queue.mBufUmemId, sz⟩
  dbRecUmem : s.queue.mDbRecUmem = some ⟨s.queue.mDbRecUmemId, 64⟩
  uar : s.queue.mUar = some s.uarP

theorem regBuf_id {env : QueueEnv} {sz : Nat} {s s' : Prep} (h : s.regBuf env sz = (.ok, s')) :
  s'.queue.mBufUmem = some ⟨s'.queue.mBufUmemId, sz⟩
  := by
  obtain ⟨hret, rfl⟩ := Prod.mk.inj h
  apply regMem_id hret

theorem allocateDbRec_bufId {env : QueueEnv} {bytes : Nat} {s s' : Prep}
    (h : s.allocateDbRec env bytes = (.ok, s')) :
  s'.queue.mBufUmem = s.queue.mBufUmem ∧ s'.queue.mBufUmemId = s.queue.mBufUmemId
  := by
  rw [allocateDbRec] at h
  split at h
  · cases h
  · cases h
    exact ⟨rfl, rfl⟩

theorem regDbRec_id {env : QueueEnv} {s s' : Prep} (h : s.regDbRec env = (.ok, s')) :
  s'.queue.mDbRecUmem = some ⟨s'.queue.mDbRecUmemId, 64⟩
    ∧ s'.queue.mBufUmem = s.queue.mBufUmem ∧ s'.queue.mBufUmemId = s.queue.mBufUmemId
  := by
  obtain ⟨hret, rfl⟩ := Prod.mk.inj h
  exact ⟨regMem_id hret, rfl, rfl⟩

theorem copyUar_eq_ok {env : QueueEnv} {s s' : Prep} (h : s.copyUar env = (.ok, s')) :
  s' = { s with
    queue := { s.queue with mUar := some s.uarP }
    log := s.log ++ [.acquire .uarT] }
  := by
  rw [copyUar] at h
  repeat' split at h
  all_goals cases h
  rfl

end Prep

/-- When the steps of a creation succeed, `create` is called with both umems registered. -/
theorem runSteps_umems {env : QueueEnv} {bytes sz dbBytes : Nat} {create : CreationStep}
    {s s' : Prep}
    (h : runSteps (acquireSteps env bytes sz dbBytes ++ [fun s => some (s.copyUar env), create]) s
      = some (.ok, s')) :
  sz ≠ 0 ∧ ∃ s₁, s₁.Registered sz ∧ create s₁ = some (.ok, s')
  := by
  rw [runSteps_acquireSteps] at h
  obtain ⟨s₅, hacquire, h⟩ := thenSteps_eq_ok h
  obtain ⟨s₆, hcopied, hcreate⟩ := thenSteps_eq_ok h
  obtain ⟨s₁, -, hacquire⟩ := Result.andThen_eq_ok.mp hacquire
  obtain ⟨s₂, -, hacquire⟩ := Result.andThen_eq_ok.mp hacquire
  obtain ⟨s₃, hreg, hacquire⟩ := Result.andThen_eq_ok.mp hacquire
  obtain ⟨s₄, hdbRec, hregDbRec⟩ := Result.andThen_eq_ok.mp hacquire
  obtain ⟨hbuf₄, hbufId₄⟩ := Prep.allocateDbRec_bufId hdbRec
  obtain ⟨hdb, hbuf₅, hbufId₅⟩ := Prep.regDbRec_id hregDbRec
  cases Prep.copyUar_eq_ok hcopied
  refine ⟨(Prep.regBuf_eq_ok hreg).1, _, ?_, hcreate⟩
  refine ⟨?_, hdb, rfl⟩
  change s₅.queue.mBufUmem = some ⟨s₅.queue.mBufUmemId, sz⟩
  rw [hbuf₅, hbuf₄, Prep.regBuf_id hreg, hbufId₅, hbufId₄]

namespace PpSq

/-- The index of the pacing entry with which `init` creates the queue; there is none if `init`
fails before that. -/
def pacingIndex (attr : SqAttr) (pacing : PpEnv) : Option (BitVec 32) :=
  match attr.qosAttrs with
  | some (.packetPacing ppAttr) =>
      if ppAttr.sustainedRate = 0 then some 0
      else (pacing.allocPp (PacketPacing.context ppAttr)).map PpHandle.index
  | _ => none

/-- Where the WQ stands in the mailbox. -/
def wq : Nat := CreateSqIn.ctx + Sqc.wq

/-- The size of the ring in bytes, as the device reads it in the mailbox. -/
def ringBytes (m : Memory) : Nat :=
  2 ^ ((devxGet m wq Wq.logWqStride).toNat + (devxGet m wq Wq.logWqSz).toNat)

/-- The context in the mailbox carries the numbers with their full values. -/
structure Carries (attr : SqAttr) (pd ppIdx : BitVec 32) (uar : UarT) (buf dbRec : Umem)
    (m : Memory) : Prop where
  userIndex : devxGet m CreateSqIn.ctx Rqc.userIndex = attr.userIndex
  cqn : devxGet m CreateSqIn.ctx Sqc.cqn = attr.cqn
  tisNum : devxGet m CreateSqIn.ctx Sqc.tisNum0 = attr.tisNum
  ppIdx : devxGet m CreateSqIn.ctx Sqc.packetPacingRateLimitIndex = ppIdx
  pd : devxGet m wq Wq.pd = pd
  uarPage : devxGet m wq Wq.uarPage = uar.mPageId
  buf : devxGet m wq Wq.wqUmemId = buf.id
  dbRec : devxGet m wq Wq.dbrUmemId = dbRec.id

/-- The numbers fit their fields. -/
structure Fits (attr : SqAttr) (pd ppIdx : BitVec 32) (uar : UarT) : Prop where
  userIndex : attr.userIndex.toNat < 2 ^ 24
  cqn : attr.cqn.toNat < 2 ^ 24
  tisNum : attr.tisNum.toNat < 2 ^ 24
  ppIdx : ppIdx.toNat < 2 ^ 16
  pd : pd.toNat < 2 ^ 24
  uarPage : uar.mPageId.toNat < 2 ^ 24

/-! ### What `init` sends -/

/-- What `makePp` makes has the index of the pacing entry. -/
theorem pacingIndex_of_makePp {attr : SqAttr} {pacing : PpEnv} {pp : Option PacketPacing}
    (h : makePp attr pacing = .ok pp) :
  pacingIndex attr pacing = some (indexOf pp)
  := by
  obtain ⟨ppAttr, hqos, ⟨hrate, rfl⟩ | ⟨hrate, newHandle, halloc, rfl⟩⟩ := makePp_eq_ok h
  · simp only [pacingIndex, hqos, if_pos hrate]
    rfl
  · simp only [pacingIndex, hqos, if_neg hrate, halloc]
    rfl

/-- What comes of a queue without pacing is created with the index of the pacing entry. -/
theorem paceStep_eq_ok {attr : SqAttr} {pd : BitVec 32} {env : QueueEnv} {pacing : PpEnv}
    {s s' : Prep} (h : paceStep attr pd env pacing s = some (.ok, s')) :
  ∃ s₁ s₂, s₁.toPrep = s ∧ s₂.toPrep = s' ∧ pacingIndex attr pacing = some s₁.mPpIdx
    ∧ create attr pd env s₁ = some (.ok, s₂)
  := by
  obtain ⟨⟨ret, s₂⟩, hpace, heq⟩ := Option.map_eq_some_iff.mp h
  cases heq
  rw [pace] at hpace
  split at hpace
  · rename_i hmake
    cases hpace
    cases makePp_ne_ok hmake
  · rename_i hmake
    exact ⟨_, s₂, rfl, rfl, pacingIndex_of_makePp hmake, hpace⟩
  · rename_i pp hmake
    exact ⟨_, s₂, rfl, rfl, pacingIndex_of_makePp hmake, hpace⟩

/-- A `create` that succeeds has the device make the queue from its mailbox, and changes nothing of
the queue but its object. -/
theorem sent_of_create {attr : SqAttr} {pd : BitVec 32} {env : QueueEnv} {s s' : SqPrep}
    (h : create attr pd env s = some (.ok, s')) :
  s'.queue = { s.queue with base := s'.queue.base }
    ∧ ∃ m, sentMailbox attr pd s.mPpIdx s'.queue s.uarP = some m
      ∧ s.toPrep.createObj env m CreateSqIn.bytes CreateSqOut.bytes = (.ok, s'.toPrep)
  := by
  simp only [create] at h
  split at h
  · cases h
  · obtain ⟨m, hm, h⟩ := Option.bind_eq_some_iff.mp h
    generalize hobj : s.toPrep.createObj env m CreateSqIn.bytes CreateSqOut.bytes = r at h
    obtain ⟨ret, p⟩ := r
    cases h
    have hqueue := Prep.createObj_queue hobj
    refine ⟨hqueue, m, ?_, hobj⟩
    rw [← hm, hqueue]
    rfl

end PpSq

/-- A creation that succeeds has registered the buffer and the doorbell record, and called
`create`. -/
theorem Adapter.createPpSq_eq_ok {ad : Adapter} {attr : SqAttr} {env : QueueEnv}
    {pacing : PpEnv} {out : Nat} {r : Creation}
    (hr : ad.createPpSq attr env pacing out = some r) (hok : r.status = .ok) :
  (PpSq.wqBufSzBytes attr).toNat ≠ 0 ∧ ∃ s s' : SqPrep, r.queue = some s'.queue
    ∧ s.Registered (PpSq.wqBufSzBytes attr).toNat
    ∧ PpSq.pacingIndex attr pacing = some s.mPpIdx
    ∧ PpSq.create attr ad.mPdId env s = some (.ok, s')
  := by
  cases hmake : ad.makeUarpool env with
  | none =>
      rw [createPpSq, hmake] at hr
      cases hr
      cases hok
  | some uarpool =>
      by_cases hobject : env.newQueue = 0
      · rw [createPpSq, hmake] at hr
        simp only [if_pos hobject] at hr
        cases hr
        cases hok
      · rw [createPpSq_eq_runSteps hmake hobject] at hr
        obtain ⟨⟨ret, s'⟩, hrun, rfl⟩ := Option.map_eq_some_iff.mp hr
        cases hok
        obtain ⟨hsz, s, hregistered, hpace⟩ := runSteps_umems hrun
        obtain ⟨s₁, s₂, rfl, rfl, hindex, hcreate⟩ := PpSq.paceStep_eq_ok hpace
        exact ⟨hsz, s₁, s₂, rfl, hregistered, hindex, hcreate⟩

namespace PpSq

/-! ### What the device reads -/

/-- What the device reads in the mailbox: the numbers are cut off to the widths of their fields. -/
theorem devxGet_mailbox (attr : SqAttr) (pd ppIdx : BitVec 32) (uar : UarT) (q : Queue)
    (logWqStride logWqeNum : Int) :
  let m := mailbox attr pd ppIdx uar q logWqStride logWqeNum
  devxGet m CreateSqIn.ctx Rqc.userIndex = attr.userIndex &&& lowMask 24
    ∧ devxGet m CreateSqIn.ctx Sqc.cqn = attr.cqn &&& lowMask 24
    ∧ devxGet m CreateSqIn.ctx Sqc.tisNum0 = attr.tisNum &&& lowMask 24
    ∧ devxGet m CreateSqIn.ctx Sqc.packetPacingRateLimitIndex = ppIdx &&& lowMask 16
    ∧ devxGet m wq Wq.pd = pd &&& lowMask 24
    ∧ devxGet m wq Wq.uarPage = uar.mPageId &&& lowMask 24
    ∧ devxGet m wq Wq.wqUmemId = q.mBufUmemId
    ∧ devxGet m wq Wq.dbrUmemId = q.mDbRecUmemId
  := by
  have hmask (x : BitVec 32) (n : Nat) : x &&& lowMask n &&& lowMask n = x &&& lowMask n := by
    rw [BitVec.and_assoc, BitVec.and_self]
  have hall (x : BitVec 32) : x &&& lowMask 32 = x :=
    (and_lowMask_eq_self_iff (by decide) x).mpr x.isLt
  simp only [mailbox, wq]
  simp (disch := decide) only [devxGet_devxSet_of_apart, devxGet_devxSet64_of_apart,
    devxGet_devxSet_self]
  exact ⟨hmask _ 24, rfl, hmask _ 24, hmask _ 16, hmask _ 24, hmask _ 24, hall _, hall _⟩

theorem devxGet_mailbox_logs (attr : SqAttr) (pd ppIdx : BitVec 32) (uar : UarT) (q : Queue)
    (logWqStride logWqeNum : Int) :
  let m := mailbox attr pd ppIdx uar q logWqStride logWqeNum
  (devxGet m wq Wq.logWqStride).toNat = (BitVec.ofInt 32 logWqStride).toNat % 16
    ∧ (devxGet m wq Wq.logWqSz).toNat = (BitVec.ofInt 32 logWqeNum).toNat % 32
  := by
  simp only [mailbox, wq]
  simp (disch := decide) only [devxGet_devxSet_of_apart, devxGet_devxSet64_of_apart,
    toNat_devxGet_devxSet]
  exact ⟨rfl, rfl⟩

/-- The context carries the numbers exactly if they fit. -/
theorem carries_mailbox_iff (attr : SqAttr) (pd ppIdx : BitVec 32) (uar : UarT) (q : Queue)
    (sz dbSz : Nat) (logWqStride logWqeNum : Int) :
  Carries attr pd ppIdx uar ⟨q.mBufUmemId, sz⟩ ⟨q.mDbRecUmemId, dbSz⟩
      (mailbox attr pd ppIdx uar q logWqStride logWqeNum)
    ↔ Fits attr pd ppIdx uar
  := by
  obtain ⟨huser, hcqn, htis, hpp, hpd, huar, hbuf, hdbRec⟩ :=
    devxGet_mailbox attr pd ppIdx uar q logWqStride logWqeNum
  have hfits {n : Nat} (hn : n ≤ 32) {x y : BitVec 32} (hx : x = y &&& lowMask n) :
      x = y ↔ y.toNat < 2 ^ n := by
    rw [hx, and_lowMask_eq_self_iff hn]
  constructor
  · intro h
    exact ⟨(hfits (by decide) huser).mp h.userIndex, (hfits (by decide) hcqn).mp h.cqn,
      (hfits (by decide) htis).mp h.tisNum, (hfits (by decide) hpp).mp h.ppIdx,
      (hfits (by decide) hpd).mp h.pd, (hfits (by decide) huar).mp h.uarPage⟩
  · intro h
    exact ⟨(hfits (by decide) huser).mpr h.userIndex, (hfits (by decide) hcqn).mpr h.cqn,
      (hfits (by decide) htis).mpr h.tisNum, (hfits (by decide) hpp).mpr h.ppIdx,
      (hfits (by decide) hpd).mpr h.pd, (hfits (by decide) huar).mpr h.uarPage, hbuf, hdbRec⟩

/-! ### The ring -/

/-- A number of 30 bits is less than doubled when it is rounded up to a power of two. -/
theorem two_pow_ilog2 {n : BitVec 32} {e : Int} (hpos : 0 < n.toNat) (hlt : n.toNat < 2 ^ 30)
    (h : ilog2 (castInt (n.setWidth 64)) = some e) :
  ∃ l : Nat, (BitVec.ofInt 32 e).toNat = l ∧ 2 ^ l < 2 * n.toNat
  := by
  have hcast : castInt (n.setWidth 64) = n.toNat := by
    rw [castInt, BitVec.setWidth_setWidth_of_le _ (by decide), BitVec.setWidth_eq,
      BitVec.toInt_eq_toNat_of_lt (by omega)]
  rw [hcast] at h
  obtain ⟨l, rfl, -, hbelow⟩ := ilog2_spec (by exact_mod_cast hpos) h
  have hbelow : ∀ j < l, 2 ^ j < n.toNat := fun j hj => by exact_mod_cast hbelow j hj
  have hl : l ≤ 30 := by
    by_contra hl
    have := hbelow 30 (not_le.mp hl)
    omega
  refine ⟨l, toNat_ofInt_natCast (by omega), ?_⟩
  cases l with
  | zero => omega
  | succ k =>
      have := hbelow k (Nat.lt_succ_self k)
      rw [Nat.pow_succ]
      omega

theorem toNat_wqBufSzBytes (attr : SqAttr) :
  (wqBufSzBytes attr).toNat = 16 * attr.wqeSz.toNat * attr.wqeNum.toNat % 2 ^ 32
  := by
  rw [wqBufSzBytes, BitVec.toNat_setWidth, BitVec.toNat_mul, BitVec.toNat_mul,
    BitVec.toNat_setWidth_of_le (by decide), BitVec.toNat_setWidth_of_le (by decide)]
  rw [Nat.mod_mul_mod, Nat.mod_mod_of_dvd _ (by decide)]
  rfl

/-- As long as the size of the buffer does not wrap around, the ring takes up no more than a quarter
of it. -/
theorem ringBytes_le {attr : SqAttr} {pd ppIdx : BitVec 32} {q : Queue} {uar : UarT} {m : Memory}
    (hm : sentMailbox attr pd ppIdx q uar = some m) (hne : (wqBufSzBytes attr).toNat ≠ 0)
    (hlt : 16 * attr.wqeSz.toNat * attr.wqeNum.toNat < 2 ^ 32) :
  4 * ringBytes m ≤ (wqBufSzBytes attr).toNat
  := by
  obtain ⟨logWqStride, hstride, hm⟩ := Option.bind_eq_some_iff.mp hm
  obtain ⟨logWqeNum, hnum, hm⟩ := Option.bind_eq_some_iff.mp hm
  cases hm
  rw [toNat_wqBufSzBytes, Nat.mod_eq_of_lt hlt] at hne ⊢
  obtain ⟨hszNe, hnumNe⟩ := Nat.mul_ne_zero_iff.mp hne
  have hszPos : 0 < attr.wqeSz.toNat := by omega
  have hnumPos : 0 < attr.wqeNum.toNat := Nat.pos_of_ne_zero hnumNe
  have hszLt : attr.wqeSz.toNat < 2 ^ 30 := by
    have := Nat.le_mul_of_pos_right (16 * attr.wqeSz.toNat) hnumPos
    omega
  have hnumLt : attr.wqeNum.toNat < 2 ^ 30 := by
    have hle : 16 * attr.wqeNum.toNat ≤ 16 * attr.wqeSz.toNat * attr.wqeNum.toNat := by
      apply Nat.mul_le_mul_right
      omega
    omega
  obtain ⟨a, ha, hsz⟩ := two_pow_ilog2 hszPos hszLt hstride
  obtain ⟨b, hb, hnum⟩ := two_pow_ilog2 hnumPos hnumLt hnum
  obtain ⟨hreadStride, hreadNum⟩ :=
    devxGet_mailbox_logs attr pd ppIdx uar q logWqStride logWqeNum
  rw [ringBytes, hreadStride, hreadNum, ha, hb]
  calc 4 * 2 ^ (a % 16 + b % 32)
      ≤ 4 * 2 ^ (a + b) := by
        apply Nat.mul_le_mul_left
        apply Nat.pow_le_pow_right (by decide)
        apply Nat.add_le_add (Nat.mod_le a 16) (Nat.mod_le b 32)
    _ = 4 * (2 ^ a * 2 ^ b) := by rw [Nat.pow_add]
    _ ≤ 4 * (2 * attr.wqeSz.toNat * (2 * attr.wqeNum.toNat)) := by
        apply Nat.mul_le_mul_left
        apply Nat.mul_le_mul (Nat.le_of_lt hsz) (Nat.le_of_lt hnum)
    _ = 16 * attr.wqeSz.toNat * attr.wqeNum.toNat := by
        rw [Nat.mul_mul_mul_comm, ← Nat.mul_assoc, Nat.mul_assoc 16]

end PpSq

/-- The device makes the queue from a context that carries the numbers with their full values
exactly if they fit, and with a ring that takes up at most a quarter of the buffer unless the size
of the buffer wraps around. -/
theorem Adapter.sq_context_iff {ad : Adapter} {attr : SqAttr} {env : QueueEnv} {pacing : PpEnv}
    {out : Nat} {r : Creation} (hr : ad.createPpSq attr env pacing out = some r)
    (hok : r.status = .ok) :
  ∃ q buf dbRec uar ppIdx m, r.queue = some q ∧ q.mBufUmem = some buf ∧ q.mDbRecUmem = some dbRec
    ∧ q.mUar = some uar ∧ PpSq.pacingIndex attr pacing = some ppIdx
    ∧ PpSq.sentMailbox attr ad.mPdId ppIdx q uar = some m
    ∧ (env.device m CreateSqIn.bytes).handle = true
    ∧ (PpSq.Carries attr ad.mPdId ppIdx uar buf dbRec m ↔ PpSq.Fits attr ad.mPdId ppIdx uar)
    ∧ (16 * attr.wqeSz.toNat * attr.wqeNum.toNat < 2 ^ 32 → 4 * PpSq.ringBytes m ≤ buf.size)
  := by
  obtain ⟨hne, s, s', hqueue, hregistered, hindex, hcreate⟩ := createPpSq_eq_ok hr hok
  obtain ⟨hsame, m, hm, hobj⟩ := PpSq.sent_of_create hcreate
  have hbuf : s'.queue.mBufUmem
      = some ⟨s'.queue.mBufUmemId, (PpSq.wqBufSzBytes attr).toNat⟩ := by
    rw [hsame]
    apply hregistered.bufUmem
  have hdbRec : s'.queue.mDbRecUmem = some ⟨s'.queue.mDbRecUmemId, 64⟩ := by
    rw [hsame]
    apply hregistered.dbRecUmem
  have huar : s'.queue.mUar = some s.uarP := by
    rw [hsame]
    apply hregistered.uar
  refine ⟨s'.queue, _, _, s.uarP, s.mPpIdx, m, hqueue, hbuf, hdbRec, huar, hindex, hm,
    Prep.createObj_eq_ok hobj, ?_, PpSq.ringBytes_le hm hne⟩
  obtain ⟨logWqStride, -, hm⟩ := Option.bind_eq_some_iff.mp hm
  obtain ⟨logWqeNum, -, hm⟩ := Option.bind_eq_some_iff.mp hm
  cases hm
  apply PpSq.carries_mailbox_iff

/-- A queue of `n` WQEs of 64 bytes without pacing. -/
def SqAttr.ofNum (n : BitVec 32) : SqAttr :=
  ⟨some (.packetPacing ⟨0, 0, 0⟩), 1, 3, 4, n, 64, 5⟩

theorem Adapter.sq_context_twelve :
  ∃ r, Adapter.fresh.createPpSq (.ofNum 12) .generous ⟨true, fun _ => none⟩ 0 = some r
    ∧ ∃ q buf dbRec uar ppIdx m, r.queue = some q ∧ q.mBufUmem = some buf
      ∧ PpSq.sentMailbox (.ofNum 12) fresh.mPdId ppIdx q uar = some m
      ∧ PpSq.Carries (.ofNum 12) fresh.mPdId ppIdx uar buf dbRec m
      ∧ 4 * PpSq.ringBytes m ≤ buf.size
  := by
  have hmade : (Adapter.fresh.createPpSq (.ofNum 12) .generous ⟨true, fun _ => none⟩ 0).map
      Creation.status = some .ok := by
    rfl
  obtain ⟨r, hr, hok⟩ := Option.map_eq_some_iff.mp hmade
  obtain ⟨q, buf, dbRec, uar, ppIdx, m, hq, hbuf, -, huar, hindex, hm, -, hcarries, hring⟩ :=
    sq_context_iff hr hok
  refine ⟨r, hr, q, buf, dbRec, uar, ppIdx, m, hq, hbuf, hm, hcarries.mpr ?_, hring (by decide)⟩
  cases hr
  cases hq
  cases huar
  cases hindex
  constructor <;> decide

-- with 2 ^ 22 + 1 WQEs the size of the buffer wraps around to 1024 bytes, and the device is told of
-- a ring of 2 ^ 29
example :
  ∃ r q buf uar m,
    Adapter.fresh.createPpSq (.ofNum 0x400001) .generous ⟨true, fun _ => none⟩ 0 = some r
    ∧ r.status = .ok ∧ r.queue = some q ∧ q.mBufUmem = some buf ∧ q.mUar = some uar
    ∧ PpSq.sentMailbox (.ofNum 0x400001) Adapter.fresh.mPdId 0 q uar = some m
    ∧ buf.size = 1024 ∧ PpSq.ringBytes m = 2 ^ 29
  := ⟨_, _, _, _, _, rfl, rfl, rfl, rfl, rfl, rfl, rfl, by decide +kernel⟩

end Dpcp
