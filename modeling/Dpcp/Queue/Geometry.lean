import Dpcp.Queue.Destroy

/-!
# The rings of the queues and their buffers

A queue tells the device the size of its ring by logarithms, and registers a buffer whose size it
has computed before.  The two are computed on their own, with products that wrap around and fields
that cut off: the ring of a receive queue fits the buffer if its sizes are powers of two, and the
ring of a completion queue only then.
-/

namespace Dpcp

open Bits Dcmd Prm Ledger

/-! ### What a creation that succeeded has done -/

theorem thenSteps_eq_ok {r : Result Prep} {rest : CreationStep} {s' : Prep}
    (h : r.thenSteps rest = some (.ok, s')) :
  ∃ s, r = (.ok, s) ∧ rest s = some (.ok, s')
  := by
  obtain ⟨ret, s⟩ := r
  by_cases hret : ret = .ok
  · cases hret
    exact ⟨s, rfl, h⟩
  · rw [thenSteps_fail hret] at h
    cases h
    cases hret rfl

namespace Prep

/-- After `reg_mem` on the buffer its umem has the size that was registered, which is not zero. -/
theorem regBuf_eq_ok {env : QueueEnv} {sz : Nat} {s s' : Prep}
    (h : s.regBuf env sz = (.ok, s')) :
  sz ≠ 0 ∧ ∃ id, s'.queue.mBufUmem = some ⟨id, sz⟩
  := by
  simp only [regBuf, regMem] at h
  split at h
  · cases h
  · split at h
    · cases h
    · split at h
      · cases h
      · rename_i hsz
        split at h
        · cases h
        · cases h
          exact ⟨hsz, _, rfl⟩

theorem allocateDbRec_bufUmem (env : QueueEnv) (bytes : Nat) (s : Prep) :
  (s.allocateDbRec env bytes).2.queue.mBufUmem = s.queue.mBufUmem
  := by
  rw [allocateDbRec]
  split <;> rfl

theorem copyUar_bufUmem (env : QueueEnv) (s : Prep) :
  (s.copyUar env).2.queue.mBufUmem = s.queue.mBufUmem
  := by
  rw [copyUar]
  split
  · rfl
  · split <;> rfl

/-- The object of the device changes nothing else of the queue. -/
theorem createObj_queue {env : QueueEnv} {m : Memory} {inlen outlen : Nat} {s s' : Prep}
    {ret : Status} (h : s.createObj env m inlen outlen = (ret, s')) :
  s'.queue = { s.queue with base := s'.queue.base }
  := by
  simp only [createObj] at h
  split at h
  · cases h
    rfl
  · cases h
    rfl

/-- The device has made the object from the mailbox. -/
theorem createObj_eq_ok {env : QueueEnv} {m : Memory} {inlen outlen : Nat} {s s' : Prep}
    (h : s.createObj env m inlen outlen = (.ok, s')) :
  (env.device m inlen).handle = true
  := by
  simp only [createObj] at h
  split at h
  · rename_i hret
    exact (Obj.create_eq_ok (Prod.ext hret rfl)).2.1
  · rename_i hret
    cases hret (congrArg Prod.fst h)

end Prep

/-- When the steps of a creation succeed, `create` is called with the buffer registered. -/
theorem runSteps_registered {env : QueueEnv} {bytes sz dbBytes : Nat}
    {copyUar : Prep → Result Prep}
    (hcopy : ∀ s, (copyUar s).2.queue.mBufUmem = s.queue.mBufUmem) {create : CreationStep}
    {s s' : Prep}
    (h : runSteps (acquireSteps env bytes sz dbBytes ++ [fun s => some (copyUar s), create]) s
      = some (.ok, s')) :
  sz ≠ 0 ∧ ∃ s₀ s₁ id, copyUar s₀ = (.ok, s₁) ∧ s₁.queue.mBufUmem = some ⟨id, sz⟩
    ∧ create s₁ = some (.ok, s')
  := by
  rw [runSteps_acquireSteps] at h
  obtain ⟨s₅, hacquire, h⟩ := thenSteps_eq_ok h
  obtain ⟨s₆, hcopied, hcreate⟩ := thenSteps_eq_ok h
  obtain ⟨s₁, -, hacquire⟩ := Result.andThen_eq_ok.mp hacquire
  obtain ⟨s₂, -, hacquire⟩ := Result.andThen_eq_ok.mp hacquire
  obtain ⟨s₃, hreg, hacquire⟩ := Result.andThen_eq_ok.mp hacquire
  obtain ⟨s₄, hdbRec, hregDbRec⟩ := Result.andThen_eq_ok.mp hacquire
  obtain ⟨hsz, id, humem⟩ := Prep.regBuf_eq_ok hreg
  refine ⟨hsz, s₅, s₆, id, hcopied, ?_, hcreate⟩
  have hdb : s₄.queue.mBufUmem = s₃.queue.mBufUmem := by
    rw [← Prep.allocateDbRec_bufUmem env dbBytes s₃, hdbRec]
  have hregDb : s₅.queue.mBufUmem = s₄.queue.mBufUmem := by
    have hsame : (s₄.regDbRec env).2.queue.mBufUmem = s₄.queue.mBufUmem := rfl
    rw [← hsame, hregDbRec]
  have hcopied : s₆.queue.mBufUmem = s₅.queue.mBufUmem := by
    rw [← hcopy s₅, hcopied]
  rw [hcopied, hregDb, hdb, humem]

/-! ### Powers of two in the types of the source -/

/-- A `size_t` that is a small power of two, as an `int`. -/
theorem castInt_twoPow {n : BitVec 64} {a : Nat} (hn : n.toNat = 2 ^ a) (ha : a ≤ 30) :
  castInt n = 2 ^ a
  := by
  have hpow : 2 ^ a ≤ 2 ^ 30 := Nat.pow_le_pow_right (by decide) ha
  have hcast : (n.setWidth 32).toNat = 2 ^ a := by
    rw [BitVec.toNat_setWidth, hn, Nat.mod_eq_of_lt (by omega)]
  rw [castInt, BitVec.toInt_eq_toNat_of_lt (by omega), hcast]
  simp

/-- A `size_t` that is positive as an `int` is a power of two exactly if its logarithm is exact. -/
theorem ilog2_castInt {n : BitVec 64} {e : Int} (h : ilog2 (castInt n) = some e) (he : 0 ≤ e) :
  ∃ l : Nat, e = l ∧ (2 ^ l = n.toNat ↔ ∃ j, n.toNat = 2 ^ j)
  := by
  have hpos : 0 < castInt n := by
    by_contra hneg
    rw [ilog2, if_pos (not_lt.mp hneg)] at h
    cases h
    cases he
  obtain ⟨l, rfl, -, -⟩ := ilog2_spec hpos h
  refine ⟨l, rfl, fun hl => ⟨l, hl.symm⟩, ?_⟩
  rintro ⟨j, hj⟩
  have hj30 : j ≤ 30 := by
    by_contra hlt
    -- from `2 ^ 31` on the low 32 bits are those of no positive `int`
    have hmod : (n.setWidth 32).toNat = 2 ^ 31 ∨ (n.setWidth 32).toNat = 0 := by
      rw [BitVec.toNat_setWidth, hj]
      rcases Nat.lt_or_ge j 32 with hj32 | hj32
      · obtain rfl : j = 31 := by omega
        exact .inl rfl
      · exact .inr (Nat.mod_eq_zero_of_dvd (Nat.pow_dvd_pow 2 hj32))
    rw [castInt, BitVec.toInt_eq_toNat_cond] at hpos
    rcases hmod with hmod | hmod
    · rw [hmod] at hpos
      cases hpos
    · rw [hmod] at hpos
      cases hpos
  rw [castInt_twoPow hj hj30, ilog2_two_pow hj30] at h
  have hlj : (j : Int) = l := Option.some.inj h
  rw [hj, Int.ofNat_inj.mp hlj]

theorem toNat_ofInt_natCast {a : Nat} (ha : a < 2 ^ 32) :
  (BitVec.ofInt 32 (a : Int)).toNat = a
  := by
  rw [BitVec.ofInt_natCast, BitVec.toNat_ofNat, Nat.mod_eq_of_lt ha]

/-! ### Receive queues -/

namespace BasicRq

/-- The mailbox that `create` sends for the queue `q` if it comes to that. -/
def mailbox (kind : RqKind) (attr : RqAttr) (pd : BitVec 32) (q : Queue) : Option Memory :=
  match kind with
  | .striding => do
      let logWqStride ← ilog2 (castInt attr.wqeSz)
      let logWqeNum ← ilog2 (castInt attr.wqeNum)
      let logNumOfStrides ← ilog2 (castInt (attr.bufStrideNum.setWidth 64))
      let logNumOfBytes ← ilog2 (castInt attr.bufStrideSz)
      some (StridingRq.mailbox attr pd q logWqStride logWqeNum logNumOfStrides logNumOfBytes)
  | .regular => do
      let logWqStride ← ilog2 (castInt ((getWqStrideSz attr).setWidth 64))
      let logWqeNum ← ilog2 (castInt attr.wqeNum)
      some (RegularRq.mailbox attr pd q logWqStride logWqeNum)

/-- Where the WQ stands in the mailbox. -/
def wq : Nat := CreateRqIn.ctx + Rqc.wq

/-- The size of the ring in bytes, as the device reads it in the mailbox. -/
def ringBytes (m : Memory) : Nat :=
  2 ^ ((devxGet m wq Wq.logWqStride).toNat + (devxGet m wq Wq.logWqSz).toNat)

/-- A `create` that succeeds has sent its mailbox. -/
theorem create_eq_ok {kind : RqKind} {attr : RqAttr} {pd : BitVec 32} {env : QueueEnv}
    {s s' : Prep} (h : create kind attr pd env s = some (.ok, s')) :
  ∃ m, mailbox kind attr pd s.queue = some m
    ∧ s.createObj env m CreateRqIn.bytes CreateRqOut.bytes = (.ok, s')
  := by
  cases kind with
  | striding =>
      simp only [create, StridingRq.create] at h
      split at h
      · cases h
      · obtain ⟨logWqStride, hstride, h⟩ := Option.bind_eq_some_iff.mp h
        obtain ⟨logWqeNum, hnum, h⟩ := Option.bind_eq_some_iff.mp h
        obtain ⟨logNumOfStrides, hstrides, h⟩ := Option.bind_eq_some_iff.mp h
        split at h
        · cases h
        · obtain ⟨logNumOfBytes, hbytes, h⟩ := Option.bind_eq_some_iff.mp h
          split at h
          · cases h
          · refine ⟨_, ?_, Option.some.inj h⟩
            simp only [mailbox, hstride, hnum, hstrides, hbytes, Option.bind_eq_bind,
              Option.bind_some]
  | regular =>
      simp only [create, RegularRq.create] at h
      split at h
      · cases h
      · obtain ⟨logWqStride, hstride, h⟩ := Option.bind_eq_some_iff.mp h
        obtain ⟨logWqeNum, hnum, h⟩ := Option.bind_eq_some_iff.mp h
        refine ⟨_, ?_, Option.some.inj h⟩
        simp only [mailbox, hstride, hnum, Option.bind_eq_bind, Option.bind_some]

/-- The mailbox depends on the umems of the queue only, not on its object. -/
theorem mailbox_base (kind : RqKind) (attr : RqAttr) (pd : BitVec 32) (q : Queue) (base : Obj) :
  mailbox kind attr pd { q with base := base } = mailbox kind attr pd q
  := by
  cases kind <;> rfl

/-- A `create` that succeeds has the device make the queue from its mailbox. -/
theorem sent_of_create {kind : RqKind} {attr : RqAttr} {pd : BitVec 32} {env : QueueEnv}
    {s s' : Prep} (h : create kind attr pd env s = some (.ok, s')) :
  ∃ m, mailbox kind attr pd s'.queue = some m ∧ (env.device m CreateRqIn.bytes).handle = true
  := by
  obtain ⟨m, hm, hobj⟩ := create_eq_ok h
  refine ⟨m, ?_, Prep.createObj_eq_ok hobj⟩
  rw [Prep.createObj_queue hobj, mailbox_base, hm]

/-- `create` leaves the umem of the buffer. -/
theorem bufUmem_of_create {kind : RqKind} {attr : RqAttr} {pd : BitVec 32} {env : QueueEnv}
    {s s' : Prep} (h : create kind attr pd env s = some (.ok, s')) :
  s'.queue.mBufUmem = s.queue.mBufUmem
  := by
  obtain ⟨m, -, hobj⟩ := create_eq_ok h
  rw [Prep.createObj_queue hobj]

/-- The ids of the umems and the opcode leave what stands before them in the WQ. -/
theorem devxGet_umems (q : Queue) (m : Memory) {f : Field} (h : f.offset + f.size ≤ 0x140) :
  devxGet (umems q m) wq f = devxGet m wq f
  := by
  have hopcode : f.apart wq CreateRqIn.opcode 0 = true :=
    decide_eq_true (.inr (Nat.le_trans (by decide) (Nat.le_add_right _ f.offset)))
  have hoffset : f.apart64 wq Wq.wqUmemOffset wq = true :=
    decide_eq_true (.inl (by simp only [Wq.wqUmemOffset]; omega))
  have hwqUmem : f.apart wq Wq.wqUmemId wq = true :=
    decide_eq_true (.inl (by simp only [Wq.wqUmemId]; omega))
  have hdbrUmem : f.apart wq Wq.dbrUmemId wq = true :=
    decide_eq_true (.inl (by simp only [Wq.dbrUmemId]; omega))
  rw [umems, devxGet_devxSet_of_apart _ _ hopcode]
  rw [← wq, devxGet_devxSet64_of_apart _ _ hoffset, devxGet_devxSet_of_apart _ _ hwqUmem,
    devxGet_devxSet_of_apart _ _ hdbrUmem]

/-- The logarithms are cut off to the four and five bits of their fields. -/
theorem devxGet_wqSizes (logWqStride logWqeNum : Int) (m : Memory) :
  (devxGet (wqSizes logWqStride logWqeNum m) wq Wq.logWqStride).toNat
      = (BitVec.ofInt 32 logWqStride).toNat % 16
    ∧ (devxGet (wqSizes logWqStride logWqeNum m) wq Wq.logWqSz).toNat
      = (BitVec.ofInt 32 logWqeNum).toNat % 32
  := by
  rw [wqSizes, ← wq]
  simp (disch := decide) only [devxGet_devxSet_of_apart, toNat_devxGet_devxSet]
  exact ⟨rfl, rfl⟩

/-- What the device reads in the mailbox of a receive queue. -/
theorem devxGet_mailbox {kind : RqKind} {attr : RqAttr} {pd : BitVec 32} {q : Queue} {m : Memory}
    (h : mailbox kind attr pd q = some m) :
  ∃ logWqStride logWqeNum,
    ilog2 (castInt (match kind with
      | .striding => attr.wqeSz
      | .regular => (getWqStrideSz attr).setWidth 64)) = some logWqStride
      ∧ ilog2 (castInt attr.wqeNum) = some logWqeNum
      ∧ (devxGet m wq Wq.logWqStride).toNat = (BitVec.ofInt 32 logWqStride).toNat % 16
      ∧ (devxGet m wq Wq.logWqSz).toNat = (BitVec.ofInt 32 logWqeNum).toNat % 32
  := by
  cases kind with
  | striding =>
      obtain ⟨logWqStride, hstride, h⟩ := Option.bind_eq_some_iff.mp h
      obtain ⟨logWqeNum, hnum, h⟩ := Option.bind_eq_some_iff.mp h
      obtain ⟨logNumOfStrides, -, h⟩ := Option.bind_eq_some_iff.mp h
      obtain ⟨logNumOfBytes, -, h⟩ := Option.bind_eq_some_iff.mp h
      cases h
      refine ⟨logWqStride, logWqeNum, hstride, hnum, ?_⟩
      rw [StridingRq.mailbox, devxGet_umems _ _ (by decide), devxGet_umems _ _ (by decide)]
      simp (disch := decide) only [devxGet_devxSet_of_apart]
      apply devxGet_wqSizes
  | regular =>
      obtain ⟨logWqStride, hstride, h⟩ := Option.bind_eq_some_iff.mp h
      obtain ⟨logWqeNum, hnum, h⟩ := Option.bind_eq_some_iff.mp h
      cases h
      refine ⟨logWqStride, logWqeNum, hstride, hnum, ?_⟩
      rw [RegularRq.mailbox, devxGet_umems _ _ (by decide), devxGet_umems _ _ (by decide)]
      apply devxGet_wqSizes

/-- The size of the buffer for powers of two, which wraps around to nothing. -/
theorem toNat_wqBufSzBytes {attr : RqAttr} {a b : Nat} (hsz : attr.wqeSz.toNat = 2 ^ a)
    (hnum : attr.wqeNum.toNat = 2 ^ b) :
  (wqBufSzBytes attr).toNat = 2 ^ (a + b + 4) % 2 ^ 32
  := by
  have hpow : 2 ^ (a + b + 4) = 16 * 2 ^ a * 2 ^ b := by
    rw [Nat.pow_add, Nat.pow_add, Nat.mul_comm (2 ^ a * 2 ^ b), ← Nat.mul_assoc]
  rw [wqBufSzBytes, BitVec.toNat_setWidth, BitVec.toNat_mul, BitVec.toNat_mul, hsz, hnum, hpow,
    Nat.mod_mod_of_dvd _ (Nat.pow_dvd_pow 2 (by decide)), Nat.mul_mod, Nat.mod_mod_of_dvd _
      (Nat.pow_dvd_pow 2 (by decide)), ← Nat.mul_mod]
  rfl

/-- A buffer that is not empty has its exact size. -/
theorem wqBufSzBytes_exact {attr : RqAttr} {a b : Nat} (hsz : attr.wqeSz.toNat = 2 ^ a)
    (hnum : attr.wqeNum.toNat = 2 ^ b) (h : (wqBufSzBytes attr).toNat ≠ 0) :
  a + b + 4 < 32 ∧ (wqBufSzBytes attr).toNat = 2 ^ (a + b + 4)
  := by
  rw [toNat_wqBufSzBytes hsz hnum] at h ⊢
  have hlt : a + b + 4 < 32 := by
    by_contra hge
    apply h
    apply Nat.mod_eq_zero_of_dvd
    apply Nat.pow_dvd_pow 2 (not_lt.mp hge)
  refine ⟨hlt, Nat.mod_eq_of_lt ?_⟩
  apply Nat.pow_lt_pow_right (by decide) hlt

/-- The stride of a regular queue for a power of two. -/
theorem toNat_getWqStrideSz {attr : RqAttr} {a : Nat} (hsz : attr.wqeSz.toNat = 2 ^ a)
    (ha : a + 4 < 32) :
  ((getWqStrideSz attr).setWidth 64).toNat = 2 ^ (a + 4)
  := by
  have hpow : 2 ^ a * 16 = 2 ^ (a + 4) := (Nat.pow_add 2 a 4).symm
  have hlt : 2 ^ (a + 4) < 2 ^ 32 := Nat.pow_lt_pow_right (by decide) ha
  have hsixteen : (16 : BitVec 64).toNat = 16 := rfl
  have hmul : (attr.wqeSz * 16).toNat = 2 ^ (a + 4) := by
    rw [BitVec.toNat_mul, hsz, hsixteen, hpow, Nat.mod_eq_of_lt (by omega)]
  rw [getWqStrideSz, BitVec.toNat_setWidth_of_le (by decide), BitVec.toNat_setWidth, hmul,
    Nat.mod_eq_of_lt hlt]

/-- The ring that the device reads is at most `2 ^ (a + b + 4)` bytes long for WQEs of `2 ^ a` units
of 16 bytes, of which there are `2 ^ b`. -/
theorem ringBytes_le {kind : RqKind} {attr : RqAttr} {pd : BitVec 32} {q : Queue} {m : Memory}
    (hm : mailbox kind attr pd q = some m) {a b : Nat} (hsz : attr.wqeSz.toNat = 2 ^ a)
    (hnum : attr.wqeNum.toNat = 2 ^ b) (hlt : a + b + 4 < 32) :
  ringBytes m ≤ 2 ^ (a + b + 4)
  := by
  obtain ⟨logWqStride, logWqeNum, hstride, hlogNum, hreadStride, hreadNum⟩ := devxGet_mailbox hm
  rw [castInt_twoPow hnum (by omega), ilog2_two_pow (by omega)] at hlogNum
  cases hlogNum
  have hstrideLe : (BitVec.ofInt 32 logWqStride).toNat % 16 ≤ a + 4 := by
    cases kind with
    | striding =>
        rw [castInt_twoPow hsz (by omega), ilog2_two_pow (by omega)] at hstride
        cases hstride
        rw [toNat_ofInt_natCast (by omega)]
        have := Nat.mod_le a 16
        omega
    | regular =>
        -- from `2 ^ 31` on the cast to `int` is negative, and the field reads 15
        by_cases ha : a + 4 ≤ 30
        · rw [castInt_twoPow (toNat_getWqStrideSz hsz (by omega)) ha, ilog2_two_pow ha] at hstride
          cases hstride
          rw [toNat_ofInt_natCast (by omega)]
          apply Nat.mod_le
        · omega
  rw [ringBytes, hreadStride, hreadNum, toNat_ofInt_natCast (by omega)]
  apply Nat.pow_le_pow_right (by decide)
  have := Nat.mod_le b 32
  omega

end BasicRq

/-- A creation that succeeds has registered a buffer that is not empty, and called `create`. -/
theorem Adapter.createBasicRq_eq_ok {kind : RqKind} {ad : Adapter} {attr : RqAttr} {env : QueueEnv}
    {out : Nat} {r : Creation} (hr : ad.createBasicRq kind attr env out = some r)
    (hok : r.status = .ok) :
  (BasicRq.wqBufSzBytes attr).toNat ≠ 0 ∧ ∃ s s' id, r.queue = some s'.queue
    ∧ s.queue.mBufUmem = some ⟨id, (BasicRq.wqBufSzBytes attr).toNat⟩
    ∧ BasicRq.create kind attr ad.mPdId env s = some (.ok, s')
  := by
  simp only [createBasicRq, prepareBasicRq_eq_runSteps] at hr
  split at hr
  · cases hr
    cases hok
  · split at hr
    · cases hr
      cases hok
    · split at hr
      · rename_i s' hrun
        cases hr
        obtain ⟨hne, s₀, s₁, id, -, humem, hcreate⟩ :=
          runSteps_registered (Prep.copyUar_bufUmem env) hrun
        have hbytes : ((BasicRq.wqBufSzBytes attr).setWidth 64).toNat
            = (BasicRq.wqBufSzBytes attr).toNat := by
          apply BitVec.toNat_setWidth_of_le (by decide)
        rw [hbytes] at hne humem
        exact ⟨hne, s₁, s', id, rfl, humem, hcreate⟩
      · rename_i ret s' hret hrun
        cases hr
        cases hret hok
      · cases hr

/-- For sizes that are powers of two, the ring that the device is told of when it makes the queue
lies in the buffer. -/
theorem Adapter.rq_ring_le_buffer {kind : RqKind} {ad : Adapter} {attr : RqAttr} {env : QueueEnv}
    {out : Nat} {r : Creation} (hsz : ∃ a, attr.wqeSz.toNat = 2 ^ a)
    (hnum : ∃ b, attr.wqeNum.toNat = 2 ^ b)
    (hr : ad.createBasicRq kind attr env out = some r) (hok : r.status = .ok) :
  ∃ q umem m, r.queue = some q ∧ q.mBufUmem = some umem
    ∧ BasicRq.mailbox kind attr ad.mPdId q = some m
    ∧ (env.device m CreateRqIn.bytes).handle = true ∧ BasicRq.ringBytes m ≤ umem.size
  := by
  obtain ⟨a, hsz⟩ := hsz
  obtain ⟨b, hnum⟩ := hnum
  obtain ⟨hne, s, s', id, hqueue, humem, hcreate⟩ := createBasicRq_eq_ok hr hok
  obtain ⟨m, hm, hmade⟩ := BasicRq.sent_of_create hcreate
  obtain ⟨hlt, hexact⟩ := BasicRq.wqBufSzBytes_exact hsz hnum hne
  refine ⟨s'.queue, ⟨id, (BasicRq.wqBufSzBytes attr).toNat⟩, m, hqueue, ?_, hm, hmade, ?_⟩
  · rw [BasicRq.bufUmem_of_create hcreate, humem]
  · rw [hexact]
    apply BasicRq.ringBytes_le hm hsz hnum hlt

/-- Eight WQEs of four units. -/
def RqAttr.small : RqAttr :=
  ⟨2048, 512, 0, 0, 8, 4, 0, 0⟩

theorem Adapter.rq_ring_le_buffer_small :
  ∃ r, Adapter.fresh.createBasicRq .regular .small .generous 0 = some r
    ∧ ∃ q umem m, r.queue = some q ∧ q.mBufUmem = some umem
      ∧ BasicRq.mailbox .regular .small Adapter.fresh.mPdId q = some m
      ∧ (QueueEnv.generous.device m CreateRqIn.bytes).handle = true
      ∧ BasicRq.ringBytes m ≤ umem.size
  := by
  have hmade : (Adapter.fresh.createBasicRq .regular .small .generous 0).map Creation.status
      = some .ok := by
    rfl
  obtain ⟨r, hr, hok⟩ := Option.map_eq_some_iff.mp hmade
  exact ⟨r, hr, rq_ring_le_buffer ⟨2, rfl⟩ ⟨3, rfl⟩ hr hok⟩

/-! ### Completion queues -/

namespace Cq

/-- Where `op_own` stands in an entry. -/
def opOwn : Nat := 63

/-- What the loop of `cq::init` writes to the buffer: for every entry, the address of its `op_own`
and the value. -/
def ownershipWrites (attrs : CqAttr) : List (Nat × BitVec 8) :=
  (List.range attrs.cqSz.toNat).map fun i => (cqeSize * i + opOwn, 0xf1)

/-- The mailbox that `create` sends for the queue `q`. -/
def createMailbox (attrs : CqAttr) (q : Queue) (uar : UarT) : Option Memory :=
  (ilog2 (castInt (attrs.cqSz.setWidth 64))).map (mailbox attrs q uar)

/-- The size of the ring in bytes, as the device reads it in the mailbox. -/
def ringBytes (m : Memory) : Nat :=
  cqeSize * 2 ^ (devxGet m CreateCqIn.cqContext Cqc.logCqSize).toNat

/-- The logarithm is cut off to the five bits of its field. -/
theorem ringBytes_mailbox (attrs : CqAttr) (q : Queue) (uar : UarT) (logCqBufSz : Int) :
  ringBytes (mailbox attrs q uar logCqBufSz)
    = cqeSize * 2 ^ ((BitVec.ofInt 32 logCqBufSz).toNat % 32)
  := by
  simp only [ringBytes, mailbox]
  rw [devxGet_devxSet_of_apart _ _ rfl, devxGet_devxSet_of_apart _ _ rfl,
    devxGet_ite (devxGet_devxSet_of_apart _ _ rfl), devxGet_ite (devxGet_devxSet_of_apart _ _ rfl),
    devxGet_ite (devxGet_devxSet_of_apart _ _ rfl),
    devxGet_ite ((devxGet_devxSet_of_apart _ _ rfl).trans (devxGet_devxSet_of_apart _ _ rfl)),
    devxGet_devxSet_of_apart _ _ rfl, devxGet_devxSet64_of_apart _ _ rfl,
    devxGet_devxSet_of_apart _ _ rfl, devxGet_devxSet_of_apart _ _ rfl, toNat_devxGet_devxSet]
  rfl

theorem castInt_cqSz {attrs : CqAttr} (hmax : attrs.cqSz.toNat ≤ maxCqSz) :
  castInt (attrs.cqSz.setWidth 64) = attrs.cqSz.toNat
  := by
  rw [maxCqSz] at hmax
  rw [castInt, BitVec.setWidth_setWidth_of_le _ (by decide), BitVec.setWidth_eq,
    BitVec.toInt_eq_toNat_of_lt (by omega)]

/-- The ring is the number of entries rounded up to a power of two. -/
theorem ringBytes_createMailbox {attrs : CqAttr} {q : Queue} {uar : UarT} {m : Memory}
    (hpos : attrs.cqSz ≠ 0) (hmax : attrs.cqSz.toNat ≤ maxCqSz)
    (hm : createMailbox attrs q uar = some m) :
  ∃ l, ringBytes m = cqeSize * 2 ^ l ∧ attrs.cqSz.toNat ≤ 2 ^ l
    ∧ ∀ j < l, 2 ^ j < attrs.cqSz.toNat
  := by
  obtain ⟨e, hlog, rfl⟩ := Option.map_eq_some_iff.mp hm
  rw [castInt_cqSz hmax] at hlog
  have hsz : 0 < attrs.cqSz.toNat := by
    apply Nat.pos_of_ne_zero
    intro hzero
    apply hpos
    apply BitVec.eq_of_toNat_eq hzero
  obtain ⟨l, rfl, hle, hlt⟩ := ilog2_spec (by exact_mod_cast hsz) hlog
  have hlt : ∀ j < l, 2 ^ j < attrs.cqSz.toNat := fun j hj => by exact_mod_cast hlt j hj
  have hl : l ≤ 22 := by
    by_contra hl
    have := hlt 22 (not_le.mp hl)
    rw [maxCqSz] at hmax
    omega
  refine ⟨l, ?_, by exact_mod_cast hle, hlt⟩
  rw [ringBytes_mailbox, toNat_ofInt_natCast (by omega), Nat.mod_eq_of_lt (by omega)]

/-- A number rounded up to a power of two is at most the number exactly if it is a power of two. -/
theorem two_pow_le_iff {n l : Nat} (hle : n ≤ 2 ^ l) (hlt : ∀ j < l, 2 ^ j < n) :
  2 ^ l ≤ n ↔ ∃ e, n = 2 ^ e
  := by
  constructor
  · intro h
    exact ⟨l, Nat.le_antisymm hle h⟩
  · rintro ⟨e, rfl⟩
    apply Nat.pow_le_pow_right (by decide)
    by_contra hel
    cases lt_irrefl _ (hlt e (not_le.mp hel))

/-- The ring lies in a buffer of 64 bytes for each entry exactly if the number of entries is a power
of two. -/
theorem ringBytes_le_iff {attrs : CqAttr} {q : Queue} {uar : UarT} {m : Memory}
    (hpos : attrs.cqSz ≠ 0) (hmax : attrs.cqSz.toNat ≤ maxCqSz)
    (hm : createMailbox attrs q uar = some m) :
  ringBytes m ≤ cqeSize * attrs.cqSz.toNat ↔ ∃ e, attrs.cqSz.toNat = 2 ^ e
  := by
  obtain ⟨l, hring, hle, hlt⟩ := ringBytes_createMailbox hpos hmax hm
  rw [hring, Nat.mul_le_mul_left_iff (by decide)]
  apply two_pow_le_iff hle hlt

/-- The loop writes inside of a buffer of 64 bytes for each entry. -/
theorem ownershipWrites_lt {attrs : CqAttr} {w : Nat × BitVec 8}
    (hw : w ∈ ownershipWrites attrs) :
  w.1 < cqeSize * attrs.cqSz.toNat
  := by
  obtain ⟨i, hi, rfl⟩ := List.mem_map.mp hw
  rw [List.mem_range] at hi
  simp only [cqeSize, opOwn]
  omega

/-- The size of the buffer is exact for the sizes that `init` accepts. -/
theorem toNat_cqBufSzBytes {attrs : CqAttr} (hmax : attrs.cqSz.toNat ≤ maxCqSz) :
  (cqBufSzBytes attrs).toNat = cqeSize * attrs.cqSz.toNat
  := by
  rw [maxCqSz] at hmax
  rw [cqBufSzBytes, BitVec.toNat_ofNat, Nat.mod_eq_of_lt]
  simp only [cqeSize]
  omega

/-- The size is one that `init` accepts once it has copied the page of the UAR. -/
theorem copyUar_eq_ok {attrs : CqAttr} {env : QueueEnv} {s s' : Prep}
    (h : copyUar attrs env s = (.ok, s')) :
  attrs.cqSz.toNat ≤ maxCqSz ∧ s'.queue.mUar = some s'.uarP
  := by
  simp only [copyUar, Prep.copyUar] at h
  split at h
  · cases h
  · rename_i hmax
    split at h
    · cases h
    · split at h
      · cases h
      · cases h
        exact ⟨not_lt.mp hmax, rfl⟩

/-- A `create` that succeeds has sent its mailbox. -/
theorem create_eq_ok {attrs : CqAttr} {env : QueueEnv} {s s' : Prep}
    (h : create attrs env s = some (.ok, s')) :
  ∃ m, createMailbox attrs s.queue s.uarP = some m
    ∧ s.createObj env m CreateCqIn.bytes CreateCqOut.bytes = (.ok, s')
  := by
  simp only [create] at h
  split at h
  · cases h
  · rename_i logCqBufSz hlog
    refine ⟨mailbox attrs s.queue s.uarP logCqBufSz, ?_, Option.some.inj h⟩
    rw [createMailbox, hlog, Option.map_some]

/-- A `create` that succeeds has the device make the queue from its mailbox, and leaves the umem of
the buffer and the page of the UAR. -/
theorem sent_of_create {attrs : CqAttr} {env : QueueEnv} {s s' : Prep}
    (h : create attrs env s = some (.ok, s')) :
  s'.queue.mBufUmem = s.queue.mBufUmem ∧ s'.queue.mUar = s.queue.mUar
    ∧ ∃ m, createMailbox attrs s'.queue s.uarP = some m
      ∧ (env.device m CreateCqIn.bytes).handle = true
  := by
  obtain ⟨m, hm, hobj⟩ := create_eq_ok h
  have hqueue := Prep.createObj_queue hobj
  refine ⟨?_, ?_, m, ?_, Prep.createObj_eq_ok hobj⟩
  · rw [hqueue]
  · rw [hqueue]
  · rw [hqueue]
    apply hm

end Cq

/-- `create_cq` succeeds only if it gets as far as building the queue. -/
theorem Adapter.buildsCq_of_ok {ad : Adapter} {attrs : CqAttr} {env : QueueEnv} {outCq : Nat}
    {r : Creation} (hr : ad.createCq attrs env outCq = some r) (hok : r.status = .ok) :
  ad.BuildsCq attrs env
  := by
  simp only [createCq] at hr
  split at hr
  · cases hr
    cases hok
  · rename_i hsize
    split at hr
    · cases hr
      cases hok
    · rename_i heqNum
      split at hr
      · cases hr
        cases hok
      · rename_i uarpool hmake
        split at hr
        · cases hr
          cases hok
        · rename_i hobject
          refine ⟨by simpa using hsize, by simpa using heqNum, ?_, hobject⟩
          apply (makeUarpool_isSome _ _).mp
          rw [hmake]
          rfl

/-- A creation that succeeds has registered a buffer of the exact size, copied the page of the UAR,
and called `create`. -/
theorem Adapter.createCq_eq_ok {ad : Adapter} {attrs : CqAttr} {env : QueueEnv} {outCq : Nat}
    {r : Creation} (hr : ad.createCq attrs env outCq = some r) (hok : r.status = .ok) :
  attrs.cqSz.toNat ≤ Cq.maxCqSz ∧ ∃ s s' id, r.queue = some s'.queue
    ∧ s.queue.mBufUmem = some ⟨id, Cq.cqeSize * attrs.cqSz.toNat⟩
    ∧ s.queue.mUar = some s.uarP ∧ Cq.create attrs env s = some (.ok, s')
  := by
  obtain ⟨uarpool, ret, s', -, hrun, rfl⟩ := createCq_runSteps (buildsCq_of_ok hr hok) hr
  by_cases hret : ret = .ok
  · cases hret
    have hcopied (s : Prep) : (Cq.copyUar attrs env s).2.queue.mBufUmem = s.queue.mBufUmem := by
      rw [Cq.copyUar]
      split
      · rfl
      · apply Prep.copyUar_bufUmem
    obtain ⟨-, s₀, s₁, id, hcopy, humem, hcreate⟩ := runSteps_registered hcopied hrun
    obtain ⟨hmax, huar⟩ := Cq.copyUar_eq_ok hcopy
    rw [Cq.toNat_cqBufSzBytes hmax] at humem
    exact ⟨hmax, s₁, s', id, rfl, humem, huar, hcreate⟩
  · rw [if_neg hret] at hok
    cases hret hok

/-- The ring that the device is told of lies in the buffer exactly if the number of entries is a
power of two, and what the loop in `cq::init` writes always does. -/
theorem Adapter.cq_ring_inside_iff {ad : Adapter} {attrs : CqAttr} {env : QueueEnv} {outCq : Nat}
    {r : Creation} (hr : ad.createCq attrs env outCq = some r) (hok : r.status = .ok) :
  ∃ q umem uar m, r.queue = some q ∧ q.mBufUmem = some umem ∧ q.mUar = some uar
    ∧ Cq.createMailbox attrs q uar = some m ∧ (env.device m CreateCqIn.bytes).handle = true
    ∧ (Cq.ringBytes m ≤ umem.size ↔ ∃ e, attrs.cqSz.toNat = 2 ^ e)
    ∧ ∀ w ∈ Cq.ownershipWrites attrs, w.1 < umem.size
  := by
  obtain ⟨hmax, s, s', id, hqueue, humem, huar, hcreate⟩ := createCq_eq_ok hr hok
  obtain ⟨hbufUmem, hmUar, m, hm, hmade⟩ := Cq.sent_of_create hcreate
  refine ⟨s'.queue, ⟨id, Cq.cqeSize * attrs.cqSz.toNat⟩, s.uarP, m, hqueue, ?_, ?_, hm, hmade, ?_,
    ?_⟩
  · rw [hbufUmem, humem]
  · rw [hmUar, huar]
  · apply Cq.ringBytes_le_iff (buildsCq_of_ok hr hok).size.2 hmax hm
  · intro w hw
    apply Cq.ownershipWrites_lt hw

/-- A completion queue of `n` entries. -/
def CqAttr.ofSize (n : BitVec 32) : CqAttr :=
  ⟨n, 0, ⟨0, 0⟩, 0, 0x3⟩

theorem Adapter.cq_ring_inside_sixteen :
  ∃ r, Adapter.fresh.createCq (.ofSize 16) .generous 0 = some r
    ∧ ∃ q umem uar m, r.queue = some q ∧ q.mBufUmem = some umem ∧ q.mUar = some uar
      ∧ Cq.createMailbox (.ofSize 16) q uar = some m ∧ Cq.ringBytes m ≤ umem.size
      ∧ ∀ w ∈ Cq.ownershipWrites (.ofSize 16), w.1 < umem.size
  := by
  have hmade : (Adapter.fresh.createCq (.ofSize 16) .generous 0).map Creation.status
      = some .ok := by
    rfl
  obtain ⟨r, hr, hok⟩ := Option.map_eq_some_iff.mp hmade
  obtain ⟨q, umem, uar, m, hq, humem, huar, hm, -, hring, hwrites⟩ := cq_ring_inside_iff hr hok
  exact ⟨r, hr, q, umem, uar, m, hq, humem, huar, hm, hring.mpr ⟨4, rfl⟩, hwrites⟩

/-- A queue of three entries: the buffer has 192 bytes, and the device is told of a ring of 256. -/
theorem Adapter.cq_ring_outside_three :
  ∃ r q umem uar m, Adapter.fresh.createCq (.ofSize 3) .generous 0 = some r ∧ r.status = .ok
    ∧ r.queue = some q ∧ q.mBufUmem = some umem ∧ q.mUar = some uar
    ∧ Cq.createMailbox (.ofSize 3) q uar = some m ∧ umem.size = 192 ∧ Cq.ringBytes m = 256
  := ⟨_, _, _, _, _, rfl, rfl, rfl, rfl, rfl, rfl, rfl, by decide⟩

end Dpcp
