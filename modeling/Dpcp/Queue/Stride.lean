import Dpcp.Queue.Geometry

/-!
# The strides of receive queues

A receive queue keeps the attributes it was created with, and its getters report them; the device
is told of them by logarithms in narrow fields.  The getters agree with the device on the number of
WQEs.  They agree on the stride of the WQ for a regular queue with a stride of at most 32 KB, and
never for a striding queue, which gives the logarithm of the number of its units of 16 bytes.  They
agree on the strides in a WQE of a striding queue exactly for powers of two; other numbers are
rounded up.
-/

namespace Dpcp

open Bits Dcmd Prm Ledger

namespace BasicRq

/-- `basic_rq::get_wqe_num`. -/
def getWqeNum (attr : RqAttr) : BitVec 32 :=
  attr.wqeNum.setWidth 32

/-- `rq::get_hw_buff_stride_sz`. -/
def getHwBuffStrideSz (attr : RqAttr) : BitVec 64 :=
  attr.bufStrideSz

/-- `rq::get_hw_buff_stride_num`. -/
def getHwBuffStrideNum (attr : RqAttr) : BitVec 64 :=
  attr.bufStrideNum.setWidth 64

/-! ### The stride of the WQ -/

/-- The number of the WQEs that the device reads is that of the getter. -/
theorem logWqSz_exact {kind : RqKind} {attr : RqAttr} {pd : BitVec 32} {q : Queue} {m : Memory}
    (hm : mailbox kind attr pd q = some m) {b : Nat} (hnum : attr.wqeNum.toNat = 2 ^ b)
    (hb : b ≤ 30) :
  2 ^ (devxGet m wq Wq.logWqSz).toNat = (getWqeNum attr).toNat
  := by
  obtain ⟨-, logWqeNum, -, hlogNum, -, hread⟩ := devxGet_mailbox hm
  rw [castInt_twoPow hnum hb, ilog2_two_pow hb] at hlogNum
  cases hlogNum
  have hpow : 2 ^ b ≤ 2 ^ 30 := Nat.pow_le_pow_right (by decide) hb
  rw [hread, toNat_ofInt_natCast (by omega), Nat.mod_eq_of_lt (by omega), getWqeNum,
    BitVec.toNat_setWidth, hnum, Nat.mod_eq_of_lt (by omega)]

/-- What a striding queue gives is not the logarithm of its stride. -/
theorem logWqStride_striding {attr : RqAttr} {pd : BitVec 32} {q : Queue} {m : Memory}
    (hm : mailbox .striding attr pd q = some m) {a : Nat} (hsz : attr.wqeSz.toNat = 2 ^ a)
    (ha : a + 4 < 32) :
  2 ^ (devxGet m wq Wq.logWqStride).toNat ≠ (getWqStrideSz attr).toNat
  := by
  obtain ⟨logWqStride, -, hlog, -, hread, -⟩ := devxGet_mailbox hm
  rw [castInt_twoPow hsz (by omega), ilog2_two_pow (by omega)] at hlog
  cases hlog
  have hstride := toNat_getWqStrideSz hsz ha
  rw [BitVec.toNat_setWidth_of_le (by decide)] at hstride
  rw [hread, hstride, toNat_ofInt_natCast (by omega)]
  intro heq
  have := Nat.pow_right_injective (Nat.le_refl 2) heq
  have := Nat.mod_le a 16
  omega

/-- A regular queue gives the logarithm of its stride, which fits the field up to 15. -/
theorem logWqStride_regular {attr : RqAttr} {pd : BitVec 32} {q : Queue} {m : Memory}
    (hm : mailbox .regular attr pd q = some m) {a : Nat} (hsz : attr.wqeSz.toNat = 2 ^ a)
    (ha : a + 4 < 32) :
  2 ^ (devxGet m wq Wq.logWqStride).toNat = (getWqStrideSz attr).toNat ↔ a ≤ 11
  := by
  obtain ⟨logWqStride, -, hlog, -, hread, -⟩ := devxGet_mailbox hm
  have hlt := devxGet_lt m wq Wq.logWqStride
  have hstride := toNat_getWqStrideSz hsz ha
  simp only at hlog
  constructor
  · rw [BitVec.toNat_setWidth_of_le (by decide)] at hstride
    rw [hstride]
    intro heq
    have hexp := Nat.pow_right_injective (Nat.le_refl 2) heq
    have hsize : Wq.logWqStride.size = 4 := rfl
    rw [hsize] at hlt
    omega
  · intro hle
    rw [castInt_twoPow hstride (by omega), ilog2_two_pow (by omega)] at hlog
    cases hlog
    rw [BitVec.toNat_setWidth_of_le (by decide)] at hstride
    rw [hread, toNat_ofInt_natCast (by omega), Nat.mod_eq_of_lt (by omega), hstride]

end BasicRq

/-- For sizes that are powers of two, the device makes the queue with the number of WQEs that the
getter reports.  It makes it with the stride that the getter reports exactly if the queue is
regular and its WQEs have at most 2048 units of 16 bytes. -/
theorem Adapter.rq_stride_reported_iff {kind : RqKind} {ad : Adapter} {attr : RqAttr}
    {env : QueueEnv} {out : Nat} {r : Creation} (hsz : ∃ a, attr.wqeSz.toNat = 2 ^ a)
    (hnum : ∃ b, attr.wqeNum.toNat = 2 ^ b)
    (hr : ad.createBasicRq kind attr env out = some r) (hok : r.status = .ok) :
  ∃ q m, r.queue = some q ∧ BasicRq.mailbox kind attr ad.mPdId q = some m
    ∧ (env.device m CreateRqIn.bytes).handle = true
    ∧ 2 ^ (devxGet m BasicRq.wq Wq.logWqSz).toNat = (BasicRq.getWqeNum attr).toNat
    ∧ (2 ^ (devxGet m BasicRq.wq Wq.logWqStride).toNat = (BasicRq.getWqStrideSz attr).toNat
      ↔ kind = .regular ∧ attr.wqeSz.toNat ≤ 2048)
  := by
  obtain ⟨a, hsz⟩ := hsz
  obtain ⟨b, hnum⟩ := hnum
  obtain ⟨hne, s, s', id, hqueue, -, hcreate⟩ := createBasicRq_eq_ok hr hok
  obtain ⟨m, hm, hmade⟩ := BasicRq.sent_of_create hcreate
  obtain ⟨hlt, -⟩ := BasicRq.wqBufSzBytes_exact hsz hnum hne
  refine ⟨s'.queue, m, hqueue, hm, hmade, BasicRq.logWqSz_exact hm hnum (by omega), ?_⟩
  have hle : attr.wqeSz.toNat ≤ 2048 ↔ a ≤ 11 := by
    rw [hsz]
    apply Nat.pow_le_pow_iff_right (m := 11) Nat.one_lt_two
  rw [hle]
  cases kind with
  | striding => simp [BasicRq.logWqStride_striding hm hsz (by omega)]
  | regular => simp [BasicRq.logWqStride_regular hm hsz (by omega)]

theorem Adapter.rq_stride_reported_small :
  ∃ r, Adapter.fresh.createBasicRq .regular .small .generous 0 = some r
    ∧ ∃ q m, r.queue = some q ∧ BasicRq.mailbox .regular .small Adapter.fresh.mPdId q = some m
      ∧ 2 ^ (devxGet m BasicRq.wq Wq.logWqSz).toNat = (BasicRq.getWqeNum .small).toNat
      ∧ 2 ^ (devxGet m BasicRq.wq Wq.logWqStride).toNat = (BasicRq.getWqStrideSz .small).toNat
  := by
  have hmade : (Adapter.fresh.createBasicRq .regular .small .generous 0).map Creation.status
      = some .ok := by
    rfl
  obtain ⟨r, hr, hok⟩ := Option.map_eq_some_iff.mp hmade
  obtain ⟨q, m, hq, hm, -, hnum, hstride⟩ := rq_stride_reported_iff ⟨2, rfl⟩ ⟨3, rfl⟩ hr hok
  exact ⟨r, hr, q, m, hq, hm, hnum, hstride.mpr ⟨rfl, by decide⟩⟩

/-- The same attributes for a striding queue: the getter reports 64 bytes, and the device is told
of 4. -/
theorem Adapter.rq_stride_misreported :
  (∃ a, RqAttr.small.wqeSz.toNat = 2 ^ a) ∧ (∃ b, RqAttr.small.wqeNum.toNat = 2 ^ b)
    ∧ ∃ r q m, Adapter.fresh.createBasicRq .striding .small .generous 0 = some r ∧ r.status = .ok
      ∧ r.queue = some q ∧ BasicRq.mailbox .striding .small Adapter.fresh.mPdId q = some m
      ∧ BasicRq.getWqStrideSz .small = 64
      ∧ 2 ^ (devxGet m BasicRq.wq Wq.logWqStride).toNat = 4
  := ⟨⟨2, rfl⟩, ⟨3, rfl⟩, _, _, _, rfl, rfl, rfl, rfl, rfl, by decide +kernel⟩

/-! ### The strides in a WQE -/

namespace StridingRq

/-- The fields of the strides hold the logarithms less their minimum. -/
theorem devxGet_mailbox (attr : RqAttr) (pd : BitVec 32) (q : Queue)
    (logWqStride logWqeNum : Int) {logNumOfStrides logNumOfBytes : Nat}
    (hstrides : 9 ≤ logNumOfStrides ∧ logNumOfStrides ≤ 16)
    (hbytes : 6 ≤ logNumOfBytes ∧ logNumOfBytes ≤ 13) :
  let m := mailbox attr pd q logWqStride logWqeNum logNumOfStrides logNumOfBytes
  (devxGet m BasicRq.wq Wq.singleWqeLogNumOfStrides).toNat + 9 = logNumOfStrides
    ∧ (devxGet m BasicRq.wq Wq.singleStrideLogNumOfBytes).toNat + 6 = logNumOfBytes
  := by
  have hstridesInt : (logNumOfStrides : Int) - mlx5MinSingleWqeLogNumStrides
      = (logNumOfStrides - 9 : Nat) := by
    rw [mlx5MinSingleWqeLogNumStrides]
    omega
  have hbytesInt : (logNumOfBytes : Int) - mlx5MinSingleStrideLogNumBytes
      = (logNumOfBytes - 6 : Nat) := by
    rw [mlx5MinSingleStrideLogNumBytes]
    omega
  intro m
  have hreadStrides : (devxGet m BasicRq.wq Wq.singleWqeLogNumOfStrides).toNat
      = (BitVec.ofInt 32 (logNumOfStrides - 9 : Nat)).toNat % 16 := by
    simp only [m, mailbox]
    rw [BasicRq.devxGet_umems _ _ (by decide), ← BasicRq.wq, hstridesInt]
    simp (disch := decide) only [devxGet_devxSet_of_apart, toNat_devxGet_devxSet]
    rfl
  have hreadBytes : (devxGet m BasicRq.wq Wq.singleStrideLogNumOfBytes).toNat
      = (BitVec.ofInt 32 (logNumOfBytes - 6 : Nat)).toNat % 8 := by
    simp only [m, mailbox]
    rw [BasicRq.devxGet_umems _ _ (by decide), ← BasicRq.wq, hbytesInt, toNat_devxGet_devxSet]
    rfl
  rw [hreadStrides, hreadBytes, toNat_ofInt_natCast (by omega), toNat_ofInt_natCast (by omega)]
  omega

/-- The logarithms of the strides are in range if `create` succeeds. -/
theorem logs_of_create {attr : RqAttr} {pd : BitVec 32} {env : QueueEnv} {s s' : Prep}
    (h : create attr pd env s = some (.ok, s')) :
  ∃ logNumOfStrides logNumOfBytes,
    ilog2 (castInt (attr.bufStrideNum.setWidth 64)) = some logNumOfStrides
      ∧ 9 ≤ logNumOfStrides ∧ logNumOfStrides ≤ 16
      ∧ ilog2 (castInt attr.bufStrideSz) = some logNumOfBytes
      ∧ 6 ≤ logNumOfBytes ∧ logNumOfBytes ≤ 13
  := by
  simp only [create] at h
  split at h
  · cases h
  · obtain ⟨logWqStride, -, h⟩ := Option.bind_eq_some_iff.mp h
    obtain ⟨logWqeNum, -, h⟩ := Option.bind_eq_some_iff.mp h
    obtain ⟨logNumOfStrides, hstrides, h⟩ := Option.bind_eq_some_iff.mp h
    split at h
    · cases h
    · rename_i hrange
      obtain ⟨logNumOfBytes, hbytes, h⟩ := Option.bind_eq_some_iff.mp h
      split at h
      · cases h
      · rename_i hrange'
        simp only [mlx5MinSingleWqeLogNumStrides, mlx5MaxSingleWqeLogNumStrides, not_or,
          not_lt] at hrange
        simp only [mlx5MinSingleStrideLogNumBytes, mlx5MaxSingleStrideLogNumBytes, not_or,
          not_lt] at hrange'
        exact ⟨logNumOfStrides, logNumOfBytes, hstrides, hrange.1, hrange.2, hbytes, hrange'.1,
          hrange'.2⟩

end StridingRq

/-- The device makes a striding queue with the strides that the getters report exactly if both the
number of the strides and their size are powers of two. -/
theorem Adapter.striding_strides_reported_iff {ad : Adapter} {attr : RqAttr} {env : QueueEnv}
    {out : Nat} {r : Creation} (hr : ad.createStridingRq attr env out = some r)
    (hok : r.status = .ok) :
  ∃ q m, r.queue = some q ∧ BasicRq.mailbox .striding attr ad.mPdId q = some m
    ∧ (env.device m CreateRqIn.bytes).handle = true
    ∧ (2 ^ ((devxGet m BasicRq.wq Wq.singleWqeLogNumOfStrides).toNat + 9)
          = (BasicRq.getHwBuffStrideNum attr).toNat
        ∧ 2 ^ ((devxGet m BasicRq.wq Wq.singleStrideLogNumOfBytes).toNat + 6)
          = (BasicRq.getHwBuffStrideSz attr).toNat
      ↔ (∃ e, attr.bufStrideNum.toNat = 2 ^ e) ∧ ∃ e, attr.bufStrideSz.toNat = 2 ^ e)
  := by
  obtain ⟨-, s, s', id, hqueue, -, hcreate⟩ := createBasicRq_eq_ok hr hok
  obtain ⟨m, hm, hmade⟩ := BasicRq.sent_of_create hcreate
  refine ⟨s'.queue, m, hqueue, hm, hmade, ?_⟩
  obtain ⟨logNumOfStrides, logNumOfBytes, hstrides, hlo, hhi, hbytes, hlo', hhi'⟩ :=
    StridingRq.logs_of_create hcreate
  obtain ⟨l, rfl, hl⟩ := ilog2_castInt hstrides (by omega)
  obtain ⟨l', rfl, hl'⟩ := ilog2_castInt hbytes (by omega)
  simp only [BasicRq.mailbox, hstrides, hbytes, Option.bind_eq_bind, Option.bind_some] at hm
  obtain ⟨logWqStride, -, hm⟩ := Option.bind_eq_some_iff.mp hm
  obtain ⟨logWqeNum, -, hm⟩ := Option.bind_eq_some_iff.mp hm
  cases hm
  have hrange : 9 ≤ l ∧ l ≤ 16 := by omega
  have hrange' : 6 ≤ l' ∧ l' ≤ 13 := by omega
  obtain ⟨hreadStrides, hreadBytes⟩ := StridingRq.devxGet_mailbox attr ad.mPdId s'.queue
    logWqStride logWqeNum hrange hrange'
  rw [hreadStrides, hreadBytes, BasicRq.getHwBuffStrideNum, BasicRq.getHwBuffStrideSz, hl, hl',
    BitVec.toNat_setWidth_of_le (by decide)]

theorem Adapter.striding_strides_reported_small :
  ∃ r, Adapter.fresh.createStridingRq .small .generous 0 = some r
    ∧ ∃ q m, r.queue = some q ∧ BasicRq.mailbox .striding .small Adapter.fresh.mPdId q = some m
      ∧ 2 ^ ((devxGet m BasicRq.wq Wq.singleWqeLogNumOfStrides).toNat + 9) = 512
      ∧ 2 ^ ((devxGet m BasicRq.wq Wq.singleStrideLogNumOfBytes).toNat + 6) = 2048
  := by
  have hmade : (Adapter.fresh.createStridingRq .small .generous 0).map Creation.status
      = some .ok := by
    rfl
  obtain ⟨r, hr, hok⟩ := Option.map_eq_some_iff.mp hmade
  obtain ⟨q, m, hq, hm, -, hreported⟩ := striding_strides_reported_iff hr hok
  obtain ⟨hnum, hsz⟩ := hreported.mpr ⟨⟨9, rfl⟩, ⟨11, rfl⟩⟩
  exact ⟨r, hr, q, m, hq, hm, hnum, hsz⟩

/-- 513 strides of `2 ^ 32 + 64` bytes: the device is told of 1024 strides of 64 bytes. -/
theorem Adapter.striding_strides_misreported :
  ∃ r q m, Adapter.fresh.createStridingRq ⟨0x100000040, 513, 0, 0, 8, 4, 0, 0⟩ .generous 0 = some r
    ∧ r.status = .ok ∧ r.queue = some q
    ∧ BasicRq.mailbox .striding ⟨0x100000040, 513, 0, 0, 8, 4, 0, 0⟩ Adapter.fresh.mPdId q = some m
    ∧ 2 ^ ((devxGet m BasicRq.wq Wq.singleWqeLogNumOfStrides).toNat + 9) = 1024
    ∧ 2 ^ ((devxGet m BasicRq.wq Wq.singleStrideLogNumOfBytes).toNat + 6) = 64
  := ⟨_, _, _, rfl, rfl, rfl, rfl, by decide +kernel, by decide +kernel⟩

end Dpcp
