import Dpcp.Queue.Basic

/-!
# Receive queues

A striding and a regular receive queue are created by the same steps and differ in their
`create`.  The adapter keeps the queue in a `unique_ptr` until everything is there, so a creation
that fails leaves the cleaning up to the destructors.
-/

namespace Dpcp

open Bits Dcmd Prm Ledger

/-- `struct rq_attr`. -/
structure RqAttr where
  bufStrideSz : BitVec 64
  bufStrideNum : BitVec 32
  userIndex : BitVec 32
  cqn : BitVec 32
  wqeNum : BitVec 64
  wqeSz : BitVec 64
  tsFormat : BitVec 8
  ibqScatterOffset : BitVec 8

/-- The classes derived from `basic_rq`. -/
inductive RqKind where
  | striding
  | regular
deriving DecidableEq

namespace BasicRq

def mlx5CmdOpCreateRq : BitVec 32 := 0x908
def memoryRqInline : BitVec 32 := 0

/-- `enum rq_wq_type`. -/
def wqCyclic : BitVec 32 := 0x1
def cyclicStridingWq : BitVec 32 := 0x3

/-- The size of the WQ buffer in bytes, by the constructor of `basic_rq`. -/
def wqBufSzBytes (attr : RqAttr) : BitVec 32 :=
  (16 * attr.wqeSz * attr.wqeNum).setWidth 32

/-- `basic_rq::get_wq_stride_sz`. -/
def getWqStrideSz (attr : RqAttr) : BitVec 32 :=
  (attr.wqeSz * 16).setWidth 32

/-- The multiple of the page size that `allocate_wq_buf` allocates for `sz` bytes. -/
def mulOfPageSz (pageSize sz : BitVec 64) : BitVec 64 :=
  (sz + pageSize - 1) &&& ~~~(pageSize - 1)

/-- The fields of the RQ context and of the WQ that both `create` functions set first. -/
def context (attr : RqAttr) (wqType pd : BitVec 32) (q : Queue) : Memory :=
  let m := zeros
  let rqc := CreateRqIn.ctx
  let m := devxSet m rqc Rqc.rlkey 0
  let m := devxSet m rqc Rqc.delayDropEn 0
  let m := devxSet m rqc Rqc.scatterFcs 0
  let m := devxSet m rqc Rqc.vlanStripDisable 1
  let m := devxSet m rqc Rqc.memRqType memoryRqInline
  let m := devxSet m rqc Rqc.state q.mState
  let m := devxSet m rqc Rqc.flushInErrorEn 0x1
  let m := devxSet m rqc Rqc.hairpin 0
  let m := devxSet m rqc Rqc.tsFormat (attr.tsFormat.setWidth 32)
  let m := devxSet m rqc Rqc.userIndex (attr.userIndex &&& 0xFFFFFF)
  let m := devxSet m rqc Rqc.cqn attr.cqn
  let wq := rqc + Rqc.wq
  let m := devxSet m wq Wq.wqType wqType
  let m := devxSet m wq Wq.pd (pd &&& 0xFFFFFF)
  devxSet64 m wq Wq.dbrAddr 0

/-- The logarithms of the WQ and the flags of the umems. -/
def wqSizes (logWqStride logWqeNum : Int) (m : Memory) : Memory :=
  let wq := CreateRqIn.ctx + Rqc.wq
  let m := devxSet m wq Wq.logWqStride (BitVec.ofInt 32 logWqStride)
  let m := devxSet m wq Wq.logWqPgSz 0x0
  let m := devxSet m wq Wq.logWqSz (BitVec.ofInt 32 logWqeNum)
  let m := devxSet m wq Wq.dbrUmemValid 0x1
  devxSet m wq Wq.wqUmemValid 0x1

/-- The ids of the umems, and the opcode, which both `create` functions set last. -/
def umems (q : Queue) (m : Memory) : Memory :=
  let wq := CreateRqIn.ctx + Rqc.wq
  let m := devxSet m wq Wq.dbrUmemId q.mDbRecUmemId
  let m := devxSet m wq Wq.wqUmemId q.mBufUmemId
  let m := devxSet64 m wq Wq.wqUmemOffset 0x0
  devxSet m 0 CreateRqIn.opcode mlx5CmdOpCreateRq

end BasicRq

namespace StridingRq

def mlx5MinSingleWqeLogNumStrides : Int := 9
def mlx5MaxSingleWqeLogNumStrides : Int := 16
def mlx5MinSingleStrideLogNumBytes : Int := 6
def mlx5MaxSingleStrideLogNumBytes : Int := 13

/-- The mailbox of `striding_rq::create`. -/
def mailbox (attr : RqAttr) (pd : BitVec 32) (q : Queue)
    (logWqStride logWqeNum logNumOfStrides logNumOfBytes : Int) : Memory :=
  let wq := CreateRqIn.ctx + Rqc.wq
  let m := BasicRq.context attr BasicRq.cyclicStridingWq pd q
  let m := BasicRq.wqSizes logWqStride logWqeNum m
  let m := devxSet m wq Wq.singleWqeLogNumOfStrides
    (BitVec.ofInt 32 (logNumOfStrides - mlx5MinSingleWqeLogNumStrides))
  let m := devxSet m wq Wq.twoByteShiftEn 0x0
  let m := devxSet m wq Wq.singleStrideLogNumOfBytes
    (BitVec.ofInt 32 (logNumOfBytes - mlx5MinSingleStrideLogNumBytes))
  BasicRq.umems q m

/-- `striding_rq::create`; there is no result if `ilog2` gives none. -/
def create (attr : RqAttr) (pd : BitVec 32) (env : QueueEnv) (s : Prep) :
    Option (Result Prep) :=
  if pd = 0 then
    some (.errInvalidId, s)
  else do
    let logWqStride ← ilog2 (castInt attr.wqeSz)
    let logWqeNum ← ilog2 (castInt attr.wqeNum)
    let logNumOfStrides ← ilog2 (castInt (attr.bufStrideNum.setWidth 64))
    if logNumOfStrides < mlx5MinSingleWqeLogNumStrides
        ∨ mlx5MaxSingleWqeLogNumStrides < logNumOfStrides then
      some (.errOutOfRange, s)
    else
      let logNumOfBytes ← ilog2 (castInt attr.bufStrideSz)
      if logNumOfBytes < mlx5MinSingleStrideLogNumBytes
          ∨ mlx5MaxSingleStrideLogNumBytes < logNumOfBytes then
        some (.errOutOfRange, s)
      else
        let m := mailbox attr pd s.queue logWqStride logWqeNum logNumOfStrides logNumOfBytes
        some (s.createObj env m CreateRqIn.bytes CreateRqOut.bytes)

/-- `create` fails before the command, or sends it. -/
theorem create_eq_some {attr : RqAttr} {pd : BitVec 32} {env : QueueEnv} {s s' : Prep}
    {ret : Status} (h : create attr pd env s = some (ret, s')) :
  ret ≠ .ok ∧ s' = s ∨ ∃ m, s.createObj env m CreateRqIn.bytes CreateRqOut.bytes = (ret, s')
  := by
  simp only [create] at h
  split at h
  · cases h
    exact .inl ⟨by decide, rfl⟩
  · obtain ⟨logWqStride, -, h⟩ := Option.bind_eq_some_iff.mp h
    obtain ⟨logWqeNum, -, h⟩ := Option.bind_eq_some_iff.mp h
    obtain ⟨logNumOfStrides, -, h⟩ := Option.bind_eq_some_iff.mp h
    split at h
    · cases h
      exact .inl ⟨by decide, rfl⟩
    · obtain ⟨logNumOfBytes, -, h⟩ := Option.bind_eq_some_iff.mp h
      split at h
      · cases h
        exact .inl ⟨by decide, rfl⟩
      · exact .inr ⟨_, Option.some.inj h⟩

end StridingRq

namespace RegularRq

/-- The mailbox of `regular_rq::create`. -/
def mailbox (attr : RqAttr) (pd : BitVec 32) (q : Queue) (logWqStride logWqeNum : Int) :
    Memory :=
  let m := BasicRq.context attr BasicRq.wqCyclic pd q
  let m := BasicRq.wqSizes logWqStride logWqeNum m
  BasicRq.umems q m

/-- `regular_rq::create`; there is no result if `ilog2` gives none. -/
def create (attr : RqAttr) (pd : BitVec 32) (env : QueueEnv) (s : Prep) :
    Option (Result Prep) :=
  if pd = 0 then
    some (.errInvalidId, s)
  else do
    let logWqStride ← ilog2 (castInt ((BasicRq.getWqStrideSz attr).setWidth 64))
    let logWqeNum ← ilog2 (castInt attr.wqeNum)
    let m := mailbox attr pd s.queue logWqStride logWqeNum
    some (s.createObj env m CreateRqIn.bytes CreateRqOut.bytes)

/-- `create` fails before the command, or sends it. -/
theorem create_eq_some {attr : RqAttr} {pd : BitVec 32} {env : QueueEnv} {s s' : Prep}
    {ret : Status} (h : create attr pd env s = some (ret, s')) :
  ret ≠ .ok ∧ s' = s ∨ ∃ m, s.createObj env m CreateRqIn.bytes CreateRqOut.bytes = (ret, s')
  := by
  simp only [create] at h
  split at h
  · cases h
    exact .inl ⟨by decide, rfl⟩
  · obtain ⟨logWqStride, -, h⟩ := Option.bind_eq_some_iff.mp h
    obtain ⟨logWqeNum, -, h⟩ := Option.bind_eq_some_iff.mp h
    exact .inr ⟨_, Option.some.inj h⟩

end RegularRq

namespace IbqRq

/-- `MEMORY_RQ_IBQ`. -/
def memoryRqIbq : BitVec 32 := 2

/-- The mailbox of `ibq_rq::create`. -/
def mailbox (attr : RqAttr) (protocol mkey pd mState : BitVec 32) (logBuffStrideNum : Int) :
    Memory :=
  let m := zeros
  let rqc := CreateRqIn.ctx
  let m := devxSet m rqc Rqc.vlanStripDisable 1
  let m := devxSet m rqc Rqc.memRqType memoryRqIbq
  let m := devxSet m rqc Rqc.state mState
  let m := devxSet m rqc Rqc.tsFormat (attr.tsFormat.setWidth 32)
  let m := devxSet m rqc Rqc.userIndex (attr.userIndex &&& 0xFFFFFF)
  let m := devxSet m rqc Rqc.cqn attr.cqn
  let m := devxSet m rqc Rqc.ibqWireProtocol protocol
  let m := devxSet m rqc Rqc.ibqSegmentSize (attr.bufStrideSz.setWidth 32)
  let m := devxSet m rqc Rqc.logIbqBufferSize (BitVec.ofInt 32 logBuffStrideNum)
  let m := devxSet m rqc Rqc.ibqScatterOffset (attr.ibqScatterOffset.setWidth 32)
  let m := devxSet m rqc Rqc.ibqMkey mkey
  let m := devxSet m (rqc + Rqc.wq) Wq.pd (pd &&& 0xFFFFFF)
  devxSet m 0 CreateRqIn.opcode BasicRq.mlx5CmdOpCreateRq

/-- `ibq_rq::init`, which is `ibq_rq::create` on the protocol and the mkey; there is no result if
`ilog2` gives none. -/
def init (attr : RqAttr) (protocol mkey pd mState : BitVec 32) (device : Device) (o : Obj) :
    Option (Result Obj) := do
  let logBuffStrideNum ← ilog2 (castInt (attr.bufStrideNum.setWidth 64))
  if pd = 0 then
    some (.errInvalidId, o)
  else
    let m := mailbox attr protocol mkey pd mState logBuffStrideNum
    let (ret, o, _) := o.create device (some m) CreateRqIn.bytes zeros CreateRqOut.bytes
    match ret with
    | .ok => some ((o.getId 0).1, o)
    | ret => some (ret, o)

end IbqRq

namespace BasicRq

/-- The virtual `basic_rq::create`. -/
def create (kind : RqKind) : RqAttr → BitVec 32 → QueueEnv → Prep → Option (Result Prep) :=
  match kind with
  | .striding => StridingRq.create
  | .regular => RegularRq.create

/-- `basic_rq::init`. -/
def init (kind : RqKind) (attr : RqAttr) (pd : BitVec 32) (env : QueueEnv) (s : Prep) :
    Option (Result Prep) :=
  match s.copyUar env with
  | (.ok, s) => create kind attr pd env s
  | r => some r

end BasicRq

namespace Adapter

/-- `prepare_basic_rq` up to `init`. -/
def acquireRq (attr : RqAttr) (env : QueueEnv) (s : Prep) : Result Prep :=
  let wqBufSz := (BasicRq.wqBufSzBytes attr).setWidth 64
  (s.obtainUar env).andThen fun s =>
    (s.allocateBuf env (BasicRq.mulOfPageSz env.pageSize wqBufSz).toNat wqBufSz.toNat).andThen
      fun s => (s.regBuf env wqBufSz.toNat).andThen
        fun s => (s.allocateDbRec env env.pageSize.toNat).andThen
          fun s => s.regDbRec env

/-- `prepare_basic_rq`. -/
def prepareBasicRq (kind : RqKind) (attr : RqAttr) (pd : BitVec 32) (env : QueueEnv) (s : Prep) :
    Option (Result Prep) :=
  match acquireRq attr env s with
  | (.ok, s) => BasicRq.init kind attr pd env s
  | r => some r

/-- The common body of `create_striding_rq` and `create_regular_rq`; `out` is what the output
parameter held. -/
def createBasicRq (kind : RqKind) (ad : Adapter) (attr : RqAttr) (env : QueueEnv) (out : Nat) :
    Option Creation :=
  match ad.makeUarpool env with
  | none => some (.refuse ad out .errNoMemory)
  | some uarpool =>
      let ad := { ad with mUarpool := some uarpool }
      if env.newQueue = 0 then
        some (.refuse ad out .errNoMemory)
      else
        let srq := Prep.new ad.mDcmdCtx uarpool (BasicRq.wqBufSzBytes attr)
        match prepareBasicRq kind attr ad.mPdId env srq with
        | some (.ok, s) => some (.publish ad env s)
        -- the `unique_ptr` deletes the queue
        | some (ret, s) => some (.abandon ad env out ret [] s)
        | none => none

/-- `adapter::create_striding_rq`. -/
def createStridingRq : Adapter → RqAttr → QueueEnv → Nat → Option Creation :=
  createBasicRq .striding

/-- `adapter::create_regular_rq`. -/
def createRegularRq : Adapter → RqAttr → QueueEnv → Nat → Option Creation :=
  createBasicRq .regular

end Adapter

/-! ### Failures of `create_striding_rq` and `create_regular_rq` -/

namespace BasicRq

/-- `create` fails before the command, or sends it. -/
theorem create_eq_some {kind : RqKind} {attr : RqAttr} {pd : BitVec 32} {env : QueueEnv}
    {s s' : Prep} {ret : Status} (h : create kind attr pd env s = some (ret, s')) :
  ret ≠ .ok ∧ s' = s ∨ ∃ m, s.createObj env m CreateRqIn.bytes CreateRqOut.bytes = (ret, s')
  := by
  cases kind with
  | striding => apply StridingRq.create_eq_some h
  | regular => apply RegularRq.create_eq_some h

theorem create_owns {kind : RqKind} {attr : RqAttr} {pd : BitVec 32} {env : QueueEnv}
    {s s' : Prep} {l : List Resource} {ret : Status} (h : s.Owns l) (hnew : .hw ∉ l)
    (hcreate : create kind attr pd env s = some (ret, s')) :
  ∃ l', s'.Owns l'
  := by
  rcases create_eq_some hcreate with ⟨-, rfl⟩ | ⟨m, hobj⟩
  · exact ⟨l, h⟩
  · obtain ⟨l', hl'⟩ := Prep.createObj_owns env m CreateRqIn.bytes CreateRqOut.bytes h hnew
    rw [hobj] at hl'
    exact ⟨l ++ l', hl'⟩

theorem init_owns {kind : RqKind} {attr : RqAttr} {pd : BitVec 32} {env : QueueEnv}
    {s s' : Prep} {l : List Resource} {ret : Status} (h : s.Owns l) (hnew : .hw ∉ l)
    (hinit : init kind attr pd env s = some (ret, s')) :
  ∃ l', s'.Owns l'
  := by
  have hleaves := Prep.copyUar_leaves env h
  simp only [init] at hinit
  split at hinit
  · rename_i s₁ hcopy
    rw [hcopy] at hleaves
    apply create_owns (hleaves.ok rfl) _ hinit
    simp [hnew]
  · rw [Option.some.inj hinit] at hleaves
    obtain ⟨l', hl'⟩ := hleaves.exists
    exact ⟨l ++ l', hl'⟩

end BasicRq

namespace Adapter

/-- The steps up to `init` own what they have acquired, and no object of the device. -/
theorem acquireRq_owns (attr : RqAttr) (env : QueueEnv) {s : Prep} (h : s.Owns []) :
  ∃ l, (acquireRq attr env s).2.Owns l ∧ .hw ∉ l
  := by
  let P : Prep → Prop := fun s => ∃ l, s.Owns l ∧ .hw ∉ l
  have hleaves {l : List Resource} {r : Resource} {result : Result Prep}
      (hresult : Prep.Leaves l r result) (hnew : .hw ∉ l ++ [r]) : P result.2 := by
    by_cases hret : result.1 = .ok
    · exact ⟨l ++ [r], hresult.ok hret, hnew⟩
    · exact ⟨l, hresult.fail hret, fun hmem => hnew (List.mem_append_left _ hmem)⟩
  -- a step that fails leaves what the steps before it have acquired
  refine Result.andThen_inv (P := P) (fun _ => ⟨[], Prep.obtainUar_owns env h, by decide⟩) ?_
  intro _
  have hbuf := Prep.allocateBuf_leaves env
    (BasicRq.mulOfPageSz env.pageSize ((BasicRq.wqBufSzBytes attr).setWidth 64)).toNat
    ((BasicRq.wqBufSzBytes attr).setWidth 64).toNat (Prep.obtainUar_owns env h)
  refine Result.andThen_inv (P := P) (fun _ => hleaves hbuf (by decide)) ?_
  intro hret
  have hbufUmem := Prep.regBuf_leaves env ((BasicRq.wqBufSzBytes attr).setWidth 64).toNat
    (hbuf.ok hret) (by decide)
  refine Result.andThen_inv (P := P) (fun _ => hleaves hbufUmem (by decide)) ?_
  intro hret
  have hdbRec := Prep.allocateDbRec_leaves env env.pageSize.toNat (hbufUmem.ok hret)
  refine Result.andThen_inv (P := P) (fun _ => hleaves hdbRec (by decide)) ?_
  intro hret
  apply hleaves (Prep.regDbRec_leaves env (hdbRec.ok hret) (by decide))
  decide

theorem prepareBasicRq_owns {kind : RqKind} {attr : RqAttr} {pd : BitVec 32} {env : QueueEnv}
    {s s' : Prep} {ret : Status} (h : s.Owns [])
    (hprepare : prepareBasicRq kind attr pd env s = some (ret, s')) :
  ∃ l, s'.Owns l
  := by
  obtain ⟨l, hl, hnew⟩ := acquireRq_owns attr env h
  simp only [prepareBasicRq] at hprepare
  split at hprepare
  · rename_i s₁ hacquire
    rw [hacquire] at hl
    apply BasicRq.init_owns hl hnew hprepare
  · rw [Option.some.inj hprepare] at hl
    exact ⟨l, hl⟩

/-- The creation stores the output pointer last. -/
theorem createBasicRq_out {kind : RqKind} {ad : Adapter} {attr : RqAttr} {env : QueueEnv}
    {out : Nat} {r : Creation} (hr : createBasicRq kind ad attr env out = some r)
    (hstatus : r.status ≠ .ok) :
  r.out = out
  := by
  simp only [createBasicRq] at hr
  -- every end of the function either publishes, with status `ok`, or leaves the pointer alone
  repeat' split at hr
  all_goals cases hr <;> first | rfl | cases hstatus rfl

/-- If the creation of a striding or of a regular RQ fails, then what it acquired (the WQ buffer,
the doorbell record, their umems and the copy of the UAR page) has been released once, the
object of the device is destroyed if one was made, given a device that destroys what it is
asked to, and the output pointer is as it was. -/
theorem createRq_fails {create : Adapter → RqAttr → QueueEnv → Nat → Option Creation}
    (hcreate : create = createStridingRq ∨ create = createRegularRq) {ad : Adapter}
    {attr : RqAttr} {env : QueueEnv} {out : Nat} {r : Creation}
    (hr : create ad attr env out = some r) (hstatus : r.status ≠ .ok) :
  (∀ res, res ≠ .hw → ReleasedOnce r.log res)
    ∧ (env.destroys = true → ReleasedOnce r.log .hw)
    ∧ r.out = out
  := by
  obtain ⟨kind, rfl⟩ : ∃ kind, create = createBasicRq kind := by
    rcases hcreate with rfl | rfl
    · exact ⟨.striding, rfl⟩
    · exact ⟨.regular, rfl⟩
  have hout := createBasicRq_out hr hstatus
  simp only [createBasicRq] at hr
  split at hr
  · cases hr
    exact ⟨fun _ _ hmem => (List.not_mem_nil hmem).elim,
      fun _ hmem => (List.not_mem_nil hmem).elim, hout⟩
  · split at hr
    · cases hr
      exact ⟨fun _ _ hmem => (List.not_mem_nil hmem).elim,
        fun _ hmem => (List.not_mem_nil hmem).elim, hout⟩
    · split at hr
      · cases hr
        cases hstatus rfl
      · rename_i ret s hret hprepare
        cases hr
        obtain ⟨l, hl⟩ := prepareBasicRq_owns (Prep.owns_new _ _ _) hprepare
        refine ⟨?_, ?_, hout⟩
        · apply (Creation.releasedOnce_abandon hl _ _ _ _ _).mpr
          intro res _ _
          apply List.not_mem_nil
        · intro hdestroys
          apply (hl.releasedOnce_iff [] env.destroys .hw).mpr
          simp [hdestroys]
      · cases hr

/-- A striding RQ of 4 WQEs of 512 strides of 64 bytes. -/
def fourWqes : RqAttr := ⟨64, 512, 0, 0, 4, 2, 0, 0⟩

/-- A device that makes an RQ and reports that it failed: the RQ is destroyed, and everything
else is released. -/
theorem createRq_fails_badStatus :
  ∃ r, fresh.createStridingRq fourWqes
      { QueueEnv.generous with device := fun _ _ => ⟨true, fun i => if i = 0 then 1 else 0⟩ }
      0x77 = some r
    ∧ r.status = .errCreate ∧ .acquire .hw ∈ r.log
    ∧ (∀ res, ReleasedOnce r.log res) ∧ r.out = 0x77
  := by
  obtain ⟨r, hr⟩ : ∃ r, fresh.createStridingRq fourWqes
      { QueueEnv.generous with device := fun _ _ => ⟨true, fun i => if i = 0 then 1 else 0⟩ }
      0x77 = some r := ⟨_, rfl⟩
  have hstatus : r.status = .errCreate := by
    cases hr
    decide +kernel
  have hmem : .acquire .hw ∈ r.log := by
    cases hr
    decide +kernel
  obtain ⟨hreleased, hhw, hout⟩ := createRq_fails (.inl rfl) hr (by simp [hstatus])
  refine ⟨r, hr, hstatus, hmem, ?_, hout⟩
  intro res
  by_cases hres : res = .hw
  · rw [hres]
    apply hhw rfl
  · apply hreleased res hres

end Adapter

end Dpcp
