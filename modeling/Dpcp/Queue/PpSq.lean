import Dpcp.Queue.Basic

/-!
# Send queues with packet pacing

`adapter::create_pp_sq` goes through the steps of the other queues, but hands the queue to the
caller before the first of them and leaves it there when a step fails.

`pp_sq::init` allocates a pacing handle and programs its index in the SQ that it creates.  Beside
the ledger of the queue, it keeps account of what it does outside about packet pacing.
-/

namespace Dpcp

open Bits Dcmd Prm Ledger

/-- `struct qos_packet_pacing`. -/
structure QosPacketPacing where
  sustainedRate : BitVec 32
  burstSz : BitVec 32
  packetSz : BitVec 16

/-- `struct qos_attributes`. -/
inductive QosAttributes where
  | none
  | packetPacing (attr : QosPacketPacing)

/-- `struct sq_attr`; the pointer `qos_attrs` is given by what it points to. -/
structure SqAttr where
  qosAttrs : Option QosAttributes
  qosAttrsSz : BitVec 32
  tisNum : BitVec 32
  cqn : BitVec 32
  wqeNum : BitVec 32
  wqeSz : BitVec 32
  userIndex : BitVec 32

/-! ### Packet pacing -/

/-- `struct mlx5dv_pp`, by its address, and with its index. -/
structure PpHandle where
  addr : Nat
  index : BitVec 32
deriving DecidableEq

/-- What happens outside: a pacing handle is allocated or freed, or the device gets a command on an
SQ. `made` tells whether there is an SQ, `rate` is the index in the mailbox, and `destroys` tells
whether the device does as it is told. -/
inductive PpEvent where
  | alloc (handle : PpHandle)
  | free (handle : PpHandle)
  | createSq (made : Bool) (rate : BitVec 16)
  | modifySq (rate : BitVec 16)
  | destroySq (destroys : Bool)
deriving DecidableEq

/-- `class packet_pacing`. -/
structure PacketPacing where
  mPpHandle : Option PpHandle
  mAttr : QosPacketPacing
  mIndex : BitVec 32

/-- What the world outside decides about packet pacing: whether there is memory for a
`packet_pacing`, and the handle for a rate limit context, if one is allocated. -/
structure PpEnv where
  newPp : Bool
  allocPp : Memory → Option PpHandle

namespace PacketPacing

def mlx5PpDataRate : BitVec 32 := 0x0

/-- The constructor. -/
def new (attr : QosPacketPacing) : PacketPacing :=
  ⟨none, attr, 0⟩

/-- The context that `create` asks a handle for. -/
def context (attr : QosPacketPacing) : Memory :=
  let m := zeros
  let m := devxSet m 0 SetPpRateLimitContext.burstUpperBound attr.burstSz
  let m := devxSet m 0 SetPpRateLimitContext.typicalPacketSize (attr.packetSz.setWidth 32)
  let m := devxSet m 0 SetPpRateLimitContext.rateLimit attr.sustainedRate
  devxSet m 0 SetPpRateLimitContext.rateMode mlx5PpDataRate

/-- `packet_pacing::create`. -/
def create (pp : PacketPacing) (allocPp : Memory → Option PpHandle) : Result PacketPacing :=
  match allocPp (context pp.mAttr) with
  | none => (.errCreate, { pp with mPpHandle := none })
  | some handle => (.ok, { pp with mPpHandle := some handle, mIndex := handle.index })

/-- `packet_pacing::get_index`. -/
def getIndex (pp : PacketPacing) : BitVec 32 :=
  pp.mIndex

end PacketPacing

/-- A `pp_sq` while `init` runs, with what it has done outside. -/
structure SqPrep extends Prep where
  mPp : Option PacketPacing
  mPpIdx : BitVec 32
  events : List PpEvent

/-- A `pp_sq` that has no pacing yet. -/
def SqPrep.new (s : Prep) : SqPrep :=
  ⟨s, none, 0, []⟩

namespace PpSq

/-- The handle of a `packet_pacing`, if there are both. -/
def handle (pp : Option PacketPacing) : Option PpHandle :=
  pp.bind PacketPacing.mPpHandle

/-- The `packet_pacing` for the attributes, as `init` and `modify` make it: none for a rate of 0, or
the status of the failure.  A `create` that fails leaves no handle, so that it does not show outside
that only `modify` then deletes the `packet_pacing`. -/
def makePp (attr : SqAttr) (env : PpEnv) : Except Status (Option PacketPacing) :=
  match attr.qosAttrs with
  | some (.packetPacing ppAttr) =>
      if attr.qosAttrsSz ≠ 1 then
        .error .errInvalidParam
      else if ppAttr.sustainedRate = 0 then
        .ok none
      else if !env.newPp then
        .error .errCreate
      else
        match (PacketPacing.new ppAttr).create env.allocPp with
        | (.ok, pp) => .ok (some pp)
        | (ret, _) => .error ret
  | _ => .error .errInvalidParam

/-- What is not made has a status that tells so. -/
theorem makePp_ne_ok {attr : SqAttr} {pacing : PpEnv} :
  makePp attr pacing ≠ .error .ok
  := by
  intro h
  simp only [makePp, PacketPacing.create] at h
  repeat' split at h
  all_goals simp_all

/-- A rate of 0 makes no `packet_pacing`, and another one makes it with the handle for its
context. -/
theorem makePp_eq_ok {attr : SqAttr} {pacing : PpEnv} {pp : Option PacketPacing}
    (h : makePp attr pacing = .ok pp) :
  ∃ ppAttr, attr.qosAttrs = some (.packetPacing ppAttr)
    ∧ (ppAttr.sustainedRate = 0 ∧ pp = none
      ∨ ppAttr.sustainedRate ≠ 0 ∧ ∃ newHandle,
        pacing.allocPp (PacketPacing.context ppAttr) = some newHandle
          ∧ pp = some ⟨some newHandle, ppAttr, newHandle.index⟩)
  := by
  rw [makePp] at h
  split at h
  · rename_i ppAttr hqos
    refine ⟨ppAttr, hqos, ?_⟩
    split at h
    · cases h
    · split at h
      · rename_i hrate
        cases h
        exact .inl ⟨hrate, rfl⟩
      · rename_i hrate
        split at h
        · cases h
        · rw [PacketPacing.create, PacketPacing.new] at h
          cases halloc : pacing.allocPp (PacketPacing.context ppAttr) with
          | none => simp [halloc] at h
          | some newHandle =>
              simp only [halloc] at h
              cases h
              exact .inr ⟨hrate, newHandle, rfl, rfl⟩
  · cases h

/-- There is pacing as the attributes ask for it. -/
def GetsPacing (attr : SqAttr) (pacing : PpEnv) : Prop :=
  ∃ ppAttr, attr.qosAttrs = some (.packetPacing ppAttr) ∧ attr.qosAttrsSz = 1
    ∧ (ppAttr.sustainedRate = 0
      ∨ pacing.newPp = true ∧ (pacing.allocPp (PacketPacing.context ppAttr)).isSome = true)

theorem makePp_ok_iff (attr : SqAttr) (pacing : PpEnv) :
  (∃ pp, makePp attr pacing = .ok pp) ↔ GetsPacing attr pacing
  := by
  rw [makePp, GetsPacing]
  split
  · rename_i ppAttr hqos
    simp only [hqos, Option.some.injEq, QosAttributes.packetPacing.injEq, exists_eq_left',
      PacketPacing.create, PacketPacing.new]
    by_cases hsz : attr.qosAttrsSz = 1
    · rw [if_neg (not_not.mpr hsz)]
      by_cases hrate : ppAttr.sustainedRate = 0
      · rw [if_pos hrate]
        exact iff_of_true ⟨none, rfl⟩ ⟨hsz, .inl hrate⟩
      · rw [if_neg hrate]
        simp only [hsz, hrate, true_and, false_or]
        cases pacing.newPp <;> cases pacing.allocPp (PacketPacing.context ppAttr) <;> simp
    · rw [if_pos hsz]
      refine iff_of_false ?_ fun h => hsz h.1
      rintro ⟨pp, h⟩
      cases h
  · rename_i hqos
    simp only [reduceCtorEq, exists_false, false_iff, not_exists, not_and]
    intro ppAttr h
    cases hqos ppAttr h

/-- The index of a `packet_pacing`; without one it is 0. -/
def indexOf (pp : Option PacketPacing) : BitVec 32 :=
  (pp.map PacketPacing.getIndex).getD 0

/-! ### The creation -/

def mlx5CmdOpCreateSq : BitVec 32 := 0x904
def wqCyclic : BitVec 32 := 0x1

/-- The size of the WQ buffer in bytes, by the constructor of `pp_sq`. -/
def wqBufSzBytes (attr : SqAttr) : BitVec 32 :=
  (16 * attr.wqeSz.setWidth 64 * attr.wqeNum.setWidth 64 : BitVec 64).setWidth 32

/-- The mailbox of `pp_sq::create`. -/
def mailbox (attr : SqAttr) (pd ppIdx : BitVec 32) (uar : UarT) (q : Queue)
    (logWqStride logWqeNum : Int) : Memory :=
  let m := zeros
  let sqc := CreateSqIn.ctx
  let m := devxSet m sqc Sqc.rlkey 0
  let m := devxSet m sqc Sqc.flushInErrorEn 0x1
  let m := devxSet m sqc Sqc.allowMultiPktSendWqe 1
  let m := devxSet m sqc Sqc.flushInErrorEn 1
  let m := devxSet m sqc Sqc.minWqeInlineMode 0
  let m := devxSet m sqc Sqc.state q.mState
  let m := devxSet m sqc Sqc.tsFormat 1
  let m := devxSet m sqc Rqc.userIndex (attr.userIndex &&& 0xFFFFFF)
  let m := devxSet m sqc Sqc.cqn attr.cqn
  let m := devxSet m sqc Sqc.packetPacingRateLimitIndex (ppIdx &&& 0xFFFF)
  let m := devxSet m sqc Sqc.tisLstSz 1
  let m := devxSet m sqc Sqc.tisNum0 (attr.tisNum &&& 0xFFFFFF)
  let wq := sqc + Sqc.wq
  let m := devxSet m wq Wq.wqType wqCyclic
  let m := devxSet m wq Wq.pd (pd &&& 0xFFFFFF)
  let m := devxSet m wq Wq.uarPage (uar.mPageId &&& 0xFFFFFF)
  let m := devxSet64 m wq Wq.dbrAddr 0x0
  let m := devxSet m wq Wq.logWqStride (BitVec.ofInt 32 logWqStride)
  let m := devxSet m wq Wq.logWqPgSz 0x0
  let m := devxSet m wq Wq.logWqSz (BitVec.ofInt 32 logWqeNum)
  let m := devxSet m wq Wq.dbrUmemValid 0x1
  let m := devxSet m wq Wq.wqUmemValid 0x1
  let m := devxSet m wq Wq.dbrUmemId q.mDbRecUmemId
  let m := devxSet m wq Wq.wqUmemId q.mBufUmemId
  let m := devxSet64 m wq Wq.wqUmemOffset 0x0
  devxSet m 0 CreateSqIn.opcode mlx5CmdOpCreateSq

/-- The mailbox that `create` sends for the queue `q`; there is none if `ilog2` has no result. -/
def sentMailbox (attr : SqAttr) (pd ppIdx : BitVec 32) (q : Queue) (uar : UarT) :
    Option Memory := do
  let logWqStride ← ilog2 (castInt (attr.wqeSz.setWidth 64))
  let logWqeNum ← ilog2 (castInt (attr.wqeNum.setWidth 64))
  some (mailbox attr pd ppIdx uar q logWqStride logWqeNum)

/-- The index that the device reads in the SQ context at `p`. -/
def rate (m : Memory) (p : Nat) : BitVec 16 :=
  (devxGet m p Sqc.packetPacingRateLimitIndex).setWidth 16

/-- `pp_sq::create`; there is no result if `ilog2` gives none.  The device gets the command if there
is a context. -/
def create (attr : SqAttr) (pd : BitVec 32) (env : QueueEnv) (s : SqPrep) :
    Option (Result SqPrep) :=
  if pd = 0 then
    some (.errInvalidId, s)
  else do
    let m ← sentMailbox attr pd s.mPpIdx s.queue s.uarP
    let (ret, p) := s.toPrep.createObj env m CreateSqIn.bytes CreateSqOut.bytes
    let events :=
      if s.queue.base.mCtx then
        [.createSq p.queue.base.mObjHandle (rate m CreateSqIn.ctx)]
      else
        []
    some (ret, ⟨p, s.mPp, s.mPpIdx, s.events ++ events⟩)

/-- The part of `pp_sq::init` after the copy of the UAR page.  A rate of 0 is no pacing, and the
queue keeps the index that it has. -/
def pace (attr : SqAttr) (pd : BitVec 32) (env : QueueEnv) (pacing : PpEnv) (s : SqPrep) :
    Option (Result SqPrep) :=
  match makePp attr pacing with
  | .error ret => some (ret, s)
  | .ok none => create attr pd env s
  | .ok (some pp) =>
      create attr pd env
        { s with
          mPp := some pp
          mPpIdx := pp.getIndex
          events := s.events ++ (handle (some pp)).toList.map .alloc }

/-- `pp_sq::init`. -/
def init (attr : SqAttr) (pd : BitVec 32) (env : QueueEnv) (pacing : PpEnv) (s : SqPrep) :
    Option (Result SqPrep) :=
  match s.toPrep.copyUar env with
  | (.ok, p) => pace attr pd env pacing { s with toPrep := p }
  | (ret, p) => some (ret, { s with toPrep := p })

end PpSq

namespace Adapter

/-- The steps of `create_pp_sq` up to `init`. -/
def acquireSq (attr : SqAttr) (env : QueueEnv) (s : Prep) : Result Prep :=
  let wqBufSz := (PpSq.wqBufSzBytes attr).toNat
  (s.obtainUar env).andThen fun s =>
    (s.allocateBuf env wqBufSz wqBufSz).andThen
      fun s => (s.regBuf env wqBufSz).andThen
        fun s => (s.allocateDbRec env 64).andThen
          fun s => s.regDbRec env

/-- `adapter::create_pp_sq`; `out` is what the output parameter held.  From where there is an object
the output parameter points to it, whatever the status. -/
def createPpSq (ad : Adapter) (attr : SqAttr) (env : QueueEnv) (pacing : PpEnv) (out : Nat) :
    Option Creation :=
  match ad.makeUarpool env with
  | none => some (.refuse ad out .errNoMemory)
  | some uarpool =>
      let ad := { ad with mUarpool := some uarpool }
      if env.newQueue = 0 then
        some (.refuse ad out .errNoMemory)
      else
        let handOver (r : Result Prep) : Creation :=
          { status := r.1
            adapter := { ad with mUarpool := some r.2.uarpool }
            out := env.newQueue
            log := r.2.log
            queue := some r.2.queue
            deleted := false }
        match acquireSq attr env (.new ad.mDcmdCtx uarpool (PpSq.wqBufSzBytes attr)) with
        | (.ok, s) =>
            (PpSq.init attr ad.mPdId env pacing (.new s)).map fun (ret, s) =>
              handOver (ret, s.toPrep)
        | r => some (handOver r)

/-- The output parameter of `create_pp_sq` holds the new object as soon as there is one. -/
theorem createPpSq_out {ad : Adapter} {attr : SqAttr} {env : QueueEnv} {pacing : PpEnv}
    {out : Nat} {r : Creation} (hr : ad.createPpSq attr env pacing out = some r) :
  r.out = if (ad.makeUarpool env).isSome ∧ env.newQueue ≠ 0 then env.newQueue else out
  := by
  simp only [createPpSq] at hr
  split at hr
  · rename_i hmake
    cases hr
    simp [hmake, Creation.refuse]
  · rename_i uarpool hmake
    split at hr
    · rename_i hnew
      cases hr
      simp [hnew, Creation.refuse]
    · rename_i hnew
      rw [if_pos ⟨by simp [hmake], hnew⟩]
      split at hr
      · obtain ⟨result, -, rfl⟩ := Option.map_eq_some_iff.mp hr
        rfl
      · cases hr
        rfl

end Adapter

end Dpcp
