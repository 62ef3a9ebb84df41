import Dpcp.Obj
import Dpcp.Machine.Ledger
import Dpcp.Uar.Collection

/-!
# Queues

A completion queue, a receive queue and a send queue own the same things beside their object of
the device: a buffer and a doorbell record, each with the umem that registers it, and a copy of
the UAR page.  They are acquired one after the other while the adapter creates the queue, and
released by `destroy`.

A creation keeps a ledger of what was acquired and released.  What the world outside decides is
in `QueueEnv`.
-/

namespace Dpcp

open Bits Dcmd Prm Ledger

/-! ### Logarithms -/

/-- The loop of `ilog2`: `while ((1 << e) < n) ++e;`.  A shift by 31 overflows `int`, and there
is no result. -/
def ilog2Loop (n : Int) : Nat → Nat → Option Int
  | 0, _ => none
  | fuel + 1, e => if 2 ^ e < n then ilog2Loop n fuel (e + 1) else some e

/-- `ilog2`. -/
def ilog2 (n : Int) : Option Int :=
  if n ≤ 0 then some (-1) else ilog2Loop n 31 0

/-- The cast of a `size_t` to `int`. -/
def castInt (n : BitVec 64) : Int :=
  (n.setWidth 32).toInt

/-- The loop ends when the shift reaches `n`. -/
theorem ilog2Loop_isSome {n : Int} {fuel e : Nat} (h : n ≤ 2 ^ (e + fuel)) :
  (ilog2Loop n (fuel + 1) e).isSome = true
  := by
  induction fuel generalizing e with
  | zero =>
      rw [ilog2Loop, if_neg (by simpa using h)]
      rfl
  | succ fuel ih =>
      rw [ilog2Loop]
      split
      · apply ih
        rw [Nat.add_assoc, Nat.add_comm 1 fuel]
        apply h
      · rfl

/-- There is a logarithm up to `2 ^ 30`. -/
theorem ilog2_isSome {n : Int} (h : n ≤ 2 ^ 30) :
  (ilog2 n).isSome = true
  := by
  rw [ilog2]
  split
  · rfl
  · apply ilog2Loop_isSome
    simpa using h

/-- The loop ends at the first power that reaches `n`. -/
theorem ilog2Loop_spec {n e : Int} {fuel k : Nat} (hk : ∀ j < k, (2 : Int) ^ j < n)
    (h : ilog2Loop n fuel k = some e) :
  ∃ l : Nat, e = l ∧ n ≤ 2 ^ l ∧ ∀ j < l, (2 : Int) ^ j < n
  := by
  induction fuel generalizing k with
  | zero => cases h
  | succ fuel ih =>
      rw [ilog2Loop] at h
      split at h
      · rename_i hlt
        apply ih _ h
        intro j hj
        rcases Nat.lt_succ_iff_lt_or_eq.mp hj with hj | rfl
        · apply hk j hj
        · apply hlt
      · rename_i hle
        cases h
        exact ⟨k, rfl, not_lt.mp hle, hk⟩

/-- The logarithm of a positive number is rounded up. -/
theorem ilog2_spec {n e : Int} (hn : 0 < n) (h : ilog2 n = some e) :
  ∃ l : Nat, e = l ∧ n ≤ 2 ^ l ∧ ∀ j < l, (2 : Int) ^ j < n
  := by
  rw [ilog2, if_neg (not_le.mpr hn)] at h
  apply ilog2Loop_spec _ h
  intro j hj
  cases hj

/-- The logarithm of a power of two. -/
theorem ilog2_two_pow {a : Nat} (ha : a ≤ 30) :
  ilog2 (2 ^ a) = some (a : Int)
  := by
  have hpow : ((2 : Int) ^ a) ≤ 2 ^ 30 := by
    exact_mod_cast Nat.pow_le_pow_right (by decide) ha
  obtain ⟨e, hlog⟩ := Option.isSome_iff_exists.mp (ilog2_isSome hpow)
  obtain ⟨l, rfl, hle, hlt⟩ := ilog2_spec (Int.pow_pos (by decide)) hlog
  rw [hlog]
  have hal : a ≤ l := (Nat.pow_le_pow_iff_right Nat.one_lt_two).mp (by exact_mod_cast hle)
  rcases Nat.lt_or_eq_of_le hal with hal | rfl
  · cases lt_irrefl _ (hlt a hal)
  · rfl

/-! ### What a queue owns -/

/-- What a queue acquires: its object of the device, the copy of the UAR page, and the buffer
and the doorbell record with their umems. -/
inductive Resource where
  | hw
  | uarT
  | bufUmem
  | dbRecUmem
  | buf
  | dbRec
deriving DecidableEq

/-- `class dcmd::umem`: the id, and how many bytes are registered. -/
structure Umem where
  id : BitVec 32
  size : Nat

/-- The part that `cq`, `basic_rq` and `pp_sq` have in common.  A buffer is given by the number of
bytes that were allocated; a pointer is `none` when it is null.  The state is the one of an RQ or an
SQ; a CQ has none. -/
structure Queue where
  base : Obj
  mState : BitVec 32
  mUar : Option UarT
  mBuf : Option Nat
  mBufUmem : Option Umem
  mDbRec : Option Nat
  mDbRecUmem : Option Umem
  mBufSzBytes : BitVec 32
  mBufUmemId : BitVec 32
  mDbRecUmemId : BitVec 32

namespace Queue

/-- `RQ_RST` and `SQ_RST`. -/
def rst : BitVec 32 := 0x0

/-- The constructors of `cq`, `basic_rq` and `pp_sq`, for a buffer of `bufSzBytes`. -/
def new (ctx : Bool) (bufSzBytes : BitVec 32) : Queue :=
  ⟨.new ctx, rst, none, none, none, none, none, bufSzBytes, 0, 0⟩

/-- `cq::destroy` and `basic_rq::destroy`, with the resources released, in that order; `destroys`
tells whether the device destroys its object when it is asked to. -/
def destroy (q : Queue) (destroys : Bool) : List Resource × Queue :=
  let hw := if q.base.live && destroys then [.hw] else []
  let uarT := if q.mUar.isSome then [.uarT] else []
  let bufUmem := if q.mBufUmem.isSome then [.bufUmem] else []
  let dbRecUmem := if q.mDbRecUmem.isSome then [.dbRecUmem] else []
  let buf := if q.mBuf.isSome then [.buf] else []
  let dbRec := if q.mDbRec.isSome then [.dbRec] else []
  (hw ++ uarT ++ bufUmem ++ dbRecUmem ++ buf ++ dbRec,
    { q with
      base := q.base.destroy.2
      mUar := none
      mBufUmem := none
      mDbRecUmem := none
      mBuf := none
      mDbRec := none })

/-- The destructors, down to that of `obj`, which deletes the `dcmd::obj`. -/
def delete (q : Queue) (destroys : Bool) : List Resource :=
  let (released, q) := q.destroy destroys
  released ++ if q.base.live && destroys then [.hw] else []

/-- Whether the pointer to a resource is set. -/
def points (q : Queue) : Resource → Bool
  | .hw => q.base.live
  | .uarT => q.mUar.isSome
  | .bufUmem => q.mBufUmem.isSome
  | .dbRecUmem => q.mDbRecUmem.isSome
  | .buf => q.mBuf.isSome
  | .dbRec => q.mDbRec.isSome

/-- The destructors release what the pointers point to, once; the object of the device if the
device does its part. -/
theorem count_delete (q : Queue) (destroys : Bool) (r : Resource) :
  (q.delete destroys).count r
    = if q.points r = true ∧ (r = .hw → destroys = true) then 1 else 0
  := by
  have hif (b : Bool) (r' : Resource) :
      (if b = true then [r'] else []).count r = if b = true ∧ r' = r then 1 else 0 := by
    cases b <;> simp [List.count_singleton]
  have hlive : q.base.destroy.2.live = false := Obj.live_destroy q.base
  simp only [delete, destroy, hlive, List.count_append, hif]
  cases r <;> simp [points]

end Queue

/-! ### The steps of a creation -/

/-- What the world outside decides while a queue is created.  `newQueue` is the address of the
new object, `0` if there is none; a umem is given by its id. -/
structure QueueEnv where
  newUarpool : Bool
  newQueue : Nat
  allocUar : Bool
  uarPage : Nat → UarT
  pageSize : BitVec 64
  allocBuf : Bool
  regBuf : Option (BitVec 32)
  allocDbRec : Bool
  regDbRec : Option (BitVec 32)
  newUarT : Bool
  device : Device
  destroys : Bool

/-- A queue while it is created, with the UAR pool of the adapter, the local `uar_p` and the
ledger. -/
structure Prep where
  queue : Queue
  uarpool : UarCollection
  uarP : UarT
  log : List (Event Resource)

/-- `reg_mem`; `made` is what `create_umem` gives, `umem` and `memId` what the output parameters
held. -/
def regMem (ctx : Bool) (buf : Option Nat) (sz : Nat) (made : Option (BitVec 32))
    (umem : Option Umem) (memId : BitVec 32) : Status × Option Umem × BitVec 32 :=
  if !ctx then
    (.errNoContext, umem, memId)
  else if buf.isNone then
    (.errNoMemory, umem, memId)
  else if sz = 0 then
    (.errOutOfRange, umem, memId)
  else
    match made with
    | none => (.errUmem, none, memId)
    | some id => (.ok, some ⟨id, sz⟩, id)

/-- `reg_mem` makes a umem if it succeeds; if it fails the pointer is null or as it was. -/
theorem regMem_umem (ctx : Bool) (buf : Option Nat) (sz : Nat) (made : Option (BitVec 32))
    (memId : BitVec 32) :
  (regMem ctx buf sz made none memId).2.1.isSome
    = decide ((regMem ctx buf sz made none memId).1 = .ok)
  := by
  cases ctx <;> cases buf <;> cases made <;> by_cases hsz : sz = 0 <;> simp [regMem, hsz]

namespace Prep

/-- A queue that was just constructed; `uar_p` is not initialised. -/
def new (ctx : Bool) (uarpool : UarCollection) (bufSzBytes : BitVec 32) : Prep :=
  ⟨.new ctx bufSzBytes, uarpool, ⟨0, 0, 0⟩, []⟩

/-- The UAR of the queue, which is its own key, and the page of the UAR. -/
def obtainUar (env : QueueEnv) (s : Prep) : Result Prep :=
  let (u, uarpool) := s.uarpool.getUar env.newQueue .shared env.allocUar
  let s := { s with uarpool := uarpool }
  if u.isNone then
    (.errAllocUar, s)
  else
    let (ret, uarP) := UarCollection.getUarPage env.uarPage u s.uarP
    (ret, { s with uarP := uarP })

/-- `cq::allocate_cq_buf`, `basic_rq::allocate_wq_buf` and `pp_sq::allocate_wq_buf`, which allocate
`bytes` for a buffer of `sz` bytes. -/
def allocateBuf (env : QueueEnv) (bytes sz : Nat) (s : Prep) : Result Prep :=
  if !env.allocBuf then
    (.errNoMemory, s)
  else
    (.ok, { s with
      queue := { s.queue with mBuf := some bytes, mBufSzBytes := BitVec.ofNat 32 sz }
      log := s.log ++ [.acquire .buf] })

/-- `reg_mem` on the buffer. -/
def regBuf (env : QueueEnv) (sz : Nat) (s : Prep) : Result Prep :=
  let (ret, umem, id) := regMem s.queue.base.mCtx s.queue.mBuf sz env.regBuf s.queue.mBufUmem
    s.queue.mBufUmemId
  let log := if ret = .ok then s.log ++ [.acquire .bufUmem] else s.log
  (ret, { s with
    queue := { s.queue with mBufUmem := umem, mBufUmemId := id }
    log := log })

/-- `allocate_db_rec`, which allocates `bytes`. -/
def allocateDbRec (env : QueueEnv) (bytes : Nat) (s : Prep) : Result Prep :=
  if !env.allocDbRec then
    (.errNoMemory, s)
  else
    (.ok, { s with
      queue := { s.queue with mDbRec := some bytes }
      log := s.log ++ [.acquire .dbRec] })

/-- `reg_mem` on the doorbell record, of which 64 bytes are registered. -/
def regDbRec (env : QueueEnv) (s : Prep) : Result Prep :=
  let (ret, umem, id) := regMem s.queue.base.mCtx s.queue.mDbRec 64 env.regDbRec
    s.queue.mDbRecUmem s.queue.mDbRecUmemId
  let log := if ret = .ok then s.log ++ [.acquire .dbRecUmem] else s.log
  (ret, { s with
    queue := { s.queue with mDbRecUmem := umem, mDbRecUmemId := id }
    log := log })

/-- The part of `init` that copies the page of the UAR. -/
def copyUar (env : QueueEnv) (s : Prep) : Result Prep :=
  if s.uarP.mPage = 0 ∨ s.uarP.mPageId = 0 then
    (.errInvalidParam, s)
  else if !env.newUarT then
    (.errNoMemory, s)
  else
    (.ok, { s with
      queue := { s.queue with mUar := some s.uarP }
      log := s.log ++ [.acquire .uarT] })

/-- `obj::create` for the queue, and `obj::get_id` after it.  The queue had no object of the device
before. -/
def createObj (env : QueueEnv) (mailbox : Memory) (inlen outlen : Nat) (s : Prep) :
    Result Prep :=
  let (ret, base, _) := s.queue.base.create env.device (some mailbox) inlen zeros outlen
  let log := if base.live then s.log ++ [.acquire .hw] else s.log
  let s := { s with queue := { s.queue with base := base }, log := log }
  match ret with
  | .ok => ((s.queue.base.getId 0).1, s)
  | ret => (ret, s)

/-! ### What the steps acquire -/

/-- The queue has acquired `l`, in that order, and released nothing; its pointers point to just
that. -/
structure Owns (s : Prep) (l : List Resource) : Prop where
  log : s.log = l.map .acquire
  points : ∀ r, s.queue.points r = decide (r ∈ l)

/-- What a step leaves: with `r` acquired if it succeeded, and as it was if it failed. -/
def Leaves (l : List Resource) (r : Resource) (result : Result Prep) : Prop :=
  result.2.Owns (if result.1 = .ok then l ++ [r] else l)

theorem Leaves.ok {l : List Resource} {r : Resource} {result : Result Prep}
    (h : Leaves l r result) (hret : result.1 = .ok) :
  result.2.Owns (l ++ [r])
  := by
  rw [Leaves, if_pos hret] at h
  apply h

theorem Leaves.fail {l : List Resource} {r : Resource} {result : Result Prep}
    (h : Leaves l r result) (hret : result.1 ≠ .ok) :
  result.2.Owns l
  := by
  rw [Leaves, if_neg hret] at h
  apply h

theorem Leaves.exists {l : List Resource} {r : Resource} {result : Result Prep}
    (h : Leaves l r result) :
  ∃ l', result.2.Owns (l ++ l')
  := by
  rw [Leaves] at h
  split at h
  · exact ⟨[r], h⟩
  · exact ⟨[], by simpa using h⟩

theorem owns_new (ctx : Bool) (uarpool : UarCollection) (bufSzBytes : BitVec 32) :
  (new ctx uarpool bufSzBytes).Owns []
  := by
  constructor
  · rfl
  · intro r
    cases r <;> rfl

/-- A step that logs the acquisition of `r` and sets the pointer to it if it succeeds, that leaves
the pointer null if it fails, and that touches no other pointer. -/
theorem Owns.leaves {s : Prep} {l : List Resource} (h : s.Owns l) {r : Resource}
    {result : Result Prep}
    (hlog : result.2.log = if result.1 = .ok then s.log ++ [.acquire r] else s.log)
    (hr : result.2.queue.points r = decide (result.1 = .ok ∨ r ∈ l))
    (hother : ∀ r', r' ≠ r → result.2.queue.points r' = s.queue.points r') :
  Leaves l r result
  := by
  by_cases hok : result.1 = .ok
  · rw [Leaves, if_pos hok]
    constructor
    · rw [hlog, if_pos hok, h.log, List.map_append]
      rfl
    · intro r'
      by_cases heq : r' = r
      · simp [heq, hr, hok]
      · simp [hother r' heq, h.points r', heq]
  · rw [Leaves, if_neg hok]
    constructor
    · rw [hlog, if_neg hok, h.log]
    · intro r'
      by_cases heq : r' = r
      · simp [heq, hr, hok]
      · rw [hother r' heq, h.points r']

theorem obtainUar_owns (env : QueueEnv) {s : Prep} {l : List Resource} (h : s.Owns l) :
  (s.obtainUar env).2.Owns l
  := by
  simp only [obtainUar]
  split
  · exact ⟨h.log, h.points⟩
  · exact ⟨h.log, h.points⟩

/-- There is a UAR for the queue if the pool has a shared one or one can be allocated. -/
theorem obtainUar_ok_iff {env : QueueEnv} (hqueue : env.newQueue ≠ 0) (s : Prep) :
  (s.obtainUar env).1 = .ok ↔ ¬ (s.uarpool.mSharedUar = none ∧ env.allocUar = false)
  := by
  cases hshared : s.uarpool.mSharedUar with
  | some u =>
      by_cases hmem : env.newQueue ∈ s.uarpool.mShVc <;>
        simp [obtainUar, UarCollection.getUar, UarCollection.getUarPage, hqueue, hshared, hmem]
  | none =>
      cases halloc : env.allocUar <;>
        simp [obtainUar, UarCollection.getUar, UarCollection.allocate, UarCollection.getUarPage,
          hqueue, hshared, halloc]

theorem allocateBuf_leaves (env : QueueEnv) (bytes sz : Nat) {s : Prep} {l : List Resource}
    (h : s.Owns l) :
  Leaves l .buf (s.allocateBuf env bytes sz)
  := by
  cases halloc : env.allocBuf with
  | false => simpa [Leaves, allocateBuf, halloc] using h
  | true =>
      apply h.leaves
      · simp [allocateBuf, halloc]
      · simp [allocateBuf, halloc, Queue.points]
      · intro r hr
        cases r <;> simp_all [allocateBuf, Queue.points]

theorem allocateBuf_ok_iff (env : QueueEnv) (bytes sz : Nat) (s : Prep) :
  (s.allocateBuf env bytes sz).1 = .ok ↔ env.allocBuf = true
  := by
  cases halloc : env.allocBuf <;> simp [allocateBuf, halloc]

theorem allocateDbRec_leaves (env : QueueEnv) (bytes : Nat) {s : Prep} {l : List Resource}
    (h : s.Owns l) :
  Leaves l .dbRec (s.allocateDbRec env bytes)
  := by
  cases halloc : env.allocDbRec with
  | false => simpa [Leaves, allocateDbRec, halloc] using h
  | true =>
      apply h.leaves
      · simp [allocateDbRec, halloc]
      · simp [allocateDbRec, halloc, Queue.points]
      · intro r hr
        cases r <;> simp_all [allocateDbRec, Queue.points]

theorem regBuf_leaves (env : QueueEnv) (sz : Nat) {s : Prep} {l : List Resource} (h : s.Owns l)
    (hnew : .bufUmem ∉ l) :
  Leaves l .bufUmem (s.regBuf env sz)
  := by
  have hnone : s.queue.mBufUmem = none := by
    simpa [Queue.points, hnew] using h.points .bufUmem
  apply h.leaves
  · rfl
  · simp only [regBuf, Queue.points, hnone, regMem_umem, hnew, or_false]
  · intro r hr
    cases r <;> first | rfl | cases hr rfl

theorem regDbRec_leaves (env : QueueEnv) {s : Prep} {l : List Resource} (h : s.Owns l)
    (hnew : .dbRecUmem ∉ l) :
  Leaves l .dbRecUmem (s.regDbRec env)
  := by
  have hnone : s.queue.mDbRecUmem = none := by
    simpa [Queue.points, hnew] using h.points .dbRecUmem
  apply h.leaves
  · rfl
  · simp only [regDbRec, Queue.points, hnone, regMem_umem, hnew, or_false]
  · intro r hr
    cases r <;> first | rfl | cases hr rfl

theorem copyUar_leaves (env : QueueEnv) {s : Prep} {l : List Resource} (h : s.Owns l) :
  Leaves l .uarT (s.copyUar env)
  := by
  simp only [copyUar]
  split
  · apply h
  · split
    · apply h
    · apply h.leaves
      · rfl
      · simp [Queue.points]
      · intro r hr
        cases r <;> first | rfl | cases hr rfl

/-- Creating the object of the device acquires it if it succeeds; it may also do so when it then
fails. -/
theorem createObj_acquires (env : QueueEnv) (mailbox : Memory) (inlen outlen : Nat) {s : Prep}
    {l : List Resource} (h : s.Owns l) (hnew : .hw ∉ l) :
  (s.createObj env mailbox inlen outlen).2.Owns (l ++ [.hw])
    ∨ (s.createObj env mailbox inlen outlen).1 ≠ .ok
      ∧ (s.createObj env mailbox inlen outlen).2.Owns l
  := by
  generalize hcreate : s.queue.base.create env.device (some mailbox) inlen zeros outlen = reply
  obtain ⟨ret, base, out⟩ := reply
  have hleaves : Leaves l .hw (if base.live then .ok else .errCreate,
      { s with
        queue := { s.queue with base := base }
        log := if base.live then s.log ++ [.acquire .hw] else s.log }) := by
    apply h.leaves
    · cases base.live <;> rfl
    · cases hlive : base.live <;> simp [Queue.points, hlive, hnew]
    · intro r hr
      cases r <;> first | rfl | cases hr rfl
  have hstate : (s.createObj env mailbox inlen outlen).2
      = { s with
          queue := { s.queue with base := base }
          log := if base.live then s.log ++ [.acquire .hw] else s.log } := by
    simp only [createObj, hcreate]
    split <;> rfl
  cases hlive : base.live with
  | true =>
      rw [hlive] at hleaves hstate
      rw [hstate]
      exact .inl (hleaves.ok rfl)
  | false =>
      rw [hlive] at hleaves hstate
      rw [hstate]
      refine .inr ⟨?_, hleaves.fail (by simp)⟩
      cases ret with
      | ok =>
          obtain ⟨hmade, -⟩ := Obj.create_eq_ok hcreate
          cases hlive.symm.trans hmade
      | _ =>
          simp only [createObj, hcreate]
          decide

theorem createObj_owns (env : QueueEnv) (mailbox : Memory) (inlen outlen : Nat) {s : Prep}
    {l : List Resource} (h : s.Owns l) (hnew : .hw ∉ l) :
  ∃ l', (s.createObj env mailbox inlen outlen).2.Owns (l ++ l')
  := by
  rcases createObj_acquires env mailbox inlen outlen h hnew with hmade | ⟨-, hnone⟩
  · exact ⟨[.hw], hmade⟩
  · exact ⟨[], by simpa using hnone⟩

/-- What is released once, if `explicit` is released by hand and then the queue is deleted. -/
theorem Owns.releasedOnce_iff {s : Prep} {l : List Resource} (h : s.Owns l)
    (explicit : List Resource) (destroys : Bool) (r : Resource) :
  ReleasedOnce (s.log ++ (explicit ++ s.queue.delete destroys).map .release) r
    ↔ (r ∈ l → explicit.count r + (if r = .hw → destroys = true then 1 else 0) = 1)
  := by
  rw [h.log, Ledger.releasedOnce_iff, List.count_append, Queue.count_delete, h.points r]
  constructor
  · intro hreleased hr
    simpa [hr] using hreleased hr
  · intro hreleased hr
    simpa [hr] using hreleased hr

end Prep

/-! ### The adapter -/

/-- `class adapter`, as far as the factories use it; `mPdId` is what `get_pd` returns, and
`mIbvPd` tells whether there is a protection domain of the verbs library. -/
structure Adapter where
  mDcmdCtx : Bool
  mUarpool : Option UarCollection
  mPdId : BitVec 32
  mIbvPd : Bool

/-- The UAR pool of the adapter, made if it is not there. -/
def Adapter.makeUarpool (ad : Adapter) (env : QueueEnv) : Option UarCollection :=
  match ad.mUarpool with
  | some uarpool => some uarpool
  | none => if env.newUarpool then some .new else none

/-- The shared UAR of the pool, if there is one. -/
def Adapter.sharedUar (ad : Adapter) : Option Nat :=
  ad.mUarpool.bind UarCollection.mSharedUar

theorem Adapter.makeUarpool_isSome (ad : Adapter) (env : QueueEnv) :
  (ad.makeUarpool env).isSome = true ↔ ad.mUarpool ≠ none ∨ env.newUarpool = true
  := by
  cases hpool : ad.mUarpool <;> simp [makeUarpool, hpool]

/-- The pool has the shared UAR that there was before. -/
theorem Adapter.makeUarpool_eq {ad : Adapter} {env : QueueEnv}
    (h : ad.mUarpool ≠ none ∨ env.newUarpool = true) :
  ∃ uarpool, ad.makeUarpool env = some uarpool ∧ uarpool.mSharedUar = ad.sharedUar
  := by
  cases hpool : ad.mUarpool with
  | some uarpool => exact ⟨uarpool, by simp [makeUarpool, hpool], by simp [sharedUar, hpool]⟩
  | none =>
      have hnew : env.newUarpool = true := by
        simpa [hpool] using h
      refine ⟨.new, by simp [makeUarpool, hpool, hnew], ?_⟩
      simp [sharedUar, hpool, UarCollection.new]

/-- An adapter that has created nothing yet. -/
def Adapter.fresh : Adapter := ⟨true, none, 1, false⟩

/-- A world in which every step succeeds. -/
def QueueEnv.generous : QueueEnv where
  newUarpool := true
  newQueue := 0x1000
  allocUar := true
  uarPage _ := ⟨0x2000, 0x2800, 7⟩
  pageSize := 4096
  allocBuf := true
  regBuf := some 1
  allocDbRec := true
  regDbRec := some 2
  newUarT := true
  device _ _ := ⟨true, zeros⟩
  destroys := true

/-- What a creation comes to: the status, the adapter, the output pointer, the ledger, the queue if
it is there, and whether the queue was deleted. -/
structure Creation where
  status : Status
  adapter : Adapter
  out : Nat
  log : List (Event Resource)
  queue : Option Queue
  deleted : Bool

namespace Creation

/-- A creation that ends before there is a queue. -/
def refuse (ad : Adapter) (out : Nat) (status : Status) : Creation :=
  ⟨status, ad, out, [], none, false⟩

/-- A creation that ends with the queue published. -/
def publish (ad : Adapter) (env : QueueEnv) (s : Prep) : Creation :=
  ⟨.ok, { ad with mUarpool := some s.uarpool }, env.newQueue, s.log, some s.queue, false⟩

/-- A creation that fails: `explicit` is released by hand, then the queue is deleted. -/
def abandon (ad : Adapter) (env : QueueEnv) (out : Nat) (status : Status)
    (explicit : List Resource) (s : Prep) : Creation :=
  ⟨status, { ad with mUarpool := some s.uarpool }, out,
    s.log ++ (explicit ++ s.queue.delete env.destroys).map .release, none, true⟩

/-- After a failure, what the queue owned was released once unless it was also released by
hand. -/
theorem releasedOnce_abandon {s : Prep} {l : List Resource} (h : s.Owns l) (ad : Adapter)
    (env : QueueEnv) (out : Nat) (status : Status) (explicit : List Resource) :
  (∀ r, r ≠ .hw → ReleasedOnce (abandon ad env out status explicit s).log r)
    ↔ ∀ r, r ≠ .hw → r ∈ l → r ∉ explicit
  := by
  have hone (r : Resource) (hr : r ≠ .hw) :
      ReleasedOnce (abandon ad env out status explicit s).log r ↔ (r ∈ l → r ∉ explicit) := by
    rw [abandon, h.releasedOnce_iff]
    simp [hr, List.count_eq_zero]
  constructor
  · intro hreleased r hr
    apply (hone r hr).mp (hreleased r hr)
  · intro hexplicit r hr
    apply (hone r hr).mpr (hexplicit r hr)

end Creation

end Dpcp
