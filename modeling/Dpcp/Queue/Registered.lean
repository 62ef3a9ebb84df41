import Dpcp.Adapter.Factories
import Dpcp.Queue.Destroy

/-!
# The UAR pool and the queues that are alive

Every completion queue, receive queue other than an IBQ and send queue asks the UAR pool of its
adapter for a UAR under its own address.  The address stays in the pool: neither a creation that
fails later nor the destructor of the queue gives the UAR back.

So the pool knows just the queues that are alive as long as nothing is deleted and every creation
that got a UAR got everything else.
-/

namespace Dpcp

open Machine Bits Dcmd Prm

/-! ### What the steps leave alone -/

namespace Prep

/-- What no step after the first changes: the pool, the page of the UAR and the context. -/
structure Frame (s s' : Prep) : Prop where
  uarpool : s'.uarpool = s.uarpool
  uarP : s'.uarP = s.uarP
  ctx : s'.queue.base.mCtx = s.queue.base.mCtx

theorem Frame.refl (s : Prep) :
  s.Frame s
  := ⟨rfl, rfl, rfl⟩

theorem Frame.trans {s s' s'' : Prep} (h : s.Frame s') (h' : s'.Frame s'') :
  s.Frame s''
  := ⟨h'.uarpool.trans h.uarpool, h'.uarP.trans h.uarP, h'.ctx.trans h.ctx⟩

theorem allocateBuf_frame (env : QueueEnv) (bytes sz : Nat) (s : Prep) :
  s.Frame (s.allocateBuf env bytes sz).2
  := by
  rw [allocateBuf]
  split <;> exact ⟨rfl, rfl, rfl⟩

theorem regBuf_frame (env : QueueEnv) (sz : Nat) (s : Prep) :
  s.Frame (s.regBuf env sz).2
  := ⟨rfl, rfl, rfl⟩

theorem allocateDbRec_frame (env : QueueEnv) (bytes : Nat) (s : Prep) :
  s.Frame (s.allocateDbRec env bytes).2
  := by
  rw [allocateDbRec]
  split <;> exact ⟨rfl, rfl, rfl⟩

theorem regDbRec_frame (env : QueueEnv) (s : Prep) :
  s.Frame (s.regDbRec env).2
  := ⟨rfl, rfl, rfl⟩

theorem copyUar_frame (env : QueueEnv) (s : Prep) :
  s.Frame (s.copyUar env).2
  := by
  rw [copyUar]
  split
  · apply Frame.refl
  · split <;> exact ⟨rfl, rfl, rfl⟩

theorem createObj_frame (env : QueueEnv) (m : Memory) (inlen outlen : Nat) (s : Prep) :
  s.Frame (s.createObj env m inlen outlen).2
  := by
  have hctx : (s.queue.base.create env.device (some m) inlen zeros outlen).2.1.mCtx
      = s.queue.base.mCtx := by
    simp only [Obj.create]
    repeat' split
    all_goals rfl
  simp only [createObj]
  split <;> exact ⟨rfl, rfl, hctx⟩

end Prep

/-- A step that leaves the frame alone, whether it succeeds or fails. -/
def Frames (f : CreationStep) : Prop :=
  ∀ (s : Prep) ret s', f s = some (ret, s') → s.Frame s'

theorem frames_of_frame {f : Prep → Result Prep} (h : ∀ s : Prep, s.Frame (f s).2) :
  Frames (fun s => some (f s))
  := by
  intro s ret s' hf
  have hframe := h s
  rw [Option.some.inj hf] at hframe
  apply hframe

theorem CreatesObj.frames {f : CreationStep} {env : QueueEnv} (h : CreatesObj env f) :
  Frames f
  := by
  intro s ret s' hf
  rcases h s ret s' hf with ⟨-, rfl⟩ | ⟨m, inlen, outlen, hobj⟩
  · apply Prep.Frame.refl
  · have hframe := s.createObj_frame env m inlen outlen
    rw [hobj] at hframe
    apply hframe

theorem runSteps_frames {fs : List CreationStep} (h : ∀ f ∈ fs, Frames f) :
  Frames (runSteps fs)
  := by
  induction fs with
  | nil =>
      intro s ret s' hrun
      cases hrun
      apply Prep.Frame.refl
  | cons f fs ih =>
      intro s ret s' hrun
      have hf := h f List.mem_cons_self
      simp only [runSteps] at hrun
      split at hrun
      · rename_i s₁ h₁
        apply (hf s .ok s₁ h₁).trans
        apply ih _ s₁ ret s' hrun
        intro f' hf'
        apply h f' (List.mem_cons_of_mem f hf')
      · apply hf s ret s' hrun

/-- The steps after the first, in any class. -/
theorem QueueClass.tail_frames (pd : BitVec 32) (env : QueueEnv) (cls : QueueClass) :
  Frames (runSteps (cls.steps pd env).tail)
  := by
  have htail (bytes sz dbBytes : Nat) {copyUar : Prep → Result Prep}
      (hcopy : ∀ s : Prep, s.Frame (copyUar s).2) {create : CreationStep}
      (hcreate : CreatesObj env create) :
      Frames (runSteps
        (acquireSteps env bytes sz dbBytes ++ [fun s => some (copyUar s), create]).tail) := by
    apply runSteps_frames
    simp only [acquireSteps, List.cons_append, List.nil_append, List.tail_cons,
      List.forall_mem_cons]
    refine ⟨?_, ?_, ?_, ?_, ?_, hcreate.frames, by simp⟩
    · apply frames_of_frame (Prep.allocateBuf_frame env bytes sz)
    · apply frames_of_frame (Prep.regBuf_frame env sz)
    · apply frames_of_frame (Prep.allocateDbRec_frame env dbBytes)
    · apply frames_of_frame (Prep.regDbRec_frame env)
    · apply frames_of_frame hcopy
  cases cls with
  | cq attrs =>
      apply htail _ _ _ _ (Cq.create_createsObj attrs env)
      intro s
      rw [Cq.copyUar]
      split
      · apply Prep.Frame.refl
      · apply Prep.copyUar_frame
  | rq kind attr =>
      apply htail _ _ _ (Prep.copyUar_frame env) (BasicRq.create_createsObj kind attr pd env)
  | ppSq attr pacing =>
      apply htail _ _ _ (Prep.copyUar_frame env) (PpSq.paceStep_createsObj attr pd env pacing)

/-- The steps leave the pool as the request for a UAR left it. -/
theorem QueueClass.steps_uarpool {pd : BitVec 32} {env : QueueEnv} {cls : QueueClass} {s s' : Prep}
    {ret : Status} (h : runSteps (cls.steps pd env) s = some (ret, s')) :
  s'.uarpool = (s.uarpool.getUar env.newQueue .shared env.allocUar).2
    ∧ (ret = .ok → (s.obtainUar env).1 = .ok)
  := by
  have huarpool : (s.obtainUar env).2.uarpool
      = (s.uarpool.getUar env.newQueue .shared env.allocUar).2 := by
    simp only [Prep.obtainUar]
    split <;> rfl
  have hsteps : cls.steps pd env
      = (fun s => some (s.obtainUar env)) :: (cls.steps pd env).tail := by
    cases cls <;> rfl
  rw [hsteps, runSteps_cons] at h
  beta_reduce at h
  rw [← huarpool]
  by_cases hok : (s.obtainUar env).1 = .ok
  · generalize s.obtainUar env = r at h hok
    obtain ⟨ret₁, s₁⟩ := r
    cases hok
    have hframe := cls.tail_frames pd env s₁ ret s' h
    exact ⟨hframe.uarpool, fun _ => rfl⟩
  · rw [thenSteps_fail hok] at h
    rw [Option.some.inj h] at hok ⊢
    exact ⟨rfl, fun hret => (hok hret).elim⟩

/-! ### Creations that are granted everything -/

/-- The world outside grants what a queue with a buffer of `sz` bytes asks for once it has a UAR. -/
structure QueueEnv.Grants (env : QueueEnv) (sz : Nat) : Prop where
  uarPage : ∀ u, (env.uarPage u).mPage ≠ 0 ∧ (env.uarPage u).mPageId ≠ 0
  allocBuf : env.allocBuf = true
  sizeNe : sz ≠ 0
  regBuf : env.regBuf ≠ none
  allocDbRec : env.allocDbRec = true
  regDbRec : env.regDbRec ≠ none
  newUarT : env.newUarT = true
  device : ∀ m inlen, (env.device m inlen).handle = true
    ∧ devxGet (env.device m inlen).out 0 StatusOut.status = 0

namespace Prep

theorem obtainUar_granted {env : QueueEnv} {s : Prep} (h : (s.obtainUar env).1 = .ok) :
  ∃ s' u, s.obtainUar env = (.ok, s') ∧ s'.uarP = env.uarPage u
    ∧ s'.queue = s.queue
  := by
  simp only [obtainUar] at h ⊢
  cases hget : (s.uarpool.getUar env.newQueue .shared env.allocUar).1 with
  | none =>
      rw [hget] at h
      cases h
  | some u => exact ⟨_, u, rfl, rfl, rfl⟩

theorem allocateBuf_granted {env : QueueEnv} (h : env.allocBuf = true) (bytes sz : Nat) (s : Prep) :
  ∃ s', s.allocateBuf env bytes sz = (.ok, s') ∧ s.Frame s' ∧ s'.queue.mBuf ≠ none
  := by
  have hframe := s.allocateBuf_frame env bytes sz
  simp only [allocateBuf, h] at hframe ⊢
  exact ⟨_, rfl, hframe, by simp⟩

theorem allocateDbRec_granted {env : QueueEnv} (h : env.allocDbRec = true) (bytes : Nat)
    (s : Prep) :
  ∃ s', s.allocateDbRec env bytes = (.ok, s') ∧ s.Frame s' ∧ s'.queue.mDbRec ≠ none
  := by
  have hframe := s.allocateDbRec_frame env bytes
  simp only [allocateDbRec, h] at hframe ⊢
  exact ⟨_, rfl, hframe, by simp⟩

end Prep

theorem regMem_granted {ctx : Bool} {buf : Option Nat} {sz : Nat} {made : Option (BitVec 32)}
    (hctx : ctx = true) (hbuf : buf ≠ none) (hsz : sz ≠ 0) (hmade : made ≠ none)
    (umem : Option Umem) (memId : BitVec 32) :
  (regMem ctx buf sz made umem memId).1 = .ok
  := by
  obtain ⟨id, rfl⟩ := Option.ne_none_iff_exists'.mp hmade
  obtain ⟨bytes, rfl⟩ := Option.ne_none_iff_exists'.mp hbuf
  simp [regMem, hctx, hsz]

namespace Prep

theorem regBuf_granted {env : QueueEnv} {sz : Nat} {s : Prep} (hctx : s.queue.base.mCtx = true)
    (hbuf : s.queue.mBuf ≠ none) (hsz : sz ≠ 0) (hmade : env.regBuf ≠ none) :
  ∃ s', s.regBuf env sz = (.ok, s') ∧ s.Frame s'
  := by
  have hok : (s.regBuf env sz).1 = .ok := regMem_granted hctx hbuf hsz hmade _ _
  exact ⟨_, Prod.ext hok rfl, s.regBuf_frame env sz⟩

theorem regDbRec_granted {env : QueueEnv} {s : Prep} (hctx : s.queue.base.mCtx = true)
    (hbuf : s.queue.mDbRec ≠ none) (hmade : env.regDbRec ≠ none) :
  ∃ s', s.regDbRec env = (.ok, s') ∧ s.Frame s'
  := by
  have hok : (s.regDbRec env).1 = .ok := regMem_granted hctx hbuf (by decide) hmade _ _
  exact ⟨_, Prod.ext hok rfl, s.regDbRec_frame env⟩

theorem copyUar_granted {env : QueueEnv} {s : Prep} (hpage : s.uarP.mPage ≠ 0 ∧ s.uarP.mPageId ≠ 0)
    (hnew : env.newUarT = true) :
  ∃ s', s.copyUar env = (.ok, s') ∧ s.Frame s'
  := by
  have hframe := s.copyUar_frame env
  simp only [copyUar, hpage, hnew] at hframe ⊢
  exact ⟨_, rfl, hframe⟩

theorem createObj_granted {env : QueueEnv} {m : Memory} {inlen outlen : Nat} {s : Prep}
    (hctx : s.queue.base.mCtx = true) (hlen : 16 ≤ inlen ∧ 16 ≤ outlen)
    (hdevice : (env.device m inlen).handle = true
      ∧ devxGet (env.device m inlen).out 0 StatusOut.status = 0) {ret : Status} {s' : Prep}
    (hobj : s.createObj env m inlen outlen = (ret, s')) :
  ret = .ok
  := by
  obtain ⟨hin, hout⟩ := hlen
  obtain ⟨hhandle, hstatus⟩ := hdevice
  have hok : (s.createObj env m inlen outlen).1 = .ok := by
    simp [createObj, Obj.create, Obj.getId, hctx, Nat.not_lt.mpr hin, Nat.not_lt.mpr hout,
      hhandle, hstatus]
  rw [hobj] at hok
  apply hok

end Prep

/-- With everything granted, the steps succeed if there is a UAR. -/
theorem runSteps_granted {env : QueueEnv} {bytes sz dbBytes : Nat} (h : env.Grants sz)
    {copyUar : Prep → Result Prep} (hcopy : ∀ s, copyUar s = s.copyUar env)
    {create : CreationStep}
    (hcreate : ∀ s ret s', s.queue.base.mCtx = true → create s = some (ret, s') → ret = .ok)
    {s s' : Prep} {ret : Status} (hctx : s.queue.base.mCtx = true)
    (huar : (s.obtainUar env).1 = .ok)
    (hrun : runSteps (acquireSteps env bytes sz dbBytes ++ [fun s => some (copyUar s), create]) s
      = some (ret, s')) :
  ret = .ok
  := by
  rw [runSteps_acquireSteps] at hrun
  simp only [andThen_thenSteps] at hrun
  obtain ⟨s₁, u, h₁, hpage, hqueue⟩ := Prep.obtainUar_granted huar
  rw [h₁, thenSteps_ok] at hrun
  obtain ⟨s₂, h₂, hframe₂, hbuf⟩ := Prep.allocateBuf_granted h.allocBuf bytes sz s₁
  rw [h₂, thenSteps_ok] at hrun
  have hctx₂ : s₂.queue.base.mCtx = true := by
    rw [hframe₂.ctx, hqueue, hctx]
  obtain ⟨s₃, h₃, hframe₃⟩ := Prep.regBuf_granted hctx₂ hbuf h.sizeNe h.regBuf
  rw [h₃, thenSteps_ok] at hrun
  obtain ⟨s₄, h₄, hframe₄, hdbRec⟩ := Prep.allocateDbRec_granted h.allocDbRec dbBytes s₃
  rw [h₄, thenSteps_ok] at hrun
  have hctx₄ : s₄.queue.base.mCtx = true := by
    rw [hframe₄.ctx, hframe₃.ctx, hctx₂]
  obtain ⟨s₅, h₅, hframe₅⟩ := Prep.regDbRec_granted hctx₄ hdbRec h.regDbRec
  rw [h₅, thenSteps_ok, hcopy] at hrun
  have huarP : s₅.uarP = env.uarPage u := by
    rw [hframe₅.uarP, hframe₄.uarP, hframe₃.uarP, hframe₂.uarP, hpage]
  have hpage : s₅.uarP.mPage ≠ 0 ∧ s₅.uarP.mPageId ≠ 0 := by
    rw [huarP]
    apply h.uarPage
  obtain ⟨s₆, h₆, hframe₆⟩ := Prep.copyUar_granted hpage h.newUarT
  rw [h₆, thenSteps_ok] at hrun
  apply hcreate s₆ ret s' _ hrun
  rw [hframe₆.ctx, hframe₅.ctx, hctx₄]

/-- The attributes pass the checks that a completion or a receive queue makes once it has a UAR. -/
def QueueClass.Passes (pd : BitVec 32) : QueueClass → Prop
  | cq attrs => attrs.cqSz.toNat ≤ Cq.maxCqSz
  | rq .regular _ => pd ≠ 0
  | rq .striding attr => pd ≠ 0
      ∧ (∃ e, ilog2 (castInt (attr.bufStrideNum.setWidth 64)) = some e
        ∧ StridingRq.mlx5MinSingleWqeLogNumStrides ≤ e
        ∧ e ≤ StridingRq.mlx5MaxSingleWqeLogNumStrides)
      ∧ ∃ e, ilog2 (castInt attr.bufStrideSz) = some e
        ∧ StridingRq.mlx5MinSingleStrideLogNumBytes ≤ e
        ∧ e ≤ StridingRq.mlx5MaxSingleStrideLogNumBytes
  | ppSq _ _ => True

theorem Cq.create_granted {attrs : CqAttr} {env : QueueEnv} {sz : Nat} (h : env.Grants sz)
    {s s' : Prep} {ret : Status} (hctx : s.queue.base.mCtx = true)
    (hcreate : create attrs env s = some (ret, s')) :
  ret = .ok
  := by
  simp only [create] at hcreate
  split at hcreate
  · cases hcreate
  · apply Prep.createObj_granted hctx (by decide) (h.device _ _) (Option.some.inj hcreate)

theorem BasicRq.create_granted {kind : RqKind} {attr : RqAttr} {pd : BitVec 32} {env : QueueEnv}
    {sz : Nat} (h : env.Grants sz) (hpasses : (QueueClass.rq kind attr).Passes pd)
    {s s' : Prep} {ret : Status} (hctx : s.queue.base.mCtx = true)
    (hcreate : create kind attr pd env s = some (ret, s')) :
  ret = .ok
  := by
  have hsent (m : Memory)
      (hobj : s.createObj env m CreateRqIn.bytes CreateRqOut.bytes = (ret, s')) : ret = .ok := by
    apply Prep.createObj_granted hctx (by decide) (h.device _ _) hobj
  cases kind with
  | regular =>
      have hpd : pd ≠ 0 := hpasses
      simp only [create, RegularRq.create, if_neg hpd] at hcreate
      obtain ⟨logWqStride, -, hcreate⟩ := Option.bind_eq_some_iff.mp hcreate
      obtain ⟨logWqeNum, -, hcreate⟩ := Option.bind_eq_some_iff.mp hcreate
      apply hsent _ (Option.some.inj hcreate)
  | striding =>
      obtain ⟨hpd, ⟨num, hnum, hmin, hmax⟩, sz, hsz, hmin', hmax'⟩ := hpasses
      have hnumRange : ¬ (num < StridingRq.mlx5MinSingleWqeLogNumStrides
          ∨ StridingRq.mlx5MaxSingleWqeLogNumStrides < num) := by
        omega
      have hszRange : ¬ (sz < StridingRq.mlx5MinSingleStrideLogNumBytes
          ∨ StridingRq.mlx5MaxSingleStrideLogNumBytes < sz) := by
        omega
      simp only [create, StridingRq.create, if_neg hpd, hnum, hsz, Option.bind_eq_bind,
        Option.bind_some, if_neg hnumRange, if_neg hszRange] at hcreate
      obtain ⟨logWqStride, -, hcreate⟩ := Option.bind_eq_some_iff.mp hcreate
      obtain ⟨logWqeNum, -, hcreate⟩ := Option.bind_eq_some_iff.mp hcreate
      apply hsent _ (Option.some.inj hcreate)

/-! ### The queues of one adapter -/

/-- The adapter, with the addresses of the completion, receive and send queues that are alive, and
of the IBQs that are. -/
structure LiveQueues where
  adapter : Adapter
  alive : List Nat
  ibqs : List Nat

/-- A call that creates or deletes a queue, with what the world outside decides during it. -/
inductive QueueCall where
  | cq (attrs : CqAttr) (env : QueueEnv)
  | rq (kind : RqKind) (attr : RqAttr) (env : QueueEnv)
  | ppSq (attr : SqAttr) (env : QueueEnv) (pacing : PpEnv)
  | ibqRq (attr : RqAttr) (protocol mkey : BitVec 32) (device : Device) (newObj : Nat)
  | delete (queue : Nat)

namespace LiveQueues

/-- The queues after a creation; one that has no result changes nothing. -/
def created (s : LiveQueues) (env : QueueEnv) : Option Creation → LiveQueues
  | none => s
  | some r =>
      { s with
        adapter := r.adapter
        alive := if r.queue.isSome then s.alive ++ [env.newQueue] else s.alive }

/-- The queues after a call.  The destructors know nothing of the adapter. -/
def step (s : LiveQueues) : QueueCall → LiveQueues
  | .cq attrs env => s.created env (s.adapter.createCq attrs env 0)
  | .rq kind attr env => s.created env (s.adapter.createBasicRq kind attr env 0)
  | .ppSq attr env pacing => s.created env (s.adapter.createPpSq attr env pacing 0)
  | .ibqRq attr protocol mkey device newObj =>
      match s.adapter.createIbqRq attr protocol mkey device newObj 0 with
      | some ⟨.ok, _, _⟩ => { s with ibqs := s.ibqs ++ [newObj] }
      | _ => s
  | .delete queue =>
      { s with
        alive := s.alive.filter (fun q => q ≠ queue)
        ibqs := s.ibqs.filter (fun q => q ≠ queue) }

/-- The key is registered in the UAR pool of the adapter. -/
def Registered (s : LiveQueues) (key : Nat) : Prop :=
  ∃ uarpool, s.adapter.mUarpool = some uarpool ∧ uarpool.Registered key

/-- The pool knows just the queues that are alive. -/
def Exact (s : LiveQueues) : Prop :=
  ∀ key, s.Registered key ↔ key ∈ s.alive

/-- There is memory for the UAR pool and for the queue. -/
def Builds (s : LiveQueues) (env : QueueEnv) : Prop :=
  (s.adapter.mUarpool ≠ none ∨ env.newUarpool = true) ∧ env.newQueue ≠ 0

/-- There is no UAR for the queue. -/
def NoUar (s : LiveQueues) (env : QueueEnv) : Prop :=
  s.adapter.sharedUar = none ∧ env.allocUar = false

/-- Once it has a UAR, the queue gets everything else. -/
def Granted (s : LiveQueues) (cls : QueueClass) (env : QueueEnv) : Prop :=
  s.adapter.mDcmdCtx = true ∧ cls.Passes s.adapter.mPdId ∧ env.Grants cls.bufSzBytes.toNat

/-- The calls that leave the pool with the queues that are alive: no queue is deleted, a completion
or receive queue that gets a UAR gets everything else, and a send queue gets a UAR. -/
def Keeps (s : LiveQueues) : QueueCall → Prop
  | .cq attrs env => ¬ s.adapter.BuildsCq attrs env ∨ s.NoUar env ∨ s.Granted (.cq attrs) env
  | .rq kind attr env => ¬ s.Builds env ∨ s.NoUar env ∨ s.Granted (.rq kind attr) env
  | .ppSq _ env _ => ¬ s.Builds env ∨ ¬ s.NoUar env
  | .ibqRq .. => True
  | .delete queue => queue ∉ s.alive

/-! ### What a creation does to the pool -/

/-- What a creation can do.  It is refused, and at most leaves a new pool, or it takes its steps;
the queue is then alive if they succeed, and a send queue in any case. -/
inductive Outcome (s : LiveQueues) (cls : QueueClass) (env : QueueEnv) (builds handsOver : Prop) :
    LiveQueues → Prop where
  | same : Outcome s cls env builds handsOver s
  | newPool : s.adapter.mUarpool = none →
      Outcome s cls env builds handsOver
        { s with adapter := { s.adapter with mUarpool := some .new } }
  | ran {uarpool : UarCollection} {ret : Status} {s' : Prep} {alive : List Nat} : builds →
      env.newQueue ≠ 0 →
      s.adapter.makeUarpool env = some uarpool →
      runSteps (cls.steps s.adapter.mPdId env)
        (.new s.adapter.mDcmdCtx uarpool cls.bufSzBytes) = some (ret, s') →
      (alive = s.alive ++ [env.newQueue] ∧ (ret = .ok ∨ handsOver)
        ∨ alive = s.alive ∧ ret ≠ .ok ∧ ¬ handsOver) →
      Outcome s cls env builds handsOver
        { s with
          adapter := { s.adapter with mUarpool := some s'.uarpool }
          alive := alive }

theorem makeUarpool_cases {ad : Adapter} {env : QueueEnv} {uarpool : UarCollection}
    (h : ad.makeUarpool env = some uarpool) :
  ad.mUarpool = some uarpool ∨ ad.mUarpool = none ∧ uarpool = .new
  := by
  simp only [Adapter.makeUarpool] at h
  split at h
  · rename_i pool hpool
    cases h
    exact .inl hpool
  · rename_i hpool
    split at h
    · cases h
      exact .inr ⟨hpool, rfl⟩
    · cases h

/-- A refusal after the pool is there. -/
theorem outcome_refuse {s : LiveQueues} {env : QueueEnv} {uarpool : UarCollection}
    (h : s.adapter.makeUarpool env = some uarpool) (cls : QueueClass) (builds handsOver : Prop) :
  s.Outcome cls env builds handsOver
    { s with adapter := { s.adapter with mUarpool := some uarpool } }
  := by
  rcases makeUarpool_cases h with hpool | ⟨hnone, rfl⟩
  · have hsame : { s with adapter := { s.adapter with mUarpool := some uarpool } } = s := by
      rw [← hpool]
    rw [hsame]
    apply Outcome.same
  · apply Outcome.newPool hnone

theorem outcome_rq (s : LiveQueues) (kind : RqKind) (attr : RqAttr) (env : QueueEnv) :
  s.Outcome (.rq kind attr) env (s.Builds env) False (s.step (.rq kind attr env))
  := by
  simp only [step, Adapter.createBasicRq, Adapter.prepareBasicRq_eq_runSteps]
  split
  · apply Outcome.same
  · rename_i uarpool hmake
    split
    · apply outcome_refuse hmake
    · rename_i hobject
      have hbuilds : s.Builds env :=
        ⟨(Adapter.makeUarpool_isSome _ _).mp (by rw [hmake]; rfl), hobject⟩
      split
      · rename_i s' hrun
        refine Outcome.ran hbuilds hobject hmake hrun ?_
        exact .inl ⟨rfl, .inl rfl⟩
      · rename_i ret s' hret hrun
        refine Outcome.ran hbuilds hobject hmake hrun ?_
        exact .inr ⟨rfl, hret, id⟩
      · apply Outcome.same

theorem outcome_ppSq (s : LiveQueues) (attr : SqAttr) (env : QueueEnv) (pacing : PpEnv) :
  s.Outcome (.ppSq attr pacing) env (s.Builds env) True (s.step (.ppSq attr env pacing))
  := by
  rw [step]
  cases hmake : s.adapter.makeUarpool env with
  | none =>
      simp only [Adapter.createPpSq, hmake]
      apply Outcome.same
  | some uarpool =>
      by_cases hobject : env.newQueue = 0
      · simp only [Adapter.createPpSq, hmake, if_pos hobject]
        apply outcome_refuse hmake
      · rw [Adapter.createPpSq_eq_runSteps hmake hobject]
        have hbuilds : s.Builds env :=
          ⟨(Adapter.makeUarpool_isSome _ _).mp (by rw [hmake]; rfl), hobject⟩
        cases hrun : runSteps ((QueueClass.ppSq attr pacing).steps s.adapter.mPdId env)
            (.new s.adapter.mDcmdCtx uarpool (PpSq.wqBufSzBytes attr)) with
        | none => apply Outcome.same
        | some r =>
            obtain ⟨ret, s'⟩ := r
            refine Outcome.ran hbuilds hobject hmake hrun ?_
            exact .inl ⟨rfl, .inr trivial⟩

theorem outcome_cq (s : LiveQueues) (attrs : CqAttr) (env : QueueEnv) :
  s.Outcome (.cq attrs) env (s.adapter.BuildsCq attrs env) False (s.step (.cq attrs env))
  := by
  rw [step]
  by_cases hbuilds : s.adapter.BuildsCq attrs env
  · obtain ⟨r, hr⟩ := Option.isSome_iff_exists.mp (s.adapter.createCq_isSome attrs env 0)
    obtain ⟨uarpool, ret, s', hmake, hrun, rfl⟩ := Adapter.createCq_runSteps hbuilds hr
    rw [hr]
    by_cases hret : ret = .ok
    · rw [if_pos hret]
      refine Outcome.ran hbuilds hbuilds.object hmake hrun ?_
      exact .inl ⟨rfl, .inl hret⟩
    · rw [if_neg hret]
      refine Outcome.ran hbuilds hbuilds.object hmake hrun ?_
      exact .inr ⟨rfl, hret, id⟩
  · simp only [Adapter.createCq]
    split
    · apply Outcome.same
    · rename_i hsize
      split
      · apply Outcome.same
      · rename_i heqNum
        split
        · apply Outcome.same
        · rename_i uarpool hmake
          split
          · apply outcome_refuse hmake
          · rename_i hobject
            apply absurd _ hbuilds
            refine ⟨by simpa using hsize, by simpa using heqNum, ?_, hobject⟩
            apply (Adapter.makeUarpool_isSome _ _).mp
            rw [hmake]
            rfl

/-! ### The pool and the queues -/

/-- The pool is one that calls of its functions reach. -/
def PoolInv (s : LiveQueues) : Prop :=
  ∀ uarpool, s.adapter.mUarpool = some uarpool → uarpool.Inv

end LiveQueues

/-- A shared request registers the key, unless there is no UAR for it. -/
theorem UarCollection.Inv.registered_getUar {s : UarCollection} (hs : s.Inv) {key : Nat}
    (hkey : key ≠ 0) (ok : Bool) (k : Nat) :
  (s.getUar key .shared ok).2.Registered k
    ↔ k = key ∧ ¬ (s.mSharedUar = none ∧ ok = false) ∨ s.Registered k
  := by
  have hs' : (s.getUar key .shared ok).2.Inv := inv_effect (s.effect_getUar key .shared ok) hs
  rw [hs'.registered_iff, hs.registered_iff]
  cases hshared : s.mSharedUar with
  | none =>
      cases ok with
      | false => simp [getUar, allocate, hkey, hshared]
      | true =>
          simp only [getUar, allocate, hkey, hshared]
          grind
  | some u =>
      by_cases hmem : key ∈ s.mShVc
      · simp only [getUar, hkey, hshared, hmem]
        grind
      · simp only [getUar, hkey, hshared, hmem]
        grind

namespace LiveQueues

/-- The pool a creation works with registers what was registered before. -/
theorem makeUarpool_registered {s : LiveQueues} (hs : s.PoolInv) {env : QueueEnv}
    {uarpool : UarCollection} (hmake : s.adapter.makeUarpool env = some uarpool) :
  uarpool.Inv ∧ uarpool.mSharedUar = s.adapter.sharedUar
    ∧ ∀ key, uarpool.Registered key ↔ s.Registered key
  := by
  rcases makeUarpool_cases hmake with hpool | ⟨hnone, rfl⟩
  · refine ⟨hs uarpool hpool, by rw [Adapter.sharedUar, hpool]; rfl, ?_⟩
    intro key
    constructor
    · intro hkey
      exact ⟨uarpool, hpool, hkey⟩
    · rintro ⟨uarpool', hpool', hkey⟩
      rw [hpool] at hpool'
      cases hpool'
      apply hkey
  · refine ⟨UarCollection.inv_new, by rw [Adapter.sharedUar, hnone]; rfl, ?_⟩
    intro key
    rw [UarCollection.inv_new.registered_iff]
    constructor
    · rintro ⟨-, hmem | hfind⟩
      · cases hmem
      · cases hfind rfl
    · rintro ⟨uarpool', hpool', -⟩
      rw [hnone] at hpool'
      cases hpool'

/-- Taking the steps registers the queue, unless there is no UAR for it. -/
theorem registered_ran {s : LiveQueues} (hs : s.PoolInv) {cls : QueueClass} {env : QueueEnv}
    {uarpool : UarCollection} {ret : Status} {s' : Prep} (hobject : env.newQueue ≠ 0)
    (hmake : s.adapter.makeUarpool env = some uarpool)
    (hrun : runSteps (cls.steps s.adapter.mPdId env)
      (.new s.adapter.mDcmdCtx uarpool cls.bufSzBytes) = some (ret, s')) :
  s'.uarpool.Inv
    ∧ (∀ key, s'.uarpool.Registered key ↔ key = env.newQueue ∧ ¬ s.NoUar env ∨ s.Registered key)
    ∧ (ret = .ok → ¬ s.NoUar env)
  := by
  obtain ⟨hinv, hshared, hregistered⟩ := makeUarpool_registered hs hmake
  obtain ⟨huarpool, hok⟩ := QueueClass.steps_uarpool hrun
  have huarpool : s'.uarpool = (uarpool.getUar env.newQueue .shared env.allocUar).2 := huarpool
  refine ⟨?_, ?_, ?_⟩
  · rw [huarpool]
    apply UarCollection.inv_effect (uarpool.effect_getUar _ _ _) hinv
  · intro key
    rw [huarpool, hinv.registered_getUar hobject, hregistered, hshared]
    rfl
  · intro hret
    have huar := (Prep.obtainUar_ok_iff hobject _).mp (hok hret)
    rw [NoUar, ← hshared]
    apply huar

/-- With everything granted, the steps of a completion queue succeed. -/
theorem Granted.cq_ok {s : LiveQueues} {attrs : CqAttr} {env : QueueEnv}
    (h : s.Granted (.cq attrs) env) {prep s' : Prep} (hctx : prep.queue.base.mCtx = true)
    (huar : (prep.obtainUar env).1 = .ok) {ret : Status}
    (hrun : runSteps ((QueueClass.cq attrs).steps s.adapter.mPdId env) prep = some (ret, s')) :
  ret = .ok
  := by
  obtain ⟨-, hpasses, hgrants⟩ := h
  have hsz : ¬ Cq.maxCqSz < attrs.cqSz.toNat := Nat.not_lt.mpr hpasses
  apply runSteps_granted hgrants _ _ hctx huar hrun
  · intro s
    rw [Cq.copyUar, if_neg hsz]
  · intro s ret s' hctx
    apply Cq.create_granted hgrants hctx

/-- With everything granted, the steps of a receive queue succeed. -/
theorem Granted.rq_ok {s : LiveQueues} {kind : RqKind} {attr : RqAttr} {env : QueueEnv}
    (h : s.Granted (.rq kind attr) env) {prep s' : Prep} (hctx : prep.queue.base.mCtx = true)
    (huar : (prep.obtainUar env).1 = .ok) {ret : Status}
    (hrun : runSteps ((QueueClass.rq kind attr).steps s.adapter.mPdId env) prep
      = some (ret, s')) :
  ret = .ok
  := by
  obtain ⟨-, hpasses, hgrants⟩ := h
  have hsz : ((BasicRq.wqBufSzBytes attr).setWidth 64).toNat
      = (QueueClass.rq kind attr).bufSzBytes.toNat := BitVec.toNat_setWidth_of_le (by decide)
  rw [← hsz] at hgrants
  apply runSteps_granted hgrants (fun _ => rfl) _ hctx huar hrun
  intro s ret s' hctx
  apply BasicRq.create_granted hgrants hpasses hctx

/-- The steps of a queue that gets nothing, or everything once it has a UAR. -/
theorem ran_ok_iff {s : LiveQueues} (hs : s.PoolInv) {cls : QueueClass} {env : QueueEnv}
    {uarpool : UarCollection} {ret : Status} {s' : Prep} (hobject : env.newQueue ≠ 0)
    (hmake : s.adapter.makeUarpool env = some uarpool)
    (hrun : runSteps (cls.steps s.adapter.mPdId env)
      (.new s.adapter.mDcmdCtx uarpool cls.bufSzBytes) = some (ret, s'))
    (hgranted : s.NoUar env ∨ (((Prep.new s.adapter.mDcmdCtx uarpool cls.bufSzBytes).obtainUar
      env).1 = .ok → ret = .ok)) :
  ret = .ok ↔ ¬ s.NoUar env
  := by
  obtain ⟨-, hshared, -⟩ := makeUarpool_registered hs hmake
  obtain ⟨-, -, hok⟩ := registered_ran hs hobject hmake hrun
  constructor
  · apply hok
  · intro hno
    apply hgranted.resolve_left hno
    apply (Prep.obtainUar_ok_iff hobject _).mpr
    rw [NoUar, ← hshared] at hno
    apply hno

/-- The pool stays exact if the queue is registered and left alive, or neither. -/
theorem exact_ran {s : LiveQueues} (hs : s.PoolInv) (hexact : s.Exact) {cls : QueueClass}
    {env : QueueEnv} {uarpool : UarCollection} {ret : Status} {s' : Prep} {alive : List Nat}
    (hobject : env.newQueue ≠ 0) (hmake : s.adapter.makeUarpool env = some uarpool)
    (hrun : runSteps (cls.steps s.adapter.mPdId env)
      (.new s.adapter.mDcmdCtx uarpool cls.bufSzBytes) = some (ret, s'))
    (halive : ¬ s.NoUar env ∧ alive = s.alive ++ [env.newQueue] ∨ s.NoUar env ∧ alive = s.alive) :
  PoolInv { s with adapter := { s.adapter with mUarpool := some s'.uarpool }, alive := alive }
    ∧ Exact { s with adapter := { s.adapter with mUarpool := some s'.uarpool }, alive := alive }
  := by
  obtain ⟨hinv, hregistered, -⟩ := registered_ran hs hobject hmake hrun
  constructor
  · intro uarpool' hpool
    cases hpool
    apply hinv
  · intro key
    have hiff : Registered { s with
        adapter := { s.adapter with mUarpool := some s'.uarpool }, alive := alive } key
        ↔ s'.uarpool.Registered key := by
      constructor
      · rintro ⟨uarpool', hpool, hkey⟩
        cases hpool
        apply hkey
      · intro hkey
        exact ⟨_, rfl, hkey⟩
    rw [hiff, hregistered, hexact]
    rcases halive with ⟨hno, rfl⟩ | ⟨hno, rfl⟩
    · simp [hno, or_comm]
    · simp [hno]

theorem exact_newPool {s : LiveQueues} (hexact : s.Exact) (hnone : s.adapter.mUarpool = none) :
  PoolInv { s with adapter := { s.adapter with mUarpool := some .new } }
    ∧ Exact { s with adapter := { s.adapter with mUarpool := some .new } }
  := by
  constructor
  · intro uarpool' hpool
    cases hpool
    apply UarCollection.inv_new
  · intro key
    rw [← hexact key]
    constructor
    · rintro ⟨uarpool', hpool, hkey⟩
      cases hpool
      obtain ⟨-, hmem | hfind⟩ := (UarCollection.inv_new.registered_iff key).mp hkey
      · cases hmem
      · cases hfind rfl
    · rintro ⟨uarpool', hpool, -⟩
      rw [hnone] at hpool
      cases hpool

/-- A creation leaves the pool exact if the queue is alive after its steps just when there was a UAR
for it. -/
theorem Outcome.exact {s s' : LiveQueues} {cls : QueueClass} {env : QueueEnv}
    {builds handsOver : Prop} (h : s.Outcome cls env builds handsOver s') (hs : s.PoolInv)
    (hexact : s.Exact)
    (hran : builds → env.newQueue ≠ 0 → ∀ uarpool ret s',
      s.adapter.makeUarpool env = some uarpool →
      runSteps (cls.steps s.adapter.mPdId env)
        (.new s.adapter.mDcmdCtx uarpool cls.bufSzBytes) = some (ret, s') →
      (ret = .ok ∨ handsOver ↔ ¬ s.NoUar env)) :
  s'.PoolInv ∧ s'.Exact
  := by
  cases h with
  | same => exact ⟨hs, hexact⟩
  | newPool hnone => apply exact_newPool hexact hnone
  | ran hbuilds hobject hmake hrun halive =>
      have hiff := hran hbuilds hobject _ _ _ hmake hrun
      apply exact_ran hs hexact hobject hmake hrun
      rcases halive with ⟨halive, hgot⟩ | ⟨halive, hret, hover⟩
      · exact .inl ⟨hiff.mp hgot, halive⟩
      · refine .inr ⟨?_, halive⟩
        by_contra hno
        apply (hiff.mpr hno).elim hret hover

/-- A call with `Keeps` leaves the pool exact. -/
theorem exact_step {s : LiveQueues} (c : QueueCall) (hkeeps : s.Keeps c) (hs : s.PoolInv)
    (hexact : s.Exact) :
  (s.step c).PoolInv ∧ (s.step c).Exact
  := by
  cases c with
  | cq attrs env =>
      apply (s.outcome_cq attrs env).exact hs hexact
      intro hbuilds hobject uarpool ret s' hmake hrun
      rw [or_false]
      apply ran_ok_iff hs hobject hmake hrun
      apply (hkeeps.resolve_left (not_not_intro hbuilds)).imp_right
      intro hgranted huar
      apply hgranted.cq_ok hgranted.1 huar hrun
  | rq kind attr env =>
      apply (s.outcome_rq kind attr env).exact hs hexact
      intro hbuilds hobject uarpool ret s' hmake hrun
      rw [or_false]
      apply ran_ok_iff hs hobject hmake hrun
      apply (hkeeps.resolve_left (not_not_intro hbuilds)).imp_right
      intro hgranted huar
      apply hgranted.rq_ok hgranted.1 huar hrun
  | ppSq attr env pacing =>
      apply (s.outcome_ppSq attr env pacing).exact hs hexact
      intro hbuilds _ _ _ _ _ _
      have hno : ¬ s.NoUar env := hkeeps.resolve_left (not_not_intro hbuilds)
      exact ⟨fun _ => hno, fun _ => .inr trivial⟩
  | ibqRq attr protocol mkey device newObj =>
      rw [step]
      split
      · exact ⟨hs, hexact⟩
      · exact ⟨hs, hexact⟩
  | delete queue =>
      have hsame : s.alive.filter (fun q => q ≠ queue) = s.alive := by
        apply List.filter_eq_self.mpr
        intro q hq
        apply decide_eq_true
        rintro rfl
        apply hkeeps hq
      rw [step, hsame]
      exact ⟨hs, hexact⟩

/-- In every state of a run from an adapter without queues in which no queue is deleted, each
completion or receive queue that gets a UAR gets everything else, and each send queue gets a UAR,
the keys registered in the UAR pool are the addresses of the queues that are alive. -/
theorem exact_run {ad : Adapter} (hpool : ad.mUarpool = none ∨ ad.mUarpool = some .new)
    {calls calls' : List QueueCall} (hkeeps : Along step Keeps ⟨ad, [], []⟩ calls)
    (hinitial : calls' <+: calls) :
  (run step ⟨ad, [], []⟩ calls').Exact
  := by
  obtain ⟨rest, rfl⟩ := hinitial
  let Inv (s : LiveQueues) : Prop := s.PoolInv ∧ s.Exact
  have hstart : Inv ⟨ad, [], []⟩ := by
    have hnone : Exact ⟨{ ad with mUarpool := none }, [], []⟩ := by
      intro key
      constructor
      · rintro ⟨uarpool, hpool, -⟩
        cases hpool
      · intro hmem
        cases hmem
    rcases hpool with hpool | hpool
    · have had : ad = { ad with mUarpool := none } := by
        rw [← hpool]
      rw [had]
      refine ⟨?_, hnone⟩
      intro uarpool hsome
      cases hsome
    · have had : ad = { ad with mUarpool := some .new } := by
        rw [← hpool]
      rw [had]
      apply exact_newPool hnone rfl
  have hend : Inv (run step ⟨ad, [], []⟩ calls') := by
    apply inv_run_of_along _ hkeeps.left hstart
    intro s c hc hs
    apply exact_step c hc hs.1 hs.2
  apply hend.2

theorem generous_grants {sz : Nat} (hsz : sz ≠ 0) :
  QueueEnv.generous.Grants sz
  := by
  have hstatus : devxGet zeros 0 StatusOut.status = 0 := by
    decide +kernel
  constructor
  · intro _
    show (0x2000 : Nat) ≠ 0 ∧ (7 : BitVec 32) ≠ 0
    decide
  · rfl
  · apply hsz
  · decide
  · rfl
  · decide
  · rfl
  · intro _ _
    exact ⟨rfl, hstatus⟩

/-- A completion queue and a striding receive queue. -/
def twoQueues : List QueueCall :=
  [.cq Adapter.sixteenEntries .generous,
    .rq .striding Adapter.fourWqes { QueueEnv.generous with newQueue := 0x3000 }]

theorem exact_twoQueues :
  (run step ⟨.fresh, [], []⟩ twoQueues).alive = [0x1000, 0x3000]
    ∧ (run step ⟨.fresh, [], []⟩ twoQueues).Exact
  := by
  have hgrants : QueueEnv.Grants { QueueEnv.generous with newQueue := 0x3000 }
      (QueueClass.rq .striding Adapter.fourWqes).bufSzBytes.toNat :=
    { generous_grants (by decide) with }
  have hkeeps : Along step Keeps ⟨.fresh, [], []⟩ twoQueues := by
    refine ⟨.inr (.inr ⟨rfl, ?_, generous_grants (by decide)⟩),
      .inr (.inr ⟨rfl, ?_, hgrants⟩), trivial⟩
    · show (16 : BitVec 32).toNat ≤ Cq.maxCqSz
      decide
    · exact ⟨by decide, ⟨9, rfl, by decide⟩, ⟨6, rfl, by decide⟩⟩
  exact ⟨rfl, exact_run (.inl rfl) hkeeps (List.prefix_refl twoQueues)⟩

/-- After the deletion of a completion queue its address is still registered. -/
theorem not_exact_delete :
  (run step ⟨.fresh, [], []⟩ [.cq Adapter.sixteenEntries .generous]).alive = [0x1000]
    ∧ ¬ (run step ⟨.fresh, [], []⟩
      [.cq Adapter.sixteenEntries .generous, .delete 0x1000]).Exact
  := by
  refine ⟨rfl, ?_⟩
  have hpool : (run step ⟨.fresh, [], []⟩
      [.cq Adapter.sixteenEntries .generous, .delete 0x1000]).adapter.mUarpool
      = some ⟨.empty, [0x1000], some 0, 1⟩ := rfl
  intro hexact
  have halive := (hexact 0x1000).mp ⟨_, hpool, .shared, 0, List.mem_cons_self, rfl⟩
  cases halive

end LiveQueues

end Dpcp
