import Mathlib.Data.List.Forall2
import Dpcp.Queue.Cq
import Dpcp.Queue.PpSq
import Dpcp.Queue.Rq

/-!
# The destruction of queues

A completion queue, a receive queue and a send queue can be destroyed by `destroy`, any number of
times, and are destroyed by their destructors.  `destroy` asks the device to destroy its object,
and then releases the memory the object worked on, whatever the device answers.

The queue may have been created completely or in part: a creation is a list of steps, and what
the queue owns is what the steps up to some point have acquired.
-/

namespace Dpcp

open Bits Dcmd Prm Ledger

/-! ### Creations as lists of steps -/

/-- A step of a creation. -/
abbrev CreationStep : Type := Prep → Option (Result Prep)

/-- The steps one after the other, up to the first that fails. -/
def runSteps : List CreationStep → CreationStep
  | [], s => some (.ok, s)
  | f :: fs, s =>
      match f s with
      | some (.ok, s) => runSteps fs s
      | r => r

/-- A step, and then the rest if it succeeds. -/
def Result.thenSteps (r : Result Prep) (rest : CreationStep) : Option (Result Prep) :=
  match r with
  | (.ok, s) => rest s
  | r => some r

theorem runSteps_cons (f : Prep → Result Prep) (fs : List CreationStep) :
  runSteps ((fun s => some (f s)) :: fs) = fun s => (f s).thenSteps (runSteps fs)
  := by
  funext s
  simp only [runSteps]
  obtain ⟨ret, s'⟩ := f s
  cases ret <;> rfl

theorem runSteps_singleton (f : CreationStep) :
  runSteps [f] = f
  := by
  funext s
  simp only [runSteps]
  split
  · rename_i s' hf
    rw [hf]
  · rfl

theorem thenSteps_ok (s : Prep) (rest : CreationStep) :
  Result.thenSteps (.ok, s) rest = rest s
  := rfl

theorem thenSteps_fail {r : Result Prep} (h : r.1 ≠ .ok) (rest : CreationStep) :
  r.thenSteps rest = some r
  := by
  obtain ⟨ret, s⟩ := r
  rw [Result.thenSteps]
  intro s' hok
  cases hok
  cases h rfl

theorem andThen_thenSteps (r : Result Prep) (f : Prep → Result Prep) (rest : CreationStep) :
  (r.andThen f).thenSteps rest = r.thenSteps fun s => (f s).thenSteps rest
  := by
  obtain ⟨ret, s⟩ := r
  cases ret <;> rfl

/-- A step that acquires `r`: it does so if it succeeds, and otherwise it may have done nothing. -/
def Acquires (f : CreationStep) (r : List Resource) : Prop :=
  ∀ (l : List Resource) (s : Prep) (ret : Status) (s' : Prep), (∀ x ∈ r, x ∉ l) → s.Owns l →
    f s = some (ret, s') → s'.Owns (l ++ r) ∨ ret ≠ .ok ∧ s'.Owns l

/-- After the steps the queue owns what they acquire, up to some point. -/
theorem runSteps_owns {fs : List CreationStep} {rs : List (List Resource)}
    (hacquires : List.Forall₂ Acquires fs rs) {l : List Resource} (hnodup : (l ++ rs.flatten).Nodup)
    {s s' : Prep} (hs : s.Owns l) {ret : Status} (hrun : runSteps fs s = some (ret, s')) :
  ∃ l', l' <+: rs.flatten ∧ s'.Owns (l ++ l')
  := by
  induction hacquires generalizing l s with
  | nil =>
      cases hrun
      exact ⟨[], List.nil_prefix, by simpa using hs⟩
  | @cons f r fs rs hf _ ih =>
      rw [List.flatten_cons] at hnodup ⊢
      have hnew : ∀ x ∈ r, x ∉ l := by
        intro x hx hl
        apply List.disjoint_of_nodup_append hnodup hl
        apply List.mem_append_left _ hx
      simp only [runSteps] at hrun
      split at hrun
      · rename_i s₁ h₁
        rcases hf l s .ok s₁ hnew hs h₁ with hs₁ | ⟨hret, -⟩
        · rw [← List.append_assoc] at hnodup
          obtain ⟨l', hl', hs'⟩ := ih hnodup hs₁ hrun
          refine ⟨r ++ l', (List.prefix_append_right_inj r).mpr hl', ?_⟩
          rw [← List.append_assoc]
          apply hs'
        · cases hret rfl
      · rcases hf l s ret s' hnew hs hrun with hs' | ⟨-, hs'⟩
        · exact ⟨r, List.prefix_append r _, hs'⟩
        · exact ⟨[], List.nil_prefix, by simpa using hs'⟩

theorem acquires_of_leaves {f : Prep → Result Prep} {r : Resource}
    (h : ∀ l s, r ∉ l → s.Owns l → Prep.Leaves l r (f s)) :
  Acquires (fun s => some (f s)) [r]
  := by
  intro l s ret s' hnew hs hf
  have hleaves := h l s (hnew r List.mem_cons_self) hs
  rw [Option.some.inj hf] at hleaves
  by_cases hret : ret = .ok
  · exact .inl (hleaves.ok hret)
  · exact .inr ⟨hret, hleaves.fail hret⟩

/-- A step that fails and leaves the queue as it is, or creates the object of the device. -/
def CreatesObj (env : QueueEnv) (f : CreationStep) : Prop :=
  ∀ s ret s', f s = some (ret, s') → ret ≠ .ok ∧ s' = s
    ∨ ∃ m inlen outlen, s.createObj env m inlen outlen = (ret, s')

theorem CreatesObj.acquires {f : CreationStep} {env : QueueEnv} (h : CreatesObj env f) :
  Acquires f [.hw]
  := by
  intro l s ret s' hnew hs hf
  rcases h s ret s' hf with ⟨hret, rfl⟩ | ⟨m, inlen, outlen, hobj⟩
  · exact .inr ⟨hret, hs⟩
  · have hacquires := Prep.createObj_acquires env m inlen outlen hs (hnew .hw List.mem_cons_self)
    rw [hobj] at hacquires
    apply hacquires

/-! ### The steps of the queues -/

/-- The queues that own memory the device works on. -/
inductive QueueClass where
  | cq (attrs : CqAttr)
  | rq (kind : RqKind) (attr : RqAttr)
  | ppSq (attr : SqAttr) (pacing : PpEnv)

/-- The steps up to `init`: a buffer of `sz` bytes, for which `bytes` are allocated, and a doorbell
record of `dbBytes`. -/
def acquireSteps (env : QueueEnv) (bytes sz dbBytes : Nat) : List CreationStep :=
  [fun s => some (s.obtainUar env), fun s => some (s.allocateBuf env bytes sz),
    fun s => some (s.regBuf env sz), fun s => some (s.allocateDbRec env dbBytes),
    fun s => some (s.regDbRec env)]

/-- The first part of `cq::init`. -/
def Cq.copyUar (attrs : CqAttr) (env : QueueEnv) (s : Prep) : Result Prep :=
  if maxCqSz < attrs.cqSz.toNat then (.errInvalidParam, s) else s.copyUar env

/-- The part of `pp_sq::init` after the copy of the UAR page, for a queue without pacing. -/
def PpSq.paceStep (attr : SqAttr) (pd : BitVec 32) (env : QueueEnv) (pacing : PpEnv) :
    CreationStep :=
  fun s => (pace attr pd env pacing (.new s)).map fun (ret, s) => (ret, s.toPrep)

namespace QueueClass

/-- The size of the buffer, by the constructor. -/
def bufSzBytes : QueueClass → BitVec 32
  | cq attrs => Cq.cqBufSzBytes attrs
  | rq _ attr => BasicRq.wqBufSzBytes attr
  | ppSq attr _ => PpSq.wqBufSzBytes attr

/-- The steps of the creation of a queue in the protection domain `pd`. -/
def steps (pd : BitVec 32) (env : QueueEnv) : QueueClass → List CreationStep
  | cq attrs =>
      let sz := (Cq.cqBufSzBytes attrs).toNat
      acquireSteps env sz sz 64 ++ [fun s => some (Cq.copyUar attrs env s), Cq.create attrs env]
  | rq kind attr =>
      let sz := (BasicRq.wqBufSzBytes attr).setWidth 64
      acquireSteps env (BasicRq.mulOfPageSz env.pageSize sz).toNat sz.toNat env.pageSize.toNat
        ++ [fun s => some (s.copyUar env), BasicRq.create kind attr pd env]
  | ppSq attr pacing =>
      let sz := (PpSq.wqBufSzBytes attr).toNat
      acquireSteps env sz sz 64
        ++ [fun s => some (s.copyUar env), PpSq.paceStep attr pd env pacing]

/-- What is released by hand when a creation fails, before the queue is deleted. -/
def byHand (q : Queue) : QueueClass → List Resource
  | cq _ => [.dbRecUmem, .dbRec, .bufUmem, .buf].filter q.points
  | rq _ _ => []
  | ppSq _ _ => []

end QueueClass

/-- What the steps acquire, in that order: first the memory, last the object of the device. -/
def acquired : List (List Resource) :=
  [[], [.buf], [.bufUmem], [.dbRec], [.dbRecUmem], [.uarT], [.hw]]

theorem acquireSteps_acquires (env : QueueEnv) (bytes sz dbBytes : Nat)
    {copyUar : Prep → Result Prep} (hcopy : ∀ l s, s.Owns l → Prep.Leaves l .uarT (copyUar s))
    {create : CreationStep} (hcreate : Acquires create [.hw]) :
  List.Forall₂ Acquires
    (acquireSteps env bytes sz dbBytes ++ [fun s => some (copyUar s), create]) acquired
  := by
  have huar : Acquires (fun s => some (s.obtainUar env)) [] := by
    intro l s ret s' _ hs huar
    have howns := Prep.obtainUar_owns env hs
    rw [Option.some.inj huar] at howns
    rw [List.append_nil]
    exact .inl howns
  apply List.Forall₂.cons huar
  apply List.Forall₂.cons
  · apply acquires_of_leaves
    intro l s _
    apply Prep.allocateBuf_leaves
  apply List.Forall₂.cons
  · apply acquires_of_leaves
    intro l s hnew hs
    apply Prep.regBuf_leaves env sz hs hnew
  apply List.Forall₂.cons
  · apply acquires_of_leaves
    intro l s _
    apply Prep.allocateDbRec_leaves
  apply List.Forall₂.cons
  · apply acquires_of_leaves
    intro l s hnew hs
    apply Prep.regDbRec_leaves env hs hnew
  apply List.Forall₂.cons
  · apply acquires_of_leaves
    intro l s _
    apply hcopy
  apply List.Forall₂.cons hcreate
  apply List.Forall₂.nil

theorem Cq.copyUar_leaves (attrs : CqAttr) (env : QueueEnv) {s : Prep} {l : List Resource}
    (hs : s.Owns l) :
  Prep.Leaves l .uarT (copyUar attrs env s)
  := by
  rw [copyUar]
  split
  · apply hs
  · apply Prep.copyUar_leaves env hs

theorem Cq.create_createsObj (attrs : CqAttr) (env : QueueEnv) :
  CreatesObj env (create attrs env)
  := by
  intro s ret s' h
  simp only [create] at h
  split at h
  · cases h
  · exact .inr ⟨_, _, _, Option.some.inj h⟩

theorem BasicRq.create_createsObj (kind : RqKind) (attr : RqAttr) (pd : BitVec 32)
    (env : QueueEnv) :
  CreatesObj env (create kind attr pd env)
  := by
  intro s ret s' h
  rcases create_eq_some h with hfail | ⟨m, hobj⟩
  · exact .inl hfail
  · exact .inr ⟨m, _, _, hobj⟩

theorem PpSq.create_eq_some {attr : SqAttr} {pd : BitVec 32} {env : QueueEnv} {s s' : SqPrep}
    {ret : Status} (h : create attr pd env s = some (ret, s')) :
  ret ≠ .ok ∧ s' = s ∨ ∃ m, s.toPrep.createObj env m CreateSqIn.bytes CreateSqOut.bytes
    = (ret, s'.toPrep)
  := by
  simp only [create] at h
  split at h
  · cases h
    exact .inl ⟨by decide, rfl⟩
  · obtain ⟨m, -, h⟩ := Option.bind_eq_some_iff.mp h
    cases h
    exact .inr ⟨m, rfl⟩

theorem PpSq.paceStep_createsObj (attr : SqAttr) (pd : BitVec 32) (env : QueueEnv)
    (pacing : PpEnv) :
  CreatesObj env (paceStep attr pd env pacing)
  := by
  -- `create` is called on the queue as it is, with a `packet_pacing` or without one
  have hcreate {s : Prep} {s₁ s' : SqPrep} {ret : Status} (hs₁ : s₁.toPrep = s)
      (h : create attr pd env s₁ = some (ret, s')) : ret ≠ .ok ∧ s'.toPrep = s
        ∨ ∃ m inlen outlen, s.createObj env m inlen outlen = (ret, s'.toPrep) := by
    subst hs₁
    rcases create_eq_some h with ⟨hret, rfl⟩ | ⟨m, hobj⟩
    · exact .inl ⟨hret, rfl⟩
    · exact .inr ⟨m, _, _, hobj⟩
  intro s ret s' h
  obtain ⟨⟨ret', s₂⟩, hpace, heq⟩ := Option.map_eq_some_iff.mp h
  cases heq
  rw [pace] at hpace
  split at hpace
  · rename_i hmake
    cases hpace
    refine .inl ⟨?_, rfl⟩
    rintro rfl
    apply makePp_ne_ok hmake
  · apply hcreate rfl hpace
  · apply hcreate rfl hpace

namespace QueueClass

/-- Every class acquires the same, in the same order. -/
theorem steps_acquires (pd : BitVec 32) (env : QueueEnv) (cls : QueueClass) :
  List.Forall₂ Acquires (cls.steps pd env) acquired
  := by
  cases cls with
  | cq attrs =>
      apply acquireSteps_acquires
      · intro l s
        apply Cq.copyUar_leaves
      · apply (Cq.create_createsObj attrs env).acquires
  | rq kind attr =>
      apply acquireSteps_acquires
      · intro l s
        apply Prep.copyUar_leaves
      · apply (BasicRq.create_createsObj kind attr pd env).acquires
  | ppSq attr pacing =>
      apply acquireSteps_acquires
      · intro l s
        apply Prep.copyUar_leaves
      · apply (PpSq.paceStep_createsObj attr pd env pacing).acquires

end QueueClass

/-! ### The creations of the adapter -/

theorem runSteps_acquireSteps (env : QueueEnv) (bytes sz dbBytes : Nat)
    (copyUar : Prep → Result Prep) (create : CreationStep) (s : Prep) :
  runSteps (acquireSteps env bytes sz dbBytes ++ [fun s => some (copyUar s), create]) s
    = ((s.obtainUar env).andThen fun s => (s.allocateBuf env bytes sz).andThen fun s =>
        (s.regBuf env sz).andThen fun s => (s.allocateDbRec env dbBytes).andThen fun s =>
          s.regDbRec env).thenSteps fun s => (copyUar s).thenSteps create
  := by
  simp only [acquireSteps, List.cons_append, List.nil_append, runSteps_cons, runSteps_singleton,
    andThen_thenSteps]

namespace Adapter

/-- `prepare_basic_rq` takes the steps of a receive queue. -/
theorem prepareBasicRq_eq_runSteps (kind : RqKind) (attr : RqAttr) (pd : BitVec 32)
    (env : QueueEnv) (s : Prep) :
  prepareBasicRq kind attr pd env s = runSteps ((QueueClass.rq kind attr).steps pd env) s
  := by
  rw [QueueClass.steps, runSteps_acquireSteps]
  rfl

/-- `create_pp_sq` takes the steps of a send queue, and hands the queue over whatever comes of
them. -/
theorem createPpSq_eq_runSteps {ad : Adapter} {env : QueueEnv} {uarpool : UarCollection}
    (hmake : ad.makeUarpool env = some uarpool) (hobject : env.newQueue ≠ 0) (attr : SqAttr)
    (pacing : PpEnv) (out : Nat) :
  ad.createPpSq attr env pacing out
    = (runSteps ((QueueClass.ppSq attr pacing).steps ad.mPdId env)
        (.new ad.mDcmdCtx uarpool (PpSq.wqBufSzBytes attr))).map fun (ret, s) =>
          ⟨ret, { ad with mUarpool := some s.uarpool }, env.newQueue, s.log, some s.queue, false⟩
  := by
  have hinit (s : Prep) :
      (PpSq.init attr ad.mPdId env pacing (.new s)).map (fun (ret, s) => (ret, s.toPrep))
        = (s.copyUar env).thenSteps (PpSq.paceStep attr ad.mPdId env pacing) := by
    rw [PpSq.init, SqPrep.new]
    rcases s.copyUar env with ⟨ret, s'⟩
    cases ret <;> rfl
  have hsteps (s : Prep) : runSteps ((QueueClass.ppSq attr pacing).steps ad.mPdId env) s
      = (acquireSq attr env s).thenSteps fun s =>
        (PpSq.init attr ad.mPdId env pacing (.new s)).map fun (ret, s) => (ret, s.toPrep) := by
    rw [QueueClass.steps, runSteps_acquireSteps]
    simp only [hinit]
    rfl
  simp only [createPpSq, hmake, if_neg hobject, hsteps]
  split
  · rename_i s hacquire
    rw [hacquire, thenSteps_ok, Option.map_map]
    rfl
  · rename_i r hfail
    rw [Result.thenSteps]
    · rfl
    · apply hfail

theorem byHand_cq {s : Prep} {l : List Resource} (hs : s.Owns l) (attrs : CqAttr) :
  (QueueClass.cq attrs).byHand s.queue
    = [.dbRecUmem, .dbRec, .bufUmem, .buf].filter fun r => decide (r ∈ l)
  := by
  apply List.filter_congr
  intro r _
  apply hs.points

/-- The steps from where the queue has its buffer. -/
theorem createCqWithBuf_runSteps {ad : Adapter} {attrs : CqAttr} {env : QueueEnv} {outCq : Nat}
    {s : Prep} {r : Creation} (howns : s.Owns [.buf])
    (hr : ad.createCqWithBuf attrs env outCq s = some r) :
  ∃ ret s', ((s.regBuf env (Cq.cqBufSzBytes attrs).toNat).thenSteps fun s =>
      (s.allocateDbRec env 64).thenSteps fun s => (s.regDbRec env).thenSteps
        (Cq.init attrs env)) = some (ret, s')
    ∧ r = if ret = .ok then .publish ad env s'
      else .abandon ad env outCq ret ((QueueClass.cq attrs).byHand s'.queue) s'
  := by
  have hfail {ret : Status} {s : Prep} {l explicit : List Resource} (hs : s.Owns l)
      (hret : ret ≠ .ok)
      (hexplicit : explicit
        = [.dbRecUmem, .dbRec, .bufUmem, .buf].filter fun r => decide (r ∈ l)) :
      Creation.abandon ad env outCq ret explicit s = if ret = .ok then .publish ad env s
        else .abandon ad env outCq ret ((QueueClass.cq attrs).byHand s.queue) s := by
    rw [if_neg hret, byHand_cq hs, hexplicit]
  have howns := Prep.regBuf_leaves env (Cq.cqBufSzBytes attrs).toNat howns (by decide)
  simp only [createCqWithBuf] at hr
  split at hr
  · rename_i s₁ h₁
    rw [h₁] at howns
    rw [h₁, thenSteps_ok]
    have howns := Prep.allocateDbRec_leaves env 64 (howns.ok rfl)
    split at hr
    · rename_i s₂ h₂
      rw [h₂] at howns
      have howns := Prep.regDbRec_leaves env (howns.ok rfl) (by decide)
      rw [h₂, thenSteps_ok]
      split at hr
      · rename_i s₃ h₃
        rw [h₃] at howns
        rw [h₃, thenSteps_ok]
        split at hr
        · rename_i s₄ h₄
          cases hr
          exact ⟨.ok, s₄, h₄, rfl⟩
        · rename_i ret s₄ hret h₄
          cases hr
          obtain ⟨l', hl'⟩ := Cq.init_owns (howns.ok rfl) (by decide) h₄
          exact ⟨ret, s₄, h₄, hfail hl' hret (by simp)⟩
        · cases hr
      · rename_i ret s₃ hret h₃
        cases hr
        rw [h₃] at howns
        refine ⟨ret, s₃, ?_, hfail (howns.fail hret) hret rfl⟩
        rw [h₃]
        apply thenSteps_fail hret
    · rename_i ret s₂ hret h₂
      cases hr
      rw [h₂] at howns
      refine ⟨ret, s₂, ?_, hfail (howns.fail hret) hret rfl⟩
      rw [h₂]
      apply thenSteps_fail hret
  · rename_i ret s₁ hret h₁
    cases hr
    rw [h₁] at howns
    refine ⟨ret, s₁, ?_, hfail (howns.fail hret) hret rfl⟩
    rw [h₁]
    apply thenSteps_fail hret

/-- `create_cq` takes the steps of a completion queue, and publishes the queue if they succeed;
otherwise it releases by hand what there is of the memory, and deletes the queue. -/
theorem createCq_runSteps {ad : Adapter} {attrs : CqAttr} {env : QueueEnv} {outCq : Nat}
    {r : Creation} (hbuilds : ad.BuildsCq attrs env) (hr : ad.createCq attrs env outCq = some r) :
  ∃ uarpool ret s, ad.makeUarpool env = some uarpool
    ∧ runSteps ((QueueClass.cq attrs).steps ad.mPdId env)
      (.new ad.mDcmdCtx uarpool (Cq.cqBufSzBytes attrs)) = some (ret, s)
    ∧ r = if ret = .ok then .publish ad env s
      else .abandon ad env outCq ret ((QueueClass.cq attrs).byHand s.queue) s
  := by
  obtain ⟨⟨hsize, hsz⟩, heqNum, huarpool, hobject⟩ := hbuilds
  obtain ⟨uarpool, hmake, -⟩ := makeUarpool_eq huarpool
  have hinit : Cq.init attrs env
      = fun s => (Cq.copyUar attrs env s).thenSteps (Cq.create attrs env) := by
    funext s
    rw [Cq.init, Cq.copyUar]
    split <;> rfl
  have howns := Prep.obtainUar_owns env
    (Prep.owns_new ad.mDcmdCtx uarpool (Cq.cqBufSzBytes attrs))
  simp only [createCq, hsize, hsz, heqNum, hmake, hobject, Bool.not_true, Bool.false_eq_true,
    or_self, if_false] at hr
  use uarpool
  rw [QueueClass.steps, runSteps_acquireSteps, ← hinit]
  simp only [andThen_thenSteps, hmake, true_and]
  split at hr
  · rename_i s₁ h₁
    rw [h₁] at howns
    rw [h₁, thenSteps_ok]
    have howns := Prep.allocateBuf_leaves env (Cq.cqBufSzBytes attrs).toNat
      (Cq.cqBufSzBytes attrs).toNat howns
    split at hr
    · rename_i s₂ h₂
      rw [h₂] at howns
      rw [h₂, thenSteps_ok]
      apply createCqWithBuf_runSteps (howns.ok rfl) hr
    · rename_i ret s₂ hret h₂
      rw [h₂] at howns
      rw [h₂, thenSteps_fail hret]
      refine ⟨ret, s₂, rfl, ?_⟩
      rw [if_neg hret, byHand_cq (howns.fail hret)]
      apply (Option.some.inj hr).symm
  · rename_i ret s₁ hret h₁
    rw [h₁] at howns
    rw [h₁, thenSteps_fail hret]
    refine ⟨ret, s₁, rfl, ?_⟩
    rw [if_neg hret, byHand_cq howns]
    apply (Option.some.inj hr).symm

end Adapter

/-! ### Destruction -/

namespace Queue

/-- The queue is one whose creation was carried out to some point, or failed there; `byHand` was
then released by hand. -/
def Reached (q : Queue) (byHand : List Resource) : Prop :=
  ∃ (cls : QueueClass) (ctx : Bool) (uarpool : UarCollection) (pd : BitVec 32) (env : QueueEnv)
    (k : Nat) (ret : Status) (s : Prep),
    runSteps ((cls.steps pd env).take k) (.new ctx uarpool cls.bufSzBytes) = some (ret, s)
      ∧ s.queue = q ∧ byHand = if ret = .ok then [] else cls.byHand q

/-- What calls of `destroy` and then the destructors release; `outcomes` tells of each call, and
`destroys` of the destructors, whether the device destroys its object. -/
def teardown (q : Queue) : List Bool → Bool → List Resource
  | [], destroys => q.delete destroys
  | destroys' :: outcomes, destroys =>
      let (released, q) := q.destroy destroys'
      released ++ q.teardown outcomes destroys

/-- The memory the object of the device works on. -/
def memory : List Resource := [.buf, .bufUmem, .dbRec, .dbRecUmem]

/-- `released` lists what was released of the queue: no memory while the object of the device is
there, a umem before what it registers, and all memory once. -/
structure ReleasedSafely (q : Queue) (released : List Resource) : Prop where
  hw : q.base.live = true → ∀ r ∈ memory, Before .hw r released
  bufUmem : q.points .bufUmem = true → Before .bufUmem .buf released
  dbRecUmem : q.points .dbRecUmem = true → Before .dbRecUmem .dbRec released
  once : ∀ r ∈ memory, released.count r = if q.points r = true then 1 else 0

/-- The order in which `destroy` releases. -/
def releaseOrder : List Resource := [.hw, .uarT, .bufUmem, .dbRecUmem, .buf, .dbRec]

/-- `destroy` releases what the pointers point to, in that order, and the object of the device only
if the device does its part. -/
theorem destroy_fst (q : Queue) (destroys : Bool) :
  (q.destroy destroys).1
    = releaseOrder.filter fun r => q.points r && (decide (r ≠ .hw) || destroys)
  := by
  have hcons (p : Resource → Bool) (r : Resource) (l : List Resource) :
      (r :: l).filter p = (if p r = true then [r] else []) ++ l.filter p := by
    cases hr : p r <;> simp [hr]
  simp [destroy, releaseOrder, hcons, points]

/-- `destroy` leaves every pointer null, whatever the device answers. -/
theorem points_destroy (q : Queue) (destroys : Bool) (r : Resource) :
  (q.destroy destroys).2.points r = false
  := by
  cases r with
  | hw => apply Obj.live_destroy
  | _ => rfl

theorem destroy_of_null {q : Queue} (h : ∀ r, q.points r = false) (destroys : Bool) :
  (q.destroy destroys).1 = []
  := by
  rw [destroy_fst]
  apply List.filter_eq_nil_iff.mpr
  intro r _
  simp [h r]

theorem delete_eq_destroy (q : Queue) (destroys : Bool) :
  q.delete destroys = (q.destroy destroys).1
  := by
  have hlive : (q.destroy destroys).2.base.live = false := q.points_destroy destroys .hw
  simp [delete, hlive]

theorem teardown_cons (q : Queue) (destroys' : Bool) (outcomes : List Bool) (destroys : Bool) :
  q.teardown (destroys' :: outcomes) destroys
    = (q.destroy destroys').1 ++ (q.destroy destroys').2.teardown outcomes destroys
  := rfl

theorem teardown_of_null {q : Queue} (h : ∀ r, q.points r = false) (outcomes : List Bool)
    (destroys : Bool) :
  q.teardown outcomes destroys = []
  := by
  induction outcomes generalizing q with
  | nil =>
      rw [teardown, delete_eq_destroy]
      apply destroy_of_null h
  | cons destroys' outcomes ih =>
      rw [teardown_cons, destroy_of_null h, List.nil_append]
      apply ih
      apply points_destroy

/-- Only the first call releases anything. -/
theorem teardown_eq (q : Queue) (outcomes : List Bool) (destroys : Bool) :
  q.teardown outcomes destroys = (q.destroy (outcomes.headD destroys)).1
  := by
  cases outcomes with
  | nil => apply delete_eq_destroy
  | cons destroys' outcomes =>
      rw [teardown_cons, teardown_of_null (q.points_destroy destroys'), List.append_nil]
      rfl

/-- A queue has an object of the device only if it has everything else, and what was released by
hand is memory it still points to. -/
theorem Reached.owned {q : Queue} {byHand : List Resource} (h : q.Reached byHand) :
  (q.base.live = true → ∀ r, q.points r = true)
    ∧ ∀ r ∈ byHand, r ∈ memory ∧ q.points r = true
  := by
  obtain ⟨cls, ctx, uarpool, pd, env, k, ret, s, hrun, rfl, rfl⟩ := h
  constructor
  · intro hlive
    have hacquires := List.forall₂_take k (cls.steps_acquires pd env)
    have hinitial : (acquired.take k).flatten <+: [.buf, .bufUmem, .dbRec, .dbRecUmem, .uarT]
        ++ [.hw] := by
      use (acquired.drop k).flatten
      rw [← List.flatten_append, List.take_append_drop]
      rfl
    have hnodup : ([] ++ (acquired.take k).flatten).Nodup := by
      apply hinitial.sublist.nodup
      decide
    obtain ⟨l, hl, howns⟩ := runSteps_owns hacquires hnodup (Prep.owns_new _ _ _) hrun
    have hhw : .hw ∈ l := by
      simpa [points, hlive] using howns.points .hw
    rcases List.prefix_concat_iff.mp (hl.trans hinitial) with rfl | hshort
    · intro r
      rw [howns.points r]
      cases r <;> decide
    · apply absurd (hshort.mem hhw)
      decide
  · intro r hr
    split at hr
    · cases hr
    · cases cls with
      | cq attrs =>
          obtain ⟨hr, hpoints⟩ := List.mem_filter.mp hr
          refine ⟨?_, hpoints⟩
          revert hr
          cases r <;> decide
      | _ => cases hr

theorem count_destroy (q : Queue) (destroys : Bool) {r : Resource} (hr : r ∈ memory) :
  (q.destroy destroys).1.count r = if q.points r = true then 1 else 0
  := by
  have hne : r ≠ .hw := by
    rintro rfl
    revert hr
    decide
  rw [← delete_eq_destroy, count_delete]
  simp [hne]

/-- The memory is released in good order if the device destroys the object, or there is none. -/
theorem releasedSafely_destroy {q : Queue} {destroys : Bool}
    (h : q.base.live = true → destroys = true) :
  q.ReleasedSafely (q.destroy destroys).1
  := by
  constructor
  · intro hlive r hr
    rw [destroy_fst]
    apply Before.filter
    · revert hr
      cases r <;> decide
    · simp [points, hlive, h hlive]
  · intro hpoints
    rw [destroy_fst]
    apply Before.filter (by decide)
    simp [hpoints]
  · intro hpoints
    rw [destroy_fst]
    apply Before.filter (by decide)
    simp [hpoints]
  · intro r hr
    apply q.count_destroy destroys hr

/-- For a queue in any state that a creation reaches, and any number of calls of `destroy` before
the destructors, the memory is released safely exactly when nothing of it was released by hand,
and the device, if it has an object, destroys it when it is first asked to. -/
theorem releasedSafely_iff {q : Queue} {byHand : List Resource} (h : q.Reached byHand)
    (outcomes : List Bool) (destroys : Bool) :
  q.ReleasedSafely (byHand ++ q.teardown outcomes destroys)
    ↔ byHand = [] ∧ (q.base.live = true → outcomes.headD destroys = true)
  := by
  obtain ⟨hall, hbyHand⟩ := h.owned
  rw [teardown_eq]
  generalize outcomes.headD destroys = first
  constructor
  · intro hsafe
    have hnil : byHand = [] := by
      apply List.eq_nil_iff_forall_not_mem.mpr
      intro r hr
      obtain ⟨hmem, hpoints⟩ := hbyHand r hr
      have honce := hsafe.once r hmem
      rw [List.count_append, q.count_destroy _ hmem, if_pos hpoints] at honce
      have hpos := List.count_pos_iff.mpr hr
      omega
    refine ⟨hnil, ?_⟩
    intro hlive
    by_contra hdestroys
    rw [hnil, List.nil_append, destroy_fst] at hsafe
    have hbuf : .buf ∈ releaseOrder.filter fun r =>
        q.points r && (decide (r ≠ .hw) || first) := by
      apply List.mem_filter.mpr ⟨by decide, _⟩
      simp [hall hlive .buf]
    -- the buffer is released, so the object of the device should have been destroyed
    have hhw := (hsafe.hw hlive .buf (by decide)).mem hbuf
    obtain ⟨-, hhw⟩ := List.mem_filter.mp hhw
    simp [hdestroys] at hhw
  · rintro ⟨rfl, hdestroys⟩
    rw [List.nil_append]
    apply releasedSafely_destroy hdestroys

/-- A completion queue that is destroyed by hand, and then by its destructor. -/
theorem releasedSafely_createCq :
  ∃ r q, Adapter.fresh.createCq Adapter.sixteenEntries .generous 0 = some r ∧ r.queue = some q
    ∧ q.Reached [] ∧ q.base.live = true ∧ q.ReleasedSafely (q.teardown [true] false)
  := by
  have hreached (q : Queue) (s : Prep)
      (hs : runSteps (((QueueClass.cq Adapter.sixteenEntries).steps 1 .generous).take 7)
        (.new true .new (Cq.cqBufSzBytes Adapter.sixteenEntries)) = some (.ok, s))
      (hq : s.queue = q) : q.Reached [] :=
    ⟨.cq Adapter.sixteenEntries, true, .new, 1, .generous, 7, .ok, s, hs, hq, rfl⟩
  refine ⟨_, _, rfl, rfl, hreached _ _ rfl rfl, rfl, ?_⟩
  apply (releasedSafely_iff (hreached _ _ rfl rfl) [true] false).mpr
  exact ⟨rfl, fun _ => rfl⟩

/-- The device refuses to destroy the completion queue; its memory is released all the same. -/
theorem not_releasedSafely_createCq :
  ∃ r q, Adapter.fresh.createCq Adapter.sixteenEntries .generous 0 = some r ∧ r.queue = some q
    ∧ q.base.live = true
    ∧ q.teardown [] false = [.uarT, .bufUmem, .dbRecUmem, .buf, .dbRec]
    ∧ ¬ q.ReleasedSafely (q.teardown [] false)
  := by
  refine ⟨_, _, rfl, rfl, rfl, rfl, ?_⟩
  intro hsafe
  apply absurd (hsafe.hw rfl .buf (by decide))
  decide

end Queue

end Dpcp
