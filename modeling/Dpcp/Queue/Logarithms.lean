import Dpcp.Adapter.Factories

/-!
# The logarithms that the queues take

`ilog2` shifts 1 to the left as long as the result is less than its argument.  From `2 ^ 30 + 1` on
it comes to a shift by 31, which an `int` does not have.  `cq::init` checks the size of the queue
before `cq::create` takes its logarithm; the receive queues and the send queue take the logarithms
of their attributes, cast to `int`, unchecked.
-/

namespace Dpcp

open Bits Dcmd Prm

/-! ### Where there is a logarithm -/

/-- The loop takes `fuel` steps at most. -/
theorem ilog2Loop_lt {n e : Int} {fuel k : Nat} (h : ilog2Loop n fuel k = some e) :
  e < k + fuel
  := by
  induction fuel generalizing k with
  | zero => cases h
  | succ fuel ih =>
      rw [ilog2Loop] at h
      split at h
      · have hrest := ih h
        omega
      · cases h
        omega

theorem ilog2_isSome_iff (n : Int) :
  (ilog2 n).isSome = true ↔ n ≤ 2 ^ 30
  := by
  constructor
  · intro h
    obtain ⟨e, he⟩ := Option.isSome_iff_exists.mp h
    by_cases hn : 0 < n
    · obtain ⟨l, rfl, hle, -⟩ := ilog2_spec hn he
      rw [ilog2, if_neg (not_le.mpr hn)] at he
      have hlt := ilog2Loop_lt he
      have hpow : (2 : Int) ^ l ≤ 2 ^ 30 := by
        exact_mod_cast Nat.pow_le_pow_right (by decide) (by omega : l ≤ 30)
      omega
    · omega
  · apply ilog2_isSome

/-- A positive number has its logarithm, rounded up, exactly up to `2 ^ 30`. -/
theorem ilog2_least_iff {n : Int} (hn : 0 < n) :
  (∃ e : Nat, ilog2 n = some (e : Int) ∧ n ≤ 2 ^ e ∧ ∀ j < e, (2 : Int) ^ j < n) ↔ n ≤ 2 ^ 30
  := by
  rw [← ilog2_isSome_iff]
  constructor
  · rintro ⟨e, he, -⟩
    rw [he]
    rfl
  · intro h
    obtain ⟨e, he⟩ := Option.isSome_iff_exists.mp h
    obtain ⟨l, rfl, hspec⟩ := ilog2_spec hn he
    exact ⟨l, he, hspec⟩

/-- The logarithms from 9 to 16. -/
theorem ilog2_strides_iff {n e : Int} (h : ilog2 n = some e) :
  ¬ (e < StridingRq.mlx5MinSingleWqeLogNumStrides ∨ StridingRq.mlx5MaxSingleWqeLogNumStrides < e)
    ↔ 2 ^ 8 < n ∧ n ≤ 2 ^ 16
  := by
  rw [StridingRq.mlx5MinSingleWqeLogNumStrides, StridingRq.mlx5MaxSingleWqeLogNumStrides]
  by_cases hn : 0 < n
  · obtain ⟨l, rfl, hle, hlt⟩ := ilog2_spec hn h
    constructor
    · intro hrange
      have hpow : (2 : Int) ^ l ≤ 2 ^ 16 := by
        exact_mod_cast Nat.pow_le_pow_right (by decide) (by omega : l ≤ 16)
      exact ⟨hlt 8 (by omega), by omega⟩
    · rintro ⟨hlow, hhigh⟩ hrange
      rcases hrange with hsmall | hlarge
      · have hpow : (2 : Int) ^ l ≤ 2 ^ 8 := by
          exact_mod_cast Nat.pow_le_pow_right (by decide) (by omega : l ≤ 8)
        omega
      · have hpow := hlt 16 (by omega)
        omega
  · rw [ilog2, if_pos (not_lt.mp hn)] at h
    cases h
    omega

/-! ### The queues -/

/-- What takes a logarithm has a result if there is one and the rest has a result. -/
theorem ilog2_bind_isSome_iff {β : Type} {n : Int} {f : Int → Option β} {P : Prop}
    (h : ∀ e, ilog2 n = some e → ((f e).isSome = true ↔ P)) :
  (ilog2 n >>= f).isSome = true ↔ n ≤ 2 ^ 30 ∧ P
  := by
  rw [← ilog2_isSome_iff]
  cases hlog : ilog2 n with
  | none => simp
  | some e => simpa using h e hlog

namespace BasicRq

/-- The attributes that `create` takes the logarithms of fit; the size of a stride is looked at only
if the number of strides passes. -/
def LogsFit (attr : RqAttr) : RqKind → Prop
  | .striding =>
      let num := castInt (attr.bufStrideNum.setWidth 64)
      castInt attr.wqeSz ≤ 2 ^ 30 ∧ castInt attr.wqeNum ≤ 2 ^ 30 ∧ num ≤ 2 ^ 30
        ∧ (2 ^ 8 < num ∧ num ≤ 2 ^ 16 → castInt attr.bufStrideSz ≤ 2 ^ 30)
  | .regular =>
      castInt ((getWqStrideSz attr).setWidth 64) ≤ 2 ^ 30 ∧ castInt attr.wqeNum ≤ 2 ^ 30

theorem create_isSome_iff (kind : RqKind) (attr : RqAttr) (pd : BitVec 32) (env : QueueEnv)
    (s : Prep) :
  (create kind attr pd env s).isSome = true ↔ (pd ≠ 0 → LogsFit attr kind)
  := by
  by_cases hpd : pd = 0
  · cases kind <;> simp [create, StridingRq.create, RegularRq.create, hpd]
  · simp only [hpd, ne_eq, not_false_eq_true, forall_const]
    cases kind with
    | striding =>
        rw [create, StridingRq.create, if_neg hpd]
        apply ilog2_bind_isSome_iff
        intro logWqStride _
        apply ilog2_bind_isSome_iff
        intro logWqeNum _
        apply ilog2_bind_isSome_iff
        intro logNumOfStrides hlog
        have hstrides := ilog2_strides_iff hlog
        split
        · rename_i hrange
          apply iff_of_true rfl
          intro hnum
          cases hstrides.mpr hnum hrange
        · rename_i hrange
          simp only [hstrides.mp hrange, and_self, forall_const]
          rw [ilog2_bind_isSome_iff (P := True), and_true]
          intro logNumOfBytes _
          split <;> simp
    | regular =>
        rw [create, RegularRq.create, if_neg hpd, LogsFit]
        apply ilog2_bind_isSome_iff
        intro logWqStride _
        rw [ilog2_bind_isSome_iff (P := True), and_true]
        intro logWqeNum _
        simp

end BasicRq

namespace PpSq

/-- The attributes that `create` takes the logarithms of fit. -/
def LogsFit (attr : SqAttr) : Prop :=
  castInt (attr.wqeSz.setWidth 64) ≤ 2 ^ 30 ∧ castInt (attr.wqeNum.setWidth 64) ≤ 2 ^ 30

theorem sentMailbox_isSome_iff (attr : SqAttr) (pd ppIdx : BitVec 32) (q : Queue) (uar : UarT) :
  (sentMailbox attr pd ppIdx q uar).isSome = true ↔ LogsFit attr
  := by
  rw [sentMailbox, LogsFit]
  apply ilog2_bind_isSome_iff
  intro logWqStride _
  rw [ilog2_bind_isSome_iff (P := True), and_true]
  intro logWqeNum _
  simp

theorem create_isSome_iff (attr : SqAttr) (pd : BitVec 32) (env : QueueEnv) (s : SqPrep) :
  (create attr pd env s).isSome = true ↔ (pd ≠ 0 → LogsFit attr)
  := by
  by_cases hpd : pd = 0
  · simp [create, hpd]
  · simp only [hpd, ne_eq, not_false_eq_true, forall_const]
    rw [create, if_neg hpd, ← sentMailbox_isSome_iff attr pd s.mPpIdx s.queue s.uarP]
    cases sentMailbox attr pd s.mPpIdx s.queue s.uarP <;> rfl

theorem init_isSome_iff (attr : SqAttr) (pd : BitVec 32) (env : QueueEnv) (pacing : PpEnv)
    (s : SqPrep) :
  (init attr pd env pacing s).isSome = true
    ↔ ((s.toPrep.copyUar env).1 = .ok → GetsPacing attr pacing → pd ≠ 0 → LogsFit attr)
  := by
  rw [init, ← makePp_ok_iff]
  rcases s.toPrep.copyUar env with ⟨ret, p⟩
  cases ret with
  | ok =>
      simp only [forall_const, pace]
      cases makePp attr pacing with
      | error ret => simp
      | ok pp => cases pp <;> simp [create_isSome_iff]
  | _ => simp

end PpSq

namespace Adapter

/-- A receive queue gets all that it needs before `create` is called. -/
def ReachesRq (ad : Adapter) (attr : RqAttr) (env : QueueEnv) : Prop :=
  env.newQueue ≠ 0 ∧ ∃ uarpool s, ad.makeUarpool env = some uarpool
    ∧ acquireRq attr env (.new ad.mDcmdCtx uarpool (BasicRq.wqBufSzBytes attr)) = (.ok, s)
    ∧ (s.copyUar env).1 = .ok ∧ ad.mPdId ≠ 0

/-- A send queue gets all that it needs before `create` is called. -/
def ReachesSq (ad : Adapter) (attr : SqAttr) (env : QueueEnv) (pacing : PpEnv) : Prop :=
  env.newQueue ≠ 0 ∧ ∃ uarpool s, ad.makeUarpool env = some uarpool
    ∧ acquireSq attr env (.new ad.mDcmdCtx uarpool (PpSq.wqBufSzBytes attr)) = (.ok, s)
    ∧ (s.copyUar env).1 = .ok ∧ PpSq.GetsPacing attr pacing ∧ ad.mPdId ≠ 0

theorem prepareBasicRq_isSome_iff (kind : RqKind) (attr : RqAttr) (pd : BitVec 32)
    (env : QueueEnv) (s : Prep) :
  (prepareBasicRq kind attr pd env s).isSome = true
    ↔ ∀ s', acquireRq attr env s = (.ok, s') → (s'.copyUar env).1 = .ok → pd ≠ 0 →
      BasicRq.LogsFit attr kind
  := by
  rw [prepareBasicRq]
  rcases acquireRq attr env s with ⟨ret, s₁⟩
  cases ret with
  | ok =>
      simp only [BasicRq.init, Prod.mk.injEq, true_and, forall_eq']
      rcases s₁.copyUar env with ⟨ret, s₂⟩
      cases ret with
      | ok => simp [BasicRq.create_isSome_iff]
      | _ => simp
  | _ => simp

theorem createBasicRq_isSome_iff (kind : RqKind) (ad : Adapter) (attr : RqAttr) (env : QueueEnv)
    (out : Nat) :
  (createBasicRq kind ad attr env out).isSome = true
    ↔ (ad.ReachesRq attr env → BasicRq.LogsFit attr kind)
  := by
  rw [createBasicRq, ReachesRq]
  cases hmake : ad.makeUarpool env with
  | none => simp
  | some uarpool =>
      by_cases hnew : env.newQueue = 0
      · simp [hnew]
      · have hprepare := prepareBasicRq_isSome_iff kind attr ad.mPdId env
          (.new ad.mDcmdCtx uarpool (BasicRq.wqBufSzBytes attr))
        simp only [hnew, if_false, ne_eq, not_false_eq_true, true_and, Option.some.injEq,
          exists_and_left, exists_eq_left', forall_exists_index, and_imp]
        rw [← hprepare]
        rcases prepareBasicRq kind attr ad.mPdId env
          (.new ad.mDcmdCtx uarpool (BasicRq.wqBufSzBytes attr)) with _ | ⟨ret, s⟩
        · rfl
        · cases ret <;> rfl

theorem createPpSq_isSome_iff (ad : Adapter) (attr : SqAttr) (env : QueueEnv) (pacing : PpEnv)
    (out : Nat) :
  (ad.createPpSq attr env pacing out).isSome = true
    ↔ (ad.ReachesSq attr env pacing → PpSq.LogsFit attr)
  := by
  rw [createPpSq, ReachesSq]
  cases hmake : ad.makeUarpool env with
  | none => simp
  | some uarpool =>
      by_cases hnew : env.newQueue = 0
      · simp [hnew]
      · simp only [hnew, if_false, ne_eq, not_false_eq_true, true_and, Option.some.injEq,
          exists_and_left, exists_eq_left', forall_exists_index, and_imp]
        rcases acquireSq attr env (.new ad.mDcmdCtx uarpool (PpSq.wqBufSzBytes attr))
          with ⟨ret, s⟩
        cases ret with
        | ok => simp [PpSq.init_isSome_iff, SqPrep.new]
        | _ => simp

theorem createIbqRq_isSome_iff (ad : Adapter) (attr : RqAttr) (protocol mkey : BitVec 32)
    (device : Device) (newObj dRq : Nat) :
  (ad.createIbqRq attr protocol mkey device newObj dRq).isSome = true
    ↔ (newObj ≠ 0 → castInt (attr.bufStrideNum.setWidth 64) ≤ 2 ^ 30)
  := by
  by_cases hnew : newObj = 0
  · simp [createIbqRq, hnew]
  · simp only [hnew, ne_eq, not_false_eq_true, forall_const]
    rw [createIbqRq, if_neg hnew, Option.isSome_map, IbqRq.init,
      ilog2_bind_isSome_iff (P := True), and_true]
    intro logBuffStrideNum _
    split
    · simp
    · dsimp only
      split <;> simp

/-- `ilog2` ends, with the least logarithm, exactly up to `2 ^ 30`.  The creation of a completion
queue always ends; that of another queue ends exactly if the attributes of which it comes to take
the logarithms are at most `2 ^ 30` as an `int`. -/
theorem logarithms_end_iff (n : Int) (ad : Adapter) (env : QueueEnv) (out : Nat) :
  (0 < n → n < 2 ^ 31 →
      ((∃ e : Nat, ilog2 n = some (e : Int) ∧ n ≤ 2 ^ e ∧ ∀ j < e, (2 : Int) ^ j < n)
        ↔ n ≤ 2 ^ 30))
    ∧ (∀ attrs, (ad.createCq attrs env out).isSome = true)
    ∧ (∀ kind attr, (createBasicRq kind ad attr env out).isSome = true
      ↔ (ad.ReachesRq attr env → BasicRq.LogsFit attr kind))
    ∧ (∀ attr protocol mkey newObj,
      (ad.createIbqRq attr protocol mkey env.device newObj out).isSome = true
        ↔ (newObj ≠ 0 → castInt (attr.bufStrideNum.setWidth 64) ≤ 2 ^ 30))
    ∧ ∀ attr pacing, (ad.createPpSq attr env pacing out).isSome = true
      ↔ (ad.ReachesSq attr env pacing → PpSq.LogsFit attr)
  := by
  refine ⟨fun hn _ => ilog2_least_iff hn, ?_, ?_, ?_, ?_⟩
  · intro attrs
    apply createCq_isSome
  · intro kind attr
    apply createBasicRq_isSome_iff
  · intro attr protocol mkey newObj
    apply createIbqRq_isSome_iff
  · intro attr pacing
    apply createPpSq_isSome_iff

/-- A striding RQ of 4 WQEs of 512 strides of `strideSz` bytes. -/
def withStrides (strideSz : BitVec 64) : RqAttr := ⟨strideSz, 512, 0, 0, 4, 2, 0, 0⟩

/-- There is no logarithm of `2 ^ 30 + 1`, and the creation of a queue with strides of that size
does not end; with strides of `2 ^ 30` bytes it says that they are out of range. -/
theorem withStrides_no_end :
  ilog2 (2 ^ 30 + 1) = none
    ∧ fresh.createStridingRq (withStrides (2 ^ 30 + 1)) .generous 0 = none
    ∧ (fresh.createStridingRq (withStrides (2 ^ 30)) .generous 0).map Creation.status
      = some .errOutOfRange
  := by
  refine ⟨?_, ?_, ?_⟩
  · decide
  · rfl
  · rfl

end Adapter

end Dpcp
