import Mathlib.Data.BitVec
import Mathlib.Logic.Function.Basic
import Dpcp.Machine.Run

/-!
# The mkey counter

`direct_mkey::create`, `pattern_mkey::create` and `crypto_mkey::create` obtain the number they
put in `mkey_7_0` from the global counter `g_mkey_cnt` by the same loop:

    int mkey_cnt = g_mkey_cnt.load();
    while (!g_mkey_cnt.compare_exchange_strong(mkey_cnt, mkey_cnt + 1) &&
           (mkey_cnt < g_mkey_cnt))
        ;

Any number of threads run it at the same time.  The atomic steps are the first load, the
compare-exchange, which on failure refreshes `mkey_cnt`, and the second load, in the test
after a failed compare-exchange.  A schedule is the list of the threads that take the next
step.

The test ends the loop when the counter has not moved since the failed compare-exchange;
the creation then has a number without having taken it from the counter.
-/

namespace Dpcp

namespace MkeyCounter

/-- Where a thread is in the loop, with its local `mkey_cnt`. -/
inductive Pc where
  /-- Before the first load. -/
  | load
  /-- About to compare and exchange. -/
  | cas (mkeyCnt : BitVec 32)
  /-- After a failed compare-exchange, about to load the counter for the test. -/
  | test (mkeyCnt : BitVec 32)
deriving DecidableEq

/-- The counter, the threads, and the numbers obtained by the creations so far, the latest
first. -/
structure State (ι : Type) where
  gMkeyCnt : BitVec 32
  pc : ι → Pc
  obtained : List (BitVec 32)

variable {ι : Type} [DecidableEq ι]

/-- Moves thread `t`. -/
def State.goto (s : State ι) (t : ι) (pc : Pc) : State ι :=
  { s with pc := Function.update s.pc t pc }

/-- Thread `t` leaves the loop with the number `mkeyCnt`; its next creation starts over. -/
def State.leave (s : State ι) (t : ι) (mkeyCnt : BitVec 32) : State ι :=
  { s.goto t .load with obtained := mkeyCnt :: s.obtained }

/-- The exchange of thread `t` succeeds: it takes the number from the counter. -/
def State.exchange (s : State ι) (t : ι) : State ι :=
  { s.leave t s.gMkeyCnt with gMkeyCnt := s.gMkeyCnt + 1 }

/-- The next atomic step of thread `t`. -/
def step (s : State ι) (t : ι) : State ι :=
  match s.pc t with
  | .load => s.goto t (.cas s.gMkeyCnt)
  | .cas mkeyCnt =>
      if s.gMkeyCnt = mkeyCnt then
        s.exchange t
      else
        s.goto t (.test s.gMkeyCnt)
  | .test mkeyCnt =>
      if mkeyCnt.toInt < s.gMkeyCnt.toInt then
        s.goto t (.cas mkeyCnt)
      else
        s.leave t mkeyCnt

/-- No creation is under way and the counter is `cnt`; `init_mkeys` sets it to `0`. -/
def init (cnt : BitVec 32) : State ι where
  gMkeyCnt := cnt
  pc _ := .load
  obtained := []

/-- The numbers obtained by distinct creations are pairwise distinct, and the counter has
grown from `cnt` by the number of creations. -/
def Unique (cnt : BitVec 32) (s : State ι) : Prop :=
  s.obtained.Nodup ∧ s.gMkeyCnt.toInt - cnt.toInt = s.obtained.length

/-- The step of thread `t` is none of the two that spoil the count: an exchange that
overflows the counter, and a test that finds the counter no larger than the number the
failed compare-exchange left. -/
def Sound (s : State ι) (t : ι) : Prop :=
  match s.pc t with
  | .load => True
  | .cas mkeyCnt => s.gMkeyCnt = mkeyCnt → mkeyCnt ≠ BitVec.intMax 32
  | .test mkeyCnt => mkeyCnt.toInt < s.gMkeyCnt.toInt

/-! ### One step -/

/-- What a step can do, and when it is sound. -/
theorem step_cases (s : State ι) (t : ι) :
  (∃ pc, step s t = s.goto t pc ∧ Sound s t)
    ∨ (step s t = s.exchange t ∧ (Sound s t ↔ s.gMkeyCnt ≠ BitVec.intMax 32))
    ∨ (∃ mkeyCnt, step s t = s.leave t mkeyCnt ∧ ¬ Sound s t)
  := by
  cases hpc : s.pc t with
  | load =>
      left
      use .cas s.gMkeyCnt
      simp only [step, Sound, hpc, and_self]
  | cas mkeyCnt =>
      by_cases h : s.gMkeyCnt = mkeyCnt
      · right
        left
        simp [step, Sound, hpc, h]
      · left
        use .test s.gMkeyCnt
        simp [step, Sound, hpc, h]
  | test mkeyCnt =>
      by_cases h : mkeyCnt.toInt < s.gMkeyCnt.toInt
      · left
        use .cas mkeyCnt
        simp [step, Sound, hpc, h]
      · right
        right
        use mkeyCnt
        simp [step, Sound, hpc, h]

theorem toInt_add_one {x : BitVec 32} (hx : x ≠ BitVec.intMax 32) :
  (x + 1).toInt = x.toInt + 1
  := by
  have hne : x.toInt ≠ (BitVec.intMax 32).toInt := fun h => hx (BitVec.toInt_inj.mp h)
  have hmax : (BitVec.intMax 32).toInt = 2147483647 := by decide
  have hone : (1 : BitVec 32).toInt = 1 := by decide
  have hlo := BitVec.le_toInt x
  have hhi := BitVec.toInt_lt (x := x)
  rw [BitVec.toInt_add, hone]
  apply Int.bmod_eq_of_le
  · omega
  · omega

/-- How far the counter is behind the number of creations. -/
def lag (s : State ι) : Int :=
  s.obtained.length - s.gMkeyCnt.toInt

@[simp]
theorem lag_goto (s : State ι) (t : ι) (pc : Pc) :
  lag (s.goto t pc) = lag s
  := rfl

@[simp]
theorem lag_leave (s : State ι) (t : ι) (mkeyCnt : BitVec 32) :
  lag (s.leave t mkeyCnt) = lag s + 1
  := by
  simp only [lag, State.leave, State.goto, List.length_cons]
  omega

/-- An exchange that does not overflow keeps the lag. -/
theorem lag_exchange (s : State ι) (t : ι) (h : s.gMkeyCnt ≠ BitVec.intMax 32) :
  lag (s.exchange t) = lag s
  := by
  simp only [lag, State.exchange, State.leave, List.length_cons]
  rw [toInt_add_one h]
  omega

/-- An exchange that overflows throws the counter back. -/
theorem lag_lt_exchange (s : State ι) (t : ι) (h : s.gMkeyCnt = BitVec.intMax 32) :
  lag s < lag (s.exchange t)
  := by
  have hmax : (BitVec.intMax 32).toInt = 2147483647 := by decide
  have hwrap : (BitVec.intMax 32 + 1).toInt = -2147483648 := by decide
  simp only [lag, State.exchange, State.leave, List.length_cons]
  rw [h, hmax, hwrap]
  omega

/-- A step that is not sound makes the counter fall behind. -/
theorem lag_lt_step (s : State ι) (t : ι) (hsound : ¬ Sound s t) :
  lag s < lag (step s t)
  := by
  rcases step_cases s t with ⟨pc, -, h⟩ | ⟨hstep, h⟩ | ⟨mkeyCnt, hstep, -⟩
  · contradiction
  · rw [hstep]
    apply lag_lt_exchange
    by_contra hmax
    apply hsound (h.mpr hmax)
  · rw [hstep, lag_leave]
    omega

/-- No step makes the counter catch up. -/
theorem lag_le_step (s : State ι) (t : ι) :
  lag s ≤ lag (step s t)
  := by
  rcases step_cases s t with ⟨pc, hstep, -⟩ | ⟨hstep, -⟩ | ⟨mkeyCnt, hstep, -⟩
  · rw [hstep, lag_goto]
  · rw [hstep]
    by_cases hmax : s.gMkeyCnt = BitVec.intMax 32
    · apply Int.le_of_lt (lag_lt_exchange s t hmax)
    · rw [lag_exchange s t hmax]
  · rw [hstep, lag_leave]
    omega

/-- What holds along a run of sound steps from the counter `cnt`: besides uniqueness, every
number obtained lies below the counter. -/
structure Inv (cnt : BitVec 32) (s : State ι) : Prop where
  nodup : s.obtained.Nodup
  growth : s.gMkeyCnt.toInt - cnt.toInt = s.obtained.length
  below : ∀ n ∈ s.obtained, n.toInt < s.gMkeyCnt.toInt

omit [DecidableEq ι] in
theorem inv_init (cnt : BitVec 32) :
  Inv cnt (init cnt : State ι)
  := by
  constructor <;> simp [init]

/-- A successful exchange hands out a number no creation has. -/
theorem inv_exchange {cnt : BitVec 32} {s : State ι} (t : ι)
    (hmax : s.gMkeyCnt ≠ BitVec.intMax 32) (h : Inv cnt s) :
  Inv cnt (s.exchange t)
  := by
  have hnext : (s.exchange t).gMkeyCnt.toInt = s.gMkeyCnt.toInt + 1 := toInt_add_one hmax
  have hlist : (s.exchange t).obtained = s.gMkeyCnt :: s.obtained := rfl
  constructor
  · rw [hlist]
    apply List.nodup_cons.mpr
    constructor
    · intro hmem
      have := h.below _ hmem
      omega
    · apply h.nodup
  · have := h.growth
    rw [hnext, hlist, List.length_cons]
    omega
  · rw [hnext, hlist]
    intro n hn
    rcases List.mem_cons.mp hn with rfl | hmem
    · omega
    · have := h.below n hmem
      omega

/-- A sound step keeps the invariant. -/
theorem inv_step {cnt : BitVec 32} (s : State ι) (t : ι) (hsound : Sound s t) (h : Inv cnt s) :
  Inv cnt (step s t)
  := by
  rcases step_cases s t with ⟨pc, hstep, -⟩ | ⟨hstep, hmax⟩ | ⟨mkeyCnt, -, hnot⟩
  · rw [hstep]
    constructor
    · apply h.nodup
    · apply h.growth
    · apply h.below
  · rw [hstep]
    apply inv_exchange t (hmax.mp hsound) h
  · contradiction

/-! ### Every schedule -/

/-- For any number of threads, any start of the counter and any schedule, the numbers obtained
are pairwise distinct and the counter has grown by the number of creations exactly when every
step of the schedule is sound. -/
theorem unique_iff_along_sound (cnt : BitVec 32) (schedule : List ι) :
  Unique cnt (Machine.run step (init cnt) schedule)
    ↔ Machine.Along step Sound (init cnt) schedule
  := by
  constructor
  · rintro ⟨-, hgrowth⟩
    apply Machine.along_of_level lag_le_step lag_lt_step
    have hinit : lag (init cnt : State ι) = - cnt.toInt := by
      simp [lag, init]
    rw [hinit, lag]
    omega
  · intro h
    have hinv := Machine.inv_run_of_along inv_step h (inv_init cnt)
    apply And.intro hinv.nodup hinv.growth

/-- Thread `0` loads the counter, thread `1` loads and exchanges, the exchange of thread `0`
fails, its test finds the counter unmoved, and thread `1` starts another creation. -/
def lostRace : List (Fin 2) := [0, 1, 1, 0, 0, 1, 1]

/-- Three creations with the numbers `0`, `1` and `1`, and a counter grown by two. -/
theorem lostRace_not_unique :
  (Machine.run step (init 0) lostRace).obtained = [1, 1, 0]
    ∧ (Machine.run step (init 0) lostRace).gMkeyCnt = 2
    ∧ ¬ Unique 0 (Machine.run step (init 0) lostRace)
  := by
  have hobtained : (Machine.run step (init 0) lostRace).obtained = [1, 1, 0] := by decide
  constructor
  · apply hobtained
  · constructor
    · decide
    · rintro ⟨hnodup, -⟩
      rw [hobtained] at hnodup
      revert hnodup
      decide

end MkeyCounter

end Dpcp
