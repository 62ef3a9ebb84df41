import Dpcp.Api
import Dpcp.Dcmd.Mlx5

/-!
# The clock of an adapter

The device keeps the time as a number of 64 bits: the seconds in the high word, and the nanoseconds
in the low word.  `adapter::get_real_time` reads it through the context of the device and turns it
into nanoseconds.

The sum is taken in signed 64-bit numbers; a step that leaves their range has no value.
-/

namespace Dpcp

open Bits Dcmd

/-- `HCA_CORE_CLOCK_TO_REAL_TIME_CLOCK_OFFSET`. -/
def hcaCoreClockToRealTimeClockOffset : Nat := 64

/-- `initial_seg.real_time`. -/
def initialSegRealTime : Nat := 0x8200

/-- `class ctx` of `dcmd` as far as the clock goes, for the two platforms: the page of the core
clock, and the initial segment, which may not be mapped. -/
inductive ClockCtx where
  | linux (hcaCoreClock : Memory)
  | windows (mPvIseg : Option Memory)

/-- `ctx::get_real_time`. -/
def ClockCtx.getRealTime : ClockCtx → BitVec 64
  | .linux hcaCoreClock => bswap64 (load64 hcaCoreClock hcaCoreClockToRealTimeClockOffset)
  | .windows none => 0
  | .windows (some mPvIseg) => mlx5Get64 mPvIseg 0 initialSegRealTime

/-- The value of a signed 64-bit operation with the exact result `x`; a result out of range is
undefined. -/
def int64 (x : Int) : Option Int :=
  if -2 ^ 63 ≤ x ∧ x < 2 ^ 63 then some x else none

/-- `std::chrono::nanoseconds(s).count()` for the duration `s` in seconds. -/
def chronoNanoseconds (s : Int) : Option Int :=
  int64 (s * 1000000000)

/-- `adapter::get_real_time`; `realTime` is what the output parameter held. -/
def adapterGetRealTime (ctx : ClockCtx) (realTime : BitVec 64) : Option (Result (BitVec 64)) :=
  let rtc := ctx.getRealTime
  if rtc = 0 then
    some (.errNoContext, realTime)
  else do
    let nanoseconds := (rtc &&& (~~~ (0x3#32 <<< 30)).signExtend 64).setWidth 32
    let seconds := (rtc >>> 32).setWidth 32
    let count ← chronoNanoseconds seconds.toNat
    let sum ← int64 (nanoseconds.toNat + count)
    some (.ok, BitVec.ofInt 64 sum)

/-- What the time is as a number of nanoseconds. -/
def nanosecondsOf (rtc : BitVec 64) : Nat :=
  rtc.toNat / 2 ^ 32 * 10 ^ 9 + rtc.toNat % 2 ^ 30

/-! ### The parts of the clock -/

theorem toNat_nanoseconds (rtc : BitVec 64) :
  ((rtc &&& (~~~ (0x3#32 <<< 30)).signExtend 64).setWidth 32).toNat = rtc.toNat % 2 ^ 30
  := by
  have hmask : ((~~~ (0x3#32 <<< 30)).signExtend 64).toNat = 2 ^ 30 - 1 := by decide
  rw [BitVec.toNat_setWidth, BitVec.toNat_and, hmask, Nat.and_two_pow_sub_one_eq_mod]
  omega

theorem toNat_seconds (rtc : BitVec 64) :
  ((rtc >>> 32).setWidth 32).toNat = rtc.toNat / 2 ^ 32
  := by
  have hlt := rtc.isLt
  rw [BitVec.toNat_setWidth, BitVec.toNat_ushiftRight, Nat.shiftRight_eq_div_pow]
  omega

theorem nanosecondsOf_lt (rtc : BitVec 64) :
  nanosecondsOf rtc < 2 ^ 63
  := by
  have hlt := rtc.isLt
  rw [nanosecondsOf]
  omega

theorem int64_natCast {n : Nat} (h : n < 2 ^ 63) :
  int64 n = some (n : Int)
  := by
  apply if_pos
  constructor
  · omega
  · exact_mod_cast h

theorem chronoNanoseconds_natCast {s : Nat} (h : s < 2 ^ 32) :
  chronoNanoseconds s = some ((s * 1000000000 : Nat) : Int)
  := int64_natCast (n := s * 1000000000) (by omega)

/-- Neither step of the sum leaves the range. -/
theorem adapterGetRealTime_eq {ctx : ClockCtx} (h : ctx.getRealTime ≠ 0) (realTime : BitVec 64) :
  adapterGetRealTime ctx realTime
    = some (.ok, BitVec.ofNat 64 (nanosecondsOf ctx.getRealTime))
  := by
  generalize hrtc : ctx.getRealTime = rtc at h
  have hlt := rtc.isLt
  have hseconds : rtc.toNat / 2 ^ 32 < 2 ^ 32 := by omega
  have hsum : rtc.toNat % 2 ^ 30 + rtc.toNat / 2 ^ 32 * 1000000000 = nanosecondsOf rtc := by
    rw [nanosecondsOf]
    omega
  simp only [adapterGetRealTime, hrtc, if_neg h, toNat_nanoseconds, toNat_seconds]
  rw [chronoNanoseconds_natCast hseconds, Option.bind_eq_bind, Option.bind_some,
    ← Int.natCast_add, hsum, int64_natCast (nanosecondsOf_lt rtc), Option.bind_some,
    BitVec.ofInt_natCast]

/-- A clock whose low word is less than a second has it in the low 30 bits. -/
theorem nanosecondsOf_strictMono {rtc rtc' : BitVec 64} (h : rtc.toNat % 2 ^ 32 < 10 ^ 9)
    (h' : rtc'.toNat % 2 ^ 32 < 10 ^ 9) (hlt : rtc.toNat < rtc'.toNat) :
  nanosecondsOf rtc < nanosecondsOf rtc'
  := by
  rw [nanosecondsOf, nanosecondsOf]
  omega

/-- There is a device with any clock. -/
theorem exists_clock (rtc : BitVec 64) :
  ∃ ctx : ClockCtx, ctx.getRealTime = rtc
  := by
  use .windows (some (mlx5Set64 zeros 0 ⟨initialSegRealTime, rfl⟩ rtc))
  rw [ClockCtx.getRealTime, mlx5Get64_eq, mlx5Set64_eq, devxGet64_devxSet64_self]

/-- Any clock but zero is returned as nanoseconds, without an overflow on the way, and a later one
as more nanoseconds if the low words are less than a second. -/
theorem real_time_of_clock (rtc : BitVec 64) (hrtc : rtc ≠ 0) :
  (∃ ctx : ClockCtx, ctx.getRealTime = rtc)
    ∧ ∀ ctx : ClockCtx, ctx.getRealTime = rtc → ∀ realTime, ∃ t,
      adapterGetRealTime ctx realTime = some (.ok, t)
        ∧ t.toNat = rtc.toNat / 2 ^ 32 * 10 ^ 9 + rtc.toNat % 2 ^ 30
        ∧ ∀ (ctx' : ClockCtx) (realTime' t' : BitVec 64),
          adapterGetRealTime ctx' realTime' = some (.ok, t') →
          rtc.toNat % 2 ^ 32 < 10 ^ 9 → ctx'.getRealTime.toNat % 2 ^ 32 < 10 ^ 9 →
          rtc < ctx'.getRealTime → t < t'
  := by
  have htoNat (rtc : BitVec 64) :
      (BitVec.ofNat 64 (nanosecondsOf rtc)).toNat = nanosecondsOf rtc := by
    have hlt := nanosecondsOf_lt rtc
    rw [BitVec.toNat_ofNat]
    omega
  refine ⟨exists_clock rtc, ?_⟩
  rintro ctx rfl realTime
  refine ⟨_, adapterGetRealTime_eq hrtc realTime, htoNat _, ?_⟩
  intro ctx' realTime' t' h hlow hlow' hlt
  have hrtc' : ctx'.getRealTime ≠ 0 := by
    intro hzero
    rw [hzero] at hlt
    cases BitVec.not_lt_zero hlt
  rw [adapterGetRealTime_eq hrtc'] at h
  cases h
  rw [BitVec.lt_def, htoNat, htoNat]
  apply nanosecondsOf_strictMono hlow hlow' (BitVec.lt_def.mp hlt)

/-- The first clock after zero at which seconds and nanoseconds are counted, and the next. -/
theorem real_time_of_second :
  (0x100000001#64) ≠ 0 ∧ ∀ ctx : ClockCtx, ctx.getRealTime = 0x100000001#64 →
    ∃ t, adapterGetRealTime ctx 0 = some (.ok, t) ∧ t.toNat = 1000000001
  := by
  have hrtc : (0x100000001#64) ≠ 0 := by decide
  refine ⟨hrtc, ?_⟩
  intro ctx hctx
  obtain ⟨-, hreal⟩ := real_time_of_clock 0x100000001#64 hrtc
  obtain ⟨t, ht, hval, -⟩ := hreal ctx hctx 0
  exact ⟨t, ht, hval.trans (by decide)⟩

end Dpcp
