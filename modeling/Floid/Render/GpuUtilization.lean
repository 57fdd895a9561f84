import Floid.Osk.Types
import Floid.Lib.ScaledRatio
import Floid.Lib.Transition
import Mathlib.Data.Nat.Size

namespace Floid.Render

open Osk Lib
open BitVec (eq_of_toNat_eq le_def lt_def toNat_udiv toNat_ushiftRight)

abbrev U64 := BitVec 64

structure GpuUtilization where
  numRunningCores : Int
  periodStartTime : U64
  workStartTime : U64
  accumulatedWorkTime : U64
  timerRunning : Bool

def maliOskClz (input : U32) : Nat := 32 - input.toNat.size

def normalizedUtilization (accumulatedWorkTime timePeriod : U64) : Option U32 :=
  let shiftVal := 32 - maliOskClz ((timePeriod >>> 32).setWidth 32)
  let workNormalized : U32 := (accumulatedWorkTime >>> shiftVal).setWidth 32
  let periodNormalized : U32 := (timePeriod >>> shiftVal).setWidth 32
  let (work, period) :=
    if 0x00ffffff#32 < periodNormalized then (workNormalized, periodNormalized >>> 8)
    else (workNormalized <<< 8, periodNormalized)
  if period = 0 then none else some (work / period)

namespace GpuUtilization

def calculate (timeNow : U64) (data : GpuUtilization) : Option (U32 × GpuUtilization) :=
  if data.accumulatedWorkTime = 0 ∧ data.workStartTime = 0 then
    some (0, { data with timerRunning := false })
  else
    let busy :=
      if data.workStartTime ≠ 0 then
        { data with
          accumulatedWorkTime := data.accumulatedWorkTime + (timeNow - data.workStartTime)
          workStartTime := timeNow }
      else data
    (normalizedUtilization busy.accumulatedWorkTime (timeNow - data.periodStartTime)).map
      fun utilization =>
        (utilization, { busy with accumulatedWorkTime := 0, periodStartTime := timeNow })

def suspend (data : GpuUtilization) : GpuUtilization := { data with timerRunning := false }

def coreStart (timeNow : U64) (data : GpuUtilization) : GpuUtilization :=
  let data := { data with numRunningCores := data.numRunningCores + 1 }
  if data.numRunningCores = 1 then
    if data.timerRunning then { data with workStartTime := timeNow }
    else { data with workStartTime := timeNow, timerRunning := true, periodStartTime := timeNow }
  else data

def coreEnd (timeNow : U64) (data : GpuUtilization) : GpuUtilization :=
  let data := { data with numRunningCores := data.numRunningCores - 1 }
  if data.numRunningCores = 0 then
    { data with
      accumulatedWorkTime := data.accumulatedWorkTime + (timeNow - data.workStartTime)
      workStartTime := 0 }
  else data

end GpuUtilization

structure UtilizationReport where
  value : U32
  busy : Nat
  length : Nat

structure UtilizationReport.Precise (report : UtilizationReport) : Prop where
  atMost : report.value.toNat ≤ 256
  short : report.length < 2 ^ 24 → report.value.toNat = 256 * report.busy / report.length
  long : 2 ^ 24 ≤ report.length →
    256 * (report.value.toNat * report.length) ≤ 65536 * report.busy + report.length ∧
      256 * report.busy < (report.value.toNat + 1) * report.length

/-- The driver beside a meter that knows the time of the last event and how long cores have been
running since the start of the period, with all reports, and whether there was a division by zero. -/
structure MeteredGpu where
  data : GpuUtilization
  now : U64
  busy : Nat
  reports : List UtilizationReport
  trapped : Bool

namespace MeteredGpu

def advance (time : U64) (gpu : MeteredGpu) : MeteredGpu :=
  { gpu with
    now := time
    busy := gpu.busy + if 0 < gpu.data.numRunningCores then time.toNat - gpu.now.toNat else 0 }

def report (gpu : MeteredGpu) (value : U32) : UtilizationReport :=
  ⟨value, gpu.busy, gpu.now.toNat - gpu.data.periodStartTime.toNat⟩

end MeteredGpu

inductive GpuEvent where
  | coreStart (time : U64)
  | coreEnd (time : U64)
  | suspend
  | expiry (time : U64)

inductive GpuStep : MeteredGpu → GpuEvent → MeteredGpu → Prop where
  | coreStart {gpu time} (later : gpu.now ≤ time) :
      GpuStep gpu (.coreStart time)
        { gpu.advance time with
          data := gpu.data.coreStart time
          busy :=
            if gpu.data.numRunningCores = 0 ∧ gpu.data.timerRunning = false then 0
            else (gpu.advance time).busy }
  | coreEnd {gpu time} (later : gpu.now ≤ time) :
      GpuStep gpu (.coreEnd time) { gpu.advance time with data := gpu.data.coreEnd time }
  | suspend {gpu} : GpuStep gpu .suspend { gpu with data := gpu.data.suspend }
  | idle {gpu time data} (later : gpu.now ≤ time) (armed : gpu.data.timerRunning = true)
      (ran : gpu.data.calculate time = some (0, data)) (stopped : data.timerRunning = false) :
      GpuStep gpu (.expiry time)
        { gpu.advance time with data, reports := (gpu.advance time).report 0 :: gpu.reports }
  | reported {gpu time value data} (later : gpu.now ≤ time) (armed : gpu.data.timerRunning = true)
      (ran : gpu.data.calculate time = some (value, data)) (goesOn : data.timerRunning = true) :
      GpuStep gpu (.expiry time)
        { gpu.advance time with data, busy := 0, reports := (gpu.advance time).report value :: gpu.reports }
  | trapped {gpu time} (later : gpu.now ≤ time) (armed : gpu.data.timerRunning = true)
      (ran : gpu.data.calculate time = none) :
      GpuStep gpu (.expiry time) { gpu.advance time with trapped := true }

def gpuSystem : TransitionSystem MeteredGpu GpuEvent where
  initial gpu := ∃ now, gpu = ⟨⟨0, 0, 0, 0, false⟩, now, 0, [], false⟩
  step := GpuStep

structure MeteredGpu.Sane (gpu : MeteredGpu) : Prop where
  noTrap : gpu.trapped = false
  accumulated : gpu.data.accumulatedWorkTime.toNat ≤ gpu.now.toNat - gpu.data.periodStartTime.toNat
  reports : ∀ report ∈ gpu.reports, report.Precise

/-- A core that starts a period finds no time accumulated; a period with work in it does not expire
at the time it started; and no work that is under way has started at time zero, unless it is still
that time. -/
def MeteredGpu.Regular (gpu : MeteredGpu) : GpuEvent → Prop
  | .coreStart _ => gpu.data.numRunningCores = 0 → gpu.data.timerRunning = false →
      gpu.data.accumulatedWorkTime = 0
  | .expiry time =>
      (gpu.data.accumulatedWorkTime ≠ 0 ∨ gpu.data.workStartTime ≠ 0 → gpu.data.periodStartTime ≠ time) ∧
      (0 < gpu.data.numRunningCores → gpu.data.workStartTime = 0 → time = 0)
  | _ => True

theorem shiftVal_spec (timePeriod : U64) :
    ∃ shift, 32 - maliOskClz ((timePeriod >>> 32).setWidth 32) = shift ∧ timePeriod.toNat / 2 ^ shift < 2 ^ 32 ∧
      (timePeriod.toNat / 2 ^ shift < 2 ^ 24 → shift = 0) := by
  have high : ((timePeriod >>> 32).setWidth 32).toNat = timePeriod.toNat / 2 ^ 32 := by
    rw [BitVec.toNat_setWidth, toNat_ushiftRight, Nat.shiftRight_eq_div_pow]
    omega
  have small : (timePeriod.toNat / 2 ^ 32).size ≤ 32 := Nat.size_le.mpr (by omega)
  refine ⟨(timePeriod.toNat / 2 ^ 32).size, ?_, ?_, ?_⟩
  · rw [maliOskClz, high]
    omega
  · have whole := Nat.lt_size_self (timePeriod.toNat / 2 ^ 32)
    rw [Nat.div_lt_iff_lt_mul (Nat.two_pow_pos _)] at whole ⊢
    rwa [Nat.mul_comm]
  · intro short
    by_contra shifted
    have kept : 2 ^ ((timePeriod.toNat / 2 ^ 32).size - 1) ≤ timePeriod.toNat / 2 ^ 32 :=
      Nat.lt_size.mp (Nat.sub_one_lt shifted)
    rw [Nat.div_lt_iff_lt_mul (Nat.two_pow_pos _)] at short
    have split : 2 ^ (timePeriod.toNat / 2 ^ 32).size = 2 * 2 ^ ((timePeriod.toNat / 2 ^ 32).size - 1) := by
      rw [← Nat.pow_succ', Nat.succ_eq_add_one, Nat.sub_add_cancel (Nat.pos_of_ne_zero shifted)]
    omega

theorem normalizedUtilization_spec {accumulatedWorkTime timePeriod : U64}
    (within : accumulatedWorkTime ≤ timePeriod) (positive : 0 < timePeriod.toNat) :
    ∃ value, normalizedUtilization accumulatedWorkTime timePeriod = some value ∧
      UtilizationReport.Precise ⟨value, accumulatedWorkTime.toNat, timePeriod.toNat⟩ := by
  obtain ⟨shift, isShift, small, unshifted⟩ := shiftVal_spec timePeriod
  rw [le_def] at within
  have normalized {time : U64} (below : time.toNat ≤ timePeriod.toNat) :
      ((time >>> shift).setWidth 32 : U32).toNat = time.toNat / 2 ^ shift := by
    rw [BitVec.toNat_setWidth, toNat_ushiftRight, Nat.shiftRight_eq_div_pow]
    exact Nat.mod_eq_of_lt (Nat.lt_of_le_of_lt (Nat.div_le_div_right below) small)
  have work := normalized within
  have period := normalized (Nat.le_refl timePeriod.toNat)
  rw [normalizedUtilization, isShift]
  dsimp only
  by_cases large : 0x00ffffff#32 < (timePeriod >>> shift).setWidth 32
  · rw [if_pos large]
    dsimp only
    rw [lt_def, period] at large
    have kept : 2 ^ 16 ≤ timePeriod.toNat / 2 ^ (shift + 8) := by
      rw [Nat.pow_add, ← Nat.div_div_eq_div_mul]
      change 0xffffff < _ at large
      omega
    have divisor : ((timePeriod >>> shift).setWidth 32 >>> 8 : U32).toNat =
        timePeriod.toNat / 2 ^ (shift + 8) := by
      rw [toNat_ushiftRight, period, Nat.shiftRight_eq_div_pow, Nat.pow_add, Nat.div_div_eq_div_mul]
    have long : 2 ^ 24 ≤ timePeriod.toNat :=
      Nat.le_trans large (Nat.div_le_self _ _)
    have value : ((accumulatedWorkTime >>> shift).setWidth 32 /
        ((timePeriod >>> shift).setWidth 32 >>> 8) : U32).toNat =
          scaledRatio 8 shift accumulatedWorkTime.toNat timePeriod.toNat := by
      rw [toNat_udiv, work, divisor, scaledRatio]
    refine ⟨_, if_neg fun zero => ?_, ?_, fun short => absurd long (Nat.not_le.mpr short), fun _ => ?_⟩
    · rw [zero] at divisor
      change 0 = _ at divisor
      omega
    · rw [value]
      exact scaledRatio_le within (Nat.le_trans (by decide) kept)
    · dsimp only
      rw [value]
      have above := scaledRatio_mul_le within (by decide) kept
      exact ⟨by omega, lt_scaledRatio_succ (Nat.lt_of_lt_of_le (by decide) kept)⟩
  · rw [if_neg large]
    dsimp only
    rw [lt_def, period, Nat.not_lt] at large
    change _ ≤ 0xffffff at large
    obtain rfl := unshifted (by omega)
    rw [Nat.pow_zero, Nat.div_one] at work period large
    have value : ((accumulatedWorkTime >>> 0).setWidth 32 <<< 8 /
        (timePeriod >>> 0).setWidth 32 : U32).toNat = 256 * accumulatedWorkTime.toNat / timePeriod.toNat := by
      rw [toNat_udiv, BitVec.toNat_shiftLeft, work, period, Nat.shiftLeft_eq,
        Nat.mod_eq_of_lt (by omega), Nat.mul_comm]
    refine ⟨_, if_neg fun zero => ?_, ?_, fun _ => value, fun long => absurd long (by
      dsimp only
      omega)⟩
    · rw [zero] at period
      change 0 = _ at period
      omega
    · rw [value]
      refine Nat.div_le_of_le_mul ?_
      rw [Nat.mul_comm]
      exact Nat.mul_le_mul_right 256 within

structure MeteredGpu.Tracked (gpu : MeteredGpu) : Prop where
  started : gpu.data.periodStartTime.toNat ≤ gpu.now.toNat
  within : gpu.busy ≤ gpu.now.toNat - gpu.data.periodStartTime.toNat
  running : 0 < gpu.data.numRunningCores →
    gpu.data.periodStartTime.toNat ≤ gpu.data.workStartTime.toNat ∧
      gpu.data.workStartTime.toNat ≤ gpu.now.toNat ∧
      gpu.busy = gpu.data.accumulatedWorkTime.toNat + (gpu.now.toNat - gpu.data.workStartTime.toNat)
  resting : gpu.data.numRunningCores ≤ 0 →
    gpu.data.workStartTime = 0 ∧ gpu.busy = gpu.data.accumulatedWorkTime.toNat

namespace MeteredGpu.Tracked

variable {gpu : MeteredGpu} {time : U64}

theorem advance (tracked : gpu.Tracked) (later : gpu.now ≤ time) : (gpu.advance time).Tracked := by
  rw [le_def] at later
  have started := tracked.started
  have within := tracked.within
  rcases Int.lt_or_le 0 gpu.data.numRunningCores with runs | rests
  · obtain ⟨periodFirst, workFirst, busy⟩ := tracked.running runs
    refine ⟨Nat.le_trans started later, ?_, fun _ => ⟨periodFirst, Nat.le_trans workFirst later, ?_⟩,
      fun rests => absurd runs (Int.not_lt.mpr rests)⟩ <;>
    · dsimp only [MeteredGpu.advance]
      rw [if_pos runs]
      omega
  · refine ⟨Nat.le_trans started later, ?_, fun runs => absurd runs (Int.not_lt.mpr rests), fun _ => ?_⟩
    · dsimp only [MeteredGpu.advance]
      rw [if_neg (Int.not_lt.mpr rests)]
      omega
    · dsimp only [MeteredGpu.advance]
      rw [if_neg (Int.not_lt.mpr rests)]
      exact tracked.resting rests

theorem accumulated_le (tracked : gpu.Tracked) : gpu.data.accumulatedWorkTime.toNat ≤
    gpu.now.toNat - gpu.data.periodStartTime.toNat := by
  refine Nat.le_trans ?_ tracked.within
  rcases Int.lt_or_le 0 gpu.data.numRunningCores with runs | rests
  · rw [(tracked.running runs).2.2]
    exact Nat.le_add_right _ _
  · exact Nat.le_of_eq (tracked.resting rests).2.symm

theorem coreStart (tracked : gpu.Tracked)
    (fresh : gpu.data.numRunningCores = 0 → gpu.data.timerRunning = false → gpu.data.accumulatedWorkTime = 0) :
    MeteredGpu.Tracked { gpu with
      data := gpu.data.coreStart gpu.now
      busy :=
        if gpu.data.numRunningCores = 0 ∧ gpu.data.timerRunning = false then 0 else gpu.busy } := by
  rw [GpuUtilization.coreStart]
  by_cases first : gpu.data.numRunningCores = 0
  · obtain ⟨_, busy⟩ := tracked.resting (Int.le_of_eq first)
    rw [first]
    dsimp only
    rw [if_pos (Int.zero_add 1)]
    cases timer : gpu.data.timerRunning with
    | true =>
      rw [if_pos rfl, if_neg (by simp)]
      refine ⟨tracked.started, tracked.within, fun _ => ⟨tracked.started, Nat.le_refl _, ?_⟩,
        fun rests => absurd rests (show ¬(0 + 1 : Int) ≤ 0 by decide)⟩
      rw [Nat.sub_self]
      exact busy
    | false =>
      rw [if_neg Bool.false_ne_true, if_pos ⟨rfl, rfl⟩]
      refine ⟨Nat.le_refl _, Nat.zero_le _, fun _ => ⟨Nat.le_refl _, Nat.le_refl _, ?_⟩,
        fun rests => absurd rests (show ¬(0 + 1 : Int) ≤ 0 by decide)⟩
      dsimp only
      rw [fresh first timer, Nat.sub_self]
      rfl
  · dsimp only
    rw [if_neg (by omega), if_neg fun both => first both.1]
    exact ⟨tracked.started, tracked.within, fun runs => tracked.running (by dsimp only at runs; omega),
      fun rests => tracked.resting (by dsimp only at rests; omega)⟩

theorem busy_toNat (tracked : gpu.Tracked) (runs : 0 < gpu.data.numRunningCores) :
    (gpu.data.accumulatedWorkTime + (gpu.now - gpu.data.workStartTime)).toNat = gpu.busy := by
  obtain ⟨_, workFirst, busy⟩ := tracked.running runs
  have within := tracked.within
  rw [BitVec.toNat_add, BitVec.toNat_sub_of_le workFirst, ← busy]
  exact Nat.mod_eq_of_lt (by omega)

theorem coreEnd (tracked : gpu.Tracked) : MeteredGpu.Tracked { gpu with data := gpu.data.coreEnd gpu.now } := by
  rw [GpuUtilization.coreEnd]
  by_cases last : gpu.data.numRunningCores - 1 = 0
  · rw [if_pos last]
    refine ⟨tracked.started, tracked.within, fun runs => ?_, fun _ => ⟨rfl, ?_⟩⟩
    · dsimp only at runs
      omega
    · exact (tracked.busy_toNat (by omega)).symm
  · rw [if_neg last]
    exact ⟨tracked.started, tracked.within, fun runs => tracked.running (by dsimp only at runs; omega),
      fun rests => tracked.resting (by dsimp only at rests; omega)⟩

theorem idle (tracked : gpu.Tracked) (noWork : gpu.data.accumulatedWorkTime = 0 ∧ gpu.data.workStartTime = 0)
    (notZero : 0 < gpu.data.numRunningCores → gpu.data.workStartTime = 0 → gpu.now = 0) :
    (gpu.report 0).Precise := by
  obtain ⟨accumulated, workStart⟩ := noWork
  have none : gpu.busy = 0 := by
    rcases Int.lt_or_le 0 gpu.data.numRunningCores with runs | rests
    · rw [(tracked.running runs).2.2, accumulated, notZero runs workStart, workStart]
      rfl
    · rw [(tracked.resting rests).2, accumulated]
      rfl
  rw [MeteredGpu.report, none]
  refine ⟨Nat.zero_le _, fun _ => ?_, fun long => ?_⟩
  · dsimp only
    rw [Nat.mul_zero, Nat.zero_div]
    rfl
  · dsimp only at long ⊢
    rw [show (0 : U32).toNat = 0 from rfl]
    omega

theorem accumulated_now (tracked : gpu.Tracked)
    (notZero : 0 < gpu.data.numRunningCores → gpu.data.workStartTime = 0 → gpu.now = 0) :
    (if gpu.data.workStartTime ≠ 0 then
        gpu.data.accumulatedWorkTime + (gpu.now - gpu.data.workStartTime)
      else gpu.data.accumulatedWorkTime).toNat = gpu.busy := by
  rcases Int.lt_or_le 0 gpu.data.numRunningCores with runs | rests
  · by_cases workStart : gpu.data.workStartTime = 0
    · rw [if_neg (not_not.mpr workStart), (tracked.running runs).2.2, notZero runs workStart]
      exact (Nat.zero_sub _ ▸ Nat.add_zero _).symm
    · rw [if_pos workStart]
      exact tracked.busy_toNat runs
  · obtain ⟨workStart, busy⟩ := tracked.resting rests
    rw [if_neg (not_not.mpr workStart)]
    exact busy.symm

theorem calculate (tracked : gpu.Tracked) (work : ¬(gpu.data.accumulatedWorkTime = 0 ∧ gpu.data.workStartTime = 0))
    (later : gpu.data.periodStartTime ≠ gpu.now)
    (notZero : 0 < gpu.data.numRunningCores → gpu.data.workStartTime = 0 → gpu.now = 0) :
    ∃ value data, gpu.data.calculate gpu.now = some (value, data) ∧
      data.timerRunning = gpu.data.timerRunning ∧ (gpu.report value).Precise ∧
      MeteredGpu.Tracked { gpu with data, busy := 0 } := by
  have accumulated := tracked.accumulated_now notZero
  have period : (gpu.now - gpu.data.periodStartTime).toNat =
      gpu.now.toNat - gpu.data.periodStartTime.toNat := BitVec.toNat_sub_of_le tracked.started
  have positive : gpu.data.periodStartTime.toNat < gpu.now.toNat :=
    Nat.lt_of_le_of_ne tracked.started fun same => later (eq_of_toNat_eq same)
  obtain ⟨value, reported, precise⟩ := @normalizedUtilization_spec _
    (gpu.now - gpu.data.periodStartTime)
    (by rw [le_def, accumulated, period]; exact tracked.within) (by omega)
  rw [accumulated, period] at precise
  rw [GpuUtilization.calculate, if_neg work]
  by_cases workStart : gpu.data.workStartTime = 0
  · rw [if_neg (not_not.mpr workStart)] at reported ⊢
    dsimp only
    rw [reported]
    refine ⟨value, _, rfl, rfl, precise, Nat.le_refl _, Nat.zero_le _, fun runs => ?_, fun rests => ⟨workStart, rfl⟩⟩
    rw [notZero runs workStart] at positive
    exact absurd positive (Nat.not_lt_zero _)
  · rw [if_pos workStart] at reported ⊢
    dsimp only
    rw [reported]
    refine ⟨value, _, rfl, rfl, precise, Nat.le_refl _, Nat.zero_le _,
      fun _ => ⟨Nat.le_refl _, Nat.le_refl _, (Nat.sub_self _).symm ▸ rfl⟩, fun rests => ?_⟩
    exact absurd (tracked.resting rests).1 workStart

end MeteredGpu.Tracked

theorem MeteredGpu.Tracked.step {gpu after : MeteredGpu} {event : GpuEvent} (tracked : gpu.Tracked)
    (sane : gpu.Sane) (regular : gpu.Regular event) (stepped : GpuStep gpu event after) :
    after.Tracked ∧ after.Sane := by
  cases stepped with
  | coreStart later =>
    have kept := (tracked.advance later).coreStart regular
    exact ⟨kept, sane.noTrap, kept.accumulated_le, sane.reports⟩
  | coreEnd later =>
    have kept := (tracked.advance later).coreEnd
    exact ⟨kept, sane.noTrap, kept.accumulated_le, sane.reports⟩
  | suspend => exact ⟨{ tracked with },
      sane.noTrap, sane.accumulated, sane.reports⟩
  | @idle time data later armed ran stopped =>
    have here := tracked.advance later
    by_cases work : gpu.data.accumulatedWorkTime = 0 ∧ gpu.data.workStartTime = 0
    · rw [GpuUtilization.calculate, if_pos work] at ran
      cases ran
      refine ⟨{ here with }, sane.noTrap, here.accumulated_le, ?_⟩
      rw [List.forall_mem_cons]
      exact ⟨here.idle work regular.2, sane.reports⟩
    · obtain ⟨_, _, reported, timer, _⟩ := here.calculate work
        (regular.1 (not_and_or.mp work)) regular.2
      cases ran.symm.trans reported
      exact absurd (timer.trans armed) (by rw [stopped]; decide)
  | @reported time value data later armed ran goesOn =>
    have here := tracked.advance later
    by_cases work : gpu.data.accumulatedWorkTime = 0 ∧ gpu.data.workStartTime = 0
    · rw [GpuUtilization.calculate, if_pos work] at ran
      cases ran
      cases goesOn
    · obtain ⟨_, _, reported, _, precise, kept⟩ := here.calculate work
        (regular.1 (not_and_or.mp work)) regular.2
      cases ran.symm.trans reported
      refine ⟨{ kept with }, sane.noTrap, kept.accumulated_le, ?_⟩
      rw [List.forall_mem_cons]
      exact ⟨precise, sane.reports⟩
  | @trapped time later armed ran =>
    by_cases work : gpu.data.accumulatedWorkTime = 0 ∧ gpu.data.workStartTime = 0
    · rw [GpuUtilization.calculate, if_pos work] at ran
      cases ran
    · obtain ⟨_, _, reported, _⟩ := (tracked.advance later).calculate work
        (regular.1 (not_and_or.mp work)) regular.2
      cases ran.symm.trans reported

theorem tracked_of_reachable {gpu : MeteredGpu}
    (reached : (gpuSystem.restrict MeteredGpu.Regular).Reachable gpu) : gpu.Tracked ∧ gpu.Sane := by
  refine @TransitionSystem.Reachable.invariant _ _ _ (fun gpu => gpu.Tracked ∧ gpu.Sane) _ reached ?_
    fun _ _ _ holds stepped => holds.1.step holds.2 stepped.1 stepped.2
  rintro _ ⟨now, rfl⟩
  refine ⟨⟨Nat.zero_le _, Nat.zero_le _, fun runs => absurd runs (Int.lt_irrefl 0),
    fun _ => ⟨rfl, rfl⟩⟩, rfl, Nat.zero_le _, fun _ none => absurd none List.not_mem_nil⟩

def loadedAt (now : U64) : MeteredGpu := ⟨⟨0, 0, 0, 0, false⟩, now, 0, [], false⟩

end Floid.Render
