import Floid.Render.Confined
import Floid.Render.Runs

namespace Floid.Render

open Floid.Osk Floid.Lib Shelves Subsystem
open Set (empty_subset mem_insert univ)

/-- `num_running_cores` after the calls of `mali_utilization_core_start` and
`mali_utilization_core_end`, the last call first. -/
def numRunningCores : List UtilizationCall → Int
  | [] => 0
  | .coreStart _ :: earlier => numRunningCores earlier + 1
  | .coreEnd _ :: earlier => numRunningCores earlier - 1

def UtilizationCall.core : UtilizationCall → CoreId
  | .coreStart core => core
  | .coreEnd core => core

def started (core : CoreId) (calls : List UtilizationCall) : Int :=
  calls.count (.coreStart core) - calls.count (.coreEnd core)

def RenderUnit.executing (unit : RenderUnit) : Int := if unit.currentJob = none then 0 else 1

namespace Subsystem

def tally (core : CoreId) (sub : Subsystem) : Int :=
  started core sub.utilizationCalls - (sub.maliCoreArray core).executing

def executingCores (sub : Subsystem) : Finset CoreId :=
  (Finset.range sub.numberOfCores).filter fun core => (sub.maliCoreArray core).currentJob.isSome

end Subsystem

structure Fit (held : Set CoreId) (sub : Subsystem) : Prop where
  nodup : (sub.renderunits .idle).Nodup
  idle : ∀ core ∈ sub.renderunits .idle, core ∉ held ∧ (sub.maliCoreArray core).state = .idle ∧
    (sub.maliCoreArray core).currentJob = none ∧ (sub.maliCoreArray core).pendPowerDown = false
  busy : ∀ core < sub.numberOfCores, core ∉ held → (sub.maliCoreArray core).state ≠ .idle →
    (sub.maliCoreArray core).state ≠ .off → (sub.maliCoreArray core).currentJob ≠ none

structure Kept (held visited : Set CoreId) (sub after : Subsystem) : Prop where
  still : ∀ core ∈ held, (after.maliCoreArray core).settled = (sub.maliCoreArray core).settled
  off : ∀ core, (after.maliCoreArray core).state = .off → (sub.maliCoreArray core).state = .off ∨
    core ∈ visited ∧ (sub.maliCoreArray core).pendPowerDown = true
  pend : ∀ core, (after.maliCoreArray core).pendPowerDown = true → (sub.maliCoreArray core).pendPowerDown = true
  mmu : after.mmu = sub.mmu
  numberOfCores : after.numberOfCores = sub.numberOfCores

structure Tallied (held visited : Set CoreId) (sub after : Subsystem) : Prop
    extends Kept held visited sub after where
  fit : Fit held after
  tally : ∀ core, after.tally core = sub.tally core

def Tallies (held visited : Set CoreId) (sub after : Subsystem) : Prop :=
  Fit held sub → Tallied held visited sub after

variable {held visited : Set CoreId} {sub middle after : Subsystem} {core : CoreId} {job : Job}
  {schedule : Subsystem → Subsystem} {outside : Outside}

theorem Fit.congr (fit : Fit held sub) (idle : after.renderunits .idle = sub.renderunits .idle)
    (maliCoreArray : after.maliCoreArray = sub.maliCoreArray)
    (numberOfCores : after.numberOfCores = sub.numberOfCores) : Fit held after := by
  constructor
  · rw [idle]
    exact fit.nodup
  · rw [idle, maliCoreArray]
    exact fit.idle
  · rw [maliCoreArray, numberOfCores]
    exact fit.busy

namespace Kept

theorem mono {held' visited' : Set CoreId} (kept : Kept held' visited sub after)
    (fewer : held ⊆ held') (more : visited ⊆ visited') : Kept held visited' sub after where
  __ := kept
  still core isHeld := kept.still core (fewer isHeld)
  off core isOff := (kept.off core isOff).imp_right fun ⟨here, pends⟩ => ⟨more here, pends⟩

theorem trans (before : Kept held visited sub middle) (later : Kept held visited middle after) :
    Kept held visited sub after where
  still core isHeld := (later.still core isHeld).trans (before.still core isHeld)
  off core isOff := by
    rcases later.off core isOff with wasOff | ⟨here, pends⟩
    · exact before.off core wasOff
    · exact .inr ⟨here, before.pend core pends⟩
  pend core pends := before.pend core (later.pend core pends)
  mmu := later.mmu.trans before.mmu
  numberOfCores := later.numberOfCores.trans before.numberOfCores

theorem updateUnit (change : RenderUnit → RenderUnit)
    (settled : core ∈ held → ∀ unit, (change unit).settled = unit.settled)
    (sameState : ∀ unit, (change unit).state = unit.state)
    (samePend : ∀ unit, (change unit).pendPowerDown = unit.pendPowerDown) :
    Kept held visited sub (sub.updateUnit core change) := by
  constructor
  · intro other isHeld
    by_cases own : other = core
    · simp [Subsystem.updateUnit, own, settled (own ▸ isHeld)]
    · simp [Subsystem.updateUnit, own]
  · intro other isOff
    by_cases own : other = core
    · simp only [Subsystem.updateUnit, own, Function.update_self, sameState] at isOff
      exact .inl (own ▸ isOff)
    · exact .inl (by simpa [Subsystem.updateUnit, own] using isOff)
  · intro other pends
    by_cases own : other = core
    · simp only [Subsystem.updateUnit, own, Function.update_self, samePend] at pends
      exact own ▸ pends
    · simpa [Subsystem.updateUnit, own] using pends
  · rfl
  · rfl

theorem unit (kept : Kept held visited sub after) (isHeld : core ∈ held) :
    (after.maliCoreArray core).state = (sub.maliCoreArray core).state ∧
      (after.maliCoreArray core).currentJob = (sub.maliCoreArray core).currentJob ∧
      (after.maliCoreArray core).pendPowerDown = (sub.maliCoreArray core).pendPowerDown ∧
      (after.maliCoreArray core).inDetachFunction = (sub.maliCoreArray core).inDetachFunction := by
  have state := congrArg RenderUnit.state (kept.still core isHeld)
  have job := congrArg RenderUnit.currentJob (kept.still core isHeld)
  have pend := congrArg RenderUnit.pendPowerDown (kept.still core isHeld)
  have detaching := congrArg RenderUnit.inDetachFunction (kept.still core isHeld)
  exact ⟨state, job, pend, detaching⟩

end Kept

theorem Tallied.trans (before : Tallied held visited sub middle)
    (later : Tallied held visited middle after) : Tallied held visited sub after where
  toKept := before.toKept.trans later.toKept
  fit := later.fit
  tally core := (later.tally core).trans (before.tally core)

theorem Tallied.mono {visited' : Set CoreId} (tallied : Tallied held visited sub after)
    (more : visited ⊆ visited') : Tallied held visited' sub after :=
  { tallied with toKept := tallied.toKept.mono subset_rfl more }

namespace Tallies

theorem same (idle : after.renderunits .idle = sub.renderunits .idle)
    (maliCoreArray : after.maliCoreArray = sub.maliCoreArray) (mmu : after.mmu = sub.mmu)
    (numberOfCores : after.numberOfCores = sub.numberOfCores)
    (calls : after.utilizationCalls = sub.utilizationCalls) : Tallies held visited sub after := by
  intro fit
  constructor
  · constructor
    · intro core _
      rw [maliCoreArray]
    · intro core isOff
      exact .inl (maliCoreArray ▸ isOff)
    · intro core pends
      exact maliCoreArray ▸ pends
    · exact mmu
    · exact numberOfCores
  · exact fit.congr idle maliCoreArray numberOfCores
  · intro core
    rw [Subsystem.tally, Subsystem.tally, calls, maliCoreArray]

theorem refl : Tallies held visited sub sub := same rfl rfl rfl rfl rfl

theorem trans (first : Tallies held visited sub middle) (second : Tallies held visited middle after) :
    Tallies held visited sub after :=
  fun fit => (first fit).trans (second (first fit).fit)

theorem mono {visited' : Set CoreId} (tallies : Tallies held visited sub after)
    (more : visited ⊆ visited') : Tallies held visited' sub after :=
  fun fit => (tallies fit).mono more

theorem updateUnit (change : RenderUnit → RenderUnit)
    (settled : core ∈ held → ∀ unit, (change unit).settled = unit.settled)
    (sameJob : ∀ unit, (change unit).currentJob = unit.currentJob)
    (sameState : ∀ unit, (change unit).state = unit.state)
    (samePend : ∀ unit, (change unit).pendPowerDown = unit.pendPowerDown) :
    Tallies held visited sub (sub.updateUnit core change) := by
  have unit (other : CoreId) :
      ((sub.updateUnit core change).maliCoreArray other).currentJob = (sub.maliCoreArray other).currentJob ∧
        ((sub.updateUnit core change).maliCoreArray other).state = (sub.maliCoreArray other).state ∧
        ((sub.updateUnit core change).maliCoreArray other).pendPowerDown =
          (sub.maliCoreArray other).pendPowerDown := by
    by_cases own : other = core
    · simp [Subsystem.updateUnit, own, sameJob, sameState, samePend]
    · simp [Subsystem.updateUnit, own]
  intro fit
  constructor
  · exact Kept.updateUnit change settled sameState samePend
  · constructor
    · exact fit.nodup
    · intro other idles
      rw [(unit other).1, (unit other).2.1, (unit other).2.2]
      exact fit.idle other idles
    · intro other registered
      rw [(unit other).1, (unit other).2.1]
      exact fit.busy other registered
  · intro other
    rw [Subsystem.tally, Subsystem.tally, RenderUnit.executing, RenderUnit.executing, (unit other).1]
    rfl

theorem setErrorRecovery (core : CoreId) (errorRecovery : Bool) :
    Tallies held visited sub (sub.updateUnit core fun unit => { unit with errorRecovery }) :=
  updateUnit _ (fun _ _ => rfl) (fun _ => rfl) (fun _ => rfl) fun _ => rfl

theorem useJob (job : Job) : Tallies held visited sub (sub.useJob job) := by
  obtain ⟨misused, used⟩ := sub.useJob_with job
  rw [used]
  exact same rfl rfl rfl rfl rfl

theorem tell (message : PmmMessage) : Tallies held visited sub (sub.tell message) :=
  same rfl rfl rfl rfl rfl

theorem returnJobToUser (job : Job) (endStatus : JobEndCode) :
    Tallies held visited sub (sub.returnJobToUser job endStatus) := by
  obtain ⟨misused, used⟩ := sub.useJob_with job
  rw [Subsystem.returnJobToUser, used]
  exact same rfl rfl rfl rfl rfl

end Tallies

theorem tallies_releaseAddressSpaceReference
    (called : ∀ sub, Tallies held visited sub (schedule sub)) (outside : Outside) (sub : Subsystem) :
    Tallies held visited sub (releaseAddressSpaceReference schedule outside sub) :=
  releaseAddressSpaceReference_along .trans (fun _ => .same rfl rfl rfl rfl rfl) called sub

variable {list : CoreList}

theorem moved_self (sub : Subsystem) (core : CoreId) (change : RenderUnit → RenderUnit) (list : CoreList) :
    ((sub.updateUnit core change).moveUnit core list).maliCoreArray core =
      change (sub.maliCoreArray core) := by
  simp [moveUnit, Subsystem.updateUnit]

theorem moved_other {core other : CoreId} (different : other ≠ core) (change : RenderUnit → RenderUnit) :
    ((sub.updateUnit core change).moveUnit core list).maliCoreArray other = sub.maliCoreArray other := by
  simp [moveUnit, Subsystem.updateUnit, different]

theorem Fit.rest (fit : Fit (insert core held) sub) (free : core ∉ held)
    (noJob : (sub.maliCoreArray core).currentJob = none) (change : RenderUnit → RenderUnit)
    (still : ∀ unit, (change unit).currentJob = unit.currentJob)
    (rests : (change (sub.maliCoreArray core)).state = .idle ∧ list = .idle ∧
        (change (sub.maliCoreArray core)).pendPowerDown = false ∨
      (change (sub.maliCoreArray core)).state = .off ∧ list = .off) :
    Fit held ((sub.updateUnit core change).moveUnit core list) := by
  have away : core ∉ sub.renderunits .idle := fun idles =>
    (fit.idle core idles).1 (mem_insert core held)
  have others : ((sub.updateUnit core change).moveUnit core list).renderunits .idle =
      if list = .idle then core :: sub.renderunits .idle else sub.renderunits .idle := by
    have kept : (sub.renderunits .idle).erase core = sub.renderunits .idle := List.erase_of_not_mem away
    rcases rests with ⟨_, rfl, _⟩ | ⟨_, rfl⟩
    · simp [moveUnit, Subsystem.updateUnit, move, putFirst, take, kept]
    · simp [moveUnit, Subsystem.updateUnit, move, putFirst, take, kept]
  have old (other : CoreId) (idles : other ∈ sub.renderunits .idle) :
      other ≠ core ∧ other ∉ held ∧ (sub.maliCoreArray other).state = .idle ∧
        (sub.maliCoreArray other).currentJob = none ∧
        (sub.maliCoreArray other).pendPowerDown = false := by
    obtain ⟨notHeld, facts⟩ := fit.idle other idles
    rw [Set.mem_insert_iff, not_or] at notHeld
    exact ⟨notHeld.1, notHeld.2, facts⟩
  constructor
  · rw [others]
    split
    next => exact List.nodup_cons.mpr ⟨away, fit.nodup⟩
    next => exact fit.nodup
  · intro other idles
    rw [others] at idles
    by_cases same : other = core
    · subst same
      rcases rests with ⟨state, _, pend⟩ | ⟨_, rfl⟩
      · rw [moved_self, still]
        exact ⟨free, state, noJob, pend⟩
      · rw [if_neg (by simp)] at idles
        exact absurd idles away
    · have idles : other ∈ sub.renderunits .idle := by
        split at idles
        next => exact (List.mem_cons.mp idles).resolve_left same
        next => exact idles
      rw [moved_other same]
      exact (old other idles).2
  · intro other registered notHeld
    by_cases same : other = core
    · subst same
      rw [moved_self]
      rcases rests with ⟨state, _⟩ | ⟨state, _⟩
      · exact fun busy => absurd state busy
      · exact fun _ on => absurd state on
    · rw [moved_other same]
      exact fit.busy other registered (by simp [same, notHeld])

theorem Fit.rested (fit : Fit (insert core held) sub) (free : core ∉ held)
    (noJob : (sub.maliCoreArray core).currentJob = none) (change : RenderUnit → RenderUnit)
    (still : ∀ unit, (change unit).currentJob = unit.currentJob)
    (pend : ∀ unit, (change unit).pendPowerDown = true → unit.pendPowerDown = true)
    (rests : (change (sub.maliCoreArray core)).state = .idle ∧ list = .idle ∧
        (change (sub.maliCoreArray core)).pendPowerDown = false ∨
      (change (sub.maliCoreArray core)).state = .off ∧ list = .off ∧
        (sub.maliCoreArray core).pendPowerDown = true) :
    Tallied held {core} sub ((sub.updateUnit core change).moveUnit core list) := by
  constructor
  · constructor
    · intro other isHeld
      rw [moved_other fun same : other = core => free (same ▸ isHeld)]
    · intro other isOff
      by_cases same : other = core
      · subst same
        rw [moved_self] at isOff
        rcases rests with ⟨state, _⟩ | ⟨_, _, pends⟩
        · rw [state] at isOff
          contradiction
        · exact .inr ⟨rfl, pends⟩
      · exact .inl (moved_other same change ▸ isOff)
    · intro other pends
      by_cases same : other = core
      · subst same
        rw [moved_self] at pends
        exact pend _ pends
      · exact moved_other same change ▸ pends
    · rfl
    · rfl
  · exact fit.rest free noJob change still (rests.imp_right fun off => ⟨off.1, off.2.1⟩)
  · intro other
    have same : (((sub.updateUnit core change).moveUnit core list).maliCoreArray other).executing =
        (sub.maliCoreArray other).executing := by
      by_cases same : other = core
      · rw [same, moved_self, RenderUnit.executing, RenderUnit.executing, still]
      · rw [moved_other same]
    rw [Subsystem.tally, Subsystem.tally, same]
    rfl

theorem Fit.setIdleWithoutJob (fit : Fit (insert core held) sub) (free : core ∉ held)
    (noJob : (sub.maliCoreArray core).currentJob = none)
    (called : ∀ held sub, Tallies held ∅ sub (schedule sub)) (outside : Outside)
    (oldstatus : CoreStatus) :
    Tallied held {core} sub (setIdleWithoutJob schedule outside core oldstatus sub) := by
  have callsBack (held : Set CoreId) (sub : Subsystem) : Tallies held ∅ sub
      (if oldstatus ≠ .off then
        releaseAddressSpaceReference schedule outside (sub.tell (.jobFinished core))
      else sub) := by
    split
    next => exact (Tallies.tell _).trans (tallies_releaseAddressSpaceReference (called held) outside _)
    next => exact .refl
  by_cases pend : (sub.maliCoreArray core).pendPowerDown = true
  · -- the core is not on the idle list while the MMU calls back
    have called := callsBack (insert core held) sub fit
    obtain ⟨_, job, still, _⟩ := called.toKept.unit (mem_insert core held)
    rw [noJob] at job
    rw [pend] at still
    have rested := called.fit.rested free job
      (fun unit => { unit with state := .off, pendPowerDown := false }) (fun _ => rfl)
      (fun _ pends => nomatch pends) (.inr ⟨rfl, rfl, still⟩)
    have told : Tallied held {core} _ _ := Tallies.tell (.powerDownOkay core) rested.fit
    have finished := rested.trans told
    rw [Render.setIdleWithoutJob]
    simp only [pend, if_true]
    rw [if_pos still]
    have kept := called.toKept.mono (Set.subset_insert core held) (empty_subset {core})
    exact ⟨kept.trans finished.toKept, finished.fit, fun other =>
      (finished.tally other).trans (called.tally other)⟩
  · rw [Bool.not_eq_true] at pend
    have rested := fit.rested free noJob (fun unit => { unit with state := .idle }) (fun _ => rfl)
      (fun _ pends => pends) (.inl ⟨rfl, rfl, pend⟩)
    have called := callsBack held _ rested.fit
    have still : _ ≠ true := fun pends => by
      have before := rested.pend core (called.pend core pends)
      rw [pend] at before
      contradiction
    rw [Render.setIdleWithoutJob]
    simp only [pend, Bool.false_eq_true, if_false]
    rw [if_neg still]
    exact rested.trans (called.mono (empty_subset _))

theorem Fit.hold (fit : Fit held sub) (away : core ∉ sub.renderunits .idle) : Fit (insert core held) sub where
  nodup := fit.nodup
  idle other idles := by
    obtain ⟨notHeld, facts⟩ := fit.idle other idles
    have different : other ≠ core := fun same => away (same ▸ idles)
    exact ⟨by simp [different, notHeld], facts⟩
  busy other registered notHeld :=
    fit.busy other registered fun isHeld => notHeld (Set.mem_insert_of_mem core isHeld)

theorem Fit.updateUnit (fit : Fit (insert core held) sub) (change : RenderUnit → RenderUnit) :
    Fit (insert core held) (sub.updateUnit core change) := by
  have others (other : CoreId) (different : other ≠ core) :
      (sub.updateUnit core change).maliCoreArray other = sub.maliCoreArray other := by
    simp [Subsystem.updateUnit, different]
  constructor
  · exact fit.nodup
  · intro other idles
    obtain ⟨notHeld, facts⟩ := fit.idle other idles
    rw [others other fun same => notHeld (same ▸ mem_insert core held)]
    exact ⟨notHeld, facts⟩
  · intro other registered notHeld
    rw [others other fun same => notHeld (same ▸ mem_insert core held)]
    exact fit.busy other registered notHeld

theorem tally_updateUnit (change : RenderUnit → RenderUnit) (other : CoreId) :
    (sub.updateUnit core change).tally other = sub.tally other + if other = core then
      (sub.maliCoreArray core).executing - (change (sub.maliCoreArray core)).executing else 0 := by
  by_cases same : other = core
  · simp [Subsystem.tally, Subsystem.updateUnit, same]
  · simp [Subsystem.tally, Subsystem.updateUnit, same]

theorem Fit.moveCoreSetIdle (fit : Fit (insert core held) sub) (free : core ∉ held)
    (called : ∀ held sub, Tallies held ∅ sub (schedule sub)) (outside : Outside) :
    Kept held {core} sub (moveCoreSetIdle schedule outside core sub) ∧
      Fit held (Render.moveCoreSetIdle schedule outside core sub) ∧
      ∀ other, (Render.moveCoreSetIdle schedule outside core sub).tally other =
        sub.tally other + if other = core then (sub.maliCoreArray core).executing else 0 := by
  let drop (unit : RenderUnit) : RenderUnit :=
    { unit with timer := false, timerHangDetection := false, currentJob := none }
  have dropped : Kept held {core} sub (sub.updateUnit core drop) :=
    .updateUnit drop (fun isHeld => absurd isHeld free) (fun _ => rfl) fun _ => rfl
  have noJob : ((sub.updateUnit core drop).maliCoreArray core).currentJob = none := by
    simp [Subsystem.updateUnit, drop]
  have set := (fit.updateUnit drop).setIdleWithoutJob free noJob called outside
    (sub.maliCoreArray core).state
  refine ⟨dropped.trans set.toKept, set.fit, fun other => (set.tally other).trans ?_⟩
  rw [tally_updateUnit]
  simp [drop, RenderUnit.executing]

theorem Kept.same (maliCoreArray : after.maliCoreArray = sub.maliCoreArray) (mmu : after.mmu = sub.mmu)
    (numberOfCores : after.numberOfCores = sub.numberOfCores) : Kept held visited sub after where
  still core _ := by rw [maliCoreArray]
  off core isOff := .inl (maliCoreArray ▸ isOff)
  pend core pends := maliCoreArray ▸ pends
  mmu := mmu
  numberOfCores := numberOfCores

theorem Kept.utilization (call : UtilizationCall) : Kept held visited sub (sub.utilization call) :=
  .same rfl rfl rfl

theorem started_coreStart (core other : CoreId) (calls : List UtilizationCall) :
    started other (.coreStart core :: calls) = started other calls + if other = core then 1 else 0 := by
  by_cases same : other = core
  · simp [started, same]
    omega
  · simp [started, same, Ne.symm same]

theorem started_coreEnd (core other : CoreId) (calls : List UtilizationCall) :
    started other (.coreEnd core :: calls) = started other calls - if other = core then 1 else 0 := by
  by_cases same : other = core
  · simp [started, same]
    omega
  · simp [started, same, Ne.symm same]

theorem tally_coreStart (core other : CoreId) (sub : Subsystem) :
    (sub.utilization (.coreStart core)).tally other = sub.tally other + if other = core then 1 else 0 := by
  have call := started_coreStart core other sub.utilizationCalls
  simp only [Subsystem.tally, utilization, call]
  omega

theorem tally_coreEnd (core other : CoreId) (sub : Subsystem) :
    (sub.utilization (.coreEnd core)).tally other = sub.tally other - if other = core then 1 else 0 := by
  have call := started_coreEnd core other sub.utilizationCalls
  simp only [Subsystem.tally, utilization, call]
  omega

theorem Fit.moveSetWorking (fit : Fit held sub) (idles : core ∈ sub.renderunits .idle) (job : Job) :
    Kept held ∅ sub (moveSetWorking core job sub) ∧ Fit held (Render.moveSetWorking core job sub) ∧
      core ∉ (Render.moveSetWorking core job sub).renderunits .idle ∧
      ∀ other, (Render.moveSetWorking core job sub).tally other =
        sub.tally other - if other = core then 1 else 0 := by
  obtain ⟨misused, used⟩ := sub.useJob_with job
  obtain ⟨free, state, noJob, pend⟩ := fit.idle core idles
  rw [Render.moveSetWorking, used]
  have idle : ((Subsystem.updateUnit core (fun unit =>
      { unit with currentJob := some job, stalled := false, state := .working })
        { sub with misused }).moveUnit core (.working job.session)).renderunits .idle =
      (sub.renderunits .idle).erase core := by
    simp [moveUnit, Subsystem.updateUnit, move, putFirst, take]
  refine ⟨⟨?_, ?_, ?_, rfl, rfl⟩, ⟨?_, ?_, ?_⟩, ?_, ?_⟩
  · intro other isHeld
    rw [moved_other fun same : other = core => free (same ▸ isHeld)]
  · intro other isOff
    by_cases same : other = core
    · subst same
      rw [moved_self] at isOff
      contradiction
    · rw [moved_other same] at isOff
      exact .inl isOff
  · intro other pends
    by_cases same : other = core
    · subst same
      rwa [moved_self] at pends
    · rwa [moved_other same] at pends
  · rw [idle]
    exact fit.nodup.erase core
  · intro other member
    rw [idle] at member
    obtain ⟨different, before⟩ := fit.nodup.mem_erase_iff.mp member
    rw [moved_other different]
    exact fit.idle other before
  · intro other registered notHeld
    by_cases same : other = core
    · subst same
      rw [moved_self]
      simp
    · rw [moved_other same]
      exact fit.busy other registered notHeld
  · rw [idle]
    exact fit.nodup.not_mem_erase
  · intro other
    by_cases same : other = core
    · subst same
      rw [Subsystem.tally, Subsystem.tally, moved_self]
      change started other sub.utilizationCalls - _ = _
      simp [RenderUnit.executing, noJob]
    · rw [Subsystem.tally, Subsystem.tally, moved_other same, if_neg same, Int.sub_zero]
      rfl

theorem Fit.takeJobFromCore (fit : Fit held sub) (free : core ∉ held)
    (away : core ∉ sub.renderunits .idle) (visited : Set CoreId) :
    Kept held visited sub (takeJobFromCore core sub) ∧
      Fit (insert core held) (Render.takeJobFromCore core sub) ∧
      ∀ other, (Render.takeJobFromCore core sub).tally other =
        sub.tally other + if other = core then (sub.maliCoreArray core).executing else 0 := by
  have used : Tallied held visited sub (sub.useCurrentJob core) := by
    rw [useCurrentJob]
    split
    next job _ => exact Tallies.useJob job fit
    next => exact Tallies.refl fit
  have same : (sub.useCurrentJob core).renderunits = sub.renderunits := by
    rw [useCurrentJob]
    split
    next job _ =>
      obtain ⟨misused, used⟩ := sub.useJob_with job
      rw [used]
    next => rfl
  have held_ : Fit (insert core held) (sub.useCurrentJob core) := used.fit.hold (same ▸ away)
  refine ⟨used.toKept.trans ?_, held_.updateUnit _, fun other => ?_⟩
  · exact .updateUnit _ (fun isHeld => absurd isHeld free) (fun _ => rfl) fun _ => rfl
  · rw [Render.takeJobFromCore, tally_updateUnit, used.tally, useCurrentJob_maliCoreArray]
    simp [RenderUnit.executing]

theorem takeJobFromCore_unit (core : CoreId) (sub : Subsystem) :
    ((takeJobFromCore core sub).maliCoreArray core).state = (sub.maliCoreArray core).state ∧
      ((takeJobFromCore core sub).maliCoreArray core).currentJob = none ∧
      ((takeJobFromCore core sub).maliCoreArray core).inDetachFunction = true := by
  simp [takeJobFromCore, Subsystem.updateUnit, useCurrentJob_maliCoreArray]

section Scheduler

variable (accepts : ∀ job, outside.invalidates job = true → outside.starts job = true)

include accepts

theorem Fit.jobStartOnCore (fit : Fit held sub) (idles : core ∈ sub.renderunits .idle) (job : Job)
    (called : ∀ held sub, Tallies held ∅ sub (schedule sub)) :
    Tallied held ∅ sub (jobStartOnCore schedule outside job core sub) := by
  obtain ⟨kept, works, away, tally⟩ := fit.moveSetWorking idles job
  have free := (fit.idle core idles).1
  rw [Render.jobStartOnCore]
  split
  next invalidates =>
    dsimp only
    rw [if_pos (accepts job invalidates)]
    have counted : Fit held ((Render.moveSetWorking core job sub).utilization (.coreStart core)) :=
      works.congr rfl rfl rfl
    have timed (sub : Subsystem) : Tallies held ∅ sub
        (sub.updateUnit core fun unit => { unit with timer := true }) :=
      .updateUnit _ (fun isHeld => absurd isHeld free) (fun _ => rfl) (fun _ => rfl) fun _ => rfl
    have timer := timed _ counted
    refine ⟨kept.trans ((Kept.utilization (.coreStart core)).trans timer.toKept), timer.fit, fun other => ?_⟩
    rw [timer.tally, tally_coreStart, tally, Int.sub_add_cancel]
  next =>
    obtain ⟨idle, fit', tally'⟩ := (works.hold away).moveCoreSetIdle free called outside
    have executing : ((Render.moveSetWorking core job sub).maliCoreArray core).executing = 1 := by
      rw [RenderUnit.executing, moveSetWorking_job, if_neg (by simp)]
    have notOff : Kept held ∅ sub (Render.moveCoreSetIdle schedule outside core
        (Render.moveSetWorking core job sub)) := by
      have both := (kept.mono subset_rfl (empty_subset {core})).trans idle
      refine { both with off := fun other isOff => ?_ }
      rcases both.off other isOff with wasOff | ⟨same, pends⟩
      · exact .inl wasOff
      · have calm := (fit.idle core idles).2.2.2
        rw [Set.mem_singleton_iff.mp same, calm] at pends
        contradiction
    have returned : Tallied held ∅ _ _ := Tallies.returnJobToUser job .systemUnusable fit'
    refine ⟨notOff.trans returned.toKept, returned.fit, fun other => ?_⟩
    rw [returned.tally, tally', tally, executing, Int.sub_add_cancel]

theorem Fit.scheduleOnUnits (called : ∀ held sub, Tallies held ∅ sub (schedule sub))
    (session : SessionId) (cores : List CoreId) :
    ∀ sub, Fit held sub → (∀ core ∈ cores, core ∈ sub.renderunits .idle) →
      Tallied held ∅ sub (scheduleOnUnits schedule outside session cores sub) := by
  induction cores with
  | nil => exact fun sub fit _ => Tallies.tell .jobQueued fit
  | cons core rest induction =>
    intro sub fit idle
    have asked : Tallied held ∅ sub (sub.ask outside.activates).2 :=
      Tallies.same rfl rfl rfl rfl rfl fit
    have taken : Tallied held ∅ sub (releaseSessionGetJob session (sub.ask outside.activates).2).2 :=
      Tallies.same rfl rfl rfl rfl rfl fit
    rw [scheduleOnUnits_cons]
    dsimp only
    split
    next =>
      split
      next job _ =>
        have told : Tallied held ∅ _ _ := Tallies.tell (.jobScheduled core) taken.fit
        exact taken.trans (told.trans (told.fit.jobStartOnCore accepts (idle core List.mem_cons_self) job called))
      next => exact taken
    next =>
      exact asked.trans (induction _ asked.fit fun core member =>
        idle core (List.mem_cons_of_mem _ member))

theorem tallies_schedule (held : Set CoreId) (sub : Subsystem) :
    Tallies held ∅ sub (Render.schedule outside sub) := by
  have nested (depth : Nat) : ∀ held sub, Tallies held ∅ sub (scheduleNested outside depth sub) := by
    induction depth with
    | zero => exact fun _ _ => .refl
    | succ depth induction =>
      intro held sub fit
      rw [scheduleNested, scheduleOnce]
      split
      next => exact Tallies.refl fit
      next =>
        split
        next => exact Tallies.refl fit
        next session _ => exact Fit.scheduleOnUnits accepts induction session _ sub fit fun _ idles => idles
  exact nested _ held sub

theorem Fit.finishDetach (fit : Fit (insert core held) sub) (free : core ∉ held)
    (noJob : (sub.maliCoreArray core).currentJob = none)
    (busy : (sub.maliCoreArray core).state ≠ .idle) (own : core ∈ visited) (reschedule : Bool)
    (endStatus : JobEndCode) (job : Option Job) :
    Kept held visited sub (finishDetach outside core reschedule endStatus job sub) ∧
      Fit held (Render.finishDetach outside core reschedule endStatus job sub) ∧
      ∀ other, (Render.finishDetach outside core reschedule endStatus job sub).tally other =
        sub.tally other - if other = core then 1 else 0 := by
  have ended : Fit (insert core held) (sub.utilization (.coreEnd core)) := fit.congr rfl rfl rfl
  obtain ⟨idle, idleFit, idleTally⟩ := ended.moveCoreSetIdle free (tallies_schedule accepts) outside
  have none_ : (((sub.utilization (.coreEnd core)).maliCoreArray core).executing) = 0 := if_pos noJob
  have cleared (sub : Subsystem) : Tallies held visited sub
      (sub.updateUnit core fun unit => { unit with inDetachFunction := false }) :=
    .updateUnit _ (fun isHeld => absurd isHeld free) (fun _ => rfl) (fun _ => rfl) fun _ => rfl
  have scheduled (sub : Subsystem) : Tallies held visited sub
      (if reschedule then Render.schedule outside sub else sub) := by
    split
    next => exact (tallies_schedule accepts held sub).mono (empty_subset visited)
    next => exact .refl
  have finished := ((cleared _).trans (scheduled _)) idleFit
  have kept : Kept held visited sub _ := (Kept.utilization (.coreEnd core)).trans
    ((idle.mono subset_rfl (Set.singleton_subset_iff.mpr own)).trans finished.toKept)
  have tally (other : CoreId) := (finished.tally other).trans (idleTally other)
  simp only [tally_coreEnd, none_, ite_self, Int.add_zero] at tally
  cases job with
  | none =>
    rw [Render.finishDetach, if_pos busy]
    exact ⟨kept, finished.fit, tally⟩
  | some job =>
    rw [Render.finishDetach, if_pos busy]
    have returned : Tallied held visited _ _ := Tallies.returnJobToUser job endStatus finished.fit
    exact ⟨kept.trans returned.toKept, returned.fit, fun other =>
      (returned.tally other).trans (tally other)⟩

theorem Fit.detachWithReset {reset : Subsystem → Subsystem} (fit : Fit held sub) (free : core ∉ held)
    (running : (sub.maliCoreArray core).currentJob ≠ none)
    (busy : (sub.maliCoreArray core).state ≠ .idle)
    (detaching : (sub.maliCoreArray core).inDetachFunction = false) (own : core ∈ visited)
    (resets : Tallies (insert core held) visited (Render.takeJobFromCore core sub)
      (reset (Render.takeJobFromCore core sub))) (reschedule : Bool) (endStatus : JobEndCode) :
    Tallied held visited sub (detachWithReset reset outside core reschedule endStatus sub) := by
  have away : core ∉ sub.renderunits .idle := fun idles => running (fit.idle core idles).2.2.1
  obtain ⟨taken, takenFit, takenTally⟩ := fit.takeJobFromCore free away visited
  obtain ⟨before, job, _⟩ := takeJobFromCore_unit core sub
  have reset := resets takenFit
  obtain ⟨state, noJob, _⟩ := reset.toKept.unit (mem_insert core held)
  rw [before] at state
  rw [job] at noJob
  have executing : (sub.maliCoreArray core).executing = 1 := if_neg running
  obtain ⟨kept, finished, tally⟩ := reset.fit.finishDetach accepts free noJob (state ▸ busy) own reschedule
    endStatus (sub.maliCoreArray core).currentJob
  rw [Render.detachWithReset, if_neg (by simp [detaching])]
  refine ⟨(taken.trans (reset.toKept.mono (Set.subset_insert core held) subset_rfl)).trans kept,
    finished, fun other => ?_⟩
  rw [tally, reset.tally, takenTally, executing, Int.add_sub_cancel]

def NotOff (mmu : MmuId) (sub : Subsystem) : Prop :=
  ∀ core < sub.numberOfCores, sub.mmu core = mmu → (sub.maliCoreArray core).state ≠ .off

def Detaching (held : Set CoreId) (sub : Subsystem) : Prop :=
  ∀ core ∈ held, (sub.maliCoreArray core).inDetachFunction = true

omit accepts in
theorem Kept.detaching (kept : Kept held visited sub after) (detaching : Detaching held sub) : Detaching held after :=
  fun core isHeld => (kept.unit isHeld).2.2.2.trans (detaching core isHeld)

variable {mmu : MmuId} {stuck : CoreId → Bool}

omit accepts in
theorem Kept.notOff (kept : Kept held ∅ sub after) (notOff : NotOff mmu sub) : NotOff mmu after := by
  intro core registered onMmu isOff
  rw [kept.numberOfCores] at registered
  rw [kept.mmu] at onMmu
  rcases kept.off core isOff with wasOff | ⟨here, _⟩
  · exact notOff core registered onMmu wasOff
  · exact here

theorem Fit.resetOnMmu (fit : Fit held sub) (detaching : Detaching held sub) (registered : core < sub.numberOfCores)
    (notOff : sub.mmu core = mmu → (sub.maliCoreArray core).state ≠ .off) :
    Tallied held {core} sub (resetOnMmu outside mmu core sub) := by
  rw [Render.resetOnMmu]
  split
  next reset =>
    cases inside : (sub.maliCoreArray core).inDetachFunction with
    | true =>
      rw [Render.detachWithReset, if_pos inside]
      exact Tallies.refl fit
    | false =>
      have free : core ∉ held := fun isHeld => by
        have outer := detaching core isHeld
        rw [inside] at outer
        contradiction
      have running := fit.busy core registered free reset.2 (notOff reset.1)
      have still (sub : Subsystem) : Tallies (insert core held) {core} sub (id sub) := .refl
      exact fit.detachWithReset accepts free running reset.2 inside (Set.mem_singleton core) (still _)
        false .segFault
  next => exact Tallies.refl fit

theorem Fit.resetAllCoresOnMmu (fit : Fit held sub) (detaching : Detaching held sub) (notOff : NotOff mmu sub) :
    Tallied held univ sub (resetAllCoresOnMmu outside mmu sub) := by
  have loop (cores : List CoreId) : ∀ sub, cores.Nodup → Fit held sub → Detaching held sub →
      (∀ core ∈ cores, core < sub.numberOfCores ∧ (sub.mmu core = mmu → (sub.maliCoreArray core).state ≠ .off)) →
      Tallied held univ sub
        (cores.foldl (fun sub core => Render.resetOnMmu outside mmu core sub) sub) := by
    induction cores with
    | nil => exact fun sub _ fit _ _ => Tallies.refl fit
    | cons core rest induction =>
      intro sub nodup fit detaching notOff
      obtain ⟨fresh, nodup⟩ := List.nodup_cons.mp nodup
      obtain ⟨registered, own⟩ := notOff core List.mem_cons_self
      have first : Tallied held {core} sub (Render.resetOnMmu outside mmu core sub) :=
        fit.resetOnMmu accepts detaching registered own
      refine (first.mono (Set.subset_univ _)).trans
        (induction _ nodup first.fit (first.toKept.detaching detaching) fun other member => ?_)
      obtain ⟨registered, still⟩ := notOff other (List.mem_cons_of_mem _ member)
      rw [first.numberOfCores, first.mmu]
      refine ⟨registered, fun onMmu isOff => ?_⟩
      rcases first.off other isOff with wasOff | ⟨same, _⟩
      · exact still onMmu wasOff
      -- a core is visited once
      · exact fresh (Set.mem_singleton_iff.mp same ▸ member)
  exact loop _ sub List.nodup_range fit detaching fun core member =>
    ⟨List.mem_range.mp member, notOff core (List.mem_range.mp member)⟩

omit accepts in
theorem tallies_forUnits {action : CoreId → Subsystem → Subsystem}
    (step : ∀ core sub, Tallies held visited sub (action core sub)) (sub : Subsystem) :
    Tallies held visited sub (forUnits action sub) :=
  forUnits_along .refl .trans step sub

theorem Fit.mmuBusReset (fit : Fit held sub) (detaching : Detaching held sub)
    (notOff : NotOff mmu sub) : Tallied held univ sub (mmuBusReset outside mmu sub) := by
  have stopped : Tallied held ∅ sub (stopBusForAllCoresOnMmu mmu sub) := by
    refine tallies_forUnits (fun core sub => ?_) sub fit
    split
    next => exact .setErrorRecovery core true
    next => exact .refl
  have reset : Tallied held univ _
      (Render.resetAllCoresOnMmu outside mmu (stopBusForAllCoresOnMmu mmu sub)) :=
    stopped.fit.resetAllCoresOnMmu accepts (stopped.toKept.detaching detaching)
      (stopped.toKept.notOff notOff)
  have continued (sub : Subsystem) : Tallies held ∅ sub (continueJobHandling outside sub) := by
    have recovered : Tallies held ∅ sub (forUnits (fun core => Subsystem.updateUnit core
        fun unit => { unit with errorRecovery := false }) sub) :=
      tallies_forUnits (fun core sub => .setErrorRecovery core false) sub
    exact Function.Iterate.rec (Tallies held ∅ sub) recovered
      (fun _ tallies => tallies.trans (tallies_schedule accepts held _)) _
  have released (sub : Subsystem) : Tallies held ∅ sub
      (releaseAddressSpaceReference (Render.schedule outside) outside sub) :=
    tallies_releaseAddressSpaceReference (tallies_schedule accepts held) outside sub
  have later := ((released _).trans (continued _)).mono (empty_subset univ) reset.fit
  exact ((stopped.mono (empty_subset univ)).trans reset).trans later

theorem Fit.resetCore (fit : Fit held sub) (detaching : Detaching held sub)
    (notOff : stuck core = true → NotOff (sub.mmu core) sub) :
    Tallied held univ sub (resetCore outside stuck core sub) := by
  rw [Render.resetCore]
  split
  next forces => exact fit.mmuBusReset accepts detaching (notOff forces.1)
  next => exact Tallies.refl fit

theorem Fit.detachJobFromCore (fit : Fit ∅ sub)
    (registered : core < sub.numberOfCores) (busy : (sub.maliCoreArray core).state ≠ .idle)
    (isOn : (sub.maliCoreArray core).state ≠ .off)
    (detaching : (sub.maliCoreArray core).inDetachFunction = false)
    (notOff : stuck core = true → NotOff (sub.mmu core) sub) (reschedule : Bool)
    (endStatus : JobEndCode) :
    Tallied ∅ univ sub (detachJobFromCore outside stuck core reschedule endStatus sub) := by
  have free : core ∉ (∅ : Set CoreId) := Set.notMem_empty core
  have running := fit.busy core registered free busy isOn
  refine fit.detachWithReset accepts free running busy detaching (Set.mem_univ core) ?_ reschedule
    endStatus
  split
  next => exact .refl
  next =>
    intro taken
    have away : core ∉ sub.renderunits .idle := fun idles => running (fit.idle core idles).2.2.1
    have kept := (fit.takeJobFromCore free away ∅).1
    refine taken.resetCore accepts (fun other isHeld => ?_) fun isStuck => ?_
    · rw [insert_empty_eq, Set.mem_singleton_iff] at isHeld
      rw [isHeld]
      exact (takeJobFromCore_unit core sub).2.2
    · rw [kept.mmu]
      exact kept.notOff (notOff isStuck)

end Scheduler

end Floid.Render
