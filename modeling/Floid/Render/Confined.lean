import Floid.Render.Steps

namespace Floid.Render

open Osk Lib
open Set (mem_univ subset_univ univ)

def RenderUnit.settled (unit : RenderUnit) : RenderUnit := { unit with errorRecovery := false }

def unstartedCodes : Set JobEndCode := {.illegalJob, .systemUnusable}

structure Leaves (cores : Set CoreId) (ends : Set (Job × JobEndCode)) (sub after : Subsystem) : Prop where
  idle : ∀ core ∈ after.renderunits .idle, core ∈ cores
  unit : ∀ core ∉ cores, (after.maliCoreArray core).settled = (sub.maliCoreArray core).settled
  lists : ∀ list, Requeued cores (sub.renderunits list) (after.renderunits list)
  returned : ∀ entry ∈ after.returned, entry ∈ sub.returned ∨ entry ∈ ends
  mmu : after.mmu = sub.mmu
  numberOfCores : after.numberOfCores = sub.numberOfCores

def Confined (cores : Set CoreId) (ends : Set (Job × JobEndCode)) (sub after : Subsystem) : Prop :=
  (∀ core ∈ sub.renderunits .idle, core ∈ cores) → Leaves cores ends sub after

variable {cores : Set CoreId} {ends : Set (Job × JobEndCode)} {sub middle after : Subsystem}
  {core : CoreId} {schedule : Subsystem → Subsystem} {outside : Outside}

namespace Confined

theorem same (renderunits : after.renderunits = sub.renderunits)
    (maliCoreArray : after.maliCoreArray = sub.maliCoreArray) (mmu : after.mmu = sub.mmu)
    (returned : after.returned = sub.returned) (numberOfCores : after.numberOfCores = sub.numberOfCores) :
    Confined cores ends sub after := by
  intro idle
  constructor
  · rwa [renderunits]
  · intro core _
    rw [maliCoreArray]
  · intro list
    rw [renderunits]
    exact .refl cores _
  · intro entry member
    exact .inl (returned ▸ member)
  · exact mmu
  · exact numberOfCores

theorem refl : Confined cores ends sub sub := same rfl rfl rfl rfl rfl

theorem trans (first : Confined cores ends sub middle) (second : Confined cores ends middle after) :
    Confined cores ends sub after := by
  intro idle
  have before := first idle
  have later := second before.idle
  constructor
  · exact later.idle
  · intro core away
    rw [later.unit core away, before.unit core away]
  · intro list
    exact (before.lists list).trans (later.lists list)
  · intro entry member
    rcases later.returned entry member with known | new
    · exact before.returned entry known
    · exact .inr new
  · rw [later.mmu, before.mmu]
  · rw [later.numberOfCores, before.numberOfCores]

theorem updateUnit (own : core ∈ cores) (change : RenderUnit → RenderUnit) :
    Confined cores ends sub (sub.updateUnit core change) := by
  intro idle
  refine ⟨idle, ?_, fun list => .refl cores _, fun entry member => .inl member, rfl, rfl⟩
  intro other away
  have different : other ≠ core := fun same => away (same ▸ own)
  simp [Subsystem.updateUnit, different]

theorem setErrorRecovery (core : CoreId) (errorRecovery : Bool) :
    Confined cores ends sub (sub.updateUnit core fun unit => { unit with errorRecovery }) := by
  intro idle
  refine ⟨idle, ?_, fun list => .refl cores _, fun entry member => .inl member, rfl, rfl⟩
  intro other _
  by_cases same : other = core
  · simp [Subsystem.updateUnit, same, RenderUnit.settled]
  · simp [Subsystem.updateUnit, same]

theorem moveUnit (own : core ∈ cores) (list : CoreList) : Confined cores ends sub (sub.moveUnit core list) := by
  intro idle
  have requeued (other : CoreList) :
      Requeued cores (sub.renderunits other) ((sub.moveUnit core list).renderunits other) := by
    have erased : Requeued cores (sub.renderunits other) ((sub.renderunits other).erase core) :=
      .erase _ own
    by_cases same : other = list
    · subst same
      simpa [Subsystem.moveUnit, Shelves.move, Shelves.putFirst, Shelves.take] using
        erased.trans (.cons _ own)
    · simpa [Subsystem.moveUnit, Shelves.move, Shelves.putFirst, Shelves.take, same] using erased
  refine ⟨?_, fun _ _ => rfl, requeued, fun entry member => .inl member, rfl, rfl⟩
  intro other member
  by_contra away
  exact away (idle other (((requeued .idle).mem_iff away).mp member))

theorem useJob (job : Job) : Confined cores ends sub (sub.useJob job) := by
  obtain ⟨misused, used⟩ := sub.useJob_with job
  rw [used]
  exact same rfl rfl rfl rfl rfl

theorem useCurrentJob (core : CoreId) : Confined cores ends sub (sub.useCurrentJob core) := by
  rw [Subsystem.useCurrentJob]
  split
  next job _ => exact useJob job
  next => exact refl

theorem tell (message : PmmMessage) : Confined cores ends sub (sub.tell message) :=
  same rfl rfl rfl rfl rfl

theorem utilization (call : UtilizationCall) : Confined cores ends sub (sub.utilization call) :=
  same rfl rfl rfl rfl rfl

theorem returnJobToUser {job : Job} {endStatus : JobEndCode} (allowed : (job, endStatus) ∈ ends) :
    Confined cores ends sub (sub.returnJobToUser job endStatus) := by
  obtain ⟨misused, used⟩ := sub.useJob_with job
  rw [Subsystem.returnJobToUser, used]
  intro idle
  refine ⟨idle, fun _ _ => rfl, fun list => .refl cores _, ?_, rfl, rfl⟩
  intro entry member
  rcases List.mem_cons.mp member with rfl | known
  · exact .inr allowed
  · exact .inl known

end Confined

theorem confined_releaseAddressSpaceReference (called : ∀ sub, Confined cores ends sub (schedule sub))
    (outside : Outside) (sub : Subsystem) :
    Confined cores ends sub (releaseAddressSpaceReference schedule outside sub) :=
  releaseAddressSpaceReference_along .trans (fun _ => .same rfl rfl rfl rfl rfl) called sub

theorem confined_setIdleWithoutJob (called : ∀ sub, Confined cores ends sub (schedule sub))
    (own : core ∈ cores) (outside : Outside) (oldstatus : CoreStatus) (sub : Subsystem) :
    Confined cores ends sub (setIdleWithoutJob schedule outside core oldstatus sub) := by
  apply setIdleWithoutJob_along .refl .trans
  · exact fun _ => (Confined.updateUnit own _).trans (.moveUnit own .idle)
  · exact fun _ => ((Confined.updateUnit own _).trans (.moveUnit own .off)).trans (.tell _)
  · exact fun _ => .tell _
  · exact confined_releaseAddressSpaceReference called outside

theorem confined_moveCoreSetIdle (called : ∀ sub, Confined cores ends sub (schedule sub))
    (own : core ∈ cores) (outside : Outside) (sub : Subsystem) :
    Confined cores ends sub (moveCoreSetIdle schedule outside core sub) :=
  (Confined.updateUnit own _).trans (confined_setIdleWithoutJob called own outside _ _)

def AllowsUnstarted (ends : Set (Job × JobEndCode)) : Prop :=
  ∀ job, ∀ endStatus ∈ unstartedCodes, (job, endStatus) ∈ ends

theorem confined_jobStartOnCore (called : ∀ sub, Confined cores ends sub (schedule sub))
    (allows : AllowsUnstarted ends) (own : core ∈ cores) (outside : Outside) (job : Job)
    (sub : Subsystem) : Confined cores ends sub (jobStartOnCore schedule outside job core sub) := by
  have works : Confined cores ends sub (moveSetWorking core job sub) :=
    ((Confined.useJob job).trans (.updateUnit own _)).trans (.moveUnit own _)
  have counted := works.trans (.utilization (.coreStart core))
  have failed (endStatus : JobEndCode) (unstarted : endStatus ∈ unstartedCodes) {working : Subsystem}
      (works : Confined cores ends sub working) : Confined cores ends sub
      ((moveCoreSetIdle schedule outside core working).returnJobToUser job endStatus) :=
    (works.trans (confined_moveCoreSetIdle called own outside _)).trans
      (.returnJobToUser (allows job endStatus unstarted))
  rw [jobStartOnCore]
  split
  next =>
    split
    next => exact counted.trans (.updateUnit own _)
    next => exact failed .illegalJob (by simp [unstartedCodes]) counted
  next => exact failed .systemUnusable (by simp [unstartedCodes]) works

theorem confined_scheduleOnUnits (called : ∀ sub, Confined cores ends sub (schedule sub))
    (allows : AllowsUnstarted ends) (session : SessionId) (units : List CoreId)
    (own : ∀ core ∈ units, core ∈ cores) :
    ∀ sub, Confined cores ends sub (scheduleOnUnits schedule outside session units sub) := by
  induction units with
  | nil => exact fun sub => .tell .jobQueued
  | cons core rest induction =>
    intro sub
    have asked : Confined cores ends sub (sub.ask outside.activates).2 := .same rfl rfl rfl rfl rfl
    have taken : Confined cores ends sub
        (releaseSessionGetJob session (sub.ask outside.activates).2).2 :=
      asked.trans (.same rfl rfl rfl rfl rfl)
    rw [scheduleOnUnits_cons]
    dsimp only
    split
    next =>
      split
      next job _ =>
        exact (taken.trans (.tell _)).trans
          (confined_jobStartOnCore called allows (own core List.mem_cons_self) outside job _)
      next => exact taken
    next => exact asked.trans (induction (fun core member => own core (List.mem_cons_of_mem _ member)) _)

theorem confined_schedule (allows : AllowsUnstarted ends) (outside : Outside) (sub : Subsystem) :
    Confined cores ends sub (Render.schedule outside sub) := by
  have nested (depth : Nat) : ∀ sub, Confined cores ends sub (scheduleNested outside depth sub) := by
    induction depth with
    | zero => exact fun _ => .refl
    | succ depth induction =>
      intro sub idle
      rw [scheduleNested, scheduleOnce]
      split
      next => exact Confined.refl idle
      next =>
        split
        next => exact Confined.refl idle
        next session _ => exact confined_scheduleOnUnits induction allows session _ idle sub idle
  exact nested _ sub

theorem confined_takeJobFromCore (own : core ∈ cores) (sub : Subsystem) :
    Confined cores ends sub (takeJobFromCore core sub) :=
  (Confined.useCurrentJob core).trans (.updateUnit own _)

variable {endStatus : JobEndCode}

theorem confined_finishDetach (allows : AllowsUnstarted ends) (own : core ∈ cores)
    (outside : Outside) (reschedule : Bool) {job : Option Job}
    (handed : ∀ own, job = some own → (own, endStatus) ∈ ends) (sub : Subsystem) :
    Confined cores ends sub (finishDetach outside core reschedule endStatus job sub) := by
  have given (sub : Subsystem) : Confined cores ends sub
      (if (sub.maliCoreArray core).state ≠ .idle then
        moveCoreSetIdle (Render.schedule outside) outside core (sub.utilization (.coreEnd core))
      else sub) := by
    split
    next =>
      exact (Confined.utilization _).trans
        (confined_moveCoreSetIdle (confined_schedule allows outside) own outside _)
    next => exact .refl
  have scheduled (sub : Subsystem) : Confined cores ends sub
      (if reschedule then Render.schedule outside sub else sub) := by
    split
    next => exact confined_schedule allows outside sub
    next => exact .refl
  have left (sub : Subsystem) : Confined cores ends sub
      (sub.updateUnit core fun unit => { unit with inDetachFunction := false }) := .updateUnit own _
  have finished := ((given sub).trans (left _)).trans (scheduled _)
  cases job with
  | none => exact finished
  | some job => exact finished.trans (.returnJobToUser (handed job rfl))

theorem confined_detachWithReset {reset : Subsystem → Subsystem} (sub : Subsystem)
    (resets : ∀ sub', sub'.mmu = sub.mmu → Confined cores ends sub' (reset sub'))
    (allows : AllowsUnstarted ends) (own : core ∈ cores) (outside : Outside) (reschedule : Bool)
    (handed : ∀ job, (sub.maliCoreArray core).currentJob = some job → (job, endStatus) ∈ ends) :
    Confined cores ends sub (detachWithReset reset outside core reschedule endStatus sub) := by
  have taken : Confined cores ends sub (takeJobFromCore core sub) := confined_takeJobFromCore own sub
  rw [detachWithReset]
  split
  next => exact resets sub rfl
  next =>
    intro idle
    have reset := taken.trans (resets _ (taken idle).mmu)
    exact (reset.trans (confined_finishDetach allows own outside reschedule handed _)) idle

theorem confined_forUnits {action : CoreId → Subsystem → Subsystem} (sub : Subsystem)
    (step : ∀ core sub', sub'.mmu = sub.mmu → Confined cores ends sub' (action core sub')) :
    Confined cores ends sub (forUnits action sub) := by
  have loop (units : List CoreId) : ∀ sub', sub'.mmu = sub.mmu → Confined cores ends sub'
      (units.foldl (fun sub core => action core sub) sub') := by
    induction units with
    | nil => exact fun _ _ => .refl
    | cons core rest induction =>
      intro sub' same idle
      have first := step core sub' same
      exact (first.trans (induction _ ((first idle).mmu.trans same))) idle
  exact loop _ sub rfl

def resetOnMmu (outside : Outside) (mmu : MmuId) (core : CoreId) (sub : Subsystem) : Subsystem :=
  if sub.mmu core = mmu ∧ (sub.maliCoreArray core).state ≠ .idle then
    detachWithReset id outside core false .segFault sub
  else sub

def AllowsReset (ends : Set (Job × JobEndCode)) : Prop :=
  AllowsUnstarted ends ∧ ∀ job, (job, .segFault) ∈ ends

variable {mmu : MmuId} {job : Job} {stuck : CoreId → Bool}

theorem confined_resetOnMmu (allows : AllowsReset ends) (own : sub.mmu core = mmu → core ∈ cores)
    (outside : Outside) : Confined cores ends sub (resetOnMmu outside mmu core sub) := by
  rw [resetOnMmu]
  split
  next onMmu =>
    exact confined_detachWithReset sub (fun _ _ => .refl) allows.1 (own onMmu.1) outside false
      fun job _ => allows.2 job
  next => exact .refl

theorem confined_stopBusForAllCoresOnMmu (mmu : MmuId) (sub : Subsystem) :
    Confined cores ends sub (stopBusForAllCoresOnMmu mmu sub) := by
  apply confined_forUnits
  intro core sub' _
  split
  next => exact .setErrorRecovery core true
  next => exact .refl

theorem confined_mmuBusReset (allows : AllowsReset ends) (outside : Outside)
    (own : ∀ core, sub.mmu core = mmu → core ∈ cores) :
    Confined cores ends sub (mmuBusReset outside mmu sub) := by
  intro idle
  have stopped : Confined cores ends sub (stopBusForAllCoresOnMmu mmu sub) :=
    confined_stopBusForAllCoresOnMmu mmu sub
  have reset : Confined cores ends (stopBusForAllCoresOnMmu mmu sub)
      (resetAllCoresOnMmu outside mmu (stopBusForAllCoresOnMmu mmu sub)) := by
    apply confined_forUnits
    intro core sub' same
    apply confined_resetOnMmu allows
    rw [same, (stopped idle).mmu]
    exact own core
  have continued (sub : Subsystem) : Confined cores ends sub (continueJobHandling outside sub) := by
    have recovered : Confined cores ends sub (forUnits (fun core => Subsystem.updateUnit core
        fun unit => { unit with errorRecovery := false }) sub) :=
      confined_forUnits sub fun core _ _ => .setErrorRecovery core false
    exact Function.Iterate.rec (Confined cores ends sub) recovered
      (fun _ confined => confined.trans (confined_schedule allows.1 outside _)) _
  have released (sub : Subsystem) : Confined cores ends sub
      (releaseAddressSpaceReference (schedule outside) outside sub) :=
    confined_releaseAddressSpaceReference (confined_schedule allows.1 outside) outside sub
  exact (((stopped.trans reset).trans (released _)).trans (continued _)) idle

def WorksOrReset (mmu : MmuId) (core : CoreId) (job : Job) (sub : Subsystem) : Prop :=
  sub.mmu core = mmu ∧ core ∉ sub.renderunits .idle ∧
      (∃ unit : RenderUnit, (sub.maliCoreArray core).settled = unit.settled ∧ unit.state ≠ .idle ∧
        unit.inDetachFunction = false ∧ unit.currentJob = some job) ∨
    (job, .segFault) ∈ sub.returned

theorem WorksOrReset.confined (works : WorksOrReset mmu core job sub)
    (others : Confined {core}ᶜ univ sub after) (grows : Grows sub after) :
    WorksOrReset mmu core job after := by
  rcases works with ⟨onMmu, busy, unit, same, atWork⟩ | returned
  · have leaves := others fun other idles own => busy (own ▸ idles)
    refine .inl ⟨leaves.mmu ▸ onMmu, fun idles => leaves.idle core idles rfl, unit, ?_, atWork⟩
    rw [leaves.unit core (by simp), same]
  · exact .inr (grows.returned.subset returned)

theorem allowsReset_univ : AllowsReset univ :=
  ⟨fun _ _ _ => mem_univ _, fun _ => mem_univ _⟩

theorem steps_resetOnMmu (outside : Outside) (mmu : MmuId) (core : CoreId) (sub : Subsystem) :
    Steps univ sub (resetOnMmu outside mmu core sub) := by
  rw [resetOnMmu]
  split
  next =>
    exact steps_detachWithReset (fun _ => .refl) (subset_univ _) core false .segFault sub
      fun job _ => mem_univ job
  next => exact .refl

theorem WorksOrReset.reset (works : WorksOrReset mmu core job sub) (outside : Outside) :
    (job, .segFault) ∈ (resetOnMmu outside mmu core sub).returned := by
  rcases works with ⟨onMmu, _, unit, same, busy, free, running⟩ | returned
  · have state := congrArg RenderUnit.state same
    have detaching := congrArg RenderUnit.inDetachFunction same
    have hasJob := congrArg RenderUnit.currentJob same
    simp only [RenderUnit.settled] at state detaching hasJob
    rw [resetOnMmu, if_pos ⟨onMmu, state ▸ busy⟩, detachWithReset, if_neg (by simp [detaching, free]),
      hasJob, running]
    exact List.mem_cons_self
  · exact (steps_resetOnMmu outside mmu core sub).grows.returned.subset returned

theorem WorksOrReset.resetAll (works : WorksOrReset mmu core job sub)
    (registered : core < sub.numberOfCores) (outside : Outside) :
    (job, .segFault) ∈ (resetAllCoresOnMmu outside mmu sub).returned := by
  have loop (units : List CoreId) : ∀ sub, core ∈ units → WorksOrReset mmu core job sub →
      (job, .segFault) ∈ (units.foldl (fun sub core => resetOnMmu outside mmu core sub) sub).returned := by
    have kept (units : List CoreId) : ∀ sub,
        Steps univ sub (units.foldl (fun sub core => resetOnMmu outside mmu core sub) sub) := by
      induction units with
      | nil => exact fun _ => .refl
      | cons core rest induction =>
        exact fun sub => (steps_resetOnMmu outside mmu core sub).trans (induction _)
    induction units with
    | nil => exact fun sub member => nomatch member
    | cons other rest induction =>
      intro sub member works
      by_cases own : core = other
      · subst own
        exact (kept rest _).grows.returned.subset (works.reset outside)
      · refine induction _ ((List.mem_cons.mp member).resolve_left own) (works.confined ?_ ?_)
        · exact confined_resetOnMmu allowsReset_univ (fun _ => Ne.symm own) outside
        · exact (steps_resetOnMmu outside mmu other sub).grows
  exact loop _ sub (List.mem_range.mpr registered) works

def ForcesReset (stuck : CoreId → Bool) (core : CoreId) (sub : Subsystem) : Prop :=
  stuck core = true ∧ (sub.maliCoreArray core).errorRecovery = false

def detachReach (stuck : CoreId → Bool) (core : CoreId) (sub : Subsystem) : Set CoreId :=
  { other | other = core ∨ other ∈ sub.renderunits .idle ∨
    ForcesReset stuck core sub ∧ sub.mmu other = sub.mmu core }

def abortEnds (job : Job) : Set (Job × JobEndCode) :=
  { entry | entry = (job, .abort) ∨ entry.2 ∈ unstartedCodes ∨ entry.2 = .segFault }

theorem allowsReset_abortEnds (job : Job) : AllowsReset (abortEnds job) :=
  ⟨fun _ _ unstarted => .inr (.inl unstarted), fun _ => .inr (.inr rfl)⟩

theorem takeJobFromCore_errorRecovery (core : CoreId) (sub : Subsystem) :
    ((takeJobFromCore core sub).maliCoreArray core).errorRecovery = (sub.maliCoreArray core).errorRecovery := by
  simp [takeJobFromCore, Subsystem.updateUnit, useCurrentJob_maliCoreArray]

theorem WorksOrReset.mmuBusReset (works : WorksOrReset mmu core job sub)
    (registered : core < sub.numberOfCores) (outside : Outside) :
    (job, .segFault) ∈ (mmuBusReset outside mmu sub).returned := by
  have stopped : Confined univ univ sub (stopBusForAllCoresOnMmu mmu sub) :=
    confined_stopBusForAllCoresOnMmu mmu sub
  have stop : Steps univ sub (stopBusForAllCoresOnMmu mmu sub) :=
    steps_stopBusForAllCoresOnMmu mmu sub
  have still := works.confined (confined_stopBusForAllCoresOnMmu mmu sub) stop.grows
  have reset := still.resetAll ((stopped fun _ _ => mem_univ _).numberOfCores ▸ registered) outside
  have released (sub : Subsystem) : Steps univ sub
      (releaseAddressSpaceReference (schedule outside) outside sub) :=
    steps_releaseAddressSpaceReference (steps_schedule (subset_univ _)) outside sub
  have continued (sub : Subsystem) : Steps univ sub (continueJobHandling outside
      (releaseAddressSpaceReference (schedule outside) outside sub)) :=
    (released sub).trans (steps_continueJobHandling (subset_univ _) _)
  exact (continued _).grows.returned.subset reset

theorem WorksOrReset.detach {other : CoreId} (works : WorksOrReset (sub.mmu other) core job sub)
    (registered : core < sub.numberOfCores) (different : core ≠ other)
    (forces : ForcesReset stuck other sub)
    (free : (sub.maliCoreArray other).inDetachFunction = false) (outside : Outside) :
    (job, .segFault) ∈ (detachJobFromCore outside stuck other true .abort sub).returned := by
  have taken : Confined {core}ᶜ univ sub (takeJobFromCore other sub) :=
    confined_takeJobFromCore (Ne.symm different) sub
  have everywhere : Confined univ univ sub (takeJobFromCore other sub) :=
    confined_takeJobFromCore (mem_univ other) sub
  have leaves := everywhere fun _ _ => mem_univ _
  have takes : Steps univ sub (takeJobFromCore other sub) := steps_takeJobFromCore other sub
  have still := works.confined taken takes.grows
  have reset := still.mmuBusReset (leaves.numberOfCores ▸ registered) outside
  have recovery := (takeJobFromCore_errorRecovery other sub).trans forces.2
  rw [detachJobFromCore, if_neg (by simp), detachWithReset, if_neg (by simp [free]), resetCore,
    if_pos ⟨forces.1, recovery⟩, leaves.mmu]
  have finished (sub' : Subsystem) : Steps univ sub' (finishDetach outside other true .abort
      (sub.maliCoreArray other).currentJob sub') :=
    steps_finishDetach (subset_univ _) other true .abort _ (fun own _ => mem_univ own) sub'
  exact (finished _).grows.returned.subset reset

theorem detachJobFromCore_returns (outside : Outside) (stuck : CoreId → Bool)
    (free : (sub.maliCoreArray core).inDetachFunction = false)
    (running : (sub.maliCoreArray core).currentJob = some job) :
    (job, .abort) ∈ (detachJobFromCore outside stuck core true .abort sub).returned := by
  rw [detachJobFromCore, detachWithReset, if_neg (by simp [free]), running]
  exact List.mem_cons_self

theorem confined_detachJobFromCore (outside : Outside) (stuck : CoreId → Bool)
    (running : (sub.maliCoreArray core).currentJob = some job) :
    Leaves (detachReach stuck core sub) (abortEnds job) sub
      (detachJobFromCore outside stuck core true .abort sub) := by
  have idle : ∀ other ∈ sub.renderunits .idle, other ∈ detachReach stuck core sub :=
    fun other idles => .inr (.inl idles)
  have own : core ∈ detachReach stuck core sub := .inl rfl
  have allows := allowsReset_abortEnds job
  have handed : ∀ other, (sub.maliCoreArray core).currentJob = some other →
      (other, .abort) ∈ abortEnds job := by
    intro other same
    rw [running, Option.some.injEq] at same
    exact .inl (same ▸ rfl)
  have reaches (sub' : Subsystem) (mmu : sub'.mmu = sub.mmu)
      (recovery : (sub'.maliCoreArray core).errorRecovery = (sub.maliCoreArray core).errorRecovery) :
      Confined (detachReach stuck core sub) (abortEnds job) sub' (resetCore outside stuck core sub') := by
    rw [resetCore]
    split
    next forces =>
      refine confined_mmuBusReset allows outside fun other onMmu => .inr (.inr ⟨?_, ?_⟩)
      · exact ⟨forces.1, recovery ▸ forces.2⟩
      · rwa [mmu] at onMmu
    next => exact .refl
  have taken : Confined (detachReach stuck core sub) (abortEnds job) sub (takeJobFromCore core sub) :=
    confined_takeJobFromCore own sub
  rw [detachJobFromCore, if_neg (by simp), detachWithReset]
  split
  next => exact reaches sub rfl rfl idle
  next =>
    have reset := reaches (takeJobFromCore core sub) (taken idle).mmu
      (takeJobFromCore_errorRecovery core sub)
    exact ((taken.trans reset).trans (confined_finishDetach allows.1 own outside true handed _)) idle

end Floid.Render
