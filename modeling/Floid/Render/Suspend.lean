import Floid.Render.Close

namespace Floid.Render

open Osk Lib

structure GpReading where
  active : Bool
  noProgress : Bool
  plbuOutOfMem : Bool
  notification : Bool
  hang : Bool
  error : Bool

def maligpIrqHandlerBottomHalf (reading : GpReading) (unit : RenderUnit) : IrqAnswer :=
  if unit.stalled then .ended .oom
  else if reading.active = false then .ended .success
  else if unit.state = .watchdogTimeout ∨ unit.state = .hangCheckTimeout ∧ reading.noProgress then
    .ended .hang
  else if reading.plbuOutOfMem then
    if reading.notification then .stalls else .ended .oom
  else if unit.state = .hangCheckTimeout ∨ reading.hang then .checksHang true
  else if reading.error = false then .goesOn
  else .ended .unknownErr

/-- `_maligp_job_suspended_response_code`. -/
inductive SuspendResponseCode where
  | jobAbort
  | jobResumeWithNewHeap
  | other (code : U32)
  deriving DecidableEq, Repr

/-- `subsystem_maligp_suspend_response`; the cookie 0 is no core's, and one that is the
address of no core is a place that no core has. There is no result if what is not there
is dereferenced. -/
def maligpSuspendResponse (cookie : Option CoreId) (code : SuspendResponseCode) (sub : Subsystem) :
    Option (Errcode × Subsystem) :=
  if cookie ≠ sub.lastGpCoreCookie then some (.fault, sub)
  else
    match cookie with
    | none => none
    | some core =>
        let sub := { sub with lastGpCoreCookie := none }
        match code with
        | .jobResumeWithNewHeap =>
            if (sub.maliCoreArray core).currentJob = none then none
            else
              some (.ok, (sub.useCurrentJob core).updateUnit core fun unit =>
                { unit with stalled := false, timer := true })
        -- the interrupt that is scheduled may come at any time
        | .jobAbort => some (.ok, sub)
        | .other _ => some (.ok, sub)

def Subsystem.StalledOn (sub : Subsystem) (core : CoreId) (job : Job) : Prop :=
  (sub.maliCoreArray core).currentJob = some job ∧ (sub.maliCoreArray core).stalled = true

instance (sub : Subsystem) (core : CoreId) (job : Job) : Decidable (sub.StalledOn core job) :=
  inferInstanceAs (Decidable (_ ∧ _))

structure GpState where
  sub : Subsystem
  unanswered : List (CoreId × Job)

inductive GpAction where
  | occurs (occurrence : Occurrence)
  | suspendResponse (session : SessionId) (cookie : Option CoreId) (code : SuspendResponseCode)

def OnGp (action : Action) : Prop :=
  ∀ core handler, action = .interrupt core handler → ∃ reading, handler = maligpIrqHandlerBottomHalf reading

inductive GpStep : GpState → GpAction → GpState → Prop where
  | occurs {before : GpState} {after : Subsystem} {occurrence : Occurrence}
      (onGp : OnGp occurrence.action) (stepped : subsystemRuns.step before.sub occurrence after) :
      GpStep before (.occurs occurrence)
        ⟨after, (cookieSent before.sub occurrence.action).toList ++ before.unanswered⟩
  | rejected {before : GpState} {session : SessionId} {cookie : Option CoreId}
      {code : SuspendResponseCode} {after : Subsystem} (isOpen : session ∈ before.sub.allSessions)
      (answered : maligpSuspendResponse cookie code before.sub = some (.fault, after)) :
      GpStep before (.suspendResponse session cookie code) ⟨after, before.unanswered⟩
  | accepted {before : GpState} {session : SessionId} {core : CoreId}
      {code : SuspendResponseCode} {after : Subsystem} (isOpen : session ∈ before.sub.allSessions)
      (answered : maligpSuspendResponse (some core) code before.sub = some (.ok, after)) :
      GpStep before (.suspendResponse session (some core) code)
        ⟨after, before.unanswered.filter fun entry => entry.1 ≠ core⟩

def gpRuns : TransitionSystem GpState GpAction where
  initial state := state = ⟨initialSubsystem, []⟩
  step := GpStep

variable {sub after : Subsystem} {core : CoreId} {job : Job}

structure Settled (job : Job) (sub : Subsystem) : Prop where
  accepted : job ∈ sub.accepted
  notWaiting : ∀ session, sub.jobWaitingToRun session ≠ some job

structure Stays (job : Job) (sub sub' : Subsystem) : Prop where
  settled : Settled job sub → Settled job sub'
  onCore : Settled job sub → ∀ core, (sub'.maliCoreArray core).currentJob = some job →
    (sub.maliCoreArray core).currentJob = some job ∧
      (sub'.maliCoreArray core).stalled = (sub.maliCoreArray core).stalled
  replaced : Settled job sub → job ∈ sub'.replaced → job ∈ sub.replaced

theorem Stays.of_fewer (accepted : after.accepted = sub.accepted)
    (waits : ∀ session, after.jobWaitingToRun session = sub.jobWaitingToRun session ∨
      after.jobWaitingToRun session = none)
    (units : ∀ core, (after.maliCoreArray core).currentJob = none ∨
      (after.maliCoreArray core).currentJob = (sub.maliCoreArray core).currentJob ∧
        (after.maliCoreArray core).stalled = (sub.maliCoreArray core).stalled)
    (replaced : after.replaced = sub.replaced) : Stays job sub after where
  settled settled := by
    refine ⟨accepted ▸ settled.accepted, fun session waiting => ?_⟩
    rcases waits session with same | gone
    · exact settled.notWaiting session (same ▸ waiting)
    · simp [gone] at waiting
  onCore _ core running := by
    rcases units core with gone | ⟨same, stalled⟩
    · simp [gone] at running
    · exact ⟨same ▸ running, stalled⟩
  replaced _ member := replaced ▸ member

variable {first second third : Subsystem} {ends : Set Job}

theorem Stays.trans (before : Stays job first second) (after : Stays job second third) : Stays job first third where
  settled settled := after.settled (before.settled settled)
  onCore settled core running := by
    obtain ⟨still, stalled⟩ := after.onCore (before.settled settled) core running
    obtain ⟨earlier, same⟩ := before.onCore settled core still
    exact ⟨earlier, stalled.trans same⟩
  replaced settled member :=
    before.replaced settled (after.replaced (before.settled settled) member)

theorem Stays.useJob (sub : Subsystem) (job used : Job) : Stays job sub (sub.useJob used) := by
  obtain ⟨misused, eq⟩ := sub.useJob_with used
  rw [eq]
  exact .of_fewer rfl (fun _ => .inl rfl) (fun _ => .inr ⟨rfl, rfl⟩) rfl

theorem Stays.releaseSession (sub : Subsystem) (job : Job) (session : SessionId) :
    Stays job sub (releaseSessionGetJob session sub).2 := by
  refine .of_fewer rfl (fun other => ?_) (fun _ => .inr ⟨rfl, rfl⟩) rfl
  by_cases own : other = session
  · simp [releaseSessionGetJob, own]
  · simp [releaseSessionGetJob, own]

theorem Step.stays (job : Job) (step : Step ends sub after) : Stays job sub after := by
  cases step with
  | useJob used => exact .useJob sub job used
  | updateUnit core change job stalled =>
    refine .of_fewer rfl (fun _ => .inl rfl) (fun other => ?_) rfl
    by_cases same : other = core
    · rw [Subsystem.updateUnit, same]
      rcases job (sub.maliCoreArray core) with kept | gone
      · simp [kept, stalled]
      · simp [gone]
    · simp [Subsystem.updateUnit, same]
  | startJob core session started waits =>
    have released := Stays.releaseSession sub job session
    refine ⟨fun settled => ?_, fun settled other running => ?_, fun settled member => ?_⟩
    all_goals
      have different : started ≠ job := fun same => settled.notWaiting session (same ▸ waits)
      obtain ⟨misused, used⟩ :=
        ((releaseSessionGetJob session sub).2.tell (.jobScheduled core)).useJob_with started
    · rw [moveSetWorking, used]
      exact ⟨(released.settled settled).accepted, (released.settled settled).notWaiting⟩
    · rw [moveSetWorking, used] at running ⊢
      by_cases same : other = core
      · simp [Subsystem.moveUnit, Subsystem.updateUnit, same, different] at running
      · simpa [Subsystem.moveUnit, Subsystem.updateUnit, same, Subsystem.tell, releaseSessionGetJob]
          using running
    · rw [moveSetWorking, used] at member
      exact member
  | releaseSession session => exact .releaseSession sub job session
  | returnJob other _ endStatus =>
    obtain ⟨misused, used⟩ := sub.useJob_with other
    rw [Subsystem.returnJobToUser, used]
    exact .of_fewer rfl (fun _ => .inl rfl) (fun _ => .inr ⟨rfl, rfl⟩) rfl
  | registerRenderunit mmu =>
    refine .of_fewer rfl (fun _ => .inl rfl) (fun other => ?_) rfl
    by_cases same : other = sub.numberOfCores
    · simp [Render.registerRenderunit, same]
    · simp [Render.registerRenderunit, same]
  | sessionBegin session =>
    refine .of_fewer rfl (fun other => ?_) (fun _ => .inr ⟨rfl, rfl⟩) rfl
    by_cases own : other = session
    · simp [Render.sessionBegin, own]
    · simp [Render.sessionBegin, own]
  | queueJob session queued unknown =>
    refine ⟨fun settled => ⟨List.mem_cons_of_mem _ settled.accepted, fun other waiting => ?_⟩,
      fun _ _ running => ⟨running, rfl⟩, fun _ => id⟩
    by_cases own : other = session
    · have same : queued = job := by simpa [Render.queueJob, own] using waiting
      exact unknown (same ▸ settled.accepted)
    · exact settled.notWaiting other (by simpa [Render.queueJob, own] using waiting)
  | replaceJob session waiting waits =>
    refine ⟨fun settled => { settled with }, fun _ _ running => ⟨running, rfl⟩,
      fun settled member => ?_⟩
    rcases List.mem_cons.mp member with rfl | earlier
    · exact absurd waits (settled.notWaiting session)
    · exact earlier
  | rejectJob other =>
    obtain ⟨misused, used⟩ := sub.useJob_with other
    rw [Render.rejectJob, used]
    exact .of_fewer rfl (fun _ => .inl rfl) (fun _ => .inr ⟨rfl, rfl⟩) rfl
  | _ => exact .of_fewer rfl (fun _ => .inl rfl) (fun _ => .inr ⟨rfl, rfl⟩) rfl

structure Quiet (sub sub' : Subsystem) : Prop where
  stalledOn : ∀ core job, sub'.StalledOn core job → sub.StalledOn core job
  cookie : sub'.returned = sub.returned ∧ sub'.lastGpCoreCookie = sub.lastGpCoreCookie ∨
    sub.returned.length < sub'.returned.length ∧ sub'.lastGpCoreCookie = none

theorem Quiet.trans (before : Quiet first second) (after : Quiet second third) : Quiet first third where
  stalledOn core job stalled := before.stalledOn core job (after.stalledOn core job stalled)
  cookie := by
    rcases before.cookie with ⟨returned, cookie⟩ | ⟨returned, cookie⟩
    · rw [← returned, ← cookie]
      exact after.cookie
    · rcases after.cookie with ⟨same, kept⟩ | ⟨more, lost⟩
      · exact .inr ⟨same ▸ returned, kept.trans cookie⟩
      · exact .inr ⟨returned.trans more, lost⟩

theorem Quiet.useJob (sub : Subsystem) (job : Job) : Quiet sub (sub.useJob job) := by
  obtain ⟨misused, eq⟩ := sub.useJob_with job
  rw [eq]
  exact ⟨fun _ _ => id, .inl ⟨rfl, rfl⟩⟩

theorem Step.quiet (step : Step ends sub after) : Quiet sub after := by
  cases step with
  | useJob job => exact .useJob sub job
  | updateUnit core change job stalled =>
    refine ⟨fun other own still => ?_, .inl ⟨rfl, rfl⟩⟩
    by_cases same : other = core
    · rw [Subsystem.StalledOn, Subsystem.updateUnit, same] at still
      rcases job (sub.maliCoreArray core) with kept | gone
      · simpa [kept, stalled, same, Subsystem.StalledOn] using still
      · simp [gone] at still
    · simpa [Subsystem.StalledOn, Subsystem.updateUnit, same] using still
  | startJob core session job _ =>
    obtain ⟨misused, used⟩ :=
      ((releaseSessionGetJob session sub).2.tell (.jobScheduled core)).useJob_with job
    rw [moveSetWorking, used]
    refine ⟨fun other own still => ?_, .inl ⟨rfl, rfl⟩⟩
    by_cases same : other = core
    · simp [Subsystem.StalledOn, Subsystem.moveUnit, Subsystem.updateUnit, same] at still
    · simpa [Subsystem.StalledOn, Subsystem.moveUnit, Subsystem.updateUnit, same, Subsystem.tell,
        releaseSessionGetJob] using still
  | returnJob job _ endStatus =>
    obtain ⟨misused, used⟩ := sub.useJob_with job
    rw [Subsystem.returnJobToUser, used]
    exact ⟨fun _ _ => id, .inr ⟨Nat.lt_succ_self _, rfl⟩⟩
  | registerRenderunit mmu =>
    refine ⟨fun other own still => ?_, .inl ⟨rfl, rfl⟩⟩
    by_cases same : other = sub.numberOfCores
    · simp [Subsystem.StalledOn, Render.registerRenderunit, same] at still
    · simpa [Subsystem.StalledOn, Render.registerRenderunit, same] using still
  | rejectJob job =>
    obtain ⟨misused, used⟩ := sub.useJob_with job
    rw [Render.rejectJob, used]
    exact ⟨fun _ _ => id, .inl ⟨rfl, rfl⟩⟩
  | _ => exact ⟨fun _ _ => id, .inl ⟨rfl, rfl⟩⟩

theorem Steps.stays (steps : Steps ends sub after) (job : Job) : Stays job sub after :=
  steps.preserve (Stays job)
    (fun _ => .of_fewer rfl (fun _ => .inl rfl) (fun _ => .inr ⟨rfl, rfl⟩) rfl)
    (fun _ _ _ => Stays.trans) (fun _ _ => Step.stays job)

theorem Steps.quiet (steps : Steps ends sub after) : Quiet sub after :=
  steps.preserve Quiet (fun _ => ⟨fun _ _ => id, .inl ⟨rfl, rfl⟩⟩) (fun _ _ _ => Quiet.trans)
    (fun _ _ => Step.quiet)

theorem Sound.stalledOn_kept (sound : Sound sub) (soundAfter : Sound after)
    (steps : Steps ends sub after) (stalled : sub.StalledOn core job)
    (kept : job ∉ after.returned.map Prod.fst) : after.StalledOn core job := by
  have stays := steps.stays job
  obtain ⟨unitAt, jobAt, books⟩ := sound.inOrder
  have found : Found (Frame.between sub.constants).flight sub.jobWaitingToRun sub.maliCoreArray
    sub.returned sub.replaced (.onCore core) job := stalled.1
  have settled : Settled job sub := by
    constructor
    · rw [books.jobs.accepted_iff, (books.jobs.found_iff _ job).mp found]
      exact Option.some_ne_none _
    · intro session waits
      have own := books.sessions.own session job waits
      have waiting : Found (Frame.between sub.constants).flight sub.jobWaitingToRun sub.maliCoreArray
        sub.returned sub.replaced .waiting job := by rwa [Found, own]
      have elsewhere := books.jobs.unique waiting found
      contradiction
  obtain ⟨unitAt', jobAt', books'⟩ := soundAfter.inOrder
  obtain ⟨place, at_⟩ :=
    Option.ne_none_iff_exists'.mp ((books'.jobs.accepted_iff job).mp (stays.settled settled).accepted)
  have found' := (books'.jobs.found_iff place job).mpr at_
  cases place with
  | waiting => exact absurd found' ((stays.settled settled).notWaiting _)
  | onCore other =>
    obtain ⟨earlier, same⟩ := stays.onCore settled other found'
    have here := books.jobs.unique (show Found _ _ _ _ _ (.onCore other) job from earlier) found
    cases here
    exact ⟨found', same.trans stalled.2⟩
  | flight => exact absurd found' (Set.notMem_empty job)
  | returned => exact absurd found' kept
  | replaced =>
    have earlier := stays.replaced settled found'
    have elsewhere := books.jobs.unique (show Found _ _ _ _ _ .replaced job from earlier) found
    contradiction

end Floid.Render
