import Floid.Render.Close

namespace Floid.Render

open Osk Lib

def KeepsJob (outside : Outside) (job : Job) (notification readsStarted : Bool) (sub : Subsystem) : Prop :=
  match sub.jobWaitingToRun job.session with
  | some waiting => jobHasHigherPriority job waiting = false
  | none => if notification then outside.Runs job else readsStarted = false

instance (outside : Outside) (job : Job) (notification readsStarted : Bool) (sub : Subsystem) :
    Decidable (KeepsJob outside job notification readsStarted sub) := by
  unfold KeepsJob
  split <;> infer_instance

def KeepsJobs (sub : Subsystem) (occurrence : Occurrence) : Prop :=
  ClosesFew sub occurrence ∧
    match occurrence.action with
    | .startJob session priority abortId notification readsStarted =>
        KeepsJob occurrence.outside (newJob session priority abortId sub) notification readsStarted sub
    | _ => True

instance (sub : Subsystem) (occurrence : Occurrence) : Decidable (KeepsJobs sub occurrence) := by
  unfold KeepsJobs
  obtain ⟨action, outside, stuck⟩ := occurrence
  cases action <;> infer_instance

def Subsystem.Holds (sub : Subsystem) (job : Job) : Prop :=
  sub.jobWaitingToRun job.session = some job ∨ ∃ core, (sub.maliCoreArray core).currentJob = some job

/-- Every job is freed once, when nothing holds it any more and at the latest when its
session is closed, and is not used after that. -/
structure JobsFreedOnce (sub : Subsystem) : Prop where
  unused : sub.misused = []
  once : sub.freed.Nodup
  held_iff : ∀ job ∈ sub.allocated, sub.Holds job ↔ job ∉ sub.freed
  closed : ∀ job ∈ sub.allocated, job.session ∉ sub.allSessions → sub.freed.count job = 1

structure Clean (sub : Subsystem) : Prop where
  sound : Sound sub
  misused : sub.misused = []
  replaced : sub.replaced = []

variable {sub after : Subsystem} {session : SessionId} {job : Job}

variable {constants : Constants} {outside : Outside}

theorem schedule_not_freed (runs : outside.Runs job)
    (kept : job ∉ sub.freed) (booked : Booked (.between constants) sub) :
    job ∉ (schedule outside sub).freed := by
  have scheduled := (keeps_schedule outside _ _ booked).constants_eq
  have rejected : (schedule outside sub).rejected = sub.rejected :=
    congrArg Constants.rejected (scheduled.trans booked.constants_eq.symm)
  intro freed
  rcases List.mem_append.mp freed with returned | rejects
  · rcases (steps_schedule (Set.Subset.refl _) sub).returned job returned with before | fails
    · exact kept (List.mem_append_left _ before)
    · exact fails runs
  · exact kept (List.mem_append_right _ (rejected ▸ rejects))

theorem Booked.addNewJob_clean (booked : Booked (.between constants) sub)
    (isOpen : job.session ∈ sub.allSessions) (unknown : job ∉ sub.accepted)
    (kept : job ∉ sub.rejected) {notification readsStarted : Bool}
    (keeps : KeepsJob outside job notification readsStarted sub) :
    (Render.addNewJob outside job notification readsStarted sub).2.misused = constants.misused ∧
      (Render.addNewJob outside job notification readsStarted sub).2.replaced = constants.replaced := by
  have fresh := booked.fresh unknown kept
  have used : Render.useWaitingJob job.session sub = sub := booked.useWaitingJob job.session
  have rejected := (booked.rejectJob unknown kept).constants_eq
  rw [KeepsJob] at keeps
  rcases addNewJob_cases used outside notification readsStarted with
    refused | ⟨noMemory, higher, made⟩ | ⟨notified, waits, made⟩ | ⟨_, waiting, waits, higher, _⟩
  · rw [refused]
    exact ⟨congrArg Constants.misused rejected, congrArg Constants.replaced rejected⟩
  · have reads : readsStarted = false := by
      cases waits : sub.jobWaitingToRun job.session with
      | none => simpa [waits, noMemory] using keeps
      | some waiting => simp [waits, higher waiting waits] at keeps
    rw [made, reads]
    exact ⟨congrArg Constants.misused rejected, congrArg Constants.replaced rejected⟩
  · rw [waits, notified] at keeps
    have queued := booked.queueJob waits isOpen unknown kept
    have scheduled := (keeps_schedule outside _ _ queued).constants_eq
    have freshStill : job ∉ (Render.queueJob job.session job sub).freed := fresh
    rw [made, useJob_eq (schedule_not_freed keeps freshStill queued)]
    exact ⟨congrArg Constants.misused scheduled, congrArg Constants.replaced scheduled⟩
  · simp [waits, higher] at keeps

namespace Clean

theorem initial : Clean initialSubsystem := ⟨Sound.initial, rfl, rfl⟩

theorem step (clean : Clean sub) {occurrence : Occurrence} (keeps : KeepsJobs sub occurrence)
    (stepped : subsystemRuns.step sub occurrence after) : Clean after := by
  have sound := clean.sound
  obtain ⟨constants, changed, booked⟩ := sound.perform keeps.1 stepped
  obtain ⟨misused, replaced⟩ : after.misused = sub.misused ∧ after.replaced = sub.replaced := by
    obtain ⟨action, outside, stuck⟩ := occurrence
    cases action with
    | startJob session priority abortId notification readsStarted =>
      obtain ⟨steps, performed⟩ := stepped
      obtain ⟨isOpen, started⟩ := Option.ite_none_right_eq_some.mp performed
      cases Option.some.inj started
      obtain ⟨unknown, kept⟩ := sound.newJob_fresh session priority abortId
      have booked := sound.allocate (newJob session priority abortId sub)
      exact booked.addNewJob_clean isOpen unknown kept keeps.2
    | _ =>
      cases changed
      exact ⟨congrArg Constants.misused booked.constants_eq, congrArg Constants.replaced booked.constants_eq⟩
  exact ⟨sound.step keeps.1 stepped, misused.trans clean.misused, replaced.trans clean.replaced⟩

theorem holds (clean : Clean sub) (accepted : job ∈ sub.accepted) (kept : job ∉ sub.freed) : sub.Holds job := by
  obtain ⟨unitAt, jobAt, books⟩ := clean.sound.inOrder
  obtain ⟨place, at_⟩ := Option.ne_none_iff_exists'.mp ((books.jobs.accepted_iff job).mp accepted)
  have found := (books.jobs.found_iff place job).mpr at_
  cases place with
  | waiting => exact .inl found
  | onCore core => exact .inr ⟨core, found⟩
  | flight => exact absurd found (Set.notMem_empty job)
  | returned => exact absurd (List.mem_append_left _ found) kept
  | replaced =>
    rw [Found, clean.replaced] at found
    contradiction

theorem of_holds (clean : Clean sub) (holds : sub.Holds job) :
    job ∉ sub.freed ∧ job.session ∈ sub.allSessions := by
  have sound := clean.sound
  rcases holds with waits | ⟨core, running⟩
  · obtain ⟨unitAt, jobAt, books⟩ := sound.inOrder
    exact ⟨books.not_freed (show Found _ _ _ _ _ .waiting job from waits) (by simp),
      books.sessions.isOpen job.session (by simp [waits])⟩
  · refine ⟨?_, sound.running_isOpen running⟩
    obtain ⟨unitAt, jobAt, books⟩ := sound.inOrder
    exact books.not_freed (show Found _ _ _ _ _ (.onCore core) job from running) (by simp)

theorem freed_nodup (clean : Clean sub) : sub.freed.Nodup := by
  have ledger := clean.sound.ledger
  have jobs := (ledger.split.nodup_iff.mp ledger.nodup)
  obtain ⟨unitAt, jobAt, books⟩ := clean.sound.inOrder
  refine List.nodup_append.mpr ⟨books.jobs.returned_nodup, (List.nodup_append.mp jobs).2.1, ?_⟩
  rintro job returned _ rejected rfl
  have accepted : job ∈ sub.accepted := by
    rw [books.jobs.accepted_iff, (books.jobs.found_iff .returned job).mp returned]
    exact Option.some_ne_none _
  exact books.jobs.rejected job rejected accepted

theorem jobsFreedOnce (clean : Clean sub) : JobsFreedOnce sub where
  unused := clean.misused
  once := clean.freed_nodup
  held_iff job allocated := by
    constructor
    · exact fun holds => (clean.of_holds holds).1
    · intro kept
      rcases List.mem_append.mp (clean.sound.ledger.split.mem_iff.mp allocated) with accepted | rejected
      · exact clean.holds accepted kept
      · exact absurd (List.mem_append_right _ rejected) kept
  closed job allocated gone := by
    have freed : job ∈ sub.freed := by
      by_contra kept
      rcases List.mem_append.mp (clean.sound.ledger.split.mem_iff.mp allocated) with accepted | rejected
      · exact gone (clean.of_holds (clean.holds accepted kept)).2
      · exact kept (List.mem_append_right _ rejected)
    exact List.count_eq_one_of_mem clean.freed_nodup freed

end Clean

/-- Every job is freed once and not used after that, in every run whose requests keep to
their jobs and that closes no session with more than one core at work. -/
theorem jobs_freed_once (reached : (subsystemRuns.restrict KeepsJobs).Reachable sub) : JobsFreedOnce sub := by
  have clean : Clean sub := by
    refine reached.invariant ?_ ?_
    · rintro _ rfl
      exact Clean.initial
    · intro before occurrence after clean stepped
      exact clean.step stepped.1 stepped.2
  exact clean.jobsFreedOnce

/-- The first job has been done, the second could not be accepted for want of memory, the
third is at work, and the fourth was refused while the third waited. -/
def jobsServed : Subsystem :=
  (performAll KeepsJobs [Action.fine (.registerRenderunit 0), Action.fine (.sessionBegin 7),
      Action.fine (.startJob 7 1#32 1#32 true false), Action.fine (.startJob 7 1#32 2#32 false false),
      Action.fine (.startJob 7 1#32 3#32 true false), Action.fine (.startJob 7 1#32 4#32 true false),
      Action.fine (.interrupt 0 fun _ => .ended .success)]
    initialSubsystem).get (by decide +kernel)

theorem jobs_freed_once_served : JobsFreedOnce jobsServed ∧ jobsServed.freed.map Job.number = [0, 3, 1] ∧
      (jobsServed.maliCoreArray 0).currentJob = some ⟨2, 7, 1, 3#32⟩ :=
  ⟨jobs_freed_once (reachable_performAll KeepsJobs _ _ (.initial rfl) (Option.some_get _).symm),
    by decide +kernel, by decide +kernel⟩

def jobFails : Subsystem :=
  (performAll (fun _ _ => True) [Action.fine (.registerRenderunit 0), Action.fine (.sessionBegin 7),
      ⟨.startJob 7 0#32 1#32 true false, { fineOutside with starts := fun _ => false }, fun _ => false⟩]
    initialSubsystem).get (by decide +kernel)

def jobReplaced : Subsystem :=
  (performAll (fun _ _ => True) [Action.fine (.sessionBegin 7), Action.fine (.startJob 7 2#32 1#32 true false),
      Action.fine (.startJob 7 1#32 2#32 true false), Action.fine (.sessionClose 7)]
    initialSubsystem).get (by decide +kernel)

/-- A job is used after it has been freed, and another one never freed. -/
theorem jobs_misused_and_lost : (subsystemRuns.Reachable jobFails ∧ ¬ JobsFreedOnce jobFails) ∧
      subsystemRuns.Reachable jobReplaced ∧ ¬ JobsFreedOnce jobReplaced := by
  have failed : (subsystemRuns.restrict fun _ _ => True).Reachable jobFails :=
    reachable_performAll _ _ _ (.initial rfl) (Option.some_get _).symm
  have replaced : (subsystemRuns.restrict fun _ _ => True).Reachable jobReplaced :=
    reachable_performAll _ _ _ (.initial rfl) (Option.some_get _).symm
  refine ⟨⟨failed.of_restrict, fun freed => ?_⟩, replaced.of_restrict, fun freed => ?_⟩
  · have used : jobFails.misused = [⟨0, 7, 0, 1#32⟩] := by decide +kernel
    rw [freed.unused] at used
    contradiction
  · have lost := freed.closed ⟨0, 7, 2, 1#32⟩ (by decide +kernel) (by decide +kernel)
    have never : jobReplaced.freed.count ⟨0, 7, 2, 1#32⟩ = 0 := by decide +kernel
    rw [never] at lost
    contradiction

end Floid.Render
