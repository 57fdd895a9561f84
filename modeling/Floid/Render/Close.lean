import Floid.Render.Runs

namespace Floid.Render

open Osk Lib

variable {sub after : Subsystem} {session : SessionId} {job : Job}

def Subsystem.handedBack (sub : Subsystem) (job : Job) : Nat :=
  (sub.returned.map Prod.fst).count job + sub.replaced.count job

structure LeavesNothing (session : SessionId) (sub : Subsystem) : Prop where
  noCore : ∀ core job, (sub.maliCoreArray core).currentJob = some job → job.session ≠ session
  notAwaiting : ∀ priority, session ∉ sub.awaitingSessions priority
  handedBack : ∀ job ∈ sub.accepted, job.session = session → sub.handedBack job = 1

theorem Grows.handedBack {sub' : Subsystem} (grows : Grows sub sub') (job : Job) :
    sub.handedBack job ≤ sub'.handedBack job :=
  Nat.add_le_add ((grows.returned.map Prod.fst).sublist.count_le job)
    (grows.replaced.sublist.count_le job)

theorem Sound.handedBack_le (sound : Sound sub) (job : Job) : sub.handedBack job ≤ 1 := by
  obtain ⟨unitAt, jobAt, books⟩ := sound.inOrder
  have jobs := books.jobs
  by_cases returned : job ∈ sub.returned.map Prod.fst
  · have notReplaced : job ∉ sub.replaced := by
      intro replaced
      have elsewhere := jobs.unique (show Found _ _ _ _ _ .returned job from returned)
        (show Found _ _ _ _ _ .replaced job from replaced)
      contradiction
    rw [Subsystem.handedBack, List.count_eq_zero_of_not_mem notReplaced]
    exact List.nodup_iff_count_le_one.mp jobs.returned_nodup job
  · rw [Subsystem.handedBack, List.count_eq_zero_of_not_mem returned, Nat.zero_add]
    exact List.nodup_iff_count_le_one.mp jobs.replaced_nodup job

variable {core : CoreId} {occurrence : Occurrence}

theorem Sound.running_isOpen (sound : Sound sub)
    (running : (sub.maliCoreArray core).currentJob = some job) : job.session ∈ sub.allSessions := by
  obtain ⟨unitAt, jobAt, books⟩ := sound.inOrder
  obtain ⟨list, on⟩ := books.placed_of_job running
  have fits := books.units.booked core list on
  obtain ⟨session, works⟩ := fits.running_iff.mp (by simp [running])
  obtain ⟨own, hasJob, same⟩ := fits.working session works rfl
  rw [running, Option.some.injEq] at hasJob
  rw [hasJob, same]
  exact (fits.isOpen session works).1

theorem Sound.running_not_returned (sound : Sound sub) (running : (sub.maliCoreArray core).currentJob = some job) :
    job ∉ sub.returned.map Prod.fst := by
  obtain ⟨unitAt, jobAt, books⟩ := sound.inOrder
  have kept := books.not_freed (show Found _ _ _ _ _ (.onCore core) job from running) (by simp)
  exact fun returned => kept (List.mem_append_left _ returned)

theorem Sound.leavesNothing (sound : Sound sub) (closed : session ∉ sub.allSessions) : LeavesNothing session sub where
  noCore core job running same := closed (same ▸ sound.running_isOpen running)
  notAwaiting priority member := by
    obtain ⟨unitAt, jobAt, books⟩ := sound.inOrder
    obtain ⟨job, waits, _⟩ := Option.map_eq_some_iff.mp
      ((books.sessions.placed.mem_iff session priority).mp member)
    exact closed (books.sessions.isOpen session (by simp [waits]))
  handedBack job accepted own := by
    have atMost := sound.handedBack_le job
    have notRunning (core : CoreId) : (sub.maliCoreArray core).currentJob ≠ some job :=
      fun running => closed (own ▸ sound.running_isOpen running)
    obtain ⟨unitAt, jobAt, books⟩ := sound.inOrder
    obtain ⟨place, at_⟩ := Option.ne_none_iff_exists'.mp ((books.jobs.accepted_iff job).mp accepted)
    have found := (books.jobs.found_iff place job).mpr at_
    have some_ : 0 < sub.handedBack job := by
      cases place with
      | waiting => exact absurd (books.sessions.isOpen job.session (by simp [show _ = some job from found])) (own ▸ closed)
      | onCore core => exact absurd found (notRunning core)
      | flight => exact absurd found (Set.notMem_empty job)
      | returned => exact Nat.add_pos_left (List.count_pos_iff.mpr found) _
      | replaced => exact Nat.add_pos_right _ (List.count_pos_iff.mpr found)
    omega

theorem Sound.steps (sound : Sound sub) (stepped : subsystemRuns.step sub occurrence after) :
    cookieSent sub occurrence.action = none ∧ Steps Set.univ sub after ∨
      ∃ core job, cookieSent sub occurrence.action = some (core, job) ∧ Stalls core job sub after :=
  steps_perform stepped fun session priority abortId => (sound.newJob_fresh session priority abortId).1

theorem Sound.grows (sound : Sound sub)
    (stepped : subsystemRuns.step sub occurrence after) : Grows sub after := by
  rcases sound.steps stepped with ⟨_, steps⟩ | ⟨core, job, _, stalls⟩
  · exact steps.grows
  · obtain ⟨misused, used⟩ := sub.useJob_with job
    rw [stalls.after_eq, used]
    exact ⟨List.suffix_rfl, List.suffix_rfl⟩

abbrev LeadsTo : Subsystem → Subsystem → Prop :=
  Relation.ReflTransGen fun before after =>
    ∃ occurrence, (subsystemRuns.restrict ClosesFew).step before occurrence after

theorem Sound.leadsTo (sound : Sound sub) (leads : LeadsTo sub after) : Sound after ∧ Grows sub after := by
  induction leads with
  | refl => exact ⟨sound, .refl sub⟩
  | tail _ stepped induction =>
    obtain ⟨occurrence, few, stepped⟩ := stepped
    exact ⟨induction.1.step few stepped, induction.2.trans (induction.1.grows stepped)⟩

/-- A session is closed in a run that closes none with more than one core at work. Nothing
is left of it, and however the run goes on, its jobs are not given back again. -/
theorem session_close_leaves_nothing {before : Subsystem} {outside : Outside} {stuck : CoreId → Bool}
    (reached : (subsystemRuns.restrict ClosesFew).Reachable before)
    (closed : (subsystemRuns.restrict ClosesFew).step before ⟨.sessionClose session, outside, stuck⟩ after) :
    LeavesNothing session after ∧
      ∀ later, LeadsTo after later → ∀ job ∈ after.accepted, job.session = session →
        later.handedBack job = 1 := by
  have sound := sound_of_reachable reached
  have soundAfter := sound.step closed.1 closed.2
  have gone : session ∉ after.allSessions := by
    obtain ⟨few, steps, performed⟩ := closed
    obtain ⟨_, closed⟩ := Option.ite_none_right_eq_some.mp performed
    cases Option.some.inj closed
    have nodup : before.allSessions.Nodup := by
      obtain ⟨_, _, books⟩ := sound.inOrder
      exact books.sessions.nodup
    have same := (Booked.sessionClose sound.inOrder few outside stuck).constants_eq
    have erased : (sessionClose outside stuck session before).allSessions =
        before.allSessions.erase session := congrArg Constants.allSessions same
    rw [erased]
    exact nodup.not_mem_erase
  have leaves := soundAfter.leavesNothing gone
  refine ⟨leaves, fun later leads job accepted own => ?_⟩
  obtain ⟨soundLater, grows⟩ := soundAfter.leadsTo leads
  have once := leaves.handedBack job accepted own
  have more := grows.handedBack job
  have atMost := soundLater.handedBack_le job
  omega

def replacedWaits : Subsystem :=
  (performAll ClosesFew [Action.fine (.registerRenderunit 0), Action.fine (.sessionBegin 7),
      Action.fine (.startJob 7 0#32 1#32 true false), Action.fine (.startJob 7 2#32 2#32 true false),
      Action.fine (.startJob 7 1#32 3#32 true false)]
    initialSubsystem).get (by decide +kernel)

def replacedClosed : Subsystem := sessionClose fineOutside (fun _ => false) 7 replacedWaits

theorem reachable_replacedWaits : (subsystemRuns.restrict ClosesFew).Reachable replacedWaits :=
  reachable_performAll ClosesFew _ _ (.initial rfl) (Option.some_get _).symm

theorem replacedWaits_closes : (subsystemRuns.restrict ClosesFew).step replacedWaits
    (Action.fine (.sessionClose 7)) replacedClosed := by
  have isOpen : 7 ∈ replacedWaits.allSessions := by decide +kernel
  refine ⟨by decide +kernel, 0, ?_⟩
  change (if 7 ∈ replacedWaits.allSessions then some _ else none) = _
  rw [if_pos isOpen]
  rfl

theorem session_close_leaves_nothing_replaced : LeavesNothing 7 replacedClosed ∧
      replacedClosed.accepted.map (replacedClosed.handedBack) = [1, 1, 1] :=
  ⟨(session_close_leaves_nothing reachable_replacedWaits replacedWaits_closes).1, by decide +kernel⟩

/-- The job that another has taken the place of never gets to `return_job_to_user`. -/
theorem replaced_job_not_returned :
    ∃ before after session, ∃ occurrence : Occurrence, subsystemRuns.Reachable before ∧
      occurrence.action = .sessionClose session ∧ subsystemRuns.step before occurrence after ∧
      ∃ job ∈ after.accepted, job.session = session ∧ (after.returned.map Prod.fst).count job = 0 := by
  refine ⟨replacedWaits, replacedClosed, 7, Action.fine (.sessionClose 7),
    reachable_replacedWaits.of_restrict, rfl, replacedWaits_closes.2, ⟨1, 7, 2, 2#32⟩, ?_, rfl, ?_⟩
  · decide +kernel
  · decide +kernel

end Floid.Render
