import Floid.Render.Sessions
import Floid.Render.Steps

namespace Floid.Render

open Osk Lib

variable {frame : Frame} {sub : Subsystem} {core : CoreId} {constants : Constants}
  {session : SessionId} {job : Job}

theorem Booked.fresh (booked : Booked frame sub) (unknown : job ∉ sub.accepted)
    (kept : job ∉ sub.rejected) : job ∉ sub.freed := by
  obtain ⟨unitAt, jobAt, books⟩ := booked
  intro freed
  rcases List.mem_append.mp freed with returned | rejected
  · have found := (books.jobs.found_iff .returned job).mp returned
    exact unknown ((books.jobs.accepted_iff job).mpr (by simp [found]))
  · exact kept rejected

theorem Booked.rejectJob (booked : Booked (.between constants) sub) (unknown : job ∉ sub.accepted)
    (kept : job ∉ sub.rejected) :
    Booked (.between { constants with rejected := job :: constants.rejected })
      (rejectJob job sub) := by
  rw [Render.rejectJob, useJob_eq (booked.fresh unknown kept)]
  obtain ⟨unitAt, jobAt, books⟩ := booked
  refine ⟨unitAt, jobAt, books.units, books.sessions, ?_, ?_⟩
  · refine { books.jobs with rejected := fun other member => ?_ }
    rcases List.mem_cons.mp member with rfl | earlier
    · exact unknown
    · exact books.jobs.rejected other earlier
  · exact congrArg (fun constants : Constants =>
      { constants with rejected := job :: constants.rejected }) books.constants

theorem Booked.queueJob (booked : Booked (.between constants) sub)
    (none_ : sub.jobWaitingToRun job.session = none) (isOpen : job.session ∈ sub.allSessions)
    (unknown : job ∉ sub.accepted) (kept : job ∉ sub.rejected) :
    Booked (.between { constants with accepted := job :: constants.accepted })
      (queueJob job.session job sub) := by
  obtain ⟨unitAt, jobAt, books⟩ := booked
  exact ⟨_, _, books.addJob none_ isOpen (Set.notMem_empty _) unknown kept⟩

theorem queueJob_replaceJob (session : SessionId) (job waiting : Job) (sub : Subsystem) :
    queueJob session job (replaceJob session waiting sub) =
      queueJob session job
        { (releaseSessionGetJob session sub).2 with replaced := waiting :: sub.replaced } := by
  simp [queueJob, replaceJob, releaseSessionGetJob]

theorem Booked.replaceJob {waiting : Job} (booked : Booked (.between constants) sub)
    (waits : sub.jobWaitingToRun job.session = some waiting)
    (unknown : job ∉ sub.accepted) (kept : job ∉ sub.rejected) :
    Booked (.between { constants with
        accepted := job :: constants.accepted
        replaced := waiting :: constants.replaced })
      (Render.queueJob job.session job (replaceJob job.session waiting sub)) := by
  obtain ⟨own, isOpen, _, notYet⟩ := booked.waiting waits
  have released := booked.releaseSession waits
  obtain ⟨unitAt, jobAt, books⟩ := released
  have replaced := books.replaceJob (Set.mem_insert waiting _)
  dsimp only at replaced
  rw [Set.insert_sdiff_self_of_notMem notYet] at replaced
  rw [queueJob_replaceJob]
  exact Booked.queueJob ⟨_, _, replaced⟩ (releaseSession_waiting job.session sub) isOpen unknown kept

theorem Booked.useJob (booked : Booked (.between constants) sub) (job : Job) :
    Booked (.between { constants with misused := (sub.useJob job).misused }) (sub.useJob job) := by
  obtain ⟨unitAt, jobAt, books⟩ := booked
  by_cases freed : job ∈ sub.freed
  · rw [Subsystem.useJob, if_pos freed]
    exact ⟨unitAt, jobAt, books.units, books.sessions, books.jobs, congrArg (fun constants : Constants =>
      { constants with misused := job :: sub.misused }) books.constants⟩
  · rw [useJob_eq freed]
    exact ⟨unitAt, jobAt, books.units, books.sessions, books.jobs, congrArg (fun constants : Constants =>
      { constants with misused := sub.misused }) books.constants⟩

structure Requested (job : Job) (before after : Constants) : Prop where
  numberOfCores : after.numberOfCores = before.numberOfCores
  allSessions : after.allSessions = before.allSessions
  allocated : after.allocated = before.allocated
  settled : after.accepted = job :: before.accepted ∧ after.rejected = before.rejected ∨
    after.accepted = before.accepted ∧ after.rejected = job :: before.rejected

theorem Booked.addNewJob (booked : Booked (.between constants) sub)
    (isOpen : job.session ∈ sub.allSessions) (unknown : job ∉ sub.accepted)
    (kept : job ∉ sub.rejected) (outside : Outside) (notification readsStarted : Bool) :
    ∃ after, Requested job constants after ∧
      Booked (.between after) (Render.addNewJob outside job notification readsStarted sub).2 := by
  have used : Render.useWaitingJob job.session sub = sub := booked.useWaitingJob job.session
  have rejected := booked.rejectJob unknown kept
  rcases addNewJob_cases used outside notification readsStarted with
    refused | ⟨_, _, noMemory⟩ | ⟨_, none_, added⟩ | ⟨_, waiting, waits, _, replaced⟩
  · rw [refused]
    refine ⟨_, ?_, rejected⟩
    exact ⟨rfl, rfl, rfl, .inr ⟨rfl, rfl⟩⟩
  · rw [noMemory]
    split
    next =>
      refine ⟨_, ?_, rejected.useJob job⟩
      exact ⟨rfl, rfl, rfl, .inr ⟨rfl, rfl⟩⟩
    next =>
      refine ⟨_, ?_, rejected⟩
      exact ⟨rfl, rfl, rfl, .inr ⟨rfl, rfl⟩⟩
  · rw [added]
    have queued := booked.queueJob none_ isOpen unknown kept
    have scheduled := keeps_schedule outside _ _ queued
    refine ⟨_, ?_, scheduled.useJob job⟩
    exact ⟨rfl, rfl, rfl, .inl ⟨rfl, rfl⟩⟩
  · rw [replaced]
    have queued := booked.replaceJob waits unknown kept
    have scheduled := keeps_schedule outside _ _ queued
    refine ⟨_, ?_, scheduled.useJob waiting⟩
    exact ⟨rfl, rfl, rfl, .inl ⟨rfl, rfl⟩⟩

theorem Booked.abortWaiting (booked : Booked (.between constants) sub) (session : SessionId)
    (abortId : U32) : Booked (.between constants) (abortWaiting session abortId sub) := by
  have used : Render.useWaitingJob session sub = sub := booked.useWaitingJob session
  rw [Render.abortWaiting, used]
  cases waits : sub.jobWaitingToRun session with
  | none => exact booked
  | some job =>
    dsimp only
    split
    next => exact booked.returnWaiting waits .abort
    next => exact booked

theorem Booked.abortWorking (outside : Outside) (stuck : CoreId → Bool) (session : SessionId)
    (abortId : U32) (steps : Nat) :
    ∀ core sub after, Booked (.between constants) sub →
      abortWorking outside stuck session abortId steps core sub = some after →
      Booked (.between constants) after := by
  intro core sub after booked performed
  refine abortWorking_keeps _ ?_ ?_ core sub booked performed
  · intro core sub booked
    rwa [booked.useCurrentJob core]
  · intro core sub booked listed _ busy
    rw [booked.useCurrentJob core] at busy ⊢
    have registered : core < sub.numberOfCores := by
      obtain ⟨unitAt, jobAt, books⟩ := booked
      have on := (books.units.placed.mem_iff core (.working session)).mp listed
      exact (books.units.registered core).mpr (by simp [on])
    exact booked.detachJobFromCore (outer_between constants) registered busy outside stuck true .abort

theorem Booked.findAndAbort {after : Subsystem} {steps : Nat} {abortId : U32}
    (booked : Booked (.between constants) sub) (outside : Outside) (stuck : CoreId → Bool)
    (performed : findAndAbort outside stuck session abortId steps sub = some after) :
    Booked (.between constants) after := by
  have waiting := booked.abortWaiting session abortId
  rw [Render.findAndAbort] at performed
  split at performed
  next core rest _ =>
    exact Booked.abortWorking outside stuck session abortId steps core _ after waiting performed
  next => exact Option.some.inj performed ▸ waiting

end Floid.Render
