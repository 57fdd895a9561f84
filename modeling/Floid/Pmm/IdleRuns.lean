import Floid.Pmm.IdleCores

namespace Floid.Pmm

open Floid.Osk Floid.Lib Subset

variable {platform : Platform} {pmm : PmmState} {event : Message}

variable {after before : PmmState} {control : Control} {processMessages : Nat} {core : CoreMask}

theorem Ready.relied (ready : Ready before) (rely : IdleRely before after) : Ready after where
  matched := rely.matched
  unbroken := rely.fatal.trans ready.unbroken
  noAck := by
    rw [NoAck, rely.status]
    exact ready.noAck.imp id (Or.imp id rely.noAck)
  internal := rely.internal ready.internal

def Purged (pmm : PmmState) : Prop := Ready pmm ∧ pmm.coresAckUp = 0

def IdlePoint (control : Control) (pmm : PmmState) : Prop :=
  match control with
  | .waiting | .checking | .processing _ => Ready pmm
  | .purgingInternal _ | .purgingEvents _ => Purged pmm

theorem IdlePoint.ready (point : IdlePoint control pmm) : Ready pmm := by
  cases control with
  | waiting => exact point
  | checking => exact point
  | processing _ => exact point
  | purgingInternal _ => exact point.1
  | purgingEvents _ => exact point.1

theorem Purged.relied (purged : Purged before) (rely : IdleRely before after) : Purged after :=
  ⟨purged.1.relied rely, rely.noAck purged.2⟩

theorem fatalReset_keepsIdle (noJobs : NoJobs pmm) (internal : InternalQueue pmm) :
    KeepsIdle (fatalReset pmm) fun _ after => Purged after := by
  have reset : Ready (resetFields pmm) := by
    constructor
    · exact (compl_iff.mpr noJobs).and_eq.symm
    · rfl
    · exact .inr (.inr rfl)
    · exact internal
  rw [fatalReset]
  apply (@Signalled.registered _ _ Purged _ _ ⟨fun _ purged => purged.1.matched,
    fun _ _ _ _ purged rely => purged.relied rely.1⟩ ⟨reset, rfl⟩).bind
  intro _ after ⟨ready, noAck⟩
  split
  · exact ⟨{ ready with }, noAck⟩
  · exact ⟨{ ready with }, noAck⟩
  · exact ⟨ready, noAck⟩

theorem leaveProcess_keepsIdle (done : Processed platform pmm) : KeepsIdle (leaveProcess pmm) IdlePoint := by
  rw [leaveProcess]
  split
  · rename_i failed
    have noJobs : NoJobs pmm := by
      apply done.1.noJobs.resolve_left
      intro working
      exact absurd (done.1.unbroken working) (by simp [failed])
    apply (fatalReset_keepsIdle noJobs done.1.internal).bind
    exact fun _ after purged => purged
  · rename_i fine
    exact ⟨done.1.matched, by simpa using fine, done.2, done.1.internal⟩

theorem processMessage_keepsIdle (ready : Ready pmm) (heard : Heard event pmm)
    (accepted : event.id.isInternal = true ∨ pmm.status.acceptsEvents = true)
    (unbroken : platform.powerOk = true ∨ NoJobs (recordEvent event pmm)) :
    KeepsIdle (processMessage platform processMessages event pmm) IdlePoint := by
  have counted : Ready { pmm with messagesQueued := pmm.messagesQueued - 1 } := { ready with }
  rw [processMessage]
  apply (processJobControl_keepsIdle counted heard accepted unbroken).bind
  intro _ after done
  split
  · exact leaveProcess_keepsIdle done
  · rename_i fine
    exact ⟨done.1.matched, by simpa using fine, done.2, done.1.internal⟩

theorem eventProcess_keepsIdle (ready : Ready pmm)
    (next : 0 < processMessages → ∀ event, nextMessage pmm = some event →
      Heard event pmm ∧ (platform.powerOk = true ∨ NoJobs (recordEvent event pmm))) :
    KeepsIdle (eventProcess platform processMessages pmm) IdlePoint := by
  have left {after : PmmState} (ready : Ready after) : KeepsIdle (leaveProcess after) IdlePoint := by
    apply @leaveProcess_keepsIdle ⟨true, true⟩
    exact ⟨⟨ready.matched, fun _ => ready.unbroken, .inl rfl, ready.internal⟩, ready.noAck⟩
  cases processMessages with
  | zero =>
    rw [eventProcess]
    split
    · exact left { ready with }
    · exact left ready
  | succ processMessages =>
    have next := next (Nat.succ_pos _)
    rw [eventProcess]
    split
    · rename_i event rest queued
      obtain ⟨heard, unbroken⟩ := next event (by rw [nextMessage, queued])
      have isInternal := ready.internal event (by rw [queued]; exact List.mem_cons_self)
      have internal : InternalQueue { pmm with iqueue := rest } := fun other member =>
        ready.internal other (by rw [queued]; exact List.mem_cons_of_mem _ member)
      have taken : Ready { pmm with iqueue := rest } := { ready with internal }
      exact processMessage_keepsIdle taken heard (.inl isInternal) unbroken
    · rename_i noInternal
      split
      · rename_i accepts
        dsimp only
        split
        · rename_i event rest queued
          obtain ⟨heard, unbroken⟩ := next event
            (by simp only [nextMessage, noInternal, accepts, queued]; rfl)
          have taken : Ready { pmm with waiting := pmm.waiting - 1, queue := rest } :=
            { ready with }
          exact processMessage_keepsIdle taken heard (.inr accepts) unbroken
        · exact left { ready with }
      · exact left { ready with }

theorem policyTimerRaiseEvent_ready {created : Bool} (ready : Ready pmm) :
    Ready (policyTimerRaiseEvent created pmm) := by
  rw [policyTimerRaiseEvent]
  split
  · obtain ⟨_, _, _, _, sent⟩ := eventMessage_frame .timeout pmm.latency.start created
      { pmm with latency := { pmm.latency with expired := false, set := false } }
    have internal := @eventMessage_internal .timeout pmm.latency.start created
      { pmm with latency := { pmm.latency with expired := false, set := false } } ready.internal
    rw [sent] at internal ⊢
    exact { ready with internal }
  · exact ready

theorem bottomHalf_keepsIdle {segment : Run Control}
    (point : IdlePoint control pmm) (heard : heardEvents.step control platform pmm)
    (taken : bottomHalf platform control pmm = some segment) : KeepsIdle segment IdlePoint := by
  have ready := point.ready
  cases control with
  | waiting =>
    simp only [bottomHalf] at taken
    split at taken
    · split at taken
      · cases taken
        exact { ready with }
      · rename_i notOff
        split at taken
        · rename_i missed
          cases taken
          have noJobs : NoJobs { pmm with irqPending := false } := by
            apply (heard.resolve_left notOff).resolve_left
            exact Nat.pos_iff_ne_zero.mp missed
          apply (fatalReset_keepsIdle noJobs ready.internal).bind
          exact fun _ after purged => purged
        · cases taken
          exact { ready with }
    · contradiction
  | checking =>
    simp only [bottomHalf] at taken
    split at taken
    · cases taken
      exact policyTimerRaiseEvent_ready { ready with }
    · cases taken
      exact ready
  | processing processMessages =>
    cases taken
    apply eventProcess_keepsIdle ready
    intro positive
    cases processMessages with
    | zero => exact absurd positive (Nat.lt_irrefl 0)
    | succ _ => exact heard
  | purgingInternal next =>
    simp only [bottomHalf] at taken
    split at taken
    · rename_i event rest queued
      cases taken
      have internal : InternalQueue { pmm with iqueue := rest } := fun other member =>
        ready.internal other (by rw [queued]; exact List.mem_cons_of_mem _ member)
      exact ⟨{ ready with internal }, point.2⟩
    · contradiction
  | purgingEvents next =>
    simp only [bottomHalf] at taken
    split at taken
    · rename_i event rest queued
      have resumed : Ready { pmm with queue := rest, status := .idle } :=
        { ready with noAck := .inr (.inr point.2) }
      cases next with
      | checkPolicy =>
        cases taken
        exact resumed
      | leave =>
        cases taken
        exact resumed
    · contradiction

theorem idle_register {powerOk : Bool} (matched : IdleMatchesJobs pmm) :
    IdleRely pmm (coreRegister core powerOk pmm) := by
  rw [coreRegister]
  split
  · have fresh : Subset core (~~~(pmm.busy &&& ~~~core)) := by
      rw [BitVec.not_and, BitVec.not_not, BitVec.or_comm]
      exact or_left _ _
    constructor
    · rw [IdleMatchesJobs] at matched ⊢
      exact (congrArg (· ||| core) matched).trans (clear_or_set _ _ _)
    · intro noJobs
      have old := (compl_iff.mpr noJobs).compl_anti (and_left pmm.busy (~~~core))
      exact compl_iff.mp (old.or fresh)
    · intro free
      exact apart_of_parts free (refl _) (and_left _ _)
    · rfl
    · rfl
    · exact id
    · exact id
  · exact ⟨matched, id, id, rfl, rfl, id, id⟩

theorem idle_unregister (matched : IdleMatchesJobs pmm) : IdleRely pmm (coreUnregister core pmm) := by
  constructor
  · rw [IdleMatchesJobs] at matched ⊢
    calc
      pmm.coresIdle &&& ~~~core = pmm.coresPowered &&& (~~~pmm.busy &&& ~~~core) := by
        rw [matched, BitVec.and_assoc]
      _ = pmm.coresPowered &&& ~~~core &&& ~~~pmm.busy := by
        rw [BitVec.and_comm (~~~pmm.busy), BitVec.and_assoc]
  · exact fun noJobs => apart_of_parts noJobs (and_left _ _) (refl _)
  · exact fun free => apart_of_parts free (and_left _ _) (refl _)
  · rfl
  · rfl
  · intro noAck
    rw [coreUnregister, noAck]
    exact BitVec.zero_and
  · exact id

theorem idle_event {event : Event} {lockFree : Bool}
    (matched : IdleMatchesJobs before) (happens : event.Happens lockFree before after) :
    IdleRely before after := by
  cases event with
  | notify kind data created =>
    obtain ⟨_, _, _, _, sent⟩ := eventMessage_frame kind data created before
    have internal := @eventMessage_internal kind data created before
    rw [sent] at internal
    rw [Event.Happens, sent] at happens
    rw [happens]
    exact ⟨matched, id, id, rfl, rfl, id, internal⟩
  | timerExpires =>
    rw [happens.2]
    exact ⟨matched, id, id, rfl, rfl, id, id⟩
  | register core powerOk =>
    rw [happens.2]
    exact idle_register matched
  | unregister core =>
    rw [happens.2]
    exact idle_unregister matched
  | tick =>
    rw [show after = _ from happens]
    exact ⟨matched, id, id, rfl, rfl, id, id⟩

theorem loadComplete_ready (cores : CoreMask) (clock : U32) : Ready (loadComplete cores clock) := by
  rw [loadComplete]
  obtain ⟨latency, setup⟩ := jobControlTimeoutSetup_frame _
  rw [setup]
  constructor
  · change cores = cores &&& ~~~0#32
    rw [BitVec.not_zero, BitVec.and_allOnes]
  · rfl
  · exact .inr (.inr rfl)
  · intro event member
    exact absurd member List.not_mem_nil

def idleProof : pmmWorker.Proof heardEvents where
  invariant := IdleMatchesJobs
  point := IdlePoint
  rely := IdleRely
  starts := by
    rintro _ _ ⟨rfl, cores, clock, rfl⟩
    exact loadComplete_ready cores clock
  kept := by
    intro control event before after point _ happens
    have rely := idle_event point.ready.matched happens
    cases control with
    | waiting => exact point.ready.relied rely
    | checking => exact point.ready.relied rely
    | processing _ => exact point.ready.relied rely
    | purgingInternal _ => exact Purged.relied point rely
    | purgingEvents _ => exact Purged.relied point rely
  rely_refl _ matched := ⟨matched, id, id, rfl, rfl, id, id⟩
  rely_trans _ _ _ first second :=
    ⟨second.matched, second.noJobs ∘ first.noJobs, second.rising ∘ first.rising,
      second.fatal.trans first.fatal, second.status.trans first.status,
      second.noAck ∘ first.noAck, second.internal ∘ first.internal⟩
  rely_event _ _ _ matched _ happens := idle_event matched happens
  rely_invariant _ _ rely := rely.matched
  stepped _ _ _ _ point heard taken := bottomHalf_keepsIdle point heard taken

/-- In every run in which each event is heard, the idle cores are the powered cores whose
jobs are all finished, in every state in which the lock is free: in particular when the
status is idle and both queues are empty. -/
theorem idle_matches_jobs {configuration : Worker.Configuration PmmState Signal Errcode Control}
    (reached : (pmmWorker.system.restrict heardEvents.Holds).Reachable configuration) :
    configuration.state.coresIdle =
      configuration.state.coresPowered &&& ~~~unmatched configuration.state.history := by
  have maintained := idleProof.maintained reached
  obtain ⟨pmm, place⟩ := configuration
  cases place with
  | between control => exact maintained.ready.matched
  | inside call resume => exact maintained.1

theorem idle_matches_jobs_finished :
    ∃ configuration, (pmmWorker.system.restrict heardEvents.Holds).Reachable configuration ∧
      configuration.place = .between .waiting ∧ configuration.state.status = .idle ∧
      configuration.state.coresIdle =
        configuration.state.coresPowered &&& ~~~unmatched configuration.state.history := by
  have scheduled := Worker.reach_event (reach_loaded heardEvents.Holds)
    (.notify .jobScheduled coreGP true) trivial rfl
  have finished := Worker.reach_event scheduled (.notify .jobFinished coreGP true) trivial rfl
  have entered := Worker.reach_step finished workingPlatform (.inr (.inl rfl)) rfl
  have checked := Worker.reach_step entered workingPlatform trivial rfl
  have active := Worker.reach_step checked workingPlatform
    (by rintro event next
        cases next
        exact ⟨trivial, .inl rfl⟩) rfl
  have idle := Worker.reach_step active workingPlatform
    (by rintro event next
        cases next
        exact ⟨rfl, .inl rfl⟩) rfl
  have left := Worker.reach_step idle workingPlatform trivial rfl
  exact ⟨_, left, rfl, rfl, idle_matches_jobs left⟩

/-- A job that finishes while the PMM waits for its core to go down for a DVFS change:
the report is dropped in the pause, and the core never becomes idle again. -/
theorem finished_in_pause_lost : ∃ configuration, pmmWorker.system.Reachable configuration ∧
      configuration.place = .between .waiting ∧ configuration.state.status = .idle ∧
      configuration.state.queue = [] ∧ configuration.state.iqueue = [] ∧
      configuration.state.coresIdle ≠
        configuration.state.coresPowered &&& ~~~unmatched configuration.state.history := by
  have scheduled := Worker.reach_event (reach_loaded fun _ _ => True)
    (.notify .jobScheduled coreGP true) trivial rfl
  have entered := Worker.reach_step scheduled workingPlatform trivial rfl
  have checked := Worker.reach_step entered workingPlatform trivial rfl
  have active := Worker.reach_step checked workingPlatform trivial rfl
  have running := Worker.reach_step active workingPlatform trivial rfl
  -- the core is busy, so it will acknowledge later
  have pause := Worker.reach_event running (.notify .dvfsPause 0#32 true) trivial rfl
  have entered := Worker.reach_step pause workingPlatform trivial rfl
  have checked := Worker.reach_step entered workingPlatform trivial rfl
  have signalled := Worker.reach_step checked workingPlatform trivial rfl
  have pending := Worker.reach_resume signalled .busy trivial
  have falling := Worker.reach_step pending workingPlatform trivial rfl
  have acked := Worker.reach_event falling
    (.notify .internalPowerDownAck coreGP true) trivial rfl
  have finished := Worker.reach_event acked (.notify .jobFinished coreGP true) trivial rfl
  have entered := Worker.reach_step finished workingPlatform trivial rfl
  have checked := Worker.reach_step entered workingPlatform trivial rfl
  have paused := Worker.reach_step checked workingPlatform trivial rfl
  have dropped := Worker.reach_step paused workingPlatform trivial rfl
  have waiting := Worker.reach_step dropped workingPlatform trivial rfl
  have resume := Worker.reach_event waiting (.notify .dvfsResume 0#32 true) trivial rfl
  have entered := Worker.reach_step resume workingPlatform trivial rfl
  have checked := Worker.reach_step entered workingPlatform trivial rfl
  have cancelled := Worker.reach_step checked workingPlatform trivial rfl
  have resumed := Worker.reach_resume cancelled .ok trivial
  have left := Worker.reach_step resumed workingPlatform trivial rfl
  refine ⟨_, left.of_restrict, rfl, rfl, rfl, rfl, ?_⟩
  decide

end Floid.Pmm
