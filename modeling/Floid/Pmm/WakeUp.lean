import Floid.Pmm.BottomHalf

namespace Floid.Pmm

open Osk Lib

def PmmState.unread (pmm : PmmState) : Nat := pmm.queue.length + pmm.iqueue.length

def Counted (pmm : PmmState) : Prop := pmm.unread ≤ pmm.messagesQueued

structure Covered (bound : Nat) (pmm : PmmState) : Prop where
  counted : Counted pmm
  bounded : pmm.unread ≤ bound ∨ pmm.irqPending = true

structure WakeRely (before after : PmmState) : Prop where
  counted : Counted after
  pending : before.irqPending = true → after.irqPending = true
  unread : after.unread ≤ before.unread ∨ after.irqPending = true

/-- The timer has not been stopped since it set `check_policy`, or there is nothing to do
besides; and a reset at the end of a run purges all there is, or another run is due. -/
def unstoppedTimer : Worker.Condition PmmState Signal Errcode Control Platform Event where
  event _ _ := True
  step control _ pmm :=
    match control with
    | .checking => pmm.checkPolicy = true → pmm.latency.expired = true ∨
        pmm.irqPending = true ∨ pmm.status.acceptsEvents = false ∨ pmm.unread = 0
    | .purgingEvents .leave =>
        pmm.irqPending = true ∨ pmm.queue.length ≤ 1 ∧ pmm.iqueue = []
    | _ => True
  answer _ _ _ := True

abbrev KeepsCovered {Result : Type} (segment : Run Result)
    (post : Result → PmmState → Prop) : Prop :=
  segment.Ensures Counted
    (fun call answer before after =>
      WakeRely before after ∧ unstoppedTimer.answer call answer after)
    post

variable {platform : Platform} {pmm : PmmState} {cores : CoreMask} {event : Message} {bound : Nat}

variable {after before : PmmState} {list : List CoreMask}

theorem Covered.congr (covered : Covered bound before)
    (queue : after.queue = before.queue) (iqueue : after.iqueue = before.iqueue)
    (messagesQueued : after.messagesQueued = before.messagesQueued)
    (irqPending : after.irqPending = before.irqPending) : Covered bound after := by
  have unread : after.unread = before.unread := by
    rw [PmmState.unread, queue, iqueue, PmmState.unread]
  constructor
  · rw [Counted, unread, messagesQueued]
    exact covered.counted
  · rw [unread, irqPending]
    exact covered.bounded

theorem Covered.relied (covered : Covered bound before)
    (rely : WakeRely before after) : Covered bound after := by
  refine ⟨rely.counted, ?_⟩
  rcases covered.bounded with within | due
  · exact rely.unread.imp (fun fewer => Nat.le_trans fewer within) id
  · exact .inr (rely.pending due)

theorem Counted.sent {id : EventId} {data : U32} {created : Bool} (counted : Counted pmm) :
    Counted (eventMessage id data created pmm) := by
  rw [Counted, PmmState.unread] at *
  simp only [eventMessage, scheduleWork]
  split
  · split
    · simp only [List.length_append, List.length_singleton]
      omega
    · simp only [List.length_append, List.length_singleton]
      omega
  · exact counted

theorem eventMessage_pending (id : EventId) (data : U32) (created : Bool) (pmm : PmmState) :
    (eventMessage id data created pmm).irqPending = true := by
  obtain ⟨_, _, _, _, sent⟩ := eventMessage_frame id data created pmm
  rw [sent]

theorem Covered.sent {id : EventId} {data : U32} {created : Bool} (covered : Covered bound pmm) :
    Covered bound (eventMessage id data created pmm) :=
  ⟨covered.counted.sent, .inr (eventMessage_pending id data created pmm)⟩

theorem Covered.signalled : Signalled Counted (fun call answer before after =>
      WakeRely before after ∧ unstoppedTimer.answer call answer after) (Covered bound) where
  holds _ covered := covered.counted
  relied _ _ _ _ covered rely := covered.relied rely.1

theorem signalRegistered_keepsCovered (covered : Covered bound pmm) :
    KeepsCovered (signalRegistered list pmm) fun _ => Covered bound :=
  Covered.signalled.registered covered

theorem invokePowerDown_covered (covered : Covered bound pmm) :
    Covered bound (invokePowerDown platform pmm).2 := by
  rw [invokePowerDown]
  split
  · split
    · exact { covered with }
    · exact { covered with }
  · exact covered

theorem invokePowerUp_keepsCovered (covered : Covered bound pmm) :
    KeepsCovered (invokePowerUp platform pmm) fun _ after => Covered bound after := by
  rw [invokePowerUp]
  split
  · apply (Covered.signalled.pendingUp covered).bind
    exact fun _ after covered => { covered with }
  · split
    · exact covered.sent
    · exact { covered with }

theorem coresToPowerUp_covered (covered : Covered bound pmm) : Covered bound (coresToPowerUp cores pmm).2 := by
  rw [coresToPowerUp]
  dsimp only
  split
  · exact { covered with }
  · exact covered

theorem Covered.carried : Carried platform Counted (fun call answer before after =>
      WakeRely before after ∧ unstoppedTimer.answer call answer after) (Covered bound) where
  toSignalled := Covered.signalled
  same before after covered same := by
    simp only [PmmState.work, Prod.mk.injEq] at same
    obtain ⟨-, ⟨queue, iqueue, messagesQueued, irqPending⟩, -⟩ := same
    exact covered.congr queue iqueue messagesQueued irqPending
  down _ covered := invokePowerDown_covered covered
  up _ _ covered _ := invokePowerUp_keepsCovered (coresToPowerUp_covered covered)

theorem processPowerUp_keepsCovered (covered : Covered bound pmm) :
    KeepsCovered (processPowerUp platform event cores pmm) fun _ after => Covered bound after := by
  have carried := @Covered.carried platform bound
  rw [processPowerUp]
  split
  · have acked : Covered bound (coresSetUpAck cores pmm) := { covered with }
    apply (invokePowerUp_keepsCovered acked).bind
    intro finished after covered
    split
    · dsimp only
      split
      · exact carried.processedAs covered rfl
      · exact carried.processedAs covered rfl
    · exact carried.processed covered
  · exact covered

theorem processJobControl_keepsCovered (covered : Covered bound pmm) :
    KeepsCovered (processJobControl platform event pmm) fun _ after => Covered bound after := by
  rw [processJobControl]
  cases pmm.status with
  | idle =>
    apply Covered.carried.idle
    · exact fun _ => { covered with }
    · exact fun _ => { covered with }
    · exact fun _ _ => covered
  | dvfsPause => exact Covered.carried.paused covered
  | osPowerUp => exact processPowerUp_keepsCovered covered
  | policyPowerUp => exact processPowerUp_keepsCovered covered
  | osPowerDown => exact Covered.carried.goingDown covered
  | policyPowerDown => exact Covered.carried.goingDown covered
  | osWaiting => exact Covered.carried.osWaiting covered
  | off => exact covered

end Floid.Pmm
