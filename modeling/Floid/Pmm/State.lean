import Floid.Osk.Types

/-!
The state of the power management module (PMM), its event messages and its timer. What
the kernel keeps for it stands beside its own fields: the pending flag of the bottom
half, the armed timer and the clock.
-/

namespace Floid.Pmm

open Osk

abbrev CoreMask := U32

inductive Status where
  | idle
  | policyPowerDown
  | policyPowerUp
  | osWaiting
  | osPowerDown
  | dvfsPause
  | osPowerUp
  | off
  deriving DecidableEq, Repr

inductive EventId where
  | osPowerUp
  | osPowerDown
  | jobScheduled
  | jobQueued
  | jobFinished
  | timeout
  | dvfsPause
  | dvfsResume
  | internalPowerUpAck
  | internalPowerDownAck
  | other (number : Nat)
  deriving DecidableEq, Repr

def eventInternals : Nat := 1000

def EventId.isInternal : EventId → Bool
  | .internalPowerUpAck => true
  | .internalPowerDownAck => true
  | .other number => eventInternals < number
  | _ => false

/-- `mali_pmm_message_t`. -/
structure Message where
  id : EventId
  ts : U32
  data : U32
  deriving DecidableEq, Repr

/-- `_pmm_policy_timer_t`. -/
structure PolicyTimer where
  timeout : U32
  set : Bool
  expired : Bool
  start : U32
  armed : Bool
  deriving DecidableEq, Repr

inductive OsReply where
  | powerUpDone (data : U32)
  | powerDownDone (data : U32)
  | dvfsOperationDone (data : U32)
  deriving DecidableEq, Repr

inductive CoreRecord where
  | processed (id : EventId) (cores : CoreMask)
  | registered (cores : CoreMask)
  deriving DecidableEq, Repr

/-- `_mali_pmm_internal_state_t` with the data of the job control policy. -/
structure PmmState where
  status : Status
  checkPolicy : Bool
  coresRegistered : CoreMask
  coresPowered : CoreMask
  coresIdle : CoreMask
  coresPendDown : CoreMask
  coresPendUp : CoreMask
  coresAckDown : CoreMask
  coresAckUp : CoreMask
  queue : List Message
  iqueue : List Message
  osData : U32
  messagesQueued : Nat
  waiting : Nat
  noEvents : Nat
  missed : Nat
  fatalPowerErr : Bool
  isDvfsActive : Bool
  latency : PolicyTimer
  coreActiveStart : U32
  irqPending : Bool
  clock : U32
  replies : List OsReply
  history : List CoreRecord

def scheduleWork (pmm : PmmState) : PmmState := { pmm with irqPending := true }

def eventMessage (id : EventId) (data : U32) (created : Bool) (pmm : PmmState) : PmmState :=
  scheduleWork <|
    if created then
      let msg : Message := { id, ts := pmm.clock, data }
      if id.isInternal then
        { pmm with messagesQueued := pmm.messagesQueued + 1, iqueue := pmm.iqueue ++ [msg] }
      else
        { pmm with messagesQueued := pmm.messagesQueued + 1, queue := pmm.queue ++ [msg] }
    else { pmm with missed := pmm.missed + 1 }

def timeAfter (ticka tickb : U32) : Bool := (tickb - ticka).msb

def policyTimerStart (pmm : PmmState) : PmmState :=
  if pmm.latency.set then pmm
  else
    { pmm with
      latency :=
        { pmm.latency with set := true, expired := false, start := pmm.clock, armed := true } }

def policyTimerStop (pmm : PmmState) : PmmState :=
  if pmm.latency.set then
    { pmm with latency := { pmm.latency with set := false, expired := false, armed := false } }
  else pmm

def policyTimerRaiseEvent (created : Bool) (pmm : PmmState) : PmmState :=
  if pmm.latency.expired then
    eventMessage .timeout pmm.latency.start created
      { pmm with latency := { pmm.latency with expired := false, set := false } }
  else pmm

def policyTimerValid (timerStart otherStart : U32) : Bool := !timeAfter otherStart timerStart

def policyTimerCallback (pmm : PmmState) : PmmState :=
  scheduleWork
    { pmm with latency := { pmm.latency with expired := true, armed := false }, checkPolicy := true }

def saveOsEventData (data : U32) (pmm : PmmState) : PmmState := { pmm with osData := data }

def replyRetrieved (reply : U32 → OsReply) (pmm : PmmState) : PmmState :=
  { pmm with replies := reply pmm.osData :: pmm.replies, osData := 0#32 }

def replyWith (reply : OsReply) (pmm : PmmState) : PmmState := { pmm with replies := reply :: pmm.replies }

def coreRegister (core : CoreMask) (powerOk : Bool) (pmm : PmmState) : PmmState :=
  if powerOk then
    { pmm with
      coresRegistered := pmm.coresRegistered ||| core
      coresIdle := pmm.coresIdle ||| core
      coresPowered := pmm.coresPowered ||| core
      history := .registered core :: pmm.history }
  else pmm

def coreUnregister (core : CoreMask) (pmm : PmmState) : PmmState :=
  { pmm with
    coresRegistered := pmm.coresRegistered &&& ~~~core
    coresIdle := pmm.coresIdle &&& ~~~core
    coresPowered := pmm.coresPowered &&& ~~~core
    coresPendDown := pmm.coresPendDown &&& ~~~core
    coresPendUp := pmm.coresPendUp &&& ~~~core
    coresAckDown := pmm.coresAckDown &&& ~~~core
    coresAckUp := pmm.coresAckUp &&& ~~~core }

theorem eventMessage_frame (id : EventId) (data : U32) (created : Bool) (pmm : PmmState) :
    ∃ queue iqueue messagesQueued missed, eventMessage id data created pmm =
      { pmm with queue, iqueue, messagesQueued, missed, irqPending := true } := by
  simp only [eventMessage, scheduleWork]
  split
  · split
    · exact ⟨_, _, _, _, rfl⟩
    · exact ⟨_, _, _, _, rfl⟩
  · exact ⟨_, _, _, _, rfl⟩

theorem policyTimerStart_frame (pmm : PmmState) : ∃ latency, policyTimerStart pmm = { pmm with latency } := by
  rw [policyTimerStart]
  split
  · exact ⟨pmm.latency, rfl⟩
  · exact ⟨_, rfl⟩

theorem policyTimerStop_frame (pmm : PmmState) : ∃ latency, policyTimerStop pmm = { pmm with latency } := by
  rw [policyTimerStop]
  split
  · exact ⟨_, rfl⟩
  · exact ⟨pmm.latency, rfl⟩

theorem policyTimerRaiseEvent_frame (created : Bool) (pmm : PmmState) :
    ∃ latency queue iqueue messagesQueued missed irqPending, policyTimerRaiseEvent created pmm =
      { pmm with latency, queue, iqueue, messagesQueued, missed, irqPending } := by
  rw [policyTimerRaiseEvent]
  split
  · obtain ⟨queue, iqueue, messagesQueued, missed, sent⟩ := eventMessage_frame .timeout
      pmm.latency.start created
      { pmm with latency := { pmm.latency with expired := false, set := false } }
    exact ⟨_, queue, iqueue, messagesQueued, missed, true, sent⟩
  · exact ⟨_, _, _, _, _, _, rfl⟩

end Floid.Pmm
