import Floid.Pmm.JobControl

namespace Floid.Pmm

open Osk Lib

inductive AfterReset where
  | checkPolicy
  | leave
  deriving DecidableEq, Repr

inductive Control where
  | waiting
  /-- About to test `check_policy`. -/
  | checking
  /-- At the head of the loop of `pmm_event_process`, with so many messages to go. -/
  | processing (processMessages : Nat)
  /-- In the loop of `pmm_fatal_reset` that takes a message off the internal queue. -/
  | purgingInternal (next : AfterReset)
  | purgingEvents (next : AfterReset)
  deriving DecidableEq, Repr

inductive Event where
  | notify (id : EventId) (data : U32) (created : Bool)
  | timerExpires
  | register (core : CoreMask) (powerOk : Bool)
  | unregister (core : CoreMask)
  | tick
  deriving DecidableEq, Repr

def Status.acceptsEvents (status : Status) : Bool :=
  status = .idle || status = .osWaiting || status = .dvfsPause

def nextMessage (pmm : PmmState) : Option Message :=
  match pmm.iqueue with
  | event :: _ => some event
  | [] => if pmm.status.acceptsEvents then pmm.queue.head? else none

def recordEvent (event : Message) (pmm : PmmState) : PmmState :=
  { pmm with history := .processed event.id (coresFromEventData pmm event) :: pmm.history }

def leaveProcess (pmm : PmmState) : Run Control :=
  if pmm.fatalPowerErr then
    (fatalReset pmm).bind fun _ pmm => .done (.purgingInternal .leave) pmm
  else .done .waiting pmm

def processMessage (platform : Platform) (processMessages : Nat) (event : Message) (pmm : PmmState) : Run Control :=
  (processJobControl platform event (recordEvent event
    { pmm with messagesQueued := pmm.messagesQueued - 1 })).bind fun _ pmm =>
      if pmm.fatalPowerErr then leaveProcess pmm else .done (.processing processMessages) pmm

def eventProcess (platform : Platform) : Nat → PmmState → Run Control
  | 0, pmm =>
      if pmm.status = .idle ∧ 0 < pmm.waiting then leaveProcess (scheduleWork pmm)
      else leaveProcess pmm
  | processMessages + 1, pmm =>
      match pmm.iqueue with
      | event :: rest => processMessage platform processMessages event { pmm with iqueue := rest }
      | [] =>
          if pmm.status.acceptsEvents then
            let pmm := { pmm with waiting := pmm.waiting - 1 }
            match pmm.queue with
            | event :: rest =>
                processMessage platform processMessages event { pmm with queue := rest }
            | [] => leaveProcess { pmm with noEvents := pmm.noEvents + 1 }
          else leaveProcess { pmm with waiting := pmm.waiting + 1 }

def bottomHalf (platform : Platform) : Control → PmmState → Option (Run Control)
  | .waiting, pmm =>
      if pmm.irqPending then
        let pmm := { pmm with irqPending := false }
        if pmm.status = .off then some (.done .waiting pmm)
        else if 0 < pmm.missed then
          some ((fatalReset pmm).bind fun _ pmm => .done (.purgingInternal .checkPolicy) pmm)
        else some (.done .checking pmm)
      else none
  | .checking, pmm =>
      if pmm.checkPolicy then
        some (.done .waiting (policyTimerRaiseEvent platform.created { pmm with checkPolicy := false }))
      else some (.done (.processing pmm.messagesQueued) pmm)
  | .processing processMessages, pmm => some (eventProcess platform processMessages pmm)
  | .purgingInternal next, pmm =>
      match pmm.iqueue with
      | _ :: rest => some (.done (.purgingEvents next) { pmm with iqueue := rest })
      -- the loop spins until there is a message
      | [] => none
  | .purgingEvents next, pmm =>
      match pmm.queue with
      | _ :: rest =>
          let pmm := { pmm with queue := rest, status := .idle }
          match next with
          | .checkPolicy => some (.done .checking pmm)
          | .leave => some (.done .waiting pmm)
      | [] => none

def Event.Happens (lockFree : Bool) : Event → PmmState → PmmState → Prop
  | .notify id data created, before, after => after = eventMessage id data created before
  | .timerExpires, before, after => before.latency.armed = true ∧ after = policyTimerCallback before
  | .register core powerOk, before, after => lockFree = true ∧ after = coreRegister core powerOk before
  | .unregister core, before, after => lockFree = true ∧ after = coreUnregister core before
  | .tick, before, after => after = { before with clock := before.clock + 1 }

/-- The PMM when the driver has been loaded: `malipmm_create`, the registration of the
cores and `pmm_policy_init_job_control`. -/
def loadComplete (cores : CoreMask) (clock : U32) : PmmState :=
  jobControlTimeoutSetup
    { status := .idle
      checkPolicy := false
      coresRegistered := cores
      coresPowered := cores
      coresIdle := cores
      coresPendDown := 0#32
      coresPendUp := 0#32
      coresAckDown := 0#32
      coresAckUp := 0#32
      queue := []
      iqueue := []
      osData := 0#32
      messagesQueued := 0
      waiting := 0
      noEvents := 0
      missed := 0
      fatalPowerErr := false
      isDvfsActive := false
      latency := ⟨inactivityTimeout, false, false, 0#32, false⟩
      coreActiveStart := clock
      irqPending := false
      clock := clock
      replies := []
      history := [] }

def pmmWorker : Worker PmmState Signal Errcode Control Platform Event where
  initial pmm control := control = .waiting ∧ ∃ cores clock, pmm = loadComplete cores clock
  lockFree control := control = .waiting
  step control platform pmm := bottomHalf platform control pmm
  event lockFree event := event.Happens lockFree

def workingPlatform : Platform := ⟨true, true⟩

theorem reach_loaded (allowed : Worker.Configuration PmmState Signal Errcode Control →
      Worker.Label Errcode Platform Event → Prop) :
    (pmmWorker.system.restrict allowed).Reachable
      ⟨loadComplete coreGP 0#32, .between .waiting⟩ :=
  .initial ⟨.waiting, rfl, rfl, coreGP, 0#32, rfl⟩

end Floid.Pmm
