import Floid.Lib.Transition
import Floid.Render.Subsystem

namespace Floid.Render

open Osk Lib
open Function (update)

def takeJobFromCore (core : CoreId) (sub : Subsystem) : Subsystem :=
  (sub.useCurrentJob core).updateUnit core fun unit =>
    { unit with inDetachFunction := true, currentJob := none }

def finishDetach (outside : Outside) (core : CoreId) (reschedule : Bool) (endStatus : JobEndCode)
    (job : Option Job) (sub : Subsystem) : Subsystem :=
  let sub :=
    if (sub.maliCoreArray core).state ≠ .idle then
      moveCoreSetIdle (schedule outside) outside core (sub.utilization (.coreEnd core))
    else sub
  let sub := sub.updateUnit core fun unit => { unit with inDetachFunction := false }
  let sub := if reschedule then schedule outside sub else sub
  match job with
  | some job => sub.returnJobToUser job endStatus
  | none => sub

def detachWithReset (reset : Subsystem → Subsystem) (outside : Outside) (core : CoreId)
    (reschedule : Bool) (endStatus : JobEndCode) (sub : Subsystem) : Subsystem :=
  if (sub.maliCoreArray core).inDetachFunction then reset sub
  else
    finishDetach outside core reschedule endStatus (sub.maliCoreArray core).currentJob
      (reset (takeJobFromCore core sub))

def forUnits (action : CoreId → Subsystem → Subsystem) (sub : Subsystem) : Subsystem :=
  (List.range sub.numberOfCores).foldl (fun sub core => action core sub) sub

def stopBusForAllCoresOnMmu (mmu : MmuId) (sub : Subsystem) : Subsystem :=
  forUnits (fun core sub =>
    if sub.mmu core = mmu ∧ (sub.maliCoreArray core).state ≠ .idle then
      sub.updateUnit core fun unit => { unit with errorRecovery := true }
    else sub) sub

def resetAllCoresOnMmu (outside : Outside) (mmu : MmuId) (sub : Subsystem) : Subsystem :=
  forUnits (fun core sub =>
    if sub.mmu core = mmu ∧ (sub.maliCoreArray core).state ≠ .idle then
      detachWithReset id outside core false .segFault sub
    else sub) sub

def continueJobHandling (outside : Outside) (sub : Subsystem) : Subsystem :=
  let sub := forUnits (fun core => Subsystem.updateUnit core fun unit =>
    { unit with errorRecovery := false }) sub
  (schedule outside)^[min sub.numberOfCores sub.awaitingSessionsSumAllPriorities] sub

def mmuBusReset (outside : Outside) (mmu : MmuId) (sub : Subsystem) : Subsystem :=
  continueJobHandling outside
    (releaseAddressSpaceReference (schedule outside) outside
      (resetAllCoresOnMmu outside mmu (stopBusForAllCoresOnMmu mmu sub)))

def resetCore (outside : Outside) (stuck : CoreId → Bool) (core : CoreId) (sub : Subsystem) : Subsystem :=
  if stuck core ∧ (sub.maliCoreArray core).errorRecovery = false then
    mmuBusReset outside (sub.mmu core) sub
  else sub

def detachJobFromCore (outside : Outside) (stuck : CoreId → Bool) (core : CoreId)
    (reschedule : Bool) (endStatus : JobEndCode) (sub : Subsystem) : Subsystem :=
  detachWithReset (if endStatus = .segFault then id else resetCore outside stuck core) outside core
    reschedule endStatus sub

def registerRenderunit (mmu : MmuId) (sub : Subsystem) : Subsystem :=
  { sub with
    numberOfCores := sub.numberOfCores + 1
    maliCoreArray := update sub.maliCoreArray sub.numberOfCores
      ⟨.idle, false, false, none, false, false, false, false⟩
    mmu := update sub.mmu sub.numberOfCores mmu
    renderunits := sub.renderunits.putFirst sub.numberOfCores .idle }

def sessionBegin (session : SessionId) (sub : Subsystem) : Subsystem :=
  { sub with
    renderunits := update sub.renderunits (.working session) []
    jobWaitingToRun := update sub.jobWaitingToRun session none
    allSessions := session :: sub.allSessions }

def useWaitingJob (session : SessionId) (sub : Subsystem) : Subsystem :=
  match sub.jobWaitingToRun session with
  | some job => sub.useJob job
  | none => sub

def queueJob (session : SessionId) (job : Job) (sub : Subsystem) : Subsystem :=
  { sub with
    jobWaitingToRun := update sub.jobWaitingToRun session (some job)
    awaitingSessions := sub.awaitingSessions.putLast session job.priority
    awaitingSessionsSumAllPriorities := sub.awaitingSessionsSumAllPriorities + 1
    accepted := job :: sub.accepted }

def replaceJob (session : SessionId) (waiting : Job) (sub : Subsystem) : Subsystem :=
  { sub with
    awaitingSessions := sub.awaitingSessions.take session
    awaitingSessionsSumAllPriorities := sub.awaitingSessionsSumAllPriorities - 1
    replaced := waiting :: sub.replaced }

def sessionAddJob (outside : Outside) (session : SessionId) (job : Job) (sub : Subsystem) :
    Errcode × Option Job × Subsystem :=
  match sub.jobWaitingToRun session with
  | some waiting =>
      if jobHasHigherPriority job waiting then
        (.ok, some waiting, schedule outside (queueJob session job (replaceJob session waiting sub)))
      else (.fault, none, sub)
  | none => (.ok, none, schedule outside (queueJob session job sub))

inductive StartStatus where
  | started
  | startedLowPriJobReturned (job : Job)
  | notStartedDoRequeue
  | failed (err : Errcode)
  deriving DecidableEq, Repr

def newJob (session : SessionId) (priority abortId : U32) (sub : Subsystem) : Job :=
  ⟨sub.allocated.length, session, jobPrioritySet priority, abortId⟩

def rejectJob (job : Job) (sub : Subsystem) : Subsystem :=
  { sub.useJob job with rejected := job :: sub.rejected }

def addNewJob (outside : Outside) (job : Job) (notification readsStarted : Bool) (sub : Subsystem) :
    StartStatus × Subsystem :=
  let sub := useWaitingJob job.session sub
  if (sub.jobWaitingToRun job.session).any fun waiting => !jobHasHigherPriority job waiting then
    (.notStartedDoRequeue, rejectJob job sub)
  else if notification then
    match sessionAddJob outside job.session job sub with
    | (.ok, some replaced, sub) => (.startedLowPriJobReturned replaced, sub.useJob replaced)
    -- the job number is set
    | (.ok, none, sub) => (.started, sub.useJob job)
    | (_, _, sub) => (.notStartedDoRequeue, rejectJob job sub)
  else
    let sub := rejectJob job sub
    (.failed .nomem, if readsStarted then sub.useJob job else sub)

/-- `get_new_job_from_user`, the same for both kinds of core, when there is memory for the
job. The flags tell whether a notification could be created, and whether the status
that user space has passed in reads as started. -/
def getNewJobFromUser (outside : Outside) (session : SessionId) (priority abortId : U32)
    (notification readsStarted : Bool) (sub : Subsystem) : StartStatus × Subsystem :=
  let job := newJob session priority abortId sub
  addNewJob outside job notification readsStarted { sub with allocated := job :: sub.allocated }

inductive IrqAnswer where
  | ended (status : JobEndCode)
  | goesOn
  | checksHang (setsWorking : Bool)
  | stalls

def IrqAnswer.apply (core : CoreId) (sub : Subsystem) : IrqAnswer → Subsystem
  | .ended _ | .goesOn => sub
  | .checksHang setsWorking => sub.updateUnit core fun unit =>
      { unit with state := if setsWorking then .working else unit.state, timerHangDetection := true }
  | .stalls =>
      { sub.updateUnit core fun unit =>
          { unit with state := .working, stalled := true, timer := true, timerHangDetection := false } with
        lastGpCoreCookie := some core }

def irqAnswer (handler : RenderUnit → IrqAnswer) (unit : RenderUnit) : IrqAnswer :=
  if unit.currentJob = none then .ended .unknownErr else handler unit

def continueRun (outside : Outside) (stuck : CoreId → Bool) (core : CoreId) (sub : Subsystem) : Subsystem :=
  match (sub.maliCoreArray core).state with
  | .watchdogTimeout => detachJobFromCore outside stuck core true .timeoutSw sub
  | .poll => sub.updateUnit core fun unit => { unit with state := .working, timer := true }
  | _ => sub

def irqHandlerBottomHalf (outside : Outside) (stuck : CoreId → Bool) (core : CoreId)
    (handler : RenderUnit → IrqAnswer) (sub : Subsystem) : Subsystem :=
  if (sub.maliCoreArray core).state = .idle then sub
  else
    let sub := sub.useCurrentJob core
    match irqAnswer handler (sub.maliCoreArray core) with
    | .ended jobStatus => detachJobFromCore outside stuck core true jobStatus sub
    | answer => continueRun outside stuck core (answer.apply core sub)

def timeoutFunction (core : CoreId) (polls : Bool) (sub : Subsystem) : Subsystem :=
  (sub.useCurrentJob core).updateUnit core fun unit =>
    { unit with
      timer := false
      state := if polls ∧ unit.currentJob ≠ none then .poll else .watchdogTimeout }

def timeoutFunctionHangDetection (core : CoreId) (sub : Subsystem) : Subsystem :=
  sub.updateUnit core fun unit =>
    { unit with
      timerHangDetection := false
      state :=
        if unit.state = .watchdogTimeout ∨ unit.state = .idle then unit.state
        else .hangCheckTimeout }

def nextUnit (core : CoreId) : List CoreId → Option CoreId
  | [] => none
  | head :: rest => if head = core then rest.head? else nextUnit core rest

/-- The loop of `find_and_abort` in so many steps, which has looked up the next core before
it detaches one. There is no result if that core is not on the session's list any more and
the walk goes on along another list. -/
def abortWorking (outside : Outside) (stuck : CoreId → Bool) (session : SessionId) (abortId : U32) :
    Nat → CoreId → Subsystem → Option Subsystem
  | 0, _, _ => none
  | steps + 1, core, sub =>
      if core ∈ sub.renderunits (.working session) then
        let sub := sub.useCurrentJob core
        let tmp := nextUnit core (sub.renderunits (.working session))
        let next (sub : Subsystem) : Option Subsystem :=
          match tmp with
          | some tmp => abortWorking outside stuck session abortId steps tmp sub
          | none => some sub
        if (sub.maliCoreArray core).currentJob.any fun job => job.abortId = abortId then
          if (sub.maliCoreArray core).state = .idle then some sub
          else next (detachJobFromCore outside stuck core true .abort sub)
        else next sub
      else none

theorem abortWorking_next_iff {outside : Outside} {stuck : CoreId → Bool} {session : SessionId}
    {abortId : U32} {steps : Nat} {sub after : Subsystem} {tmp : Option CoreId} :
    (match tmp with
      | some tmp => abortWorking outside stuck session abortId steps tmp sub
      | none => some sub) = some after ↔
      (tmp.elim (some sub) fun tmp => abortWorking outside stuck session abortId steps tmp sub) =
        some after := by
  cases tmp <;> exact Iff.rfl

def abortWaiting (session : SessionId) (abortId : U32) (sub : Subsystem) : Subsystem :=
  let sub := useWaitingJob session sub
  match sub.jobWaitingToRun session with
  | some job =>
      if job.abortId = abortId then
        (releaseSessionGetJob session sub).2.returnJobToUser job .abort
      else sub
  | none => sub

/-- `find_and_abort`, with a loop of so many steps at most. -/
def findAndAbort (outside : Outside) (stuck : CoreId → Bool) (session : SessionId) (abortId : U32)
    (steps : Nat) (sub : Subsystem) : Option Subsystem :=
  let sub := abortWaiting session abortId sub
  match sub.renderunits (.working session) with
  | core :: _ => abortWorking outside stuck session abortId steps core sub
  | [] => some sub

def sessionClose (outside : Outside) (stuck : CoreId → Bool) (session : SessionId) (sub : Subsystem) : Subsystem :=
  let sub :=
    match sub.jobWaitingToRun session with
    | some job => (releaseSessionGetJob session (sub.returnJobToUser job .shutdown)).2
    | none => sub
  let sub :=
    match sub.renderunits (.working session) with
    -- the loop is left after one core
    | core :: _ => detachJobFromCore outside stuck core true .shutdown sub
    | [] => sub
  { sub with
    renderunits := update sub.renderunits (.working session) []
    allSessions := sub.allSessions.erase session }

theorem sessionClose_eq (outside : Outside) (stuck : CoreId → Bool) (session : SessionId) (sub : Subsystem) :
    sessionClose outside stuck session sub =
      let waited := (sub.jobWaitingToRun session).elim sub fun job =>
        (releaseSessionGetJob session (sub.returnJobToUser job .shutdown)).2
      let left := (waited.renderunits (.working session)).head?.elim waited fun core =>
        detachJobFromCore outside stuck core true .shutdown waited
      { left with
        renderunits := update left.renderunits (.working session) []
        allSessions := left.allSessions.erase session } := by
  rw [sessionClose]
  cases sub.jobWaitingToRun session with
  | none =>
    dsimp only [Option.elim]
    cases sub.renderunits (.working session) <;> rfl
  | some job =>
    dsimp only [Option.elim]
    generalize (releaseSessionGetJob session (sub.returnJobToUser job .shutdown)).2 = waited
    cases waited.renderunits (.working session) <;> rfl

def signalPowerDown (core : CoreId) (immediateOnly : Bool) (sub : Subsystem) : Errcode × Subsystem :=
  if core < sub.numberOfCores then
    if (sub.maliCoreArray core).state ≠ .idle then
      (.busy,
        if immediateOnly then sub
        else sub.updateUnit core fun unit => { unit with pendPowerDown := true })
    else (.ok, moveCoreSetOff core sub)
  else (.fault, sub)

def signalPowerUp (outside : Outside) (stuck : CoreId → Bool) (core : CoreId) (queueOnly : Bool)
    (sub : Subsystem) : Errcode × Subsystem :=
  if core < sub.numberOfCores then
    if (sub.maliCoreArray core).state ≠ .off then
      (.busy, sub.updateUnit core fun unit => { unit with pendPowerDown := false })
    else
      let sub := moveCoreSetIdle (schedule outside) outside core sub
      let sub := if queueOnly then sub else resetCore outside stuck core sub
      (.ok, schedule outside sub)
  else (.fault, sub)

inductive Action where
  | registerRenderunit (mmu : MmuId)
  | sessionBegin (session : SessionId)
  | startJob (session : SessionId) (priority abortId : U32) (notification readsStarted : Bool)
  | abortJob (session : SessionId) (abortId : U32)
  | sessionClose (session : SessionId)
  | interrupt (core : CoreId) (handler : RenderUnit → IrqAnswer)
  | watchdog (core : CoreId) (polls : Bool)
  | hangDetection (core : CoreId)
  | powerDown (core : CoreId) (immediateOnly : Bool)
  | powerUp (core : CoreId) (queueOnly : Bool)
  | mmuBusReset (mmu : MmuId)
  | mmuIdle

structure Occurrence where
  action : Action
  outside : Outside
  stuck : CoreId → Bool

def Occurrence.perform (occurrence : Occurrence) (steps : Nat) (sub : Subsystem) : Option Subsystem :=
  let ⟨action, outside, stuck⟩ := occurrence
  match action with
  | .registerRenderunit mmu => some (registerRenderunit mmu sub)
  | .sessionBegin session =>
      if session ∈ sub.allSessions then none else some (sessionBegin session sub)
  | .startJob session priority abortId notification readsStarted =>
      if session ∈ sub.allSessions then
        some (getNewJobFromUser outside session priority abortId notification readsStarted sub).2
      else none
  | .abortJob session abortId =>
      if session ∈ sub.allSessions then findAndAbort outside stuck session abortId steps sub
      else none
  | .sessionClose session =>
      if session ∈ sub.allSessions then some (sessionClose outside stuck session sub) else none
  | .interrupt core handler =>
      if core < sub.numberOfCores then
        some (irqHandlerBottomHalf outside stuck core handler sub)
      else none
  | .watchdog core polls =>
      if (sub.maliCoreArray core).timer then some (timeoutFunction core polls sub) else none
  | .hangDetection core =>
      if (sub.maliCoreArray core).timerHangDetection then
        some (timeoutFunctionHangDetection core sub)
      else none
  | .powerDown core immediateOnly => some (signalPowerDown core immediateOnly sub).2
  | .powerUp core queueOnly => some (signalPowerUp outside stuck core queueOnly sub).2
  | .mmuBusReset mmu => some (mmuBusReset outside mmu sub)
  | .mmuIdle => some (schedule outside sub)

def initialSubsystem : Subsystem where
  numberOfCores := 0
  maliCoreArray _ := ⟨.idle, false, false, none, false, false, false, false⟩
  mmu _ := 0
  renderunits _ := []
  awaitingSessions _ := []
  awaitingSessionsSumAllPriorities := 0
  allSessions := []
  jobWaitingToRun _ := none
  lastGpCoreCookie := none
  messages := []
  utilizationCalls := []
  returned := []
  replaced := []
  accepted := []
  rejected := []
  misused := []
  allocated := []
  questions := 0

def subsystemRuns : TransitionSystem Subsystem Occurrence where
  initial sub := sub = initialSubsystem
  step before occurrence after := ∃ steps, occurrence.perform steps before = some after

end Floid.Render
