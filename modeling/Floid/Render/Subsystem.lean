import Floid.Lib.Shelves
import Floid.Osk.Types

namespace Floid.Render

open Osk Lib

inductive CoreStatus where
  | idle
  | working
  | watchdogTimeout
  | poll
  | hangCheckTimeout
  | off
  deriving DecidableEq, Repr

/-- `mali_subsystem_job_end_code`, `JOB_STATUS_CONTINUE_RUN` apart. -/
inductive JobEndCode where
  | success
  | oom
  | abort
  | timeoutSw
  | hang
  | segFault
  | illegalJob
  | unknownErr
  | shutdown
  | systemUnusable
  deriving DecidableEq, Repr

/-- A place in `mali_core_array`. -/
abbrev CoreId := Nat

/-- The address of a `mali_core_session`. -/
abbrev SessionId := Nat

abbrev MmuId := Nat

/-- One of the `PRIORITY_LEVELS`; the lowest number has the highest priority. -/
abbrev Priority := Fin 3

def priorityMin : U32 := 2#32

def jobPrioritySet (priority : U32) : Priority :=
  if h : priorityMin < priority then 2
  else ⟨priority.toNat, by
    simp only [priorityMin, BitVec.lt_def, BitVec.toNat_ofNat] at h
    omega⟩

/-- `mali_core_job`, told from others by its number. -/
structure Job where
  number : Nat
  session : SessionId
  priority : Priority
  abortId : U32
  deriving DecidableEq, Repr

def jobHasHigherPriority (first second : Job) : Bool := first.priority < second.priority

/-- `mali_core_renderunit`; the timers are those that are pending, and `stalled` is the
`is_stalled_waiting_for_more_memory` of the current job. -/
structure RenderUnit where
  state : CoreStatus
  errorRecovery : Bool
  inDetachFunction : Bool
  currentJob : Option Job
  stalled : Bool
  timer : Bool
  timerHangDetection : Bool
  pendPowerDown : Bool
  deriving DecidableEq, Repr

/-- The lists a core may be on: `renderunit_idle_head`, `renderunit_off_head` and the
`renderunits_working_head` of each session. -/
inductive CoreList where
  | idle
  | off
  | working (session : SessionId)
  deriving DecidableEq, Repr

inductive PmmMessage where
  | jobScheduled (core : CoreId)
  | jobFinished (core : CoreId)
  | jobQueued
  | powerDownOkay (core : CoreId)
  deriving DecidableEq, Repr

inductive UtilizationCall where
  | coreStart (core : CoreId)
  | coreEnd (core : CoreId)
  deriving DecidableEq, Repr

/-- `mali_core_subsystem` with its cores and sessions, and what it has given out. -/
structure Subsystem where
  numberOfCores : Nat
  maliCoreArray : CoreId → RenderUnit
  mmu : CoreId → MmuId
  renderunits : Shelves CoreList CoreId
  /-- `awaiting_sessions_head`. -/
  awaitingSessions : Shelves Priority SessionId
  awaitingSessionsSumAllPriorities : Nat
  /-- `all_sessions_head`. -/
  allSessions : List SessionId
  jobWaitingToRun : SessionId → Option Job
  /-- `last_gp_core_cookie`, which the subsystem of the PP never sets. -/
  lastGpCoreCookie : Option CoreId
  messages : List PmmMessage
  /-- The calls of `mali_utilization_core_start` and `mali_utilization_core_end`. -/
  utilizationCalls : List UtilizationCall
  /-- The calls of `return_job_to_user`, each of which frees its job. -/
  returned : List (Job × JobEndCode)
  /-- The jobs given back through `job_return`. -/
  replaced : List Job
  accepted : List Job
  rejected : List Job
  misused : List Job
  allocated : List Job
  questions : Nat

/-- What the code outside answers: whether the MMU takes an address space and whether a
reference to one was the last, question by question, and for each job whether the L2
cache can be invalidated for it and whether it starts. -/
structure Outside where
  activates : Nat → Bool
  lastReference : Nat → Bool
  invalidates : Job → Bool
  starts : Job → Bool

namespace Subsystem

def ask (answers : Nat → Bool) (sub : Subsystem) : Bool × Subsystem :=
  (answers sub.questions, { sub with questions := sub.questions + 1 })

def freed (sub : Subsystem) : List Job := sub.returned.map Prod.fst ++ sub.rejected

def useJob (job : Job) (sub : Subsystem) : Subsystem :=
  if job ∈ sub.freed then { sub with misused := job :: sub.misused } else sub

def useCurrentJob (core : CoreId) (sub : Subsystem) : Subsystem :=
  match (sub.maliCoreArray core).currentJob with
  | some job => sub.useJob job
  | none => sub

def updateUnit (core : CoreId) (change : RenderUnit → RenderUnit) (sub : Subsystem) : Subsystem :=
  { sub with maliCoreArray := Function.update sub.maliCoreArray core (change (sub.maliCoreArray core)) }

def moveUnit (core : CoreId) (list : CoreList) (sub : Subsystem) : Subsystem :=
  { sub with renderunits := sub.renderunits.move core list }

def tell (message : PmmMessage) (sub : Subsystem) : Subsystem :=
  { sub with messages := message :: sub.messages }

def utilization (call : UtilizationCall) (sub : Subsystem) : Subsystem :=
  { sub with utilizationCalls := call :: sub.utilizationCalls }

def returnJobToUser (job : Job) (endStatus : JobEndCode) (sub : Subsystem) : Subsystem :=
  { sub.useJob job with returned := (job, endStatus) :: sub.returned, lastGpCoreCookie := none }

end Subsystem

/-- `mali_memory_core_mmu_release_address_space_reference`: with the last reference gone
the MMU calls back, if the subsystem has asked for it. -/
def releaseAddressSpaceReference (schedule : Subsystem → Subsystem) (outside : Outside)
    (sub : Subsystem) : Subsystem :=
  let (callsBack, sub) := sub.ask outside.lastReference
  if callsBack then schedule sub else sub

def setIdleWithoutJob (schedule : Subsystem → Subsystem) (outside : Outside) (core : CoreId)
    (oldstatus : CoreStatus) (sub : Subsystem) : Subsystem :=
  let sub :=
    if (sub.maliCoreArray core).pendPowerDown then sub
    else (sub.updateUnit core fun unit => { unit with state := .idle }).moveUnit core .idle
  let sub :=
    if oldstatus ≠ .off then
      releaseAddressSpaceReference schedule outside (sub.tell (.jobFinished core))
    else sub
  if (sub.maliCoreArray core).pendPowerDown then
    ((sub.updateUnit core fun unit =>
      { unit with state := .off, pendPowerDown := false }).moveUnit core .off).tell
        (.powerDownOkay core)
  else sub

def moveCoreSetIdle (schedule : Subsystem → Subsystem) (outside : Outside) (core : CoreId)
    (sub : Subsystem) : Subsystem :=
  setIdleWithoutJob schedule outside core (sub.maliCoreArray core).state
    (sub.updateUnit core fun unit =>
      { unit with timer := false, timerHangDetection := false, currentJob := none })

def moveSetWorking (core : CoreId) (job : Job) (sub : Subsystem) : Subsystem :=
  ((sub.useJob job).updateUnit core fun unit =>
    { unit with currentJob := some job, stalled := false, state := .working }).moveUnit
      core (.working job.session)

def moveCoreSetOff (core : CoreId) (sub : Subsystem) : Subsystem :=
  (sub.updateUnit core fun unit => { unit with currentJob := none, state := .off }).moveUnit
    core .off

def getWaitingSession (sub : Subsystem) : Option SessionId :=
  if sub.awaitingSessionsSumAllPriorities = 0 then none
  else (List.finRange 3).findSome? fun priority => (sub.awaitingSessions priority).head?

def releaseSessionGetJob (session : SessionId) (sub : Subsystem) : Option Job × Subsystem :=
  (sub.jobWaitingToRun session,
    { sub with
      awaitingSessions := sub.awaitingSessions.take session
      awaitingSessionsSumAllPriorities := sub.awaitingSessionsSumAllPriorities - 1
      jobWaitingToRun := Function.update sub.jobWaitingToRun session none })

def jobStartOnCore (schedule : Subsystem → Subsystem) (outside : Outside) (job : Job)
    (core : CoreId) (sub : Subsystem) : Subsystem :=
  let sub := moveSetWorking core job sub
  if outside.invalidates job then
    let sub := sub.utilization (.coreStart core)
    if outside.starts job then sub.updateUnit core fun unit => { unit with timer := true }
    else (moveCoreSetIdle schedule outside core sub).returnJobToUser job .illegalJob
  else (moveCoreSetIdle schedule outside core sub).returnJobToUser job .systemUnusable

def scheduleOnUnits (schedule : Subsystem → Subsystem) (outside : Outside) (session : SessionId) :
    List CoreId → Subsystem → Subsystem
  | [], sub => sub.tell .jobQueued
  | core :: rest, sub =>
      let (activated, sub) := sub.ask outside.activates
      if activated then
        match releaseSessionGetJob session sub with
        | (some job, sub) => jobStartOnCore schedule outside job core (sub.tell (.jobScheduled core))
        | (none, sub) => sub
      else scheduleOnUnits schedule outside session rest sub

theorem scheduleOnUnits_cons (schedule : Subsystem → Subsystem) (outside : Outside) (session : SessionId) (core : CoreId)
    (rest : List CoreId) (sub : Subsystem) :
    scheduleOnUnits schedule outside session (core :: rest) sub =
      let asked := (sub.ask outside.activates).2
      if (sub.ask outside.activates).1 then
        match (releaseSessionGetJob session asked).1 with
        | some job => jobStartOnCore schedule outside job core
            ((releaseSessionGetJob session asked).2.tell (.jobScheduled core))
        | none => (releaseSessionGetJob session asked).2
      else scheduleOnUnits schedule outside session rest asked := by
  rw [scheduleOnUnits]
  dsimp only
  generalize releaseSessionGetJob session (sub.ask outside.activates).2 = taken
  obtain ⟨_ | _, _⟩ := taken <;> rfl

def scheduleOnce (schedule : Subsystem → Subsystem) (outside : Outside) (sub : Subsystem) : Subsystem :=
  if sub.awaitingSessionsSumAllPriorities = 0 then sub
  else
    match getWaitingSession sub with
    | none => sub
    | some session => scheduleOnUnits schedule outside session (sub.renderunits .idle) sub

def scheduleNested (outside : Outside) : Nat → Subsystem → Subsystem
  | 0, sub => sub
  | depth + 1, sub => scheduleOnce (scheduleNested outside depth) outside sub

def schedule (outside : Outside) (sub : Subsystem) : Subsystem :=
  scheduleNested outside sub.awaitingSessions.total sub

end Floid.Render
