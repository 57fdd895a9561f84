import Floid.Render.Operations

/-!
What happens to a subsystem, one small step after the other. What every step keeps is kept
by the functions, whatever the books say.
-/

namespace Floid.Render

open Osk Lib
open List (suffix_rfl)
open Prod (fst snd)
open Set (mem_univ univ)
open Option (some.inj)

inductive Step (ends : Set Job) : Subsystem → Subsystem → Prop where
  | useJob (sub : Subsystem) (job : Job) : Step ends sub (sub.useJob job)
  | ask (sub : Subsystem) (answers : Nat → Bool) : Step ends sub (sub.ask answers).2
  | tell (sub : Subsystem) (message : PmmMessage) : Step ends sub (sub.tell message)
  | utilization (sub : Subsystem) (call : UtilizationCall) : Step ends sub (sub.utilization call)
  | updateUnit (sub : Subsystem) (core : CoreId) (change : RenderUnit → RenderUnit)
      (job : ∀ unit, (change unit).currentJob = unit.currentJob ∨ (change unit).currentJob = none)
      (stalled : ∀ unit, (change unit).stalled = unit.stalled) :
      Step ends sub (sub.updateUnit core change)
  | moveUnit (sub : Subsystem) (core : CoreId) (list : CoreList) : Step ends sub (sub.moveUnit core list)
  | startJob (sub : Subsystem) (core : CoreId) (session : SessionId) (job : Job)
      (waits : sub.jobWaitingToRun session = some job) :
      Step ends sub (moveSetWorking core job ((releaseSessionGetJob session sub).2.tell (.jobScheduled core)))
  | releaseSession (sub : Subsystem) (session : SessionId) : Step ends sub (releaseSessionGetJob session sub).2
  | returnJob (sub : Subsystem) (job : Job) (ends_ : job ∈ ends) (endStatus : JobEndCode) :
      Step ends sub (sub.returnJobToUser job endStatus)
  | registerRenderunit (sub : Subsystem) (mmu : MmuId) : Step ends sub (registerRenderunit mmu sub)
  | sessionBegin (sub : Subsystem) (session : SessionId) : Step ends sub (sessionBegin session sub)
  | sessionEnd (sub : Subsystem) (session : SessionId) : Step ends sub
      { sub with
        renderunits := Function.update sub.renderunits (.working session) []
        allSessions := sub.allSessions.erase session }
  | allocate (sub : Subsystem) (job : Job) : Step ends sub { sub with allocated := job :: sub.allocated }
  | queueJob (sub : Subsystem) (session : SessionId) (job : Job) (unknown : job ∉ sub.accepted) :
      Step ends sub (queueJob session job sub)
  | replaceJob (sub : Subsystem) (session : SessionId) (waiting : Job)
      (waits : sub.jobWaitingToRun session = some waiting) :
      Step ends sub (replaceJob session waiting sub)
  | rejectJob (sub : Subsystem) (job : Job) : Step ends sub (rejectJob job sub)

abbrev Steps (ends : Set Job) : Subsystem → Subsystem → Prop :=
  Relation.ReflTransGen (Step ends)

def Outside.Runs (outside : Outside) (job : Job) : Prop :=
  outside.invalidates job = true ∧ outside.starts job = true

instance (outside : Outside) (job : Job) : Decidable (outside.Runs job) :=
  inferInstanceAs (Decidable (_ ∧ _))

def Outside.fails (outside : Outside) : Set Job := { job | ¬ outside.Runs job }

section Along

variable {R : Subsystem → Subsystem → Prop} {schedule : Subsystem → Subsystem} {outside : Outside}
  {core : CoreId} (refl : ∀ {sub}, R sub sub)
  (trans : ∀ {sub between after}, R sub between → R between after → R sub after)

include trans in
theorem releaseAddressSpaceReference_along (asked : ∀ sub, R sub (sub.ask outside.lastReference).2)
    (called : ∀ sub, R sub (schedule sub)) (sub : Subsystem) :
    R sub (releaseAddressSpaceReference schedule outside sub) := by
  rw [releaseAddressSpaceReference]
  split
  next callsBack sub' answer =>
    have same : sub' = (sub.ask outside.lastReference).2 := (congrArg snd answer).symm
    subst same
    split
    next => exact trans (asked sub) (called _)
    next => exact asked sub

include refl trans

theorem setIdleWithoutJob_along (idle : ∀ sub, R sub
      ((sub.updateUnit core fun unit => { unit with state := .idle }).moveUnit core .idle))
    (off : ∀ sub, R sub (((sub.updateUnit core fun unit =>
      { unit with state := .off, pendPowerDown := false }).moveUnit core .off).tell
        (.powerDownOkay core)))
    (told : ∀ sub, R sub (sub.tell (.jobFinished core)))
    (released : ∀ sub, R sub (releaseAddressSpaceReference schedule outside sub))
    (oldstatus : CoreStatus) (sub : Subsystem) :
    R sub (setIdleWithoutJob schedule outside core oldstatus sub) := by
  have moved (sub : Subsystem) (pends : Bool) : R sub (if pends then sub
      else (sub.updateUnit core fun unit => { unit with state := .idle }).moveUnit core .idle) := by
    split
    next => exact refl
    next => exact idle sub
  have callsBack (sub : Subsystem) : R sub (if oldstatus ≠ .off then
      releaseAddressSpaceReference schedule outside (sub.tell (.jobFinished core)) else sub) := by
    split
    next => exact trans (told sub) (released _)
    next => exact refl
  have switched (sub : Subsystem) : R sub (if (sub.maliCoreArray core).pendPowerDown then
      ((sub.updateUnit core fun unit =>
        { unit with state := .off, pendPowerDown := false }).moveUnit core .off).tell
          (.powerDownOkay core)
      else sub) := by
    split
    next => exact off sub
    next => exact refl
  exact trans (trans (moved sub (sub.maliCoreArray core).pendPowerDown) (callsBack _)) (switched _)

theorem forUnits_along {action : CoreId → Subsystem → Subsystem}
    (step : ∀ core sub, R sub (action core sub)) (sub : Subsystem) : R sub (forUnits action sub) := by
  rw [forUnits]
  generalize List.range sub.numberOfCores = cores
  induction cores generalizing sub with
  | nil => exact refl
  | cons core rest induction => exact trans (step core sub) (induction _)

end Along

variable {ends : Set Job} {sub after : Subsystem} {schedule : Subsystem → Subsystem} {outside : Outside}

variable {sub' : Subsystem} {job : Job}

theorem Steps.preserve (steps : Steps ends sub sub')
    (relates : Subsystem → Subsystem → Prop) (refl : ∀ sub, relates sub sub)
    (trans : ∀ first second third, relates first second → relates second third → relates first third)
    (step : ∀ first second, Step ends first second → relates first second) : relates sub sub' := by
  induction steps with
  | refl => exact refl sub
  | tail _ last induction => exact trans _ _ _ induction (step _ _ last)

theorem Subsystem.useJob_with (sub : Subsystem) (job : Job) :
    ∃ misused, sub.useJob job = { sub with misused } := by
  rw [Subsystem.useJob]
  split
  next => exact ⟨job :: sub.misused, rfl⟩
  next => exact ⟨sub.misused, rfl⟩

theorem useCurrentJob_maliCoreArray (core : CoreId) (sub : Subsystem) :
    (sub.useCurrentJob core).maliCoreArray = sub.maliCoreArray := by
  rw [Subsystem.useCurrentJob]
  split
  next job _ =>
    obtain ⟨misused, used⟩ := sub.useJob_with job
    rw [used]
  next => rfl

theorem steps_releaseAddressSpaceReference (called : ∀ sub, Steps ends sub (schedule sub))
    (outside : Outside) (sub : Subsystem) :
    Steps ends sub (releaseAddressSpaceReference schedule outside sub) :=
  releaseAddressSpaceReference_along .trans (fun sub => .single (.ask sub _)) called sub

theorem steps_setIdleWithoutJob (called : ∀ sub, Steps ends sub (schedule sub)) (outside : Outside)
    (core : CoreId) (oldstatus : CoreStatus) (sub : Subsystem) :
    Steps ends sub (setIdleWithoutJob schedule outside core oldstatus sub) := by
  apply setIdleWithoutJob_along .refl .trans
  · intro sub
    have idle : Steps ends sub (sub.updateUnit core fun unit => { unit with state := .idle }) :=
      .single (.updateUnit sub core _ (fun _ => .inl rfl) fun _ => rfl)
    exact idle.tail (.moveUnit _ core .idle)
  · intro sub
    have off : Steps ends sub
        (sub.updateUnit core fun unit => { unit with state := .off, pendPowerDown := false }) :=
      .single (.updateUnit sub core _ (fun _ => .inl rfl) fun _ => rfl)
    exact (off.tail (.moveUnit _ core .off)).tail (.tell _ _)
  · exact fun sub => .single (.tell sub _)
  · exact steps_releaseAddressSpaceReference called outside

theorem steps_moveCoreSetIdle (called : ∀ sub, Steps ends sub (schedule sub)) (outside : Outside)
    (core : CoreId) (sub : Subsystem) :
    Steps ends sub (moveCoreSetIdle schedule outside core sub) := by
  have taken : Steps ends sub (sub.updateUnit core fun unit =>
      { unit with timer := false, timerHangDetection := false, currentJob := none }) :=
    .single (.updateUnit sub core _ (fun _ => .inr rfl) fun _ => rfl)
  exact taken.trans (steps_setIdleWithoutJob called outside core _ _)

theorem steps_jobStartOnCore (called : ∀ sub, Steps ends sub (schedule sub))
    (fails : outside.fails ⊆ ends) {before : Subsystem} {core : CoreId}
    (works : Steps ends before (moveSetWorking core job sub)) :
    Steps ends before (jobStartOnCore schedule outside job core sub) := by
  have counted := works.tail (.utilization _ (.coreStart core))
  have failed (fails_ : job ∈ outside.fails) (endStatus : JobEndCode) {working : Subsystem}
      (works : Steps ends before working) : Steps ends before
      ((moveCoreSetIdle schedule outside core working).returnJobToUser job endStatus) :=
    (works.trans (steps_moveCoreSetIdle called outside core _)).tail
      (.returnJob _ job (fails fails_) endStatus)
  rw [jobStartOnCore]
  split
  next =>
    split
    next => exact counted.tail (.updateUnit _ core _ (fun _ => .inl rfl) fun _ => rfl)
    next unstarted => exact failed (fun both => unstarted both.2) .illegalJob counted
  next invalid => exact failed (fun both => invalid both.1) .systemUnusable works

theorem steps_scheduleOnUnits (called : ∀ sub, Steps ends sub (schedule sub))
    (fails : outside.fails ⊆ ends) (session : SessionId) (cores : List CoreId) :
    ∀ sub, Steps ends sub (scheduleOnUnits schedule outside session cores sub) := by
  induction cores with
  | nil => exact fun sub => .single (.tell sub .jobQueued)
  | cons core rest induction =>
    intro sub
    have asked : Steps ends sub (sub.ask outside.activates).2 := .single (.ask sub _)
    rw [scheduleOnUnits_cons]
    dsimp only
    split
    next =>
      split
      next job taken =>
        exact steps_jobStartOnCore called fails (asked.tail (.startJob _ core session job taken))
      next => exact asked.tail (.releaseSession _ session)
    next => exact asked.trans (induction _)

theorem steps_schedule (fails : outside.fails ⊆ ends) (sub : Subsystem) :
    Steps ends sub (Render.schedule outside sub) := by
  have nested (depth : Nat) : ∀ sub, Steps ends sub (scheduleNested outside depth sub) := by
    induction depth with
    | zero => exact fun _ => .refl
    | succ depth induction =>
      intro sub
      rw [scheduleNested, scheduleOnce]
      split
      next => exact .refl
      next =>
        split
        next => exact .refl
        next session _ => exact steps_scheduleOnUnits induction fails session _ sub
  exact nested _ sub

theorem steps_useCurrentJob (core : CoreId) (sub : Subsystem) : Steps ends sub (sub.useCurrentJob core) := by
  rw [Subsystem.useCurrentJob]
  split
  next job _ => exact .single (.useJob sub job)
  next => exact .refl

theorem steps_takeJobFromCore (core : CoreId) (sub : Subsystem) : Steps ends sub (takeJobFromCore core sub) :=
  (steps_useCurrentJob core sub).tail (.updateUnit _ core _ (fun _ => .inr rfl) fun _ => rfl)

theorem steps_finishDetach (fails : outside.fails ⊆ ends) (core : CoreId) (reschedule : Bool)
    (endStatus : JobEndCode) (job : Option Job) (handed : ∀ own, job = some own → own ∈ ends)
    (sub : Subsystem) : Steps ends sub (finishDetach outside core reschedule endStatus job sub) := by
  have given (sub : Subsystem) : Steps ends sub
      (if (sub.maliCoreArray core).state ≠ .idle then
        moveCoreSetIdle (Render.schedule outside) outside core (sub.utilization (.coreEnd core))
      else sub) := by
    split
    next =>
      have counted : Steps ends sub (sub.utilization (.coreEnd core)) := .single (.utilization sub _)
      exact counted.trans (steps_moveCoreSetIdle (steps_schedule fails) outside core _)
    next => exact .refl
  have left (sub : Subsystem) : Steps ends sub
      (sub.updateUnit core fun unit => { unit with inDetachFunction := false }) :=
    .single (.updateUnit sub core _ (fun _ => .inl rfl) fun _ => rfl)
  have scheduled (sub : Subsystem) : Steps ends sub
      (if reschedule then Render.schedule outside sub else sub) := by
    split
    next => exact steps_schedule fails sub
    next => exact .refl
  have finished := ((given sub).trans (left _)).trans (scheduled _)
  cases job with
  | none => exact finished
  | some job => exact finished.tail (.returnJob _ job (handed job rfl) endStatus)

theorem steps_detachWithReset {reset : Subsystem → Subsystem}
    (resets : ∀ sub, Steps ends sub (reset sub)) (fails : outside.fails ⊆ ends) (core : CoreId)
    (reschedule : Bool) (endStatus : JobEndCode) (sub : Subsystem)
    (handed : ∀ job, (sub.maliCoreArray core).currentJob = some job → job ∈ ends) :
    Steps ends sub (detachWithReset reset outside core reschedule endStatus sub) := by
  rw [detachWithReset]
  split
  next => exact resets sub
  next =>
    exact ((steps_takeJobFromCore core sub).trans (resets _)).trans
      (steps_finishDetach fails core reschedule endStatus _ handed _)

theorem steps_forUnits {action : CoreId → Subsystem → Subsystem}
    (step : ∀ core sub, Steps ends sub (action core sub)) (sub : Subsystem) :
    Steps ends sub (forUnits action sub) :=
  forUnits_along .refl .trans step sub

theorem steps_continueJobHandling (fails : outside.fails ⊆ ends) (sub : Subsystem) :
    Steps ends sub (continueJobHandling outside sub) := by
  have recovered : Steps ends sub (forUnits (fun core => Subsystem.updateUnit core fun unit =>
      { unit with errorRecovery := false }) sub) := by
    apply steps_forUnits
    exact fun core sub => .single (.updateUnit sub core _ (fun _ => .inl rfl) fun _ => rfl)
  exact Function.Iterate.rec (Steps ends sub) recovered
    (fun _ steps => steps.trans (steps_schedule fails _)) _

theorem steps_stopBusForAllCoresOnMmu (mmu : MmuId) (sub : Subsystem) :
    Steps ends sub (stopBusForAllCoresOnMmu mmu sub) := by
  apply steps_forUnits
  intro core sub
  split
  next => exact .single (.updateUnit sub core _ (fun _ => .inl rfl) fun _ => rfl)
  next => exact .refl

theorem steps_mmuBusReset (outside : Outside) (mmu : MmuId) (sub : Subsystem) :
    Steps univ sub (mmuBusReset outside mmu sub) := by
  have fails : outside.fails ⊆ univ := Set.subset_univ _
  have reset (sub : Subsystem) : Steps univ sub (resetAllCoresOnMmu outside mmu sub) := by
    apply steps_forUnits
    intro core sub
    split
    next =>
      exact steps_detachWithReset (fun _ => .refl) fails core false .segFault sub
        fun job _ => mem_univ job
    next => exact .refl
  exact (((steps_stopBusForAllCoresOnMmu mmu sub).trans (reset _)).trans
    (steps_releaseAddressSpaceReference (steps_schedule fails) outside _)).trans
      (steps_continueJobHandling fails _)

theorem steps_resetCore (outside : Outside) (stuck : CoreId → Bool) (core : CoreId)
    (sub : Subsystem) : Steps univ sub (resetCore outside stuck core sub) := by
  rw [resetCore]
  split
  next => exact steps_mmuBusReset outside _ sub
  next => exact .refl

theorem steps_detachJobFromCore (outside : Outside) (stuck : CoreId → Bool) (core : CoreId)
    (reschedule : Bool) (endStatus : JobEndCode) (sub : Subsystem) :
    Steps univ sub (detachJobFromCore outside stuck core reschedule endStatus sub) := by
  apply steps_detachWithReset _ (Set.subset_univ _)
  · exact fun job _ => mem_univ job
  · split
    next => exact fun _ => .refl
    next => exact steps_resetCore outside stuck core

variable (session : SessionId)

theorem useWaitingJob_accepted (sub : Subsystem) : (useWaitingJob session sub).accepted = sub.accepted := by
  rw [useWaitingJob]
  split
  next job _ =>
    obtain ⟨misused, used⟩ := sub.useJob_with job
    rw [used]
  next => rfl

theorem steps_useWaitingJob (sub : Subsystem) : Steps ends sub (useWaitingJob session sub) := by
  rw [useWaitingJob]
  split
  next job _ => exact .single (.useJob sub job)
  next => exact .refl

theorem steps_abortWaiting (abortId : U32) (sub : Subsystem) :
    Steps univ sub (abortWaiting session abortId sub) := by
  have used : Steps univ sub (useWaitingJob session sub) := steps_useWaitingJob session sub
  rw [abortWaiting]
  split
  next job _ =>
    split
    next => exact (used.tail (.releaseSession _ session)).tail (.returnJob _ job (mem_univ job) .abort)
    next => exact used
  next => exact used

/-- What the walk of `find_and_abort` keeps: it uses the job of each core that it comes to
and detaches the cores whose job is to be aborted. -/
theorem abortWorking_keeps (P : Subsystem → Prop) {stuck : CoreId → Bool} {session : SessionId}
    {abortId : U32} {steps : Nat} (used : ∀ core sub, P sub → P (sub.useCurrentJob core))
    (detached : ∀ core sub, P sub → core ∈ sub.renderunits (.working session) →
      ((sub.useCurrentJob core).maliCoreArray core).currentJob ≠ none →
      ((sub.useCurrentJob core).maliCoreArray core).state ≠ .idle →
      P (detachJobFromCore outside stuck core true .abort (sub.useCurrentJob core))) :
    ∀ core sub, P sub → abortWorking outside stuck session abortId steps core sub = some after →
      P after := by
  induction steps with
  | zero =>
    intro core sub _ performed
    rw [abortWorking] at performed
    contradiction
  | succ steps induction =>
    intro core sub kept performed
    have next (sub : Subsystem) (kept : P sub) (tmp : Option CoreId)
        (performed : (tmp.elim (some sub) fun tmp =>
          abortWorking outside stuck session abortId steps tmp sub) = some after) : P after := by
      cases tmp with
      | none => exact some.inj performed ▸ kept
      | some tmp => exact induction tmp sub kept performed
    rw [abortWorking] at performed
    split at performed
    next listed =>
      dsimp only at performed
      split at performed
      next aborts =>
        split at performed
        next => exact some.inj performed ▸ used core sub kept
        next busy =>
          refine next _ (detached core sub kept listed ?_ busy) _ (abortWorking_next_iff.mp performed)
          intro noJob
          simp [noJob] at aborts
      next => exact next _ (used core sub kept) _ (abortWorking_next_iff.mp performed)
    next => contradiction

theorem steps_abortWorking (outside : Outside) (stuck : CoreId → Bool) (session : SessionId)
    (abortId : U32) (steps : Nat) :
    ∀ core sub after, abortWorking outside stuck session abortId steps core sub = some after →
      Steps univ sub after := by
  intro core sub after performed
  have used (core : CoreId) (next : Subsystem) (kept : Steps univ sub next) :
      Steps univ sub (next.useCurrentJob core) := kept.trans (steps_useCurrentJob core next)
  refine abortWorking_keeps _ used (fun core next kept _ _ _ => ?_) core sub .refl performed
  exact (used core next kept).trans (steps_detachJobFromCore outside stuck core true .abort _)

theorem steps_findAndAbort {session : SessionId} {abortId : U32} {steps : Nat} {stuck : CoreId → Bool}
    (performed : findAndAbort outside stuck session abortId steps sub = some after) :
    Steps univ sub after := by
  have waiting := steps_abortWaiting session abortId sub
  rw [findAndAbort] at performed
  split at performed
  next core rest _ => exact waiting.trans (steps_abortWorking outside stuck session abortId steps core _ _ performed)
  next => exact some.inj performed ▸ waiting

theorem addNewJob_cases {used : Subsystem} (uses : useWaitingJob job.session sub = used)
    (outside : Outside) (notification readsStarted : Bool) :
    (addNewJob outside job notification readsStarted sub).2 = rejectJob job used ∨
    (notification = false ∧ (∀ waiting, used.jobWaitingToRun job.session = some waiting →
        jobHasHigherPriority job waiting = true) ∧
      (addNewJob outside job notification readsStarted sub).2 =
        if readsStarted then (rejectJob job used).useJob job else rejectJob job used) ∨
    (notification = true ∧ used.jobWaitingToRun job.session = none ∧
      (addNewJob outside job notification readsStarted sub).2 =
        (Render.schedule outside (queueJob job.session job used)).useJob job) ∨
    (notification = true ∧ ∃ waiting, used.jobWaitingToRun job.session = some waiting ∧
      jobHasHigherPriority job waiting = true ∧
      (addNewJob outside job notification readsStarted sub).2 =
        (Render.schedule outside (queueJob job.session job
          (replaceJob job.session waiting used))).useJob waiting) := by
  rw [addNewJob, uses]
  cases waits : used.jobWaitingToRun job.session with
  | none =>
    cases notification with
    | false => exact .inr (.inl ⟨rfl, by simp⟩)
    | true => exact .inr (.inr (.inl ⟨rfl, rfl, by simp [waits, sessionAddJob]⟩))
  | some waiting =>
    by_cases higher : jobHasHigherPriority job waiting = true
    · cases notification with
      | false => exact .inr (.inl ⟨rfl, by simp [higher]⟩)
      | true =>
        exact .inr (.inr (.inr ⟨rfl, waiting, rfl, higher, by
          simp [waits, higher, sessionAddJob]⟩))
    · exact .inl (by simp [higher])

theorem steps_addNewJob (fails : outside.fails ⊆ ends) (unknown : job ∉ sub.accepted)
    (notification readsStarted : Bool) :
    Steps ends sub (addNewJob outside job notification readsStarted sub).2 := by
  have used : Steps ends sub (useWaitingJob job.session sub) := steps_useWaitingJob job.session sub
  have unknown : job ∉ (useWaitingJob job.session sub).accepted := by rwa [useWaitingJob_accepted]
  rcases addNewJob_cases rfl outside notification readsStarted with
    refused | ⟨_, _, noMemory⟩ | ⟨_, _, added⟩ | ⟨_, waiting, waits, _, replaced⟩
  · rw [refused]
    exact used.tail (.rejectJob _ job)
  · rw [noMemory]
    split
    next => exact (used.tail (.rejectJob _ job)).tail (.useJob _ job)
    next => exact used.tail (.rejectJob _ job)
  · rw [added]
    exact ((used.tail (.queueJob _ _ job unknown)).trans (steps_schedule fails _)).tail (.useJob _ job)
  · rw [replaced]
    have queued : Steps ends sub (queueJob job.session job
        (replaceJob job.session waiting (useWaitingJob job.session sub))) :=
      (used.tail (.replaceJob _ _ waiting waits)).tail (.queueJob _ _ job unknown)
    exact (queued.trans (steps_schedule fails _)).tail (.useJob _ waiting)

theorem steps_continueRun (outside : Outside) (stuck : CoreId → Bool) (core : CoreId)
    (sub : Subsystem) : Steps univ sub (continueRun outside stuck core sub) := by
  rw [continueRun]
  split
  next => exact steps_detachJobFromCore outside stuck core true .timeoutSw sub
  next => exact .single (.updateUnit sub core _ (fun _ => .inl rfl) fun _ => rfl)
  next => exact .refl

def cookieSent (sub : Subsystem) : Action → Option (CoreId × Job)
  | .interrupt core handler =>
      if (sub.maliCoreArray core).state = .idle then none
      else
        match irqAnswer handler (sub.maliCoreArray core), (sub.maliCoreArray core).currentJob with
        | .stalls, some job => some (core, job)
        | _, _ => none
  | _ => none

structure Stalls (core : CoreId) (job : Job) (sub after : Subsystem) : Prop where
  running : (sub.maliCoreArray core).currentJob = some job
  after_eq : after = IrqAnswer.stalls.apply core (sub.useJob job)

theorem steps_irqHandlerBottomHalf (outside : Outside) (stuck : CoreId → Bool) (core : CoreId)
    (handler : RenderUnit → IrqAnswer) (sub : Subsystem) :
    cookieSent sub (.interrupt core handler) = none ∧
        Steps univ sub (irqHandlerBottomHalf outside stuck core handler sub) ∨
      ∃ job, cookieSent sub (.interrupt core handler) = some (core, job) ∧
        Stalls core job sub (irqHandlerBottomHalf outside stuck core handler sub) := by
  have used : Steps univ sub (sub.useCurrentJob core) := steps_useCurrentJob core sub
  have unit : (sub.useCurrentJob core).maliCoreArray core = sub.maliCoreArray core := by
    rw [useCurrentJob_maliCoreArray]
  rw [irqHandlerBottomHalf, cookieSent]
  split
  next => exact .inl ⟨rfl, .refl⟩
  next busy =>
    dsimp only
    rw [unit]
    cases answer : irqAnswer handler (sub.maliCoreArray core) with
    | ended status =>
      exact .inl ⟨rfl, used.trans (steps_detachJobFromCore outside stuck core true status _)⟩
    | goesOn => exact .inl ⟨rfl, used.trans (steps_continueRun outside stuck core _)⟩
    | checksHang setsWorking =>
      have checked := used.tail (.updateUnit _ core (fun unit =>
        { unit with
          state := if setsWorking then .working else unit.state
          timerHangDetection := true }) (fun _ => .inl rfl) fun _ => rfl)
      exact .inl ⟨rfl, checked.trans (steps_continueRun outside stuck core _)⟩
    | stalls =>
      cases running : (sub.maliCoreArray core).currentJob with
      | none => simp [irqAnswer, running] at answer
      | some job =>
        refine .inr ⟨job, rfl, running, ?_⟩
        -- the core is at work again
        simp [continueRun, IrqAnswer.apply, Subsystem.updateUnit, Subsystem.useCurrentJob, running]

theorem steps_sessionClose (outside : Outside) (stuck : CoreId → Bool) (session : SessionId)
    (sub : Subsystem) : Steps univ sub (sessionClose outside stuck session sub) := by
  have waiting (sub : Subsystem) : Steps univ sub
      ((sub.jobWaitingToRun session).elim sub fun job =>
        (releaseSessionGetJob session (sub.returnJobToUser job .shutdown)).2) := by
    cases sub.jobWaitingToRun session with
    | none => exact .refl
    | some job =>
      have returned : Steps univ sub (sub.returnJobToUser job .shutdown) :=
        .single (.returnJob sub job (mem_univ job) .shutdown)
      exact returned.tail (.releaseSession _ session)
  have detached (sub : Subsystem) : Steps univ sub
      ((sub.renderunits (.working session)).head?.elim sub fun core =>
        detachJobFromCore outside stuck core true .shutdown sub) := by
    cases sub.renderunits (.working session) with
    | nil => exact .refl
    | cons core _ => exact steps_detachJobFromCore outside stuck core true .shutdown sub
  rw [sessionClose_eq]
  exact ((waiting sub).trans (detached _)).tail (.sessionEnd _ session)

theorem steps_signalPowerUp (fails : outside.fails ⊆ ends) (stuck : CoreId → Bool) (core : CoreId)
    (queueOnly : Bool) (resets : ∀ sub, Steps ends sub (resetCore outside stuck core sub))
    (sub : Subsystem) : Steps ends sub (signalPowerUp outside stuck core queueOnly sub).2 := by
  rw [signalPowerUp]
  split
  next =>
    split
    next =>
      have kept : Steps ends sub
          (sub.updateUnit core fun unit => { unit with pendPowerDown := false }) :=
        .single (.updateUnit sub core _ (fun _ => .inl rfl) fun _ => rfl)
      exact kept
    next =>
      have given : Steps ends sub (moveCoreSetIdle (Render.schedule outside) outside core sub) :=
        steps_moveCoreSetIdle (steps_schedule fails) outside core sub
      have reset (sub : Subsystem) : Steps ends sub
          (if queueOnly then sub else resetCore outside stuck core sub) := by
        split
        next => exact .refl
        next => exact resets sub
      exact (given.trans (reset _)).trans (steps_schedule fails _)
  next => exact .refl

theorem steps_signalPowerDown (core : CoreId) (immediateOnly : Bool) (sub : Subsystem) :
    Steps ends sub (signalPowerDown core immediateOnly sub).2 := by
  rw [signalPowerDown]
  split
  next =>
    split
    next =>
      dsimp only
      split
      next => exact .refl
      next => exact .single (.updateUnit sub core _ (fun _ => .inl rfl) fun _ => rfl)
    next =>
      have off : Steps ends sub
          (sub.updateUnit core fun unit => { unit with currentJob := none, state := .off }) :=
        .single (.updateUnit sub core _ (fun _ => .inr rfl) fun _ => rfl)
      exact off.tail (.moveUnit _ core .off)
  next => exact .refl

theorem steps_perform {occurrence : Occurrence} (stepped : subsystemRuns.step sub occurrence after)
    (fresh : ∀ session priority abortId, newJob session priority abortId sub ∉ sub.accepted) :
    cookieSent sub occurrence.action = none ∧ Steps univ sub after ∨
      ∃ core job, cookieSent sub occurrence.action = some (core, job) ∧ Stalls core job sub after := by
  obtain ⟨action, outside, stuck⟩ := occurrence
  obtain ⟨steps, performed⟩ := stepped
  have fails : outside.fails ⊆ univ := Set.subset_univ _
  cases action with
  | registerRenderunit mmu =>
    cases some.inj performed
    exact .inl ⟨rfl, .single (.registerRenderunit sub mmu)⟩
  | sessionBegin session =>
    obtain ⟨_, begun⟩ := Option.ite_none_left_eq_some.mp performed
    cases some.inj begun
    exact .inl ⟨rfl, .single (.sessionBegin sub session)⟩
  | startJob session priority abortId notification readsStarted =>
    obtain ⟨_, started⟩ := Option.ite_none_right_eq_some.mp performed
    cases some.inj started
    have allocated : Steps univ sub _ :=
      .single (.allocate sub (newJob session priority abortId sub))
    have unknown : _ ∉ ({ sub with allocated := newJob session priority abortId sub ::
      sub.allocated } : Subsystem).accepted := fresh session priority abortId
    exact .inl ⟨rfl, allocated.trans (steps_addNewJob fails unknown notification readsStarted)⟩
  | abortJob session abortId =>
    obtain ⟨_, aborted⟩ := Option.ite_none_right_eq_some.mp performed
    exact .inl ⟨rfl, steps_findAndAbort aborted⟩
  | sessionClose session =>
    obtain ⟨_, closed⟩ := Option.ite_none_right_eq_some.mp performed
    cases some.inj closed
    exact .inl ⟨rfl, steps_sessionClose outside stuck session sub⟩
  | interrupt core handler =>
    obtain ⟨_, handled⟩ := Option.ite_none_right_eq_some.mp performed
    cases some.inj handled
    rcases steps_irqHandlerBottomHalf outside stuck core handler sub with steps | ⟨job, stalls⟩
    · exact .inl steps
    · exact .inr ⟨core, job, stalls⟩
  | watchdog core polls =>
    obtain ⟨_, handled⟩ := Option.ite_none_right_eq_some.mp performed
    cases some.inj handled
    have used : Steps univ sub (sub.useCurrentJob core) := steps_useCurrentJob core sub
    exact .inl ⟨rfl, used.tail (.updateUnit _ core _ (fun _ => .inl rfl) fun _ => rfl)⟩
  | hangDetection core =>
    obtain ⟨_, handled⟩ := Option.ite_none_right_eq_some.mp performed
    cases some.inj handled
    exact .inl ⟨rfl, .single (.updateUnit sub core _ (fun _ => .inl rfl) fun _ => rfl)⟩
  | powerDown core immediateOnly =>
    cases some.inj performed
    exact .inl ⟨rfl, steps_signalPowerDown core immediateOnly sub⟩
  | powerUp core queueOnly =>
    cases some.inj performed
    have resets := steps_resetCore outside stuck core
    exact .inl ⟨rfl, steps_signalPowerUp fails stuck core queueOnly resets sub⟩
  | mmuBusReset mmu =>
    cases some.inj performed
    exact .inl ⟨rfl, steps_mmuBusReset outside mmu sub⟩
  | mmuIdle =>
    cases some.inj performed
    exact .inl ⟨rfl, steps_schedule fails sub⟩

theorem Steps.returned {sub' : Subsystem} (steps : Steps ends sub sub') :
    ∀ job ∈ sub'.returned.map fst, job ∈ sub.returned.map fst ∨ job ∈ ends := by
  refine steps.preserve (fun sub sub' => ∀ job ∈ sub'.returned.map fst,
    job ∈ sub.returned.map fst ∨ job ∈ ends) (fun _ _ member => .inl member) ?_ ?_
  · intro first second third before after job member
    rcases after job member with earlier | ended
    · exact before job earlier
    · exact .inr ended
  · intro first second step job member
    cases step with
    | useJob other =>
      obtain ⟨misused, used⟩ := first.useJob_with other
      rw [used] at member
      exact .inl member
    | startJob core session other _ =>
      obtain ⟨misused, used⟩ :=
        ((releaseSessionGetJob session first).2.tell (.jobScheduled core)).useJob_with other
      rw [moveSetWorking, used] at member
      exact .inl member
    | rejectJob other =>
      obtain ⟨misused, used⟩ := first.useJob_with other
      rw [rejectJob, used] at member
      exact .inl member
    | returnJob other ended endStatus =>
      rw [Subsystem.returnJobToUser, List.map_cons, List.mem_cons] at member
      rcases member with rfl | earlier
      · exact .inr ended
      · exact .inl earlier
    | _ => exact .inl member

structure Grows (sub sub' : Subsystem) : Prop where
  returned : sub.returned <:+ sub'.returned
  replaced : sub.replaced <:+ sub'.replaced

theorem Grows.refl (sub : Subsystem) : Grows sub sub := ⟨suffix_rfl, suffix_rfl⟩

theorem Grows.trans {first second third : Subsystem} (before : Grows first second)
    (after : Grows second third) : Grows first third :=
  ⟨before.returned.trans after.returned, before.replaced.trans after.replaced⟩

theorem Steps.grows (steps : Steps ends sub sub') : Grows sub sub' := by
  refine steps.preserve Grows Grows.refl (fun _ _ _ => Grows.trans) ?_
  intro first second step
  cases step with
  | useJob job =>
    obtain ⟨misused, used⟩ := first.useJob_with job
    rw [used]
    exact ⟨suffix_rfl, suffix_rfl⟩
  | startJob core session job _ =>
    obtain ⟨misused, used⟩ :=
      ((releaseSessionGetJob session first).2.tell (.jobScheduled core)).useJob_with job
    rw [moveSetWorking, used]
    exact ⟨suffix_rfl, suffix_rfl⟩
  | returnJob job _ endStatus =>
    obtain ⟨misused, used⟩ := first.useJob_with job
    rw [Subsystem.returnJobToUser, used]
    exact ⟨List.suffix_cons _ _, suffix_rfl⟩
  | replaceJob session waiting _ => exact ⟨suffix_rfl, List.suffix_cons _ _⟩
  | rejectJob job =>
    obtain ⟨misused, used⟩ := first.useJob_with job
    rw [rejectJob, used]
    exact ⟨suffix_rfl, suffix_rfl⟩
  | _ => exact ⟨suffix_rfl, suffix_rfl⟩

end Floid.Render
