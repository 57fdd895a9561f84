import Floid.Render.Abort
import Floid.Render.Utilization

namespace Floid.Render

open Floid.Osk Floid.Lib Subsystem
open Option (ite_none_right_eq_some ne_none_iff_exists' some.inj some_get)

def Outside.Accepts (outside : Outside) : Prop :=
  ∀ job, outside.invalidates job = true → outside.starts job = true

def Action.Detaches (core : CoreId) (mmu : MmuId) : Action → Prop
  | .interrupt other _ => other = core
  | .mmuBusReset other => other = mmu
  | _ => False

def Action.Aborts : Action → Prop
  | .abortJob _ _ => True
  | _ => False

def Action.Resets (core : CoreId) (sub : Subsystem) : Action → Prop
  | .interrupt other _ => other = core
  | .sessionClose session => core ∈ sub.renderunits (.working session)
  | .abortJob _ _ => True
  | .powerUp other queueOnly => other = core ∧ queueOnly = false
  | _ => False

structure LeavesOff (sub : Subsystem) (occurrence : Occurrence) : Prop where
  detaches : ∀ core < sub.numberOfCores, (sub.maliCoreArray core).state = .off →
    ¬ occurrence.action.Detaches core (sub.mmu core)
  resets : ∀ core < sub.numberOfCores, (sub.maliCoreArray core).state = .off →
    ∀ other, occurrence.action.Resets other sub → occurrence.stuck other = true →
      sub.mmu other = sub.mmu core → other = core ∧ (sub.maliCoreArray core).pendPowerDown = false
  pending : ∀ core < sub.numberOfCores, (sub.maliCoreArray core).pendPowerDown = true →
    occurrence.action.Aborts →
    ∀ other, occurrence.stuck other = true → sub.mmu other = sub.mmu core → other = core

/-- Cores accept their jobs and are not detached when they are powered off; and a session
that is closed has one core at work at most. -/
structure KeepsCount (sub : Subsystem) (occurrence : Occurrence) : Prop where
  few : ClosesFew sub occurrence
  accepts : occurrence.outside.Accepts
  off : LeavesOff sub occurrence

variable {sub before after : Subsystem} {constants : Constants} {core : CoreId} {session : SessionId}
  {outside : Outside} {stuck : CoreId → Bool}

theorem tally_congr (calls : after.utilizationCalls = sub.utilizationCalls)
    (jobs : ∀ core, (after.maliCoreArray core).currentJob = (sub.maliCoreArray core).currentJob)
    (core : CoreId) : after.tally core = sub.tally core := by
  rw [Subsystem.tally, Subsystem.tally, RenderUnit.executing, RenderUnit.executing, calls, jobs]

theorem tally_updateUnit_job (change : RenderUnit → RenderUnit)
    (sameJob : (change (sub.maliCoreArray core)).currentJob = (sub.maliCoreArray core).currentJob)
    (other : CoreId) : (sub.updateUnit core change).tally other = sub.tally other := by
  rw [tally_updateUnit, RenderUnit.executing, RenderUnit.executing, sameJob, Int.sub_self, ite_self, Int.add_zero]

namespace Booked

theorem unit (booked : Booked (.between constants) sub) (registered : core < sub.numberOfCores) :
    ((sub.maliCoreArray core).state = .idle ∨ (sub.maliCoreArray core).state = .off) ∧
        (sub.maliCoreArray core).currentJob = none ∨
      (sub.maliCoreArray core).state ≠ .idle ∧ (sub.maliCoreArray core).state ≠ .off ∧
        (sub.maliCoreArray core).currentJob ≠ none := by
  obtain ⟨unitAt, jobAt, books⟩ := booked
  obtain ⟨list, on⟩ := ne_none_iff_exists'.mp ((books.units.registered core).mp registered)
  have fits := books.units.booked core list on
  cases list with
  | idle => exact .inl ⟨.inl (fits.idle_iff.mpr rfl), (fits.resting (by simp)).1⟩
  | off => exact .inl ⟨.inr (fits.off_iff.mpr rfl), (fits.resting (by simp)).1⟩
  | working session =>
    refine .inr ⟨?_, ?_, fits.running_iff.mpr ⟨session, rfl⟩⟩
    · simp [fits.idle_iff]
    · simp [fits.off_iff]

theorem fit (booked : Booked (.between constants) sub) : Fit ∅ sub := by
  have states (core : CoreId) (registered : core < sub.numberOfCores) := booked.unit registered
  obtain ⟨unitAt, jobAt, books⟩ := booked
  constructor
  · exact books.units.placed.nodup .idle
  · intro core idles
    have fits := books.units.booked core .idle ((books.units.placed.mem_iff core .idle).mp idles)
    exact ⟨Set.notMem_empty core, fits.idle_iff.mpr rfl, (fits.resting (by simp)).1, fits.calm rfl⟩
  · intro core registered _ busy isOn
    rcases states core registered with ⟨idle | off, _⟩ | ⟨_, _, running⟩
    · exact absurd idle busy
    · exact absurd off isOn
    · exact running

theorem tallied_detach (booked : Booked (.between constants) sub) (accepts : outside.Accepts)
    (running : (sub.maliCoreArray core).currentJob ≠ none)
    (notOff : stuck core = true → ∀ other < sub.numberOfCores, other ≠ core →
      sub.mmu other = sub.mmu core → (sub.maliCoreArray other).state ≠ .off)
    (reschedule : Bool) (endStatus : JobEndCode) :
    Tallied ∅ Set.univ sub
      (Render.detachJobFromCore outside stuck core reschedule endStatus sub) := by
  obtain ⟨job, hasJob⟩ := ne_none_iff_exists'.mp running
  obtain ⟨registered, _, _, busy, detaching⟩ := booked.atWork hasJob
  have isOn : (sub.maliCoreArray core).state ≠ .off := by
    rcases booked.unit registered with ⟨_, noJob⟩ | ⟨_, isOn, _⟩
    · exact absurd noJob running
    · exact isOn
  refine booked.fit.detachJobFromCore accepts registered busy isOn detaching ?_ reschedule endStatus
  intro isStuck other known onMmu
  by_cases same : other = core
  · exact same ▸ isOn
  · exact notOff isStuck other known same onMmu

end Booked

theorem tally_apply (answer : IrqAnswer) (core other : CoreId) (sub : Subsystem) :
    (answer.apply core sub).tally other = sub.tally other := by
  refine tally_congr (by cases answer <;> rfl) (fun place => ?_) other
  by_cases same : place = core
  · rw [same, IrqAnswer.apply_job]
  · cases answer <;> simp [IrqAnswer.apply, updateUnit, same]

theorem tally_continueRun (booked : Booked (.between constants) sub) (accepts : outside.Accepts)
    (running : (sub.maliCoreArray core).currentJob ≠ none)
    (notOff : stuck core = true → ∀ other < sub.numberOfCores, other ≠ core →
      sub.mmu other = sub.mmu core → (sub.maliCoreArray other).state ≠ .off) (other : CoreId) :
    (continueRun outside stuck core sub).tally other = sub.tally other := by
  rw [continueRun]
  split
  next => exact (booked.tallied_detach accepts running notOff true .timeoutSw).tally other
  next => exact tally_updateUnit_job _ (by rfl) other
  next => rfl

theorem tally_irqHandlerBottomHalf (booked : Booked (.between constants) sub)
    (accepts : outside.Accepts) (registered : core < sub.numberOfCores)
    (isOn : (sub.maliCoreArray core).state ≠ .off)
    (notOff : stuck core = true → ∀ other < sub.numberOfCores, other ≠ core →
      sub.mmu other = sub.mmu core → (sub.maliCoreArray other).state ≠ .off)
    (handler : RenderUnit → IrqAnswer) (other : CoreId) :
    (Render.irqHandlerBottomHalf outside stuck core handler sub).tally other = sub.tally other := by
  have used : sub.useCurrentJob core = sub := booked.useCurrentJob core
  rw [Render.irqHandlerBottomHalf]
  split
  next => rfl
  next busy =>
    simp only [used]
    have running : (sub.maliCoreArray core).currentJob ≠ none :=
      booked.fit.busy core registered (Set.notMem_empty core) busy isOn
    have goesOn (answer : IrqAnswer) :
        (continueRun outside stuck core (answer.apply core sub)).tally other = sub.tally other := by
      have applied := booked.apply running answer
      have still : ((answer.apply core sub).maliCoreArray core).currentJob ≠ none := by
        rwa [IrqAnswer.apply_job]
      rw [tally_continueRun applied accepts still, tally_apply]
      intro isStuck place known different onMmu
      have unit : (answer.apply core sub).maliCoreArray place = sub.maliCoreArray place := by
        cases answer <;> simp [IrqAnswer.apply, updateUnit, different]
      have mmu : (answer.apply core sub).mmu = sub.mmu := by cases answer <;> rfl
      rw [IrqAnswer.apply_numberOfCores] at known
      rw [mmu] at onMmu
      rw [unit]
      exact notOff isStuck place known different onMmu
    split
    next jobStatus _ => exact (booked.tallied_detach accepts running notOff true jobStatus).tally other
    next answer _ => exact goesOn _

def SparesOff (stuck : CoreId → Bool) (core : CoreId) (sub : Subsystem) : Prop :=
  stuck core = true → ∀ other < sub.numberOfCores, other ≠ core →
    sub.mmu other = sub.mmu core → (sub.maliCoreArray other).state ≠ .off

variable {occurrence : Occurrence} {calls : List UtilizationCall}

theorem LeavesOff.sparesOff (leaves : LeavesOff sub occurrence)
    (resets : occurrence.action.Resets core sub) : SparesOff occurrence.stuck core sub := by
  intro isStuck other registered different onMmu isOff
  exact different (leaves.resets other registered isOff core resets isStuck onMmu.symm).1.symm

theorem tally_sessionClose (booked : Booked (.between constants) sub) (accepts : outside.Accepts)
    (spares : ∀ core ∈ sub.renderunits (.working session), SparesOff stuck core sub) (other : CoreId) :
    (sessionClose outside stuck session sub).tally other = sub.tally other := by
  have rest (sub : Subsystem) (booked : Booked (.between constants) sub)
      (spares : ∀ core ∈ sub.renderunits (.working session), SparesOff stuck core sub) :
      ((sub.renderunits (.working session)).head?.elim sub fun core =>
        Render.detachJobFromCore outside stuck core true .shutdown sub).tally other = sub.tally other := by
    cases listed : sub.renderunits (.working session) with
    | nil => rfl
    | cons core _ =>
      have works : core ∈ sub.renderunits (.working session) := by simp [listed]
      obtain ⟨_, job, running, _⟩ := booked.running_of_working works
      have detached := booked.tallied_detach accepts (by simp [running]) (spares core works) true .shutdown
      exact detached.tally other
  rw [sessionClose_eq]
  cases waits : sub.jobWaitingToRun session with
  | none => exact rest sub booked spares
  | some job =>
    dsimp only [Option.elim_some]
    rw [releaseSession_returnJob]
    have returned := rest _ (booked.returnWaiting waits .shutdown)
    obtain ⟨misused, used⟩ := (releaseSessionGetJob session sub).2.useJob_with job
    rw [returnJobToUser, used] at returned ⊢
    exact returned spares

theorem tally_abortWaiting (session : SessionId) (abortId : U32) (sub : Subsystem) :
    Kept ∅ Set.univ sub (abortWaiting session abortId sub) ∧
      ∀ other, (abortWaiting session abortId sub).tally other = sub.tally other := by
  have used : ∃ misused, useWaitingJob session sub = { sub with misused } := by
    rw [useWaitingJob]
    split
    next job _ => exact sub.useJob_with job
    next => exact ⟨sub.misused, rfl⟩
  obtain ⟨misused, used⟩ := used
  rw [abortWaiting, used]
  split
  next job _ =>
    split
    next =>
      obtain ⟨misused', used'⟩ := (releaseSessionGetJob session { sub with misused }).2.useJob_with job
      rw [returnJobToUser, used']
      exact ⟨.same rfl rfl rfl, tally_congr rfl fun _ => rfl⟩
    next => exact ⟨.same rfl rfl rfl, tally_congr rfl fun _ => rfl⟩
  next => exact ⟨.same rfl rfl rfl, tally_congr rfl fun _ => rfl⟩

def SparesPending (stuck : CoreId → Bool) (sub : Subsystem) : Prop :=
  ∀ core, stuck core = true → ∀ other < sub.numberOfCores, other ≠ core →
    sub.mmu other = sub.mmu core → (sub.maliCoreArray other).state ≠ .off ∧
      (sub.maliCoreArray other).pendPowerDown = false

theorem tally_abortWorking (accepts : outside.Accepts) (spares : SparesPending stuck before)
    (session : SessionId) (abortId : U32) (other : CoreId) (steps : Nat) :
    ∀ core sub, Booked (.between constants) sub → Kept ∅ Set.univ before sub →
      abortWorking outside stuck session abortId steps core sub = some after →
      after.tally other = sub.tally other := by
  intro core sub booked kept performed
  refine (abortWorking_keeps (fun next => Booked (.between constants) next ∧
    Kept ∅ Set.univ before next ∧ next.tally other = sub.tally other) ?_ ?_ core sub
      ⟨booked, kept, rfl⟩ performed).2.2
  · rintro core sub ⟨booked, same⟩
    rw [booked.useCurrentJob core]
    exact ⟨booked, same⟩
  · rintro core sub ⟨booked, kept, same⟩ _ running busy
    rw [booked.useCurrentJob core] at running busy ⊢
    have notOff : stuck core = true → ∀ place < sub.numberOfCores, place ≠ core →
        sub.mmu place = sub.mmu core → (sub.maliCoreArray place).state ≠ .off := by
      intro isStuck place known different onMmu isOff
      rw [kept.numberOfCores] at known
      rw [kept.mmu] at onMmu
      obtain ⟨wasOn, calm⟩ := spares core isStuck place known different onMmu
      rcases kept.off place isOff with wasOff | ⟨_, pends⟩
      · exact wasOn wasOff
      · rw [calm] at pends
        contradiction
    have detached := booked.tallied_detach accepts running notOff true .abort
    obtain ⟨job, hasJob⟩ := ne_none_iff_exists'.mp running
    have booked' := booked.detachJobFromCore (outer_between _) (booked.atWork hasJob).1 busy
      outside stuck true .abort
    exact ⟨booked', kept.trans detached.toKept, (detached.tally other).trans same⟩

theorem tally_findAndAbort (booked : Booked (.between constants) sub) (accepts : outside.Accepts)
    (spares : SparesPending stuck sub) {abortId : U32} {steps : Nat}
    (performed : findAndAbort outside stuck session abortId steps sub = some after)
    (other : CoreId) : after.tally other = sub.tally other := by
  obtain ⟨kept, tally⟩ := tally_abortWaiting session abortId sub
  have waiting := booked.abortWaiting session abortId
  rw [findAndAbort] at performed
  split at performed
  next core _ _ =>
    exact (tally_abortWorking accepts spares session abortId other steps core _ waiting kept
      performed).trans (tally other)
  next => exact some.inj performed ▸ tally other

theorem tally_signalPowerDown (booked : Booked (.between constants) sub) (core : CoreId)
    (immediateOnly : Bool) (other : CoreId) :
    (signalPowerDown core immediateOnly sub).2.tally other = sub.tally other := by
  rw [signalPowerDown]
  split
  next registered =>
    split
    next =>
      split
      next => rfl
      next => exact tally_updateUnit_job _ rfl other
    next idle =>
      have noJob : (sub.maliCoreArray core).currentJob = none := by
        rcases booked.unit registered with ⟨_, noJob⟩ | ⟨busy, _⟩
        · exact noJob
        · exact absurd busy idle
      exact tally_updateUnit_job (fun unit => { unit with currentJob := none, state := .off }) noJob.symm
        other
  next => rfl

theorem moveCoreSetIdle_off {schedule : Subsystem → Subsystem} (isOff : (sub.maliCoreArray core).state = .off)
    (calm : (sub.maliCoreArray core).pendPowerDown = false) :
    ((moveCoreSetIdle schedule outside core sub).maliCoreArray core).state = .idle := by
  simp [moveCoreSetIdle, setIdleWithoutJob, updateUnit, moveUnit, isOff, calm]

theorem tally_signalPowerUp (booked : Booked (.between constants) sub) (accepts : outside.Accepts)
    (core : CoreId) {queueOnly : Bool} (calm : (sub.maliCoreArray core).state = .off →
      queueOnly = false → stuck core = true → (sub.maliCoreArray core).pendPowerDown = false)
    (spares : queueOnly = false → SparesOff stuck core sub) (other : CoreId) :
    (signalPowerUp outside stuck core queueOnly sub).2.tally other = sub.tally other := by
  rw [signalPowerUp]
  split
  next registered =>
    split
    next => exact tally_updateUnit_job _ rfl other
    next isOff =>
      rw [Ne, Decidable.not_not] at isOff
      have noJob : (sub.maliCoreArray core).executing = 0 := by
        rcases booked.unit registered with ⟨_, noJob⟩ | ⟨_, isOn, _⟩
        · exact if_pos noJob
        · exact absurd isOff isOn
      have fit := booked.fit
      have away : core ∉ sub.renderunits .idle := by
        intro idles
        have idle := (fit.idle core idles).2.1
        rw [isOff] at idle
        contradiction
      obtain ⟨kept, idles, tally⟩ := (fit.hold away).moveCoreSetIdle (Set.notMem_empty core)
        (tallies_schedule accepts) outside
      have nothing : Detaching ∅ (moveCoreSetIdle (schedule outside) outside core sub) :=
        fun _ isHeld => absurd isHeld (Set.notMem_empty _)
      have notOff (resets : queueOnly = false) (isStuck : stuck core = true) :
          NotOff ((moveCoreSetIdle (schedule outside) outside core sub).mmu core)
            (moveCoreSetIdle (schedule outside) outside core sub) := by
        intro place known onMmu stillOff
        rw [kept.numberOfCores] at known
        rw [kept.mmu] at onMmu
        by_cases same : place = core
        · subst same
          rw [moveCoreSetIdle_off isOff (calm isOff resets isStuck)] at stillOff
          contradiction
        · rcases kept.off place stillOff with wasOff | ⟨own, _⟩
          · exact spares resets isStuck place known same onMmu wasOff
          · exact same own
      have reset : Tallied ∅ Set.univ (moveCoreSetIdle (schedule outside) outside core sub)
          (if queueOnly then moveCoreSetIdle (schedule outside) outside core sub
          else resetCore outside stuck core (moveCoreSetIdle (schedule outside) outside core sub)) := by
        split
        next => exact Tallies.refl idles
        next resets => exact idles.resetCore accepts nothing (notOff (Bool.eq_false_iff.mpr resets))
      have scheduled := tallies_schedule accepts ∅ _ reset.fit
      refine (scheduled.tally other).trans ((reset.tally other).trans ((tally other).trans ?_))
      rw [noJob, ite_self, Int.add_zero]
  next => rfl

theorem tally_useJob (job : Job) (core : CoreId) (sub : Subsystem) :
    (sub.useJob job).tally core = sub.tally core := by
  obtain ⟨misused, used⟩ := sub.useJob_with job
  rw [used]
  rfl

theorem tally_rejectJob (job : Job) (core : CoreId) (sub : Subsystem) :
    (rejectJob job sub).tally core = sub.tally core := by
  obtain ⟨misused, used⟩ := sub.useJob_with job
  rw [rejectJob, used]
  rfl

theorem tally_addNewJob (booked : Booked (.between constants) sub) (accepts : outside.Accepts)
    (job : Job) (notification readsStarted : Bool) (core : CoreId) :
    (addNewJob outside job notification readsStarted sub).2.tally core = sub.tally core := by
  have fit := booked.fit
  rcases addNewJob_cases (booked.useWaitingJob job.session) outside notification readsStarted with
    refused | ⟨_, _, noMemory⟩ | ⟨_, _, added⟩ | ⟨_, waiting, _, _, replaced⟩
  · rw [refused, tally_rejectJob]
  · rw [noMemory]
    split
    next => rw [tally_useJob, tally_rejectJob]
    next => rw [tally_rejectJob]
  · have queued : Fit ∅ (queueJob job.session job sub) := fit.congr rfl rfl rfl
    rw [added, tally_useJob, (tallies_schedule accepts ∅ _ queued).tally]
    rfl
  · have queued : Fit ∅ (queueJob job.session job (replaceJob job.session waiting sub)) :=
      fit.congr rfl rfl rfl
    rw [replaced, tally_useJob, (tallies_schedule accepts ∅ _ queued).tally]
    rfl

theorem LeavesOff.sparesPending (leaves : LeavesOff sub occurrence)
    (aborts : occurrence.action.Aborts) : SparesPending occurrence.stuck sub := by
  intro core isStuck other registered different onMmu
  have resets : occurrence.action.Resets core sub := by
    cases action : occurrence.action <;> rw [action] at aborts <;> first | exact aborts.elim | trivial
  refine ⟨leaves.sparesOff resets isStuck other registered different onMmu, ?_⟩
  by_contra pends
  rw [Bool.not_eq_false] at pends
  exact different (leaves.pending other registered pends aborts core isStuck onMmu.symm).symm

theorem Sound.tally_step (sound : Sound sub)
    (keeps : KeepsCount sub occurrence) (stepped : subsystemRuns.step sub occurrence after)
    (other : CoreId) : after.tally other = sub.tally other := by
  have leaves := keeps.off
  have accepts := keeps.accepts
  have booked : Booked (.between sub.constants) sub := sound.inOrder
  have fit := booked.fit
  obtain ⟨action, outside, stuck⟩ := occurrence
  obtain ⟨steps, performed⟩ := stepped
  cases action with
  | registerRenderunit mmu =>
    cases some.inj performed
    have unused : (sub.maliCoreArray sub.numberOfCores).currentJob = none := by
      by_contra running
      obtain ⟨job, running⟩ := ne_none_iff_exists'.mp running
      exact Nat.lt_irrefl _ (booked.atWork running).1
    have calls : (registerRenderunit mmu sub).utilizationCalls = sub.utilizationCalls := rfl
    exact tally_congr calls (registerRenderunit_job mmu sub unused) other
  | sessionBegin session =>
    obtain ⟨_, begun⟩ := Option.ite_none_left_eq_some.mp performed
    cases some.inj begun
    rfl
  | startJob session priority abortId notification readsStarted =>
    obtain ⟨_, started⟩ := ite_none_right_eq_some.mp performed
    cases some.inj started
    have allocated := sound.allocate (newJob session priority abortId sub)
    exact tally_addNewJob allocated accepts _ notification readsStarted other
  | abortJob session abortId =>
    obtain ⟨_, aborted⟩ := ite_none_right_eq_some.mp performed
    exact tally_findAndAbort booked accepts (leaves.sparesPending trivial) aborted other
  | sessionClose session =>
    obtain ⟨_, closed⟩ := ite_none_right_eq_some.mp performed
    cases some.inj closed
    exact tally_sessionClose booked accepts (fun _ works => leaves.sparesOff works) other
  | interrupt core handler =>
    obtain ⟨registered, handled⟩ := ite_none_right_eq_some.mp performed
    cases some.inj handled
    have isOn : (sub.maliCoreArray core).state ≠ .off :=
      fun isOff => leaves.detaches core registered isOff rfl
    exact tally_irqHandlerBottomHalf booked accepts registered isOn (leaves.sparesOff rfl) handler other
  | watchdog core polls =>
    obtain ⟨_, handled⟩ := ite_none_right_eq_some.mp performed
    cases some.inj handled
    have used : sub.useCurrentJob core = sub := booked.useCurrentJob core
    rw [timeoutFunction, used]
    exact tally_updateUnit_job _ rfl other
  | hangDetection core =>
    obtain ⟨_, handled⟩ := ite_none_right_eq_some.mp performed
    cases some.inj handled
    exact tally_updateUnit_job _ rfl other
  | powerDown core immediateOnly =>
    cases some.inj performed
    exact tally_signalPowerDown booked core immediateOnly other
  | powerUp core queueOnly =>
    cases some.inj performed
    by_cases registered : core < sub.numberOfCores
    · have calm (isOff : (sub.maliCoreArray core).state = .off) (resets : queueOnly = false)
          (isStuck : stuck core = true) :=
        (leaves.resets core registered isOff core ⟨rfl, resets⟩ isStuck rfl).2
      exact tally_signalPowerUp booked accepts core calm
        (fun resets => leaves.sparesOff ⟨rfl, resets⟩) other
    · rw [signalPowerUp, if_neg registered]
  | mmuBusReset mmu =>
    cases some.inj performed
    have notOff : NotOff mmu sub := fun core registered onMmu isOff =>
      leaves.detaches core registered isOff onMmu.symm
    have nothing : Detaching ∅ sub := fun _ isHeld => absurd isHeld (Set.notMem_empty _)
    exact (fit.mmuBusReset accepts nothing notOff).tally other
  | mmuIdle =>
    cases some.inj performed
    exact (tallies_schedule accepts ∅ sub fit).tally other

structure Counts (sub : Subsystem) : Prop extends Sound sub where
  tally : ∀ core, sub.tally core = 0

theorem counts_of_reachable (reached : (subsystemRuns.restrict KeepsCount).Reachable sub) : Counts sub := by
  refine reached.invariant ?_ ?_
  · rintro _ rfl
    exact ⟨Sound.initial, fun _ => rfl⟩
  · intro before occurrence after counts stepped
    refine ⟨counts.toSound.step stepped.1.few stepped.2, fun core => ?_⟩
    rw [counts.toSound.tally_step stepped.1 stepped.2, counts.tally]

def UtilizationCall.weight : UtilizationCall → Int
  | .coreStart _ => 1
  | .coreEnd _ => -1

theorem numRunningCores_eq_weights (calls : List UtilizationCall) :
    numRunningCores calls = (calls.map UtilizationCall.weight).sum := by
  induction calls with
  | nil => rfl
  | cons call earlier induction =>
    cases call <;> simp [numRunningCores, UtilizationCall.weight, induction] <;> omega

theorem numRunningCores_interleaved {subs : List Subsystem}
    (interleaved : calls.Perm (subs.flatMap utilizationCalls)) :
    numRunningCores calls = (subs.map fun sub => numRunningCores sub.utilizationCalls).sum := by
  rw [numRunningCores_eq_weights, (interleaved.map UtilizationCall.weight).sum_eq]
  clear interleaved
  induction subs with
  | nil => rfl
  | cons sub rest induction =>
    rw [List.flatMap_cons, List.map_append, List.sum_append, induction, List.map_cons,
      List.sum_cons, numRunningCores_eq_weights]

theorem numRunningCores_eq_sum {cores : Finset CoreId} (known : ∀ call ∈ calls, call.core ∈ cores) :
    numRunningCores calls = ∑ core ∈ cores, started core calls := by
  induction calls with
  | nil => simp [numRunningCores, started]
  | cons call earlier induction =>
    have rest := induction fun call member => known call (List.mem_cons_of_mem _ member)
    have own := known call List.mem_cons_self
    cases call with
    | coreStart core =>
      rw [numRunningCores, rest]
      simp only [started_coreStart]
      rw [Finset.sum_add_distrib, Finset.sum_ite_eq', if_pos (show core ∈ cores from own)]
    | coreEnd core =>
      rw [numRunningCores, rest]
      simp only [started_coreEnd]
      rw [Finset.sum_sub_distrib, Finset.sum_ite_eq', if_pos (show core ∈ cores from own)]

theorem Sound.mem_executingCores (sound : Sound sub) :
    core ∈ sub.executingCores ↔ (sub.maliCoreArray core).currentJob.isSome := by
  rw [executingCores, Finset.mem_filter, Finset.mem_range, and_iff_right_iff_imp]
  intro running
  have booked : Booked (.between sub.constants) sub := sound.inOrder
  obtain ⟨job, hasJob⟩ := Option.isSome_iff_exists.mp running
  exact (booked.atWork hasJob).1

namespace Counts

theorem started_eq (counts : Counts sub) (core : CoreId) :
    started core sub.utilizationCalls = if core ∈ sub.executingCores then 1 else 0 := by
  have balanced := counts.tally core
  rw [Subsystem.tally, Int.sub_eq_zero, RenderUnit.executing] at balanced
  rw [balanced]
  simp only [counts.toSound.mem_executingCores]
  cases (sub.maliCoreArray core).currentJob <;> rfl

theorem numRunningCores_eq (counts : Counts sub) :
    numRunningCores sub.utilizationCalls = sub.executingCores.card := by
  have known : ∀ call ∈ sub.utilizationCalls, call.core ∈
      sub.executingCores ∪ (sub.utilizationCalls.map UtilizationCall.core).toFinset := by
    intro call member
    exact Finset.mem_union_right _ (List.mem_toFinset.mpr (List.mem_map_of_mem member))
  rw [numRunningCores_eq_sum known]
  simp only [counts.started_eq]
  rw [Finset.sum_ite_mem, Finset.union_inter_cancel_left, Finset.sum_const, nsmul_one]

theorem coreStart_eq (counts : Counts sub) (core : CoreId) : sub.utilizationCalls.count (.coreStart core) =
      sub.utilizationCalls.count (.coreEnd core) + if core ∈ sub.executingCores then 1 else 0 := by
  have balanced := counts.started_eq core
  rw [started] at balanced
  split at balanced
  next executing =>
    rw [if_pos executing]
    omega
  next rests =>
    rw [if_neg rests]
    omega

end Counts

theorem Sound.executingCores_eq_empty (sound : Sound sub)
    (rests : ∀ core < sub.numberOfCores, (sub.maliCoreArray core).state = .idle ∨
      (sub.maliCoreArray core).state = .off) : sub.executingCores = ∅ := by
  have booked : Booked (.between sub.constants) sub := sound.inOrder
  rw [Finset.eq_empty_iff_forall_notMem]
  intro core member
  have running := sound.mem_executingCores.mp member
  have registered := Finset.mem_range.mp (Finset.mem_filter.mp member).1
  rcases booked.unit registered with ⟨_, noJob⟩ | ⟨busy, isOn, _⟩
  · simp [noJob] at running
  · rcases rests core registered with idle | off
    · exact busy idle
    · exact isOn off

/-- However the calls of some subsystems come after one another: if in their runs cores accept
their jobs and none is detached that is powered off, the count is the number of cores that are
executing a job. It is not negative, and is zero when all of them rest; and each start of a
core has one end, but for that of the job it is executing. -/
theorem num_running_cores_eq (subs : List Subsystem)
    (reached : ∀ sub ∈ subs, (subsystemRuns.restrict KeepsCount).Reachable sub)
    {calls : List UtilizationCall}
    (interleaved : calls.Perm (subs.flatMap Subsystem.utilizationCalls)) :
    numRunningCores calls = (subs.map fun sub => (sub.executingCores.card : Int)).sum ∧
    0 ≤ numRunningCores calls ∧
    ((∀ sub ∈ subs, ∀ core < sub.numberOfCores, (sub.maliCoreArray core).state = .idle ∨
      (sub.maliCoreArray core).state = .off) → numRunningCores calls = 0) ∧
    ∀ sub ∈ subs, ∀ core, sub.utilizationCalls.count (.coreStart core) =
      sub.utilizationCalls.count (.coreEnd core) + if core ∈ sub.executingCores then 1 else 0 := by
  have counts (sub : Subsystem) (member : sub ∈ subs) : Counts sub :=
    counts_of_reachable (reached sub member)
  have count : numRunningCores calls = (subs.map fun sub => (sub.executingCores.card : Int)).sum := by
    rw [numRunningCores_interleaved interleaved]
    exact congrArg List.sum (List.map_congr_left fun sub member => (counts sub member).numRunningCores_eq)
  refine ⟨count, ?_, fun rests => ?_, fun sub member core => (counts sub member).coreStart_eq core⟩
  · rw [count]
    refine List.sum_nonneg fun number listed => ?_
    obtain ⟨sub, _, rfl⟩ := List.mem_map.mp listed
    exact Int.natCast_nonneg _
  · rw [count]
    refine List.sum_eq_zero fun number listed => ?_
    obtain ⟨sub, member, rfl⟩ := List.mem_map.mp listed
    rw [(counts sub member).toSound.executingCores_eq_empty (rests sub member), Finset.card_empty, Int.natCast_zero]

def NoneOff (sub : Subsystem) (occurrence : Occurrence) : Prop :=
  ClosesFew sub occurrence ∧ ∀ core < sub.numberOfCores, (sub.maliCoreArray core).state ≠ .off

instance (sub : Subsystem) (occurrence : Occurrence) : Decidable (NoneOff sub occurrence) := by
  unfold NoneOff
  infer_instance

theorem KeepsCount.fine {action : Action} (noneOff : NoneOff sub action.fine) : KeepsCount sub action.fine where
  few := noneOff.1
  accepts _ _ := rfl
  off :=
    { detaches := fun core registered isOff => absurd isOff (noneOff.2 core registered)
      resets := fun _ _ _ _ _ isStuck => nomatch isStuck
      pending := fun _ _ _ _ _ isStuck => nomatch isStuck }

theorem reachable_fine (actions : List Action) : ∀ sub, (subsystemRuns.restrict KeepsCount).Reachable sub →
      performAll NoneOff (actions.map Action.fine) sub = some after →
      (subsystemRuns.restrict KeepsCount).Reachable after := by
  induction actions with
  | nil =>
    intro sub reached performed
    exact some.inj performed ▸ reached
  | cons action rest induction =>
    intro sub reached performed
    obtain ⟨noneOff, performed⟩ := ite_none_right_eq_some.mp performed
    obtain ⟨next, first, later⟩ := Option.bind_eq_some_iff.mp performed
    exact induction next (reached.next action.fine ⟨.fine noneOff, 1, first⟩) later

def firstEnded : Subsystem :=
  (performAll NoneOff ([.registerRenderunit 0, .registerRenderunit 1, .sessionBegin 7,
    .startJob 7 0#32 1#32 true false, .startJob 7 0#32 2#32 true false,
    .interrupt 1 fun _ => .ended .success].map Action.fine) initialSubsystem).get (by decide +kernel)

theorem num_running_cores_eq_firstEnded : firstEnded.utilizationCalls = [.coreEnd 1, .coreStart 0, .coreStart 1] ∧
      numRunningCores firstEnded.utilizationCalls = 1 := by
  have reached : (subsystemRuns.restrict KeepsCount).Reachable firstEnded :=
    reachable_fine _ _ (.initial rfl) (some_get _).symm
  have calls : firstEnded.utilizationCalls.Perm ([firstEnded].flatMap Subsystem.utilizationCalls) := by
    simp
  obtain ⟨count, _⟩ := num_running_cores_eq [firstEnded] (fun sub member =>
    List.mem_singleton.mp member ▸ reached) calls
  refine ⟨by decide +kernel, count.trans ?_⟩
  decide +kernel

def jobRejected : Subsystem :=
  (performAll (fun _ _ => True) [Action.fine (.registerRenderunit 0), Action.fine (.sessionBegin 8),
    ⟨.startJob 8 0#32 1#32 true false, { fineOutside with starts := fun _ => false }, fun _ => false⟩]
    initialSubsystem).get (by decide +kernel)

def detachedOff : Subsystem :=
  (performAll (fun _ _ => True) [Action.fine (.registerRenderunit 0),
    Action.fine (.powerDown 0 false), Action.fine (.mmuBusReset 0)] initialSubsystem).get
    (by decide +kernel)

/-- The count stays at one when a job is rejected by its core, and is negative when a core is
detached that is powered off. -/
theorem rejected_job_keeps_counting : (∃ sub, subsystemRuns.Reachable sub ∧ (∀ core < sub.numberOfCores,
      (sub.maliCoreArray core).state = .idle) ∧ numRunningCores sub.utilizationCalls = 1) ∧
    ∃ sub, subsystemRuns.Reachable sub ∧ sub.executingCores = ∅ ∧
      numRunningCores sub.utilizationCalls = -1 := by
  have rejected : (subsystemRuns.restrict fun _ _ => True).Reachable jobRejected :=
    reachable_performAll _ _ _ (.initial rfl) (some_get _).symm
  have detached : (subsystemRuns.restrict fun _ _ => True).Reachable detachedOff :=
    reachable_performAll _ _ _ (.initial rfl) (some_get _).symm
  exact ⟨⟨jobRejected, rejected.of_restrict, by decide +kernel, by decide +kernel⟩,
    detachedOff, detached.of_restrict, by decide +kernel, by decide +kernel⟩

end Floid.Render
