import Floid.Render.Scheduler

namespace Floid.Render

open Floid.Lib Frame

def Outer (frame : Frame) : Prop := ∀ core, frame.mark core = .plain ∨ frame.mark core = .detached

def KeepsOuter (action : Subsystem → Subsystem) : Prop :=
  ∀ frame sub, Outer frame → Booked frame sub → Booked frame (action sub)

def Frame.carry (job : Option Job) (frame : Frame) : Frame :=
  { frame with flight := { other | job = some other } ∪ frame.flight }

variable {frame : Frame} {sub : Subsystem} {core : CoreId} {session : SessionId}

@[simp] theorem Frame.carry_none (frame : Frame) : frame.carry none = frame := by
  simp [carry]

theorem Frame.carry_some (frame : Frame) (job : Job) :
    frame.carry (some job) = { frame with flight := insert job frame.flight } := by
  have one : {other | some job = some other} = ({job} : Set Job) := by
    ext other
    simp [eq_comm]
  rw [carry, one, Set.singleton_union]

@[simp] theorem Frame.carry_mark (frame : Frame) (job : Option Job) : (frame.carry job).mark = frame.mark := rfl

theorem Frame.carry_setMark (frame : Frame) (job : Option Job) (core : CoreId) (mark : Mark) :
    (frame.carry job).setMark core mark = (frame.setMark core mark).carry job := rfl

theorem Outer.mono {frame' : Frame} (outer : Outer frame)
    (same : ∀ other, frame'.mark other = frame.mark other ∨ frame'.mark other = .detached) :
    Outer frame' := by
  intro other
  rcases same other with same | detached
  · rw [same]
    exact outer other
  · exact .inr detached

theorem Outer.detach (outer : Outer frame) (core : CoreId) (job : Option Job) :
    Outer ((frame.setMark core .detached).carry job) := by
  intro other
  by_cases same : other = core
  · exact .inr (by simp [same])
  · simpa [setMark, same] using outer other

theorem Marked.of_unknown {mark : Mark} {unit : RenderUnit} (free : mark.stalledOn = none)
    (unknown : mark.pend = none) (detaching : unit.inDetachFunction = mark.detaching) :
    Marked mark unit := by
  refine .of_free free (fun pend known => ?_) detaching
  rw [unknown] at known
  contradiction

theorem Booked.updateUnit (booked : Booked frame sub) (registered : core < sub.numberOfCores)
    (mark : Mark) (change : RenderUnit → RenderUnit)
    (sameJob : (change (sub.maliCoreArray core)).currentJob = (sub.maliCoreArray core).currentJob)
    (shows : Marked mark (change (sub.maliCoreArray core)))
    (fits : ∀ list, UnitBooked frame.closing sub.allSessions (frame.mark core) (sub.maliCoreArray core) list →
      UnitBooked frame.closing sub.allSessions mark (change (sub.maliCoreArray core)) list) :
    Booked (frame.setMark core mark) (sub.updateUnit core change) := by
  obtain ⟨unitAt, jobAt, books⟩ := booked
  obtain ⟨list, on⟩ := Option.ne_none_iff_exists'.mp ((books.units.registered core).mp registered)
  exact ⟨_, _, books.changeUnit on mark change sameJob shows (fits list (books.units.booked core list on))⟩

theorem Booked.constants_eq (booked : Booked frame sub) : sub.constants = frame.constants := by
  obtain ⟨_, _, books⟩ := booked
  exact books.constants

theorem Booked.numberOfCores (booked : Booked frame sub) : sub.numberOfCores = frame.constants.numberOfCores :=
  congrArg Constants.numberOfCores booked.constants_eq

theorem Booked.takeJobFromCore (booked : Booked frame sub) (registered : core < sub.numberOfCores)
    (busy : (sub.maliCoreArray core).state ≠ .idle) :
    Booked ((frame.setMark core .detached).carry (sub.maliCoreArray core).currentJob)
      (takeJobFromCore core sub) := by
  obtain ⟨unitAt, jobAt, books⟩ := booked
  obtain ⟨list, on⟩ := Option.ne_none_iff_exists'.mp ((books.units.registered core).mp registered)
  have fits := books.units.booked core list on
  have held : UnitBooked frame.closing sub.allSessions .detached
      { sub.maliCoreArray core with inDetachFunction := true, currentJob := none } list :=
    fits.hold busy rfl rfl rfl (.inr ⟨rfl, rfl, rfl⟩)
  have shows : Marked .detached
      { sub.maliCoreArray core with inDetachFunction := true, currentJob := none } :=
    .of_unknown rfl rfl rfl
  rw [Render.takeJobFromCore, books.useCurrentJob core]
  cases running : (sub.maliCoreArray core).currentJob with
  | none =>
    rw [carry_none]
    exact ⟨_, _, books.changeUnit on _ _ running.symm shows held⟩
  | some job =>
    rw [carry_some]
    exact ⟨_, _, books.takeJob on running _ _ rfl shows held⟩

theorem Booked.running (booked : Booked frame sub) (core : CoreId) :
    ∀ job, (sub.maliCoreArray core).currentJob = some job → job ∉ frame.flight := by
  intro job running inFlight
  obtain ⟨unitAt, jobAt, books⟩ := booked
  have elsewhere := books.jobs.unique (show Found _ _ _ _ _ .flight job from inFlight)
    (show Found _ _ _ _ _ (.onCore core) job from running)
  contradiction

theorem Booked.finishDetach {job : Option Job} (booked : Booked ((frame.setMark core .detached).carry job) sub)
    (plain : frame.mark core = .plain) (notYet : ∀ own, job = some own → own ∉ frame.flight)
    (outside : Outside) (reschedule : Bool) (endStatus : JobEndCode) :
    Booked frame (finishDetach outside core reschedule endStatus job sub) := by
  have held : (((frame.setMark core .detached).carry job).mark core).held = true := by
    simp [Mark.detached]
  obtain ⟨registered, busy, noJob⟩ : core < sub.numberOfCores ∧
      (sub.maliCoreArray core).state ≠ .idle ∧ (sub.maliCoreArray core).currentJob = none := by
    obtain ⟨unitAt, jobAt, books⟩ := booked
    obtain ⟨list, on⟩ := books.placed_of_held core held
    have fits := books.units.booked core list on
    refine ⟨(books.units.registered core).mpr (by simp [on]), ?_, (fits.held held).1⟩
    intro idle
    exact (fits.held held).2 (fits.idle_iff.mp idle)
  have given := (booked.utilization (.coreEnd core)).moveCoreSetIdle (keeps_schedule outside) outside
    registered busy noJob
  rw [carry_setMark, setMark_setMark] at given
  have same := given.numberOfCores.trans booked.numberOfCores.symm
  have cleared := given.updateUnit (same ▸ registered) .plain
    (fun unit => { unit with inDetachFunction := false }) rfl (.of_unknown rfl rfl rfl)
    (by
      intro list fits
      simp only [carry_mark, setMark_mark] at fits
      exact { fits with
        held := nofun
        quiet := nofun })
  rw [carry_setMark, setMark_setMark, ← plain, setMark_self] at cleared
  have scheduled (reschedule : Bool) (sub : Subsystem) (booked : Booked (frame.carry job) sub) :
      Booked (frame.carry job) (if reschedule then schedule outside sub else sub) := by
    split
    next => exact keeps_schedule outside _ _ booked
    next => exact booked
  cases job with
  | none =>
    rw [Render.finishDetach, if_pos busy]
    have done := scheduled reschedule _ cleared
    rwa [carry_none] at done
  | some job =>
    rw [Render.finishDetach, if_pos busy]
    have done := scheduled reschedule _ cleared
    rw [carry_some] at done
    have returned := done.returnJobToUser (Set.mem_insert job _) endStatus
    dsimp only at returned
    rwa [Set.insert_sdiff_self_of_notMem (notYet job rfl)] at returned

theorem Booked.detachWithReset {reset : Subsystem → Subsystem} (booked : Booked frame sub)
    (own : frame.mark core = .plain ∨ frame.mark core = .detached)
    (keeps : ∀ frame' sub, (∀ other, frame'.mark other = frame.mark other ∨
      frame'.mark other = .detached) → Booked frame' sub → Booked frame' (reset sub))
    (registered : core < sub.numberOfCores) (busy : (sub.maliCoreArray core).state ≠ .idle)
    (outside : Outside) (reschedule : Bool) (endStatus : JobEndCode) :
    Booked frame (detachWithReset reset outside core reschedule endStatus sub) := by
  have detaching := (booked.marked core).detaching
  rw [Render.detachWithReset, detaching]
  rcases own with plain | detached
  · rw [plain, if_neg (by simp [Mark.plain])]
    have taken := booked.takeJobFromCore registered busy
    have kept := keeps _ _ (fun other => ?_) taken
    · exact kept.finishDetach plain (booked.running core) outside reschedule endStatus
    · by_cases same : other = core
      · exact .inr (by simp [same])
      · exact .inl (by simp [setMark, same])
  · rw [detached, if_pos (by simp [Mark.detached])]
    exact keeps _ _ (fun _ => .inl rfl) booked

theorem Booked.forUnits {action : CoreId → Subsystem → Subsystem} (booked : Booked frame sub)
    (step : ∀ core sub, core < sub.numberOfCores → Booked frame sub →
      Booked frame (action core sub)) : Booked frame (forUnits action sub) := by
  have loop (cores : List CoreId) (known : ∀ core ∈ cores, core < frame.constants.numberOfCores) :
      ∀ sub, Booked frame sub → Booked frame (cores.foldl (fun sub core => action core sub) sub) := by
    induction cores with
    | nil => exact fun _ booked => booked
    | cons core rest induction =>
      intro sub booked
      have first := step core sub (booked.numberOfCores ▸ known core List.mem_cons_self) booked
      exact induction (fun core member => known core (List.mem_cons_of_mem _ member)) _ first
  apply loop _ _ sub booked
  intro core member
  rw [← booked.numberOfCores]
  exact List.mem_range.mp member

theorem Booked.setErrorRecovery (booked : Booked frame sub) (registered : core < sub.numberOfCores)
    (errorRecovery : Bool) :
    Booked frame (sub.updateUnit core fun unit => { unit with errorRecovery }) := by
  have marked := booked.marked core
  have changed := booked.updateUnit registered (frame.mark core)
    (fun unit => { unit with errorRecovery }) rfl { marked with } (fun _ fits => { fits with })
  rwa [setMark_self] at changed

theorem keeps_stopBusForAllCoresOnMmu (mmu : MmuId) : Keeps (stopBusForAllCoresOnMmu mmu) := by
  intro frame sub booked
  apply booked.forUnits
  intro core sub registered booked
  split
  next => exact booked.setErrorRecovery registered true
  next => exact booked

variable (outside : Outside)

theorem keeps_resetAllCoresOnMmu (mmu : MmuId) : KeepsOuter (resetAllCoresOnMmu outside mmu) := by
  intro frame sub outer booked
  apply booked.forUnits
  intro core sub registered booked
  split
  next busy =>
    exact booked.detachWithReset (outer core) (fun _ _ _ booked => booked) registered busy.2 outside
      false .segFault
  next => exact booked

theorem keeps_continueJobHandling : Keeps (continueJobHandling outside) := by
  intro frame sub booked
  have recovered := booked.forUnits fun core sub registered booked =>
    booked.setErrorRecovery registered false
  exact Function.Iterate.rec (Booked frame) recovered (keeps_schedule outside frame) _

theorem keeps_mmuBusReset (mmu : MmuId) : KeepsOuter (mmuBusReset outside mmu) := by
  intro frame sub outer booked
  have stopped := keeps_stopBusForAllCoresOnMmu mmu frame sub booked
  have reset := keeps_resetAllCoresOnMmu outside mmu frame _ outer stopped
  have released := reset.releaseAddressSpaceReference (keeps_schedule outside) outside
  exact keeps_continueJobHandling outside frame _ released

theorem keeps_resetCore (stuck : CoreId → Bool) (core : CoreId) :
    KeepsOuter (resetCore outside stuck core) := by
  intro frame sub outer booked
  rw [resetCore]
  split
  next => exact keeps_mmuBusReset outside _ frame sub outer booked
  next => exact booked

theorem Booked.detachJobFromCore (booked : Booked frame sub) (outer : Outer frame)
    (registered : core < sub.numberOfCores) (busy : (sub.maliCoreArray core).state ≠ .idle)
    (outside : Outside) (stuck : CoreId → Bool) (reschedule : Bool) (endStatus : JobEndCode) :
    Booked frame (detachJobFromCore outside stuck core reschedule endStatus sub) := by
  apply booked.detachWithReset (outer core) _ registered busy
  intro frame' sub' same booked
  split
  next => exact booked
  next => exact keeps_resetCore outside stuck core frame' sub' (outer.mono same) booked

end Floid.Render
