import Floid.Render.Detach

namespace Floid.Render

open Osk Lib

def Frame.between (constants : Constants) : Frame := ⟨fun _ => .plain, ∅, ∅, constants⟩

def InOrder (sub : Subsystem) : Prop := Booked (.between sub.constants) sub

variable {frame : Frame} {sub : Subsystem} {core : CoreId} {constants : Constants}

@[simp] theorem Frame.between_mark (constants : Constants) (core : CoreId) :
    (Frame.between constants).mark core = .plain := rfl

theorem outer_between (constants : Constants) : Outer (.between constants) :=
  fun _ => .inl rfl

theorem Booked.inOrder (booked : Booked (.between constants) sub) : InOrder sub := by
  rwa [InOrder, show sub.constants = constants from booked.constants_eq]

variable {allSessions : List SessionId} {closing : Set SessionId} {list : CoreList}
    {unit : RenderUnit}

theorem UnitBooked.running_iff (fits : UnitBooked closing allSessions .plain unit list) :
    unit.currentJob ≠ none ↔ ∃ session, list = .working session := by
  constructor
  · intro running
    by_contra rests
    exact running (fits.resting fun session same => rests ⟨session, same⟩).1
  · rintro ⟨session, same⟩
    obtain ⟨job, running, _⟩ := fits.working session same rfl
    simp [running]

theorem UnitBooked.goOn {unit' : RenderUnit}
    (fits : UnitBooked closing allSessions .plain unit list) (running : unit.currentJob ≠ none)
    (sameJob : unit'.currentJob = unit.currentJob)
    (state : unit'.state = unit.state ∨ unit'.state ≠ .idle ∧ unit'.state ≠ .off) :
    UnitBooked closing allSessions .plain unit' list := by
  obtain ⟨session, rfl⟩ := fits.running_iff.mp running
  have notIdle : unit.state ≠ .idle := by simp [fits.idle_iff]
  have notOff : unit.state ≠ .off := by simp [fits.off_iff]
  obtain ⟨notIdle', notOff'⟩ : unit'.state ≠ .idle ∧ unit'.state ≠ .off := by
    rcases state with same | other
    · rw [same]
      exact ⟨notIdle, notOff⟩
    · exact other
  constructor
  · simp [notIdle']
  · simp [notOff']
  · exact fun held => nomatch held
  · exact fun held => nomatch held
  · rw [sameJob]
    exact fits.working
  · intro rests
    exact absurd rfl (rests session)
  · simp
  · exact fits.isOpen

theorem Booked.goOn (booked : Booked (.between constants) sub)
    (running : (sub.maliCoreArray core).currentJob ≠ none) (change : RenderUnit → RenderUnit)
    (sameJob : (change (sub.maliCoreArray core)).currentJob = (sub.maliCoreArray core).currentJob)
    (detaching : (change (sub.maliCoreArray core)).inDetachFunction = (sub.maliCoreArray core).inDetachFunction)
    (state : (change (sub.maliCoreArray core)).state = (sub.maliCoreArray core).state ∨
      (change (sub.maliCoreArray core)).state ≠ .idle ∧ (change (sub.maliCoreArray core)).state ≠ .off) :
    Booked (.between constants) (sub.updateUnit core change) := by
  have marked := booked.marked core
  have registered : core < sub.numberOfCores := by
    obtain ⟨unitAt, jobAt, books⟩ := booked
    obtain ⟨job, running⟩ := Option.ne_none_iff_exists'.mp running
    obtain ⟨list, on⟩ := books.placed_of_job running
    exact (books.units.registered core).mpr (by simp [on])
  have changed := booked.updateUnit registered .plain change sameJob
    (.of_unknown rfl rfl (detaching.trans marked.detaching))
    (fun _ fits => fits.goOn running sameJob state)
  rwa [← Frame.between_mark constants core, Frame.setMark_self] at changed

theorem Booked.apply (booked : Booked (.between constants) sub)
    (running : (sub.maliCoreArray core).currentJob ≠ none) (answer : IrqAnswer) :
    Booked (.between constants) (answer.apply core sub) := by
  cases answer with
  | ended status => exact booked
  | goesOn => exact booked
  | checksHang setsWorking =>
    rw [IrqAnswer.apply]
    apply booked.goOn running _ rfl rfl
    cases setsWorking with
    | false => exact .inl rfl
    | true => exact .inr ⟨by simp, by simp⟩
  | stalls =>
    have stalled := booked.goOn running
      (fun unit =>
        { unit with state := .working, stalled := true, timer := true, timerHangDetection := false })
      rfl rfl (.inr ⟨by simp, by simp⟩)
    obtain ⟨unitAt, jobAt, books⟩ := stalled
    exact ⟨unitAt, jobAt, books.units, books.sessions, books.jobs, books.constants⟩

theorem IrqAnswer.apply_numberOfCores (answer : IrqAnswer) (core : CoreId) (sub : Subsystem) :
    (answer.apply core sub).numberOfCores = sub.numberOfCores := by
  cases answer <;> rfl

theorem IrqAnswer.apply_job (answer : IrqAnswer) (core : CoreId) (sub : Subsystem) :
    ((answer.apply core sub).maliCoreArray core).currentJob = (sub.maliCoreArray core).currentJob := by
  cases answer <;> simp [IrqAnswer.apply, Subsystem.updateUnit]

theorem Booked.irqHandlerBottomHalf (booked : Booked (.between constants) sub)
    (registered : core < sub.numberOfCores) (outside : Outside) (stuck : CoreId → Bool)
    (handler : RenderUnit → IrqAnswer) :
    Booked (.between constants) (irqHandlerBottomHalf outside stuck core handler sub) := by
  have used : sub.useCurrentJob core = sub := booked.useCurrentJob core
  have outer := outer_between constants
  rw [Render.irqHandlerBottomHalf]
  split
  next => exact booked
  next busy =>
    simp only [used]
    split
    next status _ => exact booked.detachJobFromCore outer registered busy outside stuck true status
    next answer continues =>
      have running : (sub.maliCoreArray core).currentJob ≠ none := by
        intro noJob
        exact continues .unknownErr (if_pos noJob)
      generalize irqAnswer handler (sub.maliCoreArray core) = answer
      have applied := booked.apply running answer
      have still : ((answer.apply core sub).maliCoreArray core).currentJob ≠ none := by
        rwa [answer.apply_job core sub]
      rw [continueRun]
      split
      next timeout =>
        exact applied.detachJobFromCore outer (by rwa [answer.apply_numberOfCores]) (by simp [timeout])
          outside stuck true .timeoutSw
      next => exact applied.goOn still _ rfl rfl (.inr ⟨by simp, by simp⟩)
      next => exact applied

theorem Booked.of_timer (booked : Booked (.between constants) sub)
    (pending : (sub.maliCoreArray core).timer = true ∨ (sub.maliCoreArray core).timerHangDetection = true) :
    (sub.maliCoreArray core).currentJob ≠ none := by
  obtain ⟨unitAt, jobAt, books⟩ := booked
  cases on : unitAt core with
  | none =>
    obtain ⟨_, _, timer, hang⟩ := books.units.unregistered core on
    simp [timer, hang] at pending
  | some list =>
    have fits := books.units.booked core list on
    apply fits.running_iff.mpr
    by_contra rests
    obtain ⟨_, timer, hang⟩ := fits.resting fun session same => rests ⟨session, same⟩
    simp [timer, hang] at pending

theorem Booked.timeoutFunction (booked : Booked (.between constants) sub)
    (pending : (sub.maliCoreArray core).timer = true) (polls : Bool) :
    Booked (.between constants) (timeoutFunction core polls sub) := by
  have used : sub.useCurrentJob core = sub := booked.useCurrentJob core
  rw [Render.timeoutFunction, used]
  apply booked.goOn (booked.of_timer (.inl pending)) _ rfl rfl
  split
  next => exact .inr ⟨by simp, by simp⟩
  next => exact .inr ⟨by simp, by simp⟩

theorem Booked.timeoutFunctionHangDetection (booked : Booked (.between constants) sub)
    (pending : (sub.maliCoreArray core).timerHangDetection = true) :
    Booked (.between constants) (timeoutFunctionHangDetection core sub) := by
  rw [Render.timeoutFunctionHangDetection]
  apply booked.goOn (booked.of_timer (.inr pending)) _ rfl rfl
  split
  next => exact .inl rfl
  next => exact .inr ⟨by simp, by simp⟩

theorem Booked.setPendPowerDown (booked : Booked (.between constants) sub)
    (registered : core < sub.numberOfCores) (pendPowerDown : Bool)
    (calm : (sub.maliCoreArray core).state = .idle → pendPowerDown = false) :
    Booked (.between constants) (sub.updateUnit core fun unit => { unit with pendPowerDown }) := by
  have changed := booked.updateUnit registered .plain
    (fun unit => { unit with pendPowerDown }) rfl
    (.of_unknown rfl rfl (booked.marked core).detaching)
    (fun _ fits => { fits with calm := fun idle => calm (fits.idle_iff.mpr idle) })
  rwa [← Frame.between_mark constants core, Frame.setMark_self] at changed

theorem Booked.signalPowerDown (booked : Booked (.between constants) sub) (core : CoreId)
    (immediateOnly : Bool) : Booked (.between constants) (signalPowerDown core immediateOnly sub).2 := by
  rw [Render.signalPowerDown]
  split
  next registered =>
    split
    next busy =>
      dsimp only
      split
      next => exact booked
      next => exact booked.setPendPowerDown registered true fun idle => absurd idle busy
    next idles =>
      obtain ⟨unitAt, jobAt, books⟩ := booked
      obtain ⟨list, on⟩ := Option.ne_none_iff_exists'.mp ((books.units.registered core).mp registered)
      have fits := books.units.booked core list on
      have idle := fits.idle_iff.mp (not_not.mp idles)
      subst idle
      obtain ⟨noJob, timer, hang⟩ := fits.resting (by simp)
      have moved := books.moveUnit core (by simp [on]) noJob .off .plain
        (fun unit => { unit with currentJob := none, state := .off }) rfl
        (.of_unknown rfl rfl (books.units.marked core).detaching)
        (.rests rfl (.inr ⟨rfl, rfl⟩) rfl timer hang (fits.calm rfl))
      rw [← Frame.between_mark constants core, Frame.setMark_self] at moved
      exact ⟨_, _, moved⟩
  next => exact booked

theorem Booked.signalPowerUp (booked : Booked (.between constants) sub) (outside : Outside)
    (stuck : CoreId → Bool) (core : CoreId) (queueOnly : Bool) :
    Booked (.between constants) (signalPowerUp outside stuck core queueOnly sub).2 := by
  have reset (sub : Subsystem) (booked : Booked (.between constants) sub) :
      Booked (.between constants) (if queueOnly then sub else resetCore outside stuck core sub) := by
    split
    next => exact booked
    next => exact keeps_resetCore outside stuck core _ _ (outer_between constants) booked
  rw [Render.signalPowerUp]
  split
  next registered =>
    split
    next => exact booked.setPendPowerDown registered false fun _ => rfl
    next isOff =>
      have noJob : (sub.maliCoreArray core).currentJob = none := by
        obtain ⟨unitAt, jobAt, books⟩ := booked
        obtain ⟨list, on⟩ := Option.ne_none_iff_exists'.mp ((books.units.registered core).mp registered)
        have fits := books.units.booked core list on
        have off := fits.off_iff.mp (not_not.mp isOff)
        exact (fits.resting (by simp [off])).1
      have given := booked.moveCoreSetIdle (keeps_schedule outside) outside registered
        (by simp [not_not.mp isOff]) noJob
      have plain := @Booked.unmark _ _ given core .plain (by simp) rfl (by simp [Mark.plain]) rfl
      rw [Frame.setMark_setMark, ← Frame.between_mark constants core, Frame.setMark_self] at plain
      exact keeps_schedule outside _ _ (reset _ plain)
  next => exact booked

end Floid.Render
