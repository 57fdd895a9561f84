import Floid.Render.Books

/-!
The scheduler keeps the books, whatever is in hand. So does each function that it is
made of, with the scheduler that the MMU calls back taken to keep them.
-/

namespace Floid.Render

open Floid.Lib Frame

def Keeps (action : Subsystem → Subsystem) : Prop :=
  ∀ frame sub, Booked frame sub → Booked frame (action sub)

variable {frame : Frame} {sub : Subsystem} {core : CoreId} {job : Job}
  {schedule : Subsystem → Subsystem}

namespace Booked

theorem ask (booked : Booked frame sub) (answers : Nat → Bool) : Booked frame (sub.ask answers).2 := by
  obtain ⟨unitAt, jobAt, books⟩ := booked
  exact ⟨unitAt, jobAt, books.units, books.sessions, books.jobs, books.constants⟩

theorem tell (booked : Booked frame sub) (message : PmmMessage) : Booked frame (sub.tell message) := by
  obtain ⟨unitAt, jobAt, books⟩ := booked
  exact ⟨unitAt, jobAt, books.units, books.sessions, books.jobs, books.constants⟩

theorem utilization (booked : Booked frame sub) (call : UtilizationCall) :
    Booked frame (sub.utilization call) := by
  obtain ⟨unitAt, jobAt, books⟩ := booked
  exact ⟨unitAt, jobAt, books.units, books.sessions, books.jobs, books.constants⟩

theorem releaseAddressSpaceReference (booked : Booked frame sub) (keeps : Keeps schedule)
    (outside : Outside) : Booked frame (releaseAddressSpaceReference schedule outside sub) := by
  rw [Render.releaseAddressSpaceReference]
  split
  next callsBack asked answer =>
    have same : asked = (sub.ask outside.lastReference).2 := (congrArg Prod.snd answer).symm
    have asking : Booked frame asked := same ▸ booked.ask outside.lastReference
    split
    next => exact keeps frame asked asking
    next => exact asking

theorem remark (booked : Booked frame sub) (core : CoreId) {mark : Mark} (held : mark.held = (frame.mark core).held)
    (quiet : mark.held = true → mark.quiet = true → (frame.mark core).quiet = true)
    (shows : Marked mark (sub.maliCoreArray core)) : Booked (frame.setMark core mark) sub := by
  obtain ⟨unitAt, jobAt, books⟩ := booked
  refine ⟨unitAt, jobAt, books.units.remark ?_ ?_ ?_, books.sessions, books.jobs, books.constants⟩
  · intro other
    by_cases same : other = core
    · simp [setMark, same, held]
    · simp [setMark, same]
  · intro other
    by_cases same : other = core
    · simpa [setMark, same] using quiet
    · simp [setMark, same]
  · intro other
    by_cases same : other = core
    · simpa [setMark, same] using shows
    · simpa [setMark, same] using books.units.marked other

theorem marked (booked : Booked frame sub) (core : CoreId) :
    Marked (frame.mark core) (sub.maliCoreArray core) := by
  obtain ⟨_, _, books⟩ := booked
  exact books.units.marked core

end Booked

@[simp] theorem Frame.setMark_mark (frame : Frame) (core : CoreId) (mark : Mark) :
    (frame.setMark core mark).mark core = mark := by
  simp [setMark]

@[simp] theorem Frame.setMark_setMark (frame : Frame) (core : CoreId) (first second : Mark) :
    (frame.setMark core first).setMark core second = frame.setMark core second := by
  simp [setMark]

@[simp] theorem Frame.setMark_self (frame : Frame) (core : CoreId) :
    frame.setMark core (frame.mark core) = frame := by
  simp [setMark]

def Mark.idle (mark : Mark) : Mark := ⟨false, false, some false, mark.detaching, none⟩

variable {jobAt : Job → Option JobPlace} {unitAt : CoreId → Option CoreList}
    {allSessions : List SessionId} {closing : Set SessionId} {list : CoreList} {unit : RenderUnit}

theorem Books.placed_of_held
    (books : Books frame unitAt jobAt sub) (core : CoreId) (held : (frame.mark core).held = true) :
    ∃ list, unitAt core = some list := by
  cases on : unitAt core with
  | some list => exact ⟨list, rfl⟩
  | none =>
    have free := (books.units.unregistered core on).1
    rw [held] at free
    contradiction

theorem Books.placed_of_job
    (books : Books frame unitAt jobAt sub) (running : (sub.maliCoreArray core).currentJob = some job) :
    ∃ list, unitAt core = some list := by
  cases on : unitAt core with
  | some list => exact ⟨list, rfl⟩
  | none =>
    have noJob := (books.units.unregistered core on).2.1
    rw [running] at noJob
    contradiction

theorem Booked.of_idle (booked : Booked frame sub) (idles : core ∈ sub.renderunits .idle) :
    (frame.mark core).held = false ∧ (∀ pend, (frame.mark core).pend = some pend → pend = false) ∧
      (frame.mark core).stalledOn = none := by
  obtain ⟨unitAt, jobAt, books⟩ := booked
  have fits := books.units.booked core .idle ((books.units.placed.mem_iff core .idle).mp idles)
  have marked := books.units.marked core
  refine ⟨?_, ?_, ?_⟩
  · by_contra held
    exact (fits.held (by simpa using held)).2 rfl
  · intro pend known
    exact (marked.pend pend known).symm.trans (fits.calm rfl)
  · by_contra stalled
    obtain ⟨job, known⟩ := Option.ne_none_iff_exists'.mp stalled
    have running := (marked.stalledOn job known).1
    rw [(fits.resting (by simp)).1] at running
    contradiction

theorem Booked.unmark (booked : Booked frame sub) (core : CoreId) {mark : Mark} (given : frame.mark core = mark.idle)
    (free : mark.held = false) (calm : ∀ pend, mark.pend = some pend → pend = false)
    (unstalled : mark.stalledOn = none) : Booked (frame.setMark core mark) sub := by
  have marked := booked.marked core
  rw [given] at marked
  apply booked.remark core
  · rw [given, free, Mark.idle]
  · intro held
    rw [free] at held
    contradiction
  · apply Marked.of_free unstalled
    · intro pend known
      rw [calm pend known]
      exact marked.pend false rfl
    · exact marked.detaching

variable {mark : Mark}

theorem UnitBooked.rests (held : mark.held = false)
    (idle : unit.state = .idle ∧ list = .idle ∨ unit.state = .off ∧ list = .off)
    (noJob : unit.currentJob = none) (timer : unit.timer = false)
    (hang : unit.timerHangDetection = false) (calm : unit.pendPowerDown = false) :
    UnitBooked closing allSessions mark unit list := by
  rcases idle with ⟨state, rfl⟩ | ⟨state, rfl⟩
  · constructor <;> simp [state, held, noJob, timer, hang, calm]
  · constructor <;> simp [state, held, noJob, timer, hang]

theorem Booked.setIdleWithoutJob (booked : Booked frame sub) (keeps : Keeps schedule)
    (outside : Outside) (core : CoreId) (oldstatus : CoreStatus) (held : (frame.mark core).held = true)
    (quiet : (frame.mark core).quiet = true) :
    Booked (frame.setMark core (frame.mark core).idle)
      (setIdleWithoutJob schedule outside core oldstatus sub) := by
  have callsBack (frame : Frame) (sub : Subsystem) (booked : Booked frame sub) :
      Booked frame
        (if oldstatus ≠ .off then
          Render.releaseAddressSpaceReference schedule outside (sub.tell (.jobFinished core))
        else sub) := by
    split
    next => exact (booked.tell _).releaseAddressSpaceReference keeps outside
    next => exact booked
  have detaching := (booked.marked core).detaching
  by_cases pend : (sub.maliCoreArray core).pendPowerDown = true
  · -- the core stays on its list while the MMU calls back
    have shown : Booked (frame.setMark core { frame.mark core with pend := some true }) sub :=
      booked.remark core rfl (fun _ isQuiet => isQuiet)
        ⟨fun _ same => Option.some.inj same ▸ pend, detaching, (booked.marked core).stalledOn⟩
    have called := callsBack _ _ shown
    have still := (called.marked core).pend true (by simp)
    obtain ⟨unitAt, jobAt, books⟩ := called
    obtain ⟨list, on⟩ := books.placed_of_held core (by simpa using held)
    have fits := books.units.booked core list on
    simp only [setMark_mark] at fits
    obtain ⟨timer, hang⟩ := fits.quiet held quiet
    have moved := books.moveUnit core (by simp [on]) (fits.held held).1 .off (frame.mark core).idle
      (fun unit => { unit with state := .off, pendPowerDown := false }) (fits.held held).1
      (.of_free rfl (fun _ same => Option.some.inj same ▸ rfl)
        ((books.units.marked core).detaching.trans (by simp [Mark.idle])))
      (.rests rfl (.inr ⟨rfl, rfl⟩) (fits.held held).1 timer hang rfl)
    rw [setMark_setMark] at moved
    rw [Render.setIdleWithoutJob]
    simp only [pend, if_true, still]
    exact Booked.tell ⟨_, _, moved⟩ _
  · rw [Bool.not_eq_true] at pend
    obtain ⟨unitAt, jobAt, books⟩ := booked
    obtain ⟨list, on⟩ := books.placed_of_held core held
    have fits := books.units.booked core list on
    obtain ⟨timer, hang⟩ := fits.quiet held quiet
    have moved := books.moveUnit core (by simp [on]) (fits.held held).1 .idle (frame.mark core).idle
      (fun unit => { unit with state := .idle }) (fits.held held).1
      (.of_free rfl (fun _ same => Option.some.inj same ▸ pend) detaching)
      (.rests rfl (.inl ⟨rfl, rfl⟩) (fits.held held).1 timer hang pend)
    have called := callsBack _ _ ⟨_, _, moved⟩
    have still := (called.marked core).pend false (by simp [Mark.idle])
    rw [Render.setIdleWithoutJob]
    simp only [pend, Bool.false_eq_true, if_false, still]
    exact called

theorem UnitBooked.hold (fits : UnitBooked closing allSessions mark unit list)
    (busy : unit.state ≠ .idle) {mark' : Mark} (held : mark'.held = true) {unit' : RenderUnit}
    (state : unit'.state = unit.state) (noJob : unit'.currentJob = none)
    (quiet : unit'.timer = false ∧ unit'.timerHangDetection = false ∨
      mark'.quiet = false ∧ unit'.timer = unit.timer ∧ unit'.timerHangDetection = unit.timerHangDetection) :
    UnitBooked closing allSessions mark' unit' list := by
  have away : list ≠ .idle := fun same => busy (fits.idle_iff.mpr same)
  constructor
  · rw [state]
    exact fits.idle_iff
  · rw [state]
    exact fits.off_iff
  · intro _
    exact ⟨noJob, away⟩
  · intro _ isQuiet
    rcases quiet with deleted | ⟨notQuiet, _⟩
    · exact deleted
    · rw [isQuiet] at notQuiet
      contradiction
  · intro session _ free
    rw [held] at free
    contradiction
  · intro rests
    rcases quiet with deleted | ⟨_, timer, hang⟩
    · exact ⟨noJob, deleted⟩
    · rw [timer, hang]
      exact ⟨noJob, (fits.resting rests).2⟩
  · intro same
    exact absurd same away
  · intro session works
    exact ⟨(fits.isOpen session works).1, fun _ => held⟩

theorem Booked.moveCoreSetIdle (booked : Booked frame sub) (keeps : Keeps schedule)
    (outside : Outside) (registered : core < sub.numberOfCores)
    (busy : (sub.maliCoreArray core).state ≠ .idle)
    (noJob : (sub.maliCoreArray core).currentJob = none) :
    Booked (frame.setMark core (frame.mark core).idle)
      (moveCoreSetIdle schedule outside core sub) := by
  obtain ⟨unitAt, jobAt, books⟩ := booked
  obtain ⟨list, on⟩ := Option.ne_none_iff_exists'.mp ((books.units.registered core).mp registered)
  have fits := books.units.booked core list on
  have marked := books.units.marked core
  have quiet := books.changeUnit on
    { frame.mark core with held := true, quiet := true, stalledOn := none }
    (fun unit =>
      { unit with timer := false, timerHangDetection := false, currentJob := none })
    noJob.symm (.of_free rfl marked.pend marked.detaching) (fits.hold busy rfl rfl rfl (.inl ⟨rfl, rfl⟩))
  have given := Booked.setIdleWithoutJob ⟨_, _, quiet⟩ keeps outside core
    (sub.maliCoreArray core).state (by simp) (by simp)
  simpa [Mark.idle, Render.moveCoreSetIdle] using given

theorem Booked.moveCoreSetIdle_job (booked : Booked frame sub) (keeps : Keeps schedule)
    (outside : Outside) (busy : (sub.maliCoreArray core).state ≠ .idle)
    (running : (sub.maliCoreArray core).currentJob = some job) :
    Booked { frame.setMark core (frame.mark core).idle with flight := insert job frame.flight }
      (Render.moveCoreSetIdle schedule outside core sub) := by
  obtain ⟨unitAt, jobAt, books⟩ := booked
  obtain ⟨list, on⟩ := books.placed_of_job running
  have fits := books.units.booked core list on
  have marked := books.units.marked core
  have quiet := books.takeJob on running
    { frame.mark core with held := true, quiet := true, stalledOn := none }
    (fun unit =>
      { unit with timer := false, timerHangDetection := false, currentJob := none })
    rfl (.of_free rfl marked.pend marked.detaching) (fits.hold busy rfl rfl rfl (.inl ⟨rfl, rfl⟩))
  have given := Booked.setIdleWithoutJob ⟨_, _, quiet⟩ keeps outside core
    (sub.maliCoreArray core).state (by simp [setMark]) (by simp [setMark])
  simpa [Mark.idle, setMark, Render.moveCoreSetIdle] using given

theorem Booked.returnJobToUser (booked : Booked frame sub) (inFlight : job ∈ frame.flight) (endStatus : JobEndCode) :
    Booked { frame with flight := frame.flight \ {job} } (sub.returnJobToUser job endStatus) := by
  obtain ⟨unitAt, jobAt, books⟩ := booked
  exact ⟨_, _, books.returnJob inFlight endStatus⟩

theorem Booked.moveSetWorking (booked : Booked frame sub) (inFlight : job ∈ frame.flight)
    (idles : core ∈ sub.renderunits .idle) (isOpen : job.session ∈ sub.allSessions)
    (stays : job.session ∉ frame.closing) :
    Booked { frame with flight := frame.flight \ {job} } (moveSetWorking core job sub) := by
  obtain ⟨free, _, unstalled⟩ := booked.of_idle idles
  obtain ⟨unitAt, jobAt, books⟩ := booked
  have on := (books.units.placed.mem_iff core .idle).mp idles
  have fits := books.units.booked core .idle on
  have marked := books.units.marked core
  have works : UnitBooked frame.closing sub.allSessions (frame.mark core)
      { sub.maliCoreArray core with currentJob := some job, stalled := false, state := .working }
      (.working job.session) := by
    constructor <;> simp [free, isOpen, stays]
  have started := books.startJob (by simp [on]) (fits.resting (by simp)).1 inFlight
    (fun unit => { unit with currentJob := some job, stalled := false, state := .working })
    rfl (.of_free unstalled marked.pend marked.detaching) works
  rw [setMark_self] at started
  rw [Render.moveSetWorking, books.useJob inFlight]
  exact ⟨_, _, started⟩

theorem Booked.startTimer (booked : Booked frame sub) (unstalled : (frame.mark core).stalledOn = none)
    (running : (sub.maliCoreArray core).currentJob ≠ none) :
    Booked frame (sub.updateUnit core fun unit => { unit with timer := true }) := by
  obtain ⟨unitAt, jobAt, books⟩ := booked
  obtain ⟨job, running⟩ := Option.ne_none_iff_exists'.mp running
  obtain ⟨list, on⟩ := books.placed_of_job running
  have fits := books.units.booked core list on
  have marked := books.units.marked core
  have changed := books.changeUnit on (frame.mark core)
    (fun unit => { unit with timer := true }) rfl
    (.of_free unstalled marked.pend marked.detaching)
    { fits with
      quiet := fun held => absurd (fits.held held).1 (by simp [running])
      resting := fun rests => absurd (fits.resting rests).1 (by simp [running]) }
  rw [setMark_self] at changed
  exact ⟨_, _, changed⟩

theorem moveSetWorking_job (core : CoreId) (job : Job) (sub : Subsystem) :
    ((moveSetWorking core job sub).maliCoreArray core).currentJob = some job := by
  simp [moveSetWorking, Subsystem.moveUnit, Subsystem.updateUnit]

theorem moveSetWorking_state (core : CoreId) (job : Job) (sub : Subsystem) :
    ((moveSetWorking core job sub).maliCoreArray core).state = .working := by
  simp [moveSetWorking, Subsystem.moveUnit, Subsystem.updateUnit]

theorem Booked.jobStartOnCore (booked : Booked frame sub) (keeps : Keeps schedule)
    (outside : Outside) (core : CoreId) (inFlight : job ∈ frame.flight) (idles : core ∈ sub.renderunits .idle)
    (isOpen : job.session ∈ sub.allSessions) (stays : job.session ∉ frame.closing) :
    Booked { frame with flight := frame.flight \ {job} }
      (jobStartOnCore schedule outside job core sub) := by
  have works := booked.moveSetWorking inFlight idles isOpen stays
  have running := moveSetWorking_job core job sub
  obtain ⟨free, calm, unstalled⟩ := booked.of_idle idles
  have counted := works.utilization (.coreStart core)
  have failed (endStatus : JobEndCode) {working : Subsystem}
      (works : Booked { frame with flight := frame.flight \ {job} } working)
      (same : working.maliCoreArray = (Render.moveSetWorking core job sub).maliCoreArray) :
      Booked { frame with flight := frame.flight \ {job} }
        ((Render.moveCoreSetIdle schedule outside core working).returnJobToUser job endStatus) := by
    rw [← same] at running
    have given := works.moveCoreSetIdle_job keeps outside (by simp [same, moveSetWorking_state]) running
    have returned := given.returnJobToUser (Set.mem_insert job _) endStatus
    have restored := returned.unmark core (by simp [setMark]) free calm unstalled
    have same : insert job (frame.flight \ {job}) \ {job} = frame.flight \ {job} := by
      rw [Set.insert_sdiff_of_mem _ (Set.mem_singleton job), Set.sdiff_sdiff, Set.union_self]
    simpa [setMark, same] using restored
  rw [Render.jobStartOnCore]
  split
  next =>
    split
    next =>
      have still : (((Render.moveSetWorking core job sub).utilization
          (.coreStart core)).maliCoreArray core).currentJob = some job := running
      exact counted.startTimer unstalled (by simp [still])
    next => exact failed .illegalJob counted rfl
  next => exact failed .systemUnusable works rfl

variable {session : SessionId}

theorem Booked.waiting (booked : Booked frame sub) (waits : sub.jobWaitingToRun session = some job) :
    job.session = session ∧ session ∈ sub.allSessions ∧ session ∉ frame.closing ∧ job ∉ frame.flight := by
  obtain ⟨unitAt, jobAt, books⟩ := booked
  have own := books.sessions.own session job waits
  refine ⟨own, books.sessions.isOpen session (by simp [waits]), ?_, ?_⟩
  · intro closes
    rw [books.sessions.closing session closes] at waits
    contradiction
  · intro inFlight
    have found : Found frame.flight sub.jobWaitingToRun sub.maliCoreArray sub.returned sub.replaced
        .waiting job := by rwa [Found, own]
    have elsewhere := books.jobs.unique (show Found _ _ _ _ _ .flight job from inFlight) found
    contradiction

theorem Booked.releaseSession (booked : Booked frame sub) (waits : sub.jobWaitingToRun session = some job) :
    Booked { frame with flight := insert job frame.flight } (releaseSessionGetJob session sub).2 := by
  have own := (booked.waiting waits).1
  obtain ⟨unitAt, jobAt, books⟩ := booked
  subst own
  exact ⟨_, _, books.releaseSession waits⟩

theorem releaseSessionGetJob_eq (waits : sub.jobWaitingToRun session = some job) :
    releaseSessionGetJob session sub = (some job, (releaseSessionGetJob session sub).2) := by
  simp [releaseSessionGetJob, waits]

theorem Booked.getWaitingSession (booked : Booked frame sub) (found : getWaitingSession sub = some session) :
    ∃ job, sub.jobWaitingToRun session = some job := by
  obtain ⟨unitAt, jobAt, books⟩ := booked
  rw [Render.getWaitingSession] at found
  split at found
  next => contradiction
  next =>
    obtain ⟨priority, _, first⟩ := List.exists_of_findSome?_eq_some found
    have listed := (books.sessions.placed.mem_iff session priority).mp (List.mem_of_head? first)
    obtain ⟨job, waits, _⟩ := Option.map_eq_some_iff.mp listed
    exact ⟨job, waits⟩

theorem Booked.scheduleOnUnits (keeps : Keeps schedule) (outside : Outside) (cores : List CoreId) :
    ∀ sub, Booked frame sub → sub.jobWaitingToRun session = some job →
      (∀ core ∈ cores, core ∈ sub.renderunits .idle) →
      Booked frame (scheduleOnUnits schedule outside session cores sub) := by
  induction cores with
  | nil =>
    intro sub booked _ _
    exact booked.tell .jobQueued
  | cons core rest induction =>
    intro sub booked waits idle
    have asked := booked.ask outside.activates
    have stillWaits : (sub.ask outside.activates).2.jobWaitingToRun session = some job := waits
    rw [scheduleOnUnits_cons]
    dsimp only
    split
    next =>
      obtain ⟨own, isOpen, stays, notYet⟩ := asked.waiting stillWaits
      have taken := (asked.releaseSession stillWaits).tell (.jobScheduled core)
      rw [releaseSessionGetJob_eq stillWaits]
      have started := taken.jobStartOnCore keeps outside core (Set.mem_insert job _)
        (idle core List.mem_cons_self) (own.symm ▸ isOpen) (own.symm ▸ stays)
      rwa [Set.insert_sdiff_self_of_notMem notYet] at started
    next =>
      exact induction _ asked waits fun core member => idle core (List.mem_cons_of_mem _ member)

theorem keeps_scheduleOnce (keeps : Keeps schedule) (outside : Outside) :
    Keeps (scheduleOnce schedule outside) := by
  intro frame sub booked
  rw [scheduleOnce]
  split
  next => exact booked
  next =>
    split
    next => exact booked
    next session found =>
      obtain ⟨job, waits⟩ := booked.getWaitingSession found
      exact Booked.scheduleOnUnits keeps outside _ sub booked waits fun _ member => member

variable (outside : Outside)

theorem keeps_scheduleNested (depth : Nat) : Keeps (scheduleNested outside depth) := by
  induction depth with
  | zero => exact fun _ _ booked => booked
  | succ depth induction => exact keeps_scheduleOnce induction outside

theorem keeps_schedule : Keeps (Render.schedule outside) :=
  fun frame sub booked => keeps_scheduleNested outside sub.awaitingSessions.total frame sub booked

variable {first second : Subsystem → Subsystem}

end Floid.Render
