import Floid.Render.Operations

namespace Floid.Render

open Floid.Lib Subsystem
open Function (update update_of_ne update_self)

structure Mark where
  held : Bool
  quiet : Bool
  pend : Option Bool
  detaching : Bool
  stalledOn : Option Job
  deriving DecidableEq

def Mark.plain : Mark := ⟨false, false, none, false, none⟩

def Mark.detached : Mark := ⟨true, false, none, true, none⟩

structure Constants where
  numberOfCores : Nat
  allSessions : List SessionId
  accepted : List Job
  rejected : List Job
  misused : List Job
  allocated : List Job
  replaced : List Job

def Subsystem.constants (sub : Subsystem) : Constants :=
  ⟨sub.numberOfCores, sub.allSessions, sub.accepted, sub.rejected, sub.misused, sub.allocated, sub.replaced⟩

structure Frame where
  mark : CoreId → Mark
  flight : Set Job
  closing : Set SessionId
  constants : Constants

def Frame.setMark (frame : Frame) (core : CoreId) (mark : Mark) : Frame :=
  { frame with mark := update frame.mark core mark }

structure UnitBooked (closing : Set SessionId) (allSessions : List SessionId) (mark : Mark)
    (unit : RenderUnit) (list : CoreList) : Prop where
  idle_iff : unit.state = .idle ↔ list = .idle
  off_iff : unit.state = .off ↔ list = .off
  held : mark.held = true → unit.currentJob = none ∧ list ≠ .idle
  quiet : mark.held = true → mark.quiet = true → unit.timer = false ∧ unit.timerHangDetection = false
  working : ∀ session, list = .working session → mark.held = false →
    ∃ job, unit.currentJob = some job ∧ job.session = session
  resting : (∀ session, list ≠ .working session) →
    unit.currentJob = none ∧ unit.timer = false ∧ unit.timerHangDetection = false
  calm : list = .idle → unit.pendPowerDown = false
  isOpen : ∀ session, list = .working session → session ∈ allSessions ∧ (session ∈ closing → mark.held = true)

structure Marked (mark : Mark) (unit : RenderUnit) : Prop where
  pend : ∀ pend, mark.pend = some pend → unit.pendPowerDown = pend
  detaching : unit.inDetachFunction = mark.detaching
  stalledOn : ∀ job, mark.stalledOn = some job → unit.currentJob = some job ∧ unit.stalled = true

theorem Marked.of_free {mark : Mark} {unit : RenderUnit} (free : mark.stalledOn = none)
    (pend : ∀ pend, mark.pend = some pend → unit.pendPowerDown = pend)
    (detaching : unit.inDetachFunction = mark.detaching) : Marked mark unit := by
  refine ⟨pend, detaching, fun job known => ?_⟩
  rw [free] at known
  contradiction

structure UnitsBooked (mark : CoreId → Mark) (closing : Set SessionId) (place : CoreId → Option CoreList)
    (numberOfCores : Nat) (maliCoreArray : CoreId → RenderUnit)
    (renderunits : Shelves CoreList CoreId) (allSessions : List SessionId) : Prop where
  placed : Placed place renderunits
  registered : ∀ core, core < numberOfCores ↔ place core ≠ none
  unregistered : ∀ core, place core = none → (mark core).held = false ∧ (maliCoreArray core).currentJob = none ∧
    (maliCoreArray core).timer = false ∧ (maliCoreArray core).timerHangDetection = false
  marked : ∀ core, Marked (mark core) (maliCoreArray core)
  booked : ∀ core list, place core = some list →
    UnitBooked closing allSessions (mark core) (maliCoreArray core) list

structure SessionsBooked (closing : Set SessionId) (awaitingSessions : Shelves Priority SessionId)
    (sum : Nat) (allSessions : List SessionId) (jobWaitingToRun : SessionId → Option Job) : Prop where
  placed : Placed (fun session => (jobWaitingToRun session).map Job.priority) awaitingSessions
  sum_eq : sum = awaitingSessions.total
  own : ∀ session job, jobWaitingToRun session = some job → job.session = session
  isOpen : ∀ session, jobWaitingToRun session ≠ none → session ∈ allSessions
  closing : ∀ session ∈ closing, jobWaitingToRun session = none
  nodup : allSessions.Nodup

inductive JobPlace where
  | waiting
  | onCore (core : CoreId)
  | flight
  | returned
  | replaced

def Found (flight : Set Job) (jobWaitingToRun : SessionId → Option Job)
    (maliCoreArray : CoreId → RenderUnit) (returned : List (Job × JobEndCode))
    (replaced : List Job) : JobPlace → Job → Prop
  | .waiting, job => jobWaitingToRun job.session = some job
  | .onCore core, job => (maliCoreArray core).currentJob = some job
  | .flight, job => job ∈ flight
  | .returned, job => job ∈ returned.map Prod.fst
  | .replaced, job => job ∈ replaced

structure JobsBooked (flight : Set Job) (place : Job → Option JobPlace)
    (jobWaitingToRun : SessionId → Option Job) (maliCoreArray : CoreId → RenderUnit)
    (returned : List (Job × JobEndCode)) (replaced accepted rejected : List Job) : Prop where
  found_iff : ∀ where_ job,
    Found flight jobWaitingToRun maliCoreArray returned replaced where_ job ↔ place job = some where_
  accepted_iff : ∀ job, job ∈ accepted ↔ place job ≠ none
  returned_nodup : (returned.map Prod.fst).Nodup
  replaced_nodup : replaced.Nodup
  rejected : ∀ job ∈ rejected, job ∉ accepted

structure Books (frame : Frame) (unitAt : CoreId → Option CoreList) (jobAt : Job → Option JobPlace)
    (sub : Subsystem) : Prop where
  units : UnitsBooked frame.mark frame.closing unitAt sub.numberOfCores sub.maliCoreArray
    sub.renderunits sub.allSessions
  sessions : SessionsBooked frame.closing sub.awaitingSessions
    sub.awaitingSessionsSumAllPriorities sub.allSessions sub.jobWaitingToRun
  jobs : JobsBooked frame.flight jobAt sub.jobWaitingToRun sub.maliCoreArray sub.returned
    sub.replaced sub.accepted sub.rejected
  constants : sub.constants = frame.constants

def Booked (frame : Frame) (sub : Subsystem) : Prop := ∃ unitAt jobAt, Books frame unitAt jobAt sub

variable {frame : Frame} {unitAt : CoreId → Option CoreList} {jobAt : Job → Option JobPlace}
  {sub : Subsystem} {core : CoreId} {job : Job}

namespace UnitsBooked

variable {mark : CoreId → Mark} {closing : Set SessionId} {numberOfCores : Nat}
  {maliCoreArray : CoreId → RenderUnit} {renderunits : Shelves CoreList CoreId}
  {allSessions : List SessionId}

variable {list : CoreList} {mark' : Mark} {unit : RenderUnit}

theorem update (units : UnitsBooked mark closing unitAt numberOfCores maliCoreArray renderunits allSessions)
    (known : unitAt core ≠ none)
    {renderunits' : Shelves CoreList CoreId}
    (shows : Marked mark' unit) (fits : UnitBooked closing allSessions mark' unit list)
    (moved : Placed (update unitAt core (some list)) renderunits') :
    UnitsBooked (update mark core mark') closing (update unitAt core (some list))
      numberOfCores (update maliCoreArray core unit) renderunits' allSessions := by
  constructor
  · exact moved
  · intro other
    by_cases same : other = core
    · rw [same, update_self, units.registered]
      simp [known]
    · rw [update_of_ne same, units.registered]
  · intro other off
    by_cases same : other = core
    · rw [same, update_self] at off
      contradiction
    · rw [update_of_ne same] at off ⊢
      rw [update_of_ne same]
      exact units.unregistered other off
  · intro other
    by_cases same : other = core
    · rw [same, update_self, update_self]
      exact shows
    · rw [update_of_ne same, update_of_ne same]
      exact units.marked other
  · intro other list' on
    by_cases same : other = core
    · rw [same, update_self] at on ⊢
      rw [update_self, ← Option.some.inj on]
      exact fits
    · rw [update_of_ne same] at on ⊢
      rw [update_of_ne same]
      exact units.booked other list' on

theorem change (units : UnitsBooked mark closing unitAt numberOfCores maliCoreArray renderunits allSessions)
    (on : unitAt core = some list)
    (shows : Marked mark' unit) (fits : UnitBooked closing allSessions mark' unit list) :
    UnitsBooked (Function.update mark core mark') closing unitAt numberOfCores
      (Function.update maliCoreArray core unit) renderunits allSessions := by
  have same : Function.update unitAt core (some list) = unitAt := by
    rw [← on, Function.update_eq_self]
  have changed := units.update (by simp [on]) shows fits (same ▸ units.placed)
  rwa [same] at changed

theorem remark (units : UnitsBooked mark closing unitAt numberOfCores maliCoreArray renderunits allSessions)
    {mark' : CoreId → Mark} (held : ∀ core, (mark' core).held = (mark core).held)
    (quiet : ∀ core, (mark' core).held = true → (mark' core).quiet = true → (mark core).quiet = true)
    (shows : ∀ core, Marked (mark' core) (maliCoreArray core)) :
    UnitsBooked mark' closing unitAt numberOfCores maliCoreArray renderunits allSessions where
  __ := units
  unregistered core off := by
    rw [held]
    exact units.unregistered core off
  marked := shows
  booked core list on := by
    have booked := units.booked core list on
    refine { booked with held := ?_, quiet := ?_, working := ?_, isOpen := ?_ }
    · intro isHeld
      exact booked.held (held core ▸ isHeld)
    · intro isHeld isQuiet
      exact booked.quiet (held core ▸ isHeld) (quiet core isHeld isQuiet)
    · intro session works free
      exact booked.working session works (held core ▸ free)
    · intro session works
      rw [held]
      exact booked.isOpen session works

end UnitsBooked

namespace JobsBooked

variable {flight : Set Job} {jobWaitingToRun : SessionId → Option Job}
  {maliCoreArray : CoreId → RenderUnit} {returned : List (Job × JobEndCode)}
  {replaced accepted rejected : List Job}

theorem unique (jobs : JobsBooked flight jobAt jobWaitingToRun maliCoreArray returned replaced accepted rejected)
    {first second : JobPlace}
    (atFirst : Found flight jobWaitingToRun maliCoreArray returned replaced first job)
    (atSecond : Found flight jobWaitingToRun maliCoreArray returned replaced second job) :
    second = first := by
  have here := (jobs.found_iff first job).mp atFirst
  have there := (jobs.found_iff second job).mp atSecond
  exact Option.some.inj (there.symm.trans here)

variable {maliCoreArray' : CoreId → RenderUnit}

theorem move (jobs : JobsBooked flight jobAt jobWaitingToRun maliCoreArray returned replaced accepted rejected)
    {flight' : Set Job} {jobWaitingToRun' : SessionId → Option Job}
    {returned' : List (Job × JobEndCode)}
    {replaced' : List Job} {source target : JobPlace}
    (atSource : Found flight jobWaitingToRun maliCoreArray returned replaced source job)
    (left : ¬ Found flight' jobWaitingToRun' maliCoreArray' returned' replaced' source job)
    (arrived : Found flight' jobWaitingToRun' maliCoreArray' returned' replaced' target job)
    (same : ∀ where_ other, other ≠ job ∨ where_ ≠ source ∧ where_ ≠ target →
      (Found flight' jobWaitingToRun' maliCoreArray' returned' replaced' where_ other ↔
        Found flight jobWaitingToRun maliCoreArray returned replaced where_ other))
    (returnedOnce : (returned'.map Prod.fst).Nodup) (replacedOnce : replaced'.Nodup) :
    JobsBooked flight' (update jobAt job (some target)) jobWaitingToRun' maliCoreArray'
      returned' replaced' accepted rejected := by
  have known : jobAt job = some source := (jobs.found_iff source job).mp atSource
  constructor
  · intro where_ other
    by_cases own : other = job
    · rw [own, update_self, Option.some.injEq]
      by_cases there : where_ = target
      · exact iff_of_true (there ▸ arrived) there.symm
      · by_cases here : where_ = source
        · exact iff_of_false (here ▸ left) (Ne.symm there)
        · rw [same where_ job (.inr ⟨here, there⟩), jobs.found_iff, known, Option.some.injEq]
          exact iff_of_false (Ne.symm here) (Ne.symm there)
    · rw [same where_ other (.inl own), update_of_ne own]
      exact jobs.found_iff where_ other
  · intro other
    by_cases own : other = job
    · rw [own, update_self, jobs.accepted_iff, known]
      simp
    · rw [update_of_ne own]
      exact jobs.accepted_iff other
  · exact returnedOnce
  · exact replacedOnce
  · exact jobs.rejected

theorem congrUnits (jobs : JobsBooked flight jobAt jobWaitingToRun maliCoreArray returned replaced accepted rejected)
    (same : ∀ core, (maliCoreArray' core).currentJob = (maliCoreArray core).currentJob) :
    JobsBooked flight jobAt jobWaitingToRun maliCoreArray' returned replaced accepted rejected := by
  refine { jobs with found_iff := fun where_ job => ?_ }
  rw [← jobs.found_iff where_ job]
  cases where_ with
  | onCore core => rw [Found, Found, same]
  | _ => rfl

end JobsBooked

theorem useJob_eq (kept : job ∉ sub.freed) : sub.useJob job = sub := if_neg kept

namespace Books

theorem not_freed (books : Books frame unitAt jobAt sub) {where_ : JobPlace}
    (found : Found frame.flight sub.jobWaitingToRun sub.maliCoreArray sub.returned sub.replaced
      where_ job) (elsewhere : where_ ≠ .returned) : job ∉ sub.freed := by
  intro freed
  rcases List.mem_append.mp freed with returned | rejected
  · exact elsewhere (books.jobs.unique (show Found _ _ _ _ _ .returned job from returned) found)
  · have accepted : job ∈ sub.accepted := by
      rw [books.jobs.accepted_iff, (books.jobs.found_iff where_ job).mp found]
      exact Option.some_ne_none where_
    exact books.jobs.rejected job rejected accepted

theorem useJob (books : Books frame unitAt jobAt sub) (inFlight : job ∈ frame.flight) : sub.useJob job = sub :=
  useJob_eq (books.not_freed (show Found _ _ _ _ _ .flight job from inFlight) (by simp))

theorem useCurrentJob (books : Books frame unitAt jobAt sub) (core : CoreId) :
    sub.useCurrentJob core = sub := by
  rw [Subsystem.useCurrentJob]
  split
  next job running =>
    exact useJob_eq (books.not_freed (show Found _ _ _ _ _ (.onCore core) job from running) (by simp))
  next => rfl

theorem useWaitingJob (books : Books frame unitAt jobAt sub) (session : SessionId) :
    useWaitingJob session sub = sub := by
  rw [Render.useWaitingJob]
  split
  next job waiting =>
    have own := books.sessions.own session job waiting
    have found : Found frame.flight sub.jobWaitingToRun sub.maliCoreArray sub.returned sub.replaced
        .waiting job := by rwa [Found, own]
    exact useJob_eq (books.not_freed found (by simp))
  next => rfl

end Books

namespace Books

variable {list : CoreList}

theorem changeUnit (books : Books frame unitAt jobAt sub)
    (on : unitAt core = some list) (mark' : Mark) (change : RenderUnit → RenderUnit)
    (sameJob : (change (sub.maliCoreArray core)).currentJob = (sub.maliCoreArray core).currentJob)
    (shows : Marked mark' (change (sub.maliCoreArray core)))
    (fits : UnitBooked frame.closing sub.allSessions mark' (change (sub.maliCoreArray core)) list) :
    Books (frame.setMark core mark') unitAt jobAt (sub.updateUnit core change) where
  __ := books
  units := books.units.change on shows fits
  jobs := books.jobs.congrUnits fun other => by
    by_cases same : other = core
    · rw [updateUnit, same]
      simpa using sameJob
    · simp [updateUnit, same]

theorem takeJob (books : Books frame unitAt jobAt sub)
    (on : unitAt core = some list) (running : (sub.maliCoreArray core).currentJob = some job)
    (mark' : Mark) (change : RenderUnit → RenderUnit)
    (noJob : (change (sub.maliCoreArray core)).currentJob = none)
    (shows : Marked mark' (change (sub.maliCoreArray core)))
    (fits : UnitBooked frame.closing sub.allSessions mark' (change (sub.maliCoreArray core)) list) :
    Books { frame.setMark core mark' with flight := insert job frame.flight }
      unitAt (update jobAt job (some .flight)) (sub.updateUnit core change) where
  __ := books
  units := books.units.change on shows fits
  jobs := by
    apply books.jobs.move (show Found _ _ _ _ _ (.onCore core) job from running)
    · simp [Found, updateUnit, noJob]
    · exact Set.mem_insert job _
    · intro where_ other apart
      cases where_ with
      | onCore core' =>
        by_cases same : core' = core
        · have different : other ≠ job := apart.resolve_right (by simp [same])
          simp [Found, updateUnit, same, noJob, running, Ne.symm different]
        · simp [Found, updateUnit, same]
      | flight =>
        have different : other ≠ job := apart.resolve_right (by simp)
        simp [Found, different]
      | _ => rfl
    · exact books.jobs.returned_nodup
    · exact books.jobs.replaced_nodup

theorem moveUnit (books : Books frame unitAt jobAt sub) (core : CoreId) (known : unitAt core ≠ none)
    (noJob : (sub.maliCoreArray core).currentJob = none) (list : CoreList) (mark' : Mark)
    (change : RenderUnit → RenderUnit) (still : (change (sub.maliCoreArray core)).currentJob = none)
    (shows : Marked mark' (change (sub.maliCoreArray core)))
    (fits : UnitBooked frame.closing sub.allSessions mark' (change (sub.maliCoreArray core)) list) :
    Books (frame.setMark core mark') (update unitAt core (some list)) jobAt
      ((sub.updateUnit core change).moveUnit core list) where
  __ := books
  units := books.units.update known shows fits (books.units.placed.move core list)
  jobs := books.jobs.congrUnits fun other => by
    by_cases same : other = core
    · simp [Subsystem.moveUnit, updateUnit, same, still, noJob]
    · simp [Subsystem.moveUnit, updateUnit, same]

theorem startJob (books : Books frame unitAt jobAt sub) (known : unitAt core ≠ none)
    (noJob : (sub.maliCoreArray core).currentJob = none) (inFlight : job ∈ frame.flight)
    {mark' : Mark} (change : RenderUnit → RenderUnit)
    (gotJob : (change (sub.maliCoreArray core)).currentJob = some job)
    (shows : Marked mark' (change (sub.maliCoreArray core)))
    (fits : UnitBooked frame.closing sub.allSessions mark' (change (sub.maliCoreArray core)) list) :
    Books { frame.setMark core mark' with flight := frame.flight \ {job} }
      (update unitAt core (some list)) (update jobAt job (some (.onCore core)))
      ((sub.updateUnit core change).moveUnit core list) where
  __ := books
  units := books.units.update known shows fits (books.units.placed.move core list)
  jobs := by
    apply books.jobs.move (show Found _ _ _ _ _ .flight job from inFlight)
    · simp [Found]
    · simp [Found, Subsystem.moveUnit, updateUnit, gotJob]
    · intro where_ other apart
      cases where_ with
      | onCore core' =>
        by_cases same : core' = core
        · have different : other ≠ job := apart.resolve_right (by simp [same])
          simp [Found, Subsystem.moveUnit, updateUnit, same, noJob, gotJob, Ne.symm different]
        · simp [Found, Subsystem.moveUnit, updateUnit, same]
      | flight =>
        have different : other ≠ job := apart.resolve_right (by simp)
        simp [Found, different]
      | _ => rfl
    · exact books.jobs.returned_nodup
    · exact books.jobs.replaced_nodup

theorem returnJob (books : Books frame unitAt jobAt sub) (inFlight : job ∈ frame.flight) (endStatus : JobEndCode) :
    Books { frame with flight := frame.flight \ {job} } unitAt
      (update jobAt job (some .returned)) (sub.returnJobToUser job endStatus) := by
  rw [returnJobToUser, books.useJob inFlight]
  refine { units := books.units, sessions := books.sessions, jobs := ?_, constants := books.constants }
  have notYet : job ∉ sub.returned.map Prod.fst := by
    intro already
    have elsewhere := books.jobs.unique (show Found _ _ _ _ _ .flight job from inFlight)
      (show Found _ _ _ _ _ .returned job from already)
    contradiction
  apply books.jobs.move (show Found _ _ _ _ _ .flight job from inFlight)
  · simp [Found]
  · simp [Found]
  · intro where_ other apart
    cases where_ with
    | returned =>
      have different : other ≠ job := apart.resolve_right (by simp)
      simp [Found, different]
    | flight =>
      have different : other ≠ job := apart.resolve_right (by simp)
      simp [Found, different]
    | _ => rfl
  · exact List.nodup_cons.mpr ⟨notYet, books.jobs.returned_nodup⟩
  · exact books.jobs.replaced_nodup

theorem releaseSession (books : Books frame unitAt jobAt sub) (waiting : sub.jobWaitingToRun job.session = some job) :
    Books { frame with flight := insert job frame.flight } unitAt
      (update jobAt job (some .flight)) (releaseSessionGetJob job.session sub).2 where
  __ := books
  sessions := by
    have listed := books.sessions.placed
    constructor
    · have taken := listed.take job.session
      have same : update (fun session => (sub.jobWaitingToRun session).map Job.priority)
          job.session none = fun session =>
            (update sub.jobWaitingToRun job.session none session).map Job.priority := by
        funext session
        by_cases own : session = job.session
        · simp [own]
        · simp [own]
      rwa [same] at taken
    · have on : (sub.jobWaitingToRun job.session).map Job.priority = some job.priority := by
        rw [waiting]
        rfl
      have less := listed.total_take on
      rw [← books.sessions.sum_eq] at less
      exact Nat.sub_eq_of_eq_add less.symm
    · intro session other waits
      by_cases own : session = job.session
      · simp [releaseSessionGetJob, own] at waits
      · exact books.sessions.own session other (by simpa [releaseSessionGetJob, own] using waits)
    · intro session waits
      by_cases own : session = job.session
      · simp [releaseSessionGetJob, own] at waits
      · exact books.sessions.isOpen session (by simpa [releaseSessionGetJob, own] using waits)
    · intro session closes
      by_cases own : session = job.session
      · simp [releaseSessionGetJob, own]
      · simpa [releaseSessionGetJob, own] using books.sessions.closing session closes
    · exact books.sessions.nodup
  jobs := by
    apply books.jobs.move (show Found _ _ _ _ _ .waiting job from waiting)
    · simp [Found, releaseSessionGetJob]
    · exact Set.mem_insert job _
    · intro where_ other apart
      cases where_ with
      | waiting =>
        have different : other ≠ job := apart.resolve_right (by simp)
        by_cases own : other.session = job.session
        · simp [Found, releaseSessionGetJob, own, waiting, Ne.symm different]
        · simp [Found, releaseSessionGetJob, own]
      | flight =>
        have different : other ≠ job := apart.resolve_right (by simp)
        simp [Found, different]
      | _ => rfl
    · exact books.jobs.returned_nodup
    · exact books.jobs.replaced_nodup

theorem addJob (books : Books frame unitAt jobAt sub)
    (none_ : sub.jobWaitingToRun job.session = none) (isOpen : job.session ∈ sub.allSessions)
    (stays : job.session ∉ frame.closing) (fresh : job ∉ sub.accepted)
    (kept : job ∉ sub.rejected) :
    Books { frame with
        constants := { frame.constants with accepted := job :: frame.constants.accepted } } unitAt
      (update jobAt job (some .waiting))
      { sub with
        jobWaitingToRun := update sub.jobWaitingToRun job.session (some job)
        awaitingSessions := sub.awaitingSessions.putLast job.session job.priority
        awaitingSessionsSumAllPriorities := sub.awaitingSessionsSumAllPriorities + 1
        accepted := job :: sub.accepted } where
  constants := congrArg
    (fun constants : Constants => { constants with accepted := job :: constants.accepted })
    books.constants
  units := books.units
  sessions := by
    constructor
    · have put := books.sessions.placed.putLast (show _ = none by rw [none_]; rfl) job.priority
      have same : update (fun session => (sub.jobWaitingToRun session).map Job.priority)
          job.session (some job.priority) = fun session =>
            (update sub.jobWaitingToRun job.session (some job) session).map
              Job.priority := by
        funext session
        by_cases own : session = job.session
        · simp [own]
        · simp [own]
      rwa [same] at put
    · rw [Shelves.total_putLast, books.sessions.sum_eq]
    · intro session other waits
      dsimp only at waits
      by_cases own : session = job.session
      · rw [own, update_self] at waits
        rw [own, Option.some.inj waits]
      · rw [update_of_ne own] at waits
        exact books.sessions.own session other waits
    · intro session waits
      dsimp only at waits
      by_cases own : session = job.session
      · exact own ▸ isOpen
      · rw [update_of_ne own] at waits
        exact books.sessions.isOpen session waits
    · intro session closes
      have own : session ≠ job.session := fun same => stays (same ▸ closes)
      dsimp only
      rw [update_of_ne own]
      exact books.sessions.closing session closes
    · exact books.sessions.nodup
  jobs := by
    have nowhere : jobAt job = none := by
      by_contra known
      exact fresh ((books.jobs.accepted_iff job).mpr known)
    have absent (where_ : JobPlace) : ¬ Found frame.flight sub.jobWaitingToRun sub.maliCoreArray
        sub.returned sub.replaced where_ job := by
      rw [books.jobs.found_iff, nowhere]
      simp
    constructor
    · intro where_ other
      by_cases own : other = job
      · rw [own, update_self]
        cases where_ with
        | waiting => simp [Found]
        | onCore core => simpa [Found] using absent (.onCore core)
        | flight => simpa [Found] using absent .flight
        | returned => simpa [Found] using absent .returned
        | replaced => simpa [Found] using absent .replaced
      · rw [update_of_ne own, ← books.jobs.found_iff]
        cases where_ with
        | waiting =>
          by_cases session : other.session = job.session
          · simp [Found, session, none_, Ne.symm own]
          · simp [Found, session]
        | _ => rfl
    · intro other
      by_cases own : other = job
      · simp [own]
      · rw [update_of_ne own, List.mem_cons, or_iff_right own]
        exact books.jobs.accepted_iff other
    · exact books.jobs.returned_nodup
    · exact books.jobs.replaced_nodup
    · intro other rejected
      rw [List.mem_cons, not_or]
      exact ⟨fun own => kept (own ▸ rejected), books.jobs.rejected other rejected⟩

theorem replaceJob (books : Books frame unitAt jobAt sub) (inFlight : job ∈ frame.flight) :
    Books { frame with
        flight := frame.flight \ {job}
        constants := { frame.constants with replaced := job :: frame.constants.replaced } } unitAt
      (update jobAt job (some .replaced)) { sub with replaced := job :: sub.replaced } where
  __ := books
  constants := congrArg
    (fun constants : Constants => { constants with replaced := job :: constants.replaced })
    books.constants
  jobs := by
    have notYet : job ∉ sub.replaced := by
      intro already
      have elsewhere := books.jobs.unique (show Found _ _ _ _ _ .flight job from inFlight)
        (show Found _ _ _ _ _ .replaced job from already)
      contradiction
    apply books.jobs.move (show Found _ _ _ _ _ .flight job from inFlight)
    · simp [Found]
    · simp [Found]
    · intro where_ other apart
      cases where_ with
      | replaced =>
        have different : other ≠ job := apart.resolve_right (by simp)
        simp [Found, different]
      | flight =>
        have different : other ≠ job := apart.resolve_right (by simp)
        simp [Found, different]
      | _ => rfl
    · exact books.jobs.returned_nodup
    · exact List.nodup_cons.mpr ⟨notYet, books.jobs.replaced_nodup⟩

end Books

theorem Booked.useCurrentJob (booked : Booked frame sub) (core : CoreId) : sub.useCurrentJob core = sub := by
  obtain ⟨_, _, books⟩ := booked
  exact books.useCurrentJob core

theorem Booked.useWaitingJob (booked : Booked frame sub) (session : SessionId) :
    Render.useWaitingJob session sub = sub := by
  obtain ⟨_, _, books⟩ := booked
  exact books.useWaitingJob session

end Floid.Render
