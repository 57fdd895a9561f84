import Floid.Render.Requests

/-!
Runs of a subsystem. The scheduler's lists and counts are right in every state, as long as
no session is closed with more than one core at work.
-/

namespace Floid.Render

open Osk Lib
open Option (ite_none_right_eq_some some.inj some_get)

structure Ledger (constants : Constants) : Prop where
  numbered : ∀ job ∈ constants.allocated, job.number < constants.allocated.length
  nodup : constants.allocated.Nodup
  split : constants.allocated.Perm (constants.accepted ++ constants.rejected)

structure Sound (sub : Subsystem) : Prop where
  inOrder : InOrder sub
  ledger : Ledger sub.constants

def ClosesFew (sub : Subsystem) (occurrence : Occurrence) : Prop :=
  match occurrence.action with
  | .sessionClose session => (sub.renderunits (.working session)).length ≤ 1
  | _ => True

instance (sub : Subsystem) (occurrence : Occurrence) : Decidable (ClosesFew sub occurrence) := by
  unfold ClosesFew
  split <;> infer_instance

variable {sub after : Subsystem} {constants : Constants} {job : Job}

theorem Ledger.congr {before after : Constants} (ledger : Ledger before)
    (accepted : after.accepted = before.accepted) (rejected : after.rejected = before.rejected)
    (allocated : after.allocated = before.allocated) : Ledger after := by
  constructor
  · rw [allocated]
    exact ledger.numbered
  · rw [allocated]
    exact ledger.nodup
  · rw [accepted, rejected, allocated]
    exact ledger.split

theorem Ledger.request {before after : Constants} (ledger : Ledger before)
    (number : job.number = before.allocated.length)
    (requested : Requested job { before with allocated := job :: before.allocated } after) :
    Ledger after := by
  have fresh : job ∉ before.allocated := by
    intro known
    exact Nat.lt_irrefl _ (number ▸ ledger.numbered job known)
  constructor
  · intro other member
    rw [requested.allocated] at member ⊢
    rw [List.length_cons]
    rcases List.mem_cons.mp member with rfl | known
    · omega
    · exact Nat.lt_succ_of_lt (ledger.numbered other known)
  · rw [requested.allocated]
    exact List.nodup_cons.mpr ⟨fresh, ledger.nodup⟩
  · rw [requested.allocated]
    rcases requested.settled with ⟨accepted, rejected⟩ | ⟨accepted, rejected⟩
    · rw [accepted, rejected]
      exact ledger.split.cons job
    · rw [accepted, rejected]
      exact (ledger.split.cons job).trans List.perm_middle.symm

def ConstantsAfter (sub : Subsystem) (after : Constants) : Action → Prop
  | .registerRenderunit _ => after = { sub.constants with numberOfCores := sub.numberOfCores + 1 }
  | .sessionBegin session =>
      after = { sub.constants with allSessions := session :: sub.allSessions }
  | .startJob session priority abortId _ _ =>
      Requested (newJob session priority abortId sub)
        { sub.constants with allocated := newJob session priority abortId sub :: sub.allocated } after
  | .sessionClose session =>
      after = { sub.constants with allSessions := sub.allSessions.erase session }
  | _ => after = sub.constants

namespace Sound

theorem of_booked (booked : Booked (.between constants) after) (ledger : Ledger constants) : Sound after where
  inOrder := booked.inOrder
  ledger := by
    rw [booked.constants_eq]
    exact ledger

theorem initial : Sound initialSubsystem where
  inOrder := by
    refine ⟨fun _ => none, fun _ => none, ?_, ?_, ?_, rfl⟩
    · constructor
      · exact Placed.empty
      · simp [initialSubsystem]
      · exact fun _ _ => ⟨rfl, rfl, rfl, rfl⟩
      · exact fun _ => .of_unknown rfl rfl rfl
      · exact fun _ _ on => by cases on
    · constructor
      · exact Placed.empty
      · simp [initialSubsystem, Shelves.total]
      · exact fun _ _ waits => by cases waits
      · exact fun _ waits => absurd rfl waits
      · exact fun _ closing => absurd closing (Set.notMem_empty _)
      · exact List.nodup_nil
    · constructor
      · intro where_ job
        cases where_ <;> simp [Found, initialSubsystem, Frame.between]
      · simp [initialSubsystem]
      · exact List.nodup_nil
      · exact List.nodup_nil
      · simp [initialSubsystem]
  ledger := by
    constructor
    · simp [initialSubsystem, Subsystem.constants]
    · exact List.nodup_nil
    · exact .refl _

theorem newJob_fresh (sound : Sound sub) (session : SessionId) (priority abortId : U32) :
    newJob session priority abortId sub ∉ sub.accepted ∧
      newJob session priority abortId sub ∉ sub.rejected := by
  have fresh : newJob session priority abortId sub ∉ sub.accepted ++ sub.rejected := by
    intro known
    exact Nat.lt_irrefl _ (sound.ledger.numbered _ (sound.ledger.split.mem_iff.mpr known))
  exact ⟨fun known => fresh (List.mem_append_left _ known), fun known => fresh (List.mem_append_right _ known)⟩

theorem allocate (sound : Sound sub) (job : Job) :
    Booked (.between { sub.constants with allocated := job :: sub.allocated })
      { sub with allocated := job :: sub.allocated } := by
  obtain ⟨unitAt, jobAt, books⟩ := sound.inOrder
  exact ⟨unitAt, jobAt, books.units, books.sessions, books.jobs, rfl⟩

theorem getNewJobFromUser (sound : Sound sub) {session : SessionId} (isOpen : session ∈ sub.allSessions)
    (outside : Outside) (priority abortId : U32) (notification readsStarted : Bool) :
    ∃ constants, Requested (newJob session priority abortId sub)
        { sub.constants with allocated := newJob session priority abortId sub :: sub.allocated }
        constants ∧
      Booked (.between constants)
        (getNewJobFromUser outside session priority abortId notification readsStarted sub).2 := by
  obtain ⟨unknown, kept⟩ := sound.newJob_fresh session priority abortId
  have booked := sound.allocate (newJob session priority abortId sub)
  exact booked.addNewJob isOpen unknown kept outside notification readsStarted

theorem perform (sound : Sound sub) {occurrence : Occurrence} (few : ClosesFew sub occurrence)
    (stepped : subsystemRuns.step sub occurrence after) :
    ∃ constants, ConstantsAfter sub constants occurrence.action ∧ Booked (.between constants) after := by
  obtain ⟨action, outside, stuck⟩ := occurrence
  obtain ⟨steps, performed⟩ := stepped
  have inOrder := sound.inOrder
  cases action with
  | registerRenderunit mmu =>
    cases some.inj performed
    exact ⟨_, rfl, inOrder.registerRenderunit mmu⟩
  | sessionBegin session =>
    obtain ⟨fresh, begun⟩ := Option.ite_none_left_eq_some.mp performed
    cases some.inj begun
    exact ⟨_, rfl, Booked.sessionBegin inOrder fresh⟩
  | startJob session priority abortId notification readsStarted =>
    obtain ⟨isOpen, started⟩ := ite_none_right_eq_some.mp performed
    cases some.inj started
    exact sound.getNewJobFromUser isOpen outside priority abortId notification readsStarted
  | abortJob session abortId =>
    obtain ⟨isOpen, aborted⟩ := ite_none_right_eq_some.mp performed
    exact ⟨_, rfl, Booked.findAndAbort inOrder outside stuck aborted⟩
  | sessionClose session =>
    obtain ⟨isOpen, closed⟩ := ite_none_right_eq_some.mp performed
    cases some.inj closed
    exact ⟨_, rfl, Booked.sessionClose inOrder few outside stuck⟩
  | interrupt core handler =>
    obtain ⟨registered, handled⟩ := ite_none_right_eq_some.mp performed
    cases some.inj handled
    exact ⟨_, rfl, Booked.irqHandlerBottomHalf inOrder registered outside stuck handler⟩
  | watchdog core polls =>
    obtain ⟨pending, handled⟩ := ite_none_right_eq_some.mp performed
    cases some.inj handled
    exact ⟨_, rfl, Booked.timeoutFunction inOrder pending polls⟩
  | hangDetection core =>
    obtain ⟨pending, handled⟩ := ite_none_right_eq_some.mp performed
    cases some.inj handled
    exact ⟨_, rfl, Booked.timeoutFunctionHangDetection inOrder pending⟩
  | powerDown core immediateOnly =>
    cases some.inj performed
    exact ⟨_, rfl, Booked.signalPowerDown inOrder core immediateOnly⟩
  | powerUp core queueOnly =>
    cases some.inj performed
    exact ⟨_, rfl, Booked.signalPowerUp inOrder outside stuck core queueOnly⟩
  | mmuBusReset mmu =>
    cases some.inj performed
    exact ⟨_, rfl, keeps_mmuBusReset outside mmu _ _ (outer_between _) inOrder⟩
  | mmuIdle =>
    cases some.inj performed
    exact ⟨_, rfl, keeps_schedule outside _ _ inOrder⟩

theorem step (sound : Sound sub) {occurrence : Occurrence} (few : ClosesFew sub occurrence)
    (stepped : subsystemRuns.step sub occurrence after) : Sound after := by
  obtain ⟨constants, changed, booked⟩ := sound.perform few stepped
  refine of_booked booked ?_
  cases action : occurrence.action with
  | startJob session priority abortId notification readsStarted =>
    rw [action] at changed
    exact sound.ledger.request rfl changed
  | _ =>
    rw [action] at changed
    cases changed
    exact sound.ledger.congr rfl rfl rfl

end Sound

theorem sound_of_reachable (reached : (subsystemRuns.restrict ClosesFew).Reachable sub) : Sound sub := by
  refine reached.invariant ?_ ?_
  · rintro _ rfl
    exact Sound.initial
  · intro before occurrence after sound stepped
    exact sound.step stepped.1 stepped.2

/-- The sum is right, a session is on the list of the priority of its waiting job and on no
other, a core is on one of the lists there are, and on one of a session exactly when it
has a job. -/
structure SchedulerInvariant (sub : Subsystem) : Prop where
  sum : sub.awaitingSessionsSumAllPriorities = ∑ priority, (sub.awaitingSessions priority).length
  awaiting : ∀ session job, sub.jobWaitingToRun session = some job →
    (sub.awaitingSessions job.priority).count session = 1 ∧
      ∀ priority, session ∈ sub.awaitingSessions priority → priority = job.priority
  notAwaiting : ∀ session, sub.jobWaitingToRun session = none →
    ∀ priority, session ∉ sub.awaitingSessions priority
  placed : ∀ core < sub.numberOfCores, ∃ list,
    (∀ session, list = .working session → session ∈ sub.allSessions) ∧
      (sub.renderunits list).count core = 1 ∧ ∀ other, core ∈ sub.renderunits other → other = list
  running : ∀ core < sub.numberOfCores, (sub.maliCoreArray core).currentJob ≠ none ↔
    ∃ session ∈ sub.allSessions, core ∈ sub.renderunits (.working session)

theorem Sound.schedulerInvariant (sound : Sound sub) : SchedulerInvariant sub := by
  obtain ⟨unitAt, jobAt, books⟩ := sound.inOrder
  have units := books.units
  have sessions := books.sessions
  constructor
  · exact sessions.sum_eq
  · intro session job waits
    obtain ⟨_, once, only⟩ := sessions.placed.exists_unique (show
      (sub.jobWaitingToRun session).map Job.priority = some job.priority by rw [waits]; rfl)
    exact ⟨once, only⟩
  · intro session none_ priority
    exact sessions.placed.not_mem (by rw [none_]; rfl) priority
  · intro core registered
    obtain ⟨list, on⟩ := Option.ne_none_iff_exists'.mp ((units.registered core).mp registered)
    obtain ⟨_, once, only⟩ := units.placed.exists_unique on
    exact ⟨list, fun session works => ((units.booked core list on).isOpen session works).1, once, only⟩
  · intro core registered
    obtain ⟨list, on⟩ := Option.ne_none_iff_exists'.mp ((units.registered core).mp registered)
    have fits := units.booked core list on
    rw [fits.running_iff]
    constructor
    · rintro ⟨session, works⟩
      exact ⟨session, (fits.isOpen session works).1, (units.placed.mem_iff core _).mpr (works ▸ on)⟩
    · rintro ⟨session, _, member⟩
      have there := (units.placed.mem_iff core _).mp member
      exact ⟨session, some.inj (on.symm.trans there)⟩

def fineOutside : Outside := ⟨fun _ => true, fun _ => false, fun _ => true, fun _ => true⟩

def Action.fine (action : Action) : Occurrence := ⟨action, fineOutside, fun _ => false⟩

def performAll (condition : Subsystem → Occurrence → Prop) [∀ sub occurrence, Decidable (condition sub occurrence)] :
    List Occurrence → Subsystem → Option Subsystem
  | [], sub => some sub
  | occurrence :: rest, sub =>
      if condition sub occurrence then
        (occurrence.perform 1 sub).bind (performAll condition rest)
      else none

theorem reachable_performAll (condition : Subsystem → Occurrence → Prop)
    [∀ sub occurrence, Decidable (condition sub occurrence)] (occurrences : List Occurrence) :
    ∀ sub, (subsystemRuns.restrict condition).Reachable sub →
      performAll condition occurrences sub = some after →
      (subsystemRuns.restrict condition).Reachable after := by
  induction occurrences with
  | nil =>
    intro sub reached performed
    exact some.inj performed ▸ reached
  | cons occurrence rest induction =>
    intro sub reached performed
    obtain ⟨holds, performed⟩ := ite_none_right_eq_some.mp performed
    obtain ⟨next, first, later⟩ := Option.bind_eq_some_iff.mp performed
    exact induction next (reached.next occurrence ⟨holds, 1, first⟩) later

def twoAtWork : List Occurrence :=
  [Action.fine (.registerRenderunit 0), Action.fine (.registerRenderunit 1),
    Action.fine (.sessionBegin 7), Action.fine (.startJob 7 0#32 1#32 true false),
    Action.fine (.startJob 7 0#32 2#32 true false)]

/-- The scheduler's lists and counts are right in every state of a run that closes no
session with more than one core at work. -/
theorem scheduler_invariant (reached : (subsystemRuns.restrict ClosesFew).Reachable sub) : SchedulerInvariant sub :=
  (sound_of_reachable reached).schedulerInvariant

def jobWaits : Subsystem :=
  (performAll ClosesFew (twoAtWork ++ [Action.fine (.startJob 7 1#32 3#32 true false)])
    initialSubsystem).get (by decide +kernel)

theorem scheduler_invariant_twoAtWork :
    (subsystemRuns.restrict ClosesFew).Reachable jobWaits ∧ SchedulerInvariant jobWaits ∧
      jobWaits.renderunits (.working 7) = [0, 1] ∧ jobWaits.awaitingSessions 1 = [7] ∧
      jobWaits.awaitingSessionsSumAllPriorities = 1 := by
  have reached : (subsystemRuns.restrict ClosesFew).Reachable jobWaits :=
    reachable_performAll ClosesFew _ _ (.initial rfl) (some_get _).symm
  exact ⟨reached, scheduler_invariant reached, by decide +kernel, by decide +kernel, by decide +kernel⟩

def closedAtWork : Subsystem :=
  (performAll (fun _ _ => True) (twoAtWork ++ [Action.fine (.sessionClose 7)]) initialSubsystem).get
    (by decide +kernel)

/-- The second core keeps a job, and is on no list there is. -/
theorem session_close_strands_core :
    subsystemRuns.Reachable closedAtWork ∧ ¬ SchedulerInvariant closedAtWork := by
  have reached : (subsystemRuns.restrict fun _ _ => True).Reachable closedAtWork :=
    reachable_performAll _ _ _ (.initial rfl) (some_get _).symm
  refine ⟨reached.of_restrict, fun invariant => ?_⟩
  have running : (closedAtWork.maliCoreArray 1).currentJob ≠ none := by decide +kernel
  have noSession : closedAtWork.allSessions = [] := by decide +kernel
  obtain ⟨session, isOpen, _⟩ := (invariant.running 1 (by decide +kernel)).mp running
  rw [noSession] at isOpen
  contradiction

/-- `schedule` overlooks no waiting job, and passes over none for one of a lower priority. -/
theorem getWaitingSession_highest (reached : (subsystemRuns.restrict ClosesFew).Reachable sub) :
    (getWaitingSession sub = none ↔ ∀ session, sub.jobWaitingToRun session = none) ∧
      ∀ session, getWaitingSession sub = some session → ∃ job, sub.jobWaitingToRun session = some job ∧
        ∀ other waiting, sub.jobWaitingToRun other = some waiting → job.priority ≤ waiting.priority := by
  obtain ⟨sum, awaiting, notAwaiting, -, -⟩ := (sound_of_reachable reached).schedulerInvariant
  have listed {session : SessionId} {priority : Priority} (member : session ∈ sub.awaitingSessions priority) :
      ∃ job, sub.jobWaitingToRun session = some job ∧ job.priority = priority := by
    cases waits : sub.jobWaitingToRun session with
    | none => exact absurd member (notAwaiting session waits priority)
    | some job => exact ⟨job, rfl, ((awaiting session job waits).2 priority member).symm⟩
  have waits_listed {session : SessionId} {job : Job} (waits : sub.jobWaitingToRun session = some job) :
      session ∈ sub.awaitingSessions job.priority :=
    List.count_pos_iff.mp (by rw [(awaiting session job waits).1]; exact Nat.one_pos)
  have empty_iff : getWaitingSession sub = none ↔ ∀ priority, sub.awaitingSessions priority = [] := by
    rw [getWaitingSession]
    split
    next none_ => simpa [sum] using none_
    next => simp
  refine ⟨empty_iff.trans ⟨fun empty session => ?_, fun idle priority => ?_⟩, fun session found => ?_⟩
  · by_contra waits
    obtain ⟨job, waits⟩ := Option.ne_none_iff_exists'.mp waits
    exact List.not_mem_nil (empty job.priority ▸ waits_listed waits)
  · refine List.eq_nil_iff_forall_not_mem.mpr fun session member => ?_
    obtain ⟨job, waits, -⟩ := listed member
    exact Option.some_ne_none job (waits.symm.trans (idle session))
  · rw [getWaitingSession] at found
    split at found
    next => contradiction
    next =>
      obtain ⟨higher, priority, lower, split, first, none_⟩ := List.findSome?_eq_some_iff.mp found
      obtain ⟨job, waits, rfl⟩ := listed (List.mem_of_head? first)
      refine ⟨job, waits, fun other waiting otherWaits => ?_⟩
      have sorted := List.pairwise_append.mp (split ▸ List.pairwise_lt_finRange 3)
      have known : waiting.priority ∈ higher ++ job.priority :: lower := split ▸ List.mem_finRange _
      rcases List.mem_append.mp known with inHigher | here
      · have empty := List.head?_eq_none_iff.mp (none_ _ inHigher)
        exact absurd (empty ▸ waits_listed otherWaits) List.not_mem_nil
      · rcases List.mem_cons.mp here with same | inLower
        · exact Fin.le_of_eq same.symm
        · exact Fin.le_of_lt ((List.pairwise_cons.mp sorted.2.1).1 _ inLower)

theorem getWaitingSession_highest_twoAtWork : getWaitingSession jobWaits = some 7 ∧
      ∃ job, jobWaits.jobWaitingToRun 7 = some job ∧
        ∀ other waiting, jobWaits.jobWaitingToRun other = some waiting → job.priority ≤ waiting.priority := by
  have reached : (subsystemRuns.restrict ClosesFew).Reachable jobWaits :=
    reachable_performAll ClosesFew _ _ (.initial rfl) (some_get _).symm
  have found : getWaitingSession jobWaits = some 7 := by decide +kernel
  exact ⟨found, (getWaitingSession_highest reached).2 7 found⟩

end Floid.Render
