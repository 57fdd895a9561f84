import Mathlib.Data.List.Find
import Floid.Render.Suspend

namespace Floid.Render

open Osk Lib

variable {sub : Subsystem} {state before : GpState} {core : CoreId} {job : Job}

def ActsOnly (session : SessionId) (cookie : Option CoreId) (code : SuspendResponseCode) (sub : Subsystem) : Prop :=
  maligpSuspendResponse cookie code sub = some (.fault, sub) ∨
    maligpSuspendResponse cookie code sub ≠ none ∧
      ∃ core job, cookie = some core ∧ sub.StalledOn core job ∧ job.session = session

def GpState.mostRecent (state : GpState) : Option (CoreId × Job) :=
  state.unanswered.find? fun entry => state.sub.StalledOn entry.1 entry.2

def AcceptsMostRecent (state : GpState) : Prop :=
  ∀ core job, state.mostRecent = some (core, job) → ∀ code, ∃ after,
    maligpSuspendResponse (some core) code state.sub = some (.ok, after)

def Answerable (session : SessionId) (cookie : Option CoreId) (sub : Subsystem) : Prop :=
  match cookie with
  | none => sub.lastGpCoreCookie ≠ none
  | some core => sub.lastGpCoreCookie = some core →
      ∀ job, (sub.maliCoreArray core).currentJob = some job → job.session = session

def GpState.Pending (state : GpState) (core : CoreId) (job : Job) : Prop :=
  (core, job) ∈ state.unanswered ∧ state.sub.StalledOn core job

/-- Jobs are returned only together with those that wait for an answer, and an answer is
taken only if no other core waits for one. -/
def KeepsCookie (before : GpState) : GpAction → Prop
  | .occurs occurrence => ClosesFew before.sub occurrence ∧
      ∀ after, subsystemRuns.step before.sub occurrence after →
        after.returned = before.sub.returned ∨
          ∀ core job, before.Pending core job → job ∈ after.returned.map Prod.fst
  | .suspendResponse _ cookie _ => cookie = before.sub.lastGpCoreCookie →
      ∀ core job, before.Pending core job → cookie = some core

structure GpState.Sound (state : GpState) : Prop where
  sound : Render.Sound state.sub
  cookie : ∀ core, state.sub.lastGpCoreCookie = some core → ∃ job, state.Pending core job
  recent : ∀ core job, state.mostRecent = some (core, job) → state.sub.lastGpCoreCookie = some core

theorem GpState.pending_of_mostRecent (recent : state.mostRecent = some (core, job)) :
    state.Pending core job := by
  have found := List.find?_some recent
  exact ⟨List.mem_of_find?_eq_some recent, of_decide_eq_true found⟩

theorem maligpSuspendResponse_taken (expected : sub.lastGpCoreCookie = some core)
    (running : (sub.maliCoreArray core).currentJob = some job) (code : SuspendResponseCode) :
    ∃ after, maligpSuspendResponse (some core) code sub = some (.ok, after) := by
  rw [maligpSuspendResponse, if_neg (by simp [expected])]
  cases code with
  | jobResumeWithNewHeap =>
    simp only [running]
    exact ⟨_, if_neg (Option.some_ne_none job)⟩
  | jobAbort => exact ⟨_, rfl⟩
  | other code => exact ⟨_, rfl⟩

variable {after : Subsystem} {code : SuspendResponseCode}

theorem maligpSuspendResponse_fault {cookie : Option CoreId}
    (fault : maligpSuspendResponse cookie code sub = some (.fault, after)) :
    after = sub := by
  by_cases expected : cookie = sub.lastGpCoreCookie
  · cases cookie with
    | none => simp [maligpSuspendResponse, ← expected] at fault
    | some core =>
      rw [maligpSuspendResponse, if_neg (not_not.mpr expected)] at fault
      cases code with
      | jobResumeWithNewHeap =>
        split at fault <;> simp at fault
      | jobAbort => simp at fault
      | other code => simp at fault
  · unfold maligpSuspendResponse at fault
    rw [if_pos expected] at fault
    simpa using fault.symm

theorem GpState.Sound.acceptsMostRecent (sound : state.Sound) : AcceptsMostRecent state := by
  intro core job recent
  exact maligpSuspendResponse_taken (sound.recent core job recent)
    (pending_of_mostRecent recent).2.1

theorem GpState.Sound.actsOnly_iff (sound : state.Sound) (session : SessionId)
    (cookie : Option CoreId) (code : SuspendResponseCode) :
    ActsOnly session cookie code state.sub ↔ Answerable session cookie state.sub := by
  by_cases expected : cookie = state.sub.lastGpCoreCookie
  · cases cookie with
    | none =>
      have dereferenced : maligpSuspendResponse none code state.sub = none := by
        rw [maligpSuspendResponse, if_neg (not_not.mpr expected)]
      simp [ActsOnly, Answerable, dereferenced, ← expected]
    | some core =>
      obtain ⟨job, pending⟩ := sound.cookie core expected.symm
      obtain ⟨after, taken⟩ := maligpSuspendResponse_taken expected.symm pending.2.1 code
      rw [ActsOnly, taken]
      constructor
      · intro acts
        rcases acts with fault | ⟨_, other, own, here, stalled, same⟩
        · simp at fault
        · intro _ job running
          cases here
          rw [stalled.1, Option.some.injEq] at running
          rw [← running, same]
      · intro answerable
        exact .inr ⟨Option.some_ne_none _, core, job, rfl, pending.2, answerable expected.symm job pending.2.1⟩
  · have fault : maligpSuspendResponse cookie code state.sub = some (.fault, state.sub) := by
      unfold maligpSuspendResponse
      rw [if_pos expected]
    refine iff_of_true (.inl fault) ?_
    cases cookie with
    | none => exact fun none_ => expected none_.symm
    | some core => exact fun same => absurd same.symm expected

theorem GpState.Sound.initial : GpState.Sound ⟨initialSubsystem, []⟩ where
  sound := Render.Sound.initial
  cookie core expected := by simp [initialSubsystem] at expected
  recent core job recent := by simp [mostRecent] at recent

theorem GpState.Sound.occurs (sound : before.Sound) {occurrence : Occurrence}
    (keeps : KeepsCookie before (.occurs occurrence))
    (stepped : subsystemRuns.step before.sub occurrence after) :
    GpState.Sound ⟨after, (cookieSent before.sub occurrence.action).toList ++ before.unanswered⟩ := by
  have soundAfter := sound.sound.step keeps.1 stepped
  rcases sound.sound.steps stepped with ⟨unsent, steps⟩ | ⟨core, job, sent, stalls⟩
  · rw [unsent, Option.toList_none, List.nil_append]
    have quiet := steps.quiet
    have earlier (core : CoreId) (job : Job)
        (pending : GpState.Pending ⟨after, before.unanswered⟩ core job) : before.Pending core job :=
      ⟨pending.1, quiet.stalledOn core job pending.2⟩
    rcases quiet.cookie with ⟨same, kept⟩ | ⟨more, lost⟩
    · -- nothing is returned, and those that wait still do
      have stays (core : CoreId) (job : Job) (pending : before.Pending core job) :
          after.StalledOn core job := by
        refine sound.sound.stalledOn_kept soundAfter steps pending.2 ?_
        rw [same]
        exact (Sound.running_not_returned sound.sound pending.2.1)
      have recent : GpState.mostRecent ⟨after, before.unanswered⟩ = before.mostRecent := by
        refine List.find?_congr fun entry member => decide_eq_decide.mpr ⟨?_, ?_⟩
        · exact quiet.stalledOn entry.1 entry.2
        · exact fun stalled => stays entry.1 entry.2 ⟨member, stalled⟩
      refine ⟨soundAfter, fun core expected => ?_, fun core job found => ?_⟩
      · obtain ⟨job, pending⟩ := sound.cookie core (kept ▸ expected)
        exact ⟨job, pending.1, stays core job pending⟩
      · rw [recent] at found
        exact kept.trans (sound.recent core job found)
    · -- those that waited are returned as well
      refine ⟨soundAfter, fun core expected => ?_, fun core job found => ?_⟩
      · simp [lost] at expected
      · have pending := pending_of_mostRecent found
        rcases keeps.2 after stepped with same | returned
        · simp [same] at more
        · exact absurd (returned core job (earlier core job pending))
            (Sound.running_not_returned soundAfter pending.2.1)
  · have stalled : after.StalledOn core job := by
      obtain ⟨misused, used⟩ := before.sub.useJob_with job
      rw [stalls.after_eq, used]
      simp [IrqAnswer.apply, Subsystem.StalledOn, Subsystem.updateUnit, stalls.running]
    have expected : after.lastGpCoreCookie = some core := by
      rw [stalls.after_eq]
      rfl
    rw [sent, Option.toList_some, List.singleton_append]
    refine ⟨soundAfter, fun other same => ?_, fun other own recent => ?_⟩
    · rw [expected, Option.some.injEq] at same
      exact ⟨job, same ▸ ⟨List.mem_cons_self, stalled⟩⟩
    · have first : GpState.mostRecent ⟨after, (core, job) :: before.unanswered⟩ = some (core, job) :=
        List.find?_cons_of_pos (decide_eq_true stalled)
      rw [first] at recent
      cases Option.some.inj recent
      exact expected

structure Answered (core : CoreId) (sub after : Subsystem) : Prop where
  expected : sub.lastGpCoreCookie = some core
  cookie : after.lastGpCoreCookie = none
  sound : Sound after
  others : ∀ other, other ≠ core → after.maliCoreArray other = sub.maliCoreArray other

theorem Sound.answered (sound : Sound sub) (taken : maligpSuspendResponse (some core) code sub = some (.ok, after)) :
    Answered core sub after := by
  have expected : some core = sub.lastGpCoreCookie := by
    by_contra unexpected
    rw [maligpSuspendResponse, if_pos unexpected] at taken
    simp at taken
  rw [maligpSuspendResponse, if_neg (not_not.mpr expected)] at taken
  have cleared : Sound { sub with lastGpCoreCookie := none } := by
    obtain ⟨unitAt, jobAt, books⟩ := sound.inOrder
    exact ⟨⟨unitAt, jobAt, books.units, books.sessions, books.jobs, books.constants⟩, sound.ledger⟩
  cases code with
  | jobResumeWithNewHeap =>
    dsimp only at taken
    split at taken
    next => contradiction
    next running =>
      have used : Subsystem.useCurrentJob core { sub with lastGpCoreCookie := none } =
          { sub with lastGpCoreCookie := none } := Booked.useCurrentJob cleared.inOrder core
      rw [used] at taken
      cases taken
      have resumed := Booked.goOn cleared.inOrder running
        (fun unit => { unit with stalled := false, timer := true }) rfl rfl (.inl rfl)
      refine ⟨expected.symm, rfl, ⟨resumed.inOrder, cleared.ledger⟩, fun other different => ?_⟩
      simp [Subsystem.updateUnit, different]
  | jobAbort =>
    cases taken
    exact ⟨expected.symm, rfl, cleared, fun _ _ => rfl⟩
  | other code =>
    cases taken
    exact ⟨expected.symm, rfl, cleared, fun _ _ => rfl⟩

theorem GpState.Sound.accepted (sound : before.Sound) {session : SessionId}
    (keeps : KeepsCookie before (.suspendResponse session (some core) code))
    (taken : maligpSuspendResponse (some core) code before.sub = some (.ok, after)) :
    GpState.Sound ⟨after, before.unanswered.filter fun entry => entry.1 ≠ core⟩ := by
  have answered := sound.sound.answered taken
  have nonePending (other : CoreId) (own : Job) : ¬ GpState.Pending
      ⟨after, before.unanswered.filter fun entry => entry.1 ≠ core⟩ other own := by
    rintro ⟨member, stalled⟩
    obtain ⟨listed, different⟩ := List.mem_filter.mp member
    have apart : other ≠ core := of_decide_eq_true different
    rw [Subsystem.StalledOn, answered.others other apart] at stalled
    have same := keeps answered.expected.symm other own ⟨listed, stalled⟩
    exact apart (Option.some.inj same).symm
  refine ⟨answered.sound, fun other expected => ?_, fun other own recent => ?_⟩
  · simp [answered.cookie] at expected
  · exact absurd (pending_of_mostRecent recent) (nonePending other own)

theorem GpState.Sound.step (sound : before.Sound) {action : GpAction} {after : GpState}
    (keeps : KeepsCookie before action) (stepped : GpStep before action after) : after.Sound := by
  cases stepped with
  | occurs _ stepped => exact sound.occurs keeps stepped
  | rejected _ answered =>
    cases maligpSuspendResponse_fault answered
    exact sound
  | accepted _ taken => exact sound.accepted keeps taken

def gpPerformAll (condition : GpState → Occurrence → Prop)
    [∀ state occurrence, Decidable (condition state occurrence)] :
    List Occurrence → GpState → Option GpState
  | [], state => some state
  | occurrence :: rest, state =>
      if condition state occurrence then
        (occurrence.perform 1 state.sub).bind fun after =>
          gpPerformAll condition rest
            ⟨after, (cookieSent state.sub occurrence.action).toList ++ state.unanswered⟩
      else none

theorem reachable_gpPerformAll (condition : GpState → Occurrence → Prop)
    [∀ state occurrence, Decidable (condition state occurrence)] {keeps : GpState → GpAction → Prop}
    (implies : ∀ state occurrence, condition state occurrence → keeps state (.occurs occurrence))
    (occurrences : List Occurrence) (onGp : ∀ occurrence ∈ occurrences, OnGp occurrence.action) :
    ∀ before, (gpRuns.restrict keeps).Reachable before →
      gpPerformAll condition occurrences before = some state →
      (gpRuns.restrict keeps).Reachable state := by
  induction occurrences with
  | nil =>
    intro before reached performed
    exact Option.some.inj performed ▸ reached
  | cons occurrence rest induction =>
    intro before reached performed
    obtain ⟨holds, performed⟩ := Option.ite_none_right_eq_some.mp performed
    obtain ⟨after, first, later⟩ := Option.bind_eq_some_iff.mp performed
    have stepped : GpStep before (.occurs occurrence) _ :=
      .occurs (onGp occurrence List.mem_cons_self) ⟨1, first⟩
    have next : (gpRuns.restrict keeps).Reachable _ :=
      reached.step ⟨implies _ _ holds, stepped⟩
    exact induction (fun other member => onGp other (List.mem_cons_of_mem _ member)) _ next later

/-- A job that waits for more memory is resumed by the last cookie that has been sent, in
every run in which jobs are returned only together with those that wait for an answer, and
an answer is taken only if no other core waits for one. An answer is acted on rightly if it
does not carry the cookie 0 when none is expected, nor that of another session. -/
theorem suspend_protocol (reached : (gpRuns.restrict KeepsCookie).Reachable state) :
    AcceptsMostRecent state ∧ ∀ session ∈ state.sub.allSessions, ∀ cookie code,
      ActsOnly session cookie code state.sub ↔ Answerable session cookie state.sub := by
  have sound : state.Sound := by
    refine reached.invariant ?_ ?_
    · rintro _ rfl
      exact GpState.Sound.initial
    · intro before action after sound stepped
      exact sound.step stepped.1 stepped.2
  exact ⟨sound.acceptsMostRecent, fun session _ cookie code => sound.actsOnly_iff session cookie code⟩

def outOfMem : GpReading := ⟨true, false, true, true, false, false⟩

def jobStalls : List Occurrence :=
  [Action.fine (.registerRenderunit 0), Action.fine (.sessionBegin 7), Action.fine (.sessionBegin 8),
    Action.fine (.startJob 7 0#32 1#32 true false),
    Action.fine (.interrupt 0 (maligpIrqHandlerBottomHalf outOfMem))]

theorem onGp_jobStalls : ∀ occurrence ∈ jobStalls, OnGp occurrence.action := by
  intro occurrence member core handler action
  simp only [jobStalls, Action.fine, List.mem_cons, List.not_mem_nil, or_false] at member
  rcases member with rfl | rfl | rfl | rfl | rfl
  · simp at action
  · simp at action
  · simp at action
  · simp at action
  · simp only [Action.interrupt.injEq] at action
    exact ⟨outOfMem, action.2.symm⟩

def NoCookie (state : GpState) (occurrence : Occurrence) : Prop :=
  ClosesFew state.sub occurrence ∧ state.unanswered = []

instance (state : GpState) (occurrence : Occurrence) : Decidable (NoCookie state occurrence) :=
  inferInstanceAs (Decidable (_ ∧ _))

theorem keepsCookie_of_noCookie (state : GpState) (occurrence : Occurrence)
    (noCookie : NoCookie state occurrence) : KeepsCookie state (.occurs occurrence) := by
  refine ⟨noCookie.1, fun after _ => .inr fun core job pending => ?_⟩
  have member := pending.1
  rw [noCookie.2] at member
  contradiction

def gpStalled : GpState :=
  (gpPerformAll NoCookie jobStalls ⟨initialSubsystem, []⟩).get (by decide +kernel)

theorem reachable_gpStalled : (gpRuns.restrict KeepsCookie).Reachable gpStalled :=
  reachable_gpPerformAll NoCookie keepsCookie_of_noCookie jobStalls onGp_jobStalls _ (.initial rfl)
    (Option.some_get _).symm

theorem suspend_protocol_stalled : gpStalled.mostRecent = some (0, ⟨0, 7, 0, 1#32⟩) ∧ AcceptsMostRecent gpStalled ∧
      ActsOnly 7 (some 0) .jobResumeWithNewHeap gpStalled.sub := by
  have protocol := suspend_protocol reachable_gpStalled
  refine ⟨by decide +kernel, protocol.1, ?_⟩
  refine (protocol.2 7 (by decide +kernel) (some 0) .jobResumeWithNewHeap).mpr fun _ job running => ?_
  have own : (gpStalled.sub.maliCoreArray 0).currentJob = some ⟨0, 7, 0, 1#32⟩ := by decide +kernel
  rw [own, Option.some.injEq] at running
  rw [← running]

def otherAborted : List Occurrence :=
  [Action.fine (.startJob 8 0#32 2#32 true false), Action.fine (.abortJob 8 2#32)]

def gpForgot : GpState :=
  (gpPerformAll (fun _ _ => True) otherAborted gpStalled).get (by decide +kernel)

/-- The cookie 0 is dereferenced, another session answers for a job that is not its own, and
an answer is refused because another job has been returned. -/
theorem suspend_protocol_broken : (∃ state, gpRuns.Reachable state ∧ 7 ∈ state.sub.allSessions ∧
      ¬ ActsOnly 7 none .jobAbort state.sub) ∧
    (∃ state, gpRuns.Reachable state ∧ 8 ∈ state.sub.allSessions ∧ ¬ ActsOnly 8 (some 0) .jobAbort state.sub) ∧
    ∃ state, gpRuns.Reachable state ∧ ¬ AcceptsMostRecent state := by
  have stalled := reachable_gpStalled.of_restrict
  have forgot : gpRuns.Reachable gpForgot := by
    have onGp : ∀ occurrence ∈ otherAborted, OnGp occurrence.action := by
      intro occurrence member core handler action
      simp only [otherAborted, Action.fine, List.mem_cons, List.not_mem_nil, or_false] at member
      rcases member with rfl | rfl
      · simp at action
      · simp at action
    have reached : (gpRuns.restrict fun _ _ => True).Reachable gpStalled :=
      reachable_gpStalled.restrict_mono fun _ _ _ => trivial
    exact (reachable_gpPerformAll (fun _ _ => True) (fun _ _ => id) otherAborted onGp gpStalled reached
      (Option.some_get _).symm).of_restrict
  refine ⟨⟨gpForgot, forgot, by decide +kernel, ?_⟩, ⟨gpStalled, stalled, by decide +kernel, ?_⟩,
    gpForgot, forgot, ?_⟩
  · have expected : gpForgot.sub.lastGpCoreCookie = none := by decide +kernel
    simp [ActsOnly, maligpSuspendResponse, expected]
  · have expected : gpStalled.sub.lastGpCoreCookie = some 0 := by decide +kernel
    have running : (gpStalled.sub.maliCoreArray 0).currentJob = some ⟨0, 7, 0, 1#32⟩ := by
      decide +kernel
    rintro (fault | ⟨_, core, job, here, still, own⟩)
    · simp [maligpSuspendResponse, expected] at fault
    · cases here
      rw [Subsystem.StalledOn, running, Option.some.injEq] at still
      rw [← still.1] at own
      contradiction
  · intro accepts
    have recent : gpForgot.mostRecent = some (0, ⟨0, 7, 0, 1#32⟩) := by decide +kernel
    have expected : gpForgot.sub.lastGpCoreCookie = none := by decide +kernel
    obtain ⟨after, taken⟩ := accepts 0 _ recent .jobAbort
    simp [maligpSuspendResponse, expected] at taken

end Floid.Render
