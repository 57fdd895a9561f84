import Floid.Render.Close
import Floid.Render.Confined

namespace Floid.Render

open Osk Lib
open Option (some.injEq)

variable {sub before after : Subsystem} {constants : Constants} {core other : CoreId} {job : Job}
  {session : SessionId} {abortId : U32} {outside : Outside} {stuck : CoreId → Bool}

variable {front rest : List CoreId}

theorem nextUnit_eq (rest : List CoreId) (apart : core ∉ front) :
    nextUnit core (front ++ core :: rest) = rest.head? := by
  induction front with
  | nil => simp [nextUnit]
  | cons head tail induction =>
    rw [List.mem_cons, not_or] at apart
    rw [List.cons_append, nextUnit, if_neg (Ne.symm apart.1)]
    exact induction apart.2

theorem precedes_of_mem (member : other ∈ front) : [other, core].Sublist (front ++ core :: rest) := by
  have second : [core].Sublist (core :: rest) := by simp
  exact (List.singleton_sublist.mpr member).append second

theorem precedes_next {next : CoreId} (nodup : (front ++ core :: next :: rest).Nodup)
    (order : [other, next].Sublist (front ++ core :: next :: rest)) :
    other = core ∨ [other, core].Sublist (front ++ core :: next :: rest) := by
  have split : front ++ core :: next :: rest = (front ++ [core]) ++ next :: rest := by simp
  rw [split] at nodup order
  have later := (List.nodup_cons.mp (List.nodup_append.mp nodup).2.1).1
  obtain ⟨early, late, parts, inEarly, inLate⟩ := List.sublist_append_iff.mp order
  cases early with
  | nil =>
    rw [List.nil_append] at parts
    rw [← parts] at inLate
    cases inLate with
    | cons _ skipped => exact absurd (skipped.subset (by simp)) later
    | cons_cons _ twice => exact absurd (twice.subset (by simp)) later
  | cons head tail =>
    have same : other = head := (List.cons.inj parts).1
    have member : other ∈ front ++ [core] := by
      rw [same]
      exact inEarly.subset List.mem_cons_self
    rcases List.mem_append.mp member with inFront | own
    · exact .inr (precedes_of_mem inFront)
    · exact .inl (List.mem_singleton.mp own)

def Subsystem.Has (sub : Subsystem) (place : JobPlace) (job : Job) : Prop :=
  Found ∅ sub.jobWaitingToRun sub.maliCoreArray sub.returned sub.replaced place job

theorem Subsystem.Has.entry (has : sub.Has .returned job) : ∃ endStatus, (job, endStatus) ∈ sub.returned := by
  obtain ⟨⟨own, endStatus⟩, member, same⟩ := List.mem_map.mp has
  exact ⟨endStatus, same ▸ member⟩

theorem Subsystem.has_returned {endStatus : JobEndCode} (member : (job, endStatus) ∈ sub.returned) :
    sub.Has .returned job := List.mem_map_of_mem member

namespace Booked

theorem unique (booked : Booked (.between constants) sub) {first second : JobPlace}
    (here : sub.Has first job) (there : sub.Has second job) : second = first := by
  obtain ⟨_, _, books⟩ := booked
  exact books.jobs.unique here there

theorem waits (booked : Booked (.between constants) sub)
    (waiting : sub.jobWaitingToRun session = some job) : sub.Has .waiting job := by
  have own := (booked.waiting waiting).1
  rw [← own] at waiting
  exact waiting

theorem later (booked : Booked (.between constants) sub) (booked' : Booked (.between constants) after)
    {place : JobPlace} (has : sub.Has place job) (kept : job ∉ sub.replaced) :
    after.Has .waiting job ∨ (∃ core, after.Has (.onCore core) job) ∨ after.Has .returned job := by
  have same : after.constants = sub.constants := booked'.constants_eq.trans booked.constants_eq.symm
  have accepted : after.accepted = sub.accepted := congrArg Constants.accepted same
  have replaced : after.replaced = sub.replaced := congrArg Constants.replaced same
  obtain ⟨_, _, books⟩ := booked
  obtain ⟨_, jobAt, books'⟩ := booked'
  have known : job ∈ after.accepted := by
    rw [accepted, books.jobs.accepted_iff, (books.jobs.found_iff place job).mp has]
    exact Option.some_ne_none place
  obtain ⟨now, at_⟩ := Option.ne_none_iff_exists'.mp ((books'.jobs.accepted_iff job).mp known)
  have found : after.Has now job := (books'.jobs.found_iff now job).mpr at_
  cases now with
  | waiting => exact .inl found
  | onCore core => exact .inr (.inl ⟨core, found⟩)
  | flight => exact absurd found (Set.notMem_empty job)
  | returned => exact .inr (.inr found)
  | replaced => exact absurd (replaced ▸ found) kept

theorem atWork (booked : Booked (.between constants) sub) (running : (sub.maliCoreArray core).currentJob = some job) :
    core < sub.numberOfCores ∧ core ∈ sub.renderunits (.working job.session) ∧
      core ∉ sub.renderunits .idle ∧ (sub.maliCoreArray core).state ≠ .idle ∧
      (sub.maliCoreArray core).inDetachFunction = false := by
  have detaching := (booked.marked core).detaching
  obtain ⟨unitAt, jobAt, books⟩ := booked
  obtain ⟨list, on⟩ := books.placed_of_job running
  have fits := books.units.booked core list on
  obtain ⟨session, works⟩ := fits.running_iff.mp (by simp [running])
  obtain ⟨own, hasJob, same⟩ := fits.working session works rfl
  rw [running, some.injEq] at hasJob
  subst hasJob same works
  refine ⟨(books.units.registered core).mpr (by simp [on]), (books.units.placed.mem_iff core _).mpr on,
    ?_, ?_, detaching⟩
  · rw [books.units.placed.mem_iff, on]
    simp
  · intro idle
    have wrong := fits.idle_iff.mp idle
    contradiction

theorem units_nodup (booked : Booked (.between constants) sub) (list : CoreList) :
    (sub.renderunits list).Nodup := by
  obtain ⟨_, _, books⟩ := booked
  exact books.units.placed.nodup list

theorem running_of_working (booked : Booked (.between constants) sub)
    (works : core ∈ sub.renderunits (.working session)) :
    core ∉ sub.renderunits .idle ∧
      ∃ job, (sub.maliCoreArray core).currentJob = some job ∧ job.session = session := by
  obtain ⟨unitAt, jobAt, books⟩ := booked
  have on := (books.units.placed.mem_iff core _).mp works
  have fits := books.units.booked core _ on
  refine ⟨?_, fits.working session rfl rfl⟩
  rw [books.units.placed.mem_iff, on]
  simp

end Booked

def ToAbort (session : SessionId) (abortId : U32) (job : Job) : Prop :=
  job.session = session ∧ job.abortId = abortId

def resetMmus (stuck : CoreId → Bool) (session : SessionId) (abortId : U32) (sub : Subsystem) : Set MmuId :=
  { mmu | ∃ core job, (sub.maliCoreArray core).currentJob = some job ∧ ToAbort session abortId job ∧
    stuck core = true ∧ sub.mmu core = mmu }

def Subsystem.Ended (sub : Subsystem) (job : Job) : Prop :=
  ∃ endStatus, (endStatus ∈ unstartedCodes ∨ endStatus = .segFault) ∧ (job, endStatus) ∈ sub.returned

/-- What an abort leaves of its jobs and of the others, where it may reset certain MMUs. A
job that waits may be started on a core that has become free. -/
structure Aborted (session : SessionId) (abortId : U32) (resets : Set MmuId)
    (before after : Subsystem) : Prop where
  notWaiting : ∀ job, after.jobWaitingToRun session = some job → job.abortId ≠ abortId
  notRunning : ∀ core job, (after.maliCoreArray core).currentJob = some job → ¬ ToAbort session abortId job
  returned : ∀ job, ToAbort session abortId job →
    before.Has .waiting job ∨ (∃ core, before.Has (.onCore core) job) →
    (after.returned.map Prod.fst).count job = 1
  running : ∀ core job, ¬ ToAbort session abortId job → (before.maliCoreArray core).currentJob = some job →
    (after.maliCoreArray core).currentJob = some job ∨
      (job, .segFault) ∈ after.returned ∧ before.mmu core ∈ resets
  waiting : ∀ job, ¬ ToAbort session abortId job → before.jobWaitingToRun job.session = some job →
    after.jobWaitingToRun job.session = some job ∨
      (∃ core, (after.maliCoreArray core).currentJob = some job) ∨ after.Ended job

structure Since (session : SessionId) (abortId : U32) (resets : Set MmuId) (before sub : Subsystem) : Prop where
  booked : Booked (.between before.constants) sub
  mmu : sub.mmu = before.mmu
  notWaiting : ∀ job, sub.jobWaitingToRun session = some job → job.abortId ≠ abortId
  still : ∀ core job, ToAbort session abortId job → (sub.maliCoreArray core).currentJob = some job →
    (before.maliCoreArray core).currentJob = some job
  running : ∀ core job, ¬ ToAbort session abortId job → (before.maliCoreArray core).currentJob = some job →
    (sub.maliCoreArray core).currentJob = some job ∨ (job, .segFault) ∈ sub.returned ∧ before.mmu core ∈ resets
  waiting : ∀ job, ¬ ToAbort session abortId job → before.jobWaitingToRun job.session = some job →
    sub.jobWaitingToRun job.session = some job ∨
      (∃ core, (sub.maliCoreArray core).currentJob = some job) ∨ sub.Ended job

structure Detach (stuck : CoreId → Bool) (core : CoreId) (job : Job) (sub after : Subsystem) : Prop where
  leaves : Leaves (detachReach stuck core sub) (abortEnds job) sub after
  grows : Grows sub after
  returned : (job, .abort) ∈ after.returned
  reset : ∀ other own, other ≠ core → ForcesReset stuck core sub → sub.mmu other = sub.mmu core →
    (sub.maliCoreArray other).currentJob = some own → (own, .segFault) ∈ after.returned

theorem Booked.detach (booked : Booked (.between constants) sub)
    (running : (sub.maliCoreArray core).currentJob = some job) (outside : Outside)
    (stuck : CoreId → Bool) :
    Detach stuck core job sub (Render.detachJobFromCore outside stuck core true .abort sub) := by
  have free := (booked.atWork running).2.2.2.2
  constructor
  · exact confined_detachJobFromCore outside stuck running
  · exact (steps_detachJobFromCore outside stuck core true .abort sub).grows
  · exact detachJobFromCore_returns outside stuck free running
  · intro other own different forces sameMmu atOther
    obtain ⟨registered, _, busy, state, detaching⟩ := booked.atWork atOther
    have works : WorksOrReset (sub.mmu core) other own sub :=
      .inl ⟨sameMmu, busy, _, rfl, state, detaching, atOther⟩
    exact works.detach registered different forces free outside

namespace Detach

variable (detach : Detach stuck core job sub after)

include detach

variable {own : Job}

theorem keeps (booked : Booked (.between constants) sub) (running : (sub.maliCoreArray other).currentJob = some own) :
    other ∉ detachReach stuck core sub ∧ (after.maliCoreArray other).currentJob = some own ∨
      other = core ∨ other ≠ core ∧ ForcesReset stuck core sub ∧ sub.mmu other = sub.mmu core ∧
        (own, .segFault) ∈ after.returned := by
  by_cases reached : other ∈ detachReach stuck core sub
  · rcases reached with same | idles | ⟨forces, sameMmu⟩
    · exact .inr (.inl same)
    · exact absurd idles (booked.atWork running).2.2.1
    · by_cases same : other = core
      · exact .inr (.inl same)
      · exact .inr (.inr ⟨same, forces, sameMmu, detach.reset other own same forces sameMmu running⟩)
  · have unit := congrArg RenderUnit.currentJob (detach.leaves.unit other reached)
    exact .inl ⟨reached, unit.trans running⟩

theorem origin (booked : Booked (.between constants) sub) (booked' : Booked (.between constants) after)
    (running : (sub.maliCoreArray core).currentJob = some job) {now : JobPlace}
    (has : after.Has now own) (pending : now ≠ .returned ∧ now ≠ .replaced) :
    sub.jobWaitingToRun own.session = some own ∨
      ∃ place, now = .onCore place ∧ (sub.maliCoreArray place).currentJob = some own ∧
        place ∉ detachReach stuck core sub := by
  have notReturned (endStatus : JobEndCode) : (own, endStatus) ∉ after.returned := fun returned =>
    pending.1 (booked'.unique (Subsystem.has_returned returned) has)
  have notReplaced : own ∉ after.replaced := fun replaced =>
    pending.2 (booked'.unique (show after.Has .replaced own from replaced) has)
  rcases booked'.later booked has notReplaced with waits | ⟨place, was⟩ | returned
  · exact .inl waits
  · rcases detach.keeps booked (show (sub.maliCoreArray place).currentJob = some own from was) with
      ⟨away, stays⟩ | same | ⟨_, _, _, returned⟩
    · have one := booked'.unique (show after.Has (.onCore place) own from stays) has
      exact .inr ⟨place, one, was, away⟩
    · subst same
      have own_ : own = job := Option.some.inj ((show _ = some own from was).symm.trans running)
      exact absurd (own_ ▸ detach.returned) (notReturned .abort)
    · exact absurd returned (notReturned .segFault)
  · obtain ⟨endStatus, member⟩ := returned.entry
    exact absurd (detach.grows.returned.subset member) (notReturned endStatus)

theorem settles (booked : Booked (.between constants) sub)
    (booked' : Booked (.between constants) after) (different : own ≠ job)
    (pending : sub.Has .waiting own ∨ ∃ core, sub.Has (.onCore core) own) :
    after.jobWaitingToRun own.session = some own ∨
      (∃ core, (after.maliCoreArray core).currentJob = some own) ∨ after.Ended own := by
  obtain ⟨place, has, elsewhere⟩ : ∃ place, sub.Has place own ∧ place ≠ .returned ∧ place ≠ .replaced := by
    rcases pending with waits | ⟨core, runs⟩
    · exact ⟨.waiting, waits, by simp, by simp⟩
    · exact ⟨.onCore core, runs, by simp, by simp⟩
  have notReplaced : own ∉ sub.replaced := fun replaced =>
    elsewhere.2 (booked.unique (show sub.Has .replaced own from replaced) has)
  rcases booked.later booked' has notReplaced with waits | runs | returned
  · exact .inl waits
  · exact .inr (.inl runs)
  · obtain ⟨endStatus, member⟩ := returned.entry
    rcases detach.leaves.returned _ member with known | new
    · exact absurd (booked.unique has (Subsystem.has_returned known)).symm elsewhere.1
    · rcases new with aborted | ended | reset
      · exact absurd (congrArg Prod.fst aborted) different
      · exact .inr (.inr ⟨endStatus, .inl ended, member⟩)
      · exact .inr (.inr ⟨endStatus, .inr reset, member⟩)

end Detach

theorem Since.not_toAbort {resets : Set MmuId} (since : Since session abortId resets before sub)
    (waits : sub.jobWaitingToRun job.session = some job) : ¬ ToAbort session abortId job := by
  rintro ⟨own, same⟩
  exact since.notWaiting job (own ▸ waits) same

theorem Since.detach (since : Since session abortId (resetMmus stuck session abortId before) before sub)
    (toAbort : ToAbort session abortId job)
    (running : (sub.maliCoreArray core).currentJob = some job)
    (detach : Detach stuck core job sub after) (booked' : Booked (.between before.constants) after) :
    Since session abortId (resetMmus stuck session abortId before) before after where
  booked := booked'
  mmu := detach.leaves.mmu.trans since.mmu
  notWaiting own waits same := by
    have has := booked'.waits waits
    have session_ := (booked'.waiting waits).1
    rcases detach.origin since.booked booked' running has (by simp) with waited | ⟨_, wrong, _⟩
    · exact since.not_toAbort waited ⟨session_, same⟩
    · contradiction
  still place own toAbort runs := by
    have has : after.Has (.onCore place) own := runs
    rcases detach.origin since.booked booked' running has (by simp) with waited | ⟨_, same, was, _⟩
    · exact absurd toAbort (since.not_toAbort waited)
    · cases same
      exact since.still place own toAbort was
  running place own spared was := by
    rcases since.running place own spared was with runs | ⟨returned, resets⟩
    · rcases detach.keeps since.booked runs with ⟨_, stays⟩ | same | ⟨_, forces, sameMmu, returned⟩
      · exact .inl stays
      · subst same
        have own_ : own = job := Option.some.inj (runs.symm.trans running)
        exact absurd (own_ ▸ toAbort) spared
      · rw [since.mmu] at sameMmu
        exact .inr ⟨returned, core, job, since.still core job toAbort running, toAbort, forces.1, sameMmu.symm⟩
    · exact .inr ⟨detach.grows.returned.subset returned, resets⟩
  waiting own spared waited := by
    have different : own ≠ job := fun same => spared (same ▸ toAbort)
    rcases since.waiting own spared waited with waits | runs | ⟨endStatus, known, returned⟩
    · exact detach.settles since.booked booked' different (.inl waits)
    · exact detach.settles since.booked booked' different (.inr runs)
    · exact .inr (.inr ⟨endStatus, known, detach.grows.returned.subset returned⟩)

structure Walking (session : SessionId) (abortId : U32) (stuck : CoreId → Bool)
    (before : Subsystem) (core : CoreId) (sub : Subsystem) : Prop where
  since : Since session abortId (resetMmus stuck session abortId before) before sub
  ahead : ∀ other job, ToAbort session abortId job → (sub.maliCoreArray other).currentJob = some job →
    ¬ [other, core].Sublist (sub.renderunits (.working session))

structure Walked (session : SessionId) (abortId : U32) (stuck : CoreId → Bool)
    (before after : Subsystem) : Prop where
  since : Since session abortId (resetMmus stuck session abortId before) before after
  notRunning : ∀ core job, (after.maliCoreArray core).currentJob = some job → ¬ ToAbort session abortId job

def WalksOn (session : SessionId) (abortId : U32) (stuck : CoreId → Bool) (before : Subsystem) :
    Option CoreId → Subsystem → Prop
  | some core, sub => Walking session abortId stuck before core sub
  | none, sub => Walked session abortId stuck before sub

theorem Walking.still_ahead (walking : Walking session abortId stuck before core sub)
    (split : sub.renderunits (.working session) = front ++ core :: rest)
    (toAbort : ToAbort session abortId job)
    (running : (sub.maliCoreArray other).currentJob = some job) (different : other ≠ core) :
    other ∈ rest ∧ ∀ next, rest.head? = some next →
      ¬ [other, next].Sublist (sub.renderunits (.working session)) := by
  have member := (walking.since.booked.atWork running).2.1
  have nodup := walking.since.booked.units_nodup (.working session)
  have notBefore := walking.ahead other job toAbort running
  rw [toAbort.1] at member
  rw [split] at member nodup notBefore ⊢
  constructor
  · rcases List.mem_append.mp member with early | late
    · exact absurd (precedes_of_mem early) notBefore
    · exact (List.mem_cons.mp late).resolve_left different
  · intro next first order
    cases rest with
    | nil => contradiction
    | cons head tail =>
      cases Option.some.inj first
      rcases precedes_next nodup order with same | early
      · exact different same
      · exact notBefore early

theorem Walking.pass (walking : Walking session abortId stuck before core sub)
    (listed : core ∈ sub.renderunits (.working session))
    (spared : ∀ job, (sub.maliCoreArray core).currentJob = some job → ¬ ToAbort session abortId job) :
    WalksOn session abortId stuck before (nextUnit core (sub.renderunits (.working session))) sub := by
  obtain ⟨front, rest, split, apart⟩ := List.eq_append_cons_of_mem listed
  have next : nextUnit core (sub.renderunits (.working session)) = rest.head? := by
    rw [split, nextUnit_eq rest apart]
  have ahead (other : CoreId) (job : Job) (toAbort : ToAbort session abortId job)
      (running : (sub.maliCoreArray other).currentJob = some job) :=
    walking.still_ahead split toAbort running fun same => spared job (same ▸ running) toAbort
  rw [next]
  cases rest with
  | nil =>
    refine ⟨walking.since, fun other job running toAbort => ?_⟩
    exact List.not_mem_nil (ahead other job toAbort running).1
  | cons head tail =>
    exact ⟨walking.since, fun other job toAbort running => (ahead other job toAbort running).2 head rfl⟩

theorem Walking.detach (walking : Walking session abortId stuck before core sub)
    (listed : core ∈ sub.renderunits (.working session)) (toAbort : ToAbort session abortId job)
    (running : (sub.maliCoreArray core).currentJob = some job)
    (detach : Detach stuck core job sub after) (booked' : Booked (.between before.constants) after) :
    WalksOn session abortId stuck before (nextUnit core (sub.renderunits (.working session))) after := by
  have since := walking.since.detach toAbort running detach booked'
  obtain ⟨front, rest, split, apart⟩ := List.eq_append_cons_of_mem listed
  have next : nextUnit core (sub.renderunits (.working session)) = rest.head? := by
    rw [split, nextUnit_eq rest apart]
  have ahead (other : CoreId) (own : Job) (toAbort : ToAbort session abortId own)
      (runs : (after.maliCoreArray other).currentJob = some own) :
      other ∉ detachReach stuck core sub ∧ other ∈ rest ∧ ∀ next, rest.head? = some next →
        ¬ [other, next].Sublist (sub.renderunits (.working session)) := by
    have has : after.Has (.onCore other) own := runs
    rcases detach.origin walking.since.booked booked' running has (by simp) with
      waited | ⟨_, same, was, away⟩
    · exact absurd toAbort (walking.since.not_toAbort waited)
    · cases same
      exact ⟨away, walking.still_ahead split toAbort was fun same => away (.inl same)⟩
  rw [next]
  cases rest with
  | nil =>
    refine ⟨since, fun other job runs toAbort => ?_⟩
    exact List.not_mem_nil (ahead other job toAbort runs).2.1
  | cons head tail =>
    refine ⟨since, fun other job toAbort runs order => ?_⟩
    obtain ⟨away, _, notBefore⟩ := ahead other job toAbort runs
    exact notBefore head rfl ((detach.leaves.lists (.working session)).precedes away order)

def stepReach (stuck : CoreId → Bool) (session : SessionId) (abortId : U32) (core : CoreId)
    (sub : Subsystem) : Set CoreId :=
  { other | other = core ∨ other ∈ sub.renderunits .idle ∨
    stuck core = true ∧ sub.mmu other = sub.mmu core ∧
      ∃ job, (sub.maliCoreArray core).currentJob = some job ∧ ToAbort session abortId job }

theorem Walking.step (walking : Walking session abortId stuck before core sub)
    (listed : core ∈ sub.renderunits (.working session)) (outside : Outside) (steps : Nat) :
    ∃ next, WalksOn session abortId stuck before (nextUnit core (sub.renderunits (.working session)))
        next ∧
      Requeued (stepReach stuck session abortId core sub) (sub.renderunits (.working session))
        (next.renderunits (.working session)) ∧
      abortWorking outside stuck session abortId (steps + 1) core sub =
        (nextUnit core (sub.renderunits (.working session))).elim (some next)
          fun tmp => abortWorking outside stuck session abortId steps tmp next := by
  have booked := walking.since.booked
  have used : sub.useCurrentJob core = sub := booked.useCurrentJob core
  obtain ⟨_, job, running, own⟩ := booked.running_of_working listed
  rw [abortWorking, if_pos listed, used]
  by_cases same : job.abortId = abortId
  · have toAbort : ToAbort session abortId job := ⟨own, same⟩
    have detach := booked.detach running outside stuck
    obtain ⟨registered, _, _, busy, _⟩ := booked.atWork running
    have booked' := booked.detachJobFromCore (outer_between _) registered busy outside stuck true .abort
    refine ⟨_, walking.detach listed toAbort running detach booked', ?_, ?_⟩
    · refine (detach.leaves.lists (.working session)).mono ?_
      rintro other (isCore | idles | ⟨forces, sameMmu⟩)
      · exact .inl isCore
      · exact .inr (.inl idles)
      · exact .inr (.inr ⟨forces.1, sameMmu, job, running, toAbort⟩)
    · rw [if_pos (by simp [running, same]), if_neg busy]
      cases nextUnit core (sub.renderunits (.working session)) <;> rfl
  · have spared (other : Job) (runs : (sub.maliCoreArray core).currentJob = some other) :
        ¬ ToAbort session abortId other := by
      intro toAbort
      rw [running, some.injEq] at runs
      exact same (runs ▸ toAbort.2)
    refine ⟨sub, walking.pass listed spared, .refl _ _, ?_⟩
    rw [if_neg (by simp [running, same])]
    cases nextUnit core (sub.renderunits (.working session)) <;> rfl

theorem Walking.walked (outside : Outside) (steps : Nat) : ∀ core sub, Walking session abortId stuck before core sub →
      abortWorking outside stuck session abortId steps core sub = some after →
      Walked session abortId stuck before after := by
  induction steps with
  | zero =>
    intro core sub _ performed
    rw [abortWorking] at performed
    contradiction
  | succ steps induction =>
    intro core sub walking performed
    by_cases listed : core ∈ sub.renderunits (.working session)
    · obtain ⟨next, walksOn, _, stepped⟩ := walking.step listed outside steps
      rw [stepped] at performed
      cases tmp : nextUnit core (sub.renderunits (.working session)) with
      | none =>
        rw [tmp] at walksOn performed
        exact Option.some.inj performed ▸ walksOn
      | some tmp' =>
        rw [tmp] at walksOn performed
        exact induction tmp' next walksOn performed
    · rw [abortWorking, if_neg listed] at performed
      contradiction

/-- No core that has a job to abort and whose bus is stuck has its MMU in common with a core
that comes after it on the list of the session. -/
def NextStays (stuck : CoreId → Bool) (session : SessionId) (abortId : U32) (sub : Subsystem) : Prop :=
  ∀ core job, (sub.maliCoreArray core).currentJob = some job → ToAbort session abortId job → stuck core = true →
    ∀ other, [core, other].Sublist (sub.renderunits (.working session)) → sub.mmu other ≠ sub.mmu core

theorem Walking.returns (stays : NextStays stuck session abortId before) (outside : Outside)
    (steps : Nat) : ∀ core sub front rest, Walking session abortId stuck before core sub →
      sub.renderunits (.working session) = front ++ core :: rest →
      (core :: rest).Sublist (before.renderunits (.working session)) → rest.length < steps →
      ∃ after, abortWorking outside stuck session abortId steps core sub = some after := by
  induction steps with
  | zero => exact fun _ _ _ _ _ _ _ short => absurd short (Nat.not_lt_zero _)
  | succ steps induction =>
    intro core sub front rest walking split order short
    have listed : core ∈ sub.renderunits (.working session) := by simp [split]
    have nodup := walking.since.booked.units_nodup (.working session)
    obtain ⟨next, walksOn, requeued, stepped⟩ := walking.step listed outside steps
    rw [split] at nodup requeued
    have apart : core ∉ front := fun member =>
      (List.nodup_append.mp nodup).2.2 core member core List.mem_cons_self rfl
    rw [stepped]
    rw [split, nextUnit_eq rest apart] at walksOn ⊢
    cases rest with
    | nil => exact ⟨next, rfl⟩
    | cons tmp tail =>
      have onList : tmp ∈ sub.renderunits (.working session) := by simp [split]
      have away : tmp ∉ stepReach stuck session abortId core sub := by
        rintro (same | idles | ⟨isStuck, sameMmu, job, running, toAbort⟩)
        · have fresh := (List.nodup_cons.mp (List.nodup_append.mp nodup).2.1).1
          exact fresh (same ▸ List.mem_cons_self)
        · exact (walking.since.booked.running_of_working onList).1 idles
        · have atFirst := walking.since.still core job toAbort running
          have pair : [core, tmp].Sublist (core :: tmp :: tail) := by simp
          rw [walking.since.mmu] at sameMmu
          exact stays core job atFirst toAbort isStuck tmp (pair.trans order) sameMmu
      have split' : front ++ core :: tmp :: tail = (front ++ [core]) ++ tmp :: tail := by simp
      rw [split'] at requeued nodup
      obtain ⟨front', rest', splits, later⟩ := requeued.suffix nodup away
      have order' : (tmp :: rest').Sublist (before.renderunits (.working session)) :=
        (later.cons_cons tmp).trans ((List.sublist_cons_self core _).trans order)
      have shorter := later.length_le
      rw [List.length_cons] at short
      exact induction tmp next front' rest' walksOn splits order' (by omega)

theorem Booked.since_abortWaiting (booked : Booked (.between before.constants) before)
    (session : SessionId) (abortId : U32) (resets : Set MmuId) :
    Since session abortId resets before (Render.abortWaiting session abortId before) ∧
      (Render.abortWaiting session abortId before).renderunits = before.renderunits := by
  have booked' := booked.abortWaiting session abortId
  have kept (other : ∀ job, before.jobWaitingToRun session = some job → job.abortId ≠ abortId) :
      Since session abortId resets before before :=
    ⟨booked, rfl, other, fun _ _ _ runs => runs, fun _ _ _ runs => .inl runs, fun _ _ waits => .inl waits⟩
  rw [Render.abortWaiting, booked.useWaitingJob session] at booked' ⊢
  cases waits : before.jobWaitingToRun session with
  | none => exact ⟨kept (by simp [waits]), rfl⟩
  | some job =>
    rw [waits] at booked'
    dsimp only at booked' ⊢
    by_cases same : job.abortId = abortId
    · rw [if_pos same] at booked' ⊢
      obtain ⟨misused, used⟩ := (releaseSessionGetJob session before).2.useJob_with job
      rw [Subsystem.returnJobToUser, used] at booked' ⊢
      refine ⟨⟨booked', rfl, ?_, fun _ _ _ runs => runs, fun _ _ _ runs => .inl runs, ?_⟩, rfl⟩
      · simp [releaseSessionGetJob]
      · intro own spared waits'
        have different : own.session ≠ session := by
          intro own_
          rw [own_, waits, some.injEq] at waits'
          exact spared ⟨own_, waits' ▸ same⟩
        exact .inl (by simpa [releaseSessionGetJob, different] using waits')
    · rw [if_neg same]
      refine ⟨kept fun other waits' => ?_, rfl⟩
      rw [waits, some.injEq] at waits'
      exact waits' ▸ same

theorem Since.walking (since : Since session abortId (resetMmus stuck session abortId before) before sub)
    (list : sub.renderunits (.working session) = core :: rest) :
    Walking session abortId stuck before core sub := by
  refine ⟨since, fun other job toAbort running order => ?_⟩
  have nodup := since.booked.units_nodup (.working session)
  rw [list] at nodup order
  have fresh := (List.nodup_cons.mp nodup).1
  cases order with
  | cons _ skipped => exact fresh (skipped.subset (by simp))
  | cons_cons _ twice => exact fresh (twice.subset (by simp))

theorem Walked.aborted (walked : Walked session abortId stuck before after)
    (booked : Booked (.between before.constants) before) :
    Aborted session abortId (resetMmus stuck session abortId before) before after where
  notWaiting := walked.since.notWaiting
  notRunning := walked.notRunning
  running := walked.since.running
  waiting := walked.since.waiting
  returned job toAbort pending := by
    have booked' := walked.since.booked
    obtain ⟨place, has, elsewhere⟩ : ∃ place, before.Has place job ∧ place ≠ .replaced := by
      rcases pending with waits | ⟨core, runs⟩
      · exact ⟨.waiting, waits, by simp⟩
      · exact ⟨.onCore core, runs, by simp⟩
    have notReplaced : job ∉ before.replaced := fun replaced =>
      elsewhere (booked.unique (show before.Has .replaced job from replaced) has)
    have nodup : (after.returned.map Prod.fst).Nodup := by
      obtain ⟨_, _, books⟩ := booked'
      exact books.jobs.returned_nodup
    rcases booked.later booked' has notReplaced with waits | ⟨core, runs⟩ | returned
    · exact absurd toAbort (walked.since.not_toAbort waits)
    · exact absurd toAbort (walked.notRunning core job runs)
    · exact List.count_eq_one_of_mem nodup returned

/-- In every state of a run that closes no session with more than one core at work, an
abort that ends has returned the jobs it is for, each once, and has left the others waiting
or at work, but for those on an MMU that it had to reset. It ends if no reset can
take the next core off the list of the session. -/
theorem find_and_abort_selective (reached : (subsystemRuns.restrict ClosesFew).Reachable sub)
    (outside : Outside) (stuck : CoreId → Bool) (session : SessionId) (abortId : U32) :
    (∀ steps after, findAndAbort outside stuck session abortId steps sub = some after →
      Aborted session abortId (resetMmus stuck session abortId sub) sub after) ∧
    (NextStays stuck session abortId sub →
      ∃ steps after, findAndAbort outside stuck session abortId steps sub = some after) := by
  have booked : Booked (.between sub.constants) sub := (sound_of_reachable reached).inOrder
  obtain ⟨since, sameUnits⟩ := booked.since_abortWaiting session abortId
    (resetMmus stuck session abortId sub)
  cases list : (abortWaiting session abortId sub).renderunits (.working session) with
  | nil =>
    have ends (steps : Nat) : findAndAbort outside stuck session abortId steps sub =
        some (abortWaiting session abortId sub) := by rw [findAndAbort, list]
    refine ⟨fun steps after performed => ?_, fun _ => ⟨0, _, ends 0⟩⟩
    rw [ends, some.injEq] at performed
    have notRunning (core : CoreId) (job : Job)
        (running : ((abortWaiting session abortId sub).maliCoreArray core).currentJob = some job) :
        ¬ ToAbort session abortId job := by
      intro toAbort
      have member := (since.booked.atWork running).2.1
      rw [toAbort.1, list] at member
      contradiction
    exact performed ▸ Walked.aborted ⟨since, notRunning⟩ booked
  | cons core rest =>
    have begins (steps : Nat) : findAndAbort outside stuck session abortId steps sub =
        abortWorking outside stuck session abortId steps core (abortWaiting session abortId sub) := by
      rw [findAndAbort, list]
    have walking := since.walking list
    constructor
    · intro steps after performed
      rw [begins] at performed
      exact (walking.walked outside steps core _ performed).aborted booked
    · intro stays
      have order : (core :: rest).Sublist (sub.renderunits (.working session)) := by
        rw [← sameUnits, list]
      obtain ⟨after, performed⟩ := walking.returns stays outside (rest.length + 1) core _ [] rest
        list order (Nat.lt_succ_self _)
      exact ⟨rest.length + 1, after, (begins _).trans performed⟩

theorem find_and_abort_selective_jobWaits :
    ∃ steps after, findAndAbort fineOutside (fun _ => false) 7 1#32 steps jobWaits = some after ∧
      Aborted 7 1#32 (resetMmus (fun _ => false) 7 1#32 jobWaits) jobWaits after := by
  have reached : (subsystemRuns.restrict ClosesFew).Reachable jobWaits :=
    reachable_performAll ClosesFew _ _ (.initial rfl) (Option.some_get _).symm
  obtain ⟨aborts, ends⟩ := find_and_abort_selective reached fineOutside (fun _ => false) 7 1#32
  obtain ⟨steps, after, performed⟩ := ends fun _ _ _ _ isStuck => nomatch isStuck
  exact ⟨steps, after, performed, aborts steps after performed⟩

theorem abortWorking_more (outside : Outside) (stuck : CoreId → Bool) (session : SessionId)
    (abortId : U32) (more steps : Nat) :
    ∀ core sub, abortWorking outside stuck session abortId steps core sub = some after →
      abortWorking outside stuck session abortId (steps + more) core sub = some after := by
  induction steps with
  | zero =>
    intro core sub performed
    rw [abortWorking] at performed
    contradiction
  | succ steps induction =>
    intro core sub performed
    have next (tmp : Option CoreId) (sub : Subsystem) :
        (tmp.elim (some sub) fun tmp =>
          abortWorking outside stuck session abortId steps tmp sub) = some after →
        (tmp.elim (some sub) fun tmp =>
          abortWorking outside stuck session abortId (steps + more) tmp sub) = some after := by
      intro performed
      cases tmp with
      | none => exact performed
      | some tmp => exact induction tmp sub performed
    rw [Nat.add_right_comm, abortWorking]
    rw [abortWorking] at performed
    split at performed
    next listed =>
      rw [if_pos listed]
      dsimp only at performed ⊢
      split at performed
      next aborts =>
        rw [if_pos aborts]
        split at performed
        next idle =>
          rw [if_pos idle]
          exact performed
        next busy =>
          rw [if_neg busy]
          exact abortWorking_next_iff.mpr (next _ _ (abortWorking_next_iff.mp performed))
      next spared =>
        rw [if_neg spared]
        exact abortWorking_next_iff.mpr (next _ _ (abortWorking_next_iff.mp performed))
    next => contradiction

theorem findAndAbort_unique {steps steps' : Nat} {after' : Subsystem}
    (first : findAndAbort outside stuck session abortId steps sub = some after)
    (second : findAndAbort outside stuck session abortId steps' sub = some after') : after' = after := by
  have more (steps steps' : Nat) (after : Subsystem)
      (performed : findAndAbort outside stuck session abortId steps sub = some after) :
      findAndAbort outside stuck session abortId (steps + steps') sub = some after := by
    rw [findAndAbort] at performed ⊢
    split at performed
    next core _ _ => exact abortWorking_more outside stuck session abortId steps' steps core _ performed
    next => exact performed
  have one := more steps steps' after first
  have other := more steps' steps after' second
  rw [Nat.add_comm, one, some.injEq] at other
  exact other.symm

def oneMmu : Subsystem :=
  (performAll ClosesFew [Action.fine (.registerRenderunit 0), Action.fine (.registerRenderunit 0),
      Action.fine (.sessionBegin 7), Action.fine (.startJob 7 0#32 1#32 true false),
      Action.fine (.startJob 7 0#32 2#32 true false)]
    initialSubsystem).get (by decide +kernel)

def oneMmuAborted : Subsystem :=
  (findAndAbort fineOutside (fun _ => true) 7 1#32 2 oneMmu).get (by decide +kernel)

/-- The abort of one job has the MMU reset, which takes another job as well. -/
theorem abort_takes_other_job : ∃ sub session abortId outside stuck, subsystemRuns.Reachable sub ∧
      ¬ ∃ steps after, findAndAbort outside stuck session abortId steps sub = some after ∧
        Aborted session abortId ∅ sub after := by
  have reached : (subsystemRuns.restrict ClosesFew).Reachable oneMmu :=
    reachable_performAll ClosesFew _ _ (.initial rfl) (Option.some_get _).symm
  refine ⟨oneMmu, 7, 1#32, fineOutside, fun _ => true, reached.of_restrict, ?_⟩
  rintro ⟨steps, after, performed, aborted⟩
  have known : findAndAbort fineOutside (fun _ => true) 7 1#32 2 oneMmu = some oneMmuAborted :=
    (Option.some_get _).symm
  have same := findAndAbort_unique known performed
  subst same
  have running : (oneMmu.maliCoreArray 0).currentJob = some ⟨1, 7, 0, 2#32⟩ := by decide +kernel
  have spared : ¬ ToAbort 7 1#32 ⟨1, 7, 0, 2#32⟩ := by simp [ToAbort]
  rcases aborted.running 0 _ spared running with runs | ⟨_, resets⟩
  · have idles : (oneMmuAborted.maliCoreArray 0).currentJob = none := by decide +kernel
    rw [idles] at runs
    contradiction
  · exact resets

end Floid.Render
