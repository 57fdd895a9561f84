import Floid.Render.Handlers

/-! Cores are registered, and sessions begun, used and closed, with the books kept. -/

namespace Floid.Render

open Osk Lib
open Function (update update_eq_self update_of_ne update_self)

variable {frame : Frame} {sub : Subsystem} {core : CoreId} {constants : Constants}
  {session : SessionId} {job : Job}

theorem registerRenderunit_job (mmu : MmuId) (sub : Subsystem)
    (unused : (sub.maliCoreArray sub.numberOfCores).currentJob = none) (core : CoreId) :
    ((registerRenderunit mmu sub).maliCoreArray core).currentJob = (sub.maliCoreArray core).currentJob := by
  by_cases same : core = sub.numberOfCores
  · simp [registerRenderunit, same, unused]
  · simp [registerRenderunit, same]

theorem Booked.registerRenderunit (booked : Booked (.between constants) sub) (mmu : MmuId) :
    Booked (.between { constants with numberOfCores := constants.numberOfCores + 1 })
      (registerRenderunit mmu sub) := by
  obtain ⟨unitAt, jobAt, books⟩ := booked
  have units := books.units
  have free : unitAt sub.numberOfCores = none := by
    by_contra known
    exact absurd ((units.registered sub.numberOfCores).mpr known) (Nat.lt_irrefl _)
  refine ⟨update unitAt sub.numberOfCores (some .idle), jobAt, ?_, books.sessions, ?_, ?_⟩
  · constructor
    · exact units.placed.putFirst free .idle
    · intro core
      rw [Render.registerRenderunit, Nat.lt_succ_iff_lt_or_eq]
      by_cases same : core = sub.numberOfCores
      · simp [same]
      · simp [same, units.registered]
    · intro core off
      have other : core ≠ sub.numberOfCores := by
        rintro rfl
        simp at off
      simp only [Render.registerRenderunit, update_of_ne other] at off ⊢
      exact units.unregistered core off
    · intro core
      by_cases same : core = sub.numberOfCores
      · simp only [Render.registerRenderunit, same, update_self]
        exact .of_unknown rfl rfl rfl
      · simp only [Render.registerRenderunit, update_of_ne same]
        exact units.marked core
    · intro core list on
      by_cases same : core = sub.numberOfCores
      · simp only [same, update_self, Option.some.injEq] at on
        simp only [Render.registerRenderunit, same, update_self, ← on]
        exact .rests rfl (.inl ⟨rfl, rfl⟩) rfl rfl rfl rfl
      · simp only [Render.registerRenderunit, update_of_ne same] at on ⊢
        exact units.booked core list on
  · exact books.jobs.congrUnits
      (registerRenderunit_job mmu sub (units.unregistered sub.numberOfCores free).2.1)
  · exact congrArg (fun constants : Constants =>
      { constants with numberOfCores := constants.numberOfCores + 1 }) books.constants

variable {unitAt : CoreId → Option CoreList}

theorem UnitsBooked.reopen {mark : CoreId → Mark} {closing closing' : Set SessionId}
    {numberOfCores : Nat} {maliCoreArray : CoreId → RenderUnit}
    {renderunits : Shelves CoreList CoreId} {allSessions allSessions' : List SessionId}
    (units : UnitsBooked mark closing unitAt numberOfCores maliCoreArray renderunits allSessions)
    (isOpen : ∀ core session, unitAt core = some (.working session) →
      session ∈ allSessions' ∧ (session ∈ closing' → (mark core).held = true)) :
    UnitsBooked mark closing' unitAt numberOfCores maliCoreArray renderunits allSessions' :=
  { units with
    booked := fun core list on =>
      { units.booked core list on with isOpen := fun session works => isOpen core session (works ▸ on) } }

theorem Books.no_units {jobAt : Job → Option JobPlace}
    (books : Books frame unitAt jobAt sub) (closed : session ∉ sub.allSessions) :
    sub.renderunits (.working session) = [] := by
  apply List.eq_nil_iff_forall_not_mem.mpr
  intro core member
  have on := (books.units.placed.mem_iff core (.working session)).mp member
  exact closed ((books.units.booked core _ on).isOpen session rfl).1

theorem Booked.sessionBegin (booked : Booked (.between constants) sub) (fresh : session ∉ sub.allSessions) :
    Booked (.between { constants with allSessions := session :: constants.allSessions })
      (sessionBegin session sub) := by
  obtain ⟨unitAt, jobAt, books⟩ := booked
  have sessions := books.sessions
  have noJob : sub.jobWaitingToRun session = none := by
    by_contra waits
    exact fresh (sessions.isOpen session waits)
  have sameUnits : update sub.renderunits (.working session) [] = sub.renderunits := by
    rw [← books.no_units fresh, update_eq_self]
  have sameJobs : update sub.jobWaitingToRun session none = sub.jobWaitingToRun := by
    rw [← noJob, update_eq_self]
  rw [Render.sessionBegin, sameUnits, sameJobs]
  refine ⟨unitAt, jobAt, books.units.reopen ?_, ?_, books.jobs, ?_⟩
  · intro core other on
    have isOpen := (books.units.booked core _ on).isOpen other rfl
    exact ⟨List.mem_cons_of_mem _ isOpen.1, isOpen.2⟩
  · exact { sessions with
      isOpen := fun other waits => List.mem_cons_of_mem _ (sessions.isOpen other waits)
      nodup := List.nodup_cons.mpr ⟨fresh, sessions.nodup⟩ }
  · exact congrArg (fun constants : Constants =>
      { constants with allSessions := session :: constants.allSessions }) books.constants

def Frame.close (session : SessionId) (frame : Frame) : Frame :=
  { frame with closing := insert session frame.closing }

theorem Booked.closes (booked : Booked frame sub) (noJob : sub.jobWaitingToRun session = none)
    (held : ∀ core ∈ sub.renderunits (.working session), (frame.mark core).held = true) :
    Booked (frame.close session) sub := by
  obtain ⟨unitAt, jobAt, books⟩ := booked
  refine ⟨unitAt, jobAt, books.units.reopen ?_, ?_, books.jobs, books.constants⟩
  · intro core other on
    have isOpen := (books.units.booked core _ on).isOpen other rfl
    refine ⟨isOpen.1, fun closing => ?_⟩
    rcases closing with rfl | already
    · exact held core ((books.units.placed.mem_iff core (.working other)).mpr on)
    · exact isOpen.2 already
  · refine { books.sessions with closing := fun other closing => ?_ }
    rcases closing with rfl | already
    · exact noJob
    · exact books.sessions.closing other already

theorem Booked.closed (booked : Booked ((Frame.between constants).close session) sub) :
    Booked (.between { constants with allSessions := constants.allSessions.erase session })
      { sub with
        renderunits := update sub.renderunits (.working session) []
        allSessions := sub.allSessions.erase session } := by
  obtain ⟨unitAt, jobAt, books⟩ := booked
  have sessions := books.sessions
  have other_of_unit (core : CoreId) (other : SessionId) (on : unitAt core = some (.working other)) :
      other ≠ session := by
    rintro rfl
    have held := ((books.units.booked core _ on).isOpen other rfl).2 (Set.mem_insert other _)
    contradiction
  have noUnits : sub.renderunits (.working session) = [] := by
    apply List.eq_nil_iff_forall_not_mem.mpr
    intro core member
    exact other_of_unit core session ((books.units.placed.mem_iff core _).mp member) rfl
  have sameUnits : update sub.renderunits (.working session) [] = sub.renderunits := by
    rw [← noUnits, update_eq_self]
  rw [sameUnits]
  refine ⟨unitAt, jobAt, books.units.reopen ?_, ?_, books.jobs, ?_⟩
  · intro core other on
    have isOpen := (books.units.booked core _ on).isOpen other rfl
    exact ⟨(List.mem_erase_of_ne (other_of_unit core other on)).mpr isOpen.1, fun closing =>
      absurd closing (Set.notMem_empty other)⟩
  · refine { sessions with isOpen := ?_, closing := ?_, nodup := sessions.nodup.erase session }
    · intro other waits
      have different : other ≠ session := by
        rintro rfl
        exact waits (sessions.closing other (Set.mem_insert other _))
      exact (List.mem_erase_of_ne different).mpr (sessions.isOpen other waits)
    · intro other closing
      exact absurd closing (Set.notMem_empty other)
  · exact congrArg (fun constants : Constants =>
      { constants with allSessions := constants.allSessions.erase session }) books.constants

theorem releaseSession_returnJob (session : SessionId) (job : Job) (endStatus : JobEndCode) (sub : Subsystem) :
    (releaseSessionGetJob session (sub.returnJobToUser job endStatus)).2 =
      (releaseSessionGetJob session sub).2.returnJobToUser job endStatus := by
  rw [Subsystem.returnJobToUser, Subsystem.returnJobToUser, Subsystem.useJob, Subsystem.useJob]
  by_cases freed : job ∈ sub.freed
  · have released : job ∈ (releaseSessionGetJob session sub).2.freed := freed
    rw [if_pos freed, if_pos released]
    rfl
  · have released : job ∉ (releaseSessionGetJob session sub).2.freed := freed
    rw [if_neg freed, if_neg released]
    rfl

theorem Booked.returnWaiting (booked : Booked frame sub)
    (waits : sub.jobWaitingToRun session = some job) (endStatus : JobEndCode) :
    Booked frame ((releaseSessionGetJob session sub).2.returnJobToUser job endStatus) := by
  have notYet := (booked.waiting waits).2.2.2
  have returned := (booked.releaseSession waits).returnJobToUser (Set.mem_insert job _) endStatus
  rwa [Set.insert_sdiff_self_of_notMem notYet] at returned

theorem releaseSession_waiting (session : SessionId) (sub : Subsystem) :
    (releaseSessionGetJob session sub).2.jobWaitingToRun session = none := by
  simp [releaseSessionGetJob]

theorem Booked.detachLast (booked : Booked (.between constants) sub)
    (noJob : sub.jobWaitingToRun session = none) (last : sub.renderunits (.working session) = [core])
    (outside : Outside) (stuck : CoreId → Bool) (endStatus : JobEndCode) :
    Booked ((Frame.between constants).close session)
      (Render.detachJobFromCore outside stuck core true endStatus sub) := by
  have marked := booked.marked core
  have running := booked.running core
  obtain ⟨registered, busy⟩ : core < sub.numberOfCores ∧ (sub.maliCoreArray core).state ≠ .idle := by
    obtain ⟨unitAt, jobAt, books⟩ := booked
    have on := (books.units.placed.mem_iff core (.working session)).mp (by simp [last])
    exact ⟨(books.units.registered core).mpr (by simp [on]), by
      simp [(books.units.booked core _ on).idle_iff]⟩
  have taken := booked.takeJobFromCore registered busy
  have same : (Render.takeJobFromCore core sub).jobWaitingToRun session = none ∧
      (Render.takeJobFromCore core sub).renderunits (.working session) = [core] := by
    obtain ⟨_, _, books⟩ := booked
    rw [Render.takeJobFromCore, books.useCurrentJob core]
    exact ⟨noJob, last⟩
  have closing := taken.closes same.1 (by
    rw [same.2]
    intro other only
    rw [List.mem_singleton.mp only]
    simp [Mark.detached])
  have outer : Outer ((Frame.between constants).close session) := outer_between constants
  have reset (reset : Subsystem → Subsystem) (keeps : KeepsOuter reset) :=
    (keeps _ _ (outer.detach core _) closing).finishDetach rfl running outside true endStatus
  rw [Render.detachJobFromCore, Render.detachWithReset, marked.detaching, if_neg (by simp [Mark.plain])]
  apply reset
  split
  next => exact fun _ _ _ booked => booked
  next => exact keeps_resetCore outside stuck core

theorem Booked.sessionClose (booked : Booked (.between constants) sub)
    (few : (sub.renderunits (.working session)).length ≤ 1) (outside : Outside)
    (stuck : CoreId → Bool) :
    Booked (.between { constants with allSessions := constants.allSessions.erase session })
      (sessionClose outside stuck session sub) := by
  have rest (sub : Subsystem) (booked : Booked (.between constants) sub)
      (noJob : sub.jobWaitingToRun session = none)
      (few : (sub.renderunits (.working session)).length ≤ 1) :
      Booked ((Frame.between constants).close session)
        ((sub.renderunits (.working session)).head?.elim sub fun core =>
          Render.detachJobFromCore outside stuck core true .shutdown sub) := by
    cases listed : sub.renderunits (.working session) with
    | nil =>
      apply booked.closes noJob
      simp [listed]
    | cons core others =>
      rw [listed, List.length_cons] at few
      have last := List.eq_nil_of_length_eq_zero (show others.length = 0 by omega)
      rw [last] at listed
      exact booked.detachLast noJob listed outside stuck .shutdown
  rw [sessionClose_eq]
  cases waits : sub.jobWaitingToRun session with
  | none => exact (rest sub booked waits few).closed
  | some job =>
    dsimp only [Option.elim_some]
    rw [releaseSession_returnJob]
    exact (rest _ (booked.returnWaiting waits .shutdown) (by
      rw [← releaseSession_returnJob]; exact releaseSession_waiting session _) (by
      rw [Subsystem.returnJobToUser, Subsystem.useJob]; split <;> exact few)).closed

end Floid.Render
