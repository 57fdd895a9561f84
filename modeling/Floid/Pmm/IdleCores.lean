import Floid.Lib.Mask
import Floid.Pmm.BottomHalf

namespace Floid.Pmm

open Osk Lib

/-- The cores whose last job event says that a job was scheduled, since they were
registered. The latest record comes first. -/
def unmatched : List CoreRecord → CoreMask
  | [] => 0#32
  | .processed .jobScheduled cores :: earlier => unmatched earlier ||| cores
  | .processed .jobFinished cores :: earlier => unmatched earlier &&& ~~~cores
  | .processed _ _ :: earlier => unmatched earlier
  | .registered cores :: earlier => unmatched earlier &&& ~~~cores

def PmmState.busy (pmm : PmmState) : CoreMask := unmatched pmm.history

def IdleMatchesJobs (pmm : PmmState) : Prop := pmm.coresIdle = pmm.coresPowered &&& ~~~pmm.busy

def NoJobs (pmm : PmmState) : Prop := pmm.coresRegistered &&& pmm.busy = 0

def InternalQueue (pmm : PmmState) : Prop := ∀ event ∈ pmm.iqueue, event.id.isInternal = true

def Heard (event : Message) (pmm : PmmState) : Prop :=
  let cores := coresFromEventData pmm event
  match pmm.status, event.id with
  | .idle, .jobFinished => Subset cores pmm.coresPowered
  | .dvfsPause, .jobScheduled | .osWaiting, .jobScheduled => cores &&& pmm.coresIdle = 0
  | .dvfsPause, .jobFinished | .osWaiting, .jobFinished =>
      Subset (cores &&& pmm.coresPowered) pmm.coresIdle
  | .osPowerUp, .internalPowerUpAck | .policyPowerUp, .internalPowerUpAck =>
      powerUpOkay (coresSetUpAck cores pmm) = true → pmm.coresPendUp &&& pmm.busy = 0
  | _, _ => True

def heardEvents : Worker.Condition PmmState Signal Errcode Control Platform Event where
  event _ _ := True
  step control platform pmm :=
    match control with
    | .waiting => pmm.status = .off ∨ pmm.missed = 0 ∨ NoJobs pmm
    | .processing (_ + 1) => ∀ event, nextMessage pmm = some event →
        Heard event pmm ∧ (platform.powerOk = true ∨ NoJobs (recordEvent event pmm))
    | _ => True
  answer _ _ _ := True

structure IdleRely (before after : PmmState) : Prop where
  matched : IdleMatchesJobs after
  noJobs : NoJobs before → NoJobs after
  rising : before.coresPendUp &&& before.busy = 0 → after.coresPendUp &&& after.busy = 0
  fatal : after.fatalPowerErr = before.fatalPowerErr
  status : after.status = before.status
  noAck : before.coresAckUp = 0 → after.coresAckUp = 0
  internal : InternalQueue before → InternalQueue after

structure Kept (platform : Platform) (pmm : PmmState) : Prop where
  matched : IdleMatchesJobs pmm
  unbroken : platform.powerOk = true → pmm.fatalPowerErr = false
  noJobs : platform.powerOk = true ∨ NoJobs pmm
  internal : InternalQueue pmm

variable {after before : PmmState} {list : List CoreMask}

theorem Kept.congr {platform : Platform} (kept : Kept platform before)
    (idle : after.coresIdle = before.coresIdle) (powered : after.coresPowered = before.coresPowered)
    (registered : after.coresRegistered = before.coresRegistered)
    (history : after.history = before.history)
    (fatal : after.fatalPowerErr = before.fatalPowerErr) (iqueue : after.iqueue = before.iqueue) :
    Kept platform after := by
  have busy : after.busy = before.busy := congrArg unmatched history
  constructor
  · rw [IdleMatchesJobs, idle, powered, busy]
    exact kept.matched
  · rw [fatal]
    exact kept.unbroken
  · rw [NoJobs, registered, busy]
    exact kept.noJobs
  · rw [InternalQueue, iqueue]
    exact kept.internal

theorem Kept.relied {platform : Platform} (kept : Kept platform before)
    (rely : IdleRely before after) : Kept platform after where
  matched := rely.matched
  unbroken working := rely.fatal.trans (kept.unbroken working)
  noJobs := kept.noJobs.imp id rely.noJobs
  internal := rely.internal kept.internal

theorem eventMessage_internal {id : EventId} {data : U32} {created : Bool} {pmm : PmmState}
    (internal : InternalQueue pmm) : InternalQueue (eventMessage id data created pmm) := by
  simp only [eventMessage, scheduleWork]
  split
  · split
    · rename_i isInternal
      intro event member
      rcases List.mem_append.mp member with old | new
      · exact internal event old
      · rw [List.mem_singleton.mp new]
        exact isInternal
    · exact internal
  · exact internal

abbrev KeepsIdle {Result : Type} (segment : Run Result) (post : Result → PmmState → Prop) : Prop :=
  segment.Ensures IdleMatchesJobs
    (fun call answer before after => IdleRely before after ∧ heardEvents.answer call answer after)
    post

variable {platform : Platform} {pmm : PmmState} {cores : CoreMask}

def Calm (platform : Platform) (pmm : PmmState) : Prop :=
  Kept platform pmm ∧ pmm.coresAckUp = 0

theorem Calm.relied (calm : Calm platform before) (rely : IdleRely before after) : Calm platform after :=
  ⟨calm.1.relied rely, rely.noAck calm.2⟩

theorem signalPendingUp_keepsIdle (kept : Kept platform pmm) (free : pmm.coresPendUp &&& pmm.busy = 0) :
    KeepsIdle (signalPendingUp list pmm) fun _ after =>
      Kept platform after ∧ after.coresPendUp &&& after.busy = 0 := by
  apply Signalled.pendingUp ⟨fun _ held => held.1.matched, ?_⟩ ⟨kept, free⟩
  exact fun _ _ _ _ held rely => ⟨held.1.relied rely.1, rely.1.rising held.2⟩

theorem invokePowerDown_kept (kept : Kept platform pmm) : Kept platform (invokePowerDown platform pmm).2 := by
  rw [invokePowerDown]
  split
  · split
    · refine { kept with matched := ?_ }
      have matched := kept.matched
      rw [IdleMatchesJobs] at matched ⊢
      change pmm.coresIdle &&& ~~~pmm.coresPendDown =
        pmm.coresPowered &&& ~~~pmm.coresPendDown &&& ~~~pmm.busy
      rw [matched, BitVec.and_assoc, BitVec.and_assoc, BitVec.and_comm (~~~pmm.busy)]
    · rename_i broken
      exact { kept with unbroken := fun working => absurd working broken }
  · exact kept

theorem invokePowerUp_keepsIdle (kept : Kept platform pmm)
    (free : powerUpOkay pmm = true → pmm.coresPendUp &&& pmm.busy = 0) :
    KeepsIdle (invokePowerUp platform pmm) fun finished after => Kept platform after ∧
      (finished = true ∨ pmm.coresAckUp = 0 → after.coresAckUp = 0) ∧
        (finished = false → after.status = pmm.status) := by
  rw [invokePowerUp]
  split
  · rename_i okay
    apply (signalPendingUp_keepsIdle kept (free okay)).bind
    rintro _ after ⟨kept, free⟩
    refine ⟨{ kept with matched := ?_ }, fun _ => rfl, by simp⟩
    have matched := kept.matched
    have up : after.coresPendUp &&& ~~~after.busy = after.coresPendUp :=
      (Subset.compl_iff.mpr free).and_eq
    rw [IdleMatchesJobs] at matched ⊢
    calc
      after.coresIdle ||| after.coresPendUp =
          (after.coresPowered &&& ~~~after.busy) ||| (after.coresPendUp &&& ~~~after.busy) := by
        rw [matched, up]
      _ = (after.coresPowered ||| after.coresPendUp) &&& ~~~after.busy :=
        BitVec.and_or_distrib_right.symm
  · split
    · obtain ⟨_, _, _, _, sent⟩ :=
        eventMessage_frame .internalPowerUpAck pmm.coresPendUp platform.created pmm
      have internal := @eventMessage_internal .internalPowerUpAck pmm.coresPendUp
        platform.created pmm kept.internal
      rw [sent] at internal ⊢
      exact ⟨{ kept with internal }, by simp, fun _ => rfl⟩
    · rename_i broken
      exact ⟨{ kept with unbroken := fun working => absurd working broken }, by simp, fun _ => rfl⟩

def NoAck (pmm : PmmState) : Prop :=
  pmm.status = .osPowerUp ∨ pmm.status = .policyPowerUp ∨ pmm.coresAckUp = 0

def Processed (platform : Platform) (pmm : PmmState) : Prop := Kept platform pmm ∧ NoAck pmm

theorem Calm.processed (calm : Calm platform pmm) : Processed platform pmm :=
  ⟨calm.1, .inr (.inr calm.2)⟩

theorem processed_keepsIdle (done : Processed platform pmm) :
    KeepsIdle (processed pmm) fun _ after => Processed platform after := by
  obtain ⟨latency, setup⟩ := jobControlTimeoutSetup_frame pmm
  rw [processed, setup]
  exact ⟨{ done.1 with }, done.2⟩

theorem coresToPowerUp_calm (calm : Calm platform pmm) : Calm platform (coresToPowerUp cores pmm).2 ∧
      ((coresToPowerUp cores pmm).1 ≠ 0 → powerUpOkay (coresToPowerUp cores pmm).2 = false) := by
  rw [coresToPowerUp]
  split
  · rename_i some
    refine ⟨⟨{ calm.1 with }, calm.2⟩, fun _ => ?_⟩
    rw [powerUpOkay, calm.2]
    exact decide_eq_false some
  · rename_i none
    exact ⟨calm, fun some => absurd some none⟩

theorem invokePowerDown_calm (calm : Calm platform pmm) : Calm platform (invokePowerDown platform pmm).2 := by
  refine ⟨invokePowerDown_kept calm.1, ?_⟩
  rw [invokePowerDown]
  split
  · split
    · exact calm.2
    · exact calm.2
  · exact calm.2

theorem Calm.carried : Carried platform IdleMatchesJobs (fun call answer before after =>
      IdleRely before after ∧ heardEvents.answer call answer after) (Calm platform) where
  holds _ calm := calm.1.matched
  relied _ _ _ _ calm rely := calm.relied rely.1
  same before after calm same := by
    simp only [PmmState.work, Prod.mk.injEq] at same
    obtain ⟨⟨registered, powered, idle, ackUp⟩, ⟨-, iqueue, -⟩, fatal, history⟩ := same
    exact ⟨calm.1.congr idle powered registered history fatal iqueue, ackUp.trans calm.2⟩
  down _ calm := invokePowerDown_calm calm
  up cores pmm calm some := by
    obtain ⟨calm, waiting⟩ := @coresToPowerUp_calm platform pmm cores calm
    have notOkay := waiting some
    apply (invokePowerUp_keepsIdle calm.1 (fun okay => absurd okay (by simp [notOkay]))).mono
    exact fun finished after done => ⟨done.1, done.2.1 (.inr calm.2)⟩

variable {event : Message}

theorem busy_recorded (event : Message) (pmm : PmmState) : (recordEvent event pmm).busy =
      unmatched (.processed event.id (coresFromEventData pmm event) :: pmm.history) := rfl

theorem matched_scheduled (matched : IdleMatchesJobs pmm) (scheduled : event.id = .jobScheduled) :
    pmm.coresIdle &&& ~~~coresFromEventData pmm event =
      pmm.coresPowered &&& ~~~(recordEvent event pmm).busy := by
  rw [IdleMatchesJobs, PmmState.busy] at matched
  rw [busy_recorded, scheduled, unmatched, BitVec.not_or, ← BitVec.and_assoc, ← matched]

theorem matched_finished (matched : IdleMatchesJobs pmm) (finished : event.id = .jobFinished) :
    pmm.coresIdle ||| (coresFromEventData pmm event &&& pmm.coresPowered) =
      pmm.coresPowered &&& ~~~(recordEvent event pmm).busy := by
  rw [IdleMatchesJobs, PmmState.busy] at matched
  rw [busy_recorded, finished, unmatched, BitVec.not_and, BitVec.not_not,
    BitVec.and_or_distrib_left, ← matched, BitVec.and_comm (coresFromEventData pmm event)]

theorem matched_dropped (matched : IdleMatchesJobs pmm) (heard : Heard event pmm)
    (accepted : event.id.isInternal = true ∨ pmm.status.acceptsEvents = true)
    (dropped : pmm.status ≠ .idle ∨ event.id ≠ .jobScheduled ∧ event.id ≠ .jobFinished) :
    IdleMatchesJobs (recordEvent event pmm) := by
  rw [Heard] at heard
  cases kind : event.id with
  | jobScheduled =>
    have apart : pmm.coresIdle &&& ~~~coresFromEventData pmm event = pmm.coresIdle := by
      apply Subset.and_eq
      rw [Subset.compl_iff, BitVec.and_comm]
      cases status : pmm.status <;> simp_all [EventId.isInternal, Status.acceptsEvents]
    exact apart.symm.trans (matched_scheduled matched kind)
  | jobFinished =>
    have inside : pmm.coresIdle ||| (coresFromEventData pmm event &&& pmm.coresPowered) = pmm.coresIdle := by
      apply Subset.or_eq
      cases status : pmm.status <;> simp_all [EventId.isInternal, Status.acceptsEvents]
    exact inside.symm.trans (matched_finished matched kind)
  | _ =>
    rw [IdleMatchesJobs, busy_recorded, kind]
    exact matched

theorem processPowerUp_keepsIdle (kept : Kept platform pmm)
    (rising : pmm.status = .osPowerUp ∨ pmm.status = .policyPowerUp)
    (free : event.id = .internalPowerUpAck → powerUpOkay (coresSetUpAck cores pmm) = true →
      pmm.coresPendUp &&& pmm.busy = 0) :
    KeepsIdle (processPowerUp platform event cores pmm) fun _ after => Processed platform after := by
  have still {after : PmmState} (status : after.status = pmm.status) : NoAck after := by
    rw [NoAck, status]
    exact rising.elim .inl fun same => .inr (.inl same)
  rw [processPowerUp]
  split
  · rename_i isAck
    have acked : Kept platform (coresSetUpAck cores pmm) := { kept with }
    apply (invokePowerUp_keepsIdle acked (free isAck)).bind
    intro finished after ⟨kept, noAck, sameStatus⟩
    split
    · rename_i isFinished
      have none := noAck (.inl isFinished)
      split
      · exact processed_keepsIdle ⟨{ kept with }, .inr (.inr none)⟩
      · exact processed_keepsIdle ⟨{ kept with }, .inr (.inr none)⟩
    · rename_i unfinished
      exact processed_keepsIdle ⟨kept, still (sameStatus (by simpa using unfinished))⟩
  · exact ⟨kept, still rfl⟩

structure Ready (pmm : PmmState) : Prop where
  matched : IdleMatchesJobs pmm
  unbroken : pmm.fatalPowerErr = false
  noAck : NoAck pmm
  internal : InternalQueue pmm

theorem processJobControl_keepsIdle (ready : Ready pmm) (heard : Heard event pmm)
    (accepted : event.id.isInternal = true ∨ pmm.status.acceptsEvents = true)
    (unbroken : platform.powerOk = true ∨ NoJobs (recordEvent event pmm)) :
    KeepsIdle (processJobControl platform event (recordEvent event pmm)) fun _ after =>
      Processed platform after := by
  have kept {after : PmmState} (matched : IdleMatchesJobs after)
      (registered : after.coresRegistered = pmm.coresRegistered)
      (history : after.history = (recordEvent event pmm).history)
      (fatal : after.fatalPowerErr = pmm.fatalPowerErr)
      (iqueue : after.iqueue = pmm.iqueue) : Kept platform after := by
    constructor
    · exact matched
    · exact fun _ => fatal.trans ready.unbroken
    · rw [NoJobs, registered, PmmState.busy, history]
      exact unbroken
    · rw [InternalQueue, iqueue]
      exact ready.internal
  have recorded (dropped : pmm.status ≠ .idle ∨ event.id ≠ .jobScheduled ∧ event.id ≠ .jobFinished) :
      Kept platform (recordEvent event pmm) :=
    kept (matched_dropped ready.matched heard accepted dropped) rfl rfl rfl rfl
  have quiet (steady : pmm.status ≠ .osPowerUp ∧ pmm.status ≠ .policyPowerUp) :
      (recordEvent event pmm).coresAckUp = 0 :=
    (ready.noAck.resolve_left steady.1).resolve_left steady.2
  have sameStatus : (recordEvent event pmm).status = pmm.status := rfl
  rw [processJobControl, sameStatus]
  cases status : pmm.status with
  | idle =>
    have none := quiet (by simp [status])
    have other (dropped : event.id ≠ .jobScheduled ∧ event.id ≠ .jobFinished) :
        Calm platform (recordEvent event pmm) := ⟨recorded (.inr dropped), none⟩
    apply (Calm.carried.idle ?_ ?_ fun notScheduled notFinished =>
      other ⟨notScheduled, notFinished⟩).mono fun _ _ => Calm.processed
    · intro scheduled
      exact ⟨kept (matched_scheduled ready.matched scheduled) rfl rfl rfl rfl, none⟩
    · intro finished
      have powered : Subset (coresFromEventData pmm event) pmm.coresPowered := by
        simpa only [Heard, status, finished] using heard
      have matched := matched_finished ready.matched finished
      rw [powered.and_eq] at matched
      exact ⟨kept matched rfl rfl rfl rfl, none⟩
  | dvfsPause =>
    have none := quiet (by simp [status])
    exact (Calm.carried.paused ⟨recorded (by simp [status]), none⟩).mono fun _ _ => Calm.processed
  | osPowerUp =>
    apply processPowerUp_keepsIdle (recorded (by simp [status])) (.inl status)
    intro isAck okay
    rw [busy_recorded, isAck]
    simp only [Heard, status, isAck] at heard
    exact heard okay
  | policyPowerUp =>
    apply processPowerUp_keepsIdle (recorded (by simp [status])) (.inr status)
    intro isAck okay
    rw [busy_recorded, isAck]
    simp only [Heard, status, isAck] at heard
    exact heard okay
  | osPowerDown =>
    have none := quiet (by simp [status])
    exact (Calm.carried.goingDown ⟨recorded (by simp [status]), none⟩).mono fun _ _ => Calm.processed
  | policyPowerDown =>
    have none := quiet (by simp [status])
    exact (Calm.carried.goingDown ⟨recorded (by simp [status]), none⟩).mono fun _ _ => Calm.processed
  | osWaiting =>
    have none := quiet (by simp [status])
    exact (Calm.carried.osWaiting ⟨recorded (by simp [status]), none⟩).mono fun _ _ => Calm.processed
  | off =>
    have none := quiet (by simp [status])
    exact Calm.processed ⟨recorded (by simp [status]), none⟩

end Floid.Pmm
