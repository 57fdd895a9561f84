import Floid.Pmm.Masks

namespace Floid.Pmm

open Floid.Osk Floid.Lib Subset

abbrev KeepsMasks {Result : Type} (segment : Run Result) (post : Result → PmmState → Prop) : Prop :=
  segment.Ensures Masks
    (fun call answer before after => MaskRely before after ∧ namedCores.answer call answer after)
    post

variable {platform : Platform} {pmm : PmmState} {cores : CoreMask}

theorem MaskRely.quiet {before after : PmmState} (rely : MaskRely before after)
    (quiet : Quiet before) : Quiet after := by
  have up := rely.pendUp
  have down := rely.pendDown
  rw [quiet.1] at up
  rw [quiet.2] at down
  exact ⟨up.eq_zero, down.eq_zero⟩

variable {core : CoreMask} {immediateOnly : Bool} {list : List CoreMask} {event : Message}

theorem coresList_single (member : core ∈ coresList) : ∃ position, core = BitVec.twoPow 32 position := by
  simp only [coresList, List.mem_cons, List.not_mem_nil, or_false] at member
  rcases member with rfl | rfl | rfl | rfl | rfl | rfl
  · exact ⟨1, rfl⟩
  · exact ⟨0, rfl⟩
  · exact ⟨2, rfl⟩
  · exact ⟨3, rfl⟩
  · exact ⟨4, rfl⟩
  · exact ⟨5, rfl⟩

theorem subset_of_meets {mask : CoreMask} (member : core ∈ coresList)
    (meets : core &&& mask ≠ 0) : Subset core mask := by
  obtain ⟨position, rfl⟩ := coresList_single member
  exact subset_of_twoPow meets

theorem signalPowerDown_keeps {coresSubset : CoreMask}
    (single : ∀ core ∈ list, core ∈ coresList) (masks : Masks pmm) (noneUp : pmm.coresPendUp = 0)
    (subset : coresSubset = pmm.coresPowered &&& cores) (within : Subset pmm.coresPendDown cores) :
    KeepsMasks (signalPowerDown cores immediateOnly list coresSubset pmm) fun left after =>
      Masks after ∧ after.coresPendUp = 0 ∧ Subset after.coresPendDown left := by
  induction list generalizing pmm coresSubset with
  | nil =>
    rw [signalPowerDown, KeepsMasks, Segment.Ensures, subset]
    exact ⟨masks, noneUp, masks.pendDown_powered.and within⟩
  | cons core rest ih =>
    have singleRest : ∀ other ∈ rest, other ∈ coresList :=
      fun other member => single other (List.mem_cons_of_mem _ member)
    rw [signalPowerDown]
    split
    · rename_i meets
      have inSubset := subset_of_meets (single core List.mem_cons_self) meets
      rw [subset] at inSubset
      have powered := inSubset.trans (and_left _ _)
      have asked := inSubset.trans (and_right _ _)
      rw [KeepsMasks, Segment.Ensures]
      refine ⟨?_, ?_⟩
      · exact { masks with
          ackDown_pendDown := masks.ackDown_pendDown.trans (or_left _ _)
          pendDown_powered := masks.pendDown_powered.or powered
          one_way := .inl noneUp }
      · rintro answer after ⟨rely, named⟩
        have noneUp' : after.coresPendUp = 0 := by
          have up := rely.pendUp
          rw [show PmmState.coresPendUp { pmm with
            coresPendDown := pmm.coresPendDown ||| core } = 0 from noneUp] at up
          exact up.eq_zero
        have within' : Subset after.coresPendDown cores := rely.pendDown.trans (within.or asked)
        dsimp only
        split
        · rename_i ok
          rw [ok] at named
          have acked : Subset (core &&& (after.coresPowered &&& cores)) after.coresPendDown := by
            rw [← BitVec.and_assoc]
            exact (and_left _ _).trans named
          have ackedMasks : Masks { after with
              coresAckDown := after.coresAckDown ||| (core &&& (after.coresPowered &&& cores)) } :=
            { rely.masks with ackDown_pendDown := rely.masks.ackDown_pendDown.or acked }
          exact ih singleRest ackedMasks noneUp' rfl within'
        · exact ih singleRest rely.masks noneUp' rfl within'
    · exact ih singleRest masks noneUp subset within

theorem coresToPowerDown_keeps (masks : Masks pmm) (quiet : Quiet pmm) :
    KeepsMasks (coresToPowerDown cores immediateOnly pmm) fun left after =>
      Masks after ∧ after.coresPendUp = 0 ∧ Subset after.coresPendDown left := by
  apply signalPowerDown_keeps (fun core member => List.mem_reverse.mp member) masks quiet.1 rfl
  rw [quiet.2]
  exact zero _

theorem quiet_signalled : Signalled Masks (fun call answer before after =>
      MaskRely before after ∧ namedCores.answer call answer after) fun pmm => Masks pmm ∧ Quiet pmm where
  holds _ held := held.1
  relied _ _ _ _ held rely := ⟨rely.1.masks, rely.1.quiet held.2⟩

theorem Masks.cancel (masks : Masks pmm) : Masks { pmm with coresPendDown := 0#32, coresAckDown := 0#32 } :=
  { masks with
    ackDown_pendDown := zero _
    pendDown_powered := zero _
    one_way := .inr rfl }

theorem powerDownCancel_keeps (masks : Masks pmm) (noneUp : pmm.coresPendUp = 0) :
    KeepsMasks (powerDownCancel pmm) fun _ after => Masks after ∧ Quiet after :=
  quiet_signalled.cancelled ⟨masks.cancel, noneUp, rfl⟩

theorem invokePowerDown_keeps (masks : Masks pmm) (noneUp : pmm.coresPendUp = 0) :
    Masks (invokePowerDown platform pmm).2 ∧ (invokePowerDown platform pmm).2.coresPendUp = 0 ∧
      ((invokePowerDown platform pmm).1 = true → (invokePowerDown platform pmm).2.fatalPowerErr = false →
        Quiet (invokePowerDown platform pmm).2) := by
  rw [invokePowerDown]
  split
  · split
    · refine ⟨?_, noneUp, fun _ _ => ⟨noneUp, rfl⟩⟩
      constructor
      · constructor
        · exact masks.idle_powered.and_mono _
        · exact (and_left _ _).trans masks.powered_registered
        · exact zero _
        · exact zero _
        · exact masks.ackUp_pendUp
        · exact compl_iff.mp ((compl_iff.mpr masks.pendUp_apart).compl_anti (and_left _ _))
        · exact .inr rfl
      · exact masks.pendUp_registered
    · refine ⟨{ masks with }, noneUp, ?_⟩
      simp
  · exact ⟨masks, noneUp, by simp⟩

theorem signalPendingUp_keeps (masks : Masks pmm) (noneDown : pmm.coresPendDown = 0) :
    KeepsMasks (signalPendingUp list pmm) fun _ after =>
      Masks after ∧ after.coresPendDown = 0 := by
  apply Signalled.pendingUp ⟨fun _ held => held.1, ?_⟩ ⟨masks, noneDown⟩
  rintro _ _ before after ⟨_, noneDown⟩ rely
  have down := rely.1.pendDown
  rw [noneDown] at down
  exact ⟨rely.1.masks, down.eq_zero⟩

theorem invokePowerUp_keeps (masks : Masks pmm) (noneDown : pmm.coresPendDown = 0) :
    KeepsMasks (invokePowerUp platform pmm) fun finished after =>
      Masks after ∧ after.coresPendDown = 0 ∧ (finished = true → Quiet after) ∧
        (finished = false → after.status = pmm.status) := by
  rw [invokePowerUp]
  split
  · apply (signalPendingUp_keeps masks noneDown).bind
    rintro _ after ⟨masks, noneDown⟩
    refine ⟨?_, noneDown, fun _ => ⟨rfl, noneDown⟩, by simp⟩
    constructor
    · constructor
      · exact masks.idle_powered.or_mono _
      · exact masks.powered_registered.or masks.pendUp_registered
      · exact masks.ackDown_pendDown
      · exact masks.pendDown_powered.trans (or_left _ _)
      · exact zero _
      · exact BitVec.zero_and
      · exact .inl rfl
    · exact zero _
  · split
    · obtain ⟨queue, iqueue, messagesQueued, missed, sent⟩ :=
        eventMessage_frame .internalPowerUpAck pmm.coresPendUp platform.created pmm
      rw [sent]
      exact ⟨{ masks with }, noneDown, by simp, fun _ => rfl⟩
    · exact ⟨{ masks with }, noneDown, by simp, fun _ => rfl⟩

theorem coresToPowerUp_masks (masks : Masks pmm) (quiet : Quiet pmm) :
    Masks (coresToPowerUp pmm.coresRegistered pmm).2 ∧
      (coresToPowerUp pmm.coresRegistered pmm).2.coresPendDown = 0 ∧
      ((coresToPowerUp pmm.coresRegistered pmm).1 = 0 → Quiet (coresToPowerUp pmm.coresRegistered pmm).2) := by
  simp only [coresToPowerUp]
  split
  · rename_i some_off
    refine ⟨?_, quiet.2, fun none => absurd none some_off⟩
    have noneAcked : pmm.coresAckUp = 0 := by
      have subset := masks.ackUp_pendUp
      rw [quiet.1] at subset
      exact subset.eq_zero
    exact { masks with
      ackUp_pendUp := noneAcked ▸ zero _
      pendUp_apart := compl_iff.mp (and_left _ _)
      one_way := .inr quiet.2
      pendUp_registered := and_right _ _ }
  · exact ⟨masks, quiet.2, fun _ => quiet⟩

def InOrder (pmm : PmmState) : Prop :=
  Masks pmm ∧ (pmm.fatalPowerErr = false → Settled pmm)

theorem InOrder.of_quiet (masks : Masks pmm) (quiet : Quiet pmm) : InOrder pmm :=
  ⟨masks, fun _ => masks.settled_of_quiet quiet⟩

theorem processed_keeps (order : InOrder pmm) : KeepsMasks (processed pmm) fun _ after => InOrder after := by
  obtain ⟨latency, setup⟩ := jobControlTimeoutSetup_frame pmm
  rw [processed, setup]
  exact ⟨{ order.1 with }, order.2⟩

theorem jobControlJobQueued_keeps (masks : Masks pmm) (quiet : Quiet pmm) :
    KeepsMasks (jobControlJobQueued platform pmm) fun _ after => Masks after ∧ Settled after := by
  obtain ⟨masks, noneDown, stillQuiet⟩ := coresToPowerUp_masks masks quiet
  rw [jobControlJobQueued]
  generalize coresToPowerUp pmm.coresRegistered pmm = raised at *
  dsimp only
  split
  · apply (invokePowerUp_keeps masks noneDown).bind
    rintro finished after ⟨masks, noneDown, finishedQuiet, _⟩
    split
    · rename_i isFinished
      exact ⟨masks, masks.settled_of_quiet (finishedQuiet isFinished)⟩
    · exact ⟨{ masks with }, noneDown⟩
  · rename_i none
    exact ⟨masks, masks.settled_of_quiet (stillQuiet (by simpa using none))⟩

theorem idleDvfsPause_keeps (masks : Masks pmm) (quiet : Quiet pmm) :
    KeepsMasks (idleDvfsPause event cores pmm) fun _ after => InOrder after := by
  rw [idleDvfsPause]
  apply (coresToPowerDown_keeps masks quiet).bind
  rintro left after ⟨masks, noneUp, down⟩
  split
  · exact processed_keeps ⟨{ masks with }, fun _ => noneUp⟩
  · rename_i notWaiting
    refine processed_keeps ⟨{ masks with }, fun _ => ⟨noneUp, ?_⟩⟩
    by_cases none : left = 0
    · rw [none] at down
      have noneAcked := masks.ackDown_pendDown
      rw [down.eq_zero] at noneAcked
      exact down.eq_zero.trans noneAcked.eq_zero.symm
    · have okay : powerDownOkay after = true := by
        by_contra waiting
        exact notWaiting ⟨none, waiting⟩
      have same : after.coresPendDown = after.coresAckDown := by
        simpa [powerDownOkay] using okay
      exact same

theorem idleOsPowerDown_keeps (masks : Masks pmm) (quiet : Quiet pmm) :
    KeepsMasks (idleOsPowerDown platform event cores pmm) fun _ after => InOrder after := by
  rw [idleOsPowerDown]
  apply (coresToPowerDown_keeps masks quiet).bind
  rintro left after ⟨masks, noneUp, down⟩
  split
  · obtain ⟨powered, stillNoneUp, poweredQuiet⟩ := @invokePowerDown_keeps platform _
      masks noneUp
    generalize invokePowerDown platform after = invoked at *
    obtain ⟨_ | _, off⟩ := invoked
    · exact processed_keeps ⟨{ powered with }, fun _ => stillNoneUp⟩
    · exact processed_keeps ⟨{ powered with }, poweredQuiet rfl⟩
  · rename_i none
    have noneLeft : left = 0 := by simpa using none
    rw [noneLeft] at down
    exact processed_keeps ⟨{ masks with }, fun _ => ⟨noneUp, down.eq_zero⟩⟩

theorem idleTimeout_keeps (masks : Masks pmm) (quiet : Quiet pmm) :
    KeepsMasks (idleTimeout platform event cores pmm) fun _ after => InOrder after := by
  rw [idleTimeout]
  split
  · apply (coresToPowerDown_keeps masks quiet).bind
    rintro left after ⟨masks, noneUp, down⟩
    split
    · obtain ⟨powered, stillNoneUp, poweredQuiet⟩ := @invokePowerDown_keeps platform _
        masks noneUp
      generalize invokePowerDown platform after = invoked at *
      obtain ⟨_ | _, off⟩ := invoked
      · apply (powerDownCancel_keeps powered stillNoneUp).bind
        rintro _ cancelled ⟨masks, quiet⟩
        exact processed_keeps (.of_quiet masks quiet)
      · exact processed_keeps ⟨powered, fun fine => powered.settled_of_quiet (poweredQuiet rfl fine)⟩
    · rename_i none
      have noneLeft : left = 0 := by simpa using none
      rw [noneLeft] at down
      exact processed_keeps (.of_quiet masks ⟨noneUp, down.eq_zero⟩)
  · exact processed_keeps (.of_quiet masks quiet)

theorem Masks.setActive (masks : Masks pmm) : Masks (coresSetActive cores pmm) := by
  constructor
  · exact { masks with idle_powered := (and_left _ _).trans masks.idle_powered }
  · exact masks.pendUp_registered

theorem Masks.setIdle (masks : Masks pmm) (named : Subset cores pmm.coresPowered) :
    Masks (coresSetIdle cores pmm) := by
  constructor
  · exact { masks with idle_powered := masks.idle_powered.or named }
  · exact masks.pendUp_registered

theorem processIdle_keeps (masks : Masks pmm) (quiet : Quiet pmm)
    (named : event.id = .jobFinished → Subset cores pmm.coresPowered) :
    KeepsMasks (processIdle platform event cores pmm) fun _ after => InOrder after := by
  rw [processIdle]
  split
  · exact processed_keeps (.of_quiet masks quiet)
  · have active : Masks { coresSetActive cores pmm with coreActiveStart := event.ts } :=
      { masks.setActive with }
    apply (jobControlJobQueued_keeps active quiet).bind
    exact fun _ after done => processed_keeps ⟨done.1, fun _ => done.2⟩
  · apply (jobControlJobQueued_keeps masks quiet).bind
    exact fun _ after done => processed_keeps ⟨done.1, fun _ => done.2⟩
  · exact idleDvfsPause_keeps masks quiet
  · exact idleOsPowerDown_keeps masks quiet
  · rename_i finished
    have idle := masks.setIdle (named finished)
    split
    · exact processed_keeps (.of_quiet idle quiet)
    · exact idleTimeout_keeps idle quiet
  · exact idleTimeout_keeps masks quiet
  · exact .of_quiet masks quiet

theorem processDvfsPause_keeps (masks : Masks pmm)
    (settled : pmm.coresPendUp = 0 ∧ pmm.coresPendDown = pmm.coresAckDown)
    (paused : pmm.status = .dvfsPause) :
    KeepsMasks (processDvfsPause platform event pmm) fun _ after => InOrder after := by
  rw [processDvfsPause]
  split
  · dsimp only
    split
    · have acked : Masks { pmm with coresAckDown := 0#32 } := by
        constructor
        · exact { masks with ackDown_pendDown := zero _ }
        · exact masks.pendUp_registered
      apply (powerDownCancel_keeps acked settled.1).bind
      rintro _ after ⟨masks, quiet⟩
      exact processed_keeps ⟨{ masks with }, fun _ => quiet⟩
    · rename_i off
      have noneDown : pmm.coresPendDown = 0 := by
        have subset := masks.pendDown_powered
        rw [show pmm.coresPowered = 0 by simpa using off] at subset
        exact subset.eq_zero
      apply (jobControlJobQueued_keeps masks ⟨settled.1, noneDown⟩).bind
      rintro _ after ⟨masks, settled⟩
      exact processed_keeps ⟨{ masks with }, fun _ => settled⟩
  · have waiting : Masks { pmm with status := .osWaiting } :=
      { masks with }
    dsimp only
    split
    · obtain ⟨powered, _, poweredQuiet⟩ := @invokePowerDown_keeps platform _
        waiting settled.1
      have okay : powerDownOkay { pmm with status := .osWaiting } = true := by
        simpa [powerDownOkay] using settled.2
      have done : (invokePowerDown platform { pmm with status := .osWaiting }).1 = true := by
        rw [invokePowerDown, if_pos okay]
        split <;> rfl
      refine processed_keeps ⟨{ powered with }, fun fine => ?_⟩
      exact powered.settled_of_quiet (poweredQuiet done fine)
    · rename_i off
      have noneDown : pmm.coresPendDown = 0 := by
        have subset := masks.pendDown_powered
        rw [show pmm.coresPowered = 0 by simpa using off] at subset
        exact subset.eq_zero
      exact processed_keeps ⟨{ masks with }, fun _ => ⟨settled.1, noneDown⟩⟩
  · refine processed_keeps ⟨masks, fun _ => ?_⟩
    rw [Settled, paused]
    exact settled

theorem processPowerUp_keeps (masks : Masks pmm) (noneDown : pmm.coresPendDown = 0)
    (rising : pmm.status = .osPowerUp ∨ pmm.status = .policyPowerUp)
    (named : event.id = .internalPowerUpAck → Subset cores pmm.coresPendUp) :
    KeepsMasks (processPowerUp platform event cores pmm) fun _ after => InOrder after := by
  rw [processPowerUp]
  split
  · rename_i isAck
    have acked : Masks (coresSetUpAck cores pmm) := by
      constructor
      · exact { masks with ackUp_pendUp := masks.ackUp_pendUp.or (named isAck) }
      · exact masks.pendUp_registered
    apply (invokePowerUp_keeps acked noneDown).bind
    rintro finished after ⟨masks, noneDown, finishedQuiet, sameStatus⟩
    split
    · rename_i isFinished
      split
      · exact processed_keeps ⟨{ masks with }, fun _ => finishedQuiet isFinished⟩
      · exact processed_keeps ⟨{ masks with }, fun _ => finishedQuiet isFinished⟩
    · rename_i unfinished
      have same := sameStatus (by simpa using unfinished)
      refine processed_keeps ⟨masks, fun _ => ?_⟩
      rcases rising with status | status <;> rw [Settled, same] <;>
        simp only [coresSetUpAck, status] <;> exact noneDown
  · refine ⟨masks, fun _ => ?_⟩
    rcases rising with status | status <;> rw [Settled, status] <;> exact noneDown

theorem processPowerDown_keeps (masks : Masks pmm) (noneUp : pmm.coresPendUp = 0)
    (falling : pmm.status = .osPowerDown ∨ pmm.status = .policyPowerDown)
    (named : event.id = .internalPowerDownAck → Subset cores pmm.coresPendDown) :
    KeepsMasks (processPowerDown platform event cores pmm) fun _ after => InOrder after := by
  have stays {after : PmmState} (masks : Masks after) (noneUp : after.coresPendUp = 0)
      (status : after.status = pmm.status) : InOrder after := by
    refine ⟨masks, fun _ => ?_⟩
    rcases falling with same | same <;> rw [Settled, status, same] <;> exact noneUp
  rw [processPowerDown]
  split
  · rename_i isAck
    have acked : Masks (coresSetDownAck cores pmm) := by
      constructor
      · exact { masks with ackDown_pendDown := masks.ackDown_pendDown.or (named isAck) }
      · exact masks.pendUp_registered
    dsimp only
    split
    · split
      · rename_i okay
        have same : pmm.coresPendDown = pmm.coresAckDown ||| cores := by
          exact of_decide_eq_true okay
        exact processed_keeps ⟨{ acked with }, fun _ => ⟨noneUp, same⟩⟩
      · exact processed_keeps (stays acked noneUp rfl)
    · obtain ⟨powered, stillNoneUp, poweredQuiet⟩ := @invokePowerDown_keeps platform _
        acked noneUp
      have status : (invokePowerDown platform (coresSetDownAck cores pmm)).2.status = pmm.status := by
        rw [invokePowerDown]
        split
        · split <;> rfl
        · rfl
      generalize invokePowerDown platform (coresSetDownAck cores pmm) = invoked at *
      obtain ⟨_ | _, off⟩ := invoked
      · exact processed_keeps (stays powered stillNoneUp status)
      · dsimp only
        split
        · exact processed_keeps ⟨{ powered with }, poweredQuiet rfl⟩
        · exact processed_keeps ⟨{ powered with }, poweredQuiet rfl⟩
  · exact stays masks noneUp rfl

theorem processOsWaiting_keeps (masks : Masks pmm) (quiet : Quiet pmm) (waiting : pmm.status = .osWaiting)
    (all : event.id = .osPowerUp → cores = pmm.coresRegistered) :
    KeepsMasks (processOsWaiting platform event cores pmm) fun _ after => InOrder after := by
  rw [processOsWaiting]
  split
  · rename_i up
    rw [all up]
    obtain ⟨masks, noneDown, stillQuiet⟩ := coresToPowerUp_masks masks quiet
    generalize coresToPowerUp pmm.coresRegistered pmm = raised at *
    dsimp only
    split
    · apply (invokePowerUp_keeps masks noneDown).bind
      rintro finished after ⟨masks, noneDown, finishedQuiet, _⟩
      split
      · rename_i isFinished
        exact processed_keeps ⟨{ masks with }, fun _ => finishedQuiet isFinished⟩
      · exact processed_keeps ⟨{ masks with }, fun _ => noneDown⟩
    · rename_i none
      exact processed_keeps ⟨{ masks with }, fun _ => stillQuiet (by simpa using none)⟩
  · refine processed_keeps ⟨masks, fun _ => ?_⟩
    rw [Settled, waiting]
    exact quiet

theorem processJobControl_keeps (masks : Masks pmm) (settled : Settled pmm) (named : WellNamed event pmm) :
    KeepsMasks (processJobControl platform event pmm) fun _ after => InOrder after := by
  rw [processJobControl]
  rw [Settled] at settled
  rw [WellNamed] at named
  cases status : pmm.status with
  | idle =>
    simp only [status] at settled named ⊢
    apply processIdle_keeps masks settled
    intro finished
    simpa only [finished] using named
  | dvfsPause =>
    simp only [status] at settled ⊢
    exact processDvfsPause_keeps masks settled status
  | osPowerUp =>
    simp only [status] at settled named ⊢
    apply processPowerUp_keeps masks settled (.inl status)
    intro isAck
    simpa only [isAck] using named
  | policyPowerUp =>
    simp only [status] at settled named ⊢
    apply processPowerUp_keeps masks settled (.inr status)
    intro isAck
    simpa only [isAck] using named
  | osPowerDown =>
    simp only [status] at settled named ⊢
    apply processPowerDown_keeps masks settled (.inl status)
    intro isAck
    simpa only [isAck] using named
  | policyPowerDown =>
    simp only [status] at settled named ⊢
    apply processPowerDown_keeps masks settled (.inr status)
    intro isAck
    simpa only [isAck] using named
  | osWaiting =>
    simp only [status] at settled ⊢
    apply processOsWaiting_keeps masks settled status
    intro up
    rw [coresFromEventData, up]
  | off =>
    simp only [status] at settled ⊢
    exact .of_quiet masks settled

theorem fatalReset_keeps : KeepsMasks (fatalReset pmm) fun _ after => Masks after ∧ Quiet after := by
  have reset : Masks (resetFields pmm) := by
    constructor
    · constructor
      · exact refl _
      · exact refl _
      · exact zero _
      · exact zero _
      · exact zero _
      · exact BitVec.zero_and
      · exact .inl rfl
    · exact zero _
  rw [fatalReset]
  apply (quiet_signalled.registered ⟨reset, rfl, rfl⟩).bind
  rintro _ after ⟨masks, quiet⟩
  split
  · exact ⟨{ masks with }, quiet⟩
  · exact ⟨{ masks with }, quiet⟩
  · exact ⟨masks, quiet⟩

end Floid.Pmm
