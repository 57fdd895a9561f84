import Floid.Lib.Mask
import Floid.Pmm.BottomHalf

namespace Floid.Pmm

open Floid.Osk Floid.Lib Subset

structure MasksOrdered (pmm : PmmState) : Prop where
  idle_powered : Subset pmm.coresIdle pmm.coresPowered
  powered_registered : Subset pmm.coresPowered pmm.coresRegistered
  ackDown_pendDown : Subset pmm.coresAckDown pmm.coresPendDown
  pendDown_powered : Subset pmm.coresPendDown pmm.coresPowered
  ackUp_pendUp : Subset pmm.coresAckUp pmm.coresPendUp
  pendUp_apart : pmm.coresPendUp &&& pmm.coresPowered = 0
  one_way : pmm.coresPendUp = 0 ∨ pmm.coresPendDown = 0

structure Masks (pmm : PmmState) : Prop extends MasksOrdered pmm where
  pendUp_registered : Subset pmm.coresPendUp pmm.coresRegistered

def Quiet (pmm : PmmState) : Prop := pmm.coresPendUp = 0 ∧ pmm.coresPendDown = 0

def Settled (pmm : PmmState) : Prop :=
  match pmm.status with
  | .idle | .osWaiting | .off => Quiet pmm
  | .dvfsPause => pmm.coresPendUp = 0 ∧ pmm.coresPendDown = pmm.coresAckDown
  | .osPowerUp | .policyPowerUp => pmm.coresPendDown = 0
  | .osPowerDown | .policyPowerDown => pmm.coresPendUp = 0

variable {pmm : PmmState}

theorem Masks.settled_of_quiet (masks : Masks pmm) (quiet : Quiet pmm) : Settled pmm := by
  have acked : pmm.coresPendDown = pmm.coresAckDown := by
    have subset := masks.ackDown_pendDown
    rw [quiet.2] at subset
    rw [quiet.2, subset.eq_zero]
  rw [Settled]
  split
  · exact quiet
  · exact quiet
  · exact quiet
  · exact ⟨quiet.1, acked⟩
  · exact quiet.2
  · exact quiet.2
  · exact quiet.1
  · exact quiet.1

structure MaskRely (before after : PmmState) : Prop where
  masks : Masks after
  pendUp : Subset after.coresPendUp before.coresPendUp
  pendDown : Subset after.coresPendDown before.coresPendDown

def WellNamed (event : Message) (pmm : PmmState) : Prop :=
  match pmm.status, event.id with
  | .idle, .jobFinished => Subset (coresFromEventData pmm event) pmm.coresPowered
  | .osPowerUp, .internalPowerUpAck => Subset (coresFromEventData pmm event) pmm.coresPendUp
  | .policyPowerUp, .internalPowerUpAck => Subset (coresFromEventData pmm event) pmm.coresPendUp
  | .osPowerDown, .internalPowerDownAck => Subset (coresFromEventData pmm event) pmm.coresPendDown
  | .policyPowerDown, .internalPowerDownAck =>
      Subset (coresFromEventData pmm event) pmm.coresPendDown
  | _, _ => True

/-- Cores are registered once, events name only cores they can be about, and no core is
registered anew while it is told to power down. -/
def namedCores : Worker.Condition PmmState Signal Errcode Control Platform Event where
  event event pmm :=
    match event with
    | .register core _ => core &&& pmm.coresRegistered = 0
    | _ => True
  step control _ pmm :=
    match control with
    | .processing (_ + 1) => ∀ event, nextMessage pmm = some event → WellNamed event pmm
    | _ => True
  answer call answer pmm :=
    match call, answer with
    | .powerDown core _, .ok => Subset (core &&& pmm.coresPowered) pmm.coresPendDown
    | _, _ => True

theorem Masks.register {pmm : PmmState} {core : CoreMask} {powerOk : Bool} (masks : Masks pmm)
    (fresh : core &&& pmm.coresRegistered = 0) : Masks (coreRegister core powerOk pmm) := by
  rw [coreRegister]
  split
  · have apart : Subset pmm.coresPendUp (~~~core) := by
      rw [compl_iff, BitVec.and_comm]
      exact (compl_iff.mp ((compl_iff.mpr fresh).compl_anti masks.pendUp_registered))
    exact { masks with
      idle_powered := masks.idle_powered.or_mono core
      powered_registered := masks.powered_registered.or_mono core
      pendDown_powered := masks.pendDown_powered.trans (or_left _ _)
      pendUp_apart := compl_iff.mp ((compl_iff.mpr masks.pendUp_apart).compl_or apart)
      pendUp_registered := masks.pendUp_registered.trans (or_left _ _) }
  · exact masks

theorem Masks.unregister (masks : Masks pmm) (core : CoreMask) : Masks (coreUnregister core pmm) := by
  have smaller (mask : CoreMask) : Subset (mask &&& ~~~core) mask := and_left _ _
  constructor
  · constructor
    · exact masks.idle_powered.and_mono _
    · exact masks.powered_registered.and_mono _
    · exact masks.ackDown_pendDown.and_mono _
    · exact masks.pendDown_powered.and_mono _
    · exact masks.ackUp_pendUp.and_mono _
    · exact compl_iff.mp (((smaller _).trans (compl_iff.mpr masks.pendUp_apart)).compl_anti (smaller _))
    · rcases masks.one_way with none | none
      · exact .inl (by simp [coreUnregister, none])
      · exact .inr (by simp [coreUnregister, none])
  · exact masks.pendUp_registered.and_mono _

end Floid.Pmm
