import Floid.Lib.Worker
import Floid.Pmm.State

namespace Floid.Pmm

open Osk Lib

inductive Signal where
  /-- `mali_core_signal_power_down`. -/
  | powerDown (core : CoreMask) (immediateOnly : Bool)
  /-- `mali_core_signal_power_up`. -/
  | powerUp (core : CoreMask) (queueOnly : Bool)
  deriving DecidableEq, Repr

abbrev Run (Result : Type) := Segment PmmState Signal Errcode Result

structure Platform where
  powerOk : Bool
  created : Bool
  deriving DecidableEq, Repr

def coreSystem : CoreMask := 0x00000000#32

def coreGP : CoreMask := 0x00000001#32

def coreL2 : CoreMask := 0x00000002#32

def corePP0 : CoreMask := 0x00000004#32

def corePP1 : CoreMask := 0x00000008#32

def corePP2 : CoreMask := 0x00000010#32

def corePP3 : CoreMask := 0x00000020#32

def corePPAll : CoreMask := 0x0000003C#32

def coresList : List CoreMask := [coreL2, coreGP, corePP0, corePP1, corePP2, corePP3]

def coresFromEventData (pmm : PmmState) (event : Message) : CoreMask :=
  match event.id with
  | .osPowerUp => pmm.coresRegistered
  | .osPowerDown => pmm.coresRegistered
  | .jobScheduled | .jobQueued | .jobFinished | .internalPowerUpAck | .internalPowerDownAck =>
      if event.data = coreSystem then pmm.coresRegistered
      else if event.data = corePPAll then pmm.coresRegistered &&& corePPAll
      else event.data
  | _ => pmm.coresPowered

def coresToPowerUp (cores : CoreMask) (pmm : PmmState) : CoreMask × PmmState :=
  let coresSubset := ~~~pmm.coresPowered &&& cores
  (coresSubset, if coresSubset ≠ 0 then { pmm with coresPendUp := coresSubset } else pmm)

def signalPowerDown (cores : CoreMask) (immediateOnly : Bool) : List CoreMask → CoreMask → PmmState → Run CoreMask
  | [], coresSubset, pmm => .done coresSubset pmm
  | core :: rest, coresSubset, pmm =>
      if core &&& coresSubset ≠ 0 then
        .unlocked (.powerDown core immediateOnly)
          { pmm with coresPendDown := pmm.coresPendDown ||| core } fun err pmm =>
            -- the subset is read again, cores may have gone
            let coresSubset := pmm.coresPowered &&& cores
            if err = .ok then
              signalPowerDown cores immediateOnly rest coresSubset
                { pmm with coresAckDown := pmm.coresAckDown ||| (core &&& coresSubset) }
            else signalPowerDown cores immediateOnly rest coresSubset pmm
      else signalPowerDown cores immediateOnly rest coresSubset pmm

def coresToPowerDown (cores : CoreMask) (immediateOnly : Bool) (pmm : PmmState) : Run CoreMask :=
  signalPowerDown cores immediateOnly coresList.reverse (pmm.coresPowered &&& cores) pmm

def signalCancelled : List CoreMask → CoreMask → PmmState → Run Unit
  | [], _, pmm => .done () pmm
  | core :: rest, pd, pmm =>
      if core &&& pd ≠ 0 then
        .unlocked (.powerUp core true) pmm fun _ pmm =>
          signalCancelled rest (pd &&& pmm.coresRegistered) pmm
      else signalCancelled rest pd pmm

def powerDownCancel (pmm : PmmState) : Run Unit :=
  signalCancelled coresList pmm.coresPendDown { pmm with coresPendDown := 0#32, coresAckDown := 0#32 }

def powerDownOkay (pmm : PmmState) : Bool := pmm.coresPendDown = pmm.coresAckDown

def invokePowerDown (platform : Platform) (pmm : PmmState) : Bool × PmmState :=
  if powerDownOkay pmm then
    if platform.powerOk then
      (true,
        { pmm with
          coresPowered := pmm.coresPowered &&& ~~~pmm.coresPendDown
          coresIdle := pmm.coresIdle &&& ~~~pmm.coresPendDown
          coresPendDown := 0#32
          coresAckDown := 0#32 })
    else (true, { pmm with fatalPowerErr := true })
  else (false, pmm)

def powerUpOkay (pmm : PmmState) : Bool := pmm.coresPendUp = pmm.coresAckUp

def signalPendingUp : List CoreMask → PmmState → Run Unit
  | [], pmm => .done () pmm
  | core :: rest, pmm =>
      if core &&& pmm.coresPendUp ≠ 0 then
        .unlocked (.powerUp core false) pmm fun _ pmm => signalPendingUp rest pmm
      else signalPendingUp rest pmm

def invokePowerUp (platform : Platform) (pmm : PmmState) : Run Bool :=
  if powerUpOkay pmm then
    (signalPendingUp coresList pmm).bind fun _ pmm =>
      .done true
        { pmm with
          coresPowered := pmm.coresPowered ||| pmm.coresPendUp
          coresIdle := pmm.coresIdle ||| pmm.coresPendUp
          coresPendUp := 0#32
          coresAckUp := 0#32 }
  else if platform.powerOk then
    .done false (eventMessage .internalPowerUpAck pmm.coresPendUp platform.created pmm)
  else .done false { pmm with fatalPowerErr := true }

def coresSetActive (cores : CoreMask) (pmm : PmmState) : PmmState :=
  { pmm with coresIdle := pmm.coresIdle &&& ~~~cores }

def coresSetIdle (cores : CoreMask) (pmm : PmmState) : PmmState :=
  { pmm with coresIdle := pmm.coresIdle ||| cores }

def coresSetDownAck (cores : CoreMask) (pmm : PmmState) : PmmState :=
  { pmm with coresAckDown := pmm.coresAckDown ||| cores }

def coresSetUpAck (cores : CoreMask) (pmm : PmmState) : PmmState :=
  { pmm with coresAckUp := pmm.coresAckUp ||| cores }

def signalRegistered : List CoreMask → PmmState → Run Unit
  | [], pmm => .done () pmm
  | core :: rest, pmm =>
      if core &&& pmm.coresRegistered ≠ 0 then
        .unlocked (.powerUp core false) pmm fun _ pmm => signalRegistered rest pmm
      else signalRegistered rest pmm

def resetFields (pmm : PmmState) : PmmState :=
  { pmm with
    waiting := 0
    missed := 0
    fatalPowerErr := false
    noEvents := 0
    checkPolicy := false
    coresPendDown := 0#32
    coresPendUp := 0#32
    coresAckDown := 0#32
    coresAckUp := 0#32
    isDvfsActive := false
    status := .off
    coresPowered := pmm.coresRegistered
    coresIdle := pmm.coresRegistered }

/-- `pmm_fatal_reset` up to the loops that purge the queues. The PMU is told to power up
the registered cores, but the reset goes on as well when it does not. -/
def fatalReset (pmm : PmmState) : Run Unit :=
  let status := pmm.status
  (signalRegistered coresList.reverse (resetFields pmm)).bind fun _ pmm =>
    match status with
    | .osPowerUp => .done () (replyRetrieved .powerUpDone pmm)
    | .osPowerDown => .done () (replyRetrieved .powerDownDone pmm)
    | _ => .done () pmm

end Floid.Pmm
