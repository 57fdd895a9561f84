import Floid.Lib.Transition
import Floid.Wifi.Wep

/-!
The command objects of the driver: they are put into a queue by `enqueue_cmd` and
`enqueue_cmd_ex`, and taken out, run and freed by `cmd_thread`.
-/

namespace Floid.Wifi

open Osk Lib

/-- `MAX_H2CCMD`, the number of entries of `wlancmds` and of `cmd_callback`. -/
def maxH2ccmd : Nat := 59

def readBbregCmd : Nat := 2
def readRfregCmd : Nat := 4
def joinBssCmd : Nat := 14
def disConnectCmd : Nat := 15
def createBssCmd : Nat := 16
def siteSurveyCmd : Nat := 18
def setStaKeyCmd : Nat := 21
def setAssocStaCmd : Nat := 22
def setDrvExtraCmd : Nat := 57

def powerSavingCtrlWkCid : Int := 4

def h2cSuccess : U8 := 0

structure DrvextraCmdParm where
  ecId : Int
  sz : Int
  /-- Whether `pbuf` is not NULL. -/
  pbuf : Bool
  deriving DecidableEq

/-- `cmd_obj`, with a number for its place in memory, and what its parameter says if it is a
driver extra command. -/
structure CmdObj where
  id : Nat
  cmdcode : Nat
  res : U8
  cmdsz : Nat
  /-- Whether `rsp` is not NULL. -/
  rsp : Bool
  rspsz : Nat
  extra : DrvextraCmdParm
  deriving DecidableEq

inductive CmdResource where
  | obj
  | parmbuf
  | rsp
  | pbuf
  deriving DecidableEq

inductive CmdCallback where
  | getbbrfreg
  | joinbss
  | disassoc
  | createbss
  | survey
  | setstaKey
  | setassocsta

def cmdCallback (cmdcode : Nat) : Option CmdCallback :=
  if cmdcode = readBbregCmd ∨ cmdcode = readRfregCmd then some .getbbrfreg
  else if cmdcode = joinBssCmd then some .joinbss
  else if cmdcode = disConnectCmd then some .disassoc
  else if cmdcode = createBssCmd then some .createbss
  else if cmdcode = siteSurveyCmd then some .survey
  else if cmdcode = setStaKeyCmd then some .setstaKey
  else if cmdcode = setAssocStaCmd then some .setassocsta
  else none

def hasHandler (cmdcode : Nat) : Bool :=
  cmdcode ≤ 5 ∨ 14 ≤ cmdcode ∧ cmdcode ≤ 21 ∨ cmdcode = 45 ∨ 55 ≤ cmdcode ∧ cmdcode ≤ 58

namespace CmdObj

variable (obj : CmdObj)

def freeCmdObj : List CmdResource :=
  (if obj.cmdcode ≠ joinBssCmd ∧ obj.cmdcode ≠ createBssCmd then [.parmbuf] else []) ++
    (if obj.rsp ∧ obj.rspsz ≠ 0 then [.rsp] else []) ++ [.obj]

def handlerFrees : List CmdResource :=
  if obj.cmdcode = setDrvExtraCmd ∧ obj.extra.pbuf ∧ 0 < obj.extra.sz then [.pbuf] else []

/-- What the callback of a command frees, or `cmd_thread` when there is none; `station` says
whether `get_stainfo` finds the station. -/
def callbackFrees (station : Bool) : List CmdResource :=
  match cmdCallback obj.cmdcode with
  | some .getbbrfreg => [.parmbuf, .obj]
  | some .disassoc => if obj.res ≠ h2cSuccess then [] else obj.freeCmdObj
  | some .setassocsta => if station then obj.freeCmdObj else []
  | some .joinbss | some .createbss | some .survey | some .setstaKey => obj.freeCmdObj
  | none => obj.freeCmdObj

def mark (resources : List CmdResource) : List (Nat × CmdResource) :=
  resources.map fun resource => (obj.id, resource)

end CmdObj

inductive CmdThreadPhase where
  | running
  | draining
  | terminated
  deriving DecidableEq

structure CmdThread where
  queue : List CmdObj
  hwInitCompleted : Bool
  /-- `bHWPwrPindetect` without `usbss_enable`. -/
  rfOffDetect : Bool
  driverStopped : Bool
  phase : CmdThreadPhase
  offered : List CmdObj
  accepted : List CmdObj
  dequeued : List CmdObj
  executed : List CmdObj
  handled : List CmdObj
  freed : List (Nat × CmdResource)
  reads : List (CmdObj × Nat)
  lookups : List Nat

structure CmdOutcome where
  ret : U8
  station : Bool

inductive CmdEvent where
  | enqueueCmd (obj : Option CmdObj)
  | enqueueCmdEx (obj : Option CmdObj)
  | hwInit (completed : Bool)
  | detectRfOff (detect : Bool)
  | stop
  /-- `_down_sema` fails. -/
  | interrupt
  /-- From `_next` on. -/
  | next (outcome : CmdOutcome)
  | drain

namespace CmdThread

variable (cmds : CmdThread)

def bSkip (obj : CmdObj) : Bool :=
  cmds.rfOffDetect ∧ obj.cmdcode = setDrvExtraCmd ∧ obj.extra.ecId = powerSavingCtrlWkCid

def reject (obj : CmdObj) : CmdThread :=
  { cmds with
    offered := cmds.offered ++ [obj]
    handled := cmds.handled ++ [obj]
    freed := cmds.freed ++ obj.mark obj.freeCmdObj }

def accept (obj : CmdObj) : CmdThread :=
  { cmds with
    offered := cmds.offered ++ [obj]
    accepted := cmds.accepted ++ [obj]
    queue := cmds.queue ++ [obj] }

def enqueueCmd (obj : CmdObj) : CmdThread :=
  if cmds.hwInitCompleted = false then cmds.reject obj else cmds.accept obj

def enqueueCmdEx (obj : CmdObj) : CmdThread :=
  if cmds.hwInitCompleted = false ∧ cmds.bSkip obj = false then cmds.reject obj else cmds.accept obj

/-- `cmd_thread` runs the command it took from the queue. What lies behind the tables is not
known, and a code that is larger still is not looked up. -/
def execute (obj : CmdObj) (outcome : CmdOutcome) : CmdThread :=
  let cmds := { cmds with reads := cmds.reads ++ [(obj, rnd4 obj.cmdsz)] }
  if obj.cmdcode ≤ maxH2ccmd then
    let cmds := { cmds with lookups := cmds.lookups ++ [obj.cmdcode] }
    if obj.cmdcode < maxH2ccmd then
      if hasHandler obj.cmdcode then
        { cmds with
          executed := cmds.executed ++ [obj]
          freed := cmds.freed ++
            obj.mark (obj.handlerFrees ++ { obj with res := outcome.ret }.callbackFrees outcome.station) }
      else { cmds with freed := cmds.freed ++ obj.mark (obj.callbackFrees outcome.station) }
    else cmds
  else cmds

def next (outcome : CmdOutcome) : CmdThread :=
  if cmds.phase = .running then
    if cmds.driverStopped then { cmds with phase := .draining }
    else
      match cmds.queue with
      | [] => cmds
      | obj :: rest =>
          ({ cmds with
            queue := rest
            dequeued := cmds.dequeued ++ [obj]
            handled := cmds.handled ++ [obj] } : CmdThread).execute obj outcome
  else cmds

def drain : CmdThread :=
  if cmds.phase = .draining then
    match cmds.queue with
    | [] => { cmds with phase := .terminated }
    | obj :: rest =>
        { cmds with
          queue := rest
          dequeued := cmds.dequeued ++ [obj]
          handled := cmds.handled ++ [obj]
          freed := cmds.freed ++ obj.mark obj.freeCmdObj }
  else cmds

def step : CmdEvent → CmdThread
  | .enqueueCmd obj => obj.elim cmds cmds.enqueueCmd
  | .enqueueCmdEx obj => obj.elim cmds cmds.enqueueCmdEx
  | .hwInit completed => { cmds with hwInitCompleted := completed }
  | .detectRfOff detect => { cmds with rfOffDetect := detect }
  | .stop => { cmds with driverStopped := true }
  | .interrupt => if cmds.phase = .running then { cmds with phase := .draining } else cmds
  | .next outcome => cmds.next outcome
  | .drain => cmds.drain

structure Started : Prop where
  phase : cmds.phase = .running
  queue : cmds.queue = []
  offered : cmds.offered = []
  accepted : cmds.accepted = []
  dequeued : cmds.dequeued = []
  executed : cmds.executed = []
  handled : cmds.handled = []
  freed : cmds.freed = []
  reads : cmds.reads = []
  lookups : cmds.lookups = []

end CmdThread

def cmdSystem : TransitionSystem CmdThread CmdEvent where
  initial := CmdThread.Started
  step before event after := after = before.step event

end Floid.Wifi
