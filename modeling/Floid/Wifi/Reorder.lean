import Floid.Lib.Transition
import Floid.Wifi.Frames

/-!
The reordering of received frames under a block acknowledgement agreement, for one traffic
identifier of one station: a window of sequence numbers, and a queue of the frames in it that
wait for earlier ones.
-/

namespace Floid.Wifi

open Osk Lib

def snLess (a b : U16) : Bool := (a - b) &&& 0x800 ≠ 0

structure ReorderCtrl (Frame : Type) where
  enable : Bool
  indicateSeq : U16
  wsizeB : U8
  pendingRecvframeQueue : List Frame
  reorderingCtrlTimer : Bool

section Reorder

variable {Frame : Type} (seqNum : Frame → U16)

def checkIndicateSeq (ctrl : ReorderCtrl Frame) (seq : U16) : Bool × ReorderCtrl Frame :=
  let wsize : U16 := ctrl.wsizeB.setWidth 16
  let wend := (ctrl.indicateSeq + wsize - 1) &&& 0xfff
  let start := if ctrl.indicateSeq = 0xffff then seq else ctrl.indicateSeq
  let ctrl := { ctrl with indicateSeq := start }
  if snLess seq start then (false, ctrl)
  else if seq = start then (true, { ctrl with indicateSeq := (start + 1) &&& 0xfff })
  else if snLess wend seq then
    (true,
      { ctrl with
        indicateSeq :=
          if ctrl.wsizeB.toNat - 1 ≤ seq.toNat then seq + 1 - wsize
          else 0xfff - (wsize - (seq + 1)) + 1 })
  else (true, ctrl)

def enqueueReorderRecvframe (prframe : Frame) : List Frame → Option (List Frame)
  | [] => some [prframe]
  | pnextrframe :: rest =>
      if snLess (seqNum pnextrframe) (seqNum prframe) then
        (enqueueReorderRecvframe prframe rest).map (pnextrframe :: ·)
      else if seqNum pnextrframe = seqNum prframe then none
      else some (prframe :: pnextrframe :: rest)

def indicateInOrder : U16 → List Frame → U16 × List Frame × List Frame
  | indicateSeq, [] => (indicateSeq, [], [])
  | indicateSeq, prframe :: rest =>
      if snLess indicateSeq (seqNum prframe) then (indicateSeq, [], prframe :: rest)
      else
        let next := if indicateSeq = seqNum prframe then (indicateSeq + 1) &&& 0xfff else indicateSeq
        let (last, indicated, left) := indicateInOrder next rest
        (last, prframe :: indicated, left)

def recvIndicatepktsInOrder (ctrl : ReorderCtrl Frame) (bforced : Bool) : Bool × List Frame × ReorderCtrl Frame :=
  match bforced, ctrl.pendingRecvframeQueue with
  | true, [] => (true, [], ctrl)
  | _, queue =>
      let start :=
        match bforced, queue with
        | true, prframe :: _ => seqNum prframe
        | _, _ => ctrl.indicateSeq
      let (indicateSeq, indicated, left) := indicateInOrder seqNum start queue
      (!left.isEmpty, indicated, { ctrl with indicateSeq, pendingRecvframeQueue := left })

def recvIndicatepktReorder (ctrl : ReorderCtrl Frame) (prframe : Frame) : Bool × List Frame × ReorderCtrl Frame :=
  if !ctrl.enable then
    (true, [prframe], { ctrl with indicateSeq := (seqNum prframe + 1) % 4096 })
  else
    match checkIndicateSeq ctrl (seqNum prframe) with
    | (false, ctrl) => (false, [], ctrl)
    | (true, ctrl) =>
        match enqueueReorderRecvframe seqNum prframe ctrl.pendingRecvframeQueue with
        | none => (false, [], ctrl)
        | some queue =>
            let (bPktInBuf, indicated, ctrl) :=
              recvIndicatepktsInOrder seqNum { ctrl with pendingRecvframeQueue := queue } false
            (true, indicated, { ctrl with reorderingCtrlTimer := bPktInBuf })

def reorderingCtrlTimeoutHandler (stopped : Bool) (ctrl : ReorderCtrl Frame) : List Frame × ReorderCtrl Frame :=
  if stopped then ([], { ctrl with reorderingCtrlTimer := false })
  else
    let (bPktInBuf, indicated, ctrl) := recvIndicatepktsInOrder seqNum ctrl true
    (indicated, { ctrl with reorderingCtrlTimer := bPktInBuf })

def processAddbaReq (ctrl : ReorderCtrl Frame) (startSeq : BitVec 12) (bAcceptAddbaReq : Bool) : ReorderCtrl Frame :=
  { ctrl with indicateSeq := startSeq.setWidth 16, enable := bAcceptAddbaReq }

def processDelba (ctrl : ReorderCtrl Frame) : ReorderCtrl Frame :=
  { ctrl with enable := false, indicateSeq := 0xffff }

end Reorder

/-- The control block, and what has been received, accepted and indicated. The latter two
begin anew with each request for an agreement. -/
structure ReorderState (Frame : Type) where
  ctrl : ReorderCtrl Frame
  /-- `bDriverStopped` or `bSurpriseRemoved`. -/
  stopped : Bool
  received : List Frame
  accepted : List Frame
  indicated : List Frame

inductive ReorderAction (Frame : Type) where
  | recv (prframe : Frame)
  | timeout
  | addba (startSeq : BitVec 12) (bAcceptAddbaReq : Bool)
  | delba
  | stop

variable {Frame : Type}

def ReorderAction.Within : ReorderAction Frame → Prop
  | recv _ | timeout => True
  | addba _ _ | delba | stop => False

def timeouts : List (ReorderAction Frame) → Nat
  | [] => 0
  | .timeout :: rest => timeouts rest + 1
  | _ :: rest => timeouts rest

def ReorderState.after (seqNum : Frame → U16) (state : ReorderState Frame) : ReorderAction Frame → ReorderState Frame
  | .recv prframe =>
      let (success, indicated, ctrl) := recvIndicatepktReorder seqNum state.ctrl prframe
      { state with
        ctrl
        received := state.received ++ [prframe]
        accepted := if success then state.accepted ++ [prframe] else state.accepted
        indicated :=
          if state.ctrl.enable && state.stopped then state.indicated
          else state.indicated ++ indicated }
  | .timeout =>
      let (indicated, ctrl) := reorderingCtrlTimeoutHandler seqNum state.stopped state.ctrl
      { state with ctrl, indicated := state.indicated ++ indicated }
  | .addba startSeq bAcceptAddbaReq =>
      { state with
        ctrl := processAddbaReq state.ctrl startSeq bAcceptAddbaReq
        accepted := state.ctrl.pendingRecvframeQueue
        indicated := [] }
  | .delba => { state with ctrl := processDelba state.ctrl }
  | .stop => { state with stopped := true }

/-- The sequence number, as `pkt_attrib` has it. -/
def seqU16 (seqNum : Frame → BitVec 12) (prframe : Frame) : U16 := (seqNum prframe).setWidth 16

/-- The receive path for the traffic identifier, from `alloc_stainfo` on. Every frame is a new
one, and the timer runs out when it is set. -/
def reorderSystem (seqNum : Frame → BitVec 12) : TransitionSystem (ReorderState Frame) (ReorderAction Frame) where
  initial state :=
    state.ctrl = ⟨false, 0xffff, 64, [], false⟩ ∧ state.stopped = false ∧ state.received = [] ∧
      state.indicated = []
  step before action after :=
    after = before.after (seqU16 seqNum) action ∧
      match action with
      | .recv prframe => prframe ∉ before.received
      | .timeout => before.ctrl.reorderingCtrlTimer = true
      | _ => True

end Floid.Wifi
