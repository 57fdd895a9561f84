import Floid.Wifi.ClientLink
import Floid.Wifi.Reorder

namespace Floid.Wifi

open Osk Lib
open Function (update)

def wifiFwApState : U32 := 0x00000003

def maxTid : Nat := 16

def wlanCategoryBack : U8 := 3

inductive BackAction where
  | addbaReq
  | addbaResp
  | delba
  deriving DecidableEq, Repr

def BackAction.code : BackAction → U8
  | addbaReq => 0
  | addbaResp => 1
  | delba => 2

/-- What a call of `issue_action_BA` is for: an agreement for a traffic identifier, with
the first sequence number; the answer to a request; the end of an agreement, by the
originator or by the recipient. -/
inductive BackCall where
  | addbaReq (tid : Nat) (startSeq : BitVec 12)
  | addbaResp (tid : Nat) (accepted : Bool)
  | delba (tid : Nat) (initiator : Bool)
  deriving DecidableEq, Repr

structure BackFrame where
  addr1 : MacAddr
  addr2 : MacAddr
  body : List U8
  call : BackCall

def fixedWord (value : U16) : List U8 := [value.setWidth 8, (value >>> 8).setWidth 8]

/-- `frame_body[index]`. -/
def BackFrame.byte (frame : BackFrame) (index : Nat) : U8 := frame.body.getD index 0

def BackFrame.word (frame : BackFrame) (index : Nat) : U16 :=
  (frame.byte index).setWidth 16 ||| ((frame.byte (index + 1)).setWidth 16 <<< 8)

/-- `struct ADDBA_request`. -/
structure AddbaRequest where
  dialogToken : U8
  baParaSet : U16
  baTimeoutValue : U16
  baStartingSeqctrl : U16
  deriving DecidableEq, Repr

def BackFrame.addbaRequest (frame : BackFrame) : AddbaRequest where
  dialogToken := frame.byte 2
  baParaSet := frame.word 3
  baTimeoutValue := frame.word 5
  baStartingSeqctrl := frame.word 7

def AddbaRequest.tid (request : AddbaRequest) : Nat := ((request.baParaSet >>> 2) &&& 0x0f).toNat

def AddbaRequest.startSeq (request : AddbaRequest) : BitVec 12 :=
  (request.baStartingSeqctrl >>> 4).setWidth 12

structure BaSta (Frame : Type) where
  aggEnableBitmap : U8
  candidateTidBitmap : U8
  txseqTid : Nat → U16
  recvreorderCtrl : Nat → ReorderCtrl Frame

def tidBit (tid : Nat) : U8 := 1 <<< tid

structure BaAdapter (Frame : Type) where
  myid : MacAddr
  state : U32
  htEnable : Bool
  bAcceptAddbaReq : Bool
  dialogToken : U8
  addbaReq : AddbaRequest
  stainfo : MacAddr → Option (BaSta Frame)

variable {Frame : Type}

namespace BaAdapter

def isLinked (adapter : BaAdapter Frame) : Bool :=
  adapter.state &&& 0x03 = wifiFwApState || adapter.state &&& wifiFwAssocSuccess ≠ 0

def setSta (adapter : BaAdapter Frame) (addr : MacAddr) (psta : BaSta Frame) : BaAdapter Frame :=
  { adapter with stainfo := update adapter.stainfo addr (some psta) }

end BaAdapter

def issueAddbaReq (adapter : BaAdapter Frame) (raddr : MacAddr) (status : U16) : BaAdapter Frame × BackFrame :=
  let next := adapter.dialogToken + 1
  let dialogToken := if next = 0 then 1 else next
  let baParaSet : U16 := 0x0803 ||| ((status &&& 0xf) <<< 2)
  -- both callers have looked the station up
  let startSeq : U16 :=
    match adapter.stainfo raddr with
    | some psta => (psta.txseqTid (status &&& 0x07).toNat &&& 0xfff) + 1
    | none => 0
  ({ adapter with dialogToken },
    { addr1 := raddr
      addr2 := adapter.myid
      body := [wlanCategoryBack, BackAction.addbaReq.code, dialogToken] ++ fixedWord baParaSet ++
        fixedWord 0 ++ fixedWord (startSeq <<< 4)
      call := .addbaReq (status &&& 0xf).toNat (startSeq.setWidth 12) })

def issueAddbaResp (adapter : BaAdapter Frame) (raddr : MacAddr) (status : U16) : BackFrame where
  addr1 := raddr
  addr2 := adapter.myid
  body := [wlanCategoryBack, BackAction.addbaResp.code, adapter.addbaReq.dialogToken] ++
    fixedWord status ++ fixedWord adapter.addbaReq.baParaSet ++
    fixedWord adapter.addbaReq.baTimeoutValue
  call := .addbaResp adapter.addbaReq.tid (status = 0)

def issueDelba (adapter : BaAdapter Frame) (raddr : MacAddr) (status : U16) : BackFrame where
  addr1 := raddr
  addr2 := adapter.myid
  body := [wlanCategoryBack, BackAction.delba.code] ++ fixedWord ((status &&& 0x1f) <<< 3) ++ fixedWord 37
  call := .delba ((status >>> 1) &&& 0xf).toNat (status.getLsbD 0)

def addBaHdl (adapter : BaAdapter Frame) (addr : MacAddr) (tid : U8) : BaAdapter Frame × Option BackFrame :=
  match adapter.stainfo addr with
  | none => (adapter, none)
  | some psta =>
      if (adapter.state &&& wifiFwAssocSuccess ≠ 0 ∧ adapter.htEnable) ∨
          adapter.state &&& 0x03 = wifiFwApState then
        let (adapter, frame) := issueAddbaReq adapter addr (tid.setWidth 16)
        (adapter, some frame)
      else
        (adapter.setSta addr
          { psta with candidateTidBitmap := psta.candidateTidBitmap &&& ~~~tidBit tid.toNat }, none)

/-- `process_addba_req`. -/
def processAddbaReqFrame (adapter : BaAdapter Frame) (request : AddbaRequest) (addr : MacAddr) : BaAdapter Frame :=
  match adapter.stainfo addr with
  | none => adapter
  | some psta =>
      adapter.setSta addr
        { psta with
          recvreorderCtrl := update psta.recvreorderCtrl request.tid
            (processAddbaReq (psta.recvreorderCtrl request.tid) request.startSeq adapter.bAcceptAddbaReq) }

def onAddbaResp (psta : BaSta Frame) (frame : BackFrame) : BaSta Frame :=
  let tid := ((frame.byte 5 >>> 2) &&& 0x7).toNat
  if frame.word 3 = 0 then
    { psta with
      aggEnableBitmap := psta.aggEnableBitmap ||| tidBit tid
      candidateTidBitmap := psta.candidateTidBitmap &&& ~~~tidBit tid }
  else { psta with aggEnableBitmap := psta.aggEnableBitmap &&& ~~~tidBit tid }

def onDelba (psta : BaSta Frame) (frame : BackFrame) : BaSta Frame :=
  let tid := ((frame.byte 3 >>> 4) &&& 0xf).toNat
  if frame.byte 3 &&& 8 = 0 then
    { psta with
      aggEnableBitmap := psta.aggEnableBitmap &&& ~~~tidBit tid
      candidateTidBitmap := psta.candidateTidBitmap &&& ~~~tidBit tid }
  else
    { psta with
      recvreorderCtrl := update psta.recvreorderCtrl tid
        (processDelba (psta.recvreorderCtrl tid)) }

def onActionBack (adapter : BaAdapter Frame) (frame : BackFrame) : BaAdapter Frame × Option BackFrame :=
  if adapter.myid ≠ frame.addr1 then (adapter, none)
  else if !adapter.isLinked then (adapter, none)
  else
    match adapter.stainfo frame.addr2 with
    | none => (adapter, none)
    | some psta =>
        if frame.byte 0 ≠ wlanCategoryBack then (adapter, none)
        else if !adapter.htEnable then (adapter, none)
        else if frame.byte 1 = BackAction.addbaReq.code then
          let request := frame.addbaRequest
          let processed := processAddbaReqFrame { adapter with addbaReq := request } request frame.addr2
          let status : U16 := if processed.bAcceptAddbaReq then 0 else 37
          (processed, some (issueAddbaResp processed frame.addr2 status))
        else if frame.byte 1 = BackAction.addbaResp.code then
          (adapter.setSta frame.addr2 (onAddbaResp psta frame), none)
        else if frame.byte 1 = BackAction.delba.code then
          (adapter.setSta frame.addr2 (onDelba psta frame), none)
        else (adapter, none)

def BaSta.inForce (psta : BaSta Frame) (initiator : Bool) (tid : Nat) : Bool :=
  if initiator then psta.aggEnableBitmap &&& tidBit tid ≠ 0
  else (psta.recvreorderCtrl tid).enable

def BaSta.endAgreement (psta : BaSta Frame) (initiator : Bool) (tid : Nat) : BaSta Frame :=
  if initiator then
    { psta with
      aggEnableBitmap := psta.aggEnableBitmap &&& ~~~tidBit tid
      candidateTidBitmap := psta.candidateTidBitmap &&& ~~~tidBit tid }
  else
    { psta with
      recvreorderCtrl := update psta.recvreorderCtrl tid
        (processDelba (psta.recvreorderCtrl tid)) }

def sendDelbaLoop (adapter : BaAdapter Frame) (initiator : Bool) (addr : MacAddr) :
    Nat → Nat → BaSta Frame → BaSta Frame × List BackFrame
  | 0, _, psta => (psta, [])
  | remaining + 1, tid, psta =>
      if psta.inForce initiator tid then
        let status : U16 := ((BitVec.ofNat 16 tid <<< 1) ||| if initiator then 1 else 0) &&& 0x1f
        let (last, frames) :=
          sendDelbaLoop adapter initiator addr remaining (tid + 1) (psta.endAgreement initiator tid)
        (last, issueDelba adapter addr status :: frames)
      else sendDelbaLoop adapter initiator addr remaining (tid + 1) psta

def sendDelba (adapter : BaAdapter Frame) (initiator : Bool) (addr : MacAddr) : BaAdapter Frame × List BackFrame :=
  if !adapter.isLinked then (adapter, [])
  else
    match adapter.stainfo addr with
    | none => (adapter, [])
    | some psta =>
        let (last, frames) := sendDelbaLoop adapter initiator addr maxTid 0 psta
        (adapter.setSta addr last, frames)

inductive Side where
  | left
  | right
  deriving DecidableEq, Repr

def Side.other : Side → Side
  | left => right
  | right => left

structure BaLink (Frame : Type) where
  device : Side → BaAdapter Frame
  channel : Side → List BackFrame

inductive BaLinkAction where
  | addBa (side : Side) (tid : U8)
  | setAccept (side : Side) (accept : Bool)
  | sendDelba (side : Side) (initiator : Bool)
  | deliver (side : Side)
  | transmit (side : Side) (tid : Nat) (seq : U16)
  deriving DecidableEq, Repr

namespace BaLink

variable (link : BaLink Frame)

def peer (side : Side) : MacAddr := (link.device side.other).myid

def setDevice (side : Side) (adapter : BaAdapter Frame) (sent : List BackFrame) : BaLink Frame where
  device := update link.device side adapter
  channel := update link.channel side (link.channel side ++ sent)

def tail (side : Side) (rest : List BackFrame) : BaLink Frame :=
  { link with channel := update link.channel side rest }

def deliver (side : Side) : BaLink Frame :=
  match link.channel side with
  | [] => link
  | frame :: rest =>
      let (after, answer) := onActionBack (link.device side.other) frame
      (link.tail side rest).setDevice side.other after answer.toList

def step : BaLinkAction → BaLink Frame
  | .addBa side tid =>
      let (after, request) := addBaHdl (link.device side) (link.peer side) tid
      link.setDevice side after request.toList
  | .setAccept side accept =>
      link.setDevice side { link.device side with bAcceptAddbaReq := accept } []
  | .sendDelba side initiator =>
      let (after, frames) := Wifi.sendDelba (link.device side) initiator (link.peer side)
      link.setDevice side after frames
  | .deliver side => link.deliver side
  | .transmit side tid seq =>
      match (link.device side).stainfo (link.peer side) with
      | none => link
      | some psta =>
          link.setDevice side ((link.device side).setSta (link.peer side)
            { psta with txseqTid := update psta.txseqTid tid seq }) []

end BaLink

end Floid.Wifi
