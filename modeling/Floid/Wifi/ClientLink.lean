import Floid.Wifi.ApAuth

/-!
The link machine of a station that joins an infrastructure network: `start_clnt_join`, the
handlers of the frames that drive it, and the link timer.
-/

namespace Floid.Wifi

open Osk

def wifiFwStationState : U32 := 0x00000002
def wifiFwNullState : U32 := 0x00000000
def wifiFwAssocState : U32 := 0x00002000
def wifiFwAssocSuccess : U32 := 0x00004000

def wifiFwLinkingState : U32 :=
  wifiFwAuthNull ||| wifiFwAuthState ||| wifiFwAuthSuccess ||| wifiFwAssocState

def reauthLimit : Nat := 2
def reassocLimit : Nat := 2

structure LinkFrame (Station : Type*) extends MgntFrame Station where
  addr1 : Station
  addr3 : Station

inductive LinkRequest where
  | auth (algorithm seq : Nat) (challenge : Option ChallengeText)
  | assocreq

/-- What the machine uses of `mlme_ext_info` and its timer, and the join results it reported
and the frames it sent since the join began. -/
structure ClientLink (Station : Type*) where
  myid : Station
  bcAddr : Station
  bssid : Station
  state : U32
  authAlgo : AuthAlgrthm
  authSeq : Nat
  reauthCount : Nat
  reassocCount : Nat
  linkCount : Nat
  chgTxt : ChallengeText
  capability : Nat
  slotTime : Nat
  aid : Nat
  linkTimer : Bool
  joinResults : List Int
  sent : List LinkRequest

inductive LinkEvent (Station : Type*) where
  | beacon (frame : LinkFrame Station) (surveying : Bool)
  | auth (frame : LinkFrame Station)
  | assocRsp (frame : LinkFrame Station)
  | deauth (frame : LinkFrame Station)
  | disassoc (frame : LinkFrame Station)
  | expiry

structure LinkInput (Station : Type*) where
  event : LinkEvent Station
  cmdAllocated : Bool
  xmitAllocated : Bool

namespace LinkFrame

variable {Station : Type*} (frame : LinkFrame Station)

def toDs : Bool := (frame.memory 1).getLsbD 0

/-- `get_da`. -/
def da : Station := if frame.toDs then frame.addr3 else frame.addr1

def authOffset : Nat := wlanHdrA3Len + if frame.privacy then 4 else 0

def authAlgthm : Nat := frame.le16 frame.authOffset
def authSeqNum : Nat := frame.le16 (frame.authOffset + 2)
def authStatus : Nat := frame.le16 (frame.authOffset + 4)

def challengeElement : Option Nat := frame.challengeFrom 0

def assocCapability : Nat := frame.le16 wlanHdrA3Len
def assocStatus : Nat := frame.le16 (wlanHdrA3Len + 2)
def assocAid : Nat := frame.le16 (wlanHdrA3Len + 4) &&& 0x3fff

end LinkFrame

namespace ClientLink

variable {Station : Type*} [DecidableEq Station] (link : ClientLink Station)

def has (bits : U32) : Bool := link.state &&& bits ≠ 0

def isStation : Bool := link.state &&& 0x03 = wifiFwStationState

def requestAlgorithm : Nat := if link.authAlgo = .shared then 1 else 0

def reportJoinRes (res : Int) (cmdAllocated : Bool) : ClientLink Station :=
  if cmdAllocated then { link with joinResults := link.joinResults ++ [res] } else link

def issueAuthRequest (xmitAllocated : Bool) : ClientLink Station :=
  if xmitAllocated then
    { link with
      sent := link.sent ++ [.auth link.requestAlgorithm link.authSeq
        (if link.authSeq = 3 ∧ link.has wifiFwAuthState ∧ link.requestAlgorithm = 1 then some link.chgTxt
          else none)] }
  else link

def issueAssocreq (xmitAllocated : Bool) : ClientLink Station :=
  if xmitAllocated then { link with sent := link.sent ++ [.assocreq] } else link

/-- `start_clnt_join` for a network with the capability of an infrastructure one. -/
def startClntJoin : ClientLink Station :=
  { link with
    state := wifiFwAuthNull ||| wifiFwStationState
    linkTimer := true
    joinResults := []
    sent := [] }

def startClntAuth (xmitAllocated : Bool) : ClientLink Station :=
  { ({ link with
      state := (link.state &&& ~~~wifiFwAuthNull) ||| wifiFwAuthState
      authSeq := 1
      reauthCount := 0
      reassocCount := 0
      linkCount := 0 } : ClientLink Station).issueAuthRequest xmitAllocated with linkTimer := true }

def startClntAssoc (xmitAllocated : Bool) : ClientLink Station :=
  { ({ link with
      state := (link.state &&& ~~~(wifiFwAuthNull ||| wifiFwAuthState)) |||
        (wifiFwAuthSuccess ||| wifiFwAssocState) } : ClientLink Station).issueAssocreq xmitAllocated with
    linkTimer := true }

def onBeacon (frame : LinkFrame Station) (surveying xmitAllocated : Bool) : ClientLink Station :=
  if surveying then link
  else if frame.addr3 = link.bssid ∧ link.has wifiFwAuthNull then link.startClntAuth xmitAllocated
  else link

def copyChallenge (frame : LinkFrame Station) (p : Nat) : ClientLink Station :=
  { link with
    chgTxt := Vector.ofFn fun index =>
      if index < (frame.memory (p + 1)).toNat then frame.memory (p + 2 + index) else link.chgTxt[index] }

def onAuthClient (frame : LinkFrame Station) (xmitAllocated : Bool) : ClientLink Station :=
  if frame.da ≠ link.myid then link
  else if link.has wifiFwAuthState = false then link
  else if frame.authStatus ≠ 0 then link
  else if frame.authSeqNum = 2 then
    if link.authAlgo = .shared then
      match frame.challengeElement with
      | none => link
      | some p => { link.copyChallenge frame p with authSeq := 3 }.issueAuthRequest xmitAllocated
    else link.startClntAssoc xmitAllocated
  else if frame.authSeqNum = 4 then
    if link.authAlgo = .shared then link.startClntAssoc xmitAllocated else link
  else link

def onAssocRsp (frame : LinkFrame Station) (cmdAllocated : Bool) : ClientLink Station :=
  if frame.da ≠ link.myid then link
  else if link.has (wifiFwAuthSuccess ||| wifiFwAssocState) = false then link
  else if link.has wifiFwAssocSuccess then link
  else if 0 < frame.assocStatus then
    ({ link with linkTimer := false } : ClientLink Station).reportJoinRes (-4) cmdAllocated
  else
    ({ link with
      linkTimer := false
      capability := frame.assocCapability
      slotTime := if frame.assocCapability.testBit 10 then 9 else 20
      aid := frame.assocAid
      state := (link.state &&& ~~~wifiFwAssocState) ||| wifiFwAssocSuccess } :
        ClientLink Station).reportJoinRes frame.assocAid cmdAllocated

/-- `OnDeAuth` and `OnDisassoc` of a client, with `receive_disconnect`; the event that a
linked station is lost is not a join result. -/
def receiveDisconnect (frame : LinkFrame Station) (cmdAllocated : Bool) : ClientLink Station :=
  if frame.addr3 ≠ link.bssid then link
  else if link.isStation then
    if link.has wifiFwAssocSuccess then link
    else if link.has wifiFwLinkingState then link.reportJoinRes (-2) cmdAllocated
    else link
  else link

def linkTimerHdl (cmdAllocated xmitAllocated : Bool) : ClientLink Station :=
  if link.has wifiFwAuthNull then
    ({ link with state := wifiFwNullState } : ClientLink Station).reportJoinRes (-3) cmdAllocated
  else if link.has wifiFwAuthState then
    let link := { link with reauthCount := link.reauthCount + 1 }
    if reauthLimit < link.reauthCount ∧ link.authAlgo ≠ .auto then
      ({ link with state := wifiFwNullState } : ClientLink Station).reportJoinRes (-1) cmdAllocated
    else
      let link :=
        if reauthLimit < link.reauthCount then { link with authAlgo := .shared, reauthCount := 0 }
        else link
      { ({ link with authSeq := 1 } : ClientLink Station).issueAuthRequest xmitAllocated with
        linkTimer := true }
  else if link.has wifiFwAssocState then
    let link := { link with reassocCount := link.reassocCount + 1 }
    if reassocLimit < link.reassocCount then
      ({ link with state := wifiFwNullState } : ClientLink Station).reportJoinRes (-2) cmdAllocated
    else { link.issueAssocreq xmitAllocated with linkTimer := true }
  else link

def dispatched (frame : LinkFrame Station) : Bool :=
  frame.addr1 = link.myid ∨ frame.addr1 = link.bcAddr

def step (input : LinkInput Station) : ClientLink Station :=
  match input.event with
  | .beacon frame surveying =>
      if link.dispatched frame then link.onBeacon frame surveying input.xmitAllocated else link
  | .auth frame => if link.dispatched frame then link.onAuthClient frame input.xmitAllocated else link
  | .assocRsp frame => if link.dispatched frame then link.onAssocRsp frame input.cmdAllocated else link
  | .deauth frame | .disassoc frame =>
      if link.dispatched frame then link.receiveDisconnect frame input.cmdAllocated else link
  | .expiry =>
      if link.linkTimer then
        ({ link with linkTimer := false } : ClientLink Station).linkTimerHdl input.cmdAllocated input.xmitAllocated
      else link

def run : ClientLink Station → List (LinkInput Station) → ClientLink Station
  | link, [] => link
  | link, input :: rest => run (link.step input) rest

end ClientLink

end Floid.Wifi
