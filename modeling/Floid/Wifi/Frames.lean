import Floid.Lib.Buffer
import Floid.Wifi.Arcfour

/-!
Frames in memory. A received frame has a buffer from `rx_head` to `rx_end`; places in it
are counted from `rx_head`. A function is `none` where the code would read or write
outside a buffer.
-/

namespace Floid.Wifi

open Osk Lib

/-- The encryption algorithms: `_NO_PRIVACY_` and the others. -/
inductive Privacy where
  | noPrivacy
  | wep40
  | tkip
  | tkipWtmic
  | aes
  | wep104
  deriving DecidableEq, Repr

/-- `_WEP40_` and `_WEP104_`. -/
def Privacy.isWep : Privacy → Bool
  | wep40 | wep104 => true
  | _ => false

/-- `enum P2P_ROLE`. -/
inductive P2pRole where
  | disable
  | device
  | client
  | go
  deriving DecidableEq, Repr

/-- `enum P2P_STATE`. -/
inductive P2pState where
  | none
  | idle
  | listen
  | scan
  | findPhaseListen
  | findPhaseSearch
  | txProvisionDisReq
  | rxProvisionDisRsp
  | rxProvisionDisReq
  | gonegoIng
  | gonegoOk
  | gonegoFail
  | recvInviteReq
  | provisioningIng
  | provisioningDone
  deriving DecidableEq, Repr

def P2pState.searching (state : P2pState) : Bool := state = scan || state = findPhaseSearch

abbrev MacAddr := Vector U8 6

structure RxPktAttrib where
  amsdu : Bool
  order : Bool
  qos : Bool
  toFrDs : Nat
  seqNum : U16
  fragNum : U8
  mfrag : Bool
  privacy : Bool
  bdecrypted : Bool
  hdrlen : Nat
  ivLen : Nat
  icvLen : Nat
  encrypt : Privacy
  priority : U8
  dst : MacAddr
  src : MacAddr
  ta : MacAddr
  ra : MacAddr
  bssid : MacAddr

/-- `recv_frame_hdr`, with the memory from `rx_head` to `rx_end`. -/
structure RecvFrame where
  attrib : RxPktAttrib
  len : U32
  buffer : List U8
  rxData : Nat
  rxTail : Nat

namespace RecvFrame

def pull (frame : RecvFrame) (sz : Nat) : Option RecvFrame :=
  if frame.rxTail < frame.rxData + sz then none
  else some { frame with rxData := frame.rxData + sz, len := frame.len - BitVec.ofNat 32 sz }

/-- `recvframe_put`. -/
def put (frame : RecvFrame) (sz : Nat) : Option RecvFrame :=
  if frame.buffer.length < frame.rxTail + sz then none
  else some { frame with rxTail := frame.rxTail + sz, len := frame.len + BitVec.ofNat 32 sz }

def pullTail (frame : RecvFrame) (sz : Nat) : Option RecvFrame :=
  if frame.rxTail < frame.rxData + sz then none
  else some { frame with rxTail := frame.rxTail - sz, len := frame.len - BitVec.ofNat 32 sz }

def bytes (frame : RecvFrame) : Option (List U8) :=
  segment frame.buffer frame.rxData frame.len.toNat

end RecvFrame

/-- What `security_priv` has for WEP. -/
structure SecurityPriv where
  dot11PrivacyKeyIndex : Fin 4
  dot11DefKey : Fin 4 → Vector U8 16
  dot11DefKeylen : Fin 4 → Nat

end Floid.Wifi
