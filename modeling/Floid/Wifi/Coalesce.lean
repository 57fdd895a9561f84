import Floid.Wifi.Ccmp
import Floid.Wifi.FragmentCipher
import Floid.Wifi.PacketNumbers

/-!
The building of a frame to send. `xmitframe_coalesce` writes the fragments of a packet into a
transmit buffer, each behind the room for its descriptor, puts the MIC of TKIP behind the last
one and encrypts them. Where the next functions find the fragments, they compute anew.
-/

namespace Floid.Wifi

open Osk Lib

/-- `TXDESC_SIZE`, `PACKET_OFFSET_SZ` and `TXDESC_OFFSET`. -/
def txdescSize : Nat := 32
def packetOffsetSz : Nat := 8
def txdescOffset : Nat := txdescSize + packetOffsetSz

def wlanhdrOffset : Nat := 64

inductive FwState where
  | station
  | accessPoint
  | adhoc
  | other
  deriving DecidableEq, Repr

/-- What `pkt_attrib` has for the building of a frame. -/
structure TxAttrib extends XmitAttrib where
  subtype : U8
  etherType : U16
  pktHdrlen : Nat
  pktlen : Nat
  dst : MacAddr
  src : MacAddr
  ra : MacAddr
  ta : MacAddr
  bswenc : Bool
  keyIdx : U8
  icv : Vector U8 8
  priority : U8
  ackPolicy : U8
  eosp : Bool
  mdata : Bool

/-- What `sta_info` has for it. -/
structure TxSta extends StaInfo where
  dot11tkiptxmickey : Vector U8 16
  dot11txpn : BitVec 64
  txseqTid : Vector U16 16

def TxSta.seqnum (psta : TxSta) (priority : U8) : U16 :=
  psta.txseqTid[priority.toNat]?.getD 0 &&& 0xfff

def TxSta.numbered (psta : TxSta) (priority : U8) : TxSta :=
  { psta with txseqTid := psta.txseqTid.setIfInBounds priority.toNat (psta.seqnum priority + 1) }

structure TxPriv where
  security : SecurityPriv
  dot118021XGrptxmickey : Vector U8 16
  fwState : FwState
  bssid : MacAddr
  qosOption : Bool

def orWord (hdr : List U8) (place : Nat) (word : U16) : List U8 :=
  (hdr.modify place (· ||| word.setWidth 8)).modify (place + 1) (· ||| (word >>> 8).setWidth 8)

def setSeqNum (hdr : List U8) (num : U16) : List U8 :=
  (hdr.modify 22 (· &&& 0x0f#8 ||| (num <<< 4).setWidth 8)).modify 23
    fun _ => ((num <<< 4) >>> 8).setWidth 8

def TxPriv.addresses (priv : TxPriv) (attrib : TxAttrib) : Option (U16 × MacAddr × MacAddr × MacAddr) :=
  match priv.fwState with
  | .station => some (0x0100, priv.bssid, attrib.src, attrib.dst)
  | .accessPoint => some (0x0200, attrib.dst, priv.bssid, attrib.src)
  | .adhoc => some (0, attrib.dst, attrib.src, priv.bssid)
  | .other => none

def clearedHeader (control : U16) (addresses : List U8) : List U8 :=
  [control.setWidth 8, (control >>> 8).setWidth 8, 0, 0] ++ addresses ++ List.replicate 42 0

def makeWlanhdr (priv : TxPriv) (psta : TxSta) (attrib : TxAttrib) : Bool × List U8 :=
  let subtype : U16 := attrib.subtype.setWidth 16
  let unaddressed := clearedHeader subtype (List.replicate 18 0)
  if attrib.subtype &&& 0x08 = 0 then (true, unaddressed)
  else
    match priv.addresses attrib with
    | none => (false, unaddressed)
    | some (ds, addr1, addr2, addr3) =>
        let control := subtype ||| ds ||| (if attrib.mdata then 0x2000 else 0) |||
          (if attrib.encrypt = .noPrivacy then 0 else 0x4000)
        let hdr := clearedHeader control (addr1.toList ++ addr2.toList ++ addr3.toList)
        let qc : U16 := (attrib.priority &&& 0xf).setWidth 16 ||| (if attrib.eosp then 0x10 else 0) |||
          (attrib.ackPolicy &&& 3).setWidth 16 <<< 5
        let hdr := if priv.qosOption then orWord hdr (attrib.hdrlen - 2) qc else hdr
        (true, setSeqNum hdr (psta.seqnum attrib.priority))

/-- `rtw_put_snap`: the bytes that it writes. -/
def putSnap (hProto : U16) : List U8 :=
  let llc : List U8 := [0xaa, 0xaa, 0x03]
  let oui : List U8 := if hProto = 0x8137 ∨ hProto = 0x80f3 then [0x00, 0x00, 0xf8] else [0, 0, 0]
  llc ++ oui ++ [(hProto >>> 8).setWidth 8, hProto.setWidth 8]

structure FragmentPlace where
  start : Nat
  payload : Nat
  count : Nat
  deriving DecidableEq, Repr

section Fragments

variable (attrib : TxAttrib)

def TxAttrib.icvRoom : Nat := if attrib.bswenc then attrib.icvLen else 0

def TxAttrib.mpduLen (llcSz : Nat) : Int :=
  (attrib.fragLen : Int) - 4 - attrib.hdrlen - attrib.ivLen - llcSz - attrib.icvRoom

def pktfileRead (rest : List U8) (rlen : Int) : List U8 :=
  if rlen < 0 then rest else rest.take rlen.toNat

def setMFrag (memStart : Nat) (more : Bool) (buffer : List U8) : Option (List U8) := do
  let control ← buffer[memStart + 1]?
  overwrite buffer (memStart + 1) [if more then control ||| 0x04 else control &&& ~~~0x04]

def fragmentData (llc rest : List U8) : List U8 :=
  if isMcast attrib.ra then rest.take attrib.pktlen
  else pktfileRead rest (attrib.mpduLen llc.length)

def fragmentIv (txpn : BitVec 64) : List U8 × BitVec 64 :=
  if attrib.ivLen = 0 then ([], txpn)
  else
    let (iv, next) := drawIv attrib.encrypt (isMcast attrib.ra) attrib.keyIdx txpn
    (iv.take attrib.ivLen, next)

def writeFragment (llc rest iv : List U8) (memStart : Nat) (buffer : List U8) : Option (FragmentPlace × List U8) := do
  let buffer ← setMFrag memStart true buffer
  let buffer ← overwrite buffer (memStart + attrib.hdrlen) iv
  let payload := memStart + attrib.hdrlen + attrib.ivLen
  let text := llc ++ fragmentData attrib llc rest
  let buffer ← overwrite buffer payload text
  let buffer ← overwrite buffer (payload + text.length) (attrib.icv.toList.take attrib.icvRoom)
  return (⟨memStart, payload, text.length⟩, buffer)

/-- The loop of `xmitframe_coalesce`, from a fragment on, for at most so many. The header of
each but the first is copied from behind `TXDESC_OFFSET`. -/
def coalesceFragments (pbufStart : Nat) : Nat → Nat → Nat → List U8 → BitVec 64 → List U8 →
    Option (List FragmentPlace × BitVec 64 × List U8)
  | 0, _, _, _, _, _ => none
  | left + 1, frgInx, memStart, rest, txpn, buffer => do
      let llc := if frgInx = 0 then putSnap attrib.etherType else []
      let (iv, txpn) := fragmentIv attrib txpn
      let (fragment, buffer) ← writeFragment attrib llc rest iv memStart buffer
      let rest := rest.drop (fragmentData attrib llc rest).length
      if isMcast attrib.ra ∨ rest = [] then
        let buffer ← setMFrag memStart false buffer
        return ([fragment], txpn, buffer)
      else
        let memStart := rnd4 (fragment.payload + fragment.count + attrib.icvRoom) + txdescOffset
        let header ← segment buffer (pbufStart + txdescOffset) attrib.hdrlen
        let buffer ← overwrite buffer memStart header
        let (fragments, txpn, buffer) ←
          coalesceFragments pbufStart left (frgInx + 1) memStart rest txpn buffer
        return (fragment :: fragments, txpn, buffer)

def TxAttrib.txcmdsz (count : Nat) : Nat := attrib.hdrlen + attrib.ivLen + count + attrib.icvRoom

def TxAttrib.fragmented (fragments : List FragmentPlace) : TxAttrib :=
  { attrib with
    nrFrags := fragments.length
    lastTxcmdsz := attrib.txcmdsz ((fragments.getLast?.map FragmentPlace.count).getD 0) }

/-- The payloads that `xmitframe_addmic` goes over, of so many fragments from a place on: where
each begins, and how long it is. -/
def addmicPlaces : Nat → Nat → List (Nat × Nat)
  | 0, _ => []
  | left + 1, payload =>
      let payload := rnd4 payload + attrib.hdrlen + attrib.ivLen
      if left = 0 then
        [(payload, attrib.lastTxcmdsz - attrib.hdrlen - attrib.ivLen - attrib.icvRoom)]
      else
        let length := attrib.fragLen - attrib.hdrlen - attrib.ivLen - attrib.icvRoom
        (payload, length) :: addmicPlaces left (payload + length + attrib.icvLen)

end Fragments

def segments (buffer : List U8) : List (Nat × Nat) → Option (List U8)
  | [] => some []
  | (place, count) :: rest => do
      let first ← segment buffer place count
      let others ← segments buffer rest
      return first ++ others

def txMickey (priv : TxPriv) (psta : TxSta) (attrib : TxAttrib) : Vector U8 16 :=
  if isMcast attrib.ra then priv.dot118021XGrptxmickey else psta.dot11tkiptxmickey

def micPriority (priv : TxPriv) (attrib : TxAttrib) : U8 :=
  if priv.qosOption then attrib.priority else 0

/-- `xmitframe_addmic`, for a frame at a place: whether it returns `_SUCCESS`, `pkt_attrib` and
the buffer. It appends the same bytes as `seccalctkipmic`. -/
def xmitframeAddmic (priv : TxPriv) (psta : TxSta) (attrib : TxAttrib) (pframe : Nat)
    (buffer : List U8) : Option (Bool × TxAttrib × List U8) :=
  if attrib.encrypt = .tkip then
    if txMickey priv psta attrib = Vector.replicate 16 0 then some (false, attrib, buffer)
    else do
      let places := addmicPlaces attrib attrib.nrFrags pframe
      let data ← segments buffer places
      let mic ← seccalctkipmic (txMickey priv psta attrib) (buffer.drop pframe) data
        (micPriority priv attrib)
      let buffer ← overwrite buffer ((places.getLast?.map fun (place, length) => place + length).getD 0)
        mic
      return (true, { attrib with lastTxcmdsz := attrib.lastTxcmdsz + 8 }, buffer)
  else some (true, attrib, buffer)

def aesEncryptFragment (prwskey : Block) (attrib : XmitAttrib) (size pframe : Nat)
    (buffer : List U8) : Option (List U8) := do
  let length := BitVec.ofNat 32 size - BitVec.ofNat 32 attrib.hdrlen -
    BitVec.ofNat 32 attrib.ivLen - BitVec.ofNat 32 attrib.icvLen
  let sent ← aesCipher prwskey attrib.hdrlen (buffer.drop pframe) length
  return buffer.take pframe ++ sent

def aesEncrypt (stainfo : StaInfo) (attrib : XmitAttrib) (pframe : Nat) (buffer : List U8) : Option (List U8) :=
  if attrib.encrypt = .aes then
    forFragments (aesEncryptFragment stainfo.dot118021xUncstKey attrib) attrib attrib.nrFrags pframe
      buffer
  else some buffer

/-- `xmitframe_swencrypt`, for a frame at a place. What the ciphers return is not looked at. -/
def xmitframeSwencrypt (stale : U16) (priv : TxPriv) (psta : TxSta) (attrib : TxAttrib)
    (pframe : Nat) (buffer : List U8) : Option (List U8) :=
  if attrib.bswenc then
    match attrib.encrypt with
    | .wep40 | .wep104 =>
        (wepEncrypt priv.security attrib.toXmitAttrib pframe (some buffer)).map (·.getD buffer)
    | .tkip =>
        (tkipEncrypt stale attrib.ta attrib.toXmitAttrib (fun _ => none) (some psta.toStaInfo)
          attrib.ra pframe (some buffer)).map (·.2.getD buffer)
    | .aes => aesEncrypt psta.toStaInfo attrib.toXmitAttrib pframe buffer
    | .noPrivacy | .tkipWtmic => some buffer
  else some buffer

/-- What `xmitframe_coalesce` leaves: whether it returns `_SUCCESS`, `pkt_attrib`, the station,
the fragments that it has written and the buffer. -/
structure Coalesced where
  success : Bool
  attrib : TxAttrib
  psta : Option TxSta
  fragments : List FragmentPlace
  buffer : List U8

/-- `xmitframe_coalesce` up to the encryption, with the beginning of the frame. -/
def buildFragments (priv : TxPriv) (psta : TxSta) (attrib : TxAttrib) (pbufStart pktOffset : Nat)
    (pkt buffer : List U8) : Option Coalesced := do
  let memStart := pbufStart + txdescSize + pktOffset * packetOffsetSz
  let (made, header) := makeWlanhdr priv psta attrib
  let buffer ← overwrite buffer memStart header
  if !made then return ⟨false, attrib, some psta, [], buffer⟩
  else
    let psta := psta.numbered attrib.priority
    let body := pkt.drop attrib.pktHdrlen
    let attrib := { attrib with pktlen := body.length }
    let (fragments, txpn, buffer) ← coalesceFragments attrib pbufStart (body.length + 1) 0 memStart
      body psta.dot11txpn buffer
    let psta := { psta with dot11txpn := txpn }
    let (added, attrib, buffer) ← xmitframeAddmic priv psta (attrib.fragmented fragments) memStart
      buffer
    return ⟨added, attrib, some psta, fragments, buffer⟩

/-- `xmitframe_coalesce`. The station is the one of `pkt_attrib`, or the one that `get_stainfo`
finds for the receiver's address. -/
def xmitframeCoalesce (stale : U16) (priv : TxPriv) (psta : Option TxSta) (attrib : TxAttrib)
    (bufAddr : Option Nat) (pktOffset : Nat) (pkt buffer : List U8) : Option Coalesced :=
  match psta, bufAddr with
  | some sta, some pbufStart => do
      let built ← buildFragments priv sta attrib pbufStart pktOffset pkt buffer
      if !built.success then return built
      else
        let buffer ← xmitframeSwencrypt stale priv sta built.attrib
          (pbufStart + txdescSize + pktOffset * packetOffsetSz) built.buffer
        return { built with buffer }
  | psta, _ => some ⟨false, attrib, psta, [], buffer⟩

end Floid.Wifi
