import Floid.Wifi.Frames

namespace Floid.Wifi

open Osk Lib

/-- `mic_data`, without the key, which is only needed to reset it. -/
structure MicData where
  L : U32
  R : U32
  M : U32
  nBytesInM : Nat

def secmicgetuint32 (p0 p1 p2 p3 : U8) : U32 := p3 ++ p2 ++ p1 ++ p0

def secmicsetkey (key : Vector U8 16) : MicData where
  L := secmicgetuint32 (key.get 0) (key.get 1) (key.get 2) (key.get 3)
  R := secmicgetuint32 (key.get 4) (key.get 5) (key.get 6) (key.get 7)
  M := 0
  nBytesInM := 0

def secmicappendbyte (mic : MicData) (b : U8) : MicData :=
  let M := mic.M ||| b.setWidth 32 <<< (8 * mic.nBytesInM)
  if 4 ≤ mic.nBytesInM + 1 then
    let L := mic.L ^^^ M
    let R := mic.R ^^^ L.rotateLeft 17
    let L := L + R
    let R := R ^^^ ((L &&& 0xff00ff00) >>> 8 ||| (L &&& 0x00ff00ff) <<< 8)
    let L := L + R
    let R := R ^^^ L.rotateLeft 3
    let L := L + R
    let R := R ^^^ L.rotateRight 2
    { L := L + R, R, M := 0, nBytesInM := 0 }
  else { mic with M, nBytesInM := mic.nBytesInM + 1 }

def secmicappend (mic : MicData) (src : List U8) : MicData := src.foldl secmicappendbyte mic

/-- `secgetmic`. After the five bytes at most three zeros complete a word. -/
def secgetmic (mic : MicData) : List U8 :=
  let mic := secmicappend mic [0x5a, 0, 0, 0, 0]
  let mic := secmicappend mic (List.replicate ((4 - mic.nBytesInM) % 4) 0)
  littleEndian mic.L ++ littleEndian mic.R

/-- `seccalctkipmic`, with the bytes from the beginning of the header on. -/
def seccalctkipmic (key : Vector U8 16) (header data : List U8) (pri : U8) : Option (List U8) := do
  let control1 ← header[1]?
  let toDs := control1 &&& 1 ≠ 0
  let fromDs := control1 &&& 2 ≠ 0
  let da ← segment header (if toDs then 16 else 4) 6
  let sa ← segment header (if fromDs then (if toDs then 24 else 16) else 10) 6
  return secgetmic (secmicappend (secmicsetkey key) (da ++ sa ++ [pri, 0, 0, 0] ++ data))

/-- What `sta_info` has for the receive path, except for its queues. -/
structure StaInfo where
  ieee8021xBlocked : Bool
  dot118021xUncstKey : Vector U8 16
  dot11tkiprxmickey : Vector U8 16

/-- What `security_priv` has for the receive path besides the WEP keys. -/
structure RxSecurity where
  dot11AuthAlgrthm : Nat
  binstallGrpkey : Bool
  swDecrypt : Bool
  dot118021XGrpKeyid : Nat
  dot118021XGrpKey : Fin 4 → Vector U8 16
  dot118021XGrprxmickey : Vector U8 16

def isMcast (address : MacAddr) : Bool := address.get 0 &&& 0x01 ≠ 0

def micMatches (mickey : Vector U8 16) (frame : RecvFrame) : Option Bool := do
  let attrib := frame.attrib
  let datalen := frame.len - BitVec.ofNat 32 attrib.hdrlen - BitVec.ofNat 32 attrib.ivLen -
    BitVec.ofNat 32 attrib.icvLen - 8
  let payload := frame.rxData + attrib.hdrlen + attrib.ivLen
  let data ← segment frame.buffer payload datalen.toNat
  let miccode ← seccalctkipmic mickey (frame.buffer.drop frame.rxData) data attrib.priority
  let pframemic ← segment frame.buffer (payload + datalen.toNat) 8
  return miccode == pframemic

def recvframeChkmic (security : RxSecurity) (stainfo : Option StaInfo) (frame : RecvFrame) :
    Option (Bool × RecvFrame) :=
  if frame.attrib.encrypt = .tkip then
    match stainfo with
    | none => some (true, (frame.pullTail 8).getD frame)
    | some sta =>
        if isMcast frame.attrib.ra then
          -- the group key is not installed: the MIC is left where it is
          if !security.binstallGrpkey then some (false, frame)
          else (micMatches security.dot118021XGrprxmickey frame).map
            fun ok => (ok, (frame.pullTail 8).getD frame)
        else (micMatches sta.dot11tkiprxmickey frame).map
          fun ok => (ok, (frame.pullTail 8).getD frame)
  else some (true, frame)

end Floid.Wifi
