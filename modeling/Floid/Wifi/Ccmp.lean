import Floid.Wifi.Aes
import Floid.Wifi.Frames

/-!
CCMP. `aes_cipher` and `aes_decipher` get the bytes from the beginning of a frame to the
end of its buffer, and the lengths of the header and of what follows the CCMP header.
Both go on with a header that is two bytes longer if the frame is a QoS frame and the
header is not the usual one of 26 bytes.

The block function is a parameter where nothing depends on its being AES.
-/

namespace Floid.Wifi

open Osk Lib

def wlanHdrA3Len : Nat := 24
def wlanHdrA3QosLen : Nat := 26

/-- `MAX_MSG_SIZE`, the size of the static buffer of `aes_decipher`. -/
def maxMsgSize : Nat := 2048

def frameControl (pframe : List U8) : Option U16 := do
  let low ← pframe[0]?
  let high ← pframe[1]?
  return high ++ low

def getFrameType (control : U16) : U16 := control &&& 0x000C

def getFrameSubType (control : U16) : U16 := control &&& 0x00FC

structure CcmpShape where
  hdrlen : Nat
  a4Exists : Bool
  qcExists : Bool
  deriving DecidableEq, Repr

/-- The subtypes that `WIFI_DATA_CFACK`, `WIFI_DATA_CFPOLL` and `WIFI_DATA_CFACKPOLL`
compare the two bits of a frame's type with. -/
def ccmpShape (control : U16) (hdrlen : Nat) : CcmpShape :=
  let frtype := getFrameType control
  let frsubtype := getFrameSubType control >>> 4
  let a4Exists := ¬(hdrlen = wlanHdrA3Len ∨ hdrlen = wlanHdrA3QosLen)
  if frtype = 0x0018 ∨ frtype = 0x0028 ∨ frtype = 0x0038 ∨
      frsubtype = 0x0008 ∨ frsubtype = 0x0009 ∨ frsubtype = 0x000A ∨ frsubtype = 0x000B then
    { hdrlen := if hdrlen ≠ wlanHdrA3QosLen then hdrlen + 2 else hdrlen
      a4Exists
      qcExists := true }
  else { hdrlen, a4Exists, qcExists := false }

def pnVector (pframe : List U8) (hdrlen : Nat) : Option (Vector U8 6) := do
  let pn0 ← pframe[hdrlen]?
  let pn1 ← pframe[hdrlen + 1]?
  let pn2 ← pframe[hdrlen + 4]?
  let pn3 ← pframe[hdrlen + 5]?
  let pn4 ← pframe[hdrlen + 6]?
  let pn5 ← pframe[hdrlen + 7]?
  return #v[pn0, pn1, pn2, pn3, pn4, pn5]

def qosByte (shape : CcmpShape) (mpdu : List U8) : Option U8 :=
  if shape.qcExists then
    (mpdu[if shape.a4Exists then 30 else 24]?).map fun byte => byte &&& 0x0F
  else some 0

/-- The bytes that `construct_mic_iv` and `construct_ctr_preload` both put after the
flags: the QoS byte, the address A2 and the packet number, last byte first. -/
def ccmpNonce (shape : CcmpShape) (mpdu : List U8) (pn : Vector U8 6) : Option (List U8) := do
  let priority ← qosByte shape mpdu
  let a2 ← segment mpdu 10 6
  return [priority] ++ a2 ++ [pn.get 5, pn.get 4, pn.get 3, pn.get 2, pn.get 1, pn.get 0]

def bigEndian (x : Nat) : List U8 := [BitVec.ofNat 8 (x / 256), BitVec.ofNat 8 (x % 256)]

def constructMicIv (shape : CcmpShape) (mpdu : List U8) (payloadLength : Nat) (pn : Vector U8 6) : Option Block :=
  (ccmpNonce shape mpdu pn).map fun nonce => paddedBlock ([0x59] ++ nonce ++ bigEndian payloadLength)

def constructMicHeader1 (headerLength : Nat) (mpdu : List U8) : Option Block := do
  let control0 ← mpdu[0]?
  let control1 ← mpdu[1]?
  let addresses ← segment mpdu 4 12
  return paddedBlock (bigEndian (headerLength - 2) ++ [control0 &&& 0xCF, control1 &&& 0xC7] ++ addresses)

def constructMicHeader2 (shape : CcmpShape) (mpdu : List U8) : Option Block := do
  let a3 ← segment mpdu 16 6
  let a4 ← if shape.a4Exists then segment mpdu 24 6 else some []
  let qos ← if shape.qcExists then (qosByte shape mpdu).map ([·]) else some []
  return paddedBlock (a3 ++ [0, 0] ++ a4 ++ qos)

def constructCtrPreload (shape : CcmpShape) (mpdu : List U8) (pn : Vector U8 6) (c : Nat) : Option Block :=
  (ccmpNonce shape mpdu pn).map fun nonce => paddedBlock ([0x01] ++ nonce ++ bigEndian c)

section BlockFunction

variable (encrypt : Block → Block)

def micBlocks (buffer : List U8) : Nat → Nat → Block → Option Block
  | 0, _, aesOut => some aesOut
  | count + 1, payloadIndex, aesOut => do
      let block ← segment buffer payloadIndex 16
      micBlocks buffer count (payloadIndex + 16) (encrypt (xor128 aesOut (paddedBlock block)))

def ccmpMic (shape : CcmpShape) (pn : Vector U8 6) (buffer : List U8) (plen : Nat) : Option (List U8) := do
  let micIv ← constructMicIv shape buffer plen pn
  let micHeader1 ← constructMicHeader1 shape.hdrlen buffer
  let micHeader2 ← constructMicHeader2 shape buffer
  let aesOut := encrypt (xor128 (encrypt (xor128 (encrypt micIv) micHeader1)) micHeader2)
  let aesOut ← micBlocks encrypt buffer (plen / 16) (shape.hdrlen + 8) aesOut
  if 0 < plen % 16 then
    let last ← segment buffer (shape.hdrlen + 8 + plen / 16 * 16) (plen % 16)
    return (encrypt (xor128 aesOut (paddedBlock last))).toList.take 8
  else return aesOut.toList.take 8

def ctrBlocks (shape : CcmpShape) (pn : Vector U8 6) : Nat → Nat → List U8 → Option (List U8)
  | 0, _, buffer => some buffer
  | count + 1, i, buffer => do
      let preload ← constructCtrPreload shape buffer pn (i + 1)
      let block ← segment buffer (shape.hdrlen + 8 + i * 16) 16
      let buffer ← overwrite buffer (shape.hdrlen + 8 + i * 16)
        (xor128 (encrypt preload) (paddedBlock block)).toList
      ctrBlocks shape pn count (i + 1) buffer

def ctrPayload (shape : CcmpShape) (pn : Vector U8 6) (plen : Nat) (buffer : List U8) : Option (List U8) := do
  let buffer ← ctrBlocks encrypt shape pn (plen / 16) 0 buffer
  if 0 < plen % 16 then
    let payloadIndex := shape.hdrlen + 8 + plen / 16 * 16
    let preload ← constructCtrPreload shape buffer pn (plen / 16 + 1)
    let last ← segment buffer payloadIndex (plen % 16)
    overwrite buffer payloadIndex
      ((xor128 (encrypt preload) (paddedBlock last)).toList.take (plen % 16))
  else return buffer

/-- What `aes_cipher` does to a frame, and `aes_decipher` to its copy of one: put the MIC
after the payload and encrypt both. -/
def ccmpSeal (shape : CcmpShape) (pn : Vector U8 6) (plen : Nat) (buffer : List U8) : Option (List U8) := do
  let mic ← ccmpMic encrypt shape pn buffer plen
  let buffer ← overwrite buffer (shape.hdrlen + 8 + plen) mic
  let buffer ← ctrPayload encrypt shape pn plen buffer
  let preload ← constructCtrPreload shape buffer pn 0
  let mic ← segment buffer (shape.hdrlen + 8 + plen) 8
  overwrite buffer (shape.hdrlen + 8 + plen)
    ((xor128 (encrypt preload) (paddedBlock mic)).toList.take 8)

def aesCipherWith (hdrlen : Nat) (pframe : List U8) (plen : U32) : Option (List U8) := do
  let control ← frameControl pframe
  let shape := ccmpShape control hdrlen
  let pn ← pnVector pframe shape.hdrlen
  ccmpSeal encrypt shape pn plen.toNat pframe

/-- `aes_decipher`, for the block function of a key, with what it finds the MIC to be,
which goes to a trace message only. -/
def aesDecipherWith (hdrlen : Nat) (pframe : List U8) (plen : U32) : Option (List U8 × Bool) := do
  let control ← frameControl pframe
  let payload := (plen - 8).toNat
  let pn ← pnVector pframe hdrlen
  let shape := ccmpShape control hdrlen
  let pframe ← ctrPayload encrypt shape pn payload pframe
  -- the copy goes into the static buffer, whatever the length
  let message ← segment pframe 0 (shape.hdrlen + plen.toNat + 8)
  if maxMsgSize < message.length then none
  else
    let pn ← pnVector pframe shape.hdrlen
    let message ← ccmpSeal encrypt shape pn payload message
    let received ← segment pframe (shape.hdrlen + 8 + payload) 8
    let computed ← segment message (shape.hdrlen + 8 + payload) 8
    return (pframe, received == computed)

end BlockFunction

def aesCipher (key : Block) : Nat → List U8 → U32 → Option (List U8) :=
  aesCipherWith (aes128k128d key)

def aesDecipher (key : Block) : Nat → List U8 → U32 → Option (List U8 × Bool) :=
  aesDecipherWith (aes128k128d key)

end Floid.Wifi
