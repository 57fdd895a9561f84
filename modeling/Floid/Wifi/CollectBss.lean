import Floid.Wifi.AssocRequest
import Floid.Wifi.ScanTable

namespace Floid.Wifi

open Osk

def maxIeSz : Nat := 768

def fixedIeLength : Nat := 12

def dssetIe : U8 := 3
def erpinfoIe : U8 := 42
def htCapabilityIe : U8 := 45
def htAddInfoIe : U8 := 61

def ssidOffset : Nat := 16
def supportedRatesOffset : Nat := 96
def ieOffset : Nat := 120

structure SurveyFrame where
  /-- The memory from `rx_data` on, which does not end with the frame. -/
  memory : Nat → U8
  len : Nat
  recvSignalPower : U32
  signalQual : U8
  signalStrength : U8
  behind : Nat → U8

namespace WlanBssidEx

variable (behind : Nat → U8) (bss : WlanBssidEx)

def memory (place : Nat) : U8 :=
  if place < bssidExSz then bss.byte place else behind (place - bssidExSz)

def setBytes (offset : Nat) (data : List U8) : WlanBssidEx where
  bytes i :=
    if offset ≤ i.val ∧ i.val < offset + data.length then data.getD (i.val - offset) 0
    else bss.bytes i

def copyWithin (dst src count : Nat) : WlanBssidEx :=
  bss.setBytes dst ((List.range count).map fun i => bss.memory behind (src + i))

/-- `get_ie (IEs + _FIXED_IE_LENGTH_, index, &len, IELength - _FIXED_IE_LENGTH_)`; the limit is
a signed number for `get_ie`. -/
def element (index : U8) : Option Nat :=
  getIeAt (bss.memory behind) (ieOffset + fixedIeLength) index
    (bss.ieLength - BitVec.ofNat 32 fixedIeLength).toInt.toNat

def elementLen (p : Nat) : Nat := (bss.memory behind (p + 1)).toNat

end WlanBssidEx

namespace SurveyFrame

variable (frame : SurveyFrame)

def bodyLen : Nat := frame.len - wlanHdrA3Len

/-- The record is cleared, the body copied and the strength of the signal noted. A subtype of
four bits is compared with `WIFI_BEACON`, which is one of eight. -/
def collectBody (antenna : U8) : WlanBssidEx :=
  let subtype := (frame.memory 0 &&& 0xfc) >>> 4
  let bss : WlanBssidEx := ⟨fun _ => 0⟩
  let bss := if subtype = 0x80 then bss.setByte 10 1 else bss
  let bss := bss.setUlong 0 (BitVec.ofNat 32 (bssidExSz - maxIeSz + frame.bodyLen))
  let bss := bss.setUlong 116 (BitVec.ofNat 32 frame.bodyLen)
  let bss := bss.setBytes ieOffset
    ((List.range frame.bodyLen).map fun i => frame.memory (wlanHdrA3Len + i))
  ((bss.setUlong 52 frame.recvSignalPower).setByte 113 frame.signalQual).setByte 112
    frame.signalStrength |>.setByte 114 antenna

def collectSsid (bss : WlanBssidEx) : Option WlanBssidEx :=
  (bss.element frame.behind ssidIe).map fun p =>
    let len := bss.elementLen frame.behind p
    if len ≠ 0 then
      let bss := bss.copyWithin frame.behind ssidOffset (p + 2) len
      -- the length is read again, from a record that the copy may have changed
      bss.setUlong 12 (BitVec.ofNat 32 (bss.elementLen frame.behind p))
    else bss.setUlong 12 0

def collectRateElement (index : U8) (i : Nat) (bss : WlanBssidEx) : WlanBssidEx × Nat :=
  match bss.element frame.behind index with
  | none => (bss, 0)
  | some p =>
      let len := bss.elementLen frame.behind p
      (bss.copyWithin frame.behind (supportedRatesOffset + i) (p + 2) len, len)

def collectRates (bss : WlanBssidEx) : WlanBssidEx :=
  let bss := bss.setBytes supportedRatesOffset (List.replicate 16 0)
  let (bss, i) := frame.collectRateElement supportedratesIe 0 bss
  let (bss, _) := frame.collectRateElement extSupportedratesIe i bss
  bss.setUlong 56 3

def collectHead (antenna : U8) : Option WlanBssidEx :=
  if frame.len < wlanHdrA3Len ∨ maxIeSz < frame.bodyLen then none
  else (frame.collectSsid (frame.collectBody antenna)).map fun bss =>
    ((frame.collectRates bss).setUlong 72 0).setUlong 60 0

def channelElement (bss : WlanBssidEx) : Option U8 :=
  match bss.element frame.behind dssetIe with
  | some p => some (bss.memory frame.behind (p + 2))
  | none => (bss.element frame.behind htAddInfoIe).map fun p => bss.memory frame.behind (p + 2)

def collectTail (channel : U8) (bss : WlanBssidEx) : WlanBssidEx :=
  let bss := bss.setUlong 72 (channel.setWidth 32)
  let bss := bss.copyWithin frame.behind 64 (ieOffset + 8) 2
  let val16 := bss.capability
  let address (offset : Nat) : List U8 := (List.range 6).map fun i => frame.memory (offset + i)
  let bss :=
    if val16.getLsbD 0 then (bss.setUlong 92 1).setBytes 4 (address 10)
    else (bss.setUlong 92 0).setBytes 4 (address 16)
  (bss.setUlong 48 (if val16.getLsbD 4 then 1 else 0)).setUlong 68 0

end SurveyFrame

inductive CoexistCheck where
  | noHt
  | fortyMhzIntolerant
  | tolerant
  deriving DecidableEq, Repr

namespace SurveyFrame

def coexistCheck (frame : SurveyFrame) (bss : WlanBssidEx) : CoexistCheck :=
  match bss.element frame.behind htCapabilityIe with
  | none => .noHt
  | some p =>
      if bss.elementLen frame.behind p = 0 then .noHt
      else if (bss.memory frame.behind (p + 3)).getLsbD 6 then .fortyMhzIntolerant
      else .tolerant

end SurveyFrame

end Floid.Wifi
