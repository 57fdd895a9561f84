import Floid.Wifi.Frames

/-!
The handlers of information elements. An element is given by the bytes from its beginning to
the end of the list that has been received. A handler is `none` where the code would read
behind that list, or write behind the field that it fills.
-/

namespace Floid.Wifi

open Osk Lib

def fillField {n : Nat} (field : Vector U8 n) (start : Nat) (data : List U8) : Option (Vector U8 n) :=
  if start + data.length ≤ n then
    some (.ofFn fun place =>
      if start ≤ place.val ∧ place.val < start + data.length then data.getD (place.val - start) 0
      else field[place])
  else none

/-- `registry_priv`, as far as the handlers read it. -/
structure RegistryPriv where
  vrtlCarrierSense : U8
  vcsType : U8

structure HtPriv where
  htOption : Bool
  bwmode : U8
  chOffset : U8

/-- What the elements are for: `mlme_ext_info` with the options of `mlme_priv`, the width of the
channel and the stations that a beacon concerns. -/
structure MlmeInfo where
  qosOption : Bool
  htOption : Bool
  wmmEnable : Bool
  wmmParam : Vector U8 18
  htCapsEnable : Bool
  htCaps : Vector U8 26
  htInfoEnable : Bool
  htInfo : Vector U8 22
  erpEnable : Bool
  erpIe : U8
  supportedRates : Fin 32 → Vector U8 16
  curBwmode : U8
  curChOffset : U8
  bwmodeUpdated : Bool
  apHtpriv : Option HtPriv
  rtsen : Bool
  cts2self : Bool

/-- `WMM_param_handler`: whether it returns `_TRUE`, and the information afterwards. -/
def wmmParamHandler (info : MlmeInfo) (pIE : List U8) : Option (Bool × MlmeInfo) :=
  if info.qosOption = false then some (false, { info with wmmEnable := false })
  else do
    let data ← segment pIE 8 18
    let wmmParam ← fillField info.wmmParam 0 data
    return (true, { info with wmmEnable := true, wmmParam })

def mcsRate (oneStream : Bool) : Vector U8 16 :=
  #v[0xff, if oneStream then 0x00 else 0xff, 0, 0, 0x01, 0, 0, 0, 0, 0, 0, 0, 0, 0, 0, 0]

def mergeHtCap (place : Nat) (own peer : U8) : U8 :=
  if place ≠ 2 then own &&& peer
  else
    let maxAMPDULen := if own &&& 0x3 > peer &&& 0x3 then peer &&& 0x3 else own &&& 0x3
    let minMPDUSpacing := if own &&& 0x1c > peer &&& 0x1c then own &&& 0x1c else peer &&& 0x1c
    maxAMPDULen ||| minMPDUSpacing

def mergeHtCaps (data : List U8) (htCaps : Vector U8 26) (i : Nat) : Nat → Option (Vector U8 26)
  | 0 => some htCaps
  | left + 1 => do
      let peer ← data[i]?
      if inside : i < 26 then
        mergeHtCaps data (htCaps.set i (mergeHtCap i htCaps[i] peer)) (i + 1) left
      else none

/-- `HT_caps_handler`. The byte order is that of the element, as the processor is little endian. -/
def htCapsHandler (oneStream : Bool) (info : MlmeInfo) (pIE : List U8) : Option MlmeInfo :=
  if info.htOption = false then some info
  else do
    let length ← pIE[1]?
    let htCaps ← mergeHtCaps (pIE.drop 2) info.htCaps 0 length.toNat
    let htCaps := Vector.ofFn fun place : Fin 26 =>
      if rate : 3 ≤ place.val ∧ place.val < 19 then htCaps[place] &&& (mcsRate oneStream)[place.val - 3]
      else htCaps[place]
    return { info with htCapsEnable := true, htCaps }

def htInfoHandler (info : MlmeInfo) (pIE : List U8) : Option MlmeInfo :=
  if info.htOption = false then some info
  else do
    let length ← pIE[1]?
    if 22 < length.toNat then return info
    else
      let data ← segment pIE 2 length.toNat
      let htInfo ← fillField info.htInfo 0 data
      return { info with htInfoEnable := true, htInfo }

def erpIEHandler (info : MlmeInfo) (pIE : List U8) : Option MlmeInfo := do
  let length ← pIE[1]?
  if 1 < length.toNat then return info
  else
    let data ← segment pIE 2 length.toNat
    let erpIe ← fillField #v[info.erpIe] 0 data
    return { info with erpEnable := true, erpIe := getElem erpIe 0 Nat.one_pos }

def vcsUpdate (registry : RegistryPriv) (info : MlmeInfo) : MlmeInfo :=
  let protect (on : Bool) : MlmeInfo :=
    { info with rtsen := on && registry.vcsType == 1, cts2self := on && !(registry.vcsType == 1) }
  match registry.vrtlCarrierSense.toNat with
  | 0 => protect false
  | 1 => protect true
  | _ => protect (info.erpEnable && info.erpIe &&& 2 != 0)

def bwmodeUpdateCheck (info : MlmeInfo) (pIE : List U8) : Option MlmeInfo := do
  let infos0 ← pIE[3]?
  let newBwmode : U8 := if infos0 &&& 4 ≠ 0 then 1 else 0
  let newChOffset : U8 :=
    if infos0 &&& 4 ≠ 0 then
      match (infos0 &&& 3).toNat with
      | 1 => 1
      | 3 => 2
      | _ => 0
    else 0
  if newBwmode ≠ info.curBwmode ∨ newChOffset ≠ info.curChOffset then
    return { info with
      bwmodeUpdated := true
      curBwmode := newBwmode
      curChOffset := newChOffset
      apHtpriv := info.apHtpriv.map fun htpriv =>
        if htpriv.htOption then { htpriv with bwmode := newBwmode, chOffset := newChOffset }
        else { htpriv with bwmode := 0, chOffset := 0 } }
  else return { info with bwmodeUpdated := false }

def updateBeaconElement (registry : RegistryPriv) (info : MlmeInfo) (pIE : List U8) : Option MlmeInfo := do
  let elementID ← pIE[0]?
  match elementID.toNat with
  | 61 => bwmodeUpdateCheck info pIE
  | 42 => (erpIEHandler info pIE).map (vcsUpdate registry)
  | _ => return info

def updateBeaconInfoFrom (registry : RegistryPriv) (info : MlmeInfo) (pIE : List U8) (left : Nat) : Option MlmeInfo :=
  if left = 0 then some info
  else do
    let info ← updateBeaconElement registry info pIE
    let length ← pIE[1]?
    updateBeaconInfoFrom registry info (pIE.drop (length.toNat + 2)) (left - (length.toNat + 2))
termination_by left

/-- `update_beacon_info`, with the bytes from `pframe` to the end of the frame. -/
def updateBeaconInfo (registry : RegistryPriv) (info : MlmeInfo) (pframe : List U8) (pktLen : U32) :
    Option MlmeInfo :=
  let len := pktLen - (12 + 24)
  updateBeaconInfoFrom registry info (pframe.drop (12 + 24)) len.toNat

/-- The loop of `get_ie`. NULL is `some none`, an element with its length is `some (some _)`. -/
def getIeFrom (index : U8) (p : List U8) (left : Int) : Option (Option (List U8 × Nat)) := do
  let id ← p[0]?
  let length ← p[1]?
  if id = index then return some (p, length.toNat)
  else
    let left := left - (length.toNat + 2)
    if left ≤ 0 then return none
    else getIeFrom index (p.drop (length.toNat + 2)) left
termination_by left.toNat

def getIe (pbuf : List U8) (index : U8) (limit : Int) : Option (Option (List U8 × Nat)) :=
  if limit < 1 then some none else getIeFrom index pbuf limit

/-- `update_sta_support_rate`: whether it returns `_SUCCESS`, and the information afterwards. -/
def updateStaSupportRate (info : MlmeInfo) (pvarIe : List U8) (varIeLen : U32) (camIdx : Fin 32) :
    Option (Bool × MlmeInfo) := do
  match ← getIe pvarIe 1 varIeLen.toInt with
  | none => return (false, info)
  | some (pIE, ieLen) =>
      let data ← segment pIE 2 ieLen
      let rates ← fillField (info.supportedRates camIdx) 0 data
      let supportRateNum := ieLen
      match ← getIe pvarIe 50 varIeLen.toInt with
      | none => return (true, { info with supportedRates := Function.update info.supportedRates camIdx rates })
      | some (pIE, ieLen) =>
          let data ← segment pIE 2 ieLen
          let rates ← fillField rates supportRateNum data
          return (true, { info with supportedRates := Function.update info.supportedRates camIdx rates })

end Floid.Wifi
