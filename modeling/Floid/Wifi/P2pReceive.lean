import Floid.Wifi.GoNegotiation

namespace Floid.Wifi

open Osk Lib

/-- The power saving in `wifidirect_info`. The four arrays have `P2P_MAX_NOA_NUM` entries. -/
structure P2pPs where
  noaIndex : U8
  oppPs : U8
  ctwindow : U8
  noaNum : U8
  noaCount : Vector U8 2
  noaDuration : Vector U32 2
  noaInterval : Vector U32 2
  noaStartTime : Vector U32 2
  /-- `p2p_ps_wk_cmd` has been called. -/
  enabled : Bool

def wordAt (bytes : List U8) (place : Nat) : U32 :=
  (bytes.getD (place + 3) 0).setWidth 32 <<< 24 ||| (bytes.getD (place + 2) 0).setWidth 32 <<< 16 |||
    (bytes.getD (place + 1) 0).setWidth 32 <<< 8 ||| (bytes.getD place 0).setWidth 32

def P2pPs.setNoa (pwdinfo : P2pPs) (noaNum : Fin 2) (descriptor : List U8) : P2pPs :=
  { pwdinfo with
    noaCount := pwdinfo.noaCount.set noaNum (descriptor.getD 0 0)
    noaDuration := pwdinfo.noaDuration.set noaNum (wordAt descriptor 1)
    noaInterval := pwdinfo.noaInterval.set noaNum (wordAt descriptor 5)
    noaStartTime := pwdinfo.noaStartTime.set noaNum (wordAt descriptor 9) }

/-- The loop of `process_p2p_ps_ie` over the descriptors. It is `none` where it comes to an entry
that the arrays do not have. -/
def noaLoop (noaAttr : Vector U8 256) (attrContentlen : Nat) (pwdinfo : P2pPs)
    (noaOffset noaNum : U8) : Option (P2pPs × U8) :=
  if noaOffset.toNat < attrContentlen then
    if inside : noaNum.toNat < 2 then
      match segment noaAttr.toList noaOffset.toNat 13 with
      | none => none
      | some descriptor =>
          noaLoop noaAttr attrContentlen (pwdinfo.setNoa ⟨noaNum.toNat, inside⟩ descriptor)
            (noaOffset + 13) (noaNum + 1)
    else none
  else some (pwdinfo, noaNum)
termination_by 2 - noaNum.toNat
decreasing_by bv_omega

def processP2pPsIe (pwdinfo : P2pPs) (ies : List U8) : Option P2pPs := do
  match ← getP2pIeInto maxP2pIeLen ies ies.length with
  | none => return pwdinfo
  | some p2pIe =>
      let (found, noaAttr, attrContentlen) ←
        getP2pAttrInto p2pIe 0x0c (Vector.replicate 256 (0 : U8)) 0
      if found then
        let pwdinfo := { pwdinfo with
          noaIndex := noaAttr[0]
          oppPs := noaAttr[1] >>> 7
          ctwindow := noaAttr[1] &&& 0x7f }
        let (pwdinfo, noaNum) ← noaLoop noaAttr (if 2 < attrContentlen then attrContentlen else 0)
          pwdinfo 2 0
        return { pwdinfo with noaNum, enabled := pwdinfo.enabled || pwdinfo.oppPs = 1 || 0 < noaNum }
      else return pwdinfo

/-- What `sta_info` has of a P2P device. -/
structure StaDevice where
  devAddr : MacAddr
  devCap : U8
  configMethods : U16
  primaryDevType : Vector U8 8
  numOfSecdevType : U8
  secdevTypesList : Vector U8 32
  devNameLen : U16
  devName : Vector U8 32

def be16At (bytes : List U8) : U16 :=
  (bytes.getD 0 0).setWidth 16 <<< 8 ||| (bytes.getD 1 0).setWidth 16

def StaDevice.readName (psta : StaDevice) (content : List U8) (place : Nat) : Option StaDevice := do
  let type ← segment content place 2
  if be16At type = 0x1011 then
    let nameLen ← segment content (place + 2) 2
    let devNameLen : U16 := if 32 < be16At nameLen then 32 else be16At nameLen
    let name ← segment content (place + 4) devNameLen.toNat
    let devName ← fillField psta.devName 0 name
    return { psta with devNameLen, devName }
  else return { psta with devNameLen := 0 }

def StaDevice.readInfo (psta : StaDevice) (content : List U8) : Option StaDevice := do
  let devAddr ← segment content 0 6
  let configMethods ← segment content 6 2
  let primaryDevType ← segment content 8 8
  let numOfSecdevType ← content[16]?
  let types ← segment content 17 (min 32 (numOfSecdevType.toNat * 8))
  let secdevTypesList ← fillField psta.secdevTypesList 0 types
  { psta with
    devAddr := .ofFn fun i => devAddr.getD i 0
    configMethods := be16At configMethods
    primaryDevType := .ofFn fun i => primaryDevType.getD i 0
    numOfSecdevType
    secdevTypesList }.readName content (17 + numOfSecdevType.toNat * 8)

/-- `process_assoc_req_p2p_ie`, of a device with a role. -/
def processAssocReqDevice (role : P2pRole) (p2pIe : List U8) (psta : StaDevice)
    (allocated : Bool) : Option (Nat × StaDevice) := do
  if role ≠ .go then return (p2pStatusFailRequestUnable, psta)
  let (found, capAttr, _) ← getP2pAttrInto p2pIe 0x02 (Vector.replicate 2 (0 : U8)) 0
  if found = false then return (p2pStatusFailInvalidParam, psta)
  let psta := { psta with devCap := getElem capAttr 0 Nat.zero_lt_two }
  match ← findP2pAttr p2pIe 0x0d with
  | none => return (p2pStatusFailInvalidParam, psta)
  | some (attrlen, data) =>
      if allocated then
        let content ← segment data 0 attrlen
        let psta ← psta.readInfo content
        return (p2pStatusSuccess, psta)
      else return (p2pStatusSuccess, psta)

/-- What `process_p2p_devdisc_req` reads of the driver. -/
structure DevdiscInfo where
  deviceAddr : MacAddr
  p2pGroupSsid : Vector U8 9
  asocList : List P2pClient

structure DevdiscAnswer where
  status : Nat
  dialogToken : U8
  groupDiscReq : Option MacAddr

def findClient (devAddr : MacAddr) : List P2pClient → Nat → Nat × Option MacAddr
  | [], status => (status, none)
  | psta :: rest, _ =>
      if psta.isP2pDevice ∧ psta.devCap.getLsbD 1 ∧ psta.devAddr = devAddr then
        (p2pStatusSuccess, some psta.hwaddr)
      else findClient devAddr rest 1

def processP2pDevdiscReq (pwdinfo : DevdiscInfo) (pframe : List U8) (len : U32) : Option DevdiscAnswer := do
  let dialogToken ← pframe[31]?
  match ← getP2pIeInto maxP2pIeLen (pframe.drop 32) (len - 8).toNat with
  | none => return ⟨8, dialogToken, none⟩
  | some p2pIe =>
      let (found, groupid, _) ← getP2pAttrInto p2pIe 0x0f (Vector.replicate 38 (0 : U8)) 0
      if found = false then return ⟨8, dialogToken, none⟩
      if groupid.toList.take 15 ≠ pwdinfo.deviceAddr.toList ++ pwdinfo.p2pGroupSsid.toList then
        return ⟨p2pStatusFailInvalidParam, dialogToken, none⟩
      let (found, devAddr, _) ← getP2pAttrInto p2pIe 0x03 (Vector.replicate 6 (0 : U8)) 0
      if found = false then return ⟨p2pStatusFailInvalidParam, dialogToken, none⟩
      let (status, groupDiscReq) := findClient devAddr pwdinfo.asocList 8
      return ⟨status, dialogToken, groupDiscReq⟩

end Floid.Wifi
