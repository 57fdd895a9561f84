import Floid.Wifi.MgntIssue
import Floid.Wifi.P2pElements

namespace Floid.Wifi

open Osk Lib

/-- `wifidirect_info` and the address of the card, as far as a negotiation goes. -/
structure NegoInfo where
  myid : MacAddr
  mgntSeq : U16
  deviceAddr : MacAddr
  listenChannel : U8
  role : P2pRole
  p2pState : P2pState
  intent : U8
  peerIntent : U8
  p2pPeerInterfaceAddr : MacAddr
  peerOperatingCh : U8
  /-- The part of `device_name` that is used, and of `nego_ssid`. -/
  deviceName : List U8
  nameFits : deviceName.length ≤ 32
  negoSsid : List U8
  ssidFits : negoSsid.length ≤ 32
  devicePasswordIdForNego : U16
  negotiationDialogToken : U8

structure GoFrame where
  result : U8
  bytes : List U8

def negoWpsIe (devicePwid : U16) : List U8 :=
  wpsOui ++ shortBytesBe 0x104a ++ shortBytesBe 1 ++ [0x10] ++ shortBytesBe 0x1012 ++
    shortBytesBe 2 ++ shortBytesBe devicePwid

def countryString : List U8 := [0x55, 0x53, 0x04, 0x51]

namespace NegoInfo

variable (info : NegoInfo)

def goIntentAttr : List U8 := setP2pAttrContent 0x04 1 [info.intent <<< 1 ||| 1]

def confTimeoutAttr : List U8 := setP2pAttrContent 0x05 2 [200, 200]

def intendedIfAddrAttr : List U8 := setP2pAttrContent 0x09 6 info.myid.toList

def channelListAttr : List U8 :=
  setP2pAttrContent 0x0b 16 (countryString ++ [11, 1, 2, 3, 4, 5, 6, 7, 8, 9, 10, 11])

def operatingChAttr (channel : U8) : List U8 :=
  setP2pAttrContent 0x11 5 (countryString ++ [channel])

def deviceInfoAttr : List U8 :=
  setP2pAttrContent 0x0d (BitVec.ofNat 16 (21 + info.deviceName.length))
    (info.myid.toList ++ shortBytesBe 0x0008 ++ shortBytesBe 0x001e ++ wpsOui ++ shortBytesBe 1 ++
      [0] ++ shortBytesBe 0x1011 ++ shortBytesBe (BitVec.ofNat 16 info.deviceName.length) ++
      info.deviceName)

def requestP2pIe : List U8 :=
  WifidirectInfo.p2poui ++ (setP2pAttrContent 0x02 2 [0x20, 0] ++ (info.goIntentAttr ++
    (confTimeoutAttr ++ (setP2pAttrContent 0x06 5 (countryString ++ [info.listenChannel]) ++
      (setP2pAttrContent 0x08 4 [0xff, 0xff, 0xff, 0xff] ++ (info.intendedIfAddrAttr ++
        (channelListAttr ++ (info.deviceInfoAttr ++ operatingChAttr 11))))))))

def responseP2pIe (result : U8) : List U8 :=
  WifidirectInfo.p2poui ++ (setP2pAttrContent 0x00 1 [result] ++
    (setP2pAttrContent 0x02 2 [if info.role = .client then 0 else 0x20, 0] ++
      (info.goIntentAttr ++ (confTimeoutAttr ++ (operatingChAttr 11 ++ (info.intendedIfAddrAttr ++
        (channelListAttr ++ (info.deviceInfoAttr ++
          if info.role = .go then
            setP2pAttrContent 0x0f (BitVec.ofNat 16 (6 + info.negoSsid.length))
              (info.deviceAddr.toList ++ info.negoSsid)
          else []))))))))

def confirmP2pIe (result : U8) : List U8 :=
  WifidirectInfo.p2poui ++ (setP2pAttrContent 0x00 1 [result] ++ (setP2pAttrContent 0x02 2 [0x20, 0] ++
      (operatingChAttr (if info.role = .client then info.peerOperatingCh else info.listenChannel) ++
        ([0x0b] ++ shortBytes 16 ++ [0, 0] ++
          if info.role = .go then operatingChAttr 11 else []))))

def goFrameHead (raddr : MacAddr) (ouiSubtype dialogToken : U8) : MgntBuild :=
  ((((((MgntBuild.header wifiAction raddr info.myid info.myid info.mgntSeq).setFixedIe
    [4]).setFixedIe [9]).setFixedIe WifidirectInfo.p2poui).setFixedIe [ouiSubtype]).setFixedIe
    [dialogToken])

/-- `set_ie` for a section of at most 255 bytes. It is `none` for more, which are written behind
the section's buffer. -/
def setSection (build : MgntBuild) (body : List U8) : Option MgntBuild :=
  if 255 < body.length then none else some (build.setP2pIe body)

def issueP2pGoRequest (raddr : MacAddr) : Option (NegoInfo × GoFrame) := do
  let build := info.goFrameHead raddr 0 1
  let build ← setSection build (negoWpsIe info.devicePasswordIdForNego)
  let build ← setSection build info.requestP2pIe
  return ({ info with mgntSeq := info.mgntSeq + 1, negotiationDialogToken := 1 }, ⟨0, build.frame⟩)

def issueP2pGoResponse (raddr : MacAddr) (frameBody : List U8) (result : U8) : Option (NegoInfo × GoFrame) := do
  let dialogToken ← frameBody[7]?
  let build := info.goFrameHead raddr 1 dialogToken
  let build ← setSection build (negoWpsIe 0)
  let build ← setSection build (info.responseP2pIe result)
  return ({ info with mgntSeq := info.mgntSeq + 1, negotiationDialogToken := dialogToken }, ⟨result, build.frame⟩)

def issueP2pGoConfirm (raddr : MacAddr) (result : U8) : Option (NegoInfo × GoFrame) := do
  let build := info.goFrameHead raddr 2 info.negotiationDialogToken
  let build ← setSection build (info.confirmP2pIe result)
  return ({ info with mgntSeq := info.mgntSeq + 1 }, ⟨result, build.frame⟩)

end NegoInfo

def p2pStatusFailIncompatibleParam : U8 := 2

def p2pStatusFailBothGointent15 : U8 := 9

def negotiatedRole (intent peerIntent : U8) : P2pRole :=
  if intent = peerIntent >>> 1 then
    if intent = 15 then .device else if peerIntent &&& 1 ≠ 0 then .client else .go
  else if peerIntent >>> 1 < intent then .go
  else .client

def confirmedRole (intent peerIntent : U8) : P2pRole :=
  if peerIntent >>> 1 < intent then .go
  else if intent < peerIntent >>> 1 then .client
  else if peerIntent &&& 1 ≠ 0 then .client
  else .go

namespace NegoInfo

variable (pwdinfo : NegoInfo)

theorem four_lt_five : 4 < 5 := by decide

def processP2pGroupNegotationReq (pframe : List U8) (len : U32) : Option (U8 × NegoInfo) := do
  let wps ← getWpsIeP2p (pframe.drop 8) (len - 8).toNat
  let result := if wps then 0 else p2pStatusFailIncompatibleParam
  match ← getP2pIeInto 255 (pframe.drop 8) (len - 8).toNat with
  | none => return (result, pwdinfo)
  | some p2pIe =>
      let (_, attrContent, _) ← getP2pAttrInto p2pIe 0x04 #v[(0 : U8)] 0
      let peerIntent := attrContent[0]
      let (_, peerAddr, attrContentlen) ← getP2pAttrInto p2pIe 0x09 pwdinfo.p2pPeerInterfaceAddr 0
      return (if result = 0 ∧ pwdinfo.intent = peerIntent >>> 1 ∧ pwdinfo.intent = 15 then
          p2pStatusFailBothGointent15 else result,
        { pwdinfo with
          p2pState := if result ≠ 0 then .gonegoFail else .gonegoIng
          peerIntent
          role := if result = 0 then negotiatedRole pwdinfo.intent peerIntent else pwdinfo.role
          p2pPeerInterfaceAddr := if attrContentlen ≠ 6 then .replicate 6 0 else peerAddr })

def acceptGoResponse (p2pIe : List U8) (result : U8) : Option (U8 × NegoInfo) := do
  let (_, attrContent, _) ← getP2pAttrInto p2pIe 0x04 #v[(0 : U8)] 0
  let peerIntent := attrContent[0]
  let result := if pwdinfo.intent = peerIntent >>> 1 ∧ pwdinfo.intent = 15 then
    p2pStatusFailBothGointent15 else result
  let role := negotiatedRole pwdinfo.intent peerIntent
  if role = .client then
    let (_, operatingchInfo, _) ← getP2pAttrInto p2pIe 0x11 (Vector.replicate 5 (0 : U8)) 0
    return (result, { pwdinfo with peerIntent, role, peerOperatingCh := getElem operatingchInfo 4 four_lt_five })
  else return (result, { pwdinfo with peerIntent, role })

def processP2pGroupNegotationResp (pframe : List U8) (len : U32) : Option (U8 × NegoInfo) := do
  let wps ← getWpsIeP2p (pframe.drop 8) (len - 8).toNat
  let result := if wps then 0 else p2pStatusFailIncompatibleParam
  match ← getP2pIeInto 255 (pframe.drop 8) (len - 8).toNat with
  | none => return (result, pwdinfo)
  | some p2pIe =>
      let (_, attrContent, attrContentlen) ← getP2pAttrInto p2pIe 0x00 #v[(0 : U8)] 0
      if attrContentlen = 1 ∧ attrContent[0] = 0 then pwdinfo.acceptGoResponse p2pIe result
      else return (result, { pwdinfo with role := .device, p2pState := .gonegoFail })

/-- The part of `process_p2p_group_negotation_confirm` for a confirmation with success. The name
of the group is written to the log, as far as its first zero. -/
def acceptGoConfirm (p2pIe : List U8) : Option NegoInfo := do
  let (_, groupid, _) ← getP2pAttrInto p2pIe 0x0f (Vector.replicate 38 (0 : U8)) 1
  if (groupid.toList.drop 6).contains 0 then
    let (_, operatingchInfo, _) ← getP2pAttrInto p2pIe 0x11 (Vector.replicate 5 (0 : U8)) 0
    return { pwdinfo with
      p2pState := .gonegoOk
      role := confirmedRole pwdinfo.intent pwdinfo.peerIntent
      peerOperatingCh := getElem operatingchInfo 4 four_lt_five }
  else none

def processP2pGroupNegotationConfirm (pframe : List U8) (len : U32) : Option (U8 × NegoInfo) := do
  match ← getP2pIeInto 255 (pframe.drop 8) (len - 8).toNat with
  | none => return (0, pwdinfo)
  | some p2pIe =>
      let pwdinfo := { pwdinfo with negotiationDialogToken := 1 }
      let (_, attrContent, attrContentlen) ← getP2pAttrInto p2pIe 0x00 #v[(0 : U8)] 0
      if attrContentlen = 1 then
        if attrContent[0] = 0 then return (0, ← pwdinfo.acceptGoConfirm p2pIe)
        else return (attrContent[0], { pwdinfo with role := .device, p2pState := .gonegoFail })
      else return (0, pwdinfo)

def issued (issue : Option (NegoInfo × GoFrame)) (allocated : Bool) : Option (NegoInfo × Option GoFrame) :=
  if allocated then issue.map fun (pwdinfo, frame) => (pwdinfo, some frame)
  else some (pwdinfo, none)

def onGoFrame (others : NegoInfo → List U8 → Option NegoInfo) (pframe : List U8)
    (allocated : Bool) (ouiSubtype : U8) (addr2 : MacAddr) : Option (NegoInfo × Option GoFrame) :=
  let frameBody := pframe.drop 24
  let len := BitVec.ofNat 32 pframe.length
  match ouiSubtype.toNat with
  | 0 => do
      let (result, pwdinfo) ← pwdinfo.processP2pGroupNegotationReq frameBody len
      pwdinfo.issued (pwdinfo.issueP2pGoResponse addr2 frameBody result) allocated
  | 1 => do
      let (result, pwdinfo) ← pwdinfo.processP2pGroupNegotationResp frameBody len
      let (pwdinfo, confirm) ← pwdinfo.issued (pwdinfo.issueP2pGoConfirm addr2 result) allocated
      return ({ pwdinfo with negotiationDialogToken := 1 }, confirm)
  | 2 => do
      let (_, pwdinfo) ← pwdinfo.processP2pGroupNegotationConfirm frameBody len
      return (pwdinfo, none)
  | _ => (others pwdinfo pframe).map fun pwdinfo => (pwdinfo, none)

def onActionPublic (others : NegoInfo → List U8 → Option NegoInfo) (pframe : List U8)
    (allocated : Bool) : Option (NegoInfo × Option GoFrame) := do
  let addr1 ← segment pframe 4 6
  if addr1 ≠ pwdinfo.myid.toList then return (pwdinfo, none)
  let category ← pframe[24]?
  if category ≠ 4 then return (pwdinfo, none)
  let action ← pframe[25]?
  if action ≠ 9 then return (pwdinfo, none)
  let oui ← segment pframe 26 4
  if oui ≠ WifidirectInfo.p2poui then return (pwdinfo, none)
  let ouiSubtype ← pframe[30]?
  pwdinfo.onGoFrame others pframe allocated ouiSubtype (.ofFn fun i => pframe.getD (10 + i) 0)

/-- `enter_listen_state_workitem_process`. -/
def enterListenState : NegoInfo := { pwdinfo with p2pState := .listen }

end NegoInfo

end Floid.Wifi
