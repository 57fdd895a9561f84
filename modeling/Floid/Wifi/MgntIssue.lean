import Floid.Wifi.MgntBuild

namespace Floid.Wifi

open Osk

def wifiAssocrsp : U16 := 0x0010
def wifiReassocrsp : U16 := 0x0030
def wifiProbersp : U16 := 0x0050
def wifiBeacon : U16 := 0x0080
def wifiAuth : U16 := 0x00b0
def wifiDeauth : U16 := 0x00c0
def wifiAction : U16 := 0x00d0

structure MgntInfo where
  myid : MacAddr
  /-- The two low bits of `state`, and `WIFI_FW_AUTH_STATE`. -/
  hwState : Fin 4
  fwAuthState : Bool
  macAddress : MacAddr
  ieLength : U32
  /-- The memory from `IEs` on, from `Ssid` and from `SupportedRates`. -/
  ies : Nat → U8
  ssidLength : U32
  ssid : Nat → U8
  supportedRates : Nat → U8
  dsConfig : U8
  mgntSeq : U16
  pwdinfo : WifidirectInfo

namespace MgntInfo

variable (info : MgntInfo)

def isAp : Bool := info.hwState = 3
def isAdhoc : Bool := info.hwState = 1

end MgntInfo

def getRatesetLenFrom (rateset : Nat → U8) (i : Nat) : Nat → Nat
  | 0 => i
  | rounds + 1 =>
      if rateset i = 0 then i
      else if 12 < i then i
      else getRatesetLenFrom rateset (i + 1) rounds

def getRatesetLen (rateset : Nat → U8) : Nat := getRatesetLenFrom rateset 0 14

inductive MgntResult where
  /-- It is handed to `dump_mgntframe`. -/
  | dumped (build : MgntBuild)
  | left

namespace MgntBuild

variable (build : MgntBuild)

/-- The elements of a beacon or of a probe response outside the AP mode: those of an ad-hoc
network, where `ibss` says so. -/
def setNetworkIes (info : MgntInfo) (ibss : Bool) : MgntBuild :=
  let build := build.setIe ssidIe info.ssidLength info.ssid
  let rateLen := getRatesetLen info.supportedRates
  let build := build.setIe supportedratesIe (BitVec.ofNat 32 (min 8 rateLen)) info.supportedRates
  let build := build.setIe dssetIe 1 fun _ => info.dsConfig
  let build :=
    if ibss then (build.setIe ibssParaIe 2 fun _ => 0).setIe erpinfoIe 1 fun _ => 0 else build
  if 8 < rateLen then
    build.setIe extSupportedratesIe (BitVec.ofNat 32 (rateLen - 8)) fun i =>
      info.supportedRates (8 + i)
  else build

def setFixedFields (info : MgntInfo) : MgntBuild :=
  ((build.copy 8 (List.replicate 8 0)).copy 2 (bytesFrom info.ies 8 2)).copy 2
    (bytesFrom info.ies 10 2)

end MgntBuild

def buildBeacon (info : MgntInfo) : MgntBuild :=
  let build := (MgntBuild.header wifiBeacon bcAddr info.myid info.macAddress 0).setFixedFields info
  if info.isAp then
    let count := info.ieLength - 12
    let build := build.copy count (bytesFrom info.ies 12 (build.pktlen + count).toNat)
    if info.pwdinfo.role = .go then build.setP2pIe info.pwdinfo.beaconP2pIe else build
  else build.setNetworkIes info true

def issueBeacon (info : MgntInfo) : MgntResult :=
  let build := buildBeacon info
  if (512 : U32) < build.pktlen + 32 then .left else .dumped build

def getWpsIeFrom (inIe : Nat → U8) (inLen cnt : Nat) : Option (Nat × Nat) :=
  if cnt < inLen then
    let length := (inIe (cnt + 1)).toNat + 2
    if inIe cnt = vendorSpecificIe ∧ bytesFrom inIe (cnt + 2) 4 = [0x00, 0x50, 0xf2, 0x04] then
      some (cnt, length)
    else getWpsIeFrom inIe inLen (cnt + length)
  else none
termination_by inLen - cnt

def MgntBuild.setProbeRespIes (build : MgntBuild) (info : MgntInfo)
    (wpsProbeRespIe : Option (Nat → U8)) : MgntBuild :=
  match wpsProbeRespIe, getWpsIeFrom info.ies info.ieLength.toNat 12 with
  | some wps, some (offset, length) =>
      let wpsOffset := BitVec.ofNat 32 offset
      let remainder := info.ieLength - wpsOffset - BitVec.ofNat 32 length
      let wpsIelen : U32 := (wps 1).setWidth 32
      let build := build.copy wpsOffset (bytesFrom info.ies 0 offset)
      let build :=
        if (wpsOffset + wpsIelen + 2).toNat ≤ maxIeSz then
          build.copy (wpsIelen + 2) (bytesFrom wps 0 (wpsIelen + 2).toNat)
        else build
      if (wpsOffset + wpsIelen + 2 + remainder).toNat ≤ maxIeSz then
        build.copy remainder (bytesFrom info.ies (offset + length) remainder.toNat)
      else build
  | _, _ => build.copy info.ieLength (bytesFrom info.ies 0 info.ieLength.toNat)

/-- `issue_probersp`. It is `none` where the P2P element is written behind its buffer. -/
def issueProbersp (info : MgntInfo) (da : MacAddr) (isValidP2pProbereq : Bool)
    (wpsProbeRespIe : Option (Nat → U8)) : Option MgntResult :=
  let build := MgntBuild.header wifiProbersp da info.myid info.macAddress info.mgntSeq
  if maxIeSz < info.ieLength.toNat then some .left
  else
    let build :=
      if info.isAp then build.setProbeRespIes info wpsProbeRespIe
      else (build.setFixedFields info).setNetworkIes info info.isAdhoc
    if info.pwdinfo.role = .go ∧ isValidP2pProbereq then
      info.pwdinfo.buildProbeRespP2pIe.map fun p2pie => .dumped (build.setP2pIe p2pie)
    else some (.dumped build)

structure AuthSta where
  hwaddr : MacAddr
  authalg : U16
  authSeq : U16
  fwAuthState : Bool
  chgTxt : ChallengeText

structure AuthClient where
  shared : Bool
  authSeq : U16
  iv : U32
  keyIndex : U32
  chgTxt : ChallengeText

def issueAuthSta (info : MgntInfo) (psta : AuthSta) (status : U16) : MgntBuild :=
  let build := MgntBuild.header wifiAuth psta.hwaddr info.myid info.myid info.mgntSeq
  let algorithm := if status ≠ 0 then 0 else psta.authalg
  let build := build.setFixedIe (shortBytes algorithm)
  let build := build.setFixedIe (shortBytes psta.authSeq)
  let build := build.setFixedIe (shortBytes status)
  if psta.authSeq = 2 ∧ psta.fwAuthState ∧ algorithm ≠ 0 then
    build.setIe chlgetxtIe 128 fun i => psta.chgTxt.toList.getD i 0
  else build

def challengeAttrib (lastTxcmdsz : Nat) : XmitAttrib where
  encrypt := .wep40
  hdrlen := 24
  ivLen := 4
  icvLen := 4
  nrFrags := 1
  lastTxcmdsz
  fragLen := 0

/-- The privacy bit is set, and the body encrypted in its place, with its check value behind
it. It is `none` where the key is written behind its buffer. -/
def MgntBuild.encrypted (build : MgntBuild) (security : SecurityPriv) : Option MgntBuild := do
  let pktlen := build.pktlen + 4
  let buffer := build.frame.set 1 0x40 ++ [0, 0, 0, 0]
  let frame ← wepEncryptFragment security (challengeAttrib pktlen.toNat) pktlen.toNat 0 buffer
  return { frame, pktlen, extent := max build.extent (build.frame.length + 4) }

def issueAuthClient (info : MgntInfo) (security : SecurityPriv) (client : AuthClient)
    (status : U16) : Option MgntBuild :=
  let build := MgntBuild.header wifiAuth info.macAddress info.myid info.macAddress info.mgntSeq
  let answers := client.authSeq = 3 ∧ info.fwAuthState ∧ client.shared
  let iv := client.iv ||| client.keyIndex <<< 30
  let build := if answers then build.setFixedIe (littleEndian iv) else build
  let build := build.setFixedIe (shortBytes (if client.shared then 1 else 0))
  let build := build.setFixedIe (shortBytes client.authSeq)
  let build := build.setFixedIe (shortBytes status)
  if answers then
    (build.setIe chlgetxtIe 128 fun i => client.chgTxt.toList.getD i 0).encrypted security
  else some build

structure AsocSta where
  hwaddr : MacAddr
  aid : U32
  bssratelen : U32
  /-- The memory from `bssrateset` on. -/
  bssrateset : Nat → U8
  /-- `WLAN_STA_HT` and `WLAN_STA_WME`. -/
  ht : Bool
  wme : Bool
  isP2pDevice : Bool
  p2pStatusCode : U8

structure AsocOptions where
  htOption : Bool
  qosOption : Bool
  /-- `assoc_AP_vendor` is `realtekAP`. -/
  realtekAp : Bool

def MgntBuild.copyIe (build : MgntBuild) (info : MgntInfo) (index : U8) : MgntBuild :=
  match getIeAt info.ies 12 index (info.ieLength.toNat - 12) with
  | none => build
  | some p =>
      let length := info.ies (p + 1)
      if 0 < length then
        build.copy (length.setWidth 32 + 2) (bytesFrom info.ies p (length.toNat + 2))
      else build

def realtek96bIe : List U8 := [0x00, 0xe0, 0x4c, 0x02, 0x01, 0x20]

/-- The walk of `issue_asocrsp` for the WMM element, from the place where `get_ie` begins, with
the length of the last element. It is `none` where the walk leaves the elements. -/
def wmmParaIeFrom (info : MgntInfo) : Nat → Nat → Nat → Option (Option Nat)
  | 0, _, _ => none
  | rounds + 1, pbuf, ieLen =>
      if maxIeSz ≤ pbuf then none
      else
        match getIeAt info.ies pbuf vendorSpecificIe (info.ieLength.toNat - 12 - (ieLen + 2)) with
        | none => some none
        | some p =>
            let length := (info.ies (p + 1)).toNat
            if bytesFrom info.ies (p + 2) 6 = [0x00, 0x50, 0xf2, 0x02, 0x01, 0x01] then some (some p)
            else if length = 0 then some none
            else wmmParaIeFrom info rounds (p + (length + 2)) length

def wmmParaIe (info : MgntInfo) : Option (Option Nat) := wmmParaIeFrom info maxIeSz 12 0

def MgntBuild.copyNetworkIes (build : MgntBuild) (info : MgntInfo) (options : AsocOptions)
    (pstat : AsocSta) : Option MgntBuild :=
  let build :=
    if pstat.ht ∧ options.htOption then
      (build.copyIe info htCapabilityIe).copyIe info htAddInfoIe
    else build
  if pstat.wme ∧ options.qosOption then
    (wmmParaIe info).map fun
      | none => build
      | some p =>
          build.copy ((info.ies (p + 1)).setWidth 32 + 2)
            (bytesFrom info.ies p ((info.ies (p + 1)).toNat + 2))
  else some build

def issueAsocrsp (info : MgntInfo) (options : AsocOptions) (pstat : AsocSta) (status : U16)
    (pktType : Int) : Option MgntResult :=
  if pktType ≠ wifiAssocrsp.toNat ∧ pktType ≠ wifiReassocrsp.toNat then some .left
  else do
    let build := MgntBuild.header (BitVec.ofInt 16 pktType) pstat.hwaddr info.myid info.macAddress
      info.mgntSeq
    let build := build.setFixedIe (bytesFrom info.ies 10 2)
    let build := build.setFixedIe (shortBytes status)
    let build := build.setFixedIe (shortBytes (pstat.aid.setWidth 16 ||| 0xc000))
    let build :=
      if pstat.bssratelen ≤ 8 then build.setIe supportedratesIe pstat.bssratelen pstat.bssrateset
      else
        (build.setIe supportedratesIe 8 pstat.bssrateset).setIe extSupportedratesIe
          (pstat.bssratelen - 8) fun i => pstat.bssrateset (8 + i)
    let build ← build.copyNetworkIes info options pstat
    let build :=
      if options.realtekAp then build.setIe vendorSpecificIe 6 fun i => realtek96bIe.getD i 0
      else build
    let build :=
      if info.pwdinfo.role = .go ∧ pstat.isP2pDevice then
        build.setP2pIe (assocRespP2pIe pstat.p2pStatusCode)
      else build
    some (.dumped build)

/-- `issue_deauth`. -/
def issueDeauthFrame (info : MgntInfo) (da : MacAddr) (reason : U16) : MgntBuild :=
  (MgntBuild.header wifiDeauth da info.myid info.macAddress info.mgntSeq).setFixedIe
    (shortBytes reason)

structure BaInfo where
  dialogToken : U8
  /-- Of `ADDBA_req`. -/
  reqDialogToken : U8
  reqBaParaSet : U16
  reqBaTimeoutValue : U16
  /-- `txseq_tid` of the station; without one, the sequence number is what is on the stack. -/
  txseqTid : Option (Fin 8 → U16)
  stack : U16

def issueActionBA (info : MgntInfo) (ba : BaInfo) (raddr : MacAddr) (action : U8) (status : U16) : MgntBuild :=
  let build := MgntBuild.header wifiAction raddr info.myid info.macAddress info.mgntSeq
  let build := (build.setFixedIe [3]).setFixedIe [action]
  match action.toNat with
  | 0 =>
      let dialogToken := if ba.dialogToken + 1 = 0 then 1 else ba.dialogToken + 1
      let seqctrl :=
        match ba.txseqTid with
        | none => ba.stack
        | some txseqTid => (((txseqTid (Fin.ofNat 8 status.toNat)) &&& 0xfff) + 1) <<< 4
      (((build.setFixedIe [dialogToken]).setFixedIe
        (shortBytes (0x0803 ||| (status &&& 0xf) <<< 2))).setFixedIe (shortBytes 0)).setFixedIe
        (shortBytes seqctrl)
  | 1 =>
      (((build.setFixedIe [ba.reqDialogToken]).setFixedIe (shortBytes status)).setFixedIe
        (shortBytes ba.reqBaParaSet)).setFixedIe (shortBytes ba.reqBaTimeoutValue)
  | 2 =>
      (build.setFixedIe (shortBytes ((status &&& 0x1f) <<< 3))).setFixedIe (shortBytes 37)
  | _ => build

inductive MgntCall where
  | beacon (info : MgntInfo)
  | probersp (info : MgntInfo) (da : MacAddr) (isValidP2pProbereq : Bool)
      (wpsProbeRespIe : Option (Nat → U8))
  | authSta (info : MgntInfo) (psta : AuthSta) (status : U16)
  | authClient (info : MgntInfo) (security : SecurityPriv) (client : AuthClient) (status : U16)
  | asocrsp (info : MgntInfo) (options : AsocOptions) (pstat : AsocSta) (status : U16)
      (pktType : Int)
  | deauth (info : MgntInfo) (da : MacAddr) (reason : U16)
  | actionBA (info : MgntInfo) (ba : BaInfo) (raddr : MacAddr) (action : U8) (status : U16)

/-- What a call does with the frame that it has got. It is `none` where it writes behind a
buffer of its own. -/
def MgntCall.run : MgntCall → Option MgntResult
  | beacon info => some (issueBeacon info)
  | probersp info da isValidP2pProbereq wpsProbeRespIe =>
      issueProbersp info da isValidP2pProbereq wpsProbeRespIe
  | authSta info psta status => some (.dumped (issueAuthSta info psta status))
  | authClient info security client status =>
      (issueAuthClient info security client status).map .dumped
  | asocrsp info options pstat status pktType => issueAsocrsp info options pstat status pktType
  | deauth info da reason => some (.dumped (issueDeauthFrame info da reason))
  | actionBA info ba raddr action status =>
      some (.dumped (issueActionBA info ba raddr action status))

end Floid.Wifi
