import Floid.Wifi.ClientLink
import Floid.Wifi.CollectBss

/-!
The site survey: `sitesurvey_cmd_hdl`, `site_survey` and `survey_timer_hdl`, and the part of
`collect_bss_info` that uses the place the survey has come to.
-/

namespace Floid.Wifi

open Osk

def numChannels : Nat := 32

def surveyTo : Nat := 100

def p2pProvisioningScanCnt : Nat := 3
def p2pFindphaseExCnt : Nat := 3

def dynamicFuncDisable : U8 := 0
def dynamicFuncDig : U8 := 1

def htChannelWidth20 : U16 := 0
def halPrimeChnlOffsetDontCare : U8 := 0
def halPrimeChnlOffsetLower : U8 := 1

/-- `enum SCAN_STATE`. -/
inductive ScanState where
  | disable
  | start
  | txnull
  | process
  | complete
  deriving DecidableEq, Repr

def ScanState.toNat : ScanState → Nat
  | disable => 0
  | start => 1
  | txnull => 2
  | process => 3
  | complete => 4

inductive ScanType where
  | passive
  | active
  deriving DecidableEq, Repr

structure ChannelInfo where
  channelNum : U8
  scanType : ScanType
  deriving DecidableEq, Repr

structure SitesurveyParm where
  scanMode : U32
  ssSsid : List U8
  deriving DecidableEq, Repr

/-- `struct ss_res`. -/
structure SsRes where
  state : ScanState
  bssCnt : Nat
  channelIdx : Int
  scanMode : U32
  ssSsid : List U8
  deriving DecidableEq, Repr

structure Tuning where
  channel : U8
  offset : U8
  bwmode : U16
  deriving DecidableEq, Repr

structure SurveyP2p where
  p2pState : P2pState
  peerOperatingCh : U8
  listenChannel : U8
  findPhaseStateExchangeCnt : Nat
  findPhaseTimer : Bool
  prevSurveyChannel : U8
  p2pScanCount : Nat
  deriving DecidableEq, Repr

structure SurveyAdapter where
  channelSet : Vector ChannelInfo numChannels
  /-- What lies before and behind `channel_set`. -/
  around : Int → ChannelInfo
  res : SsRes
  chanScanTime : Nat
  surveyTimer : Bool
  curChannel : U8
  curChOffset : U8
  curBwmode : U16
  /-- `pmlmeinfo->state`. -/
  state : U32
  p2p : SurveyP2p
  tuning : Tuning
  txpause : U8
  dmFlag : U8
  dmFlagTmp : U8
  curIgValue : U8
  gain : U8
  msr : U8
  /-- The filter of `HW_VAR_MLME_SITESURVEY`. -/
  underSurvey : Bool
  antenna : U8
  wifiSpec : Bool
  bwmodeUpdated : Bool
  numFortyMhzIntolerant : Nat
  numStaNoHt : Nat
  /-- The `_SiteSurvey` commands in the command queue, oldest first. -/
  commands : List SitesurveyParm

inductive SurveyEffect where
  | started
  /-- A use of `channel_set`. -/
  | indexed (index : Int)
  | surveyed (channel : U8)
  | probereq
  | probereqP2p
  | nulldata (powerMode : Bool)
  | rescanned
  | survey (bss : WlanBssidEx)
  | surveydone (bssCnt : Nat)
  | bssCoexistPacket

namespace SurveyAdapter

variable (adapter : SurveyAdapter)

def channelAt (index : Int) : ChannelInfo :=
  if inside : 0 ≤ index ∧ index < numChannels then
    adapter.channelSet.get ⟨index.toNat, by omega⟩
  else adapter.around index

def selectChannel (channel : U8) : SurveyAdapter :=
  { adapter with tuning := { adapter.tuning with channel } }

def tune (channel offset : U8) (bwmode : U16) : Tuning where
  channel :=
    if bwmode = htChannelWidth20 ∨ offset = halPrimeChnlOffsetDontCare then channel
    else if offset = halPrimeChnlOffsetLower then channel + 2
    else channel - 2
  offset
  bwmode

def setChannelBwmode (channel offset : U8) (bwmode : U16) : SurveyAdapter :=
  { adapter with tuning := tune channel offset bwmode }

def isClientAssociatedToAp : Bool :=
  adapter.state &&& wifiFwAssocSuccess ≠ 0 ∧ adapter.state &&& 0x03 = wifiFwStationState

def saveDmFuncFlag : SurveyAdapter := { adapter with dmFlagTmp := adapter.dmFlag }

def switchDmFuncOff (mode : U8) : SurveyAdapter := { adapter with dmFlag := adapter.dmFlag &&& mode }

def restoreDmFuncFlag : SurveyAdapter :=
  { adapter with
    dmFlag := adapter.dmFlagTmp
    gain := if adapter.dmFlagTmp &&& dynamicFuncDig ≠ 0 then adapter.curIgValue else adapter.gain }

def nextChannel : SurveyAdapter × ChannelInfo × List SurveyEffect :=
  let p2p := adapter.p2p
  if p2p.p2pState = .gonegoOk then
    let count := p2p.p2pScanCount + 1
    if p2p.prevSurveyChannel = p2p.peerOperatingCh ∧ p2pProvisioningScanCnt < count then
      ({ adapter with p2p := { p2p with prevSurveyChannel := 0, p2pScanCount := 0 } }, ⟨0, .active⟩, [])
    else
      ({ adapter with
          p2p := { p2p with prevSurveyChannel := p2p.peerOperatingCh, p2pScanCount := count } },
        ⟨p2p.peerOperatingCh, .active⟩, [])
  else (adapter, adapter.channelAt adapter.res.channelIdx, [.indexed adapter.res.channelIdx])

def surveyChannel (info : ChannelInfo) : SurveyAdapter × List SurveyEffect :=
  let adapter := { adapter with txpause := adapter.txpause ||| 0x0f }
  let adapter :=
    if adapter.res.channelIdx = 0 then
      adapter.setChannelBwmode info.channelNum halPrimeChnlOffsetDontCare htChannelWidth20
    else adapter.selectChannel info.channelNum
  let probes : List SurveyEffect :=
    if adapter.res.scanMode = 1 ∧ info.scanType = .active then
      if adapter.p2p.p2pState.searching then [.probereqP2p] else [.probereq, .probereq]
    else []
  ({ adapter with surveyTimer := true }, .surveyed info.channelNum :: probes)

def surveyDone (doneAllocated : Bool) : SurveyAdapter × List SurveyEffect :=
  let adapter :=
    if adapter.p2p.p2pState.searching then
      { adapter with p2p := { adapter.p2p with p2pState := .listen } }
    else adapter
  let adapter :=
    if adapter.p2p.p2pState = .gonegoOk then
      adapter.setChannelBwmode adapter.p2p.peerOperatingCh adapter.curChOffset adapter.curBwmode
    else adapter.setChannelBwmode adapter.curChannel adapter.curChOffset adapter.curBwmode
  let adapter :=
    { adapter with txpause := 0, underSurvey := false, msr := (adapter.state &&& 0x3).setWidth 8 }
  let adapter := adapter.restoreDmFuncFlag
  let nulldata : List SurveyEffect :=
    if adapter.isClientAssociatedToAp then [.nulldata false] else []
  let done : List SurveyEffect := if doneAllocated then [.surveydone adapter.res.bssCnt] else []
  ({ adapter with
      chanScanTime := surveyTo
      res := { adapter.res with state := .disable } },
    nulldata ++ done ++ [.bssCoexistPacket])

/-- `site_survey`, with the answer of `SwAntDivBeforeLinkHandler` should it be asked, and
whether there is memory for the event at the end. -/
def siteSurvey (antDiv doneAllocated : Bool) : SurveyAdapter × List SurveyEffect :=
  let (adapter, info, used) := adapter.nextChannel
  if info.channelNum ≠ 0 then
    let (adapter, effects) := adapter.surveyChannel info
    (adapter, used ++ effects)
  else if adapter.p2p.p2pState.searching ∧ adapter.p2p.findPhaseStateExchangeCnt < p2pFindphaseExCnt then
    let adapter :=
      { adapter with
        p2p := { adapter.p2p with p2pState := .findPhaseListen, findPhaseTimer := true }
        res := { adapter.res with state := .disable } }
    (adapter.setChannelBwmode adapter.p2p.listenChannel halPrimeChnlOffsetDontCare htChannelWidth20, used)
  else if antDiv then
    ({ adapter with
        res := { adapter.res with bssCnt := 0, channelIdx := -1 }
        chanScanTime := surveyTo / 2
        surveyTimer := true },
      used ++ [.rescanned])
  else
    let (adapter, effects) := adapter.surveyDone doneAllocated
    (adapter, used ++ effects)

def startScan (parm : SitesurveyParm) : SurveyAdapter :=
  { adapter with
    res :=
      { state := .start
        bssCnt := 0
        channelIdx := 0
        scanMode := parm.scanMode
        ssSsid := parm.ssSsid } }

def prepareScan : SurveyAdapter :=
  let adapter := adapter.saveDmFuncFlag.switchDmFuncOff dynamicFuncDisable
  { adapter with
    gain := 0x20
    msr := 0
    underSurvey := true
    res := { adapter.res with state := .process } }

def continueScan (antDiv doneAllocated : Bool) : SurveyAdapter × List SurveyEffect :=
  if adapter.res.state = .start ∨ adapter.res.state = .txnull then
    adapter.prepareScan.siteSurvey antDiv doneAllocated
  else adapter.siteSurvey antDiv doneAllocated

def sitesurveyCmdHdl (parm : SitesurveyParm) (antDiv doneAllocated : Bool) : SurveyAdapter × List SurveyEffect :=
  if adapter.res.state = .disable then
    let adapter := adapter.startScan parm
    if adapter.isClientAssociatedToAp then
      ({ adapter with res := { adapter.res with state := .txnull }, surveyTimer := true }, [.started, .nulldata true])
    else
      let (adapter, effects) := adapter.continueScan antDiv doneAllocated
      (adapter, .started :: effects)
  else adapter.continueScan antDiv doneAllocated

def surveyTimerHdl (allocated : Bool) : SurveyAdapter :=
  if adapter.res.state.toNat ≤ 1 then adapter
  else
    let adapter :=
      if adapter.res.state = .process then
        { adapter with res := { adapter.res with channelIdx := adapter.res.channelIdx + 1 } }
      else adapter
    if allocated then { adapter with commands := adapter.commands ++ [⟨0, []⟩] } else adapter

def collectBssInfo (frame : SurveyFrame) : SurveyAdapter × Option WlanBssidEx × List SurveyEffect :=
  match frame.collectHead adapter.antenna with
  | none => (adapter, none, [])
  | some bss =>
      let (channel, used) : U8 × List SurveyEffect :=
        match frame.channelElement bss with
        | some channel => (channel, [])
        | none =>
            if adapter.res.state = .process then
              ((adapter.channelAt adapter.res.channelIdx).channelNum, [.indexed adapter.res.channelIdx])
            else (adapter.curChannel, [])
      let bss := frame.collectTail channel bss
      let adapter :=
        if adapter.wifiSpec ∧ adapter.bwmodeUpdated = false then
          match frame.coexistCheck bss with
          | .noHt => { adapter with numStaNoHt := adapter.numStaNoHt + 1 }
          | .fortyMhzIntolerant =>
              { adapter with numFortyMhzIntolerant := adapter.numFortyMhzIntolerant + 1 }
          | .tolerant => adapter
        else adapter
      (adapter, some bss, used)

def reportSurveyEvent (frame : SurveyFrame) (allocated : Bool) : SurveyAdapter × List SurveyEffect :=
  if allocated then
    match adapter.collectBssInfo frame with
    | (adapter, none, used) => (adapter, used)
    | (adapter, some bss, used) =>
        ({ adapter with res := { adapter.res with bssCnt := adapter.res.bssCnt + 1 } }, used ++ [.survey bss])
  else (adapter, [])

def onSurveyFrame (frame : SurveyFrame) (beacon allocated : Bool) : SurveyAdapter × List SurveyEffect :=
  if beacon ∧ adapter.res.state ≠ .process then (adapter, [])
  else adapter.reportSurveyEvent frame allocated

end SurveyAdapter

end Floid.Wifi
