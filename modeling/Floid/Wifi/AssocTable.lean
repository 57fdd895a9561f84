import Floid.Wifi.AssocRequest
import Floid.Wifi.StaTable

/-!
The stations of an access point, from their authentication to the end of their association:
`OnAuth`, `OnAssocReq`, `OnDeAuth`, `OnDisassoc`, `expire_timeout_chk` and `rtw_sta_flush`,
over the table of station records.
-/

namespace Floid.Wifi

open Osk
open Function (update)

def rsonCls2 : Nat := 6

def wifiAsocState : U32 := 0x00000001

/-- The record carries `WIFI_ASOC_STATE`. -/
def AuthRecord.associated (record : AuthRecord) : Bool := record.state &&& wifiAsocState ≠ 0

inductive AssocReply where
  | asocrsp (reassoc : Bool) (hwaddr : MacAddr) (status : Nat) (aid : U32)
  | deauth (da : MacAddr) (reason : Nat)
  deriving DecidableEq

/-- What `sta_priv` and the records have for an association, and what the handlers read of
the adapter. -/
structure AssocAp (Sta Xmit Recv : Type) where
  stapriv : Adapter Sta Xmit Recv
  /-- `state` is here less `WIFI_SLEEP_STATE`, which is `asleep` of the record. -/
  auth : Sta → AuthRecord
  rxPkts : Sta → BitVec 64
  lastRxPkts : Sta → BitVec 64
  /-- `WIFI_FW_AP_STATE`, of `mlmext_info`. -/
  apState : Bool
  /-- `WIFI_AP_STATE`, of `mlme_priv`. -/
  fwApState : Bool
  myBssid : MacAddr
  dot11AuthAlgrthm : AuthAlgrthm
  dot11PrivacyAlgrthm : Nat
  authTo : Nat
  assocTo : Nat
  expireTo : Nat
  maxNumSta : Nat
  settings : AssocSettings

def MgntFrame.reassoc {Station : Type*} (frame : MgntFrame Station) : Bool :=
  frame.memory 0 &&& 0xfc ≠ 0

def MgntFrame.ieStart {Station : Type*} (frame : MgntFrame Station) : Nat :=
  wlanHdrA3Len + if frame.reassoc then reasocreqIeOffset else asocreqIeOffset

def StaRecord.withQos {Xmit Recv : Type} (qosInfo : Option U8) (record : StaRecord Xmit Recv) : StaRecord Xmit Recv :=
  { record with
    qosOption := qosInfo.isSome
    qosInfo := qosInfo.getD 0
    hasLegacyAc := qosInfo.all (· &&& 0xf ≠ 0xf)
    uapsd := fun ac =>
      let place :=
        match ac with
        | .vo => 0
        | .vi => 1
        | .bk => 2
        | .be => 3
      if (qosInfo.getD 0).getLsbD place then 3 else 0 }

def issueDeauth (da : MacAddr) (reason : Nat) (allocated : Bool) : Option AssocReply :=
  if allocated then some (.deauth da reason) else none

namespace AssocAp

variable {Sta Xmit Recv : Type} [DecidableEq Sta]

def authMode (ap : AssocAp Sta Xmit Recv) : Nat :=
  if ap.dot11AuthAlgrthm.toNat = 2 ∧ ap.dot11PrivacyAlgrthm ≠ wep40 ∧ ap.dot11PrivacyAlgrthm ≠ wep104 then 0
  else ap.dot11AuthAlgrthm.toNat

def store (ap : AssocAp Sta Xmit Recv) (pstat : Sta) (record : AuthRecord) : AssocAp Sta Xmit Recv :=
  { ap with auth := update ap.auth pstat record }

/-- The record of a station, a new one when there is none; it is taken off `asoc_list`. -/
def takeRecord (ap : AssocAp Sta Xmit Recv) (sa : MacAddr) : Option Sta × AssocAp Sta Xmit Recv :=
  match ap.stapriv.getStainfo sa with
  | some pstat =>
      (some pstat,
        { ap with stapriv := { ap.stapriv with asocList := unlink pstat ap.stapriv.asocList } })
  | none =>
      match ap.stapriv.allocStainfo sa with
      | (none, stapriv) => (none, { ap with stapriv })
      | (some pstat, stapriv) =>
          (some pstat,
            { ap with
              stapriv
              rxPkts := update ap.rxPkts pstat 0
              lastRxPkts := update ap.lastRxPkts pstat 0 }.store pstat .fresh)

def enlist (ap : AssocAp Sta Xmit Recv) (pstat : Sta) : AssocAp Sta Xmit Recv :=
  if pstat ∈ ap.stapriv.authList then ap
  else { ap with stapriv := { ap.stapriv with authList := ap.stapriv.authList ++ [pstat] } }

def onAuth (ap : AssocAp Sta Xmit Recv) (frame : MgntFrame MacAddr) (xmitAllocated : Bool) :
    Option (AuthAnswer MacAddr) × AssocAp Sta Xmit Recv :=
  if ap.apState = false then (none, ap)
  else
    let seq := frame.le16 (wlanHdrA3Len + 2)
    let algorithm := frame.le16 wlanHdrA3Len
    let asClient (status : Nat) : Option (AuthAnswer MacAddr) :=
      if xmitAllocated then some (.asClient status) else none
    if (0 < algorithm ∧ ap.authMode = 0) ∨ (algorithm = 0 ∧ ap.authMode = 1) then
      (asClient statsNoSuppAlg, ap)
    else
      match ap.takeRecord frame.sa with
      | (none, ap) => (asClient statsUnableHandleSta, ap)
      | (some pstat, ap) =>
          let ap := ap.enlist pstat
          let record := ap.auth pstat
          let record := if record.authSeq = 0 then { record with expireTo := ap.authTo } else record
          match record.advance frame ap.authMode algorithm seq ap.assocTo with
          | .error status =>
              (issueAuth frame.sa failedStat status xmitAllocated, ap.store pstat record)
          | .ok record =>
              let record := { record with authSeq := seq + 1 }
              (issueAuth (ap.stapriv.stainfo pstat).hwaddr record statsSuccessful xmitAllocated,
                ap.store pstat (if record.success then { record with authSeq := 0 } else record))

def setAid (ap : AssocAp Sta Xmit Recv) (pstat : Sta) (aid : U32) : AssocAp Sta Xmit Recv :=
  { ap with stapriv := ap.stapriv.modify pstat fun record => { record with aid } }

def issueAsocrsp (ap : AssocAp Sta Xmit Recv) (reassoc : Bool) (status : Nat) (pstat : Sta)
    (allocated : Bool) : Option AssocReply :=
  if allocated then
    some (.asocrsp reassoc (ap.stapriv.stainfo pstat).hwaddr status (ap.stapriv.stainfo pstat).aid)
  else none

def onAssocReqFail (ap : AssocAp Sta Xmit Recv) (reassoc : Bool) (status : Nat) (pstat : Sta)
    (xmitAllocated : Bool) : Option AssocReply × AssocAp Sta Xmit Recv :=
  let ap := ap.setAid pstat 0
  (ap.issueAsocrsp reassoc status pstat xmitAllocated, ap)

def freeAid (ap : AssocAp Sta Xmit Recv) : Nat :=
  (((List.range numSta).find? fun i => (ap.stapriv.staAid i).isNone).getD numSta) + 1

def giveAid (ap : AssocAp Sta Xmit Recv) (pstat : Sta) : Option (AssocAp Sta Xmit Recv) :=
  if 0 < (ap.stapriv.stainfo pstat).aid then some ap
  else if ap.maxNumSta < ap.freeAid then none
  else
    let aid := ap.freeAid
    some
      ({ ap with
        stapriv :=
          { ap.stapriv with staAid := update ap.stapriv.staAid (aid - 1) (some pstat) } }.setAid pstat
        (BitVec.ofNat 32 aid))

/-- The record carries `WIFI_ASOC_STATE`, and goes from `auth_list` to `asoc_list`. -/
def join (ap : AssocAp Sta Xmit Recv) (pstat : Sta) : AssocAp Sta Xmit Recv :=
  let record := ap.auth pstat
  let listed := decide (pstat ∈ ap.stapriv.asocList)
  { ap with
    stapriv :=
      { ap.stapriv with
        authList := unlink pstat ap.stapriv.authList
        asocList := if listed then ap.stapriv.asocList else ap.stapriv.asocList ++ [pstat] } }.store
    pstat
    { record with
      state := record.state ||| wifiAsocState
      expireTo := if listed then record.expireTo else ap.expireTo }

def checkRequest (ap : AssocAp Sta Xmit Recv) (frame : MgntFrame MacAddr) (pstat : Sta)
    (xmitAllocated : Bool) : Option (Option AssocReply × AssocAp Sta Xmit Recv) :=
  let start := frame.ieStart
  match ap.settings.elementStatus frame start with
  | none => none
  | some status =>
      if status ≠ statsSuccessful then
        some (ap.onAssocReqFail frame.reassoc status pstat xmitAllocated)
      else
        let qosInfo := if ap.settings.qosOption then frame.qosInfo start else none
        let ap := { ap with stapriv := ap.stapriv.modify pstat (.withQos qosInfo) }
        match ap.settings.laterRefusal frame start with
        | none => none
        | some (some status) => some (ap.onAssocReqFail frame.reassoc status pstat xmitAllocated)
        | some none =>
            match ap.giveAid pstat with
            | none =>
                some (ap.onAssocReqFail frame.reassoc wlanStatusApUnableToHandleNewSta pstat xmitAllocated)
            | some ap =>
                let ap := ap.join pstat
                some (ap.issueAsocrsp frame.reassoc statsSuccessful pstat xmitAllocated, ap)

/-- `OnAssocReq`. It is `none` where a check writes behind a buffer. -/
def onAssocReq (ap : AssocAp Sta Xmit Recv) (frame : MgntFrame MacAddr) (xmitAllocated : Bool) :
    Option (Option AssocReply × AssocAp Sta Xmit Recv) :=
  if ap.apState = false then some (none, ap)
  else if frame.len < frame.ieStart then some (none, ap)
  else
    match ap.stapriv.getStainfo frame.sa with
    | none => some (issueDeauth frame.sa rsonCls2 xmitAllocated, ap)
    | some pstat =>
        if (ap.auth pstat).success = false then
          some (issueDeauth frame.sa rsonCls2 xmitAllocated, ap)
        else ap.checkRequest frame pstat xmitAllocated

def freeStainfo (ap : AssocAp Sta Xmit Recv) (psta : Sta) : AssocAp Sta Xmit Recv :=
  { ap with stapriv := ap.stapriv.freeStainfo psta }.store psta
    { ap.auth psta with expireTo := 0 }

def apFreeSta (ap : AssocAp Sta Xmit Recv) : Option Sta → AssocAp Sta Xmit Recv
  | none => ap
  | some psta => ap.freeStainfo psta

def receiveLeave (ap : AssocAp Sta Xmit Recv) (sa bssid : MacAddr) : AssocAp Sta Xmit Recv :=
  if bssid ≠ ap.myBssid then ap
  -- `receive_disconnect` is for a client
  else if ap.fwApState = false then ap
  else ap.apFreeSta (ap.stapriv.getStainfo sa)

def onDeAuth (ap : AssocAp Sta Xmit Recv) (sa bssid : MacAddr) : AssocAp Sta Xmit Recv :=
  ap.receiveLeave sa bssid

def onDisassoc (ap : AssocAp Sta Xmit Recv) (sa bssid : MacAddr) : AssocAp Sta Xmit Recv :=
  ap.receiveLeave sa bssid

def chkStaIsAlive (ap : AssocAp Sta Xmit Recv) (psta : Sta) : Bool × AssocAp Sta Xmit Recv :=
  if ap.rxPkts psta = ap.lastRxPkts psta then ((ap.stapriv.stainfo psta).asleep, ap)
  else (true, { ap with lastRxPkts := update ap.lastRxPkts psta (ap.rxPkts psta) })

def expireAuth (ap : AssocAp Sta Xmit Recv) (psta : Sta) : AssocAp Sta Xmit Recv :=
  let record := ap.auth psta
  if record.expireTo = 0 then ap
  else
    let ap := ap.store psta { record with expireTo := record.expireTo - 1 }
    if record.expireTo - 1 = 0 then
      { ap with
        stapriv := { ap.stapriv with authList := unlink psta ap.stapriv.authList } }.freeStainfo psta
    else ap

def renewAsoc (ap : AssocAp Sta Xmit Recv) (psta : Sta) : AssocAp Sta Xmit Recv :=
  match ap.chkStaIsAlive psta with
  | (true, ap) => ap.store psta { ap.auth psta with expireTo := ap.expireTo }
  | (false, ap) => ap

def expireAsoc (ap : AssocAp Sta Xmit Recv) (psta : Sta) : AssocAp Sta Xmit Recv :=
  let ap := ap.renewAsoc psta
  let record := ap.auth psta
  if record.expireTo = 0 then ap
  else
    let ap := ap.store psta { record with expireTo := record.expireTo - 1 }
    if record.expireTo - 1 = 0 then
      { ap with
        stapriv :=
          { ap.stapriv with asocList := unlink psta ap.stapriv.asocList } }.apFreeSta (some psta)
    else ap

def expireTimeoutChk (ap : AssocAp Sta Xmit Recv) : AssocAp Sta Xmit Recv :=
  let ap := ap.stapriv.authList.foldl expireAuth ap
  ap.stapriv.asocList.foldl expireAsoc ap

def flushSta (ap : AssocAp Sta Xmit Recv) (psta : Sta) : AssocAp Sta Xmit Recv :=
  { ap with
    stapriv :=
      { ap.stapriv with asocList := unlink psta ap.stapriv.asocList } }.apFreeSta (some psta)

def rtwStaFlush (ap : AssocAp Sta Xmit Recv) : AssocAp Sta Xmit Recv :=
  ap.stapriv.asocList.foldl flushSta ap

end AssocAp

end Floid.Wifi
