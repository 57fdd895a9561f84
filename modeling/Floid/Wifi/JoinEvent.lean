import Floid.Wifi.PacketNumbers
import Floid.Wifi.ScanTable

namespace Floid.Wifi

open Osk

def fwLinked : U32 := 0x1

def stationState : U32 := 0x8

def apState : U32 := 0x10

def adhocState : U32 := 0x20

def adhocMasterState : U32 := 0x40

def fwUnderLinking : U32 := 0x80

/-- `Ndis802_11IBSS`. -/
def ndisIbss : U32 := 0

/-- `Ndis802_11Infrastructure`. -/
def ndisInfrastructure : U32 := 1

def maxJoinTimeout : Nat := 6500

structure StaKeys where
  macId : U32
  ieee8021xBlocked : Bool
  dot118021XPrivacy : Privacy
  dot118021xUncstKey : BitVec 128
  dot11tkiprxmickey : BitVec 128
  dot11tkiptxmickey : BitVec 128
  dot11txpn : BitVec 64
  dot11rxpn : BitVec 64

def StaKeys.initial : StaKeys := ⟨0, false, .noPrivacy, 0, 0, 0, 0, 0⟩

structure JoinSecurity where
  dot11AuthAlgrthm : AuthAlgrthm
  dot11PrivacyAlgrthm : Privacy
  binstallGrpkey : Bool
  busetkipkey : Bool
  bgrpkeyHandshake : Bool
  /-- `ndisencryptstatus` is not `Ndis802_11EncryptionDisabled`. -/
  encrypts : Bool
  wpsPhase : Bool

def StaKeys.joined (keys : StaKeys) (security : JoinSecurity) : StaKeys :=
  let keys := { keys with macId := 0 }
  if security.dot11AuthAlgrthm = .ieee8021X then
    { keys with
      ieee8021xBlocked := true
      dot118021XPrivacy := security.dot11PrivacyAlgrthm
      dot118021xUncstKey := 0
      dot11tkiprxmickey := 0
      dot11tkiptxmickey := 0
      dot11txpn := 0
      dot11rxpn := 0 }
  else keys

def JoinSecurity.joined (security : JoinSecurity) : JoinSecurity :=
  if security.dot11AuthAlgrthm = .ieee8021X then
    { security with binstallGrpkey := false, busetkipkey := false, bgrpkeyHandshake := false }
  else security

/-- What `mlme_priv` has for a link, with the tables and the settings of the adapter. -/
structure Mlme (Sta Xmit Recv : Type) where
  table : ScanTable
  fwState : U32
  curNetwork : WlanNetwork
  stapriv : Adapter Sta Xmit Recv
  staKeys : Sta → StaKeys
  security : JoinSecurity
  keyMask : U8
  toJoin : Bool
  /-- The first `SsidLength` bytes of `assoc_ssid.Ssid`. -/
  assocSsid : List U8
  assocBssid : MacAddr
  assocByBssid : Bool
  assocByRssi : Bool
  /-- `assoc_timer`: the time it is set to, or it is cancelled. -/
  assocTimer : Option Nat
  /-- `retry` of `joinbss_event_prehandle`. -/
  retry : U8
  wifiSpec : Bool
  /-- How often `lock` has been taken. -/
  taken : Nat
  /-- How often `lock` has been released. -/
  released : Nat

namespace Mlme

variable {Sta Xmit Recv : Type} [DecidableEq Sta]

def checkFwstate (mlme : Mlme Sta Xmit Recv) (state : U32) : Bool := mlme.fwState &&& state ≠ 0

def setFwstate (mlme : Mlme Sta Xmit Recv) (state : U32) : Mlme Sta Xmit Recv :=
  { mlme with fwState := mlme.fwState ||| state }

def clearFwstate (mlme : Mlme Sta Xmit Recv) (state : U32) : Mlme Sta Xmit Recv :=
  if mlme.checkFwstate state then { mlme with fwState := mlme.fwState ^^^ state } else mlme

/-- `_enter_critical_bh (lock)`. -/
def enterCritical (mlme : Mlme Sta Xmit Recv) : Mlme Sta Xmit Recv :=
  { mlme with taken := mlme.taken + 1 }

/-- `_exit_critical_bh (lock)`. -/
def exitCritical (mlme : Mlme Sta Xmit Recv) : Mlme Sta Xmit Recv :=
  { mlme with released := mlme.released + 1 }

/-- `_set_timer (assoc_timer)`. -/
def setTimer (mlme : Mlme Sta Xmit Recv) (delay : Nat) : Mlme Sta Xmit Recv :=
  { mlme with assocTimer := some delay }

def curAddr (mlme : Mlme Sta Xmit Recv) : MacAddr := mlme.curNetwork.network.macAddress

/-- `free_stainfo`, which does nothing for `NULL`. -/
def freeStainfo (mlme : Mlme Sta Xmit Recv) : Option Sta → Mlme Sta Xmit Recv
  | none => mlme
  | some psta => { mlme with stapriv := mlme.stapriv.freeStainfo psta }

def allocStainfo (mlme : Mlme Sta Xmit Recv) (hwaddr : MacAddr) : Option Sta × Mlme Sta Xmit Recv :=
  match mlme.stapriv.allocStainfo hwaddr with
  | (none, _) => (none, mlme)
  | (some psta, stapriv) =>
      (some psta,
        { mlme with stapriv, staKeys := Function.update mlme.staKeys psta .initial })

def initBcmcStainfo (mlme : Mlme Sta Xmit Recv) : Mlme Sta Xmit Recv :=
  match mlme.allocStainfo bcAddr with
  | (none, mlme) => mlme
  | (some psta, mlme) =>
      { mlme with
        staKeys := Function.update mlme.staKeys psta { mlme.staKeys psta with macId := 1 } }

def indicateConnect (mlme : Mlme Sta Xmit Recv) : Mlme Sta Xmit Recv :=
  { mlme with toJoin := false }.setFwstate fwLinked

def resetSecuritypriv (mlme : Mlme Sta Xmit Recv) : Mlme Sta Xmit Recv :=
  let security := mlme.security
  let security :=
    if security.dot11AuthAlgrthm = .ieee8021X then
      { security with binstallGrpkey := false, busetkipkey := false, bgrpkeyHandshake := false }
    else security
  { mlme with
    security :=
      { security with
        dot11AuthAlgrthm := .open
        dot11PrivacyAlgrthm := .noPrivacy
        encrypts := false
        wpsPhase := false } }

def indicateDisconnect (mlme : Mlme Sta Xmit Recv) : Mlme Sta Xmit Recv :=
  (mlme.clearFwstate fwLinked).resetSecuritypriv

def freeAssocStations (mlme : Mlme Sta Xmit Recv) : Mlme Sta Xmit Recv :=
  let mlme :=
    if mlme.checkFwstate (stationState ||| apState) then
      mlme.freeStainfo (mlme.stapriv.getStainfo mlme.curAddr)
    else mlme
  if mlme.checkFwstate (adhocState ||| adhocMasterState ||| apState) then
    let mlme := { mlme with stapriv := mlme.stapriv.freeAllStainfo }
    (mlme.freeStainfo (mlme.stapriv.getStainfo bcAddr)).initBcmcStainfo
  else mlme

def freeAssocResources (mlme : Mlme Sta Xmit Recv) : Mlme Sta Xmit Recv :=
  let pwlan := mlme.table.findNetwork mlme.curAddr
  let mlme := mlme.freeAssocStations
  let table := mlme.table.setFixed false pwlan
  let table :=
    if mlme.checkFwstate adhocMasterState ∧ mlme.stapriv.asocStaCount = 1 then
      table.freeNetworkNolock pwlan
    else table
  { mlme with table, keyMask := 0 }

def isDesiredNetwork (hasWpsIe : WlanBssidEx → Bool) (mlme : Mlme Sta Xmit Recv) (network : WlanBssidEx) : Bool :=
  if mlme.security.wpsPhase then hasWpsIe network
  else
    !(mlme.wifiSpec && !mlme.security.encrypts && network.privacy ≠ 0) &&
      !(mlme.security.encrypts && network.privacy = 0) &&
      !(mlme.checkFwstate adhocState && network.infrastructureMode ≠ mlme.curNetwork.network.infrastructureMode)

inductive Selection where
  | fail
  | again
  | leave (pnetwork : NetworkRef)
  | rejoin (pnetwork : NetworkRef)
  | join (pnetwork : NetworkRef)

def stronger (table : ScanTable) (best : Option NetworkRef) (pnetwork : NetworkRef) : NetworkRef :=
  match best with
  | none => pnetwork
  | some best =>
      if (table.networks best).network.rssi.toInt < (table.networks pnetwork).network.rssi.toInt
      then pnetwork else best

def selectFrom (hasWpsIe : WlanBssidEx → Bool) (mlme : Mlme Sta Xmit Recv) :
    List NetworkRef → Option NetworkRef → Selection
  | [], best =>
      match best with
      | some pnetwork => if mlme.assocByRssi then .join pnetwork else .fail
      | none => .fail
  | pnetwork :: rest, best =>
      let network := (mlme.table.networks pnetwork).network
      if mlme.assocByBssid ∧ network.macAddress = mlme.assocBssid then
        if mlme.checkFwstate fwLinked then
          if mlme.curNetwork.network.isSameNetwork network then .again else .leave pnetwork
        else .join pnetwork
      else if !mlme.assocByBssid ∧ mlme.assocSsid.length = 0 then .join pnetwork
      else if network.ssid = mlme.assocSsid then
        if mlme.assocByRssi then selectFrom hasWpsIe mlme rest (stronger mlme.table best pnetwork)
        else if mlme.isDesiredNetwork hasWpsIe network then
          if mlme.checkFwstate fwLinked then .rejoin pnetwork else .join pnetwork
        else selectFrom hasWpsIe mlme rest best
      else selectFrom hasWpsIe mlme rest best

def select (hasWpsIe : WlanBssidEx → Bool) (mlme : Mlme Sta Xmit Recv) : Selection :=
  selectFrom hasWpsIe mlme mlme.table.scannedQueue none

def joinbssCmd (memory : Bool) (mlme : Mlme Sta Xmit Recv) (pnetwork : NetworkRef) : Bool × Mlme Sta Xmit Recv :=
  if memory then
    let network := (mlme.table.networks pnetwork).network
    let mlme :=
      if mlme.checkFwstate (stationState ||| adhocState) then mlme
      else if network.infrastructureMode = ndisIbss then mlme.setFwstate adhocState
      else if network.infrastructureMode = ndisInfrastructure then mlme.setFwstate stationState
      else mlme
    (true,
      { mlme with assocBssid := if mlme.assocByBssid then mlme.assocBssid else network.macAddress })
  else (false, mlme)

def selectAndJoin (hasWpsIe : WlanBssidEx → Bool) (memory : Bool) (mlme : Mlme Sta Xmit Recv) :
    Bool × Mlme Sta Xmit Recv :=
  match mlme.select hasWpsIe with
  | .fail => (false, mlme)
  | .again => (false, mlme.indicateConnect)
  | .leave pnetwork => joinbssCmd memory mlme.indicateDisconnect.freeAssocResources pnetwork
  | .rejoin pnetwork => joinbssCmd memory mlme.freeAssocResources pnetwork
  | .join pnetwork => joinbssCmd memory mlme pnetwork

def theSameMacaddr (mlme : Mlme Sta Xmit Recv) (pnetwork : WlanNetwork) : Bool :=
  pnetwork.network.macAddress = mlme.curAddr

def freeCurrent (mlme : Mlme Sta Xmit Recv) : Mlme Sta Xmit Recv :=
  { mlme with table := mlme.table.setFixed false (mlme.table.findNetwork mlme.curAddr) }.freeStainfo
    (mlme.stapriv.getStainfo mlme.curAddr)

def findTargetWlan (mlme : Mlme Sta Xmit Recv) (pnetwork : WlanNetwork) : Option NetworkRef × Mlme Sta Xmit Recv :=
  if mlme.checkFwstate fwLinked ∧ mlme.theSameMacaddr pnetwork then
    (mlme.table.findNetwork mlme.curAddr, mlme)
  else
    let mlme := if mlme.checkFwstate fwLinked then mlme.freeCurrent else mlme
    let ptargetWlan := mlme.table.findNetwork pnetwork.network.macAddress
    (ptargetWlan,
      if mlme.checkFwstate stationState then
        { mlme with table := mlme.table.setFixed true ptargetWlan }
      else mlme)

def updateTargetSta (mlme : Mlme Sta Xmit Recv) (joinRes : U32) (ptargetSta : Sta) : Mlme Sta Xmit Recv :=
  { mlme with
    stapriv := mlme.stapriv.modify ptargetSta fun record =>
      { record with aid := joinRes, qosOption := true }
    staKeys := Function.update mlme.staKeys ptargetSta
      ((mlme.staKeys ptargetSta).joined mlme.security)
    security := mlme.security.joined }

/-- The step `s2`, which finds `ptarget_sta`. The answer: there is one, or none is needed. -/
def findTargetSta (mlme : Mlme Sta Xmit Recv) (pnetwork : WlanNetwork) : Bool × Mlme Sta Xmit Recv :=
  if mlme.checkFwstate stationState then
    match mlme.stapriv.getStainfo pnetwork.network.macAddress with
    | some ptargetSta => (true, mlme.updateTargetSta pnetwork.joinRes ptargetSta)
    | none =>
        match mlme.allocStainfo pnetwork.network.macAddress with
        | (some ptargetSta, mlme) => (true, mlme.updateTargetSta pnetwork.joinRes ptargetSta)
        | (none, mlme) => (false, mlme)
  else (true, mlme)

def updateCurNetwork (mlme : Mlme Sta Xmit Recv) (pnetwork : WlanNetwork) : Mlme Sta Xmit Recv :=
  let mlme :=
    { mlme with
      curNetwork :=
        { mlme.curNetwork with
          network := mlme.curNetwork.network.memcpy pnetwork.network pnetwork.network.sz.toNat
          aid := pnetwork.joinRes }
      fwState :=
        if pnetwork.network.infrastructureMode = ndisInfrastructure then stationState
        else if pnetwork.network.infrastructureMode = ndisIbss then adhocState
        else 0 }
  let mlme := if mlme.checkFwstate stationState then mlme.indicateConnect else mlme
  { mlme with assocTimer := none }

def joined (mlme : Mlme Sta Xmit Recv) (pnetwork : WlanNetwork) : Mlme Sta Xmit Recv :=
  let mlme := { mlme with retry := 0 }
  if mlme.checkFwstate fwUnderLinking then
    match mlme.findTargetWlan pnetwork with
    | (none, mlme) => mlme
    | (some _, mlme) =>
        match mlme.findTargetSta pnetwork with
        | (false, mlme) => mlme
        | (true, mlme) => mlme.updateCurNetwork pnetwork
  else mlme

def notJoined (hasWpsIe : WlanBssidEx → Bool) (memory : Bool) (mlme : Mlme Sta Xmit Recv) : Mlme Sta Xmit Recv :=
  match mlme.selectAndJoin hasWpsIe memory with
  | (res, mlme) =>
      if !res ∨ 2 < mlme.retry then
        { (mlme.setTimer 1).clearFwstate fwUnderLinking with retry := 0 }
      else { mlme.setTimer maxJoinTimeout with retry := mlme.retry + 1 }

/-- The event, with the `Length` that the handler writes into it. -/
def withLength (pnetwork : WlanNetwork) : WlanNetwork :=
  { pnetwork with network := pnetwork.network.setUlong 0 pnetwork.network.sz }

def joinbssEventPrehandle (hasWpsIe : WlanBssidEx → Bool) (memory : Bool)
    (mlme : Mlme Sta Xmit Recv) (pnetwork : WlanNetwork) : Mlme Sta Xmit Recv :=
  let pnetwork := withLength pnetwork
  if bssidExSz < pnetwork.network.sz.toNat then mlme.exitCritical
  else
    let mlme := mlme.enterCritical
    let mlme :=
      if 0 < pnetwork.joinRes.toInt then mlme.joined pnetwork
      else if pnetwork.joinRes = -4 then
        (mlme.resetSecuritypriv.setTimer 1).clearFwstate fwUnderLinking
      else mlme.notJoined hasWpsIe memory
    mlme.exitCritical

end Mlme

def WlanBssidEx.stamp (dst src : WlanBssidEx) : WlanBssidEx where
  bytes i := if 120 ≤ i.val ∧ i.val < 128 then src.bytes i else dst.bytes i

namespace Mlme

variable {Sta Xmit Recv : Type} [DecidableEq Sta]

def updateCurrentNetwork (antenna : AntennaDiversity) (mlme : Mlme Sta Xmit Recv)
    (pnetwork : WlanBssidEx) : WlanBssidEx × Mlme Sta Xmit Recv :=
  let current := mlme.curNetwork.network
  if mlme.checkFwstate fwLinked ∧ current.isSameNetwork pnetwork then
    let src := antenna.swAntDivCompare current pnetwork
    (src, { mlme with
      curNetwork := { mlme.curNetwork with network := current.memcpy src src.sz.toNat } })
  else (pnetwork, mlme)

def rtwAddNetwork (antenna : AntennaDiversity) (now : U32) (mlme : Mlme Sta Xmit Recv)
    (pnetwork : WlanBssidEx) : Mlme Sta Xmit Recv :=
  match mlme.updateCurrentNetwork antenna pnetwork with
  | (pnetwork, mlme) =>
      { mlme with table := mlme.table.updateScannedNetwork antenna now pnetwork }

def hideSsid (pnetwork : WlanBssidEx) : WlanBssidEx :=
  if pnetwork.byte 16 = 0 then pnetwork.setUlong 12 0 else pnetwork

def ownBeacon (mlme : Mlme Sta Xmit Recv) (pnetwork : WlanBssidEx) : Bool :=
  mlme.checkFwstate adhocMasterState && mlme.curAddr = pnetwork.macAddress

/-- `survey_event_callback`, at `now`. -/
def surveyEventCallback (antenna : AntennaDiversity) (now : U32) (mlme : Mlme Sta Xmit Recv)
    (pnetwork : WlanBssidEx) : Mlme Sta Xmit Recv :=
  if bssidExSz < pnetwork.sz.toNat then mlme.exitCritical
  else
    let mlme := mlme.enterCritical
    let ibssWlan := mlme.table.findNetwork pnetwork.macAddress
    let own := mlme.ownBeacon pnetwork
    let mlme :=
      if own then
        { mlme with
          curNetwork :=
            { mlme.curNetwork with network := mlme.curNetwork.network.stamp pnetwork } }
      else mlme
    let mlme :=
      match own, ibssWlan with
      | true, some ibssWlan =>
          { mlme with
            table := mlme.table.modify ibssWlan fun record =>
              { record with network := record.network.stamp pnetwork } }
      | _, _ =>
          if mlme.checkFwstate fwUnderLinking then mlme
          else mlme.rtwAddNetwork antenna now (hideSsid pnetwork)
    mlme.exitCritical

def freeNetworkQueue (hz now : U32) (isfreeall : Bool) (mlme : Mlme Sta Xmit Recv) : Mlme Sta Xmit Recv :=
  let adhoc := mlme.checkFwstate adhocMasterState || mlme.checkFwstate adhocState
  { mlme with table := mlme.table.freeNetworkQueue hz now adhoc isfreeall }

def takeNetwork (now : U32) (table : ScanTable) : Option NetworkRef × ScanTable :=
  match table.allocNetwork now with
  | (some pwlan, table) => (some pwlan, table.insertTail pwlan)
  | (none, table) =>
      match table.getOldestWlanNetwork with
      | none => (none, table)
      | some pwlan =>
          (some pwlan, table.modify pwlan fun record => { record with lastScanned := now })

def createbssCmdCallback (now : U32) (mlme : Mlme Sta Xmit Recv) (pnetwork : WlanBssidEx) : Mlme Sta Xmit Recv :=
  let mlme := { mlme with assocTimer := none }.enterCritical
  let mlme :=
    if mlme.checkFwstate apState then
      match mlme.stapriv.getStainfo pnetwork.macAddress with
      | some _ => mlme.indicateConnect
      | none =>
          match mlme.allocStainfo pnetwork.macAddress with
          | (some _, mlme) => mlme.indicateConnect
          | (none, mlme) => mlme
    else
      match takeNetwork now mlme.table with
      | (none, table) => { mlme with table }
      | (some pwlan, table) =>
          let pnetwork := pnetwork.setUlong 0 pnetwork.sz
          { mlme with
            table := table.modify pwlan fun record =>
              { record with network := record.network.memcpy pnetwork pnetwork.sz.toNat }
            curNetwork :=
              { mlme.curNetwork with
                network := mlme.curNetwork.network.memcpy pnetwork pnetwork.sz.toNat } }.clearFwstate
            fwUnderLinking
  mlme.exitCritical

def removeCurrent (mlme : Mlme Sta Xmit Recv) : Mlme Sta Xmit Recv :=
  let pwlan := mlme.table.findNetwork mlme.curAddr
  { mlme with table := (mlme.table.setFixed false pwlan).freeNetworkNolock pwlan }

def stadelEventCallback (mlme : Mlme Sta Xmit Recv) (macaddr : MacAddr) : Mlme Sta Xmit Recv :=
  if mlme.checkFwstate apState then mlme
  else
    let mlme := mlme.enterCritical
    let mlme :=
      if mlme.checkFwstate stationState then
        mlme.freeAssocResources.indicateDisconnect.removeCurrent
      else mlme
    let mlme :=
      if mlme.checkFwstate (adhocMasterState ||| adhocState) then
        let mlme := mlme.freeStainfo (mlme.stapriv.getStainfo macaddr)
        if mlme.stapriv.asocStaCount = 1 then
          let mlme := mlme.removeCurrent
          if mlme.checkFwstate adhocState then
            (mlme.setFwstate adhocMasterState).clearFwstate adhocState
          else mlme
        else mlme
      else mlme
    mlme.exitCritical

def set80211Disassociate (mlme : Mlme Sta Xmit Recv) : Mlme Sta Xmit Recv :=
  let mlme := mlme.enterCritical
  let mlme :=
    if mlme.checkFwstate fwLinked then mlme.indicateDisconnect.freeAssocResources else mlme
  mlme.exitCritical

def joinTimeoutHandler (stopped : Bool) (mlme : Mlme Sta Xmit Recv) : Mlme Sta Xmit Recv :=
  if stopped then mlme
  else
    let mlme := mlme.enterCritical.clearFwstate fwUnderLinking
    let mlme :=
      if mlme.checkFwstate fwLinked then mlme.resetSecuritypriv.clearFwstate fwLinked else mlme
    { mlme with table := mlme.table.freeScanqueue }.exitCritical

end Mlme

end Floid.Wifi
