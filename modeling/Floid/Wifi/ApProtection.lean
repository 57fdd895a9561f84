import Floid.Wifi.AssocTableRuns
import Floid.Wifi.CollectBss

/-!
The protection that an access point gives to stations with less than it has: what
`OnAssocReq` notes of a request, the counters that `bss_cap_update` and `ap_free_sta` keep,
and the operation mode that `rtw_ht_operation_update` makes of them.
-/

namespace Floid.Wifi

open Osk
open Function (update)

def wireless11b : U8 := 1

def htInfoOperationModeOpModeMask : U16 := 0x0003
def htInfoOperationModeNonGfDevsPresent : U16 := 0x0004
def htInfoOperationModeNonHtStaPresent : U16 := 0x0010

def opModePure : U16 := 0
def opModeMayBeLegacyStas : U16 := 1
def opMode20mhzHtStaAssoced : U16 := 2
def opModeMixed : U16 := 3

inductive StaProperty where
  | nonErp
  | noShortSlotTime
  | noShortPreamble
  | noHt
  | htNoGf
  | ht20mhz
  deriving DecidableEq, Repr

structure StaCaps where
  /-- `WLAN_STA_NONERP`, `WLAN_STA_SHORT_PREAMBLE` and `WLAN_STA_HT` of the flags. -/
  nonErp : Bool
  shortPreamble : Bool
  ht : Bool
  capability : U16
  /-- `htpriv.ht_cap.cap_info`. -/
  htCapInfo : U16
  /-- `nonerp_set` and the others. -/
  counted : StaProperty → Bool

def StaCaps.initial : StaCaps := ⟨false, false, false, 0, 0, fun _ => false⟩

namespace StaCaps

variable (caps : StaCaps)

def noShortSlotTime : Bool := !caps.capability.getLsbD 10

def greenField : Bool := caps.htCapInfo.getLsbD 4
def supWidth : Bool := caps.htCapInfo.getLsbD 1

end StaCaps

namespace MgntFrame

variable {Station : Type*} (frame : MgntFrame Station)

def htCapElement : Option Nat :=
  match frame.parseElems frame.ieStart (frame.len - frame.ieStart) with
  | none => none
  | some elems =>
      match elems.htCapabilities with
      | some (pos, len) => if htCapSz ≤ len then some pos else none
      | none => none

def supportRates : List U8 :=
  match frame.getIe frame.ieStart supportedratesIe with
  | none => []
  | some p =>
      frame.bytes (p + 2) (frame.memory (p + 1)).toNat ++
        match frame.getIe frame.ieStart extSupportedratesIe with
        | none => []
        | some p => frame.bytes (p + 2) (frame.memory (p + 1)).toNat

def capabInfo : U16 := BitVec.ofNat 16 (frame.le16 wlanHdrA3Len)

end MgntFrame

def StaCaps.noteHt {Station : Type*} (caps : StaCaps) (frame : MgntFrame Station) : StaCaps :=
  match frame.htCapElement with
  | some pos => { caps with ht := true, htCapInfo := BitVec.ofNat 16 (frame.le16 pos) }
  | none => { caps with ht := false, htCapInfo := 0 }

/-- What `OnAssocReq` writes into the record of a station that is authenticated, up to the place
where the request is refused. -/
def StaCaps.request {Station : Type*} (caps : StaCaps) (settings : AssocSettings)
    (frame : MgntFrame Station) : StaCaps :=
  let caps := { caps with capability := frame.capabInfo }
  if settings.elementStatus frame frame.ieStart = some statsSuccessful then
    let caps := caps.noteHt frame
    if settings.htRefused frame frame.ieStart then caps
    else
      { caps with
        nonErp := frame.supportRates.all fun rate => (rate &&& 0x7f).toNat ≤ 22
        shortPreamble := caps.capability.getLsbD 5 }
  else caps

structure BssProtection where
  /-- `num_sta_non_erp` and the others. -/
  num : StaProperty → Int
  olbcHt : Bool
  htOpMode : U16
  /-- `IEEE80211_HT_CAP_SUP_WIDTH` of the access point. -/
  supWidth : Bool
  curWirelessMode : U8
  wifiSpec : Bool
  bwmodeUpdated : Bool
  /-- The elements that `update_beacon` has been called for, and whether the beacon is sent. -/
  beacons : List (U8 × Bool)

structure ProtectedAp (Sta Xmit Recv : Type) where
  ap : AssocAp Sta Xmit Recv
  caps : Sta → StaCaps
  bss : BssProtection
  events : List MacAddr

namespace BssProtection

variable (bss : BssProtection)

def updateBeacon (ie : U8) (tx : Bool) : BssProtection :=
  { bss with beacons := bss.beacons ++ [(ie, tx)] }

def announce (property : StaProperty) (value : Int) : BssProtection :=
  if bss.num property ≠ value then bss
  else
    match property with
    | .nonErp => bss.updateBeacon erpinfoIe true
    | .noShortSlotTime | .noShortPreamble =>
        if wireless11b < bss.curWirelessMode then bss.updateBeacon 0xff true else bss
    | .noHt | .htNoGf | .ht20mhz => bss

def count (property : StaProperty) (on : Bool) : BssProtection :=
  if on then
    { bss with num := update bss.num property (bss.num property + 1) }.announce property 1
  else
    { bss with num := update bss.num property (bss.num property - 1) }.announce property 0

def setOpModeFlag (flag : U16) (on : Bool) : BssProtection × Nat :=
  if bss.htOpMode &&& flag = 0 ∧ on then ({ bss with htOpMode := bss.htOpMode ||| flag }, 1)
  else if bss.htOpMode &&& flag ≠ 0 ∧ on = false then
    ({ bss with htOpMode := bss.htOpMode &&& ~~~flag }, 1)
  else (bss, 0)

def htOperationUpdate (htOption : Bool) : BssProtection × Nat :=
  if htOption then (bss, 0)
  else
    let (bss, gfChanges) :=
      bss.setOpModeFlag htInfoOperationModeNonGfDevsPresent (bss.num .htNoGf ≠ 0)
    let (bss, htChanges) :=
      bss.setOpModeFlag htInfoOperationModeNonHtStaPresent (bss.num .noHt ≠ 0 || bss.olbcHt)
    let newOpMode :=
      if bss.num .noHt ≠ 0 ∨ bss.htOpMode &&& htInfoOperationModeNonGfDevsPresent ≠ 0 then
        opModeMixed
      else if bss.supWidth ∧ bss.num .ht20mhz ≠ 0 then opMode20mhzHtStaAssoced
      else if bss.olbcHt then opModeMayBeLegacyStas
      else opModePure
    if bss.htOpMode &&& htInfoOperationModeOpModeMask ≠ newOpMode then
      ({ bss with htOpMode := (bss.htOpMode &&& ~~~htInfoOperationModeOpModeMask) ||| newOpMode },
        gfChanges + htChanges + 1)
    else (bss, gfChanges + htChanges)

def announceHt (htOption : Bool) : BssProtection :=
  let (bss, changes) := bss.htOperationUpdate htOption
  if 0 < changes then (bss.updateBeacon htCapabilityIe false).updateBeacon htAddInfoIe true
  else bss

end BssProtection

namespace ProtectedAp

variable {Sta Xmit Recv : Type} [DecidableEq Sta] (self : ProtectedAp Sta Xmit Recv)

def mark (psta : Sta) (property : StaProperty) (on : Bool) : ProtectedAp Sta Xmit Recv :=
  let caps := self.caps psta
  if caps.counted property = on then self
  else
    { self with
      caps := update self.caps psta
        { caps with counted := update caps.counted property on }
      bss := self.bss.count property on }

/-- The part of `bss_cap_update` for HT. What a station without HT was counted for with HT, and
what it lacked, it stays counted for. -/
def htCapUpdate (psta : Sta) : ProtectedAp Sta Xmit Recv :=
  let caps := self.caps psta
  if caps.ht then
    let self := self.mark psta .noHt false
    let self := if caps.greenField then self else self.mark psta .htNoGf true
    if caps.supWidth then self else self.mark psta .ht20mhz true
  else self.mark psta .noHt true

def bssCapUpdate (psta : Sta) : ProtectedAp Sta Xmit Recv :=
  let caps := self.caps psta
  let self := self.mark psta .nonErp caps.nonErp
  let self := self.mark psta .noShortSlotTime caps.noShortSlotTime
  let self := self.mark psta .noShortPreamble (!caps.shortPreamble)
  let self := self.htCapUpdate psta
  { self with bss := self.bss.announceHt self.ap.settings.htOption }

def uncount (psta : Sta) : ProtectedAp Sta Xmit Recv :=
  let self := self.mark psta .nonErp false
  let self := self.mark psta .noShortSlotTime false
  let self := self.mark psta .noShortPreamble false
  let self := self.mark psta .htNoGf false
  let self := self.mark psta .noHt false
  let self := self.mark psta .ht20mhz false
  { self with bss := self.bss.announceHt self.ap.settings.htOption }

def apFreeSta : Option Sta → ProtectedAp Sta Xmit Recv
  | none => self
  | some psta =>
      let self := self.uncount psta
      { self with ap := self.ap.apFreeSta (some psta) }

def authTaken (frame : MgntFrame MacAddr) : Bool :=
  let algorithm := frame.le16 wlanHdrA3Len
  self.ap.apState &&
    !((0 < algorithm && self.ap.authMode == 0) || (algorithm == 0 && self.ap.authMode == 1))

def onAuth (frame : MgntFrame MacAddr) (xmitAllocated : Bool) : ProtectedAp Sta Xmit Recv :=
  let ap := (self.ap.onAuth frame xmitAllocated).2
  match self.authTaken frame, self.ap.stapriv.getStainfo frame.sa,
      (self.ap.stapriv.allocStainfo frame.sa).1 with
  | true, none, some psta => { self with ap, caps := update self.caps psta .initial }
  | _, _, _ => { self with ap }

def requester (frame : MgntFrame MacAddr) : Option Sta :=
  if self.ap.apState = false ∨ frame.len < frame.ieStart then none
  else
    match self.ap.stapriv.getStainfo frame.sa with
    | none => none
    | some pstat => if (self.ap.auth pstat).success then some pstat else none

def accepts (frame : MgntFrame MacAddr) (pstat : Sta) : Bool :=
  (self.ap.settings.refusal frame == some none) && (self.ap.giveAid pstat).isSome

/-- `OnAssocReq`, with what there is memory for. It is `none` where a check writes behind a
buffer. -/
def onAssocReq (frame : MgntFrame MacAddr) (xmitAllocated eventAllocated : Bool) :
    Option (ProtectedAp Sta Xmit Recv) :=
  (self.ap.onAssocReq frame xmitAllocated).map fun (_, ap) =>
    match self.requester frame with
    | none => { self with ap }
    | some pstat =>
        let caps := update self.caps pstat
          ((self.caps pstat).request self.ap.settings frame)
        -- `report_add_sta_event`
        let events :=
          if self.accepts frame pstat && eventAllocated then
            self.events ++ [(self.ap.stapriv.stainfo pstat).hwaddr]
          else self.events
        { self with ap, caps, events }

def stassocEventCallback (allowed : Bool) : ProtectedAp Sta Xmit Recv :=
  match self.events with
  | [] => self
  | macaddr :: events =>
      let self := { self with events }
      if allowed then
        match self.ap.stapriv.getStainfo macaddr with
        | none => self
        | some psta => self.bssCapUpdate psta
      else self

def receiveLeave (sa bssid : MacAddr) : ProtectedAp Sta Xmit Recv :=
  if bssid ≠ self.ap.myBssid then self
  else if self.ap.fwApState = false then self
  else self.apFreeSta (self.ap.stapriv.getStainfo sa)

def rtwDelSta (staAddr : MacAddr) : ProtectedAp Sta Xmit Recv :=
  self.apFreeSta (self.ap.stapriv.getStainfo staAddr)

def expireAuth (psta : Sta) : ProtectedAp Sta Xmit Recv :=
  { self with ap := self.ap.expireAuth psta }

def expireAsoc (psta : Sta) : ProtectedAp Sta Xmit Recv :=
  let ap := self.ap.expireAsoc psta
  if ((self.ap.renewAsoc psta).auth psta).expireTo = 1 then { self.uncount psta with ap }
  else { self with ap }

def expireTimeoutChk : ProtectedAp Sta Xmit Recv :=
  let self := self.ap.stapriv.authList.foldl expireAuth self
  self.ap.stapriv.asocList.foldl expireAsoc self

def flushSta (psta : Sta) : ProtectedAp Sta Xmit Recv :=
  { self.uncount psta with ap := self.ap.flushSta psta }

def rtwStaFlush : ProtectedAp Sta Xmit Recv := self.ap.stapriv.asocList.foldl flushSta self

def collectBssInfo (frame : SurveyFrame) (antenna channel : U8) : ProtectedAp Sta Xmit Recv :=
  match frame.collectHead antenna with
  | none => self
  | some bss =>
      if self.bss.wifiSpec ∧ self.bss.bwmodeUpdated = false ∧
          frame.coexistCheck (frame.collectTail channel bss) = .noHt then
        { self with
          bss :=
            { self.bss with num := update self.bss.num .noHt (self.bss.num .noHt + 1) } }
      else self

end ProtectedAp

end Floid.Wifi
