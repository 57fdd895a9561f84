import Floid.Wifi.CollectBssReads
import Floid.Wifi.MgntContained
import Floid.Wifi.P2pReceiveContained
import Floid.Wifi.SurveyRuns

namespace Floid.Wifi

open Osk Lib
open Option (bind_eq_bind bind_some isSome_iff_exists map_some some.injEq)

/-- What `OnAssocReq` takes from a request into the record of a station. -/
structure AssocSta where
  bssratelen : Nat
  bssrateset : Vector U8 16
  wpaIe : Vector U8 32
  htCap : Vector U8 26
  isP2pDevice : Bool
  device : StaDevice

structure RequestChecks where
  refused : Option Nat
  /-- `qos_info` of the WMM element, if it was looked for. -/
  qosInfo : Option (Option U8)
  pstat : AssocSta

namespace MgntFrame

variable {Station : Type*} (frame : MgntFrame Station)

def readIe (start limit : Nat) (index : U8) : Option (Option (List U8)) :=
  match getIeAt frame.memory start index limit with
  | none => some none
  | some p => (frame.read (p + 2) (frame.memory (p + 1)).toNat).map some

def ssidMatchesIn (start limit : Nat) (ssid : List U8) : Option Bool :=
  match getIeAt frame.memory start ssidIe limit with
  | none => some false
  | some p =>
      let ieLen := (frame.memory (p + 1)).toNat
      if ieLen = 0 then some false
      else (frame.read (p + 2) ssid.length).map fun own => own = ssid && ieLen = ssid.length

def supportRateIn (start limit : Nat) : Option (Option (List U8)) := do
  match ← frame.readIe start limit supportedratesIe with
  | none => return none
  | some rates =>
      if 16 < rates.length then none
      else
        match ← frame.readIe start limit extSupportedratesIe with
        | none => return some rates
        | some ext => if 16 < rates.length + ext.length then none else return some (rates ++ ext)

/-- The search for the WMM element, from a place on at which so much of the limit of `get_ie`
is left. The limit is what it was at the start again behind each element of a vendor. -/
def wmmIn (limit p left : Nat) : Option (Option Nat) :=
  if _inside : p < frame.len then
    if frame.memory p = vendorSpecificIe then
      if frame.Has (p + 2) 6 then
        if frame.bytes (p + 2) 6 = [0x00, 0x50, 0xf2, 0x02, 0x00, 0x01] then some (some p)
        else wmmIn limit (p + (frame.memory (p + 1)).toNat + 2) limit
      else none
    -- the byte behind the limit is not counted
    else if 2 ≤ left ∧ frame.len ≤ p + 1 then none
    else
      let step := (frame.memory (p + 1)).toNat + 2
      if left ≤ step then some none else wmmIn limit (p + step) (left - step)
  else none
termination_by frame.len - p

def qosInfoIn (start limit : Nat) : Option (Option U8) :=
  if limit < 1 then some none
  else
    (frame.wmmIn limit start limit).bind fun
      | none => some none
      | some p => if frame.Has (p + 8) 1 then some (some (frame.memory (p + 8))) else none

end MgntFrame

namespace AssocSettings

variable {Station : Type*} (settings : AssocSettings) (frame : MgntFrame Station)

def securityIn (elems : Ieee80211Elems) : Option (Nat × Option (List U8)) :=
  match settings.wpaPsk.getLsbD 1, elems.rsnIe, settings.wpaPsk.getLsbD 0, elems.wpaIe with
  | true, some (pos, len), _, _ =>
      (frame.read (pos - 2) (len + 2)).map fun ie =>
        (cipherStatus settings.wpa2GroupCipher settings.wpa2PairwiseCipher
          (frame.parseWpa2Ie (pos - 2) (len + 2)), some ie)
  | _, _, true, some (pos, len) =>
      (frame.read (pos - 2) (len + 2)).map fun ie =>
        (cipherStatus settings.wpaGroupCipher settings.wpaPairwiseCipher
          (frame.parseWpaIe (pos - 2) (len + 2)), some ie)
  | _, _, _, _ => some (statsSuccessful, none)

def htCapIn (elems : Ieee80211Elems) : Option (Option (Vector U8 26)) :=
  match elems.htCapabilities with
  | none => some none
  | some (pos, len) =>
      if htCapSz ≤ len then
        (frame.read pos htCapSz).bind fun data =>
          (fillField (Vector.replicate 26 (0 : U8)) 0 data).map some
      else some none

def p2pIn (role : P2pRole) (allocated : Bool) (start limit : Nat) (pstat : AssocSta) : Option (Nat × AssocSta) := do
  match ← getP2pIeInto maxP2pIeLen (frame.tail start) limit with
  | none => return (p2pStatusSuccess, { pstat with isP2pDevice := false })
  | some p2pIe =>
      let (code, device) ← processAssocReqDevice role p2pIe pstat.device allocated
      return (code, { pstat with isP2pDevice := true, device })

def laterChecksIn (role : P2pRole) (allocated : Bool) (start limit : Nat) (elems : Ieee80211Elems)
    (pstat : AssocSta) : Option RequestChecks := do
  let qosInfo ← if settings.qosOption then frame.qosInfoIn start limit else some none
  let htCap ← htCapIn frame elems
  let pstat := { pstat with htCap := htCap.getD (Vector.replicate 26 0) }
  if settings.htOption = false ∧ htCap.isSome then return ⟨some statsFailure, some qosInfo, pstat⟩
  else
    let (code, pstat) ← p2pIn frame role allocated start limit pstat
    return ⟨if 0 < code then some statsSuccessful else none, some qosInfo, pstat⟩

def elementChecksIn (role : P2pRole) (allocated : Bool) (start limit : Nat) (elems : Ieee80211Elems)
    (pstat : AssocSta) : Option RequestChecks := do
  match ← frame.supportRateIn start limit with
  | none => return ⟨some statsFailure, none, pstat⟩
  | some rates =>
      let bssrateset ← fillField pstat.bssrateset 0 rates
      let (status, ie) ← settings.securityIn frame elems
      let wpaIe := Vector.replicate 32 0
      let pstat := { pstat with bssratelen := rates.length, bssrateset, wpaIe }
      if status ≠ statsSuccessful then return ⟨some status, none, pstat⟩
      else
        let wpaIe ← fillField wpaIe 0 ((ie.getD []).take 32)
        settings.laterChecksIn frame role allocated start limit elems { pstat with wpaIe }

def checksIn (role : P2pRole) (allocated : Bool) (start : Nat) (pstat : AssocSta) : Option RequestChecks := do
  let limit ← frame.listLen start
  match frame.parseElems start limit with
  | none => return ⟨some statsFailure, none, pstat⟩
  | some elems =>
      if elems.ssid = none then return ⟨some statsFailure, none, pstat⟩
      else
        let same ← frame.ssidMatchesIn start limit settings.ssid
        if same = false then return ⟨some statsFailure, none, pstat⟩
        else settings.elementChecksIn frame role allocated start limit elems pstat

end AssocSettings

namespace AssocAp

variable {Sta Xmit Recv : Type} [DecidableEq Sta]

def answerRequest (ap : AssocAp Sta Xmit Recv) (reassoc : Bool) (pstat : Sta)
    (xmitAllocated : Bool) (checks : RequestChecks) : Option AssocReply × AssocAp Sta Xmit Recv :=
  let ap :=
    match checks.qosInfo with
    | none => ap
    | some qosInfo => { ap with stapriv := ap.stapriv.modify pstat (.withQos qosInfo) }
  match checks.refused with
  | some status => ap.onAssocReqFail reassoc status pstat xmitAllocated
  | none =>
      match ap.giveAid pstat with
      | none => ap.onAssocReqFail reassoc wlanStatusApUnableToHandleNewSta pstat xmitAllocated
      | some ap =>
          let ap := ap.join pstat
          (ap.issueAsocrsp reassoc statsSuccessful pstat xmitAllocated, ap)

/-- `OnAssocReq`, with the role of the P2P device and what `rtw_zmalloc` would do. -/
def onAssocReqIn (ap : AssocAp Sta Xmit Recv) (records : Sta → AssocSta) (role : P2pRole)
    (frame : MgntFrame MacAddr) (allocated xmitAllocated : Bool) :
    Option ((Option AssocReply × AssocAp Sta Xmit Recv) × (Sta → AssocSta)) :=
  if ap.apState = false then some ((none, ap), records)
  else if frame.len < frame.ieStart then some ((none, ap), records)
  else
    match ap.stapriv.getStainfo frame.sa with
    | none => some ((issueDeauth frame.sa rsonCls2 xmitAllocated, ap), records)
    | some pstat => do
        let _ ← frame.read wlanHdrA3Len 4
        if (ap.auth pstat).success = false then
          return ((issueDeauth frame.sa rsonCls2 xmitAllocated, ap), records)
        else
          let checks ← ap.settings.checksIn frame role allocated frame.ieStart (records pstat)
          return (ap.answerRequest frame.reassoc pstat xmitAllocated checks,
            Function.update records pstat checks.pstat)

end AssocAp

namespace MgntFrame

variable {Station : Type*} {frame : MgntFrame Station} {start : Nat} {index : U8}

def IeIn (frame : MgntFrame Station) (start : Nat) (index : U8) : Prop :=
  ∀ p, frame.getIe start index = some p → frame.Has (p + 2) (frame.memory (p + 1)).toNat

def SsidIn (frame : MgntFrame Station) (start : Nat) (ssid : List U8) : Prop :=
  ∀ p, frame.getIe start ssidIe = some p → frame.memory (p + 1) ≠ 0 → frame.Has (p + 2) ssid.length

def SupportRatesIn (frame : MgntFrame Station) (start : Nat) : Prop :=
  frame.IeIn start supportedratesIe ∧ ∀ p, frame.getIe start supportedratesIe = some p →
    (frame.memory (p + 1)).toNat ≤ 16 ∧ frame.IeIn start extSupportedratesIe ∧
      ∀ q, frame.getIe start extSupportedratesIe = some q →
        (frame.memory (p + 1)).toNat + (frame.memory (q + 1)).toNat ≤ 16

inductive WmmReached (frame : MgntFrame Station) (limit : Nat) : Nat → Nat → Nat → Nat → Prop
  | here (p left : Nat) : WmmReached frame limit p left p left
  | vendor {p left q rest : Nat} (isVendor : frame.memory p = vendorSpecificIe)
      (other : frame.bytes (p + 2) 6 ≠ [0x00, 0x50, 0xf2, 0x02, 0x00, 0x01])
      (reached : WmmReached frame limit (p + (frame.memory (p + 1)).toNat + 2) limit q rest) :
      WmmReached frame limit p left q rest
  | passed {p left q rest : Nat} (notVendor : frame.memory p ≠ vendorSpecificIe)
      (more : (frame.memory (p + 1)).toNat + 2 < left)
      (reached : WmmReached frame limit (p + ((frame.memory (p + 1)).toNat + 2))
        (left - ((frame.memory (p + 1)).toNat + 2)) q rest) :
      WmmReached frame limit p left q rest

def WmmFits (frame : MgntFrame Station) (p left : Nat) : Prop :=
  p < frame.len ∧
    (frame.memory p = vendorSpecificIe → p + 8 ≤ frame.len ∧
      (frame.bytes (p + 2) 6 = [0x00, 0x50, 0xf2, 0x02, 0x00, 0x01] → p + 9 ≤ frame.len)) ∧
    (frame.memory p ≠ vendorSpecificIe → 2 ≤ left → p + 1 < frame.len)

def WmmContained (frame : MgntFrame Station) (start : Nat) : Prop :=
  1 ≤ frame.len - start → ∀ q rest,
    frame.WmmReached (frame.len - start) start (frame.len - start) q rest → frame.WmmFits q rest

theorem readIe_eq_some_iff {found : Option (List U8)} :
    frame.readIe start (frame.len - start) index = some found ↔ frame.IeIn start index ∧
      found = (frame.getIe start index).map fun p =>
        frame.bytes (p + 2) (frame.memory (p + 1)).toNat := by
  unfold readIe IeIn
  change (match frame.getIe start index with
    | none => some none
    | some p => (frame.read (p + 2) (frame.memory (p + 1)).toNat).map some) = some found ↔ _
  cases frame.getIe start index with
  | none => simp [eq_comm]
  | some p =>
    simp only [Option.map_eq_some_iff, read_eq_some_iff, some.injEq, forall_eq', map_some]
    constructor
    · rintro ⟨data, ⟨has, rfl⟩, rfl⟩
      exact ⟨has, rfl⟩
    · rintro ⟨has, rfl⟩
      exact ⟨_, ⟨has, rfl⟩, rfl⟩

theorem ssidMatchesIn_eq_some_iff {ssid : List U8} {same : Bool} :
    frame.ssidMatchesIn start (frame.len - start) ssid = some same ↔
      frame.SsidIn start ssid ∧ same = frame.ssidMatches start ssid := by
  unfold ssidMatchesIn SsidIn ssidMatches
  change (match frame.getIe start ssidIe with
    | none => some false
    | some p =>
        if (frame.memory (p + 1)).toNat = 0 then some false
        else (frame.read (p + 2) ssid.length).map fun own =>
          own = ssid && (frame.memory (p + 1)).toNat = ssid.length) = some same ↔ _
  cases frame.getIe start ssidIe with
  | none => simp [eq_comm]
  | some p =>
    simp only [some.injEq, forall_eq']
    have empty : (frame.memory (p + 1)).toNat = 0 ↔ frame.memory (p + 1) = 0 :=
      ⟨fun zero => BitVec.eq_of_toNat_eq zero, fun zero => by rw [zero]; rfl⟩
    by_cases zero : (frame.memory (p + 1)).toNat = 0
    · rw [if_pos zero]
      simp [empty.mp zero, eq_comm]
    · rw [if_neg zero]
      simp only [Option.map_eq_some_iff, read_eq_some_iff]
      rw [forall_prop_of_true (fun isZero => zero (empty.mpr isZero))]
      constructor
      · rintro ⟨own, ⟨has, rfl⟩, rfl⟩
        exact ⟨has, by simp [zero]⟩
      · rintro ⟨has, rfl⟩
        exact ⟨_, ⟨has, rfl⟩, by simp [zero]⟩

theorem supportRateIn_isSome_iff :
    (frame.supportRateIn start (frame.len - start)).isSome ↔ frame.SupportRatesIn start := by
  unfold supportRateIn SupportRatesIn
  refine bind_isSome_iff.trans ?_
  simp only [readIe_eq_some_iff]
  cases found : frame.getIe start supportedratesIe with
  | none => simp
  | some p =>
    simp only [map_some, some.injEq, forall_eq']
    constructor
    · rintro ⟨rates, ⟨has, rfl⟩, well⟩
      dsimp only at well
      rw [bytes_length] at well
      split at well
      · cases well
      · rename_i few
        obtain ⟨ext, extRead, well⟩ := bind_isSome_iff.mp well
        obtain ⟨extHas, rfl⟩ := readIe_eq_some_iff.mp extRead
        refine ⟨has, Nat.not_lt.mp few, extHas, fun q extFound => ?_⟩
        rw [extFound, map_some] at well
        dsimp only at well
        rw [bytes_length] at well
        split at well
        · cases well
        · exact Nat.not_lt.mp ‹_›
    · rintro ⟨has, few, extHas, both⟩
      refine ⟨_, ⟨has, rfl⟩, ?_⟩
      dsimp only
      rw [bytes_length, if_neg (Nat.not_lt.mpr few)]
      refine bind_isSome_iff.mpr ⟨_, readIe_eq_some_iff.mpr ⟨extHas, rfl⟩, ?_⟩
      cases extFound : frame.getIe start extSupportedratesIe with
      | none => rfl
      | some q =>
        simp only [map_some, bytes_length]
        rw [if_neg (Nat.not_lt.mpr (both q extFound))]
        rfl

theorem supportRateIn_eq_some {rates : Option (List U8)}
    (read : frame.supportRateIn start (frame.len - start) = some rates) :
    (rates = none ↔ frame.getIe start supportedratesIe = none) ∧
      ∀ data, rates = some data → data.length ≤ 16 := by
  obtain ⟨found, readFirst, read⟩ := Option.bind_eq_some_iff.mp read
  obtain ⟨-, rfl⟩ := readIe_eq_some_iff.mp readFirst
  cases found : frame.getIe start supportedratesIe with
  | none =>
    rw [found] at read
    cases read
    exact ⟨iff_of_true rfl rfl, nofun⟩
  | some p =>
    rw [found, map_some] at read
    dsimp only at read
    split at read
    · cases read
    · rename_i few
      obtain ⟨ext, -, read⟩ := Option.bind_eq_some_iff.mp read
      cases ext with
      | none =>
        cases read
        refine ⟨iff_of_false nofun nofun, ?_⟩
        rintro data ⟨rfl⟩
        exact Nat.not_lt.mp few
      | some ext =>
        dsimp only at read
        split at read
        · cases read
        · rename_i both
          cases read
          refine ⟨iff_of_false nofun nofun, ?_⟩
          rintro data ⟨rfl⟩
          rw [List.length_append]
          exact Nat.not_lt.mp both

variable {limit : Nat}

variable {left p q rest : Nat}

theorem wmmReached_vendor_iff (isVendor : frame.memory p = vendorSpecificIe)
    (other : frame.bytes (p + 2) 6 ≠ [0x00, 0x50, 0xf2, 0x02, 0x00, 0x01]) :
    frame.WmmReached limit p left q rest ↔ (q = p ∧ rest = left) ∨
      frame.WmmReached limit (p + (frame.memory (p + 1)).toNat + 2) limit q rest := by
  constructor
  · intro reached
    cases reached with
    | here => exact .inl ⟨rfl, rfl⟩
    | vendor _ _ reached => exact .inr reached
    | passed notVendor => exact absurd isVendor notVendor
  · rintro (⟨rfl, rfl⟩ | reached)
    · exact .here _ _
    · exact .vendor isVendor other reached

theorem wmmReached_passed_iff (notVendor : frame.memory p ≠ vendorSpecificIe)
    (more : (frame.memory (p + 1)).toNat + 2 < left) :
    frame.WmmReached limit p left q rest ↔ (q = p ∧ rest = left) ∨
      frame.WmmReached limit (p + ((frame.memory (p + 1)).toNat + 2))
        (left - ((frame.memory (p + 1)).toNat + 2)) q rest := by
  constructor
  · intro reached
    cases reached with
    | here => exact .inl ⟨rfl, rfl⟩
    | vendor isVendor => exact absurd isVendor notVendor
    | passed _ _ reached => exact .inr reached
  · rintro (⟨rfl, rfl⟩ | reached)
    · exact .here _ _
    · exact .passed notVendor more reached

theorem wmmReached_last_iff {limit p left q rest : Nat} (wmm : frame.memory p = vendorSpecificIe →
      frame.bytes (p + 2) 6 = [0x00, 0x50, 0xf2, 0x02, 0x00, 0x01])
    (last : frame.memory p ≠ vendorSpecificIe → left ≤ (frame.memory (p + 1)).toNat + 2) :
    frame.WmmReached limit p left q rest ↔ q = p ∧ rest = left := by
  constructor
  · intro reached
    cases reached with
    | here => exact ⟨rfl, rfl⟩
    | vendor isVendor other => exact absurd (wmm isVendor) other
    | passed notVendor more => exact absurd more (Nat.not_lt.mpr (last notVendor))
  · rintro ⟨rfl, rfl⟩
    exact .here _ _

theorem wmmIn_isSome_iff (p left : Nat) : ((frame.wmmIn limit p left).bind fun
      | none => some (none : Option U8)
      | some p => if frame.Has (p + 8) 1 then some (some (frame.memory (p + 8))) else none).isSome ↔
      ∀ q rest, frame.WmmReached limit p left q rest → frame.WmmFits q rest := by
  induction behind : frame.len - p using Nat.strong_induction_on generalizing p left with
  | _ n ih =>
    subst behind
    have here (contained : ∀ q rest, frame.WmmReached limit p left q rest → frame.WmmFits q rest) :=
      contained p left (.here p left)
    rw [wmmIn]
    by_cases inside : p < frame.len
    · rw [dif_pos inside]
      by_cases isVendor : frame.memory p = vendorSpecificIe
      · rw [if_pos isVendor]
        by_cases six : p + 8 ≤ frame.len
        · rw [if_pos (show frame.Has (p + 2) 6 from .inr (by omega))]
          by_cases wmm : frame.bytes (p + 2) 6 = [0x00, 0x50, 0xf2, 0x02, 0x00, 0x01]
          · have ends (q rest : Nat) := @wmmReached_last_iff _ frame limit p left q rest
              (fun _ => wmm) fun notVendor => absurd isVendor notVendor
            simp only [ends]
            rw [if_pos wmm, bind_some, Option.isSome_ite]
            constructor
            · rintro has q rest ⟨rfl, rfl⟩
              have byte : q + 9 ≤ frame.len := has.resolve_left (by decide)
              exact ⟨inside, fun _ => ⟨six, fun _ => byte⟩, fun notVendor => absurd isVendor notVendor⟩
            · intro contained
              exact .inr (((contained p left ⟨rfl, rfl⟩).2.1 isVendor).2 wmm)
          · rw [if_neg wmm, ih _ (by omega) _ _ rfl]
            constructor
            · intro contained q rest reached
              rcases (wmmReached_vendor_iff isVendor wmm).mp reached with ⟨rfl, rfl⟩ | reached
              · exact ⟨inside, fun _ => ⟨six, fun same => absurd same wmm⟩,
                  fun notVendor => absurd isVendor notVendor⟩
              · exact contained q rest reached
            · intro contained q rest reached
              exact contained q rest ((wmmReached_vendor_iff isVendor wmm).mpr (.inr reached))
        · rw [if_neg (show ¬frame.Has (p + 2) 6 from fun has =>
            six (has.resolve_left (by decide)))]
          exact iff_of_false nofun fun contained => six ((here contained).2.1 isVendor).1
      · rw [if_neg isVendor]
        by_cases cut : 2 ≤ left ∧ frame.len ≤ p + 1
        · rw [if_pos cut]
          exact iff_of_false nofun fun contained =>
            absurd ((here contained).2.2 isVendor cut.1) (Nat.not_lt.mpr cut.2)
        · rw [if_neg cut]
          have fits : frame.WmmFits p left :=
            ⟨inside, fun vendor => absurd vendor isVendor, fun _ two => by omega⟩
          by_cases last : left ≤ (frame.memory (p + 1)).toNat + 2
          · have ends (q rest : Nat) := @wmmReached_last_iff _ frame limit p left q rest
              (fun vendor => absurd vendor isVendor) fun _ => last
            simp only [ends]
            rw [if_pos last]
            refine iff_of_true rfl ?_
            rintro q rest ⟨rfl, rfl⟩
            exact fits
          · rw [if_neg last, ih _ (by omega) _ _ rfl]
            constructor
            · intro contained q rest reached
              rcases (wmmReached_passed_iff isVendor (Nat.lt_of_not_le last)).mp reached with
                ⟨rfl, rfl⟩ | reached
              · exact fits
              · exact contained q rest reached
            · intro contained q rest reached
              exact contained q rest
                ((wmmReached_passed_iff isVendor (Nat.lt_of_not_le last)).mpr (.inr reached))
    · rw [dif_neg inside]
      exact iff_of_false nofun fun contained => inside (here contained).1

theorem qosInfoIn_isSome_iff :
    (frame.qosInfoIn start (frame.len - start)).isSome ↔ frame.WmmContained start := by
  unfold qosInfoIn WmmContained
  by_cases empty : frame.len - start < 1
  · rw [if_pos empty]
    exact iff_of_true rfl fun some => absurd empty (Nat.not_lt.mpr some)
  · rw [if_neg empty, forall_prop_of_true (Nat.le_of_not_lt empty)]
    exact wmmIn_isSome_iff start (frame.len - start)

structure ElemsIn (frame : MgntFrame Station) (elems : Ieee80211Elems) : Prop where
  rsnIe : ∀ pos len, elems.rsnIe = some (pos, len) → 2 ≤ pos ∧ pos + len ≤ frame.len
  wpaIe : ∀ pos len, elems.wpaIe = some (pos, len) → 2 ≤ pos ∧ pos + len ≤ frame.len
  htCapabilities : ∀ pos len, elems.htCapabilities = some (pos, len) → pos + len ≤ frame.len

theorem parseElemsFrom_in (rounds : Nat) : ∀ pos left elems after, pos + left ≤ frame.len → frame.ElemsIn elems →
      frame.parseElemsFrom rounds pos left elems = some after → frame.ElemsIn after := by
  induction rounds with
  | zero =>
    intro pos left elems after _ _ parsed
    cases parsed
  | succ rounds ih =>
    intro pos left elems after inside elemsIn parsed
    rw [parseElemsFrom] at parsed
    split at parsed
    · split at parsed
      · cases parsed
        exact elemsIn
      · cases parsed
    · dsimp only at parsed
      split at parsed
      · cases parsed
      · refine ih _ _ _ after (by omega) ?_ parsed
        have found (place len : Nat) (same : (pos + 2, (frame.memory (pos + 1)).toNat) = (place, len)) :
            2 ≤ place ∧ place + len ≤ frame.len := by
          cases same
          omega
        split
        · exact { elemsIn with }
        · exact ⟨elemsIn.rsnIe, elemsIn.wpaIe, fun place len same =>
            (found place len (Option.some.inj same)).2⟩
        · exact { elemsIn with rsnIe := fun place len same => found place len (Option.some.inj same) }
        · unfold parseVendorSpecific
          repeat' split
          · exact elemsIn
          · exact { elemsIn with wpaIe := fun place len same => found place len (Option.some.inj same) }
          · exact elemsIn
        · exact elemsIn

theorem parseElems_in {elems : Ieee80211Elems} (begins : start ≤ frame.len)
    (parsed : frame.parseElems start (frame.len - start) = some elems) : frame.ElemsIn elems := by
  refine parseElemsFrom_in _ _ _ _ _ (by omega) ?_ parsed
  constructor
  all_goals
    intro pos len none_
    cases none_

end MgntFrame

namespace AssocSettings

variable {Station : Type*} {settings : AssocSettings} {frame : MgntFrame Station}
variable {role : P2pRole} {allocated : Bool} {start : Nat} {elems : Ieee80211Elems}

theorem securityIn_eq (elemsIn : frame.ElemsIn elems) :
    ∃ ie, settings.securityIn frame elems = some (settings.securityStatus frame elems, ie) := by
  have reads (pos len : Nat) (inside : 2 ≤ pos ∧ pos + len ≤ frame.len) :
      frame.read (pos - 2) (len + 2) = some (frame.bytes (pos - 2) (len + 2)) :=
    MgntFrame.read_of_has (.inr (by omega))
  unfold securityIn securityStatus
  rcases settings.wpaPsk.getLsbD 1 with _ | _ <;> rcases rsn : elems.rsnIe with _ | ⟨pos, len⟩ <;>
    rcases settings.wpaPsk.getLsbD 0 with _ | _ <;> rcases wpa : elems.wpaIe with _ | ⟨place, size⟩
  all_goals
    first
    | exact ⟨_, rfl⟩
    | exact ⟨_, by simp only [reads pos len (elemsIn.rsnIe pos len rsn)]; rfl⟩
    | exact ⟨_, by simp only [reads place size (elemsIn.wpaIe place size wpa)]; rfl⟩

theorem htCapIn_eq (elemsIn : frame.ElemsIn elems) : ∃ htCap, htCapIn frame elems = some htCap ∧
      htCap.isSome = elems.htCapabilities.any fun ie => htCapSz ≤ ie.2 := by
  unfold htCapIn
  cases found : elems.htCapabilities with
  | none => exact ⟨none, rfl, rfl⟩
  | some ie =>
    obtain ⟨pos, len⟩ := ie
    dsimp only
    by_cases whole : htCapSz ≤ len
    · have inside := elemsIn.htCapabilities pos len found
      rw [if_pos whole, MgntFrame.read_of_has (.inr (by omega)), bind_some]
      obtain ⟨htCap, filled⟩ := isSome_iff_exists.mp
        (@fillField_isSome_iff 26 (Vector.replicate 26 0) 0 (frame.bytes pos htCapSz) |>.mpr (by
          rw [MgntFrame.bytes_length]
          decide))
      rw [filled]
      exact ⟨some htCap, rfl, by simp [whole]⟩
    · rw [if_neg whole]
      exact ⟨none, rfl, by simp [whole]⟩

def LaterContained (settings : AssocSettings) (frame : MgntFrame Station) (role : P2pRole)
    (allocated : Bool) (start : Nat) : Prop :=
  (settings.qosOption = true → frame.WmmContained start) ∧
    (settings.htRefused frame start = false →
      WithP2pIe maxP2pIeLen (frame.tail start) (frame.len - start) fun p2pIe =>
        AssocContained role p2pIe allocated)

variable {pstat : AssocSta}

theorem laterChecksIn_isSome_iff (elemsIn : frame.ElemsIn elems)
    (parsed : frame.parseElems start (frame.len - start) = some elems) :
    (settings.laterChecksIn frame role allocated start (frame.len - start) elems pstat).isSome ↔
      settings.LaterContained frame role allocated start := by
  obtain ⟨htCap, htRead, whole⟩ := htCapIn_eq elemsIn
  have refused : settings.htRefused frame start = (!settings.htOption && htCap.isSome) := by
    unfold htRefused
    rw [parsed]
    rw [whole]
  have p2p (pstat : AssocSta) :
      (p2pIn frame role allocated start (frame.len - start) pstat).isSome ↔
        WithP2pIe maxP2pIeLen (frame.tail start) (frame.len - start) fun p2pIe =>
          AssocContained role p2pIe allocated := by
    refine (withP2pIe_isSome_iff rfl).trans (WithP2pIe.congr fun p2pIe => ?_)
    rw [← processAssocReqDevice_isSome_iff role p2pIe pstat.device allocated]
    exact bind_total_isSome_iff fun _ => rfl
  have later (qosInfo : Option U8) :
      ((htCapIn frame elems).bind fun htCap =>
        if settings.htOption = false ∧ htCap.isSome then
          some ⟨some statsFailure, some qosInfo,
            { pstat with htCap := htCap.getD (Vector.replicate 26 0) }⟩
        else
          (p2pIn frame role allocated start (frame.len - start)
            { pstat with htCap := htCap.getD (Vector.replicate 26 0) }).bind fun answer =>
              some (⟨if 0 < answer.1 then some statsSuccessful else none, some qosInfo, answer.2⟩ :
                RequestChecks)).isSome ↔
      (settings.htRefused frame start = false →
        WithP2pIe maxP2pIeLen (frame.tail start) (frame.len - start) fun p2pIe =>
          AssocContained role p2pIe allocated) := by
    rw [htRead, bind_some, refused]
    by_cases refuses : settings.htOption = false ∧ htCap.isSome
    · rw [if_pos refuses]
      exact iff_of_true rfl fun passes => by simp [refuses] at passes
    · rw [if_neg refuses, forall_prop_of_true (by
        cases htOption : settings.htOption
        · simpa [htOption] using refuses
        · rfl)]
      exact (bind_total_isSome_iff fun _ => rfl).trans (p2p _)
  unfold laterChecksIn LaterContained
  dsimp only
  cases qos : settings.qosOption with
  | false =>
    rw [if_neg Bool.false_ne_true]
    refine (later none).trans ?_
    exact (and_iff_right nofun).symm
  | true =>
    rw [if_pos rfl, forall_prop_of_true rfl, ← MgntFrame.qosInfoIn_isSome_iff]
    refine bind_isSome_iff.trans ?_
    constructor
    · rintro ⟨qosInfo, read, well⟩
      exact ⟨Option.isSome_of_eq_some read, (later qosInfo).mp well⟩
    · rintro ⟨inside, contained⟩
      obtain ⟨qosInfo, read⟩ := isSome_iff_exists.mp inside
      exact ⟨qosInfo, read, (later qosInfo).mpr contained⟩

theorem elementChecksIn_isSome_iff (elemsIn : frame.ElemsIn elems)
    (parsed : frame.parseElems start (frame.len - start) = some elems) :
    (settings.elementChecksIn frame role allocated start (frame.len - start) elems pstat).isSome ↔
      frame.SupportRatesIn start ∧ (frame.getIe start supportedratesIe ≠ none →
        settings.securityStatus frame elems = statsSuccessful →
          settings.LaterContained frame role allocated start) := by
  obtain ⟨ie, secure⟩ := @securityIn_eq _ settings _ _ elemsIn
  unfold elementChecksIn
  rw [← MgntFrame.supportRateIn_isSome_iff]
  cases read : frame.supportRateIn start (frame.len - start) with
  | none => exact iff_of_false nofun fun both => nomatch both.1
  | some rates =>
    obtain ⟨missing, few⟩ := MgntFrame.supportRateIn_eq_some read
    rw [Option.isSome_some, and_iff_right rfl]
    cases rates with
    | none => exact iff_of_true rfl fun found => absurd (missing.mp rfl) found
    | some rates =>
      have found : frame.getIe start supportedratesIe ≠ none := fun none_ =>
        nomatch missing.mpr none_
      obtain ⟨bssrateset, filled⟩ := isSome_iff_exists.mp
        (@fillField_isSome_iff 16 pstat.bssrateset 0 rates |>.mpr (by
          rw [Nat.zero_add]
          exact few rates rfl))
      rw [forall_prop_of_true found]
      simp only [bind_eq_bind, bind_some, filled, secure]
      by_cases refused : settings.securityStatus frame elems = statsSuccessful
      · rw [if_neg (not_not.mpr refused), forall_prop_of_true refused]
        obtain ⟨wpaIe, copied⟩ := isSome_iff_exists.mp
          (@fillField_isSome_iff 32 (Vector.replicate 32 0) 0 ((ie.getD []).take 32) |>.mpr (by
            rw [Nat.zero_add]
            exact List.length_take_le _ _))
        rw [copied, bind_some]
        exact laterChecksIn_isSome_iff elemsIn parsed
      · rw [if_pos refused]
        exact iff_of_true rfl fun same => absurd same refused

def ElementsContained (settings : AssocSettings) (frame : MgntFrame Station) (role : P2pRole)
    (allocated : Bool) (start : Nat) : Prop :=
  frame.ListIn start ∧ ∀ elems, frame.parseElems start (frame.len - start) = some elems →
    elems.ssid ≠ none → frame.SsidIn start settings.ssid ∧
      (frame.ssidMatches start settings.ssid = true → frame.SupportRatesIn start ∧
        (frame.getIe start supportedratesIe ≠ none → settings.securityStatus frame elems = statsSuccessful →
            settings.LaterContained frame role allocated start))

theorem checksIn_isSome_iff : (settings.checksIn frame role allocated start pstat).isSome ↔
      settings.ElementsContained frame role allocated start := by
  unfold checksIn ElementsContained
  by_cases list : frame.ListIn start
  · rw [MgntFrame.listLen, if_pos list, bind_eq_bind, bind_some, and_iff_right list]
    cases parsed : frame.parseElems start (frame.len - start) with
    | none => exact iff_of_true rfl nofun
    | some elems =>
      have elemsIn := MgntFrame.parseElems_in list.1 parsed
      simp only [some.injEq, forall_eq']
      by_cases ssid : elems.ssid = none
      · rw [if_pos ssid]
        exact iff_of_true rfl fun present => absurd ssid present
      · rw [if_neg ssid, forall_prop_of_true ssid]
        constructor
        · intro well
          obtain ⟨same, compared, well⟩ := bind_isSome_iff.mp well
          obtain ⟨ssidIn, rfl⟩ := MgntFrame.ssidMatchesIn_eq_some_iff.mp compared
          refine ⟨ssidIn, fun matches_ => ?_⟩
          rw [if_neg (by simp [matches_])] at well
          exact (elementChecksIn_isSome_iff elemsIn parsed).mp well
        · intro ⟨ssidIn, contained⟩
          refine bind_isSome_iff.mpr
            ⟨_, MgntFrame.ssidMatchesIn_eq_some_iff.mpr ⟨ssidIn, rfl⟩, ?_⟩
          cases matches_ : frame.ssidMatches start settings.ssid with
          | false => rfl
          | true => exact (elementChecksIn_isSome_iff elemsIn parsed).mpr (contained matches_)
  · rw [MgntFrame.listLen, if_neg list]
    exact iff_of_false nofun fun both => list both.1

end AssocSettings

section

variable {Sta Xmit Recv : Type} [DecidableEq Sta] {ap : AssocAp Sta Xmit Recv}

/-- When `OnAssocReq` is contained: the elements of a request from a station that has been
authenticated are. -/
def AssocReqContained (ap : AssocAp Sta Xmit Recv) (frame : MgntFrame MacAddr) (role : P2pRole)
    (allocated : Bool) : Prop :=
  ap.apState = true → frame.ieStart ≤ frame.len →
    ∀ pstat, ap.stapriv.getStainfo frame.sa = some pstat → (ap.auth pstat).success = true →
      ap.settings.ElementsContained frame role allocated frame.ieStart

theorem onAssocReqIn_isSome_iff {records : Sta → AssocSta} {role : P2pRole}
    {frame : MgntFrame MacAddr} {allocated xmitAllocated : Bool} :
    (ap.onAssocReqIn records role frame allocated xmitAllocated).isSome ↔
      AssocReqContained ap frame role allocated := by
  unfold AssocAp.onAssocReqIn AssocReqContained
  cases state : ap.apState with
  | false => simp
  | true =>
    rw [if_neg (by decide), forall_prop_of_true rfl]
    by_cases short : frame.len < frame.ieStart
    · rw [if_pos short]
      exact iff_of_true rfl fun long => absurd short (Nat.not_lt.mpr long)
    · have long := Nat.le_of_not_lt short
      rw [if_neg short, forall_prop_of_true long]
      cases known : ap.stapriv.getStainfo frame.sa with
      | none => simp
      | some pstat =>
        have fixed : wlanHdrA3Len + 4 ≤ frame.len := by
          refine Nat.le_trans ?_ long
          unfold MgntFrame.ieStart
          split <;> decide
        simp only [some.injEq, forall_eq', MgntFrame.read_of_has (.inr fixed), bind_eq_bind, bind_some]
        cases success : (ap.auth pstat).success with
        | false => simp
        | true =>
          rw [if_neg (by decide), forall_prop_of_true rfl]
          exact (bind_total_isSome_iff fun _ => rfl).trans AssocSettings.checksIn_isSome_iff

end

/-- When the five handlers of management frames are contained, for each frame and in each state. -/
theorem mgmtHandlers_contained_iff {Sta Xmit Recv : Type} [DecidableEq Sta]
    (ap : AssocAp Sta Xmit Recv) (records : Sta → AssocSta) (role : P2pRole)
    (client : AssocClient MacAddr) (adapter : SurveyAdapter) (frame : MgntFrame MacAddr)
    (linkFrame : LinkFrame MacAddr) (surveyFrame : SurveyFrame)
    (oneStream allocated xmitAllocated cmdAllocated : Bool) :
    ((ap.onAuthIn frame xmitAllocated).isSome ↔ AuthContained ap frame) ∧
    ((client.link.onAuthClientIn linkFrame xmitAllocated).isSome ↔ AuthClientContained client.link linkFrame) ∧
    ((ap.onAssocReqIn records role frame allocated xmitAllocated).isSome ↔
      AssocReqContained ap frame role allocated) ∧
    ((client.onAssocRspIn oneStream linkFrame cmdAllocated).isSome ↔ AssocRspContained client linkFrame) ∧
    ((adapter.collectBssInfoIn surveyFrame).isSome ↔ CollectContained adapter surveyFrame) :=
  ⟨onAuthIn_isSome_iff, onAuthClientIn_isSome_iff, onAssocReqIn_isSome_iff, onAssocRspIn_isSome_iff,
    collectBssInfoIn_isSome_iff⟩

def longSsidFrame : SurveyFrame where
  memory place := if place = 37 then 33 else 0
  len := 71
  recvSignalPower := 0
  signalQual := 0
  signalStrength := 0
  behind _ := 0

/-- The SSID is copied behind its field. -/
theorem mgmtHandlers_not_contained : ¬∀ (adapter : SurveyAdapter) (frame : SurveyFrame), 24 ≤ frame.len →
      (adapter.collectBssInfoIn frame).isSome := by
  intro contained
  have inside := contained unlinkedAdapter longSsidFrame (by decide)
  obtain ⟨-, ssid, -⟩ := collectBssInfoIn_isSome_iff.mp inside (by decide) (by decide)
  have room := (ssid 36 (by decide)).2.2
  exact absurd room (by decide)

end Floid.Wifi
