import Floid.Wifi.ApAuth

namespace Floid.Wifi

open Osk

def asocreqIeOffset : Nat := 4
def reasocreqIeOffset : Nat := 10

def ssidIe : U8 := 0
def supportedratesIe : U8 := 1
def wpa2IeId : U8 := 48
def extSupportedratesIe : U8 := 50
def vendorSpecificIe : U8 := 221

def statsFailure : Nat := 1
def wlanStatusInvalidIe : Nat := 40
def wlanStatusGroupCipherNotValid : Nat := 41
def wlanStatusPairwiseCipherNotValid : Nat := 42
def wlanStatusApUnableToHandleNewSta : Nat := 17

def wpaCipherNone : U32 := 1
def wpaCipherWep40 : U32 := 2
def wpaCipherWep104 : U32 := 4
def wpaCipherTkip : U32 := 8
def wpaCipherCcmp : U32 := 16

def p2pStatusSuccess : Nat := 0
def p2pStatusFailInvalidParam : Nat := 4
def p2pStatusFailRequestUnable : Nat := 5

def p2pAttrCapability : U8 := 2
def p2pAttrDeviceInfo : U8 := 13

def maxP2pIeLen : Nat := 256

/-- `sizeof (struct ieee80211_ht_cap)`. -/
def htCapSz : Nat := 26

structure AssocSettings where
  /-- `cur->Ssid`. -/
  ssid : List U8
  wpaPsk : U32
  wpaGroupCipher : U32
  wpa2GroupCipher : U32
  wpaPairwiseCipher : U32
  wpa2PairwiseCipher : U32
  qosOption : Bool
  htOption : Bool
  /-- The role is `P2P_ROLE_GO`. -/
  groupOwner : Bool

structure Ieee80211Elems where
  ssid : Option (Nat × Nat)
  rsnIe : Option (Nat × Nat)
  wpaIe : Option (Nat × Nat)
  htCapabilities : Option (Nat × Nat)

def getCipherSuite (oui s : List U8) : U32 :=
  if s = oui ++ [0] then wpaCipherNone
  else if s = oui ++ [1] then wpaCipherWep40
  else if s = oui ++ [2] then wpaCipherTkip
  else if s = oui ++ [4] then wpaCipherCcmp
  else if s = oui ++ [5] then wpaCipherWep104
  else 0

def getWpaCipherSuite : List U8 → U32 := getCipherSuite [0x00, 0x50, 0xf2]

def getWpa2CipherSuite : List U8 → U32 := getCipherSuite [0x00, 0x0f, 0xac]

namespace MgntFrame

variable {Station : Type*} (frame : MgntFrame Station)

def bytes (p count : Nat) : List U8 := (List.range count).map fun i => frame.memory (p + i)

def parseVendorSpecific (pos elen : Nat) (elems : Ieee80211Elems) : Ieee80211Elems :=
  if elen < 4 then elems
  else if frame.bytes pos 4 = [0x00, 0x50, 0xf2, 1] then { elems with wpaIe := some (pos, elen) }
  else elems

def parseElemsFrom : Nat → Nat → Nat → Ieee80211Elems → Option Ieee80211Elems
  | 0, _, _, _ => none
  | rounds + 1, pos, left, elems =>
      if left < 2 then
        if left = 0 then some elems else none
      else
        let id := frame.memory pos
        let elen := (frame.memory (pos + 1)).toNat
        if left - 2 < elen then none
        else
          let pos := pos + 2
          let elems :=
            match id.toNat with
            | 0 => { elems with ssid := some (pos, elen) }
            | 45 => { elems with htCapabilities := some (pos, elen) }
            | 48 => { elems with rsnIe := some (pos, elen) }
            | 221 => frame.parseVendorSpecific pos elen elems
            | _ => elems
          parseElemsFrom rounds (pos + elen) (left - 2 - elen) elems

def parseElems (start len : Nat) : Option Ieee80211Elems :=
  frame.parseElemsFrom (len + 1) start len ⟨none, none, none, none⟩

/-- The ciphers that `parse_wpa_ie` and `parse_wpa2_ie` find behind the version: that of the
group and those of the pairs. A negative `left` is 0 here. -/
def parseCiphers (suite : List U8 → U32) (pos left : Nat) : Option (U32 × U32) :=
  let pairwise (group : U32) (pos left : Nat) : Option (U32 × U32) :=
    if 2 ≤ left then
      let count := frame.le16 pos
      if count = 0 ∨ left - 2 < count * 4 then none
      else some (group, (List.range count).foldl
        (fun ciphers i => ciphers ||| suite (frame.bytes (pos + 2 + 4 * i) 4)) 0)
    else if left = 1 then none
    else some (group, 0)
  if 4 ≤ left then pairwise (suite (frame.bytes pos 4)) (pos + 4) (left - 4)
  else if 0 < left then none
  else pairwise 0 pos left

def parseWpaIe (wpaIe wpaIeLen : Nat) : Option (U32 × U32) :=
  if frame.memory wpaIe ≠ vendorSpecificIe ∨ frame.memory (wpaIe + 1) ≠ BitVec.ofNat 8 (wpaIeLen - 2) ∨
      frame.bytes (wpaIe + 2) 4 ≠ [0x00, 0x50, 0xf2, 1] then none
  else frame.parseCiphers getWpaCipherSuite (wpaIe + 8) (wpaIeLen - 8)

def parseWpa2Ie (rsnIe rsnIeLen : Nat) : Option (U32 × U32) :=
  if frame.memory rsnIe ≠ wpa2IeId ∨ frame.memory (rsnIe + 1) ≠ BitVec.ofNat 8 (rsnIeLen - 2) then none
  else frame.parseCiphers getWpa2CipherSuite (rsnIe + 4) (rsnIeLen - 4)

def getIe (start : Nat) (index : U8) : Option Nat :=
  getIeAt frame.memory start index (frame.len - start)

def ssidMatches (start : Nat) (ssid : List U8) : Bool :=
  match frame.getIe start ssidIe with
  | none => false
  | some p =>
      let ieLen := (frame.memory (p + 1)).toNat
      ieLen ≠ 0 && frame.bytes (p + 2) ssid.length = ssid && ieLen = ssid.length

def supportRateNum (start p : Nat) : Nat :=
  let ieLen := (frame.memory (p + 1)).toNat
  match frame.getIe start extSupportedratesIe with
  | none => ieLen
  | some p => ieLen + (frame.memory (p + 1)).toNat

def wmmFrom (limit : Nat) : Nat → Nat → Option Nat
  | 0, _ => none
  | rounds + 1, p =>
      match getIeAt frame.memory p vendorSpecificIe limit with
      | none => none
      | some p =>
          if frame.bytes (p + 2) 6 = [0x00, 0x50, 0xf2, 0x02, 0x00, 0x01] then some p
          else wmmFrom limit rounds (p + (frame.memory (p + 1)).toNat + 2)

def qosInfo (start : Nat) : Option U8 :=
  (frame.wmmFrom (frame.len - start) (2 ^ 31) start).map fun p => frame.memory (p + 8)

def p2pIeFrom (start inLen : Nat) : Nat → Nat → Option Nat
  | 0, _ => none
  | rounds + 1, cnt =>
      if inLen ≤ cnt then none
      else if frame.memory (start + cnt) = vendorSpecificIe ∧
          frame.bytes (start + cnt + 2) 4 = [0x50, 0x6f, 0x9a, 0x09] then some (start + cnt)
      else p2pIeFrom start inLen rounds (cnt + (frame.memory (start + cnt + 1)).toNat + 2)

def getP2pIe (start : Nat) : Option Nat :=
  let inLen := frame.len - start
  frame.p2pIeFrom start inLen (inLen + 1) 0

end MgntFrame

def p2pAttrFrom (p2pie : Nat → U8) (p2pielen : Nat) (targetAttrId : U8) : Nat → Nat → Option (Option Nat)
  | 0, _ => some none
  | rounds + 1, cnt =>
      if p2pielen ≤ cnt then some none
      else if maxP2pIeLen ≤ cnt + 2 then none
      else
        let attrlen := (p2pie (cnt + 1)).toNat + 256 * (p2pie (cnt + 2)).toNat
        if p2pie cnt = targetAttrId then some (some attrlen)
        else p2pAttrFrom p2pie p2pielen targetAttrId rounds (cnt + attrlen + 3)

def getP2pAttrContent (p2pie : Nat → U8) (p2pielen : Nat) (targetAttrId : U8) : Option (Option Nat) :=
  p2pAttrFrom p2pie p2pielen targetAttrId p2pielen 6

namespace AssocSettings

variable {Station : Type*} (settings : AssocSettings) (frame : MgntFrame Station)

def processAssocReqP2pIe (p2pie : Nat → U8) (p2pielen : Nat) : Option Nat :=
  if settings.groupOwner = false then some p2pStatusFailRequestUnable
  else
    match getP2pAttrContent p2pie p2pielen p2pAttrCapability with
    | none => none
    | some none => some p2pStatusFailInvalidParam
    | some (some attrlen) =>
        if 2 < attrlen then none
        else
          match getP2pAttrContent p2pie p2pielen p2pAttrDeviceInfo with
          | none => none
          | some none => some p2pStatusFailInvalidParam
          | some (some _) => some p2pStatusSuccess

def p2pStatusCode (start : Nat) : Option Nat :=
  match frame.getP2pIe start with
  | none => some p2pStatusSuccess
  | some p =>
      let p2pielen := (frame.memory (p + 1)).toNat + 2
      if maxP2pIeLen < p2pielen then none
      else
        settings.processAssocReqP2pIe (fun i => if i < p2pielen then frame.memory (p + i) else 0)
          p2pielen

def cipherStatus (groupCipher pairwiseCipher : U32) : Option (U32 × U32) → Nat
  | none => wlanStatusInvalidIe
  | some (group, pairwise) =>
      if pairwise &&& pairwiseCipher = 0 then wlanStatusPairwiseCipherNotValid
      else if group &&& groupCipher = 0 then wlanStatusGroupCipherNotValid
      else statsSuccessful

def securityStatus (elems : Ieee80211Elems) : Nat :=
  match settings.wpaPsk.getLsbD 1, elems.rsnIe, settings.wpaPsk.getLsbD 0, elems.wpaIe with
  | true, some (pos, len), _, _ =>
      cipherStatus settings.wpa2GroupCipher settings.wpa2PairwiseCipher
        (frame.parseWpa2Ie (pos - 2) (len + 2))
  | _, _, true, some (pos, len) =>
      cipherStatus settings.wpaGroupCipher settings.wpaPairwiseCipher
        (frame.parseWpaIe (pos - 2) (len + 2))
  | _, _, _, _ => statsSuccessful

def elementStatus (start : Nat) : Option Nat :=
  match frame.parseElems start (frame.len - start) with
  | none => some statsFailure
  | some elems =>
      if elems.ssid = none ∨ frame.ssidMatches start settings.ssid = false then some statsFailure
      else
        match frame.getIe start supportedratesIe with
        | none => some statsFailure
        | some p =>
            if 16 < frame.supportRateNum start p then none
            else some (settings.securityStatus frame elems)

def htRefused (start : Nat) : Bool :=
  match frame.parseElems start (frame.len - start) with
  | none => false
  | some elems => !settings.htOption && elems.htCapabilities.any fun ie => htCapSz ≤ ie.2

def laterRefusal (start : Nat) : Option (Option Nat) :=
  if settings.htRefused frame start then some (some statsFailure)
  else
    match settings.p2pStatusCode frame start with
    | none => none
    | some code => if 0 < code then some (some statsSuccessful) else some none

end AssocSettings

end Floid.Wifi
