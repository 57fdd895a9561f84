import Floid.Wifi.Ccmp
import Floid.Wifi.PacketNumbers
import Mathlib.Logic.Function.Basic

namespace Floid.Wifi

open Osk

/-- The enumerators `dot11AuthAlgrthm_Open` and the others. -/
def AuthAlgrthm.toNat : AuthAlgrthm → Nat
  | .open => 0
  | .shared => 1
  | .ieee8021X => 2
  | .auto => 3

def wep40 : Nat := 1
def wep104 : Nat := 5

def authIeOffset : Nat := 6

def chlgetxtIe : U8 := 16

def statsSuccessful : Nat := 0
def statsNoSuppAlg : Nat := 13
def statsOutOfAuthSeq : Nat := 14
def statsChallengeFail : Nat := 15
def statsUnableHandleSta : Nat := 17

def wifiFwAuthNull : U32 := 0x00000100
def wifiFwAuthState : U32 := 0x00000200
def wifiFwAuthSuccess : U32 := 0x00000400

/-- `chg_txt`. -/
abbrev ChallengeText := Vector U8 128

/-- A received management frame: the memory from `rx_data` on, which does not end with the
frame, and the length of the frame. -/
structure MgntFrame (Station : Type*) where
  sa : Station
  memory : Nat → U8
  len : Nat

def getIeWalk (memory : Nat → U8) (index : U8) : Nat → Nat → Nat → Nat → Option Nat
  | 0, _, _, _ => none
  | rounds + 1, p, i, limit =>
      if memory p = index then some p
      else
        let step := (memory (p + 1)).toNat + 2
        if limit ≤ i + step then none
        else getIeWalk memory index rounds (p + step) (i + step) limit

def getIeAt (memory : Nat → U8) (pbuf : Nat) (index : U8) (limit : Nat) : Option Nat :=
  if limit < 1 then none else getIeWalk memory index limit pbuf 0 limit

namespace MgntFrame

variable {Station : Type*} (frame : MgntFrame Station)

def le16 (offset : Nat) : Nat := (frame.memory offset).toNat + 256 * (frame.memory (offset + 1)).toNat

def privacy : Bool := (frame.memory 1).getLsbD 6

def challengeFrom (iv : Nat) : Option Nat :=
  getIeAt frame.memory (wlanHdrA3Len + iv + authIeOffset) chlgetxtIe
    (frame.len - wlanHdrA3Len - authIeOffset - iv)

def challengeBytes (p : Nat) : ChallengeText := Vector.ofFn fun index => frame.memory (p + 2 + index)

end MgntFrame

structure AuthRecord where
  state : U32
  authSeq : Nat
  authalg : Nat
  chgTxt : ChallengeText
  expireTo : Nat

def AuthRecord.fresh : AuthRecord where
  state := wifiFwAuthNull
  authSeq := 0
  authalg := 0
  chgTxt := Vector.replicate 128 0
  expireTo := 0

def AuthRecord.success (record : AuthRecord) : Bool := record.state &&& wifiFwAuthSuccess ≠ 0

/-- What `OnAuth` uses of the adapter. -/
structure AuthAp (Station : Type*) where
  apState : Bool
  dot11AuthAlgrthm : AuthAlgrthm
  dot11PrivacyAlgrthm : Nat
  authTo : Nat
  assocTo : Nat
  stainfo : Station → Option AuthRecord
  authList : List Station
  asocList : List Station

/-- What `issue_auth` sends: to a station, or, without a record, as a client to its own
BSSID. -/
inductive AuthAnswer (Station : Type*) where
  | toStation (hwaddr : Station) (algorithm seq status : Nat) (challenge : Option ChallengeText)
  | asClient (status : Nat)
  deriving DecidableEq

section

variable {Station : Type*} [DecidableEq Station]

def issueAuth (hwaddr : Station) (psta : AuthRecord) (status : Nat) (allocated : Bool) :
    Option (AuthAnswer Station) :=
  if allocated then
    let algorithm := if status ≠ statsSuccessful then 0 else psta.authalg
    some (.toStation hwaddr algorithm psta.authSeq status
      (if psta.authSeq = 2 ∧ psta.state &&& wifiFwAuthState ≠ 0 ∧ algorithm ≠ 0 then some psta.chgTxt
        else none))
  else none

def failedStat : AuthRecord := ⟨0, 2, 0, Vector.replicate 128 0, 0⟩

def AuthAp.takeRecord (ap : AuthAp Station) (sa : Station) (allocated : Bool) :
    Option (AuthRecord × AuthAp Station) :=
  match ap.stainfo sa with
  | some pstat =>
      some (pstat, { ap with
        asocList := ap.asocList.filter (· ≠ sa)
        authList := if sa ∈ ap.authList then ap.authList else ap.authList ++ [sa] })
  | none =>
      if allocated then
        some (AuthRecord.fresh, { ap with
          authList := if sa ∈ ap.authList then ap.authList else ap.authList ++ [sa] })
      else none

def AuthAp.store (ap : AuthAp Station) (sa : Station) (pstat : AuthRecord) : AuthAp Station :=
  { ap with stainfo := Function.update ap.stainfo sa (some pstat) }

def AuthRecord.advance (pstat : AuthRecord) (frame : MgntFrame Station) (authMode algorithm seq assocTo : Nat) :
    Except Nat AuthRecord :=
  if pstat.authSeq + 1 ≠ seq then .error statsOutOfAuthSeq
  else if algorithm = 0 ∧ (authMode = 0 ∨ authMode = 2) then
    if seq = 1 then
      .ok { pstat with
        state := (pstat.state &&& ~~~wifiFwAuthNull) ||| wifiFwAuthSuccess
        expireTo := assocTo
        authalg := algorithm }
    else .error statsOutOfAuthSeq
  else if seq = 1 then
    -- shared system or auto authentication; the challenge text is not renewed
    .ok { pstat with
      state := (pstat.state &&& ~~~wifiFwAuthNull) ||| wifiFwAuthState
      authalg := algorithm
      authSeq := 2 }
  else if seq = 3 then
    match frame.challengeFrom 4 with
    | none => .error statsChallengeFail
    | some p =>
        if frame.memory (p + 1) = 0 then .error statsChallengeFail
        else if frame.challengeBytes p = pstat.chgTxt then
          .ok { pstat with
            state := (pstat.state &&& ~~~wifiFwAuthState) ||| wifiFwAuthSuccess
            expireTo := assocTo }
        else .error statsChallengeFail
  else .error statsOutOfAuthSeq

def AuthAp.authMode (ap : AuthAp Station) : Nat :=
  if ap.dot11AuthAlgrthm.toNat = 2 ∧ ap.dot11PrivacyAlgrthm ≠ wep40 ∧ ap.dot11PrivacyAlgrthm ≠ wep104 then 0
  else ap.dot11AuthAlgrthm.toNat

/-- `OnAuth`: the answer, and the adapter afterwards. `staAllocated` and `xmitAllocated` are
what `alloc_stainfo` and `alloc_mgtxmitframe` would do. -/
def onAuth (ap : AuthAp Station) (frame : MgntFrame Station) (staAllocated xmitAllocated : Bool) :
    Option (AuthAnswer Station) × AuthAp Station :=
  if ap.apState = false then (none, ap)
  else
    let seq := frame.le16 (wlanHdrA3Len + 2)
    let algorithm := frame.le16 wlanHdrA3Len
    let asClient (status : Nat) : Option (AuthAnswer Station) :=
      if xmitAllocated then some (.asClient status) else none
    if (0 < algorithm ∧ ap.authMode = 0) ∨ (algorithm = 0 ∧ ap.authMode = 1) then
      (asClient statsNoSuppAlg, ap)
    else
      match ap.takeRecord frame.sa staAllocated with
      | none => (asClient statsUnableHandleSta, ap)
      | some (pstat, ap) =>
          let pstat := if pstat.authSeq = 0 then { pstat with expireTo := ap.authTo } else pstat
          match pstat.advance frame ap.authMode algorithm seq ap.assocTo with
          | .error status => (issueAuth frame.sa failedStat status xmitAllocated, ap.store frame.sa pstat)
          | .ok pstat =>
              let pstat := { pstat with authSeq := seq + 1 }
              (issueAuth frame.sa pstat statsSuccessful xmitAllocated, ap.store frame.sa
                  (if pstat.success then { pstat with authSeq := 0 } else pstat))

end

end Floid.Wifi
