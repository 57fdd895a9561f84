import Floid.Lib.Transition
import Floid.Wifi.Tkip

namespace Floid.Wifi

open Osk Lib

inductive AuthAlgrthm where
  | open
  | shared
  | ieee8021X
  | auto
  deriving DecidableEq, Repr

/-- What `security_priv` has for the choice of a cipher and a key. -/
structure XmitSecurity where
  dot11AuthAlgrthm : AuthAlgrthm
  dot11PrivacyAlgrthm : Privacy
  dot118021XGrpPrivacy : Privacy
  dot11PrivacyKeyIndex : Fin 4
  dot11DefKey : Fin 4 → List U8
  dot118021XGrpKeyid : U8

/-- What `sta_info` has for it, with the key that TKIP and CCMP frames to the station are
encrypted with: `dot118021x_UncstKey`, or the entry for the station in the hardware. -/
structure XmitSta where
  dot118021XPrivacy : Privacy
  temporalKey : Vector U8 16

variable (security : XmitSecurity)

def getEncryAlgo (psta : XmitSta) (bmcst : Bool) : Privacy :=
  match security.dot11AuthAlgrthm with
  | .open | .shared | .auto => security.dot11PrivacyAlgrthm
  | .ieee8021X => if bmcst then security.dot118021XGrpPrivacy else psta.dot118021XPrivacy

def xmitKeyIdx (bmcst : Bool) : U8 :=
  match security.dot11AuthAlgrthm with
  | .open | .shared | .auto => BitVec.ofNat 8 security.dot11PrivacyKeyIndex.val
  | .ieee8021X => if bmcst then security.dot118021XGrpKeyid else 0

def aesIv (txpn : BitVec 48) (keyidx : U8) : List U8 :=
  let tsc (n : Nat) : U8 := (txpn >>> (8 * n)).setWidth 8
  [tsc 0, tsc 1, 0, 0x20 ||| (keyidx &&& 3) <<< 6, tsc 2, tsc 3, tsc 4, tsc 5]

def drawIv (encrypt : Privacy) (bmcst : Bool) (keyIdx : U8) (txpn : BitVec 64) : List U8 × BitVec 64 :=
  let next (last : BitVec 64) : BitVec 64 := if txpn = last then 0 else txpn + 1
  let group := if bmcst then keyIdx else 0
  match encrypt with
  | .wep40 | .wep104 =>
      (wepIv (txpn.setWidth 48) ⟨(keyIdx &&& 3).toNat % 4, Nat.mod_lt _ (by decide)⟩, next 0xffffff)
  | .tkip => (tkipIv (txpn.setWidth 48) group, next 0xffffffffffff)
  | .aes => (aesIv (txpn.setWidth 48) group, next 0xffffffffffff)
  | _ => ([], txpn)

inductive KeyMaterial where
  | wep (key : List U8)
  | tkip (key : Vector U8 16)
  | ccmp (key : Vector U8 16)
  deriving DecidableEq

def keyMaterial (psta : XmitSta) : Privacy → Option KeyMaterial
  | .wep40 | .wep104 => some (.wep (security.dot11DefKey security.dot11PrivacyKeyIndex))
  | .tkip => some (.tkip psta.temporalKey)
  | .aes => some (.ccmp psta.temporalKey)
  | _ => none

def KeyMaterial.space : KeyMaterial → Nat
  | wep _ => 2 ^ 24
  | tkip _ | ccmp _ => 2 ^ 48

def KeyMaterial.packetNumber (iv : List U8) : KeyMaterial → Nat
  | wep _ => (iv.getD 2 0 ++ iv.getD 1 0 ++ iv.getD 0 0).toNat
  | tkip _ => ((getTkipPn 0 iv).setWidth 48).toNat
  | ccmp _ =>
      (iv.getD 7 0 ++ iv.getD 6 0 ++ iv.getD 5 0 ++ iv.getD 4 0 ++ iv.getD 1 0 ++ iv.getD 0 0).toNat

structure SentMpdu (Sta : Type) where
  psta : Sta
  key : KeyMaterial
  iv : List U8

inductive XmitMode (Sta : Type) where
  | station (bssid : Sta)
  | adhoc (bcmc : Sta)
  | ap (bcmc : Sta)

variable {Sta : Type} [DecidableEq Sta]

def XmitMode.isMcast (psta : Sta) : XmitMode Sta → Bool
  | station _ => false
  | adhoc bcmc | ap bcmc => psta = bcmc

def XmitMode.Sends (psta : Sta) : XmitMode Sta → Prop
  | station bssid => psta = bssid
  | adhoc _ | ap _ => True

structure CounterState (Sta : Type) where
  txpn : Sta → BitVec 64
  sent : List (SentMpdu Sta)

variable (stations : Sta → XmitSta) (mode : XmitMode Sta)

def sendFragment (psta : Sta) (state : CounterState Sta) : CounterState Sta :=
  let bmcst := mode.isMcast psta
  let encrypt := getEncryAlgo security (stations psta) bmcst
  match keyMaterial security (stations psta) encrypt with
  | none => state
  | some key =>
      let (iv, txpn) := drawIv encrypt bmcst (xmitKeyIdx security bmcst) (state.txpn psta)
      { txpn := Function.update state.txpn psta txpn, sent := state.sent ++ [⟨psta, key, iv⟩] }

/-- A packet to send: the record, and how many fragments it is sent in. A station that has not
been let in by 802.1X gets it in clear text. -/
structure Transmission (Sta : Type) where
  psta : Sta
  nrFrags : Nat
  ieee8021xBlocked : Bool

def transmit (packet : Transmission Sta) (state : CounterState Sta) : CounterState Sta :=
  if packet.ieee8021xBlocked then state
  else Nat.repeat (sendFragment security stations mode packet.psta) packet.nrFrags state

def counterSystem : TransitionSystem (CounterState Sta) (Transmission Sta) where
  initial state := state = ⟨fun _ => 0, []⟩
  step before packet after :=
    mode.Sends packet.psta ∧ after = transmit security stations mode packet before

end Floid.Wifi
