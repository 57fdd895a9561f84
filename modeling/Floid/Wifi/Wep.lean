import Floid.Wifi.Frames

namespace Floid.Wifi

open Osk Lib
open BitVec (ofNat)

/-- The bytes `WEP_IV` writes for a transmit counter and a key index. It steps the counter
too, which nothing here depends on. -/
def wepIv (txpn : BitVec 48) (keyidx : Fin 4) : List U8 :=
  [txpn.setWidth 8, (txpn >>> 8).setWidth 8, (txpn >>> 16).setWidth 8, (ofNat 8 keyidx.val &&& 3#8) <<< 6]

def wepKey (iv : List U8) (skey : Vector U8 16) (keylength : Nat) : Option (List U8) :=
  if 3 + keylength ≤ 16 then some (iv.take 3 ++ skey.toList.take keylength) else none

/-- What `pkt_attrib` and `xmit_priv` say of the fragments of a frame. -/
structure XmitAttrib where
  encrypt : Privacy
  hdrlen : Nat
  ivLen : Nat
  icvLen : Nat
  nrFrags : Nat
  lastTxcmdsz : Nat
  fragLen : Nat

def rnd4 (x : Nat) : Nat := (x / 4 + if x % 4 = 0 then 0 else 1) * 4

section Encrypt

variable (security : SecurityPriv) (attrib : XmitAttrib)

def wepEncryptFragment (size pframe : Nat) (buffer : List U8) : Option (List U8) := do
  let iv ← segment buffer (pframe + attrib.hdrlen) 3
  let keyIndex := security.dot11PrivacyKeyIndex
  let wepkey ← wepKey iv (security.dot11DefKey keyIndex) (security.dot11DefKeylen keyIndex)
  let payload := pframe + attrib.ivLen + attrib.hdrlen
  let length := ofNat 32 size - ofNat 32 attrib.hdrlen -
    ofNat 32 attrib.ivLen - ofNat 32 attrib.icvLen
  let plain ← segment buffer payload length.toNat
  let (cipher, context) := arcfourEncrypt (arcfourInit wepkey) plain
  let buffer ← overwrite buffer payload cipher
  overwrite buffer (payload + length.toNat)
    (arcfourEncrypt context (littleEndian (getcrc32 plain))).1

def wepEncryptFragments : Nat → Nat → List U8 → Option (List U8)
  | 0, _, buffer => some buffer
  | left + 1, pframe, buffer =>
      if left = 0 then wepEncryptFragment security attrib attrib.lastTxcmdsz pframe buffer
      else do
        let buffer ← wepEncryptFragment security attrib attrib.fragLen pframe buffer
        wepEncryptFragments left (rnd4 (pframe + attrib.fragLen)) buffer

/-- `wep_encrypt`, for a frame whose first fragment begins at a place in the buffer, if
there is a buffer. The buffer itself begins at a multiple of four. -/
def wepEncrypt (pframe : Nat) (bufAddr : Option (List U8)) : Option (Option (List U8)) :=
  match bufAddr with
  | none => some none
  | some buffer =>
      if attrib.encrypt.isWep then
        (wepEncryptFragments security attrib attrib.nrFrags pframe buffer).map some
      else some (some buffer)

end Encrypt

def wepKeyindex (keyid : U8) : Fin 4 := Fin.ofNat 4 (keyid &&& 3#8).toNat

/-- `wep_decrypt`, with what it finds the ICV to be, which goes to a trace message only. -/
def wepDecrypt (security : SecurityPriv) (frame : RecvFrame) : Option (RecvFrame × Bool) :=
  if frame.attrib.encrypt.isWep then do
    let iv ← segment frame.buffer (frame.rxData + frame.attrib.hdrlen) 4
    let wepkey ← wepKey iv (security.dot11DefKey security.dot11PrivacyKeyIndex)
      (security.dot11DefKeylen (wepKeyindex (iv.getD 3 0)))
    let length := frame.len - ofNat 32 frame.attrib.hdrlen -
      ofNat 32 frame.attrib.ivLen
    let payload := frame.rxData + frame.attrib.ivLen + frame.attrib.hdrlen
    let cipher ← segment frame.buffer payload length.toNat
    let plain := (arcfourEncrypt (arcfourInit wepkey) cipher).1
    let buffer ← overwrite frame.buffer payload plain
    let crc := getcrc32 (plain.take (length - 4).toInt.toNat)
    let received ← segment buffer (payload + length.toNat - 4) 4
    return ({ frame with buffer }, littleEndian crc == received)
  else some (frame, true)

end Floid.Wifi
