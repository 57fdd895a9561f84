import Floid.Wifi.Michael
import Floid.Wifi.Wep

/-!
TKIP. The key of a frame is mixed from the temporal key, the address of the transmitter and a
counter of 48 bits, most of which is in clear text in the IV.
-/

namespace Floid.Wifi

open Osk Lib
open BitVec (ofNat)

set_option maxRecDepth 2000 in
def sbox1 : Vector U16 256 :=
  #v[ 0xC6A5, 0xF884, 0xEE99, 0xF68D, 0xFF0D, 0xD6BD, 0xDEB1, 0x9154,
    0x6050, 0x0203, 0xCEA9, 0x567D, 0xE719, 0xB562, 0x4DE6, 0xEC9A,
    0x8F45, 0x1F9D, 0x8940, 0xFA87, 0xEF15, 0xB2EB, 0x8EC9, 0xFB0B,
    0x41EC, 0xB367, 0x5FFD, 0x45EA, 0x23BF, 0x53F7, 0xE496, 0x9B5B,
    0x75C2, 0xE11C, 0x3DAE, 0x4C6A, 0x6C5A, 0x7E41, 0xF502, 0x834F,
    0x685C, 0x51F4, 0xD134, 0xF908, 0xE293, 0xAB73, 0x6253, 0x2A3F,
    0x080C, 0x9552, 0x4665, 0x9D5E, 0x3028, 0x37A1, 0x0A0F, 0x2FB5,
    0x0E09, 0x2436, 0x1B9B, 0xDF3D, 0xCD26, 0x4E69, 0x7FCD, 0xEA9F,
    0x121B, 0x1D9E, 0x5874, 0x342E, 0x362D, 0xDCB2, 0xB4EE, 0x5BFB,
    0xA4F6, 0x764D, 0xB761, 0x7DCE, 0x527B, 0xDD3E, 0x5E71, 0x1397,
    0xA6F5, 0xB968, 0x0000, 0xC12C, 0x4060, 0xE31F, 0x79C8, 0xB6ED,
    0xD4BE, 0x8D46, 0x67D9, 0x724B, 0x94DE, 0x98D4, 0xB0E8, 0x854A,
    0xBB6B, 0xC52A, 0x4FE5, 0xED16, 0x86C5, 0x9AD7, 0x6655, 0x1194,
    0x8ACF, 0xE910, 0x0406, 0xFE81, 0xA0F0, 0x7844, 0x25BA, 0x4BE3,
    0xA2F3, 0x5DFE, 0x80C0, 0x058A, 0x3FAD, 0x21BC, 0x7048, 0xF104,
    0x63DF, 0x77C1, 0xAF75, 0x4263, 0x2030, 0xE51A, 0xFD0E, 0xBF6D,
    0x814C, 0x1814, 0x2635, 0xC32F, 0xBEE1, 0x35A2, 0x88CC, 0x2E39,
    0x9357, 0x55F2, 0xFC82, 0x7A47, 0xC8AC, 0xBAE7, 0x322B, 0xE695,
    0xC0A0, 0x1998, 0x9ED1, 0xA37F, 0x4466, 0x547E, 0x3BAB, 0x0B83,
    0x8CCA, 0xC729, 0x6BD3, 0x283C, 0xA779, 0xBCE2, 0x161D, 0xAD76,
    0xDB3B, 0x6456, 0x744E, 0x141E, 0x92DB, 0x0C0A, 0x486C, 0xB8E4,
    0x9F5D, 0xBD6E, 0x43EF, 0xC4A6, 0x39A8, 0x31A4, 0xD337, 0xF28B,
    0xD532, 0x8B43, 0x6E59, 0xDAB7, 0x018C, 0xB164, 0x9CD2, 0x49E0,
    0xD8B4, 0xACFA, 0xF307, 0xCF25, 0xCAAF, 0xF48E, 0x47E9, 0x1018,
    0x6FD5, 0xF088, 0x4A6F, 0x5C72, 0x3824, 0x57F1, 0x73C7, 0x9751,
    0xCB23, 0xA17C, 0xE89C, 0x3E21, 0x96DD, 0x61DC, 0x0D86, 0x0F85,
    0xE090, 0x7C42, 0x71C4, 0xCCAA, 0x90D8, 0x0605, 0xF701, 0x1C12,
    0xC2A3, 0x6A5F, 0xAEF9, 0x69D0, 0x1791, 0x9958, 0x3A27, 0x27B9,
    0xD938, 0xEB13, 0x2BB3, 0x2233, 0xD2BB, 0xA970, 0x0789, 0x33A7,
    0x2DB6, 0x3C22, 0x1592, 0xC920, 0x8749, 0xAAFF, 0x5078, 0xA57A,
    0x038F, 0x59F8, 0x0980, 0x1A17, 0x65DA, 0xD731, 0x84C6, 0xD0B8,
    0x82C3, 0x29B0, 0x5A77, 0x1E11, 0x7BCB, 0xA8FC, 0x6DD6, 0x2C3A]

def mixS (v16 : U16) : U16 :=
  sbox1[(v16.setWidth 8).toNat] ^^^ (sbox1[((v16 >>> 8).setWidth 8).toNat]).rotateLeft 8

def mk16 (hi lo : U8) : U16 := lo.setWidth 16 ^^^ hi.setWidth 16 <<< 8

def tk16 (tk : Vector U8 16) (n : Fin 8) : U16 := mk16 tk[2 * n.val + 1] tk[2 * n.val]

def phase1Turn (tk : Vector U8 16) (p1k : Vector U16 5) (i : Nat) : Vector U16 5 :=
  let parity (base : Nat) (small : base < 7) : Fin 8 := ⟨i % 2 + base, by omega⟩
  let k0 := p1k[0] + mixS (p1k[4] ^^^ tk16 tk (parity 0 (by decide)))
  let k1 := p1k[1] + mixS (k0 ^^^ tk16 tk (parity 2 (by decide)))
  let k2 := p1k[2] + mixS (k1 ^^^ tk16 tk (parity 4 (by decide)))
  let k3 := p1k[3] + mixS (k2 ^^^ tk16 tk (parity 6 (by decide)))
  let k4 := p1k[4] + mixS (k3 ^^^ tk16 tk (parity 0 (by decide)))
  #v[k0, k1, k2, k3, k4 + ofNat 16 i]

def phase1 (tk : Vector U8 16) (ta : MacAddr) (iv32 : U32) : Vector U16 5 :=
  (List.range 8).foldl (phase1Turn tk)
    #v[iv32.setWidth 16, (iv32 >>> 16).setWidth 16, mk16 (ta.get 1) (ta.get 0), mk16 (ta.get 3) (ta.get 2),
      mk16 (ta.get 5) (ta.get 4)]

def phase2 (tk : Vector U8 16) (p1k : Vector U16 5) (iv16 : U16) : List U8 :=
  let ppk5 := p1k[4] + iv16
  let ppk0 := p1k[0] + mixS (ppk5 ^^^ tk16 tk 0)
  let ppk1 := p1k[1] + mixS (ppk0 ^^^ tk16 tk 1)
  let ppk2 := p1k[2] + mixS (ppk1 ^^^ tk16 tk 2)
  let ppk3 := p1k[3] + mixS (ppk2 ^^^ tk16 tk 3)
  let ppk4 := p1k[4] + mixS (ppk3 ^^^ tk16 tk 4)
  let ppk5 := ppk5 + mixS (ppk4 ^^^ tk16 tk 5)
  let ppk0 := ppk0 + (ppk5 ^^^ tk16 tk 6).rotateRight 1
  let ppk1 := ppk1 + (ppk0 ^^^ tk16 tk 7).rotateRight 1
  let ppk2 := ppk2 + ppk1.rotateRight 1
  let ppk3 := ppk3 + ppk2.rotateRight 1
  let ppk4 := ppk4 + ppk3.rotateRight 1
  let ppk5 := ppk5 + ppk4.rotateRight 1
  let lo8 (word : U16) : U8 := word.setWidth 8
  let hi8 (word : U16) : U8 := (word >>> 8).setWidth 8
  -- the first three bytes are the clear text, without the weak keys
  [hi8 iv16, (hi8 iv16 ||| 0x20) &&& 0x7f, lo8 iv16, lo8 ((ppk5 ^^^ tk16 tk 0) >>> 1),
    lo8 ppk0, hi8 ppk0, lo8 ppk1, hi8 ppk1, lo8 ppk2, hi8 ppk2,
    lo8 ppk3, hi8 ppk3, lo8 ppk4, hi8 ppk4, lo8 ppk5, hi8 ppk5]

/-- The bytes `TKIP_IV` writes for a transmit counter and a key index. -/
def tkipIv (txpn : BitVec 48) (keyidx : U8) : List U8 :=
  let tsc (n : Nat) : U8 := (txpn >>> (8 * n)).setWidth 8
  [tsc 1, (tsc 1 ||| 0x20) &&& 0x7f, tsc 0, 0x20 ||| (keyidx &&& 3) <<< 6, tsc 2, tsc 3, tsc 4, tsc 5]

/-- `GET_TKIP_PN`. The two high bytes of `pn48` are not set: they are as they were. -/
def getTkipPn (stale : U16) (iv : List U8) : BitVec 64 :=
  stale ++ iv.getD 7 0 ++ iv.getD 6 0 ++ iv.getD 5 0 ++ iv.getD 4 0 ++ iv.getD 0 0 ++ iv.getD 2 0

/-- `rc4key`, as both `tkip_encrypt` and `tkip_decrypt` make it. -/
def tkipRc4key (stale : U16) (prwskey : Vector U8 16) (ta : MacAddr) (iv : List U8) : List U8 :=
  let dot11txpn := getTkipPn stale iv
  let pnl := dot11txpn.setWidth 16
  let pnh := (dot11txpn >>> 16).setWidth 32
  phase2 prwskey (phase1 prwskey ta pnh) pnl

section Encrypt

variable (stale : U16) (ta : MacAddr) (attrib : XmitAttrib)

def tkipEncryptFragment (prwskey : Vector U8 16) (size pframe : Nat) (buffer : List U8) : Option (List U8) := do
  let iv ← segment buffer (pframe + attrib.hdrlen) 8
  let rc4key := tkipRc4key stale prwskey ta iv
  let payload := pframe + attrib.ivLen + attrib.hdrlen
  let length := ofNat 32 size - ofNat 32 attrib.hdrlen -
    ofNat 32 attrib.ivLen - ofNat 32 attrib.icvLen
  let plain ← segment buffer payload length.toNat
  let (cipher, context) := arcfourEncrypt (arcfourInit rc4key) plain
  let buffer ← overwrite buffer payload cipher
  overwrite buffer (payload + length.toNat)
    (arcfourEncrypt context (littleEndian (getcrc32 plain))).1

def tkipEncryptFragments (prwskey : Vector U8 16) : Nat → Nat → List U8 → Option (List U8)
  | 0, _, buffer => some buffer
  | left + 1, pframe, buffer =>
      if left = 0 then tkipEncryptFragment stale ta attrib prwskey attrib.lastTxcmdsz pframe buffer
      else do
        let buffer ← tkipEncryptFragment stale ta attrib prwskey attrib.fragLen pframe buffer
        tkipEncryptFragments prwskey left (rnd4 (pframe + attrib.fragLen)) buffer

/-- `tkip_encrypt`: whether it returns `_SUCCESS`, and the buffer. -/
def tkipEncrypt (getStainfo : MacAddr → Option StaInfo) (psta : Option StaInfo) (ra : MacAddr)
    (pframe : Nat) (bufAddr : Option (List U8)) : Option (Bool × Option (List U8)) :=
  match bufAddr with
  | none => some (false, none)
  | some buffer =>
      if attrib.encrypt = .tkip then
        match psta <|> getStainfo ra with
        | none => some (false, some buffer)
        | some stainfo =>
            (tkipEncryptFragments stale ta attrib stainfo.dot118021xUncstKey attrib.nrFrags pframe
              buffer).map fun buffer => (true, some buffer)
      else some (true, some buffer)

end Encrypt

def tkipPrwskey (security : RxSecurity) (stainfo : StaInfo) (ra : MacAddr) : Option (Vector U8 16) :=
  if isMcast ra then
    if key : 1 ≤ security.dot118021XGrpKeyid ∧ security.dot118021XGrpKeyid ≤ 4 then
      some (security.dot118021XGrpKey ⟨security.dot118021XGrpKeyid - 1, by omega⟩)
    else none
  else some stainfo.dot118021xUncstKey

/-- `tkip_decrypt`: the frame, and whether it returns `_SUCCESS`. -/
def tkipDecrypt (stale : U16) (security : RxSecurity) (getStainfo : MacAddr → Option StaInfo)
    (frame : RecvFrame) : Option (RecvFrame × Bool) :=
  if frame.attrib.encrypt = .tkip then
    match getStainfo frame.attrib.ta with
    | none => some (frame, false)
    | some stainfo => do
        let prwskey ← tkipPrwskey security stainfo frame.attrib.ra
        let iv ← segment frame.buffer (frame.rxData + frame.attrib.hdrlen) 8
        let rc4key := tkipRc4key stale prwskey frame.attrib.ta iv
        let payload := frame.rxData + frame.attrib.ivLen + frame.attrib.hdrlen
        let length := frame.len - ofNat 32 frame.attrib.hdrlen -
          ofNat 32 frame.attrib.ivLen
        let cipher ← segment frame.buffer payload length.toNat
        let plain := (arcfourEncrypt (arcfourInit rc4key) cipher).1
        let buffer ← overwrite frame.buffer payload plain
        let crc := getcrc32 (plain.take (length - 4).toInt.toNat)
        let received ← segment buffer (payload + length.toNat - 4) 4
        return ({ frame with buffer }, littleEndian crc == received)
  else some (frame, true)

end Floid.Wifi
