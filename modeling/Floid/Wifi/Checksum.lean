import Floid.Lib.Crc
import Floid.Wifi.WepRoundTrip
import Floid.Wifi.TkipRoundTrip
import Mathlib.Tactic.IntervalCases

namespace Floid.Wifi

open Osk Lib
open BitVec (allOnes reverse)
open Option (bind_eq_some_iff)

def crc32 (message : List U8) : U32 := ~~~(Crc.remainder crc32Poly.reverse (allOnes 32) message)

theorem crc32ReverseBit_eq (data : U8) : crc32ReverseBit data = data.reverse := by
  revert data
  decide +kernel

theorem divide_crc32Poly (c : U32) : (if c &&& 0x80000000#32 ≠ 0 then (c <<< 1) ^^^ crc32Poly else c <<< 1) =
      Crc.divide crc32Poly c := by
  have highest : c &&& 0x80000000#32 ≠ 0 ↔ c.msb = true := by
    have power : 0x80000000#32 = BitVec.twoPow 32 31 := rfl
    rw [power, BitVec.and_twoPow, BitVec.msb_eq_getLsbD_last]
    cases c.getLsbD 31 <;> decide
  unfold Crc.divide
  by_cases msb : c.msb = true
  · rw [if_pos msb, if_pos (highest.mpr msb)]
  · rw [if_neg msb, if_neg fun nonzero => msb (highest.mp nonzero)]

theorem reverse_highest (index : U8) : (index.reverse.setWidth 32 <<< 24).reverse = index.setWidth 32 := by
  revert index
  decide +kernel

theorem reverse_bytes (c : U32) : reverse (c.setWidth 8) ++ reverse ((c >>> 8).setWidth 8) ++
        reverse ((c >>> 16).setWidth 8) ++ reverse ((c >>> 24).setWidth 8) =
      c.reverse := by
  apply BitVec.eq_of_getLsbD_eq
  intro place inside
  simp only [BitVec.getLsbD_append, BitVec.getLsbD_reverse, BitVec.getMsbD_eq_getLsbD,
    BitVec.getLsbD_setWidth, BitVec.getLsbD_ushiftRight]
  interval_cases place <;> simp

theorem crc32Table_eq (index : U8) :
    crc32Table index = Nat.repeat (Crc.shift crc32Poly.reverse) 8 (index.setWidth 32) := by
  unfold crc32Table
  simp only [divide_crc32Poly, crc32ReverseBit_eq]
  conv => rhs; rw [← reverse_highest, ← Crc.reverse_repeat_divide, ← reverse_bytes]
  rfl

theorem getcrc32_eq (buf : List U8) : getcrc32 buf = crc32 buf := by
  have bytewise := Crc.remainderBy_eq crc32Poly.reverse (by decide) crc32Table_eq
    (allOnes 32) buf
  rw [crc32, ← bytewise]
  rfl

theorem icvCheck_iff {frame : RecvFrame} {header iv plain received body icv after : List U8}
    {length : U32} (lengthIs : length = frame.len - BitVec.ofNat 32 frame.attrib.hdrlen -
      BitVec.ofNat 32 frame.attrib.ivLen)
    (plainLength : plain.length = length.toNat)
    (wrote : overwrite frame.buffer (frame.rxData + frame.attrib.ivLen + frame.attrib.hdrlen) plain = some after)
    (read : segment after (frame.rxData + frame.attrib.ivLen + frame.attrib.hdrlen + length.toNat - 4)
      4 = some received)
    (bytes : RecvFrame.bytes { frame with buffer := after } = some (header ++ iv ++ (body ++ icv)))
    (headerLength : header.length = frame.attrib.hdrlen) (ivLength : iv.length = frame.attrib.ivLen)
    (four : icv.length = 4) (small : body.length < 2 ^ 31) :
    (littleEndian (getcrc32 (plain.take (length - 4).toInt.toNat)) == received) = true ↔
      icv = littleEndian (crc32 body) := by
  have textLength : (body ++ icv).length = body.length + 4 := by rw [List.length_append, four]
  obtain ⟨whole, count, _, text, _⟩ := @receivedBody_exists { frame with buffer := after } _ _ _ _
    bytes headerLength ivLength textLength small _ _ lengthIs rfl
  have isPlain : plain = body ++ icv := by
    have same := segment_overwrite_same wrote
    rw [plainLength, whole] at same
    exact Option.some.inj (same.symm.trans text)
  have last := segment_drop text (Nat.le_add_right body.length 4)
  rw [List.drop_left, Nat.add_sub_cancel_left] at last
  rw [whole, ← Nat.add_assoc, Nat.add_sub_cancel] at read
  have isReceived : received = icv := Option.some.inj (read.symm.trans last)
  rw [beq_iff_eq, isReceived, count, isPlain, List.take_left, getcrc32_eq, eq_comm]

/-- The table gives the reflected CRC-32, and a payload passes the check of the receiver if and
only if its last four bytes are the CRC of the others, the lowest byte first. -/
theorem crc32_exact : (∀ buf, getcrc32 buf = crc32 buf) ∧
    (∀ (security : SecurityPriv) (frame after : RecvFrame) (ok : Bool) (header iv body icv : List U8),
      frame.attrib.encrypt.isWep = true → wepDecrypt security frame = some (after, ok) →
      after.bytes = some (header ++ iv ++ (body ++ icv)) → header.length = frame.attrib.hdrlen →
      iv.length = frame.attrib.ivLen → icv.length = 4 → body.length < 2 ^ 31 →
      (ok = true ↔ icv = littleEndian (crc32 body))) ∧
    ∀ (stale : U16) (security : RxSecurity) (getStainfo : MacAddr → Option StaInfo)
      (frame after : RecvFrame) (ok : Bool) (header iv body icv : List U8),
      frame.attrib.encrypt = .tkip → (getStainfo frame.attrib.ta).isSome →
      tkipDecrypt stale security getStainfo frame = some (after, ok) →
      after.bytes = some (header ++ iv ++ (body ++ icv)) → header.length = frame.attrib.hdrlen →
      iv.length = frame.attrib.ivLen → icv.length = 4 → body.length < 2 ^ 31 →
      (ok = true ↔ icv = littleEndian (crc32 body)) := by
  refine ⟨getcrc32_eq, ?_, ?_⟩
  · intro security frame after ok header iv body icv wep ran bytes headerLength ivLength four small
    rw [wepDecrypt, if_pos wep] at ran
    obtain ⟨_, _, ran⟩ := bind_eq_some_iff.mp ran
    obtain ⟨wepkey, _, ran⟩ := bind_eq_some_iff.mp ran
    obtain ⟨cipher, cipherRead, ran⟩ := bind_eq_some_iff.mp ran
    obtain ⟨buffer, wrote, ran⟩ := bind_eq_some_iff.mp ran
    obtain ⟨received, read, ran⟩ := bind_eq_some_iff.mp ran
    cases ran
    exact icvCheck_iff rfl ((applyStream_length _ _).trans (segment_length cipherRead)) wrote read
      bytes headerLength ivLength four small
  · intro stale security getStainfo frame after ok header iv body icv tkip known ran bytes
      headerLength ivLength four small
    obtain ⟨stainfo, station⟩ := Option.isSome_iff_exists.mp known
    rw [tkipDecrypt, if_pos tkip, station] at ran
    obtain ⟨prwskey, _, ran⟩ := bind_eq_some_iff.mp ran
    obtain ⟨_, _, ran⟩ := bind_eq_some_iff.mp ran
    obtain ⟨cipher, cipherRead, ran⟩ := bind_eq_some_iff.mp ran
    obtain ⟨buffer, wrote, ran⟩ := bind_eq_some_iff.mp ran
    obtain ⟨received, read, ran⟩ := bind_eq_some_iff.mp ran
    cases ran
    exact icvCheck_iff rfl ((applyStream_length _ _).trans (segment_length cipherRead)) wrote read
      bytes headerLength ivLength four small

def tkipReceived (buffer : List U8) : RecvFrame :=
  let frame := receivedInBuffer buffer
  { frame with attrib := { frame.attrib with encrypt := .tkip, ivLen := 8 } }

def noGroupKeys : RxSecurity where
  dot11AuthAlgrthm := 2
  binstallGrpkey := false
  swDecrypt := true
  dot118021XGrpKeyid := 0
  dot118021XGrpKey _ := .replicate 16 0
  dot118021XGrprxmickey := .replicate 16 0

theorem crc32_exact_oneByte : (∃ frame after, wepDecrypt (secondKey fun _ => 13) frame = some (after, true)) ∧
    ∃ frame after, tkipDecrypt 0 noGroupKeys (fun _ => some tkipSta) frame = some (after, true) := by
  constructor
  · have valid : (secondKey fun _ => 13).KeysValid := fun _ => .inr (.inr rfl)
    let sent := List.replicate 24 0x08#8 ++ wepIv 7 1 ++
      wepBody ((secondKey fun _ => 13).wepKeyFor 0 (wepIv 7 1)) [0x55]
    have received : ReceivedWep oneFragment (receivedInBuffer sent) sent :=
      ⟨rfl, rfl, rfl, segment_all sent⟩
    obtain ⟨after, ran, bytes⟩ := wepDecrypt_exists valid received rfl rfl
      (wepBody_length _ _) (wepKeyindex_wepIv _ _) (by decide)
    rw [wepBody_decrypted] at bytes
    have passes := (crc32_exact.2.1 _ _ after _ _ _ [0x55] _ rfl ran bytes rfl rfl rfl
      (by decide)).mpr (congrArg littleEndian (getcrc32_eq _))
    rw [passes] at ran
    exact ⟨_, after, ran⟩
  · let sent := List.replicate 24 0x08#8 ++ tkipIv 7 0 ++
      wepBody (tkipRc4key 0 tkipSta.dot118021xUncstKey (.replicate 6 0) (tkipIv 7 0)) [0x55]
    have received : ReceivedTkip tkipOneFragment (.replicate 6 0) (tkipReceived sent) sent :=
      ⟨rfl, rfl, rfl, rfl, by decide, segment_all sent⟩
    obtain ⟨after, ran, bytes⟩ := @tkipDecrypt_exists _ 0 noGroupKeys (fun _ => some tkipSta) _ _ rfl
      _ _ _ _ _ received rfl rfl (wepBody_length _ _) (by decide)
    rw [wepBody_decrypted] at bytes
    have passes := (crc32_exact.2.2 _ _ _ _ after _ _ _ [0x55] _ rfl rfl ran bytes rfl rfl rfl
      (by decide)).mpr (congrArg littleEndian (getcrc32_eq _))
    rw [passes] at ran
    exact ⟨_, after, ran⟩

end Floid.Wifi
