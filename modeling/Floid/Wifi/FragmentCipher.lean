import Floid.Wifi.Wep

namespace Floid.Wifi

open Osk Lib
open BitVec (ofNat ofNat_add toNat_ofNat)

def fragmentStart (attrib : XmitAttrib) (pframe : Nat) : Nat → Nat
  | 0 => pframe
  | fragment + 1 => rnd4 (fragmentStart attrib pframe fragment + attrib.fragLen)

def fragmentSize (attrib : XmitAttrib) (fragment : Nat) : Nat :=
  if fragment + 1 = attrib.nrFrags then attrib.lastTxcmdsz else attrib.fragLen

def wepBody (wepkey plain : List U8) : List U8 :=
  (arcfourEncrypt (arcfourInit wepkey) (plain ++ littleEndian (getcrc32 plain))).1

theorem littleEndian_length (word : U32) : (littleEndian word).length = 4 := rfl

theorem wepBody_length (wepkey plain : List U8) : (wepBody wepkey plain).length = plain.length + 4 := by
  rw [wepBody, arcfourEncrypt, applyStream_length, List.length_append, littleEndian_length]

theorem rnd4_le (x : Nat) : x ≤ rnd4 x := by
  rw [rnd4]
  split <;> omega

theorem fragmentStart_succ_le (attrib : XmitAttrib) (pframe fragment : Nat) :
    fragmentStart attrib pframe fragment + attrib.fragLen ≤ fragmentStart attrib pframe (fragment + 1) :=
  rnd4_le _

theorem payloadLength_toNat {size hdrlen ivLen icvLen count : Nat}
    (sized : size = hdrlen + ivLen + count + icvLen) (small : size < 2 ^ 32) :
    (ofNat 32 size - ofNat 32 hdrlen - ofNat 32 ivLen -
      ofNat 32 icvLen).toNat = count := by
  have sum : ofNat 32 size = ofNat 32 hdrlen + ofNat 32 ivLen +
      ofNat 32 count + ofNat 32 icvLen := by
    rw [sized, ofNat_add, ofNat_add, ofNat_add]
  have rest : ofNat 32 size - ofNat 32 hdrlen - ofNat 32 ivLen -
      ofNat 32 icvLen = ofNat 32 count := by
    rw [sum]
    grind
  rw [rest, toNat_ofNat, Nat.mod_eq_of_lt (by omega)]

theorem arcfourInPlace_exists {buffer plain : List U8} {place : Nat} (rc4key : List U8)
    (room : place + plain.length + 4 ≤ buffer.length) :
    ∃ first after, overwrite buffer place (arcfourEncrypt (arcfourInit rc4key) plain).1 = some first ∧
      overwrite first (place + plain.length)
        (arcfourEncrypt (arcfourEncrypt (arcfourInit rc4key) plain).2
          (littleEndian (getcrc32 plain))).1 = some after ∧
      after.length = buffer.length ∧
      segment after place (plain.length + 4) = some (wepBody rc4key plain) ∧
      ∀ start count, start + count ≤ place ∨ place + plain.length + 4 ≤ start →
        segment after start count = segment buffer start count := by
  have cipherLength : (arcfourEncrypt (arcfourInit rc4key) plain).1.length = plain.length :=
    applyStream_length _ _
  obtain ⟨first, wroteFirst⟩ := @overwrite_exists _ buffer
    (arcfourEncrypt (arcfourInit rc4key) plain).1 place (by omega)
  have firstLength := overwrite_length wroteFirst
  generalize crcIs : (arcfourEncrypt (arcfourEncrypt (arcfourInit rc4key) plain).2
    (littleEndian (getcrc32 plain))).1 = crc
  have crcLength : crc.length = 4 := by
    rw [← crcIs]
    exact applyStream_length _ _
  obtain ⟨after, wrote⟩ := @overwrite_exists _ first crc (place + plain.length) (by omega)
  refine ⟨first, after, wroteFirst, wrote, (overwrite_length wrote).trans firstLength, ?_,
    fun start count apart => ?_⟩
  · have cipherRead := segment_overwrite_same wroteFirst
    rw [cipherLength, ← segment_overwrite_apart wrote (by omega)] at cipherRead
    have crcRead := segment_overwrite_same wrote
    rw [crcLength] at crcRead
    rw [segment_append cipherRead crcRead, wepBody, ← crcIs]
    simp only [arcfourEncrypt, applyStream_append]
  · rw [segment_overwrite_apart wrote (by omega), segment_overwrite_apart wroteFirst (by omega)]

section Loop

variable (one : Nat → Nat → List U8 → Option (List U8)) (attrib : XmitAttrib)

def forFragments : Nat → Nat → List U8 → Option (List U8)
  | 0, _, buffer => some buffer
  | left + 1, pframe, buffer =>
      if left = 0 then one attrib.lastTxcmdsz pframe buffer
      else do
        let buffer ← one attrib.fragLen pframe buffer
        forFragments left (rnd4 (pframe + attrib.fragLen)) buffer

def InPlace (buffer : List U8) (size pframe : Nat) (sent : List U8) : Prop :=
  ∀ current, current.length = buffer.length →
    (∀ place count, pframe ≤ place → segment current place count = segment buffer place count) →
    ∃ after, one size pframe current = some after ∧ after.length = buffer.length ∧
      segment after pframe size = some sent ∧
      ∀ place count, place + count ≤ pframe ∨ pframe + size ≤ place →
        segment after place count = segment current place count

variable {one attrib}

theorem forFragments_exists {buffer : List U8} {pframe : Nat} {sent : Nat → List U8}
    (each : ∀ index < attrib.nrFrags, InPlace one buffer (fragmentSize attrib index)
      (fragmentStart attrib pframe index) (sent index)) (left fragment : Nat)
    (all : fragment + left = attrib.nrFrags) {current : List U8}
    (length : current.length = buffer.length)
    (same : ∀ place count, fragmentStart attrib pframe fragment ≤ place →
      segment current place count = segment buffer place count) :
    ∃ after, forFragments one attrib left (fragmentStart attrib pframe fragment) current = some after ∧
      after.length = buffer.length ∧
      (∀ place count, place + count ≤ fragmentStart attrib pframe fragment →
        segment after place count = segment current place count) ∧
      ∀ index, fragment ≤ index → index < attrib.nrFrags →
        segment after (fragmentStart attrib pframe index) (fragmentSize attrib index) = some (sent index) := by
  induction left generalizing current fragment with
  | zero =>
    exact ⟨current, rfl, length, fun _ _ _ => rfl, fun index first last => absurd last (by omega)⟩
  | succ left ih =>
    obtain ⟨next, ran, nextLength, written, others⟩ := each fragment (by omega) current length same
    rw [forFragments]
    by_cases last : left = 0
    · subst last
      have size : fragmentSize attrib fragment = attrib.lastTxcmdsz := if_pos (by omega)
      rw [if_pos rfl, ← size]
      refine ⟨next, ran, nextLength, fun place count before => others _ _ (.inl before), fun index first end_ => ?_⟩
      obtain rfl : index = fragment := by omega
      exact written
    · have size : fragmentSize attrib fragment = attrib.fragLen := if_neg (by omega)
      have behind := fragmentStart_succ_le attrib pframe fragment
      rw [if_neg last, ← size, ran]
      rw [← size] at behind
      obtain ⟨after, rest, total, before, later⟩ :=
        ih (fragment + 1) (by omega) nextLength fun place count from_ =>
          (others _ _ (.inr (by omega))).trans (same _ _ (by omega))
      refine ⟨after, ?_, total, fun place count early => ?_, fun index first end_ => ?_⟩
      · rw [size]
        exact rest
      · rw [before _ _ (by omega), others _ _ (.inl (by omega))]
      · by_cases this : index = fragment
        · rw [this, before _ _ behind]
          exact written
        · exact later index (by omega) end_

end Loop

theorem receivedBody_exists {frame : RecvFrame} {header iv body : List U8} {count : Nat}
    (read : frame.bytes = some (header ++ iv ++ body)) (headerLength : header.length = frame.attrib.hdrlen)
    (ivLength : iv.length = frame.attrib.ivLen) (bodyLength : body.length = count + 4)
    (small : count < 2 ^ 31) {length : U32} {payload : Nat}
    (lengthIs : length = frame.len - ofNat 32 frame.attrib.hdrlen - ofNat 32 frame.attrib.ivLen)
    (payloadIs : payload = frame.rxData + frame.attrib.ivLen + frame.attrib.hdrlen) :
    length.toNat = count + 4 ∧ (length - 4).toInt.toNat = count ∧
      segment frame.buffer (frame.rxData + frame.attrib.hdrlen) frame.attrib.ivLen = some iv ∧
      segment frame.buffer payload (count + 4) = some body ∧
      ∀ plain : List U8, plain.length = count + 4 → ∃ after, overwrite frame.buffer payload plain = some after ∧
        segment after (payload + (count + 4) - 4) 4 = some (plain.drop count) ∧
        RecvFrame.bytes { frame with buffer := after } = some (header ++ iv ++ plain) := by
  have total := segment_length read
  simp only [List.length_append, headerLength, ivLength, bodyLength] at total
  have bound := frame.len.isLt
  obtain ⟨front, bodyRead⟩ := segment_split read
  obtain ⟨headerRead, ivRead⟩ := segment_split front
  rw [headerLength, ivLength] at ivRead
  rw [List.length_append, headerLength, ivLength, bodyLength, ← Nat.add_assoc] at bodyRead
  have place : payload = frame.rxData + frame.attrib.hdrlen + frame.attrib.ivLen := by omega
  have sum : frame.len = ofNat 32 frame.attrib.hdrlen + ofNat 32 frame.attrib.ivLen +
      ofNat 32 (count + 4) := by
    rw [← ofNat_add, ← ofNat_add, total, BitVec.ofNat_toNat, BitVec.setWidth_eq]
  have lengthSum : length = ofNat 32 (count + 4) := by
    rw [lengthIs, sum]
    grind
  have lengthNat : (ofNat 32 (count + 4)).toNat = count + 4 := by
    rw [toNat_ofNat, Nat.mod_eq_of_lt (by omega)]
  have checked : (ofNat 32 (count + 4) - 4).toInt.toNat = count := by
    have less : ofNat 32 (count + 4) - 4 = ofNat 32 count := by
      rw [ofNat_add]
      exact BitVec.add_sub_cancel _ _
    have nat : (ofNat 32 count).toNat = count := by
      rw [toNat_ofNat, Nat.mod_eq_of_lt (by omega)]
    rw [less, BitVec.toInt_eq_toNat_of_lt (by omega), nat]
    rfl
  rw [lengthSum, place]
  refine ⟨lengthNat, checked, ivRead, bodyRead, fun plain plainLength => ?_⟩
  obtain ⟨after, wrote⟩ := @overwrite_exists _ frame.buffer plain
    (frame.rxData + frame.attrib.hdrlen + frame.attrib.ivLen) (by
      have inside := (segment_some bodyRead).1
      omega)
  have plainRead := segment_overwrite_same wrote
  rw [plainLength] at plainRead
  refine ⟨after, wrote, ?_, ?_⟩
  · have icvRead := segment_drop plainRead (Nat.le_add_right count 4)
    rw [show count + 4 - count = 4 by omega] at icvRead
    exact icvRead
  · have frontKept : segment after frame.rxData (header ++ iv).length = some (header ++ iv) := by
      rw [segment_overwrite_apart wrote (.inl (by simp [headerLength, ivLength]; omega))]
      exact front
    have whole := segment_append frontKept (by
      rw [List.length_append, headerLength, ivLength, ← Nat.add_assoc]
      exact plainRead)
    rw [List.length_append, headerLength, ivLength, total] at whole
    exact whole

end Floid.Wifi
