import Floid.Wifi.CcmpFrames

namespace Floid.Wifi

open Osk Lib
open List (append_assoc length_append length_drop length_take)
open BitVec (ofNat)

variable {encrypt : Block → Block}

def IsQosData (control : U16) : Prop := control &&& 0x0080 ≠ 0 ∧ control &&& 0x0040 = 0

def HasHtControl (control : U16) : Prop := control &&& 0x8000 ≠ 0

instance (control : U16) : Decidable (IsQosData control) := inferInstanceAs (Decidable (_ ∧ _))

instance (control : U16) : Decidable (HasHtControl control) := inferInstanceAs (Decidable (¬_ = _))

def dataHeaderLength (control : U16) : Nat :=
  (if control &&& 0x0080 ≠ 0 then 26 else 24) + if HasHtControl control then 4 else 0

structure DataFront (control : U16) (header ccmp : List U8) : Prop where
  read : frameControl header = some control
  data : getFrameType control = 0x0008
  header : header.length = dataHeaderLength control
  ccmp : ccmp.length = 8

/-- The frame is sent, and whatever comes after it in the buffer of the receiver, what is
in front of the payload and the payload come out as they were, and the MIC matches. The
buffer of the receiver has `spare` bytes after the frame, or more. -/
def CcmpRestored (spare : Nat) (key : Block) (header ccmp payload room : List U8) : Prop :=
  ∃ sent, aesCipher key header.length (header ++ ccmp ++ payload ++ room)
      (ofNat 32 payload.length) = some sent ∧
    ∀ behind : List U8, spare ≤ behind.length → ∃ after, aesDecipher key header.length
        (sent.take (header.length + 8 + payload.length + 8) ++ behind)
        (ofNat 32 (payload.length + 8)) = some (after, true) ∧
      after.take (header.length + 8 + payload.length) = header ++ ccmp ++ payload

theorem isQosData_iff (control : U16) : IsQosData control ↔
    getFrameSubType control >>> 4 = 0x0008 ∨ getFrameSubType control >>> 4 = 0x0009 ∨
      getFrameSubType control >>> 4 = 0x000A ∨ getFrameSubType control >>> 4 = 0x000B := by
  have low (mask : U16) (small : mask &&& 0x00FF = mask) :
      control &&& mask = (control &&& 0x00FF) &&& mask := by
    rw [BitVec.and_assoc, BitVec.and_comm 0x00FF, small]
  rw [IsQosData, getFrameSubType, low 0x0080 rfl, low 0x0040 rfl, low 0x00FC rfl]
  obtain ⟨byte, byteIs⟩ : ∃ byte : U8, control &&& 0x00FF = byte.setWidth 16 := by
    refine ⟨control.setWidth 8, ?_⟩
    refine BitVec.eq_of_toNat_eq ?_
    have width := control.isLt
    rw [BitVec.toNat_and, show (0x00FF : U16).toNat = 2 ^ 8 - 1 from rfl,
      Nat.and_two_pow_sub_one_eq_mod, BitVec.toNat_setWidth, BitVec.toNat_setWidth]
    omega
  rw [byteIs]
  clear byteIs
  revert byte
  decide +kernel

theorem ccmpShape_eq (control : U16) (hdrlen : Nat) : ccmpShape control hdrlen = {
    hdrlen := if IsQosData control ∧ hdrlen ≠ wlanHdrA3QosLen then hdrlen + 2 else hdrlen
    a4Exists := ¬(hdrlen = wlanHdrA3Len ∨ hdrlen = wlanHdrA3QosLen)
    qcExists := IsQosData control } := by
  have typed (subtype : U16) (bit : subtype &&& 0x0010 = 0x0010 ∨ subtype &&& 0x0020 = 0x0020) :
      getFrameType control ≠ subtype := by
    intro same
    rw [← same, getFrameType, BitVec.and_assoc, BitVec.and_assoc] at bit
    simp at bit
  have first := typed 0x0018 (by decide)
  have second := typed 0x0028 (by decide)
  have third := typed 0x0038 (by decide)
  unfold ccmpShape
  simp only [first, second, third, false_or, ← isQosData_iff]
  by_cases qos : IsQosData control
  · rw [if_pos qos]
    simp [qos]
  · rw [if_neg qos]
    simp [qos]

variable {ccmp header payload room : List U8} {control : U16}

theorem DataFront.shape_hdrlen (front : DataFront control header ccmp) : (ccmpShape control header.length).hdrlen =
      if IsQosData control ∧ HasHtControl control then header.length + 2 else header.length := by
  rw [ccmpShape_eq, front.header, dataHeaderLength, wlanHdrA3QosLen]
  by_cases qos : IsQosData control
  · rw [if_pos qos.1]
    by_cases ht : HasHtControl control <;> simp [qos, ht]
  · simp [qos]

theorem DataFront.length_le
    (front : DataFront control header ccmp) : 24 ≤ header.length ∧ header.length ≤ 30 := by
  rw [front.header, dataHeaderLength]
  split <;> split <;> omega

theorem ccmpShape_grows (control : U16) (hdrlen : Nat) : hdrlen ≤ (ccmpShape control hdrlen).hdrlen := by
  rw [ccmpShape_eq]
  dsimp only
  split <;> omega

theorem ctrText_twice (nonce : List U8) (text : List U8) :
    ctrText encrypt nonce 0 (ctrText encrypt nonce 0 text) = text :=
  applyStream_twice _ _

variable {plen : U32}

theorem aesDecipherWith_overflow {hdrlen : Nat} {pframe : List U8} (read : frameControl pframe = some control)
    (long : maxMsgSize < (ccmpShape control hdrlen).hdrlen + plen.toNat + 8) :
    aesDecipherWith encrypt hdrlen pframe plen = none := by
  refine Option.eq_none_iff_forall_ne_some.mpr fun result decrypted => ?_
  rw [aesDecipherWith, read, Option.bind_eq_bind, Option.bind_some] at decrypted
  obtain ⟨early, _, rest⟩ := Option.bind_eq_some_iff.mp decrypted
  obtain ⟨plain, _, rest⟩ := Option.bind_eq_some_iff.mp rest
  obtain ⟨message, copied, rest⟩ := Option.bind_eq_some_iff.mp rest
  rw [if_pos (by rw [segment_length copied]; exact long)] at rest
  cases rest

theorem ccmpRestored_of_shape (spare : Nat) (key : Block)
    (front : DataFront control header ccmp) (roomLength : 8 ≤ room.length)
    (same : (ccmpShape control header.length).hdrlen = header.length)
    (fits : header.length + 8 + payload.length + 8 ≤ maxMsgSize) :
    CcmpRestored spare key header ccmp payload room := by
  have small : payload.length < 2 ^ 32 := by
    rw [maxMsgSize] at fits
    omega
  have read : frameControl (header ++ ccmp) = some control := by
    have long := front.length_le.1
    rw [frameControl_append _ (by omega)]
    exact front.read
  obtain ⟨early, pn, earlyNonce, nonce, header1, header2, parsed, agree⟩ :=
    @ccmpParsed_exists (header ++ ccmp) control header.length front.length_le.1
      (ccmpShape_grows _ _) read (by rw [length_append, front.ccmp, same])
  obtain ⟨rfl, rfl⟩ := agree same.symm
  obtain ⟨mic, rest, rfl, micLength⟩ : ∃ mic rest, room = mic ++ rest ∧ mic.length = 8 :=
    ⟨room.take 8, room.drop 8, (List.take_append_drop _ _).symm, by simp [roomLength]⟩
  have sealed := @CcmpParsed.aesCipherWith_eq (aes128k128d key) _ _ _ _ _ _ _ _ _ _ parsed payload
    mic rest micLength small
  have cipherLength := @ctrText_length (aes128k128d key) earlyNonce 0 payload
  have twice := @ctrText_twice (aes128k128d key) earlyNonce payload
  generalize ctrText (aes128k128d key) earlyNonce 0 payload = cipher at sealed cipherLength twice
  have micSent := @sentMic_length (aes128k128d key) earlyNonce header1 header2 payload
  rw [← append_assoc] at sealed
  refine ⟨_, sealed, fun behind _ => ?_⟩
  have opened := @CcmpParsed.aesDecipherWith_eq (aes128k128d key) _ _ _ _ _ _ _ _ _ _ parsed cipher
    (sentMic (aes128k128d key) earlyNonce header1 header2 payload) behind micSent
    (by rw [same, cipherLength]; exact fits)
  rw [twice, beq_self_eq_true, cipherLength] at opened
  have cut : (header ++ ccmp ++ (cipher ++ (sentMic (aes128k128d key) earlyNonce header1 header2
      payload ++ rest))).take (header.length + 8 + payload.length + 8) = header ++ ccmp ++ (cipher ++
        sentMic (aes128k128d key) earlyNonce header1 header2 payload) := by
    rw [← append_assoc cipher, ← append_assoc (header ++ ccmp)]
    refine List.take_left' ?_
    simp only [length_append, front.ccmp, cipherLength, micSent]
    omega
  rw [cut, append_assoc (header ++ ccmp), append_assoc cipher]
  refine ⟨_, opened, ?_⟩
  rw [← append_assoc (header ++ ccmp)]
  exact List.take_left' (by simp only [length_append, front.ccmp])

theorem DataFront.aesCipher_untouched {key : Block} {sent : List U8} (front : DataFront control header ccmp)
    (sealed : aesCipher key header.length (header ++ ccmp ++ payload ++ room) plen = some sent) :
    Untouched (ccmpShape control header.length) (header ++ ccmp ++ payload ++ room) sent := by
  have long := front.length_le.1
  rw [aesCipher, aesCipherWith, append_assoc, append_assoc,
    frameControl_append _ (by omega), front.read, Option.bind_eq_bind, Option.bind_some] at sealed
  obtain ⟨pn, _, done⟩ := Option.bind_eq_some_iff.mp sealed
  rw [append_assoc, append_assoc]
  exact ccmpSeal_untouched done

theorem DataFront.frameControl_take {control : U16} {header ccmp payload room sent : List U8}
    (front : DataFront control header ccmp) {shape : CcmpShape} {count : Nat}
    (untouched : Untouched shape (header ++ ccmp ++ payload ++ room) sent) (back : List U8)
    (enough : 2 ≤ shape.hdrlen ∧ 2 ≤ count) :
    frameControl (sent.take count ++ back) = some control := by
  have long := front.length_le.1
  have same (index : Nat) (small : index < 2) : (sent.take count ++ back)[index]? = header[index]? := by
    have begins := congrArg (·[index]?) untouched.2
    simp only [List.getElem?_take_of_lt (show index < shape.hdrlen + 8 by omega), append_assoc,
      List.getElem?_append_left (show index < header.length by omega)] at begins
    have sentLong : 2 ≤ sent.length := by
      rw [untouched.1]
      simp only [length_append]
      omega
    rw [List.getElem?_append_left (by rw [length_take]; omega), List.getElem?_take_of_lt (by omega), begins]
  rw [frameControl, same 0 (by omega), same 1 (by omega)]
  exact front.read

theorem not_ccmpRestored_of_shape (spare : Nat) (key : Block) (front : DataFront control header ccmp)
    (roomLength : 8 ≤ room.length)
    (longer : (ccmpShape control header.length).hdrlen = header.length + 2)
    (fits : header.length + 8 + payload.length + 8 + 2 ≤ maxMsgSize) :
    ¬CcmpRestored spare key header ccmp payload room := by
  rintro ⟨sent, sealed, opened⟩
  have long := front.length_le.1
  obtain ⟨sentLength, sentFront⟩ := front.aesCipher_untouched sealed
  have total : (sent.take (header.length + 8 + payload.length + 8)).length =
      header.length + 8 + payload.length + 8 := by
    rw [length_take, sentLength]
    simp only [length_append, front.ccmp]
    omega
  obtain ⟨start, cipher, six, frameIs, startIs, cipherLength, sixLength⟩ :
      ∃ start cipher six, sent.take (header.length + 8 + payload.length + 8) =
        start ++ (cipher ++ six) ∧ start = sent.take (header.length + 2 + 8) ∧
          cipher.length = payload.length ∧ six.length = 6 := by
    refine ⟨_, _, _, ((congrArg _ (List.take_append_drop payload.length _)).trans
      (List.take_append_drop (header.length + 2 + 8) _)).symm, ?_, ?_, ?_⟩
    · rw [List.take_take, Nat.min_eq_left (by omega)]
    · rw [length_take, length_drop, total]
      omega
    · rw [length_drop, length_drop, total]
      omega
  have startLength : start.length = header.length + 2 + 8 := by
    rw [startIs, length_take, sentLength]
    simp only [length_append, front.ccmp]
    omega
  have startRead : frameControl start = some control := by
    have read := @DataFront.frameControl_take _ _ _ _ _ _ front _ (header.length + 2 + 8)
      ⟨sentLength, sentFront⟩ [] (by omega)
    rwa [List.append_nil, ← startIs] at read
  obtain ⟨early, pn, earlyNonce, nonce, header1, header2, parsed, _⟩ :=
    @ccmpParsed_exists start control header.length long (ccmpShape_grows _ _) startRead
      (by rw [startLength, longer])
  -- the MIC that is computed does not depend on what is behind the frame
  have verdict (byte : U8) : six ++ [byte, 0] = sentMic (aes128k128d key) nonce header1 header2
      (ctrText (aes128k128d key) earlyNonce 0 cipher) := by
    obtain ⟨after, decrypted, _⟩ := opened ([byte, 0] ++ List.replicate spare 0)
      (by rw [length_append, List.length_replicate]; omega)
    have result := @CcmpParsed.aesDecipherWith_eq (aes128k128d key) _ _ _ _ _ _ _ _ _ _ parsed
      cipher (six ++ [byte, 0]) (List.replicate spare 0) (by simp [sixLength])
      (by rw [longer, cipherLength]; omega)
    rw [frameIs, ← cipherLength] at decrypted
    simp only [append_assoc] at decrypted result
    rw [aesDecipher, result] at decrypted
    exact eq_of_beq (Prod.mk.inj (Option.some.inj decrypted)).2
  have same := (verdict 0).trans (verdict 1).symm
  rw [List.append_cancel_left_eq] at same
  exact absurd same (by decide)

/-- A frame is restored exactly if it is not a QoS frame with an HT control field, and
fits into the static buffer of `aes_decipher`. -/
theorem ccmp_roundTrip_iff (spare : Nat) (key : Block) {control : U16}
    {header ccmp payload room : List U8} (front : DataFront control header ccmp)
    (roomLength : 8 ≤ room.length) (addressable : header.length + 8 + payload.length + 8 < 2 ^ 32) :
    CcmpRestored spare key header ccmp payload room ↔
      ¬(IsQosData control ∧ HasHtControl control) ∧ header.length + 8 + payload.length + 8 ≤ maxMsgSize := by
  have shaped := front.shape_hdrlen
  constructor
  · intro restored
    by_cases fits : maxMsgSize < (ccmpShape control header.length).hdrlen + (payload.length + 8) + 8
    · obtain ⟨sent, sealed, opened⟩ := restored
      obtain ⟨after, decrypted, _⟩ := opened (List.replicate spare 0) (by simp)
      have plen : (ofNat 32 (payload.length + 8)).toNat = payload.length + 8 := by
        rw [BitVec.toNat_ofNat, Nat.mod_eq_of_lt (by omega)]
      have grows := ccmpShape_grows control header.length
      have long := front.length_le.1
      rw [aesDecipher, aesDecipherWith_overflow (front.frameControl_take
        (front.aesCipher_untouched sealed) _ (by omega)) (by rw [plen]; exact fits)] at decrypted
      cases decrypted
    · by_cases both : IsQosData control ∧ HasHtControl control
      · rw [if_pos both] at shaped
        exact absurd restored
          (not_ccmpRestored_of_shape spare key front roomLength shaped (by omega))
      · rw [if_neg both] at shaped
        exact ⟨both, by omega⟩
  · rintro ⟨neither, fits⟩
    rw [if_neg neither] at shaped
    exact ccmpRestored_of_shape spare key front roomLength shaped fits

theorem ccmp_roundTrip_iff_qos : CcmpRestored 0 (Vector.ofFn fun index => ofNat 8 index)
    ([0x88, 0x01] ++ List.replicate 24 0x02) [0x01, 0, 0, 0x20, 0, 0, 0, 0]
    [0xAA, 0xAA, 0x03, 0, 0, 0, 0x08, 0] (List.replicate 8 0) :=
  (@ccmp_roundTrip_iff 0 (Vector.ofFn fun index => ofNat 8 index) 0x0188
    ([0x88, 0x01] ++ List.replicate 24 0x02) [0x01, 0, 0, 0x20, 0, 0, 0, 0]
    [0xAA, 0xAA, 0x03, 0, 0, 0, 0x08, 0] (List.replicate 8 0) ⟨rfl, by decide, by decide, rfl⟩
    (by decide) (by decide)).mpr ⟨by decide, by decide⟩

/-- A QoS frame with an HT control field, of 30 bytes, is not restored, however much room
its buffers have. -/
theorem ccmp_roundTrip_fails :
    DataFront 0x8188 ([0x88, 0x81] ++ List.replicate 28 0x02) [0x01, 0, 0, 0x20, 0, 0, 0, 0] ∧
    ∀ (spare : Nat) (room : List U8), 8 ≤ room.length →
      ¬CcmpRestored spare (Vector.ofFn fun index => ofNat 8 index)
        ([0x88, 0x81] ++ List.replicate 28 0x02) [0x01, 0, 0, 0x20, 0, 0, 0, 0]
        [0xAA, 0xAA, 0x03, 0, 0, 0, 0x08, 0] room := by
  have front : DataFront 0x8188 ([0x88, 0x81] ++ List.replicate 28 0x02)
      [0x01, 0, 0, 0x20, 0, 0, 0, 0] := ⟨rfl, by decide, by decide, rfl⟩
  refine ⟨front, fun spare room roomLength => ?_⟩
  exact not_ccmpRestored_of_shape spare _ front roomLength (by decide) (by decide)

end Floid.Wifi
