import Floid.Wifi.FragmentCipher

namespace Floid.Wifi

open Osk Lib

variable {security : SecurityPriv} {attrib : XmitAttrib} {buffer : List U8}

structure FragmentAt (attrib : XmitAttrib) (buffer : List U8) (pframe size : Nat)
    (header iv plain : List U8) : Prop where
  header : segment buffer pframe attrib.hdrlen = some header
  iv : segment buffer (pframe + attrib.hdrlen) 4 = some iv
  sized : size = attrib.hdrlen + 4 + plain.length + 4
  plain : segment buffer (pframe + attrib.hdrlen + 4) plain.length = some plain
  room : pframe + size ≤ buffer.length

def SecurityPriv.KeysValid (security : SecurityPriv) : Prop :=
  ∀ index, security.dot11DefKeylen index = 0 ∨ security.dot11DefKeylen index = 5 ∨
    security.dot11DefKeylen index = 13

def SecurityPriv.wepKeyFor (security : SecurityPriv) (length : Fin 4) (iv : List U8) : List U8 :=
  iv.take 3 ++ (security.dot11DefKey security.dot11PrivacyKeyIndex).toList.take
    (security.dot11DefKeylen length)

/-- The length of the key is the same whether it is looked up by the index that is
configured or by the index 0. Or it is not, and for this IV the two keys still give the
same key stream. -/
def SecurityPriv.KeysAgree (security : SecurityPriv) (iv : List U8) (count : Nat) : Prop :=
  security.dot11DefKeylen 0 = security.dot11DefKeylen security.dot11PrivacyKeyIndex ∨
    keyStream arcfourByte count (arcfourInit (security.wepKeyFor 0 iv)) =
      keyStream arcfourByte count (arcfourInit (security.wepKeyFor security.dot11PrivacyKeyIndex iv))

theorem SecurityPriv.KeysValid.wepKey (valid : security.KeysValid) (iv : List U8) (length : Fin 4) :
    wepKey iv (security.dot11DefKey security.dot11PrivacyKeyIndex)
      (security.dot11DefKeylen length) = some (security.wepKeyFor length iv) := by
  refine if_pos ?_
  have lengths := valid length
  omega

variable {header iv plain : List U8} {pframe size : Nat} {frame : RecvFrame}

theorem wepEncryptFragment_exists (valid : security.KeysValid) (ivLen : attrib.ivLen = 4) (icvLen : attrib.icvLen = 4)
    (fragment : FragmentAt attrib buffer pframe size header iv plain) (small : size < 2 ^ 32) :
    ∃ after, wepEncryptFragment security attrib size pframe buffer = some after ∧ after.length = buffer.length ∧
      segment after (pframe + attrib.hdrlen + 4) (plain.length + 4) =
        some (wepBody (security.wepKeyFor security.dot11PrivacyKeyIndex iv) plain) ∧
      ∀ place count, place + count ≤ pframe + attrib.hdrlen + 4 ∨ pframe + size ≤ place →
        segment after place count = segment buffer place count := by
  have sized := fragment.sized
  have room := fragment.room
  have ivRead := segment_take fragment.iv (by omega : 3 ≤ 4)
  have length := payloadLength_toNat sized small
  have place : pframe + attrib.ivLen + attrib.hdrlen = pframe + attrib.hdrlen + 4 := by omega
  generalize wepkeyIs : security.wepKeyFor security.dot11PrivacyKeyIndex iv = wepkey
  have key : wepKey (iv.take 3) (security.dot11DefKey security.dot11PrivacyKeyIndex)
      (security.dot11DefKeylen security.dot11PrivacyKeyIndex) = some wepkey := by
    rw [valid.wepKey, ← wepkeyIs, SecurityPriv.wepKeyFor, List.take_take, Nat.min_self, SecurityPriv.wepKeyFor]
  obtain ⟨first, after, wroteFirst, wrote, afterLength, body, others⟩ :=
    @arcfourInPlace_exists buffer plain (pframe + attrib.hdrlen + 4) wepkey (by omega)
  refine ⟨after, ?_, afterLength, body, fun start count apart => others _ _ (by omega)⟩
  simp only [wepEncryptFragment, ivRead, key, ivLen, icvLen, length, Option.bind_eq_bind, Option.bind_some]
  rw [ivLen] at place
  rw [place, fragment.plain]
  simp only [Option.bind_some, wroteFirst, wrote]

def wepSent (security : SecurityPriv) (header iv plain : List U8) : List U8 :=
  header ++ iv ++ wepBody (security.wepKeyFor security.dot11PrivacyKeyIndex iv) plain

theorem FragmentAt.kept {after : List U8} (fragment : FragmentAt attrib buffer pframe size header iv plain)
    (length : after.length = buffer.length)
    (same : ∀ place count, pframe ≤ place → segment after place count = segment buffer place count) :
    FragmentAt attrib after pframe size header iv plain where
  sized := fragment.sized
  header := (same _ _ (Nat.le_refl _)).trans fragment.header
  iv := (same _ _ (by omega)).trans fragment.iv
  plain := (same _ _ (by omega)).trans fragment.plain
  room := by rw [length]; exact fragment.room

theorem wepEncryptFragments_eq (left pframe : Nat) (buffer : List U8) :
    wepEncryptFragments security attrib left pframe buffer =
      forFragments (wepEncryptFragment security attrib) attrib left pframe buffer := by
  induction left generalizing pframe buffer with
  | zero => rfl
  | succ left ih =>
    rw [wepEncryptFragments, forFragments]
    simp only [ih]

theorem FragmentAt.inPlace (valid : security.KeysValid) (ivLen : attrib.ivLen = 4) (icvLen : attrib.icvLen = 4)
    (fragment : FragmentAt attrib buffer pframe size header iv plain)
    (small : buffer.length < 2 ^ 32) :
    InPlace (wepEncryptFragment security attrib) buffer size pframe
      (wepSent security header iv plain) := by
  intro current length same
  have own := fragment.kept length same
  have room := own.room
  obtain ⟨after, ran, afterLength, body, others⟩ :=
    wepEncryptFragment_exists valid ivLen icvLen own (by omega)
  have sized := own.sized
  refine ⟨after, ran, afterLength.trans length, ?_, fun place count apart => others _ _ (by omega)⟩
  have headerRead := (others _ _ (.inl (by omega))).trans own.header
  have ivRead := (others _ _ (.inl (Nat.le_refl _))).trans own.iv
  rw [wepSent, own.sized, Nat.add_assoc _ _ 4]
  exact segment_append (segment_append headerRead ivRead) body

structure ReceivedWep (attrib : XmitAttrib) (frame : RecvFrame) (bytes : List U8) : Prop where
  wep : frame.attrib.encrypt.isWep = true
  hdrlen : frame.attrib.hdrlen = attrib.hdrlen
  ivLen : frame.attrib.ivLen = 4
  bytes : frame.bytes = some bytes

theorem wepKeyindex_wepIv (txpn : BitVec 48) (keyidx : Fin 4) :
    wepKeyindex ((wepIv txpn keyidx).getD 3 0) = 0 := by
  simp only [wepIv, List.getD_cons_succ, List.getD_cons_zero]
  revert keyidx
  decide

theorem wepDecrypt_exists (valid : security.KeysValid) {body : List U8}
    {count : Nat} (received : ReceivedWep attrib frame (header ++ iv ++ body))
    (headerLength : header.length = attrib.hdrlen) (ivLength : iv.length = 4)
    (bodyLength : body.length = count + 4) (keyindex : wepKeyindex (iv.getD 3 0) = 0)
    (small : count < 2 ^ 31) :
    let plain := (arcfourEncrypt (arcfourInit (security.wepKeyFor 0 iv)) body).1
    ∃ after, wepDecrypt security frame =
        some (after, littleEndian (getcrc32 (plain.take count)) == plain.drop count) ∧
      after.bytes = some (header ++ iv ++ plain) := by
  intro plain
  have plainLength : plain.length = count + 4 := (applyStream_length _ _).trans bodyLength
  obtain ⟨length, checked, ivRead, bodyRead, written⟩ := receivedBody_exists received.bytes
    (headerLength.trans received.hdrlen.symm) (ivLength.trans received.ivLen.symm) bodyLength small
    rfl rfl
  obtain ⟨after, wrote, icvRead, bytes⟩ := written plain plainLength
  rw [received.ivLen] at ivRead
  have key : wepKey iv (security.dot11DefKey security.dot11PrivacyKeyIndex)
      (security.dot11DefKeylen 0) = some (security.wepKeyFor 0 iv) := valid.wepKey iv _
  refine ⟨{ frame with buffer := after }, ?_, bytes⟩
  simp only [wepDecrypt, received.wep, if_true, ivRead, keyindex, key, length, bodyRead,
    Option.bind_eq_bind, Option.bind_some, checked]
  rw [show (arcfourEncrypt (arcfourInit (security.wepKeyFor 0 iv)) body).1 = plain from rfl, wrote,
    Option.bind_some, icvRead]
  rfl

/-- The frame comes out of `wep_decrypt` with the payload and the check value as they were
before the encryption, and the check value is found to match. -/
def WepRestored (security : SecurityPriv) (frame : RecvFrame) (header iv plain : List U8) : Prop :=
  ∃ after, wepDecrypt security frame = some (after, true) ∧
    after.bytes = some (header ++ iv ++ (plain ++ littleEndian (getcrc32 plain)))

theorem wepRestored_iff (valid : security.KeysValid)
    {txpn : BitVec 48} (headerLength : header.length = attrib.hdrlen) (small : plain.length < 2 ^ 31)
    (received : ReceivedWep attrib frame (wepSent security header (wepIv txpn security.dot11PrivacyKeyIndex) plain)) :
    WepRestored security frame header (wepIv txpn security.dot11PrivacyKeyIndex) plain ↔
      security.KeysAgree (wepIv txpn security.dot11PrivacyKeyIndex) (plain.length + 4) := by
  generalize ivIs : wepIv txpn security.dot11PrivacyKeyIndex = iv at received ⊢
  have keyindex : wepKeyindex (iv.getD 3 0) = 0 := by rw [← ivIs, wepKeyindex_wepIv]
  have ivLength : iv.length = 4 := by rw [← ivIs]; rfl
  obtain ⟨after, ran, bytes⟩ := wepDecrypt_exists valid received headerLength ivLength
    (wepBody_length _ _) keyindex small
  have restores := @applyStream_restores_iff _ _ arcfourByte
    (arcfourInit (security.wepKeyFor security.dot11PrivacyKeyIndex iv))
    (arcfourInit (security.wepKeyFor 0 iv)) (plain ++ littleEndian (getcrc32 plain))
  rw [List.length_append, littleEndian_length] at restores
  have agree : security.KeysAgree iv (plain.length + 4) ↔
      (arcfourEncrypt (arcfourInit (security.wepKeyFor 0 iv))
        (wepBody (security.wepKeyFor security.dot11PrivacyKeyIndex iv) plain)).1 =
          plain ++ littleEndian (getcrc32 plain) := by
    refine Iff.trans ?_ restores.symm
    constructor
    · rintro (lengths | same)
      · rw [SecurityPriv.wepKeyFor, SecurityPriv.wepKeyFor, lengths]
      · exact same
    · exact .inr
  rw [agree]
  constructor
  · intro ⟨result, ranResult, resultBytes⟩
    rw [ran, Option.some.injEq, Prod.mk.injEq] at ranResult
    rw [← ranResult.1, bytes, Option.some.injEq] at resultBytes
    exact List.append_cancel_left resultBytes
  · intro plainIs
    rw [plainIs] at ran bytes
    refine ⟨after, ?_, bytes⟩
    rw [ran, List.take_left, List.drop_left, beq_self_eq_true]

/-- Every fragment of a frame with `WEP_IV` is encrypted, and decrypting it gives it back
with the ICV that matches exactly where the length of the key with the index 0 is that
of the key the frame is sent with, or makes no difference to the key stream. -/
theorem wep_roundTrip_iff (valid : security.KeysValid) (wep : attrib.encrypt.isWep = true)
    (ivLen : attrib.ivLen = 4) (icvLen : attrib.icvLen = 4) {pframe : Nat}
    (small : buffer.length < 2 ^ 31) {header plain : Nat → List U8} {txpn : Nat → BitVec 48}
    (fragments : ∀ index < attrib.nrFrags,
      FragmentAt attrib buffer (fragmentStart attrib pframe index) (fragmentSize attrib index)
        (header index) (wepIv (txpn index) security.dot11PrivacyKeyIndex) (plain index)) :
    ∃ sent, wepEncrypt security attrib pframe (some buffer) = some (some sent) ∧
      ∀ index < attrib.nrFrags, ∃ bytes,
        segment sent (fragmentStart attrib pframe index) (fragmentSize attrib index) = some bytes ∧
        ∀ frame, ReceivedWep attrib frame bytes →
          (WepRestored security frame (header index)
              (wepIv (txpn index) security.dot11PrivacyKeyIndex) (plain index) ↔
            security.KeysAgree (wepIv (txpn index) security.dot11PrivacyKeyIndex)
              ((plain index).length + 4)) := by
  obtain ⟨sent, ran, _, _, all⟩ := forFragments_exists
    (fun index inside => (fragments index inside).inPlace valid ivLen icvLen (by omega))
    attrib.nrFrags 0 (Nat.zero_add _) rfl fun _ _ _ => rfl
  rw [fragmentStart, ← wepEncryptFragments_eq] at ran
  refine ⟨sent, ?_, fun index inside => ⟨_, all index (Nat.zero_le _) inside, ?_⟩⟩
  · rw [wepEncrypt, if_pos wep]
    exact congrArg (Option.map some) ran
  · intro frame received
    have fragment := fragments index inside
    have size := fragment.sized
    have room := fragment.room
    exact wepRestored_iff valid (segment_length fragment.header) (by omega) received

def secondKey (lengths : Fin 4 → Nat) : SecurityPriv where
  dot11PrivacyKeyIndex := 1
  dot11DefKey _ := Vector.ofFn fun index => BitVec.ofNat 8 (index + 1)
  dot11DefKeylen := lengths

def oneFragment : XmitAttrib where
  encrypt := .wep104
  hdrlen := 24
  ivLen := 4
  icvLen := 4
  nrFrags := 1
  lastTxcmdsz := 33
  fragLen := 2346

def oneFragmentBuffer : List U8 :=
  List.replicate 24 0x08#8 ++ wepIv 7 1 ++ [0x55#8] ++ List.replicate 4 0

theorem oneFragmentBuffer_fragments (lengths : Fin 4 → Nat) : ∀ index < oneFragment.nrFrags,
    FragmentAt oneFragment oneFragmentBuffer (fragmentStart oneFragment 0 index)
      (fragmentSize oneFragment index) (List.replicate 24 0x08#8)
      (wepIv 7 (secondKey lengths).dot11PrivacyKeyIndex) [0x55#8] := by
  intro index inside
  obtain rfl : index = 0 := Nat.lt_one_iff.mp inside
  exact ⟨rfl, rfl, rfl, rfl, by decide⟩

theorem wep_roundTrip_iff_sameLengths :
    ∃ sent, wepEncrypt (secondKey fun _ => 13) oneFragment 0 (some oneFragmentBuffer) = some (some sent) ∧
      ∃ bytes, segment sent 0 33 = some bytes ∧ ∀ frame, ReceivedWep oneFragment frame bytes →
        WepRestored (secondKey fun _ => 13) frame (List.replicate 24 0x08#8) (wepIv 7 1) [0x55#8] := by
  obtain ⟨sent, ran, all⟩ := @wep_roundTrip_iff (secondKey fun _ => 13) oneFragment oneFragmentBuffer
    (fun _ => .inr (.inr rfl)) rfl rfl rfl 0 (by decide) (fun _ => List.replicate 24 0x08#8)
    (fun _ => [0x55#8]) (fun _ => 7) (oneFragmentBuffer_fragments _)
  obtain ⟨bytes, read, restored⟩ := all 0 (by decide)
  exact ⟨sent, ran, bytes, read, fun frame received => (restored frame received).mpr (.inl rfl)⟩

def receivedInBuffer (buffer : List U8) : RecvFrame where
  attrib := {
    amsdu := false, order := false, qos := false, toFrDs := 1, seqNum := 0, fragNum := 0
    mfrag := false, privacy := true, bdecrypted := false, hdrlen := 24, ivLen := 4, icvLen := 4
    encrypt := .wep104, priority := 0, dst := Vector.replicate 6 0, src := Vector.replicate 6 0
    ta := Vector.replicate 6 0, ra := Vector.replicate 6 0, bssid := Vector.replicate 6 0 }
  len := BitVec.ofNat 32 buffer.length
  buffer := buffer
  rxData := 0
  rxTail := buffer.length

/-- The first key has 5 bytes and the second one 13: a frame sent with the second is
decrypted with 5 bytes of it, and its ICV does not match. -/
theorem wep_roundTrip_fails :
    let security := secondKey fun index => if index = 0 then 5 else 13
    ∃ sent, wepEncrypt security oneFragment 0 (some oneFragmentBuffer) = some (some sent) ∧
      ReceivedWep oneFragment (receivedInBuffer sent) sent ∧
      ¬WepRestored security (receivedInBuffer sent) (List.replicate 24 0x08#8) (wepIv 7 1) [0x55#8] := by
  intro security
  have mismatch : ((wepEncrypt security oneFragment 0 (some oneFragmentBuffer)).bind fun sent =>
      sent.bind fun sent => (wepDecrypt security (receivedInBuffer sent)).map fun result =>
        (result.2, sent.length)) = some (false, 33) := by decide +kernel
  obtain ⟨encrypted, ran, decrypted⟩ := Option.bind_eq_some_iff.mp mismatch
  obtain ⟨sent, rfl, decrypted⟩ := Option.bind_eq_some_iff.mp decrypted
  obtain ⟨result, decryptRan, shown⟩ := Option.map_eq_some_iff.mp decrypted
  obtain ⟨mismatched, length⟩ := Prod.mk.inj shown
  have received : ReceivedWep oneFragment (receivedInBuffer sent) sent := by
    refine ⟨rfl, rfl, rfl, ?_⟩
    have len : (receivedInBuffer sent).len.toNat = sent.length := by
      rw [receivedInBuffer, length]
      rfl
    rw [RecvFrame.bytes, len]
    exact segment_all sent
  refine ⟨sent, ran, received, ?_⟩
  intro ⟨after, restored, _⟩
  rw [decryptRan, Option.some.injEq] at restored
  rw [restored] at mismatched
  contradiction

end Floid.Wifi
