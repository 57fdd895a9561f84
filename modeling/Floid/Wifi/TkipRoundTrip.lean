import Floid.Wifi.FragmentCipher
import Floid.Wifi.Tkip

namespace Floid.Wifi

open Osk Lib

variable {attrib : XmitAttrib} {buffer : List U8}

def tkipMixed (tk : Vector U8 16) (ta : MacAddr) (txpn : BitVec 48) : List U8 :=
  phase2 tk (phase1 tk ta ((txpn >>> 16).setWidth 32)) (txpn.setWidth 16)

/-- The published values for the temporal key 00 01 .. 0f and the counter 0. -/
example : tkipMixed (.ofFn fun index => BitVec.ofNat 8 index) #v[0x10, 0x22, 0x33, 0x44, 0x55, 0x66] 0 =
    [0x00, 0x20, 0x00, 0x33, 0xea, 0x8d, 0x2f, 0x60, 0xca, 0x6d, 0x13, 0x74, 0x23, 0x4a, 0x66, 0x0b] := by
  decide +kernel

theorem tkipIv_length (txpn : BitVec 48) (keyidx : U8) : (tkipIv txpn keyidx).length = 8 := rfl

variable (stale : U16)

theorem getTkipPn_tkipIv (txpn : BitVec 48) (keyidx : U8) :
    getTkipPn stale (tkipIv txpn keyidx) = stale ++ txpn := by
  simp only [getTkipPn, tkipIv, List.getD_cons_succ, List.getD_cons_zero]
  refine BitVec.eq_of_getLsbD_eq fun place inside => ?_
  simp only [BitVec.getLsbD_append, BitVec.getLsbD_setWidth, BitVec.getLsbD_ushiftRight]
  by_cases known : place < 48
  · rw [if_pos known]
    grind
  · grind

theorem tkipRc4key_tkipIv (tk : Vector U8 16) (ta : MacAddr) (txpn : BitVec 48)
    (keyidx : U8) : tkipRc4key stale tk ta (tkipIv txpn keyidx) = tkipMixed tk ta txpn := by
  have low : (stale ++ txpn).setWidth 16 = txpn.setWidth 16 := by
    refine BitVec.eq_of_getLsbD_eq fun place inside => ?_
    simp only [BitVec.getLsbD_append, BitVec.getLsbD_setWidth]
    grind
  have high : ((stale ++ txpn) >>> 16).setWidth 32 = (txpn >>> 16).setWidth 32 := by
    refine BitVec.eq_of_getLsbD_eq fun place inside => ?_
    simp only [BitVec.getLsbD_append, BitVec.getLsbD_setWidth, BitVec.getLsbD_ushiftRight]
    grind
  rw [tkipRc4key, tkipMixed, getTkipPn_tkipIv, low, high]

structure TkipFragmentAt (attrib : XmitAttrib) (buffer : List U8) (pframe size : Nat)
    (header iv plain : List U8) : Prop where
  header : segment buffer pframe attrib.hdrlen = some header
  iv : segment buffer (pframe + attrib.hdrlen) 8 = some iv
  sized : size = attrib.hdrlen + 8 + plain.length + 4
  plain : segment buffer (pframe + attrib.hdrlen + 8) plain.length = some plain
  room : pframe + size ≤ buffer.length

def tkipSent (rc4key header iv plain : List U8) : List U8 := header ++ iv ++ wepBody rc4key plain

theorem TkipFragmentAt.inPlace (ta : MacAddr) (tk : Vector U8 16)
    (ivLen : attrib.ivLen = 8) (icvLen : attrib.icvLen = 4) {pframe size : Nat}
    {header iv plain : List U8} (fragment : TkipFragmentAt attrib buffer pframe size header iv plain)
    (small : buffer.length < 2 ^ 32) :
    InPlace (tkipEncryptFragment stale ta attrib tk) buffer size pframe
      (tkipSent (tkipRc4key stale tk ta iv) header iv plain) := by
  intro current same_length same
  have sized := fragment.sized
  have room := fragment.room
  have headerRead := (same _ _ (Nat.le_refl _)).trans fragment.header
  have ivRead := (same _ _ (Nat.le_add_right _ _)).trans fragment.iv
  have plainRead := (same _ _ (by omega)).trans fragment.plain
  have length := payloadLength_toNat sized (by omega)
  have place : pframe + 8 + attrib.hdrlen = pframe + attrib.hdrlen + 8 := by omega
  obtain ⟨first, after, wroteFirst, wrote, afterLength, body, others⟩ :=
    @arcfourInPlace_exists current plain (pframe + attrib.hdrlen + 8) (tkipRc4key stale tk ta iv)
      (by omega)
  refine ⟨after, ?_, afterLength.trans same_length, ?_, fun start count apart => others _ _ (by omega)⟩
  · simp only [tkipEncryptFragment, ivRead, ivLen, icvLen, length, Option.bind_eq_bind,
      Option.bind_some, place, plainRead, wroteFirst, wrote]
  · have headerKept := (others _ _ (.inl (by omega))).trans headerRead
    have ivKept := (others _ _ (.inl (Nat.le_refl _))).trans ivRead
    rw [tkipSent, sized, Nat.add_assoc _ _ 4]
    exact segment_append (segment_append headerKept ivKept) body

theorem tkipEncryptFragments_eq (ta : MacAddr) (tk : Vector U8 16) (left pframe : Nat)
    (buffer : List U8) : tkipEncryptFragments stale ta attrib tk left pframe buffer =
      forFragments (tkipEncryptFragment stale ta attrib tk) attrib left pframe buffer := by
  induction left generalizing pframe buffer with
  | zero => rfl
  | succ left ih =>
    rw [tkipEncryptFragments, forFragments]
    simp only [ih]

structure ReceivedTkip (attrib : XmitAttrib) (ta : MacAddr) (frame : RecvFrame) (bytes : List U8) : Prop where
  tkip : frame.attrib.encrypt = .tkip
  hdrlen : frame.attrib.hdrlen = attrib.hdrlen
  ivLen : frame.attrib.ivLen = 8
  ta : frame.attrib.ta = ta
  unicast : isMcast frame.attrib.ra = false
  bytes : frame.bytes = some bytes

theorem tkipDecrypt_exists (stale : U16) (security : RxSecurity)
    {getStainfo : MacAddr → Option StaInfo} {stainfo : StaInfo} {ta : MacAddr}
    (station : getStainfo ta = some stainfo) {frame : RecvFrame} {header iv body : List U8} {count : Nat}
    (received : ReceivedTkip attrib ta frame (header ++ iv ++ body))
    (headerLength : header.length = attrib.hdrlen) (ivLength : iv.length = 8)
    (bodyLength : body.length = count + 4) (small : count < 2 ^ 31) :
    let plain := (arcfourEncrypt (arcfourInit (tkipRc4key stale stainfo.dot118021xUncstKey ta iv)) body).1
    ∃ after, tkipDecrypt stale security getStainfo frame =
        some (after, littleEndian (getcrc32 (plain.take count)) == plain.drop count) ∧
      after.bytes = some (header ++ iv ++ plain) := by
  intro plain
  have plainLength : plain.length = count + 4 := (applyStream_length _ _).trans bodyLength
  obtain ⟨length, checked, ivRead, bodyRead, written⟩ := receivedBody_exists received.bytes
    (headerLength.trans received.hdrlen.symm) (ivLength.trans received.ivLen.symm) bodyLength small
    rfl rfl
  obtain ⟨after, wrote, icvRead, bytes⟩ := written plain plainLength
  rw [received.ivLen] at ivRead
  have key : tkipPrwskey security stainfo frame.attrib.ra = some stainfo.dot118021xUncstKey := by
    rw [tkipPrwskey, received.unicast]
    rfl
  refine ⟨{ frame with buffer := after }, ?_, bytes⟩
  rw [tkipDecrypt, if_pos received.tkip, received.ta, station]
  dsimp only
  simp only [key, ivRead, length, bodyRead, Option.bind_eq_bind, Option.bind_some, checked]
  rw [show (arcfourEncrypt (arcfourInit (tkipRc4key stale stainfo.dot118021xUncstKey ta iv)) body).1 =
    plain from rfl, wrote, Option.bind_some, icvRead]
  rfl

theorem wepBody_decrypted (rc4key plain : List U8) :
    (arcfourEncrypt (arcfourInit rc4key) (wepBody rc4key plain)).1 = plain ++ littleEndian (getcrc32 plain) :=
  (applyStream_restores_iff _ _ _).mpr rfl

/-- The counter goes through the IV unchanged, so that both sides mix the same key for it. Every
fragment of a frame is encrypted with that key, and whoever has the temporal key for the
transmitter gets the payload back, with a check value that matches. -/
theorem tkip_roundTrip {stale : U16} {ta ra : MacAddr} {getStainfo : MacAddr → Option StaInfo}
    {psta : Option StaInfo} {stainfo : StaInfo} (known : (psta <|> getStainfo ra) = some stainfo)
    (tkip : attrib.encrypt = .tkip) (ivLen : attrib.ivLen = 8) (icvLen : attrib.icvLen = 4)
    {pframe : Nat} (small : buffer.length < 2 ^ 31) {header plain : Nat → List U8}
    {txpn : Nat → BitVec 48} {keyidx : U8}
    (fragments : ∀ index < attrib.nrFrags,
      TkipFragmentAt attrib buffer (fragmentStart attrib pframe index) (fragmentSize attrib index)
        (header index) (tkipIv (txpn index) keyidx) (plain index)) :
    (∀ (stale : U16) index, (getTkipPn stale (tkipIv (txpn index) keyidx)).setWidth 48 = txpn index ∧
      ∀ tk ta, tkipRc4key stale tk ta (tkipIv (txpn index) keyidx) = tkipMixed tk ta (txpn index)) ∧
    ∃ sent, tkipEncrypt stale ta attrib getStainfo psta ra pframe (some buffer) = some (true, some sent) ∧
      ∀ index < attrib.nrFrags, ∃ bytes,
        segment sent (fragmentStart attrib pframe index) (fragmentSize attrib index) = some bytes ∧
        bytes = tkipSent (tkipMixed stainfo.dot118021xUncstKey ta (txpn index)) (header index)
          (tkipIv (txpn index) keyidx) (plain index) ∧
        ∀ frame, ReceivedTkip attrib ta frame bytes →
          ∀ (stale : U16) (security : RxSecurity) (getStainfo : MacAddr → Option StaInfo) (peer : StaInfo),
            getStainfo ta = some peer → peer.dot118021xUncstKey = stainfo.dot118021xUncstKey →
            ∃ after, tkipDecrypt stale security getStainfo frame = some (after, true) ∧
              after.bytes = some (header index ++ tkipIv (txpn index) keyidx ++
                (plain index ++ littleEndian (getcrc32 (plain index)))) := by
  constructor
  · intro stale index
    refine ⟨?_, fun tk ta => tkipRc4key_tkipIv stale tk ta (txpn index) keyidx⟩
    rw [getTkipPn_tkipIv]
    exact BitVec.setWidth_append_eq_right
  · obtain ⟨sent, ran, _, _, all⟩ := forFragments_exists
      (fun index inside => (fragments index inside).inPlace stale ta stainfo.dot118021xUncstKey ivLen
        icvLen (by omega)) attrib.nrFrags 0 (Nat.zero_add _) rfl fun _ _ _ => rfl
    rw [fragmentStart, ← tkipEncryptFragments_eq] at ran
    refine ⟨sent, ?_, fun index inside => ⟨_, all index (Nat.zero_le _) inside, ?_, ?_⟩⟩
    · rw [tkipEncrypt, if_pos tkip, known]
      simp only [ran]
      rfl
    · rw [tkipRc4key_tkipIv]
    · intro frame received stale security getStainfo peer station sameKey
      have fragment := fragments index inside
      have sized := fragment.sized
      have room := fragment.room
      rw [tkipRc4key_tkipIv] at received
      obtain ⟨after, ran, bytes⟩ := tkipDecrypt_exists stale security station received
        (segment_length fragment.header) (tkipIv_length _ _) (wepBody_length _ _) (by omega)
      rw [sameKey, tkipRc4key_tkipIv, wepBody_decrypted] at ran bytes
      refine ⟨after, ?_, bytes⟩
      rw [ran, List.take_left, List.drop_left, beq_self_eq_true]

def tkipOneFragment : XmitAttrib where
  encrypt := .tkip
  hdrlen := 24
  ivLen := 8
  icvLen := 4
  nrFrags := 1
  lastTxcmdsz := 37
  fragLen := 2346

def tkipOneFragmentBuffer : List U8 :=
  List.replicate 24 0x08#8 ++ tkipIv 0xffff 0 ++ [0x55#8] ++ List.replicate 4 0

def tkipSta : StaInfo where
  ieee8021xBlocked := false
  dot118021xUncstKey := .ofFn fun index => BitVec.ofNat 8 index
  dot11tkiprxmickey := .replicate 16 0

theorem tkip_roundTrip_oneFragment :
    ∃ sent, tkipEncrypt 0 (.replicate 6 2) tkipOneFragment (fun _ => none) (some tkipSta)
        (.replicate 6 4) 0 (some tkipOneFragmentBuffer) = some (true, some sent) ∧
      ∃ bytes, segment sent 0 37 = some bytes ∧
        ∀ frame, ReceivedTkip tkipOneFragment (.replicate 6 2) frame bytes → ∀ security,
          ∃ after, tkipDecrypt 0x1234 security (fun _ => some tkipSta) frame = some (after, true) := by
  obtain ⟨_, sent, ran, all⟩ := @tkip_roundTrip tkipOneFragment tkipOneFragmentBuffer 0
    (.replicate 6 2) (.replicate 6 4) (fun _ => none) (some tkipSta) tkipSta rfl rfl rfl rfl 0
    (by decide) (fun _ => List.replicate 24 0x08#8) (fun _ => [0x55#8]) (fun _ => 0xffff) 0
    (fun index inside => by
      obtain rfl : index = 0 := Nat.lt_one_iff.mp inside
      exact ⟨rfl, rfl, rfl, rfl, by decide⟩)
  obtain ⟨bytes, read, _, restored⟩ := all 0 (by decide)
  refine ⟨sent, ran, bytes, read, fun frame received security => ?_⟩
  obtain ⟨after, decrypted, _⟩ := restored frame received 0x1234 security
    (fun _ => some tkipSta) tkipSta rfl rfl
  exact ⟨after, decrypted⟩

end Floid.Wifi
