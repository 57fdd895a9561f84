import Floid.Wifi.CcmpFrames
import Floid.Wifi.FragmentAgreement
import Floid.Wifi.TkipRoundTrip
import Floid.Wifi.WepRoundTrip

namespace Floid.Wifi

open Floid.Osk Floid.Lib SameOutside TxAttrib
open Option (bind_eq_bind bind_eq_some_iff map_map pure_def some.injEq)
open BitVec (ofNat)

def cipherStep (stale : U16) (priv : TxPriv) (psta : TxSta) (attrib : TxAttrib) :
    Option (Nat → Nat → List U8 → Option (List U8)) :=
  match attrib.encrypt with
  | .wep40 | .wep104 => some (wepEncryptFragment priv.security attrib.toXmitAttrib)
  | .tkip => some (tkipEncryptFragment stale attrib.ta attrib.toXmitAttrib psta.dot118021xUncstKey)
  | .aes => some (aesEncryptFragment psta.dot118021xUncstKey attrib.toXmitAttrib)
  | .noPrivacy | .tkipWtmic => none

variable {stale : U16} {priv : TxPriv} {psta : TxSta} {attrib : TxAttrib}

theorem xmitframeSwencrypt_eq {pframe : Nat} {buffer after : List U8}
    (ran : xmitframeSwencrypt stale priv psta attrib pframe buffer = some after)
    (runs : attrib.cipherRuns = true) : ∃ one, cipherStep stale priv psta attrib = some one ∧
      (fragmentSteps attrib.toXmitAttrib attrib.nrFrags pframe).foldlM
        (fun buffer step => one step.1 step.2 buffer) buffer = some after := by
  rw [cipherRuns, Bool.and_eq_true] at runs
  obtain ⟨swenc, cipher⟩ := runs
  rw [xmitframeSwencrypt, if_pos swenc] at ran
  unfold cipherStep
  cases encrypt : attrib.encrypt with
  | wep40 | wep104 =>
    simp only [encrypt, wepEncrypt, Privacy.isWep, if_true, map_map, Option.map_eq_some_iff] at ran
    obtain ⟨sealed, run, rfl⟩ := ran
    refine ⟨_, rfl, ?_⟩
    rw [← forFragments_eq, ← wepEncryptFragments_eq, run]
    rfl
  | tkip =>
    have known : tkipEncrypt stale attrib.ta attrib.toXmitAttrib (fun _ => none)
        (some psta.toStaInfo) attrib.ra pframe (some buffer) =
        (tkipEncryptFragments stale attrib.ta attrib.toXmitAttrib psta.dot118021xUncstKey
          attrib.nrFrags pframe buffer).map fun buffer => (true, some buffer) := if_pos encrypt
    simp only [encrypt, known, map_map, Option.map_eq_some_iff] at ran
    obtain ⟨sealed, run, rfl⟩ := ran
    refine ⟨_, rfl, ?_⟩
    rw [← forFragments_eq, ← tkipEncryptFragments_eq, run]
    rfl
  | aes =>
    simp only [encrypt, aesEncrypt, if_true] at ran
    refine ⟨_, rfl, ?_⟩
    rw [← forFragments_eq, ran]
  | noPrivacy | tkipWtmic => simp [encrypt, Privacy.isWep] at cipher

theorem xmitframeSwencrypt_eq_self {pframe : Nat} {buffer : List U8} (runs : ¬ attrib.cipherRuns = true) :
    xmitframeSwencrypt stale priv psta attrib pframe buffer = some buffer := by
  unfold xmitframeSwencrypt
  by_cases swenc : attrib.bswenc = true
  · rw [if_pos swenc]
    rw [cipherRuns, swenc, Bool.true_and] at runs
    cases encrypt : attrib.encrypt with
    | wep40 | wep104 | tkip | aes => exact absurd (by rw [encrypt]; rfl) runs
    | noPrivacy | tkipWtmic => rfl
  · rw [if_neg swenc]

section Ciphers

variable {stale : U16} {priv : TxPriv} {psta : TxSta} {attrib : TxAttrib} {buffer after : List U8}
  {size pframe : Nat} {one : Nat → Nat → List U8 → Option (List U8)}

theorem arcfourInPlace_sameOutside {first plain : List U8} {place : Nat} {rc4key : List U8}
    (wroteFirst : overwrite buffer place (arcfourEncrypt (arcfourInit rc4key) plain).1 = some first)
    (wrote : overwrite first (place + plain.length) (arcfourEncrypt (arcfourEncrypt (arcfourInit rc4key) plain).2
        (littleEndian (getcrc32 plain))).1 = some after) :
    SameOutside place (place + plain.length + 4) buffer after ∧ place + plain.length + 4 ≤ buffer.length := by
  have cipherLength : (arcfourEncrypt (arcfourInit rc4key) plain).1.length = plain.length :=
    applyStream_length _ _
  have crcLength : (arcfourEncrypt (arcfourEncrypt (arcfourInit rc4key) plain).2
      (littleEndian (getcrc32 plain))).1.length = 4 := applyStream_length _ _
  have inside := (overwrite_some wrote).1
  rw [overwrite_length wroteFirst, crcLength] at inside
  exact ⟨(overwrite_sameOutside wroteFirst (Nat.le_refl _) (by omega)).trans
    (overwrite_sameOutside wrote (by omega) (by omega)), inside⟩

variable {sized : XmitAttrib}

theorem wepEncryptFragment_sameOutside
    (ran : wepEncryptFragment priv.security sized size pframe buffer = some after) :
    ∃ last, last = pframe + sized.ivLen + sized.hdrlen + (ofNat 32 size -
      ofNat 32 sized.hdrlen - ofNat 32 sized.ivLen - ofNat 32 sized.icvLen).toNat +
        4 ∧ last ≤ buffer.length ∧ SameOutside pframe last buffer after := by
  simp only [wepEncryptFragment, bind_eq_bind, bind_eq_some_iff] at ran
  obtain ⟨iv, _, wepkey, _, plain, read, first, wroteFirst, wrote⟩ := ran
  rw [← segment_length read] at wrote ⊢
  obtain ⟨same, inside⟩ := arcfourInPlace_sameOutside wroteFirst wrote
  exact ⟨_, rfl, inside, same.mono (by omega) (Nat.le_refl _)⟩

theorem tkipEncryptFragment_sameOutside {ta : MacAddr} {key : Vector U8 16}
    (ran : tkipEncryptFragment stale ta sized key size pframe buffer = some after) :
    ∃ last, last = pframe + sized.ivLen + sized.hdrlen + (ofNat 32 size -
      ofNat 32 sized.hdrlen - ofNat 32 sized.ivLen - ofNat 32 sized.icvLen).toNat +
        4 ∧ last ≤ buffer.length ∧ SameOutside pframe last buffer after := by
  simp only [tkipEncryptFragment, bind_eq_bind, bind_eq_some_iff] at ran
  obtain ⟨iv, _, plain, read, first, wroteFirst, wrote⟩ := ran
  rw [← segment_length read] at wrote ⊢
  obtain ⟨same, inside⟩ := arcfourInPlace_sameOutside wroteFirst wrote
  exact ⟨_, rfl, inside, same.mono (by omega) (Nat.le_refl _)⟩

variable {count : Nat}

theorem sameOutside_behind {rest : List U8} {last : Nat} (inside : pframe ≤ buffer.length)
    (same : SameOutside 0 last (buffer.drop pframe) rest) :
    SameOutside pframe (pframe + last) buffer (buffer.take pframe ++ rest) := by
  have length := same.1
  have front : (buffer.take pframe).length = pframe := by
    rw [List.length_take]
    omega
  rw [List.length_drop] at length
  refine ⟨by rw [List.length_append, front]; omega, fun index outside => ?_⟩
  by_cases before : index < pframe
  · rw [List.getElem?_append_left (by omega), List.getElem?_take_of_lt before]
  · rw [List.getElem?_append_right (by omega), front, same.2 _ (by omega), List.getElem?_drop,
      Nat.add_sub_cancel' (by omega)]

theorem aesEncryptFragment_sameOutside {key : Block}
    (ran : aesEncryptFragment key sized size pframe buffer = some after) :
    ∃ high low : U8, buffer[pframe]? = some low ∧
      SameOutside pframe (pframe + ((ccmpShape (high ++ low) sized.hdrlen).hdrlen + 8 +
        (ofNat 32 size - ofNat 32 sized.hdrlen - ofNat 32 sized.ivLen -
          ofNat 32 sized.icvLen).toNat + 8)) buffer after := by
  simp only [aesEncryptFragment, aesCipher, aesCipherWith, frameControl, bind_eq_bind,
    bind_eq_some_iff, pure_def, some.injEq] at ran
  obtain ⟨sent, ⟨control, ⟨low, lowRead, high, _, rfl⟩, pn, _, sealed⟩, rfl⟩ := ran
  rw [List.getElem?_drop, Nat.add_zero] at lowRead
  have inside := (List.getElem?_eq_some_iff.mp lowRead).1
  exact ⟨high, low, lowRead, sameOutside_behind (by omega)
    ((ccmpSeal_sameOutside sealed).mono (Nat.zero_le _) (Nat.le_refl _))⟩

theorem cipherStep_behind (step : cipherStep stale priv psta attrib = some one)
    (ran : one size pframe buffer = some after) : SameOutside pframe buffer.length buffer after := by
  unfold cipherStep at step
  cases encrypt : attrib.encrypt with
  | wep40 | wep104 =>
    simp only [encrypt, some.injEq] at step
    subst step
    obtain ⟨last, _, inside, same⟩ := wepEncryptFragment_sameOutside ran
    exact same.mono (Nat.le_refl _) inside
  | tkip =>
    simp only [encrypt, some.injEq] at step
    subst step
    obtain ⟨last, _, inside, same⟩ := tkipEncryptFragment_sameOutside ran
    exact same.mono (Nat.le_refl _) inside
  | aes =>
    simp only [encrypt, some.injEq] at step
    subst step
    obtain ⟨_, _, _, same⟩ := aesEncryptFragment_sameOutside ran
    refine ⟨same.1, fun index outside => ?_⟩
    rcases outside with before | behind
    · exact same.2 index (.inl before)
    · rw [List.getElem?_eq_none (by rw [same.1]; exact behind), List.getElem?_eq_none behind]
  | noPrivacy | tkipWtmic => simp [encrypt] at step

theorem ccmpShape_updated (updated : attrib.Updated) (high : U8) :
    (ccmpShape (high ++ attrib.subtype) attrib.hdrlen).hdrlen = attrib.hdrlen := by
  rcases updated.header with ⟨subtype, hdrlen, _⟩ | ⟨subtype, hdrlen, _⟩ <;>
    rw [subtype, hdrlen] <;> revert high <;> decide

theorem cipherStep_within (updated : attrib.Updated) (control : buffer[pframe]? = some attrib.subtype)
    (sized : size = attrib.hdrlen + attrib.ivLen + count + attrib.icvLen) (small : size < 2 ^ 32)
    (step : cipherStep stale priv psta attrib = some one)
    (ran : one size pframe buffer = some after) : SameOutside pframe (pframe + size) buffer after := by
  have ivLen := updated.ivLen
  have icvLen := updated.icvLen
  have length := payloadLength_toNat sized small
  unfold cipherStep at step
  cases encrypt : attrib.encrypt with
  | wep40 | wep104 =>
    simp only [encrypt, some.injEq] at step icvLen
    subst step
    obtain ⟨last, lastIs, _, same⟩ := wepEncryptFragment_sameOutside ran
    rw [length] at lastIs
    exact same.mono (Nat.le_refl _) (by omega)
  | tkip =>
    simp only [encrypt, some.injEq] at step icvLen
    subst step
    obtain ⟨last, lastIs, _, same⟩ := tkipEncryptFragment_sameOutside ran
    rw [length] at lastIs
    exact same.mono (Nat.le_refl _) (by omega)
  | aes =>
    simp only [encrypt, some.injEq] at step icvLen ivLen
    subst step
    obtain ⟨high, low, lowRead, same⟩ := aesEncryptFragment_sameOutside ran
    obtain rfl : attrib.subtype = low := Option.some.inj (control.symm.trans lowRead)
    rw [length, ccmpShape_updated updated] at same
    exact same.mono (Nat.le_refl _) (by omega)
  | noPrivacy | tkipWtmic => simp [encrypt] at step

theorem fragmentSteps_behind {left : Nat} {step : Nat × Nat}
    (member : step ∈ fragmentSteps sized left pframe) : pframe ≤ step.2 := by
  induction left generalizing pframe with
  | zero => simp [fragmentSteps] at member
  | succ left ih =>
    rw [fragmentSteps] at member
    split at member
    · rw [List.mem_singleton.mp member]
    · rcases List.mem_cons.mp member with rfl | later
      · exact Nat.le_refl _
      · have next := rnd4_le (pframe + sized.fragLen)
        have behind := ih later
        omega

theorem foldlM_behind {steps : List (Nat × Nat)}
    (each : ∀ step ∈ steps, ∀ buffer after, one step.1 step.2 buffer = some after →
      SameOutside pframe buffer.length buffer after)
    (ran : steps.foldlM (fun buffer step => one step.1 step.2 buffer) buffer = some after) :
    SameOutside pframe buffer.length buffer after := by
  induction steps generalizing buffer with
  | nil =>
    cases ran
    exact refl ..
  | cons step rest ih =>
    rw [List.foldlM_cons, bind_eq_bind, bind_eq_some_iff] at ran
    obtain ⟨next, first, later⟩ := ran
    have same := each step (List.mem_cons_self ..) buffer next first
    have same_ := ih (fun other member => each other (List.mem_cons_of_mem _ member)) later
    exact same.trans (same_.mono (Nat.le_refl _) same.1.le)

theorem xmitframeSwencrypt_behind (ran : xmitframeSwencrypt stale priv psta attrib pframe buffer = some after) :
    SameOutside pframe buffer.length buffer after := by
  by_cases runs : attrib.cipherRuns = true
  · obtain ⟨one, step, folded⟩ := xmitframeSwencrypt_eq ran runs
    exact foldlM_behind (fun fragment member before next encrypted =>
      (cipherStep_behind step encrypted).mono (fragmentSteps_behind member) (Nat.le_refl _)) folded
  · rw [xmitframeSwencrypt_eq_self runs] at ran
    cases ran
    exact refl ..

end Ciphers

section Fragments

variable {attrib : TxAttrib} {buffer after : List U8} {memStart : Nat}

theorem setMFrag_sameOutside {more : Bool} (ran : setMFrag memStart more buffer = some after)
    {last : Nat} (back : memStart + 2 ≤ last) : SameOutside memStart last buffer after := by
  obtain ⟨length, _, others⟩ := setMFrag_some ran
  exact ⟨length, fun index outside => others index (by omega)⟩

theorem writeFragment_sameOutside {llc rest iv : List U8} {fragment : FragmentPlace}
    (hdrlen : 2 ≤ attrib.hdrlen) (ivLength : iv.length = attrib.ivLen)
    (ran : writeFragment attrib llc rest iv memStart buffer = some (fragment, after)) :
    SameOutside memStart (memStart + attrib.txcmdsz (llc ++ fragmentData attrib llc rest).length) buffer
      after := by
  simp only [writeFragment, bind_eq_bind, bind_eq_some_iff, pure_def, some.injEq, Prod.mk.injEq] at ran
  obtain ⟨marked, mark, withIv, wroteIv, withText, wroteText, last, wroteIcv, rfl, rfl⟩ := ran
  unfold txcmdsz
  refine (((setMFrag_sameOutside mark (by omega)).trans (overwrite_sameOutside wroteIv (by omega) (by omega))).trans
    (overwrite_sameOutside wroteText (by omega) (by omega))).trans
    (overwrite_sameOutside wroteIcv (by omega) ?_)
  rw [List.length_take]
  omega

theorem coalesceFragments_sameOutside {pbufStart left : Nat} {rest : List U8}
    {txpn txpnAfter : BitVec 64} {fragments : List FragmentPlace} (hdrlen : 2 ≤ attrib.hdrlen)
    (ivLength : ∀ txpn, (fragmentIv attrib txpn).1.length = attrib.ivLen)
    (all : rest.length ≤ attrib.pktlen) (done : PacketDone attrib (putSnap attrib.etherType) rest)
    (ran : coalesceFragments attrib pbufStart left 0 memStart rest txpn buffer = some (fragments, txpnAfter, after)) :
    SameOutside memStart (memStart + attrib.txcmdsz (8 + rest.length)) buffer after := by
  cases left with
  | zero => exact absurd ran (by simp [coalesceFragments])
  | succ left =>
    simp only [coalesceFragments, if_true, bind_eq_bind, bind_eq_some_iff] at ran
    obtain ⟨⟨fragment, wrote⟩, writing, ran⟩ := ran
    have written := writeFragment_sameOutside hdrlen (ivLength txpn) writing
    rw [done.fragmentData_eq all, List.length_append, putSnap_length] at written
    unfold PacketDone at done
    rw [if_pos done] at ran
    simp only [bind_eq_some_iff, pure_def, some.injEq, Prod.mk.injEq] at ran
    obtain ⟨cleared, clear, _, _, rfl⟩ := ran
    refine written.trans (setMFrag_sameOutside clear ?_)
    unfold txcmdsz
    omega

theorem addmicPlaces_behind {left payload : Nat} {place : Nat × Nat}
    (member : place ∈ addmicPlaces attrib left payload) : payload ≤ place.1 := by
  induction left generalizing payload with
  | zero => simp [addmicPlaces] at member
  | succ left ih =>
    have next := rnd4_le payload
    rw [addmicPlaces] at member
    split at member
    · rw [List.mem_singleton.mp member]
      omega
    · rcases List.mem_cons.mp member with rfl | later
      · dsimp only
        omega
      · have behind := ih later
        omega

theorem addmicPlaces_ne_nil {left payload : Nat} (some_ : left ≠ 0) :
    addmicPlaces attrib left payload ≠ [] := by
  cases left with
  | zero => exact absurd rfl some_
  | succ left =>
    rw [addmicPlaces]
    split <;> simp

theorem xmitframeAddmic_behind {pframe : Nat} {ok : Bool} {added : TxAttrib} (some_ : attrib.nrFrags ≠ 0)
    (ran : xmitframeAddmic priv psta attrib pframe buffer = some (ok, added, after)) :
    SameOutside pframe buffer.length buffer after := by
  rw [xmitframeAddmic] at ran
  split at ran
  · split at ran
    · cases ran
      exact refl ..
    · simp only [bind_eq_bind, bind_eq_some_iff, pure_def, some.injEq, Prod.mk.injEq] at ran
      obtain ⟨data, _, mic, _, wrote, overwritten, _, _, rfl⟩ := ran
      have filled := @addmicPlaces_ne_nil attrib attrib.nrFrags pframe some_
      rw [List.getLast?_eq_some_getLast filled, Option.map_some, Option.getD_some] at overwritten
      have behind := addmicPlaces_behind (List.getLast_mem filled)
      exact overwrite_sameOutside overwritten (Nat.le_trans behind (Nat.le_add_right ..))
        (overwrite_some overwritten).1
  · cases ran
    exact refl ..

end Fragments

section Coalesce

variable {stale : U16} {priv : TxPriv} {psta : TxSta} {attrib : TxAttrib} {pbufStart pktOffset : Nat}
  {pkt buffer : List U8}

theorem makeWlanhdr_length (priv : TxPriv) (psta : TxSta) (attrib : TxAttrib) :
    (makeWlanhdr priv psta attrib).2.length = wlanhdrOffset := by
  have unaddressed : (clearedHeader (attrib.subtype.setWidth 16) (List.replicate 18 0)).length = 64 :=
    clearedHeader_length _ (by simp)
  rw [makeWlanhdr]
  split
  · exact unaddressed
  · cases priv.addresses attrib with
    | none => exact unaddressed
    | some addresses =>
      rw [setSeqNum_length]
      split
      · rw [orWord_length, clearedHeader_length _ (by simp)]
        rfl
      · rw [clearedHeader_length _ (by simp)]
        rfl

theorem setSeqNum_behind {hdr : List U8} {index : Nat} (num : U16) (before : index < 22) :
    (setSeqNum hdr num)[index]? = hdr[index]? := by
  simp [setSeqNum, show ¬ 22 = index by omega, show ¬ 23 = index by omega]

theorem makeWlanhdr_subtype (updated : attrib.Updated) {header : List U8}
    (made : makeWlanhdr priv psta attrib = (true, header)) : header[0]? = some attrib.subtype := by
  rw [makeWlanhdr, if_neg updated.subtype] at made
  cases found : priv.addresses attrib with
  | none => simp [found] at made
  | some addresses =>
    obtain ⟨ds, addr1, addr2, addr3⟩ := addresses
    simp only [found, Prod.mk.injEq, true_and] at made
    have control : ∀ subtype : U8, (subtype.setWidth 16 ||| ds ||| (if attrib.mdata then 0x2000 else 0) |||
        (if attrib.encrypt = .noPrivacy then 0 else 0x4000) : U16).setWidth 8 = subtype := by
      have low : ds.setWidth 8 = (0 : U8) := by
        unfold TxPriv.addresses at found
        split at found <;> cases found <;> rfl
      intro subtype
      rw [BitVec.setWidth_or, BitVec.setWidth_or, BitVec.setWidth_or, low]
      split <;> split <;> simp
    have front : 2 ≤ attrib.hdrlen - 2 := by
      rcases updated.hdrlen with short | long <;> omega
    rw [← made]
    rw [setSeqNum_behind _ (by decide)]
    by_cases qos : priv.qosOption = true
    · rw [if_pos qos, orWord_behind _ (by omega)]
      exact congrArg some (control attrib.subtype)
    · rw [if_neg qos]
      exact congrArg some (control attrib.subtype)

variable {built coalesced : Coalesced} {added : TxAttrib}

theorem buildFragments_behind (updated : attrib.Updated)
    (ran : buildFragments priv psta attrib pbufStart pktOffset pkt buffer = some built) :
    SameOutside (pbufStart + txdescSize + pktOffset * packetOffsetSz) buffer.length buffer
      built.buffer := by
  simp only [buildFragments, bind_eq_bind, bind_eq_some_iff] at ran
  obtain ⟨headed, wroteHeader, ran⟩ := ran
  have first := overwrite_sameOutside wroteHeader (Nat.le_refl _) (overwrite_some wroteHeader).1
  split at ran
  · cases ran
    exact first
  · simp only [bind_eq_some_iff, pure_def, some.injEq] at ran
    obtain ⟨⟨fragments, txpn, looped⟩, loop, ⟨added, after, buffer_⟩, mic, rfl⟩ := ran
    have hdrlen : 2 ≤ attrib.hdrlen := by
      rcases updated.hdrlen with short | long <;> omega
    have written := @coalesceFragments_some { attrib with pktlen := (pkt.drop attrib.pktHdrlen).length }
      _ _ 0 _ _ _ _ _ _ _ hdrlen updated.fragmentIv_length (by omega) (Nat.le_refl _) (.inl rfl) loop
    have second : SameOutside (pbufStart + txdescSize + pktOffset * packetOffsetSz) headed.length headed
        looped := by
      refine ⟨written.length, fun index outside => ?_⟩
      rcases outside with before | behind
      · exact written.others index (by omega) (by omega)
      · rw [List.getElem?_eq_none (by rw [written.length]; exact behind), List.getElem?_eq_none behind]
    have third := xmitframeAddmic_behind (by
      obtain ⟨later, fragments, _⟩ := written.first
      rw [fragments]
      exact Nat.succ_ne_zero _) mic
    rw [second.1, first.1] at third
    rw [first.1] at second
    exact (first.trans second).trans third

theorem xmitframeCoalesce_behind {known : Option TxSta} (updated : attrib.Updated)
    (ran : xmitframeCoalesce stale priv known attrib (some pbufStart) pktOffset pkt buffer = some coalesced) :
    SameOutside (pbufStart + txdescSize + pktOffset * packetOffsetSz) buffer.length buffer
      coalesced.buffer := by
  cases known with
  | none =>
    cases ran
    exact refl ..
  | some sta =>
    simp only [xmitframeCoalesce, bind_eq_bind, bind_eq_some_iff] at ran
    obtain ⟨built, build, ran⟩ := ran
    have first := buildFragments_behind updated build
    split at ran
    · cases ran
      exact first
    · simp only [bind_eq_some_iff, pure_def, some.injEq] at ran
      obtain ⟨encrypted, sealed, rfl⟩ := ran
      have second := xmitframeSwencrypt_behind sealed
      rw [first.1] at second
      exact first.trans second

theorem buildFragments_made (updated : attrib.Updated) (addressed : (priv.addresses attrib).isSome = true)
    (ran : buildFragments priv psta attrib pbufStart pktOffset pkt buffer = some built) :
    ∃ header headed looped, makeWlanhdr priv psta attrib = (true, header) ∧
      overwrite buffer (pbufStart + txdescSize + pktOffset * packetOffsetSz) header = some headed ∧
      WrittenFragments (attrib.packed (pkt.drop attrib.pktHdrlen)) pbufStart
        (pbufStart + txdescSize + pktOffset * packetOffsetSz) (putSnap attrib.etherType)
        (pkt.drop attrib.pktHdrlen) (fragmentIv attrib psta.dot11txpn).1 headed built.fragments looped ∧
      (OneFragment attrib (pkt.drop attrib.pktHdrlen) → attrib.Threshold →
        SameOutside (pbufStart + txdescSize + pktOffset * packetOffsetSz)
          (pbufStart + txdescSize + pktOffset * packetOffsetSz +
            attrib.txcmdsz (8 + (pkt.drop attrib.pktHdrlen).length)) headed looped) ∧
      xmitframeAddmic priv psta ((attrib.packed (pkt.drop attrib.pktHdrlen)).fragmented built.fragments)
        (pbufStart + txdescSize + pktOffset * packetOffsetSz) looped =
          some (built.success, built.attrib, built.buffer) := by
  simp only [buildFragments, bind_eq_bind, bind_eq_some_iff] at ran
  obtain ⟨headed, wroteHeader, ran⟩ := ran
  have made : (makeWlanhdr priv psta attrib).1 = true := by
    rw [makeWlanhdr, if_neg updated.subtype]
    cases known : priv.addresses attrib with
    | none => simp [known] at addressed
    | some _ => rfl
  generalize madeIs : makeWlanhdr priv psta attrib = result at wroteHeader ran made
  obtain ⟨ok, header⟩ := result
  cases made
  simp only [Bool.not_true, Bool.false_eq_true, if_false, bind_eq_some_iff, pure_def, some.injEq] at ran
  obtain ⟨⟨fragments, txpn, looped⟩, loop, ⟨added, after, buffer_⟩, mic, rfl⟩ := ran
  have hdrlen : 2 ≤ attrib.hdrlen := by
    rcases updated.hdrlen with short | long <;> omega
  refine ⟨header, headed, looped, rfl, wroteHeader, ?_, fun one threshold => ?_, mic⟩
  · exact @coalesceFragments_some (attrib.packed _) _ _ 0 _ _ _ _ _ _ _ hdrlen
      updated.fragmentIv_length (by omega) (Nat.le_refl _) (.inl rfl) loop
  · exact @coalesceFragments_sameOutside (attrib.packed _) _ _ _ _ _ _ _ _ _ hdrlen
      updated.fragmentIv_length (Nat.le_refl _) ((packetDone_iff updated threshold _).mpr one) loop

variable {ok : Bool}

theorem xmitframeAddmic_success {pframe : Nat} {after : List U8}
    (ran : xmitframeAddmic priv psta attrib pframe buffer = some (ok, added, after)) :
    ok = true ↔ (attrib.encrypt = .tkip → txMickey priv psta attrib ≠ Vector.replicate 16 0) := by
  rw [xmitframeAddmic] at ran
  split at ran
  · rename_i tkip
    split at ran
    · rename_i missing
      cases ran
      simp [tkip, missing]
    · rename_i present
      simp only [bind_eq_bind, bind_eq_some_iff, pure_def, some.injEq, Prod.mk.injEq] at ran
      obtain ⟨_, _, _, _, _, _, rfl, _⟩ := ran
      exact iff_of_true rfl fun _ => present
  · rename_i other
    cases ran
    simp [other]

theorem xmitframeAddmic_cases {pframe : Nat} {after : List U8}
    (ran : xmitframeAddmic priv psta attrib pframe buffer = some (ok, added, after)) :
    added = { attrib with
        lastTxcmdsz := attrib.lastTxcmdsz +
          if attrib.encrypt = .tkip ∧ txMickey priv psta attrib ≠ Vector.replicate 16 0 then 8 else 0 } ∧
      (after = buffer ∨ attrib.encrypt = .tkip ∧ txMickey priv psta attrib ≠ Vector.replicate 16 0 ∧
          ∃ mic, mic.length = 8 ∧
            overwrite buffer (((addmicPlaces attrib attrib.nrFrags pframe).getLast?.map
              fun (place, length) => place + length).getD 0) mic = some after) := by
  cases ok with
  | true =>
    obtain ⟨attribIs, unsealed, sealed⟩ := xmitframeAddmic_some ran
    by_cases tkip : attrib.encrypt = .tkip
    · have key := (xmitframeAddmic_success ran).mp rfl tkip
      obtain ⟨data, mic, _, computed, overwritten⟩ := sealed tkip
      rw [attribIs, micLen, if_pos tkip, if_pos ⟨tkip, key⟩]
      exact ⟨rfl, .inr ⟨tkip, key, mic, seccalctkipmic_length computed, overwritten⟩⟩
    · rw [attribIs, micLen, if_neg tkip, if_neg fun both => tkip both.1]
      exact ⟨rfl, .inl (unsealed tkip)⟩
  | false =>
    have failed := mt (xmitframeAddmic_success ran).mpr (by simp)
    rw [Classical.not_imp, not_not] at failed
    obtain ⟨tkip, missing⟩ := failed
    rw [xmitframeAddmic, if_pos tkip, if_pos missing] at ran
    cases ran
    rw [if_neg fun both => both.2 missing]
    exact ⟨rfl, .inl rfl⟩

def TxAttrib.builtLength (priv : TxPriv) (psta : TxSta) (attrib : TxAttrib) (body : List U8) : Nat :=
  attrib.txcmdsz (8 + body.length) +
    if attrib.encrypt = .tkip ∧ txMickey priv psta attrib ≠ Vector.replicate 16 0 then 8 else 0

structure BuiltWithin (priv : TxPriv) (psta : TxSta) (attrib : TxAttrib) (memStart : Nat)
    (body before : List U8) (built : Coalesced) : Prop where
  fragments : built.fragments = [⟨memStart, memStart + attrib.hdrlen + attrib.ivLen, 8 + body.length⟩]
  attribIs : built.attrib = { attrib.packed body with
    nrFrags := 1
    lastTxcmdsz := attrib.builtLength priv psta body }
  within : SameOutside memStart (memStart + max wlanhdrOffset (attrib.builtLength priv psta body)) before
    built.buffer

theorem buildFragments_within (updated : attrib.Updated) (threshold : attrib.Threshold)
    (aligned : (pbufStart + txdescSize + pktOffset * packetOffsetSz) % 4 = 0)
    (one : OneFragment attrib (pkt.drop attrib.pktHdrlen))
    (addressed : (priv.addresses attrib).isSome = true)
    (ran : buildFragments priv psta attrib pbufStart pktOffset pkt buffer = some built) :
    BuiltWithin priv psta attrib (pbufStart + txdescSize + pktOffset * packetOffsetSz)
        (pkt.drop attrib.pktHdrlen) buffer built ∧
      built.buffer[pbufStart + txdescSize + pktOffset * packetOffsetSz]? = some attrib.subtype := by
  obtain ⟨header, headed, looped, made, wroteHeader, written, within, mic⟩ :=
    buildFragments_made updated addressed ran
  have fragments := written.single updated threshold one
  have looped_ := within one threshold
  generalize pbufStart + txdescSize + pktOffset * packetOffsetSz = memStart at *
  generalize pkt.drop attrib.pktHdrlen = body at *
  have length := makeWlanhdr_length priv psta attrib
  rw [made] at length
  dsimp only at length
  have front : SameOutside memStart (memStart + max wlanhdrOffset (attrib.builtLength priv psta body))
      buffer looped := by
    refine (overwrite_sameOutside wroteHeader (Nat.le_refl _) (by omega)).trans
      (looped_.mono (Nat.le_refl _) ?_)
    unfold builtLength
    omega
  have hdrlen := updated.hdrlen
  have control : looped[memStart]? = some attrib.subtype := by
    rw [written.others memStart (by change memStart < memStart + attrib.hdrlen; omega) (by omega),
      getElem?_overwrite wroteHeader, if_pos ⟨Nat.le_refl _, by rw [length, wlanhdrOffset]; omega⟩,
      Nat.sub_self, makeWlanhdr_subtype updated made]
  obtain ⟨attribIs, rest⟩ := xmitframeAddmic_cases mic
  have attribs : built.attrib = { attrib.packed body with
      nrFrags := 1
      lastTxcmdsz := attrib.builtLength priv psta body } := by
    rw [attribIs, fragments]
    rfl
  rcases rest with same | ⟨tkip, key, sealed, sealedLength, overwritten⟩
  · rw [same]
    exact ⟨⟨fragments, attribs, by rw [same]; exact front⟩, control⟩
  · rw [fragments] at overwritten
    change overwrite looped (((addmicPlaces _ 1 memStart).getLast?.map _).getD 0) sealed = _
      at overwritten
    rw [addmicPlaces_single attrib body aligned] at overwritten
    refine ⟨⟨fragments, attribs, front.trans ?_⟩, ?_⟩
    · refine overwrite_sameOutside overwritten ?_ ?_
      · change memStart ≤ memStart + attrib.hdrlen + attrib.ivLen + (8 + body.length)
        omega
      · change memStart + attrib.hdrlen + attrib.ivLen + (8 + body.length) + sealed.length ≤ _
        rw [sealedLength, builtLength, txcmdsz, if_pos ⟨tkip, key⟩]
        omega
    · rw [getElem?_overwrite overwritten, if_neg ?_]
      · exact control
      · change ¬ (memStart + attrib.hdrlen + attrib.ivLen + (8 + body.length) ≤ memStart ∧ _)
        omega

theorem xmitframeCoalesce_within (updated : attrib.Updated) (threshold : attrib.Threshold)
    (aligned : (pbufStart + txdescSize + pktOffset * packetOffsetSz) % 4 = 0)
    (one : OneFragment attrib (pkt.drop attrib.pktHdrlen))
    (addressed : (priv.addresses attrib).isSome = true)
    (small : attrib.builtLength priv psta (pkt.drop attrib.pktHdrlen) < 2 ^ 32)
    (ran : xmitframeCoalesce stale priv (some psta) attrib (some pbufStart) pktOffset pkt buffer = some coalesced) :
    BuiltWithin priv psta attrib (pbufStart + txdescSize + pktOffset * packetOffsetSz)
      (pkt.drop attrib.pktHdrlen) buffer coalesced := by
  simp only [xmitframeCoalesce, bind_eq_bind, bind_eq_some_iff] at ran
  obtain ⟨built, build, ran⟩ := ran
  obtain ⟨first, control⟩ := buildFragments_within updated threshold aligned one addressed build
  generalize pbufStart + txdescSize + pktOffset * packetOffsetSz = memStart at *
  generalize pkt.drop attrib.pktHdrlen = body at *
  split at ran
  · cases ran
    exact first
  · simp only [bind_eq_some_iff, pure_def, some.injEq] at ran
    obtain ⟨encrypted, sealed, rfl⟩ := ran
    refine ⟨first.fragments, first.attribIs, first.within.trans ?_⟩
    by_cases runs : built.attrib.cipherRuns = true
    · obtain ⟨cipher, step, folded⟩ := xmitframeSwencrypt_eq sealed runs
      rw [first.attribIs] at runs step folded
      have updated_ : Updated { attrib.packed body with
          nrFrags := 1
          lastTxcmdsz := attrib.builtLength priv psta body } := { updated with }
      have encryption : cipher (attrib.builtLength priv psta body) memStart built.buffer = some encrypted := by
        simpa [fragmentSteps] using folded
      have icvRoom : attrib.icvRoom = attrib.icvLen := @TxAttrib.icvRoom_of_cipherRuns attrib runs
      have sized : ∃ count, attrib.builtLength priv psta body =
          attrib.hdrlen + attrib.ivLen + count + attrib.icvLen := by
        refine ⟨8 + body.length + (attrib.builtLength priv psta body - attrib.txcmdsz (8 + body.length)), ?_⟩
        unfold builtLength txcmdsz
        omega
      obtain ⟨count, sized⟩ := sized
      exact (cipherStep_within updated_ control sized small step encryption).mono (Nat.le_refl _)
        (by omega)
    · rw [xmitframeSwencrypt_eq_self runs] at sealed
      cases sealed
      exact refl ..

end Coalesce

end Floid.Wifi
