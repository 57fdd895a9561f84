import Floid.Wifi.FragmentLayout

namespace Floid.Wifi

open Osk Lib
open List (append_nil getElem_cons_zero length_append length_drop map_cons)
open Option (bind_eq_bind bind_eq_some_iff bind_some map_eq_some_iff pure_def some.inj some.injEq)
open BitVec (ofNat)

/-- What `update_attrib` makes of a header, a cipher and its lengths. -/
structure TxAttrib.Updated (attrib : TxAttrib) : Prop where
  header : attrib.subtype = 0x08 ∧ attrib.hdrlen = 24 ∧ attrib.priority = 0 ∨
    attrib.subtype = 0x88 ∧ attrib.hdrlen = 26 ∧ attrib.priority < 8
  ivLen : attrib.ivLen =
    match attrib.encrypt with
    | .wep40 | .wep104 => 4
    | .tkip | .aes => 8
    | .noPrivacy | .tkipWtmic => 0
  icvLen : attrib.icvLen =
    match attrib.encrypt with
    | .wep40 | .wep104 | .tkip => 4
    | .aes => 8
    | .noPrivacy | .tkipWtmic => 0
  bswenc : attrib.bswenc = true → attrib.encrypt ≠ .noPrivacy

section Places

variable (attrib : XmitAttrib)

def fragmentSteps : Nat → Nat → List (Nat × Nat)
  | 0, _ => []
  | left + 1, pframe =>
      if left = 0 then [(attrib.lastTxcmdsz, pframe)]
      else (attrib.fragLen, pframe) :: fragmentSteps left (rnd4 (pframe + attrib.fragLen))

def cipherPlaces (pframe : Nat) : List (Nat × Nat) :=
  (fragmentSteps attrib attrib.nrFrags pframe).map fun (size, start) =>
    (start + attrib.hdrlen + attrib.ivLen, size - attrib.hdrlen - attrib.ivLen - attrib.icvLen)

theorem forFragments_eq (one : Nat → Nat → List U8 → Option (List U8)) (left pframe : Nat)
    (buffer : List U8) : forFragments one attrib left pframe buffer =
      (fragmentSteps attrib left pframe).foldlM (fun buffer step => one step.1 step.2 buffer) buffer := by
  induction left generalizing pframe buffer with
  | zero => rfl
  | succ left ih =>
    rw [forFragments, fragmentSteps]
    split
    · simp
    · simp only [List.foldlM_cons, ih]

end Places

def TxAttrib.cipherRuns (attrib : TxAttrib) : Bool :=
  attrib.bswenc && (attrib.encrypt.isWep || attrib.encrypt = .tkip || attrib.encrypt = .aes)

def withMic (mic : Nat) : List (Nat × Nat) → List (Nat × Nat)
  | [] => []
  | [(place, count)] => [(place, count + mic)]
  | first :: rest => first :: withMic mic rest

def TxAttrib.micLen (attrib : TxAttrib) : Nat := if attrib.encrypt = .tkip then 8 else 0

def Coalesced.sealedPlaces (built : Coalesced) : List (Nat × Nat) :=
  withMic built.attrib.micLen (built.fragments.map FragmentPlace.text)

structure ReceivedFragment (priv : TxPriv) (attrib : TxAttrib) (buffer : List U8)
    (place : Nat × Nat) (frame : RecvFrame) : Prop where
  laidOut : frame.LaidOut
  bytes : ∃ sent icv, segment buffer (place.1 - attrib.ivLen - attrib.hdrlen)
      (attrib.hdrlen + attrib.ivLen + place.2) = some sent ∧
    icv.length = attrib.icvLen ∧ frame.bytes = some (sent ++ icv)
  fragNum : fragNumAt buffer (place.1 - attrib.ivLen - attrib.hdrlen) = some frame.attrib.fragNum
  mfrag : moreFragAt buffer (place.1 - attrib.ivLen - attrib.hdrlen) = some frame.attrib.mfrag
  hdrlen : frame.attrib.hdrlen = attrib.hdrlen
  ivLen : frame.attrib.ivLen = attrib.ivLen
  icvLen : frame.attrib.icvLen = attrib.icvLen
  encrypt : frame.attrib.encrypt = attrib.encrypt
  ra : frame.attrib.ra = attrib.ra
  priority : frame.attrib.priority = micPriority priv attrib

def MicKeyShared (security : RxSecurity) (psta : StaInfo) (attrib : TxAttrib) (mickey : Vector U8 16) : Prop :=
  if isMcast attrib.ra then
    security.binstallGrpkey = true ∧ security.dot118021XGrprxmickey = mickey
  else psta.dot11tkiprxmickey = mickey

def receiveFragments (security : RxSecurity) (psta : StaInfo) :
    Option (List RecvUnion) → List RecvUnion → Option (Option RecvUnion)
  | _, [] => some none
  | pdefragQ, [last] =>
      (recvframeChkDefrag security (some psta) pdefragQ last).map DefragResult.returned
  | pdefragQ, frame :: rest => do
      let result ← recvframeChkDefrag security (some psta) pdefragQ frame
      receiveFragments security psta result.defragQ rest

def RoomBehindFirst : List RecvUnion → Prop
  | [] => True
  | first :: rest =>
      first.hdr.rxTail + (rest.map fun frame => frame.hdr.len.toNat).sum ≤ first.hdr.buffer.length

structure LayoutAgrees (bulkSize : Nat) (swEncrypt : Bool) (priv : TxPriv) (psta : TxSta)
    (pbufStart pktOffset : Nat) (body : List U8) (built : Coalesced) : Prop where
  numbers : ∀ (k : Nat) (inside : k < built.fragments.length),
    fragNumAt built.buffer built.fragments[k].start = some (ofNat 8 k)
  more : ∀ (k : Nat) (inside : k < built.fragments.length),
    moreFragAt built.buffer built.fragments[k].start = some (decide (k + 1 < built.fragments.length))
  addmic : built.attrib.encrypt = .tkip →
    addmicPlaces (built.attrib.fragmented built.fragments) built.fragments.length
      (pbufStart + txdescSize + pktOffset * packetOffsetSz) = built.fragments.map FragmentPlace.text
  cipher : built.attrib.cipherRuns = true →
    cipherPlaces built.attrib.toXmitAttrib (pbufStart + txdescSize + pktOffset * packetOffsetSz) =
      built.sealedPlaces
  dumped : pktOffset = 1 →
    (dumpXframe bulkSize swEncrypt built.attrib.toXmitAttrib pbufStart).map
        (fun dumped => (dumped.mpdu, dumped.sz)) =
      built.sealedPlaces.map fun place => (place.1 - built.attrib.ivLen - built.attrib.hdrlen,
        built.attrib.txcmdsz place.2)
  payload : ∃ mic, segments built.buffer built.sealedPlaces =
      some (putSnap built.attrib.etherType ++ body ++ mic) ∧ mic.length = built.attrib.micLen ∧
    (built.attrib.encrypt = .tkip → seccalctkipmic (txMickey priv psta built.attrib)
      (built.buffer.drop (pbufStart + txdescSize + pktOffset * packetOffsetSz))
      (putSnap built.attrib.etherType ++ body) (micPriority priv built.attrib) = some mic)
  recovered : ∀ (security : RxSecurity) (rxSta : StaInfo) (frames : List RecvUnion),
    MicKeyShared security rxSta built.attrib (txMickey priv psta built.attrib) →
    List.Forall₂ (fun place frame => ReceivedFragment priv built.attrib built.buffer place frame.hdr ∧
      frame.hdr.attrib.privacy = decide (built.attrib.encrypt ≠ .noPrivacy))
      built.sealedPlaces frames → RoomBehindFirst frames →
    ∃ returned, receiveFragments security rxSta (some []) frames = some (some returned) ∧
      returned.hdr.payload = putSnap built.attrib.etherType ++ body

variable {priv : TxPriv} {psta : TxSta} {attrib : TxAttrib}

theorem TxAttrib.Updated.fragmentIv_length (updated : attrib.Updated) (txpn : BitVec 64) :
    (fragmentIv attrib txpn).1.length = attrib.ivLen := by
  have length := updated.ivLen
  unfold fragmentIv drawIv
  cases encrypt : attrib.encrypt <;> simp only [encrypt] at length <;> rw [length] <;> rfl

theorem TxAttrib.Updated.hdrlen (updated : attrib.Updated) : attrib.hdrlen = 24 ∨ attrib.hdrlen = 26 := by
  rcases updated.header with ⟨_, short, _⟩ | ⟨_, long, _⟩
  · exact .inl short
  · exact .inr long

theorem TxAttrib.Updated.subtype (updated : attrib.Updated) : attrib.subtype &&& 0x08 ≠ 0 := by
  rcases updated.header with ⟨subtype, _⟩ | ⟨subtype, _⟩ <;> rw [subtype] <;> decide

variable {addresses hdr : List U8}

theorem clearedHeader_length (control : U16) (length : addresses.length = 18) :
    (clearedHeader control addresses).length = 64 := by
  simp [clearedHeader, length]

theorem clearedHeader_seqControl (control : U16) (length : addresses.length = 18) :
    (clearedHeader control addresses)[22]? = some 0 := by
  rw [clearedHeader, List.getElem?_append_right (by simp [length])]
  simp [length]

theorem orWord_length (hdr : List U8) (place : Nat) (word : U16) :
    (orWord hdr place word).length = hdr.length := by
  simp [orWord]

theorem orWord_at {place : Nat} (word : U16) (read : hdr[place]? = some 0) :
    (orWord hdr place word)[place]? = some (word.setWidth 8) := by
  simp [orWord, read]

theorem orWord_behind {place index : Nat} (word : U16) (before : index < place) :
    (orWord hdr place word)[index]? = hdr[index]? := by
  simp [orWord, show ¬ place = index by omega, show ¬ place + 1 = index by omega]

theorem setSeqNum_length (hdr : List U8) (num : U16) : (setSeqNum hdr num).length = hdr.length := by
  simp [setSeqNum]

theorem shifted_fragNum (num : U16) : ((num <<< 4).setWidth 8 : U8) &&& 0x0f = 0 := by
  apply BitVec.eq_of_toNat_eq
  have masked := Nat.and_two_pow_sub_one_eq_mod ((num <<< 4).setWidth 8 : U8).toNat 4
  rw [BitVec.toNat_and]
  change ((num <<< 4).setWidth 8 : U8).toNat &&& (2 ^ 4 - 1) = 0
  rw [masked, BitVec.toNat_setWidth, BitVec.toNat_shiftLeft, Nat.shiftLeft_eq]
  omega

theorem setSeqNum_fragNum {byte : U8} (num : U16) (read : hdr[22]? = some byte) :
    ((setSeqNum hdr num)[22]?).map (· &&& 0x0f) = some (byte &&& 0x0f) := by
  have modified : (setSeqNum hdr num)[22]? = some (byte &&& 0x0f#8 ||| (num <<< 4).setWidth 8) := by
    simp [setSeqNum, read]
  rw [modified, Option.map_some, BitVec.and_or_distrib_right, shifted_fragNum, BitVec.and_assoc]
  exact congrArg some BitVec.or_zero

theorem qosControl_fragNum (priority ackPolicy : U8) (eosp : Bool) (none_ : priority = 0) :
    (((priority &&& 0xf).setWidth 16 ||| (if eosp then 0x10 else 0) |||
      (ackPolicy &&& 3).setWidth 16 <<< 5 : U16).setWidth 8 : U8) &&& 0x0f = 0 := by
  rw [none_]
  cases eosp <;> revert ackPolicy <;> decide

theorem makeWlanhdr_fragNum (updated : attrib.Updated) {header : List U8}
    (made : makeWlanhdr priv psta attrib = (true, header)) :
    header.length = 64 ∧ (header[22]?).map (· &&& 0x0f) = some 0 := by
  rw [makeWlanhdr, if_neg updated.subtype] at made
  cases found : priv.addresses attrib with
  | none => simp [found] at made
  | some addresses =>
    obtain ⟨ds, addr1, addr2, addr3⟩ := addresses
    simp only [found, Prod.mk.injEq, true_and] at made
    have length : (addr1.toList ++ addr2.toList ++ addr3.toList).length = 18 := by simp
    rw [← made]
    constructor
    · rw [setSeqNum_length]
      split
      · rw [orWord_length, clearedHeader_length _ length]
      · exact clearedHeader_length _ length
    · split
      · have cleared := clearedHeader_seqControl
          (attrib.subtype.setWidth 16 ||| ds ||| (if attrib.mdata then 0x2000 else 0) |||
            (if attrib.encrypt = .noPrivacy then 0 else 0x4000)) length
        rcases updated.header with ⟨_, short, priority⟩ | ⟨_, long, _⟩
        · rw [short, setSeqNum_fragNum _ (orWord_at _ cleared), qosControl_fragNum _ _ _ priority]
        · rw [long, setSeqNum_fragNum _ ((orWord_behind _ (by decide)).trans cleared)]
          rfl
      · rw [setSeqNum_fragNum _ (clearedHeader_seqControl _ length)]
        rfl

def TxAttrib.packed (attrib : TxAttrib) (body : List U8) : TxAttrib :=
  { attrib with pktlen := body.length }

structure BuiltFrom (priv : TxPriv) (psta : TxSta) (attrib : TxAttrib) (pbufStart memStart : Nat)
    (body buffer : List U8) (built : Coalesced) (headed looped : List U8) : Prop where
  header : ∃ header, makeWlanhdr priv psta attrib = (true, header) ∧
    overwrite buffer memStart header = some headed
  written : WrittenFragments (attrib.packed body) pbufStart memStart (putSnap attrib.etherType) body
    (fragmentIv attrib psta.dot11txpn).1 headed built.fragments looped
  added : xmitframeAddmic priv psta ((attrib.packed body).fragmented built.fragments) memStart looped =
    some (true, built.attrib, built.buffer)

theorem buildFragments_some {pbufStart pktOffset : Nat} {pkt buffer : List U8} {built : Coalesced}
    (updated : attrib.Updated)
    (ran : buildFragments priv psta attrib pbufStart pktOffset pkt buffer = some built)
    (success : built.success = true) :
    ∃ headed looped, BuiltFrom priv psta attrib pbufStart
      (pbufStart + txdescSize + pktOffset * packetOffsetSz) (pkt.drop attrib.pktHdrlen) buffer built
      headed looped := by
  simp only [buildFragments, bind_eq_bind, bind_eq_some_iff] at ran
  obtain ⟨headed, wroteHeader, ran⟩ := ran
  generalize madeIs : makeWlanhdr priv psta attrib = made at wroteHeader ran
  obtain ⟨made, header⟩ := made
  cases made with
  | false =>
    cases ran
    cases success
  | true =>
    simp only [Bool.not_true, Bool.false_eq_true, if_false, bind_eq_some_iff, pure_def, some.injEq] at ran
    obtain ⟨⟨fragments, txpn, looped⟩, loop, ⟨added, after, buffer_⟩, mic, rfl⟩ := ran
    have hdrlen : 2 ≤ attrib.hdrlen := by
      rcases updated.hdrlen with short | long <;> omega
    refine ⟨headed, looped, ⟨header, madeIs, wroteHeader⟩, ?_, ?_⟩
    · exact @coalesceFragments_some (attrib.packed _) _ _ 0 _ _ _ _ _ _ _ hdrlen
        updated.fragmentIv_length (by omega) (Nat.le_refl _) (.inl rfl) loop
    · rw [show added = true from success] at mic
      exact mic

theorem xmitframeAddmic_some {pframe : Nat} {buffer after : List U8} {added : TxAttrib}
    (ran : xmitframeAddmic priv psta attrib pframe buffer = some (true, added, after)) :
    added = { attrib with lastTxcmdsz := attrib.lastTxcmdsz + attrib.micLen } ∧
      (attrib.encrypt ≠ .tkip → after = buffer) ∧
      (attrib.encrypt = .tkip → ∃ data mic, segments buffer (addmicPlaces attrib attrib.nrFrags pframe) = some data ∧
        seccalctkipmic (txMickey priv psta attrib) (buffer.drop pframe) data
          (micPriority priv attrib) = some mic ∧
        overwrite buffer (((addmicPlaces attrib attrib.nrFrags pframe).getLast?.map
          fun (place, length) => place + length).getD 0) mic = some after) := by
  rw [xmitframeAddmic] at ran
  split at ran
  · rename_i tkip
    split at ran
    · cases ran
    · simp only [bind_eq_bind, bind_eq_some_iff, pure_def, some.injEq, Prod.mk.injEq, true_and] at ran
      obtain ⟨data, read, mic, computed, wrote, overwritten, rfl, rfl⟩ := ran
      refine ⟨by rw [TxAttrib.micLen, if_pos tkip], fun other => absurd tkip other, fun _ => ?_⟩
      exact ⟨data, mic, read, computed, overwritten⟩
  · rename_i other
    cases ran
    exact ⟨by rw [TxAttrib.micLen, if_neg other]; rfl, fun _ => rfl, fun tkip => absurd tkip other⟩

def TxAttrib.fragmentRoom (attrib : TxAttrib) : Nat :=
  attrib.fragLen - 4 - attrib.hdrlen - attrib.ivLen - attrib.icvRoom

def OneFragment (attrib : TxAttrib) (body : List U8) : Prop :=
  isMcast attrib.ra ∨ 8 + body.length ≤ attrib.fragmentRoom

def TxAttrib.Threshold (attrib : TxAttrib) : Prop := 256 ≤ attrib.fragLen ∧ attrib.fragLen ≤ 2346

theorem TxAttrib.Updated.overhead_le (updated : attrib.Updated) :
    attrib.hdrlen + attrib.ivLen + attrib.icvRoom ≤ 42 := by
  have header := updated.hdrlen
  have iv := updated.ivLen
  have icv := updated.icvLen
  unfold TxAttrib.icvRoom
  cases encrypt : attrib.encrypt <;> simp only [encrypt] at iv icv <;> split <;> omega

theorem fragmentData_length (updated : attrib.Updated) (threshold : attrib.Threshold)
    (single : ¬ isMcast attrib.ra) {body llc : List U8} (short : llc.length ≤ 8) (rest : List U8) :
    (fragmentData (attrib.packed body) llc rest).length =
      min (attrib.fragmentRoom - llc.length) rest.length := by
  have overhead := updated.overhead_le
  have low := threshold.1
  have room : attrib.fragmentRoom = attrib.fragLen - 4 - attrib.hdrlen - attrib.ivLen -
    attrib.icvRoom := rfl
  have length : (attrib.packed body).mpduLen llc.length = (attrib.fragmentRoom - llc.length : Nat) := by
    change (attrib.fragLen : Int) - 4 - attrib.hdrlen - attrib.ivLen - llc.length - attrib.icvRoom = _
    omega
  have single_ : ¬ isMcast (attrib.packed body).ra = true := single
  rw [fragmentData, if_neg single_, length, pktfileRead, if_neg (by omega), List.length_take, Int.toNat_natCast]

theorem putSnap_length (hProto : U16) : (putSnap hProto).length = 8 := by
  simp only [putSnap]
  split <;> rfl

theorem fragmentRoom_ge (updated : attrib.Updated) (threshold : attrib.Threshold) :
    210 ≤ attrib.fragmentRoom := by
  have overhead := updated.overhead_le
  have low := threshold.1
  unfold TxAttrib.fragmentRoom
  omega

theorem packetDone_iff (updated : attrib.Updated) (threshold : attrib.Threshold) (body : List U8) :
    PacketDone (attrib.packed body) (putSnap attrib.etherType) body ↔ OneFragment attrib body := by
  by_cases group : isMcast attrib.ra
  · exact iff_of_true (.inl group) (.inl group)
  · have room := fragmentRoom_ge updated threshold
    have length := @fragmentData_length attrib updated threshold group body _
      (putSnap_length attrib.etherType).le body
    rw [putSnap_length] at length
    unfold PacketDone OneFragment
    rw [List.drop_eq_nil_iff, length]
    constructor
    · rintro (other | short)
      · exact absurd other group
      · exact .inr (by omega)
    · rintro (other | short)
      · exact absurd other group
      · exact .inr (by omega)

section Built

variable {pbufStart memStart : Nat} {body buffer headed looped : List U8} {built : Coalesced}

variable {fragments : List FragmentPlace} {mic : List U8} {frame : RecvFrame} {rxSta : StaInfo}
    {security : RxSecurity} {bulkSize pktOffset : Nat} {swEncrypt : Bool}

theorem WrittenFragments.single {iv after : List U8}
    (written : WrittenFragments (attrib.packed body) pbufStart memStart (putSnap attrib.etherType) body iv
      buffer fragments after) (updated : attrib.Updated) (threshold : attrib.Threshold)
    (one : OneFragment attrib body) :
    fragments = [⟨memStart, memStart + attrib.hdrlen + attrib.ivLen, 8 + body.length⟩] := by
  obtain ⟨later, fragments, ends, _⟩ := written.first
  have done := (packetDone_iff updated threshold body).mpr one
  rw [ends.mpr done, done.fragmentData_eq (Nat.le_refl _), length_append, putSnap_length] at fragments
  exact fragments

theorem BuiltFrom.single (from_ : BuiltFrom priv psta attrib pbufStart memStart body buffer built headed
      looped) (updated : attrib.Updated) (threshold : attrib.Threshold)
    (one : OneFragment attrib body) :
    built.fragments = [⟨memStart, memStart + attrib.hdrlen + attrib.ivLen, 8 + body.length⟩] :=
  from_.written.single updated threshold one

theorem BuiltFrom.several (from_ : BuiltFrom priv psta attrib pbufStart memStart body buffer built
      headed looped) (updated : attrib.Updated) (threshold : attrib.Threshold)
    (several : ¬ OneFragment attrib body) : ∃ next further, built.fragments =
      ⟨memStart, memStart + attrib.hdrlen + attrib.ivLen, attrib.fragmentRoom⟩ :: next :: further := by
  obtain ⟨later, fragments, ends, _⟩ := from_.written.first
  have goesOn := mt (packetDone_iff updated threshold body).mp several
  unfold OneFragment at several
  rw [not_or] at several
  have room := fragmentRoom_ge updated threshold
  rw [length_append, fragmentData_length updated threshold several.1 (putSnap_length _).le,
    putSnap_length, Nat.min_eq_left (by omega), show 8 + (attrib.fragmentRoom - 8) =
      attrib.fragmentRoom by omega] at fragments
  cases later with
  | nil => exact absurd (ends.mp rfl) goesOn
  | cons next further => exact ⟨next, further, fragments⟩

theorem BuiltFrom.header_number
    (from_ : BuiltFrom priv psta attrib pbufStart memStart body buffer built headed looped)
    (updated : attrib.Updated) : fragNumAt looped memStart = some 0 := by
  obtain ⟨header, made, wroteHeader⟩ := from_.header
  obtain ⟨headerLength, headerNumber⟩ := makeWlanhdr_fragNum updated made
  have hdrlen := updated.hdrlen
  rw [fragNumAt, from_.written.others _ (by change _ < memStart + attrib.hdrlen; omega) (by omega),
    getElem?_overwrite wroteHeader, if_pos (by omega), Nat.add_sub_cancel_left, headerNumber]

theorem rnd4_of_mod {place : Nat} (aligned : place % 4 = 0) : rnd4 place = place := by
  unfold rnd4
  rw [if_pos aligned]
  omega

theorem seccalctkipmic_congr (key : Vector U8 16) {first second : List U8} (data : List U8) (pri : U8)
    (long : 30 ≤ first.length) (long_ : 30 ≤ second.length)
    (same : ∀ index < 30, first[index]? = second[index]?) :
    seccalctkipmic key first data pri = seccalctkipmic key second data pri := by
  have segments_ : ∀ start count, start + count ≤ 30 → segment first start count =
      segment second start count := by
    intro start count inside
    rw [segment_of_le (show start + count ≤ first.length by omega),
      segment_of_le (show start + count ≤ second.length by omega)]
    refine congrArg some (List.ext_getElem? fun index => ?_)
    by_cases small : index < count
    · rw [List.getElem?_take_of_lt small, List.getElem?_take_of_lt small, List.getElem?_drop,
        List.getElem?_drop, same _ (by omega)]
    · rw [List.getElem?_eq_none (by simp; omega), List.getElem?_eq_none (by simp; omega)]
  unfold seccalctkipmic
  rw [same 1 (by omega)]
  cases second[1]? with
  | none => rfl
  | some control1 =>
    simp only [bind_eq_bind, bind_some]
    rw [segments_ (if control1 &&& 1 ≠ 0 then 16 else 4) 6 (by split <;> omega),
      segments_ (if control1 &&& 2 ≠ 0 then if control1 &&& 1 ≠ 0 then 24 else 16 else 10) 6
        (by split <;> [split; skip] <;> omega)]

theorem seccalctkipmic_length {key : Vector U8 16} {header data : List U8} {pri : U8}
    (computed : seccalctkipmic key header data pri = some mic) : mic.length = 8 := by
  simp only [seccalctkipmic, bind_eq_bind, bind_eq_some_iff, pure_def, some.injEq] at computed
  obtain ⟨_, _, _, _, _, _, rfl⟩ := computed
  rfl

theorem addmicPlaces_single (attrib : TxAttrib) (body : List U8) (aligned : memStart % 4 = 0) :
    addmicPlaces ((attrib.packed body).fragmented
        [⟨memStart, memStart + attrib.hdrlen + attrib.ivLen, 8 + body.length⟩]) 1 memStart =
      [(memStart + attrib.hdrlen + attrib.ivLen, 8 + body.length)] := by
  have length : attrib.txcmdsz (8 + body.length) - attrib.hdrlen - attrib.ivLen - attrib.icvRoom =
      8 + body.length := by
    unfold TxAttrib.txcmdsz
    omega
  rw [addmicPlaces, if_pos rfl, rnd4_of_mod aligned]
  exact congrArg (fun count => [(memStart + attrib.hdrlen + attrib.ivLen, count)]) length

def TxAttrib.single (attrib : TxAttrib) (body : List U8) : TxAttrib :=
  { attrib.packed body with nrFrags := 1, lastTxcmdsz := attrib.txcmdsz (8 + body.length) + attrib.micLen }

structure SingleFragment (priv : TxPriv) (psta : TxSta) (attrib : TxAttrib) (memStart : Nat)
    (body : List U8) (built : Coalesced) (mic : List U8) : Prop where
  fragments : built.fragments = [⟨memStart, memStart + attrib.hdrlen + attrib.ivLen, 8 + body.length⟩]
  single : built.attrib = attrib.single body
  micLength : mic.length = attrib.micLen
  text : segment built.buffer (memStart + attrib.hdrlen + attrib.ivLen)
    (8 + body.length + attrib.micLen) = some (putSnap attrib.etherType ++ body ++ mic)
  number : fragNumAt built.buffer memStart = some 0
  more : moreFragAt built.buffer memStart = some false
  computed : attrib.encrypt = .tkip → seccalctkipmic (txMickey priv psta attrib)
    (built.buffer.drop memStart) (putSnap attrib.etherType ++ body) (micPriority priv attrib) = some mic

theorem BuiltFrom.singleFragment
    (from_ : BuiltFrom priv psta attrib pbufStart memStart body buffer built headed looped)
    (updated : attrib.Updated) (threshold : attrib.Threshold) (one : OneFragment attrib body)
    (aligned : memStart % 4 = 0) :
    ∃ mic, SingleFragment priv psta attrib memStart body built mic := by
  have fragments := from_.single updated threshold one
  have written := from_.written
  obtain ⟨attribIs, unsealed, sealed⟩ := xmitframeAddmic_some from_.added
  rw [fragments] at attribIs sealed written
  have hdrlen := updated.hdrlen
  have number := from_.header_number updated
  have more : moreFragAt looped memStart = some false := written.more 0 (by simp)
  have text : segment looped (memStart + attrib.hdrlen + attrib.ivLen) (8 + body.length) =
      some (putSnap attrib.etherType ++ body) := by
    have read := written.text
    simpa [segments, FragmentPlace.text] using read
  by_cases tkip : attrib.encrypt = .tkip
  · obtain ⟨data, mic, read, computed, wrote⟩ := sealed tkip
    have places := addmicPlaces_single attrib body aligned
    change segments looped (addmicPlaces _ 1 memStart) = some data at read
    change overwrite looped (((addmicPlaces _ 1 memStart).getLast?.map _).getD 0) mic = _ at wrote
    rw [places] at read wrote
    have micLength := seccalctkipmic_length computed
    have eight : attrib.micLen = 8 := if_pos tkip
    obtain rfl : putSnap attrib.etherType ++ body = data := by
      simpa [segments, text] using read
    change overwrite looped (memStart + attrib.hdrlen + attrib.ivLen + (8 + body.length)) mic = _
      at wrote
    have kept : ∀ index, index < memStart + attrib.hdrlen + attrib.ivLen + (8 + body.length) →
        built.buffer[index]? = looped[index]? := by
      intro index before
      rw [getElem?_overwrite wrote, if_neg (by omega)]
    have ivLen : attrib.ivLen = 8 := by
      rw [updated.ivLen, tkip]
    have inside := (segment_some text).1
    refine ⟨mic, fragments, ?_, micLength.trans eight.symm, ?_, ?_, ?_, fun _ => ?_⟩
    · rw [attribIs]
      rfl
    · have micRead := segment_overwrite_same wrote
      rw [micLength] at micRead
      rw [eight]
      exact segment_append ((segment_overwrite_apart wrote (.inl (Nat.le_refl _))).trans text) micRead
    · rw [fragNumAt, kept _ (by omega)]
      exact number
    · rw [moreFragAt, kept _ (by omega)]
      exact more
    · rw [← computed]
      refine seccalctkipmic_congr _ _ _ ?_ ?_ fun index small => ?_
      · rw [length_drop, overwrite_length wrote]
        omega
      · rw [length_drop]
        omega
      · rw [List.getElem?_drop, List.getElem?_drop, kept _ (by omega)]
  · obtain rfl : built.buffer = looped := unsealed tkip
    have none_ : attrib.micLen = 0 := if_neg tkip
    refine ⟨[], fragments, ?_, none_.symm, ?_, number, more, fun other => absurd other tkip⟩
    · rw [attribIs]
      rfl
    · rw [none_, append_nil]
      exact text

theorem ReceivedFragment.of_attrib {last : Nat} {other : TxAttrib}
    {place : Nat × Nat} (received : ReceivedFragment priv other buffer place frame)
    (same : other = { (attrib.packed body).fragmented fragments with lastTxcmdsz := last }) :
    ReceivedFragment priv attrib buffer place frame := by
  subst same
  exact
    { received with }

theorem ReceivedFragment.parts {start count : Nat} {text : List U8}
    (received : ReceivedFragment priv attrib buffer (start + attrib.hdrlen + attrib.ivLen, count) frame)
    (read : segment buffer (start + attrib.hdrlen + attrib.ivLen) count = some text) :
    frame.len.toNat = attrib.hdrlen + attrib.ivLen + count + attrib.icvLen ∧
      (∀ index < attrib.hdrlen + attrib.ivLen + count, frame.buffer[frame.rxData + index]? = buffer[start + index]?) ∧
      segment frame.buffer (frame.rxData + (attrib.hdrlen + attrib.ivLen)) count = some text ∧
      frame.Whole ∧ frame.payload = text := by
  obtain ⟨sent, icv, sentRead, icvLength, bytes⟩ := received.bytes
  dsimp only at sentRead
  rw [show start + attrib.hdrlen + attrib.ivLen - attrib.ivLen - attrib.hdrlen = start by omega]
    at sentRead
  have sentLength := segment_length sentRead
  have length := segment_length bytes
  rw [length_append, sentLength, icvLength] at length
  obtain ⟨front, _⟩ := segment_split bytes
  rw [sentLength] at front
  have same : ∀ index < attrib.hdrlen + attrib.ivLen + count,
      frame.buffer[frame.rxData + index]? = buffer[start + index]? := by
    intro index small
    have here := (segment_eq_some_iff.mp front).2.2 index small
    have there := (segment_eq_some_iff.mp sentRead).2.2 index small
    exact here.symm.trans there
  have own : segment frame.buffer (frame.rxData + (attrib.hdrlen + attrib.ivLen)) count = some text := by
    have tail := segment_drop front (Nat.le_add_right (attrib.hdrlen + attrib.ivLen) count)
    have tail_ := segment_drop sentRead (Nat.le_add_right (attrib.hdrlen + attrib.ivLen) count)
    rw [Nat.add_sub_cancel_left] at tail tail_
    rw [← Nat.add_assoc, read] at tail_
    rw [tail, tail_]
  have overhead : frame.overhead = attrib.hdrlen + attrib.ivLen + attrib.icvLen := by
    rw [RecvFrame.overhead, received.hdrlen, received.ivLen, received.icvLen]
  have whole : frame.Whole := by
    rw [RecvFrame.Whole, overhead]
    omega
  refine ⟨length.symm, same, own, whole, ?_⟩
  have payload := received.laidOut.payload_eq whole
  rw [overhead, received.hdrlen, received.ivLen, ← length,
    show attrib.hdrlen + attrib.ivLen + count + attrib.icvLen -
      (attrib.hdrlen + attrib.ivLen + attrib.icvLen) = count by omega, own] at payload
  exact (some.inj payload).symm

def rxMickey (security : RxSecurity) (rxSta : StaInfo) (ra : MacAddr) : Vector U8 16 :=
  if isMcast ra then security.dot118021XGrprxmickey else rxSta.dot11tkiprxmickey

theorem recvframeChkmic_eq {mickey : Vector U8 16} {ok : Bool} (tkip : frame.attrib.encrypt = .tkip)
    (shared : if isMcast frame.attrib.ra then
        security.binstallGrpkey = true ∧ security.dot118021XGrprxmickey = mickey
      else rxSta.dot11tkiprxmickey = mickey)
    (matches_ : micMatches mickey frame = some ok) :
    recvframeChkmic security (some rxSta) frame = some (ok, (frame.pullTail 8).getD frame) := by
  rw [recvframeChkmic, if_pos tkip]
  split at shared
  · rename_i group
    obtain ⟨installed, key⟩ := shared
    rw [if_pos group, installed, key, matches_]
    rfl
  · rename_i single
    rw [if_neg single, shared, matches_]
    rfl

theorem SingleFragment.chkmic (single : SingleFragment priv psta attrib memStart body built mic)
    (updated : attrib.Updated) (tkip : attrib.encrypt = .tkip)
    (shared : MicKeyShared security rxSta attrib (txMickey priv psta attrib))
    (received : ReceivedFragment priv attrib built.buffer
      (memStart + attrib.hdrlen + attrib.ivLen, 8 + body.length + attrib.micLen) frame) :
    ∃ hdr, recvframeChkmic security (some rxSta) frame = some (true, hdr) ∧
      hdr.payload = putSnap attrib.etherType ++ body := by
  obtain ⟨length, same, text, whole, _⟩ := received.parts single.text
  have eight : attrib.micLen = 8 := if_pos tkip
  have micLength := single.micLength
  have textLength := segment_length text
  rw [eight] at length same text micLength textLength
  have hdrlen := updated.hdrlen
  have ivLen : attrib.ivLen = 8 := by
    rw [updated.ivLen, tkip]
  obtain ⟨dataRead, micRead⟩ := segment_split text
  rw [length_append, micLength] at textLength
  have dataLength : (putSnap attrib.etherType ++ body).length = 8 + body.length := by omega
  rw [dataLength] at dataRead micRead
  rw [micLength] at micRead
  have inside := (segment_some single.text).1
  have inside_ := (segment_some micRead).1
  have datalen : (frame.len - ofNat 32 attrib.hdrlen - ofNat 32 attrib.ivLen -
      ofNat 32 attrib.icvLen - ofNat 32 8).toNat = 8 + body.length := by
    have withoutHeader := @sub_ofNat_toNat frame.len attrib.hdrlen (by omega)
    have withoutIv := @sub_ofNat_toNat (frame.len - ofNat 32 attrib.hdrlen) attrib.ivLen
      (by omega)
    have withoutIcv := @sub_ofNat_toNat (frame.len - ofNat 32 attrib.hdrlen -
      ofNat 32 attrib.ivLen) attrib.icvLen (by omega)
    rw [sub_ofNat_toNat (by omega)]
    omega
  have computed : seccalctkipmic (txMickey priv psta attrib) (frame.buffer.drop frame.rxData)
      (putSnap attrib.etherType ++ body) frame.attrib.priority = some mic := by
    rw [received.priority, ← single.computed tkip]
    refine seccalctkipmic_congr _ _ _ ?_ ?_ fun index small => ?_
    · rw [length_drop]
      omega
    · rw [length_drop]
      omega
    · rw [List.getElem?_drop, List.getElem?_drop, same index (by omega)]
  have matches_ : micMatches (txMickey priv psta attrib) frame = some true := by
    rw [← Nat.add_assoc] at dataRead
    simp only [micMatches, received.hdrlen, received.ivLen, received.icvLen]
    change ((segment frame.buffer (frame.rxData + attrib.hdrlen + attrib.ivLen)
      (frame.len - ofNat 32 attrib.hdrlen - ofNat 32 attrib.ivLen -
        ofNat 32 attrib.icvLen - ofNat 32 8).toNat).bind _) = some true
    simp only [datalen, dataRead, computed, bind_some, bind_eq_bind]
    change (segment frame.buffer (frame.rxData + attrib.hdrlen + attrib.ivLen +
      (frame.len - ofNat 32 attrib.hdrlen - ofNat 32 attrib.ivLen -
        ofNat 32 attrib.icvLen - ofNat 32 8).toNat) 8).bind _ = some true
    rw [datalen, Nat.add_assoc frame.rxData, micRead]
    simp
  refine ⟨_, recvframeChkmic_eq (received.encrypt.trans tkip) ?_ matches_, ?_⟩
  · rw [received.ra]
    exact shared
  · rw [received.laidOut.pullTail_eq, if_pos (by omega)]
    have shorter := @sub_ofNat_toNat frame.len 8 (by omega)
    have count : (frame.len - ofNat 32 8).toNat - (frame.attrib.hdrlen + frame.attrib.ivLen +
        frame.attrib.icvLen) = 8 + body.length := by
      rw [shorter, received.hdrlen, received.ivLen, received.icvLen]
      omega
    change (frame.buffer.drop (frame.rxData + (frame.attrib.hdrlen + frame.attrib.ivLen))).take
      ((frame.len - ofNat 32 8).toNat - (frame.attrib.hdrlen + frame.attrib.ivLen + frame.attrib.icvLen)) = _
    rw [count, received.hdrlen, received.ivLen]
    exact (segment_some dataRead).2.symm

theorem recvframeChkDefrag_eq {security : RxSecurity} {rxSta : StaInfo} {queue : List RecvUnion}
    {frame together : RecvUnion} {result : DefragResult} {hdr : RecvFrame}
    (queued : queueFragment (some queue) frame = some result) (done : result.returned = some together)
    (checked : together.hdr.attrib.privacy = true →
      recvframeChkmic security (some rxSta) together.hdr = some (true, hdr))
    (unchecked : together.hdr.attrib.privacy = false → together.hdr = hdr) :
    (recvframeChkDefrag security (some rxSta) (some queue) frame).map DefragResult.returned =
      some (some { together with hdr }) := by
  simp only [recvframeChkDefrag, queued, bind_eq_bind, bind_some, done]
  split
  · rename_i privacy
    simp [checked privacy]
  · rename_i privacy
    simp [← unchecked (Bool.eq_false_iff.mpr privacy), done]

theorem SingleFragment.recovered
    {frame : RecvUnion} (single : SingleFragment priv psta attrib memStart body built mic)
    (updated : attrib.Updated)
    (shared : MicKeyShared security rxSta attrib (txMickey priv psta attrib))
    (received : ReceivedFragment priv attrib built.buffer
      (memStart + attrib.hdrlen + attrib.ivLen, 8 + body.length + attrib.micLen) frame.hdr)
    (privacy : frame.hdr.attrib.privacy = decide (attrib.encrypt ≠ .noPrivacy)) :
    ∃ returned, receiveFragments security rxSta (some []) [frame] = some (some returned) ∧
      returned.hdr.payload = putSnap attrib.etherType ++ body := by
  have start : memStart + attrib.hdrlen + attrib.ivLen - attrib.ivLen - attrib.hdrlen = memStart := by
    omega
  have last : frame.hdr.attrib.mfrag = false := by
    have mfrag := received.mfrag
    rw [start, single.more] at mfrag
    exact (some.inj mfrag).symm
  have zero : frame.hdr.attrib.fragNum = 0 := by
    have fragNum := received.fragNum
    rw [start, single.number] at fragNum
    exact (some.inj fragNum).symm
  have queued : queueFragment (some []) frame =
      some { returned := some frame, defragQ := some [], freed := [] } := by
    simp [queueFragment, last, zero]
  by_cases tkip : attrib.encrypt = .tkip
  · obtain ⟨hdr, checked, payload⟩ := single.chkmic updated tkip shared received
    refine ⟨{ frame with hdr }, ?_, payload⟩
    refine recvframeChkDefrag_eq queued rfl (fun _ => checked) fun plain => ?_
    rw [privacy, tkip] at plain
    cases plain
  · have payload := (received.parts single.text).2.2.2.2
    have none_ : mic = [] := List.eq_nil_of_length_eq_zero (single.micLength.trans (if_neg tkip))
    rw [none_, append_nil] at payload
    refine ⟨frame, ?_, payload⟩
    refine recvframeChkDefrag_eq queued rfl (fun _ => ?_) fun _ => rfl
    rw [recvframeChkmic, if_neg (by rw [received.encrypt]; exact tkip)]

theorem receive_two {security : RxSecurity} {rxSta : StaInfo} {first second : RecvUnion}
    {places : (Nat × Nat) × (Nat × Nat)} {buffer : List U8} (other : attrib.encrypt ≠ .tkip)
    (received : ReceivedFragment priv attrib buffer places.1 first.hdr)
    (received_ : ReceivedFragment priv attrib buffer places.2 second.hdr)
    (whole : first.hdr.Whole) (whole_ : second.hdr.Whole)
    (number : first.hdr.attrib.fragNum = 0) (number_ : second.hdr.attrib.fragNum = 1)
    (more : first.hdr.attrib.mfrag = true) (more_ : second.hdr.attrib.mfrag = false)
    (room : RoomBehindFirst [first, second]) :
    ∃ returned, receiveFragments security rxSta (some []) [first, second] = some (some returned) ∧
      returned.hdr.payload = first.hdr.payload ++ second.hdr.payload := by
  have queued : queueFragment (some []) first =
      some { returned := none, defragQ := some [first], freed := [] } := by
    simp [queueFragment, more, number]
  have laid := received.laidOut.length
  have overhead : first.hdr.overhead ≤ first.hdr.len.toNat := whole
  unfold RecvFrame.overhead at overhead
  obtain ⟨returned, ran, _, numbered⟩ := @recvframeDefragFrom_exists [second] 1 first.hdr
    received.laidOut (by simpa using received_.laidOut) (by
      intro _
      have enough : first.hdr.rxTail + second.hdr.len.toNat ≤ first.hdr.buffer.length := by
        simpa [RoomBehindFirst] using room
      have appended : second.hdr.appendedLength ≤ second.hdr.len.toNat := by
        unfold RecvFrame.appendedLength
        split <;> omega
      rw [if_pos (by omega)]
      exact ⟨by omega, trivial⟩)
  obtain ⟨after, icvLen, rfl, _, afterAttrib, payload⟩ := numbered ⟨number_.symm, trivial⟩
  obtain ⟨_, payload⟩ := payload whole (by simpa using whole_)
  have joined : queueFragment (some [first]) second =
      some { returned := some { first with hdr := after }, defragQ := some [], freed := [second] } := by
    simp only [queueFragment, more_, number_, recvframeDefrag, number, List.cons_append, List.nil_append]
    rw [if_neg (by decide), if_neg (by decide), ran]
    rfl
  refine ⟨{ first with hdr := after }, ?_, by simpa using payload⟩
  have chkDefrag : recvframeChkDefrag security (some rxSta) (some []) first =
      some { returned := none, defragQ := some [first], freed := [] } := by
    simp [recvframeChkDefrag, queued]
  rw [receiveFragments, chkDefrag, bind_eq_bind, bind_some, receiveFragments]
  · refine @recvframeChkDefrag_eq _ _ _ _ { first with hdr := after } _ after joined rfl
      (fun _ => ?_) fun _ => rfl
    rw [recvframeChkmic, if_neg]
    dsimp only
    rw [afterAttrib]
    rw [received.encrypt]
    exact other
  · simp

def copiedNumber (psta : TxSta) (attrib : TxAttrib) : U8 :=
  ((fragmentIv attrib psta.dot11txpn).1 ++ putSnap attrib.etherType)[30 - attrib.hdrlen]?.getD 0 &&& 0x0f

/-- What all have to agree on is so for a frame in one piece. By chance it is so for a frame in
two pieces behind the first of a transfer, to which no function after the loop does anything. -/
def LayoutCondition (psta : TxSta) (attrib : TxAttrib) (pktOffset : Nat) (body : List U8) : Prop :=
  OneFragment attrib body ∨ pktOffset = 0 ∧ attrib.encrypt ≠ .tkip ∧ attrib.cipherRuns = false ∧
    8 + body.length ≤ 2 * attrib.fragmentRoom ∧ copiedNumber psta attrib = 1

theorem BuiltFrom.behind_header
    (from_ : BuiltFrom priv psta attrib pbufStart memStart body buffer built headed looped)
    (updated : attrib.Updated) (threshold : attrib.Threshold) (several : ¬ OneFragment attrib body) :
    fragNumAt looped (memStart + 8) = some (copiedNumber psta attrib) := by
  obtain ⟨next, further, fragments⟩ := from_.several updated threshold several
  have text := from_.written.text
  rw [fragments, map_cons, segments] at text
  simp only [bind_eq_bind, bind_eq_some_iff, pure_def, some.injEq] at text
  obtain ⟨first, read, others, _, whole⟩ := text
  have room := fragmentRoom_ge updated threshold
  have hdrlen := updated.hdrlen
  have ivLength := updated.fragmentIv_length psta.dot11txpn
  have snapLength := putSnap_length attrib.etherType
  have iv : segment looped (memStart + attrib.hdrlen) attrib.ivLen = _ := from_.written.iv
  have both := segment_append iv read
  have firstLength := segment_length read
  have start : first.take 8 = putSnap attrib.etherType := by
    have taken := congrArg (List.take 8) whole
    rwa [List.take_append_of_le_length (by rw [firstLength]; change 8 ≤ attrib.fragmentRoom; omega),
      List.take_append_of_le_length snapLength.ge, List.take_of_length_le snapLength.le] at taken
  have byte : looped[memStart + 8 + 22]? =
      ((fragmentIv attrib psta.dot11txpn).1 ++ putSnap attrib.etherType)[30 - attrib.hdrlen]? := by
    have here := (segment_eq_some_iff.mp both).2.2 (30 - attrib.hdrlen) (by
      change _ < attrib.ivLen + attrib.fragmentRoom
      omega)
    rw [← start, show memStart + 8 + 22 = memStart + attrib.hdrlen + (30 - attrib.hdrlen) by omega, ← here]
    by_cases early : 30 - attrib.hdrlen < attrib.ivLen
    · rw [List.getElem?_append_left (by omega), List.getElem?_append_left (by omega)]
    · rw [List.getElem?_append_right (by omega), List.getElem?_append_right (by omega),
        List.getElem?_take_of_lt (by omega)]
  have inside : 30 - attrib.hdrlen <
      ((fragmentIv attrib psta.dot11txpn).1 ++ putSnap attrib.etherType).length := by
    rw [length_append]
    omega
  rw [fragNumAt, byte, copiedNumber, List.getElem?_eq_getElem inside]
  rfl

theorem BuiltFrom.copied_number
    (from_ : BuiltFrom priv psta attrib pbufStart memStart body buffer built headed looped)
    (updated : attrib.Updated) {k : Nat} (inside : k < built.fragments.length) (positive : 0 < k) :
    fragNumAt looped built.fragments[k].start = fragNumAt looped (pbufStart + txdescOffset) := by
  have hdrlen := updated.hdrlen
  have copy := from_.written.copied k inside positive 22
    (by change 22 < attrib.hdrlen; omega) (by decide)
  rw [fragNumAt, fragNumAt, copy]

theorem secondDone_iff (updated : attrib.Updated) (threshold : attrib.Threshold)
    (several : ¬ OneFragment attrib body) :
    PacketDone (attrib.packed body) [] (body.drop
        (fragmentData (attrib.packed body) (putSnap attrib.etherType) body).length) ↔
      8 + body.length ≤ 2 * attrib.fragmentRoom := by
  unfold OneFragment at several
  rw [not_or] at several
  have room := fragmentRoom_ge updated threshold
  have first := @fragmentData_length attrib updated threshold several.1 body _
    (putSnap_length attrib.etherType).le body
  rw [putSnap_length, Nat.min_eq_left (by omega)] at first
  rw [first]
  have rest : (body.drop (attrib.fragmentRoom - 8)).length = body.length - (attrib.fragmentRoom - 8) :=
    length_drop
  have second := @fragmentData_length attrib updated threshold several.1 body [] (by decide)
    (body.drop (attrib.fragmentRoom - 8))
  rw [rest, List.length_nil] at second
  unfold PacketDone
  rw [List.drop_eq_nil_iff, second, rest]
  constructor
  · rintro (group | short)
    · exact absurd group several.1
    · omega
  · intro short
    exact .inr (by omega)

theorem TxAttrib.icvRoom_of_cipherRuns (runs : attrib.cipherRuns = true) : attrib.icvRoom = attrib.icvLen := by
  unfold TxAttrib.cipherRuns at runs
  rw [Bool.and_eq_true] at runs
  exact if_pos runs.1

theorem LayoutAgrees.condition (agrees : LayoutAgrees bulkSize swEncrypt priv psta pbufStart pktOffset body built)
    (updated : attrib.Updated) (threshold : attrib.Threshold) (offset : pktOffset ≤ 1)
    (from_ : BuiltFrom priv psta attrib pbufStart (pbufStart + txdescSize + pktOffset * packetOffsetSz)
      body buffer built headed looped) : LayoutCondition psta attrib pktOffset body := by
  by_cases one : OneFragment attrib body
  · exact .inl one
  · obtain ⟨next, further, fragments⟩ := from_.several updated threshold one
    obtain ⟨attribIs, unsealed, _⟩ := xmitframeAddmic_some from_.added
    have room := fragmentRoom_ge updated threshold
    have overhead := updated.overhead_le
    have low := threshold.1
    have roomIs : attrib.fragmentRoom = attrib.fragLen - 4 - attrib.hdrlen - attrib.ivLen -
      attrib.icvRoom := rfl
    have other : attrib.encrypt ≠ .tkip := by
      intro tkip
      have places := agrees.addmic (by rw [attribIs]; exact tkip)
      rw [fragments, attribIs] at places
      have count : attrib.fragLen - attrib.hdrlen - attrib.ivLen - attrib.icvRoom =
        attrib.fragmentRoom := (Prod.mk.inj (List.cons.inj places).1).2
      omega
    have unencrypted : attrib.cipherRuns = false := by
      refine Bool.eq_false_iff.mpr fun runs => ?_
      have places := agrees.cipher (by rw [attribIs]; exact runs)
      have swenc := TxAttrib.icvRoom_of_cipherRuns runs
      have count : attrib.fragLen - attrib.hdrlen - attrib.ivLen - attrib.icvLen = attrib.fragmentRoom := by
        have frags : built.attrib.nrFrags = further.length + 2 := by
          rw [attribIs, fragments]
          rfl
        rw [cipherPlaces, frags, Coalesced.sealedPlaces, fragments] at places
        rw [attribIs] at places
        exact (Prod.mk.inj (List.cons.inj places).1).2
      omega
    have bufferIs : built.buffer = looped := unsealed other
    have second : 1 < built.fragments.length := by
      rw [fragments]
      simp
    have number := agrees.numbers 1 second
    rw [bufferIs, from_.copied_number updated second (by decide)] at number
    rcases Nat.eq_zero_or_pos pktOffset with rfl | positive
    · have byte := from_.behind_header updated threshold one
      rw [show pbufStart + txdescSize + 0 * packetOffsetSz + 8 = pbufStart + txdescOffset by
        rw [txdescOffset, packetOffsetSz]; omega, number] at byte
      refine .inr ⟨rfl, other, unencrypted, ?_, (some.inj byte).symm⟩
      have ends : further = [] := by
        -- the headers of all later fragments are copies of the same bytes
        cases further with
        | nil => rfl
        | cons third more =>
          have third_ : 2 < built.fragments.length := by
            rw [fragments]
            simp
          have number_ := agrees.numbers 2 third_
          rw [bufferIs, from_.copied_number updated third_ (by decide), number] at number_
          exact absurd (some.inj number_) (by decide)
      exact (secondDone_iff updated threshold one).mp
        ((from_.written.second _ _ _ fragments).mp ends)
    · obtain rfl : pktOffset = 1 := by omega
      have zero := from_.header_number updated
      rw [show pbufStart + txdescSize + 1 * packetOffsetSz = pbufStart + txdescOffset by
        rw [txdescOffset]; omega, number] at zero
      exact absurd (some.inj zero) (by decide)

theorem SingleFragment.agrees
    (single : SingleFragment priv psta attrib (pbufStart + txdescSize + pktOffset * packetOffsetSz)
      body built mic) (updated : attrib.Updated)
    (aligned : (pbufStart + txdescSize + pktOffset * packetOffsetSz) % 4 = 0) :
    LayoutAgrees bulkSize swEncrypt priv psta pbufStart pktOffset body built := by
  have fragments := single.fragments
  have attribIs := single.single
  generalize memStartIs : pbufStart + txdescSize + pktOffset * packetOffsetSz = memStart
    at single aligned fragments
  have places : built.sealedPlaces =
      [(memStart + attrib.hdrlen + attrib.ivLen, 8 + body.length + attrib.micLen)] := by
    rw [Coalesced.sealedPlaces, fragments, attribIs]
    rfl
  have size : (attrib.single body).lastTxcmdsz = attrib.txcmdsz (8 + body.length) + attrib.micLen := rfl
  have txcmdsz : ∀ count, attrib.txcmdsz count = attrib.hdrlen + attrib.ivLen + count +
    attrib.icvRoom := fun _ => rfl
  constructor
  case numbers =>
    intro k inside
    obtain rfl : k = 0 := by
      rw [fragments] at inside
      simpa using inside
    simp only [fragments, getElem_cons_zero]
    exact single.number
  case more =>
    intro k inside
    obtain rfl : k = 0 := by
      rw [fragments] at inside
      simpa using inside
    simp only [fragments, getElem_cons_zero]
    exact single.more
  case addmic =>
    intro tkip
    rw [memStartIs, fragments, attribIs]
    exact addmicPlaces_single attrib body aligned
  case cipher =>
    intro runs
    rw [attribIs] at runs
    have icv := @TxAttrib.icvRoom_of_cipherRuns attrib runs
    have length : attrib.txcmdsz (8 + body.length) + attrib.micLen - attrib.hdrlen - attrib.ivLen -
        attrib.icvLen = 8 + body.length + attrib.micLen := by
      rw [txcmdsz, icv]
      omega
    rw [memStartIs, places, attribIs, ← length]
    rfl
  case dumped =>
    intro first
    have start : memStart + attrib.hdrlen + attrib.ivLen - attrib.ivLen - attrib.hdrlen =
        pbufStart + txdescOffset := by
      rw [← memStartIs, first, txdescOffset]
      omega
    have length : attrib.txcmdsz (8 + body.length + attrib.micLen) =
        attrib.txcmdsz (8 + body.length) + attrib.micLen := by
      rw [txcmdsz, txcmdsz]
      omega
    rw [places, attribIs]
    change _ = [(memStart + attrib.hdrlen + attrib.ivLen - attrib.ivLen - attrib.hdrlen,
      attrib.txcmdsz (8 + body.length + attrib.micLen))]
    rw [start, length]
    rfl
  case payload =>
    refine ⟨mic, ?_, ?_, fun tkip => ?_⟩
    · rw [places, segments, single.text, attribIs]
      simp [segments, TxAttrib.single, TxAttrib.packed]
    · rw [attribIs]
      exact single.micLength
    · rw [memStartIs]
      rw [attribIs] at tkip ⊢
      exact single.computed tkip
  case recovered =>
    intro security rxSta frames shared received _
    rw [places] at received
    obtain ⟨frame, rfl, received, privacy⟩ : ∃ frame, frames = [frame] ∧
        ReceivedFragment priv built.attrib built.buffer
          (memStart + attrib.hdrlen + attrib.ivLen, 8 + body.length + attrib.micLen) frame.hdr ∧
        frame.hdr.attrib.privacy = decide (built.attrib.encrypt ≠ .noPrivacy) := by
      cases received with
      | cons both none_ =>
        cases none_
        exact ⟨_, rfl, both⟩
    have fragmented : built.attrib =
        { (attrib.packed body).fragmented [⟨memStart, 0, 0⟩] with
          lastTxcmdsz := attrib.txcmdsz (8 + body.length) + attrib.micLen } := attribIs
    have got := received.of_attrib fragmented
    rw [attribIs] at shared privacy ⊢
    exact single.recovered updated shared got privacy

theorem BuiltFrom.agrees_two
    (from_ : BuiltFrom priv psta attrib pbufStart (pbufStart + txdescSize + 0 * packetOffsetSz) body
      buffer built headed looped)
    (updated : attrib.Updated) (threshold : attrib.Threshold) (several : ¬ OneFragment attrib body)
    (other : attrib.encrypt ≠ .tkip) (unencrypted : attrib.cipherRuns = false)
    (short : 8 + body.length ≤ 2 * attrib.fragmentRoom) (chance : copiedNumber psta attrib = 1) :
    LayoutAgrees bulkSize swEncrypt priv psta pbufStart 0 body built := by
  obtain ⟨next, further, fragments⟩ := from_.several updated threshold several
  obtain ⟨attribIs, unsealed, _⟩ := xmitframeAddmic_some from_.added
  have bufferIs : built.buffer = looped := unsealed other
  have written := from_.written
  obtain rfl : further = [] :=
    (written.second _ _ _ fragments).mpr ((secondDone_iff updated threshold several).mpr short)
  have two : built.fragments.length = 2 := by
    rw [fragments]
    rfl
  have none_ : built.attrib.micLen = 0 := by
    rw [attribIs]
    exact if_neg other
  have places : built.sealedPlaces = [(pbufStart + txdescSize + 0 * packetOffsetSz + attrib.hdrlen +
      attrib.ivLen, attrib.fragmentRoom), next.text] := by
    rw [Coalesced.sealedPlaces, fragments, none_]
    rfl
  have numbers : ∀ (k : Nat) (inside : k < built.fragments.length),
      fragNumAt built.buffer built.fragments[k].start = some (ofNat 8 k) := by
    intro k inside
    rw [bufferIs]
    rcases (show k = 0 ∨ k = 1 by omega) with rfl | rfl
    · simp only [fragments, getElem_cons_zero]
      exact from_.header_number updated
    · have byte := from_.behind_header updated threshold several
      rw [show pbufStart + txdescSize + 0 * packetOffsetSz + 8 = pbufStart + txdescOffset by
        rw [txdescOffset, packetOffsetSz]; omega, chance] at byte
      rw [from_.copied_number updated inside (by decide), byte]
      rfl
  have more : ∀ (k : Nat) (inside : k < built.fragments.length),
      moreFragAt built.buffer built.fragments[k].start = some (decide (k + 1 < built.fragments.length)) := by
    rw [bufferIs]
    exact written.more
  constructor
  case numbers => exact numbers
  case more => exact more
  case addmic =>
    intro tkip
    rw [attribIs] at tkip
    exact absurd tkip other
  case cipher =>
    intro runs
    rw [attribIs] at runs
    exact absurd (unencrypted.symm.trans runs) (by decide)
  case dumped => exact fun first => absurd first (by decide)
  case payload =>
    refine ⟨[], ?_, none_.symm, fun tkip => ?_⟩
    · have text := written.text
      rw [fragments] at text
      rw [places, bufferIs, attribIs, append_nil]
      exact text
    · rw [attribIs] at tkip
      exact absurd tkip other
  case recovered =>
    intro security rxSta frames _ received room
    rw [places] at received
    obtain ⟨first, _, ⟨gotFirst, _⟩, rest, rfl⟩ := List.forall₂_cons_left_iff.mp received
    obtain ⟨second, _, ⟨gotSecond, _⟩, none_, rfl⟩ := List.forall₂_cons_left_iff.mp rest
    obtain rfl := List.forall₂_nil_left_iff.mp none_
    have text := written.text
    rw [fragments, ← bufferIs] at text
    simp only [map_cons, List.map_nil, segments, bind_eq_bind, bind_eq_some_iff, pure_def, some.injEq] at text
    obtain ⟨front, frontRead, _, ⟨back, backRead, _, rfl, rfl⟩, whole⟩ := text
    have payload := written.payloads next (by rw [fragments]; simp)
    have nextText : next.text = (next.start + attrib.hdrlen + attrib.ivLen, next.count) :=
      Prod.ext payload rfl
    change segment built.buffer next.payload next.count = _ at backRead
    rw [payload] at backRead
    rw [nextText] at gotSecond
    have gotFirst := gotFirst.of_attrib attribIs
    have gotSecond := gotSecond.of_attrib attribIs
    have start : ∀ start, start + attrib.hdrlen + attrib.ivLen - attrib.ivLen - attrib.hdrlen =
        start := fun start => by omega
    have firstNumber := gotFirst.fragNum
    have secondNumber := gotSecond.fragNum
    have firstMore := gotFirst.mfrag
    have secondMore := gotSecond.mfrag
    rw [start] at firstNumber secondNumber firstMore secondMore
    have number := numbers 0 (by omega)
    have number_ := numbers 1 (by omega)
    have more_ := more 0 (by omega)
    have more__ := more 1 (by omega)
    simp only [fragments, getElem_cons_zero, List.getElem_cons_succ, List.length_cons,
      List.length_nil] at number number_ more_ more__
    obtain ⟨_, _, _, firstWhole, firstPayload⟩ := gotFirst.parts frontRead
    obtain ⟨_, _, _, secondWhole, secondPayload⟩ := gotSecond.parts backRead
    obtain ⟨returned, ran, joined⟩ := @receive_two priv attrib security rxSta first second (_, _) _ other
      gotFirst gotSecond firstWhole secondWhole (some.inj (firstNumber.symm.trans number))
      (some.inj (secondNumber.symm.trans number_))
      (some.inj (firstMore.symm.trans more_)) (some.inj (secondMore.symm.trans more__))
      room
    refine ⟨returned, ran, ?_⟩
    rw [append_nil] at whole
    rw [joined, firstPayload, secondPayload, attribIs]
    exact whole

end Built

/-- The functions that come after the loop agree with it, and a receiver gets the packet back,
exactly if the packet goes into one fragment, or by chance. -/
theorem fragmentLayout_agrees {stale : U16} {bulkSize pbufStart pktOffset : Nat} {swEncrypt : Bool}
    {pkt buffer : List U8} {result : Coalesced} (updated : attrib.Updated)
    (threshold : attrib.Threshold) (aligned : pbufStart % 4 = 0) (offset : pktOffset ≤ 1)
    (ran : xmitframeCoalesce stale priv (some psta) attrib (some pbufStart) pktOffset pkt buffer =
      some result) (success : result.success = true) :
    ∃ built, buildFragments priv psta attrib pbufStart pktOffset pkt buffer = some built ∧
      result.fragments = built.fragments ∧ result.attrib = built.attrib ∧
      xmitframeSwencrypt stale priv psta built.attrib
        (pbufStart + txdescSize + pktOffset * packetOffsetSz) built.buffer = some result.buffer ∧
      (LayoutAgrees bulkSize swEncrypt priv psta pbufStart pktOffset (pkt.drop attrib.pktHdrlen) built ↔
        LayoutCondition psta attrib pktOffset (pkt.drop attrib.pktHdrlen)) := by
  simp only [xmitframeCoalesce, bind_eq_bind, bind_eq_some_iff] at ran
  obtain ⟨built, build, ran⟩ := ran
  by_cases ok : built.success = true
  · simp only [ok, Bool.not_true, Bool.false_eq_true, if_false, bind_eq_some_iff, pure_def, some.injEq] at ran
    obtain ⟨encrypted, sealed, rfl⟩ := ran
    obtain ⟨headed, looped, from_⟩ := buildFragments_some updated build ok
    have start : (pbufStart + txdescSize + pktOffset * packetOffsetSz) % 4 = 0 := by
      unfold txdescSize packetOffsetSz
      omega
    refine ⟨built, build, rfl, rfl, sealed, ?_⟩
    constructor
    · intro agrees
      exact agrees.condition updated threshold offset from_
    · intro condition
      by_cases one : OneFragment attrib (pkt.drop attrib.pktHdrlen)
      · obtain ⟨mic, single⟩ := from_.singleFragment updated threshold one start
        exact single.agrees updated start
      · obtain ⟨rfl, other, unencrypted, short, chance⟩ := condition.resolve_left one
        exact from_.agrees_two updated threshold one other unencrypted short chance
  · simp only [Bool.not_eq_true] at ok
    simp only [ok, Bool.not_false, if_true, pure_def, some.injEq] at ran
    rw [← ran, ok] at success
    cases success

def plainPriv : TxPriv where
  security := ⟨0, fun _ => Vector.replicate 16 0, fun _ => 0⟩
  dot118021XGrptxmickey := Vector.replicate 16 0
  fwState := .accessPoint
  bssid := Vector.replicate 6 2
  qosOption := false

def plainSta : TxSta where
  ieee8021xBlocked := false
  dot118021xUncstKey := Vector.replicate 16 0
  dot11tkiprxmickey := Vector.replicate 16 0
  dot11tkiptxmickey := Vector.replicate 16 0
  dot11txpn := 0
  txseqTid := Vector.replicate 16 0

def plainAttrib : TxAttrib where
  encrypt := .noPrivacy
  hdrlen := 24
  ivLen := 0
  icvLen := 0
  nrFrags := 0
  lastTxcmdsz := 0
  fragLen := 256
  subtype := 0x08
  etherType := 0x0800
  pktHdrlen := 14
  pktlen := 0
  dst := Vector.replicate 6 4
  src := Vector.replicate 6 6
  ra := Vector.replicate 6 4
  ta := Vector.replicate 6 2
  bswenc := false
  keyIdx := 0
  icv := Vector.replicate 8 0
  priority := 0
  ackPolicy := 0
  eosp := false
  mdata := false

theorem plainAttrib_updated : plainAttrib.Updated where
  header := .inl ⟨rfl, rfl, rfl⟩
  ivLen := rfl
  icvLen := rfl
  bswenc := fun swenc => absurd swenc (by decide)

theorem plainAttrib_threshold : plainAttrib.Threshold := ⟨by decide, by decide⟩

theorem fragmentLayout_agrees_short : ∃ built : Coalesced,
    buildFragments plainPriv plainSta plainAttrib 0 1 (List.replicate 20 0) (List.replicate 104 0) =
      some built ∧
    LayoutAgrees 512 false plainPriv plainSta 0 1 (List.replicate 6 0) built := by
  have done : (xmitframeCoalesce 0 plainPriv (some plainSta) plainAttrib (some 0) 1
      (List.replicate 20 0) (List.replicate 104 0)).map Coalesced.success = some true := by
    decide +kernel
  obtain ⟨result, ran, success⟩ := map_eq_some_iff.mp done
  obtain ⟨built, build, _, _, _, agrees⟩ := @fragmentLayout_agrees plainPriv plainSta plainAttrib 0
    512 0 1 false _ _ result plainAttrib_updated plainAttrib_threshold rfl (by decide) ran success
  exact ⟨built, build, agrees.mpr (.inl (.inr (by decide)))⟩

/-- A packet of three hundred bytes: its second fragment has the number of the first. -/
theorem fragmentLayout_agrees_fails : ∃ result built : Coalesced,
    xmitframeCoalesce 0 plainPriv (some plainSta) plainAttrib (some 0) 1 (List.replicate 300 0)
      (List.replicate 512 0) = some result ∧ result.success = true ∧
    buildFragments plainPriv plainSta plainAttrib 0 1 (List.replicate 300 0) (List.replicate 512 0) =
      some built ∧
    ¬ LayoutAgrees 512 false plainPriv plainSta 0 1 (List.replicate 286 0) built := by
  have done : (xmitframeCoalesce 0 plainPriv (some plainSta) plainAttrib (some 0) 1
      (List.replicate 300 0) (List.replicate 512 0)).map Coalesced.success = some true := by
    decide +kernel
  have done_ : (buildFragments plainPriv plainSta plainAttrib 0 1
      (List.replicate 300 0) (List.replicate 512 0)).map Coalesced.success = some true := by
    decide +kernel
  obtain ⟨result, ran, success⟩ := map_eq_some_iff.mp done
  obtain ⟨built, build, ok⟩ := map_eq_some_iff.mp done_
  refine ⟨result, built, ran, success, build, fun agrees => ?_⟩
  obtain ⟨headed, looped, from_⟩ := buildFragments_some plainAttrib_updated build ok
  have body : (List.replicate 300 (0 : U8)).drop plainAttrib.pktHdrlen = List.replicate 286 0 :=
    List.drop_replicate
  rw [body] at from_
  have room : plainAttrib.fragmentRoom = 228 := rfl
  rcases agrees.condition plainAttrib_updated plainAttrib_threshold (by decide) from_ with
    (group | short) | ⟨offset, _⟩
  · exact absurd group (by decide)
  · rw [room, List.length_replicate] at short
    omega
  · exact absurd offset (by decide)

end Floid.Wifi
