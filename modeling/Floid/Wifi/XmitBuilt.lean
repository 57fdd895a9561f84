import Floid.Wifi.CoalesceRegion

namespace Floid.Wifi

open Floid.Osk Floid.Lib TxAttrib
open List (mem_cons mem_cons_of_mem mem_cons_self mem_map mem_singleton)
open Option (bind_eq_bind bind_eq_some_iff isSome_iff_exists pure_def some.injEq)

def PayloadEncrypted (stale : U16) (priv : TxPriv) (memStart : Nat) (body : List U8) (coalesced : Coalesced) : Prop :=
  ∃ psta one plain, coalesced.psta = some psta ∧ cipherStep stale priv psta coalesced.attrib = some one ∧
    segments plain (coalesced.fragments.map FragmentPlace.text) =
      some (putSnap coalesced.attrib.etherType ++ body) ∧
    (fragmentSteps coalesced.attrib.toXmitAttrib coalesced.attrib.nrFrags memStart).foldlM
      (fun buffer step => one step.1 step.2 buffer) plain = some coalesced.buffer ∧
    ∀ fragment ∈ coalesced.fragments, ∀ index, fragment.payload ≤ index →
      index < fragment.payload + fragment.count →
      ∃ place ∈ cipherPlaces coalesced.attrib.toXmitAttrib memStart, place.1 ≤ index ∧ index < place.1 + place.2

/-- A frame can be built: its station is known, the state allows to send, and the key of the MIC
is there if there is to be a MIC. -/
def CanBuild (priv : TxPriv) (psta : Option TxSta) (attrib : TxAttrib) : Prop :=
  ∃ sta, psta = some sta ∧ (priv.addresses attrib).isSome = true ∧
    (attrib.encrypt = .tkip → txMickey priv sta attrib ≠ Vector.replicate 16 0)

def EncryptedWhole (attrib : TxAttrib) (body : List U8) : Prop :=
  attrib.bswenc = true → attrib.encrypt ≠ .tkipWtmic ∧ OneFragment attrib body

variable {stale : U16} {priv : TxPriv} {psta : TxSta} {attrib : TxAttrib}

theorem makeWlanhdr_made (updated : attrib.Updated) :
    (makeWlanhdr priv psta attrib).1 = (priv.addresses attrib).isSome := by
  rw [makeWlanhdr, if_neg updated.subtype]
  cases priv.addresses attrib <;> rfl

structure SameKeys (before after : TxSta) : Prop where
  staInfo : after.toStaInfo = before.toStaInfo
  mickey : after.dot11tkiptxmickey = before.dot11tkiptxmickey

variable {built : Coalesced} {pkt : List U8} {buffer : List U8}

theorem buildFragments_success {pbufStart pktOffset : Nat} (updated : attrib.Updated)
    (ran : buildFragments priv psta attrib pbufStart pktOffset pkt buffer = some built) :
    (built.success = true ↔ CanBuild priv (some psta) attrib) ∧
      ∃ after, built.psta = some after ∧ SameKeys psta after := by
  simp only [buildFragments, bind_eq_bind, bind_eq_some_iff] at ran
  obtain ⟨headed, _, ran⟩ := ran
  have made := @makeWlanhdr_made priv psta attrib updated
  generalize makeWlanhdr priv psta attrib = header at made ran
  obtain ⟨ok, header⟩ := header
  have canBuild : CanBuild priv (some psta) attrib ↔ (priv.addresses attrib).isSome = true ∧
      (attrib.encrypt = .tkip → txMickey priv psta attrib ≠ Vector.replicate 16 0) := by
    simp [CanBuild]
  rw [canBuild]
  cases ok with
  | false =>
    cases ran
    simp only [Bool.false_eq] at made
    exact ⟨by simp [made], psta, rfl, rfl, rfl⟩
  | true =>
    simp only [Bool.not_true, Bool.false_eq_true, if_false, bind_eq_some_iff, pure_def, some.injEq] at ran
    obtain ⟨⟨fragments, txpn, looped⟩, _, ⟨added, after, buffer_⟩, mic, rfl⟩ := ran
    refine ⟨?_, _, rfl, rfl, rfl⟩
    rw [← made]
    exact ⟨fun ok => ⟨rfl, (xmitframeAddmic_success mic).mp ok⟩,
      fun both => (xmitframeAddmic_success mic).mpr both.2⟩

theorem uncovered {sized : XmitAttrib} {count pframe : Nat} {first : FragmentPlace}
    {rest : List FragmentPlace} (spaced : Spaced attrib (first :: rest))
    (payloads : ∀ fragment ∈ first :: rest, fragment.payload = fragment.start + attrib.hdrlen + attrib.ivLen)
    (hdrlen : sized.hdrlen = attrib.hdrlen) (ivLen : sized.ivLen = attrib.ivLen)
    (icvLen : sized.icvLen = attrib.icvRoom) (fragLen : sized.fragLen = attrib.fragLen)
    (last : ((first :: rest).getLast (by simp)).count = count)
    (size : sized.lastTxcmdsz ≤ attrib.txcmdsz count + 8) (behind : pframe ≤ first.start)
    (far : pframe + 36 ≤ first.start ∨ rest ≠ []) :
    ∃ fragment ∈ first :: rest, 0 < fragment.count ∧ first.start ≤ fragment.start ∧
      ∀ step ∈ fragmentSteps sized (first :: rest).length pframe,
        step.2 + step.1 - sized.icvLen < fragment.payload + fragment.count := by
  induction rest generalizing first pframe with
  | nil =>
    refine ⟨first, by simp, spaced, Nat.le_refl _, fun step member => ?_⟩
    have start := payloads first (by simp)
    have distance := far.resolve_right (by simp)
    simp only [List.length_singleton, fragmentSteps, if_true, mem_singleton] at member
    rw [List.getLast_singleton] at last
    unfold txcmdsz at size
    rw [member, icvLen]
    dsimp only
    omega
  | cons next rest ih =>
    obtain ⟨full, begins, spaced⟩ := spaced
    have below := rnd4_le (first.start + attrib.hdrlen + attrib.ivLen + first.count + attrib.icvRoom)
    have above := rnd4_lt (pframe + sized.fragLen)
    have whole := rnd4_mod
      (first.start + attrib.hdrlen + attrib.ivLen + first.count + attrib.icvRoom)
    have whole_ := rnd4_mod (pframe + sized.fragLen)
    have gap : txdescOffset = 40 := rfl
    rw [nextMemStart] at begins
    obtain ⟨fragment, member, data, later, behindAll⟩ := @ih (rnd4 (pframe + sized.fragLen)) next
      spaced (fun other inside => payloads other (mem_cons_of_mem _ inside))
      (by simpa using last) (by omega) (.inl (by omega))
    have start := payloads fragment (mem_cons_of_mem _ member)
    refine ⟨fragment, mem_cons_of_mem _ member, data, by omega, fun step inside => ?_⟩
    simp only [List.length_cons, fragmentSteps, Nat.add_one_ne_zero, if_false, mem_cons] at inside behindAll
    rcases inside with rfl | inside
    · dsimp only
      omega
    · exact behindAll step (by simpa [fragmentSteps] using inside)

variable {coalesced : Coalesced} {known : Option TxSta}

theorem xmitframeCoalesce_some {bufAddr : Option Nat} {pktOffset : Nat} (updated : attrib.Updated)
    (placed : bufAddr.isSome = true)
    (ran : xmitframeCoalesce stale priv known attrib bufAddr pktOffset pkt buffer = some coalesced) :
    (coalesced.success = true ↔ CanBuild priv known attrib) ∧
      (∀ sta, known = some sta → ∃ after, coalesced.psta = some after ∧ SameKeys sta after) ∧
      (coalesced.success = true → ∃ sta pbufStart built, known = some sta ∧ bufAddr = some pbufStart ∧
        buildFragments priv sta attrib pbufStart pktOffset pkt buffer = some built ∧
        built.success = true ∧ coalesced = { built with buffer := coalesced.buffer } ∧
        xmitframeSwencrypt stale priv sta built.attrib
          (pbufStart + txdescSize + pktOffset * packetOffsetSz) built.buffer = some coalesced.buffer) := by
  obtain ⟨pbufStart, rfl⟩ := isSome_iff_exists.mp placed
  cases known with
  | none =>
    cases ran
    refine ⟨iff_of_false (by simp) ?_, by simp, by simp⟩
    rintro ⟨_, missing, _⟩
    cases missing
  | some sta =>
    simp only [xmitframeCoalesce, bind_eq_bind, bind_eq_some_iff] at ran
    obtain ⟨built, build, ran⟩ := ran
    obtain ⟨success, after, same, keys⟩ := buildFragments_success updated build
    by_cases ok : built.success = true
    · simp only [ok, Bool.not_true, Bool.false_eq_true, if_false, bind_eq_some_iff,
        pure_def, some.injEq] at ran
      obtain ⟨encrypted, sealed, rfl⟩ := ran
      refine ⟨iff_of_true rfl (success.mp ok), fun sta_ known => ⟨after, same, ?_⟩, fun _ => ?_⟩
      · cases known
        exact keys
      · exact ⟨sta, pbufStart, built, rfl, rfl, build, ok, by simp [ok], sealed⟩
    · rw [Bool.not_eq_true] at ok
      simp only [ok, Bool.not_false, if_true, pure_def, some.injEq] at ran
      subst ran
      refine ⟨success, fun sta_ known => ⟨after, same, ?_⟩, fun done => ?_⟩
      · cases known
        exact keys
      · rw [ok] at done
        cases done

theorem payloadEncrypted_iff {pbufStart pktOffset : Nat} (updated : attrib.Updated) (threshold : attrib.Threshold)
    (aligned : pbufStart % 4 = 0) (swenc : attrib.bswenc = true)
    (ran : xmitframeCoalesce stale priv known attrib (some pbufStart) pktOffset pkt buffer =
      some coalesced) (success : coalesced.success = true) :
    PayloadEncrypted stale priv (pbufStart + txdescSize + pktOffset * packetOffsetSz)
        (pkt.drop attrib.pktHdrlen) coalesced ↔
      attrib.encrypt ≠ .tkipWtmic ∧ OneFragment attrib (pkt.drop attrib.pktHdrlen) := by
  obtain ⟨_, keys, parts⟩ := xmitframeCoalesce_some updated rfl ran
  obtain ⟨sta, _, built, rfl, same, build, ok, whole, sealed⟩ := parts success
  cases same
  obtain ⟨headed, looped, from_⟩ := buildFragments_some updated build ok
  obtain ⟨attribIs, _, _⟩ := xmitframeAddmic_some from_.added
  have start : (pbufStart + txdescSize + pktOffset * packetOffsetSz) % 4 = 0 := by
    unfold txdescSize packetOffsetSz
    omega
  have icvRoom : attrib.icvRoom = attrib.icvLen := if_pos swenc
  generalize pbufStart + txdescSize + pktOffset * packetOffsetSz = memStart at *
  generalize pkt.drop attrib.pktHdrlen = body at *
  rw [whole]
  constructor
  · rintro ⟨psta, one, plain, _, cipher, _, _, covered⟩
    refine ⟨fun wtmic => ?_, ?_⟩
    · rw [cipherStep, attribIs] at cipher
      simp only [fragmented, packed, wtmic] at cipher
      cases cipher
    · by_contra several
      obtain ⟨next, further, fragments⟩ := from_.several updated threshold several
      have spaced := from_.written.spaced
      have payloads := from_.written.payloads
      rw [fragments] at spaced payloads covered attribIs
      obtain ⟨fragment, member, data, _, behind⟩ := @uncovered (attrib.packed _)
        built.attrib.toXmitAttrib _ memStart _ _ spaced payloads (by rw [attribIs]; rfl)
        (by rw [attribIs]; rfl) (by rw [attribIs]; exact icvRoom.symm) (by rw [attribIs]; rfl) rfl
        (by
          have mic : (attrib.packed body).micLen ≤ 8 := by
            unfold micLen
            split <;> omega
          rw [attribIs]
          change (attrib.packed _).txcmdsz ((List.getLast? _).map _ |>.getD 0) + (attrib.packed _).micLen ≤ _
          rw [List.getLast?_eq_some_getLast (List.cons_ne_nil _ _), Option.map_some, Option.getD_some]
          exact Nat.add_le_add_left mic _) (Nat.le_refl _) (.inr (by simp))
      obtain ⟨place, inside, begins, ends⟩ := covered fragment member
        (fragment.payload + fragment.count - 1) (by omega) (by omega)
      obtain ⟨⟨size, start_⟩, step, rfl⟩ := mem_map.mp inside
      have short := behind (size, start_) (by
        rw [attribIs] at step
        rw [attribIs]
        exact step)
      dsimp only at begins ends short
      omega
  · rintro ⟨other, one⟩
    obtain ⟨mic, single⟩ := from_.singleFragment updated threshold one start
    have runs : built.attrib.cipherRuns = true := by
      have some_ := updated.bswenc swenc
      rw [single.single]
      change (attrib.bswenc && (attrib.encrypt.isWep || decide (attrib.encrypt = .tkip) ||
        decide (attrib.encrypt = .aes))) = true
      rw [swenc, Bool.true_and]
      cases encrypt : attrib.encrypt with
      | wep40 | wep104 | tkip | aes => rfl
      | noPrivacy => exact absurd encrypt some_
      | tkipWtmic => exact absurd encrypt other
    obtain ⟨step, cipher, ran_⟩ := xmitframeSwencrypt_eq sealed runs
    obtain ⟨after, known, keys⟩ := keys sta rfl
    rw [whole] at known
    refine ⟨after, step, built.buffer, known, ?_, ?_, ran_, ?_⟩
    · rw [← cipher]
      simp only [cipherStep, keys.staInfo]
    · dsimp only
      rw [single.fragments]
      have text := segment_take single.text (Nat.le_add_right (8 + body.length) _)
      rw [List.take_left' (by rw [List.length_append, putSnap_length])] at text
      simp [segments, FragmentPlace.text, text, single.single, TxAttrib.single, packed]
    · dsimp only
      rw [single.fragments, single.single]
      intro fragment member index first last
      rw [mem_singleton.mp member] at first last
      refine ⟨_, mem_cons_self .., first, ?_⟩
      change index < memStart + attrib.hdrlen + attrib.ivLen +
        (attrib.txcmdsz (8 + body.length) + attrib.micLen - attrib.hdrlen - attrib.ivLen - attrib.icvLen)
      dsimp only at last
      rw [txcmdsz, icvRoom]
      omega

theorem buildFragments_attrib {pbufStart pktOffset : Nat}
    (pktlen : attrib.pktlen = (pkt.drop attrib.pktHdrlen).length)
    (ran : buildFragments priv psta attrib pbufStart pktOffset pkt buffer = some built) :
    ∃ nrFrags lastTxcmdsz, built.attrib = { attrib with nrFrags, lastTxcmdsz } := by
  simp only [buildFragments, ← pktlen, bind_eq_bind, bind_eq_some_iff] at ran
  obtain ⟨headed, _, ran⟩ := ran
  split at ran
  · cases ran
    exact ⟨attrib.nrFrags, attrib.lastTxcmdsz, rfl⟩
  · simp only [bind_eq_some_iff, pure_def, some.injEq] at ran
    obtain ⟨⟨fragments, txpn, looped⟩, _, ⟨added, after, buffer_⟩, mic, rfl⟩ := ran
    rw [xmitframeAddmic] at mic
    split at mic
    · split at mic
      · cases mic
        exact ⟨_, _, rfl⟩
      · simp only [bind_eq_bind, bind_eq_some_iff, pure_def, some.injEq, Prod.mk.injEq] at mic
        obtain ⟨_, _, _, _, _, _, _, rfl, _⟩ := mic
        exact ⟨_, _, rfl⟩
    · cases mic
      exact ⟨_, _, rfl⟩

theorem xmitframeCoalesce_attrib {pbufStart : Option Nat} {pktOffset : Nat}
    (pktlen : attrib.pktlen = (pkt.drop attrib.pktHdrlen).length)
    (ran : xmitframeCoalesce stale priv known attrib pbufStart pktOffset pkt buffer = some coalesced) :
    ∃ nrFrags lastTxcmdsz, coalesced.attrib = { attrib with nrFrags, lastTxcmdsz } := by
  unfold xmitframeCoalesce at ran
  split at ran
  · simp only [bind_eq_bind, bind_eq_some_iff] at ran
    obtain ⟨built, build, ran⟩ := ran
    have same := buildFragments_attrib pktlen build
    split at ran
    · cases ran
      exact same
    · simp only [bind_eq_some_iff, pure_def, some.injEq] at ran
      obtain ⟨_, _, rfl⟩ := ran
      exact same
  · cases ran
    exact ⟨attrib.nrFrags, attrib.lastTxcmdsz, rfl⟩

def SentBuilt (stale : U16) (priv : TxPriv) (memStart : Nat) (body : List U8)
    (coalesced : Coalesced) (sent : List U8) : Prop :=
  coalesced.success = true ∧ (coalesced.attrib.bswenc = true →
    PayloadEncrypted stale priv memStart body coalesced ∧ ∀ fragment ∈ coalesced.fragments,
      segment sent fragment.payload fragment.count = segment coalesced.buffer fragment.payload fragment.count)

/-- A frame that is to be sent, as it waits: `update_attrib` has set the length to what is left
behind the Ethernet header, and no fragment has been written. -/
structure TxFrame.Prepared (frame : TxFrame) : Prop where
  updated : frame.attrib.Updated
  threshold : frame.attrib.Threshold
  pktlen : frame.attrib.pktlen = (frame.pkt.drop frame.attrib.pktHdrlen).length
  unsent : frame.attrib.lastTxcmdsz = 0

def TxFrame.body (frame : TxFrame) : List U8 := frame.pkt.drop frame.attrib.pktHdrlen

section Frame

variable {frame : TxFrame} {known : Option TxSta} {pbufStart pktOffset : Nat} {buffer sent : List U8}
  {coalesced : Coalesced}

theorem xmitframeNeedLength_eq (prepared : frame.Prepared) : xmitframeNeedLength frame.attrib =
    frame.attrib.txcmdsz (8 + frame.body.length) + frame.attrib.micLen := by
  rw [xmitframeNeedLength, prepared.pktlen, txcmdsz, micLen, TxFrame.body]
  omega

theorem sentBuilt_iff (prepared : frame.Prepared) (aligned : pbufStart % 4 = 0)
    (ran : xmitframeCoalesce stale priv known frame.attrib (some pbufStart) pktOffset frame.pkt buffer =
      some coalesced) (length : sent.length = coalesced.buffer.length)
    (kept : ∀ index, pbufStart + txdescSize + pktOffset * packetOffsetSz ≤ index →
      index < pbufStart + txdescSize + pktOffset * packetOffsetSz + xmitframeNeedLength frame.attrib →
      sent[index]? = coalesced.buffer[index]?) :
    SentBuilt stale priv (pbufStart + txdescSize + pktOffset * packetOffsetSz) frame.body coalesced
        sent ↔ CanBuild priv known frame.attrib ∧ EncryptedWhole frame.attrib frame.body := by
  have ⟨updated, threshold, pktlen, _⟩ := prepared
  obtain ⟨success, _, parts⟩ := xmitframeCoalesce_some updated rfl ran
  obtain ⟨_, _, attribIs⟩ := xmitframeCoalesce_attrib pktlen ran
  rw [SentBuilt, EncryptedWhole, success, attribIs]
  refine and_congr_right fun canBuild => forall_congr' fun swenc => ?_
  have encrypted_iff := payloadEncrypted_iff updated threshold aligned swenc ran (success.mpr canBuild)
  rw [show frame.pkt.drop frame.attrib.pktHdrlen = frame.body from rfl] at encrypted_iff
  rw [← encrypted_iff]
  refine and_iff_left_of_imp fun encrypted => ?_
  obtain ⟨sta, _, built, rfl, same, build, ok, whole, _⟩ := parts (success.mpr canBuild)
  cases same
  obtain ⟨headed, looped, from_⟩ := buildFragments_some updated build ok
  have fragments := from_.single updated threshold (encrypted_iff.mp encrypted).2
  rw [whole]
  rw [fragments]
  intro fragment member
  rw [mem_singleton.mp member]
  refine segment_congr length fun index begin ends => kept index ?_ ?_
  · dsimp only at begin
    omega
  · rw [xmitframeNeedLength_eq prepared, txcmdsz]
    dsimp only [TxFrame.body] at ends ⊢
    omega

end Frame

/-- Of a frame with its header at a place, some byte is among so many that are handed to
`write_port` from a place on. -/
def HandedOver (memStart : Nat) (coalesced : Coalesced) (first length : Nat) : Prop :=
  ∃ index, first ≤ index ∧ index < first + length ∧
    (memStart ≤ index ∧ index < memStart + coalesced.attrib.hdrlen ∨ ∃ fragment ∈ coalesced.fragments,
        fragment.start ≤ index ∧ index < fragment.payload + fragment.count)

theorem handedOver_header {memStart first length : Nat}
    (header : 0 < coalesced.attrib.hdrlen) (before : first ≤ memStart)
    (behind : memStart < first + length) : HandedOver memStart coalesced first length :=
  ⟨memStart, before, behind, .inl ⟨Nat.le_refl _, Nat.lt_add_of_pos_right header⟩⟩

theorem CanBuild.congr {before after : TxSta} (same : SameKeys before after) :
    CanBuild priv (some after) attrib ↔ CanBuild priv (some before) attrib := by
  simp only [CanBuild, some.injEq, exists_eq_left', txMickey, same.mickey]

theorem SameKeys.trans {first second third : TxSta} (same : SameKeys first second)
    (same_ : SameKeys second third) : SameKeys first third :=
  ⟨same_.staInfo.trans same.staInfo, same_.mickey.trans same.mickey⟩

section Transfers

variable {bulkSize usbTxAggDescNum : Nat} {txdesc : TxAttrib → Nat → Nat → Vector U8 32}

def PlacedFrame.memStart (placed : PlacedFrame) : Nat :=
  placed.start + txdescSize + placed.pktOffset * packetOffsetSz

/-- A frame of a transfer is as `xmitframe_coalesce` has left it, for a record with these keys,
and the room that has been counted for it is before a place. -/
structure PlacedFor (stale : U16) (priv : TxPriv) (psta : TxSta) (frames : List TxFrame) (pbufTail : Nat)
    (buffer : List U8) (placed : PlacedFrame) : Prop where
  frame : placed.frame ∈ frames
  aligned : placed.start % 8 = 0
  offset : placed.pktOffset ≤ 1
  header : txdescOffset ≤ placed.memStart
  tail : placed.memStart + xmitframeNeedLength placed.frame.attrib ≤ pbufTail
  ran : ∃ sta before, SameKeys psta sta ∧ xmitframeCoalesce stale priv (some sta) placed.frame.attrib
    (some placed.start) placed.pktOffset placed.frame.pkt before = some placed.coalesced
  length : buffer.length = placed.coalesced.buffer.length
  kept : ∀ index, placed.memStart ≤ index → index < placed.memStart + xmitframeNeedLength placed.frame.attrib →
    buffer[index]? = placed.coalesced.buffer[index]?

variable {frames waiting : List TxFrame} {first : TxFrame} {state next : Aggregation}

theorem PlacedFor.behind {pbufTail tail : Nat} {buffer after : List U8}
    {placed : PlacedFrame} (placedFor : PlacedFor stale priv psta frames pbufTail buffer placed)
    (same : SameOutside pbufTail buffer.length buffer after) (grows : pbufTail ≤ tail) :
    PlacedFor stale priv psta frames tail after placed :=
  { placedFor with
    tail := Nat.le_trans placedFor.tail grows
    length := same.1.trans placedFor.length
    kept := fun index begin ends => (same.2 index (.inl (Nat.lt_of_lt_of_le ends placedFor.tail))).trans
      (placedFor.kept index begin ends) }

structure Aggregation.Consistent (stale : U16) (priv : TxPriv) (psta : TxSta) (frames : List TxFrame)
    (state : Aggregation) : Prop where
  keys : ∃ sta, state.psta = some sta ∧ SameKeys psta sta
  pbuf : state.pbuf = rnd8 state.pbufTail
  begins : txdescOffset ≤ state.pbufTail
  placed : ∀ placed ∈ state.placed, PlacedFor stale priv psta frames state.pbufTail state.buffer placed
  ordered : state.placed.Pairwise fun placed other =>
    placed.memStart + xmitframeNeedLength placed.frame.attrib ≤ other.start

theorem xmitframeNeedLength_coalesced {frame : TxFrame} {pbufStart : Option Nat}
    {pktOffset : Nat} (prepared : frame.Prepared)
    (ran : xmitframeCoalesce stale priv known frame.attrib pbufStart pktOffset frame.pkt buffer = some coalesced) :
    xmitframeNeedLength coalesced.attrib = xmitframeNeedLength frame.attrib := by
  obtain ⟨nrFrags, lastTxcmdsz, attribIs⟩ := xmitframeCoalesce_attrib prepared.pktlen ran
  rw [attribIs]
  rfl

theorem placeFirst_consistent (prepared : first.Prepared)
    (ran : placeFirst stale priv bulkSize (some psta) first buffer = some state) :
    state.Consistent stale priv psta (first :: waiting) := by
  simp only [placeFirst, bind_eq_bind, bind_eq_some_iff, pure_def, some.injEq] at ran
  obtain ⟨coalesced, coalesce, rfl⟩ := ran
  have keys := (xmitframeCoalesce_some prepared.updated rfl coalesce).2.1 psta rfl
  refine ⟨keys, rfl, Nat.le_add_left .., fun placed member => ?_, List.pairwise_singleton ..⟩
  rw [mem_singleton.mp member]
  rw [xmitframeNeedLength_coalesced prepared coalesce]
  constructor
  case frame => exact mem_cons_self ..
  case aligned => rfl
  case offset => exact Nat.le_refl _
  case header => exact Nat.le_refl _
  case tail => exact Nat.le_of_eq (Nat.add_comm ..)
  case ran => exact ⟨psta, buffer, ⟨rfl, rfl⟩, coalesce⟩
  case length => rfl
  case kept => exact fun _ _ _ => rfl

theorem PlacedNext.sameOutside {frame : TxFrame} (updated : frame.attrib.Updated)
    (placedNext : PlacedNext stale priv txdesc frame state coalesced next) :
    SameOutside state.pbuf state.buffer.length state.buffer coalesced.buffer ∧
      SameOutside state.pbuf (state.pbuf + txdescSize) coalesced.buffer next.buffer := by
  have coalesced_ := xmitframeCoalesce_behind updated placedNext.ran
  exact ⟨coalesced_.mono (by omega) (Nat.le_refl _),
    overwrite_sameOutside placedNext.buffer (Nat.le_refl _) (by rw [Vector.length_toList]; exact Nat.le_refl _)⟩

theorem PlacedNext.consistent {frame : TxFrame} (member : frame ∈ frames) (prepared : frame.Prepared)
    (placedNext : PlacedNext stale priv txdesc frame state coalesced next)
    (consistent : state.Consistent stale priv psta frames) :
    next.Consistent stale priv psta frames := by
  obtain ⟨⟨sta, known, same⟩, pbuf, begins, placed, ordered⟩ := consistent
  obtain ⟨written, described⟩ := placedNext.sameOutside prepared.updated
  have run := placedNext.ran
  rw [known] at run
  obtain ⟨after, after_, keys⟩ := (xmitframeCoalesce_some prepared.updated rfl run).2.1 sta rfl
  have whole := rnd8_mod state.pbufTail
  have behind := rnd8_ge state.pbufTail
  rw [← pbuf] at whole behind
  have tail := placedNext.pbufTail
  have room := (overwrite_some placedNext.buffer).1
  rw [Vector.length_toList] at room
  have offset : txdescOffset = 40 := rfl
  have memStart : PlacedFrame.memStart ⟨frame, state.pbuf, 0, coalesced⟩ = state.pbuf + txdescSize := rfl
  constructor
  case keys => exact ⟨after, placedNext.psta.trans after_, same.trans keys⟩
  case pbuf => exact placedNext.pbuf
  case begins => omega
  case ordered =>
    rw [placedNext.placed]
    refine List.pairwise_append.mpr ⟨ordered, List.pairwise_singleton .., fun earlier inside last only => ?_⟩
    rw [mem_singleton.mp only]
    exact Nat.le_trans (placed earlier inside).tail behind
  case placed =>
    intro other inside
    rw [placedNext.placed, List.mem_append, mem_singleton] at inside
    rcases inside with earlier | rfl
    · refine (placed other earlier).behind ?_ (by omega)
      have described := described.mono (Nat.le_refl _) room
      rw [written.1] at described
      exact (written.trans described).mono behind (Nat.le_refl _)
    · constructor
      case frame => exact member
      case aligned => exact whole
      case offset => exact Nat.zero_le _
      case header =>
        rw [memStart, offset]
        change 40 ≤ state.pbuf + 32
        omega
      case tail =>
        rw [memStart, tail]
        dsimp only
        omega
      case ran => exact ⟨sta, state.buffer, same, run⟩
      case length => exact described.1
      case kept =>
        intro index begin _
        rw [memStart] at begin
        exact described.2 index (.inr begin)

theorem rtl8192cuXmitframeComplete_placed
    {transfer : Transfer} (prepared : ∀ frame ∈ first :: waiting, frame.Prepared)
    (ran : rtl8192cuXmitframeComplete stale priv bulkSize usbTxAggDescNum txdesc psta first waiting
      buffer = some transfer) :
    (transfer.placed.Pairwise fun placed other =>
        placed.memStart + xmitframeNeedLength placed.frame.attrib ≤ other.start) ∧
      ∀ placed ∈ transfer.placed, PlacedFor stale priv psta (first :: waiting)
          (transfer.start + transfer.length) transfer.buffer placed ∧
        HandedOver placed.memStart placed.coalesced transfer.start transfer.length := by
  simp only [rtl8192cuXmitframeComplete, bind_eq_bind, bind_eq_some_iff] at ran
  obtain ⟨begins, place, state, aggregated, finish⟩ := ran
  have consistent := @aggregateFrames_induction stale priv bulkSize usbTxAggDescNum txdesc
    (Aggregation.Consistent stale priv psta (first :: waiting)) _ _ _
    (fun frame member state coalesced next placed consistent =>
      placed.consistent (mem_cons_of_mem first member)
        (prepared frame (mem_cons_of_mem first member)) consistent)
    (placeFirst_consistent (prepared first (mem_cons_self ..)) place) aggregated
  simp only [finishTransfer, bind_eq_bind, bind_eq_some_iff, pure_def, some.injEq] at finish
  obtain ⟨sent, wrote, rfl⟩ := finish
  refine ⟨consistent.ordered, fun placed member => ?_⟩
  have placedFor := consistent.placed placed member
  have header := placedFor.header
  have tail := placedFor.tail
  have eight : packetOffsetSz = 8 := rfl
  have offset : txdescOffset = 40 := rfl
  have size : txdescSize = 32 := rfl
  have ends : (if state.pbufTail % bulkSize = 0 then packetOffsetSz else 0) +
      (if state.pbufTail % bulkSize = 0 then state.pbufTail - packetOffsetSz else state.pbufTail) =
        state.pbufTail := by
    split <;> omega
  have described : SameOutside 0 txdescOffset state.buffer sent := by
    refine overwrite_sameOutside wrote (Nat.zero_le _) ?_
    rw [Vector.length_toList]
    split <;> omega
  obtain ⟨sta, buffer, _, run⟩ := placedFor.ran
  obtain ⟨_, _, attribIs⟩ := xmitframeCoalesce_attrib (prepared _ placedFor.frame).pktlen run
  have hdrlen := (prepared _ placedFor.frame).updated.hdrlen
  have need : 0 < xmitframeNeedLength placed.frame.attrib := by
    unfold xmitframeNeedLength
    omega
  dsimp only
  rw [ends]
  refine ⟨{ placedFor with length := described.1.trans placedFor.length, kept := fun index begin last =>
    (described.2 index (.inr (Nat.le_trans header begin))).trans (placedFor.kept index begin last) },
    handedOver_header ?_ ?_ (by rw [ends]; omega)⟩
  · rw [attribIs]
    dsimp only
    omega
  · split <;> omega

theorem dumpXframe_handedOver {swEncrypt : Bool} {pktOffset : Nat} {known : Option TxSta}
    {pkt buffer : List U8} {coalesced : Coalesced} (updated : attrib.Updated)
    (threshold : attrib.Threshold) (pktlen : attrib.pktlen = (pkt.drop attrib.pktHdrlen).length)
    (ran : xmitframeCoalesce stale priv known attrib (some 0) pktOffset pkt buffer = some coalesced)
    (success : coalesced.success = true) :
    ∃ dumped ∈ dumpXframe bulkSize swEncrypt coalesced.attrib.toXmitAttrib 0,
      HandedOver (txdescSize + packetOffsetSz) coalesced dumped.bufAddr dumped.wSz := by
  obtain ⟨_, _, attribIs_⟩ := xmitframeCoalesce_attrib pktlen ran
  have header : coalesced.attrib.hdrlen = attrib.hdrlen := by rw [attribIs_]
  obtain ⟨_, _, parts⟩ := xmitframeCoalesce_some updated rfl ran
  obtain ⟨sta, _, built, rfl, same, build, ok, whole, _⟩ := parts success
  cases same
  obtain ⟨headed, looped, from_⟩ := buildFragments_some updated build ok
  obtain ⟨attribIs, _, _⟩ := xmitframeAddmic_some from_.added
  obtain ⟨later, fragments, _⟩ := from_.written.first
  have hdrlen := updated.hdrlen
  have overhead := updated.overhead_le
  have long := threshold.1
  have icvLen : attrib.icvLen ≤ 8 := by
    have icv := updated.icvLen
    cases encrypt : attrib.encrypt <;> simp only [encrypt] at icv <;> omega
  have count : coalesced.attrib.nrFrags = later.length + 1 := by
    rw [whole, attribIs]
    change built.fragments.length = _
    rw [fragments, List.length_cons]
  have last : attrib.hdrlen ≤ coalesced.attrib.lastTxcmdsz := by
    rw [whole, attribIs]
    change _ ≤ (attrib.packed _).txcmdsz _ + _
    rw [txcmdsz]
    change attrib.hdrlen ≤ attrib.hdrlen + _ + _ + _ + _
    omega
  have full : coalesced.attrib.fragLen = attrib.fragLen ∧ coalesced.attrib.icvLen = attrib.icvLen := by
    rw [whole, attribIs]
    exact ⟨rfl, rfl⟩
  have positive : 0 < if later.length = 0 then coalesced.attrib.lastTxcmdsz
      else coalesced.attrib.fragLen - 4 - if swEncrypt then 0 else coalesced.attrib.icvLen := by
    split
    · omega
    · split <;> omega
  rw [dumpXframe, count, dumpFragments]
  generalize (if later.length = 0 then coalesced.attrib.lastTxcmdsz
    else coalesced.attrib.fragLen - 4 - if swEncrypt then 0 else coalesced.attrib.icvLen) = sz at positive
  refine ⟨_, mem_cons_self .., handedOver_header (by omega) ?_ ?_⟩
  · dsimp only
    split <;> simp only [txdescSize, packetOffsetSz] <;> omega
  · dsimp only
    simp only [txdescSize, packetOffsetSz]
    by_cases whole : (sz + 32) % bulkSize = 0
    · simp [whole, positive]
    · simp only [whole, ne_eq, not_false_eq_true, if_true]
      omega

end Transfers

/-- What reaches `write_port` has been built and encrypted: for a frame that is sent directly if it
goes into one fragment, or cannot be built; for a frame of a transfer if it goes into one fragment
and can be built. -/
theorem sentBuilt_exactly {bulkSize usbTxAggDescNum : Nat} {swEncrypt : Bool}
    {txdesc : TxAttrib → Nat → Nat → Vector U8 32} :
    (∀ (known : Option TxSta) (frame : TxFrame) (buffer : List U8) (coalesced : Coalesced)
        (dumped : List DumpedFragment), frame.Prepared →
      xmitframeDirect stale priv bulkSize swEncrypt known frame buffer = some (coalesced, dumped) →
      ((∀ part ∈ dumped, HandedOver txdescOffset coalesced part.bufAddr part.wSz →
          SentBuilt stale priv txdescOffset frame.body coalesced coalesced.buffer) ↔
        (CanBuild priv known frame.attrib → EncryptedWhole frame.attrib frame.body))) ∧
    ∀ (psta : TxSta) (first : TxFrame) (waiting : List TxFrame) (buffer : List U8)
        (transfer : Transfer), (∀ frame ∈ first :: waiting, frame.Prepared) →
      rtl8192cuXmitframeComplete stale priv bulkSize usbTxAggDescNum txdesc psta first waiting buffer =
        some transfer →
      ∀ placed ∈ transfer.placed, placed.frame ∈ first :: waiting ∧
        ((HandedOver placed.memStart placed.coalesced transfer.start transfer.length →
            SentBuilt stale priv placed.memStart placed.frame.body placed.coalesced transfer.buffer) ↔
          CanBuild priv (some psta) placed.frame.attrib ∧
            EncryptedWhole placed.frame.attrib placed.frame.body) := by
  constructor
  · intro known frame buffer coalesced dumped prepared ran
    simp only [xmitframeDirect, bind_eq_bind, bind_eq_some_iff] at ran
    obtain ⟨left, coalesce, ran⟩ := ran
    have success := (xmitframeCoalesce_some prepared.updated rfl coalesce).1
    have built := @sentBuilt_iff stale priv frame known 0 1 buffer left.buffer left prepared rfl coalesce
      rfl fun _ _ _ => rfl
    split at ran
    · rename_i ok
      simp only [pure_def, some.injEq, Prod.mk.injEq] at ran
      obtain ⟨rfl, rfl⟩ := ran
      have canBuild := success.mp ok
      obtain ⟨part, member, handed⟩ := @dumpXframe_handedOver stale priv frame.attrib bulkSize swEncrypt
        1 known frame.pkt buffer left prepared.updated prepared.threshold prepared.pktlen coalesce ok
      constructor
      · exact fun sent _ => (built.mp (sent part member handed)).2
      · exact fun whole _ _ _ => built.mpr ⟨canBuild, whole canBuild⟩
    · rename_i failed
      simp only [pure_def, some.injEq, Prod.mk.injEq] at ran
      obtain ⟨rfl, rfl⟩ := ran
      exact iff_of_true (by simp) fun canBuild => absurd (success.mpr canBuild) failed
  · intro psta first waiting buffer transfer prepared ran placed member
    obtain ⟨placedFor, handed⟩ := (rtl8192cuXmitframeComplete_placed prepared ran).2 placed member
    obtain ⟨sta, before, keys, coalesce⟩ := placedFor.ran
    have aligned := placedFor.aligned
    refine ⟨placedFor.frame, ?_⟩
    rw [imp_iff_right handed, ← CanBuild.congr keys]
    exact sentBuilt_iff (prepared _ placedFor.frame) (by omega) coalesce placedFor.length placedFor.kept

def plainFrame : TxFrame := ⟨{ plainAttrib with pktlen := 6 }, List.replicate 20 0, false⟩

def tkipFrame : TxFrame where
  attrib := { plainAttrib with encrypt := .tkip, ivLen := 8, icvLen := 4, bswenc := true, pktlen := 6 }
  pkt := List.replicate 20 0
  sleeping := false

theorem plainFrame_prepared : plainFrame.Prepared where
  updated := ⟨.inl ⟨rfl, rfl, rfl⟩, rfl, rfl, fun swenc => absurd swenc (by decide)⟩
  threshold := ⟨by decide, by decide⟩
  pktlen := rfl
  unsent := rfl

theorem tkipFrame_prepared : tkipFrame.Prepared where
  updated := ⟨.inl ⟨rfl, rfl, rfl⟩, rfl, rfl, fun _ => by decide⟩
  threshold := ⟨by decide, by decide⟩
  pktlen := rfl
  unsent := rfl

theorem sentBuilt_exactly_plain :
    (∃ coalesced dumped, xmitframeDirect 0 plainPriv 512 false (some plainSta) plainFrame
        (List.replicate 104 0) = some (coalesced, dumped) ∧
      ∀ part ∈ dumped, HandedOver txdescOffset coalesced part.bufAddr part.wSz →
        SentBuilt 0 plainPriv txdescOffset plainFrame.body coalesced coalesced.buffer) ∧
    ∃ transfer, rtl8192cuXmitframeComplete 0 plainPriv 512 6 (fun _ _ _ => Vector.replicate 32 0)
        plainSta plainFrame [plainFrame] (List.replicate 256 0) = some transfer ∧
      ∀ placed ∈ transfer.placed,
        HandedOver placed.memStart placed.coalesced transfer.start transfer.length →
          SentBuilt 0 plainPriv placed.memStart placed.frame.body placed.coalesced transfer.buffer := by
  have canBuild : CanBuild plainPriv (some plainSta) plainFrame.attrib :=
    ⟨plainSta, rfl, rfl, fun tkip => absurd tkip (by decide)⟩
  have whole : EncryptedWhole plainFrame.attrib plainFrame.body := fun swenc => absurd swenc (by decide)
  obtain ⟨direct, transferred⟩ := @sentBuilt_exactly 0 plainPriv 512 6 false
    fun _ _ _ => Vector.replicate 32 0
  have done : (xmitframeDirect 0 plainPriv 512 false (some plainSta) plainFrame
      (List.replicate 104 0)).isSome = true := by decide +kernel
  have done_ : (rtl8192cuXmitframeComplete 0 plainPriv 512 6 (fun _ _ _ => Vector.replicate 32 0)
      plainSta plainFrame [plainFrame] (List.replicate 256 0)).isSome = true := by decide +kernel
  obtain ⟨⟨coalesced, dumped⟩, ran⟩ := isSome_iff_exists.mp done
  obtain ⟨transfer, ran_⟩ := isSome_iff_exists.mp done_
  refine ⟨⟨coalesced, dumped, ran, ?_⟩, transfer, ran_, fun placed member => ?_⟩
  · exact (direct _ _ _ _ _ plainFrame_prepared ran).mpr fun _ => whole
  · obtain ⟨inside, exactly⟩ := transferred plainSta plainFrame [plainFrame] _ transfer
      (fun frame member => by
        rcases mem_cons.mp member with rfl | member
        · exact plainFrame_prepared
        · rw [mem_singleton.mp member]
          exact plainFrame_prepared) ran_ placed member
    have same : placed.frame = plainFrame := by simpa using inside
    rw [same] at exactly
    rw [same]
    exact exactly.mpr ⟨canBuild, whole⟩

/-- The frame without a key is put behind it in clear, and handed over. -/
theorem sentBuilt_exactly_fails : ∃ transfer,
    rtl8192cuXmitframeComplete 0 plainPriv 512 6 (fun _ _ _ => Vector.replicate 32 0)
        plainSta plainFrame [tkipFrame] (List.replicate 256 0) = some transfer ∧
      ∃ placed ∈ transfer.placed, placed.coalesced.success = false ∧ placed.coalesced.attrib.bswenc = true ∧
        HandedOver placed.memStart placed.coalesced transfer.start transfer.length ∧
        segments transfer.buffer (placed.coalesced.fragments.map FragmentPlace.text) =
          some (putSnap placed.coalesced.attrib.etherType ++ placed.frame.body) := by
  have done : ((rtl8192cuXmitframeComplete 0 plainPriv 512 6 (fun _ _ _ => Vector.replicate 32 0)
      plainSta plainFrame [tkipFrame] (List.replicate 256 0)).map fun transfer =>
        transfer.placed.map fun placed => (placed.coalesced.success, placed.coalesced.attrib.bswenc,
          decide (segments transfer.buffer (placed.coalesced.fragments.map FragmentPlace.text) =
            some (putSnap placed.coalesced.attrib.etherType ++ placed.frame.body)))) =
      some [(true, false, true), (false, true, true)] := by decide +kernel
  obtain ⟨transfer, ran, frames⟩ := Option.map_eq_some_iff.mp done
  have second : ∃ placed ∈ transfer.placed, (placed.coalesced.success, placed.coalesced.attrib.bswenc,
      decide (segments transfer.buffer (placed.coalesced.fragments.map FragmentPlace.text) =
        some (putSnap placed.coalesced.attrib.etherType ++ placed.frame.body))) = (false, true, true) := by
    rw [← mem_map, frames]
    simp
  obtain ⟨placed, member, facts⟩ := second
  simp only [Prod.mk.injEq, decide_eq_true_eq] at facts
  obtain ⟨failed, swenc, clear⟩ := facts
  refine ⟨transfer, ran, placed, member, failed, swenc, ?_, clear⟩
  refine ((rtl8192cuXmitframeComplete_placed (fun frame inside => ?_) ran).2 placed member).2
  rcases mem_cons.mp inside with rfl | inside
  · exact plainFrame_prepared
  · rw [mem_singleton.mp inside]
    exact tkipFrame_prepared

end Floid.Wifi
