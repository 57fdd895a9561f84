import Mathlib.Data.List.Perm.Subperm
import Floid.Lib.Transition
import Floid.Wifi.DefragPayload

namespace Floid.Wifi

open Osk Lib
open Option (bind_eq_bind bind_some isNone_none not_mem_none)
open BitVec (ofNat)

structure Received (frame : RecvUnion) : Prop where
  laidOut : frame.hdr.LaidOut
  header : 24 ≤ frame.hdr.attrib.hdrlen

def payloads (fragments : List RecvUnion) : List U8 :=
  (fragments.map fun fragment => fragment.hdr.payload).flatten

/-- What a frame should be put together from: the fragments 0 to n of one sequence
number, the last of which is the one without the more fragments bit. Of a TKIP frame the
MIC is cut off. -/
structure Reassembled (fragments : List RecvUnion) (last returned : RecvUnion) : Prop where
  ends : ∃ front, fragments = front ++ [last] ∧ last.hdr.attrib.mfrag = false ∧
    ∀ fragment ∈ front, fragment.hdr.attrib.mfrag = true
  numbered : Numbered 0 fragments
  sequence : ∀ fragment ∈ fragments, fragment.hdr.attrib.seqNum = last.hdr.attrib.seqNum
  payload : ∃ mic, returned.hdr.payload ++ mic = payloads fragments ∧
    (mic = [] ∨ returned.hdr.attrib.encrypt = .tkip ∧ mic.length = 8)

section

variable (security : RxSecurity) (sta : StaInfo)

def MicPresent (fragments : List RecvUnion) : Prop :=
  ∀ first ∈ fragments.head?, first.hdr.attrib.privacy = true → first.hdr.attrib.encrypt = .tkip →
    (isMcast first.hdr.attrib.ra = true → security.binstallGrpkey = true) → 8 ≤ (payloads fragments).length

def RoomForAll : List RecvUnion → Prop
  | [] => True
  | first :: rest => first.hdr.attrib.fragNum = 0 →
      RoomFor first.hdr.buffer.length first.hdr.rxData 1 first.hdr.rxTail first.hdr.attrib.icvLen rest

def DefragOk (defragQ : List RecvUnion) (frame : RecvUnion) : Prop :=
  if frame.hdr.attrib.mfrag then frame.hdr.attrib.fragNum = 0 ∨ defragQ.length < 16
  else if frame.hdr.attrib.fragNum = 0 then MicPresent security [frame]
  else RoomForAll (defragQ ++ [frame]) ∧ (Numbered 0 (defragQ ++ [frame]) →
    (∀ fragment ∈ defragQ, fragment.hdr.attrib.seqNum = frame.hdr.attrib.seqNum) ∧
    (∀ fragment ∈ defragQ ++ [frame], fragment.hdr.Whole) ∧ MicPresent security (defragQ ++ [frame]))

/-- The queue of a station, with the sequence control of its last frames. The fragments that
have been let in and those that have been used are kept as well. -/
structure DefragState where
  tidRxseq : Vector U16 16
  defragQ : List RecvUnion
  inputs : List RecvUnion
  uses : List RecvUnion

/-- The frames that are used up by a call: all that wait and the frame itself, if they are put
together, or the frame alone. -/
def usedFrames (defragQ : List RecvUnion) (frame : RecvUnion) (result : DefragResult) : List RecvUnion :=
  if result.returned.isNone then []
  else if frame.hdr.attrib.fragNum = 0 then [frame]
  else defragQ ++ [frame]

inductive DefragStep (before : DefragState) (frame : RecvUnion) : DefragState → Prop
  | duplicate (refused : recvDecache before.tidRxseq frame.hdr.attrib = none) : DefragStep before frame before
  | fragment {tidRxseq : Vector U16 16} {result : DefragResult} {defragQ : List RecvUnion}
      (letIn : recvDecache before.tidRxseq frame.hdr.attrib = some tidRxseq)
      (called : recvframeChkDefrag security (some sta) (some before.defragQ) frame = some result)
      (queue : result.defragQ = some defragQ) :
      DefragStep before frame
        { tidRxseq, defragQ
          inputs := before.inputs ++ [frame]
          uses := before.uses ++ usedFrames before.defragQ frame result }

def defragSystem : TransitionSystem DefragState RecvUnion where
  initial state := state = ⟨.replicate 16 0xffff, [], [], []⟩
  step before frame after := Received frame ∧ DefragStep security sta before frame after

end

variable {security : RxSecurity} {sta : StaInfo}

structure DefragState.Sound (state : DefragState) : Prop where
  received : ∀ fragment ∈ state.defragQ, Received fragment ∧ fragment.hdr.attrib.mfrag = true
  length : state.defragQ.length ≤ 16
  inOrder : state.defragQ.Sublist state.inputs
  once : (state.uses ++ state.defragQ).Subperm state.inputs

variable {frame : RecvFrame}

theorem payload_length (laidOut : frame.LaidOut) (whole : frame.Whole) :
    frame.payload.length = frame.len.toNat - frame.overhead :=
  segment_length (laidOut.payload_eq whole)

theorem whole_of_payload (some : 0 < frame.payload.length) : frame.Whole := by
  rw [RecvFrame.payload, List.length_take] at some
  rw [RecvFrame.Whole]
  omega

theorem micMatches_exists (mickey : Vector U8 16) (laidOut : frame.LaidOut)
    (header : 24 ≤ frame.attrib.hdrlen) (whole : frame.Whole) (long : 8 ≤ frame.payload.length) :
    ∃ success, micMatches mickey frame = some success := by
  have length := laidOut.length
  have inside := laidOut.inside
  rw [payload_length laidOut whole] at long
  unfold RecvFrame.Whole at whole
  unfold RecvFrame.overhead at whole long
  have datalen : (frame.len - ofNat 32 frame.attrib.hdrlen - ofNat 32 frame.attrib.ivLen -
      ofNat 32 frame.attrib.icvLen - 8).toNat = frame.len.toNat -
        (frame.attrib.hdrlen + frame.attrib.ivLen + frame.attrib.icvLen + 8) := by
    have first := sub_ofNat_toNat (show frame.attrib.hdrlen ≤ frame.len.toNat by omega)
    have second := @sub_ofNat_toNat (frame.len - ofNat 32 frame.attrib.hdrlen)
      frame.attrib.ivLen (by omega)
    have third := @sub_ofNat_toNat (frame.len - ofNat 32 frame.attrib.hdrlen -
      ofNat 32 frame.attrib.ivLen) frame.attrib.icvLen (by omega)
    rw [show (8 : U32) = ofNat 32 8 from rfl, sub_ofNat_toNat (by omega)]
    omega
  have headerLong : 32 ≤ (frame.buffer.drop frame.rxData).length := by
    rw [List.length_drop]
    omega
  have mic (data : List U8) : ∃ miccode, seccalctkipmic mickey (frame.buffer.drop frame.rxData) data
      frame.attrib.priority = some miccode := by
    rw [seccalctkipmic, List.getElem?_eq_getElem (by omega), bind_eq_bind, bind_some]
    dsimp only
    rw [segment_of_le (by split <;> omega), segment_of_le (by split <;> (try split) <;> omega)]
    exact ⟨_, rfl⟩
  obtain ⟨miccode, micIs⟩ := mic ((frame.buffer.drop (frame.rxData + frame.attrib.hdrlen +
    frame.attrib.ivLen)).take (frame.len.toNat -
      (frame.attrib.hdrlen + frame.attrib.ivLen + frame.attrib.icvLen + 8)))
  rw [micMatches, datalen, segment_of_le (by omega), bind_eq_bind, bind_some, micIs,
    bind_some, segment_of_le (by omega)]
  exact ⟨_, rfl⟩

theorem pullTail_payload (laidOut : frame.LaidOut) (whole : frame.Whole)
    (long : 8 ≤ frame.payload.length) :
    ∃ mic, ((frame.pullTail 8).getD frame).payload ++ mic = frame.payload ∧ mic.length = 8 := by
  have length := payload_length laidOut whole
  have less : frame.len.toNat - 8 - frame.overhead = frame.len.toNat - frame.overhead - 8 := by omega
  rw [laidOut.pullTail_eq, if_pos (by omega)]
  refine ⟨frame.payload.drop (frame.len.toNat - frame.overhead - 8), ?_, ?_⟩
  · have cut : frame.payload.take (frame.len.toNat - frame.overhead - 8) =
        RecvFrame.payload { frame with rxTail := frame.rxTail - 8, len := frame.len - ofNat 32 8 } := by
      rw [RecvFrame.payload, RecvFrame.payload, List.take_take]
      rw [sub_ofNat_toNat (by omega), Nat.min_eq_left (by omega)]
      congr 1
      exact less.symm
    rw [← cut, List.take_append_drop]
  · rw [List.length_drop]
    omega

theorem recvframeChkmic_exists (laidOut : frame.LaidOut) (header : 24 ≤ frame.attrib.hdrlen)
    (long : frame.attrib.encrypt = .tkip → (isMcast frame.attrib.ra = true → security.binstallGrpkey = true) →
      frame.Whole ∧ 8 ≤ frame.payload.length) :
    ∃ success hdr, recvframeChkmic security (some sta) frame = some (success, hdr) ∧
      (success = true → ∃ mic, hdr.payload ++ mic = frame.payload ∧
        (mic = [] ∨ hdr.attrib.encrypt = .tkip ∧ mic.length = 8)) := by
  have kept : ((frame.pullTail 8).getD frame).attrib = frame.attrib := by
    rw [laidOut.pullTail_eq]
    split <;> rfl
  have checked (mickey : Vector U8 16) (tkip : frame.attrib.encrypt = .tkip) (whole : frame.Whole)
      (enough : 8 ≤ frame.payload.length) :
      ∃ success hdr, (micMatches mickey frame).map (fun ok => (ok, (frame.pullTail 8).getD frame)) =
        some (success, hdr) ∧ (success = true → ∃ mic, hdr.payload ++ mic = frame.payload ∧
          (mic = [] ∨ hdr.attrib.encrypt = .tkip ∧ mic.length = 8)) := by
    obtain ⟨success, matches_⟩ := micMatches_exists mickey laidOut header whole enough
    obtain ⟨mic, payload, micLength⟩ := pullTail_payload laidOut whole enough
    exact ⟨success, _, by rw [matches_]; rfl, fun _ => ⟨mic, payload, .inr ⟨by rw [kept]; exact tkip, micLength⟩⟩⟩
  rw [recvframeChkmic]
  by_cases tkip : frame.attrib.encrypt = .tkip
  · rw [if_pos tkip]
    by_cases mcast : isMcast frame.attrib.ra = true
    · rw [if_pos mcast]
      by_cases installed : security.binstallGrpkey = true
      · obtain ⟨whole, enough⟩ := long tkip fun _ => installed
        rw [if_neg (by simp [installed])]
        exact checked _ tkip whole enough
      · rw [if_pos (by simp [installed])]
        exact ⟨false, frame, rfl, fun fails => by cases fails⟩
    · obtain ⟨whole, enough⟩ := long tkip fun always => absurd always mcast
      rw [if_neg mcast]
      exact checked _ tkip whole enough
  · rw [if_neg tkip]
    exact ⟨true, frame, rfl, fun _ => ⟨[], by simp, .inl rfl⟩⟩

variable {frame : RecvUnion}

theorem recvframeChkDefrag_exists {defragQ : Option (List RecvUnion)}
    {queued : DefragResult} (result : queueFragment defragQ frame = some queued)
    (checkable : ∀ returned ∈ queued.returned, returned.hdr.attrib.privacy = true →
      ∃ success hdr, recvframeChkmic security (some sta) returned.hdr = some (success, hdr) ∧
        (success = true → ∃ mic, hdr.payload ++ mic = returned.hdr.payload ∧
          (mic = [] ∨ hdr.attrib.encrypt = .tkip ∧ mic.length = 8))) :
    ∃ checked, recvframeChkDefrag security (some sta) defragQ frame = some checked ∧
      checked.defragQ = queued.defragQ ∧ (queued.returned = none → checked.returned = none) ∧
      ∀ final ∈ checked.returned, ∃ returned ∈ queued.returned, ∃ mic,
        final.hdr.payload ++ mic = returned.hdr.payload ∧
          (mic = [] ∨ final.hdr.attrib.encrypt = .tkip ∧ mic.length = 8) := by
  rw [recvframeChkDefrag, result, bind_eq_bind, bind_some]
  cases found : queued.returned with
  | none =>
    refine ⟨queued, rfl, rfl, fun _ => found, fun final member => ?_⟩
    rw [found] at member
    cases member
  | some returned =>
    dsimp only
    by_cases privacy : returned.hdr.attrib.privacy = true
    · obtain ⟨success, hdr, checked, kept⟩ := checkable returned found privacy
      rw [if_pos privacy, checked, bind_eq_bind, bind_some]
      cases success with
      | false =>
        refine ⟨_, rfl, rfl, by simp, fun final member => ?_⟩
        cases member
      | true =>
        refine ⟨_, rfl, rfl, by simp, fun final member => ?_⟩
        cases member
        obtain ⟨mic, payload, short⟩ := kept rfl
        exact ⟨returned, rfl, mic, payload, short⟩
    · rw [if_neg privacy]
      refine ⟨queued, rfl, rfl, by simp, fun final member => ?_⟩
      rw [found] at member
      cases member
      exact ⟨returned, rfl, [], by simp, .inl rfl⟩

theorem recvframeDefrag_exists {defragQ : List RecvUnion}
    (received : ∀ fragment ∈ defragQ ++ [frame], Received fragment)
    (room : RoomForAll (defragQ ++ [frame])) :
    ∃ returned freed, recvframeDefrag (defragQ ++ [frame]) = some (returned, freed) ∧
      ∀ whole ∈ returned, Numbered 0 (defragQ ++ [frame]) ∧ whole.hdr.LaidOut ∧ 24 ≤ whole.hdr.attrib.hdrlen ∧
        (∀ first ∈ (defragQ ++ [frame]).head?, ∃ icvLen, whole.hdr.attrib = { first.hdr.attrib with icvLen }) ∧
        ((∀ fragment ∈ defragQ ++ [frame], fragment.hdr.Whole) →
          whole.hdr.Whole ∧ whole.hdr.payload = payloads (defragQ ++ [frame])) := by
  cases all : defragQ ++ [frame] with
  | nil => simp at all
  | cons first rest =>
    rw [all] at received room
    rw [recvframeDefrag]
    by_cases zero : first.hdr.attrib.fragNum = 0
    · obtain ⟨firstLaid, firstHeader⟩ := received first (by simp)
      obtain ⟨returned, result, unnumbered, numbered⟩ := recvframeDefragFrom_exists firstLaid
        (fun fragment member => (received fragment (by simp [member])).laidOut) (room zero)
      rw [if_neg (fun differs => differs zero), result, bind_eq_bind, bind_some]
      by_cases goesOn : Numbered 1 rest
      · obtain ⟨after, icvLen, rfl, afterLaid, attrib, payload⟩ := numbered goesOn
        refine ⟨_, _, rfl, fun whole member => ?_⟩
        cases member
        refine ⟨⟨zero.symm, goesOn⟩, afterLaid, by rw [attrib]; exact firstHeader, ?_, ?_⟩
        · intro head member
          cases member
          exact ⟨icvLen, attrib⟩
        · intro allWhole
          obtain ⟨afterWhole, afterPayload⟩ := payload (allWhole first (by simp))
            fun fragment member => allWhole fragment (by simp [member])
          refine ⟨afterWhole, ?_⟩
          rw [afterPayload, payloads, List.map_cons, List.flatten_cons]
      · cases unnumbered goesOn
        exact ⟨_, _, rfl, fun whole member => absurd member (not_mem_none whole)⟩
    · rw [if_pos zero]
      exact ⟨_, _, rfl, fun whole member => absurd member (not_mem_none whole)⟩

inductive QueueAfter (defragQ : List RecvUnion) (frame : RecvUnion) (result : DefragResult) :
    List RecvUnion → Prop
  | first (more : frame.hdr.attrib.mfrag = true) (nothing : result.returned = none) :
      QueueAfter defragQ frame result [frame]
  | later (more : frame.hdr.attrib.mfrag = true) (nothing : result.returned = none)
      (few : defragQ.length < 16) : QueueAfter defragQ frame result (defragQ ++ [frame])
  | unfragmented (zero : frame.hdr.attrib.fragNum = 0) (more : frame.hdr.attrib.mfrag = false) :
      QueueAfter defragQ frame result defragQ
  | last (fragmented : frame.hdr.attrib.fragNum ≠ 0) (more : frame.hdr.attrib.mfrag = false) :
      QueueAfter defragQ frame result []

section

variable {defragQ : List RecvUnion} {frame : RecvUnion}

theorem queueFragment_first (more : frame.hdr.attrib.mfrag = true) (zero : frame.hdr.attrib.fragNum = 0) :
    queueFragment (some defragQ) frame = some ⟨none, some [frame], defragQ⟩ := by
  simp only [queueFragment, more]
  exact if_pos zero

theorem queueFragment_later (more : frame.hdr.attrib.mfrag = true) (fragmented : frame.hdr.attrib.fragNum ≠ 0) :
    queueFragment (some defragQ) frame = some ⟨none, some (defragQ ++ [frame]), []⟩ := by
  simp only [queueFragment, more]
  exact if_neg fragmented

theorem queueFragment_unfragmented (more : frame.hdr.attrib.mfrag = false) (zero : frame.hdr.attrib.fragNum = 0) :
    queueFragment (some defragQ) frame = some ⟨some frame, some defragQ, []⟩ := by
  simp only [queueFragment, more]
  exact if_pos zero

theorem queueFragment_last (more : frame.hdr.attrib.mfrag = false) (fragmented : frame.hdr.attrib.fragNum ≠ 0) :
    queueFragment (some defragQ) frame =
      (recvframeDefrag (defragQ ++ [frame])).map fun (returned, freed) =>
        ⟨returned, some [], freed⟩ := by
  simp only [queueFragment, more]
  exact if_neg fragmented

theorem usedFrames_unfragmented {result : DefragResult} {returned : RecvUnion}
    (member : returned ∈ result.returned) (zero : frame.hdr.attrib.fragNum = 0) :
    usedFrames defragQ frame result = [frame] := by
  rw [usedFrames, show result.returned = some returned from member, if_neg (by simp), if_pos zero]

theorem usedFrames_last {result : DefragResult} {returned : RecvUnion}
    (member : returned ∈ result.returned) (fragmented : frame.hdr.attrib.fragNum ≠ 0) :
    usedFrames defragQ frame result = defragQ ++ [frame] := by
  rw [usedFrames, show result.returned = some returned from member, if_neg (by simp), if_neg fragmented]

end

def Completes (security : RxSecurity) (sta : StaInfo) (defragQ : List RecvUnion) (frame : RecvUnion) : Prop :=
  ∃ result after, recvframeChkDefrag security (some sta) (some defragQ) frame = some result ∧
    result.defragQ = some after ∧ QueueAfter defragQ frame result after ∧
    ∀ returned ∈ result.returned, Reassembled (usedFrames defragQ frame result) frame returned

section

variable {defragQ : List RecvUnion} {frame : RecvUnion}

theorem completes_more (more : frame.hdr.attrib.mfrag = true)
    (ok : DefragOk security defragQ frame) : Completes security sta defragQ frame := by
  rw [DefragOk, if_pos more] at ok
  by_cases zero : frame.hdr.attrib.fragNum = 0
  · obtain ⟨result, ran, queue, nothing, _⟩ := @recvframeChkDefrag_exists security sta _ _ _
      (@queueFragment_first defragQ frame more zero)
      fun returned member => absurd member (not_mem_none returned)
    refine ⟨result, _, ran, queue, .first more (nothing rfl), fun returned member => ?_⟩
    rw [nothing rfl] at member
    cases member
  · obtain ⟨result, ran, queue, nothing, _⟩ := @recvframeChkDefrag_exists security sta _ _ _
      (@queueFragment_later defragQ frame more zero)
      fun returned member => absurd member (not_mem_none returned)
    refine ⟨result, _, ran, queue, .later more (nothing rfl) (ok.resolve_left zero), fun returned member => ?_⟩
    rw [nothing rfl] at member
    cases member

theorem completes_unfragmented (received : Received frame) (more : frame.hdr.attrib.mfrag = false)
    (zero : frame.hdr.attrib.fragNum = 0) (ok : DefragOk security defragQ frame) :
    Completes security sta defragQ frame := by
  rw [DefragOk, more, if_neg (by simp), if_pos zero] at ok
  have checkable (returned : RecvUnion) (member : returned ∈ some frame)
      (privacy : returned.hdr.attrib.privacy = true) :
      ∃ success hdr, recvframeChkmic security (some sta) returned.hdr = some (success, hdr) ∧
        (success = true → ∃ mic, hdr.payload ++ mic = returned.hdr.payload ∧
          (mic = [] ∨ hdr.attrib.encrypt = .tkip ∧ mic.length = 8)) := by
    cases member
    refine recvframeChkmic_exists received.laidOut received.header fun tkip installed => ?_
    have long := ok frame rfl privacy tkip installed
    rw [payloads, List.map_singleton, List.flatten_singleton] at long
    exact ⟨whole_of_payload (by omega), long⟩
  obtain ⟨result, ran, queue, _, kept⟩ := @recvframeChkDefrag_exists security sta _ _ _
    (@queueFragment_unfragmented defragQ frame more zero) checkable
  refine ⟨result, _, ran, queue, .unfragmented zero more, fun returned member => ?_⟩
  obtain ⟨same, isFrame, mic, payload, short⟩ := kept returned member
  cases isFrame
  rw [usedFrames_unfragmented member zero]
  refine ⟨⟨[], rfl, more, by simp⟩, ⟨zero.symm, trivial⟩, by simp, mic, ?_, short⟩
  rw [payload, payloads, List.map_singleton, List.flatten_singleton]

theorem completes_last (waiting : ∀ fragment ∈ defragQ, Received fragment ∧
      fragment.hdr.attrib.mfrag = true) (received : Received frame)
    (more : frame.hdr.attrib.mfrag = false) (fragmented : frame.hdr.attrib.fragNum ≠ 0)
    (ok : DefragOk security defragQ frame) : Completes security sta defragQ frame := by
  rw [DefragOk, more, if_neg (by simp), if_neg fragmented] at ok
  obtain ⟨room, alike⟩ := ok
  have allReceived : ∀ fragment ∈ defragQ ++ [frame], Received fragment := by
    intro fragment member
    rcases List.mem_append.mp member with waits | isFrame
    · exact (waiting fragment waits).1
    · cases List.mem_singleton.mp isFrame
      exact received
  obtain ⟨whole, freed, ran, joined⟩ := recvframeDefrag_exists allReceived room
  have queued := @queueFragment_last defragQ frame more fragmented
  rw [ran, Option.map_some] at queued
  have checkable (returned : RecvUnion) (member : returned ∈ whole)
      (privacy : returned.hdr.attrib.privacy = true) :
      ∃ success hdr, recvframeChkmic security (some sta) returned.hdr = some (success, hdr) ∧
        (success = true → ∃ mic, hdr.payload ++ mic = returned.hdr.payload ∧
          (mic = [] ∨ hdr.attrib.encrypt = .tkip ∧ mic.length = 8)) := by
    obtain ⟨numbered, laidOut, header, attribs, payload⟩ := joined returned member
    obtain ⟨_, allWhole, present⟩ := alike numbered
    obtain ⟨isWhole, payloadIs⟩ := payload allWhole
    refine recvframeChkmic_exists laidOut header fun tkip installed => ⟨isWhole, ?_⟩
    rw [payloadIs]
    obtain ⟨head, first⟩ : ∃ head, (defragQ ++ [frame]).head? = some head := by
      cases defragQ <;> exact ⟨_, rfl⟩
    obtain ⟨icvLen, attrib⟩ := attribs head first
    rw [attrib] at privacy tkip installed
    exact present head first privacy tkip installed
  obtain ⟨result, called, queue, _, kept⟩ := @recvframeChkDefrag_exists security sta _ _ _
    queued checkable
  refine ⟨result, _, called, queue, .last fragmented more, fun returned member => ?_⟩
  obtain ⟨joinedFrame, isJoined, mic, payload, short⟩ := kept returned member
  obtain ⟨numbered, _, _, _, joinedPayload⟩ := joined joinedFrame isJoined
  obtain ⟨sequence, allWhole, _⟩ := alike numbered
  rw [usedFrames_last member fragmented]
  refine ⟨⟨defragQ, rfl, more, fun fragment waits => (waiting fragment waits).2⟩,
    numbered, fun fragment inAll => ?_, mic, by rw [payload, (joinedPayload allWhole).2], short⟩
  rcases List.mem_append.mp inAll with waits | isFrame
  · exact sequence fragment waits
  · cases List.mem_singleton.mp isFrame
    rfl

end

theorem DefragState.Sound.completes {state : DefragState} (sound : state.Sound) {frame : RecvUnion}
    (received : Received frame) (ok : DefragOk security state.defragQ frame) :
    Completes security sta state.defragQ frame := by
  cases more : frame.hdr.attrib.mfrag with
  | true => exact completes_more more ok
  | false =>
    by_cases zero : frame.hdr.attrib.fragNum = 0
    · exact completes_unfragmented received more zero ok
    · exact completes_last sound.received received more zero ok

theorem QueueAfter.once {defragQ after : List RecvUnion} {frame : RecvUnion} {result : DefragResult}
    (queue : QueueAfter defragQ frame result after) :
    (usedFrames defragQ frame result ++ after).Subperm (defragQ ++ [frame]) := by
  unfold usedFrames
  cases queue with
  | first more nothing =>
    rw [nothing, isNone_none, if_pos rfl]
    exact (List.sublist_append_right defragQ [frame]).subperm
  | later more nothing few =>
    rw [nothing, isNone_none, if_pos rfl]
    exact List.Subperm.refl _
  | unfragmented zero more =>
    split
    · exact (List.sublist_append_left defragQ [frame]).subperm
    · exact List.perm_append_comm.subperm
  | last fragmented more =>
    split
    · exact List.nil_subperm
    · rw [List.append_nil]

theorem QueueAfter.inOrder {defragQ after inputs : List RecvUnion} {frame : RecvUnion}
    {result : DefragResult} (queue : QueueAfter defragQ frame result after)
    (inOrder : defragQ.Sublist inputs) : after.Sublist (inputs ++ [frame]) := by
  cases queue with
  | first more nothing => exact List.sublist_append_right inputs [frame]
  | later more nothing few => exact inOrder.append_right [frame]
  | unfragmented zero more => exact inOrder.trans (List.sublist_append_left inputs [frame])
  | last fragmented more => exact List.nil_sublist _

theorem QueueAfter.length_le {defragQ after : List RecvUnion} {frame : RecvUnion}
    {result : DefragResult} (queue : QueueAfter defragQ frame result after)
    (length : defragQ.length ≤ 16) : after.length ≤ 16 := by
  cases queue with
  | first more nothing => simp
  | later more nothing few =>
    rw [List.length_append, List.length_singleton]
    omega
  | unfragmented zero more => exact length
  | last fragmented more => simp

theorem QueueAfter.received {defragQ after : List RecvUnion} {frame : RecvUnion}
    {result : DefragResult} (queue : QueueAfter defragQ frame result after)
    (waiting : ∀ fragment ∈ defragQ, Received fragment ∧ fragment.hdr.attrib.mfrag = true)
    (received : Received frame) :
    ∀ fragment ∈ after, Received fragment ∧ fragment.hdr.attrib.mfrag = true := by
  cases queue with
  | first more nothing =>
    intro fragment member
    cases List.mem_singleton.mp member
    exact ⟨received, more⟩
  | later more nothing few =>
    intro fragment member
    rcases List.mem_append.mp member with waits | isFrame
    · exact waiting fragment waits
    · cases List.mem_singleton.mp isFrame
      exact ⟨received, more⟩
  | unfragmented zero more => exact waiting
  | last fragmented more => simp

def FragmentOk (security : RxSecurity) (state : DefragState) (frame : RecvUnion) : Prop :=
  recvDecache state.tidRxseq frame.hdr.attrib ≠ none → DefragOk security state.defragQ frame

theorem DefragState.Sound.step {before after : DefragState} (sound : before.Sound)
    {frame : RecvUnion} (received : Received frame) (ok : FragmentOk security before frame)
    (step : DefragStep security sta before frame after) : after.Sound := by
  cases step with
  | duplicate refused => exact sound
  | @fragment tidRxseq result defragQ letIn called queue =>
    obtain ⟨same, waits, ran, queueIs, queueAfter, _⟩ :=
      @DefragState.Sound.completes security sta _ sound _ received (ok (by simp [letIn]))
    rw [called] at ran
    cases ran
    rw [queue] at queueIs
    cases queueIs
    refine ⟨queueAfter.received sound.received received, queueAfter.length_le sound.length,
      queueAfter.inOrder sound.inOrder, ?_⟩
    change (before.uses ++ usedFrames before.defragQ frame result ++ defragQ).Subperm
      (before.inputs ++ [frame])
    rw [List.append_assoc]
    refine ((List.subperm_append_left before.uses).mpr queueAfter.once).trans ?_
    rw [← List.append_assoc]
    exact (List.subperm_append_right [frame]).mpr sound.once

theorem DefragState.Sound.of_reachable {state : DefragState}
    (reached : ((defragSystem security sta).restrict (FragmentOk security)).Reachable state) :
    state.Sound := by
  refine reached.invariant ?_ ?_
  · rintro _ rfl
    exact ⟨by simp, by simp, by simp, by simp⟩
  · intro before frame after sound ⟨ok, received, step⟩
    exact sound.step received ok step

/-- If no frame of another MSDU with the right number is let in, nor too many at all, nor one that
is not as long as its header says, every call completes, and what it returns is put together
from the fragments of one MSDU. None of them is used twice, and at most 16 wait. -/
theorem recvframeChkDefrag_runs {state : DefragState}
    (reached : ((defragSystem security sta).restrict (FragmentOk security)).Reachable state) :
    state.defragQ.length ≤ 16 ∧ state.defragQ.Sublist state.inputs ∧
      (state.uses ++ state.defragQ).Subperm state.inputs ∧
      ∀ frame, Received frame → FragmentOk security state frame →
        recvDecache state.tidRxseq frame.hdr.attrib ≠ none →
        ∃ result, recvframeChkDefrag security (some sta) (some state.defragQ) frame = some result ∧
          ∀ returned ∈ result.returned, Reassembled (usedFrames state.defragQ frame result) frame returned := by
  have sound := DefragState.Sound.of_reachable reached
  refine ⟨sound.length, sound.inOrder, sound.once, fun frame received ok letIn => ?_⟩
  obtain ⟨result, _, ran, _, _, reassembled⟩ :=
    @DefragState.Sound.completes security sta _ sound _ received (ok letIn)
  exact ⟨result, ran, reassembled⟩

def byteFragment (index : Fin nrRecvframe) (seqNum : U16) (fragNum : U8) (mfrag : Bool) (byte : U8) : RecvUnion where
  index
  hdr :=
    { attrib :=
        { amsdu := false, order := false, qos := false, toFrDs := 1, seqNum, fragNum, mfrag
          privacy := false, bdecrypted := false, hdrlen := 24, ivLen := 0, icvLen := 0
          encrypt := .noPrivacy, priority := 0
          dst := .replicate 6 0, src := .replicate 6 0, ta := .replicate 6 0
          ra := .replicate 6 0, bssid := .replicate 6 0 }
      len := 25
      buffer := List.replicate 24 0 ++ byte :: List.replicate 7 0
      rxData := 0
      rxTail := 25 }

theorem byteFragment_received (index : Fin nrRecvframe) (seqNum : U16) (fragNum : U8)
    (mfrag : Bool) (byte : U8) : Received (byteFragment index seqNum fragNum mfrag byte) :=
  ⟨⟨rfl, (by decide : 25 ≤ 32), (by decide : 32 < 2 ^ 32)⟩, (by decide : 24 ≤ 24)⟩

def openSecurity : RxSecurity where
  dot11AuthAlgrthm := 0
  binstallGrpkey := false
  swDecrypt := true
  dot118021XGrpKeyid := 0
  dot118021XGrpKey _ := .replicate 16 0
  dot118021XGrprxmickey := .replicate 16 0

def openSta : StaInfo where
  ieee8021xBlocked := false
  dot118021xUncstKey := .replicate 16 0
  dot11tkiprxmickey := .replicate 16 0

def firstFragment : RecvUnion := byteFragment ⟨0, by decide⟩ 1 0 true 0x61

def lastFragment (seqNum : U16) : RecvUnion := byteFragment ⟨1, by decide⟩ seqNum 1 false 0x62

theorem sixteen_pos : 0 < 16 := by decide

def afterFirst : DefragState where
  tidRxseq := (Vector.replicate 16 0xffff).set 0 0x10 sixteen_pos
  defragQ := [firstFragment]
  inputs := [firstFragment]
  uses := []

theorem afterFirst_step :
    DefragStep openSecurity openSta ⟨.replicate 16 0xffff, [], [], []⟩ firstFragment afterFirst := by
  have letIn : recvDecache (Vector.replicate 16 0xffff) firstFragment.hdr.attrib =
      some afterFirst.tidRxseq := by decide
  have called : recvframeChkDefrag openSecurity (some openSta) (some []) firstFragment =
      some ⟨none, some [firstFragment], []⟩ := by
    rw [recvframeChkDefrag, queueFragment_first rfl rfl]
    rfl
  exact @DefragStep.fragment _ _ ⟨_, [], [], []⟩ firstFragment _ _ _ letIn called rfl

theorem recvframeChkDefrag_runs_second :
    afterFirst.defragQ.length ≤ 16 ∧ afterFirst.defragQ.Sublist afterFirst.inputs ∧
      (afterFirst.uses ++ afterFirst.defragQ).Subperm afterFirst.inputs ∧
      ∃ result, recvframeChkDefrag openSecurity (some openSta) (some afterFirst.defragQ)
          (lastFragment 1) = some result ∧
        ∀ returned ∈ result.returned,
          Reassembled (usedFrames afterFirst.defragQ (lastFragment 1) result) (lastFragment 1)
            returned := by
  have reached : ((defragSystem openSecurity openSta).restrict (FragmentOk openSecurity)).Reachable afterFirst :=
    .next firstFragment (.initial rfl) ⟨fun _ => .inl rfl, byteFragment_received .., afterFirst_step⟩
  obtain ⟨few, inOrder, once, completes⟩ := recvframeChkDefrag_runs reached
  refine ⟨few, inOrder, once, completes _ (byteFragment_received ..) (fun _ => ?_) (by decide)⟩
  refine ⟨fun _ _ => ⟨by decide, trivial⟩, fun _ => ⟨?_, ?_, ?_⟩⟩
  · intro fragment member
    cases List.mem_singleton.mp member
    rfl
  · intro fragment member
    rcases List.mem_cons.mp member with rfl | member
    · exact (by decide : 24 ≤ 25)
    · cases List.mem_singleton.mp member
      exact (by decide : 24 ≤ 25)
  · intro first member privacy
    cases member
    cases privacy

def turnFragment (n : Nat) : RecvUnion :=
  byteFragment ⟨n % nrRecvframe, Nat.mod_lt _ (by decide)⟩ (ofNat 16 (n % 2)) 1 true 0x63

theorem turnFragment_step {state : DefragState} {n : Nat}
    (differs : getElem state.tidRxseq 0 sixteen_pos ≠ ofNat 16 (n % 2) <<< 4 ||| 1) :
    DefragStep openSecurity openSta state (turnFragment n)
      ⟨state.tidRxseq.set 0 (ofNat 16 (n % 2) <<< 4 ||| 1) sixteen_pos, state.defragQ ++ [turnFragment n],
        state.inputs ++ [turnFragment n], state.uses ++ []⟩ := by
  have called : recvframeChkDefrag openSecurity (some openSta) (some state.defragQ) (turnFragment n) =
      some ⟨none, some (state.defragQ ++ [turnFragment n]), []⟩ := by
    rw [recvframeChkDefrag, queueFragment_later rfl (by decide : (1 : U8) ≠ 0)]
    rfl
  have letIn : recvDecache state.tidRxseq (turnFragment n).hdr.attrib =
      some (state.tidRxseq.set 0 (ofNat 16 (n % 2) <<< 4 ||| 1)) := by
    rw [recvDecache]
    simp only [turnFragment, byteFragment]
    exact if_neg fun same => differs same.symm
  exact @DefragStep.fragment _ _ state (turnFragment n) _ _ _ letIn called rfl

theorem defragQ_unbounded (n : Nat) :
    ∃ state, (defragSystem openSecurity openSta).Reachable state ∧ state.defragQ.length = n ∧
      getElem state.tidRxseq 0 sixteen_pos ≠ ofNat 16 (n % 2) <<< 4 ||| 1 := by
  induction n with
  | zero => exact ⟨_, .initial rfl, rfl, by decide⟩
  | succ n holds =>
    obtain ⟨state, reached, length, differs⟩ := holds
    refine ⟨_, reached.next (turnFragment n) ⟨byteFragment_received .., turnFragment_step differs⟩, ?_, ?_⟩
    · rw [List.length_append, length]
      rfl
    · change (state.tidRxseq.set 0 (ofNat 16 (n % 2) <<< 4 ||| 1))[0] ≠ _
      rw [Vector.getElem_set_self]
      rcases Nat.mod_two_eq_zero_or_one n with even | odd
      · rw [even, show (n + 1) % 2 = 1 by omega]
        decide
      · rw [odd, show (n + 1) % 2 = 0 by omega]
        decide

/-- Fragments of two frames are put together, and 17 fragments wait. -/
theorem recvframeChkDefrag_fails :
    (∃ state, (defragSystem openSecurity openSta).Reachable state ∧ 16 < state.defragQ.length) ∧
    ∃ state, (defragSystem openSecurity openSta).Reachable state ∧
      ∃ frame, Received frame ∧ recvDecache state.tidRxseq frame.hdr.attrib ≠ none ∧
        ∃ result, recvframeChkDefrag openSecurity (some openSta) (some state.defragQ) frame =
          some result ∧ ∃ returned ∈ result.returned,
            ¬Reassembled (usedFrames state.defragQ frame result) frame returned := by
  constructor
  · obtain ⟨state, reached, length, _⟩ := defragQ_unbounded 17
    exact ⟨state, reached, by omega⟩
  · have reached : (defragSystem openSecurity openSta).Reachable afterFirst :=
      .next firstFragment (.initial rfl) ⟨byteFragment_received .., afterFirst_step⟩
    refine ⟨afterFirst, reached, lastFragment 2, byteFragment_received .., by decide, ?_⟩
    have joined : (recvframeChkDefrag openSecurity (some openSta) (some [firstFragment])
        (lastFragment 2)).map (fun result => result.returned.isSome) = some true := by rfl
    obtain ⟨result, called, isSome⟩ := Option.map_eq_some_iff.mp joined
    obtain ⟨returned, member⟩ := Option.isSome_iff_exists.mp isSome
    refine ⟨result, called, returned, member, fun reassembled => ?_⟩
    have used := @usedFrames_last [firstFragment] (lastFragment 2) _ _ member
      (by decide : (1 : U8) ≠ 0)
    have same := reassembled.sequence firstFragment (by
      change firstFragment ∈ usedFrames [firstFragment] (lastFragment 2) result
      rw [used]
      simp)
    exact absurd same (by decide)

end Floid.Wifi
