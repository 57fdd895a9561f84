import Floid.Wifi.Michael

/-!
The fragments of a frame. They wait in the queue of their station until one comes without
the more fragments bit; then each is appended to the first one.
-/

namespace Floid.Wifi

open Osk Lib
open BitVec (ofNat)

def nrRecvframe : Nat := 256

/-- `union recv_frame`: one of the frames that the driver has, with its header. -/
structure RecvUnion where
  index : Fin nrRecvframe
  hdr : RecvFrame

/-- `recv_decache`: the sequence control of the last frame of each TID, if this one is not a
duplicate of it. -/
def recvDecache (tidRxseq : Vector U16 16) (attrib : RxPktAttrib) : Option (Vector U16 16) :=
  let seqCtrl := attrib.seqNum <<< 4 ||| (attrib.fragNum.setWidth 16 &&& 0xf)
  if tid : attrib.priority.toNat < 16 then
    if seqCtrl = tidRxseq[attrib.priority.toNat] then none
    else some (tidRxseq.set attrib.priority.toNat seqCtrl)
  else none

/-- The body of the loop of `recvframe_defrag`: a fragment is appended to the first one.
Neither the pulls nor the put are checked. -/
def appendFragment (prframe pnextrframe : RecvFrame) : Option RecvFrame := do
  let wlanhdrOffset := pnextrframe.attrib.hdrlen + pnextrframe.attrib.ivLen
  let pnext := (pnextrframe.pull wlanhdrOffset).getD pnextrframe
  let prframe := (prframe.pullTail prframe.attrib.icvLen).getD prframe
  let data ← segment pnext.buffer pnext.rxData pnext.len.toNat
  let buffer ← overwrite prframe.buffer prframe.rxTail data
  let prframe := { prframe with buffer }
  let prframe := (prframe.put pnext.len.toNat).getD prframe
  return { prframe with attrib := { prframe.attrib with icvLen := pnext.attrib.icvLen } }

/-- The loop of `recvframe_defrag`. NULL, when a fragment number is not the next, is
`some none`. -/
def recvframeDefragFrom (curfragnum : U8) (prframe : RecvFrame) : List RecvUnion → Option (Option RecvFrame)
  | [] => some (some prframe)
  | pnextrframe :: rest =>
      if curfragnum ≠ pnextrframe.hdr.attrib.fragNum then some none
      else do
        let prframe ← appendFragment prframe pnextrframe.hdr
        recvframeDefragFrom (curfragnum + 1) prframe rest

def recvframeDefrag : List RecvUnion → Option (Option RecvUnion × List RecvUnion)
  | [] => none
  | prframe :: rest =>
      -- the first fragment number must be 0
      if prframe.hdr.attrib.fragNum ≠ 0 then some (none, prframe :: rest)
      else do
        match ← recvframeDefragFrom 1 prframe.hdr rest with
        | none => return (none, prframe :: rest)
        | some hdr => return (some { prframe with hdr }, rest)

/-- What `recvframe_chk_defrag` returns, the queue of the station, and the frames that it frees. -/
structure DefragResult where
  returned : Option RecvUnion
  defragQ : Option (List RecvUnion)
  freed : List RecvUnion

/-- `recvframe_chk_defrag` up to the check of the MIC. The queue is NULL for a station
that is not known. -/
def queueFragment (pdefragQ : Option (List RecvUnion)) (precvFrame : RecvUnion) : Option DefragResult :=
  let ismfrag := precvFrame.hdr.attrib.mfrag
  let fragnum := precvFrame.hdr.attrib.fragNum
  match ismfrag, pdefragQ with
  | true, some defragQ =>
      -- the first fragment: whatever waits is freed
      if fragnum = 0 then some { returned := none, defragQ := some [precvFrame], freed := defragQ }
      else some { returned := none, defragQ := some (defragQ ++ [precvFrame]), freed := [] }
  | true, none => some { returned := none, defragQ := none, freed := [precvFrame] }
  | false, pdefragQ =>
      if fragnum = 0 then some { returned := some precvFrame, defragQ := pdefragQ, freed := [] }
      else
        match pdefragQ with
        | some defragQ =>
            (recvframeDefrag (defragQ ++ [precvFrame])).map fun (returned, freed) =>
              { returned, defragQ := some [], freed }
        | none => some { returned := none, defragQ := none, freed := [precvFrame] }

def recvframeChkDefrag (security : RxSecurity) (psta : Option StaInfo)
    (pdefragQ : Option (List RecvUnion)) (precvFrame : RecvUnion) : Option DefragResult := do
  let result ← queueFragment pdefragQ precvFrame
  match result.returned with
  | none => return result
  | some prtnframe =>
      if prtnframe.hdr.attrib.privacy then
        let (success, hdr) ← recvframeChkmic security psta prtnframe.hdr
        if success then return { result with returned := some { prtnframe with hdr } }
        else return { result with returned := none, freed := result.freed ++ [prtnframe] }
      else return result

theorem sub_ofNat_toNat {len : U32} {sz : Nat} (enough : sz ≤ len.toNat) :
    (len - ofNat 32 sz).toNat = len.toNat - sz := by
  rw [BitVec.toNat_sub_of_le, BitVec.toNat_ofNat, Nat.mod_eq_of_lt (by omega)]
  rw [BitVec.le_def, BitVec.toNat_ofNat, Nat.mod_eq_of_lt (by omega)]
  exact enough

namespace RecvFrame

/-- The data of a frame lies in its memory, and `len` is its length. -/
structure LaidOut (frame : RecvFrame) : Prop where
  length : frame.rxData + frame.len.toNat = frame.rxTail
  inside : frame.rxTail ≤ frame.buffer.length
  addressable : frame.buffer.length < 2 ^ 32

def overhead (frame : RecvFrame) : Nat :=
  frame.attrib.hdrlen + frame.attrib.ivLen + frame.attrib.icvLen

def Whole (frame : RecvFrame) : Prop := frame.overhead ≤ frame.len.toNat

def payload (frame : RecvFrame) : List U8 :=
  (frame.buffer.drop (frame.rxData + (frame.attrib.hdrlen + frame.attrib.ivLen))).take
    (frame.len.toNat - frame.overhead)

def cutTail (frame : RecvFrame) : Nat :=
  if frame.attrib.icvLen ≤ frame.len.toNat then frame.rxTail - frame.attrib.icvLen else frame.rxTail

def appendedLength (frame : RecvFrame) : Nat :=
  if frame.attrib.hdrlen + frame.attrib.ivLen ≤ frame.len.toNat then
    frame.len.toNat - (frame.attrib.hdrlen + frame.attrib.ivLen)
  else frame.len.toNat

variable {frame : RecvFrame}

theorem LaidOut.pull_eq (laidOut : frame.LaidOut) (sz : Nat) : (frame.pull sz).getD frame =
      if sz ≤ frame.len.toNat then
        { frame with rxData := frame.rxData + sz, len := frame.len - ofNat 32 sz }
      else frame := by
  have length := laidOut.length
  unfold pull
  by_cases enough : sz ≤ frame.len.toNat
  · rw [if_neg (by omega), if_pos enough]
    rfl
  · rw [if_pos (by omega), if_neg enough]
    rfl

theorem LaidOut.pullTail_eq (laidOut : frame.LaidOut) (sz : Nat) : (frame.pullTail sz).getD frame =
      if sz ≤ frame.len.toNat then
        { frame with rxTail := frame.rxTail - sz, len := frame.len - ofNat 32 sz }
      else frame := by
  have length := laidOut.length
  unfold pullTail
  by_cases enough : sz ≤ frame.len.toNat
  · rw [if_neg (by omega), if_pos enough]
    rfl
  · rw [if_pos (by omega), if_neg enough]
    rfl

theorem LaidOut.pull (laidOut : frame.LaidOut) (sz : Nat) : ((frame.pull sz).getD frame).LaidOut := by
  rw [laidOut.pull_eq]
  split
  · rename_i enough
    refine { laidOut with length := ?_ }
    have length := laidOut.length
    change frame.rxData + sz + (frame.len - ofNat 32 sz).toNat = frame.rxTail
    rw [sub_ofNat_toNat enough]
    omega
  · exact laidOut

theorem LaidOut.pullTail (laidOut : frame.LaidOut) (sz : Nat) : ((frame.pullTail sz).getD frame).LaidOut := by
  rw [laidOut.pullTail_eq]
  split
  · rename_i enough
    have length := laidOut.length
    have inside := laidOut.inside
    refine ⟨?_, by dsimp only; omega, laidOut.addressable⟩
    change frame.rxData + (frame.len - ofNat 32 sz).toNat = frame.rxTail - sz
    rw [sub_ofNat_toNat enough]
    omega
  · exact laidOut

theorem LaidOut.bytes_exists (laidOut : frame.LaidOut) :
    ∃ bytes, frame.bytes = some bytes ∧ bytes.length = frame.len.toNat := by
  have length := laidOut.length
  have inside := laidOut.inside
  have read : frame.bytes = some _ := segment_of_le (by omega)
  exact ⟨_, read, segment_length read⟩

theorem LaidOut.payload_eq (laidOut : frame.LaidOut) (whole : frame.Whole) :
    segment frame.buffer (frame.rxData + (frame.attrib.hdrlen + frame.attrib.ivLen))
      (frame.len.toNat - frame.overhead) = some frame.payload := by
  have length := laidOut.length
  have inside := laidOut.inside
  unfold Whole overhead at whole
  exact segment_of_le (by unfold overhead; omega)

end RecvFrame

variable {pnext prframe : RecvFrame}

theorem pulled_exists (next : pnext.LaidOut) :
    ∃ pulled, (pnext.pull (pnext.attrib.hdrlen + pnext.attrib.ivLen)).getD pnext = pulled ∧
      pulled.attrib = pnext.attrib ∧ pulled.buffer = pnext.buffer ∧ pulled.LaidOut ∧
      pulled.len.toNat = pnext.appendedLength ∧ (pnext.Whole →
        pulled.rxData = pnext.rxData + (pnext.attrib.hdrlen + pnext.attrib.ivLen)) := by
  have laidOut := next.pull (pnext.attrib.hdrlen + pnext.attrib.ivLen)
  refine ⟨_, rfl, ?_⟩
  unfold RecvFrame.appendedLength RecvFrame.Whole RecvFrame.overhead
  rw [next.pull_eq] at laidOut ⊢
  split
  · rename_i enough
    rw [if_pos enough] at laidOut
    exact ⟨rfl, rfl, laidOut, sub_ofNat_toNat enough, fun _ => rfl⟩
  · rename_i short
    exact ⟨rfl, rfl, next, rfl, fun whole => by omega⟩

theorem cut_exists (first : prframe.LaidOut) : ∃ cut, (prframe.pullTail prframe.attrib.icvLen).getD prframe = cut ∧
      cut.attrib = prframe.attrib ∧ cut.buffer = prframe.buffer ∧ cut.LaidOut ∧
      cut.rxData = prframe.rxData ∧ cut.rxTail = prframe.cutTail := by
  have laidOut := first.pullTail prframe.attrib.icvLen
  refine ⟨_, rfl, ?_⟩
  unfold RecvFrame.cutTail
  rw [first.pullTail_eq] at laidOut ⊢
  split
  · rename_i enough
    rw [if_pos enough] at laidOut
    exact ⟨rfl, rfl, laidOut, rfl, rfl⟩
  · exact ⟨rfl, rfl, first, rfl, rfl⟩

theorem appendFragment_exists (first : prframe.LaidOut) (next : pnext.LaidOut)
    (room : prframe.cutTail + pnext.appendedLength ≤ prframe.buffer.length) :
    ∃ after, appendFragment prframe pnext = some after ∧ after.LaidOut ∧
      after.buffer.length = prframe.buffer.length ∧ after.rxData = prframe.rxData ∧
      after.rxTail = prframe.cutTail + pnext.appendedLength ∧
      after.attrib = { prframe.attrib with icvLen := pnext.attrib.icvLen } ∧
      (prframe.Whole → pnext.Whole → after.Whole ∧ after.payload = prframe.payload ++ pnext.payload) := by
  obtain ⟨pulled, pulledIs, pulledAttrib, pulledBuffer, pulledLaid, pulledLength, pulledStart⟩ :=
    pulled_exists next
  obtain ⟨cut, cutIs, cutAttrib, cutBuffer, cutLaid, cutData, cutTail⟩ := cut_exists first
  obtain ⟨data, copied, dataLength⟩ := pulledLaid.bytes_exists
  obtain ⟨buffer, wrote⟩ := @overwrite_exists U8 cut.buffer data cut.rxTail
    (by rw [dataLength, pulledLength, cutTail, cutBuffer]; exact room)
  have bufferLength := overwrite_length wrote
  have small : pulled.len.toNat < 2 ^ 32 := pulled.len.isLt
  have cutLength := cutLaid.length
  have addressable := cutLaid.addressable
  rw [cutBuffer] at bufferLength addressable
  have lengthened : (cut.len + ofNat 32 pulled.len.toNat).toNat = cut.len.toNat + pulled.len.toNat := by
    rw [BitVec.toNat_add, BitVec.toNat_ofNat, Nat.mod_eq_of_lt small, Nat.mod_eq_of_lt]
    omega
  refine ⟨{ cut with
      buffer
      rxTail := cut.rxTail + pulled.len.toNat
      len := cut.len + ofNat 32 pulled.len.toNat
      attrib := { cut.attrib with icvLen := pulled.attrib.icvLen } }, ?_, ?_, bufferLength, cutData,
    by rw [cutTail, pulledLength], by rw [cutAttrib, pulledAttrib], ?_⟩
  · rw [appendFragment, pulledIs, cutIs]
    change (RecvFrame.bytes pulled).bind _ = _
    rw [copied, Option.bind_some, wrote, Option.bind_eq_bind, Option.bind_some]
    dsimp only
    rw [RecvFrame.put, if_neg (by dsimp only; rw [bufferLength]; omega)]
    rfl
  · refine ⟨?_, ?_, by rw [bufferLength]; exact addressable⟩
    · dsimp only
      rw [lengthened]
      omega
    · dsimp only
      rw [bufferLength]
      omega
  · intro firstWhole nextWhole
    have firstPayload := first.payload_eq firstWhole
    have nextPayload := next.payload_eq nextWhole
    rw [RecvFrame.bytes, pulledStart nextWhole, pulledBuffer] at copied
    unfold RecvFrame.Whole RecvFrame.overhead at firstWhole nextWhole
    have tail : prframe.cutTail = prframe.rxTail - prframe.attrib.icvLen := if_pos (by omega)
    have appended : pnext.appendedLength =
        pnext.len.toNat - (pnext.attrib.hdrlen + pnext.attrib.ivLen) := if_pos (by omega)
    have firstLength := first.length
    have kept := @segment_overwrite_apart U8 cut.buffer buffer data cut.rxTail
      (prframe.len.toNat - prframe.overhead)
      (prframe.rxData + (prframe.attrib.hdrlen + prframe.attrib.ivLen)) wrote
      (by unfold RecvFrame.overhead; omega)
    rw [cutBuffer, firstPayload] at kept
    have written := segment_take (segment_overwrite_same wrote)
      (show pnext.len.toNat - pnext.overhead ≤ data.length by unfold RecvFrame.overhead; omega)
    have cutCopied := segment_take copied
      (show pnext.len.toNat - pnext.overhead ≤ pulled.len.toNat by unfold RecvFrame.overhead; omega)
    rw [nextPayload, Option.some.injEq] at cutCopied
    rw [← cutCopied, show cut.rxTail = prframe.rxData + (prframe.attrib.hdrlen + prframe.attrib.ivLen) +
      (prframe.len.toNat - prframe.overhead) by unfold RecvFrame.overhead; omega] at written
    have both := segment_append kept written
    have start : cut.rxData + (cut.attrib.hdrlen + cut.attrib.ivLen) =
        prframe.rxData + (prframe.attrib.hdrlen + prframe.attrib.ivLen) := by rw [cutData, cutAttrib]
    have count : (cut.len + ofNat 32 pulled.len.toNat).toNat -
        (cut.attrib.hdrlen + cut.attrib.ivLen + pulled.attrib.icvLen) =
          prframe.len.toNat - prframe.overhead + (pnext.len.toNat - pnext.overhead) := by
      rw [lengthened, cutAttrib, pulledAttrib, pulledLength, appended]
      unfold RecvFrame.overhead
      omega
    constructor
    · change cut.attrib.hdrlen + cut.attrib.ivLen + pulled.attrib.icvLen ≤ _
      rw [lengthened, cutAttrib, pulledAttrib, pulledLength, appended]
      omega
    · rw [← start, ← count] at both
      exact (segment_some both).2.symm

def Numbered : U8 → List RecvUnion → Prop
  | _, [] => True
  | curfragnum, fragment :: rest =>
      curfragnum = fragment.hdr.attrib.fragNum ∧ Numbered (curfragnum + 1) rest

/-- A memory of so many bytes has room for the fragments that are appended, up to the first
whose number is not the next. The data begins at `rxData` and ends at `rxTail`, with an ICV. -/
def RoomFor (size rxData : Nat) : U8 → Nat → Nat → List RecvUnion → Prop
  | _, _, _, [] => True
  | curfragnum, rxTail, icvLen, fragment :: rest =>
      curfragnum = fragment.hdr.attrib.fragNum →
        let end_ := (if icvLen ≤ rxTail - rxData then rxTail - icvLen else rxTail) + fragment.hdr.appendedLength
        end_ ≤ size ∧ RoomFor size rxData (curfragnum + 1) end_ fragment.hdr.attrib.icvLen rest

instance : ∀ (curfragnum : U8) (fragments : List RecvUnion), Decidable (Numbered curfragnum fragments)
  | _, [] => inferInstanceAs (Decidable True)
  | curfragnum, _ :: rest =>
      @instDecidableAnd _ _ _ (instDecidableNumbered (curfragnum + 1) rest)

theorem recvframeDefragFrom_exists {fragments : List RecvUnion} {curfragnum : U8}
    {prframe : RecvFrame} (first : prframe.LaidOut)
    (laidOut : ∀ fragment ∈ fragments, fragment.hdr.LaidOut)
    (room : RoomFor prframe.buffer.length prframe.rxData curfragnum prframe.rxTail prframe.attrib.icvLen fragments) :
    ∃ returned, recvframeDefragFrom curfragnum prframe fragments = some returned ∧
      (¬Numbered curfragnum fragments → returned = none) ∧
      (Numbered curfragnum fragments → ∃ after icvLen, returned = some after ∧ after.LaidOut ∧
        after.attrib = { prframe.attrib with icvLen } ∧
        (prframe.Whole → (∀ fragment ∈ fragments, fragment.hdr.Whole) → after.Whole ∧
          after.payload = prframe.payload ++ (fragments.map fun fragment => fragment.hdr.payload).flatten)) := by
  induction fragments generalizing curfragnum prframe with
  | nil =>
    refine ⟨some prframe, rfl, fun unnumbered => absurd trivial unnumbered, fun _ => ?_⟩
    exact ⟨prframe, _, rfl, first, rfl, fun whole _ => ⟨whole, by simp⟩⟩
  | cons fragment rest ih =>
    rw [recvframeDefragFrom]
    by_cases next : curfragnum = fragment.hdr.attrib.fragNum
    · obtain ⟨enough, later⟩ := room next
      have tail : prframe.cutTail = if prframe.attrib.icvLen ≤ prframe.rxTail - prframe.rxData then
          prframe.rxTail - prframe.attrib.icvLen else prframe.rxTail := by
        rw [RecvFrame.cutTail, show prframe.rxTail - prframe.rxData = prframe.len.toNat by
          have length := first.length
          omega]
      rw [← tail] at enough later
      obtain ⟨appended, result, appendedLaid, size, data, tailIs, attrib, payload⟩ :=
        appendFragment_exists first (laidOut fragment (by simp)) enough
      rw [if_neg (fun differs => differs next), result, Option.bind_eq_bind, Option.bind_some]
      obtain ⟨returned, rest_, unnumbered, numbered⟩ := @ih (curfragnum + 1) appended appendedLaid
        (fun other member => laidOut other (by simp [member]))
        (by rw [size, data, tailIs, attrib]; exact later)
      refine ⟨returned, rest_, fun fails => unnumbered fun goesOn => fails ⟨next, goesOn⟩, fun goesOn => ?_⟩
      obtain ⟨after, icvLen, returnedIs, afterLaid, afterAttrib, afterPayload⟩ := numbered goesOn.2
      refine ⟨after, icvLen, returnedIs, afterLaid, by rw [afterAttrib, attrib], ?_⟩
      intro firstWhole allWhole
      obtain ⟨appendedWhole, appendedPayload⟩ := payload firstWhole (allWhole fragment (by simp))
      obtain ⟨afterWhole, whole⟩ := afterPayload appendedWhole
        fun other member => allWhole other (by simp [member])
      refine ⟨afterWhole, ?_⟩
      rw [whole, appendedPayload, List.map_cons, List.flatten_cons, List.append_assoc]
    · rw [if_pos next]
      exact ⟨none, rfl, fun _ => rfl, fun goesOn => absurd goesOn.1 next⟩

end Floid.Wifi
