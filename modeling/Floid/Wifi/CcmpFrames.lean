import Floid.Wifi.Ccmp

namespace Floid.Wifi

open Osk Lib
open List (append_assoc length_append length_drop length_take nil_append take_append_drop zipWith)
open Option (bind_eq_bind bind_eq_some_iff bind_some)
open BitVec (ofNat)

variable {encrypt : Block → Block} {shape : CcmpShape} {pn : Vector U8 6} {front : List U8}

theorem xor128_paddedBlock (key : Block) (text : List U8) :
    (xor128 key (paddedBlock text)).toList.take text.length = zipWith (· ^^^ ·) text key.toList := by
  refine List.ext_getElem (by simp [xor128, xorBlocks]) fun index inBlock inText => ?_
  have small : index < text.length := by
    simp only [List.length_zipWith] at inText
    omega
  simp [xor128, xorBlocks, paddedBlock, small, BitVec.xor_comm]

theorem getElem?_front (back : List U8) {index : Nat} (inside : index < front.length) :
    (front ++ back)[index]? = some front[index] := by
  rw [List.getElem?_append_left inside, List.getElem?_eq_getElem inside]

theorem segment_exists {front : List U8} {start count : Nat} (inside : start + count ≤ front.length) :
    ∃ items, items.length = count ∧ ∀ back, segment (front ++ back) start count = some items := by
  refine ⟨(front.drop start).take count, ?_, fun back => ?_⟩
  · rw [length_take, length_drop]
    omega
  · rw [segment_front back inside, segment_of_le inside]

theorem frameControl_append (back : List U8) (long : 2 ≤ front.length) :
    frameControl (front ++ back) = frameControl front := by
  rw [frameControl, List.getElem?_append_left (by omega), List.getElem?_append_left (by omega)]
  rfl

theorem pnVector_exists {hdrlen : Nat} (long : hdrlen + 8 ≤ front.length) :
    ∃ pn, ∀ back, pnVector (front ++ back) hdrlen = some pn := by
  refine ⟨#v[front[hdrlen], front[hdrlen + 1], front[hdrlen + 4], front[hdrlen + 5],
    front[hdrlen + 6], front[hdrlen + 7]], fun back => ?_⟩
  simp only [pnVector, getElem?_front back (show hdrlen < front.length by omega),
    getElem?_front back (show hdrlen + 1 < front.length by omega),
    getElem?_front back (show hdrlen + 4 < front.length by omega),
    getElem?_front back (show hdrlen + 5 < front.length by omega),
    getElem?_front back (show hdrlen + 6 < front.length by omega),
    getElem?_front back (show hdrlen + 7 < front.length by omega)]
  rfl

theorem qosByte_exists (shape : CcmpShape) (long : 32 ≤ front.length) :
    ∃ byte, ∀ back, qosByte shape (front ++ back) = some byte := by
  unfold qosByte
  split
  · have inside : (if shape.a4Exists then 30 else 24) < front.length := by
      split <;> omega
    exact ⟨_, fun back => by rw [getElem?_front back inside]; rfl⟩
  · exact ⟨0, fun _ => rfl⟩

theorem ccmpNonce_exists (shape : CcmpShape) (pn : Vector U8 6) (long : 32 ≤ front.length) :
    ∃ nonce, nonce.length = 13 ∧ ∀ back, ccmpNonce shape (front ++ back) pn = some nonce := by
  obtain ⟨priority, priorityRead⟩ := qosByte_exists shape long
  obtain ⟨a2, length, a2Read⟩ := @segment_exists front 10 6 (by omega)
  refine ⟨_, ?_, fun back => by rw [ccmpNonce, priorityRead, a2Read]; rfl⟩
  simp [length]

theorem constructMicHeader1_exists (headerLength : Nat) (long : 32 ≤ front.length) :
    ∃ block, ∀ back, constructMicHeader1 headerLength (front ++ back) = some block := by
  obtain ⟨addresses, _, read⟩ := @segment_exists front 4 12 (by omega)
  refine ⟨paddedBlock (bigEndian (headerLength - 2) ++ [front[0] &&& 0xCF, front[1] &&& 0xC7] ++
    addresses), fun back => ?_⟩
  rw [constructMicHeader1, getElem?_front back (by omega), getElem?_front back (by omega), read]
  rfl

theorem constructMicHeader2_exists (shape : CcmpShape) (long : 32 ≤ front.length) :
    ∃ block, ∀ back, constructMicHeader2 shape (front ++ back) = some block := by
  obtain ⟨a3, _, a3Read⟩ := @segment_exists front 16 6 (by omega)
  obtain ⟨a4, _, a4Read⟩ := @segment_exists front 24 6 (by omega)
  obtain ⟨qos, qosRead⟩ := qosByte_exists shape long
  refine ⟨paddedBlock (a3 ++ [0, 0] ++ (if shape.a4Exists then a4 else []) ++
    (if shape.qcExists then [qos] else [])), fun back => ?_⟩
  rw [constructMicHeader2, a3Read, a4Read, qosRead]
  obtain ⟨_, a4Exists, qcExists⟩ := shape
  cases a4Exists <;> cases qcExists <;> rfl

structure CcmpFront (shape : CcmpShape) (pn : Vector U8 6) (front : List U8) (nonce : List U8)
    (header1 header2 : Block) : Prop where
  length : front.length = shape.hdrlen + 8
  nonceLength : nonce.length = 13
  nonce : ∀ back, ccmpNonce shape (front ++ back) pn = some nonce
  header1 : ∀ back, constructMicHeader1 shape.hdrlen (front ++ back) = some header1
  header2 : ∀ back, constructMicHeader2 shape (front ++ back) = some header2

theorem ccmpFront_exists (pn : Vector U8 6) (length : front.length = shape.hdrlen + 8) (long : 24 ≤ shape.hdrlen) :
    ∃ nonce header1 header2, CcmpFront shape pn front nonce header1 header2 := by
  obtain ⟨nonce, nonceLength, nonceRead⟩ := @ccmpNonce_exists front shape pn (by omega)
  obtain ⟨header1, header1Read⟩ := @constructMicHeader1_exists front shape.hdrlen (by omega)
  obtain ⟨header2, header2Read⟩ := @constructMicHeader2_exists front shape (by omega)
  exact ⟨nonce, header1, header2, length, nonceLength, nonceRead, header1Read, header2Read⟩

def ctrBlock (nonce : List U8) (c : Nat) : Block := paddedBlock ([0x01] ++ nonce ++ bigEndian c)

def payloadKeyBlock (encrypt : Block → Block) (nonce : List U8) (index : Nat) : Block :=
  encrypt (ctrBlock nonce (index + 1))

def ctrText (encrypt : Block → Block) (nonce : List U8) (block : Nat) (text : List U8) : List U8 :=
  (applyStream (counterWord (payloadKeyBlock encrypt nonce)) (16 * block) text).1

def micText (encrypt : Block → Block) (nonce : List U8) (header1 header2 : Block) (text : List U8) : List U8 :=
  (cbcChain encrypt (encrypt (paddedBlock ([0x59] ++ nonce ++ bigEndian text.length)))
    ([header1, header2] ++ textBlocks 16 ((text.length + 15) / 16) text)).toList.take 8

theorem ctrText_append {nonce : List U8} (block count : Nat) {whole : List U8} (last : List U8)
    (length : whole.length = 16 * count) :
    ctrText encrypt nonce block (whole ++ last) =
      ctrText encrypt nonce block whole ++ ctrText encrypt nonce (block + count) last := by
  rw [ctrText, applyStream_append, ctrText, ctrText]
  rw [applyStream_eq, advance_counterWord, length, Nat.mul_add]

theorem ctrText_block {nonce : List U8} (block : Nat) {last : List U8} (short : last.length ≤ 16) :
    ctrText encrypt nonce block last =
      (xor128 (payloadKeyBlock encrypt nonce block) (paddedBlock last)).toList.take last.length := by
  rw [ctrText, applyStream_block block short, xor128_paddedBlock]

namespace CcmpFront

variable {nonce : List U8} {header1 header2 : Block}
  (head : CcmpFront shape pn front nonce header1 header2)

include head

theorem preload (back : List U8) (c : Nat) :
    constructCtrPreload shape (front ++ back) pn c = some (ctrBlock nonce c) := by
  rw [constructCtrPreload, head.nonce]
  rfl

theorem ctrBlocks_eq (count block : Nat) {before text after : List U8}
    (beforeLength : before.length = 16 * block) (length : text.length = 16 * count) :
    ctrBlocks encrypt shape pn count block (front ++ (before ++ text ++ after)) =
      some (front ++ (before ++ ctrText encrypt nonce block text ++ after)) := by
  induction count generalizing block before text with
  | zero =>
    obtain rfl : text = [] := List.eq_nil_of_length_eq_zero length
    rw [ctrBlocks]
    rfl
  | succ count ih =>
    obtain ⟨first, rest, rfl, firstLength, restLength⟩ :
        ∃ first rest, text = first ++ rest ∧ first.length = 16 ∧ rest.length = 16 * count :=
      ⟨text.take 16, text.drop 16, (take_append_drop _ _).symm, by rw [length_take]; omega,
        by rw [length_drop]; omega⟩
    have place : shape.hdrlen + 8 + block * 16 = (front ++ before).length := by
      rw [length_append, head.length, beforeLength]
      omega
    have parts (middle : List U8) : front ++ (before ++ (middle ++ rest) ++ after) =
        front ++ before ++ middle ++ (rest ++ after) := by simp only [append_assoc]
    have key := xor128_paddedBlock (payloadKeyBlock encrypt nonce block) first
    rw [firstLength, List.take_of_length_le (by simp)] at key
    have keyed : ctrText encrypt nonce block (first ++ rest) =
        (xor128 (payloadKeyBlock encrypt nonce block) (paddedBlock first)).toList ++
          ctrText encrypt nonce (block + 1) rest := by
      rw [ctrText, applyStream_append, applyStream_block block (Nat.le_of_eq firstLength),
        firstLength, key, ctrText, Nat.mul_succ]
    rw [ctrBlocks, head.preload, parts, place]
    have read := segment_middle (front ++ before) first (rest ++ after)
    rw [firstLength] at read
    rw [read]
    have wrote := @overwrite_middle U8 (front ++ before) first
      (xor128 (payloadKeyBlock encrypt nonce block) (paddedBlock first)).toList (rest ++ after)
      (by simp [firstLength])
    have later := @ih (block + 1)
      (before ++ (xor128 (payloadKeyBlock encrypt nonce block) (paddedBlock first)).toList) rest
      (by simp [beforeLength]; omega) restLength
    simp only [bind_eq_bind, bind_some, keyed]
    rw [payloadKeyBlock] at wrote
    rw [wrote]
    simp only [bind_some]
    simp only [append_assoc] at later ⊢
    exact later

theorem ctrPayload_parts (count : Nat) {whole last : List U8} (after : List U8)
    (wholeLength : whole.length = 16 * count) (short : last.length < 16) :
    ctrPayload encrypt shape pn (16 * count + last.length) (front ++ (whole ++ last ++ after)) =
      some (front ++ (ctrText encrypt nonce 0 (whole ++ last) ++ after)) := by
  have quotient : (16 * count + last.length) / 16 = count := by omega
  have remainder : (16 * count + last.length) % 16 = last.length := by omega
  have blocks := @ctrBlocks_eq encrypt shape pn front nonce header1 header2 head count 0 [] whole
    (last ++ after) rfl wholeLength
  have lastText := @ctrText_block encrypt nonce (0 + count) last (Nat.le_of_lt short)
  simp only [nil_append] at blocks
  rw [ctrPayload, quotient, remainder, ctrText_append 0 count last wholeLength]
  simp only [append_assoc, bind_eq_bind, blocks, bind_some]
  by_cases some : 0 < last.length
  · have place : shape.hdrlen + 8 + count * 16 = (front ++ ctrText encrypt nonce 0 whole).length := by
      rw [length_append, head.length, ctrText, applyStream_length, wholeLength]
      omega
    have read := segment_middle (front ++ ctrText encrypt nonce 0 whole) last after
    have wrote := @overwrite_middle U8 (front ++ ctrText encrypt nonce 0 whole) last
      (ctrText encrypt nonce (0 + count) last) after (by rw [ctrText, applyStream_length])
    rw [if_pos some, head.preload, place]
    simp only [append_assoc] at read wrote
    rw [bind_some, read, bind_some, ← wrote, lastText, Nat.zero_add]
    rfl
  · obtain rfl : last = [] := List.eq_nil_of_length_eq_zero (by omega)
    rw [if_neg some]
    rfl

theorem ctrPayload_eq (text after : List U8) : ctrPayload encrypt shape pn text.length (front ++ (text ++ after)) =
      some (front ++ (ctrText encrypt nonce 0 text ++ after)) := by
  have parts := @ctrPayload_parts encrypt shape pn front nonce header1 header2 head
    (text.length / 16) (text.take (16 * (text.length / 16)))
    (text.drop (16 * (text.length / 16))) after
    (by rw [length_take]; omega) (by rw [length_drop]; omega)
  rw [take_append_drop, length_drop] at parts
  rwa [show 16 * (text.length / 16) + (text.length - 16 * (text.length / 16)) = text.length by
    omega] at parts

theorem micBlocks_eq (count block : Nat) (chain : Block) {before text after : List U8}
    (beforeLength : before.length = 16 * block) (length : text.length = 16 * count) :
    micBlocks encrypt (front ++ (before ++ text ++ after)) count (shape.hdrlen + 8 + 16 * block)
        chain =
      some (cbcChain encrypt chain (textBlocks 16 count text)) := by
  induction count generalizing block before text chain with
  | zero => rfl
  | succ count ih =>
    obtain ⟨first, rest, rfl, firstLength, restLength⟩ :
        ∃ first rest, text = first ++ rest ∧ first.length = 16 ∧ rest.length = 16 * count :=
      ⟨text.take 16, text.drop 16, (take_append_drop _ _).symm, by rw [length_take]; omega,
        by rw [length_drop]; omega⟩
    have place : shape.hdrlen + 8 + 16 * block = (front ++ before).length := by
      rw [length_append, head.length, beforeLength]
    have read := segment_middle (front ++ before) first (rest ++ after)
    have later := @ih (block + 1) (encrypt (xor128 chain (paddedBlock first))) (before ++ first)
      rest (by simp [beforeLength, firstLength]; omega) restLength
    rw [firstLength, ← place] at read
    simp only [append_assoc] at read later ⊢
    rw [micBlocks, read, bind_eq_bind, bind_some, Nat.add_assoc _ (16 * block) 16,
      ← Nat.mul_succ, later, textBlocks, List.take_left' firstLength, List.drop_left' firstLength]
    rfl

theorem ccmpMic_parts (count : Nat) {whole last : List U8} (after : List U8)
    (wholeLength : whole.length = 16 * count) (short : last.length < 16) :
    ccmpMic encrypt shape pn (front ++ (whole ++ last ++ after)) (16 * count + last.length) =
      some (micText encrypt nonce header1 header2 (whole ++ last)) := by
  have quotient : (16 * count + last.length) / 16 = count := by omega
  have remainder : (16 * count + last.length) % 16 = last.length := by omega
  have total : (whole ++ last).length = 16 * count + last.length := by
    rw [length_append, wholeLength]
  have iv : constructMicIv shape (front ++ (whole ++ last ++ after)) (16 * count + last.length) pn =
      some (paddedBlock ([0x59] ++ nonce ++ bigEndian (16 * count + last.length))) := by
    rw [constructMicIv, head.nonce]
    rfl
  have blocks (chain : Block) := @micBlocks_eq encrypt shape pn front nonce header1 header2 head
    count 0 chain [] whole (last ++ after) rfl wholeLength
  simp only [nil_append, ← append_assoc whole last after, Nat.mul_zero, Nat.add_zero]
    at blocks
  rw [ccmpMic, iv, head.header1, head.header2, quotient, remainder, micText, total]
  simp only [bind_eq_bind, bind_some, blocks]
  by_cases some : 0 < last.length
  · have place : shape.hdrlen + 8 + count * 16 = (front ++ whole).length := by
      rw [length_append, head.length, wholeLength]
      omega
    have read := segment_middle (front ++ whole) last after
    simp only [append_assoc] at read ⊢
    rw [if_pos some, place, read, show (16 * count + last.length + 15) / 16 = count + 1 by omega,
      textBlocks_append count 1 last wholeLength]
    simp only [textBlocks, List.take_of_length_le (Nat.le_of_lt short), cbcChain, List.foldl_append,
      List.foldl_cons, List.foldl_nil, bind_some]
    rfl
  · obtain rfl : last = [] := List.eq_nil_of_length_eq_zero (by omega)
    rw [if_neg some, List.length_nil, Nat.add_zero, List.append_nil,
      show (16 * count + 15) / 16 = count by omega]
    rfl

theorem ccmpMic_eq (text after : List U8) : ccmpMic encrypt shape pn (front ++ (text ++ after)) text.length =
      some (micText encrypt nonce header1 header2 text) := by
  have parts := @ccmpMic_parts encrypt shape pn front nonce header1 header2 head
    (text.length / 16) (text.take (16 * (text.length / 16)))
    (text.drop (16 * (text.length / 16))) after
    (by rw [length_take]; omega) (by rw [length_drop]; omega)
  rw [take_append_drop, length_drop] at parts
  rwa [show 16 * (text.length / 16) + (text.length - 16 * (text.length / 16)) = text.length by
    omega] at parts

theorem ccmpSeal_eq {text room after : List U8} (roomLength : room.length = 8) :
    ccmpSeal encrypt shape pn text.length (front ++ (text ++ (room ++ after))) =
      some (front ++ (ctrText encrypt nonce 0 text ++ (zipWith (· ^^^ ·) (micText encrypt nonce header1 header2 text)
          (encrypt (ctrBlock nonce 0)).toList ++ after))) := by
  have micLength : (micText encrypt nonce header1 header2 text).length = 8 := by simp [micText]
  have place : shape.hdrlen + 8 + text.length = (front ++ text).length := by
    rw [length_append, head.length]
  have placed : shape.hdrlen + 8 + text.length = (front ++ ctrText encrypt nonce 0 text).length := by
    rw [length_append, head.length, ctrText, applyStream_length]
  have wrote := @overwrite_middle U8 (front ++ text) room
    (micText encrypt nonce header1 header2 text) after (micLength.trans roomLength.symm)
  have read := segment_middle (front ++ ctrText encrypt nonce 0 text)
    (micText encrypt nonce header1 header2 text) after
  have sealed := @overwrite_middle U8 (front ++ ctrText encrypt nonce 0 text)
    (micText encrypt nonce header1 header2 text)
    ((xor128 (encrypt (ctrBlock nonce 0)) (paddedBlock
      (micText encrypt nonce header1 header2 text))).toList.take 8) after (by simp [micLength])
  have key := xor128_paddedBlock (encrypt (ctrBlock nonce 0))
    (micText encrypt nonce header1 header2 text)
  rw [micLength] at read key
  rw [← place] at wrote
  rw [← placed] at read sealed
  rw [key] at sealed
  simp only [append_assoc] at wrote read sealed
  rw [ccmpSeal, head.ccmpMic_eq]
  simp only [bind_eq_bind, bind_some, wrote, head.ctrPayload_eq, head.preload, read, sealed, key]

end CcmpFront

def sentMic (encrypt : Block → Block) (nonce : List U8) (header1 header2 : Block) (text : List U8) : List U8 :=
  zipWith (· ^^^ ·) (micText encrypt nonce header1 header2 text)
    (encrypt (ctrBlock nonce 0)).toList

theorem sentMic_length (nonce : List U8) (header1 header2 : Block) (text : List U8) :
    (sentMic encrypt nonce header1 header2 text).length = 8 := by
  simp [sentMic, micText]

theorem ctrText_length (nonce : List U8) (block : Nat) (text : List U8) :
    (ctrText encrypt nonce block text).length = text.length := by
  rw [ctrText, applyStream_length]

theorem plen_sub (count : Nat) : ofNat 32 (count + 8) - 8 = ofNat 32 count := by
  rw [BitVec.ofNat_add]
  exact BitVec.add_sub_cancel _ _

/-- A frame as the two functions take it apart. `aes_decipher` decrypts with the packet
number at `hdrlen`, which is not where the one for the MIC is if two bytes are added. -/
structure CcmpParsed (shape : CcmpShape) (early pn : Vector U8 6) (front : List U8)
    (earlyNonce nonce : List U8) (header1 header2 : Block) (control : U16) (hdrlen : Nat) :
    Prop where
  atHdrlen : CcmpFront shape early front earlyNonce header1 header2
  afterAll : CcmpFront shape pn front nonce header1 header2
  shapeIs : ccmpShape control hdrlen = shape
  controlRead : ∀ back, frameControl (front ++ back) = some control
  earlyRead : ∀ back, pnVector (front ++ back) hdrlen = some early
  pnRead : ∀ back, pnVector (front ++ back) shape.hdrlen = some pn

theorem ccmpParsed_exists {control : U16} {hdrlen : Nat} (long : 24 ≤ hdrlen)
    (grows : hdrlen ≤ (ccmpShape control hdrlen).hdrlen)
    (read : frameControl front = some control)
    (length : front.length = (ccmpShape control hdrlen).hdrlen + 8) :
    ∃ early pn earlyNonce nonce header1 header2,
      CcmpParsed (ccmpShape control hdrlen) early pn front earlyNonce nonce header1 header2 control
        hdrlen ∧ (hdrlen = (ccmpShape control hdrlen).hdrlen → early = pn ∧ earlyNonce = nonce) := by
  generalize shapeIs : ccmpShape control hdrlen = shape at grows length
  obtain ⟨early, earlyRead⟩ := @pnVector_exists front hdrlen (by omega)
  obtain ⟨pn, pnRead⟩ := @pnVector_exists front shape.hdrlen (by omega)
  obtain ⟨earlyNonce, header1, header2, earlyFront⟩ :=
    @ccmpFront_exists shape front early length (by omega)
  obtain ⟨nonce, _, _, lateFront⟩ := @ccmpFront_exists shape front pn length (by omega)
  refine ⟨early, pn, earlyNonce, nonce, header1, header2, ⟨earlyFront,
    { lateFront with header1 := earlyFront.header1, header2 := earlyFront.header2 }, shapeIs,
    fun back => ?_, earlyRead, pnRead⟩, fun same => ?_⟩
  · rw [frameControl_append _ (by omega)]
    exact read
  · obtain rfl : early = pn := by
      have both := earlyRead []
      rw [same, pnRead] at both
      exact (Option.some.inj both).symm
    exact ⟨rfl, Option.some.inj ((earlyFront.nonce []).symm.trans (lateFront.nonce []))⟩

namespace CcmpParsed

variable {early : Vector U8 6} {earlyNonce nonce : List U8} {header1 header2 : Block}
  {control : U16} {hdrlen : Nat}
  (parsed : CcmpParsed shape early pn front earlyNonce nonce header1 header2 control hdrlen)

include parsed

theorem aesCipherWith_eq {text room : List U8} (after : List U8) (roomLength : room.length = 8)
    (small : text.length < 2 ^ 32) :
    aesCipherWith encrypt hdrlen (front ++ (text ++ (room ++ after)))
        (ofNat 32 text.length) =
      some (front ++ (ctrText encrypt nonce 0 text ++
        (sentMic encrypt nonce header1 header2 text ++ after))) := by
  have length : (ofNat 32 text.length).toNat = text.length := by
    rw [BitVec.toNat_ofNat, Nat.mod_eq_of_lt small]
  simp only [aesCipherWith, parsed.controlRead, parsed.shapeIs, parsed.pnRead, bind_eq_bind, bind_some, length]
  exact parsed.afterAll.ccmpSeal_eq roomLength

theorem aesDecipherWith_eq {cipher received : List U8} (behind : List U8) (receivedLength : received.length = 8)
    (fits : shape.hdrlen + 8 + cipher.length + 8 ≤ maxMsgSize) :
    aesDecipherWith encrypt hdrlen (front ++ (cipher ++ (received ++ behind)))
        (ofNat 32 (cipher.length + 8)) =
      some (front ++ (ctrText encrypt earlyNonce 0 cipher ++ (received ++ behind)),
        received == sentMic encrypt nonce header1 header2 (ctrText encrypt earlyNonce 0 cipher)) := by
  have small : cipher.length + 8 < 2 ^ 32 := by
    rw [maxMsgSize] at fits
    omega
  have less : (ofNat 32 (cipher.length + 8) - 8).toNat = cipher.length := by
    rw [plen_sub, BitVec.toNat_ofNat, Nat.mod_eq_of_lt (by omega)]
  have plen : (ofNat 32 (cipher.length + 8)).toNat = cipher.length + 8 := by
    rw [BitVec.toNat_ofNat, Nat.mod_eq_of_lt small]
  have frontLength := parsed.afterAll.length
  have decrypted := @CcmpFront.ctrPayload_eq encrypt _ _ _ _ _ _ parsed.atHdrlen cipher
    (received ++ behind)
  have plainLength := @ctrText_length encrypt earlyNonce 0 cipher
  generalize ctrText encrypt earlyNonce 0 cipher = plain at decrypted plainLength ⊢
  have whole := segment_middle [] (front ++ (plain ++ received)) behind
  have sealed := @CcmpFront.ccmpSeal_eq encrypt _ _ _ _ _ _ parsed.afterAll plain received []
    receivedLength
  have read := segment_middle (front ++ plain) received behind
  have computed := segment_middle (front ++ ctrText encrypt nonce 0 plain)
    (sentMic encrypt nonce header1 header2 plain) []
  have messageLength : (front ++ (plain ++ received)).length = shape.hdrlen + (cipher.length + 8) + 8 := by
    simp only [length_append, frontLength, plainLength, receivedLength]
    omega
  have place : (front ++ plain).length = shape.hdrlen + 8 + cipher.length := by
    rw [length_append, frontLength, plainLength]
  have placed : (front ++ ctrText encrypt nonce 0 plain).length = shape.hdrlen + 8 + cipher.length := by
    rw [length_append, frontLength, ctrText_length, plainLength]
  rw [messageLength] at whole
  rw [place, receivedLength] at read
  rw [placed, sentMic_length] at computed
  rw [plainLength] at sealed
  simp only [nil_append, append_assoc, List.length_nil, List.append_nil]
    at whole read computed sealed
  simp only [aesDecipherWith, parsed.controlRead, parsed.shapeIs, parsed.earlyRead, parsed.pnRead,
    bind_eq_bind, bind_some, less, plen, decrypted, whole, messageLength]
  rw [if_neg (by omega), sealed]
  simp only [bind_some, read]
  rw [← sentMic, computed]
  rfl

end CcmpParsed

def Untouched (shape : CcmpShape) (buffer after : List U8) : Prop :=
  after.length = buffer.length ∧ after.take (shape.hdrlen + 8) = buffer.take (shape.hdrlen + 8)

variable {after buffer : List U8} {count block plen : Nat}

theorem ctrBlocks_sameOutside (result : ctrBlocks encrypt shape pn count block buffer = some after) :
    SameOutside (shape.hdrlen + 8) (shape.hdrlen + 8 + (block + count) * 16) buffer after := by
  induction count generalizing block buffer with
  | zero =>
    cases result
    exact .refl ..
  | succ count ih =>
    obtain ⟨preload, _, rest⟩ := bind_eq_some_iff.mp result
    obtain ⟨bytes, _, rest⟩ := bind_eq_some_iff.mp rest
    obtain ⟨next, wrote, rest⟩ := bind_eq_some_iff.mp rest
    have written := overwrite_sameOutside wrote (Nat.le_add_right _ _)
      (show _ ≤ shape.hdrlen + 8 + (block + (count + 1)) * 16 by rw [Vector.length_toList]; omega)
    exact written.trans ((ih rest).mono (Nat.le_refl _) (by omega))

theorem ctrPayload_sameOutside (result : ctrPayload encrypt shape pn plen buffer = some after) :
    SameOutside (shape.hdrlen + 8) (shape.hdrlen + 8 + plen) buffer after := by
  obtain ⟨blocks, whole, rest⟩ := bind_eq_some_iff.mp result
  have written := (ctrBlocks_sameOutside whole).mono (Nat.le_refl _)
    (show _ ≤ shape.hdrlen + 8 + plen by omega)
  split at rest
  · obtain ⟨preload, _, rest⟩ := bind_eq_some_iff.mp rest
    obtain ⟨last, _, wrote⟩ := bind_eq_some_iff.mp rest
    refine written.trans (overwrite_sameOutside wrote (by omega) ?_)
    rw [List.length_take]
    omega
  · cases rest
    exact written

theorem ccmpSeal_sameOutside (result : ccmpSeal encrypt shape pn plen buffer = some after) :
    SameOutside (shape.hdrlen + 8) (shape.hdrlen + 8 + plen + 8) buffer after := by
  obtain ⟨mic, micIs, rest⟩ := bind_eq_some_iff.mp result
  obtain ⟨withMic, wrote, rest⟩ := bind_eq_some_iff.mp rest
  obtain ⟨keyed, payload, rest⟩ := bind_eq_some_iff.mp rest
  obtain ⟨preload, _, rest⟩ := bind_eq_some_iff.mp rest
  obtain ⟨sealed, _, last⟩ := bind_eq_some_iff.mp rest
  have micLength : mic.length = 8 := by
    obtain ⟨micIv, _, rest⟩ := bind_eq_some_iff.mp micIs
    obtain ⟨header1, _, rest⟩ := bind_eq_some_iff.mp rest
    obtain ⟨header2, _, rest⟩ := bind_eq_some_iff.mp rest
    obtain ⟨chain, _, rest⟩ := bind_eq_some_iff.mp rest
    split at rest
    · obtain ⟨last, _, rest⟩ := bind_eq_some_iff.mp rest
      cases rest
      simp
    · cases rest
      simp
  have begins := overwrite_sameOutside wrote (Nat.le_add_right _ _) (Nat.le_of_eq (congrArg _ micLength))
  have keyedSame := (ctrPayload_sameOutside payload).mono (Nat.le_refl _) (Nat.le_add_right _ 8)
  refine (begins.trans keyedSame).trans (overwrite_sameOutside last (by omega) ?_)
  rw [List.length_take]
  omega

theorem ccmpSeal_untouched (result : ccmpSeal encrypt shape pn plen buffer = some after) :
    Untouched shape buffer after := by
  obtain ⟨length, same⟩ := ccmpSeal_sameOutside result
  refine ⟨length, List.ext_getElem? fun index => ?_⟩
  by_cases small : index < shape.hdrlen + 8
  · rw [List.getElem?_take_of_lt small, List.getElem?_take_of_lt small, same index (.inl small)]
  · rw [List.getElem?_take_eq_none (by omega), List.getElem?_take_eq_none (by omega)]

end Floid.Wifi
