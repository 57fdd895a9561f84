import Floid.Wifi.CcmpStandard

namespace Floid.Wifi

open Floid.Osk Floid.Lib Ccm DataHeader

variable {encrypt : Block → Block}

theorem masked_eq_iff (byte : U8) : byte &&& 0xCF = byte &&& 0x8F ↔ byte &&& 0x40 = 0 := by
  revert byte
  decide +kernel

variable {header : DataHeader} {payload room : List U8} {ccmp : CcmpHeader}

theorem DataHeader.Conforming.sealedByCcm (conforming : header.Conforming)
    (ccmp : CcmpHeader) (short : payload.length ≤ 65535)
    (roomLength : 8 ≤ room.length) : SealedByCcm encrypt header ccmp payload room := by
  obtain ⟨fragment, addresses, bit⟩ := conforming
  have sealed := @DataHeader.aesCipherWith_eq encrypt header ccmp payload room short roomLength
    (fun both => addresses ⟨both.1, both.2.1⟩) header.qos.isSome
    (by simp only [bit, and_true, Bool.decide_eq_true])
  have used : header.usedNonce header.qos.isSome ccmp.pn = header.nonce ccmp.pn := by
    rw [usedNonce, usedQos, DataHeader.nonce]
    cases header.qos <;> rfl
  have blocks : Ccm.blocks (lengthAndData header.additionalData) =
      [header.usedHeader1 header.bytes.length, header.usedHeader2 header.qos.isSome] := by
    rw [header.blocks_additionalData, fragment, ← (masked_eq_iff _).mpr bit, usedHeader1, usedHeader2, usedQos]
    cases header.qos <;> rfl
  have some : header.additionalData ≠ [] := by simp [additionalData]
  rw [used, ctrText_eq, sentMic_eq payload some blocks] at sealed
  rw [SealedByCcm, sealed]
  simp only [List.append_assoc]

theorem cbcChain_id (chain : Block) (blocks : List Block) (index : Fin 16) :
    (cbcChain id chain blocks)[index] = chain[index] ^^^ (cbcChain id 0 blocks)[index] := by
  induction blocks generalizing chain with
  | nil => simp [cbcChain]
  | cons block rest ih =>
    have steps (start : Block) : cbcChain id start (block :: rest) =
        cbcChain id (xorBlocks start block) rest := rfl
    rw [steps, steps, ih, ih (xorBlocks 0 block)]
    simp [xorBlocks, BitVec.xor_assoc]

theorem sentMic_id (nonce : List U8) (header1 header2 : Block) (text : List U8) (index : Fin 8) :
    (sentMic id nonce header1 header2 text)[index.val]? =
      some (((paddedBlock ([0x59] ++ nonce ++ bigEndian text.length) : Block)[index.val] ^^^
        header1[index.val] ^^^ header2[index.val]) ^^^
          (cbcChain id 0 (textBlocks 16 ((text.length + 15) / 16) text))[index.val] ^^^
            (ctrBlock nonce 0)[index.val]) := by
  have small := index.isLt
  have steps (start : Block) (blocks : List Block) :
      cbcChain id start ([header1, header2] ++ blocks) =
        cbcChain id (xorBlocks (xorBlocks start header1) header2) blocks := rfl
  have split := cbcChain_id (xorBlocks (xorBlocks (paddedBlock ([0x59] ++ nonce ++
    bigEndian text.length)) header1) header2) (textBlocks 16 ((text.length + 15) / 16) text)
    ⟨index, by omega⟩
  rw [sentMic, micText, steps, List.getElem?_zipWith, List.getElem?_take_of_lt small,
    Vector.getElem?_toList, Vector.getElem?_toList, Vector.getElem?_eq_getElem (by omega),
    Vector.getElem?_eq_getElem (by omega)]
  simp only [Fin.getElem_fin] at split
  simp only [id, split]
  simp only [xorBlocks, Vector.getElem_zipWith]

theorem paddedBlock_getElem (text : List U8) {index : Nat} (small : index < 16) :
    (paddedBlock text : Block)[index] = text.getD index 0 := by
  rw [paddedBlock, Vector.getElem_ofFn]

theorem sentMic_id_bytes (priority control0 control1 fragment : U8) (a1 a2 a3 : MacAddr)
    (rest more last text : List U8) (count : Nat) :
    let mic := sentMic id ([priority] ++ (a2.toList ++ rest))
      (paddedBlock (bigEndian count ++ ([control0, control1] ++ (a1.toList ++ more))))
      (paddedBlock (a3.toList ++ ([fragment, 0] ++ last))) text
    let sum := cbcChain id 0 (textBlocks 16 ((text.length + 15) / 16) text)
    mic[2]? = some (a2.get 0 ^^^ control0 ^^^ a3.get 2 ^^^ sum.get 2 ^^^ a2.get 0) ∧
      mic[6]? = some (a2.get 4 ^^^ a1.get 2 ^^^ fragment ^^^ sum.get 6 ^^^ a2.get 4) := by
  have third := sentMic_id ([priority] ++ (a2.toList ++ rest))
    (paddedBlock (bigEndian count ++ ([control0, control1] ++ (a1.toList ++ more))))
    (paddedBlock (a3.toList ++ ([fragment, 0] ++ last))) text 2
  have seventh := sentMic_id ([priority] ++ (a2.toList ++ rest))
    (paddedBlock (bigEndian count ++ ([control0, control1] ++ (a1.toList ++ more))))
    (paddedBlock (a3.toList ++ ([fragment, 0] ++ last))) text 6
  rw [ctrBlock] at third seventh
  simp only [paddedBlock_getElem] at third seventh
  obtain ⟨_, _, _, _, _, _, rfl⟩ := vector_six a1
  obtain ⟨_, _, _, _, _, _, rfl⟩ := vector_six a2
  obtain ⟨_, _, _, _, _, _, rfl⟩ := vector_six a3
  exact ⟨third, seventh⟩

theorem conforming_of_id (short : payload.length ≤ 65535) (roomLength : 8 ≤ room.length)
    (same : ¬(header.a4.isSome ∧ header.qos.isSome ∧ header.control0 &&& 0x40 = 0))
    (sealed : SealedByCcm id header ccmp payload room) : header.Conforming := by
  have found := @DataHeader.aesCipherWith_eq id header ccmp payload room short roomLength same _ rfl
  generalize decide (header.qos.isSome ∧ header.control0 &&& 0x40 = 0) = qcExists at found
  have some : header.additionalData ≠ [] := by simp [additionalData]
  have equal := Option.some.inj (found.symm.trans sealed)
  rw [← sentMic_eq payload some header.blocks_additionalData, ← ctrText_eq] at equal
  simp only [List.append_assoc] at equal
  rw [List.append_cancel_left_eq, List.append_cancel_left_eq] at equal
  have tags := List.append_inj_left (List.append_inj_right equal
    (by rw [ctrText_length, ctrText_length])) (by rw [sentMic_length, sentMic_length])
  rw [usedNonce, usedHeader1, usedHeader2, DataHeader.nonce] at tags
  simp only [List.append_assoc] at tags
  obtain ⟨third, seventh⟩ := sentMic_id_bytes (header.usedQos qcExists)
    (header.control0 &&& 0xCF) (header.control1 &&& 0xC7) 0 header.a1 header.a2 header.a3
    [ccmp.pn[5], ccmp.pn[4], ccmp.pn[3], ccmp.pn[2], ccmp.pn[1], ccmp.pn[0]] header.a2.toList
    ((header.a4.map Vector.toList).getD [] ++ if qcExists = true then [header.usedQos true] else [])
    payload (header.bytes.length - 2)
  obtain ⟨third', seventh'⟩ := sentMic_id_bytes ((header.qos.map tid).getD 0)
    (header.control0 &&& 0x8F) (header.control1 &&& 0xC7) header.fragmentNumber header.a1 header.a2
    header.a3 [ccmp.pn[5], ccmp.pn[4], ccmp.pn[3], ccmp.pn[2], ccmp.pn[1], ccmp.pn[0]]
    header.a2.toList ((header.a4.map Vector.toList).getD [] ++
      (header.qos.map fun qos => [tid qos]).getD []) payload (header.bytes.length - 2)
  rw [tags, third', Option.some.injEq] at third
  rw [tags, seventh', Option.some.injEq] at seventh
  simp only [BitVec.xor_left_inj, BitVec.xor_right_inj] at third seventh
  have bit := (masked_eq_iff _).mp third.symm
  exact ⟨seventh, fun both => same ⟨both.1, both.2, bit⟩, bit⟩

theorem first_unchanged (both : header.a4.isSome ∧ header.qos.isSome ∧ header.control0 &&& 0x40 = 0)
    (sealed : SealedByCcm encrypt header ccmp payload room) :
    (cipherText encrypt 2 (header.nonce ccmp.pn) payload ++
        (tag encrypt 8 2 (header.nonce ccmp.pn) header.additionalData payload ++
          room.drop 8))[0]? = (payload ++ room)[0]? := by
  have shaped := header.ccmpShape_eq
  rw [if_pos both] at shaped
  rw [SealedByCcm] at sealed
  simp only [List.append_assoc] at sealed
  rw [aesCipherWith, header.frameControl_bytes, Option.bind_eq_bind, Option.bind_some] at sealed
  obtain ⟨pn, _, done⟩ := Option.bind_eq_some_iff.mp sealed
  obtain ⟨_, same⟩ := ccmpSeal_untouched done
  rw [shaped] at same
  have place (back : List U8) :
      (header.bytes ++ (ccmp.bytes ++ back))[header.bytes.length + 8]? = back[0]? := by
    have ccmpLength : ccmp.bytes.length = 8 := rfl
    rw [List.getElem?_append_right (by omega), List.getElem?_append_right (by omega),
      Nat.add_sub_cancel_left, ccmpLength]
  have byte := congrArg (·[header.bytes.length + 8]?) same
  simp only [List.getElem?_take_of_lt (show header.bytes.length + 8 < header.bytes.length + 2 + 8 by
    omega), place] at byte
  exact byte

def tagOnes (nonce : List U8) (block : Block) : Block :=
  if block = Ccm.counterBlock 2 nonce 0 then 0 else Vector.replicate 16 0xFF

theorem tagOnes_of_ne {nonce : List U8} {block : Block} (index : Fin 16)
    (differs : block[index] ≠ (counterBlock 2 nonce 0)[index]) :
    tagOnes nonce block = Vector.replicate 16 0xFF :=
  if_neg fun same => differs (congrArg (·[index]) same)

theorem tag_tagOnes {header : DataHeader} {ccmp : CcmpHeader} (both : header.a4.isSome ∧ header.qos.isSome) :
    (tag (tagOnes (header.nonce ccmp.pn)) 8 2 (header.nonce ccmp.pn) header.additionalData
      [])[0]? = some 0xFF := by
  obtain ⟨a4, four⟩ := Option.isSome_iff_exists.mp both.1
  obtain ⟨qos, qosIs⟩ := Option.isSome_iff_exists.mp both.2
  have some : header.additionalData ≠ [] := by simp [additionalData]
  have length : header.bytes.length - 2 = 30 := by
    rw [header.bytes_length, four, qosIs]
    rfl
  obtain ⟨_, _, _, _, _, _, a2Is⟩ := vector_six header.a2
  obtain ⟨_, _, _, _, _, _, a3Is⟩ := vector_six header.a3
  obtain ⟨_, _, _, _, _, _, rfl⟩ := vector_six a4
  have counter0 : (counterBlock 2 (header.nonce ccmp.pn) 0)[0] = 0x01 := by
    rw [counterBlock, paddedBlock_getElem]
    rfl
  have counter15 : (counterBlock 2 (header.nonce ccmp.pn) 0)[15] = 0 := by
    rw [counterBlock, paddedBlock_getElem, DataHeader.nonce, a2Is]
    rfl
  have ones (block : Block) (index : Fin 16) :
      (xorBlocks (Vector.replicate 16 0xFF) block)[index] = 0xFF ^^^ block[index] := by
    simp [xorBlocks]
  have first : tagOnes (header.nonce ccmp.pn) (firstBlock 8 2 (header.nonce ccmp.pn)
      header.additionalData []) = Vector.replicate 16 0xFF := by
    refine tagOnes_of_ne 0 ?_
    rw [firstBlock, if_neg some, Fin.getElem_fin, Fin.getElem_fin, paddedBlock_getElem]
    change (0x59 : U8) ≠ (counterBlock 2 (header.nonce ccmp.pn) 0)[0]
    rw [counter0]
    decide
  have chain : mac (tagOnes (header.nonce ccmp.pn)) 8 2 (header.nonce ccmp.pn)
      header.additionalData [] = Vector.replicate 16 0xFF := by
    rw [mac, header.blocks_additionalData, length, four, qosIs, first]
    change tagOnes _ (xorBlocks (tagOnes _ (xorBlocks _ _)) _) = _
    refine tagOnes_of_ne 15 ?_
    rw [tagOnes_of_ne 0]
    · rw [ones, Fin.getElem_fin, Fin.getElem_fin, paddedBlock_getElem, a3Is]
      change (0xFF : U8) ^^^ 0 ≠ (counterBlock 2 (header.nonce ccmp.pn) 0)[15]
      rw [counter15]
      decide
    · rw [ones, Fin.getElem_fin, Fin.getElem_fin, paddedBlock_getElem]
      change (0xFF : U8) ^^^ 0 ≠ (counterBlock 2 (header.nonce ccmp.pn) 0)[0]
      rw [counter0]
      decide
  have key : tagOnes (header.nonce ccmp.pn) (counterBlock 2 (header.nonce ccmp.pn) 0) = 0 :=
    if_pos rfl
  rw [tag, chain, key]
  rfl

theorem tag_zero (nonce data : List U8) : (tag (fun _ => 0) 8 2 nonce data [])[0]? = some 0 := by
  have chain (blocks : List Block) : cbcChain (fun _ => (0 : Block)) 0 blocks = 0 := by
    induction blocks with
    | nil => rfl
    | cons block rest ih => exact ih
  rw [tag, mac, chain]
  rfl

theorem not_sealed_fourAddressesQos (ccmp : CcmpHeader) (payload room : List U8)
    (both : header.a4.isSome ∧ header.qos.isSome ∧ header.control0 &&& 0x40 = 0) :
    ∃ encrypt, ¬SealedByCcm encrypt header ccmp payload room := by
  cases payload with
  | cons byte rest =>
    refine ⟨fun _ => Vector.replicate 16 0xFF, fun sealed => ?_⟩
    have same := first_unchanged both sealed
    have first : (cipherText (fun _ => Vector.replicate 16 (0xFF : U8)) 2 (header.nonce ccmp.pn)
        (byte :: rest))[0]? = some (byte ^^^ 0xFF) := rfl
    rw [List.getElem?_append_left (by simp [cipherText, applyStream_length]), first] at same
    have unequal : ∀ byte : U8, byte ^^^ 0xFF ≠ byte := by decide +kernel
    exact unequal byte (Option.some.inj same)
  | nil =>
    by_cases zero : room[0]? = some 0
    · refine ⟨tagOnes (header.nonce ccmp.pn), fun sealed => ?_⟩
      have same := first_unchanged both sealed
      have ones := @tag_tagOnes header ccmp ⟨both.1, both.2.1⟩
      rw [List.nil_append, zero] at same
      change (_ ++ room.drop 8)[0]? = _ at same
      rw [List.getElem?_append_left (List.getElem?_eq_some_iff.mp ones).1, ones] at same
      cases same
    · refine ⟨fun _ => 0, fun sealed => zero ?_⟩
      have same := first_unchanged both sealed
      change (_ ++ room.drop 8)[0]? = _ at same
      rw [List.getElem?_append_left (List.getElem?_eq_some_iff.mp (tag_zero _ _)).1, tag_zero] at same
      exact same.symm

/-- `aes_cipher` makes of a frame what AES-CCM does. -/
def SealedByAesCcm (key : Block) (header : DataHeader) (ccmp : CcmpHeader) (payload room : List U8) : Prop :=
  aesCipher key header.bytes.length (header.bytes ++ ccmp.bytes ++ payload ++ room)
      (BitVec.ofNat 32 payload.length) =
    some (header.bytes ++ ccmp.bytes ++ Ccm.cipherText (Rijndael.aes128 key) 2 (header.nonce ccmp.pn) payload ++
      Ccm.tag (Rijndael.aes128 key) 8 2 (header.nonce ccmp.pn) header.additionalData payload ++ room.drop 8)

theorem sealedByAesCcm_iff (key : Block) (header : DataHeader) (ccmp : CcmpHeader) (payload room : List U8) :
    SealedByAesCcm key header ccmp payload room ↔ SealedByCcm (aes128k128d key) header ccmp payload room := by
  rw [SealedByAesCcm, SealedByCcm, ← show aes128k128d key = Rijndael.aes128 key from
    funext (aes128k128d_eq key)]
  rfl

/-- With a conforming header `aes_cipher` computes AES-CCM, whatever the key. With any other
header there is a block function with which it does not compute CCM. -/
theorem aesCipher_ccm (header : DataHeader) (ccmp : CcmpHeader) {payload room : List U8}
    (short : payload.length ≤ 65535) (roomLength : 8 ≤ room.length) :
    (header.Conforming → ∀ key, SealedByAesCcm key header ccmp payload room) ∧
      (¬header.Conforming → ∃ encrypt, ¬SealedByCcm encrypt header ccmp payload room) := by
  constructor
  · intro conforming key
    exact (sealedByAesCcm_iff key header ccmp payload room).mpr
      (conforming.sealedByCcm ccmp short roomLength)
  · intro violated
    by_cases both : header.a4.isSome ∧ header.qos.isSome ∧ header.control0 &&& 0x40 = 0
    · exact not_sealed_fourAddressesQos ccmp payload room both
    · exact ⟨id, fun sealed => violated (conforming_of_id short roomLength both sealed)⟩

def qosHeader (fourth : Bool) : DataHeader where
  control0 := 0x88
  control1 := if fourth then 0x43 else 0x41
  duration := Vector.replicate 2 0
  a1 := Vector.replicate 6 0
  a2 := Vector.replicate 6 0
  a3 := Vector.replicate 6 0
  sequence0 := 0x10
  sequence1 := 0
  a4 := if fourth then some (Vector.replicate 6 0) else none
  qos := some #v[0x05, 0]
  isData := by decide
  fourAddresses := by cases fourth <;> decide
  qosData := by decide

theorem aesCipher_ccm_threeAddresses : SealedByAesCcm (Vector.replicate 16 0) (qosHeader false)
    ⟨Vector.replicate 6 0, 0, 0x20⟩ [0xAA, 0xAA, 0x03] (List.replicate 8 0) :=
  (aesCipher_ccm (qosHeader false) ⟨Vector.replicate 6 0, 0, 0x20⟩ (by decide) (by decide)).1
    (by decide) (Vector.replicate 16 0)

/-- With four addresses the first byte of the payload is sent as it is. -/
theorem aesCipher_ccm_fails : ¬SealedByAesCcm (Vector.replicate 16 0) (qosHeader true)
    ⟨Vector.replicate 6 0, 0, 0x20⟩ [0xAA, 0xAA, 0x03] (List.replicate 32 0) := by
  intro sealed
  have same := first_unchanged (by decide) ((sealedByAesCcm_iff _ _ _ _ _).mp sealed)
  rw [List.getElem?_append_left (by simp [Ccm.cipherText, applyStream_length])] at same
  have key : (aes128k128d (Vector.replicate 16 0) (Ccm.counterBlock 2
      ((qosHeader true).nonce (Vector.replicate 6 0)) 1))[0] ≠ 0 := by decide +kernel
  generalize aes128k128d (Vector.replicate 16 0) = encrypt at same key
  have first : (Ccm.cipherText encrypt 2 ((qosHeader true).nonce (Vector.replicate 6 0))
      [0xAA, 0xAA, 0x03])[0]? = some (0xAA ^^^ (encrypt (Ccm.counterBlock 2
        ((qosHeader true).nonce (Vector.replicate 6 0)) 1)).toList.getD 0 0) := rfl
  rw [first, List.getD_eq_getElem?_getD, Vector.getElem?_toList,
    Vector.getElem?_eq_getElem (by omega), Option.getD_some] at same
  have sum := Option.some.inj same
  rw [← BitVec.xor_zero (x := (0xAA : U8)), BitVec.xor_assoc, BitVec.xor_right_inj, BitVec.zero_xor] at sum
  exact key sum

end Floid.Wifi
