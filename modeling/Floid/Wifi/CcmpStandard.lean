import Floid.Wifi.AesStandard
import Floid.Wifi.CcmpRoundTrip

namespace Floid.Wifi

open Osk Lib
open Vector (ext toList)

structure DataHeader where
  control0 : U8
  control1 : U8
  duration : Vector U8 2
  a1 : MacAddr
  a2 : MacAddr
  a3 : MacAddr
  sequence0 : U8
  sequence1 : U8
  a4 : Option MacAddr
  qos : Option (Vector U8 2)
  isData : control0 &&& 0x0C = 0x08
  fourAddresses : a4.isSome ↔ control1 &&& 0x03 = 0x03
  qosData : qos.isSome ↔ control0 &&& 0x80 = 0x80

namespace DataHeader

def bytes (header : DataHeader) : List U8 :=
  [header.control0, header.control1] ++ header.duration.toList ++ header.a1.toList ++
    header.a2.toList ++ header.a3.toList ++ [header.sequence0, header.sequence1] ++
    ((header.a4.map toList).getD []) ++ ((header.qos.map toList).getD [])

def tid (qos : Vector U8 2) : U8 := qos[0] &&& 0x0F

def nonce (header : DataHeader) (pn : Vector U8 6) : List U8 :=
  [(header.qos.map tid).getD 0] ++ header.a2.toList ++ [pn[5], pn[4], pn[3], pn[2], pn[1], pn[0]]

def additionalData (header : DataHeader) : List U8 :=
  [header.control0 &&& 0x8F, header.control1 &&& 0xC7] ++ header.a1.toList ++ header.a2.toList ++
    header.a3.toList ++ [header.sequence0 &&& 0x0F, 0] ++ ((header.a4.map toList).getD []) ++
    ((header.qos.map fun qos => [tid qos, 0]).getD [])

def fragmentNumber (header : DataHeader) : U8 := header.sequence0 &&& 0x0F

/-- The headers that `aes_cipher` takes apart as the standard does. -/
def Conforming (header : DataHeader) : Prop :=
  header.fragmentNumber = 0 ∧ ¬(header.a4.isSome ∧ header.qos.isSome) ∧ header.control0 &&& 0x40 = 0

instance (header : DataHeader) : Decidable header.Conforming := inferInstanceAs (Decidable (_ ∧ _))

end DataHeader

structure CcmpHeader where
  pn : Vector U8 6
  reserved : U8
  keyId : U8

def CcmpHeader.bytes (ccmp : CcmpHeader) : List U8 :=
  [ccmp.pn[0], ccmp.pn[1], ccmp.reserved, ccmp.keyId, ccmp.pn[2], ccmp.pn[3], ccmp.pn[4], ccmp.pn[5]]

/-- What `aes_cipher` should make of a frame: the payload and the tag are those of CCM. -/
def SealedByCcm (encrypt : Block → Block) (header : DataHeader) (ccmp : CcmpHeader) (payload room : List U8) : Prop :=
  aesCipherWith encrypt header.bytes.length (header.bytes ++ ccmp.bytes ++ payload ++ room)
      (BitVec.ofNat 32 payload.length) =
    some (header.bytes ++ ccmp.bytes ++ Ccm.cipherText encrypt 2 (header.nonce ccmp.pn) payload ++
      Ccm.tag encrypt 8 2 (header.nonce ccmp.pn) header.additionalData payload ++ room.drop 8)

theorem vector_two {α : Type} (v : Vector α 2) : ∃ a b, v = #v[a, b] :=
  ⟨v[0], v[1], ext fun index small => by
    match index, small with
    | 0, _ | 1, _ => rfl⟩

theorem vector_six {α : Type} (v : Vector α 6) : ∃ a b c d e f, v = #v[a, b, c, d, e, f] :=
  ⟨v[0], v[1], v[2], v[3], v[4], v[5], ext fun index small => by
    match index, small with
    | 0, _ | 1, _ | 2, _ | 3, _ | 4, _ | 5, _ => rfl⟩

theorem bigEndian_eq (number : Nat) : bigEndian number = Ccm.bigEndian 2 number := by
  have mod (number : Nat) : BitVec.ofNat 8 (number % 256) = BitVec.ofNat 8 number :=
    BitVec.eq_of_toNat_eq (by simp)
  rw [Ccm.bigEndian_two, bigEndian, mod, mod]

variable {encrypt : Block → Block}

theorem ctrBlock_eq (nonce : List U8) (number : Nat) :
    ctrBlock nonce number = Ccm.counterBlock 2 nonce number := by
  rw [ctrBlock, bigEndian_eq]
  rfl

theorem ctrText_eq (nonce text : List U8) :
    ctrText encrypt nonce 0 text = Ccm.cipherText encrypt 2 nonce text := by
  have keys : payloadKeyBlock encrypt nonce =
      fun index => encrypt (Ccm.counterBlock 2 nonce (index + 1)) :=
    funext fun index => by rw [payloadKeyBlock, ctrBlock_eq]
  rw [ctrText, keys]
  rfl

theorem sentMic_eq {nonce data : List U8} {header1 header2 : Block} (text : List U8)
    (some : data ≠ []) (blocks : Ccm.blocks (Ccm.lengthAndData data) = [header1, header2]) :
    sentMic encrypt nonce header1 header2 text = Ccm.tag encrypt 8 2 nonce data text := by
  have first : Ccm.firstBlock 8 2 nonce data text = paddedBlock ([0x59] ++ nonce ++ bigEndian text.length) := by
    rw [Ccm.firstBlock, if_neg some, bigEndian_eq]
    rfl
  rw [sentMic, micText, Ccm.tag, Ccm.mac, first, blocks, ctrBlock_eq, Ccm.blocks]

def DataHeader.control (header : DataHeader) : U16 := header.control1 ++ header.control0

theorem append_and (high low mask : U8) : (high ++ low) &&& mask.setWidth 16 = (low &&& mask).setWidth 16 := by
  refine BitVec.eq_of_getLsbD_eq fun index small => ?_
  simp only [BitVec.getLsbD_and, BitVec.getLsbD_append, BitVec.getLsbD_setWidth, small, decide_true, Bool.true_and]
  by_cases inside : index < 8
  · simp [inside]
  · simp [inside, BitVec.getLsbD_of_ge low index (by omega), BitVec.getLsbD_of_ge mask index (by omega)]

variable (header : DataHeader)

theorem DataHeader.isQosData_iff :
    IsQosData header.control ↔ header.qos.isSome ∧ header.control0 &&& 0x40 = 0 := by
  rw [IsQosData, DataHeader.control, show (0x0080 : U16) = (0x80 : U8).setWidth 16 from rfl,
    show (0x0040 : U16) = (0x40 : U8).setWidth 16 from rfl, append_and, append_and, header.qosData]
  generalize header.control0 = byte
  revert byte
  decide +kernel

theorem DataHeader.bytes_length : header.bytes.length =
    24 + (if header.a4.isSome then 6 else 0) + if header.qos.isSome then 2 else 0 := by
  unfold DataHeader.bytes
  cases header.a4 <;> cases header.qos <;> simp

theorem DataHeader.ccmpShape_eq :
    ccmpShape header.control header.bytes.length = {
      hdrlen := header.bytes.length +
        if header.a4.isSome ∧ header.qos.isSome ∧ header.control0 &&& 0x40 = 0 then 2 else 0
      a4Exists := header.a4.isSome
      qcExists := header.qos.isSome ∧ header.control0 &&& 0x40 = 0 } := by
  rw [Wifi.ccmpShape_eq, header.bytes_length]
  simp only [header.isQosData_iff, wlanHdrA3Len, wlanHdrA3QosLen]
  cases header.a4 <;> cases header.qos <;> simp
  split <;> rfl

def DataHeader.usedQos (header : DataHeader) (qcExists : Bool) : U8 :=
  if qcExists then (header.qos.map DataHeader.tid).getD 0 else 0

def DataHeader.usedNonce (header : DataHeader) (qcExists : Bool) (pn : Vector U8 6) : List U8 :=
  [header.usedQos qcExists] ++ header.a2.toList ++ [pn[5], pn[4], pn[3], pn[2], pn[1], pn[0]]

def DataHeader.usedHeader1 (header : DataHeader) (hdrlen : Nat) : Block :=
  paddedBlock (bigEndian (hdrlen - 2) ++ [header.control0 &&& 0xCF, header.control1 &&& 0xC7] ++
    (header.a1.toList ++ header.a2.toList))

def DataHeader.usedHeader2 (header : DataHeader) (qcExists : Bool) : Block :=
  paddedBlock (header.a3.toList ++ [0, 0] ++ ((header.a4.map toList).getD []) ++
    (if qcExists then [header.usedQos true] else []))

structure DataHeader.ReadAs (header : DataHeader) (ccmp : CcmpHeader) (shape : CcmpShape) : Prop where
  nonce : ∀ pn, ccmpNonce shape (header.bytes ++ ccmp.bytes) pn = some (header.usedNonce shape.qcExists pn)
  header1 : constructMicHeader1 shape.hdrlen (header.bytes ++ ccmp.bytes) =
    some (header.usedHeader1 shape.hdrlen)
  header2 : constructMicHeader2 shape (header.bytes ++ ccmp.bytes) = some (header.usedHeader2 shape.qcExists)
  pn : pnVector (header.bytes ++ ccmp.bytes) header.bytes.length = some ccmp.pn

variable {shape : CcmpShape}

theorem DataHeader.readAs_threeAddresses (ccmp : CcmpHeader)
    (three : header.a4 = none) (a4Exists : shape.a4Exists = false)
    (qcExists : shape.qcExists → header.qos.isSome) : header.ReadAs ccmp shape := by
  obtain ⟨c0, c1, duration, a1, a2, a3, s0, s1, _, qos, _, _, _⟩ := header
  obtain ⟨pn, _, _⟩ := ccmp
  obtain ⟨hdrlen, _, qcFlag⟩ := shape
  obtain ⟨_, _, rfl⟩ := vector_two duration
  obtain ⟨_, _, _, _, _, _, rfl⟩ := vector_six a1
  obtain ⟨_, _, _, _, _, _, rfl⟩ := vector_six a2
  obtain ⟨_, _, _, _, _, _, rfl⟩ := vector_six a3
  obtain ⟨_, _, _, _, _, _, rfl⟩ := vector_six pn
  cases a4Exists
  cases three
  cases qos with
  | none =>
    cases qcFlag with
    | false => exact ⟨fun _ => rfl, rfl, rfl, rfl⟩
    | true => exact (Bool.false_ne_true (qcExists rfl)).elim
  | some qos =>
    obtain ⟨_, _, rfl⟩ := vector_two qos
    cases qcFlag <;> exact ⟨fun _ => rfl, rfl, rfl, rfl⟩

theorem DataHeader.readAs_fourAddresses (ccmp : CcmpHeader) {a4 : MacAddr}
    (four : header.a4 = some a4) (a4Exists : shape.a4Exists = true)
    (qcExists : shape.qcExists → header.qos.isSome) : header.ReadAs ccmp shape := by
  obtain ⟨c0, c1, duration, a1, a2, a3, s0, s1, _, qos, _, _, _⟩ := header
  obtain ⟨pn, _, _⟩ := ccmp
  obtain ⟨hdrlen, _, qcFlag⟩ := shape
  obtain ⟨_, _, rfl⟩ := vector_two duration
  obtain ⟨_, _, _, _, _, _, rfl⟩ := vector_six a1
  obtain ⟨_, _, _, _, _, _, rfl⟩ := vector_six a2
  obtain ⟨_, _, _, _, _, _, rfl⟩ := vector_six a3
  obtain ⟨_, _, _, _, _, _, rfl⟩ := vector_six a4
  obtain ⟨_, _, _, _, _, _, rfl⟩ := vector_six pn
  cases a4Exists
  cases four
  cases qos with
  | none =>
    cases qcFlag with
    | false => exact ⟨fun _ => rfl, rfl, rfl, rfl⟩
    | true => exact (Bool.false_ne_true (qcExists rfl)).elim
  | some qos =>
    obtain ⟨_, _, rfl⟩ := vector_two qos
    cases qcFlag <;> exact ⟨fun _ => rfl, rfl, rfl, rfl⟩

theorem DataHeader.readAs (ccmp : CcmpHeader) :
    header.ReadAs ccmp (ccmpShape header.control header.bytes.length) := by
  rw [header.ccmpShape_eq]
  cases four : header.a4 with
  | none =>
    exact header.readAs_threeAddresses ccmp four rfl fun both => (of_decide_eq_true both).1
  | some a4 =>
    exact header.readAs_fourAddresses ccmp four rfl fun both => (of_decide_eq_true both).1

theorem DataHeader.frameControl_bytes (back : List U8) :
    frameControl (header.bytes ++ back) = some header.control := rfl

theorem DataHeader.aesCipherWith_eq (header : DataHeader) (ccmp : CcmpHeader)
    {payload room : List U8} (short : payload.length ≤ 65535) (roomLength : 8 ≤ room.length)
    (same : ¬(header.a4.isSome ∧ header.qos.isSome ∧ header.control0 &&& 0x40 = 0)) {qcExists : Bool}
    (qc : qcExists = decide (header.qos.isSome ∧ header.control0 &&& 0x40 = 0)) :
    aesCipherWith encrypt header.bytes.length (header.bytes ++ ccmp.bytes ++ payload ++ room)
        (BitVec.ofNat 32 payload.length) =
      some (header.bytes ++ ccmp.bytes ++ (ctrText encrypt (header.usedNonce qcExists ccmp.pn) 0 payload ++
        (sentMic encrypt (header.usedNonce qcExists ccmp.pn)
          (header.usedHeader1 header.bytes.length) (header.usedHeader2 qcExists) payload ++ room.drop 8))) := by
  have shaped := header.ccmpShape_eq
  rw [if_neg same, Nat.add_zero, ← qc] at shaped
  have found := header.readAs ccmp
  obtain ⟨early, pn, earlyNonce, nonce, header1, header2, parsed, _⟩ :=
    @ccmpParsed_exists (header.bytes ++ ccmp.bytes) header.control header.bytes.length
      (by rw [header.bytes_length]; omega) (ccmpShape_grows _ _) (header.frameControl_bytes _)
      (by rw [shaped, List.length_append]; rfl)
  rw [shaped] at found parsed
  obtain rfl : ccmp.pn = pn := by
    have read := parsed.pnRead []
    rw [List.append_nil, found.pn] at read
    exact Option.some.inj read
  obtain rfl : header.usedNonce qcExists ccmp.pn = nonce := by
    have read := parsed.afterAll.nonce []
    rw [List.append_nil, found.nonce] at read
    exact Option.some.inj read
  obtain rfl : header.usedHeader1 header.bytes.length = header1 := by
    have read := parsed.afterAll.header1 []
    rw [List.append_nil, found.header1] at read
    exact Option.some.inj read
  obtain rfl : header.usedHeader2 qcExists = header2 := by
    have read := parsed.afterAll.header2 []
    rw [List.append_nil, found.header2] at read
    exact Option.some.inj read
  have sealed := @CcmpParsed.aesCipherWith_eq encrypt _ _ _ _ _ _ _ _ _ _ parsed payload
    (room.take 8) (room.drop 8) (by rw [List.length_take]; omega) (by omega)
  rwa [List.take_append_drop, ← List.append_assoc] at sealed

theorem paddedBlock_zero (text : List U8) : (paddedBlock (text ++ [0]) : Block) = paddedBlock text := by
  refine ext fun index small => ?_
  simp only [paddedBlock, Vector.getElem_ofFn, List.getD_eq_getElem?_getD]
  by_cases inside : index < text.length
  · rw [List.getElem?_append_left inside]
  · rw [List.getElem?_append_right (by omega), List.getElem?_eq_none (by omega : text.length ≤ index)]
    cases index - text.length <;> rfl

theorem DataHeader.additionalData_length : header.additionalData.length = header.bytes.length - 2 := by
  rw [header.bytes_length]
  unfold DataHeader.additionalData
  cases header.a4 <;> cases header.qos <;> simp

theorem DataHeader.blocks_additionalData : Ccm.blocks (Ccm.lengthAndData header.additionalData) =
      [paddedBlock (bigEndian (header.bytes.length - 2) ++ [header.control0 &&& 0x8F, header.control1 &&& 0xC7] ++
          (header.a1.toList ++ header.a2.toList)),
        paddedBlock (header.a3.toList ++ [header.fragmentNumber, 0] ++
          ((header.a4.map toList).getD []) ++ (header.qos.map fun qos => [tid qos]).getD [])] := by
  have some : header.additionalData ≠ [] := by simp [DataHeader.additionalData]
  have parts : Ccm.lengthAndData header.additionalData =
      (bigEndian (header.bytes.length - 2) ++ [header.control0 &&& 0x8F, header.control1 &&& 0xC7] ++
        (header.a1.toList ++ header.a2.toList)) ++
      (header.a3.toList ++ [header.fragmentNumber, 0] ++ ((header.a4.map toList).getD []) ++
        (header.qos.map fun qos => [tid qos, 0]).getD []) := by
    rw [Ccm.lengthAndData, if_neg some, additionalData_length, ← bigEndian_eq, additionalData]
    simp only [List.append_assoc]
    rfl
  rw [parts, Ccm.blocks_two (by simp [bigEndian]) (by simp only [List.length_append, List.length_cons]; omega)]
  · refine congrArg (fun block => [_, block]) ?_
    cases header.qos with
    | none => rfl
    | some qos =>
      rw [Option.map_some, Option.map_some, Option.getD_some, Option.getD_some,
        show [tid qos, 0] = [tid qos] ++ [0] from rfl, ← List.append_assoc, paddedBlock_zero]
  · cases header.a4 <;> cases header.qos <;> simp

end Floid.Wifi
