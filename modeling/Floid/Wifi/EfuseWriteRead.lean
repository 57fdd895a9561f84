import Floid.Wifi.EfuseProgramming
import Floid.Lib.Transition

namespace Floid.Wifi

open Floid.Lib PgWrite
open BitVec (ofNat)

structure EfuseWriteCall where
  offset : U8
  wordEn : U8
  data : List U8
  offset_lt : offset.toNat < efuseMaxSection
  wordEn_lt : wordEn.toNat < 15
  data_length : data.length = pgpktDataSize

/-- `pg_header`. -/
def newHeader (offset wordEn : U8) : U8 := ((offset <<< 4) &&& 0xf0#8) ||| wordEn

variable {wordEn : U8} {packets : List PgPacket} {packet : PgPacket} {array : EfuseArray}

theorem newHeader_spec {offset : U8} (offset_lt : offset.toNat < efuseMaxSection) (wordEn_lt : wordEn.toNat < 15) :
    headerOffset (newHeader offset wordEn) = offset ∧ headerWordEn (newHeader offset wordEn) = wordEn ∧
      newHeader offset wordEn ≠ 0xFF := by
  have all : ∀ (first : Fin 16) (second : Fin 15),
      headerOffset (newHeader (ofNat 8 first) (ofNat 8 second)) = ofNat 8 first ∧
        headerWordEn (newHeader (ofNat 8 first) (ofNat 8 second)) = ofNat 8 second ∧
        newHeader (ofNat 8 first) (ofNat 8 second) ≠ 0xFF := by decide
  have one := all ⟨offset.toNat, offset_lt⟩ ⟨wordEn.toNat, wordEn_lt⟩
  simpa using one

namespace EfuseWriteCall

variable (call : EfuseWriteCall)

def words (word : Nat) : U16 := wordOf (call.data.getD (2 * word) 0xFF) (call.data.getD (2 * word + 1) 0xFF)

theorem data_eq : call.data = wordBytes call.words := by
  have length := call.data_length
  simp only [wordBytes_eq, words, lowByte_wordOf, highByte_wordOf]
  generalize call.data = data at length ⊢
  match data, length with
  | [_, _, _, _, _, _, _, _], _ => rfl

def targetWords (word : Nat) : U16 := if wordEnabled call.wordEn word then call.words word else 0xFFFF

theorem targetData_eq : efuseWordEnableDataRead call.wordEn call.data (List.replicate pgpktDataSize 0xFF) =
      wordBytes call.targetWords := by
  rw [call.data_eq]
  exact efuseWordEnableDataRead_eq call.wordEn call.words fun _ => 0xFFFF

end EfuseWriteCall

def PgPacket.reusable (packet : PgPacket) (offset wordEn : U8) : Bool :=
  decide (headerOffset packet.header = offset) && !packet.programmed &&
    (List.range efuseMaxWordUnit).any fun word =>
      wordEnabled wordEn word && wordEnabled packet.wordEn word

def findReusable (offset wordEn : U8) : List PgPacket → Option (List PgPacket × PgPacket × List PgPacket)
  | [] => none
  | packet :: rest =>
      if packet.reusable offset wordEn then some ([], packet, rest)
      else (findReusable offset wordEn rest).map fun (earlier, found, later) =>
        (packet :: earlier, found, later)

theorem findReusable_none {offset : U8} (found : findReusable offset wordEn packets = none) :
    ∀ packet ∈ packets, packet.reusable offset wordEn = false := by
  induction packets with
  | nil => exact fun _ member => absurd member List.not_mem_nil
  | cons packet rest ih =>
    rw [findReusable] at found
    split at found
    · cases found
    · rename_i other
      rw [Option.map_eq_none_iff] at found
      intro candidate member
      rcases List.mem_cons.mp member with rfl | inRest
      · exact Bool.not_eq_true _ ▸ other
      · exact ih found candidate inRest

theorem findReusable_some {offset : U8} {earlier later : List PgPacket}
    (found : findReusable offset wordEn packets = some (earlier, packet, later)) :
    packets = earlier ++ packet :: later ∧ packet.reusable offset wordEn = true ∧
      ∀ other ∈ earlier, other.reusable offset wordEn = false := by
  induction packets generalizing earlier with
  | nil => cases found
  | cons first rest ih =>
    rw [findReusable] at found
    split at found
    · rename_i reusable
      cases found
      exact ⟨rfl, reusable, fun _ member => absurd member List.not_mem_nil⟩
    · rename_i other
      rw [Option.map_eq_some_iff] at found
      obtain ⟨⟨earlier_, found_, later_⟩, inRest, same⟩ := found
      cases same
      obtain ⟨restIs, reusable, before⟩ := ih inRest
      refine ⟨by rw [restIs]; rfl, reusable, fun candidate member => ?_⟩
      rcases List.mem_cons.mp member with rfl | inEarlier
      · exact Bool.not_eq_true _ ▸ other
      · exact before candidate inEarlier

def restWordEn (wordEn : U8) (packet : PgPacket) : U8 :=
  maskWhere fun word => wordEnabled wordEn word && !wordEnabled packet.wordEn word

theorem restWordEn_lt (some_ : restWordEn wordEn packet ≠ 0x0F) : (restWordEn wordEn packet).toNat < 15 := by
  have masked : restWordEn wordEn packet &&& 0x0F#8 = restWordEn wordEn packet := maskWhere_lt _
  have small : (restWordEn wordEn packet).toNat ≤ 15 := by
    rw [← masked, BitVec.toNat_and]
    exact Nat.and_le_right
  have different : (restWordEn wordEn packet).toNat ≠ 15 := fun same =>
    some_ (BitVec.eq_of_toNat_eq same)
  omega

def writtenLog (call : EfuseWriteCall) (packets : List PgPacket) (repeatTimes : Nat) : List PgPacket × Nat :=
  match findReusable call.offset call.wordEn packets with
  | none =>
      (packets ++ [.ofWords (newHeader call.offset call.wordEn)
        (newHeader_spec call.offset_lt call.wordEn_lt).2.2 call.targetWords], repeatTimes)
  | some (earlier, packet, later) =>
      let filled := earlier ++ packet.refill call.targetWords :: later
      if all : restWordEn call.wordEn packet = 0x0F then (filled, repeatTimes + 1)
      else if efuseRepeatThreshold < repeatTimes + 1 then (filled, repeatTimes + 1)
      else
        (filled ++ [.ofWords (newHeader call.offset (restWordEn call.wordEn packet))
          (newHeader_spec call.offset_lt (restWordEn_lt all)).2.2 call.targetWords], repeatTimes + 1)

@[simp] theorem PgWrite.retry_array (write : PgWrite) : write.retry.array = write.array := by
  unfold retry
  dsimp only
  split <;> rfl

@[simp] theorem PgWrite.retry_repeatTimes (write : PgWrite) :
    write.retry.repeatTimes = write.repeatTimes + 1 := by
  unfold retry
  dsimp only
  split <;> rfl

section Rounds

variable {again : PgRewrite} {offset : U8} {words : Nat → U16}

theorem run_append {write : PgWrite} {packets : List PgPacket}
    (header : write.writeState = .header) (continual : write.bContinual = true)
    (place : write.efuseAddr = (logBytes packets).length)
    (room : (logBytes packets).length < efuseProtected)
    (holds : write.array.content = contentOf packets) (offset_lt : offset.toNat < efuseMaxSection)
    (wordEn_lt : write.targetWordEn.toNat < 15) (rounds : Nat) :
    ∃ after, run again offset (wordBytes words) (rounds + 3) write = some after ∧
      after.repeatTimes = write.repeatTimes ∧
      after.array = { write.array with
        content := contentOf (packets ++ [.ofWords (newHeader offset write.targetWordEn)
          (newHeader_spec offset_lt wordEn_lt).2.2 words]) } := by
  obtain ⟨_, mask, header_ne⟩ := newHeader_spec offset_lt wordEn_lt
  have atEnd : write.array.content write.efuseAddr = 0xFF := by
    rw [holds, place]
    exact contentOf_end _ (Nat.le_refl _)
  have headerWrite := oneByteWrite_header holds header_ne
  -- the header
  have first : PgWrite.step again offset (wordBytes words) write = some
      { write with
        array := { write.array with
          content := contentOf (packets ++ [.blank (newHeader offset write.targetWordEn) header_ne]) }
        writeState := .data } := by
    rw [PgWrite.step, header]
    rw [if_neg (fun programmed => programmed atEnd), append]
    dsimp only
    rw [show ((offset <<< 4) &&& 0xf0#8) ||| write.targetWordEn = newHeader offset write.targetWordEn from rfl,
      place, headerWrite]
    exact if_pos (contentOf_header packets [] (.blank _ header_ne))
  -- the data
  have dataWrite := @dataWrite_refill
    { write.array with
      content := contentOf (packets ++ [.blank (newHeader offset write.targetWordEn) header_ne]) }
    packets [] _ rfl (PgPacket.blank_programmed header_ne) words
  have maskIs : (PgPacket.blank (newHeader offset write.targetWordEn) header_ne).wordEn =
      write.targetWordEn := mask
  rw [maskIs] at dataWrite
  have running {addr : Nat} (same : addr = write.efuseAddr) :
      write.bContinual = true ∧ addr < efuseProtected := ⟨continual, by rw [same, place]; exact room⟩
  have second : PgWrite.step again offset (wordBytes words)
      { write with
        array := { write.array with
          content := contentOf (packets ++ [.blank (newHeader offset write.targetWordEn) header_ne]) }
        writeState := .data } = some
      { write with
        array := { write.array with
          content := contentOf (packets ++ [.ofWords (newHeader offset write.targetWordEn) header_ne words]) }
        writeState := .data
        bContinual := false } := by
    rw [PgWrite.step]
    rw [writeData]
    dsimp only
    rw [place, dataWrite]
    exact congrArg some (if_pos (show 0x0F#8 &&& 0x0F#8 = 0x0F#8 by decide))
  rw [run, if_pos (running rfl), first, Option.bind_some, run, if_pos (running rfl), second, Option.bind_some, run]
  exact ⟨_, if_neg fun goes => Bool.false_ne_true goes.1, rfl, rfl⟩

variable {write : PgWrite}

theorem step_skip {earlier later : List PgPacket}
    (header : write.writeState = .header) (place : write.efuseAddr = (logBytes earlier).length)
    (holds : write.array.content = contentOf (earlier ++ packet :: later))
    (other : packet.reusable offset write.targetWordEn = false) (targetData : List U8) :
    PgWrite.step again offset targetData write =
      some { write with efuseAddr := (logBytes (earlier ++ [packet])).length } := by
  have headerIs : write.array.content write.efuseAddr = packet.header := by
    rw [holds, place, contentOf_header]
  have counts : efuseCalculateWordCnts (headerWordEn packet.header) = packet.wordCnts := rfl
  have skipped : write.skip packet.wordCnts =
      { write with efuseAddr := (logBytes (earlier ++ [packet])).length } := by
    rw [skip, place, logBytes_append, List.length_append, logBytes_length_cons, PgPacket.size,
      packet.data_eq, ← header, show (logBytes []).length = 0 from rfl]
    congr 1
    omega
  rw [header] at skipped
  rw [PgWrite.step, header]
  dsimp only
  rw [headerIs, if_pos packet.header_ne, counts, skipped]
  by_cases same : headerOffset packet.header = offset
  · rw [if_neg (fun different => different same)]
    have data : ∀ index (inside : index < packet.data.length),
        write.array.content (write.efuseAddr + 1 + index) = packet.data[index] := by
      intro index inside
      rw [holds, place, contentOf_middle _ _ _ inside]
    rw [dataProgrammed_eq data]
    cases programmed : packet.programmed with
    | true => rfl
    | false =>
      have noWord : ∀ word < efuseMaxWordUnit,
          (wordEnabled write.targetWordEn word && wordEnabled packet.wordEn word) = false := by
        unfold PgPacket.reusable at other
        rw [programmed, decide_eq_true same, Bool.not_false, Bool.and_true, Bool.true_and, List.any_eq_false] at other
        intro word below
        exact Bool.not_eq_true _ ▸ other word (List.mem_range.mpr below)
      simp only [Bool.false_eq_true, if_false]
      rw [reuse]
      rw [if_neg (fun some_ => some_ ((maskWhere_eq_iff _).mpr noWord)), skipped]
  · rw [if_pos same]

theorem run_skip {targetData : List U8} {passed : List PgPacket} {write : PgWrite}
    {earlier later : List PgPacket} (header : write.writeState = .header)
    (continual : write.bContinual = true) (place : write.efuseAddr = (logBytes earlier).length)
    (holds : write.array.content = contentOf (earlier ++ (passed ++ later)))
    (others : ∀ packet ∈ passed, packet.reusable offset write.targetWordEn = false)
    (room : (logBytes (earlier ++ passed)).length < efuseProtected) (rounds : Nat) :
    run again offset targetData (rounds + passed.length) write =
      run again offset targetData rounds
        { write with efuseAddr := (logBytes (earlier ++ passed)).length } := by
  induction passed generalizing write earlier with
  | nil =>
    rw [List.append_nil, ← place]
    rfl
  | cons packet rest ih =>
    have shifted : earlier ++ packet :: rest = earlier ++ [packet] ++ rest := by simp
    have before : (logBytes earlier).length ≤ (logBytes (earlier ++ packet :: rest)).length := by
      rw [logBytes_append, List.length_append]
      omega
    have step : PgWrite.step again offset targetData write =
        some { write with efuseAddr := (logBytes (earlier ++ [packet])).length } :=
      step_skip header place
      (show write.array.content = contentOf (earlier ++ packet :: (rest ++ later)) from holds)
      (others packet List.mem_cons_self) targetData
    rw [List.length_cons, ← Nat.add_assoc, run, if_pos ⟨continual, by omega⟩, step, Option.bind_some, shifted]
    rw [shifted] at room
    exact ih header continual rfl (by rw [holds]; simp)
      (fun other member => others other (List.mem_cons_of_mem _ member)) room

theorem maskWhere_congr {enabled other : Nat → Bool}
    (same : ∀ word < efuseMaxWordUnit, enabled word = other word) : maskWhere enabled = maskWhere other := by
  unfold maskWhere
  simp only [List.foldl_cons, List.foldl_nil, same 0 (by decide), same 1 (by decide), same 2 (by decide),
    same 3 (by decide)]

theorem restWordEn_eq (target : U8) (packet : PgPacket) :
    (maskWhere fun word => target.getLsbD word != (maskWhere fun word =>
      wordEnabled target word && wordEnabled packet.wordEn word).getLsbD word) =
      restWordEn target packet := by
  apply maskWhere_congr
  intro word below
  have bit := wordEnabled_maskWhere
    (fun word => wordEnabled target word && wordEnabled packet.wordEn word) below
  unfold wordEnabled at bit ⊢
  rw [← Bool.not_not (BitVec.getLsbD (maskWhere _) word), bit]
  cases target.getLsbD word <;> cases packet.wordEn.getLsbD word <;> rfl

theorem step_reuse {write : PgWrite} {earlier later : List PgPacket} {packet : PgPacket}
    (header : write.writeState = .header) (place : write.efuseAddr = (logBytes earlier).length)
    (holds : write.array.content = contentOf (earlier ++ packet :: later))
    (reusable : packet.reusable offset write.targetWordEn = true)
    (fits : (logBytes (earlier ++ packet.refill words :: later)).length ≤ efuseRealContentLen) :
    PgWrite.step again offset (wordBytes words) write =
      some (retry (if restWordEn write.targetWordEn packet ≠ 0x0F then
          { write with
            array := { write.array with content := contentOf (earlier ++ packet.refill words :: later) }
            efuseAddr := (logBytes (earlier ++ packet.refill words :: later)).length
            targetWordEn := restWordEn write.targetWordEn packet }
        else
          { write with
            array := { write.array with content := contentOf (earlier ++ packet.refill words :: later) }
            bContinual := false })) := by
  have headerIs : write.array.content write.efuseAddr = packet.header := by
    rw [holds, place, contentOf_header]
  unfold PgPacket.reusable at reusable
  rw [Bool.and_eq_true, Bool.and_eq_true, decide_eq_true_iff, Bool.not_eq_true', List.any_eq_true] at reusable
  obtain ⟨⟨same, blank⟩, word, member, both⟩ := reusable
  have data : ∀ index (inside : index < packet.data.length),
      write.array.content (write.efuseAddr + 1 + index) = packet.data[index] := by
    intro index inside
    rw [holds, place, contentOf_middle _ _ _ inside]
  have counts : efuseCalculateWordCnts (headerWordEn packet.header) = packet.wordCnts := rfl
  have dataWrite := dataWrite_refill holds blank words
  have matched : maskWhere (fun word =>
      wordEnabled write.targetWordEn word && wordEnabled packet.wordEn word) &&& 0x0F#8 ≠ 0x0F := by
    intro none_
    rw [maskWhere_eq_iff] at none_
    rw [none_ word (List.mem_range.mp member)] at both
    cases both
  have masked : restWordEn write.targetWordEn packet &&& 0x0F#8 = restWordEn write.targetWordEn packet :=
    maskWhere_lt _
  rw [PgWrite.step, header]
  dsimp only
  rw [headerIs, if_pos packet.header_ne, if_neg (fun different => different same), counts,
    dataProgrammed_eq data, blank]
  rw [reuse, show headerWordEn packet.header = packet.wordEn from rfl]
  dsimp only
  rw [if_pos matched, place, dataWrite]
  refine (if_neg (show ¬(0x0F#8 &&& 0x0F#8 ≠ 0x0F#8) by decide)).trans ?_
  rw [Option.bind_eq_bind, Option.bind_some]
  dsimp only
  rw [restWordEn_eq, masked, efuseGetCurrentSize_eq fits]
  congr 2
  split
  · rfl
  · rfl

theorem run_stopped {targetData : List U8} (stopped : write.bContinual = false)
    (rounds : Nat) : run again offset targetData (rounds + 1) write = some write :=
  if_neg fun goes => Bool.false_ne_true (stopped.symm.trans goes.1)

end Rounds

theorem logBytes_refill (earlier later : List PgPacket) (packet : PgPacket) (words : Nat → U16) :
    (logBytes (earlier ++ packet.refill words :: later)).length =
      (logBytes (earlier ++ packet :: later)).length := by
  rw [logBytes_append, logBytes_append, List.length_append, List.length_append, logBytes_length_cons,
    logBytes_length_cons, PgPacket.size, PgPacket.size, packet.refill_length]

theorem run_eq {start : PgWrite} {packets : List PgPacket} (again : PgRewrite) (call : EfuseWriteCall)
    (header : start.writeState = .header) (continual : start.bContinual = true)
    (place : start.efuseAddr = 0) (mask : start.targetWordEn = call.wordEn)
    (holds : start.array.content = contentOf packets)
    (room : (logBytes packets).length < efuseProtected) :
    ∃ after, run again call.offset (wordBytes call.targetWords) (2 * efuseRealContentLen) start = some after ∧
      after.array = { start.array with
        content := contentOf (writtenLog call packets start.repeatTimes).1 } ∧
      after.repeatTimes = (writtenLog call packets start.repeatTimes).2 := by
  have tail : efuseProtected = 497 := rfl
  have length : efuseRealContentLen = 512 := rfl
  have few := (contentOf_log (show (logBytes packets).length ≤ efuseRealContentLen by omega)).length_le
  rw [writtenLog]
  cases found : findReusable call.offset call.wordEn packets with
  | none =>
    obtain ⟨rounds, roundsIs⟩ : ∃ rounds, 2 * efuseRealContentLen = rounds + 3 + packets.length :=
      ⟨2 * efuseRealContentLen - 3 - packets.length, by omega⟩
    have skipped := @run_skip again call.offset (wordBytes call.targetWords) packets start [] [] header
      continual place (by simpa using holds) (mask ▸ findReusable_none found) room (rounds + 3)
    obtain ⟨after, ran, counter, arrayIs⟩ := @run_append again call.offset call.targetWords
      { start with efuseAddr := (logBytes ([] ++ packets)).length } packets header continual rfl room holds
      call.offset_lt (mask ▸ call.wordEn_lt) rounds
    rw [roundsIs, skipped, ran]
    refine ⟨after, rfl, ?_, counter⟩
    rw [arrayIs]
    simp only [mask]
  | some parts =>
    obtain ⟨earlier, packet, later⟩ := parts
    obtain ⟨rfl, reusable, before⟩ := findReusable_some found
    obtain ⟨rounds, roundsIs⟩ : ∃ rounds, 2 * efuseRealContentLen = rounds + 3 + 1 + earlier.length :=
      ⟨2 * efuseRealContentLen - 4 - earlier.length, by
        rw [List.length_append, List.length_cons] at few
        omega⟩
    have inside : (logBytes ([] ++ earlier)).length < efuseProtected := by
      rw [logBytes_append, List.length_append] at room
      rw [List.nil_append]
      omega
    have refilled := logBytes_refill earlier later packet call.targetWords
    have skipped := @run_skip again call.offset (wordBytes call.targetWords) earlier start []
      (packet :: later) header continual place (by simpa using holds) (mask ▸ before) inside (rounds + 3 + 1)
    have reused := @step_reuse again call.offset call.targetWords
      { start with efuseAddr := (logBytes ([] ++ earlier)).length } earlier later packet header rfl holds
      (mask ▸ reusable) (by omega)
    rw [roundsIs, skipped, run, if_pos ⟨continual, inside⟩, reused, Option.bind_some]
    simp only [mask]
    by_cases all : restWordEn call.wordEn packet = 0x0F
    · rw [if_neg (fun some_ => some_ all), dif_pos all]
      refine ⟨_, run_stopped ?_ _, ?_, ?_⟩
      · unfold retry
        dsimp only
        split <;> rfl
      · rw [retry_array]
      · rw [retry_repeatTimes]
    · rw [if_pos all, dif_neg all, retry]
      dsimp only
      by_cases often : efuseRepeatThreshold < start.repeatTimes + 1
      · rw [if_pos often, if_pos often]
        exact ⟨_, run_stopped rfl _, rfl, rfl⟩
      · rw [if_neg often, if_neg often]
        obtain ⟨after, ran, counter, arrayIs⟩ := @run_append again call.offset call.targetWords
          { start with
            array := { start.array with
              content := contentOf (earlier ++ packet.refill call.targetWords :: later) }
            repeatTimes := start.repeatTimes + 1
            efuseAddr := (logBytes (earlier ++ packet.refill call.targetWords :: later)).length
            targetWordEn := restWordEn call.wordEn packet }
          (earlier ++ packet.refill call.targetWords :: later) header continual rfl (by omega) rfl
          call.offset_lt (restWordEn_lt all) rounds
        exact ⟨after, ran, arrayIs, counter⟩

theorem efusePgPacketWrite_eq
    (holds : array.content = contentOf packets) (room : (logBytes packets).length < efuseProtected)
    (call : EfuseWriteCall) (stale : List U8) (depth repeatTimes : Nat) :
    efusePgPacketWrite stale (depth + 1) array repeatTimes call.offset call.wordEn call.data =
      some (true, { array with content := contentOf (writtenLog call packets repeatTimes).1 },
        (writtenLog call packets repeatTimes).2) := by
  have tail : efuseProtected = 497 := rfl
  have length : efuseRealContentLen = 512 := rfl
  have size := efuseGetCurrentSize_eq (show (logBytes packets).length ≤ efuseRealContentLen by omega)
  rw [efusePgPacketWrite]
  generalize (fun array repeatTimes offset wordEn data =>
    (efusePgPacketWrite stale depth array repeatTimes offset wordEn data).map Prod.snd : PgRewrite) = again
  rw [holds, size, if_neg (by omega)]
  dsimp only
  rw [call.targetData_eq]
  obtain ⟨after, ran, arrayIs, counter⟩ := @run_eq
    { array := array, repeatTimes := repeatTimes, writeState := .header, bContinual := true, bResult := true,
      efuseAddr := 0, targetWordEn := call.wordEn,
      targetWordCnts := efuseCalculateWordCnts call.wordEn, originaldata := stale }
    packets again call rfl rfl rfl rfl holds room
  rw [ran, Option.map_some, arrayIs, counter]

theorem efusePgPacketWrite_full
    (holds : array.content = contentOf packets) (fits : (logBytes packets).length ≤ efuseRealContentLen)
    (full : efuseProtected ≤ (logBytes packets).length)
    (call : EfuseWriteCall) (stale : List U8) (depth repeatTimes : Nat) :
    efusePgPacketWrite stale (depth + 1) array repeatTimes call.offset call.wordEn call.data =
      some (false, array, repeatTimes) := by
  rw [efusePgPacketWrite, holds, efuseGetCurrentSize_eq fits, if_pos full]

end Floid.Wifi
