import Floid.Wifi.EfuseLog

namespace Floid.Wifi

open PgRead

def PgPacket.programmed (packet : PgPacket) : Bool := packet.data.any (· ≠ 0xFF)

def stagedWord (section_ word : Nat) : List PgPacket → U16
  | [] => 0xFFFF
  | packet :: before =>
      if packet.section_ = section_ ∧ word < packet.wordCnts then packet.packed word
      else stagedWord section_ word before

def shownWord (section_ word : Nat) : List PgPacket → U16
  | [] => 0xFFFF
  | packet :: before =>
      if packet.section_ = section_ ∧ packet.programmed = true ∧ packet.enables word = true then
        stagedWord section_ word (packet :: before)
      else shownWord section_ word before

theorem readPacketData_eq (content : EfuseContent) (addr count : Nat) {tmpdata : List U8}
    (fits : count ≤ tmpdata.length) :
    readPacketData content addr count tmpdata =
      (List.range count).map (fun tmpidx => content (addr + tmpidx)) ++ tmpdata.drop count := by
  induction count with
  | zero => rfl
  | succ count ih =>
    have before := ih (Nat.le_of_succ_le fits)
    unfold readPacketData at before ⊢
    rw [List.range_succ, List.foldl_append, before, List.foldl_cons, List.foldl_nil, List.map_append]
    have place : ((List.range count).map fun tmpidx => content (addr + tmpidx)).length = count := by simp
    rw [List.set_append_right _ _ (by omega), place, Nat.sub_self, List.drop_eq_getElem_cons (by omega),
      List.set_cons_zero, List.append_assoc]
    rfl

theorem efuseWordEnableDataRead_eq (wordEn : U8) (source target : Nat → U16) :
    efuseWordEnableDataRead wordEn (wordBytes source) (wordBytes target) =
      wordBytes fun word => if wordEnabled wordEn word then source word else target word := by
  simp only [wordBytes_eq, efuseWordEnableDataRead]
  cases bit0 : wordEnabled wordEn 0 <;> cases bit1 : wordEnabled wordEn 1 <;>
    cases bit2 : wordEnabled wordEn 2 <;> cases bit3 : wordEnabled wordEn 3 <;>
    simp [bit0, bit1, bit2, bit3]

section Packet

variable {content : EfuseContent} {addr : Nat} {packet : PgPacket} (header : content addr = packet.header)
  (data : ∀ index (_ : index < packet.data.length), content (addr + 1 + index) = packet.data[index])
include data

theorem packetBytes :
    (List.range (packet.wordCnts * 2)).map (fun tmpidx => content (addr + 1 + tmpidx)) = packet.data := by
  have length := packet.data_eq
  apply List.ext_getElem
  · rw [List.length_map, List.length_range]
    omega
  · intro index _ inside
    rw [List.getElem_map, List.getElem_range]
    exact data index inside

theorem dataProgrammed_eq : dataProgrammed content (addr + 1) (packet.wordCnts * 2) = packet.programmed := by
  rw [dataProgrammed, PgPacket.programmed, ← packetBytes data, List.any_map]
  rfl

theorem readPacketData_staged (section_ : Nat) (same : packet.section_ = section_) (past : List PgPacket) :
    readPacketData content (addr + 1) (packet.wordCnts * 2)
        (wordBytes fun word => stagedWord section_ word past) =
      wordBytes fun word => stagedWord section_ word (packet :: past) := by
  have length := packet.data_eq
  have few := packet.wordCnts_le
  rw [readPacketData_eq _ _ _ (by rw [wordBytes_eq]; simp; omega), packetBytes data]
  simp only [stagedWord, same, true_and, wordBytes_eq, PgPacket.packed]
  generalize packet.data = bytes at length ⊢
  generalize packet.wordCnts = count at length few ⊢
  have counts : count = 0 ∨ count = 1 ∨ count = 2 ∨ count = 3 ∨ count = 4 := by omega
  rcases counts with rfl | rfl | rfl | rfl | rfl
  · rcases bytes with _ | ⟨_, _⟩ <;> simp at length ⊢
  · rcases bytes with _ | ⟨_, _ | ⟨_, _ | ⟨_, _⟩⟩⟩ <;> simp at length ⊢
  · rcases bytes with _ | ⟨_, _ | ⟨_, _ | ⟨_, _ | ⟨_, _ | ⟨_, _⟩⟩⟩⟩⟩ <;> simp at length ⊢
  · rcases bytes with _ | ⟨_, _ | ⟨_, _ | ⟨_, _ | ⟨_, _ | ⟨_, _ | ⟨_, _ | ⟨_, _⟩⟩⟩⟩⟩⟩⟩ <;> simp at length ⊢
  · rcases bytes with
      _ | ⟨_, _ | ⟨_, _ | ⟨_, _ | ⟨_, _ | ⟨_, _ | ⟨_, _ | ⟨_, _ | ⟨_, _ | ⟨_, _⟩⟩⟩⟩⟩⟩⟩⟩⟩ <;> simp at length ⊢

end Packet

structure PgRead.Between (section_ addr : Nat) (past : List PgPacket) (read : PgRead) : Prop where
  readState : read.readState = .header
  bContinual : read.bContinual = true
  efuseAddr : read.efuseAddr = addr
  tmpdata : read.tmpdata = wordBytes fun word => stagedWord section_ word past
  data : read.data = wordBytes fun word => shownWord section_ word past

theorem headerOffset_eq_iff (header offset : U8) :
    headerOffset header = offset ↔ (headerOffset header).toNat = offset.toNat :=
  ⟨congrArg _, BitVec.eq_of_toNat_eq⟩

theorem shownWord_blank {packet : PgPacket} (blank : packet.programmed = false) (section_ word : Nat)
    (past : List PgPacket) : shownWord section_ word (packet :: past) = shownWord section_ word past := by
  rw [shownWord, if_neg]
  rintro ⟨_, programmed, _⟩
  rw [blank] at programmed
  cases programmed

variable {section_ : Nat} {packets : List PgPacket}

theorem other_section {packet : PgPacket} (other : packet.section_ ≠ section_) (word : Nat) (past : List PgPacket) :
    stagedWord section_ word (packet :: past) = stagedWord section_ word past ∧
      shownWord section_ word (packet :: past) = shownWord section_ word past := by
  rw [stagedWord, shownWord, if_neg (fun both => other both.1), if_neg (fun both => other both.1)]
  exact ⟨rfl, rfl⟩

theorem PgRead.Between.packet {content : EfuseContent} {offset : U8} {addr : Nat} {past : List PgPacket}
    {read : PgRead} (between : read.Between offset.toNat addr past) {packet : PgPacket}
    (header : content addr = packet.header)
    (data : ∀ index (_ : index < packet.data.length), content (addr + 1 + index) = packet.data[index])
    (inside : addr + packet.size ≤ efuseRealContentLen) (rounds : Nat) :
    ∃ next : PgRead, next.Between offset.toNat (addr + packet.size) (packet :: past) ∧
      ∃ spare, run content offset (rounds + 2) read = run content offset (rounds + spare) next := by
  have sizeIs : packet.size = packet.data.length + 1 := rfl
  have length := packet.data_eq
  have programmedBytes : content addr ≠ 0xFF := header ▸ packet.header_ne
  have counts : efuseCalculateWordCnts (headerWordEn (content addr)) = packet.wordCnts := by
    rw [header]
    rfl
  have goes : read.bContinual = true ∧ read.efuseAddr < efuseRealContentLen :=
    ⟨between.bContinual, by rw [between.efuseAddr]; omega⟩
  have firstStep : run content offset (rounds + 2) read =
      run content offset (rounds + 1) (read.step content offset) := if_pos goes
  rw [firstStep, step, between.readState]
  dsimp only
  rw [between.efuseAddr, if_pos programmedBytes, counts]
  by_cases same : headerOffset (content addr) = offset
  · have section_ : packet.section_ = offset.toNat := by
      rw [← same, header]
      rfl
    rw [if_pos same, between.tmpdata, readPacketData_staged data _ section_, dataProgrammed_eq data]
    cases programmed : packet.programmed with
    | false =>
      refine ⟨_, ?_, 1, rfl⟩
      exact
        { readState := rfl
          bContinual := between.bContinual
          efuseAddr := by simp only [Bool.false_eq_true, if_false]; omega
          tmpdata := rfl
          data := by
            simp only [shownWord_blank programmed]
            exact between.data }
    | true =>
      refine ⟨_, ?_, 0, if_pos ⟨goes.1, by simp only [if_true]; omega⟩⟩
      exact
        { readState := rfl
          bContinual := between.bContinual
          efuseAddr := by simp only [step, if_true]; omega
          tmpdata := rfl
          data := by
            simp only [step, if_true]
            rw [between.data, efuseWordEnableDataRead_eq, wordBytes_inj]
            intro word below
            rw [shownWord]
            have enables : packet.enables word = wordEnabled (headerWordEn (content addr)) word := by
              rw [PgPacket.enables, decide_eq_true below, Bool.true_and, header]
              rfl
            simp only [section_, programmed, enables, true_and] }
  · have section_ : packet.section_ ≠ offset.toNat := by
      rw [headerOffset_eq_iff, header] at same
      exact same
    rw [if_neg same]
    refine ⟨_, ?_, 1, rfl⟩
    exact
      { readState := rfl
        bContinual := between.bContinual
        efuseAddr := by dsimp only; omega
        tmpdata := by
          simp only [(other_section section_ _ _).1]
          exact between.tmpdata
        data := by
          simp only [(other_section section_ _ _).2]
          exact between.data }

theorem PgRead.run_data {content : EfuseContent} {offset : U8} {addr rounds : Nat}
    {packets past : List PgPacket} (log : EfuseLog content addr packets) {read : PgRead}
    (between : read.Between offset.toNat addr past) (enough : 2 * packets.length + 1 ≤ rounds) :
    (run content offset rounds read).data =
      wordBytes fun word => shownWord offset.toNat word (packets.reverse ++ past) := by
  induction log generalizing read past rounds with
  | @done addr inside ends =>
    obtain ⟨rounds, rfl⟩ : ∃ more, rounds = more + 1 := ⟨rounds - 1, by omega⟩
    rw [run]
    split
    · rename_i goes
      rw [between.efuseAddr] at goes
      have blank := ends goes.2
      have stopped : read.step content offset = { read with bContinual := false } := by
        rw [step, between.readState]
        simp [between.efuseAddr, blank]
      rw [stopped]
      have kept : ∀ more, run content offset more { read with bContinual := false } =
          { read with bContinual := false } := by
        intro more
        cases more with
        | zero => rfl
        | succ more => exact if_neg fun both => Bool.false_ne_true both.1
      rw [kept]
      exact between.data
    · exact between.data
  | @packet addr packet rest header data continued ih =>
    obtain ⟨rounds, rfl⟩ : ∃ more, rounds = more + 2 := ⟨rounds - 2, by simp at enough; omega⟩
    obtain ⟨next, nextBetween, spare, ran⟩ := between.packet header data continued.addr_le rounds
    rw [ran, ih nextBetween (by simp at enough; omega), List.reverse_cons, List.append_assoc]
    rfl

theorem efusePgPacketRead_eq {content : EfuseContent}
    (log : EfuseLog content 0 packets) {offset : U8} (inside : offset.toNat < efuseMaxSection)
    (data : List U8) :
    efusePgPacketRead content offset data =
      (!(wordBytes fun word => shownWord offset.toNat word packets.reverse).all (· == 0xFF),
        wordBytes fun word => shownWord offset.toNat word packets.reverse) := by
  have within : ¬15 < offset := fun beyond => by
    have : (15#8).toNat < offset.toNat := beyond
    change 15 < _ at this
    change _ < 16 at inside
    omega
  have enough := log.length_le
  let blank : List U8 := List.replicate pgpktDataSize 0xFF
  have start : Between offset.toNat 0 []
      { readState := .header, bContinual := true, hworden := 0, wordCnts := 0, efuseAddr := 0,
        tmpdata := blank, data := blank } :=
    ⟨rfl, rfl, rfl, by simp only [stagedWord]; rfl, by simp only [shownWord]; rfl⟩
  have ran := @PgRead.run_data content offset 0 (2 * efuseRealContentLen + 1) packets [] log _ start (by omega)
  rw [List.append_nil] at ran
  rw [efusePgPacketRead, if_neg within]
  dsimp only
  rw [ran]

def ReadersAgree (content : EfuseContent) (offset : U8) : Prop :=
  ∀ data, (efusePgPacketRead content offset data).2 = efuseSection content offset.toNat ∧
    ((efusePgPacketRead content offset data).1 = true ↔ ∃ byte ∈ efuseSection content offset.toNat, byte ≠ 0xFF)

theorem readersAgree_iff {content : EfuseContent} {packets : List PgPacket}
    (log : EfuseLog content 0 packets) {offset : U8} (inside : offset.toNat < efuseMaxSection) :
    ReadersAgree content offset ↔ ∀ word < efuseMaxWordUnit,
      shownWord offset.toNat word packets.reverse = lastWord offset.toNat word packets.reverse := by
  unfold ReadersAgree
  simp only [efusePgPacketRead_eq log inside, efuseSection_eq log inside, wordBytes_inj]
  constructor
  · intro agree
    exact (agree []).1
  · intro same _
    refine ⟨same, ?_⟩
    rw [wordBytes_inj.mpr same]
    simp

def leadingPacket : PgPacket := ⟨0x28, [1, 2, 3, 4, 5, 6], by decide, by decide⟩

def secondWordPacket : PgPacket := ⟨0x0D, [0x12, 0x34], by decide, by decide⟩

def contentOf (packets : List PgPacket) : EfuseContent := fun addr => (logBytes packets).getD addr 0xFF

theorem contentOf_log (fits : (logBytes packets).length ≤ efuseRealContentLen) :
    EfuseLog (contentOf packets) 0 packets :=
  EfuseLog.of_bytes (by omega) fun index _ => by rw [contentOf, Nat.zero_add]

theorem readersAgree_iff_leading : ReadersAgree (contentOf [leadingPacket]) 2 ↔ ∀ word < efuseMaxWordUnit,
      shownWord 2 word [leadingPacket] = lastWord 2 word [leadingPacket] :=
  readersAgree_iff (contentOf_log (by decide)) (by decide)

/-- A word that is not among the first of its packet is looked for at the wrong place. -/
theorem secondWord_lost : EfuseLog (contentOf [secondWordPacket]) 0 [secondWordPacket] ∧
      ¬ReadersAgree (contentOf [secondWordPacket]) 0 := by
  have log : EfuseLog (contentOf [secondWordPacket]) 0 [secondWordPacket] := contentOf_log (by decide)
  refine ⟨log, fun agree => ?_⟩
  have same := (agree []).1
  rw [efusePgPacketRead_eq log (by decide), efuseSection_eq log (by decide), wordBytes_inj] at same
  exact absurd (same 1 (by decide)) (by decide)

end Floid.Wifi
