import Floid.Wifi.Efuse

namespace Floid.Wifi

open EfuseWalk

def wordOf (low high : U8) : U16 := high ++ low

theorem lowByte_eq (word : U16) : lowByte word = word.setWidth 8 := by
  rw [lowByte, BitVec.setWidth_and]
  exact BitVec.and_allOnes

theorem highByte_eq (word : U16) : highByte word = (word >>> 8).setWidth 8 := by
  rw [highByte, BitVec.setWidth_and]
  exact BitVec.and_allOnes

theorem getLsbD_wordOf (low high : U8) (bit : Nat) :
    (wordOf low high).getLsbD bit = if bit < 8 then low.getLsbD bit else high.getLsbD (bit - 8) := by
  rw [wordOf, BitVec.getLsbD_append]

@[simp] theorem lowByte_wordOf (low high : U8) : lowByte (wordOf low high) = low := by
  apply BitVec.eq_of_getLsbD_eq
  intro bit small
  rw [lowByte_eq, BitVec.getLsbD_setWidth, getLsbD_wordOf, if_pos small, decide_eq_true small, Bool.true_and]

@[simp] theorem highByte_wordOf (low high : U8) : highByte (wordOf low high) = high := by
  apply BitVec.eq_of_getLsbD_eq
  intro bit small
  rw [highByte_eq, BitVec.getLsbD_setWidth, BitVec.getLsbD_ushiftRight, getLsbD_wordOf,
    if_neg (by omega), Nat.add_sub_cancel_left, decide_eq_true small, Bool.true_and]

theorem wordOf_bytes (word : U16) : wordOf (lowByte word) (highByte word) = word := by
  apply BitVec.eq_of_getLsbD_eq
  intro bit small
  rw [lowByte_eq, highByte_eq, getLsbD_wordOf]
  rcases Nat.lt_or_ge bit 8 with inLow | inHigh
  · simp [inLow]
  · have notLow : ¬bit < 8 := Nat.not_lt.mpr inHigh
    have fits : bit - 8 < 8 := by omega
    have place : 8 + (bit - 8) = bit := by omega
    simp [notLow, fits, place]

theorem word_ext {word other : U16} (low : lowByte word = lowByte other)
    (high : highByte word = highByte other) : word = other := by
  rw [← wordOf_bytes word, ← wordOf_bytes other, low, high]

theorem low_or_high (low high : U8) :
    low.setWidth 16 ||| ((high.setWidth 16 <<< 8) &&& 0xff00#16) = wordOf low high := by
  have whole : (high.setWidth 16 <<< 8) &&& 0xff00#16 = high.setWidth 16 <<< 8 := by
    rw [show 0xff00#16 = BitVec.allOnes 16 <<< 8 from rfl, ← BitVec.shiftLeft_and_distrib, BitVec.and_allOnes]
  rw [whole]
  apply BitVec.eq_of_getLsbD_eq
  intro bit small
  rw [getLsbD_wordOf]
  rcases Nat.lt_or_ge bit 8 with inLow | inHigh
  · simp [inLow, small]
  · have notLow : ¬bit < 8 := Nat.not_lt.mpr inHigh
    have above : low.getLsbD bit = false := BitVec.getLsbD_of_ge _ _ inHigh
    simp [notLow, small, above]

theorem wordBytes_eq (words : Nat → U16) : wordBytes words =
      [lowByte (words 0), highByte (words 0), lowByte (words 1), highByte (words 1),
        lowByte (words 2), highByte (words 2), lowByte (words 3), highByte (words 3)] := rfl

theorem wordBytes_inj {words others : Nat → U16} :
    wordBytes words = wordBytes others ↔ ∀ word < efuseMaxWordUnit, words word = others word := by
  constructor
  · intro same word below
    simp only [wordBytes_eq, List.cons.injEq] at same
    obtain ⟨low0, high0, low1, high1, low2, high2, low3, high3, _⟩ := same
    change word < 4 at below
    have : word = 0 ∨ word = 1 ∨ word = 2 ∨ word = 3 := by omega
    rcases this with rfl | rfl | rfl | rfl
    · exact word_ext low0 high0
    · exact word_ext low1 high1
    · exact word_ext low2 high2
    · exact word_ext low3 high3
  · intro same
    simp only [wordBytes_eq, same 0 (by decide), same 1 (by decide), same 2 (by decide), same 3 (by decide)]

theorem getD_of_lt (list : List U8) (fallback : U8) {index : Nat} (inside : index < list.length) :
    list.getD index fallback = list[index] := by
  rw [List.getD_eq_getElem?_getD, List.getElem?_eq_getElem inside, Option.getD_some]

def wordRank (wordEn : U8) : Nat → Nat
  | 0 => 0
  | word + 1 => wordRank wordEn word + (wordEnabled wordEn word).toNat

theorem efuseCalculateWordCnts_eq (wordEn : U8) :
    efuseCalculateWordCnts wordEn = wordRank wordEn efuseMaxWordUnit := by
  simp [efuseCalculateWordCnts, efuseMaxWordUnit, wordRank]

theorem wordRank_mono (wordEn : U8) {word other : Nat} (order : word ≤ other) :
    wordRank wordEn word ≤ wordRank wordEn other := by
  induction order with
  | refl => exact Nat.le_refl _
  | step _ ih => exact Nat.le_trans ih (Nat.le_add_right _ _)

theorem wordRank_le (wordEn : U8) (word : Nat) : wordRank wordEn word ≤ word := by
  induction word with
  | zero => exact Nat.le_refl _
  | succ word ih =>
    have bit := Bool.toNat_le (wordEnabled wordEn word)
    unfold wordRank
    omega

structure PgPacket where
  header : U8
  data : List U8
  header_ne : header ≠ 0xFF
  data_length : data.length = 2 * efuseCalculateWordCnts (headerWordEn header)

namespace PgPacket

variable (packet : PgPacket)

def section_ : Nat := (headerOffset packet.header).toNat

def wordEn : U8 := headerWordEn packet.header

def wordCnts : Nat := efuseCalculateWordCnts packet.wordEn

def enables (word : Nat) : Bool := decide (word < efuseMaxWordUnit) && wordEnabled packet.wordEn word

def packed (place : Nat) : U16 :=
  wordOf (packet.data.getD (2 * place) 0xFF) (packet.data.getD (2 * place + 1) 0xFF)

def word (word : Nat) : U16 := packet.packed (wordRank packet.wordEn word)

def size : Nat := packet.data.length + 1

theorem data_eq : packet.data.length = 2 * packet.wordCnts := packet.data_length

theorem wordCnts_le : packet.wordCnts ≤ 4 := by
  unfold wordCnts
  rw [efuseCalculateWordCnts_eq]
  exact wordRank_le _ _

variable {packet}

theorem rank_lt {word : Nat} (enabled : packet.enables word = true) :
    wordRank packet.wordEn word < packet.wordCnts := by
  unfold enables at enabled
  rw [Bool.and_eq_true, decide_eq_true_iff] at enabled
  have next : wordRank packet.wordEn (word + 1) = wordRank packet.wordEn word + 1 := by
    simp [wordRank, enabled.2]
  have order := wordRank_mono packet.wordEn (Nat.add_one_le_of_lt enabled.1)
  unfold wordCnts
  rw [efuseCalculateWordCnts_eq]
  omega

end PgPacket

inductive EfuseLog (content : EfuseContent) : Nat → List PgPacket → Prop where
  | done {addr : Nat} (inside : addr ≤ efuseRealContentLen)
      (ends : addr < efuseRealContentLen → content addr = 0xFF) : EfuseLog content addr []
  | packet {addr : Nat} {packet : PgPacket} {rest : List PgPacket}
      (header : content addr = packet.header)
      (data : ∀ index (inside : index < packet.data.length), content (addr + 1 + index) = packet.data[index])
      (continued : EfuseLog content (addr + packet.size) rest) :
      EfuseLog content addr (packet :: rest)

variable {addr : Nat} {packets : List PgPacket} {content : EfuseContent}

theorem EfuseLog.addr_le
    (log : EfuseLog content addr packets) : addr ≤ efuseRealContentLen := by
  induction log with
  | done inside _ => exact inside
  | packet _ _ _ ih => exact Nat.le_trans (Nat.le_add_right _ _) ih

def logBytes (packets : List PgPacket) : List U8 :=
  packets.flatMap fun packet => packet.header :: packet.data

theorem logBytes_cons (packet : PgPacket) (rest : List PgPacket) :
    logBytes (packet :: rest) = packet.header :: (packet.data ++ logBytes rest) := rfl

theorem EfuseLog.of_bytes (fits : addr + (logBytes packets).length ≤ efuseRealContentLen)
    (holds : ∀ index, addr + index < efuseRealContentLen →
      content (addr + index) = (logBytes packets).getD index 0xFF) : EfuseLog content addr packets := by
  induction packets generalizing addr with
  | nil => exact .done fits fun inside => holds 0 inside
  | cons packet rest ih =>
    have length : (logBytes (packet :: rest)).length = packet.data.length + (logBytes rest).length + 1 := by
      rw [logBytes_cons, List.length_cons, List.length_append]
    have size : packet.size = packet.data.length + 1 := rfl
    refine .packet ?_ ?_ (ih (by omega) ?_)
    · exact holds 0 (by omega)
    · intro index inside
      have byte := holds (index + 1) (by omega)
      rw [logBytes_cons, List.getD_cons_succ, getD_of_lt _ _ (by rw [List.length_append]; omega),
        List.getElem_append_left inside] at byte
      rw [← byte]
      congr 1
      omega
    · intro index inside
      have byte := holds (index + packet.data.length + 1) (by omega)
      rw [logBytes_cons, List.getD_cons_succ, List.getD_eq_getElem?_getD,
        List.getElem?_append_right (by omega), Nat.add_sub_cancel,
        ← List.getD_eq_getElem?_getD] at byte
      rw [← byte, size]
      congr 1
      omega

def lastWord (section_ word : Nat) : List PgPacket → U16
  | [] => 0xFFFF
  | packet :: before =>
      if packet.section_ = section_ ∧ packet.enables word = true then packet.word word
      else lastWord section_ word before

theorem shifted_bit (wordEn : U8) (word : Nat) :
    (wordEn >>> word) &&& 0x01#8 = 0 ↔ wordEnabled wordEn word = true := by
  have bit : (wordEn >>> word).getLsbD 0 = wordEn.getLsbD word := by simp
  rw [show (0x01#8) = 1#8 from rfl, BitVec.and_one_eq_setWidth_ofBool_getLsbD, bit, wordEnabled]
  cases wordEn.getLsbD word <;> decide

@[simp] theorem EfuseWalk.readByte_addr (walk : EfuseWalk) : walk.readByte.efuseAddr = walk.efuseAddr + 1 := rfl

@[simp] theorem EfuseWalk.readByte_word (walk : EfuseWalk) : walk.readByte.efuseWord = walk.efuseWord := rfl

@[simp] theorem EfuseWalk.setWord_addr (walk : EfuseWalk) (offset word : Nat) (value : U16) :
    (walk.setWord offset word value).efuseAddr = walk.efuseAddr := rfl

theorem EfuseWalk.setWord_word (walk : EfuseWalk) (offset word : Nat) (value : U16) :
    (walk.setWord offset word value).efuseWord = fun section_ other =>
      if section_ = offset ∧ other = word then value else walk.efuseWord section_ other := by
  funext section_ other
  by_cases sameSection : section_ = offset
  · subst sameSection
    by_cases same : other = word
    · subst same
      simp [setWord]
    · simp [setWord, same]
  · simp [setWord, sameSection]

section Walk

variable {content : EfuseContent} {packet : PgPacket} {start : Nat}
  (data : ∀ index (_ : index < packet.data.length), content (start + index) = packet.data[index])
  (inside : start + packet.data.length ≤ efuseRealContentLen)
include data inside

variable {walk : EfuseWalk}

theorem readPacketWords_enabled {left word : Nat} (place : walk.efuseAddr = start + 2 * wordRank packet.wordEn word)
    (enabled : packet.enables word = true) (offset : Nat) :
    ∃ next : EfuseWalk, next.efuseAddr = start + 2 * wordRank packet.wordEn (word + 1) ∧
      (next.efuseWord = fun section_ other =>
        if section_ = offset ∧ other = word then packet.word word
        else walk.efuseWord section_ other) ∧
      (word + (left + 1) = efuseMaxWordUnit →
        readPacketWords content offset (left + 1) (packet.wordEn >>> word) walk =
          if efuseRealContentLen ≤ next.efuseAddr then next
          else readPacketWords content offset left (packet.wordEn >>> (word + 1)) next) := by
  have rank := PgPacket.rank_lt enabled
  have length := packet.data_eq
  have bit : wordEnabled packet.wordEn word = true := by
    unfold PgPacket.enables at enabled
    exact (Bool.and_eq_true _ _ ▸ enabled).2
  have low : content walk.efuseAddr = packet.data.getD (2 * wordRank packet.wordEn word) 0xFF := by
    rw [place, data _ (by omega), getD_of_lt _ _ (by omega)]
  have high : content (walk.efuseAddr + 1) = packet.data.getD (2 * wordRank packet.wordEn word + 1) 0xFF := by
    rw [place, Nat.add_assoc, data _ (by omega), getD_of_lt _ _ (by omega)]
  let lowWalk := (walk.setWord offset word ((content walk.efuseAddr).setWidth 16)).readByte
  refine ⟨(lowWalk.setWord offset word (packet.word word)).readByte, ?_, ?_, ?_⟩
  · simp only [lowWalk, readByte_addr, setWord_addr, place, wordRank, bit, Bool.toNat_true]
    omega
  · simp only [lowWalk, readByte_word, setWord_word]
    funext section_ other
    split
    · rfl
    · rfl
  · intro split_
    have wordIs : efuseMaxWordUnit - (left + 1) = word := by omega
    have value : lowWalk.efuseWord offset word |||
        (((content lowWalk.efuseAddr).setWidth 16 <<< 8) &&& 0xff00#16) = packet.word word := by
      have read : lowWalk.efuseWord offset word = (content walk.efuseAddr).setWidth 16 := by
        simp [lowWalk, setWord_word]
      rw [read, low_or_high, PgPacket.word, PgPacket.packed, ← low, ← high]
      rfl
    have before : ¬efuseRealContentLen ≤ lowWalk.efuseAddr := by
      simp only [lowWalk, readByte_addr, setWord_addr, place]
      omega
    rw [readPacketWords, if_pos ((shifted_bit _ _).mpr bit), wordIs]
    refine (if_neg before).trans ?_
    dsimp only
    rw [show (walk.setWord offset word ((content walk.efuseAddr).setWidth 16)).readByte = lowWalk from rfl,
      value, BitVec.shiftRight_add]

theorem readPacketWords_eq {left word : Nat} (split_ : word + left = efuseMaxWordUnit)
    (place : walk.efuseAddr = start + 2 * wordRank packet.wordEn word) (offset : Nat) :
    (readPacketWords content offset left (packet.wordEn >>> word) walk).efuseAddr = start + packet.data.length ∧
      (readPacketWords content offset left (packet.wordEn >>> word) walk).efuseWord =
        fun section_ other =>
          if section_ = offset ∧ word ≤ other ∧ packet.enables other = true then packet.word other
          else walk.efuseWord section_ other := by
  have length : packet.data.length = 2 * wordRank packet.wordEn efuseMaxWordUnit := by
    rw [packet.data_eq, PgPacket.wordCnts, efuseCalculateWordCnts_eq]
  have bounded {other : Nat} (enabled : packet.enables other = true) : other < efuseMaxWordUnit := by
    unfold PgPacket.enables at enabled
    exact of_decide_eq_true (Bool.and_eq_true _ _ ▸ enabled).1
  induction left generalizing word walk with
  | zero =>
    obtain rfl : word = efuseMaxWordUnit := split_
    refine ⟨by rw [readPacketWords, place, length], ?_⟩
    funext section_ other
    rw [readPacketWords, if_neg]
    rintro ⟨_, beyond, enabled⟩
    exact Nat.not_lt.mpr beyond (bounded enabled)
  | succ left ih =>
    cases enabled : packet.enables word with
    | true =>
      obtain ⟨next, nextPlace, nextWords, step⟩ :=
        readPacketWords_enabled data inside place enabled offset
      rw [step split_]
      have words : (fun section_ other =>
          if section_ = offset ∧ word + 1 ≤ other ∧ packet.enables other = true then
            packet.word other
          else next.efuseWord section_ other) = fun section_ other =>
          if section_ = offset ∧ word ≤ other ∧ packet.enables other = true then
            packet.word other
          else walk.efuseWord section_ other := by
        funext section_ other
        rw [nextWords]
        by_cases same : other = word
        · subst same
          simp [enabled]
        · have order : word + 1 ≤ other ↔ word ≤ other := by omega
          simp [same, order]
      split
      · -- the log fills the array: no word is left
        rename_i full
        have last : wordRank packet.wordEn (word + 1) = wordRank packet.wordEn efuseMaxWordUnit := by
          have order := wordRank_mono packet.wordEn
            (show word + 1 ≤ efuseMaxWordUnit by omega)
          omega
        refine ⟨by rw [nextPlace, length, last], ?_⟩
        rw [← words]
        funext section_ other
        rw [if_neg]
        rintro ⟨_, later, more⟩
        have below := PgPacket.rank_lt more
        rw [PgPacket.wordCnts, efuseCalculateWordCnts_eq] at below
        have order := wordRank_mono packet.wordEn later
        omega
      · rw [← words]
        exact ih (by omega) nextPlace
    | false =>
      have below : word < efuseMaxWordUnit := by omega
      have bit : wordEnabled packet.wordEn word = false := by
        unfold PgPacket.enables at enabled
        rwa [decide_eq_true below, Bool.true_and] at enabled
      have skipped : readPacketWords content offset (left + 1) (packet.wordEn >>> word) walk =
          readPacketWords content offset left (packet.wordEn >>> (word + 1)) walk := by
        rw [readPacketWords, if_neg (fun zero => by simp [(shifted_bit _ _).mp zero] at bit), BitVec.shiftRight_add]
      have samePlace : walk.efuseAddr = start + 2 * wordRank packet.wordEn (word + 1) := by
        simp [wordRank, bit, place]
      obtain ⟨addr, words⟩ := ih (by omega) samePlace
      rw [skipped]
      refine ⟨addr, words.trans ?_⟩
      funext section_ other
      by_cases same : other = word
      · subst same
        simp [enabled]
      · have order : word + 1 ≤ other ↔ word ≤ other := by omega
        simp [order]

end Walk

theorem headerOffset_lt (header : U8) : (headerOffset header).toNat < efuseMaxSection := by
  rw [headerOffset, BitVec.toNat_and]
  exact Nat.lt_of_le_of_lt Nat.and_le_right (by decide)

theorem lastWord_cons_empty {packet : PgPacket} (empty : packet.wordCnts = 0) (section_ word : Nat)
    (before : List PgPacket) :
    lastWord section_ word (packet :: before) = lastWord section_ word before := by
  rw [lastWord, if_neg]
  rintro ⟨_, enabled⟩
  have rank := PgPacket.rank_lt enabled
  omega

theorem readPackets_eq {addr rounds : Nat} {packets past : List PgPacket}
    (log : EfuseLog content addr packets) {walk : EfuseWalk} (place : walk.efuseAddr = addr)
    (words : walk.efuseWord = fun section_ word => lastWord section_ word past)
    (enough : packets.length ≤ rounds) :
    (readPackets content rounds (content addr)
      (if content addr ≠ 0xFF ∧ walk.efuseAddr < 512 then walk.readByte else walk)).efuseWord =
      fun section_ word => lastWord section_ word (packets.reverse ++ past) := by
  induction log generalizing walk past rounds with
  | @done addr inside ends =>
    have stopped : ¬(content addr ≠ 0xFF ∧ walk.efuseAddr < 512) := by
      rw [place]
      exact fun goes => goes.1 (ends goes.2)
    rw [if_neg stopped]
    cases rounds with
    | zero => exact words
    | succ rounds =>
      exact (congrArg efuseWord (if_neg stopped)).trans words
  | @packet addr packet rest header data continued ih =>
    obtain ⟨rounds, rfl⟩ : ∃ more, rounds = more + 1 := ⟨rounds - 1, by simp at enough; omega⟩
    have ends := continued.addr_le
    have size : packet.size = packet.data.length + 1 := rfl
    have goes : content addr ≠ 0xFF ∧ walk.efuseAddr < 512 :=
      ⟨header ▸ packet.header_ne, by unfold efuseRealContentLen at ends; omega⟩
    rw [if_pos goes, List.reverse_cons, List.append_assoc]
    rw [readPackets, readByte_addr, place]
    by_cases more : addr + 1 < efuseRealContentLen
    · rw [if_pos ⟨goes.1, more⟩]
      dsimp only
      rw [if_pos (headerOffset_lt _)]
      have read := readPacketWords_eq data (by omega) (Nat.zero_add efuseMaxWordUnit)
        (show walk.readByte.efuseAddr = addr + 1 + 2 * wordRank packet.wordEn 0 by
          simp [place, wordRank]) (headerOffset (content addr)).toNat
      have mask : packet.wordEn >>> 0 = headerWordEn (content addr) := by
        rw [header]
        exact BitVec.ushiftRight_zero _
      rw [mask] at read
      generalize readPacketWords content (headerOffset (content addr)).toNat efuseMaxWordUnit
        (headerWordEn (content addr)) walk.readByte = after at read ⊢
      obtain ⟨afterPlace, afterWords⟩ := read
      have nextPlace : after.efuseAddr = addr + packet.size := by rw [afterPlace, size]; omega
      rw [nextPlace]
      have continuedWalk := @ih rounds (packet :: past) after nextPlace ?_ (by simpa using enough)
      · rwa [nextPlace] at continuedWalk
      · rw [afterWords, readByte_word, words]
        funext section_ word
        rw [lastWord, header]
        by_cases same : packet.section_ = section_
        · subst same
          simp [PgPacket.section_]
        · have different : section_ ≠ (headerOffset packet.header).toNat := fun equal => same equal.symm
          simp [same, different]
    · -- a header in the last byte of the array
      have noData : packet.data.length = 0 := by omega
      have empty : packet.wordCnts = 0 := by
        have length := packet.data_eq
        omega
      have last : rest = [] := by
        cases continued with
        | done => rfl
        | packet _ _ further =>
          have beyond := further.addr_le
          have positive : ∀ other : PgPacket, 0 < other.size := fun other => Nat.succ_pos _
          have := positive ‹PgPacket›
          omega
      rw [if_neg (fun both => more both.2), last]
      simp only [readByte_word, words, List.reverse_nil, List.nil_append]
      funext section_ word
      exact (lastWord_cons_empty empty _ _ _).symm

theorem EfuseLog.length_le
    (log : EfuseLog content addr packets) : addr + packets.length ≤ efuseRealContentLen := by
  induction log with
  | done inside _ => exact inside
  | @packet addr packet _ _ _ _ ih =>
    have size : packet.size = packet.data.length + 1 := rfl
    rw [List.length_cons]
    omega

theorem efuseWalk_word (log : EfuseLog content 0 packets) :
    (efuseWalk content).efuseWord = fun section_ word => lastWord section_ word packets.reverse := by
  have enough := log.length_le
  have whole := @readPackets_eq content 0 efuseRealContentLen packets [] log
    ⟨0, 0, fun _ _ => 0xFFFF⟩ rfl rfl (by omega)
  rw [List.append_nil] at whole
  rw [← whole]
  simp [efuseWalk]

def efuseSection (content : EfuseContent) (section_ : Nat) : List U8 :=
  (readEFuse content (8 * section_) pgpktDataSize []).1

theorem flatMap_block {α β : Type*} {f : α → List β} {size : Nat} (sizes : ∀ item, (f item).length = size)
    {list : List α} {index : Nat} (inside : index < list.length) :
    ((list.flatMap f).drop (size * index)).take size = f list[index] := by
  induction list generalizing index with
  | nil => exact absurd inside (Nat.not_lt_zero _)
  | cons first rest ih =>
    rw [List.flatMap_cons]
    cases index with
    | zero => rw [Nat.mul_zero, List.drop_zero, List.take_left' (sizes first), List.getElem_cons_zero]
    | succ index =>
      have place : size * (index + 1) = (f first).length + size * index := by
        rw [sizes, Nat.mul_succ, Nat.add_comm]
      rw [place, List.drop_append, List.drop_of_length_le (Nat.le_add_right _ _), List.nil_append,
        Nat.add_sub_cancel_left, List.getElem_cons_succ]
      exact ih (Nat.lt_of_succ_lt_succ inside)

theorem efuseSection_eq
    (log : EfuseLog content 0 packets) {section_ : Nat} (inside : section_ < efuseMaxSection) :
    efuseSection content section_ = wordBytes fun word => lastWord section_ word packets.reverse := by
  have within : ¬efuseMapLen < 8 * section_ + pgpktDataSize := by
    unfold efuseMaxSection at inside
    unfold efuseMapLen pgpktDataSize
    omega
  have block := @flatMap_block _ _ (fun section_ => wordBytes ((efuseWalk content).efuseWord section_)) 8
    (fun _ => rfl) (List.range efuseMaxSection) section_ (by simpa using inside)
  rw [efuseSection, readEFuse, if_neg within]
  simp only [List.drop_nil, List.append_nil]
  rw [efuseTbl, pgpktDataSize, block, List.getElem_range, efuseWalk_word log]

end Floid.Wifi
