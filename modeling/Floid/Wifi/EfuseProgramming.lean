import Floid.Wifi.EfuseWriter

namespace Floid.Wifi

open Function (update update_of_ne update_self)

variable {word index : Nat}

theorem wordEnabled_maskWhere (enabled : Nat → Bool) (below : word < efuseMaxWordUnit) :
    wordEnabled (maskWhere enabled) word = enabled word := by
  change word < 4 at below
  have words : word = 0 ∨ word = 1 ∨ word = 2 ∨ word = 3 := by omega
  unfold maskWhere
  simp only [List.foldl_cons, List.foldl_nil]
  cases bit0 : enabled 0 <;> cases bit1 : enabled 1 <;> cases bit2 : enabled 2 <;>
    cases bit3 : enabled 3 <;> rcases words with rfl | rfl | rfl | rfl <;> simp only [*] <;> decide

theorem maskWhere_lt (enabled : Nat → Bool) : maskWhere enabled &&& 0x0F#8 = maskWhere enabled := by
  unfold maskWhere
  simp only [List.foldl_cons, List.foldl_nil]
  cases enabled 0 <;> cases enabled 1 <;> cases enabled 2 <;> cases enabled 3 <;> decide

theorem maskWhere_eq_iff (enabled : Nat → Bool) :
    maskWhere enabled &&& 0x0F#8 = 0x0F ↔ ∀ word < efuseMaxWordUnit, enabled word = false := by
  rw [maskWhere_lt]
  constructor
  · intro empty word below
    have bit := wordEnabled_maskWhere enabled below
    rw [empty] at bit
    rw [← bit]
    change word < 4 at below
    have words : word = 0 ∨ word = 1 ∨ word = 2 ∨ word = 3 := by omega
    rcases words with rfl | rfl | rfl | rfl <;> decide
  · intro none_
    unfold maskWhere
    simp only [List.foldl_cons, List.foldl_nil, none_ 0 (by decide), none_ 1 (by decide),
      none_ 2 (by decide), none_ 3 (by decide)]
    decide

def packWords (wordEn : U8) (words : Nat → U16) : List Nat → List U8
  | [] => []
  | word :: rest =>
      if wordEnabled wordEn word then lowByte (words word) :: highByte (words word) :: packWords wordEn words rest
      else packWords wordEn words rest

theorem packWords_length (wordEn : U8) (words : Nat → U16) :
    (packWords wordEn words [0, 1, 2, 3]).length = 2 * efuseCalculateWordCnts wordEn := by
  unfold efuseCalculateWordCnts
  cases bit0 : wordEnabled wordEn 0 <;> cases bit1 : wordEnabled wordEn 1 <;>
    cases bit2 : wordEnabled wordEn 2 <;> cases bit3 : wordEnabled wordEn 3 <;>
    simp [packWords, bit0, bit1, bit2, bit3]

def PgPacket.ofWords (header : U8) (header_ne : header ≠ 0xFF) (words : Nat → U16) : PgPacket where
  header := header
  data := packWords (headerWordEn header) words [0, 1, 2, 3]
  header_ne := header_ne
  data_length := packWords_length _ _

variable {header : U8} {packet : PgPacket} {addr rounds : Nat} {packets : List PgPacket}

theorem PgPacket.ofWords_word (header_ne : header ≠ 0xFF) (words : Nat → U16)
    (enabled : (ofWords header header_ne words).enables word = true) :
    (ofWords header header_ne words).word word = words word := by
  unfold enables at enabled
  rw [Bool.and_eq_true, decide_eq_true_iff] at enabled
  obtain ⟨below, bit⟩ := enabled
  change word < 4 at below
  change wordEnabled (headerWordEn header) word = true at bit
  have cases_ : word = 0 ∨ word = 1 ∨ word = 2 ∨ word = 3 := by omega
  rw [PgPacket.word, packed]
  change wordOf ((packWords (headerWordEn header) words [0, 1, 2, 3]).getD
    (2 * wordRank (headerWordEn header) word) 0xFF) ((packWords (headerWordEn header) words [0, 1, 2, 3]).getD
    (2 * wordRank (headerWordEn header) word + 1) 0xFF) = _
  rw [← wordOf_bytes (words word)]
  generalize headerWordEn header = wordEn at bit ⊢
  cases bit0 : wordEnabled wordEn 0 <;> cases bit1 : wordEnabled wordEn 1 <;>
    cases bit2 : wordEnabled wordEn 2 <;> cases bit3 : wordEnabled wordEn 3 <;>
    rcases cases_ with rfl | rfl | rfl | rfl <;>
    simp only [bit0, bit1, bit2, bit3, Bool.false_eq_true] at bit <;>
    simp [packWords, wordRank, bit0, bit1, bit2, bit3]

def overlay (content : EfuseContent) (start : Nat) (bytes : List U8) : EfuseContent :=
  fun addr => if start ≤ addr then bytes.getD (addr - start) (content addr) else content addr

theorem overlay_nil (content : EfuseContent) (start : Nat) : overlay content start [] = content := by
  funext addr
  simp [overlay]

theorem overlay_two (content : EfuseContent) (start : Nat) (low high : U8) (bytes : List U8) :
    overlay (update (update content start low) (start + 1) high) (start + 2) bytes =
      overlay content start (low :: high :: bytes) := by
  funext addr
  unfold overlay
  by_cases first : addr = start
  · subst first
    simp
  · by_cases second : addr = start + 1
    · subst second
      simp
    · simp only [update_of_ne second, update_of_ne first]
      by_cases behind : start + 2 ≤ addr
      · rw [if_pos behind, if_pos (by omega), show addr - start = addr - (start + 2) + 1 + 1 by omega,
          List.getD_cons_succ, List.getD_cons_succ]
      · rw [if_neg behind, if_neg (by omega)]

theorem writeWords_eq (wordEn : U8) (words : Nat → U16) {order : List Nat}
    (small : ∀ word ∈ order, word < efuseMaxWordUnit) (write : WordWrite)
    (blank : ∀ index < (packWords wordEn words order).length, write.array.content (write.startAddr + index) = 0xFF) :
    order.foldl (WordWrite.word wordEn (wordBytes words)) write =
      { startAddr := write.startAddr + (packWords wordEn words order).length
        badworden := write.badworden
        array := { write.array with
          content := overlay write.array.content write.startAddr (packWords wordEn words order) } } := by
  induction order generalizing write with
  | nil => rw [packWords, overlay_nil]; rfl
  | cons word rest ih =>
    have restSmall := fun other member => small other (List.mem_cons_of_mem _ member)
    rw [List.foldl_cons, WordWrite.word]
    rw [packWords] at blank ⊢
    cases enabled : wordEnabled wordEn word with
    | false =>
      simp only [enabled, Bool.false_eq_true, if_false] at blank ⊢
      exact ih restSmall write blank
    | true =>
      simp only [enabled, if_true, List.length_cons] at blank ⊢
      have low : (wordBytes words).getD (2 * word) 0xFF = lowByte (words word) ∧
          (wordBytes words).getD (2 * word + 1) 0xFF = highByte (words word) := by
        have below := small word List.mem_cons_self
        change word < 4 at below
        have cases_ : word = 0 ∨ word = 1 ∨ word = 2 ∨ word = 3 := by omega
        rcases cases_ with rfl | rfl | rfl | rfl <;> exact ⟨rfl, rfl⟩
      rw [low.1, low.2]
      have first : write.array.content write.startAddr = 0xFF := blank 0 (by omega)
      have second : write.array.content (write.startAddr + 1) = 0xFF := blank 1 (by omega)
      have written : (write.array.oneByteWrite write.startAddr (lowByte (words word))).oneByteWrite
          (write.startAddr + 1) (highByte (words word)) =
          { write.array with
            content := update
              (update write.array.content write.startAddr (lowByte (words word)))
              (write.startAddr + 1) (highByte (words word)) } := by
        rw [EfuseArray.oneByteWrite, EfuseArray.oneByteWrite, if_pos first]
        exact if_pos ((update_of_ne (by omega) _ _).trans second)
      simp only [written]
      have kept : ¬(lowByte (words word) ≠ update
          (update write.array.content write.startAddr (lowByte (words word)))
          (write.startAddr + 1) (highByte (words word)) write.startAddr ∨
          highByte (words word) ≠ update
          (update write.array.content write.startAddr (lowByte (words word)))
          (write.startAddr + 1) (highByte (words word)) (write.startAddr + 1)) := by
        rw [update_of_ne (by omega), update_self, update_self]
        simp
      rw [if_neg kept, ih restSmall]
      · simp only [overlay_two]
        congr 1
        omega
      · intro index inside
        dsimp only
        rw [update_of_ne (by omega), update_of_ne (by omega), Nat.add_assoc, Nat.add_comm 2]
        exact blank _ (by omega)

theorem logBytes_append (packets others : List PgPacket) :
    logBytes (packets ++ others) = logBytes packets ++ logBytes others := List.flatMap_append

def PgPacket.refill (packet : PgPacket) (words : Nat → U16) : PgPacket :=
  ofWords packet.header packet.header_ne words

theorem PgPacket.refill_data (packet : PgPacket) (words : Nat → U16) :
    (packet.refill words).data = packWords packet.wordEn words [0, 1, 2, 3] := rfl

theorem PgPacket.refill_length (packet : PgPacket) (words : Nat → U16) :
    (packet.refill words).data.length = packet.data.length :=
  (packWords_length _ _).trans packet.data_length.symm

theorem PgPacket.blank_data (blank : packet.programmed = false)
    (inside : index < packet.data.length) : packet.data[index] = 0xFF := by
  unfold programmed at blank
  rw [List.any_eq_false] at blank
  have byte := blank _ (List.getElem_mem inside)
  simpa using byte

theorem contentOf_middle (earlier later : List PgPacket) (packet : PgPacket) (inside : index < packet.data.length) :
    contentOf (earlier ++ packet :: later) ((logBytes earlier).length + 1 + index) = packet.data[index] := by
  rw [contentOf, logBytes_append, logBytes_cons, List.getD_eq_getElem?_getD, List.getElem?_append_right (by omega),
    show (logBytes earlier).length + 1 + index - (logBytes earlier).length = index + 1 by omega,
    List.getElem?_cons_succ, List.getElem?_append_left inside, List.getElem?_eq_getElem inside,
    Option.getD_some]

theorem contentOf_header (earlier later : List PgPacket) (packet : PgPacket) :
    contentOf (earlier ++ packet :: later) (logBytes earlier).length = packet.header := by
  rw [contentOf, logBytes_append, logBytes_cons, List.getD_eq_getElem?_getD,
    List.getElem?_append_right (Nat.le_refl _), Nat.sub_self, List.getElem?_cons_zero, Option.getD_some]

theorem contentOf_end (packets : List PgPacket) (beyond : (logBytes packets).length ≤ addr) :
    contentOf packets addr = 0xFF := by
  rw [contentOf, List.getD_eq_getElem?_getD, List.getElem?_eq_none beyond, Option.getD_none]

theorem overlay_contentOf (earlier later : List PgPacket) (packet : PgPacket) (words : Nat → U16) :
    overlay (contentOf (earlier ++ packet :: later)) ((logBytes earlier).length + 1)
        (packet.refill words).data =
      contentOf (earlier ++ packet.refill words :: later) := by
  have length := packet.refill_length words
  funext addr
  unfold overlay contentOf
  rw [logBytes_append, logBytes_append, logBytes_cons, logBytes_cons]
  simp only [List.getD_eq_getElem?_getD]
  rcases Nat.lt_or_ge addr (logBytes earlier).length with before | notBefore
  · rw [if_neg (by omega), List.getElem?_append_left before, List.getElem?_append_left before]
  · rw [List.getElem?_append_right notBefore, List.getElem?_append_right notBefore]
    generalize placeIs : addr - (logBytes earlier).length = place
    cases place with
    | zero =>
      rw [if_neg (by omega)]
      rfl
    | succ place =>
      rw [if_pos (by omega), show addr - ((logBytes earlier).length + 1) = place by omega,
        List.getElem?_cons_succ, List.getElem?_cons_succ]
      rcases Nat.lt_or_ge place packet.data.length with inside | outside
      · rw [List.getElem?_append_left inside, List.getElem?_append_left (by omega),
          List.getElem?_eq_getElem (by omega : place < (packet.refill words).data.length),
          Option.getD_some, Option.getD_some]
      · rw [List.getElem?_eq_none (by omega), Option.getD_none,
          List.getElem?_append_right outside, List.getElem?_append_right (by omega), length]

theorem dataWrite_refill {array : EfuseArray} {earlier later : List PgPacket} {packet : PgPacket}
    (holds : array.content = contentOf (earlier ++ packet :: later)) (blank : packet.programmed = false)
    (words : Nat → U16) :
    efuseWordEnableDataWrite array ((logBytes earlier).length + 1) packet.wordEn (wordBytes words) =
      (0x0F, { array with content := contentOf (earlier ++ packet.refill words :: later) }) := by
  rw [efuseWordEnableDataWrite, writeWords_eq]
  · simp only [holds]
    rw [← packet.refill_data words, overlay_contentOf]
  · decide
  · intro index inside
    rw [← packet.refill_data words, packet.refill_length] at inside
    rw [holds, contentOf_middle _ _ _ inside]
    exact PgPacket.blank_data blank inside

def PgPacket.blank (header : U8) (header_ne : header ≠ 0xFF) : PgPacket where
  header := header
  data := List.replicate (2 * efuseCalculateWordCnts (headerWordEn header)) 0xFF
  header_ne := header_ne
  data_length := List.length_replicate

theorem PgPacket.blank_programmed (header_ne : header ≠ 0xFF) :
    (blank header header_ne).programmed = false := by
  unfold programmed blank
  rw [List.any_replicate]
  simp

theorem oneByteWrite_header {array : EfuseArray}
    (holds : array.content = contentOf packets) (header_ne : header ≠ 0xFF) :
    array.oneByteWrite (logBytes packets).length header =
      { array with content := contentOf (packets ++ [PgPacket.blank header header_ne]) } := by
  rw [EfuseArray.oneByteWrite, if_pos (by rw [holds]; exact contentOf_end _ (Nat.le_refl _)), holds]
  congr 1
  funext addr
  by_cases place : addr = (logBytes packets).length
  · subst place
    rw [update_self, contentOf_header]
    rfl
  · rw [update_of_ne place, contentOf, contentOf, logBytes_append]
    simp only [List.getD_eq_getElem?_getD]
    rcases Nat.lt_or_ge addr (logBytes packets).length with before | behind
    · rw [List.getElem?_append_left before]
    · rw [List.getElem?_append_right behind, List.getElem?_eq_none behind]
      obtain ⟨index, indexIs⟩ : ∃ index, addr - (logBytes packets).length = index + 1 :=
        ⟨addr - (logBytes packets).length - 1, by omega⟩
      rw [indexIs]
      change none.getD 0xFF = (((PgPacket.blank header header_ne).data ++ logBytes [])[index]?).getD 0xFF
      rw [show logBytes [] = [] from rfl, List.append_nil]
      unfold PgPacket.blank
      rw [List.getElem?_replicate]
      split <;> rfl

theorem logBytes_length_cons (packet : PgPacket) (rest : List PgPacket) :
    (logBytes (packet :: rest)).length = packet.size + (logBytes rest).length := by
  rw [logBytes_cons, List.length_cons, List.length_append, PgPacket.size]
  omega

theorem currentSizeFrom_eq {content : EfuseContent}
    (log : EfuseLog content addr packets) (enough : packets.length ≤ rounds) :
    currentSizeFrom content rounds addr = addr + (logBytes packets).length := by
  induction log generalizing rounds with
  | @done addr inside ends =>
    cases rounds with
    | zero => rfl
    | succ rounds =>
      rw [currentSizeFrom]
      split
      · rename_i below
        simp only [ends below]
        rfl
      · rfl
  | @packet addr packet rest header data continued ih =>
    obtain ⟨rounds, rfl⟩ : ∃ more, rounds = more + 1 := ⟨rounds - 1, by simp at enough; omega⟩
    have inside := continued.addr_le
    have sizeIs : packet.size = packet.wordCnts * 2 + 1 := by
      rw [PgPacket.size, packet.data_eq]
      omega
    rw [currentSizeFrom, if_pos (by omega)]
    dsimp only
    rw [header, if_pos packet.header_ne, logBytes_length_cons]
    have next := @ih rounds (by simpa using enough)
    rw [sizeIs, ← Nat.add_assoc] at next
    refine next.trans ?_
    omega

theorem efuseGetCurrentSize_eq (fits : (logBytes packets).length ≤ efuseRealContentLen) :
    efuseGetCurrentSize (contentOf packets) = (logBytes packets).length := by
  have log := contentOf_log fits
  have enough := log.length_le
  rw [efuseGetCurrentSize, currentSizeFrom_eq log (by omega), Nat.zero_add]

def wordReads : Nat → U8 → Nat → List Nat
  | 0, _, _ => []
  | left + 1, wren, addr =>
      if wren &&& 0x01#8 = 0 then
        addr ::
          if efuseRealContentLen ≤ addr + 1 then []
          else (addr + 1) ::
            if efuseRealContentLen ≤ addr + 2 then [] else wordReads left (wren >>> 1) (addr + 2)
      else wordReads left (wren >>> 1) addr

def packetReads (content : EfuseContent) : Nat → U8 → EfuseWalk → List Nat
  | 0, _, _ => []
  | rounds + 1, rtemp8, walk =>
      if rtemp8 ≠ 0xFF ∧ walk.efuseAddr < efuseRealContentLen then
        let offset := (headerOffset rtemp8).toNat
        let after := readPacketWords content offset efuseMaxWordUnit (headerWordEn rtemp8) walk
        let next := content after.efuseAddr
        wordReads efuseMaxWordUnit (headerWordEn rtemp8) walk.efuseAddr ++
          after.efuseAddr :: packetReads content rounds next
            (if next ≠ 0xFF ∧ after.efuseAddr < 512 then after.readByte else after)
      else []

def EfuseWalk.entered (content : EfuseContent) (walk : EfuseWalk) : EfuseWalk :=
  if content walk.efuseAddr ≠ 0xFF ∧ walk.efuseAddr < 512 then walk.readByte else walk

def EfuseWalk.start : EfuseWalk := ⟨0, 0, fun _ _ => 0xFFFF⟩

def efuseReads (content : EfuseContent) : List Nat :=
  0 :: packetReads content efuseRealContentLen (content 0) (EfuseWalk.start.entered content)

inductive WholePackets (content : EfuseContent) : Nat → List PgPacket → Prop where
  | ends {addr : Nat} (ends : addr < efuseRealContentLen → content addr = 0xFF) : WholePackets content addr []
  | cut {addr : Nat} (header : content addr ≠ 0xFF)
      (cut : efuseRealContentLen < addr + 1 + 2 * efuseCalculateWordCnts (headerWordEn (content addr))) :
      WholePackets content addr []
  | packet {addr : Nat} {packet : PgPacket} {rest : List PgPacket} (header : content addr = packet.header)
      (data : ∀ index (inside : index < packet.data.length), content (addr + 1 + index) = packet.data[index])
      (fits : addr + packet.size ≤ efuseRealContentLen)
      (continued : WholePackets content (addr + packet.size) rest) :
      WholePackets content addr (packet :: rest)

/-- `ReadEFuse_RTL8192C` ends, reads the array only, returns what the packets say, and reports as
many bytes in use as `hal_EfuseGetCurrentSize_8192C` finds. -/
structure DecodesExactly (content : EfuseContent) : Prop where
  terminates : ∀ rounds ≥ efuseRealContentLen,
    readPackets content rounds (content 0) (EfuseWalk.start.entered content) = efuseWalk content
  reads : ∀ addr ∈ efuseReads content, addr < efuseRealContentLen
  bytes : ∀ packets, WholePackets content 0 packets → ∀ offset sizeByte pbuf,
    offset + sizeByte ≤ efuseMapLen → (readEFuse content offset sizeByte pbuf).1 =
      ((efuseTbl fun section_ word => lastWord section_ word packets.reverse).drop offset).take sizeByte ++
        pbuf.drop sizeByte
  utilized : ∀ offset sizeByte pbuf, offset + sizeByte ≤ efuseMapLen →
    (readEFuse content offset sizeByte pbuf).2 = some (efuseGetCurrentSize content)

def EndsInside (addr : Nat) (packets : List PgPacket) : Prop :=
  addr + (logBytes packets).length < efuseRealContentLen ∨ ∃ last, packets.getLast? = some last ∧ last.data = []

variable {content : EfuseContent} {walk : EfuseWalk}

theorem readPacketWords_enter {wren : U8} (bit : wren &&& 0x01#8 = 0) (offset left : Nat) :
    ∃ first second : EfuseWalk,
      (first.efuseAddr = walk.efuseAddr + 1 ∧ first.efuseUtilized = walk.efuseUtilized + 1) ∧
      (second.efuseAddr = walk.efuseAddr + 2 ∧ second.efuseUtilized = walk.efuseUtilized + 2) ∧
      readPacketWords content offset (left + 1) wren walk =
        if efuseRealContentLen ≤ walk.efuseAddr + 1 then first
        else if efuseRealContentLen ≤ walk.efuseAddr + 2 then second
        else readPacketWords content offset left (wren >>> 1) second := by
  refine ⟨_, _, ?_, ?_, if_pos bit⟩
  · exact ⟨rfl, rfl⟩
  · exact ⟨rfl, rfl⟩

theorem readPacketWords_addr (wordEn : U8) (offset : Nat) {left word : Nat}
    (split_ : word + left = efuseMaxWordUnit) (inside : walk.efuseAddr < efuseRealContentLen) :
    let after := readPacketWords content offset left (wordEn >>> word) walk
    after.efuseAddr = min efuseRealContentLen
        (walk.efuseAddr + 2 * (wordRank wordEn efuseMaxWordUnit - wordRank wordEn word)) ∧
      after.efuseUtilized + walk.efuseAddr = walk.efuseUtilized + after.efuseAddr ∧
      ∀ addr ∈ wordReads left (wordEn >>> word) walk.efuseAddr, addr < efuseRealContentLen := by
  induction left generalizing word walk with
  | zero =>
    obtain rfl : word = efuseMaxWordUnit := split_
    refine ⟨?_, rfl, fun _ member => by cases member⟩
    rw [readPacketWords]
    omega
  | succ left ih =>
    have later := wordRank_mono wordEn (show word + 1 ≤ efuseMaxWordUnit by omega)
    rw [wordReads, ← BitVec.shiftRight_add]
    by_cases bit : (wordEn >>> word) &&& 0x01#8 = 0
    · have rank : wordRank wordEn (word + 1) = wordRank wordEn word + 1 := by
        rw [wordRank, (shifted_bit _ _).mp bit]
        rfl
      obtain ⟨first, second, ⟨firstAddr, firstUsed⟩, ⟨secondAddr, secondUsed⟩, words⟩ :=
        @readPacketWords_enter content walk _ bit offset left
      rw [words, if_pos bit, ← BitVec.shiftRight_add, List.forall_mem_cons]
      by_cases full : efuseRealContentLen ≤ walk.efuseAddr + 1
      · rw [if_pos full, if_pos full]
        exact ⟨by omega, by omega, inside, fun _ member => by cases member⟩
      · rw [if_neg full, if_neg full, List.forall_mem_cons]
        by_cases last : efuseRealContentLen ≤ walk.efuseAddr + 2
        · rw [if_pos last, if_pos last]
          exact ⟨by omega, by omega, inside, by omega, fun _ member => by cases member⟩
        · rw [if_neg last, if_neg last]
          obtain ⟨addr, utilized, reads⟩ := @ih second (word + 1) (by omega) (by omega)
          rw [secondAddr] at addr utilized reads
          exact ⟨by omega, by omega, inside, by omega, reads⟩
    · have rank : wordRank wordEn (word + 1) = wordRank wordEn word := by
        rw [wordRank, Bool.eq_false_of_not_eq_true fun enabled => bit ((shifted_bit _ _).mpr enabled)]
        rfl
      rw [readPacketWords, if_neg bit, if_neg bit, ← BitVec.shiftRight_add, ← rank]
      exact ih (by omega) inside

def packetAt (content : EfuseContent) (addr : Nat) (header : content addr ≠ 0xFF) : PgPacket where
  header := content addr
  data := (List.range (2 * efuseCalculateWordCnts (headerWordEn (content addr)))).map fun index =>
    content (addr + 1 + index)
  header_ne := header
  data_length := by rw [List.length_map, List.length_range]

theorem currentSizeFrom_full (rounds : Nat) (full : efuseRealContentLen ≤ addr) :
    currentSizeFrom content rounds addr = addr := by
  cases rounds with
  | zero => rfl
  | succ rounds => rw [currentSizeFrom, if_neg (Nat.not_lt.mpr full)]

theorem readPackets_stopped {rtemp8 : U8} (rounds : Nat)
    (stopped : ¬(rtemp8 ≠ 0xFF ∧ walk.efuseAddr < efuseRealContentLen)) :
    readPackets content rounds rtemp8 walk = walk ∧ packetReads content rounds rtemp8 walk = [] := by
  cases rounds with
  | zero => exact ⟨rfl, rfl⟩
  | succ rounds => exact ⟨if_neg stopped, if_neg stopped⟩

theorem readPackets_succ {rtemp8 : U8} (rounds : Nat) (goes : rtemp8 ≠ 0xFF ∧ walk.efuseAddr < efuseRealContentLen) :
    let after := readPacketWords content (headerOffset rtemp8).toNat efuseMaxWordUnit (headerWordEn rtemp8) walk
    readPackets content (rounds + 1) rtemp8 walk =
        readPackets content rounds (content after.efuseAddr) (after.entered content) ∧
      packetReads content (rounds + 1) rtemp8 walk =
        wordReads efuseMaxWordUnit (headerWordEn rtemp8) walk.efuseAddr ++
          after.efuseAddr :: packetReads content rounds (content after.efuseAddr) (after.entered content) := by
  rw [readPackets, packetReads, if_pos goes, if_pos goes]
  dsimp only
  rw [if_pos (headerOffset_lt _)]
  exact ⟨rfl, rfl⟩

def ReadsOut (content : EfuseContent) (rounds : Nat) (walk : EfuseWalk) : Prop :=
  let after := readPackets content rounds (content walk.efuseAddr) (walk.entered content)
  after.efuseUtilized = after.efuseAddr ∧
    ((∃ packets, EfuseLog content walk.efuseAddr packets ∧
        after.efuseAddr = walk.efuseAddr + (logBytes packets).length ∧
        ((∀ read ∈ walk.efuseAddr :: packetReads content rounds (content walk.efuseAddr) (walk.entered content),
          read < efuseRealContentLen) ↔ EndsInside walk.efuseAddr packets)) ∨
      after.efuseAddr = efuseRealContentLen ∧
        efuseRealContentLen < currentSizeFrom content rounds walk.efuseAddr)

theorem readsOut_end (rounds : Nat) (used : walk.efuseUtilized = walk.efuseAddr)
    (within : walk.efuseAddr ≤ efuseRealContentLen)
    (ends : ¬(content walk.efuseAddr ≠ 0xFF ∧ walk.efuseAddr < efuseRealContentLen)) :
    ReadsOut content rounds walk := by
  have entered : walk.entered content = walk := if_neg ends
  have log : EfuseLog content walk.efuseAddr [] := .done within fun inside => by
    by_contra header
    exact ends ⟨header, inside⟩
  obtain ⟨stopped, reads⟩ := @readPackets_stopped content walk _ rounds ends
  rw [ReadsOut, entered, stopped, reads]
  refine ⟨used, .inl ⟨[], log, rfl, ?_⟩⟩
  simp [EndsInside, logBytes]

theorem header_cases (header : content addr ≠ 0xFF) (inside : addr < efuseRealContentLen) :
    (∀ rest, EfuseLog content (addr + (packetAt content addr header).size) rest →
      EfuseLog content addr (packetAt content addr header :: rest)) ∧
    ∀ rounds, currentSizeFrom content (rounds + 1) addr =
      currentSizeFrom content rounds (addr + (packetAt content addr header).size) := by
  constructor
  · intro rest continued
    refine .packet rfl (fun index within => ?_) continued
    simp [packetAt]
  · intro rounds
    rw [currentSizeFrom, if_pos inside]
    rw [if_pos header]
    congr 1
    simp only [packetAt, PgPacket.size, List.length_map, List.length_range]
    omega

theorem endsInside_cons {rest : List PgPacket} :
    EndsInside addr (packet :: rest) ↔ EndsInside (addr + packet.size) rest ∨ rest = [] ∧ packet.data = [] := by
  rw [EndsInside, EndsInside, logBytes_length_cons, Nat.add_assoc]
  cases rest with
  | nil => simp
  | cons second rest => simp [List.getLast?_cons_cons]

theorem readPackets_spec {rounds : Nat} (used : walk.efuseUtilized = walk.efuseAddr)
    (within : walk.efuseAddr ≤ efuseRealContentLen) (enough : efuseRealContentLen - walk.efuseAddr ≤ rounds) :
    ReadsOut content rounds walk := by
  induction rounds generalizing walk with
  | zero => exact readsOut_end 0 used within fun goes => by omega
  | succ rounds ih =>
    by_cases goes : content walk.efuseAddr ≠ 0xFF ∧ walk.efuseAddr < efuseRealContentLen
    · obtain ⟨header, inside⟩ := goes
      obtain ⟨continues, sizes⟩ := header_cases header inside
      have size : (packetAt content walk.efuseAddr header).size =
          1 + 2 * efuseCalculateWordCnts (headerWordEn (content walk.efuseAddr)) := by
        simp only [packetAt, PgPacket.size, List.length_map, List.length_range]
        omega
      have entered : walk.entered content = walk.readByte := if_pos ⟨header, inside⟩
      rw [ReadsOut, entered, sizes]
      by_cases last : walk.efuseAddr + 1 = efuseRealContentLen
      · obtain ⟨stopped, reads⟩ := @readPackets_stopped content walk.readByte (content walk.efuseAddr) (rounds + 1)
          fun goes => Nat.lt_irrefl _ (last ▸ goes.2)
        rw [stopped, reads]
        refine ⟨congrArg (· + 1) used, ?_⟩
        by_cases empty : efuseCalculateWordCnts (headerWordEn (content walk.efuseAddr)) = 0
        · have log := continues [] (.done (by omega) fun below => by omega)
          refine .inl ⟨_, log, ?_, ?_⟩
          · rw [logBytes_length_cons, size, empty]
            rfl
          · rw [endsInside_cons]
            refine iff_of_true (by simpa using inside) (.inr ⟨rfl, ?_⟩)
            simp [packetAt, empty]
        · refine .inr ⟨last, ?_⟩
          rw [currentSizeFrom_full _ (by omega)]
          omega
      · have more : walk.readByte.efuseAddr < efuseRealContentLen := by
          rw [EfuseWalk.readByte_addr]
          omega
        have words := @readPacketWords_addr content walk.readByte (headerWordEn (content walk.efuseAddr))
          (headerOffset (content walk.efuseAddr)).toNat efuseMaxWordUnit 0 (Nat.zero_add _) more
        rw [BitVec.ushiftRight_zero, ← efuseCalculateWordCnts_eq] at words
        obtain ⟨goesOn, readsOn⟩ := @readPackets_succ content walk.readByte _ rounds ⟨header, more⟩
        rw [goesOn, readsOn]
        generalize readPacketWords content (headerOffset (content walk.efuseAddr)).toNat efuseMaxWordUnit
          (headerWordEn (content walk.efuseAddr)) walk.readByte = after at words ⊢
        obtain ⟨place, utilized, reads⟩ := words
        rw [EfuseWalk.readByte_addr, wordRank, Nat.sub_zero] at place
        have usedAfter : after.efuseUtilized = after.efuseAddr := by
          rw [EfuseWalk.readByte_addr] at utilized
          have readOne : walk.readByte.efuseUtilized = walk.efuseUtilized + 1 := rfl
          omega
        have near : walk.efuseAddr + (packetAt content walk.efuseAddr header).size ≤ efuseRealContentLen →
            after.efuseAddr = walk.efuseAddr + (packetAt content walk.efuseAddr header).size := by omega
        have far : ¬walk.efuseAddr + (packetAt content walk.efuseAddr header).size ≤ efuseRealContentLen →
            after.efuseAddr = efuseRealContentLen := by omega
        obtain ⟨sameUse, result⟩ := @ih after usedAfter (by omega) (by omega)
        refine ⟨sameUse, ?_⟩
        by_cases fits : walk.efuseAddr + (packetAt content walk.efuseAddr header).size ≤ efuseRealContentLen
        · have next := near fits
          rw [← next]
          rcases result with ⟨rest, log, ends, inner⟩ | ⟨ends, cut⟩
          · refine .inl ⟨_, continues rest (next ▸ log), ?_, ?_⟩
            · rw [logBytes_length_cons, ← Nat.add_assoc, ← next]
              exact ends
            · rw [endsInside_cons, ← next, List.forall_mem_cons, List.forall_mem_append]
              refine (and_iff_right inside).trans ((and_iff_right reads).trans (inner.trans ⟨.inl, ?_⟩))
              rintro (inside | ⟨rfl, empty⟩)
              · exact inside
              · rw [EfuseWalk.readByte_addr] at more
                refine .inl ?_
                rw [next, PgPacket.size, empty]
                exact more
          · exact .inr ⟨ends, cut⟩
        · have full := far fits
          have stopped : ¬(content after.efuseAddr ≠ 0xFF ∧ after.efuseAddr < efuseRealContentLen) :=
            fun goes => Nat.lt_irrefl _ (full ▸ goes.2)
          have entered : after.entered content = after := if_neg stopped
          refine .inr ⟨?_, ?_⟩
          · exact (congrArg EfuseWalk.efuseAddr ((congrArg _ entered).trans
              (readPackets_stopped rounds stopped).1)).trans full
          · rw [currentSizeFrom_full _ (by omega)]
            omega
    · exact readsOut_end _ used within goes

theorem readPackets_more (rtemp8 : U8) (enough : efuseRealContentLen - walk.efuseAddr ≤ rounds) :
    readPackets content (rounds + 1) rtemp8 walk = readPackets content rounds rtemp8 walk := by
  induction rounds generalizing walk rtemp8 with
  | zero => exact (readPackets_stopped 1 fun goes => by omega).1
  | succ rounds ih =>
    by_cases goes : rtemp8 ≠ 0xFF ∧ walk.efuseAddr < efuseRealContentLen
    · have words := (@readPacketWords_addr content walk (headerWordEn rtemp8) (headerOffset rtemp8).toNat
        efuseMaxWordUnit 0 (Nat.zero_add _) goes.2).1
      rw [BitVec.ushiftRight_zero] at words
      rw [(readPackets_succ (rounds + 1) goes).1, (readPackets_succ rounds goes).1]
      generalize readPacketWords content (headerOffset rtemp8).toNat efuseMaxWordUnit (headerWordEn rtemp8) walk =
        after at words ⊢
      by_cases more : content after.efuseAddr ≠ 0xFF ∧ after.efuseAddr < efuseRealContentLen
      · rw [show after.entered content = after.readByte from if_pos more]
        refine ih _ ?_
        rw [EfuseWalk.readByte_addr]
        omega
      · rw [show after.entered content = after from if_neg more, (readPackets_stopped _ more).1,
          (readPackets_stopped _ more).1]
    · rw [(readPackets_stopped _ goes).1, (readPackets_stopped _ goes).1]

theorem log_eq_of_whole {others : List PgPacket} (log : EfuseLog content addr packets)
    (whole : WholePackets content addr others) : packets = others := by
  induction log generalizing others with
  | @done addr _ ends =>
    cases whole with
    | ends _ | cut _ _ => rfl
    | packet header _ fits _ =>
      have inside := ends (Nat.lt_of_lt_of_le (Nat.lt_add_of_pos_right (Nat.succ_pos _)) fits)
      exact absurd (header.symm.trans inside) (PgPacket.header_ne _)
  | @packet addr packet rest header data continued ih =>
    have within := continued.addr_le
    have size : packet.size = packet.data.length + 1 := rfl
    have length := packet.data_length
    cases whole with
    | ends ends => exact absurd (header.symm.trans (ends (by omega))) packet.header_ne
    | cut _ cut =>
      rw [header] at cut
      omega
    | @packet _ other others otherHeader otherData _ otherContinued =>
      obtain rfl : packet = other := by
        have same := header.symm.trans otherHeader
        have lengths := other.data_length
        rw [← same, ← length] at lengths
        have datas : packet.data = other.data := by
          refine List.ext_getElem lengths.symm fun index inside otherInside => ?_
          exact (data index inside).symm.trans (otherData index otherInside)
        cases packet
        cases other
        cases same
        cases datas
        rfl
      rw [ih otherContinued]

theorem EfuseLog.bytes_le (log : EfuseLog content addr packets) :
    addr + (logBytes packets).length ≤ efuseRealContentLen := by
  induction log with
  | done inside _ => exact inside
  | packet _ _ _ ih =>
    rw [logBytes_length_cons, ← Nat.add_assoc]
    exact ih

theorem EfuseLog.whole (log : EfuseLog content addr packets) : WholePackets content addr packets := by
  induction log with
  | done _ ends => exact .ends ends
  | packet header data continued ih => exact .packet header data continued.addr_le ih

/-- `ReadEFuse_RTL8192C` decodes the efuse if and only if no packet is cut off by the end of the array,
and the last one does not fill it up with data. -/
theorem readEFuse_decodes_iff (content : EfuseContent) :
    DecodesExactly content ↔ ∃ packets, EfuseLog content 0 packets ∧ EndsInside 0 packets := by
  obtain ⟨used, result⟩ :=
    @readPackets_spec content .start efuseRealContentLen rfl (Nat.zero_le _) (Nat.le_refl _)
  have whole : readPackets content efuseRealContentLen (content EfuseWalk.start.efuseAddr)
      (EfuseWalk.start.entered content) = efuseWalk content := by
    rw [efuseWalk, EfuseWalk.entered]
    simp [EfuseWalk.start]
  rw [whole] at used result
  constructor
  · intro decodes
    rcases result with ⟨packets, log, _, inner⟩ | ⟨ends, cut⟩
    · exact ⟨packets, log, inner.mp decodes.reads⟩
    · have reported := decodes.utilized 0 0 [] (by decide)
      rw [readEFuse, if_neg (by decide), Option.some.injEq] at reported
      have size : efuseGetCurrentSize content =
          currentSizeFrom content efuseRealContentLen EfuseWalk.start.efuseAddr := rfl
      omega
  · rintro ⟨packets, log, inside⟩
    have enough := log.length_le
    have size := currentSizeFrom_eq log (show packets.length ≤ efuseRealContentLen by omega)
    have within := log.bytes_le
    rcases result with ⟨others, otherLog, ends, inner⟩ | ⟨_, cut⟩
    · obtain rfl := log_eq_of_whole log otherLog.whole
      refine ⟨?_, inner.mpr inside, ?_, ?_⟩
      · intro rounds many
        induction rounds, many using Nat.le_induction with
        | base => exact whole
        | succ rounds many ih => rw [readPackets_more _ (Nat.le_trans (Nat.sub_le _ _) many), ih]
      · intro others otherWhole offset sizeByte pbuf fits
        rw [← log_eq_of_whole log otherWhole, readEFuse, if_neg (Nat.not_lt.mpr fits), ← efuseWalk_word log]
      · intro offset sizeByte pbuf fits
        rw [readEFuse, if_neg (Nat.not_lt.mpr fits), efuseGetCurrentSize, size]
        exact congrArg some (used.trans ends)
    · have size : currentSizeFrom content efuseRealContentLen EfuseWalk.start.efuseAddr = _ := size
      omega

/-- Of packets with one word the last is cut off: 512 bytes are reported, and 513 found. -/
theorem readEFuse_not_decodes : ¬DecodesExactly fun _ => 0x0E := by
  intro decodes
  have reported := decodes.utilized 0 0 [] (by decide)
  revert reported
  decide +kernel

end Floid.Wifi
