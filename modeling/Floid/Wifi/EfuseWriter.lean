import Floid.Wifi.EfuseReaders

namespace Floid.Wifi

def efuseOobProtectBytes : Nat := 15

def efuseRepeatThreshold : Nat := 3

def efuseProtected : Nat := efuseRealContentLen - efuseOobProtectBytes

structure EfuseArray where
  content : EfuseContent
  refused : List Nat

def EfuseArray.oneByteWrite (array : EfuseArray) (addr : Nat) (data : U8) : EfuseArray :=
  if array.content addr = 0xFF then { array with content := Function.update array.content addr data }
  else { array with refused := addr :: array.refused }

def maskWhere (enabled : Nat → Bool) : U8 :=
  [0, 1, 2, 3].foldl (fun mask word => if enabled word then mask &&& ~~~(1#8 <<< word) else mask) 0x0F

structure WordWrite where
  startAddr : Nat
  badworden : U8
  array : EfuseArray

def WordWrite.word (wordEn : U8) (data : List U8) (write : WordWrite) (word : Nat) : WordWrite :=
  if wordEnabled wordEn word then
    let tmpaddr := write.startAddr
    let low := data.getD (2 * word) 0xFF
    let high := data.getD (2 * word + 1) 0xFF
    let array := (write.array.oneByteWrite tmpaddr low).oneByteWrite (tmpaddr + 1) high
    { startAddr := tmpaddr + 2
      badworden :=
        if low ≠ array.content tmpaddr ∨ high ≠ array.content (tmpaddr + 1) then
          write.badworden &&& ~~~(1#8 <<< word)
        else write.badworden
      array := array }
  else write

def efuseWordEnableDataWrite (array : EfuseArray) (efuseAddr : Nat) (wordEn : U8) (data : List U8) :
    U8 × EfuseArray :=
  let write := [0, 1, 2, 3].foldl (WordWrite.word wordEn data) ⟨efuseAddr, 0x0F, array⟩
  (write.badworden, write.array)

def currentSizeFrom (content : EfuseContent) : Nat → Nat → Nat
  | 0, efuseAddr => efuseAddr
  | rounds + 1, efuseAddr =>
      if efuseAddr < efuseRealContentLen then
        let efuseData := content efuseAddr
        if efuseData ≠ 0xFF then
          currentSizeFrom content rounds
            (efuseAddr + efuseCalculateWordCnts (headerWordEn efuseData) * 2 + 1)
        else efuseAddr
      else efuseAddr

/-- `hal_EfuseGetCurrentSize_8192C`. -/
def efuseGetCurrentSize (content : EfuseContent) : Nat :=
  currentSizeFrom content efuseRealContentLen 0

structure PgWrite where
  array : EfuseArray
  repeatTimes : Nat
  writeState : PgState
  bContinual : Bool
  bResult : Bool
  efuseAddr : Nat
  targetWordEn : U8
  targetWordCnts : Nat
  originaldata : List U8

def PgWrite.retry (write : PgWrite) : PgWrite :=
  let repeatTimes := write.repeatTimes + 1
  if efuseRepeatThreshold < repeatTimes then
    { write with repeatTimes := repeatTimes, bContinual := false, bResult := false }
  else { write with repeatTimes := repeatTimes }

def PgWrite.skip (write : PgWrite) (wordCnts : Nat) : PgWrite :=
  { write with efuseAddr := write.efuseAddr + wordCnts * 2 + 1, writeState := .header }

abbrev PgRewrite := EfuseArray → Nat → U8 → U8 → List U8 → Option (EfuseArray × Nat)

def PgWrite.rewrite (again : PgRewrite) (write : PgWrite) (offset wordEn : U8) : Option PgWrite :=
  (again write.array write.repeatTimes offset wordEn write.originaldata).map fun (array, repeatTimes) =>
    { write with array := array, repeatTimes := repeatTimes }

section Rounds

variable (again : PgRewrite) (offset : U8) (targetData : List U8)

def PgWrite.reuse (write : PgWrite) (tmpWordEn : U8) (tmpWordCnts : Nat) : Option PgWrite :=
  let matchWordEn :=
    maskWhere fun word => wordEnabled write.targetWordEn word && wordEnabled tmpWordEn word
  if matchWordEn &&& 0x0F#8 ≠ 0x0F then do
    let (badworden, array) :=
      efuseWordEnableDataWrite write.array (write.efuseAddr + 1) tmpWordEn targetData
    let write := { write with array := array }
    let write ← if badworden &&& 0x0F#8 ≠ 0x0F then write.rewrite again offset badworden else some write
    let tmpWordEn :=
      maskWhere fun word => write.targetWordEn.getLsbD word != matchWordEn.getLsbD word
    let write :=
      if tmpWordEn &&& 0x0F#8 ≠ 0x0F then
        { write with efuseAddr := efuseGetCurrentSize write.array.content, targetWordEn := tmpWordEn }
      else { write with bContinual := false }
    some { write with writeState := .header }.retry
  else some (write.skip tmpWordCnts)

def PgWrite.append (write : PgWrite) : Option PgWrite :=
  let pgHeader := ((offset <<< 4) &&& 0xf0#8) ||| write.targetWordEn
  let write := { write with array := write.array.oneByteWrite write.efuseAddr pgHeader }
  let tmpHeader := write.array.content write.efuseAddr
  if tmpHeader = pgHeader then some { write with writeState := .data }
  else if tmpHeader = 0xFF then some { write with writeState := .header }.retry
  else do
    -- another header was read back: its data are repeated behind it
    let tmpWordEn := headerWordEn tmpHeader
    let tmpWordCnts := efuseCalculateWordCnts tmpWordEn
    let (found, originaldata) := efusePgPacketRead write.array.content (headerOffset tmpHeader)
      (List.replicate pgpktDataSize 0xFF)
    let write := { write with originaldata := originaldata }
    let write ←
      if found then do
        let (badworden, array) :=
          efuseWordEnableDataWrite write.array (write.efuseAddr + 1) tmpWordEn originaldata
        let write := { write with array := array }
        if badworden &&& 0x0F#8 ≠ 0x0F then do
          let write ← write.rewrite again (headerOffset tmpHeader) badworden
          some { write with efuseAddr := efuseGetCurrentSize write.array.content }
        else some (write.skip tmpWordCnts)
      else some (write.skip tmpWordCnts)
    some { write with writeState := .header }.retry

def PgWrite.writeData (write : PgWrite) : PgWrite :=
  let (badworden, array) :=
    efuseWordEnableDataWrite write.array (write.efuseAddr + 1) write.targetWordEn targetData
  let write := { write with array := array }
  if badworden &&& 0x0F#8 = 0x0F then { write with bContinual := false }
  else
    { write.skip write.targetWordCnts with
      targetWordEn := badworden
      targetWordCnts := efuseCalculateWordCnts badworden }.retry

def PgWrite.step (write : PgWrite) : Option PgWrite :=
  match write.writeState with
  | .header =>
      let efuseData := write.array.content write.efuseAddr
      if efuseData ≠ 0xFF then
        let tmpWordEn := headerWordEn efuseData
        let tmpWordCnts := efuseCalculateWordCnts tmpWordEn
        if headerOffset efuseData ≠ offset then some (write.skip tmpWordCnts)
        else if dataProgrammed write.array.content (write.efuseAddr + 1) (tmpWordCnts * 2) then
          some (write.skip tmpWordCnts)
        else write.reuse again offset targetData tmpWordEn tmpWordCnts
      else write.append again offset
  | .data => some (write.writeData targetData)

/-- The loop, `none` when the rounds do not suffice. -/
def PgWrite.run : Nat → PgWrite → Option PgWrite
  | 0, _ => none
  | rounds + 1, write =>
      if write.bContinual ∧ write.efuseAddr < efuseProtected then
        (write.step again offset targetData).bind (PgWrite.run rounds)
      else some write

end Rounds

/-- `hal_EfusePgPacketWrite_8192C`: the result, the array and the counter. `stale` is what
`originaldata` holds before it is set, and `depth` bounds the calls from within. -/
def efusePgPacketWrite (stale : List U8) :
    Nat → EfuseArray → Nat → U8 → U8 → List U8 → Option (Bool × EfuseArray × Nat)
  | 0, _, _, _, _, _ => none
  | depth + 1, array, repeatTimes, offset, wordEn, data =>
      if efuseProtected ≤ efuseGetCurrentSize array.content then some (false, array, repeatTimes)
      else
        let targetData :=
          efuseWordEnableDataRead wordEn data (List.replicate pgpktDataSize 0xFF)
        let again : PgRewrite := fun array repeatTimes offset wordEn data =>
          (efusePgPacketWrite stale depth array repeatTimes offset wordEn data).map Prod.snd
        (PgWrite.run again offset targetData (2 * efuseRealContentLen)
          { array := array, repeatTimes := repeatTimes, writeState := .header, bContinual := true,
            bResult := true, efuseAddr := 0, targetWordEn := wordEn,
            targetWordCnts := efuseCalculateWordCnts wordEn, originaldata := stale }).map
          fun write => (true, write.array, write.repeatTimes)

section MapWrite

structure MapFill where
  i : Nat
  idx : Nat
  wordEn : U8
  newdata : Nat → U8

def MapFill.blank (i idx : Nat) : MapFill := ⟨i, idx, 0xF, fun _ => 0xFF⟩

def MapFill.enable (fill : MapFill) (i : Nat) (low high : U8) : MapFill :=
  { fill with
    wordEn := fill.wordEn &&& ~~~(1#8 <<< (i / 2))
    newdata := Function.update (Function.update fill.newdata i low) (i + 1) high }

structure MapWritten where
  ret : Bool
  map : Nat → U8
  calls : List (Nat × U8)

/-- `Efuse_PgPacketWrite`: whether it succeeded, and the map then. -/
abbrev PgPacketWriter := (Nat → U8) → Nat → U8 → (Nat → U8) → Bool × (Nat → U8)

/-- `TYPE_EFUSE_MAP_LEN` of the 8192C and of the 8723. -/
def wifiMapLen (is8723 : Bool) : Nat := if is8723 then 256 else efuseMapLen

variable (mapLen : Nat) (write : PgPacketWriter) (map : Nat → U8) (addr : Nat) (data : List U8)

def mapByte (place : Nat) : Option U8 := if place < mapLen then some (map place) else none

def MapFill.oddStart : Option MapFill :=
  let fill := MapFill.blank (addr % pgpktDataSize) 0
  if fill.i % 2 = 1 then do
    let new ← data[0]?
    let old ← mapByte mapLen map addr
    let fill ←
      if new ≠ old then (mapByte mapLen map (addr - 1)).map (fill.enable (fill.i - 1) · new)
      else some fill
    some { fill with i := fill.i + 1, idx := 1 }
  else some fill

def MapFill.words : Nat → MapFill → Option MapFill
  | 0, fill => some fill
  | rounds + 1, fill =>
      if pgpktDataSize ≤ fill.i ∨ data.length = fill.idx then some fill
      else do
        let new ← data[fill.idx]?
        let old ← mapByte mapLen map (addr + fill.idx)
        if data.length = fill.idx + 1 then
          let fill ←
            if new ≠ old then
              (mapByte mapLen map (addr + fill.idx + 1)).map (fill.enable fill.i new)
            else some fill
          some { fill with idx := fill.idx + 1 }
        else
          let high ← data[fill.idx + 1]?
          let differs ←
            if new ≠ old then some true
            else (mapByte mapLen map (addr + fill.idx + 1)).map (high ≠ ·)
          let fill := if differs then fill.enable fill.i new high else fill
          MapFill.words rounds { fill with i := fill.i + 2, idx := fill.idx + 2 }

def mapSections : Nat → Nat → MapFill → MapWritten → Option MapWritten
  | 0, _, _, _ => none
  | rounds + 1, offset, fill, written => do
      let fill ← fill.words mapLen map addr data 4
      let written :=
        if fill.wordEn ≠ 0xF then
          let (ret, map) := write written.map offset fill.wordEn fill.newdata
          ⟨ret, map, (offset, fill.wordEn) :: written.calls⟩
        else written
      if written.ret = false ∨ fill.idx = data.length then some written
      else mapSections rounds (offset + 1) (MapFill.blank 0 fill.idx) written

/-- `efuse_map_write`: `none` when it reads behind `data` or the map, or does not end. -/
def efuseMapWrite (allocated : Bool) : Option MapWritten :=
  if mapLen < addr + data.length ∨ allocated = false then some ⟨false, map, []⟩
  else do
    let fill ← MapFill.oddStart mapLen map addr data
    mapSections mapLen write map addr data (data.length + 1) (addr / pgpktDataSize) fill
      ⟨true, map, []⟩

def patched (place : Nat) : U8 :=
  if addr ≤ place ∧ place < addr + data.length then data.getD (place - addr) 0 else map place

def replaced (offset : Nat) (wordEn : U8) (newdata : Nat → U8) (place : Nat) : U8 :=
  if place / pgpktDataSize = offset ∧ wordEnabled wordEn (place % pgpktDataSize / 2) then
    newdata (place % pgpktDataSize)
  else map place

/-- A packet that has been written replaces the words that are enabled. -/
def PgPacketWriter.Replaces : Prop :=
  ∀ map offset wordEn newdata, (write map offset wordEn newdata).1 = true →
    (write map offset wordEn newdata).2 = replaced map offset wordEn newdata

variable (target : Nat → U8)

def WordChanges (place : Nat) : Prop :=
  target place ≠ map place ∨ target (place + 1) ≠ map (place + 1)

instance (place : Nat) : Decidable (WordChanges map target place) :=
  inferInstanceAs (Decidable (_ ∨ _))

def CallsChange (calls : List (Nat × U8)) : Prop :=
  ∀ offset wordEn, (offset, wordEn) ∈ calls → ∀ word < 4,
    wordEnabled wordEn word = true → WordChanges map target (8 * offset + 2 * word)

def PatchesExactly (allocated : Bool) : Prop :=
  ∃ written, efuseMapWrite mapLen write map addr data allocated = some written ∧
    (written.ret = true → written.map = patched map addr data) ∧
    CallsChange map (patched map addr data) written.calls

structure PatchTarget : Prop where
  inside : addr + data.length ≤ mapLen
  whole : mapLen % 2 = 0
  bytes : ∀ idx < data.length, data[idx]? = some (target (addr + idx))
  outside : ∀ place, place < addr ∨ addr + data.length ≤ place → target place = map place

namespace MapFill

def Covers (offset upto : Nat) (fill : MapFill) : Prop :=
  ∀ word < 4, let place := 8 * offset + 2 * word
    if 2 * word < upto ∧ WordChanges map target place then
      wordEnabled fill.wordEn word = true ∧
        fill.newdata (2 * word) = target place ∧ fill.newdata (2 * word + 1) = target (place + 1)
    else wordEnabled fill.wordEn word = false

structure Stands (offset : Nat) (fill : MapFill) : Prop where
  even : fill.i % 2 = 0
  ends : fill.i ≤ 8
  place : addr + fill.idx = 8 * offset + fill.i
  idx_le : fill.idx ≤ data.length
  covers : fill.Covers map target offset fill.i

variable {mapLen map addr data target write} {fill : MapFill} {offset upto : Nat}

theorem wordEnabled_enable {word : Nat} (below : word < 4) (low high : U8) :
    wordEnabled (fill.enable upto low high).wordEn word =
      (decide (word = upto / 2) || wordEnabled fill.wordEn word) := by
  simp only [wordEnabled, enable, BitVec.getLsbD_and, BitVec.getLsbD_not,
    BitVec.getLsbD_shiftLeft, BitVec.getLsbD_one]
  grind

theorem Covers.word (covers : fill.Covers map target offset upto) (even : upto % 2 = 0)
    {low high : U8} (isLow : low = target (8 * offset + upto))
    (isHigh : high = target (8 * offset + upto + 1)) :
    (if WordChanges map target (8 * offset + upto) then fill.enable upto low high
      else fill).Covers map target offset (upto + 2) := by
  intro word below
  have before := covers word below
  have enabled := @wordEnabled_enable fill upto word below low high
  by_cases here : 2 * word = upto
  · subst here
    by_cases changes : WordChanges map target (8 * offset + 2 * word)
    · rw [if_pos changes]
      dsimp only
      rw [if_pos ⟨by omega, changes⟩]
      exact ⟨by simp [enabled], by simp [enable, isLow], by simp [enable, isHigh]⟩
    · simpa [changes] using before
  · have upTo : 2 * word < upto + 2 ↔ 2 * word < upto := by omega
    have other : word ≠ upto / 2 := by omega
    rw [decide_eq_false other, Bool.false_or] at enabled
    simp only [upTo]
    by_cases changes : WordChanges map target (8 * offset + upto)
    · rw [if_pos changes, enabled]
      simp only [enable]
      rwa [Function.update_of_ne (by omega), Function.update_of_ne (by omega),
        Function.update_of_ne (by omega), Function.update_of_ne (by omega)]
    · rwa [if_neg changes]

theorem Covers.rest (covers : fill.Covers map target offset upto)
    (rest : ∀ place, 8 * offset + upto ≤ place → target place = map place) :
    fill.Covers map target offset 8 := by
  intro word below
  have before := covers word below
  by_cases inside : 2 * word < upto
  · simpa [inside, show 2 * word < 8 by omega] using before
  · have same : ¬WordChanges map target (8 * offset + 2 * word) := by
      rw [WordChanges, rest _ (by omega), rest _ (by omega)]
      simp
    simpa [inside, same] using before

theorem mapByte_inside {place : Nat} (inside : place < mapLen) :
    mapByte mapLen map place = some (map place) := if_pos inside

theorem words_spec (rounds : Nat) (enough : 8 ≤ 2 * rounds + fill.i) (patch : PatchTarget mapLen map addr data target)
    (stands : fill.Stands map addr data target offset) :
    ∃ after, fill.words mapLen map addr data rounds = some after ∧
      after.Covers map target offset 8 ∧ after.idx ≤ data.length ∧
      (after.idx = data.length ∧ addr + after.idx ≤ 8 * offset + 8 ∨ addr + after.idx = 8 * offset + 8) := by
  have ⟨inside, whole, bytes, outside⟩ := patch
  induction rounds generalizing fill with
  | zero =>
    have last : fill.i = 8 := Nat.le_antisymm stands.ends (by omega)
    exact ⟨fill, rfl, last ▸ stands.covers, stands.idx_le, .inr (by rw [stands.place, last])⟩
  | succ rounds ih =>
    obtain ⟨even, ends, at_, idx, covers⟩ := stands
    rw [words]
    by_cases stops : 8 ≤ fill.i ∨ data.length = fill.idx
    · refine ⟨fill, if_pos stops, ?_, idx, by omega⟩
      obtain last | last := stops
      · rwa [show fill.i = 8 by omega] at covers
      · exact covers.rest fun place _ => outside place (by omega)
    · have word := covers.word even rfl rfl
      rw [← at_] at word
      simp only [pgpktDataSize, if_neg stops, Option.bind_eq_bind, bytes fill.idx (by omega),
        @mapByte_inside mapLen map _ (show addr + fill.idx < mapLen by omega),
        @mapByte_inside mapLen map _ (show addr + fill.idx + 1 < mapLen by omega), Option.bind_some,
        Option.map_some]
      generalize changed : (if WordChanges map target (addr + fill.idx) then
        fill.enable fill.i (target (addr + fill.idx)) (target (addr + fill.idx + 1))
        else fill) = step at word
      by_cases last : data.length = fill.idx + 1
      · have beyond := outside (addr + fill.idx + 1) (by omega)
        have covered := word.rest fun place _ => outside place (by omega)
        have ends : addr + (fill.idx + 1) ≤ 8 * offset + 8 := by omega
        rw [if_pos last]
        refine ⟨{ step with i := fill.i, idx := fill.idx + 1 }, ?_, covered, last.ge, .inl ⟨last.symm, ends⟩⟩
        rw [← changed]
        by_cases differs : target (addr + fill.idx) = map (addr + fill.idx) <;>
          simp [WordChanges, differs, beyond, enable]
      · rw [if_neg last, bytes (fill.idx + 1) (by omega), Option.bind_some, ← Nat.add_assoc]
        have rest := @ih { step with i := fill.i + 2, idx := fill.idx + 2 } (by dsimp only; omega)
          ⟨by dsimp only; omega, by dsimp only; omega, by dsimp only; omega, by dsimp only; omega, word⟩
        convert rest using 4
        rw [← changed]
        by_cases differs : target (addr + fill.idx) = map (addr + fill.idx) <;>
        by_cases high : target (addr + fill.idx + 1) = map (addr + fill.idx + 1) <;>
          simp [WordChanges, differs, high, enable]

theorem wordEnabled_blank {word : Nat} (below : word < 4) : wordEnabled 0xF word = false := by
  match word, below with
  | 0, _ | 1, _ | 2, _ | 3, _ => decide

theorem blank_covers {i idx : Nat} (even : upto % 2 = 0)
    (before : ∀ place < 8 * offset + upto, 8 * offset ≤ place → target place = map place) :
    (blank i idx).Covers map target offset upto := by
  intro word below
  have keeps : ¬(2 * word < upto ∧ WordChanges map target (8 * offset + 2 * word)) := by
    rintro ⟨inside, changes⟩
    rw [WordChanges, before _ (by omega) (by omega), before _ (by omega) (by omega)] at changes
    simp at changes
  dsimp only
  rw [if_neg keeps]
  exact wordEnabled_blank below

theorem oddStart_spec (patch : PatchTarget mapLen map addr data target) (starts : addr % 2 = 0 ∨ data ≠ []) :
    ∃ fill, oddStart mapLen map addr data = some fill ∧ fill.i / 8 ≤ fill.idx ∧
      fill.Stands map addr data target (addr / 8) := by
  have ⟨inside, whole, bytes, outside⟩ := patch
  by_cases odd : addr % 8 % 2 = 1
  · have length : 0 < data.length := List.length_pos_of_ne_nil (starts.resolve_left (by omega))
    have first := bytes 0 length
    have before := outside (addr - 1) (by omega)
    have blank : (blank (addr % 8) 0).Covers map target (addr / 8) (addr % 8 - 1) :=
      blank_covers (by omega) fun place _ _ => outside place (by omega)
    have word := blank.word (by omega) rfl rfl
    have next : addr - 1 + 1 = addr := by omega
    rw [show 8 * (addr / 8) + (addr % 8 - 1) = addr - 1 by omega, next,
      show addr % 8 - 1 + 2 = addr % 8 + 1 by omega] at word
    generalize changed : (if WordChanges map target (addr - 1) then _ else _) = step at word
    refine ⟨{ step with i := addr % 8 + 1, idx := 1 }, ?_, by dsimp only; omega,
      by dsimp only; omega, by dsimp only; omega, by dsimp only; omega, length, word⟩
    rw [← changed, oddStart]
    by_cases differs : target addr = map addr <;>
      simp [WordChanges, differs, next, before, first, enable, MapFill.blank, pgpktDataSize, odd,
        @mapByte_inside mapLen map _ (show addr < mapLen by omega),
        @mapByte_inside mapLen map _ (show addr - 1 < mapLen by omega)]
  · have even : addr % 8 % 2 = 0 := by omega
    exact ⟨blank (addr % 8) 0, if_neg odd, by change addr % 8 / 8 ≤ 0; omega, even,
      by change addr % 8 ≤ 8; omega, (Nat.div_add_mod addr 8).symm, Nat.zero_le _,
      blank_covers even fun place below _ => outside place (.inl (by
        change place < 8 * (addr / 8) + addr % 8 at below; omega))⟩

theorem Covers.replaced {place : Nat} (covers : fill.Covers map target (place / 8) 8) :
    (if wordEnabled fill.wordEn (place % 8 / 2) then fill.newdata (place % 8) else map place) =
      target place := by
  have word := covers (place % 8 / 2) (by omega)
  generalize start : 8 * (place / 8) + 2 * (place % 8 / 2) = first at word
  have parity : first = place ∧ 2 * (place % 8 / 2) = place % 8 ∨
      first + 1 = place ∧ 2 * (place % 8 / 2) + 1 = place % 8 := by omega
  dsimp only at word
  split at word
  · rw [if_pos word.1]
    obtain ⟨same, half⟩ | ⟨same, half⟩ := parity
    · rw [← half, word.2.1, same]
    · rw [← half, word.2.2, same]
  · rename_i keeps
    rw [if_neg (by rw [word]; decide)]
    have same : ¬WordChanges map target first := fun changes => keeps ⟨by omega, changes⟩
    simp only [WordChanges, not_or, not_not] at same
    obtain ⟨rfl, _⟩ | ⟨rfl, _⟩ := parity
    exacts [same.1.symm, same.2.symm]

end MapFill

open MapFill

variable {mapLen map addr data target write} {fill : MapFill} {offset : Nat}

theorem mapSections_spec {rounds : Nat} {written : MapWritten}
    (replaces : PgPacketWriter.Replaces write) (patch : PatchTarget mapLen map addr data target)
    (stands : fill.Stands map addr data target offset)
    (enough : data.length + fill.i / 8 < rounds + fill.idx)
    (ret : written.ret = true) (calls : CallsChange map target written.calls)
    (device : ∀ place, written.map place =
      if place / 8 < offset then target place else map place) :
    ∃ final, mapSections mapLen write map addr data rounds offset fill written = some final ∧
      (final.ret = true → final.map = target) ∧ CallsChange map target final.calls := by
  induction rounds generalizing offset fill written with
  | zero => exact absurd stands.idx_le (by omega)
  | succ rounds ih =>
    obtain ⟨after, words, covers, idx, place⟩ := words_spec 4 (by omega) patch stands
    rw [mapSections, words, Option.bind_eq_bind, Option.bind_some]
    dsimp only
    generalize programmed : (if after.wordEn ≠ 0xF then _ else written) = next
    obtain ⟨justified, patches⟩ : CallsChange map target next.calls ∧ (next.ret = true →
        next.map = replaced written.map offset after.wordEn after.newdata) := by
      rw [← programmed]
      split
      · refine ⟨fun o wordEn called word below on => ?_, replaces _ _ _ _⟩
        obtain ⟨⟩ | ⟨_, called⟩ := called
        · by_contra keeps
          have off := covers word below
          dsimp only at off
          rw [if_neg (keeps ·.2), on] at off
          cases off
        · exact calls o wordEn called word below on
      · refine ⟨calls, fun _ => funext fun place => (if_neg ?_).symm⟩
        rw [not_not.mp ‹¬after.wordEn ≠ 0xF›, wordEnabled_blank (by change _ % 8 / 2 < _; omega)]
        simp
    have advanced (success : next.ret = true) (place : Nat) : next.map place =
        if place / 8 < offset + 1 then target place else map place := by
      rw [patches success, replaced, device]
      by_cases here : place / 8 = offset
      · subst here
        rw [if_pos (Nat.lt_succ_self _), ← covers.replaced, if_neg (Nat.lt_irrefl _)]
        exact if_congr (and_iff_right rfl) rfl rfl
      · rw [if_neg (here ·.1)]
        exact if_congr (by omega) rfl rfl
    by_cases fails : next.ret = false
    · rw [if_pos (.inl fails)]
      exact ⟨next, rfl, fun success => absurd (fails.symm.trans success) nofun, justified⟩
    have success : next.ret = true := Bool.of_not_eq_false fails
    by_cases last : after.idx = data.length
    · rw [if_pos (.inr last)]
      refine ⟨next, rfl, fun _ => funext fun place => ?_, justified⟩
      rw [advanced success]
      split
      · rfl
      · exact (patch.outside _ (by omega)).symm
    · rw [if_neg (not_or.mpr ⟨fails, last⟩)]
      have := stands.place
      have := stands.ends
      exact ih ⟨rfl, Nat.zero_le _, by change addr + after.idx = 8 * (offset + 1) + 0; omega, idx,
          blank_covers rfl fun place below _ => absurd (show place < 8 * (offset + 1) from below) (by omega)⟩
        (by change data.length + 0 / 8 < rounds + after.idx; omega) success justified
        (advanced success)

theorem efuseMapWrite_exact_iff (is8723 : Bool) (replaces : PgPacketWriter.Replaces write)
    (inside : addr + data.length ≤ wifiMapLen is8723) :
    (∀ allocated, PatchesExactly (wifiMapLen is8723) write map addr data allocated) ↔
      addr % 2 = 0 ∨ data ≠ [] := by
  constructor
  · intro exactly
    by_contra bad
    rw [not_or, not_not] at bad
    obtain ⟨odd, rfl⟩ := bad
    obtain ⟨written, wrote, _⟩ := exactly true
    rw [efuseMapWrite, if_neg (by simpa using inside), oddStart, if_pos (by change addr % 8 % 2 = 1; omega)] at wrote
    cases wrote
  · intro starts allocated
    rw [PatchesExactly, efuseMapWrite]
    cases allocated with
    | false => exact ⟨_, if_pos (.inr rfl), nofun, nofun⟩
    | true =>
      rw [if_neg (by simpa using inside)]
      have patch : PatchTarget (wifiMapLen is8723) map addr data (patched map addr data) :=
        ⟨inside, by cases is8723 <;> rfl, fun idx below => by simp [patched, below],
          fun place outside => if_neg (by omega)⟩
      obtain ⟨fill, start, round, stands⟩ := oddStart_spec patch starts
      rw [start]
      refine mapSections_spec replaces patch stands (by omega) rfl nofun fun place => ?_
      split
      · exact (patch.outside _ (.inl (by change _ < addr / 8 at *; omega))).symm
      · rfl

theorem efuseMapWrite_exact_iff_oneByte : PatchesExactly 128 (fun map offset wordEn newdata =>
    (true, replaced map offset wordEn newdata)) (fun _ => 0xFF) 5 [0x12] true :=
  (efuseMapWrite_exact_iff false (fun _ _ _ _ _ => rfl) (by decide)).mpr (.inr (by decide)) true

theorem efuseMapWrite_not_exact : ¬PatchesExactly 128 (fun map offset wordEn newdata =>
    (true, replaced map offset wordEn newdata)) (fun _ => 0xFF) 5 [] true :=
  fun ⟨_, wrote, _⟩ => nomatch wrote

end MapWrite

end Floid.Wifi
