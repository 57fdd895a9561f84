import Floid.Wifi.Arcfour
import Mathlib.Logic.Function.Basic

/-!
The efuse of the 8192C: an array of one-time programmable bytes with a log of packets from
address 0 on. A packet has one byte of header, a section and a mask of words (a zero bit
enables its word), and then the enabled words packed. The log ends at the first header
0xFF, which an unprogrammed byte reads as.
-/

namespace Floid.Wifi

abbrev EfuseContent := Nat → U8

def efuseRealContentLen : Nat := 512

def efuseMapLen : Nat := 128

def efuseMaxSection : Nat := 16

def efuseMaxWordUnit : Nat := 4

def pgpktDataSize : Nat := 8

def headerOffset (header : U8) : U8 := (header >>> 4) &&& 0x0f#8

def headerWordEn (header : U8) : U8 := header &&& 0x0f#8

def wordEnabled (wordEn : U8) (word : Nat) : Bool := !wordEn.getLsbD word

def efuseCalculateWordCnts (wordEn : U8) : Nat :=
  (wordEnabled wordEn 0).toNat + (wordEnabled wordEn 1).toNat + (wordEnabled wordEn 2).toNat +
    (wordEnabled wordEn 3).toNat

def efuseWordEnableDataRead (wordEn : U8) (sourdata targetdata : List U8) : List U8 :=
  targetdata.zipIdx.map fun (byte, index) =>
    if wordEnabled wordEn (index / 2) then sourdata.getD index byte else byte

structure EfuseWalk where
  efuseAddr : Nat
  efuseUtilized : Nat
  efuseWord : Nat → Nat → U16

def EfuseWalk.readByte (walk : EfuseWalk) : EfuseWalk :=
  { walk with efuseAddr := walk.efuseAddr + 1, efuseUtilized := walk.efuseUtilized + 1 }

def EfuseWalk.setWord (walk : EfuseWalk) (offset word : Nat) (value : U16) : EfuseWalk :=
  { walk with
    efuseWord := Function.update walk.efuseWord offset
      (Function.update (walk.efuseWord offset) word value) }

def readPacketWords (content : EfuseContent) (offset : Nat) : Nat → U8 → EfuseWalk → EfuseWalk
  | 0, _, walk => walk
  | left + 1, wren, walk =>
      let word := efuseMaxWordUnit - (left + 1)
      if wren &&& 0x01#8 = 0 then
        let low := content walk.efuseAddr
        let walk := (walk.setWord offset word (low.setWidth 16)).readByte
        if efuseRealContentLen ≤ walk.efuseAddr then walk
        else
          let high := content walk.efuseAddr
          let value := walk.efuseWord offset word ||| ((high.setWidth 16 <<< 8) &&& 0xff00#16)
          let walk := (walk.setWord offset word value).readByte
          if efuseRealContentLen ≤ walk.efuseAddr then walk
          else readPacketWords content offset left (wren >>> 1) walk
      else readPacketWords content offset left (wren >>> 1) walk

def readPackets (content : EfuseContent) : Nat → U8 → EfuseWalk → EfuseWalk
  | 0, _, walk => walk
  | rounds + 1, rtemp8, walk =>
      if rtemp8 ≠ 0xFF ∧ walk.efuseAddr < efuseRealContentLen then
        let offset := (headerOffset rtemp8).toNat
        let walk :=
          if offset < efuseMaxSection then
            readPacketWords content offset efuseMaxWordUnit (headerWordEn rtemp8) walk
          else walk
        let next := content walk.efuseAddr
        readPackets content rounds next
          (if next ≠ 0xFF ∧ walk.efuseAddr < 512 then walk.readByte else walk)
      else walk

def efuseWalk (content : EfuseContent) : EfuseWalk :=
  let start : EfuseWalk := ⟨0, 0, fun _ _ => 0xFFFF⟩
  let rtemp8 := content 0
  readPackets content efuseRealContentLen rtemp8 (if rtemp8 ≠ 0xFF then start.readByte else start)

def lowByte (word : U16) : U8 := (word &&& 0xff#16).setWidth 8

def highByte (word : U16) : U8 := ((word >>> 8) &&& 0xff#16).setWidth 8

def wordBytes (words : Nat → U16) : List U8 :=
  (List.range efuseMaxWordUnit).flatMap fun word => [lowByte (words word), highByte (words word)]

def efuseTbl (words : Nat → Nat → U16) : List U8 :=
  (List.range efuseMaxSection).flatMap fun section_ => wordBytes (words section_)

/-- `ReadEFuse_RTL8192C`: what `pbuf` holds afterwards, and the number of bytes in use. A
range that is not in the map leaves `pbuf` alone. -/
def readEFuse (content : EfuseContent) (offset sizeByte : Nat) (pbuf : List U8) : List U8 × Option Nat :=
  if efuseMapLen < offset + sizeByte then (pbuf, none)
  else
    let walk := efuseWalk content
    (((efuseTbl walk.efuseWord).drop offset).take sizeByte ++ pbuf.drop sizeByte, some walk.efuseUtilized)

inductive PgState where
  | header
  | data
  deriving DecidableEq

structure PgRead where
  readState : PgState
  bContinual : Bool
  hworden : U8
  wordCnts : Nat
  efuseAddr : Nat
  tmpdata : List U8
  data : List U8

def readPacketData (content : EfuseContent) (addr count : Nat) (tmpdata : List U8) : List U8 :=
  (List.range count).foldl (fun tmpdata tmpidx => tmpdata.set tmpidx (content (addr + tmpidx)))
    tmpdata

def dataProgrammed (content : EfuseContent) (addr count : Nat) : Bool :=
  (List.range count).any fun tmpidx => content (addr + tmpidx) ≠ 0xFF

def PgRead.step (content : EfuseContent) (offset : U8) (read : PgRead) : PgRead :=
  match read.readState with
  | .header =>
      let efuseData := content read.efuseAddr
      if efuseData ≠ 0xFF then
        let hworden := headerWordEn efuseData
        let wordCnts := efuseCalculateWordCnts hworden
        let read := { read with hworden := hworden, wordCnts := wordCnts }
        if headerOffset efuseData = offset then
          let read := { read with
            tmpdata := readPacketData content (read.efuseAddr + 1) (wordCnts * 2) read.tmpdata }
          if dataProgrammed content (read.efuseAddr + 1) (wordCnts * 2) then
            { read with readState := .data }
          else { read with efuseAddr := read.efuseAddr + wordCnts * 2 + 1 }
        else { read with efuseAddr := read.efuseAddr + wordCnts * 2 + 1 }
      else { read with bContinual := false }
  | .data =>
      { read with
        data := efuseWordEnableDataRead read.hworden read.tmpdata read.data
        efuseAddr := read.efuseAddr + read.wordCnts * 2 + 1
        readState := .header }

def PgRead.run (content : EfuseContent) (offset : U8) : Nat → PgRead → PgRead
  | 0, read => read
  | rounds + 1, read =>
      if read.bContinual ∧ read.efuseAddr < efuseRealContentLen then
        PgRead.run content offset rounds (read.step content offset)
      else read

def efusePgPacketRead (content : EfuseContent) (offset : U8) (data : List U8) : Bool × List U8 :=
  if 15 < offset then (false, data)
  else
    let blank := List.replicate pgpktDataSize 0xFF
    let read := PgRead.run content offset (2 * efuseRealContentLen + 1)
      { readState := .header, bContinual := true, hworden := 0, wordCnts := 0, efuseAddr := 0,
        tmpdata := blank, data := blank }
    (!read.data.all (· == 0xFF), read.data)

end Floid.Wifi
