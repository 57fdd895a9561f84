import Floid.Lib.StreamCipher
import Floid.Osk.Types

namespace Floid.Wifi

open Osk Lib

abbrev U8 := BitVec 8

abbrev U16 := BitVec 16

structure Arc4Context where
  x : U8
  y : U8
  state : Vector U8 256

namespace Arc4Context

def get (state : Vector U8 256) (index : U8) : U8 := state[index.toNat]

def set (state : Vector U8 256) (index value : U8) : Vector U8 256 :=
  state.set index.toNat value

structure InitLoop where
  state : Vector U8 256
  keyindex : Nat
  stateindex : U8

def InitLoop.step (key : List U8) (loop : InitLoop) (counter : U8) : InitLoop :=
  let t := get loop.state counter
  let stateindex := loop.stateindex + key.getD loop.keyindex 0 + t
  let u := get loop.state stateindex
  { state := set (set loop.state stateindex t) counter u
    keyindex := if key.length ≤ loop.keyindex + 1 then 0 else loop.keyindex + 1
    stateindex }

end Arc4Context

def arcfourInit (key : List U8) : Arc4Context where
  x := 0
  y := 0
  state := ((List.range 256).foldl (fun loop counter => loop.step key (BitVec.ofNat 8 counter))
    (⟨Vector.ofFn fun counter => BitVec.ofNat 8 counter, 0, 0⟩ : Arc4Context.InitLoop)).state

def arcfourByte (context : Arc4Context) : U8 × Arc4Context :=
  let x := context.x + 1
  let sx := Arc4Context.get context.state x
  let y := sx + context.y
  let sy := Arc4Context.get context.state y
  let state := Arc4Context.set (Arc4Context.set context.state y sx) x sy
  (Arc4Context.get state (sx + sy), ⟨x, y, state⟩)

def arcfourEncrypt (context : Arc4Context) (src : List U8) : List U8 × Arc4Context :=
  applyStream arcfourByte context src

def crc32ReverseBit (data : U8) : U8 :=
  (data <<< 7 &&& 0x80#8) ||| (data <<< 5 &&& 0x40#8) ||| (data <<< 3 &&& 0x20#8) |||
    (data <<< 1 &&& 0x10#8) ||| (data >>> 1 &&& 0x08#8) ||| (data >>> 3 &&& 0x04#8) |||
    (data >>> 5 &&& 0x02#8) ||| (data >>> 7 &&& 0x01#8)

def crc32Poly : U32 := 0x04C11DB7#32

def littleEndian (word : U32) : List U8 :=
  [word.setWidth 8, (word >>> 8).setWidth 8, (word >>> 16).setWidth 8, (word >>> 24).setWidth 8]

/-- An entry of `crc32_table`, as `crc32_init` sets it: the remainder of the reversed
byte, with its bits reversed and its bytes in the other order. -/
def crc32Table (index : U8) : U32 :=
  let shift (c : U32) : U32 := if c &&& 0x80000000#32 ≠ 0 then (c <<< 1) ^^^ crc32Poly else c <<< 1
  let c := Nat.repeat shift 8 ((crc32ReverseBit index).setWidth 32 <<< 24)
  let p (byte : Nat) : U8 := (c >>> (8 * byte)).setWidth 8
  crc32ReverseBit (p 0) ++ crc32ReverseBit (p 1) ++ crc32ReverseBit (p 2) ++ crc32ReverseBit (p 3)

def getcrc32 (buf : List U8) : U32 :=
  ~~~(buf.foldl (fun crc byte => crc32Table ((crc ^^^ byte.setWidth 32).setWidth 8) ^^^ (crc >>> 8)) 0xFFFFFFFF#32)

/-- The check value of "123456789" that CRC-32 is known by. -/
example : getcrc32 [0x31#8, 0x32#8, 0x33#8, 0x34#8, 0x35#8, 0x36#8, 0x37#8, 0x38#8, 0x39#8] =
    0xCBF43926#32 := by decide +kernel

end Floid.Wifi
