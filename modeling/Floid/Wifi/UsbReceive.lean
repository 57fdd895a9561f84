import Floid.Wifi.Wep

namespace Floid.Wifi

open Osk Lib

def rxdescSize : Nat := 24
def maxRecvbufSz : Nat := 15360

inductive UsbRxAggMode where
  | disable
  | dma
  | usb
  | mix
  deriving DecidableEq, Repr

def rnd128 (sz : Nat) : Nat := (sz / 128 + if sz % 128 ≠ 0 then 1 else 0) * 128

structure Skb where
  data : Nat
  room : Nat

structure UsbTransfer where
  /-- What lies from `pskb->data` on. -/
  memory : Nat → U8
  len : Nat
  /-- How many bytes lie from `pskb->data` to the end of the skb. -/
  room : Nat
  usbRxAggMode : UsbRxAggMode
  numTotalRFPath : Nat
  allocRecvframe : Nat → Bool
  netdevAllocSkb : Nat → Nat → Option Skb
  atLeast : rxdescSize ≤ len
  atMost : len ≤ maxRecvbufSz
  inRoom : len ≤ room
  allocRoom : ∀ index size skb, netdevAllocSkb index size = some skb → size ≤ skb.room

/-- What the loop sets of a `recv_frame`, with the allocation its pointers point into and the
bytes that lie from `rx_head` on. -/
structure ReceivedFrame where
  base : Nat
  room : Nat
  rxHead : Nat
  rxData : Nat
  rxTail : Nat
  rxEnd : Nat
  len : Nat
  bytes : List U8
  /-- How many bytes were copied to `rx_head`, if it is a copy. -/
  copied : Option Nat

namespace ReceivedFrame

variable (frame : ReceivedFrame)

/-- `recvframe_put`. -/
def put (sz : Nat) : ReceivedFrame :=
  if frame.rxEnd < frame.rxTail + sz then frame
  else { frame with rxTail := frame.rxTail + sz, len := frame.len + sz }

/-- `recvframe_pull`. -/
def pull (sz : Nat) : ReceivedFrame :=
  if frame.rxTail < frame.rxData + sz then frame
  else { frame with rxData := frame.rxData + sz, len := frame.len - sz }

/-- The data of a frame: `len` bytes from `rx_data` on. -/
def data : List U8 := (frame.bytes.drop (frame.rxData - frame.rxHead)).take frame.len

end ReceivedFrame

structure Visit where
  pos : Nat
  remaining : Nat
  index : Nat
  frame : Option ReceivedFrame

namespace UsbTransfer

variable (t : UsbTransfer)

def rxdw (pos word : Nat) : Nat :=
  (t.memory (pos + 4 * word)).toNat + 2 ^ 8 * (t.memory (pos + 4 * word + 1)).toNat +
    2 ^ 16 * (t.memory (pos + 4 * word + 2)).toNat + 2 ^ 24 * (t.memory (pos + 4 * word + 3)).toNat

def pktLen (pos : Nat) : Nat := t.rxdw pos 0 % 2 ^ 14
def drvinfoSz (pos : Nat) : Nat := t.rxdw pos 0 / 2 ^ 16 % 2 ^ 4 * 8
def qos (pos : Nat) : Bool := (t.rxdw pos 0).testBit 23
def physt (pos : Nat) : Bool := (t.rxdw pos 0).testBit 26
def moreFrag (pos : Nat) : Bool := (t.rxdw pos 1).testBit 27
def fragNum (pos : Nat) : Nat := t.rxdw pos 2 / 2 ^ 12 % 2 ^ 4
def pktCnt (pos : Nat) : Nat := t.rxdw pos 2 / 2 ^ 16 % 2 ^ 8
def mcsRate (pos : Nat) : Nat := t.rxdw pos 3 % 2 ^ 6

def pktOffset (pos : Nat) : Nat := t.pktLen pos + t.drvinfoSz pos + rxdescSize

def shiftSz (pos : Nat) : Nat := if t.qos pos then 6 else 0

def FirstFragment (pos : Nat) : Prop := t.moreFrag pos = true ∧ t.fragNum pos = 0

instance (pos : Nat) : Decidable (t.FirstFragment pos) := inferInstanceAs (Decidable (_ ∧ _))

def allocSz (pos : Nat) : Nat := if t.FirstFragment pos then 1664 else t.pktOffset pos + 14

def padded (pos : Nat) : Nat :=
  match t.usbRxAggMode with
  | .dma | .mix => rnd128 (t.pktOffset pos) % 2 ^ 16
  | .usb => rnd4 (t.pktOffset pos) % 2 ^ 16
  | .disable => t.pktOffset pos

def bytesAt (pos count : Nat) : List U8 := (List.range count).map fun index => t.memory (pos + index)

def reserved (skb : Skb) (pos : Nat) : Nat := 8 - skb.data % 8 + t.shiftSz pos

def place (index pos : Nat) : ReceivedFrame :=
  match t.netdevAllocSkb index (t.allocSz pos) with
  | some skb =>
      let head := skb.data + t.reserved skb pos
      { base := skb.data, room := skb.room
        rxHead := head, rxData := head, rxTail := head, rxEnd := head + t.allocSz pos, len := 0
        bytes := t.bytesAt pos (t.pktOffset pos), copied := some (t.pktOffset pos) }
  | none =>
      { base := 0, room := t.room
        rxHead := pos, rxData := pos, rxTail := pos, rxEnd := pos + t.allocSz pos, len := 0
        bytes := t.bytesAt pos (t.pktOffset pos), copied := none }

def receive (index pos : Nat) : ReceivedFrame :=
  ((t.place index pos).put (t.pktOffset pos)).pull (t.drvinfoSz pos + rxdescSize)

def nextCount (pos pktCnt : Nat) : Nat :=
  if (pktCnt + (2 ^ 16 - 1)) % 2 ^ 16 = 0 then t.pktCnt pos else (pktCnt + (2 ^ 16 - 1)) % 2 ^ 16

def recvLoop : Nat → Nat → Nat → Nat → Nat → Option (List Visit)
  | 0, _, _, _, _ => none
  | fuel + 1, pos, remaining, pktCnt, index =>
      if t.pktLen pos = 0 ∨ remaining < t.pktOffset pos ∨ t.allocRecvframe index = false then
        some [⟨pos, remaining, index, none⟩]
      else
        let visit : Visit := ⟨pos, remaining, index, some (t.receive index pos)⟩
        let left := remaining - t.padded pos
        -- the count matters only while something is left
        if 0 < left ∧ 0 < t.nextCount pos pktCnt then
          (recvLoop fuel (pos + t.padded pos) left (t.nextCount pos pktCnt) (index + 1)).map (visit :: ·)
        else some [visit]

def recvbuf2recvframe (fuel : Nat) : Option (List Visit) := t.recvLoop fuel 0 t.len (t.pktCnt 0) 0

def visits : List Visit := (t.recvbuf2recvframe (t.len + 1)).getD []

/-- How many bytes of the physical status are read behind the descriptor: up to `cck_agc_rpt`,
or up to the `rxsnr_X` of the last path. -/
def statusRead (pos : Nat) : Nat := if t.mcsRate pos ≤ 3 then 6 else 15 + t.numTotalRFPath

def reads (visit : Visit) : List (Nat × Nat) :=
  -- the first three words of the descriptor are read before anything is checked
  (visit.pos, visit.pos + 12) ::
    match visit.frame with
    | none => []
    | some _ =>
        [(visit.pos, visit.pos + t.pktOffset visit.pos), (visit.pos, visit.pos + rxdescSize)] ++
          if t.drvinfoSz visit.pos ≠ 0 ∧ t.physt visit.pos then
            [(visit.pos + rxdescSize, visit.pos + rxdescSize + t.statusRead visit.pos)]
          else []

end UsbTransfer

end Floid.Wifi
