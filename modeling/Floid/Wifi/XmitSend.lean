import Floid.Wifi.Coalesce

namespace Floid.Wifi

open Osk Lib

def maxXmitbufSz : Nat := 20480

def maxTxAggPacketNumber : Nat := 0xff

def rnd8 (sz : Nat) : Nat := (sz / 8 + if sz % 8 = 0 then 0 else 1) * 8

/-- What `dump_xframe` does with a fragment: where it takes it to be and how long, and the
place and the length that it calls `write_port` for. -/
structure DumpedFragment where
  mpdu : Nat
  sz : Nat
  bufAddr : Nat
  wSz : Nat
  deriving DecidableEq, Repr

/-- The loop of `dump_xframe`, for so many fragments from a place on. `update_txdesc` leaves out
the packet offset unless the transfer without it were a multiple of the bulk size. -/
def dumpFragments (bulkSize : Nat) (swEncrypt : Bool) (attrib : XmitAttrib) : Nat → Nat → Nat → List DumpedFragment
  | 0, _, _ => []
  | left + 1, memAddr, bufAddr =>
      let sz := if left = 0 then attrib.lastTxcmdsz
        else attrib.fragLen - 4 - (if swEncrypt then 0 else attrib.icvLen)
      let pull := (sz + txdescSize) % bulkSize ≠ 0
      let bufAddr := if pull then memAddr + packetOffsetSz else bufAddr
      let wSz := if pull then sz + txdescSize else sz + txdescSize + packetOffsetSz
      ⟨memAddr + txdescOffset, sz, bufAddr, wSz⟩ ::
        dumpFragments bulkSize swEncrypt attrib left (rnd4 (memAddr + sz + txdescOffset)) bufAddr

def dumpXframe (bulkSize : Nat) (swEncrypt : Bool) (attrib : XmitAttrib) (bufAddr : Nat) : List DumpedFragment :=
  dumpFragments bulkSize swEncrypt attrib attrib.nrFrags bufAddr bufAddr

/-- A frame with its packet, and whether `xmitframe_enqueue_for_sleeping_sta` keeps it. -/
structure TxFrame where
  attrib : TxAttrib
  pkt : List U8
  sleeping : Bool

/-- `xmitframe_direct`, as `pre_xmitframe` calls it for a frame at the beginning of a buffer: what
`xmitframe_coalesce` leaves, and what is handed to `write_port`. -/
def xmitframeDirect (stale : U16) (priv : TxPriv) (bulkSize : Nat) (swEncrypt : Bool)
    (psta : Option TxSta) (frame : TxFrame) (buffer : List U8) :
    Option (Coalesced × List DumpedFragment) := do
  let coalesced ← xmitframeCoalesce stale priv psta frame.attrib (some 0) 1 frame.pkt buffer
  if coalesced.success then
    return (coalesced, dumpXframe bulkSize swEncrypt coalesced.attrib.toXmitAttrib 0)
  else return (coalesced, [])

def xmitframeNeedLength (attrib : TxAttrib) : Nat :=
  attrib.hdrlen + attrib.ivLen + 8 + attrib.pktlen + attrib.icvRoom +
    if attrib.encrypt = .tkip then 8 else 0

/-- A frame of a transfer: where its descriptor was put, with how much packet offset, and what
`xmitframe_coalesce` left. -/
structure PlacedFrame where
  frame : TxFrame
  start : Nat
  pktOffset : Nat
  coalesced : Coalesced

structure Aggregation where
  psta : Option TxSta
  buffer : List U8
  pbuf : Nat
  pbufTail : Nat
  descCount : Nat
  bulkPtr : Nat
  aggNum : Nat
  placed : List PlacedFrame

/-- What goes to `write_port`: the frames, the place of the first descriptor, from where on so
many bytes are sent, `agg_num` and the bytes of the buffer. -/
structure Transfer where
  placed : List PlacedFrame
  start : Nat
  length : Nat
  aggNum : Nat
  buffer : List U8

section Aggregate

variable (stale : U16) (priv : TxPriv) (bulkSize usbTxAggDescNum : Nat)
  (txdesc : TxAttrib → Nat → Nat → Vector U8 32)

def nextBulk (pbuf : Nat) : Nat := (pbuf / bulkSize + 1) * bulkSize

def placeFirst (psta : Option TxSta) (frame : TxFrame) (buffer : List U8) : Option Aggregation := do
  let coalesced ← xmitframeCoalesce stale priv psta frame.attrib (some 0) 1 frame.pkt buffer
  let pbufTail := xmitframeNeedLength coalesced.attrib + txdescOffset
  let pbuf := rnd8 pbufTail
  return {
    psta := coalesced.psta
    buffer := coalesced.buffer
    pbuf
    pbufTail
    descCount := if pbuf < bulkSize then 1 else 0
    bulkPtr := if pbuf < bulkSize then bulkSize else nextBulk bulkSize pbuf
    aggNum := 1
    placed := [⟨frame, 0, 1, coalesced⟩] }

def placeNext (frame : TxFrame) (state : Aggregation) : Option (Aggregation × Bool) := do
  let coalesced ← xmitframeCoalesce stale priv state.psta frame.attrib (some state.pbuf) 0 frame.pkt
    state.buffer
  let buffer ← overwrite coalesced.buffer state.pbuf
    (txdesc coalesced.attrib coalesced.attrib.lastTxcmdsz 0).toList
  let pbufTail := state.pbuf + (xmitframeNeedLength frame.attrib + txdescSize)
  let pbuf := rnd8 pbufTail
  let next : Aggregation := {
    psta := coalesced.psta
    buffer
    pbuf
    pbufTail
    descCount := state.descCount
    bulkPtr := state.bulkPtr
    aggNum := state.aggNum + 1
    placed := state.placed ++ [⟨frame, state.pbuf, 0, coalesced⟩] }
  if next.aggNum = maxTxAggPacketNumber then return (next, false)
  else if pbuf < state.bulkPtr then
    return ({ next with descCount := state.descCount + 1 }, state.descCount + 1 ≠ usbTxAggDescNum)
  else return ({ next with descCount := 0, bulkPtr := nextBulk bulkSize pbuf }, true)

def aggregateFrames : List TxFrame → Aggregation → Option Aggregation
  | [], state => some state
  | frame :: rest, state =>
      if frame.sleeping then aggregateFrames rest state
      else if maxXmitbufSz < state.pbuf + (xmitframeNeedLength frame.attrib + txdescSize) then
        some state
      else do
        let (state, goesOn) ← placeNext stale priv bulkSize usbTxAggDescNum txdesc frame state
        if goesOn then aggregateFrames rest state else return state

def finishTransfer (first : TxAttrib) (state : Aggregation) : Option Transfer := do
  let removed := state.pbufTail % bulkSize = 0
  let start := if removed then packetOffsetSz else 0
  let buffer ← overwrite state.buffer start
    (txdesc first first.lastTxcmdsz (if removed then 0 else 1)).toList
  return {
    placed := state.placed
    start
    length := if removed then state.pbufTail - packetOffsetSz else state.pbufTail
    aggNum := state.aggNum
    buffer }

/-- `rtl8192cu_xmitframe_complete`, from the first frame on and with those that wait in its
station's queue. That station is the one of `pkt_attrib`. -/
def rtl8192cuXmitframeComplete (psta : TxSta) (first : TxFrame) (waiting : List TxFrame)
    (buffer : List U8) : Option Transfer := do
  let state ← placeFirst stale priv bulkSize (some psta) first buffer
  let attrib := (state.placed.head?.map fun placed => placed.coalesced.attrib).getD first.attrib
  let state ← aggregateFrames stale priv bulkSize usbTxAggDescNum txdesc waiting state
  finishTransfer bulkSize txdesc attrib state

variable {stale priv bulkSize usbTxAggDescNum txdesc}

structure PlacedNext (stale : U16) (priv : TxPriv) (txdesc : TxAttrib → Nat → Nat → Vector U8 32)
    (frame : TxFrame) (state : Aggregation) (coalesced : Coalesced) (next : Aggregation) : Prop where
  ran : xmitframeCoalesce stale priv state.psta frame.attrib (some state.pbuf) 0 frame.pkt
    state.buffer = some coalesced
  psta : next.psta = coalesced.psta
  buffer : overwrite coalesced.buffer state.pbuf
    (txdesc coalesced.attrib coalesced.attrib.lastTxcmdsz 0).toList = some next.buffer
  pbufTail : next.pbufTail = state.pbuf + (xmitframeNeedLength frame.attrib + txdescSize)
  pbuf : next.pbuf = rnd8 next.pbufTail
  placed : next.placed = state.placed ++ [⟨frame, state.pbuf, 0, coalesced⟩]

theorem placeNext_some {frame : TxFrame} {state next : Aggregation} {goesOn : Bool}
    (ran : placeNext stale priv bulkSize usbTxAggDescNum txdesc frame state = some (next, goesOn)) :
    ∃ coalesced, PlacedNext stale priv txdesc frame state coalesced next := by
  simp only [placeNext, Option.bind_eq_bind, Option.bind_eq_some_iff] at ran
  obtain ⟨coalesced, coalesce, buffer, wrote, ran⟩ := ran
  refine ⟨coalesced, ?_⟩
  split at ran
  · cases ran
    exact ⟨coalesce, rfl, wrote, rfl, rfl, rfl⟩
  · split at ran
    · cases ran
      exact ⟨coalesce, rfl, wrote, rfl, rfl, rfl⟩
    · cases ran
      exact ⟨coalesce, rfl, wrote, rfl, rfl, rfl⟩

theorem aggregateFrames_induction {kept : Aggregation → Prop} {frames : List TxFrame} {state result : Aggregation}
    (step : ∀ frame ∈ frames, ∀ state coalesced next,
      PlacedNext stale priv txdesc frame state coalesced next → kept state → kept next)
    (begins : kept state)
    (ran : aggregateFrames stale priv bulkSize usbTxAggDescNum txdesc frames state = some result) :
    kept result := by
  induction frames generalizing state with
  | nil =>
    cases ran
    exact begins
  | cons frame rest ih =>
    have later := fun other member => step other (List.mem_cons_of_mem frame member)
    rw [aggregateFrames] at ran
    split at ran
    · exact ih later begins ran
    · split at ran
      · cases ran
        exact begins
      · simp only [Option.bind_eq_bind, Option.bind_eq_some_iff] at ran
        obtain ⟨⟨next, goesOn⟩, place, ran⟩ := ran
        obtain ⟨coalesced, placed⟩ := placeNext_some place
        have after := step frame (List.mem_cons_self ..) state coalesced next placed begins
        dsimp only at ran
        split at ran
        · exact ih later after ran
        · cases ran
          exact after

theorem rnd8_ge (sz : Nat) : sz ≤ rnd8 sz := by
  unfold rnd8
  split <;> omega

theorem rnd8_mod (sz : Nat) : rnd8 sz % 8 = 0 := Nat.mul_mod_left ..

end Aggregate

end Floid.Wifi
