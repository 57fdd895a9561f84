import Floid.Wifi.UsbReceive

namespace Floid.Wifi

open Osk Lib
open Option (some.inj)

namespace UsbTransfer

variable (t : UsbTransfer)

/-- The bytes copied lie in the skb, and so does what lies between `rx_head` and `rx_end`. -/
structure Inside (frame : ReceivedFrame) : Prop where
  copy : ∀ count, frame.copied = some count → frame.rxHead + count ≤ frame.base + frame.room
  head : frame.base ≤ frame.rxHead
  tail : frame.rxEnd ≤ frame.base + frame.room

def MadeOf : List (List U8) → Nat → Prop
  | [], _ => False
  | packet :: rest, pos =>
      packet ≠ [] ∧ t.pktLen pos = packet.length ∧ pos + t.pktOffset pos ≤ t.len ∧
        t.bytesAt (pos + (t.drvinfoSz pos + rxdescSize)) packet.length = packet ∧
        (rest = [] ∧ t.len ≤ pos + t.padded pos ∨ pos + t.padded pos < t.len ∧ MadeOf rest (pos + t.padded pos))

def Available (count : Nat) : Prop :=
  ∀ index < count, t.allocRecvframe index = true ∧ ∀ size, (t.netdevAllocSkb index size).isSome = true

def received : List ReceivedFrame := t.visits.filterMap Visit.frame

structure TakenApart : Prop where
  terminates : ∀ fuel, t.len < fuel → t.recvbuf2recvframe fuel = some t.visits
  inTransfer : ∀ visit ∈ t.visits, ∀ read ∈ t.reads visit, read.2 ≤ t.len
  inside : ∀ frame ∈ t.received, Inside frame
  exact_ : ∀ packets, t.MadeOf packets 0 → t.Available packets.length →
    t.received.map ReceivedFrame.data = packets

def RoomFor (index pos : Nat) : Prop :=
  match t.netdevAllocSkb index (t.allocSz pos) with
  | some skb =>
      t.reserved skb pos + t.allocSz pos ≤ skb.room ∧
        (t.FirstFragment pos → t.reserved skb pos + t.pktOffset pos ≤ skb.room)
  | none => pos + t.allocSz pos ≤ t.room

def Counted : List (List U8) → Nat → Nat → Prop
  | [], _, _ => True
  | _ :: rest, pos, pktCnt =>
      (t.FirstFragment pos → t.pktOffset pos ≤ 1664) ∧
        (rest = [] ∨ 0 < t.nextCount pos pktCnt ∧ Counted rest (pos + t.padded pos) (t.nextCount pos pktCnt))

structure Suitable : Prop where
  descriptor : ∀ visit ∈ t.visits, 12 ≤ visit.remaining
  status : ∀ visit ∈ t.visits, visit.frame.isSome = true → t.drvinfoSz visit.pos ≠ 0 →
    t.physt visit.pos = true → rxdescSize + t.statusRead visit.pos ≤ visit.remaining
  room : ∀ visit ∈ t.visits, visit.frame.isSome = true → t.RoomFor visit.index visit.pos
  counted : ∀ packets, t.MadeOf packets 0 → t.Available packets.length → t.Counted packets 0 (t.pktCnt 0)

theorem le_rnd128 (sz : Nat) : sz ≤ rnd128 sz := by
  unfold rnd128
  split <;> omega

theorem rnd128_lt (sz : Nat) : rnd128 sz < sz + 128 := by
  unfold rnd128
  split <;> omega

theorem le_rnd4 (sz : Nat) : sz ≤ rnd4 sz := by
  unfold rnd4
  split <;> omega

theorem rnd4_lt (sz : Nat) : rnd4 sz < sz + 4 := by
  unfold rnd4
  split <;> omega

theorem pktOffset_le (pos : Nat) : t.pktOffset pos ≤ 16527 := by
  have len : t.pktLen pos < 2 ^ 14 := Nat.mod_lt _ (by decide)
  have info : t.rxdw pos 0 / 2 ^ 16 % 2 ^ 4 < 2 ^ 4 := Nat.mod_lt _ (by decide)
  unfold pktOffset drvinfoSz rxdescSize
  omega

theorem pktOffset_pos (pos : Nat) : 0 < t.pktOffset pos := Nat.lt_add_left _ (by decide)

theorem pktOffset_le_padded (pos : Nat) : t.pktOffset pos ≤ t.padded pos := by
  have small := t.pktOffset_le pos
  have four : rnd4 (t.pktOffset pos) % 2 ^ 16 = rnd4 (t.pktOffset pos) :=
    Nat.mod_eq_of_lt (by have := rnd4_lt (t.pktOffset pos); omega)
  have wide : rnd128 (t.pktOffset pos) % 2 ^ 16 = rnd128 (t.pktOffset pos) :=
    Nat.mod_eq_of_lt (by have := rnd128_lt (t.pktOffset pos); omega)
  unfold padded
  cases t.usbRxAggMode with
  | disable => exact Nat.le_refl _
  | usb => exact (le_rnd4 _).trans four.ge
  | dma | mix => exact (le_rnd128 _).trans wide.ge

theorem padded_pos (pos : Nat) : 0 < t.padded pos :=
  (t.pktOffset_pos pos).trans_le (t.pktOffset_le_padded pos)

theorem reserved_le (skb : Skb) (pos : Nat) : t.reserved skb pos ≤ 14 := by
  unfold reserved shiftSz
  split <;> omega

theorem place_spec (index pos : Nat) : (t.place index pos).rxData = (t.place index pos).rxHead ∧
      (t.place index pos).rxTail = (t.place index pos).rxHead ∧
      (t.place index pos).rxEnd = (t.place index pos).rxHead + t.allocSz pos ∧
      (t.place index pos).len = 0 ∧ (t.place index pos).bytes = t.bytesAt pos (t.pktOffset pos) := by
  unfold place
  cases t.netdevAllocSkb index (t.allocSz pos) with
  | some skb => exact ⟨rfl, rfl, rfl, rfl, rfl⟩
  | none => exact ⟨rfl, rfl, rfl, rfl, rfl⟩

theorem put_frame (frame : ReceivedFrame) (sz : Nat) :
    (frame.put sz).base = frame.base ∧ (frame.put sz).room = frame.room ∧
      (frame.put sz).rxHead = frame.rxHead ∧ (frame.put sz).rxEnd = frame.rxEnd ∧
      (frame.put sz).copied = frame.copied := by
  unfold ReceivedFrame.put
  split <;> exact ⟨rfl, rfl, rfl, rfl, rfl⟩

theorem pull_frame (frame : ReceivedFrame) (sz : Nat) :
    (frame.pull sz).base = frame.base ∧ (frame.pull sz).room = frame.room ∧
      (frame.pull sz).rxHead = frame.rxHead ∧ (frame.pull sz).rxEnd = frame.rxEnd ∧
      (frame.pull sz).copied = frame.copied := by
  unfold ReceivedFrame.pull
  split <;> exact ⟨rfl, rfl, rfl, rfl, rfl⟩

theorem receive_inside (index pos : Nat) : Inside (t.receive index pos) ↔ Inside (t.place index pos) := by
  obtain ⟨base, room, head, end_, copied⟩ := put_frame (t.place index pos) (t.pktOffset pos)
  obtain ⟨base', room', head', end', copied'⟩ :=
    pull_frame ((t.place index pos).put (t.pktOffset pos)) (t.drvinfoSz pos + rxdescSize)
  have base := base'.trans base
  have room := room'.trans room
  have head := head'.trans head
  have end_ := end'.trans end_
  have copied := copied'.trans copied
  unfold receive
  constructor
  · rintro ⟨copy, low, high⟩
    rw [base, room, head] at copy
    rw [base, head] at low
    rw [base, room, end_] at high
    rw [copied] at copy
    exact ⟨copy, low, high⟩
  · rintro ⟨copy, low, high⟩
    refine ⟨?_, ?_, ?_⟩
    · rw [base, room, head, copied]
      exact copy
    · rw [base, head]
      exact low
    · rw [base, room, end_]
      exact high

theorem place_inside (index pos : Nat) : Inside (t.place index pos) ↔ t.RoomFor index pos := by
  unfold place RoomFor
  cases found : t.netdevAllocSkb index (t.allocSz pos) with
  | none =>
    constructor
    · rintro ⟨_, _, tail⟩
      simpa using tail
    · intro room
      exact ⟨fun _ copied => (nomatch copied), Nat.zero_le _, by simpa using room⟩
  | some skb =>
    have asked := t.allocRoom index _ skb found
    have reserve := t.reserved_le skb pos
    dsimp only
    constructor
    · rintro ⟨copy, _, tail⟩
      have copied := copy _ rfl
      dsimp only at copied tail
      exact ⟨by omega, fun _ => by omega⟩
    · rintro ⟨room, first⟩
      refine ⟨fun count copied => ?_, ?_, ?_⟩
      · obtain rfl := some.inj copied
        dsimp only
        by_cases fragment : t.FirstFragment pos
        · have := first fragment
          omega
        · rw [allocSz, if_neg fragment] at asked
          omega
      · exact Nat.le_add_right _ _
      · dsimp only
        omega

theorem bytesAt_drop_take {pos front count total : Nat} (whole : total = front + count) :
    ((t.bytesAt pos total).drop front).take count = t.bytesAt (pos + front) count := by
  unfold bytesAt
  apply List.ext_getElem
  · simp only [List.length_take, List.length_drop, List.length_map, List.length_range]
    omega
  · intro index _ _
    simp only [List.getElem_take, List.getElem_drop, List.getElem_map, List.getElem_range, Nat.add_assoc]

theorem receive_data (index pos : Nat) : (t.receive index pos).data =
      if t.pktOffset pos ≤ t.allocSz pos then
        t.bytesAt (pos + (t.drvinfoSz pos + rxdescSize)) (t.pktLen pos)
      else [] := by
  obtain ⟨data, tail, end_, len, bytes⟩ := t.place_spec index pos
  have offset : t.pktOffset pos = t.drvinfoSz pos + rxdescSize + t.pktLen pos := by
    unfold pktOffset
    omega
  by_cases fits : t.pktOffset pos ≤ t.allocSz pos
  · have put : (t.place index pos).put (t.pktOffset pos) =
        { t.place index pos with
          rxTail := (t.place index pos).rxTail + t.pktOffset pos
          len := (t.place index pos).len + t.pktOffset pos } := by
      unfold ReceivedFrame.put
      rw [if_neg (by rw [end_, tail]; omega)]
    have pulled : (t.receive index pos).rxData = (t.place index pos).rxHead + (t.drvinfoSz pos + rxdescSize) ∧
        (t.receive index pos).len = t.pktLen pos ∧
        (t.receive index pos).rxHead = (t.place index pos).rxHead ∧
        (t.receive index pos).bytes = t.bytesAt pos (t.pktOffset pos) := by
      unfold receive ReceivedFrame.pull
      rw [put, if_neg (by dsimp only; rw [data, tail]; omega)]
      dsimp only
      exact ⟨by rw [data], by rw [len]; omega, rfl, bytes⟩
    rw [if_pos fits, ReceivedFrame.data, pulled.1, pulled.2.1, pulled.2.2.1, pulled.2.2.2, Nat.add_sub_cancel_left]
    exact t.bytesAt_drop_take offset
  · have put : (t.place index pos).put (t.pktOffset pos) = t.place index pos := by
      unfold ReceivedFrame.put
      rw [if_pos (by rw [end_, tail]; omega)]
    have pull : t.receive index pos = t.place index pos := by
      unfold receive
      rw [put]
      unfold ReceivedFrame.pull
      rw [if_pos (by rw [data, tail]; unfold rxdescSize; omega)]
    rw [if_neg fits, pull, ReceivedFrame.data, len, List.take_zero]

theorem recvLoop_enough {fuel more pos remaining pktCnt index : Nat} (enough : remaining < fuel)
    (moreEnough : remaining < more) :
    ∃ visits, t.recvLoop fuel pos remaining pktCnt index = some visits ∧
      t.recvLoop more pos remaining pktCnt index = some visits := by
  induction fuel generalizing more pos remaining pktCnt index with
  | zero => exact absurd enough (Nat.not_lt_zero _)
  | succ fuel ih =>
    obtain ⟨more, rfl⟩ : ∃ less, more = less + 1 := ⟨more - 1, by omega⟩
    simp only [recvLoop]
    split
    · exact ⟨_, rfl, rfl⟩
    · split
      · have step := t.padded_pos pos
        obtain ⟨visits, found, same⟩ := @ih more (pos + t.padded pos) (remaining - t.padded pos)
          (t.nextCount pos pktCnt) (index + 1) (by omega) (by omega)
        exact ⟨_, by rw [found]; rfl, by rw [same]; rfl⟩
      · exact ⟨_, rfl, rfl⟩

structure Round (visit : Visit) : Prop where
  place : visit.pos + visit.remaining = t.len
  frame : ∀ frame, visit.frame = some frame →
    frame = t.receive visit.index visit.pos ∧ t.pktOffset visit.pos ≤ visit.remaining

theorem recvLoop_round {fuel pos remaining pktCnt index : Nat} {visits : List Visit}
    (ran : t.recvLoop fuel pos remaining pktCnt index = some visits) (place : pos + remaining = t.len) :
    ∀ visit ∈ visits, t.Round visit := by
  induction fuel generalizing pos remaining pktCnt index visits with
  | zero => cases ran
  | succ fuel ih =>
    simp only [recvLoop] at ran
    split at ran
    · obtain rfl := some.inj ran
      intro visit member
      obtain rfl := List.mem_singleton.mp member
      exact ⟨place, fun _ none_ => (nomatch none_)⟩
    · rename_i accepted
      have inside : t.pktOffset pos ≤ remaining := by
        by_contra outside
        exact accepted (.inr (.inl (not_le.mp outside)))
      have first : t.Round ⟨pos, remaining, index, some (t.receive index pos)⟩ :=
        ⟨place, fun _ same => ⟨(some.inj same).symm, inside⟩⟩
      split at ran
      · obtain ⟨rest, later, rfl⟩ := Option.map_eq_some_iff.mp ran
        intro visit member
        rcases List.mem_cons.mp member with rfl | member
        · exact first
        · exact ih later (by omega) visit member
      · obtain rfl := some.inj ran
        intro visit member
        obtain rfl := List.mem_singleton.mp member
        exact first

theorem recvLoop_madeOf {packets : List (List U8)} {fuel pos pktCnt index : Nat}
    (made : t.MadeOf packets pos) (enough : t.len - pos < fuel)
    (frames : ∀ later < index + packets.length, index ≤ later → t.allocRecvframe later = true) :
    ∃ visits, t.recvLoop fuel pos (t.len - pos) pktCnt index = some visits ∧
      ((visits.filterMap Visit.frame).map ReceivedFrame.data = packets ↔ t.Counted packets pos pktCnt) := by
  induction packets generalizing fuel pos pktCnt index with
  | nil => exact made.elim
  | cons packet rest ih =>
    obtain ⟨nonempty, length, inside, bytes, ends⟩ := made
    obtain ⟨fuel, rfl⟩ : ∃ less, fuel = less + 1 := ⟨fuel - 1, by omega⟩
    have accepted : ¬(t.pktLen pos = 0 ∨ t.len - pos < t.pktOffset pos ∨ t.allocRecvframe index = false) := by
      rintro (empty | short | missing)
      · rw [length] at empty
        exact nonempty (List.length_eq_zero_iff.mp empty)
      · omega
      · rw [frames index (by rw [List.length_cons]; omega) (Nat.le_refl _)] at missing
        cases missing
    have data : (t.receive index pos).data = packet ↔ (t.FirstFragment pos → t.pktOffset pos ≤ 1664) := by
      rw [t.receive_data, length, bytes]
      unfold allocSz
      by_cases first : t.FirstFragment pos
      · rw [if_pos first]
        by_cases fits : t.pktOffset pos ≤ 1664
        · rw [if_pos fits]
          exact ⟨fun _ _ => fits, fun _ => rfl⟩
        · rw [if_neg fits]
          exact ⟨fun same => absurd same.symm nonempty, fun small => absurd (small first) fits⟩
      · rw [if_neg first, if_pos (Nat.le_add_right _ _)]
        exact ⟨fun _ some_ => absurd some_ first, fun _ => rfl⟩
    simp only [recvLoop]
    rw [if_neg accepted]
    rcases ends with ⟨rfl, last⟩ | ⟨more, madeRest⟩
    · rw [if_neg (fun left => by omega)]
      refine ⟨_, rfl, ?_⟩
      simp only [List.filterMap_cons, List.filterMap_nil, List.map_cons, List.map_nil, List.cons.injEq,
        and_true, Counted, true_or]
      exact data
    · have restNonempty : rest ≠ [] := by
        rintro rfl
        exact madeRest
      by_cases counts : 0 < t.nextCount pos pktCnt
      · have step := t.padded_pos pos
        obtain ⟨visits, found, same⟩ := @ih fuel (pos + t.padded pos) (t.nextCount pos pktCnt) (index + 1)
          madeRest (by omega) (fun later below behind => frames later (by rw [List.length_cons]; omega) (by omega))
        rw [if_pos ⟨by omega, counts⟩, show t.len - pos - t.padded pos = t.len - (pos + t.padded pos) by omega, found]
        refine ⟨_, rfl, ?_⟩
        simp only [List.filterMap_cons, List.map_cons, List.cons.injEq, Counted]
        rw [data, same]
        exact ⟨fun ⟨first, later⟩ => ⟨first, .inr ⟨counts, later⟩⟩,
          fun ⟨first, later⟩ => ⟨first, (later.resolve_left restNonempty).2⟩⟩
      · rw [if_neg (fun left => counts left.2)]
        refine ⟨_, rfl, ?_⟩
        simp only [List.filterMap_cons, List.filterMap_nil, List.map_cons, List.map_nil, List.cons.injEq, Counted]
        exact ⟨fun ⟨_, none_⟩ => absurd none_.symm restNonempty,
          fun ⟨_, later⟩ => absurd (later.resolve_left restNonempty).1 counts⟩

theorem recvbuf2recvframe_eq {fuel : Nat} (enough : t.len < fuel) :
    t.recvbuf2recvframe fuel = some t.visits := by
  obtain ⟨visits, found, same⟩ :=
    @recvLoop_enough t fuel (t.len + 1) 0 t.len (t.pktCnt 0) 0 enough (Nat.lt_succ_self _)
  unfold UsbTransfer.visits recvbuf2recvframe
  rw [found, same]
  rfl

theorem visits_round : ∀ visit ∈ t.visits, t.Round visit :=
  t.recvLoop_round (t.recvbuf2recvframe_eq (Nat.lt_succ_self _)) (Nat.zero_add _)

theorem reads_inTransfer {visit : Visit} (round : t.Round visit) : (∀ read ∈ t.reads visit, read.2 ≤ t.len) ↔
      12 ≤ visit.remaining ∧ (visit.frame.isSome = true → t.drvinfoSz visit.pos ≠ 0 →
        t.physt visit.pos = true → rxdescSize + t.statusRead visit.pos ≤ visit.remaining) := by
  have place := round.place
  unfold reads
  cases received : visit.frame with
  | none =>
    simp only [List.mem_singleton, forall_eq, Option.isSome_none, Bool.false_eq_true, false_implies, and_true]
    omega
  | some frame =>
    have inside := (round.frame frame received).2
    have behind : rxdescSize ≤ t.pktOffset visit.pos := Nat.le_add_left _ _
    constructor
    · intro within
      have descriptor := within _ List.mem_cons_self
      refine ⟨by omega, fun _ info physt => ?_⟩
      have status := within (visit.pos + rxdescSize, visit.pos + rxdescSize + t.statusRead visit.pos)
        (List.mem_cons_of_mem _ (List.mem_append_right _ (by
          rw [if_pos ⟨info, physt⟩]
          exact List.mem_singleton_self _)))
      omega
    · intro ⟨descriptor, status⟩ read member
      rcases List.mem_cons.mp member with rfl | member
      · dsimp only
        omega
      · rcases List.mem_append.mp member with member | member
        · rcases List.mem_pair.mp member with rfl | rfl
          · dsimp only
            omega
          · dsimp only
            omega
        · split at member
          · rename_i present
            have := status rfl present.1 present.2
            obtain rfl := List.mem_singleton.mp member
            dsimp only
            omega
          · cases member

theorem received_inside : (∀ frame ∈ t.received, Inside frame) ↔
      ∀ visit ∈ t.visits, visit.frame.isSome = true → t.RoomFor visit.index visit.pos := by
  constructor
  · intro inside visit member some_
    obtain ⟨frame, received⟩ := Option.isSome_iff_exists.mp some_
    have lies := inside frame (List.mem_filterMap.mpr ⟨visit, member, received⟩)
    rw [((t.visits_round visit member).frame frame received).1] at lies
    exact (t.place_inside _ _).mp ((t.receive_inside _ _).mp lies)
  · intro room frame member
    obtain ⟨visit, visited, received⟩ := List.mem_filterMap.mp member
    rw [((t.visits_round visit visited).frame frame received).1]
    exact (t.receive_inside _ _).mpr ((t.place_inside _ _).mpr
      (room visit visited (Option.isSome_iff_exists.mpr ⟨frame, received⟩)))

theorem received_madeOf {packets : List (List U8)} (made : t.MadeOf packets 0)
    (available : t.Available packets.length) :
    t.received.map ReceivedFrame.data = packets ↔ t.Counted packets 0 (t.pktCnt 0) := by
  obtain ⟨visits, found, same⟩ :=
    @recvLoop_madeOf t packets (t.len + 1) 0 (t.pktCnt 0) 0 made (Nat.lt_succ_self t.len)
      (fun later below _ => (available later (by omega)).1)
  have ran : some t.visits = some visits :=
    (t.recvbuf2recvframe_eq (Nat.lt_succ_self t.len)).symm.trans found
  unfold received
  rw [some.inj ran]
  exact same

end UsbTransfer

def longFragment : UsbTransfer where
  memory offset := if offset = 0 then 0xB8 else if offset = 1 then 0x07 else if offset = 7 then 0x08
    else if offset = 10 then 1 else 0
  len := 2000
  room := 15360
  usbRxAggMode := .disable
  numTotalRFPath := 2
  allocRecvframe _ := true
  netdevAllocSkb _ size := some ⟨0, size + 64⟩
  atLeast := by decide
  atMost := by decide
  inRoom := by decide
  allocRoom _ _ _ same := by
    obtain rfl := some.inj same
    exact Nat.le_add_right _ _

end Floid.Wifi
