import Floid.Wifi.XmitBuilt

namespace Floid.Wifi

open Osk Lib
open List (countP_cons mem_append mem_singleton)
open Option (bind_eq_bind bind_eq_some_iff pure_def)

structure AggregationPlan where
  frames : List TxFrame
  starts : List Nat
  pbuf : Nat
  pbufTail : Nat
  descCount : Nat
  bulkPtr : Nat

section Plan

variable (bulkSize usbTxAggDescNum : Nat)

def planFirst (frame : TxFrame) : AggregationPlan :=
  let pbufTail := xmitframeNeedLength frame.attrib + txdescOffset
  let pbuf := rnd8 pbufTail
  { frames := [frame]
    starts := [0]
    pbuf
    pbufTail
    descCount := if pbuf < bulkSize then 1 else 0
    bulkPtr := if pbuf < bulkSize then bulkSize else nextBulk bulkSize pbuf }

def planNext (frame : TxFrame) (plan : AggregationPlan) : AggregationPlan × Bool :=
  let pbufTail := plan.pbuf + (xmitframeNeedLength frame.attrib + txdescSize)
  let pbuf := rnd8 pbufTail
  let next : AggregationPlan :=
    { plan with frames := plan.frames ++ [frame], starts := plan.starts ++ [plan.pbuf], pbuf, pbufTail }
  if next.frames.length = maxTxAggPacketNumber then (next, false)
  else if pbuf < plan.bulkPtr then
    ({ next with descCount := plan.descCount + 1 }, plan.descCount + 1 ≠ usbTxAggDescNum)
  else ({ next with descCount := 0, bulkPtr := nextBulk bulkSize pbuf }, true)

def planFrames : List TxFrame → AggregationPlan → AggregationPlan
  | [], plan => plan
  | frame :: rest, plan =>
      if frame.sleeping then planFrames rest plan
      else if maxXmitbufSz < plan.pbuf + (xmitframeNeedLength frame.attrib + txdescSize) then plan
      else
        let (plan, goesOn) := planNext bulkSize usbTxAggDescNum frame plan
        if goesOn then planFrames rest plan else plan

def planTransfer (first : TxFrame) (waiting : List TxFrame) : AggregationPlan :=
  planFrames bulkSize usbTxAggDescNum waiting (planFirst bulkSize first)

end Plan

def Aggregation.plan (state : Aggregation) : AggregationPlan where
  frames := state.placed.map PlacedFrame.frame
  starts := state.placed.map PlacedFrame.start
  pbuf := state.pbuf
  pbufTail := state.pbufTail
  descCount := state.descCount
  bulkPtr := state.bulkPtr

section Follows

variable {stale : U16} {priv : TxPriv} {bulkSize usbTxAggDescNum : Nat}
  {txdesc : TxAttrib → Nat → Nat → Vector U8 32}

variable {buffer : List U8} {first : TxFrame} {state : Aggregation}

theorem placeFirst_plan {known : Option TxSta} (prepared : first.Prepared)
    (ran : placeFirst stale priv bulkSize known first buffer = some state) :
    state.plan = planFirst bulkSize first ∧ state.aggNum = state.placed.length := by
  simp only [placeFirst, bind_eq_bind, bind_eq_some_iff, pure_def, Option.some.injEq] at ran
  obtain ⟨coalesced, coalesce, rfl⟩ := ran
  have need := xmitframeNeedLength_coalesced prepared coalesce
  simp only [Aggregation.plan, planFirst, need]
  exact ⟨rfl, rfl⟩

theorem placeNext_plan {frame : TxFrame} {next : Aggregation} {goesOn : Bool}
    (counted : state.aggNum = state.placed.length)
    (ran : placeNext stale priv bulkSize usbTxAggDescNum txdesc frame state = some (next, goesOn)) :
    planNext bulkSize usbTxAggDescNum frame state.plan = (next.plan, goesOn) ∧
      next.aggNum = next.placed.length := by
  simp only [placeNext, bind_eq_bind, bind_eq_some_iff] at ran
  obtain ⟨coalesced, _, buffer, _, ran⟩ := ran
  have length : (state.placed.map PlacedFrame.frame ++ [frame]).length = state.aggNum + 1 := by
    rw [counted, List.length_append, List.length_map, List.length_singleton]
  simp only [planNext, Aggregation.plan, length]
  split at ran
  · rename_i full
    cases ran
    rw [if_pos full]
    simp [counted]
  · rename_i room
    rw [if_neg room]
    split at ran
    · rename_i within
      cases ran
      refine ⟨(if_pos within).trans ?_, ?_⟩
      · simp only [List.map_append, List.map_singleton]
        rfl
      · simp [counted]
    · rename_i beyond
      cases ran
      refine ⟨(if_neg beyond).trans ?_, ?_⟩
      · simp only [List.map_append, List.map_singleton]
      · simp [counted]

theorem aggregateFrames_plan {frames : List TxFrame} {result : Aggregation}
    (counted : state.aggNum = state.placed.length)
    (ran : aggregateFrames stale priv bulkSize usbTxAggDescNum txdesc frames state = some result) :
    result.plan = planFrames bulkSize usbTxAggDescNum frames state.plan ∧
      result.aggNum = result.placed.length := by
  induction frames generalizing state with
  | nil =>
    cases ran
    exact ⟨rfl, counted⟩
  | cons frame rest ih =>
    rw [aggregateFrames] at ran
    rw [planFrames]
    split at ran
    · rename_i sleeping
      rw [if_pos sleeping]
      exact ih counted ran
    · rename_i awake
      rw [if_neg awake]
      split at ran
      · rename_i full
        cases ran
        exact ⟨(if_pos full).symm, counted⟩
      · rename_i room
        simp only [bind_eq_bind, bind_eq_some_iff] at ran
        obtain ⟨⟨next, goesOn⟩, place, ran⟩ := ran
        obtain ⟨planned, counted⟩ := placeNext_plan counted place
        have room_ : ¬ maxXmitbufSz < state.plan.pbuf + (xmitframeNeedLength frame.attrib + txdescSize) :=
          room
        rw [if_neg room_, planned]
        dsimp only at ran ⊢
        split at ran
        · rename_i on
          rw [if_pos on]
          exact ih counted ran
        · rename_i stop
          cases ran
          exact ⟨(if_neg stop).symm, counted⟩

theorem rtl8192cuXmitframeComplete_plan {psta : TxSta} {waiting : List TxFrame}
    {transfer : Transfer} (prepared : first.Prepared)
    (ran : rtl8192cuXmitframeComplete stale priv bulkSize usbTxAggDescNum txdesc psta first waiting
      buffer = some transfer) :
    ∃ plan, plan = planTransfer bulkSize usbTxAggDescNum first waiting ∧
      transfer.placed.map PlacedFrame.frame = plan.frames ∧
      transfer.placed.map PlacedFrame.start = plan.starts ∧
      transfer.aggNum = transfer.placed.length ∧
      transfer.start = (if plan.pbufTail % bulkSize = 0 then packetOffsetSz else 0) ∧
      transfer.length = plan.pbufTail - transfer.start := by
  simp only [rtl8192cuXmitframeComplete, bind_eq_bind, bind_eq_some_iff] at ran
  obtain ⟨begins, place, state, aggregated, finish⟩ := ran
  obtain ⟨planned, counted⟩ := placeFirst_plan prepared place
  obtain ⟨planned_, counted_⟩ := aggregateFrames_plan counted aggregated
  simp only [finishTransfer, bind_eq_bind, bind_eq_some_iff, pure_def, Option.some.injEq] at finish
  obtain ⟨sent, _, rfl⟩ := finish
  refine ⟨state.plan, ?_, rfl, rfl, counted_, rfl, ?_⟩
  · rw [planned_, planned]
    rfl
  · dsimp only [Aggregation.plan]
    split <;> rfl

end Follows

section Blocks

variable {bulkSize usbTxAggDescNum : Nat}

def inBlock (bulkSize : Nat) (starts : List Nat) (block : Nat) : Nat :=
  starts.countP fun start => start / bulkSize = block

structure AggregationPlan.Counted (bulkSize usbTxAggDescNum : Nat) (plan : AggregationPlan) : Prop where
  pbuf : plan.pbuf = rnd8 plan.pbufTail
  first : ∃ later, plan.starts = 0 :: later ∧ ∀ start ∈ later, txdescOffset ≤ start
  ascending : plan.starts.Pairwise (· < ·)
  aligned : ∀ start ∈ plan.starts, start % 8 = 0
  before : ∀ start ∈ plan.starts, start + txdescOffset ≤ plan.pbufTail
  blocks : ∀ block, inBlock bulkSize plan.starts block ≤ usbTxAggDescNum
  fits : plan.pbufTail ≤ maxXmitbufSz ∨ plan.starts = [0]

structure AggregationPlan.Going (bulkSize usbTxAggDescNum : Nat) (plan : AggregationPlan) : Prop
    extends plan.Counted bulkSize usbTxAggDescNum where
  bulkPtr : plan.bulkPtr = nextBulk bulkSize plan.pbuf
  descCount : plan.descCount = inBlock bulkSize plan.starts (plan.pbuf / bulkSize)
  room : plan.descCount < usbTxAggDescNum

theorem inBlock_append (starts : List Nat) (start block : Nat) : inBlock bulkSize (starts ++ [start]) block =
      inBlock bulkSize starts block + if start / bulkSize = block then 1 else 0 := by
  simp [inBlock, List.countP_append, countP_cons]

variable {starts : List Nat} {plan : AggregationPlan} {frames : List TxFrame}

theorem inBlock_eq_zero {block : Nat}
    (before : ∀ start ∈ starts, start / bulkSize < block) : inBlock bulkSize starts block = 0 := by
  refine List.countP_eq_zero.mpr fun start member here => ?_
  have behind := before start member
  rw [of_decide_eq_true here] at behind
  exact Nat.lt_irrefl _ behind

theorem planFirst_counted (frame : TxFrame) (some_ : 1 ≤ usbTxAggDescNum) :
    (planFirst bulkSize frame).Counted bulkSize usbTxAggDescNum := by
  constructor
  case pbuf => rfl
  case first => exact ⟨[], rfl, by simp⟩
  case ascending => exact List.pairwise_singleton ..
  case aligned =>
    intro start member
    rw [mem_singleton.mp member]
  case before =>
    intro start member
    rw [mem_singleton.mp member]
    change 0 + txdescOffset ≤ xmitframeNeedLength frame.attrib + txdescOffset
    omega
  case blocks =>
    intro block
    exact Nat.le_trans List.countP_le_length some_
  case fits => exact .inr rfl

theorem planFirst_going (frame : TxFrame) (bulk : 0 < bulkSize) (several : 2 ≤ usbTxAggDescNum) :
    (planFirst bulkSize frame).Going bulkSize usbTxAggDescNum := by
  have counted := @planFirst_counted bulkSize _ frame (Nat.le_of_succ_le several)
  simp only [planFirst] at counted ⊢
  generalize rnd8 (xmitframeNeedLength frame.attrib + txdescOffset) = pbuf at counted ⊢
  by_cases within : pbuf < bulkSize
  · refine ⟨counted, ?_, ?_, ?_⟩
    · simp only [if_pos within, nextBulk, Nat.div_eq_of_lt within, Nat.zero_add, Nat.one_mul]
    · simp [within, inBlock, Nat.div_eq_of_lt within]
    · simp only [if_pos within]
      exact several
  · have beyond : 0 < pbuf / bulkSize := Nat.div_pos (Nat.not_lt.mp within) bulk
    refine ⟨counted, ?_, ?_, ?_⟩
    · simp only [if_neg within]
    · simp only [if_neg within]
      rw [inBlock_eq_zero]
      simpa using beyond
    · simp only [if_neg within]
      omega

theorem AggregationPlan.Going.counted_next (going : plan.Going bulkSize usbTxAggDescNum) (frame : TxFrame)
    (fits : plan.pbuf + (xmitframeNeedLength frame.attrib + txdescSize) ≤ maxXmitbufSz)
    (descCount bulkPtr : Nat) :
    AggregationPlan.Counted bulkSize usbTxAggDescNum {
      frames := plan.frames ++ [frame]
      starts := plan.starts ++ [plan.pbuf]
      pbuf := rnd8 (plan.pbuf + (xmitframeNeedLength frame.attrib + txdescSize))
      pbufTail := plan.pbuf + (xmitframeNeedLength frame.attrib + txdescSize)
      descCount
      bulkPtr } := by
  have behind := rnd8_ge plan.pbufTail
  have whole := rnd8_mod plan.pbufTail
  rw [← going.pbuf] at behind whole
  have room : txdescOffset ≤ xmitframeNeedLength frame.attrib + txdescSize := by
    unfold xmitframeNeedLength txdescOffset packetOffsetSz
    omega
  obtain ⟨later, starts, far⟩ := going.first
  have begins : txdescOffset ≤ plan.pbuf := by
    have zero := going.before 0 (by rw [starts]; exact List.mem_cons_self ..)
    omega
  constructor
  case pbuf => rfl
  case first =>
    refine ⟨later ++ [plan.pbuf], by simp [starts], fun start member => ?_⟩
    rcases mem_append.mp member with earlier | last
    · exact far start earlier
    · rw [mem_singleton.mp last]
      exact begins
  case ascending =>
    refine List.pairwise_append.mpr ⟨going.ascending, List.pairwise_singleton .., ?_⟩
    intro start earlier last member
    rw [mem_singleton.mp member]
    have before := going.before start earlier
    have offset : txdescOffset = 40 := rfl
    omega
  case aligned =>
    intro start member
    rcases mem_append.mp member with earlier | last
    · exact going.aligned start earlier
    · rw [mem_singleton.mp last]
      exact whole
  case before =>
    intro start member
    dsimp only
    rcases mem_append.mp member with earlier | last
    · have before := going.before start earlier
      omega
    · rw [mem_singleton.mp last]
      omega
  case blocks =>
    intro block
    dsimp only
    rw [inBlock_append]
    have few := going.blocks block
    split
    · rename_i here
      have counted := going.descCount
      have room := going.room
      rw [here] at counted
      omega
    · exact few
  case fits => exact .inl fits

theorem AggregationPlan.Going.next (bulk : 0 < bulkSize)
    (going : plan.Going bulkSize usbTxAggDescNum) (frame : TxFrame)
    (fits : plan.pbuf + (xmitframeNeedLength frame.attrib + txdescSize) ≤ maxXmitbufSz) :
    (planNext bulkSize usbTxAggDescNum frame plan).1.Counted bulkSize usbTxAggDescNum ∧
      ((planNext bulkSize usbTxAggDescNum frame plan).2 = true →
        (planNext bulkSize usbTxAggDescNum frame plan).1.Going bulkSize usbTxAggDescNum) := by
  have counted := going.counted_next frame fits
  have counts := going.descCount
  have room := going.room
  have end_ := going.bulkPtr
  have after : plan.pbuf ≤ rnd8 (plan.pbuf + (xmitframeNeedLength frame.attrib + txdescSize)) :=
    Nat.le_trans (Nat.le_add_right ..) (rnd8_ge _)
  unfold planNext
  generalize plan.pbuf + (xmitframeNeedLength frame.attrib + txdescSize) = pbufTail at *
  dsimp only
  split
  · exact ⟨counted _ _, fun on => absurd on Bool.false_ne_true⟩
  · split
    · rename_i within
      have same : rnd8 pbufTail / bulkSize = plan.pbuf / bulkSize := by
        rw [end_, nextBulk] at within
        have below := Nat.div_lt_of_lt_mul (Nat.mul_comm .. ▸ within)
        have above := @Nat.div_le_div_right _ _ bulkSize after
        omega
      refine ⟨counted _ _, fun on => ⟨counted _ _, ?_, ?_, ?_⟩⟩
      · dsimp only
        rw [end_, nextBulk, nextBulk, same]
      · dsimp only
        rw [inBlock_append, same, if_pos rfl, counts]
      · have other := of_decide_eq_true on
        dsimp only
        omega
    · rename_i beyond
      refine ⟨counted _ _, fun _ => ⟨counted _ _, rfl, ?_, ?_⟩⟩
      · have next : plan.pbuf / bulkSize < rnd8 pbufTail / bulkSize := by
          rw [end_, nextBulk, Nat.not_lt] at beyond
          exact (Nat.le_div_iff_mul_le bulk).mpr beyond
        refine (inBlock_eq_zero fun start member => ?_).symm
        refine Nat.lt_of_le_of_lt (Nat.div_le_div_right ?_) next
        rcases mem_append.mp member with earlier | last
        · have before := going.before start earlier
          have behind := rnd8_ge plan.pbufTail
          rw [← going.pbuf] at behind
          omega
        · rw [mem_singleton.mp last]
      · dsimp only
        omega

theorem planFrames_counted (bulk : 0 < bulkSize) (going : plan.Going bulkSize usbTxAggDescNum) :
    (planFrames bulkSize usbTxAggDescNum frames plan).Counted bulkSize usbTxAggDescNum := by
  induction frames generalizing plan with
  | nil => exact going.toCounted
  | cons frame rest ih =>
    rw [planFrames]
    split
    · exact ih going
    · split
      · exact going.toCounted
      · rename_i fits
        obtain ⟨counted, on⟩ := going.next bulk frame (Nat.not_lt.mp fits)
        dsimp only
        split
        · rename_i goesOn
          exact ih (on goesOn)
        · exact counted

theorem planFrames_head {first : TxFrame} (begins : plan.frames.head? = some first) :
    (planFrames bulkSize usbTxAggDescNum frames plan).frames.head? = some first := by
  induction frames generalizing plan with
  | nil => exact begins
  | cons frame rest ih =>
    have next : (planNext bulkSize usbTxAggDescNum frame plan).1.frames.head? = some first := by
      unfold planNext
      dsimp only
      split
      · simp [begins]
      · split <;> simp [begins]
    rw [planFrames]
    split
    · exact ih begins
    · split
      · exact begins
      · dsimp only
        split
        · exact ih next
        · exact next

def inShiftedBlock (bulkSize : Nat) (starts : List Nat) (block : Nat) : Nat :=
  starts.countP fun start => start / bulkSize = block ∧ (start = 0 ∨ start % bulkSize ≠ 0)

theorem inBlock_shifted (bulk : bulkSize = 64 ∨ bulkSize = 512)
    (aligned : ∀ start ∈ starts, start % 8 = 0) (block : Nat) :
    inBlock bulkSize (starts.map (· - packetOffsetSz)) block =
      inShiftedBlock bulkSize starts block + starts.count ((block + 1) * bulkSize) := by
  induction starts with
  | nil => rfl
  | cons start rest ih =>
    have here := aligned start (List.mem_cons_self ..)
    have rest_ := ih fun other member => aligned other (List.mem_cons_of_mem _ member)
    unfold inBlock inShiftedBlock at rest_ ⊢
    rw [List.map_cons, countP_cons, countP_cons, List.count_cons, rest_]
    have place : (if (start - packetOffsetSz) / bulkSize = block then 1 else 0) =
        (if start / bulkSize = block ∧ (start = 0 ∨ start % bulkSize ≠ 0) then 1 else 0) +
          if start = (block + 1) * bulkSize then 1 else 0 := by
      unfold packetOffsetSz
      rcases bulk with rfl | rfl <;> split <;> split <;> split <;> omega
    simp only [decide_eq_true_eq, beq_iff_eq, place]
    omega

def AggregationPlan.KeepsBlocks (bulkSize usbTxAggDescNum : Nat) (plan : AggregationPlan) : Prop :=
  plan.pbufTail % bulkSize = 0 → ∀ block, (block + 1) * bulkSize ∈ plan.starts →
    inShiftedBlock bulkSize plan.starts block < usbTxAggDescNum

theorem AggregationPlan.Counted.shifted (bulk : bulkSize = 64 ∨ bulkSize = 512)
    (counted : plan.Counted bulkSize usbTxAggDescNum) :
    (∀ block, inBlock bulkSize (plan.starts.map
        (· - if plan.pbufTail % bulkSize = 0 then packetOffsetSz else 0)) block ≤ usbTxAggDescNum) ↔
      plan.KeepsBlocks bulkSize usbTxAggDescNum := by
  unfold KeepsBlocks
  by_cases removed : plan.pbufTail % bulkSize = 0
  · rw [if_pos removed, imp_iff_right removed]
    refine forall_congr' fun block => ?_
    rw [inBlock_shifted bulk counted.aligned]
    have distinct : plan.starts.Nodup := counted.ascending.imp Nat.ne_of_lt
    have fewer : inShiftedBlock bulkSize plan.starts block ≤ inBlock bulkSize plan.starts block :=
      List.countP_mono_left fun start _ both => decide_eq_true (of_decide_eq_true both).1
    have few := counted.blocks block
    by_cases member : (block + 1) * bulkSize ∈ plan.starts
    · rw [List.count_eq_one_of_mem distinct member, imp_iff_right member]
      rfl
    · rw [List.count_eq_zero_of_not_mem member]
      exact iff_of_true (by omega) fun inside => absurd inside member
  · rw [if_neg removed]
    simp only [Nat.sub_zero, List.map_id']
    exact iff_of_true counted.blocks fun removed_ => absurd removed_ removed

end Blocks

end Floid.Wifi
