import Floid.Wifi.StaTable

/-!
The way of a frame through the transmit queues: from the free queue to who builds it, into a
service queue of its station, and from there to who sends it, or to the sleep queue of the
station. A frame that is taken from a queue is held until it is put into another.
-/

namespace Floid.Wifi.Adapter

open Osk
open Function (update)

variable {Sta Xmit Recv : Type} [DecidableEq Sta] [DecidableEq Xmit]

omit [DecidableEq Sta] [DecidableEq Xmit] in
def allocXmitframe (adapter : Adapter Sta Xmit Recv) : Option Xmit × Adapter Sta Xmit Recv :=
  match adapter.freeXmitQueue with
  | [] => (none, adapter)
  | pxframe :: rest =>
      (some pxframe,
        { adapter with
          freeXmitQueue := rest
          freeXmitframeCnt := adapter.freeXmitframeCnt - 1
          held := pxframe :: adapter.held })

def frameSta (adapter : Adapter Sta Xmit Recv) (pxmitframe : Xmit) : Option Sta :=
  (adapter.attrib pxmitframe).psta <|> adapter.getStainfo (adapter.attrib pxmitframe).ra

def xmitClassifier (adapter : Adapter Sta Xmit Recv) (pxmitframe : Xmit) : Bool × Adapter Sta Xmit Recv :=
  match adapter.frameSta pxmitframe with
  | none => (false, adapter)
  | some psta =>
      let ac := accessCategory (adapter.attrib pxmitframe).priority
      let servq := (adapter.stainfo psta).servq
      let queue := adapter.staQueue ac
      let adapter := adapter.modify psta fun record =>
        { record with
          servq := update servq ac
            ⟨(servq ac).staPending ++ [pxmitframe], (servq ac).qcnt + 1⟩ }
      (true,
        { adapter with
          staQueue := update adapter.staQueue ac
            (if psta ∈ queue then queue else queue ++ [psta])
          accnt := update adapter.accnt ac (adapter.accnt ac + 1)
          held := adapter.held.erase pxmitframe })

def sleepingSta (adapter : Adapter Sta Xmit Recv) (pxmitframe : Xmit) : Option Sta :=
  let attrib := adapter.attrib pxmitframe
  match adapter.frameSta pxmitframe with
  | none => none
  | some psta =>
      if attrib.triggered then none
      else if isMcast attrib.ra then if adapter.staDzBitmap = 0 then none else some psta
      else if (adapter.stainfo psta).asleep ∧
          adapter.staDzBitmap &&& bit (adapter.stainfo psta).aid ≠ 0 then some psta
      else none

def wmmpsAc (record : StaRecord Xmit Recv) (priority flag : U8) : Bool :=
  record.uapsd (accessCategory priority) &&& flag ≠ 0

def xmitframeEnqueueForSleepingSta (adapter : Adapter Sta Xmit Recv) (pxmitframe : Xmit) :
    Option (Adapter Sta Xmit Recv) :=
  match adapter.sleepingSta pxmitframe with
  | none => none
  | some psta =>
      let attrib := adapter.attrib pxmitframe
      let record := adapter.stainfo psta
      let adapter := { adapter with held := adapter.held.erase pxmitframe }
      let adapter := adapter.modify psta fun record =>
        { record with sleepQ := record.sleepQ ++ [pxmitframe], sleepqLen := record.sleepqLen + 1 }
      if isMcast attrib.ra then some { adapter with timBitmap := adapter.timBitmap ||| bit 0 }
      else
        let deliver := wmmpsAc record attrib.priority 1
        let adapter := adapter.modify psta fun record =>
          { record with sleepqAcLen := record.sleepqAcLen + if deliver then 1 else 0 }
        some
          { adapter with
            timBitmap :=
              if record.hasLegacyAc ≠ deliver then adapter.timBitmap ||| bit record.aid
              else adapter.timBitmap }

def unqueue (adapter : Adapter Sta Xmit Recv) (psta : Sta) (ac : AccessCategory) (pxmitframe : Xmit)
    (rest : List Xmit) : Adapter Sta Xmit Recv :=
  let adapter := adapter.modify psta fun record =>
    { record with servq := update record.servq ac ⟨rest, (record.servq ac).qcnt - 1⟩ }
  { adapter with held := pxmitframe :: adapter.held }

def dequeueOneXmitframe (psta : Sta) (ac : AccessCategory) :
    List Xmit → Adapter Sta Xmit Recv → Option Xmit × Adapter Sta Xmit Recv
  | [], adapter => (none, adapter)
  | pxmitframe :: rest, adapter =>
      let adapter := adapter.unqueue psta ac pxmitframe rest
      match adapter.xmitframeEnqueueForSleepingSta pxmitframe with
      | some adapter => dequeueOneXmitframe psta ac rest adapter
      | none => (some pxmitframe, adapter)

def accountDequeued (adapter : Adapter Sta Xmit Recv) (psta : Sta) (ac : AccessCategory) : Adapter Sta Xmit Recv :=
  { adapter with
    accnt := update adapter.accnt ac (adapter.accnt ac - 1)
    staQueue := update adapter.staQueue ac
      (if ((adapter.stainfo psta).servq ac).staPending = [] then unlink psta (adapter.staQueue ac)
      else adapter.staQueue ac) }

def dequeueStas (ac : AccessCategory) : List Sta → Adapter Sta Xmit Recv → Option Xmit × Adapter Sta Xmit Recv
  | [], adapter => (none, adapter)
  | psta :: rest, adapter =>
      match dequeueOneXmitframe psta ac ((adapter.stainfo psta).servq ac).staPending adapter with
      | (some pxmitframe, adapter) => (some pxmitframe, adapter.accountDequeued psta ac)
      | (none, adapter) => dequeueStas ac rest adapter

def dequeueAcs : List AccessCategory → Adapter Sta Xmit Recv → Option Xmit × Adapter Sta Xmit Recv
  | [], adapter => (none, adapter)
  | ac :: rest, adapter =>
      match dequeueStas ac (adapter.staQueue ac) adapter with
      | (some pxmitframe, adapter) => (some pxmitframe, adapter)
      | (none, adapter) => dequeueAcs rest adapter

omit [DecidableEq Sta] [DecidableEq Xmit] in
def exchange (sorted : Vector (Int × AccessCategory) 4) (i j : Fin 4) : Vector (Int × AccessCategory) 4 :=
  if (sorted.get j).1 < (sorted.get i).1 then
    (sorted.set i (sorted.get j) i.isLt).set j (sorted.get i) j.isLt
  else sorted

def inx (wifiSpec : Bool) (voqCnt viqCnt beqCnt bkqCnt : Int) : List AccessCategory :=
  let start : Vector (Int × AccessCategory) 4 :=
    #v[(voqCnt, .vo), (viqCnt, .vi), (beqCnt, .be), (bkqCnt, .bk)]
  let pairs : List (Fin 4 × Fin 4) := [(0, 1), (0, 2), (0, 3), (1, 2), (1, 3), (2, 3)]
  let sorted := if wifiSpec then pairs.foldl (fun sorted pair => exchange sorted pair.1 pair.2) start
    else start
  sorted.toList.map Prod.snd

def dequeueXframe (adapter : Adapter Sta Xmit Recv) (order : List AccessCategory) (entry : Nat) :
    Option Xmit × Adapter Sta Xmit Recv :=
  dequeueAcs (order.take entry) adapter

def queuedFrames (adapter : Adapter Sta Xmit Recv) (order : List AccessCategory) : List Xmit :=
  order.flatMap fun ac =>
    (adapter.staQueue ac).flatMap fun psta => ((adapter.stainfo psta).servq ac).staPending

section Unqueue

variable (adapter : Adapter Sta Xmit Recv) (psta : Sta) (ac : AccessCategory) (pxmitframe : Xmit)
  (rest : List Xmit)

section

omit [DecidableEq Xmit]

theorem unqueue_servq : ((adapter.unqueue psta ac pxmitframe rest).stainfo psta).servq =
      update (adapter.stainfo psta).servq ac
        ⟨rest, ((adapter.stainfo psta).servq ac).qcnt - 1⟩ := by
  rw [unqueue, modify_self]

theorem unqueue_sleepQ :
    ((adapter.unqueue psta ac pxmitframe rest).stainfo psta).sleepQ = (adapter.stainfo psta).sleepQ := by
  rw [unqueue, modify_self]

theorem unqueue_other {other : Sta} (different : other ≠ psta) :
    (adapter.unqueue psta ac pxmitframe rest).stainfo other = adapter.stainfo other :=
  Function.update_of_ne different ..

theorem sleepingSta_unqueue (frame : Xmit) :
    (adapter.unqueue psta ac pxmitframe rest).sleepingSta frame = adapter.sleepingSta frame := by
  have record : ∀ other,
      ((adapter.unqueue psta ac pxmitframe rest).stainfo other).hwaddr = (adapter.stainfo other).hwaddr ∧
        ((adapter.unqueue psta ac pxmitframe rest).stainfo other).asleep = (adapter.stainfo other).asleep ∧
        ((adapter.unqueue psta ac pxmitframe rest).stainfo other).aid = (adapter.stainfo other).aid := by
    intro other
    by_cases same : other = psta
    · rw [same, unqueue, modify_self]
      exact ⟨rfl, rfl, rfl⟩
    · rw [unqueue_other _ _ _ _ _ same]
      exact ⟨rfl, rfl, rfl⟩
  have found : (adapter.unqueue psta ac pxmitframe rest).frameSta frame = adapter.frameSta frame := by
    simp only [frameSta, getStainfo, record]
    rfl
  simp only [sleepingSta, found, record]
  rfl

end

end Unqueue

variable {adapter : Adapter Sta Xmit Recv} {psta : Sta} {pxmitframe : Xmit}

structure KeptForSleepingSta (pxmitframe : Xmit) (psta : Sta)
    (before after : Adapter Sta Xmit Recv) : Prop where
  others : ∀ other, other ≠ psta → after.stainfo other = before.stainfo other
  servq : (after.stainfo psta).servq = (before.stainfo psta).servq
  sleepQ : (after.stainfo psta).sleepQ = (before.stainfo psta).sleepQ ++ [pxmitframe]
  staQueue : after.staQueue = before.staQueue
  accnt : after.accnt = before.accnt
  freeXmitQueue : after.freeXmitQueue = before.freeXmitQueue
  freeXmitframeCnt : after.freeXmitframeCnt = before.freeXmitframeCnt
  held : after.held = before.held.erase pxmitframe

omit [DecidableEq Sta] in
theorem KeptForSleepingSta.servq_eq {before after : Adapter Sta Xmit Recv}
    (kept : KeptForSleepingSta pxmitframe psta before after) (other : Sta) :
    (after.stainfo other).servq = (before.stainfo other).servq := by
  by_cases same : other = psta
  · rw [same, kept.servq]
  · rw [kept.others other same]

theorem xmitframeEnqueueForSleepingSta_kept {after : Adapter Sta Xmit Recv}
    (kept : adapter.xmitframeEnqueueForSleepingSta pxmitframe = some after) :
    ∃ psta, adapter.sleepingSta pxmitframe = some psta ∧ KeptForSleepingSta pxmitframe psta adapter after := by
  rw [xmitframeEnqueueForSleepingSta] at kept
  cases sleeping : adapter.sleepingSta pxmitframe with
  | none => simp [sleeping] at kept
  | some psta =>
    simp only [sleeping] at kept
    refine ⟨psta, rfl, ?_⟩
    split at kept <;> cases kept <;> constructor
    case isFalse.refl.others => exact fun other different => by simp [modify, different]
    case isTrue.refl.others => exact fun other different => by simp [modify, different]
    all_goals simp [modify]

theorem xmitframeEnqueueForSleepingSta_none : adapter.xmitframeEnqueueForSleepingSta pxmitframe = none ↔
      adapter.sleepingSta pxmitframe = none := by
  rw [xmitframeEnqueueForSleepingSta]
  cases sleeping : adapter.sleepingSta pxmitframe with
  | none => simp
  | some psta => simp only; split <;> simp

structure Classified (pxmitframe : Xmit) (psta : Sta) (ac : AccessCategory)
    (before after : Adapter Sta Xmit Recv) : Prop where
  others : ∀ other, other ≠ psta → after.stainfo other = before.stainfo other
  servq : (after.stainfo psta).servq = update (before.stainfo psta).servq ac
    ⟨((before.stainfo psta).servq ac).staPending ++ [pxmitframe], ((before.stainfo psta).servq ac).qcnt + 1⟩
  sleepQ : (after.stainfo psta).sleepQ = (before.stainfo psta).sleepQ
  staQueue : after.staQueue = update before.staQueue ac
    (if psta ∈ before.staQueue ac then before.staQueue ac else before.staQueue ac ++ [psta])
  accnt : after.accnt = update before.accnt ac (before.accnt ac + 1)
  freeXmitQueue : after.freeXmitQueue = before.freeXmitQueue
  freeXmitframeCnt : after.freeXmitframeCnt = before.freeXmitframeCnt
  held : after.held = before.held.erase pxmitframe

theorem xmitClassifier_classified (found : adapter.frameSta pxmitframe = some psta) :
    Classified pxmitframe psta (accessCategory (adapter.attrib pxmitframe).priority) adapter
      (adapter.xmitClassifier pxmitframe).2 := by
  simp only [xmitClassifier, found]
  constructor
  case others => exact fun other different => Function.update_of_ne different ..
  case servq => rw [modify_self]
  case sleepQ => rw [modify_self]
  all_goals rfl

section Beacon

/-- The loop of `send_beacon`: what `retry` is behind it. `txBcnDone` answers each attempt. -/
def beaconRetry (txBcnDone : Nat → Bool) (retry : Nat) : Nat :=
  if txBcnDone retry then retry
  else if retry < 100 then beaconRetry txBcnDone (retry + 1)
  else retry + 1
termination_by 100 - retry

def sendBeacon (txBcnDone : Nat → Bool) : Bool := beaconRetry txBcnDone 0 ≠ 100

/-- The frames go to `hal_xmit` in this order. -/
def releaseSleepQ (psta : Sta) : List Xmit → Adapter Sta Xmit Recv → List Xmit × Adapter Sta Xmit Recv
  | [], adapter => ([], adapter)
  | pxmitframe :: rest, adapter =>
      let adapter := adapter.modify psta fun record =>
        { record with sleepQ := rest, sleepqLen := record.sleepqLen - 1 }
      let (handed, after) := releaseSleepQ psta rest
        { adapter with
          attrib := update adapter.attrib pxmitframe
            { adapter.attrib pxmitframe with triggered := true }
          held := pxmitframe :: adapter.held }
      (pxmitframe :: handed, after)

/-- `tx_beacon_hdl`: whether it is `H2C_SUCCESS`, and what `hal_xmit` is handed. -/
def txBeaconHdl (adapter : Adapter Sta Xmit Recv) (txBcnDone : Nat → Bool) :
    Bool × List Xmit × Adapter Sta Xmit Recv :=
  if sendBeacon txBcnDone then
    match adapter.getStainfo bcAddr with
    | none => (true, [], adapter)
    | some psta =>
        if adapter.timBitmap &&& bit 0 ≠ 0 ∧ 0 < (adapter.stainfo psta).sleepqLen then
          (true, releaseSleepQ psta (adapter.stainfo psta).sleepQ adapter)
        else (true, [], adapter)
  else (false, [], adapter)

variable {adapter : Adapter Sta Xmit Recv} {psta : Sta} {txBcnDone : Nat → Bool}

/-- `send_beacon` makes 101 attempts at most. -/
def Reported (txBcnDone : Nat → Bool) : Prop := ∃ attempt ≤ 100, txBcnDone attempt = true

structure BeaconFollowed (txBcnDone : Nat → Bool) (adapter : Adapter Sta Xmit Recv) : Prop where
  verdict : sendBeacon txBcnDone = true ↔ Reported txBcnDone
  unreported : ¬Reported txBcnDone → (adapter.txBeaconHdl txBcnDone).2 = ([], adapter)
  inOrder : Reported txBcnDone → ∀ psta, adapter.getStainfo bcAddr = some psta →
    (adapter.stainfo psta).sleepqLen.toNat = (adapter.stainfo psta).sleepQ.length →
    ∃ handed after, adapter.txBeaconHdl txBcnDone = (true, handed, after) ∧
      if adapter.timBitmap &&& bit 0 ≠ 0 then handed = (adapter.stainfo psta).sleepQ ∧
        (after.stainfo psta).sleepQ = [] ∧ (after.stainfo psta).sleepqLen = 0
      else handed = [] ∧ after = adapter

theorem beaconRetry_eq_iff (txBcnDone : Nat → Bool) {retry : Nat} (small : retry ≤ 100) :
    beaconRetry txBcnDone retry = 100 ↔
      txBcnDone 100 = true ∧ ∀ attempt, retry ≤ attempt → attempt < 100 → txBcnDone attempt = false := by
  fun_induction beaconRetry txBcnDone retry with
  | case1 retry done =>
    constructor
    · rintro rfl
      exact ⟨done, fun attempt _ _ => by omega⟩
    · intro ⟨_, never⟩
      by_contra early
      rw [never retry le_rfl (by omega)] at done
      cases done
  | case2 retry missed below ih =>
    rw [ih below]
    refine and_congr_right fun _ => forall_congr' fun attempt => ?_
    constructor
    · intro later reached inside
      rcases Nat.eq_or_lt_of_le reached with rfl | beyond
      · simpa using missed
      · exact later beyond inside
    · exact fun never reached inside => never (by omega) inside
  | case3 retry missed last =>
    obtain rfl : retry = 100 := by omega
    exact iff_of_false (by decide) fun both => missed both.1

theorem sendBeacon_eq_false_iff (txBcnDone : Nat → Bool) : sendBeacon txBcnDone = false ↔
    txBcnDone 100 = true ∧ ∀ attempt < 100, txBcnDone attempt = false := by
  simpa [sendBeacon] using beaconRetry_eq_iff txBcnDone (Nat.zero_le 100)

theorem releaseSleepQ_spec (frames : List Xmit) (adapter : Adapter Sta Xmit Recv)
    (queued : (adapter.stainfo psta).sleepQ = frames) :
    (releaseSleepQ psta frames adapter).1 = frames ∧
      ((releaseSleepQ psta frames adapter).2.stainfo psta).sleepQ = [] ∧
      ((releaseSleepQ psta frames adapter).2.stainfo psta).sleepqLen =
        (adapter.stainfo psta).sleepqLen - BitVec.ofNat 32 frames.length := by
  induction frames generalizing adapter with
  | nil => exact ⟨rfl, queued, by simp [releaseSleepQ]⟩
  | cons pxmitframe rest ih =>
    have modified := @modify_self _ _ _ _ adapter psta fun record =>
      { record with sleepQ := rest, sleepqLen := record.sleepqLen - 1 }
    obtain ⟨handed, emptied, counted⟩ := ih
      { adapter.modify psta fun record =>
          { record with sleepQ := rest, sleepqLen := record.sleepqLen - 1 } with
        attrib := update adapter.attrib pxmitframe
          { adapter.attrib pxmitframe with triggered := true }
        held := pxmitframe :: adapter.held } (congrArg StaRecord.sleepQ modified)
    refine ⟨congrArg (pxmitframe :: ·) handed, emptied, counted.trans ?_⟩
    rw [modified, List.length_cons, BitVec.ofNat_add, BitVec.add_comm, BitVec.sub_sub]
    rfl

theorem beaconFollowed_iff (txBcnDone : Nat → Bool) (adapter : Adapter Sta Xmit Recv) :
    adapter.BeaconFollowed txBcnDone ↔ ∃ attempt < 100, txBcnDone attempt = true := by
  have failed := sendBeacon_eq_false_iff txBcnDone
  constructor
  · intro followed
    by_contra never
    have early : ∀ attempt < 100, txBcnDone attempt = false := by simpa using never
    cases last : txBcnDone 100 with
    | true =>
      have sent := followed.verdict.mpr ⟨100, le_rfl, last⟩
      rw [failed.mpr ⟨last, early⟩] at sent
      cases sent
    | false =>
      obtain ⟨attempt, inside, done⟩ := followed.verdict.mp (Bool.eq_true_of_not_eq_false fun fails => by
        rw [(failed.mp fails).1] at last
        cases last)
      rcases Nat.eq_or_lt_of_le inside with rfl | below
      · rw [last] at done
        cases done
      · rw [early attempt below] at done
        cases done
  · intro ⟨attempt, below, done⟩
    have sent : sendBeacon txBcnDone = true := Bool.eq_true_of_not_eq_false fun fails => by
      rw [(failed.mp fails).2 attempt below] at done
      cases done
    have reported : Reported txBcnDone := ⟨attempt, below.le, done⟩
    refine ⟨⟨fun _ => reported, fun _ => sent⟩, fun never => absurd reported never, ?_⟩
    intro _ psta found counted
    rw [txBeaconHdl, if_pos sent, found]
    dsimp only
    by_cases tim : adapter.timBitmap &&& bit 0 ≠ 0
    · simp only [if_pos tim]
      by_cases some_ : 0 < (adapter.stainfo psta).sleepqLen
      · obtain ⟨handed, emptied, length⟩ := releaseSleepQ_spec _ adapter (rfl : (adapter.stainfo psta).sleepQ = _)
        refine ⟨_, _, if_pos ⟨tim, some_⟩, handed, emptied, length.trans ?_⟩
        rw [← counted, BitVec.ofNat_toNat, BitVec.setWidth_eq, BitVec.sub_self]
        rfl
      · have zero : (adapter.stainfo psta).sleepqLen = 0 := by bv_omega
        rw [zero] at counted
        have empty : (adapter.stainfo psta).sleepQ = [] := List.length_eq_zero_iff.mp counted.symm
        exact ⟨[], adapter, if_neg fun both => some_ both.2, empty.symm, empty, zero⟩
    · simp only [if_neg tim]
      exact ⟨[], adapter, if_neg fun both => tim both.1, rfl, rfl⟩

/-- When no attempt is reported done, `retry` is 101, and `send_beacon` succeeds. -/
theorem beacon_not_followed : ¬∃ adapter : Adapter Nat Nat Nat, adapter.BeaconFollowed fun _ => false := by
  intro ⟨adapter, followed⟩
  have sent : sendBeacon (fun _ => false) = true := Bool.eq_true_of_not_eq_false fun failed => by
    cases ((sendBeacon_eq_false_iff _).mp failed).1
  obtain ⟨_, _, done⟩ := followed.verdict.mp sent
  cases done

end Beacon

end Floid.Wifi.Adapter
