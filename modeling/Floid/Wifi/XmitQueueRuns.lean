import Floid.Wifi.StaTableRuns
import Floid.Wifi.XmitQueues

namespace Floid.Wifi.Adapter

open Osk Lib
open Function (update update_of_ne update_self)
open List (count_append count_cons count_erase count_pos_iff flatMap_cons nil_append)

variable {Sta Xmit Recv : Type} [DecidableEq Sta] [DecidableEq Xmit]

structure QueuesKept (before after : Adapter Sta Xmit Recv) : Prop where
  sleepQ : ∀ psta, (after.stainfo psta).sleepQ = (before.stainfo psta).sleepQ
  servq : ∀ psta, (after.stainfo psta).servq = (before.stainfo psta).servq
  staQueue : after.staQueue = before.staQueue
  accnt : after.accnt = before.accnt
  freeXmitQueue : after.freeXmitQueue = before.freeXmitQueue
  freeXmitframeCnt : after.freeXmitframeCnt = before.freeXmitframeCnt
  held : after.held = before.held

inductive QueueAction (Sta Xmit : Type) where
  | allocXmitframe
  | freeXmitframe (pxmitframe : Xmit)
  | xmitClassifier (pxmitframe : Xmit)
  | dequeueXframe (order : List AccessCategory) (entry : Nat)
  | freeStainfo (psta : Sta)
  | other

def queueSystem (Sta Xmit Recv : Type) [DecidableEq Sta] [DecidableEq Xmit] :
    TransitionSystem (Adapter Sta Xmit Recv) (QueueAction Sta Xmit) where
  initial adapter :=
    (∀ psta, (adapter.stainfo psta).sleepQ = []) ∧
      (∀ psta ac, (adapter.stainfo psta).servq ac = ⟨[], 0⟩) ∧ (∀ ac, adapter.accnt ac = 0) ∧
      (∀ pxmitframe, adapter.freeXmitQueue.count pxmitframe = 1) ∧
      adapter.freeXmitframeCnt = adapter.freeXmitQueue.length ∧ adapter.held = []
  step before action after :=
    match action with
    | .allocXmitframe => after = before.allocXmitframe.2
    | .freeXmitframe pxmitframe => pxmitframe ∈ before.held ∧
        after = { before with held := before.held.erase pxmitframe }.freeXmitframe pxmitframe
    | .xmitClassifier pxmitframe =>
        pxmitframe ∈ before.held ∧ after = (before.xmitClassifier pxmitframe).2
    | .dequeueXframe order entry => after = (before.dequeueXframe order entry).2
    | .freeStainfo psta => after = before.freeStainfo psta
    | .other => QueuesKept before after

variable [Fintype Sta]

def copies (adapter : Adapter Sta Xmit Recv) (pxmitframe : Xmit) : Nat :=
  adapter.held.count pxmitframe + adapter.freeXmitQueue.count pxmitframe +
    ∑ psta, (adapter.stainfo psta).queued.count pxmitframe

/-- What the counts and lists are to be, except for `accnt`. -/
structure QueuesLinked (adapter : Adapter Sta Xmit Recv) : Prop where
  qcnt : ∀ psta ac, ((adapter.stainfo psta).servq ac).qcnt = ((adapter.stainfo psta).servq ac).staPending.length
  pending : ∀ psta ac, ((adapter.stainfo psta).servq ac).staPending ≠ [] → psta ∈ adapter.staQueue ac
  once : ∀ pxmitframe, adapter.copies pxmitframe = 1
  free : adapter.freeXmitframeCnt = adapter.freeXmitQueue.length

def excess (adapter : Adapter Sta Xmit Recv) (ac : AccessCategory) : Int :=
  adapter.accnt ac - ∑ psta, ((adapter.stainfo psta).servq ac).qcnt

structure QueuesSound (adapter : Adapter Sta Xmit Recv) : Prop extends QueuesLinked adapter where
  accnt : ∀ ac, adapter.accnt ac = ∑ psta, ((adapter.stainfo psta).servq ac).qcnt

/-- No frame is lost from `accnt`: the first frame that is dequeued is not for a station that
sleeps, and a station that is removed has no frames to send. -/
def QueueCondition (adapter : Adapter Sta Xmit Recv) : QueueAction Sta Xmit → Prop
  | .dequeueXframe order entry =>
      ∀ pxmitframe ∈ (adapter.queuedFrames (order.take entry)).head?, adapter.sleepingSta pxmitframe = none
  | .freeStainfo psta => ∀ ac, ((adapter.stainfo psta).servq ac).staPending = []
  | _ => True

section Steps

variable {adapter : Adapter Sta Xmit Recv} {psta : Sta} {ac : AccessCategory} {pxmitframe : Xmit}

omit [DecidableEq Sta] [Fintype Sta] in
theorem queued_count (record : StaRecord Xmit Recv) (frame : Xmit) : record.queued.count frame =
      record.sleepQ.count frame + ∑ ac, (record.servq ac).staPending.count frame := by
  have categories : (Finset.univ : Finset AccessCategory) = {.vo, .vi, .be, .bk} := rfl
  rw [categories, StaRecord.queued]
  simp only [count_append]
  rw [Finset.sum_insert (by decide), Finset.sum_insert (by decide), Finset.sum_insert (by decide),
    Finset.sum_singleton]
  omega

omit [DecidableEq Sta] [Fintype Sta] in
theorem queued_count_servq {before after : StaRecord Xmit Recv} {changed : TxServq Xmit}
    (sleepQ : after.sleepQ = before.sleepQ)
    (servq : after.servq = update before.servq ac changed) (frame : Xmit) :
    after.queued.count frame + (before.servq ac).staPending.count frame =
      before.queued.count frame + changed.staPending.count frame := by
  have moved := sum_update_add (fun servq : TxServq Xmit => servq.staPending.count frame)
    before.servq ac changed
  rw [queued_count, queued_count, sleepQ, servq]
  omega

variable {after before : Adapter Sta Xmit Recv} {rest : List Xmit} {stas : List Sta} {frame : Xmit}
    {order : List AccessCategory}

omit [DecidableEq Xmit] [Fintype Sta] in
theorem stainfo_eq_update (others : ∀ other, other ≠ psta → after.stainfo other = before.stainfo other) :
    after.stainfo = update before.stainfo psta (after.stainfo psta) := by
  funext other
  by_cases same : other = psta
  · rw [same, update_self]
  · rw [update_of_ne same, others other same]

theorem QueuesLinked.change (linked : QueuesLinked before)
    (others : ∀ other, other ≠ psta → after.stainfo other = before.stainfo other)
    (staQueue : ∀ other, other ≠ psta → ∀ ac, other ∈ before.staQueue ac → other ∈ after.staQueue ac)
    (qcnt : ∀ ac, ((after.stainfo psta).servq ac).qcnt = ((after.stainfo psta).servq ac).staPending.length)
    (pending : ∀ ac, ((after.stainfo psta).servq ac).staPending ≠ [] → psta ∈ after.staQueue ac)
    (moved : ∀ frame, after.held.count frame + after.freeXmitQueue.count frame +
      (after.stainfo psta).queued.count frame = before.held.count frame +
        before.freeXmitQueue.count frame + (before.stainfo psta).queued.count frame)
    (free : after.freeXmitframeCnt = after.freeXmitQueue.length) : QueuesLinked after where
  qcnt other ac := by
    by_cases same : other = psta
    · rw [same]
      exact qcnt ac
    · rw [others other same]
      exact linked.qcnt other ac
  pending other ac := by
    by_cases same : other = psta
    · rw [same]
      exact pending ac
    · rw [others other same]
      exact fun some => staQueue other same ac (linked.pending other ac some)
  once frame := by
    have known := linked.once frame
    have here := moved frame
    have total := sum_update_add (fun record : StaRecord Xmit Recv => record.queued.count frame)
      before.stainfo psta (after.stainfo psta)
    rw [← stainfo_eq_update others] at total
    rw [copies] at known ⊢
    omega
  free := free

omit [DecidableEq Xmit] in
theorem excess_change (others : ∀ other, other ≠ psta → after.stainfo other = before.stainfo other)
    (ac : AccessCategory) :
    after.excess ac - after.accnt ac + ((after.stainfo psta).servq ac).qcnt =
      before.excess ac - before.accnt ac + ((before.stainfo psta).servq ac).qcnt := by
  have total := sum_update_add (fun record : StaRecord Xmit Recv => (record.servq ac).qcnt)
    before.stainfo psta (after.stainfo psta)
  rw [← stainfo_eq_update others] at total
  rw [excess, excess]
  omega

theorem QueuesLinked.unqueue (linked : QueuesLinked adapter)
    (front : ((adapter.stainfo psta).servq ac).staPending = pxmitframe :: rest) :
    QueuesLinked (adapter.unqueue psta ac pxmitframe rest) := by
  have length := linked.qcnt psta ac
  rw [front, List.length_cons] at length
  refine linked.change (fun _ => unqueue_other adapter psta ac pxmitframe rest) (fun _ _ _ => id) ?_ ?_ ?_ linked.free
  · intro category
    rw [unqueue_servq]
    by_cases same : category = ac
    · rw [same, update_self]
      dsimp only
      omega
    · rw [update_of_ne same]
      exact linked.qcnt psta category
  · intro category
    rw [unqueue_servq]
    by_cases same : category = ac
    · exact fun _ => linked.pending psta category (by simp [same, front])
    · rw [update_of_ne same]
      exact linked.pending psta category
  · intro frame
    have moved := queued_count_servq (unqueue_sleepQ adapter psta ac pxmitframe rest)
      (unqueue_servq ..) frame
    rw [front, count_cons] at moved
    dsimp only at moved
    have held : (adapter.unqueue psta ac pxmitframe rest).held = pxmitframe :: adapter.held := rfl
    have free : (adapter.unqueue psta ac pxmitframe rest).freeXmitQueue = adapter.freeXmitQueue := rfl
    rw [held, free, count_cons]
    omega

omit [DecidableEq Xmit] in
theorem unqueue_excess (rest : List Xmit) (category : AccessCategory) :
    (adapter.unqueue psta ac pxmitframe rest).excess category =
      adapter.excess category + if category = ac then 1 else 0 := by
  have change := excess_change (fun _ => unqueue_other adapter psta ac pxmitframe rest) category
  have same : (adapter.unqueue psta ac pxmitframe rest).accnt = adapter.accnt := rfl
  rw [unqueue_servq, same] at change
  by_cases here : category = ac
  · rw [if_pos here]
    rw [here, update_self] at change
    dsimp only at change
    rw [here]
    omega
  · rw [if_neg here]
    rw [update_of_ne here] at change
    omega

omit [DecidableEq Xmit] [Fintype Sta] in
theorem held_unqueue (rest : List Xmit) : pxmitframe ∈ (adapter.unqueue psta ac pxmitframe rest).held :=
  List.mem_cons_self

theorem QueuesLinked.kept (linked : QueuesLinked adapter)
    (held : pxmitframe ∈ adapter.held) (kept : KeptForSleepingSta pxmitframe psta adapter after) :
    QueuesLinked after := by
  refine linked.change kept.others ?_ ?_ ?_ ?_ ?_
  · rw [kept.staQueue]
    exact fun _ _ _ => id
  · rw [kept.servq]
    exact linked.qcnt psta
  · rw [kept.servq, kept.staQueue]
    exact linked.pending psta
  · intro frame
    have known : 1 ≤ adapter.held.count pxmitframe := count_pos_iff.mpr held
    rw [kept.held, kept.freeXmitQueue, queued_count, queued_count, kept.servq, kept.sleepQ,
      count_append, List.count_singleton, count_erase]
    by_cases same : frame = pxmitframe
    · subst same
      rw [if_pos (beq_self_eq_true frame)]
      omega
    · rw [if_neg (by simpa using Ne.symm same)]
      omega
  · rw [kept.freeXmitframeCnt, kept.freeXmitQueue]
    exact linked.free

theorem excess_kept (kept : KeptForSleepingSta pxmitframe psta adapter after) (category : AccessCategory) :
    after.excess category = adapter.excess category := by
  have change := excess_change kept.others category
  rw [kept.accnt, kept.servq] at change
  omega

theorem QueuesLinked.divert (linked : QueuesLinked adapter)
    (pending : ((adapter.stainfo psta).servq ac).staPending = pxmitframe :: rest)
    (moved : (adapter.unqueue psta ac pxmitframe rest).xmitframeEnqueueForSleepingSta pxmitframe = some after) :
    QueuesLinked after ∧ ((after.stainfo psta).servq ac).staPending = rest ∧ after.staQueue = adapter.staQueue ∧
      ∀ category, after.excess category = adapter.excess category + if category = ac then 1 else 0 := by
  obtain ⟨sleeper, -, kept⟩ := xmitframeEnqueueForSleepingSta_kept moved
  refine ⟨(linked.unqueue pending).kept (held_unqueue rest) kept, ?_, ?_, ?_⟩
  · rw [kept.servq_eq, unqueue_servq, update_self]
  · rw [kept.staQueue]
    rfl
  · intro category
    rw [excess_kept kept, unqueue_excess]

/-- What a dequeue leaves: sound queues, and for each category at least the frames that
`accnt` counted too much, and the one that is held now. -/
structure Dequeued (before : Adapter Sta Xmit Recv) (ac : AccessCategory)
    (result : Option Xmit × Adapter Sta Xmit Recv) : Prop where
  linked : QueuesLinked result.2
  staQueue : result.2.staQueue = before.staQueue
  excess : ∀ category, before.excess category +
    (if category = ac ∧ result.1.isSome then 1 else 0) ≤ result.2.excess category

theorem QueuesLinked.dequeueOneXmitframe {frames : List Xmit} (linked : QueuesLinked adapter)
    (psta : Sta) (ac : AccessCategory)
    (pending : ((adapter.stainfo psta).servq ac).staPending = frames) :
    Dequeued adapter ac (dequeueOneXmitframe psta ac frames adapter) := by
  induction frames generalizing adapter with
  | nil => exact ⟨linked, rfl, by simp [Adapter.dequeueOneXmitframe]⟩
  | cons pxmitframe rest ih =>
    cases moved : (adapter.unqueue psta ac pxmitframe rest).xmitframeEnqueueForSleepingSta
        pxmitframe with
    | none =>
      have result : Adapter.dequeueOneXmitframe psta ac (pxmitframe :: rest) adapter =
          (some pxmitframe, adapter.unqueue psta ac pxmitframe rest) := by
        simp only [Adapter.dequeueOneXmitframe, moved]
      rw [result]
      refine ⟨linked.unqueue pending, rfl, fun category => ?_⟩
      rw [unqueue_excess]
      simp
    | some after =>
      have result : Adapter.dequeueOneXmitframe psta ac (pxmitframe :: rest) adapter =
          Adapter.dequeueOneXmitframe psta ac rest after := by
        simp only [Adapter.dequeueOneXmitframe, moved]
      obtain ⟨diverted, left, lists, excess⟩ := linked.divert pending moved
      have later := ih diverted left
      rw [result]
      refine ⟨later.linked, later.staQueue.trans lists, fun category => ?_⟩
      have known := later.excess category
      rw [excess category] at known
      refine le_trans ?_ known
      by_cases here : category = ac
      · rw [if_pos here]
        omega
      · rw [if_neg here]
        omega

theorem QueuesLinked.accountDequeued (linked : QueuesLinked adapter) :
    QueuesLinked (adapter.accountDequeued psta ac) := by
  have lists : (adapter.accountDequeued psta ac).staQueue = update adapter.staQueue ac
      (if ((adapter.stainfo psta).servq ac).staPending = [] then unlink psta (adapter.staQueue ac)
      else adapter.staQueue ac) := rfl
  refine linked.change (fun _ _ => rfl) ?_ (linked.qcnt psta) ?_ (fun _ => rfl) linked.free
  · intro other different category inside
    rw [lists]
    by_cases same : category = ac
    · subst same
      rw [update_self]
      split
      · exact List.mem_filter.mpr ⟨inside, decide_eq_true different⟩
      · exact inside
    · rwa [update_of_ne same]
  · intro category nonempty
    have waiting : ((adapter.stainfo psta).servq category).staPending ≠ [] := nonempty
    have inside := linked.pending psta category waiting
    rw [lists]
    by_cases same : category = ac
    · subst same
      rwa [update_self, if_neg waiting]
    · rwa [update_of_ne same]

omit [DecidableEq Xmit] in
theorem excess_accountDequeued (category : AccessCategory) : (adapter.accountDequeued psta ac).excess category =
      adapter.excess category - if category = ac then 1 else 0 := by
  rw [excess, excess, Adapter.accountDequeued]
  dsimp only
  by_cases same : category = ac
  · rw [same, update_self, if_pos rfl]
    omega
  · rw [update_of_ne same, if_neg same]
    omega

structure DequeuedAll (before after : Adapter Sta Xmit Recv) : Prop where
  linked : QueuesLinked after
  excess : ∀ category, before.excess category ≤ after.excess category

theorem QueuesLinked.dequeueStas (linked : QueuesLinked adapter) (ac : AccessCategory)
    (stas : List Sta) : DequeuedAll adapter (dequeueStas ac stas adapter).2 := by
  induction stas generalizing adapter with
  | nil => exact ⟨linked, fun _ => le_rfl⟩
  | cons psta rest ih =>
    have first := linked.dequeueOneXmitframe psta ac rfl
    simp only [Adapter.dequeueStas]
    cases result : Adapter.dequeueOneXmitframe psta ac
        ((adapter.stainfo psta).servq ac).staPending adapter with
    | mk frame after =>
      rw [result] at first
      cases frame with
      | none =>
        have later := ih first.linked
        refine ⟨later.linked, fun category => le_trans ?_ (later.excess category)⟩
        simpa using first.excess category
      | some pxmitframe =>
        refine ⟨first.linked.accountDequeued, fun category => ?_⟩
        have known := first.excess category
        rw [excess_accountDequeued]
        by_cases same : category = ac
        · simp [same] at known ⊢
          omega
        · simpa [same] using known

theorem QueuesLinked.dequeueAcs (linked : QueuesLinked adapter) (order : List AccessCategory) :
    DequeuedAll adapter (dequeueAcs order adapter).2 := by
  induction order generalizing adapter with
  | nil => exact ⟨linked, fun _ => le_rfl⟩
  | cons ac rest ih =>
    have first := linked.dequeueStas ac (adapter.staQueue ac)
    simp only [Adapter.dequeueAcs]
    cases result : Adapter.dequeueStas ac (adapter.staQueue ac) adapter with
    | mk frame after =>
      rw [result] at first
      cases frame with
      | none =>
        have later := ih first.linked
        exact ⟨later.linked, fun category =>
          le_trans (first.excess category) (later.excess category)⟩
      | some pxmitframe => exact first

omit [DecidableEq Xmit] in
theorem excess_unqueue_accountDequeued (rest : List Xmit) (category : AccessCategory) :
    ((adapter.unqueue psta ac pxmitframe rest).accountDequeued psta ac).excess category =
      adapter.excess category := by
  rw [excess_accountDequeued, unqueue_excess, add_sub_cancel_right]

def listedFrames (adapter : Adapter Sta Xmit Recv) (ac : AccessCategory) (stas : List Sta) : List Xmit :=
  stas.flatMap fun psta => ((adapter.stainfo psta).servq ac).staPending

omit [Fintype Sta] in
theorem dequeueStas_empty (empty : adapter.listedFrames ac stas = []) :
    dequeueStas ac stas adapter = (none, adapter) := by
  induction stas with
  | nil => rfl
  | cons psta rest ih =>
    rw [listedFrames, flatMap_cons, ← listedFrames, List.append_eq_nil_iff] at empty
    simp only [dequeueStas, empty.1, dequeueOneXmitframe]
    exact ih empty.2

theorem dequeueStas_awake (awake : ∀ frame ∈ (adapter.listedFrames ac stas).head?, adapter.sleepingSta frame = none) :
    (∀ category, (dequeueStas ac stas adapter).2.excess category = adapter.excess category) ∧
      ((dequeueStas ac stas adapter).1 = none → adapter.listedFrames ac stas = []) := by
  induction stas with
  | nil => exact ⟨fun _ => rfl, fun _ => rfl⟩
  | cons psta rest ih =>
    rw [listedFrames, flatMap_cons, ← listedFrames] at awake ⊢
    cases pending : ((adapter.stainfo psta).servq ac).staPending with
    | nil =>
      have next : Adapter.dequeueStas ac (psta :: rest) adapter = Adapter.dequeueStas ac rest adapter := by
        simp only [Adapter.dequeueStas, pending, dequeueOneXmitframe]
      rw [pending, nil_append] at awake
      rw [next, nil_append]
      exact ih awake
    | cons pxmitframe left =>
      rw [pending] at awake
      have stays : (adapter.unqueue psta ac pxmitframe left).xmitframeEnqueueForSleepingSta
          pxmitframe = none := by
        rw [xmitframeEnqueueForSleepingSta_none, sleepingSta_unqueue]
        exact awake pxmitframe rfl
      have result : Adapter.dequeueStas ac (psta :: rest) adapter = (some pxmitframe,
          (adapter.unqueue psta ac pxmitframe left).accountDequeued psta ac) := by
        simp only [Adapter.dequeueStas, pending, dequeueOneXmitframe, stays]
      rw [result]
      exact ⟨excess_unqueue_accountDequeued left, by simp⟩

theorem QueuesLinked.dequeueStas_asleep
    (linked : QueuesLinked adapter) (first : (adapter.listedFrames ac stas).head? = some frame)
    (asleep : adapter.sleepingSta frame ≠ none) :
    adapter.excess ac < (Adapter.dequeueStas ac stas adapter).2.excess ac := by
  induction stas with
  | nil => simp [listedFrames] at first
  | cons psta rest ih =>
    rw [listedFrames, flatMap_cons, ← listedFrames] at first
    cases pending : ((adapter.stainfo psta).servq ac).staPending with
    | nil =>
      have next : Adapter.dequeueStas ac (psta :: rest) adapter = Adapter.dequeueStas ac rest adapter := by
        simp only [Adapter.dequeueStas, pending, Adapter.dequeueOneXmitframe]
      rw [pending, nil_append] at first
      rw [next]
      exact ih first
    | cons pxmitframe left =>
      rw [pending] at first
      cases Option.some.inj first
      cases moved : (adapter.unqueue psta ac frame left).xmitframeEnqueueForSleepingSta
          frame with
      | none =>
        rw [xmitframeEnqueueForSleepingSta_none, sleepingSta_unqueue] at moved
        exact absurd moved asleep
      | some after =>
        obtain ⟨diverted, queue, -, excess⟩ := linked.divert pending moved
        have later := diverted.dequeueOneXmitframe psta ac queue
        have gained := excess ac
        rw [if_pos rfl] at gained
        have result : Adapter.dequeueOneXmitframe psta ac (frame :: left) adapter =
            Adapter.dequeueOneXmitframe psta ac left after := by
          simp only [Adapter.dequeueOneXmitframe, moved]
        simp only [Adapter.dequeueStas, pending, result]
        cases rest' : Adapter.dequeueOneXmitframe psta ac left after with
        | mk frame final =>
          rw [rest'] at later
          have known := later.excess ac
          cases frame with
          | none =>
            have last := (later.linked.dequeueStas ac rest).excess ac
            simp at known
            dsimp only at last ⊢
            omega
          | some frame =>
            simp at known
            dsimp only
            rw [excess_accountDequeued, if_pos rfl]
            omega

theorem dequeueAcs_awake (awake : ∀ frame ∈ (adapter.queuedFrames order).head?, adapter.sleepingSta frame = none)
    (category : AccessCategory) :
    (dequeueAcs order adapter).2.excess category = adapter.excess category := by
  induction order with
  | nil => rfl
  | cons ac rest ih =>
    rw [queuedFrames, flatMap_cons, ← queuedFrames, ← listedFrames] at awake
    cases listed : adapter.listedFrames ac (adapter.staQueue ac) with
    | nil =>
      rw [listed, nil_append] at awake
      simp only [dequeueAcs, dequeueStas_empty listed]
      exact ih awake
    | cons frame others =>
      rw [listed] at awake
      have first : ∀ frame ∈ (adapter.listedFrames ac (adapter.staQueue ac)).head?,
          adapter.sleepingSta frame = none := by
        rw [listed]
        exact awake
      obtain ⟨excess, some⟩ := dequeueStas_awake first
      simp only [dequeueAcs]
      cases result : dequeueStas ac (adapter.staQueue ac) adapter with
      | mk found after =>
        rw [result] at excess some
        cases found with
        | none => exact absurd (some rfl) (by simp [listed])
        | some pxmitframe => exact excess category

theorem QueuesLinked.dequeueAcs_asleep
    (linked : QueuesLinked adapter) (first : (adapter.queuedFrames order).head? = some frame)
    (asleep : adapter.sleepingSta frame ≠ none) :
    ∃ category, adapter.excess category < (Adapter.dequeueAcs order adapter).2.excess category := by
  induction order with
  | nil => simp [queuedFrames] at first
  | cons ac rest ih =>
    rw [queuedFrames, flatMap_cons, ← queuedFrames, ← listedFrames] at first
    cases listed : adapter.listedFrames ac (adapter.staQueue ac) with
    | nil =>
      rw [listed, nil_append] at first
      simp only [Adapter.dequeueAcs, dequeueStas_empty listed]
      exact ih first
    | cons head others =>
      rw [listed] at first
      have head : (adapter.listedFrames ac (adapter.staQueue ac)).head? = some frame := by
        rw [listed]
        exact first
      have grown := linked.dequeueStas_asleep head asleep
      have moved := linked.dequeueStas ac (adapter.staQueue ac)
      refine ⟨ac, ?_⟩
      simp only [Adapter.dequeueAcs]
      cases result : Adapter.dequeueStas ac (adapter.staQueue ac) adapter with
      | mk found after =>
        rw [result] at grown moved
        cases found with
        | none => exact lt_of_lt_of_le grown ((moved.linked.dequeueAcs rest).excess ac)
        | some pxmitframe => exact grown

theorem QueuesLinked.dequeueXframe_excess (linked : QueuesLinked adapter)
    (order : List AccessCategory) (entry : Nat) :
    (∀ category, (adapter.dequeueXframe order entry).2.excess category = adapter.excess category) ↔
      ∀ frame ∈ (adapter.queuedFrames (order.take entry)).head?, adapter.sleepingSta frame = none := by
  constructor
  · intro same frame first
    by_contra asleep
    obtain ⟨category, grown⟩ := linked.dequeueAcs_asleep first asleep
    exact absurd (same category) (ne_of_gt grown)
  · exact dequeueAcs_awake

omit [DecidableEq Sta] in
theorem QueuesLinked.freeXmitframe (linked : QueuesLinked adapter) (held : pxmitframe ∈ adapter.held) :
    QueuesLinked ({ adapter with held := adapter.held.erase pxmitframe }.freeXmitframe pxmitframe) where
  __ := linked
  once frame := by
    have known := linked.once frame
    have count : 1 ≤ adapter.held.count pxmitframe := count_pos_iff.mpr held
    rw [copies] at known ⊢
    simp only [Adapter.freeXmitframe, count_append, List.count_singleton, count_erase]
    by_cases same : frame = pxmitframe
    · subst same
      rw [if_pos (beq_self_eq_true frame)]
      omega
    · rw [if_neg (by simpa using Ne.symm same)]
      omega
  free := by simp [Adapter.freeXmitframe, linked.free]

omit [DecidableEq Sta] in
theorem QueuesLinked.allocXmitframe (linked : QueuesLinked adapter) :
    QueuesLinked adapter.allocXmitframe.2 := by
  rw [Adapter.allocXmitframe]
  cases queue : adapter.freeXmitQueue with
  | nil => exact linked
  | cons pxframe rest =>
    have length := linked.free
    rw [queue, List.length_cons] at length
    refine ⟨linked.qcnt, linked.pending, fun frame => ?_, ?_⟩
    · have known := linked.once frame
      rw [copies, queue, count_cons] at known
      rw [copies]
      dsimp only
      rw [count_cons]
      omega
    · dsimp only
      omega

theorem QueuesLinked.classified (linked : QueuesLinked adapter)
    (held : pxmitframe ∈ adapter.held) (classified : Classified pxmitframe psta ac adapter after) :
    QueuesLinked after := by
  have length := linked.qcnt psta ac
  refine linked.change classified.others ?_ ?_ ?_ ?_ ?_
  · intro other different category inside
    rw [classified.staQueue]
    by_cases same : category = ac
    · subst same
      rw [update_self]
      split
      · exact inside
      · exact List.mem_append_left _ inside
    · rwa [update_of_ne same]
  · intro category
    rw [classified.servq]
    by_cases same : category = ac
    · rw [same, update_self, List.length_append, List.length_singleton]
      dsimp only
      omega
    · rw [update_of_ne same]
      exact linked.qcnt psta category
  · intro category waiting
    rw [classified.servq] at waiting
    rw [classified.staQueue]
    by_cases same : category = ac
    · subst same
      rw [update_self]
      split
      next listed => exact listed
      next => exact List.mem_append_right _ List.mem_cons_self
    · rw [update_of_ne same] at waiting ⊢
      exact linked.pending psta category waiting
  · intro frame
    have count : 1 ≤ adapter.held.count pxmitframe := count_pos_iff.mpr held
    have moved := queued_count_servq classified.sleepQ classified.servq frame
    rw [count_append, List.count_singleton] at moved
    rw [classified.held, classified.freeXmitQueue, count_erase]
    by_cases same : frame = pxmitframe
    · subst same
      rw [if_pos (beq_self_eq_true frame)] at moved ⊢
      omega
    · rw [if_neg (by simpa using Ne.symm same)] at moved ⊢
      omega
  · rw [classified.freeXmitframeCnt, classified.freeXmitQueue]
    exact linked.free

theorem excess_classified (classified : Classified pxmitframe psta ac adapter after) (category : AccessCategory) :
    after.excess category = adapter.excess category := by
  have change := excess_change classified.others category
  rw [classified.accnt, classified.servq] at change
  by_cases same : category = ac
  · subst same
    rw [update_self, update_self] at change
    dsimp only at change
    omega
  · rw [update_of_ne same, update_of_ne same] at change
    omega

theorem QueuesLinked.freed {after : Adapter Sta Xmit Recv} (linked : QueuesLinked adapter)
    (freed : Freed psta adapter after) : QueuesLinked after := by
  refine linked.change freed.others ?_ ?_ ?_ ?_ ?_
  · intro other different ac inside
    rw [freed.staQueue]
    exact List.mem_filter.mpr ⟨inside, decide_eq_true different⟩
  · simp [freed.servq]
  · simp [freed.servq]
  · intro frame
    rw [freed.held, freed.freeXmitQueue, count_append, queued_count (after.stainfo psta), freed.sleepQ, freed.servq]
    simp [add_assoc]
  · rw [freed.freeXmitframeCnt, freed.freeXmitQueue, List.length_append, Nat.cast_add, linked.free]

theorem QueuesLinked.excess_freed (linked : QueuesLinked adapter)
    (freed : Freed psta adapter after) (ac : AccessCategory) :
    after.excess ac = adapter.excess ac + ((adapter.stainfo psta).servq ac).staPending.length := by
  have change := excess_change freed.others ac
  rw [freed.accnt, freed.servq, linked.qcnt] at change
  dsimp only at change
  omega

omit [DecidableEq Sta] in
theorem QueuesLinked.queuesKept (linked : QueuesLinked adapter) (kept : QueuesKept adapter after) :
    QueuesLinked after ∧ ∀ ac, after.excess ac = adapter.excess ac := by
  refine ⟨⟨?_, ?_, ?_, ?_⟩, ?_⟩
  · intro psta ac
    rw [kept.servq]
    exact linked.qcnt psta ac
  · intro psta ac
    rw [kept.servq, kept.staQueue]
    exact linked.pending psta ac
  · intro frame
    have known := linked.once frame
    rw [copies] at known ⊢
    simp only [queued_count, kept.sleepQ, kept.servq] at known ⊢
    rw [kept.held, kept.freeXmitQueue]
    exact known
  · rw [kept.freeXmitframeCnt, kept.freeXmitQueue]
    exact linked.free
  · intro ac
    simp only [excess, kept.accnt, kept.servq]

end Steps

theorem QueuesLinked.step {before after : Adapter Sta Xmit Recv} {action : QueueAction Sta Xmit}
    (linked : QueuesLinked before) (stepped : (queueSystem Sta Xmit Recv).step before action after) :
    QueuesLinked after ∧ ((∀ ac, after.excess ac = before.excess ac) ↔ before.QueueCondition action) := by
  cases action with
  | allocXmitframe =>
    rw [show after = _ from stepped]
    refine ⟨linked.allocXmitframe, iff_of_true (fun ac => ?_) trivial⟩
    rw [Adapter.allocXmitframe]
    cases before.freeXmitQueue <;> rfl
  | freeXmitframe pxmitframe =>
    obtain ⟨held, rfl⟩ := stepped
    exact ⟨linked.freeXmitframe held, iff_of_true (fun _ => rfl) trivial⟩
  | xmitClassifier pxmitframe =>
    obtain ⟨held, rfl⟩ := stepped
    cases found : before.frameSta pxmitframe with
    | none =>
      have same : (before.xmitClassifier pxmitframe).2 = before := by
        simp only [xmitClassifier, found]
      rw [same]
      exact ⟨linked, iff_of_true (fun _ => rfl) trivial⟩
    | some psta =>
      have classified := xmitClassifier_classified found
      exact ⟨linked.classified held classified, iff_of_true (excess_classified classified) trivial⟩
  | dequeueXframe order entry =>
    rw [show after = _ from stepped]
    exact ⟨(linked.dequeueAcs (order.take entry)).linked, linked.dequeueXframe_excess order entry⟩
  | freeStainfo psta =>
    rw [show after = _ from stepped]
    have freed := freeStainfo_freed before psta
    refine ⟨linked.freed freed, forall_congr' fun ac => ?_⟩
    rw [linked.excess_freed freed, ← List.length_eq_zero_iff]
    omega
  | other =>
    obtain ⟨links, excess⟩ := linked.queuesKept stepped
    exact ⟨links, iff_of_true excess trivial⟩

theorem QueuesLinked.start {adapter : Adapter Sta Xmit Recv} (starts : (queueSystem Sta Xmit Recv).initial adapter) :
    QueuesLinked adapter ∧ ∀ ac, adapter.excess ac = 0 := by
  obtain ⟨sleepQ, servq, accnt, once, free, held⟩ := starts
  refine ⟨⟨by simp [servq], by simp [servq], fun frame => ?_, free⟩, fun ac => ?_⟩
  · rw [copies, held, once]
    simp [queued_count, sleepQ, servq]
  · simp [excess, accnt, servq]

omit [DecidableEq Sta] in
theorem queuesSound_iff {adapter : Adapter Sta Xmit Recv} (linked : QueuesLinked adapter) :
    QueuesSound adapter ↔ ∀ ac, adapter.excess ac = 0 := by
  constructor
  · intro sound ac
    rw [excess, sound.accnt, sub_self]
  · intro none
    exact { linked with accnt := fun ac => sub_eq_zero.mp (none ac) }

/-- The counts and lists are right in every state of every run in which `dequeue_xframe` comes
first upon a frame for a station that is awake, and stations have no frames to send when they
are removed. In each of these states the condition decides whether a step keeps them so. In
every run all of them but `accnt` are right. -/
theorem xmitQueues_sound (Sta Xmit Recv : Type) [DecidableEq Sta] [DecidableEq Xmit] [Fintype Sta] :
    (∀ adapter, ((queueSystem Sta Xmit Recv).restrict QueueCondition).Reachable adapter →
      QueuesSound adapter ∧ ∀ action after, (queueSystem Sta Xmit Recv).step adapter action after →
        (QueuesSound after ↔ adapter.QueueCondition action)) ∧
    ∀ adapter, (queueSystem Sta Xmit Recv).Reachable adapter → QueuesLinked adapter := by
  refine ⟨fun adapter reached => ?_, fun adapter reached => ?_⟩
  · have sound : QueuesSound adapter := by
      refine reached.invariant ?_ ?_
      · intro adapter starts
        obtain ⟨linked, none⟩ := QueuesLinked.start starts
        exact (queuesSound_iff linked).mpr none
      · rintro before action after sound ⟨condition, stepped⟩
        obtain ⟨links, same⟩ := sound.toQueuesLinked.step stepped
        have none := (queuesSound_iff sound.toQueuesLinked).mp sound
        exact (queuesSound_iff links).mpr fun ac => (same.mpr condition ac).trans (none ac)
    refine ⟨sound, fun action after stepped => ?_⟩
    obtain ⟨links, same⟩ := sound.toQueuesLinked.step stepped
    have none := (queuesSound_iff sound.toQueuesLinked).mp sound
    rw [queuesSound_iff links, ← same]
    simp only [none]
  · refine reached.invariant (fun _ starts => (QueuesLinked.start starts).1) ?_
    intro before action after linked stepped
    exact (linked.step stepped).1

def sleepingStart : Adapter Unit Bool Unit :=
  { (start [()] : Adapter Unit Bool Unit) with
    stainfo := fun _ => { StaRecord.initial accessPoint with aid := 1, asleep := true }
    attrib := fun pxmitframe => ⟨some (), accessPoint, 0, pxmitframe⟩
    staDzBitmap := 2
    freeXmitQueue := [true, false]
    freeXmitframeCnt := 2 }

theorem sleepingStart_initial : (queueSystem Unit Bool Unit).initial sleepingStart :=
  ⟨fun _ => rfl, fun _ _ => rfl, fun _ => rfl, by decide, rfl, rfl⟩

theorem xmitQueues_sound_triggered :
    ∃ adapter : Adapter Unit Bool Unit, adapter.held = [true] ∧ QueuesSound adapter := by
  let taken := sleepingStart.allocXmitframe.2
  let classified := (taken.xmitClassifier true).2
  refine ⟨(classified.dequeueXframe (inx false 0 0 0 0) 4).2, by decide, ((xmitQueues_sound Unit Bool Unit).1 _ ?_).1⟩
  refine .next (.dequeueXframe (inx false 0 0 0 0) 4)
    (.next (.xmitClassifier true) (.next .allocXmitframe (.initial sleepingStart_initial)
      ⟨trivial, rfl⟩) ⟨trivial, by decide, rfl⟩) ⟨?_, rfl⟩
  show ∀ pxmitframe ∈ (classified.queuedFrames ((inx false 0 0 0 0).take 4)).head?,
    classified.sleepingSta pxmitframe = none
  decide

/-- A frame for the station is kept for it when it is dequeued: `accnt` still counts it. -/
theorem xmitQueues_sound_fails : ∃ adapter : Adapter Unit Bool Unit,
      (queueSystem Unit Bool Unit).Reachable adapter ∧ ¬ QueuesSound adapter := by
  let taken := sleepingStart.allocXmitframe.2.allocXmitframe.2
  let classified := (taken.xmitClassifier false).2
  refine ⟨(classified.dequeueXframe (inx false 0 0 0 0) 4).2, ?_, fun sound => ?_⟩
  · exact .next (.dequeueXframe (inx false 0 0 0 0) 4)
      (.next (.xmitClassifier false) (.next .allocXmitframe (.next .allocXmitframe
        (.initial sleepingStart_initial) rfl) rfl) ⟨by decide, rfl⟩) rfl
  · have counted := sound.accnt .be
    revert counted
    decide

end Floid.Wifi.Adapter
