import Mathlib.Data.List.Chain
import Floid.Wifi.Reorder

namespace Floid.Wifi

open Osk Lib
open List (append_nil mem_append mem_append_left mem_cons mem_cons_of_mem mem_cons_self pairwise_append pairwise_cons)

theorem snLess_iff (a b : U16) : snLess a b = true ↔ 2048 ≤ (a - b).toNat % 4096 := by
  have bit : ∀ x : U16, x &&& 0x800 ≠ 0 ↔ x.toNat.testBit 11 = true := by
    intro x
    have mask : (0x800 : U16) = BitVec.twoPow 16 11 := by decide
    rw [mask, BitVec.and_twoPow]
    change _ ↔ x.getLsbD 11 = true
    cases x.getLsbD 11 <;> decide
  rw [snLess, decide_eq_true_iff, bit, Nat.testBit_eq_decide_div_mod_eq, decide_eq_true_iff]
  omega

variable {a b : U16} {m n : Nat}

theorem snLess_of_lt (ofA : a.toNat = m % 4096) (ofB : b.toNat = n % 4096)
    (less : m < n) (near : n ≤ m + 2048) : snLess a b = true := by
  rw [snLess_iff]
  bv_omega

theorem snLess_of_le (ofA : a.toNat = m % 4096) (ofB : b.toNat = n % 4096)
    (le : n ≤ m) (near : m ≤ n + 2047) : snLess a b = false := by
  rw [Bool.eq_false_iff, Ne, snLess_iff]
  bv_omega

theorem and_fff_toNat (x : U16) : (x &&& 0xfff).toNat = x.toNat % 4096 := by
  rw [BitVec.toNat_and]
  exact Nat.and_two_pow_sub_one_eq_mod x.toNat 12

theorem checkIndicateSeq_lifted {Frame : Type} {ctrl : ReorderCtrl Frame} {start : Nat} {seq : U16}
    (window : ctrl.indicateSeq.toNat = start % 4096) (wsizeB : ctrl.wsizeB = 64)
    (small : seq.toNat < 4096) :
    ∃ n, seq.toNat = n % 4096 ∧ start ≤ n ∧
      if start + 2048 ≤ n then checkIndicateSeq ctrl seq = (false, ctrl)
      else ∃ indicateSeq next, checkIndicateSeq ctrl seq = (true, { ctrl with indicateSeq }) ∧
        indicateSeq.toNat = next % 4096 ∧
          (n = start ∧ next = start + 1 ∨ start < n ∧ n < start + 64 ∧ next = start ∨
            start + 64 ≤ n ∧ next + 63 = n) := by
  have known : ctrl.indicateSeq ≠ 0xffff := by
    intro unset
    have := congrArg BitVec.toNat unset
    change _ = 65535 at this
    omega
  have size : ctrl.wsizeB.setWidth 16 = (64 : U16) := by
    rw [wsizeB]
    rfl
  have wend : ((ctrl.indicateSeq + ctrl.wsizeB.setWidth 16 - 1) &&& 0xfff).toNat = (start + 63) % 4096 := by
    rw [and_fff_toNat, size]
    bv_omega
  obtain ⟨n, ofSeq, le, lt⟩ : ∃ n, seq.toNat = n % 4096 ∧ start ≤ n ∧ n < start + 4096 :=
    ⟨start + (seq.toNat + 4096 - start % 4096) % 4096, by omega, by omega, by omega⟩
  refine ⟨n, ofSeq, le, ?_⟩
  split
  next far =>
    have less : snLess seq ctrl.indicateSeq = true :=
      snLess_of_lt (n := start + 4096) ofSeq (by omega) (by omega) (by omega)
    simp only [checkIndicateSeq, if_neg known, less, if_true]
  next near =>
    have notLess : snLess seq ctrl.indicateSeq = false := snLess_of_le ofSeq window le (by omega)
    by_cases same : n = start
    · have equal : seq = ctrl.indicateSeq := BitVec.eq_of_toNat_eq (by rw [ofSeq, window, same])
      refine ⟨(ctrl.indicateSeq + 1) &&& 0xfff, start + 1, ?_, ?_, Or.inl ⟨same, rfl⟩⟩
      · simp only [checkIndicateSeq, if_neg known, notLess, if_pos equal]
        rfl
      · rw [and_fff_toNat]
        bv_omega
    · have differ : seq ≠ ctrl.indicateSeq := by
        intro equal
        have := congrArg BitVec.toNat equal
        omega
      by_cases inside : n < start + 64
      · have within : snLess ((ctrl.indicateSeq + ctrl.wsizeB.setWidth 16 - 1) &&& 0xfff) seq =
            false := snLess_of_le wend ofSeq (by omega) (by omega)
        refine ⟨ctrl.indicateSeq, start, ?_, window, Or.inr (Or.inl ⟨by omega, inside, rfl⟩)⟩
        simp only [checkIndicateSeq, if_neg known, notLess, if_neg differ, within]
        rfl
      · have beyond : snLess ((ctrl.indicateSeq + ctrl.wsizeB.setWidth 16 - 1) &&& 0xfff) seq =
            true := snLess_of_lt wend ofSeq (by omega) (by omega)
        refine ⟨_, n - 63, by
          simp only [checkIndicateSeq, if_neg known, notLess, if_neg differ, beyond]
          rfl, ?_, Or.inr (Or.inr ⟨by omega, by omega⟩)⟩
        rw [size, wsizeB]
        split <;> bv_omega

section Queue

variable {Frame : Type} {seqNum : Frame → U16} {number : Frame → Nat}

theorem enqueueReorderRecvframe_sorted {prframe : Frame} {queue : List Frame}
    (lifted : ∀ frame ∈ queue, (seqNum frame).toNat = number frame % 4096)
    (own : (seqNum prframe).toNat = number prframe % 4096)
    (sorted : queue.Pairwise fun first second => number first < number second)
    (near : ∀ frame ∈ queue, number prframe ≤ number frame + 2047 ∧ number frame ≤ number prframe + 2047) :
    match enqueueReorderRecvframe seqNum prframe queue with
    | none => ∃ frame ∈ queue, number frame = number prframe
    | some after => ∃ lower higher, queue = lower ++ higher ∧ after = lower ++ prframe :: higher ∧
        (∀ frame ∈ lower, number frame < number prframe) ∧ ∀ frame ∈ higher, number prframe < number frame := by
  induction queue with
  | nil => exact ⟨[], [], rfl, rfl, by simp, by simp⟩
  | cons first rest ih =>
    obtain ⟨low, high⟩ := near first mem_cons_self
    have ofFirst := lifted first mem_cons_self
    rw [pairwise_cons] at sorted
    rcases Nat.lt_trichotomy (number first) (number prframe) with less | same | greater
    · have rest := ih (fun frame inside => lifted frame (mem_cons_of_mem _ inside))
        sorted.2 (fun frame inside => near frame (mem_cons_of_mem _ inside))
      simp only [enqueueReorderRecvframe, snLess_of_lt ofFirst own less (by omega), if_true]
      cases found : enqueueReorderRecvframe seqNum prframe _ with
      | none =>
        rw [found] at rest
        obtain ⟨frame, inside, same⟩ := rest
        exact ⟨frame, mem_cons_of_mem _ inside, same⟩
      | some after =>
        rw [found] at rest
        obtain ⟨lower, higher, split, queued, below, above⟩ := rest
        refine ⟨first :: lower, higher, by rw [split]; rfl, by rw [queued]; rfl, ?_, above⟩
        intro frame inside
        rcases mem_cons.mp inside with rfl | inside
        · exact less
        · exact below frame inside
    · have equal : seqNum first = seqNum prframe := BitVec.eq_of_toNat_eq (by rw [ofFirst, own, same])
      have there : enqueueReorderRecvframe seqNum prframe (first :: rest) = none := by
        rw [enqueueReorderRecvframe, snLess_of_le ofFirst own same.ge (by omega)]
        simp [equal]
      rw [there]
      exact ⟨first, mem_cons_self, same⟩
    · have differ : seqNum first ≠ seqNum prframe := by
        intro equal
        have := congrArg BitVec.toNat equal
        omega
      simp only [enqueueReorderRecvframe, snLess_of_le ofFirst own greater.le (by omega), if_neg differ]
      refine ⟨[], first :: rest, rfl, rfl, by simp, ?_⟩
      intro frame inside
      rcases mem_cons.mp inside with rfl | inside
      · exact greater
      · exact lt_trans greater (sorted.1 frame inside)

theorem indicateInOrder_lifted {indicateSeq : U16} {start : Nat} {queue : List Frame}
    (window : indicateSeq.toNat = start % 4096)
    (lifted : ∀ frame ∈ queue, (seqNum frame).toNat = number frame % 4096)
    (sorted : queue.Pairwise fun first second => number first < number second)
    (near : ∀ frame ∈ queue, start ≤ number frame + 2047 ∧ number frame ≤ start + 2048) :
    ∃ last indicated left, (indicateInOrder seqNum indicateSeq queue).2 = (indicated, left) ∧
      (indicateInOrder seqNum indicateSeq queue).1.toNat = last % 4096 ∧ start ≤ last ∧
      queue = indicated ++ left ∧ (∀ frame ∈ indicated, number frame < last) ∧
      (∀ frame ∈ left, last < number frame) ∧
      (∀ first ∈ queue.head?, number first = start → start < last) ∧
      (left = [] → ∀ final ∈ queue.getLast?, start ≤ number final + 1 → last = number final + 1) := by
  induction queue generalizing indicateSeq start with
  | nil => exact ⟨start, [], [], rfl, window, le_rfl, rfl, by simp, by simp, by simp, by simp⟩
  | cons first rest ih =>
    obtain ⟨low, high⟩ := near first mem_cons_self
    have ofFirst := lifted first mem_cons_self
    rw [pairwise_cons] at sorted
    by_cases later : start < number first
    · have stays : indicateInOrder seqNum indicateSeq (first :: rest) = (indicateSeq, [], first :: rest) := by
        rw [indicateInOrder, snLess_of_lt window ofFirst later (by omega), if_pos rfl]
      rw [stays]
      refine ⟨start, [], first :: rest, rfl, window, le_rfl, rfl, by simp, ?_, ?_, by simp⟩
      · intro frame inside
        rcases mem_cons.mp inside with rfl | inside
        · exact later
        · exact lt_trans later (sorted.1 frame inside)
      · intro head inside same
        cases inside
        omega
    · have next : ∃ start', start ≤ start' ∧ (start' = start ∨ start' = number first + 1) ∧ number first < start' ∧
          (start ≤ number first + 1 → start' = number first + 1) ∧
          (if indicateSeq = seqNum first then (indicateSeq + 1) &&& 0xfff else indicateSeq).toNat =
            start' % 4096 := by
        by_cases same : number first = start
        · have equal : indicateSeq = seqNum first := BitVec.eq_of_toNat_eq (by omega)
          refine ⟨start + 1, by omega, by omega, by omega, by omega, ?_⟩
          rw [if_pos equal, and_fff_toNat, BitVec.toNat_add]
          change (indicateSeq.toNat + 1) % 2 ^ 16 % 4096 = _
          omega
        · have differ : indicateSeq ≠ seqNum first := by
            intro equal
            have := congrArg BitVec.toNat equal
            omega
          rw [if_neg differ]
          exact ⟨start, le_rfl, Or.inl rfl, by omega, by omega, window⟩
      obtain ⟨start', up, step, below, final, window'⟩ := next
      generalize nextSeq : (if indicateSeq = seqNum first then (indicateSeq + 1) &&& 0xfff
        else indicateSeq) = indicateSeq' at window'
      have moves : indicateInOrder seqNum indicateSeq (first :: rest) =
          ((indicateInOrder seqNum indicateSeq' rest).1, first :: (indicateInOrder seqNum indicateSeq' rest).2.1,
            (indicateInOrder seqNum indicateSeq' rest).2.2) := by
        simp only [indicateInOrder, snLess_of_le window ofFirst (by omega) (by omega), nextSeq]
        simp
      rw [moves]
      cases rest with
      | nil =>
        refine ⟨start', [first], [], rfl, window', up, rfl, by simpa using below, by simp, ?_, ?_⟩
        · intro head inside same
          cases inside
          omega
        · intro _ last inside le
          cases inside
          exact final le
      | cons second rest =>
        obtain ⟨last, indicated, left, result, window, le, split, lower, higher, -, ending⟩ :=
          ih window' (fun frame inside => lifted frame (mem_cons_of_mem _ inside)) sorted.2
            (by
              intro frame inside
              have := near frame (mem_cons_of_mem _ inside)
              have := sorted.1 frame inside
              omega)
        rw [result]
        refine ⟨last, first :: indicated, left, rfl, window, up.trans le, ?_, ?_, higher, ?_, ?_⟩
        · rw [split, List.cons_append]
        · intro frame inside
          rcases mem_cons.mp inside with rfl | inside
          · omega
          · exact lower frame inside
        · intro head inside same
          cases inside
          omega
        · intro all frame inside from_
          rw [List.getLast?_cons_cons] at inside
          refine ending all frame inside ?_
          have := sorted.1 frame (List.mem_of_getLast? inside)
          omega

structure Lifted (seqNum : Frame → U16) (number : Frame → Nat) (start : Nat)
    (ctrl : ReorderCtrl Frame) (indicated : List Frame) : Prop where
  window : ctrl.indicateSeq.toNat = start % 4096
  wsizeB : ctrl.wsizeB = 64
  queued : ∀ frame ∈ ctrl.pendingRecvframeQueue, (seqNum frame).toNat = number frame % 4096
  passed : ∀ frame ∈ indicated, (seqNum frame).toNat = number frame % 4096
  sorted : ctrl.pendingRecvframeQueue.Pairwise fun first second => number first < number second
  inside : ∀ frame ∈ ctrl.pendingRecvframeQueue, start < number frame ∧ number frame < start + 64
  steps : indicated.IsChain fun first second =>
    number first < number second ∧ number second ≤ number first + 2048
  below : ∀ frame ∈ indicated, number frame < start
  last : ∀ last ∈ indicated.getLast?,
    (ctrl.pendingRecvframeQueue = [] → start = number last + 1) ∧
      ∀ first ∈ ctrl.pendingRecvframeQueue.head?, number first ≤ number last + 2048

structure Ready (seqNum : Frame → U16) (number : Frame → Nat) (start : Nat)
    (queue indicated : List Frame) : Prop where
  queued : ∀ frame ∈ queue, (seqNum frame).toNat = number frame % 4096
  passed : ∀ frame ∈ indicated, (seqNum frame).toNat = number frame % 4096
  sorted : queue.Pairwise fun first second => number first < number second
  near : ∀ frame ∈ queue, start ≤ number frame + 1984 ∧ number frame < start + 64
  steps : indicated.IsChain fun first second =>
    number first < number second ∧ number second ≤ number first + 2048
  below : ∀ frame ∈ indicated, number frame < start ∧ ∀ next ∈ queue, number frame < number next
  last : ∀ last ∈ indicated.getLast?, ∀ first ∈ queue.head?, number first ≤ number last + 2048
  ending : ∀ final ∈ queue.getLast?, start ≤ number final + 1
  nonempty : queue ≠ []

namespace Ready

variable {start : Nat} {queue indicated : List Frame}

theorem spread (ready : Ready seqNum number start queue indicated) {first second : Frame}
    (inFirst : first ∈ queue) (inSecond : second ∈ queue) :
    number second ≤ number first + 2048 := by
  have := ready.near first inFirst
  have := ready.near second inSecond
  omega

theorem steps_append (ready : Ready seqNum number start queue indicated) {released left : List Frame}
    (split : queue = released ++ left) :
    (indicated ++ released).IsChain fun first second =>
      number first < number second ∧ number second ≤ number first + 2048 := by
  have part : ∀ {frame}, frame ∈ released → frame ∈ queue := fun inside =>
    split ▸ mem_append_left _ inside
  refine List.isChain_append.mpr ⟨ready.steps, ?_, ?_⟩
  · have sorted := ready.sorted
    rw [split, pairwise_append] at sorted
    refine List.Pairwise.isChain (sorted.1.imp_of_mem ?_)
    intro first second inFirst inSecond less
    exact ⟨less, ready.spread (part inFirst) (part inSecond)⟩
  · intro last isLast first isFirst
    have head : first ∈ queue.head? := by
      rw [split, List.head?_append]
      cases released with
      | nil => cases isFirst
      | cons _ _ => exact isFirst
    exact ⟨(ready.below last (List.mem_of_getLast? isLast)).2 first (List.mem_of_head? head),
      ready.last last isLast first head⟩

theorem indicate {ctrl : ReorderCtrl Frame} {indicateSeq : U16} (ready : Ready seqNum number start queue indicated)
    (window : indicateSeq.toNat = start % 4096) (wsizeB : ctrl.wsizeB = 64) :
    ∃ last released left, (indicateInOrder seqNum indicateSeq queue).2 = (released, left) ∧
      queue = released ++ left ∧ start ≤ last ∧
      (∀ first ∈ queue.head?, number first = start → start < last) ∧
      Lifted seqNum number last
        { ctrl with
          indicateSeq := (indicateInOrder seqNum indicateSeq queue).1
          pendingRecvframeQueue := left } (indicated ++ released) := by
  obtain ⟨last, released, left, result, window, le, split, lower, higher, moves, ending⟩ :=
    indicateInOrder_lifted window ready.queued ready.sorted fun frame inside => by
      have := ready.near frame inside
      omega
  refine ⟨last, released, left, result, split, le, moves, ?_⟩
  have ofReleased : ∀ {frame}, frame ∈ released → frame ∈ queue := fun inside =>
    split ▸ mem_append_left _ inside
  have ofLeft : ∀ {frame}, frame ∈ left → frame ∈ queue := fun inside =>
    split ▸ List.mem_append_right _ inside
  have sorted := ready.sorted
  rw [split, pairwise_append] at sorted
  refine
    { window
      wsizeB
      queued := fun frame inside => ready.queued frame (ofLeft inside)
      passed := ?_
      sorted := sorted.2.1
      inside := ?_
      steps := ready.steps_append split
      below := ?_
      last := ?_ }
  · intro frame inside
    rcases mem_append.mp inside with earlier | now
    · exact ready.passed frame earlier
    · exact ready.queued frame (ofReleased now)
  · intro frame inside
    have := ready.near frame (ofLeft inside)
    have := higher frame inside
    omega
  · intro frame inside
    rcases mem_append.mp inside with earlier | now
    · have := (ready.below frame earlier).1
      omega
    · exact lower frame now
  · intro final isFinal
    rw [List.getLast?_append] at isFinal
    cases newest : released.getLast? with
    | none =>
      rw [newest, Option.none_or] at isFinal
      have none := List.getLast?_eq_none_iff.mp newest
      have same : queue = left := by rw [split, none, List.nil_append]
      refine ⟨fun empty => absurd (same.trans empty) ready.nonempty, ?_⟩
      intro first isFirst
      exact ready.last final isFinal first (same ▸ isFirst)
    | some frame =>
      rw [newest, Option.some_or] at isFinal
      obtain rfl : frame = final := Option.some.inj isFinal
      have inside := List.mem_of_getLast? newest
      refine ⟨fun empty => ?_, fun first isFirst => ?_⟩
      · have whole : queue.getLast? = some frame := by
          rw [split, show left = [] from empty, append_nil, newest]
        exact ending empty frame whole (ready.ending frame whole)
      · exact ready.spread (ofReleased inside) (ofLeft (List.mem_of_head? isFirst))

end Ready

end Queue

section Steps

variable {Frame : Type} {seqNum : Frame → U16} {number : Frame → Nat} {start : Nat}
  {ctrl : ReorderCtrl Frame} {indicated : List Frame}

theorem Lifted.renumber {renumbered : Frame → Nat} (lifted : Lifted seqNum number start ctrl indicated)
    (queued : ∀ frame ∈ ctrl.pendingRecvframeQueue, renumbered frame = number frame)
    (passed : ∀ frame ∈ indicated, renumbered frame = number frame) :
    Lifted seqNum renumbered start ctrl indicated where
  __ := lifted
  queued frame inside := by
    rw [queued frame inside]
    exact lifted.queued frame inside
  passed frame inside := by
    rw [passed frame inside]
    exact lifted.passed frame inside
  sorted := lifted.sorted.imp_of_mem fun inFirst inSecond less => by
    rwa [queued _ inFirst, queued _ inSecond]
  inside frame inside := by
    rw [queued frame inside]
    exact lifted.inside frame inside
  steps := List.IsChain.imp_of_mem_imp (fun first second inFirst inSecond near => by
    rwa [passed first inFirst, passed second inSecond]) lifted.steps
  below frame inside := by
    rw [passed frame inside]
    exact lifted.below frame inside
  last last isLast := by
    rw [passed last (List.mem_of_getLast? isLast)]
    refine ⟨(lifted.last last isLast).1, fun first isFirst => ?_⟩
    rw [queued first (List.mem_of_head? isFirst)]
    exact (lifted.last last isLast).2 first isFirst

variable {prframe : Frame}

theorem Lifted.ready (lifted : Lifted seqNum number start ctrl indicated)
    {next : Nat} {lower higher : List Frame} (own : (seqNum prframe).toNat = number prframe % 4096)
    (from_ : start ≤ number prframe) (near : number prframe < start + 2048)
    (moved : number prframe = start ∧ next = start + 1 ∨
      start < number prframe ∧ number prframe < start + 64 ∧ next = start ∨
        start + 64 ≤ number prframe ∧ next + 63 = number prframe)
    (split : ctrl.pendingRecvframeQueue = lower ++ higher)
    (below : ∀ frame ∈ lower, number frame < number prframe)
    (above : ∀ frame ∈ higher, number prframe < number frame) :
    Ready seqNum number next (lower ++ prframe :: higher) indicated := by
  have sorted := lifted.sorted
  rw [split, pairwise_append] at sorted
  have members : ∀ {frame}, frame ∈ lower ++ prframe :: higher →
      frame = prframe ∨ frame ∈ ctrl.pendingRecvframeQueue := by
    intro frame inside
    rw [split]
    grind
  refine
    { lifted with
      queued := ?_
      sorted := ?_
      near := ?_
      below := ?_
      last := ?_
      ending := ?_
      nonempty := by simp }
  · intro frame inside
    rcases members inside with rfl | earlier
    · exact own
    · exact lifted.queued frame earlier
  · refine pairwise_append.mpr ⟨sorted.1, pairwise_cons.mpr ⟨above, sorted.2.1⟩, ?_⟩
    intro first inFirst second inSecond
    rcases mem_cons.mp inSecond with rfl | inSecond
    · exact below first inFirst
    · exact sorted.2.2 first inFirst second inSecond
  · intro frame inside
    rcases members inside with rfl | earlier
    · omega
    · have := lifted.inside frame earlier
      omega
  · intro frame inside
    have := lifted.below frame inside
    refine ⟨by omega, fun later inLater => ?_⟩
    rcases members inLater with rfl | earlier
    · omega
    · have := lifted.inside later earlier
      omega
  · intro last isLast first isFirst
    have known := lifted.last last isLast
    cases lower with
    | cons head rest =>
      refine known.2 first ?_
      rw [split]
      exact isFirst
    | nil =>
      cases isFirst
      cases higher with
      | nil =>
        have := known.1 split
        omega
      | cons head rest =>
        have := known.2 head (by rw [split]; rfl)
        have := above head mem_cons_self
        omega
  · intro final isFinal
    cases higher with
    | nil =>
      rw [List.getLast?_append, List.getLast?_singleton, Option.some_or] at isFinal
      cases isFinal
      omega
    | cons head rest =>
      rw [List.getLast?_append, List.getLast?_cons_cons,
        List.getLast?_eq_some_getLast (List.cons_ne_nil head rest), Option.some_or] at isFinal
      cases isFinal
      have := above _ (List.getLast_mem (List.cons_ne_nil head rest))
      omega

theorem Lifted.recv (lifted : Lifted seqNum number start ctrl indicated)
    (enabled : ctrl.enable = true) (small : (seqNum prframe).toNat < 4096)
    (notQueued : prframe ∉ ctrl.pendingRecvframeQueue) (notIndicated : prframe ∉ indicated) :
    ∃ renumbered next success released after,
      recvIndicatepktReorder seqNum ctrl prframe = (success, released, after) ∧
      start ≤ next ∧ (∀ frame, frame ≠ prframe → renumbered frame = number frame) ∧
      Lifted seqNum renumbered next after (indicated ++ released) ∧
      (∀ frame, frame ∈ released ∨ frame ∈ after.pendingRecvframeQueue ↔
        success = true ∧ frame = prframe ∨ frame ∈ ctrl.pendingRecvframeQueue) ∧
      after.enable = true ∧
      (after.pendingRecvframeQueue ≠ [] → after.reorderingCtrlTimer = true ∨
        success = false ∧ after.reorderingCtrlTimer = ctrl.reorderingCtrlTimer) := by
  classical
  obtain ⟨n, ofSeq, from_, cases_⟩ := checkIndicateSeq_lifted lifted.window lifted.wsizeB small
  have others : ∀ frame, frame ≠ prframe → Function.update number prframe n frame = number frame :=
    fun _ different => Function.update_of_ne different ..
  have own : Function.update number prframe n prframe = n := Function.update_self ..
  have renumbered : Lifted seqNum (Function.update number prframe n) start ctrl indicated :=
    lifted.renumber (fun frame inside => others frame fun same => notQueued (same ▸ inside))
      fun frame inside => others frame fun same => notIndicated (same ▸ inside)
  generalize Function.update number prframe n = renumbering at others own renumbered
  have ofOwn : (seqNum prframe).toNat = renumbering prframe % 4096 := by rw [own, ofSeq]
  split at cases_
  next far =>
    refine ⟨renumbering, start, false, [], ctrl, ?_, le_rfl, others, ?_, by simp, enabled, by simp⟩
    · simp only [recvIndicatepktReorder, enabled, cases_]
      rfl
    · rwa [append_nil]
  next near =>
    obtain ⟨indicateSeq, next, checked, window, moved⟩ := cases_
    have queue := enqueueReorderRecvframe_sorted renumbered.queued ofOwn renumbered.sorted
      fun frame inside => by
        have := renumbered.inside frame inside
        omega
    cases queued : enqueueReorderRecvframe seqNum prframe ctrl.pendingRecvframeQueue with
    | none =>
      rw [queued] at queue
      obtain ⟨frame, inside, same⟩ := queue
      have := renumbered.inside frame inside
      have stays : next = start := by omega
      refine ⟨renumbering, start, false, [], { ctrl with indicateSeq }, ?_, le_rfl, others, ?_,
        by simp, enabled, by simp⟩
      · simp only [recvIndicatepktReorder, enabled, checked, queued]
        rfl
      · rw [append_nil]
        exact { renumbered with window := stays ▸ window }
    | some after =>
      rw [queued] at queue
      obtain ⟨lower, higher, split, rfl, below, above⟩ := queue
      have ready := renumbered.ready ofOwn (by omega) (by omega) (by rwa [own]) split below above
      obtain ⟨last, released, left, result, whole, le, -, final⟩ :=
        ready.indicate window lifted.wsizeB
      refine ⟨renumbering, last, true, released,
        { ctrl with
          indicateSeq := (indicateInOrder seqNum indicateSeq (lower ++ prframe :: higher)).1
          pendingRecvframeQueue := left
          reorderingCtrlTimer := !left.isEmpty },
        ?_, by omega, others, { final with window := final.window }, ?_, enabled, ?_⟩
      · simp only [recvIndicatepktReorder, enabled, checked, queued, recvIndicatepktsInOrder, result]
        rfl
      · intro frame
        have both : frame ∈ released ∨ frame ∈ left ↔ frame ∈ lower ++ prframe :: higher := by
          rw [whole, mem_append]
        rw [both, split]
        grind
      · intro nonempty
        exact Or.inl (by simpa using nonempty)

theorem Lifted.timeout (lifted : Lifted seqNum number start ctrl indicated) :
    ∃ next, start ≤ next ∧ (ctrl.pendingRecvframeQueue ≠ [] → start < next) ∧
      Lifted seqNum number next (reorderingCtrlTimeoutHandler seqNum false ctrl).2
        (indicated ++ (reorderingCtrlTimeoutHandler seqNum false ctrl).1) := by
  cases queue : ctrl.pendingRecvframeQueue with
  | nil =>
    have nothing : reorderingCtrlTimeoutHandler seqNum false ctrl =
        ([], { ctrl with reorderingCtrlTimer := true }) := by
      simp only [reorderingCtrlTimeoutHandler, recvIndicatepktsInOrder, queue]
      rfl
    rw [nothing, append_nil]
    exact ⟨start, le_rfl, by simp, { lifted with window := lifted.window }⟩
  | cons first rest =>
    have inside : ∀ frame ∈ first :: rest, start < number frame ∧ number frame < start + 64 :=
      queue ▸ lifted.inside
    have queued : ∀ frame ∈ first :: rest, (seqNum frame).toNat = number frame % 4096 :=
      queue ▸ lifted.queued
    have sorted := lifted.sorted
    rw [queue] at sorted
    have lowest : ∀ frame ∈ first :: rest, number first ≤ number frame := by
      intro frame inFrame
      rcases mem_cons.mp inFrame with rfl | inRest
      · exact le_rfl
      · exact ((pairwise_cons.mp sorted).1 frame inRest).le
    have ahead := inside first mem_cons_self
    have ready : Ready seqNum number (number first) (first :: rest) indicated :=
      { queued
        passed := lifted.passed
        sorted
        near := by
          intro frame inFrame
          have := lowest frame inFrame
          have := inside frame inFrame
          omega
        steps := lifted.steps
        below := by
          intro frame inFrame
          have := lifted.below frame inFrame
          refine ⟨by omega, fun next inNext => ?_⟩
          have := lowest next inNext
          omega
        last := fun last isLast head isHead => (lifted.last last isLast).2 head (queue ▸ isHead)
        ending := by
          intro final isFinal
          have := lowest final (List.mem_of_getLast? isFinal)
          omega
        nonempty := by simp }
    obtain ⟨last, released, left, result, whole, le, -, final⟩ :=
      ready.indicate (queued first mem_cons_self) lifted.wsizeB
    have handled : reorderingCtrlTimeoutHandler seqNum false ctrl = (released,
        { ctrl with
          indicateSeq := (indicateInOrder seqNum (seqNum first) (first :: rest)).1
          pendingRecvframeQueue := left
          reorderingCtrlTimer := !left.isEmpty }) := by
      simp only [reorderingCtrlTimeoutHandler, recvIndicatepktsInOrder, queue, result]
      rfl
    rw [handled]
    exact ⟨last, by omega, fun _ => by omega, { final with window := final.window }⟩

theorem indicateInOrder_append (indicateSeq : U16) (queue : List Frame) :
    (indicateInOrder seqNum indicateSeq queue).2.1 ++ (indicateInOrder seqNum indicateSeq queue).2.2 =
      queue := by
  induction queue generalizing indicateSeq with
  | nil => rfl
  | cons prframe rest ih =>
    simp only [indicateInOrder]
    split
    · rfl
    · exact congrArg (prframe :: ·) (ih _)

theorem reorderingCtrlTimeoutHandler_keeps (seqNum : Frame → U16) (ctrl : ReorderCtrl Frame) :
    (reorderingCtrlTimeoutHandler seqNum false ctrl).1 ++
        (reorderingCtrlTimeoutHandler seqNum false ctrl).2.pendingRecvframeQueue =
      ctrl.pendingRecvframeQueue ∧
    (reorderingCtrlTimeoutHandler seqNum false ctrl).2.enable = ctrl.enable ∧
    (reorderingCtrlTimeoutHandler seqNum false ctrl).2.wsizeB = ctrl.wsizeB ∧
    ((reorderingCtrlTimeoutHandler seqNum false ctrl).2.pendingRecvframeQueue ≠ [] →
      (reorderingCtrlTimeoutHandler seqNum false ctrl).2.reorderingCtrlTimer = true) := by
  cases queue : ctrl.pendingRecvframeQueue with
  | nil => simp [reorderingCtrlTimeoutHandler, recvIndicatepktsInOrder, queue]
  | cons first rest =>
    have whole := @indicateInOrder_append Frame seqNum (seqNum first) (first :: rest)
    simp only [reorderingCtrlTimeoutHandler, recvIndicatepktsInOrder, queue]
    exact ⟨whole, rfl, rfl, fun nonempty => by simpa using nonempty⟩

end Steps

structure WindowOrder {Frame : Type} (seqNum : Frame → U16) (start : U16) (wsize : Nat)
    (queue : List Frame) : Prop where
  sorted : queue.Pairwise fun first second =>
    (seqNum first - start).toNat % 4096 < (seqNum second - start).toNat % 4096
  inside : ∀ frame ∈ queue,
    0 < (seqNum frame - start).toNat % 4096 ∧ (seqNum frame - start).toNat % 4096 < wsize

structure InOrder {Frame : Type} (seqNum : Frame → U16) (state : ReorderState Frame) : Prop where
  window : WindowOrder seqNum state.ctrl.indicateSeq state.ctrl.wsizeB.toNat
    state.ctrl.pendingRecvframeQueue
  increasing : state.indicated.IsChain fun first second =>
    snLess (seqNum first) (seqNum second) = true
  once : (state.indicated ++ state.ctrl.pendingRecvframeQueue).Nodup
  accepted : ∀ frame, frame ∈ state.accepted ↔
    frame ∈ state.indicated ∨ frame ∈ state.ctrl.pendingRecvframeQueue
  timer : state.ctrl.pendingRecvframeQueue ≠ [] → state.ctrl.reorderingCtrlTimer = true

section Agreement

variable {Frame : Type}

theorem seqU16_lt (seqNum : Frame → BitVec 12) (prframe : Frame) : (seqU16 seqNum prframe).toNat < 4096 := by
  have := (seqNum prframe).isLt
  rw [seqU16, BitVec.toNat_setWidth]
  omega

variable {seqNum : Frame → U16} {number : Frame → Nat} {start : Nat} {ctrl : ReorderCtrl Frame}
  {indicated : List Frame}

theorem Lifted.distance (lifted : Lifted seqNum number start ctrl indicated) {frame : Frame}
    (inside : frame ∈ ctrl.pendingRecvframeQueue) :
    (seqNum frame - ctrl.indicateSeq).toNat % 4096 = number frame - start := by
  have own := lifted.queued frame inside
  have window := lifted.window
  have near := lifted.inside frame inside
  bv_omega

theorem Lifted.windowOrder (lifted : Lifted seqNum number start ctrl indicated) :
    WindowOrder seqNum ctrl.indicateSeq ctrl.wsizeB.toNat ctrl.pendingRecvframeQueue where
  sorted := lifted.sorted.imp_of_mem fun {first second} inFirst inSecond less => by
    have := lifted.inside first inFirst
    rw [lifted.distance inFirst, lifted.distance inSecond]
    omega
  inside frame inside := by
    have := lifted.inside frame inside
    rw [lifted.distance inside, lifted.wsizeB]
    change _ ∧ _ < 64
    omega

theorem Lifted.increasing (lifted : Lifted seqNum number start ctrl indicated) :
    indicated.IsChain fun first second => snLess (seqNum first) (seqNum second) = true :=
  List.IsChain.imp_of_mem_imp (fun first second inFirst inSecond near =>
    snLess_of_lt (lifted.passed first inFirst) (lifted.passed second inSecond) near.1 near.2)
    lifted.steps

theorem Lifted.nodup (lifted : Lifted seqNum number start ctrl indicated) :
    (indicated ++ ctrl.pendingRecvframeQueue).Nodup := by
  have passed : (indicated.map number).Pairwise (· < ·) := by
    rw [← List.isChain_iff_pairwise, List.isChain_map]
    exact lifted.steps.imp fun _ _ near => near.1
  have all : (indicated ++ ctrl.pendingRecvframeQueue).Pairwise fun first second =>
      number first < number second := by
    refine pairwise_append.mpr ⟨List.pairwise_map.mp passed, lifted.sorted, ?_⟩
    intro first inFirst second inSecond
    have := lifted.below first inFirst
    have := lifted.inside second inSecond
    omega
  refine all.imp fun {first second} less same => ?_
  rw [same] at less
  exact lt_irrefl _ less

theorem WindowOrder.lifted (order : WindowOrder seqNum ctrl.indicateSeq 64 ctrl.pendingRecvframeQueue)
    (wsizeB : ctrl.wsizeB = 64) (small : ctrl.indicateSeq.toNat < 4096)
    (sequence : ∀ frame, (seqNum frame).toNat < 4096) :
    Lifted seqNum
      (fun frame => ctrl.indicateSeq.toNat + (seqNum frame - ctrl.indicateSeq).toNat % 4096)
      ctrl.indicateSeq.toNat ctrl [] where
  window := by omega
  wsizeB := wsizeB
  queued frame _ := by
    have := sequence frame
    bv_omega
  passed := by simp
  sorted := order.sorted.imp fun less => by omega
  inside frame inside := by
    have := order.inside frame inside
    omega
  steps := List.isChain_nil
  below := by simp
  last := by simp

end Agreement

section Runs

variable {Frame : Type} {seqNum : Frame → BitVec 12} {state before after : ReorderState Frame}

/-- When an agreement begins, the frames that are left in the queue are in the order of the new
window; and the driver is not stopped. -/
def ReorderCondition (seqNum : Frame → BitVec 12) (state : ReorderState Frame) : ReorderAction Frame → Prop
  | .addba startSeq true => WindowOrder (seqU16 seqNum) (startSeq.setWidth 16)
      state.ctrl.wsizeB.toNat state.ctrl.pendingRecvframeQueue
  | .stop => False
  | _ => True

structure ReorderInvariant (seqNum : Frame → BitVec 12) (state : ReorderState Frame) : Prop where
  wsizeB : state.ctrl.wsizeB = 64
  running : state.stopped = false
  timer : state.ctrl.pendingRecvframeQueue ≠ [] → state.ctrl.reorderingCtrlTimer = true
  received : ∀ frame, frame ∈ state.indicated ∨ frame ∈ state.ctrl.pendingRecvframeQueue →
    frame ∈ state.received
  accepted : state.ctrl.enable = true → ∀ frame, frame ∈ state.accepted ↔
    frame ∈ state.indicated ∨ frame ∈ state.ctrl.pendingRecvframeQueue
  lifted : state.ctrl.enable = true →
    ∃ number start, Lifted (seqU16 seqNum) number start state.ctrl state.indicated

theorem ReorderInvariant.recv_disabled (invariant : ReorderInvariant seqNum state) (prframe : Frame)
    (disabled : state.ctrl.enable = false) :
    ReorderInvariant seqNum (state.after (seqU16 seqNum) (.recv prframe)) := by
  have result : recvIndicatepktReorder (seqU16 seqNum) state.ctrl prframe =
      (true, [prframe], { state.ctrl with indicateSeq := (seqU16 seqNum prframe + 1) % 4096 }) := by
    simp only [recvIndicatepktReorder, disabled]
    rfl
  simp only [ReorderState.after, result, disabled]
  refine
    { invariant with
      received := ?_
      accepted := by simp
      lifted := by simp }
  intro frame inside
  have known := invariant.received frame
  simp only [Bool.false_and, if_neg Bool.false_ne_true, mem_append, List.mem_singleton]
    at inside ⊢
  grind

variable {prframe frame : Frame}

theorem ReorderInvariant.recv (invariant : ReorderInvariant seqNum state)
    (fresh : prframe ∉ state.received) (enabled : state.ctrl.enable = true)
    {number : Frame → Nat} {start : Nat}
    (lifted : Lifted (seqU16 seqNum) number start state.ctrl state.indicated) :
    ReorderInvariant seqNum (state.after (seqU16 seqNum) (.recv prframe)) ∧
      ∃ renumbered next, start ≤ next ∧ (∀ frame, frame ≠ prframe → renumbered frame = number frame) ∧
        Lifted (seqU16 seqNum) renumbered next
          (state.after (seqU16 seqNum) (.recv prframe)).ctrl
          (state.after (seqU16 seqNum) (.recv prframe)).indicated ∧
        (state.after (seqU16 seqNum) (.recv prframe)).ctrl.enable = true ∧
        ∀ frame, frame ≠ prframe →
          frame ∈ (state.after (seqU16 seqNum) (.recv prframe)).ctrl.pendingRecvframeQueue →
            frame ∈ state.ctrl.pendingRecvframeQueue := by
  obtain ⟨renumbered, next, success, released, ctrl, result, le, others, lifted, members, enable,
    timer⟩ := lifted.recv enabled (seqU16_lt seqNum prframe)
      (fun inside => fresh (invariant.received _ (Or.inr inside)))
      (fun inside => fresh (invariant.received _ (Or.inl inside)))
  have indicated : (if state.ctrl.enable && state.stopped then state.indicated
      else state.indicated ++ released) = state.indicated ++ released := by
    rw [invariant.running, Bool.and_false, if_neg Bool.false_ne_true]
  simp only [ReorderState.after, result, indicated]
  refine ⟨?_, renumbered, next, le, others, lifted, enable, ?_⟩
  · refine
      { wsizeB := lifted.wsizeB
        running := invariant.running
        timer := ?_
        received := ?_
        accepted := ?_
        lifted := fun _ => ⟨renumbered, next, lifted⟩ }
    · intro nonempty
      rcases timer nonempty with set | ⟨failed, same⟩
      · exact set
      · refine same.trans (invariant.timer fun empty => ?_)
        obtain ⟨frame, inside⟩ := List.exists_mem_of_ne_nil _ nonempty
        have here := (members frame).mp (Or.inr inside)
        simp [failed, empty] at here
    · intro frame inside
      have known := invariant.received frame
      have here := members frame
      grind
    · intro _ frame
      have known := invariant.accepted enabled frame
      have here := members frame
      cases success with
      | true =>
        rw [if_pos rfl, mem_append, mem_append, List.mem_singleton]
        simp only [true_and] at here
        grind
      | false =>
        rw [if_neg Bool.false_ne_true, mem_append]
        grind
  · intro frame different inside
    have here := (members frame).mp (Or.inr inside)
    grind

theorem ReorderInvariant.timeout (invariant : ReorderInvariant seqNum state) :
    ReorderInvariant seqNum (state.after (seqU16 seqNum) .timeout) := by
  obtain ⟨whole, enable, wsizeB, timer⟩ :=
    reorderingCtrlTimeoutHandler_keeps (seqU16 seqNum) state.ctrl
  have members : ∀ frame, frame ∈ (reorderingCtrlTimeoutHandler (seqU16 seqNum) false state.ctrl).1 ∨
      frame ∈ (reorderingCtrlTimeoutHandler (seqU16 seqNum) false
        state.ctrl).2.pendingRecvframeQueue ↔ frame ∈ state.ctrl.pendingRecvframeQueue := by
    intro frame
    rw [← mem_append, whole]
  simp only [ReorderState.after, invariant.running]
  refine
    { wsizeB := wsizeB.trans invariant.wsizeB
      running := rfl
      timer := timer
      received := ?_
      accepted := ?_
      lifted := ?_ }
  · intro frame inside
    have known := invariant.received frame
    have here := members frame
    simp only [mem_append] at inside
    grind
  · intro enabled frame
    have known := invariant.accepted (enable.symm.trans enabled) frame
    have here := members frame
    simp only [mem_append]
    grind
  · intro enabled
    obtain ⟨number, start, lifted⟩ := invariant.lifted (enable.symm.trans enabled)
    obtain ⟨next, -, -, moved⟩ := lifted.timeout
    exact ⟨number, next, moved⟩

theorem ReorderInvariant.addba (invariant : ReorderInvariant seqNum state) (startSeq : BitVec 12)
    (accept : Bool) (condition : ReorderCondition seqNum state (.addba startSeq accept)) :
    ReorderInvariant seqNum (state.after (seqU16 seqNum) (.addba startSeq accept)) := by
  refine
    { invariant with
      received := ?_
      accepted := ?_
      lifted := ?_ }
  · intro frame inside
    simp only [ReorderState.after, processAddbaReq, List.not_mem_nil, false_or] at inside
    exact invariant.received frame (Or.inr inside)
  · intro _ frame
    simp [ReorderState.after, processAddbaReq]
  · intro enabled
    have accepted : accept = true := enabled
    subst accepted
    have order : WindowOrder (seqU16 seqNum) (startSeq.setWidth 16) state.ctrl.wsizeB.toNat
      state.ctrl.pendingRecvframeQueue := condition
    rw [invariant.wsizeB] at order
    refine ⟨_, _, @WindowOrder.lifted _ _ (processAddbaReq state.ctrl startSeq true) order
      invariant.wsizeB ?_ (seqU16_lt seqNum)⟩
    have := startSeq.isLt
    change (startSeq.setWidth 16).toNat < 4096
    rw [BitVec.toNat_setWidth]
    omega

theorem ReorderInvariant.step {action : ReorderAction Frame} (invariant : ReorderInvariant seqNum before)
    (condition : ReorderCondition seqNum before action)
    (stepped : (reorderSystem seqNum).step before action after) : ReorderInvariant seqNum after := by
  obtain ⟨rfl, allowed⟩ := stepped
  cases action with
  | recv prframe =>
    cases enabled : before.ctrl.enable with
    | false => exact invariant.recv_disabled prframe enabled
    | true =>
      obtain ⟨number, start, lifted⟩ := invariant.lifted enabled
      exact (invariant.recv allowed enabled lifted).1
  | timeout => exact invariant.timeout
  | addba startSeq accept => exact invariant.addba startSeq accept condition
  | delba =>
    exact
      { invariant with
        accepted := fun enabled => absurd enabled (by simp [ReorderState.after, processDelba])
        lifted := fun enabled => absurd enabled (by simp [ReorderState.after, processDelba]) }
  | stop => exact condition.elim

theorem ReorderInvariant.inOrder (invariant : ReorderInvariant seqNum state)
    (enabled : state.ctrl.enable = true) : InOrder (seqU16 seqNum) state := by
  obtain ⟨number, start, lifted⟩ := invariant.lifted enabled
  exact ⟨lifted.windowOrder, lifted.increasing, lifted.nodup, invariant.accepted enabled, invariant.timer⟩

theorem reorderInvariant_of_reachable
    (reached : ((reorderSystem seqNum).restrict (ReorderCondition seqNum)).Reachable state) :
    ReorderInvariant seqNum state := by
  refine reached.invariant ?_ ?_
  · rintro state ⟨ctrl, running, received, indicated⟩
    exact
      { wsizeB := by rw [ctrl]
        running
        timer := by simp [ctrl]
        received := by simp [ctrl, indicated]
        accepted := by simp [ctrl]
        lifted := by simp [ctrl] }
  · intro before action after invariant stepped
    exact invariant.step stepped.1 stepped.2

theorem timeouts_append (first second : List (ReorderAction Frame)) :
    timeouts (first ++ second) = timeouts first + timeouts second := by
  induction first with
  | nil => simp [timeouts]
  | cons action rest ih =>
    cases action
    case timeout =>
      rw [List.cons_append, timeouts, timeouts, ih]
      omega
    all_goals exact ih

structure Followed (seqNum : Frame → BitVec 12) (frame : Frame) (n base count : Nat)
    (state : ReorderState Frame) : Prop where
  invariant : ReorderInvariant seqNum state
  enabled : state.ctrl.enable = true
  received : frame ∈ state.received
  moved : ∃ number start, Lifted (seqU16 seqNum) number start state.ctrl state.indicated ∧
    (frame ∈ state.ctrl.pendingRecvframeQueue → number frame = n ∧ base + count ≤ start)

variable {base count n : Nat}

theorem Followed.recv (followed : Followed seqNum frame n base count state) (fresh : prframe ∉ state.received) :
    Followed seqNum frame n base count (state.after (seqU16 seqNum) (.recv prframe)) := by
  obtain ⟨number, start, lifted, moved⟩ := followed.moved
  obtain ⟨invariant, renumbered, next, le, others, lifted, enabled, members⟩ :=
    followed.invariant.recv fresh followed.enabled lifted
  have different : frame ≠ prframe := fun same => fresh (same ▸ followed.received)
  refine ⟨invariant, enabled, mem_append_left _ followed.received, renumbered, next, lifted, ?_⟩
  intro inside
  obtain ⟨same, from_⟩ := moved (members frame different inside)
  exact ⟨(others frame different).trans same, from_.trans le⟩

theorem Followed.timeout (followed : Followed seqNum frame n base count state) :
    Followed seqNum frame n base (count + 1) (state.after (seqU16 seqNum) .timeout) := by
  obtain ⟨number, start, lifted, moved⟩ := followed.moved
  obtain ⟨whole, enable, -, -⟩ := reorderingCtrlTimeoutHandler_keeps (seqU16 seqNum) state.ctrl
  obtain ⟨next, le, up, lifted⟩ := lifted.timeout
  refine ⟨followed.invariant.timeout, ?_, followed.received, number, next, ?_, ?_⟩
  · simp only [ReorderState.after, followed.invariant.running]
    exact enable.trans followed.enabled
  · simp only [ReorderState.after, followed.invariant.running]
    exact lifted
  · simp only [ReorderState.after, followed.invariant.running]
    intro inside
    have before : frame ∈ state.ctrl.pendingRecvframeQueue := by
      rw [← whole]
      exact List.mem_append_right _ inside
    obtain ⟨same, from_⟩ := moved before
    have := up (List.ne_nil_of_mem before)
    exact ⟨same, by omega⟩

theorem leaves_queue {actions : List (ReorderAction Frame)}
    (invariant : ReorderInvariant seqNum before) (enabled : before.ctrl.enable = true)
    (inside : frame ∈ before.ctrl.pendingRecvframeQueue)
    (path : (reorderSystem seqNum).Path before actions after)
    (within : ∀ action ∈ actions, action.Within) (often : 63 ≤ timeouts actions) :
    frame ∉ after.ctrl.pendingRecvframeQueue := by
  obtain ⟨number, start, lifted⟩ := invariant.lifted enabled
  have near := lifted.inside frame inside
  have followed : Followed seqNum frame (number frame) start (timeouts actions) after := by
    clear often
    induction path with
    | nil =>
      exact ⟨invariant, enabled, invariant.received frame (Or.inr inside), number, start, lifted,
        fun _ => ⟨rfl, le_rfl⟩⟩
    | @step actions middle after action path stepped ih =>
      have followed := ih fun action known => within action (mem_append_left _ known)
      obtain ⟨rfl, allowed⟩ := stepped
      have last := within action (List.mem_append_right _ mem_cons_self)
      rw [timeouts_append]
      cases action with
      | recv prframe => exact followed.recv allowed
      | timeout => exact followed.timeout
      | addba startSeq accept => exact False.elim last
      | delba => exact False.elim last
      | stop => exact False.elim last
  intro left
  obtain ⟨renumbered, last, lifted, moved⟩ := followed.moved
  obtain ⟨same, from_⟩ := moved left
  have := lifted.inside frame left
  omega

/-- In runs in which the frames that are left when an agreement begins are in the order of its
window (none, for example), and in which the driver is not stopped, frames are handed up in
order and once, and each that is queued leaves the queue when the timer runs out often enough.
When an agreement begins, the queue has to be so for that. -/
theorem reorder_inOrder (seqNum : Frame → BitVec 12) (state : ReorderState Frame)
    (reached : ((reorderSystem seqNum).restrict (ReorderCondition seqNum)).Reachable state) :
    (state.ctrl.enable = true → InOrder (seqU16 seqNum) state ∧
      ∀ frame ∈ state.ctrl.pendingRecvframeQueue, ∀ actions after,
        (reorderSystem seqNum).Path state actions after → (∀ action ∈ actions, action.Within) →
          63 ≤ timeouts actions → frame ∉ after.ctrl.pendingRecvframeQueue) ∧
    ∀ startSeq, InOrder (seqU16 seqNum) (state.after (seqU16 seqNum) (.addba startSeq true)) ↔
      ReorderCondition seqNum state (.addba startSeq true) := by
  have invariant := reorderInvariant_of_reachable reached
  refine ⟨fun enabled => ⟨invariant.inOrder enabled, ?_⟩, fun startSeq => ⟨?_, ?_⟩⟩
  · intro frame inside actions after path within often
    exact leaves_queue invariant enabled inside path within often
  · intro inOrder
    exact inOrder.window
  · intro condition
    exact (invariant.addba startSeq true condition).inOrder rfl

def reorderStart : ReorderState Nat := ⟨⟨false, 0xffff, 64, [], false⟩, false, [], [], []⟩

def ownSeq (prframe : Nat) : BitVec 12 := BitVec.ofNat 12 prframe

theorem reorder_inOrder_wrap :
    ∃ state : ReorderState Nat, state.indicated = [4094, 4095] ∧ InOrder (seqU16 ownSeq) state := by
  let agreed := reorderStart.after (seqU16 ownSeq) (.addba 4094 true)
  let queued := agreed.after (seqU16 ownSeq) (.recv 4095)
  refine ⟨queued.after (seqU16 ownSeq) (.recv 4094), by decide, ((reorder_inOrder ownSeq _ ?_).1 (by decide)).1⟩
  refine .next (.recv 4094) (.next (.recv 4095) (.next (.addba 4094 true)
    (.initial ⟨rfl, rfl, rfl, rfl⟩) ⟨⟨?_, ?_⟩, rfl, trivial⟩) ⟨trivial, rfl, ?_⟩)
    ⟨trivial, rfl, ?_⟩
  · exact List.Pairwise.nil
  · simp [reorderStart]
  · simp [reorderStart, ReorderState.after]
  · decide

/-- A frame waits, and a second agreement begins with another window: the frame stays in the
queue, out of the window. -/
theorem reorder_inOrder_fails : ∃ state : ReorderState Nat, (reorderSystem ownSeq).Reachable state ∧
      state.ctrl.enable = true ∧ ¬ InOrder (seqU16 ownSeq) state := by
  let agreed := reorderStart.after (seqU16 ownSeq) (.addba 0 true)
  let queued := agreed.after (seqU16 ownSeq) (.recv 5)
  refine ⟨queued.after (seqU16 ownSeq) (.addba 100 true), ?_, by decide, fun inOrder => ?_⟩
  · refine .next (.addba 100 true) (.next (.recv 5) (.next (.addba 0 true)
      (.initial ⟨rfl, rfl, rfl, rfl⟩) ⟨rfl, trivial⟩) ⟨rfl, ?_⟩) ⟨rfl, trivial⟩
    simp [reorderStart, ReorderState.after]
  · have inside := (inOrder.window.inside 5 (by decide)).2
    revert inside
    decide

end Runs

end Floid.Wifi
