import Floid.Engine.Trackers
import Mathlib.Data.List.ReduceOption

namespace Floid.Engine

open Osk Lib

def Covers : Nat → List Tracker → Nat → Prop
  | start, [], stop => start = stop
  | start, tracker :: rest, stop =>
      tracker.start = start ∧ Covers (start + tracker.length) rest stop

theorem Covers.append {start middle stop : Nat} {first : List Tracker} {last : Tracker}
    (covers : Covers start first middle) (starts : last.start = middle)
    (ends : middle + last.length = stop) : Covers start (first ++ [last]) stop := by
  induction first generalizing start with
  | nil =>
    obtain rfl : start = middle := covers
    exact ⟨starts, ends⟩
  | cons tracker rest ih => exact ⟨covers.1, ih covers.2⟩

structure Committed (before memory : PhysicalMemory) (tables : Nat → List PageTableMemory)
    (tablePages : Nat → Nat) (held trackers : List Tracker) (intoUserspace : Bool)
    (pages : List U32) : Prop where
  holds : memory.Holds tables tablePages (trackers ++ held)
  kept : before.Kept memory held
  backs : ∀ tracker ∈ trackers, memory.Backs tracker
  pages : pages.Perm (trackers.flatMap (Tracker.pageOffsets intoUserspace))

def EngineDescriptor.Covered (descriptor : EngineDescriptor) (trackers : List Tracker) : Prop :=
  ∃ stop, Covers 0 trackers stop ∧ descriptor.size.toNat ≤ stop ∧ stop < descriptor.size.toNat + 0x1000

section Calls

variable {before memory : PhysicalMemory} {tables : Nat → List PageTableMemory}
  {tablePages : Nat → Nat} {held trackers : List Tracker} {descriptor : EngineDescriptor}
  {offset : U32} {pages : List U32}

theorem reduceOption_filled : (trackers.map some).reduceOption = trackers := by
  rw [List.reduceOption, List.filterMap_map]
  exact List.filterMap_some

theorem reduceOption_blank : (trackers.map some ++ [none]).reduceOption = trackers := by
  rw [List.reduceOption_append, reduceOption_filled]
  exact List.append_nil _

theorem Committed.start (holds : memory.Holds tables tablePages held) (intoUserspace : Bool) :
    Committed memory memory tables tablePages held [] intoUserspace [] :=
  ⟨holds, .refl, by simp, .refl _⟩

theorem Committed.ask {outcome : ProviderOutcome}
    (committed : Committed before memory tables tablePages held trackers descriptor.intoUserspace pages)
    (given : outcome.Given memory tables tablePages (trackers ++ held) descriptor offset pages) :
    Committed before outcome.memory tables tablePages held (trackers ++ outcome.tracker.toList)
      descriptor.intoUserspace outcome.pages where
  holds := by
    refine given.holds.perm ?_
    rw [← List.append_assoc]
    exact List.perm_append_comm.append_right held
  kept := committed.kept.trans (given.kept.fewer fun _ => List.mem_append_right _)
  backs tracker member := by
    rcases List.mem_append.mp member with earlier | new
    · exact given.kept.backs (List.mem_append_left _ earlier) (committed.backs tracker earlier)
    · exact given.backs tracker (Option.mem_toList.mp new)
  pages := by
    rw [List.flatMap_append]
    exact given.pages.trans ((committed.pages.append_left _).trans List.perm_append_comm)

theorem commitMemory_spec (requests : Nat → ProviderRequest) (providers : List Provider) (asked : Nat)
    (committed : Committed before memory tables tablePages held trackers descriptor.intoUserspace pages)
    (covers : Covers 0 trackers offset.toNat) (inside : offset ≤ descriptor.size) :
    ∃ finished after left chain,
      commitMemory requests descriptor providers asked (trackers.map some) offset memory pages =
        some (finished, after, left, chain) ∧
      Committed before after tables tablePages held chain.reduceOption descriptor.intoUserspace
        left ∧
      (finished = true → chain = chain.reduceOption.map some ∧ descriptor.Covered chain.reduceOption) := by
  induction providers generalizing asked trackers offset memory pages with
  | nil =>
    refine ⟨false, memory, pages, _, rfl, ?_, nofun⟩
    rw [reduceOption_blank]
    exact committed
  | cons provider rest ih =>
    obtain ⟨outcome, ran, given⟩ := committed.holds.ask provider (requests asked) inside pages
    have next := committed.ask given
    have answers := given.answers
    obtain ⟨result, after, reached, tracker, left⟩ := outcome
    dsimp only at next answers
    rw [commitMemory, ran]
    dsimp only
    cases answers with
    | @finished new _ starts reaches within =>
      have shape : trackers.map some ++ [some new] = (trackers ++ [new]).map some := by simp
      refine ⟨true, after, left, _, rfl, ?_, fun _ => ?_⟩
      · rw [shape, reduceOption_filled]
        exact next
      · rw [shape, reduceOption_filled]
        exact ⟨rfl, _, covers.append starts rfl, reaches, within⟩
    | @continues new _ starts ends within =>
      have shape : trackers.map some ++ [some new] = (trackers ++ [new]).map some := by simp
      dsimp only
      rw [shape]
      split
      · exact ih _ next (covers.append starts ends.symm) within
      · refine ⟨false, after, left, _, rfl, ?_, nofun⟩
        rw [reduceOption_filled]
        exact next
    | nothing =>
      simp only [Option.toList_none, List.append_nil] at next
      exact ih _ next covers inside
    | failed =>
      refine ⟨false, after, left, _, rfl, ?_, nofun⟩
      rw [Option.toList_none, List.append_nil] at next
      rw [reduceOption_blank]
      exact next

theorem cleanUp_spec {mutexes : Nat → Bool} {intoUserspace : Bool} {position : Nat}
    {chain : List (Option Tracker)} (gets : ∀ position, mutexes position = true)
    (holds : memory.Holds tables tablePages (chain.reduceOption ++ held))
    (split : pages.Perm (chain.reduceOption.flatMap (Tracker.pageOffsets intoUserspace))) :
    ∃ after, cleanUp mutexes intoUserspace position chain memory pages = some (after, []) ∧
      after.Holds tables tablePages held ∧ memory.Kept after held := by
  induction chain generalizing position memory pages with
  | nil =>
    obtain rfl : pages = [] := split.eq_nil
    exact ⟨memory, rfl, holds, .refl⟩
  | cons first rest ih =>
    cases first with
    | none => exact ih holds split
    | some tracker =>
      rw [List.reduceOption_cons_of_some] at holds split
      rw [List.flatMap_cons] at split
      obtain ⟨released, left, ran, holdsNext, kept, splitNext⟩ := holds.release split
      obtain ⟨after, cleaned, holdsAfter, keptAfter⟩ := ih holdsNext splitNext
      refine ⟨after, ?_, holdsAfter, (kept.fewer fun _ => List.mem_append_right _).trans keptAfter⟩
      rw [cleanUp, gets, ran]
      exact cleaned

theorem releaseTrackers_filled (mutexes : Nat → Bool) (intoUserspace : Bool) (position : Nat) :
    releaseTrackers mutexes intoUserspace position (trackers.map some) memory pages =
      cleanUp mutexes intoUserspace position (trackers.map some) memory pages := by
  induction trackers generalizing position memory pages with
  | nil => rfl
  | cons tracker rest ih =>
    rw [List.map_cons, releaseTrackers, cleanUp]
    split
    · exact ih _
    · rfl

end Calls

def EngineAllocation.trackers (allocation : EngineAllocation) : List Tracker :=
  allocation.chain.reduceOption

structure EngineAllocation.Complete (allocation : EngineAllocation) (memory : PhysicalMemory) : Prop where
  filled : allocation.chain = allocation.trackers.map some
  covered : allocation.descriptor.Covered allocation.trackers
  backs : ∀ tracker ∈ allocation.trackers, memory.Backs tracker
  pages : allocation.pages.Perm (allocation.trackers.flatMap
    (Tracker.pageOffsets allocation.descriptor.intoUserspace))
  calls : allocation.calls = ⟨1, 0, if allocation.descriptor.intoUserspace then 1 else 0, 0⟩

def EngineOutcome.allocation (outcome : EngineOutcome) (descriptor : EngineDescriptor) : EngineAllocation :=
  ⟨descriptor, outcome.chain, outcome.pages, outcome.calls⟩

/-- What a failed call is like: the same memory is free as before, and each address
space that was set up has been released once. -/
structure EngineOutcome.RolledBack (outcome : EngineOutcome) (before : PhysicalMemory) : Prop where
  failed : outcome.result = .fault
  blocks : ∀ index, (outcome.memory.blocks index).freeList.Perm (before.blocks index).freeList
  counts : ∀ index, (outcome.memory.os index).numPagesAllocated = (before.os index).numPagesAllocated
  pages : outcome.pages = []
  maliAddress : outcome.calls.maliAllocated ≤ 1 ∧ outcome.calls.maliReleased = outcome.calls.maliAllocated
  processAddress : outcome.calls.processAllocated ≤ 1 ∧
    outcome.calls.processReleased = outcome.calls.processAllocated

section Engine

variable {memory : PhysicalMemory} {tables : Nat → List PageTableMemory} {tablePages : Nat → Nat}
  {held : List Tracker}

theorem EngineOutcome.RolledBack.unasked {calls : AddressSpaceCalls} {chain : List (Option Tracker)}
    (mali : calls.maliAllocated ≤ 1 ∧ calls.maliReleased = calls.maliAllocated)
    (process : calls.processAllocated ≤ 1 ∧ calls.processReleased = calls.processAllocated) :
    EngineOutcome.RolledBack ⟨.fault, memory, [], chain, calls⟩ memory :=
  ⟨rfl, fun _ => .refl _, fun _ => rfl, rfl, mali, process⟩

theorem engineAllocateMemory_spec (holds : memory.Holds tables tablePages held)
    (request : EngineRequest) (descriptor : EngineDescriptor) (providers : List Provider)
    (gets : ∀ position, request.mutexes position = true) :
    ∃ outcome, engineAllocateMemory request descriptor providers memory = some outcome ∧
      memory.Kept outcome.memory held ∧
      (outcome.result = .ok ∧
          outcome.memory.Holds tables tablePages ((outcome.allocation descriptor).trackers ++ held) ∧
          (outcome.allocation descriptor).Complete outcome.memory ∨
        outcome.memory.Holds tables tablePages held ∧ outcome.RolledBack memory) := by
  have once : (if descriptor.intoUserspace then 1 else 0) ≤ 1 := by split <;> omega
  unfold engineAllocateMemory
  dsimp only
  by_cases mali : request.maliAddress = true
  · rw [if_pos mali]
    by_cases process : (descriptor.intoUserspace && !request.processAddress) = true
    · rw [if_pos process]
      exact ⟨_, rfl, .refl, .inr ⟨holds, .unasked ⟨Nat.le_refl 1, rfl⟩ ⟨Nat.zero_le 1, rfl⟩⟩⟩
    · rw [if_neg process]
      obtain ⟨finished, committedMemory, pages, chain, ran, committed, covered⟩ :=
        @commitMemory_spec _ _ _ _ _ [] descriptor 0 _ request.providers providers 0
          (Committed.start holds descriptor.intoUserspace) rfl (Nat.zero_le descriptor.size.toNat)
      rw [List.map_nil] at ran
      rw [ran]
      cases finished with
      | true =>
        obtain ⟨filled, reaches⟩ := covered rfl
        exact ⟨_, rfl, committed.kept, .inl ⟨rfl, committed.holds, filled, reaches,
          committed.backs, committed.pages, rfl⟩⟩
      | false =>
        obtain ⟨after, cleaned, holdsAfter, kept⟩ :=
          @cleanUp_spec _ _ _ _ _ request.mutexes _ 0 _ gets committed.holds committed.pages
        have keptAll := committed.kept.trans kept
        have returned := @PhysicalMemory.Holds.returned _ _ _ _ _ [] holds holdsAfter keptAll
        refine ⟨_, congrArg (Option.map _) cleaned, keptAll, .inr ⟨holdsAfter, rfl,
          fun index => ?_, fun index => (returned index).2, rfl, ⟨Nat.le_refl 1, rfl⟩, once, rfl⟩⟩
        exact (returned index).1.trans (List.Perm.of_eq (List.append_nil _))
  · rw [if_neg mali]
    exact ⟨_, rfl, .refl, .inr ⟨holds, .unasked ⟨Nat.zero_le 1, rfl⟩ ⟨Nat.zero_le 1, rfl⟩⟩⟩

structure EngineAllocation.Returned (allocation : EngineAllocation) (before after : PhysicalMemory) : Prop where
  blocks : ∀ index, (after.blocks index).freeList.Perm ((before.blocks index).freeList ++
    (blockHandles index allocation.trackers).flatMap
      fun handle => (before.blocks index).blocksOf handle.lastAllocated)
  once : ∀ index, (after.blocks index).freeList.Nodup
  counts : ∀ index, (after.os index).numPagesAllocated +
    (allocation.trackers.map (Tracker.osPages index)).sum = (before.os index).numPagesAllocated

theorem engineReleaseMemory_spec {allocation : EngineAllocation} {mutexes : Nat → Bool}
    (holds : memory.Holds tables tablePages (allocation.trackers ++ held))
    (complete : allocation.Complete memory) (gets : ∀ position, mutexes position = true) :
    ∃ after, engineReleaseMemory mutexes allocation memory =
        some (after, [], ⟨1, 1, allocation.calls.processAllocated, allocation.calls.processAllocated⟩) ∧
      after.Holds tables tablePages held ∧ memory.Kept after held ∧
      allocation.Returned memory after := by
  obtain ⟨after, cleaned, holdsAfter, kept⟩ :=
    @cleanUp_spec _ _ _ _ _ mutexes allocation.descriptor.intoUserspace 0 allocation.chain gets holds
      complete.pages
  refine ⟨after, ?_, holdsAfter, kept, fun index => (holds.returned holdsAfter kept index).1,
    fun index => ?_, fun index => (holds.returned holdsAfter kept index).2⟩
  · rw [complete.filled] at cleaned
    unfold engineReleaseMemory
    rw [complete.filled, releaseTrackers_filled, cleaned, complete.calls]
    simp
  · have nodup := (holdsAfter.pools index).nodup
    exact (List.nodup_append.mp (List.nodup_append.mp nodup).1).1

end Engine

end Floid.Engine
