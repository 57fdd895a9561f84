import Floid.Engine.Transaction

namespace Floid.Engine

open Floid.Osk Floid.Lib EngineAllocation
open Function (update)

structure EngineState where
  memory : PhysicalMemory
  live : List EngineAllocation
  tables : Nat → List PageTableMemory
  osTables : Nat → Nat

inductive EngineAction where
  | allocate (request : EngineRequest) (descriptor : EngineDescriptor) (providers : List Provider)
  | release (allocation : EngineAllocation) (mutexes : Nat → Bool)
  | allocatePageTableBlock (provider : Provider) (mutex available : Bool)
  | releaseBlockTable (index : Nat) (memory : PageTableMemory) (mutex : Bool)
  | releaseOsTable (index : Nat)

inductive EngineStep : EngineState → EngineAction → EngineState → Prop where
  | allocated {state request descriptor providers outcome}
      (ran : engineAllocateMemory request descriptor providers state.memory = some outcome)
      (made : outcome.result = .ok) :
      EngineStep state (.allocate request descriptor providers)
        { state with memory := outcome.memory, live := outcome.allocation descriptor :: state.live }
  | failed {state request descriptor providers outcome}
      (ran : engineAllocateMemory request descriptor providers state.memory = some outcome)
      (fault : outcome.result = .fault) :
      EngineStep state (.allocate request descriptor providers)
        { state with memory := outcome.memory }
  | released {state allocation mutexes memory pages calls before after}
      (out : state.live = before ++ allocation :: after)
      (ran : engineReleaseMemory mutexes allocation state.memory = some (memory, pages, calls)) :
      EngineStep state (.release allocation mutexes) { state with memory, live := before ++ after }
  | blockTableAllocated {state index mutex mapped result memory allocator}
      (ran : blockAllocatorAllocatePageTableBlock mutex mapped (state.memory.blocks index) =
        (result, memory, allocator)) :
      EngineStep state (.allocatePageTableBlock (.block index) mutex mapped)
        { state with
          memory := state.memory.setBlocks index allocator
          tables := update state.tables index (memory.toList ++ state.tables index) }
  | osTableAllocated {state index checkAllocated available result allocator}
      (ran : osAllocatorAllocatePageTableBlock checkAllocated available (state.memory.os index) =
        (result, allocator)) :
      EngineStep state (.allocatePageTableBlock (.os index) checkAllocated available)
        { state with
          memory := state.memory.setOs index allocator
          osTables := update state.osTables index
            (state.osTables index + if result = .allocFinished then 1 else 0) }
  | blockTableReleased {state index memory mutex allocator before after}
      (out : state.tables index = before ++ memory :: after)
      (ran : blockAllocatorReleasePageTableBlock mutex memory (state.memory.blocks index) = some allocator) :
      EngineStep state (.releaseBlockTable index memory mutex)
        { state with
          memory := state.memory.setBlocks index allocator
          tables := update state.tables index (before ++ after) }
  | osTableReleased {state index} (out : 0 < state.osTables index) :
      EngineStep state (.releaseOsTable index)
        { state with
          memory := state.memory.setOs index
            (osAllocatorPageTableBlockRelease (state.memory.os index))
          osTables := update state.osTables index (state.osTables index - 1) }

def engineSystem : TransitionSystem EngineState EngineAction where
  initial state :=
    state.live = [] ∧ (state.tables = fun _ => []) ∧ (state.osTables = fun _ => 0) ∧
      (∀ index, (state.memory.os index).numPagesAllocated = 0) ∧
      ∀ index, ∃ base cpuUsageAdjust size links,
        BlockAllocator.create base cpuUsageAdjust size true links = some (state.memory.blocks index)
  step := EngineStep

/-- No wait for the mutex of a block allocator is interrupted in a release, be it one
of an allocation, of a page table, or in the cleanup of a failed call. -/
def ReleasesGetMutex : EngineState → EngineAction → Prop
  | _, .allocate request _ _ => ∀ position, request.mutexes position = true
  | _, .release _ mutexes => ∀ position, mutexes position = true
  | _, .releaseBlockTable _ _ mutex => mutex = true
  | _, _ => True

structure EngineState.Sound (state : EngineState) : Prop where
  holds : state.memory.Holds state.tables (fun index => pageTableBlockPages * state.osTables index)
    (state.live.flatMap EngineAllocation.trackers)
  complete : ∀ allocation ∈ state.live, allocation.Complete state.memory

theorem EngineAllocation.Complete.kept {allocation : EngineAllocation} {memory after : PhysicalMemory}
    {held : List Tracker} (complete : allocation.Complete memory) (kept : memory.Kept after held)
    (holds : ∀ tracker ∈ allocation.trackers, tracker ∈ held) : allocation.Complete after :=
  { complete with
    backs := fun tracker member => kept.backs (holds tracker member) (complete.backs tracker member) }

namespace EngineState.Sound

variable {before after : EngineState} {request : EngineRequest} {descriptor : EngineDescriptor}
  {providers : List Provider}

theorem trackers_out {live : List EngineAllocation} {allocation : EngineAllocation} (member : allocation ∈ live) :
    ∀ tracker ∈ allocation.trackers, tracker ∈ live.flatMap trackers :=
  fun _ inside => List.mem_flatMap.mpr ⟨allocation, member, inside⟩

theorem tablesChanged (sound : before.Sound) {memory : PhysicalMemory}
    {tables : Nat → List PageTableMemory} {osTables : Nat → Nat}
    (holds : memory.Holds tables (fun index => pageTableBlockPages * osTables index) (before.live.flatMap trackers))
    (kept : before.memory.Kept memory (before.live.flatMap trackers)) :
    EngineState.Sound ⟨memory, before.live, tables, osTables⟩ where
  holds := holds
  complete allocation member := (sound.complete allocation member).kept kept (trackers_out member)

theorem osTablesChanged (sound : before.Sound) {index count : Nat} {allocator : OsAllocator}
    (counted : allocator.numPagesAllocated + pageTableBlockPages * before.osTables index =
      (before.memory.os index).numPagesAllocated + pageTableBlockPages * count) :
    EngineState.Sound ⟨before.memory.setOs index allocator, before.live, before.tables,
      update before.osTables index count⟩ := by
  refine sound.tablesChanged ?_ (PhysicalMemory.setOs_kept index allocator)
  have same : (fun other => pageTableBlockPages * update before.osTables index count other) =
      update (fun other => pageTableBlockPages * before.osTables other) index
        (pageTableBlockPages * count) := by
    funext other
    by_cases this : other = index
    · subst this
      rw [Function.update_self, Function.update_self]
    · rw [Function.update_of_ne this, Function.update_of_ne this]
  rw [same]
  exact sound.holds.setOs counted

theorem called (sound : before.Sound) (gets : ∀ position, request.mutexes position = true) :
    ∃ outcome, engineAllocateMemory request descriptor providers before.memory = some outcome ∧
      (outcome.result = .ok ∧ (outcome.allocation descriptor).Complete outcome.memory ∧
          EngineState.Sound { before with
            memory := outcome.memory
            live := outcome.allocation descriptor :: before.live } ∨
        outcome.RolledBack before.memory ∧ EngineState.Sound { before with memory := outcome.memory }) := by
  obtain ⟨outcome, ran, kept, ended⟩ :=
    engineAllocateMemory_spec sound.holds request descriptor providers gets
  have others (allocation : EngineAllocation) (member : allocation ∈ before.live) :
      allocation.Complete outcome.memory :=
    (sound.complete allocation member).kept kept (trackers_out member)
  refine ⟨outcome, ran, ?_⟩
  rcases ended with ⟨made, holds, complete⟩ | ⟨holds, back⟩
  · refine .inl ⟨made, complete, holds, fun allocation member => ?_⟩
    rcases List.mem_cons.mp member with rfl | earlier
    · exact complete
    · exact others allocation earlier
  · exact .inr ⟨back, holds, others⟩

theorem released (sound : before.Sound) {allocation : EngineAllocation}
    {early late : List EngineAllocation} (out : before.live = early ++ allocation :: late)
    {mutexes : Nat → Bool} (gets : ∀ position, mutexes position = true) :
    ∃ memory, engineReleaseMemory mutexes allocation before.memory = some (memory, [],
        ⟨1, 1, allocation.calls.processAllocated, allocation.calls.processAllocated⟩) ∧
      allocation.Returned before.memory memory ∧
      EngineState.Sound { before with memory, live := early ++ late } := by
  have first : (before.live.flatMap trackers).Perm
      (allocation.trackers ++ (early ++ late).flatMap trackers) := by
    rw [out, List.flatMap_append, List.flatMap_cons, List.flatMap_append]
    exact List.perm_append_comm_assoc _ _ _
  have member : allocation ∈ before.live := by simp [out]
  obtain ⟨memory, ran, holds, kept, returned⟩ :=
    engineReleaseMemory_spec (sound.holds.perm first) (sound.complete allocation member) gets
  refine ⟨memory, ran, returned, holds, fun other stays => ?_⟩
  refine (sound.complete other ?_).kept kept (trackers_out stays)
  rw [out]
  rcases List.mem_append.mp stays with inEarly | inLate
  · exact List.mem_append_left _ inEarly
  · exact List.mem_append_right _ (List.mem_cons_of_mem _ inLate)

theorem step {action : EngineAction} (sound : before.Sound) (gets : ReleasesGetMutex before action)
    (stepped : EngineStep before action after) : after.Sound := by
  cases stepped with
  | @allocated request descriptor providers outcome ran made =>
    obtain ⟨result, resultRan, ended⟩ := sound.called gets
    rw [ran, Option.some.injEq] at resultRan
    subst resultRan
    rcases ended with ⟨_, _, next⟩ | ⟨back, _⟩
    · exact next
    · have failed := back.failed
      rw [made] at failed
      cases failed
  | @failed request descriptor providers outcome ran fault =>
    obtain ⟨result, resultRan, ended⟩ := sound.called gets
    rw [ran, Option.some.injEq] at resultRan
    subst resultRan
    rcases ended with ⟨made, _⟩ | ⟨_, next⟩
    · rw [fault] at made
      cases made
    · exact next
  | released out ran =>
    obtain ⟨memory, memoryRan, _, next⟩ := sound.released out gets
    rw [ran, Option.some.injEq, Prod.mk.injEq] at memoryRan
    rwa [memoryRan.1]
  | blockTableAllocated ran =>
    obtain ⟨pool, kept⟩ := (sound.holds.pools _).allocatePageTableBlock _ _ ran
    exact sound.tablesChanged (sound.holds.setBlocks pool)
      (PhysicalMemory.setBlocks_kept (blockAllocatorAllocatePageTableBlock_sameRange ran) kept)
  | @osTableAllocated index checkAllocated available result allocator ran =>
    refine sound.osTablesChanged ?_
    unfold osAllocatorAllocatePageTableBlock at ran
    split at ran
    · cases ran
      rfl
    · split at ran
      · cases ran
        rw [if_pos rfl, Nat.mul_succ]
        dsimp only
        omega
      · cases ran
        rfl
  | blockTableReleased out ran =>
    obtain ⟨result, resultRan, pool, kept⟩ := (sound.holds.pools _).releasePageTableBlock out
    obtain rfl := gets
    rw [ran, Option.some.injEq] at resultRan
    subst resultRan
    exact sound.tablesChanged (sound.holds.setBlocks pool)
      (PhysicalMemory.setBlocks_kept (@blockAllocatorRelease_sameRange true ⟨some _, 0, 0⟩ _ _ ran) kept)
  | @osTableReleased index out =>
    refine sound.osTablesChanged ?_
    have counted := sound.holds.pages index
    obtain ⟨fewer, more⟩ : ∃ fewer, before.osTables index = fewer + 1 :=
      Nat.exists_eq_add_one.mpr out
    rw [more, Nat.mul_succ] at counted ⊢
    unfold osAllocatorPageTableBlockRelease
    dsimp only
    rw [Nat.add_sub_cancel]
    omega

theorem initial (starts : engineSystem.initial after) : after.Sound := by
  obtain ⟨live, tables, osTables, counts, created⟩ := starts
  obtain ⟨memory, _, _, _⟩ := after
  cases live
  cases tables
  cases osTables
  refine ⟨⟨fun index => ?_, fun index => ?_⟩, by simp⟩
  · obtain ⟨base, cpuUsageAdjust, size, links, made⟩ := created index
    exact create_partitioned made
  · exact counts index

end EngineState.Sound

/-- While every release gets the mutex, a call of the engine makes a complete
allocation or leaves everything as it was, and the release of an allocation makes its
blocks free again, each once. -/
theorem engine_transactions {state : EngineState}
    (reached : (engineSystem.restrict ReleasesGetMutex).Reachable state) :
    (∀ request descriptor providers, (∀ position, request.mutexes position = true) →
      ∃ outcome, engineAllocateMemory request descriptor providers state.memory = some outcome ∧
        (outcome.result = .ok ∧ (outcome.allocation descriptor).Complete outcome.memory ∨
          outcome.RolledBack state.memory)) ∧
      ∀ allocation ∈ state.live, allocation.Complete state.memory ∧
        ∀ mutexes, (∀ position, mutexes position = true) →
          ∃ memory, engineReleaseMemory mutexes allocation state.memory = some (memory, [],
              ⟨1, 1, allocation.calls.processAllocated, allocation.calls.processAllocated⟩) ∧
            allocation.Returned state.memory memory := by
  have sound : state.Sound := by
    refine reached.invariant (fun _ starts => EngineState.Sound.initial starts) ?_
    intro before action after holds stepped
    exact holds.step stepped.1 stepped.2
  refine ⟨fun request descriptor providers gets => ?_, fun allocation member => ?_⟩
  · obtain ⟨outcome, ran, ended⟩ := sound.called gets
    exact ⟨outcome, ran, ended.imp (fun made => ⟨made.1, made.2.1⟩) And.left⟩
  · refine ⟨sound.complete allocation member, fun mutexes gets => ?_⟩
    obtain ⟨early, late, out⟩ := List.append_of_mem member
    obtain ⟨memory, ran, returned, _⟩ := sound.released out gets
    exact ⟨memory, ran, returned⟩

def freshMemory : PhysicalMemory where
  blocks _ := oneBlock.allocator
  os _ := ⟨4, 0, 0⟩

def freshState : EngineState := ⟨freshMemory, [], fun _ => [], fun _ => 0⟩

theorem freshState_initial : engineSystem.initial freshState :=
  ⟨rfl, rfl, rfl, fun _ => rfl, fun _ => ⟨0x80000000#32, 0, 0x40000#32, fun _ => some 7, rfl⟩⟩

def unhindered (mutex : Bool) : EngineRequest where
  maliAddress := true
  processAddress := true
  providers _ := ⟨undisturbed, ⟨true, fun _ => true, fun _ => .ok⟩, true⟩
  mutexes _ := mutex

def blockAndPage : EngineDescriptor := ⟨0x41000#32, true⟩

def blockAndPageOutcome : EngineOutcome :=
  (engineAllocateMemory (unhindered true) blockAndPage [.block 0, .os 0] freshMemory).get rfl

def blockAndPageState : EngineState :=
  { freshState with
    memory := blockAndPageOutcome.memory
    live := [blockAndPageOutcome.allocation blockAndPage] }

theorem engine_transactions_released : (blockAndPageState.memory.blocks 0).freeList = [] ∧
      ∃ memory, engineReleaseMemory (fun _ => true)
          (blockAndPageOutcome.allocation blockAndPage) blockAndPageState.memory =
        some (memory, [], ⟨1, 1, 1, 1⟩) ∧
        (blockAndPageOutcome.allocation blockAndPage).Returned blockAndPageState.memory memory := by
  have reached : (engineSystem.restrict ReleasesGetMutex).Reachable blockAndPageState :=
    TransitionSystem.Reachable.next
      (.allocate (unhindered true) blockAndPage [.block 0, .os 0])
      (.initial freshState_initial)
      ⟨fun _ => rfl, .allocated (Option.some_get _).symm rfl⟩
  refine ⟨by decide, ?_⟩
  exact ((engine_transactions reached).2 _ List.mem_cons_self).2 (fun _ => true) fun _ => rfl

/-- Two blocks, of which there is one only, so that the call fails; its cleanup does
not get the mutex, and the block it had taken is lost. -/
theorem engine_loses_block : ∃ outcome, engineSystem.Reachable freshState ∧
      engineAllocateMemory (unhindered false) ⟨0x80000#32, false⟩ [.block 0] freshState.memory = some outcome ∧
      outcome.result = .fault ∧ (freshState.memory.blocks 0).freeList = [0] ∧
      (outcome.memory.blocks 0).freeList = [] ∧ ¬outcome.RolledBack freshState.memory := by
  refine ⟨_, .initial freshState_initial, (Option.some_get rfl).symm, rfl, by decide, by decide, ?_⟩
  intro back
  exact absurd (back.blocks 0).length_eq (by decide)

end Floid.Engine
