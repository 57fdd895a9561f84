import Floid.Mmu.Session

namespace Floid.Mmu

open Floid.Osk AddressSpace

namespace MemoryAllocation

variable {descriptor : MemoryAllocation}

def reserved (descriptor : MemoryAllocation) : Nat :=
  descriptor.size.toNat + if descriptor.hasGuardPage then 4096 else 0

def Touches (descriptor : MemoryAllocation) (index : Nat) : Prop :=
  ∃ offset < descriptor.reserved, pdeEntry (descriptor.maliAddress + BitVec.ofNat 32 offset) = index

instance (descriptor : MemoryAllocation) (index : Nat) : Decidable (descriptor.Touches index) :=
  inferInstanceAs (Decidable (∃ offset < descriptor.reserved, _))

/-- `allocate` and `release` go through exactly the entries the reserved bytes
touch. For an empty range that is none; any other lies below 4 GB, and its guard
page is in the entry of its last byte. -/
def Balanced (descriptor : MemoryAllocation) : Prop :=
  (descriptor.reserved = 0 ∧ descriptor.lastPdeIdx < descriptor.firstPdeIdx) ∨
    (0 < descriptor.reserved ∧ descriptor.maliAddress.toNat + descriptor.reserved ≤ 2 ^ 32 ∧
      descriptor.lastPdeIdx = descriptor.releaseLastPdeIdx)

instance (descriptor : MemoryAllocation) : Decidable descriptor.Balanced :=
  inferInstanceAs (Decidable (_ ∨ _))

theorem lastPdeIdx_eq (positive : 0 < descriptor.reserved)
    (bounded : descriptor.maliAddress.toNat + descriptor.reserved ≤ 2 ^ 32) :
    descriptor.lastPdeIdx = (descriptor.maliAddress.toNat + descriptor.reserved - 1) / 2 ^ 22 := by
  unfold reserved at positive bounded ⊢
  unfold lastPdeIdx
  have size := descriptor.size.isLt
  split
  · rename_i guard
    rw [if_pos guard] at positive bounded
    rw [pdeEntry_eq]
    congr 1
    simp only [pageSize, BitVec.ofNat_eq_ofNat, BitVec.toNat_sub, BitVec.toNat_add, BitVec.toNat_ofNat]
    omega
  · rename_i unguarded
    rw [if_neg unguarded] at positive bounded
    rw [pdeEntry_eq]
    congr 1
    simp only [BitVec.ofNat_eq_ofNat, BitVec.toNat_sub, BitVec.toNat_add, BitVec.toNat_ofNat]
    omega

theorem Balanced.last_eq (balanced : descriptor.Balanced) :
    descriptor.lastPdeIdx = descriptor.releaseLastPdeIdx := by
  rcases balanced with ⟨empty, _⟩ | ⟨_, _, same⟩
  · unfold reserved at empty
    unfold lastPdeIdx releaseLastPdeIdx
    split
    · rename_i guard
      rw [if_pos guard] at empty
      omega
    · rfl
  · exact same

theorem Balanced.touches_iff (balanced : descriptor.Balanced) (index : Nat) :
    descriptor.Touches index ↔ descriptor.firstPdeIdx ≤ index ∧ index ≤ descriptor.lastPdeIdx := by
  rcases balanced with ⟨empty, before⟩ | ⟨positive, bounded, _⟩
  · unfold Touches
    rw [empty]
    constructor
    · rintro ⟨offset, impossible, _⟩
      omega
    · rintro ⟨lower, upper⟩
      omega
  · rw [lastPdeIdx_eq positive bounded, firstPdeIdx, pdeEntry_eq]
    have byte (offset : Nat) (inside : offset < descriptor.reserved) :
        pdeEntry (descriptor.maliAddress + BitVec.ofNat 32 offset) =
          (descriptor.maliAddress.toNat + offset) / 2 ^ 22 := by
      rw [pdeEntry_eq, BitVec.toNat_add, BitVec.toNat_ofNat]
      omega
    constructor
    · rintro ⟨offset, inside, rfl⟩
      rw [byte offset inside]
      omega
    · rintro ⟨lower, upper⟩
      refine ⟨max descriptor.maliAddress.toNat (2 ^ 22 * index) - descriptor.maliAddress.toNat, ?_, ?_⟩
      · omega
      · rw [byte _ (by omega)]
        omega

end MemoryAllocation

def touching (live : List MemoryAllocation) (index : Nat) : Nat :=
  live.countP fun descriptor => descriptor.Touches index

theorem touching_cons (descriptor : MemoryAllocation) (live : List MemoryAllocation) (index : Nat) :
    touching (descriptor :: live) index = touching live index + if descriptor.Touches index then 1 else 0 := by
  simp [touching, List.countP_cons]

variable {live : List MemoryAllocation} {supply : PageTableSupply}

theorem touching_erase {descriptor : MemoryAllocation} (isLive : descriptor ∈ live) (index : Nat) :
    touching (live.erase descriptor) index + (if descriptor.Touches index then 1 else 0) =
      touching live index := by
  rw [← touching_cons]
  exact ((List.perm_cons_erase isLive).countP_eq _).symm

structure SessionState.Counted (state : SessionState) : Prop where
  wellFormed : state.space.WellFormed
  balanced : ∀ descriptor ∈ state.live, descriptor.Balanced
  counts : ∀ index < 1024, (state.space.entry index).usageCount = touching state.live index

variable {space after : AddressSpace} {descriptor : MemoryAllocation}

variable {index : Nat}

theorem allocate_counts (wellFormed : space.WellFormed) (balanced : descriptor.Balanced)
    (ran : addressManagerAllocate supply descriptor space = (.ok, after))
    (inside : index < 1024) :
    (after.entry index).usageCount =
      (space.entry index).usageCount + if descriptor.Touches index then 1 else 0 := by
  have step := addressManagerAllocate_ok wellFormed ran
  by_cases touched : descriptor.Touches index
  · obtain ⟨lower, upper⟩ := (balanced.touches_iff index).mp touched
    rw [if_pos touched]
    exact (step.inside index inside lower (by omega)).count
  · have apart := (not_congr (balanced.touches_iff index)).mp touched
    rw [if_neg touched, step.outside index inside (by omega)]
    rfl

def ReferenceDropped (_ : Nat) (old new : EntryView) : Prop :=
  new.usageCount = old.usageCount - 1 ∧ (old.usageCount ≠ 1 → new.table.map Prod.fst = old.table.map Prod.fst)

theorem released_referenceDropped (index : Nat) (view : EntryView) (first last : Nat) :
    ReferenceDropped index view (view.released first last) := by
  unfold ReferenceDropped EntryView.released
  by_cases lastReference : view.usageCount = 1
  · simp [lastReference]
  · rw [if_neg lastReference]
    refine ⟨rfl, fun _ => ?_⟩
    cases view.table <;> rfl

theorem release_step (wellFormed : space.WellFormed)
    (used : ∀ index, descriptor.firstPdeIdx ≤ index → index ≤ descriptor.releaseLastPdeIdx →
      0 < (space.entry index).usageCount) :
    ∃ after, addressManagerRelease descriptor space = some after ∧
      RangeStep space descriptor.firstPdeIdx
        (descriptor.releaseLastPdeIdx + 1 - descriptor.firstPdeIdx) ReferenceDropped after := by
  have last := @releaseLastPdeIdx_lt descriptor
  rw [addressManagerRelease]
  by_cases empty : descriptor.releaseLastPdeIdx < descriptor.firstPdeIdx
  · rw [show descriptor.releaseLastPdeIdx + 1 - descriptor.firstPdeIdx = 0 by omega]
    exact ⟨space, rfl, .nil wellFormed⟩
  · exact @releaseEntries_step space (fun _ _ _ => True) ReferenceDropped
      (descriptor.releaseLastPdeIdx + 1) (fun index _ _ view _ => released_referenceDropped index view _ _)
      (fun _ _ _ _ _ => ⟨trivial, trivial⟩) _ _ _ _ wellFormed (by omega) (by omega)
      (fun index below lower => used index lower (by omega)) (fun _ => trivial)

theorem release_counts (wellFormed : space.WellFormed) (balanced : descriptor.Balanced)
    (used : ∀ index < 1024, descriptor.Touches index → 0 < (space.entry index).usageCount) :
    ∃ after, addressManagerRelease descriptor space = some after ∧ after.WellFormed ∧
      (∀ index < 1024, (after.entry index).usageCount +
        (if descriptor.Touches index then 1 else 0) = (space.entry index).usageCount) ∧
      (∀ index < 1024, (after.entry index).usageCount ≠ 0 →
        after.session.pageEntriesMapped index = space.session.pageEntriesMapped index) ∧
      ∀ page, after.Foreign page ↔ space.Foreign page := by
  have last := @releaseLastPdeIdx_lt descriptor
  have range_used : ∀ index, descriptor.firstPdeIdx ≤ index →
      index ≤ descriptor.releaseLastPdeIdx → 0 < (space.entry index).usageCount := by
    intro index lower upper
    refine used index (by omega) ((balanced.touches_iff index).mpr ⟨lower, ?_⟩)
    rwa [balanced.last_eq]
  obtain ⟨after, ran, step⟩ := release_step wellFormed range_used
  have entry_mapped (space : AddressSpace) (index : Nat) :
      (space.entry index).table.map Prod.fst = space.session.pageEntriesMapped index := by
    simp only [AddressSpace.entry, Option.map_map]
    exact congrFun Option.map_id _
  refine ⟨after, ran, step.wellFormed, ?_, ?_, step.foreign⟩
  · intro index inside
    by_cases touched : descriptor.Touches index
    · obtain ⟨lower, upper⟩ := (balanced.touches_iff index).mp touched
      rw [balanced.last_eq] at upper
      have count := (step.inside index inside lower (by omega)).1
      have positive := used index inside touched
      rw [if_pos touched]
      omega
    · have apart := (not_congr (balanced.touches_iff index)).mp touched
      rw [balanced.last_eq] at apart
      rw [if_neg touched, step.outside index inside (by omega)]
      rfl
  · intro index inside remaining
    by_cases touched : descriptor.Touches index
    · obtain ⟨lower, upper⟩ := (balanced.touches_iff index).mp touched
      rw [balanced.last_eq] at upper
      obtain ⟨count, kept⟩ := step.inside index inside lower (by omega)
      rw [← entry_mapped, ← entry_mapped]
      exact kept (by omega)
    · have apart := (not_congr (balanced.touches_iff index)).mp touched
      rw [balanced.last_eq] at apart
      exact mapped_of_entry (step.outside index inside (by omega))

theorem touching_pos (isLive : descriptor ∈ live) (touched : descriptor.Touches index) : 0 < touching live index :=
  List.countP_pos_iff.mpr ⟨descriptor, isLive, by simpa using touched⟩

def BalancedRequests : SessionState → Action → Prop
  | _, .allocate descriptor _ => descriptor.Balanced
  | _, _ => True

theorem SessionState.Counted.initial {state : SessionState}
    (starts : sessionSystem.initial state) : state.Counted := by
  obtain ⟨none_live, cache, block, cacheWellFormed, fresh, began⟩ := starts
  obtain ⟨wellFormed, empty⟩ := sessionBegin_wellFormed cacheWellFormed fresh began
  refine ⟨wellFormed, by simp [none_live], fun index _ => ?_⟩
  rw [empty, none_live]
  rfl

theorem SessionState.Counted.same (counted : SessionState.Counted ⟨space, live⟩) (same : SameEntries space after) :
    SessionState.Counted ⟨after, live⟩ :=
  ⟨same.wellFormed, counted.balanced,
    fun index inside => (congrArg EntryView.usageCount (same.entries index inside)).trans
      (counted.counts index inside)⟩

theorem SessionState.Counted.step {before after : SessionState} {action : Action}
    (counted : before.Counted) (balanced : BalancedRequests before action)
    (stepped : Step before action after) : after.Counted := by
  cases stepped with
  | @allocated space after live descriptor supply ran =>
    refine ⟨(addressManagerAllocate_ok counted.wellFormed ran).wellFormed, ?_, ?_⟩
    · intro other member
      rcases List.mem_cons.mp member with rfl | old
      · exact balanced
      · exact counted.balanced other old
    · intro index inside
      rw [allocate_counts counted.wellFormed balanced ran inside, touching_cons, counted.counts index inside]
  | refused ran => exact counted.same (addressManagerAllocate_nomem counted.wellFormed ran).1
  | mapped _ ran =>
    have same := addressManagerMap_step counted.wellFormed ran
    exact ⟨same.wellFormed, counted.balanced,
      fun index inside => (same.counts index inside).trans (counted.counts index inside)⟩
  | @released space after live descriptor isLive ran =>
    have used : ∀ index < 1024, descriptor.Touches index → 0 < (space.entry index).usageCount := by
      intro index inside touched
      rw [counted.counts index inside]
      exact touching_pos isLive touched
    obtain ⟨result, result_ran, wellFormed, counts, _, _⟩ :=
      release_counts counted.wellFormed (counted.balanced descriptor isLive) used
    obtain rfl : result = after := Option.some.inj (result_ran.symm.trans ran)
    refine ⟨wellFormed, fun other member => counted.balanced other (List.mem_of_mem_erase member),
      fun index inside => ?_⟩
    have count : (result.entry index).usageCount + (if descriptor.Touches index then 1 else 0) =
      (space.entry index).usageCount := counts index inside
    have before : (space.entry index).usageCount = touching live index :=
      counted.counts index inside
    have erased := touching_erase isLive index
    simp only
    omega
  | otherGot fresh ran => exact counted.same (otherGot_step counted.wellFormed fresh ran)
  | otherReleased foreign notDirectory =>
    exact counted.same (otherReleased_step counted.wellFormed foreign notDirectory)
  | otherWrote foreign notDirectory =>
    exact counted.same (otherWrote_step counted.wellFormed foreign notDirectory _ _)

theorem allocate_release_restores {middle : AddressSpace}
    (wellFormed : space.WellFormed) (balanced : descriptor.Balanced)
    (allocated : addressManagerAllocate supply descriptor space = (.ok, middle)) :
    ∃ after, addressManagerRelease descriptor middle = some after ∧
      (∀ index < 1024, after.session.pageEntriesUsageCount index = space.session.pageEntriesUsageCount index ∧
        after.session.pageEntriesMapped index = space.session.pageEntriesMapped index) ∧
      ∀ page, after.cache.InUse page ↔ space.cache.InUse page := by
  have step := addressManagerAllocate_ok wellFormed allocated
  have gained {index : Nat} (inside : index < 1024) :=
    allocate_counts wellFormed balanced allocated inside
  obtain ⟨after, released, afterWellFormed, counts, kept, foreign⟩ :=
    release_counts step.wellFormed balanced (fun index inside touched => by
      rw [gained inside, if_pos touched]
      omega)
  have restored (index : Nat) (inside : index < 1024) :
      after.session.pageEntriesUsageCount index = space.session.pageEntriesUsageCount index := by
    have lost := counts index inside
    rw [gained inside] at lost
    exact Nat.add_right_cancel lost
  have relinked (index : Nat) (inside : index < 1024) :
      after.session.pageEntriesMapped index = space.session.pageEntriesMapped index := by
    by_cases unused : space.session.pageEntriesUsageCount index = 0
    · rw [(wellFormed.counted index inside).mp unused]
      exact (afterWellFormed.counted index inside).mp ((restored index inside).trans unused)
    · rw [kept index inside (fun zero => unused ((restored index inside).symm.trans zero))]
      by_cases touched : descriptor.Touches index
      · obtain ⟨lower, upper⟩ := (balanced.touches_iff index).mp touched
        have acquired := step.inside index inside lower (by omega)
        have linked : (space.entry index).table ≠ none := by
          rw [ne_eq, ← entry_counted wellFormed inside]
          exact unused
        have table := congrArg (Option.map Prod.fst) (acquired.kept linked)
        simpa [AddressSpace.entry, Option.map_map, Function.comp_def] using table
      · have apart := (not_congr (balanced.touches_iff index)).mp touched
        exact mapped_of_entry (step.outside index inside (by omega))
  refine ⟨after, released, fun index inside => ⟨restored index inside, relinked index inside⟩, ?_⟩
  intro page
  rw [inUse_iff afterWellFormed, inUse_iff wellFormed, foreign page, step.foreign page]
  refine or_congr Iff.rfl (exists_congr fun index => ?_)
  refine and_congr_right fun inside => ?_
  rw [relinked index inside]

/-- In every run whose allocations are balanced the counts are those of the live
allocations, a page table is linked exactly at the entries in use, and to
allocate and then release gives back exactly what was taken. -/
theorem usageCounts_balance {state : SessionState}
    (reached : (sessionSystem.restrict BalancedRequests).Reachable state) :
    (∀ index < 1024, state.space.session.pageEntriesUsageCount index = touching state.live index ∧
      (isPresent (state.space.directory index) = true ↔ state.space.session.pageEntriesUsageCount index ≠ 0)) ∧
    ∀ descriptor supply middle, descriptor.Balanced →
      addressManagerAllocate supply descriptor state.space = (.ok, middle) →
      ∃ after, addressManagerRelease descriptor middle = some after ∧
        (∀ index < 1024, after.session.pageEntriesUsageCount index = state.space.session.pageEntriesUsageCount index ∧
          after.session.pageEntriesMapped index = state.space.session.pageEntriesMapped index) ∧
        ∀ page, after.cache.InUse page ↔ state.space.cache.InUse page := by
  have counted : state.Counted := reached.invariant (fun _ starts => .initial starts)
    (fun _ _ _ counted stepped => counted.step stepped.1 stepped.2)
  refine ⟨fun index inside => ⟨counted.counts index inside, ?_⟩, ?_⟩
  · rw [isPresent_directory counted.wellFormed inside, ne_eq,
      counted.wellFormed.counted index inside, Option.isSome_iff_ne_none]
  · intro descriptor supply middle balanced allocated
    exact allocate_release_restores counted.wellFormed balanced allocated

def startedSession : AddressSpace :=
  let cache : PageTableCache := ⟨[], [], fun _ _ => 0⟩
  (sessionBegin cache (some ⟨0x100000#32, 0x40000#32, fun _ _ => 0⟩)).getD
    ⟨cache, ⟨0, fun _ => none, fun _ => 0⟩⟩

def noSupply : PageTableSupply := ⟨fun _ _ => none, by simp⟩

theorem startedSession_initial : sessionSystem.initial ⟨startedSession, []⟩ := by
  refine ⟨rfl, ⟨[], [], fun _ _ => 0⟩, some ⟨0x100000#32, 0x40000#32, fun _ _ => 0⟩, ?_, ?_, rfl⟩
  · refine ⟨?_, ?_, ?_, ?_, ?_⟩ <;> simp [PageTableCache.allocations]
  · intro new same
    cases same
    exact ⟨by decide, by decide, by decide, by simp⟩

theorem usageCounts_balance_onePage : ∃ state : SessionState, state.live = [⟨0x3FF000#32, 0x1000#32, 0⟩] ∧
      (∀ index < 1024, state.space.session.pageEntriesUsageCount index = touching state.live index ∧
        (isPresent (state.space.directory index) = true ↔ state.space.session.pageEntriesUsageCount index ≠ 0)) ∧
      ∀ descriptor supply middle, descriptor.Balanced →
        addressManagerAllocate supply descriptor state.space = (.ok, middle) →
        ∃ after, addressManagerRelease descriptor middle = some after ∧
          (∀ index < 1024, after.session.pageEntriesUsageCount index =
              state.space.session.pageEntriesUsageCount index ∧
            after.session.pageEntriesMapped index = state.space.session.pageEntriesMapped index) ∧
          ∀ page, after.cache.InUse page ↔ state.space.cache.InUse page := by
  have allocated : (addressManagerAllocate noSupply ⟨0x3FF000#32, 0x1000#32, 0⟩
      startedSession).1 = .ok := by decide +kernel
  refine ⟨⟨_, [⟨0x3FF000#32, 0x1000#32, 0⟩]⟩, rfl, usageCounts_balance (.step
    (.initial startedSession_initial) ⟨?_, .allocated (Prod.ext allocated rfl)⟩)⟩
  exact .inr (by decide)

/-- The same page with a guard page: the reference the guard page took to the next
directory entry outlives the allocation. -/
theorem guardPage_leaks_reference : ∃ state, sessionSystem.Reachable state ∧ ∃ index < 1024,
      state.space.session.pageEntriesUsageCount index ≠ touching state.live index := by
  have allocated : (addressManagerAllocate noSupply ⟨0x3FF000#32, 0x1000#32, flagMapGuardPage⟩
      startedSession).1 = .ok := by decide +kernel
  have leaked : (addressManagerRelease ⟨0x3FF000#32, 0x1000#32, flagMapGuardPage⟩
      (addressManagerAllocate noSupply ⟨0x3FF000#32, 0x1000#32, flagMapGuardPage⟩
        startedSession).2).map (·.session.pageEntriesUsageCount 1) = some 1 := by decide +kernel
  obtain ⟨after, released, count⟩ := Option.map_eq_some_iff.mp leaked
  refine ⟨⟨after, _⟩, .step (.step (.initial startedSession_initial)
    (.allocated (Prod.ext allocated rfl))) (.released List.mem_cons_self released), 1, by omega, ?_⟩
  rw [count, List.erase_cons_head]
  exact Nat.one_ne_zero

end Floid.Mmu
