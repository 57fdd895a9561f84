import Floid.Mmu.ReleaseSpan

namespace Floid.Mmu

open Floid.Osk AddressSpace MemoryAllocation SessionState

/-- The page table entry the MMU finds for an address, `none` when the directory
does not lead to a page table. -/
def AddressSpace.walk (space : AddressSpace) (address : U32) : Option U32 :=
  let entry := space.directory (pdeEntry address)
  if isPresent entry then some (space.cache.memory (entryAddress entry) (pteEntry address)) else none

def AddressSpace.Present (space : AddressSpace) (address : U32) : Prop :=
  ∃ entry, space.walk address = some entry ∧ isPresent entry = true

def MemoryAllocation.HasPage (descriptor : MemoryAllocation) (address : U32) : Prop :=
  PageAligned address ∧ descriptor.maliAddress.toNat ≤ address.toNat ∧
    address.toNat < descriptor.maliAddress.toNat + descriptor.size.toNat

/-- Every mapped page of the allocation whose table stays is one `release` reaches. -/
def AddressSpace.ReleasedWhole (space : AddressSpace) (descriptor : MemoryAllocation) : Prop :=
  ∀ address, descriptor.HasPage address → space.Present address →
    1 < space.session.pageEntriesUsageCount (pdeEntry address) →
    descriptor.Reaches (pdeEntry address) (pteEntry address)

def MemoryAllocation.Disjoint (left right : MemoryAllocation) : Prop :=
  left.maliAddress.toNat + left.size.toNat ≤ right.maliAddress.toNat ∨
    right.maliAddress.toNat + right.size.toNat ≤ left.maliAddress.toNat

/-- `release` goes through the entry. -/
def MemoryAllocation.Holds (descriptor : MemoryAllocation) (index : Nat) : Prop :=
  descriptor.firstPdeIdx ≤ index ∧ index ≤ descriptor.releaseLastPdeIdx

instance (descriptor : MemoryAllocation) (index : Nat) : Decidable (descriptor.Holds index) :=
  inferInstanceAs (Decidable (_ ∧ _))

def holding (live : List MemoryAllocation) (index : Nat) : Nat :=
  live.countP fun descriptor => descriptor.Holds index

variable {space after : AddressSpace} {descriptor : MemoryAllocation}

theorem walk_eq (wellFormed : space.WellFormed) (address : U32) :
    space.walk address = (space.entry (pdeEntry address)).table.map fun (_, words) =>
      words (pteEntry address) := by
  have inside := pdeEntry_lt address
  rw [AddressSpace.walk]
  cases mapped : space.session.pageEntriesMapped (pdeEntry address) with
  | none => simp [wellFormed.unlinked _ inside mapped, AddressSpace.entry, mapped]
  | some page =>
    obtain ⟨entry, _, _, aligned⟩ := wellFormed.linked _ inside page mapped
    simp [entry, entryAddress_present aligned, AddressSpace.entry, mapped]

theorem walk_congr (wellFormed : space.WellFormed) (afterWellFormed : after.WellFormed)
    {address : U32} (same : after.entry (pdeEntry address) = space.entry (pdeEntry address)) :
    after.walk address = space.walk address := by
  rw [walk_eq afterWellFormed, walk_eq wellFormed, same]

theorem hasPage_iff {address : U32} (aligned : PageAligned address) :
    descriptor.HasPage address ↔ descriptor.Covers (pdeEntry address) (pteEntry address) := by
  have value : address.toNat = 4096 * (1024 * pdeEntry address + pteEntry address) := by
    unfold PageAligned at aligned
    rw [pdeEntry_eq, pteEntry_eq]
    omega
  unfold HasPage Covers
  rw [← value]
  exact and_iff_right aligned

theorem MemoryAllocation.Shaped.holds_of_hasPage (shaped : descriptor.Shaped) {address : U32}
    (page : descriptor.HasPage address) : descriptor.Holds (pdeEntry address) := by
  obtain ⟨_, lower, upper⟩ := page
  rw [Holds, shaped.releaseLastPdeIdx_eq, firstPdeIdx_eq, pdeEntry_eq]
  omega

def MemoryAllocation.releasedEntry (descriptor : MemoryAllocation) (index : Nat) (old new : EntryView) : Prop :=
  new = if old.usageCount = 1 then ⟨0, none⟩
    else
      { usageCount := old.usageCount - 1
        table := old.table.map fun (page, words) => (page, fun pte =>
          if pte < 1024 ∧ descriptor.Covers index pte ∧ descriptor.Reaches index pte then 0
          else words pte) }

theorem releasedEntry_of_invariant (shaped : descriptor.Shaped) {index : Nat}
    {maliAddress left : U32} (view : EntryView)
    (holds : ReleaseInvariant descriptor index maliAddress left) :
    descriptor.releasedEntry index view (view.released (pteEntry maliAddress)
      (pteEntry (maliAddress + sizeInsidePte left - 1))) := by
  rw [releasedEntry, EntryView.released]
  have zapped (words : Words) :
      zapWords words (pteEntry maliAddress) (pteEntry (maliAddress + sizeInsidePte left - 1)) =
        fun pte => if pte < 1024 ∧ descriptor.Covers index pte ∧ descriptor.Reaches index pte then 0
          else words pte := by
    funext pte
    rw [zapWords]
    by_cases inside : pte < 1024
    · simp only [releaseInvariant_span shaped holds inside, inside, true_and]
    · have final : pteEntry (maliAddress + sizeInsidePte left - 1) < 1024 := by
        rw [pteEntry_eq]
        exact Nat.mod_lt _ (by omega)
      rw [if_neg (by omega), if_neg (fun member => inside member.1)]
  simp only [zapped]

theorem release_shaped (wellFormed : space.WellFormed) (shaped : descriptor.Shaped)
    (used : ∀ index, descriptor.Holds index → 0 < (space.entry index).usageCount) :
    ∃ after, addressManagerRelease descriptor space = some after ∧
      RangeStep space descriptor.firstPdeIdx
        (descriptor.releaseLastPdeIdx + 1 - descriptor.firstPdeIdx) descriptor.releasedEntry after := by
  have last := @releaseLastPdeIdx_lt descriptor
  have bounds := shaped.releaseLastPdeIdx_bounds
  rw [addressManagerRelease]
  exact @releaseEntries_step space (ReleaseInvariant descriptor) descriptor.releasedEntry
    (descriptor.releaseLastPdeIdx + 1)
    (fun index _ _ view holds => releasedEntry_of_invariant shaped view holds)
    (fun _ _ _ holds more => releaseInvariant_next shaped holds more) _ _ _ _ wellFormed
    (by omega) (by omega) (fun index below lower => used index ⟨lower, by omega⟩)
    (fun _ => releaseInvariant_start shaped)

theorem release_walk_own (wellFormed : space.WellFormed) (shaped : descriptor.Shaped)
    (step : RangeStep space descriptor.firstPdeIdx
      (descriptor.releaseLastPdeIdx + 1 - descriptor.firstPdeIdx) descriptor.releasedEntry after)
    {address : U32} (page : descriptor.HasPage address) :
    after.walk address =
      if (space.entry (pdeEntry address)).usageCount = 1 then none
      else if descriptor.Reaches (pdeEntry address) (pteEntry address) then
        (space.walk address).map fun _ => 0
      else space.walk address := by
  have inside := pdeEntry_lt address
  obtain ⟨lower, upper⟩ := shaped.holds_of_hasPage page
  have covers := (hasPage_iff page.1).mp page
  have pte : pteEntry address < 1024 := by
    rw [pteEntry_eq]
    exact Nat.mod_lt _ (by omega)
  have changed := step.inside _ inside lower (by omega)
  rw [walk_eq step.wellFormed, walk_eq wellFormed, changed]
  split
  · rfl
  · cases (space.entry (pdeEntry address)).table with
    | none => simp
    | some table =>
      by_cases reached : descriptor.Reaches (pdeEntry address) (pteEntry address)
      · simp [pte, covers, reached]
      · simp [reached]

theorem release_walk_other (wellFormed : space.WellFormed) (step : RangeStep space descriptor.firstPdeIdx
      (descriptor.releaseLastPdeIdx + 1 - descriptor.firstPdeIdx) descriptor.releasedEntry after)
    {address : U32} (aligned : PageAligned address) (apart : ¬descriptor.HasPage address)
    (shared : descriptor.Holds (pdeEntry address) → 1 < (space.entry (pdeEntry address)).usageCount) :
    after.walk address = space.walk address := by
  have inside := pdeEntry_lt address
  by_cases holds : descriptor.Holds (pdeEntry address)
  · have uncovered := (not_congr (hasPage_iff aligned)).mp apart
    have count := shared holds
    have changed := step.inside _ inside holds.1 (by have := holds.2; omega)
    rw [walk_eq step.wellFormed, walk_eq wellFormed, changed, if_neg (by omega)]
    cases (space.entry (pdeEntry address)).table with
    | none => rfl
    | some table => simp [uncovered]
  · refine walk_congr wellFormed step.wellFormed (step.outside _ inside ?_)
    unfold Holds at holds
    omega

def DisjointRequests : SessionState → Action → Prop
  | state, .allocate descriptor _ =>
      descriptor.Shaped ∧ ∀ other ∈ state.live, descriptor.Disjoint other
  | _, _ => True

structure SessionState.Held (state : SessionState) : Prop where
  wellFormed : state.space.WellFormed
  shaped : ∀ descriptor ∈ state.live, descriptor.Shaped
  disjoint : state.live.Pairwise MemoryAllocation.Disjoint
  counts : ∀ index < 1024, holding state.live index ≤ (state.space.entry index).usageCount

theorem holding_cons (descriptor : MemoryAllocation) (live : List MemoryAllocation) (index : Nat) :
    holding (descriptor :: live) index = holding live index + if descriptor.Holds index then 1 else 0 := by
  simp [holding, List.countP_cons]

variable {live : List MemoryAllocation}

theorem holding_erase (isLive : descriptor ∈ live) (index : Nat) :
    holding (live.erase descriptor) index + (if descriptor.Holds index then 1 else 0) = holding live index := by
  rw [← holding_cons]
  exact ((List.perm_cons_erase isLive).countP_eq _).symm

theorem holding_pos (isLive : descriptor ∈ live) {index : Nat}
    (holds : descriptor.Holds index) : 0 < holding live index :=
  List.countP_pos_iff.mpr ⟨descriptor, isLive, by simpa using holds⟩

theorem MemoryAllocation.Disjoint.symm {left right : MemoryAllocation}
    (disjoint : left.Disjoint right) : right.Disjoint left :=
  Or.symm disjoint

theorem SessionState.Held.used
    (held : Held ⟨space, live⟩) (isLive : descriptor ∈ live) (index : Nat)
    (holds : descriptor.Holds index) : 0 < (space.entry index).usageCount := by
  have last := @releaseLastPdeIdx_lt descriptor
  have inside : index < 1024 := by have := holds.2; omega
  exact Nat.lt_of_lt_of_le (holding_pos isLive holds) (held.counts index inside)

theorem SessionState.Held.initial {state : SessionState}
    (starts : sessionSystem.initial state) : state.Held := by
  obtain ⟨none_live, cache, block, cacheWellFormed, fresh, began⟩ := starts
  obtain ⟨wellFormed, _⟩ := sessionBegin_wellFormed cacheWellFormed fresh began
  refine ⟨wellFormed, ?_, ?_, ?_⟩ <;> simp [none_live, holding]

theorem SessionState.Held.same
    (held : Held ⟨space, live⟩) (same : SameEntries space after) :
    Held ⟨after, live⟩ :=
  ⟨same.wellFormed, held.shaped, held.disjoint, fun index inside =>
    (held.counts index inside).trans
      (Nat.le_of_eq (congrArg EntryView.usageCount (same.entries index inside)).symm)⟩

theorem SessionState.Held.allocated {supply : PageTableSupply}
    (held : Held ⟨space, live⟩) (shaped : descriptor.Shaped)
    (disjoint : ∀ other ∈ live, descriptor.Disjoint other)
    (ran : addressManagerAllocate supply descriptor space = (.ok, after)) :
    Held ⟨after, descriptor :: live⟩ := by
  have wellFormed : space.WellFormed := held.wellFormed
  have step := addressManagerAllocate_ok wellFormed ran
  have covered := shaped.lastPdeIdx_le
  refine ⟨step.wellFormed, ?_, List.pairwise_cons.mpr ⟨disjoint, held.disjoint⟩, ?_⟩
  · intro other member
    rcases List.mem_cons.mp member with rfl | old
    · exact shaped
    · exact held.shaped other old
  · intro index inside
    have before : holding live index ≤ (space.entry index).usageCount := held.counts index inside
    have more : (space.entry index).usageCount + (if descriptor.Holds index then 1 else 0) ≤
        (after.entry index).usageCount := by
      by_cases taken : descriptor.firstPdeIdx ≤ index ∧ index ≤ descriptor.lastPdeIdx
      · rw [(step.inside index inside taken.1 (by omega)).count]
        split <;> omega
      · have apart : ¬descriptor.Holds index := by
          unfold Holds
          omega
        rw [if_neg apart, step.outside index inside (by omega)]
        exact Nat.le_refl _
    rw [holding_cons]
    change _ ≤ (after.entry index).usageCount
    omega

theorem SessionState.Held.released
    (held : Held ⟨space, live⟩) (isLive : descriptor ∈ live)
    (ran : addressManagerRelease descriptor space = some after) :
    Held ⟨after, live.erase descriptor⟩ := by
  obtain ⟨result, result_ran, step⟩ := release_shaped held.wellFormed
    (held.shaped descriptor isLive) (held.used isLive)
  obtain rfl : result = after := Option.some.inj (result_ran.symm.trans ran)
  refine ⟨step.wellFormed, fun other member => held.shaped other (List.mem_of_mem_erase member),
    held.disjoint.sublist List.erase_sublist, fun index inside => ?_⟩
  have before : holding live index ≤ (space.entry index).usageCount := held.counts index inside
  have erased := holding_erase isLive index
  by_cases holds : descriptor.Holds index
  · rw [if_pos holds] at erased
    have changed := step.inside index inside holds.1 (by have := holds.2; omega)
    rw [releasedEntry] at changed
    simp only [changed]
    split
    · simp only
      omega
    · simp only
      omega
  · rw [if_neg holds] at erased
    rw [step.outside index inside (by unfold Holds at holds; omega)]
    change holding (live.erase descriptor) index ≤ (space.entry index).usageCount
    omega

theorem SessionState.Held.step {before after : SessionState} {action : Action}
    (held : before.Held) (requested : DisjointRequests before action)
    (stepped : Step before action after) : after.Held := by
  cases stepped with
  | allocated ran => exact held.allocated requested.1 requested.2 ran
  | refused ran => exact held.same (addressManagerAllocate_nomem held.wellFormed ran).1
  | mapped _ ran =>
    have same := addressManagerMap_step held.wellFormed ran
    exact ⟨same.wellFormed, held.shaped, held.disjoint, fun index inside =>
      (held.counts index inside).trans (Nat.le_of_eq (same.counts index inside).symm)⟩
  | released isLive ran => exact held.released isLive ran
  | otherGot fresh ran => exact held.same (otherGot_step held.wellFormed fresh ran)
  | otherReleased foreign notDirectory =>
    exact held.same (otherReleased_step held.wellFormed foreign notDirectory)
  | otherWrote foreign notDirectory =>
    exact held.same (otherWrote_step held.wellFormed foreign notDirectory _ _)

def AddressSpace.Cleared (before after : AddressSpace) (address : U32) : Prop :=
  ¬after.Present address ∧ (before.Present address → after.walk address = none ∨ after.walk address = some 0)

theorem released_cleared_iff (wellFormed : space.WellFormed) (shaped : descriptor.Shaped)
    (used : ∀ index, descriptor.Holds index → 0 < (space.entry index).usageCount)
    (step : RangeStep space descriptor.firstPdeIdx
      (descriptor.releaseLastPdeIdx + 1 - descriptor.firstPdeIdx) descriptor.releasedEntry after) :
    (∀ address, descriptor.HasPage address → space.Cleared after address) ↔ space.ReleasedWhole descriptor := by
  constructor
  · intro cleared address page present shared
    by_contra missed
    have count : (space.entry (pdeEntry address)).usageCount ≠ 1 := Nat.ne_of_gt shared
    have kept := release_walk_own wellFormed shaped step page
    rw [if_neg count, if_neg missed] at kept
    obtain ⟨entry, found, flagged⟩ := present
    exact (cleared address page).1 ⟨entry, kept.trans found, flagged⟩
  · intro whole address page
    have walked := release_walk_own wellFormed shaped step page
    have positive := used _ (shaped.holds_of_hasPage page)
    by_cases lastReference : (space.entry (pdeEntry address)).usageCount = 1
    · rw [if_pos lastReference] at walked
      refine ⟨?_, fun _ => .inl walked⟩
      rintro ⟨entry, found, _⟩
      rw [walked] at found
      contradiction
    · rw [if_neg lastReference] at walked
      by_cases reached : descriptor.Reaches (pdeEntry address) (pteEntry address)
      · rw [if_pos reached] at walked
        cases before : space.walk address with
        | none =>
          rw [before] at walked
          refine ⟨?_, fun _ => .inl walked⟩
          rintro ⟨entry, found, _⟩
          rw [walked] at found
          contradiction
        | some entry =>
          rw [before] at walked
          refine ⟨?_, fun _ => .inr walked⟩
          rintro ⟨zero, found, flagged⟩
          rw [walked, Option.map_some, Option.some.injEq] at found
          rw [← found] at flagged
          simp at flagged
      · rw [if_neg reached] at walked
        have absent : ¬space.Present address := fun present =>
          reached (whole address page present (show 1 < (space.entry (pdeEntry address)).usageCount by omega))
        refine ⟨?_, fun present => absurd present absent⟩
        rintro ⟨entry, found, flagged⟩
        exact absent ⟨entry, walked.symm.trans found, flagged⟩

def straddling : MemoryAllocation := ⟨0x3FF000#32, 0x2000#32, 0⟩

def neighbour : MemoryAllocation := ⟨0x401000#32, 0x1000#32, 0⟩

theorem straddling_shaped : straddling.Shaped :=
  ⟨by decide, by decide, by decide, by decide, by decide⟩

def straddlingSpace : Option AddressSpace :=
  addressManagerMap straddling 0 0x800000#32 0x2000#32
    (addressManagerAllocate noSupply straddling (addressManagerAllocate noSupply neighbour startedSession).2).2

theorem straddlingSpace_reachable (ran : straddlingSpace = some space) :
    (sessionSystem.restrict DisjointRequests).Reachable ⟨space, [straddling, neighbour]⟩ := by
  have first : (addressManagerAllocate noSupply neighbour startedSession).1 = .ok := by
    decide +kernel
  have second : (addressManagerAllocate noSupply straddling
      (addressManagerAllocate noSupply neighbour startedSession).2).1 = .ok := by decide +kernel
  have mapped : (sessionSystem.restrict DisjointRequests).step ⟨_, [straddling, neighbour]⟩
      (.map straddling 0 0x800000#32 0x2000#32) ⟨space, [straddling, neighbour]⟩ :=
    ⟨trivial, .mapped List.mem_cons_self ran⟩
  refine .step (.step (.step (.initial startedSession_initial)
    ⟨?_, .allocated (Prod.ext first rfl)⟩) ⟨?_, .allocated (Prod.ext second rfl)⟩) mapped
  · exact ⟨⟨by decide, by decide, by decide, by decide, by decide⟩, by simp⟩
  · refine ⟨straddling_shaped, fun other member => ?_⟩
    rw [List.mem_singleton.mp member]
    exact .inl (by decide)

end Floid.Mmu
