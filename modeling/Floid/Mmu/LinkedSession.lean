import Floid.Mmu.FreshTables

namespace Floid.Mmu

open Osk

namespace AddressSpace

variable {space : AddressSpace}

structure Linked (space : AddressSpace) : Prop where
  cache : space.cache.WellFormed
  directoryInUse : space.cache.InUse space.session.pageDirectory
  linked : ∀ index < 1024, ∀ page, space.session.pageEntriesMapped index = some page →
    space.directory index = page ||| flagsPresent ∧ space.cache.InUse page ∧
      page ≠ space.session.pageDirectory ∧ PageAligned page
  unlinked : ∀ index < 1024, space.session.pageEntriesMapped index = none → space.directory index = 0
  injective : ∀ left < 1024, ∀ right < 1024, ∀ page, space.session.pageEntriesMapped left = some page →
    space.session.pageEntriesMapped right = some page → left = right

def CountedAt (space : AddressSpace) (index : Nat) : Prop :=
  space.session.pageEntriesUsageCount index = 0 ↔ space.session.pageEntriesMapped index = none

theorem WellFormed.toLinked (wellFormed : space.WellFormed) : space.Linked where
  __ := wellFormed

def withCounts (space : AddressSpace) (counts : Nat → Nat) : AddressSpace :=
  { space with session := { space.session with pageEntriesUsageCount := counts } }

@[simp] theorem withCounts_cache (counts : Nat → Nat) : (space.withCounts counts).cache = space.cache := rfl

@[simp] theorem withCounts_directory (counts : Nat → Nat) (index : Nat) :
    (space.withCounts counts).directory index = space.directory index := rfl

@[simp] theorem withCounts_mapped (counts : Nat → Nat) :
    (space.withCounts counts).session.pageEntriesMapped = space.session.pageEntriesMapped := rfl

@[simp] theorem withCounts_counts (counts : Nat → Nat) :
    (space.withCounts counts).session.pageEntriesUsageCount = counts := rfl

theorem Linked.wellFormed (linked : space.Linked) {counts : Nat → Nat}
    (counted : ∀ index < 1024, counts index = 0 ↔ space.session.pageEntriesMapped index = none) :
    (space.withCounts counts).WellFormed where
  __ := linked
  counted := counted

def changeCount (counts : Nat → Nat) (index count : Nat) : Nat → Nat :=
  fun other => if other = index then count else counts other

def countsInside (space : AddressSpace) (first stop index : Nat) : Nat :=
  if first ≤ index ∧ index < stop then space.session.pageEntriesUsageCount index
  else if space.session.pageEntriesMapped index = none then 0 else 1

theorem Linked.countsInside_wellFormed (linked : space.Linked) {first stop : Nat}
    (counted : ∀ index, first ≤ index → index < stop → space.CountedAt index) :
    (space.withCounts (space.countsInside first stop)).WellFormed := by
  refine linked.wellFormed fun index _ => ?_
  rw [countsInside]
  by_cases inside : first ≤ index ∧ index < stop
  · rw [if_pos inside]
    exact counted index inside.1 inside.2
  · rw [if_neg inside]
    cases mapped : space.session.pageEntriesMapped index with
    | none => simp
    | some page => simp

theorem Linked.recounted (linked : space.Linked) : (space.withCounts (space.countsInside 0 0)).WellFormed :=
  linked.countsInside_wellFormed fun _ _ none => absurd none (Nat.not_lt_zero _)

theorem Linked.directory_eq {after : AddressSpace} (linked : space.Linked)
    (afterLinked : after.Linked) {index : Nat} (inside : index < 1024)
    (same : after.session.pageEntriesMapped index = space.session.pageEntriesMapped index) :
    after.directory index = space.directory index := by
  cases mapped : space.session.pageEntriesMapped index with
  | none => rw [linked.unlinked index inside mapped, afterLinked.unlinked index inside (same.trans mapped)]
  | some page =>
    rw [(linked.linked index inside page mapped).1, (afterLinked.linked index inside page (same.trans mapped)).1]

end AddressSpace

open AddressSpace

variable {space : AddressSpace}

section Counts

variable (counts : Nat → Nat)

theorem allocateEntry_withCounts (index : Nat) (block : Option PageTableBlock) :
    allocateEntry (space.withCounts counts) index block =
      (allocateEntry space index block).map
        (·.withCounts (changeCount counts index (counts index + 1))) := by
  rw [allocateEntry, allocateEntry]
  have same : (space.withCounts counts).directory index = space.directory index := rfl
  by_cases present : isPresent (space.directory index) = true
  · rw [if_pos (same ▸ present), if_pos present]
    rfl
  · rw [if_neg (same ▸ present), if_neg present, withCounts_cache]
    cases getTablePage space.cache block with
    | none => rfl
    | some got => rfl

variable {index remaining : Nat}

theorem allocateEntry_counts {block : Option PageTableBlock} {after : AddressSpace}
    (allocated : allocateEntry space index block = some after) :
    after.session.pageEntriesUsageCount =
      changeCount space.session.pageEntriesUsageCount index
        (space.session.pageEntriesUsageCount index + 1) := by
  rw [allocateEntry] at allocated
  split at allocated
  · cases allocated
    rfl
  · cases got : getTablePage space.cache block with
    | none => simp [got] at allocated
    | some result =>
      simp only [got, Option.map_some, Option.some.injEq] at allocated
      subst allocated
      rfl

def raised (counts : Nat → Nat) (first stop index : Nat) : Nat :=
  if first ≤ index ∧ index < stop then counts index + 1 else counts index

theorem raised_self (first : Nat) : raised counts first first = counts := by
  funext index
  rw [raised, if_neg (by omega)]

variable {first stop : Nat}

theorem raised_changeCount (more : first + 1 ≤ stop) :
    raised (changeCount counts first (counts first + 1)) (first + 1) stop = raised counts first stop := by
  funext index
  simp only [raised, changeCount]
  by_cases same : index = first
  · subst same
    rw [if_pos rfl, if_neg (by omega), if_pos (by omega)]
  · simp only [if_neg same]
    by_cases inside : first + 1 ≤ index ∧ index < stop
    · rw [if_pos inside, if_pos (by omega)]
    · rw [if_neg inside, if_neg (by omega)]

theorem allocateEntries_withCounts {supply : PageTableSupply}
    {middle : AddressSpace} (ran : allocateEntries supply remaining index space = (stop, middle)) :
    index ≤ stop ∧
      allocateEntries supply remaining index (space.withCounts counts) =
        (stop, middle.withCounts (raised counts index stop)) ∧
      middle.session.pageEntriesUsageCount = raised space.session.pageEntriesUsageCount index stop := by
  induction remaining generalizing index space counts with
  | zero =>
    cases ran
    exact ⟨Nat.le_refl _, by rw [raised_self]; rfl, (raised_self _ _).symm⟩
  | succ remaining ih =>
    rw [allocateEntries] at ran
    rw [allocateEntries, withCounts_cache, allocateEntry_withCounts]
    cases allocated : allocateEntry space index (supply.answer index space.cache) with
    | none =>
      simp only [allocated, Prod.mk.injEq] at ran
      obtain ⟨rfl, rfl⟩ := ran
      exact ⟨Nat.le_refl _, by rw [raised_self]; rfl, (raised_self _ _).symm⟩
    | some next =>
      simp only [allocated] at ran
      obtain ⟨more, same, raisedCounts⟩ := ih (changeCount counts index (counts index + 1)) ran
      rw [raised_changeCount counts more] at same
      rw [allocateEntry_counts allocated, raised_changeCount _ more] at raisedCounts
      exact ⟨by omega, same, raisedCounts⟩

def lowered (counts : Nat → Nat) (first stop index : Nat) : Nat :=
  if first ≤ index ∧ index < stop then decrement (counts index) else counts index

theorem dropReference_withCounts (agrees : counts index = space.session.pageEntriesUsageCount index) :
    dropReference (space.withCounts counts) index =
      (dropReference space index).withCounts
        (changeCount counts index (decrement (counts index))) := by
  simp only [dropReference, withCounts_counts, agrees]
  by_cases last : decrement (space.session.pageEntriesUsageCount index) = 0
  · simp only [if_pos last]
    rfl
  · simp only [if_neg last]
    rfl

theorem dropReference_counts (index : Nat) : (dropReference space index).session.pageEntriesUsageCount =
      changeCount space.session.pageEntriesUsageCount index
        (decrement (space.session.pageEntriesUsageCount index)) := by
  rw [dropReference]
  by_cases last : decrement (space.session.pageEntriesUsageCount index) = 0
  · rw [if_pos last]
    rfl
  · rw [if_neg last]
    rfl

theorem dropReference_mapped (index other : Nat) : (dropReference space index).session.pageEntriesMapped other =
      if other = index ∧ decrement (space.session.pageEntriesUsageCount index) = 0 then none
      else space.session.pageEntriesMapped other := by
  rw [dropReference]
  by_cases last : decrement (space.session.pageEntriesUsageCount index) = 0
  · simp only [if_pos last, and_iff_left last]
    rfl
  · rw [if_neg last, if_neg fun both => last both.2]
    rfl

theorem lowered_changeCount (first remaining : Nat) :
    lowered (changeCount counts (first + remaining) (decrement (counts (first + remaining)))) first
      (first + remaining) = lowered counts first (first + (remaining + 1)) := by
  funext index
  simp only [lowered, changeCount]
  by_cases same : index = first + remaining
  · subst same
    rw [if_neg (by omega), if_pos rfl, if_pos (by omega)]
  · simp only [if_neg same]
    by_cases inside : first ≤ index ∧ index < first + remaining
    · rw [if_pos inside, if_pos (by omega)]
    · rw [if_neg inside, if_neg (by omega)]

theorem lowered_self (first : Nat) : lowered counts first (first + 0) = counts := by
  funext index
  rw [lowered, if_neg (by omega)]

theorem rollbackEntries_withCounts (agrees : ∀ index, first ≤ index → index < first + remaining →
      counts index = space.session.pageEntriesUsageCount index) :
    rollbackEntries first remaining (space.withCounts counts) =
      (rollbackEntries first remaining space).withCounts
        (lowered counts first (first + remaining)) := by
  induction remaining generalizing space counts with
  | zero =>
    rw [lowered_self]
    rfl
  | succ remaining ih =>
    rw [rollbackEntries, rollbackEntries, dropReference_withCounts counts (agrees _ (by omega) (by omega)), ih,
      lowered_changeCount]
    intro index lower upper
    rw [dropReference_counts, changeCount, changeCount, if_neg (by omega), if_neg (by omega)]
    exact agrees index lower (by omega)

theorem rollbackEntries_counts (first remaining : Nat) :
    (rollbackEntries first remaining space).session.pageEntriesUsageCount =
      lowered space.session.pageEntriesUsageCount first (first + remaining) := by
  induction remaining generalizing space with
  | zero => rw [rollbackEntries, lowered_self]
  | succ remaining ih =>
    rw [rollbackEntries, ih, dropReference_counts, lowered_changeCount]

theorem rollbackEntries_mapped (first remaining other : Nat) :
    (rollbackEntries first remaining space).session.pageEntriesMapped other =
      if (first ≤ other ∧ other < first + remaining) ∧
        decrement (space.session.pageEntriesUsageCount other) = 0 then none
      else space.session.pageEntriesMapped other := by
  induction remaining generalizing space with
  | zero => rw [rollbackEntries, if_neg (by omega)]
  | succ remaining ih =>
    rw [rollbackEntries, ih, dropReference_mapped, dropReference_counts, changeCount]
    by_cases same : other = first + remaining
    · subst same
      rw [if_neg (by omega)]
      by_cases last : decrement (space.session.pageEntriesUsageCount (first + remaining)) = 0
      · rw [if_pos ⟨rfl, last⟩, if_pos ⟨by omega, last⟩]
      · rw [if_neg fun both => last both.2, if_neg fun both => last both.2]
    · simp only [same, false_and, if_false]
      by_cases last : decrement (space.session.pageEntriesUsageCount other) = 0
      · simp only [last, and_true]
        by_cases inside : first ≤ other ∧ other < first + remaining
        · rw [if_pos inside, if_pos (by omega)]
        · rw [if_neg inside, if_neg (by omega)]
      · simp only [last, and_false]

end Counts

end Floid.Mmu
