import Floid.Mmu.DirectoryEntry

namespace Floid.Mmu

open Floid.Osk PageTableCache

namespace AddressSpace

structure RangeStep (before : AddressSpace) (first count : Nat)
    (changed : Nat → EntryView → EntryView → Prop) (after : AddressSpace) : Prop where
  wellFormed : after.WellFormed
  inside : ∀ index < 1024, first ≤ index → index < first + count →
    changed index (before.entry index) (after.entry index)
  outside : ∀ index < 1024, index < first ∨ first + count ≤ index → after.entry index = before.entry index
  foreign : ∀ page, after.Foreign page ↔ before.Foreign page

variable {before middle after : AddressSpace} {changed : Nat → EntryView → EntryView → Prop}
  {first count : Nat}

theorem RangeStep.nil (wellFormed : before.WellFormed) : RangeStep before first 0 changed before :=
  ⟨wellFormed, fun _ _ _ _ => by omega, fun _ _ _ => rfl, fun _ => Iff.rfl⟩

theorem RangeStep.cons {view : EntryView} (step : EntryStep before first view middle)
    (effect : changed first (before.entry first) view)
    (rest : RangeStep middle (first + 1) count changed after) :
    RangeStep before first (count + 1) changed after where
  wellFormed := rest.wellFormed
  inside := by
    intro index below lower upper
    rcases Nat.eq_or_lt_of_le lower with same | later
    · subst same
      rw [rest.outside first below (by omega), step.changed]
      exact effect
    · rw [← step.others index below (by omega)]
      exact rest.inside index below later (by omega)
  outside := by
    intro index below position
    rw [rest.outside index below (by omega), step.others index below (by omega)]
  foreign := fun page => (rest.foreign page).trans (step.foreign page)

theorem RangeStep.snoc {view : EntryView} (step : EntryStep before (first + count) view middle)
    (effect : changed (first + count) (before.entry (first + count)) view)
    (rest : RangeStep middle first count changed after) :
    RangeStep before first (count + 1) changed after where
  wellFormed := rest.wellFormed
  inside := by
    intro index below lower upper
    rcases Nat.lt_or_ge index (first + count) with earlier | later
    · rw [← step.others index below (by omega)]
      exact rest.inside index below lower earlier
    · obtain rfl : index = first + count := by omega
      rw [rest.outside (first + count) below (by omega), step.changed]
      exact effect
  outside := by
    intro index below position
    rw [rest.outside index below (by omega), step.others index below (by omega)]
  foreign := fun page => (rest.foreign page).trans (step.foreign page)

end AddressSpace

open AddressSpace

variable {space : AddressSpace}

structure EntryView.Acquired (old new : EntryView) : Prop where
  count : new.usageCount = old.usageCount + 1
  linked : new.table ≠ none
  kept : old.table ≠ none → new.table = old.table

theorem entry_table_eq_none (index : Nat) :
    (space.entry index).table = none ↔ space.session.pageEntriesMapped index = none := by
  simp [AddressSpace.entry]

variable {index remaining : Nat}

theorem allocateEntry_step (wellFormed : space.WellFormed) (inside : index < 1024)
    {block : Option PageTableBlock} (fresh : ∀ new, block = some new → new.Fresh space.cache)
    {after : AddressSpace} (allocated : allocateEntry space index block = some after) :
    ∃ view, EntryStep space index view after ∧ (space.entry index).Acquired view := by
  rw [allocateEntry, isPresent_directory wellFormed inside] at allocated
  cases mapped : space.session.pageEntriesMapped index with
  | some page =>
    rw [mapped, Option.isSome_some, if_pos rfl] at allocated
    cases allocated
    refine ⟨_, setUsageCount_step wellFormed inside (by simp [mapped]) (Nat.succ_ne_zero _), ?_⟩
    exact ⟨rfl, by simp [AddressSpace.entry, mapped], fun _ => rfl⟩
  | none =>
    rw [mapped, Option.isSome_none, if_neg Bool.false_ne_true] at allocated
    have unused := (wellFormed.counted index inside).mpr mapped
    cases got : getTablePage space.cache block with
    | none => simp [got] at allocated
    | some result =>
      obtain ⟨page, cache⟩ := result
      have obtained := getTablePage_obtained wellFormed.cache fresh got
      simp only [got, Option.map_some, Option.some.injEq, unused, Nat.zero_add] at allocated
      subst allocated
      refine ⟨_, link_step wellFormed inside mapped obtained, ?_⟩
      refine ⟨by simp [AddressSpace.entry, unused], by simp, fun linked => ?_⟩
      exact absurd ((entry_table_eq_none index).mpr mapped) linked

theorem allocateEntries_step {supply : PageTableSupply} {stop : Nat}
    {after : AddressSpace} (wellFormed : space.WellFormed) (inside : index + remaining ≤ 1024)
    (ran : allocateEntries supply remaining index space = (stop, after)) :
    index ≤ stop ∧ stop ≤ index + remaining ∧
      RangeStep space index (stop - index) (fun _ => EntryView.Acquired) after := by
  induction remaining generalizing index space with
  | zero =>
    cases ran
    rw [Nat.sub_self]
    exact ⟨Nat.le_refl _, Nat.le_refl _, .nil wellFormed⟩
  | succ remaining ih =>
    rw [allocateEntries] at ran
    cases allocated : allocateEntry space index (supply.answer index space.cache) with
    | none =>
      simp only [allocated, Prod.mk.injEq] at ran
      obtain ⟨rfl, rfl⟩ := ran
      rw [Nat.sub_self]
      exact ⟨Nat.le_refl _, Nat.le_add_right _ _, .nil wellFormed⟩
    | some next =>
      simp only [allocated] at ran
      obtain ⟨view, step, acquired⟩ := allocateEntry_step wellFormed (by omega)
        (supply.fresh index space.cache) allocated
      obtain ⟨lower, upper, rest⟩ := ih step.wellFormed (by omega) ran
      refine ⟨by omega, by omega, ?_⟩
      rw [show stop - index = stop - (index + 1) + 1 by omega]
      exact .cons step acquired rest

def EntryView.dropped (old : EntryView) : EntryView :=
  if old.usageCount = 1 then ⟨0, none⟩ else { old with usageCount := old.usageCount - 1 }

theorem decrement_of_pos {count : Nat} (positive : 0 < count) : decrement count = count - 1 := by
  rw [decrement, if_neg (by omega)]

theorem dropReference_step (wellFormed : space.WellFormed) (inside : index < 1024)
    (positive : 0 < (space.entry index).usageCount) :
    EntryStep space index (space.entry index).dropped (dropReference space index) := by
  have counted : (space.entry index).usageCount = space.session.pageEntriesUsageCount index := rfl
  have linked : space.session.pageEntriesMapped index ≠ none := by
    rw [ne_eq, ← wellFormed.counted index inside]
    omega
  obtain ⟨page, mapped⟩ := Option.ne_none_iff_exists'.mp linked
  rw [dropReference, ← counted, decrement_of_pos positive, EntryView.dropped]
  by_cases last : (space.entry index).usageCount = 1
  · simp only [last, Nat.sub_self, if_true]
    exact unlink_step wellFormed inside mapped
  · simp only [show ¬((space.entry index).usageCount - 1 = 0) by omega, last, if_false]
    exact setUsageCount_step wellFormed inside linked (by omega)

theorem rollbackEntries_step {first : Nat} (wellFormed : space.WellFormed) (inside : first + remaining ≤ 1024)
    (positive : ∀ index < first + remaining, first ≤ index → 0 < (space.entry index).usageCount) :
    RangeStep space first remaining (fun _ old new => new = old.dropped)
      (rollbackEntries first remaining space) := by
  induction remaining generalizing space with
  | zero => exact .nil wellFormed
  | succ remaining ih =>
    have step := dropReference_step wellFormed (show first + remaining < 1024 by omega)
      (positive _ (by omega) (by omega))
    refine .snoc step rfl (ih step.wellFormed (by omega) ?_)
    intro index below lower
    rw [step.others index (by omega) (by omega)]
    exact positive index (by omega) lower

theorem EntryView.Acquired.dropped {old new : EntryView} (acquired : old.Acquired new)
    (counted : old.usageCount = 0 ↔ old.table = none) : new.dropped = old := by
  obtain ⟨count, linked, kept⟩ := acquired
  rw [EntryView.dropped, count]
  by_cases first : old.usageCount = 0
  · obtain ⟨oldCount, oldTable⟩ := old
    simp_all
  · rw [if_neg (by omega), kept (by rwa [ne_eq, ← counted])]
    simp

theorem entry_counted (wellFormed : space.WellFormed) (inside : index < 1024) :
    (space.entry index).usageCount = 0 ↔ (space.entry index).table = none := by
  rw [entry_table_eq_none]
  exact wellFormed.counted index inside

def zapWords (words : Words) (first last : Nat) : Words :=
  fun index => if first ≤ index ∧ index ≤ last then 0 else words index

/-- What `release` makes of an entry when it zaps a span of its page table. -/
def EntryView.released (old : EntryView) (first last : Nat) : EntryView :=
  if old.usageCount = 1 then ⟨0, none⟩
  else
    { usageCount := old.usageCount - 1
      table := old.table.map fun (page, words) => (page, zapWords words first last) }

section Zap

variable {cache : PageTableCache} {page : U32}

theorem zapEntries_wellFormed (wellFormed : cache.WellFormed) (remaining index : Nat) :
    (zapEntries page remaining index cache).WellFormed := by
  induction remaining generalizing index cache with
  | zero => exact wellFormed
  | succ remaining ih =>
    exact ih (iowrite32_wellFormed wellFormed page index 0) (index + 1)

theorem zapEntries_inUse (remaining index : Nat) (other : U32) :
    (zapEntries page remaining index cache).InUse other ↔ cache.InUse other := by
  induction remaining generalizing index cache with
  | zero => exact Iff.rfl
  | succ remaining ih => exact (ih (index + 1)).trans (iowrite32_inUse _ _ _ _)

theorem zapEntries_other {other : U32} (different : other ≠ page) (remaining index : Nat) :
    (zapEntries page remaining index cache).memory other = cache.memory other := by
  induction remaining generalizing index cache with
  | zero => rfl
  | succ remaining ih =>
    exact (ih (index + 1)).trans (iowrite32_other index 0 different)

theorem zapEntries_same (remaining index position : Nat) :
    (zapEntries page remaining index cache).memory page position =
      if index ≤ position ∧ position < index + remaining then 0 else cache.memory page position := by
  induction remaining generalizing index cache with
  | zero =>
    rw [zapEntries, if_neg (by omega)]
  | succ remaining ih =>
    rw [zapEntries, ih, iowrite32_same]
    by_cases same : position = index
    · rw [same, Words.write_same, ite_self, if_pos (by omega)]
    · rw [Words.write_other _ _ same]
      by_cases inside : index + 1 ≤ position ∧ position < index + 1 + remaining
      · rw [if_pos inside, if_pos (by omega)]
      · rw [if_neg inside, if_neg (by omega)]

end Zap

theorem zap_step (wellFormed : space.WellFormed) (inside : index < 1024)
    {page : U32} (mapped : space.session.pageEntriesMapped index = some page) {count : Nat}
    (nonzero : count ≠ 0) (first last : Nat) :
    EntryStep space index ⟨count, some (page, zapWords (space.cache.memory page) first last)⟩
      { space.setUsageCount index count with
        cache := zapEntries page (last + 1 - first) first space.cache } := by
  have counted := setUsageCount_step wellFormed inside (by simp [mapped]) nonzero
  have directoryKept (notDirectory : page ≠ space.session.pageDirectory) :=
    @zapEntries_other space.cache page _ (Ne.symm notDirectory) (last + 1 - first) first
  have apart := (wellFormed.linked index inside page mapped).2.2.1
  refine ⟨?_, ?_, ?_, ?_⟩
  · refine ⟨zapEntries_wellFormed wellFormed.cache _ _, ?_, ?_, ?_, wellFormed.injective, counted.wellFormed.counted⟩
    · exact (zapEntries_inUse _ _ _).mpr wellFormed.directoryInUse
    · intro other otherInside table tableMapped
      obtain ⟨entry, used, tableApart, aligned⟩ :=
        wellFormed.linked other otherInside table tableMapped
      refine ⟨?_, (zapEntries_inUse _ _ _).mpr used, tableApart, aligned⟩
      rw [← entry]
      exact congrFun (directoryKept apart) other
    · intro other otherInside unmapped
      rw [← wellFormed.unlinked other otherInside unmapped]
      exact congrFun (directoryKept apart) other
  · simp only [AddressSpace.entry, setUsageCount, if_true, mapped, Option.map_some]
    congr 3
    funext position
    rw [zapEntries_same, zapWords]
    by_cases span : first ≤ position ∧ position ≤ last
    · rw [if_pos span, if_pos (by omega)]
    · rw [if_neg span, if_neg (by omega)]
  · intro other otherInside different
    simp only [AddressSpace.entry, setUsageCount, different, if_false]
    congr 1
    cases tableMapped : space.session.pageEntriesMapped other with
    | none => rfl
    | some table =>
      have tableApart : table ≠ page := by
        rintro rfl
        exact different (wellFormed.injective other otherInside index inside table tableMapped mapped)
      simp only [Option.map_some, zapEntries_other tableApart]
  · intro other
    simp only [Foreign, setUsageCount, zapEntries_inUse]

def sizeInsidePte (left : U32) : U32 := if left < 0x400000#32 then left else 0x400000#32

theorem releaseEntries_step {Invariant : Nat → U32 → U32 → Prop}
    {changed : Nat → EntryView → EntryView → Prop} {last : Nat}
    (effect : ∀ index maliAddress left view, Invariant index maliAddress left →
      changed index view (view.released (pteEntry maliAddress) (pteEntry (maliAddress + sizeInsidePte left - 1))))
    (next : ∀ index maliAddress left, Invariant index maliAddress left → index + 1 < last →
      Invariant (index + 1) maliAddress (left - sizeInsidePte left) ∧
        Invariant (index + 1) (maliAddress + sizeInsidePte left) (left - sizeInsidePte left))
    {remaining index : Nat} {maliAddress left : U32} (wellFormed : space.WellFormed)
    (bounded : last ≤ 1024) (ends : index + remaining = last)
    (positive : ∀ position < last, index ≤ position → 0 < (space.entry position).usageCount)
    (holds : 0 < remaining → Invariant index maliAddress left) :
    ∃ after, releaseEntries remaining index maliAddress left space = some after ∧
      RangeStep space index remaining changed after := by
  induction remaining generalizing index maliAddress left space with
  | zero => exact ⟨space, rfl, .nil wellFormed⟩
  | succ remaining ih =>
    have invariant := holds (Nat.succ_pos _)
    have inside : index < 1024 := by omega
    have used := positive index (by omega) (Nat.le_refl _)
    have counted : (space.entry index).usageCount = space.session.pageEntriesUsageCount index := rfl
    have linked : space.session.pageEntriesMapped index ≠ none := by
      rw [ne_eq, ← wellFormed.counted index inside]
      omega
    obtain ⟨page, mapped⟩ := Option.ne_none_iff_exists'.mp linked
    have change := effect index maliAddress left (space.entry index) invariant
    have advance (more : 0 < remaining) := next index maliAddress left invariant (by omega)
    rw [EntryView.released] at change
    rw [releaseEntries, ← sizeInsidePte, ← counted, decrement_of_pos used]
    by_cases lastReference : (space.entry index).usageCount = 1
    · rw [if_pos lastReference] at change
      simp only [lastReference, Nat.sub_self, if_true]
      have step := unlink_step wellFormed inside mapped
      have stillUsed : ∀ position < last, index + 1 ≤ position →
          0 < ((unlinkEntry (space.setUsageCount index 0) index).entry position).usageCount := by
        intro position below later
        rw [step.others position (by omega) (by omega)]
        exact positive position below (by omega)
      obtain ⟨after, ran, rest⟩ := ih step.wellFormed (by omega) stillUsed
        (fun more => (advance more).1)
      exact ⟨after, ran, .cons step change rest⟩
    · rw [if_neg lastReference] at change
      have remainingCount : (space.entry index).usageCount - 1 ≠ 0 := by omega
      simp only [remainingCount, if_false]
      have step := zap_step wellFormed inside mapped remainingCount (pteEntry maliAddress)
        (pteEntry (maliAddress + sizeInsidePte left - 1))
      have tableView : (space.entry index).table = some (page, space.cache.memory page) := by
        simp [AddressSpace.entry, mapped]
      simp only [tableView, Option.map_some] at change
      have stillMapped : (space.setUsageCount index
          ((space.entry index).usageCount - 1)).session.pageEntriesMapped index = some page := mapped
      simp only [stillMapped]
      obtain ⟨after, ran, rest⟩ := ih step.wellFormed (by omega)
        (fun position below later => by
          rw [step.others position (by omega) (by omega)]
          exact positive position below (by omega))
        (fun more => (advance more).2)
      exact ⟨after, ran, .cons step change rest⟩

end Floid.Mmu
