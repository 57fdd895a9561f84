import Floid.Mmu.PageTableCache

namespace Floid.Mmu

open Osk
open List (append_assoc map_cons mem_append mem_cons mem_cons_self pairwise_cons perm_middle)

namespace PageTableAllocation

variable {alloc : PageTableAllocation}

def usedPages (alloc : PageTableAllocation) : Finset Nat :=
  (Finset.range alloc.numPages).filter fun number => alloc.usageMap.bit number

def Uses (alloc : PageTableAllocation) (page : U32) : Prop :=
  ∃ number ∈ alloc.usedPages, page = alloc.page number

structure WellFormed (alloc : PageTableAllocation) : Prop where
  aligned : PageAligned alloc.physBase
  several : 2 ≤ alloc.numPages
  bounded : alloc.physBase.toNat + 4096 * alloc.numPages ≤ 2 ^ 32
  counted : alloc.usageCount = alloc.usedPages.card

variable {number : Nat}

theorem mem_usedPages :
    number ∈ alloc.usedPages ↔ number < alloc.numPages ∧ alloc.usageMap.bit number = true := by
  simp [usedPages]

theorem page_toNat (wellFormed : alloc.WellFormed) (inside : number < alloc.numPages) :
    (alloc.page number).toNat = alloc.physBase.toNat + 4096 * number := by
  have bounded := wellFormed.bounded
  simp only [page, BitVec.toNat_add, BitVec.toNat_ofNat]
  omega

theorem page_aligned (wellFormed : alloc.WellFormed)
    (inside : number < alloc.numPages) : PageAligned (alloc.page number) := by
  have aligned := wellFormed.aligned
  unfold PageAligned at aligned ⊢
  rw [page_toNat wellFormed inside]
  omega

theorem page_injective (wellFormed : alloc.WellFormed) {left right : Nat}
    (leftInside : left < alloc.numPages) (rightInside : right < alloc.numPages)
    (same : alloc.page left = alloc.page right) : left = right := by
  have numbers := congrArg BitVec.toNat same
  rw [page_toNat wellFormed leftInside, page_toNat wellFormed rightInside] at numbers
  omega

theorem contains_iff (wellFormed : alloc.WellFormed) (pa : U32) :
    alloc.contains pa = true ↔ alloc.physBase.toNat ≤ pa.toNat ∧
      pa.toNat ≤ alloc.physBase.toNat + 4096 * (alloc.numPages - 1) := by
  have bounded := wellFormed.bounded
  have several := wellFormed.several
  have last : (alloc.physBase + BitVec.ofNat 32 (alloc.numPages - 1) * 0x1000#32).toNat =
      alloc.physBase.toNat + 4096 * (alloc.numPages - 1) := by
    simp only [BitVec.toNat_add, BitVec.toNat_mul, BitVec.toNat_ofNat]
    omega
  simp only [contains, Bool.and_eq_true, decide_eq_true_eq, BitVec.le_def, last]

theorem contains_page (wellFormed : alloc.WellFormed)
    (inside : number < alloc.numPages) : alloc.contains (alloc.page number) = true := by
  rw [contains_iff wellFormed, page_toNat wellFormed inside]
  omega

theorem Uses.contains {page : U32} (uses : alloc.Uses page) (wellFormed : alloc.WellFormed) :
    alloc.contains page = true := by
  obtain ⟨number, used, rfl⟩ := uses
  exact contains_page wellFormed (mem_usedPages.mp used).1

theorem number_page (wellFormed : alloc.WellFormed)
    (inside : number < alloc.numPages) : alloc.number (alloc.page number) = number := by
  have value := page_toNat wellFormed inside
  have offset : (2 ^ 32 - alloc.physBase.toNat + (alloc.physBase.toNat + 4096 * number)) % 2 ^ 32 =
      4096 * number := by omega
  rw [PageTableAllocation.number, BitVec.toNat_udiv, BitVec.toNat_sub, value, offset,
    show (0x1000#32).toNat = 4096 from rfl]
  omega

theorem usedPages_take (inside : number < alloc.numPages) :
    (alloc.take number).usedPages = insert number alloc.usedPages := by
  ext other
  rw [Finset.mem_insert, mem_usedPages, mem_usedPages, take, bit_setNonatomicBit, Bool.or_eq_true, decide_eq_true_iff]
  constructor
  · rintro ⟨below, set | same⟩
    · exact .inr ⟨below, set⟩
    · exact .inl same
  · rintro (same | ⟨below, set⟩)
    · exact ⟨same ▸ inside, .inr same⟩
    · exact ⟨below, .inl set⟩

theorem usedPages_drop (number : Nat) : (alloc.drop number).usedPages = alloc.usedPages.erase number := by
  ext other
  rw [Finset.mem_erase, mem_usedPages, mem_usedPages, drop, bit_clearNonatomicBit]
  simp only [Bool.and_eq_true, Bool.not_eq_true', decide_eq_false_iff_not]
  tauto

theorem WellFormed.take (wellFormed : alloc.WellFormed)
    (inside : number < alloc.numPages) (clear : alloc.usageMap.bit number = false) :
    (alloc.take number).WellFormed where
  __ := wellFormed
  counted := by
    have unused : number ∉ alloc.usedPages := by simp [mem_usedPages, clear]
    rw [usedPages_take inside, Finset.card_insert_of_notMem unused, ← wellFormed.counted]
    rfl

theorem WellFormed.drop (wellFormed : alloc.WellFormed)
    (used : number ∈ alloc.usedPages) : (alloc.drop number).WellFormed where
  __ := wellFormed
  counted := by
    rw [usedPages_drop, Finset.card_erase_of_mem used, ← wellFormed.counted]
    rfl

theorem uses_take (inside : number < alloc.numPages) (page : U32) :
    (alloc.take number).Uses page ↔ page = alloc.page number ∨ alloc.Uses page := by
  unfold Uses
  rw [usedPages_take inside]
  simp only [Finset.mem_insert, exists_eq_or_imp]
  rfl

theorem uses_drop (wellFormed : alloc.WellFormed) (used : number ∈ alloc.usedPages) (page : U32) :
    (alloc.drop number).Uses page ↔ page ≠ alloc.page number ∧ alloc.Uses page := by
  unfold Uses
  rw [usedPages_drop]
  constructor
  · rintro ⟨other, member, rfl⟩
    obtain ⟨different, otherUsed⟩ := Finset.mem_erase.mp member
    refine ⟨fun same => different ?_, other, otherUsed, rfl⟩
    exact page_injective wellFormed (mem_usedPages.mp otherUsed).1 (mem_usedPages.mp used).1 same
  · rintro ⟨different, other, otherUsed, rfl⟩
    refine ⟨other, Finset.mem_erase.mpr ⟨?_, otherUsed⟩, rfl⟩
    rintro rfl
    exact different rfl

theorem exists_clear (wellFormed : alloc.WellFormed) (room : alloc.usageCount < alloc.numPages) :
    ∃ number < alloc.numPages, alloc.usageMap.bit number = false := by
  by_contra full
  have all : alloc.usedPages = Finset.range alloc.numPages := by
    ext number
    rw [mem_usedPages, Finset.mem_range]
    constructor
    · exact fun member => member.1
    · intro below
      refine ⟨below, ?_⟩
      by_contra clear
      exact full ⟨number, below, Bool.eq_false_iff.mpr clear⟩
  rw [wellFormed.counted, all, Finset.card_range] at room
  omega

end PageTableAllocation

theorem Apart.symm {left right : Nat × Nat} (apart : Apart left right) : Apart right left :=
  Or.symm apart

theorem Apart.not_contains {left right : PageTableAllocation} (apart : Apart left.extent right.extent)
    (leftWellFormed : left.WellFormed) (rightWellFormed : right.WellFormed) {page : U32}
    (contained : left.contains page = true) : right.contains page = false := by
  rw [left.contains_iff leftWellFormed] at contained
  rw [Bool.eq_false_iff, ne_eq, right.contains_iff rightWellFormed]
  have leftSeveral := leftWellFormed.several
  have rightSeveral := rightWellFormed.several
  unfold Apart PageTableAllocation.extent at apart
  omega

variable {alloc : PageTableAllocation}

namespace PageTableCache

variable {cache : PageTableCache}

def allocations (cache : PageTableCache) : List PageTableAllocation :=
  cache.partialAllocations ++ cache.full

def InUse (cache : PageTableCache) (page : U32) : Prop :=
  ∃ alloc ∈ cache.allocations, alloc.Uses page

structure WellFormed (cache : PageTableCache) : Prop where
  each : ∀ alloc ∈ cache.allocations, alloc.WellFormed
  partialUsed : ∀ alloc ∈ cache.partialAllocations, 0 < alloc.usageCount
  partialRoom : ∀ alloc ∈ cache.partialAllocations, alloc.usageCount < alloc.numPages
  fullCount : ∀ alloc ∈ cache.full, alloc.usageCount = alloc.numPages
  apart : (cache.allocations.map PageTableAllocation.extent).Pairwise Apart

structure Obtained (cache : PageTableCache) (page : U32) (after : PageTableCache) : Prop where
  wellFormed : after.WellFormed
  fresh : ¬cache.InUse page
  aligned : PageAligned page
  inUse : ∀ other, after.InUse other ↔ other = page ∨ cache.InUse other
  kept : ∀ other, cache.InUse other → after.memory other = cache.memory other

structure Released (cache : PageTableCache) (page : U32) (after : PageTableCache) : Prop where
  wellFormed : after.WellFormed
  inUse : ∀ other, after.InUse other ↔ other ≠ page ∧ cache.InUse other
  kept : ∀ other, other ≠ page → after.memory other = cache.memory other

variable {full rest : List PageTableAllocation} {memory : PageMemory} {after : PageTableCache}

theorem inUse_cons (page : U32) :
    InUse ⟨alloc :: rest, full, memory⟩ page ↔ alloc.Uses page ∨ InUse ⟨rest, full, memory⟩ page := by
  simp only [InUse, allocations, List.cons_append, mem_cons, exists_eq_or_imp]

theorem not_inUse_rest (each : ∀ other ∈ alloc :: rest, other.WellFormed)
    (apart : ((alloc :: rest).map PageTableAllocation.extent).Pairwise Apart) {page : U32}
    (contained : alloc.contains page = true) : ¬∃ other ∈ rest, other.Uses page := by
  rintro ⟨other, member, uses⟩
  have otherWellFormed := each other (List.mem_cons_of_mem _ member)
  rw [map_cons, pairwise_cons] at apart
  have separate := apart.1 other.extent (List.mem_map_of_mem member)
  have absent := separate.not_contains (each alloc mem_cons_self) otherWellFormed contained
  rw [uses.contains otherWellFormed] at absent
  contradiction

theorem wellFormed_of_front {before : PageTableCache} {alloc changed : PageTableAllocation}
    (wellFormed : before.WellFormed)
    (beforePerm : before.allocations.Perm (alloc :: rest))
    (afterPerm : after.allocations.Perm (changed :: rest))
    (changedWellFormed : changed.WellFormed) (sameExtent : changed.extent = alloc.extent)
    (partialUsed : ∀ alloc ∈ after.partialAllocations, 0 < alloc.usageCount)
    (partialRoom : ∀ alloc ∈ after.partialAllocations, alloc.usageCount < alloc.numPages)
    (fullCount : ∀ alloc ∈ after.full, alloc.usageCount = alloc.numPages) : after.WellFormed where
  each := by
    intro other member
    rcases mem_cons.mp (afterPerm.mem_iff.mp member) with rfl | old
    · exact changedWellFormed
    · exact wellFormed.each other (beforePerm.mem_iff.mpr (List.mem_cons_of_mem _ old))
  partialUsed := partialUsed
  partialRoom := partialRoom
  fullCount := fullCount
  apart := by
    have frontApart := ((beforePerm.map _).pairwise_iff Apart.symm).mp wellFormed.apart
    apply ((afterPerm.map _).pairwise_iff Apart.symm).mpr
    rwa [map_cons, sameExtent]

theorem not_inUse_of_clear
    (wellFormed : cache.WellFormed) (perm : cache.allocations.Perm (alloc :: rest)) {number : Nat}
    (inside : number < alloc.numPages) (clear : alloc.usageMap.bit number = false) :
    ¬cache.InUse (alloc.page number) := by
  have each : ∀ other ∈ alloc :: rest, other.WellFormed :=
    fun other member => wellFormed.each other (perm.mem_iff.mpr member)
  have allocWellFormed := each alloc mem_cons_self
  rintro ⟨other, member, uses⟩
  rcases mem_cons.mp (perm.mem_iff.mp member) with rfl | old
  · obtain ⟨used, usedMember, same⟩ := uses
    obtain ⟨usedInside, set⟩ := PageTableAllocation.mem_usedPages.mp usedMember
    rw [← PageTableAllocation.page_injective allocWellFormed inside usedInside same, clear] at set
    contradiction
  · have apart := ((perm.map _).pairwise_iff Apart.symm).mp wellFormed.apart
    exact not_inUse_rest each apart (PageTableAllocation.contains_page allocWellFormed inside)
      ⟨other, old, uses⟩

theorem inUse_of_perm (perm : cache.allocations.Perm (alloc :: rest)) (page : U32) :
    cache.InUse page ↔ alloc.Uses page ∨ ∃ other ∈ rest, other.Uses page := by
  simp only [InUse, perm.mem_iff, mem_cons, exists_eq_or_imp]

theorem getTablePage_front {block : Option PageTableBlock} {page : U32}
    (wellFormed : WellFormed ⟨alloc :: rest, full, memory⟩)
    (got : getTablePage ⟨alloc :: rest, full, memory⟩ block = some (page, after)) :
    ∃ number < alloc.numPages, alloc.usageMap.bit number = false ∧ page = alloc.page number ∧
      after.memory = memory ∧ after.allocations.Perm (alloc.take number :: (rest ++ full)) ∧
      after.WellFormed := by
  have allocWellFormed := wellFormed.each alloc (by simp [allocations])
  have room := wellFormed.partialRoom alloc mem_cons_self
  obtain ⟨free, freeInside, freeClear⟩ := PageTableAllocation.exists_clear allocWellFormed room
  have inside := findFirstZeroBit_lt alloc.usageMap freeInside freeClear
  have clear := (findFirstZeroBit_spec alloc.usageMap alloc.numPages).2.2 inside
  have takenWellFormed := allocWellFormed.take inside clear
  have beforePerm : (⟨alloc :: rest, full, memory⟩ : PageTableCache).allocations.Perm
      (alloc :: (rest ++ full)) := .refl _
  have restUsed (other) (member : other ∈ rest) := wellFormed.partialUsed other (by simp [member])
  have restRoom (other) (member : other ∈ rest) := wellFormed.partialRoom other (by simp [member])
  simp only [getTablePage] at got
  split at got
  · rename_i filled
    cases got
    have afterPerm := @List.perm_middle _
      (alloc.take (findFirstZeroBit alloc.usageMap alloc.numPages)) rest full
    refine ⟨_, inside, clear, rfl, rfl, afterPerm, wellFormed_of_front wellFormed beforePerm afterPerm
      takenWellFormed rfl restUsed restRoom ?_⟩
    intro other member
    rcases mem_cons.mp member with rfl | old
    · exact filled.symm
    · exact wellFormed.fullCount other old
  · rename_i unfilled
    cases got
    refine ⟨_, inside, clear, rfl, rfl, .refl _, wellFormed_of_front wellFormed beforePerm (.refl _)
      takenWellFormed rfl ?_ ?_ wellFormed.fullCount⟩
    · intro other member
      rcases mem_cons.mp member with rfl | old
      · exact Nat.succ_pos _
      · exact restUsed other old
    · intro other member
      rcases mem_cons.mp member with rfl | old
      · have counted : (alloc.take (findFirstZeroBit alloc.usageMap alloc.numPages)).usageCount =
            alloc.usageCount + 1 := rfl
        have pages : (alloc.take (findFirstZeroBit alloc.usageMap alloc.numPages)).numPages =
            alloc.numPages := rfl
        omega
      · exact restRoom other old

theorem getTablePage_cons {block : Option PageTableBlock} {page : U32}
    (wellFormed : WellFormed ⟨alloc :: rest, full, memory⟩)
    (got : getTablePage ⟨alloc :: rest, full, memory⟩ block = some (page, after)) :
    Obtained ⟨alloc :: rest, full, memory⟩ page after := by
  obtain ⟨number, inside, clear, rfl, kept, afterPerm, afterWellFormed⟩ := getTablePage_front wellFormed got
  have beforePerm : (⟨alloc :: rest, full, memory⟩ : PageTableCache).allocations.Perm
      (alloc :: (rest ++ full)) := .refl _
  refine ⟨afterWellFormed, not_inUse_of_clear wellFormed beforePerm inside clear,
    alloc.page_aligned (wellFormed.each alloc (by simp [allocations])) inside, ?_, ?_⟩
  · intro other
    rw [inUse_of_perm afterPerm, inUse_of_perm beforePerm, alloc.uses_take inside, or_assoc]
  · intro other _
    rw [kept]

theorem fillPage_other (page other : U32) (value : U32) (different : other ≠ page) :
    (cache.fillPage page value).memory other = cache.memory other := by
  simp [fillPage, different]

end PageTableCache

namespace PageTableBlock

variable {block : PageTableBlock}

theorem allocation_wellFormed {cache : PageTableCache} (fresh : block.Fresh cache) : block.allocation.WellFormed where
  __ := fresh
  bounded := by
    have bounded := fresh.bounded
    have pages : block.allocation.numPages = block.size.toNat / 4096 := rfl
    have base : block.allocation.physBase = block.physBase := rfl
    rw [pages, base]
    omega
  counted := by
    have several := fresh.several
    have used : block.allocation.usedPages = {0} := by
      ext number
      rw [PageTableAllocation.mem_usedPages, Finset.mem_singleton, allocation, bit_setNonatomicBit]
      simp only [Words.bit, BitVec.ofNat_eq_ofNat, BitVec.getLsbD_zero, Bool.false_or, decide_eq_true_iff]
      constructor
      · exact fun member => member.2
      · rintro rfl
        exact ⟨by unfold allocation at several; simp only at several; omega, rfl⟩
    rw [used, Finset.card_singleton]
    rfl

theorem page_zero : block.allocation.page 0 = block.physBase := by
  simp [PageTableAllocation.page, allocation]

theorem allocation_uses {cache : PageTableCache} (fresh : block.Fresh cache) (page : U32) :
    block.allocation.Uses page ↔ page = block.physBase := by
  have several := fresh.several
  constructor
  · rintro ⟨number, used, rfl⟩
    have set := (PageTableAllocation.mem_usedPages.mp used).2
    rw [allocation, bit_setNonatomicBit] at set
    simp only [Words.bit, BitVec.ofNat_eq_ofNat, BitVec.getLsbD_zero, Bool.false_or, decide_eq_true_iff] at set
    rw [set, page_zero]
  · rintro rfl
    refine ⟨0, PageTableAllocation.mem_usedPages.mpr ⟨by omega, ?_⟩, page_zero.symm⟩
    simp [allocation, bit_setNonatomicBit]

end PageTableBlock

namespace PageTableCache

variable {cache : PageTableCache}

variable {after : PageTableCache} {page : U32} {allocations rest : List PageTableAllocation}

theorem getTablePage_nil {full : List PageTableAllocation} {memory : PageMemory} {block : PageTableBlock}
    (wellFormed : WellFormed ⟨[], full, memory⟩) (fresh : block.Fresh ⟨[], full, memory⟩)
    (got : getTablePage ⟨[], full, memory⟩ (some block) = some (page, after)) :
    Obtained ⟨[], full, memory⟩ page after := by
  have several := fresh.several
  have blockWellFormed := PageTableBlock.allocation_wellFormed fresh
  have others_apart (alloc) (member : alloc ∈ full) :
      Apart block.allocation.extent alloc.extent := fresh.apart alloc (by simpa using member)
  have not_contained (other : U32) (used : InUse ⟨[], full, memory⟩ other) :
      block.allocation.contains other = false := by
    obtain ⟨alloc, member, uses⟩ := used
    have allocWellFormed := wellFormed.each alloc member
    exact (others_apart alloc member).symm.not_contains allocWellFormed blockWellFormed
      (uses.contains allocWellFormed)
  have first_contained : block.allocation.contains block.physBase = true := by
    rw [← PageTableBlock.page_zero]
    exact PageTableAllocation.contains_page blockWellFormed (by omega)
  have unused : ¬InUse ⟨[], full, memory⟩ block.physBase := by
    intro used
    rw [not_contained _ used] at first_contained
    contradiction
  obtain ⟨rfl, rfl⟩ := got
  refine ⟨?_, unused, fresh.aligned, ?_, ?_⟩
  · refine ⟨?_, ?_, ?_, wellFormed.fullCount, ?_⟩
    · intro alloc member
      rcases mem_cons.mp member with rfl | old
      · exact blockWellFormed
      · exact wellFormed.each alloc old
    · intro alloc member
      rw [List.mem_singleton.mp member]
      exact Nat.one_pos
    · intro alloc member
      rw [List.mem_singleton.mp member]
      exact several
    · refine pairwise_cons.mpr ⟨?_, wellFormed.apart⟩
      intro extent member
      obtain ⟨alloc, allocMember, rfl⟩ := List.mem_map.mp member
      exact others_apart alloc allocMember
  · intro other
    rw [← PageTableBlock.allocation_uses fresh]
    exact inUse_cons other
  · intro other used
    have different : other ≠ block.physBase := by
      rintro rfl
      exact unused used
    rw [fillPage_other _ _ _ different]
    simp only [not_contained other used, Bool.false_eq_true, if_false]

theorem getTablePage_obtained {block : Option PageTableBlock}
    (wellFormed : cache.WellFormed) (fresh : ∀ new, block = some new → new.Fresh cache)
    (got : getTablePage cache block = some (page, after)) : Obtained cache page after := by
  obtain ⟨partialAllocations, full, memory⟩ := cache
  cases partialAllocations with
  | cons alloc rest => exact getTablePage_cons wellFormed got
  | nil =>
    cases block with
    | none => simp [getTablePage] at got
    | some block => exact getTablePage_nil wellFormed (fresh block rfl) got

variable {pa : U32}

theorem splitContaining_some {before after : List PageTableAllocation}
    (found : splitContaining pa allocations = some (before, alloc, after)) :
    allocations = before ++ alloc :: after ∧ alloc.contains pa = true := by
  induction allocations generalizing before with
  | nil => simp [splitContaining] at found
  | cons first rest ih =>
    rw [splitContaining] at found
    split at found
    · rename_i contained
      cases found
      exact ⟨rfl, contained⟩
    · cases tail : splitContaining pa rest with
      | none => simp [tail] at found
      | some split =>
        obtain ⟨restBefore, restAlloc, restAfter⟩ := split
        simp only [tail, Option.map_some, Option.some.injEq, Prod.mk.injEq] at found
        obtain ⟨rfl, rfl, rfl⟩ := found
        obtain ⟨same, contained⟩ := ih tail
        exact ⟨by rw [same, List.cons_append], contained⟩

theorem splitContaining_none (missed : splitContaining pa allocations = none) :
    ∀ alloc ∈ allocations, alloc.contains pa = false := by
  induction allocations with
  | nil => simp
  | cons first rest ih =>
    rw [splitContaining] at missed
    split at missed
    · contradiction
    · rename_i absent
      rw [Option.map_eq_none_iff] at missed
      intro alloc member
      rcases mem_cons.mp member with rfl | old
      · exact Bool.eq_false_iff.mpr absent
      · exact ih missed alloc old

theorem uses_of_contains
    (wellFormed : cache.WellFormed) (perm : cache.allocations.Perm (alloc :: rest))
    (used : cache.InUse page) (contained : alloc.contains page = true) :
    alloc.number page ∈ alloc.usedPages ∧ page = alloc.page (alloc.number page) := by
  have each : ∀ other ∈ alloc :: rest, other.WellFormed :=
    fun other member => wellFormed.each other (perm.mem_iff.mpr member)
  have apart := ((perm.map _).pairwise_iff Apart.symm).mp wellFormed.apart
  rcases (inUse_of_perm perm page).mp used with ⟨number, member, rfl⟩ | elsewhere
  · have inside := (PageTableAllocation.mem_usedPages.mp member).1
    rw [PageTableAllocation.number_page (each alloc mem_cons_self) inside]
    exact ⟨member, rfl⟩
  · exact absurd elsewhere (not_inUse_rest each apart contained)

theorem released_of_front
    {kept : List PageTableAllocation} (wellFormed : cache.WellFormed)
    (perm : cache.allocations.Perm (alloc :: rest)) (used : cache.InUse page)
    (contained : alloc.contains page = true)
    (memory : after.memory = (cache.fillPage page 0).memory)
    (afterPerm : after.allocations.Perm (kept ++ rest))
    (keptIs : kept = [alloc.drop (alloc.number page)] ∨ kept = [] ∧ (alloc.drop (alloc.number page)).usageCount = 0)
    (afterWellFormed : after.WellFormed) : Released cache page after := by
  have allocWellFormed := wellFormed.each alloc (perm.mem_iff.mpr mem_cons_self)
  obtain ⟨member, same⟩ := uses_of_contains wellFormed perm used contained
  have each : ∀ other ∈ alloc :: rest, other.WellFormed :=
    fun other member => wellFormed.each other (perm.mem_iff.mpr member)
  have apart := ((perm.map _).pairwise_iff Apart.symm).mp wellFormed.apart
  have not_rest := not_inUse_rest each apart contained
  have drop_uses (other : U32) :
      (alloc.drop (alloc.number page)).Uses other ↔ other ≠ page ∧ alloc.Uses other := by
    rw [alloc.uses_drop allocWellFormed member, ← same]
  have kept_uses (other : U32) : (∃ alloc ∈ kept, alloc.Uses other) ↔ other ≠ page ∧ alloc.Uses other := by
    rw [← drop_uses]
    rcases keptIs with rfl | ⟨rfl, empty⟩
    · simp
    · constructor
      · rintro ⟨_, impossible, _⟩
        simp at impossible
      · rintro ⟨number, remaining, _⟩
        have counted := (allocWellFormed.drop member).counted
        rw [empty] at counted
        rw [Finset.card_eq_zero.mp counted.symm] at remaining
        simp at remaining
  refine ⟨afterWellFormed, ?_, ?_⟩
  · intro other
    have after_uses : after.InUse other ↔
        (∃ alloc ∈ kept, alloc.Uses other) ∨ ∃ alloc ∈ rest, alloc.Uses other := by
      simp only [InUse, afterPerm.mem_iff, mem_append, or_and_right, exists_or]
    rw [after_uses, kept_uses, inUse_of_perm perm]
    constructor
    · rintro (⟨different, uses⟩ | elsewhere)
      · exact ⟨different, .inl uses⟩
      · refine ⟨?_, .inr elsewhere⟩
        rintro rfl
        exact not_rest elsewhere
    · rintro ⟨different, uses | elsewhere⟩
      · exact .inl ⟨different, uses⟩
      · exact .inr elsewhere
  · intro other different
    rw [memory, fillPage_other _ _ _ different]

theorem releaseTablePage_front (wellFormed : cache.WellFormed) (used : cache.InUse page) :
    ∃ alloc rest kept, cache.allocations.Perm (alloc :: rest) ∧ alloc.contains page = true ∧
      (releaseTablePage cache page).memory = (cache.fillPage page 0).memory ∧
      (releaseTablePage cache page).allocations.Perm (kept ++ rest) ∧
      (kept = [alloc.drop (alloc.number page)] ∨
        kept = [] ∧ (alloc.drop (alloc.number page)).usageCount = 0) ∧
      (releaseTablePage cache page).WellFormed := by
  rw [releaseTablePage]
  cases first : splitContaining page cache.partialAllocations with
  | some split =>
    obtain ⟨before, alloc, after⟩ := split
    obtain ⟨same, contained⟩ := splitContaining_some first
    have perm : cache.allocations.Perm (alloc :: (before ++ after ++ cache.full)) := by
      rw [allocations, same, append_assoc, append_assoc]
      exact perm_middle
    have member_partial : alloc ∈ cache.partialAllocations := by simp [same]
    have allocWellFormed := wellFormed.each alloc (perm.mem_iff.mpr mem_cons_self)
    have usedPage := (uses_of_contains wellFormed perm used contained).1
    have others (other) (member : other ∈ before ++ after) : other ∈ cache.partialAllocations := by
      rcases mem_append.mp member with left | right
      · simp [same, left]
      · simp [same, right]
    simp only
    split
    · rename_i empty
      refine ⟨alloc, _, [], perm, contained, rfl, .refl _, .inr ⟨rfl, empty⟩, ?_⟩
      refine ⟨?_, ?_, ?_, wellFormed.fullCount, ?_⟩
      · exact fun other member => wellFormed.each other
          (perm.mem_iff.mpr (List.mem_cons_of_mem _ member))
      · exact fun other member => wellFormed.partialUsed other (others other member)
      · exact fun other member => wellFormed.partialRoom other (others other member)
      · have apart := ((perm.map _).pairwise_iff Apart.symm).mp wellFormed.apart
        rw [map_cons] at apart
        exact (pairwise_cons.mp apart).2
    · rename_i remaining
      have afterPerm : (before ++ alloc.drop (alloc.number page) :: after ++ cache.full).Perm
          (alloc.drop (alloc.number page) :: (before ++ after ++ cache.full)) := by
        rw [append_assoc, append_assoc]
        exact perm_middle
      refine ⟨alloc, _, [alloc.drop (alloc.number page)], perm, contained, rfl, afterPerm, .inl rfl, ?_⟩
      refine wellFormed_of_front wellFormed perm afterPerm (allocWellFormed.drop usedPage) rfl
        ?_ ?_ wellFormed.fullCount
      · intro other member
        rcases mem_cons.mp (perm_middle.mem_iff.mp member) with rfl | old
        · exact Nat.pos_of_ne_zero remaining
        · exact wellFormed.partialUsed other (others other old)
      · intro other member
        rcases mem_cons.mp (perm_middle.mem_iff.mp member) with rfl | old
        · have room := wellFormed.partialRoom alloc member_partial
          have counted : (alloc.drop (alloc.number page)).usageCount = alloc.usageCount - 1 := rfl
          have pages : (alloc.drop (alloc.number page)).numPages = alloc.numPages := rfl
          omega
        · exact wellFormed.partialRoom other (others other old)
  | none =>
    cases second : splitContaining page cache.full with
    | some split =>
      obtain ⟨before, alloc, after⟩ := split
      obtain ⟨same, contained⟩ := splitContaining_some second
      have perm : cache.allocations.Perm
          (alloc :: (cache.partialAllocations ++ (before ++ after))) := by
        rw [allocations, same, ← append_assoc, ← append_assoc]
        exact perm_middle
      have member_full : alloc ∈ cache.full := by simp [same]
      have allocWellFormed := wellFormed.each alloc (perm.mem_iff.mpr mem_cons_self)
      have usedPage := (uses_of_contains wellFormed perm used contained).1
      have full := wellFormed.fullCount alloc member_full
      have several := allocWellFormed.several
      have counted : (alloc.drop (alloc.number page)).usageCount = alloc.usageCount - 1 := rfl
      have pages : (alloc.drop (alloc.number page)).numPages = alloc.numPages := rfl
      refine ⟨alloc, _, [alloc.drop (alloc.number page)], perm, contained, rfl, .refl _, .inl rfl, ?_⟩
      refine wellFormed_of_front wellFormed perm (.refl _) (allocWellFormed.drop usedPage) rfl
        ?_ ?_ ?_
      · intro other member
        rcases mem_cons.mp member with rfl | old
        · omega
        · exact wellFormed.partialUsed other old
      · intro other member
        rcases mem_cons.mp member with rfl | old
        · omega
        · exact wellFormed.partialRoom other old
      · intro other member
        refine wellFormed.fullCount other ?_
        rcases mem_append.mp member with left | right
        · simp [same, left]
        · simp [same, right]
    | none =>
      obtain ⟨alloc, member, uses⟩ := used
      have contained := uses.contains (wellFormed.each alloc member)
      rcases mem_append.mp member with inPartial | inFull
      · rw [splitContaining_none first alloc inPartial] at contained
        contradiction
      · rw [splitContaining_none second alloc inFull] at contained
        contradiction

theorem releaseTablePage_released (wellFormed : cache.WellFormed)
    (used : cache.InUse page) : Released cache page (releaseTablePage cache page) := by
  obtain ⟨_, _, _, perm, contained, memory, afterPerm, keptIs, afterWellFormed⟩ :=
    releaseTablePage_front wellFormed used
  exact released_of_front wellFormed perm used contained memory afterPerm keptIs afterWellFormed

theorem iowrite32_wellFormed (wellFormed : cache.WellFormed) (page : U32) (index : Nat)
    (value : U32) : (cache.iowrite32 page index value).WellFormed := { wellFormed with }

@[simp] theorem iowrite32_inUse (page other : U32) (index : Nat) (value : U32) :
    (cache.iowrite32 page index value).InUse other ↔ cache.InUse other :=
  Iff.rfl

theorem iowrite32_other {other : U32} (index : Nat) (value : U32) (different : other ≠ page) :
    (cache.iowrite32 page index value).memory other = cache.memory other := by
  simp [iowrite32, different]

theorem iowrite32_same (page : U32) (index : Nat) (value : U32) :
    (cache.iowrite32 page index value).memory page = (cache.memory page).write index value := by
  simp [iowrite32]

end PageTableCache

end Floid.Mmu
