import Floid.Osk.Bitops
import Mathlib.Data.Finset.Card
import Mathlib.Data.Finset.Range

namespace Floid.Mmu

open Osk

/-- `MALI_MMU_PDE_ENTRY`: each page directory entry covers 4 MB. -/
def pdeEntry (address : U32) : Nat := ((address >>> 22) &&& 0x3FF#32).toNat

def pteEntry (address : U32) : Nat := ((address >>> 12) &&& 0x3FF#32).toNat

def entryAddress (value : U32) : U32 := value &&& 0xFFFFFC00#32

def flagsPresent : U32 := 0x01#32
def flagsReadPermission : U32 := 0x02#32
def flagsWritePermission : U32 := 0x04#32

def isPresent (entry : U32) : Bool := entry &&& flagsPresent ≠ 0

theorem pdeEntry_eq (address : U32) : pdeEntry address = address.toNat / 2 ^ 22 := by
  rw [pdeEntry, BitVec.toNat_and, BitVec.toNat_ushiftRight, Nat.shiftRight_eq_div_pow,
    show (0x3FF#32).toNat = 2 ^ 10 - 1 from rfl, Nat.and_two_pow_sub_one_eq_mod]
  have := address.isLt
  omega

theorem pteEntry_eq (address : U32) : pteEntry address = address.toNat / 2 ^ 12 % 2 ^ 10 := by
  rw [pteEntry, BitVec.toNat_and, BitVec.toNat_ushiftRight, Nat.shiftRight_eq_div_pow,
    show (0x3FF#32).toNat = 2 ^ 10 - 1 from rfl, Nat.and_two_pow_sub_one_eq_mod]

theorem pdeEntry_lt (address : U32) : pdeEntry address < 1024 := by
  rw [pdeEntry_eq]
  have := address.isLt
  omega

def PageAligned (address : U32) : Prop := address.toNat % 4096 = 0

instance (address : U32) : Decidable (PageAligned address) :=
  inferInstanceAs (Decidable (_ = _))

theorem PageAligned.getLsbD {address : U32} (aligned : PageAligned address) {index : Nat}
    (low : index < 12) : address.getLsbD index = false := by
  have zero : address.toNat % 2 ^ 12 = 0 := aligned
  have bits := Nat.testBit_mod_two_pow address.toNat 12 index
  rw [zero, Nat.zero_testBit] at bits
  rw [← BitVec.testBit_toNat]
  simpa only [low, decide_true, Bool.true_and] using bits.symm

theorem PageAligned.masked_present {page mask : U32} (aligned : PageAligned page)
    (clears : ∀ index < 32, ((0x01#32).getLsbD index && mask.getLsbD index) = false)
    (keeps : ∀ index < 32, 12 ≤ index → mask.getLsbD index = true) :
    (page ||| flagsPresent) &&& mask = page := by
  apply BitVec.eq_of_getLsbD_eq
  intro index inside
  have flagHigh : ∀ index < 32, 12 ≤ index → (0x01#32).getLsbD index = false := by decide
  rw [flagsPresent, BitVec.getLsbD_and, BitVec.getLsbD_or]
  rcases Nat.lt_or_ge index 12 with low | high
  · rw [aligned.getLsbD low, Bool.false_or]
    exact clears index inside
  · rw [flagHigh index inside high, keeps index inside high, Bool.or_false, Bool.and_true]

theorem entryAddress_present {page : U32} (aligned : PageAligned page) :
    entryAddress (page ||| flagsPresent) = page :=
  aligned.masked_present (by decide) (by decide)

@[simp] theorem isPresent_or_flagsPresent (page : U32) : isPresent (page ||| flagsPresent) = true := by
  have set : ((page ||| flagsPresent) &&& flagsPresent).getLsbD 0 = true := by
    simp [flagsPresent]
  rw [isPresent, decide_eq_true_iff]
  intro zero
  rw [zero] at set
  simp at set

@[simp] theorem isPresent_zero : isPresent 0#32 = false := by decide

/-- The words of every page that can hold a directory or a table, by its physical
address. A kernel mapping of such a page is identified with that address. -/
abbrev PageMemory := U32 → Words

structure PageTableBlock where
  physBase : U32
  size : U32
  contents : PageMemory

structure PageTableAllocation where
  physBase : U32
  numPages : Nat
  usageMap : Words
  usageCount : Nat

def PageTableAllocation.page (alloc : PageTableAllocation) (number : Nat) : U32 :=
  BitVec.ofNat 32 (0x1000 * number) + alloc.physBase

def PageTableAllocation.contains (alloc : PageTableAllocation) (pa : U32) : Bool :=
  let start := alloc.physBase
  let last := start + BitVec.ofNat 32 (alloc.numPages - 1) * 0x1000#32
  start ≤ pa && pa ≤ last

def PageTableAllocation.number (alloc : PageTableAllocation) (pa : U32) : Nat :=
  ((pa - alloc.physBase) / 0x1000#32).toNat

def PageTableAllocation.take (alloc : PageTableAllocation) (number : Nat) : PageTableAllocation :=
  { alloc with usageMap := setNonatomicBit number alloc.usageMap, usageCount := alloc.usageCount + 1 }

def PageTableAllocation.drop (alloc : PageTableAllocation) (number : Nat) : PageTableAllocation :=
  { alloc with usageMap := clearNonatomicBit number alloc.usageMap, usageCount := alloc.usageCount - 1 }

structure PageTableCache where
  partialAllocations : List PageTableAllocation
  full : List PageTableAllocation
  memory : PageMemory

def PageTableCache.iowrite32 (cache : PageTableCache) (page : U32) (index : Nat) (value : U32) : PageTableCache :=
  { cache with
    memory := fun other =>
      if other = page then (cache.memory page).write index value else cache.memory other }

def PageTableCache.fillPage (cache : PageTableCache) (page : U32) (value : U32) : PageTableCache :=
  { cache with
    memory := fun other =>
      if other = page then fun index => if index < 1024 then value else cache.memory page index
      else cache.memory other }

def PageTableBlock.allocation (block : PageTableBlock) : PageTableAllocation where
  physBase := block.physBase
  numPages := block.size.toNat / 0x1000
  usageMap := setNonatomicBit 0 fun _ => 0
  usageCount := 1

def PageTableAllocation.extent (alloc : PageTableAllocation) : Nat × Nat :=
  (alloc.physBase.toNat, alloc.numPages)

def Apart (left right : Nat × Nat) : Prop :=
  left.1 + 4096 * left.2 ≤ right.1 ∨ right.1 + 4096 * right.2 ≤ left.1

structure PageTableBlock.Fresh (block : PageTableBlock) (cache : PageTableCache) : Prop where
  aligned : PageAligned block.physBase
  several : 2 ≤ block.allocation.numPages
  bounded : block.physBase.toNat + block.size.toNat ≤ 2 ^ 32
  apart : ∀ alloc ∈ cache.partialAllocations ++ cache.full, Apart block.allocation.extent alloc.extent

/-- `mali_mmu_get_table_page`. The block is what the allocators answer when every
page is in use, `none` when they or one of the two descriptions of the block find
no memory. The result is then `_MALI_OSK_ERR_NOMEM`, and nothing has changed. -/
def getTablePage (cache : PageTableCache) (block : Option PageTableBlock) : Option (U32 × PageTableCache) :=
  match cache.partialAllocations with
  | alloc :: rest =>
      let pageNumber := findFirstZeroBit alloc.usageMap alloc.numPages
      let taken := alloc.take pageNumber
      if taken.numPages = taken.usageCount then
        some (alloc.page pageNumber,
          { cache with partialAllocations := rest, full := taken :: cache.full })
      else
        some (alloc.page pageNumber, { cache with partialAllocations := taken :: rest })
  | [] =>
      block.map fun block =>
        let memory := fun page =>
          if block.allocation.contains page then block.contents page else cache.memory page
        let added :=
          { cache with
            partialAllocations := block.allocation :: cache.partialAllocations
            memory := memory }
        -- only the first page of the block is cleared
        (block.physBase, added.fillPage block.physBase 0)

def splitContaining (pa : U32) : List PageTableAllocation →
    Option (List PageTableAllocation × PageTableAllocation × List PageTableAllocation)
  | [] => none
  | alloc :: rest =>
      if alloc.contains pa then some ([], alloc, rest)
      else (splitContaining pa rest).map fun (before, found, after) => (alloc :: before, found, after)

/-- `mali_mmu_release_table_page`: the partial list is searched first. -/
def releaseTablePage (cache : PageTableCache) (pa : U32) : PageTableCache :=
  match splitContaining pa cache.partialAllocations with
  | some (before, alloc, after) =>
      let dropped := alloc.drop (alloc.number pa)
      if dropped.usageCount = 0 then
        { cache.fillPage pa 0 with partialAllocations := before ++ after }
      else { cache.fillPage pa 0 with partialAllocations := before ++ dropped :: after }
  | none =>
      match splitContaining pa cache.full with
      | some (before, alloc, after) =>
          let dropped := alloc.drop (alloc.number pa)
          { cache.fillPage pa 0 with
            partialAllocations := dropped :: cache.partialAllocations
            full := before ++ after }
      | none => cache

end Floid.Mmu
