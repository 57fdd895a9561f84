import Floid.Mmu.UsageCount

namespace Floid.Mmu

open Floid.Osk AddressSpace

namespace MemoryAllocation

structure Shaped (descriptor : MemoryAllocation) : Prop where
  aligned : descriptor.maliAddress.toNat % 4096 = 0
  whole : descriptor.size.toNat % 4096 = 0
  positive : 0 < descriptor.size.toNat
  bounded : descriptor.maliAddress.toNat + descriptor.size.toNat ≤ 2 ^ 32
  guarded : descriptor.hasGuardPage = true → descriptor.maliAddress.toNat + descriptor.size.toNat < 2 ^ 32

def Covers (descriptor : MemoryAllocation) (pde pte : Nat) : Prop :=
  descriptor.maliAddress.toNat ≤ 4096 * (1024 * pde + pte) ∧
    4096 * (1024 * pde + pte) < descriptor.maliAddress.toNat + descriptor.size.toNat

/-- The entries `release` gets to: all of them when the range begins a table or
lies within one, and else those of the last table from the offset of its start on. -/
def Reaches (descriptor : MemoryAllocation) (pde pte : Nat) : Prop :=
  descriptor.maliAddress.toNat % 2 ^ 22 = 0 ∨ descriptor.firstPdeIdx = descriptor.releaseLastPdeIdx ∨
    (pde = descriptor.releaseLastPdeIdx ∧ pteEntry descriptor.maliAddress ≤ pte)

instance (descriptor : MemoryAllocation) (pde pte : Nat) : Decidable (descriptor.Covers pde pte) :=
  inferInstanceAs (Decidable (_ ∧ _))

instance (descriptor : MemoryAllocation) (pde pte : Nat) : Decidable (descriptor.Reaches pde pte) :=
  inferInstanceAs (Decidable (_ ∨ _ ∨ _))

variable {descriptor : MemoryAllocation}

theorem firstPdeIdx_eq : descriptor.firstPdeIdx = descriptor.maliAddress.toNat / 2 ^ 22 :=
  pdeEntry_eq _

theorem Shaped.releaseLastPdeIdx_eq (shaped : descriptor.Shaped) : descriptor.releaseLastPdeIdx =
      (descriptor.maliAddress.toNat + descriptor.size.toNat - 1) / 2 ^ 22 := by
  have positive := shaped.positive
  have bounded := shaped.bounded
  rw [releaseLastPdeIdx, pdeEntry_eq]
  congr 1
  simp only [BitVec.ofNat_eq_ofNat, BitVec.toNat_sub, BitVec.toNat_add, BitVec.toNat_ofNat]
  omega

theorem Shaped.lastPdeIdx_le (shaped : descriptor.Shaped) :
    descriptor.releaseLastPdeIdx ≤ descriptor.lastPdeIdx := by
  have positive := shaped.positive
  have bounded := shaped.bounded
  have aligned := shaped.aligned
  have whole := shaped.whole
  have guarded := shaped.guarded
  have reserved_eq : descriptor.reserved =
      descriptor.size.toNat + if descriptor.hasGuardPage then 4096 else 0 := rfl
  rw [shaped.releaseLastPdeIdx_eq]
  split at reserved_eq
  · rename_i guard
    have below := guarded guard
    rw [lastPdeIdx_eq (by omega) (by omega), reserved_eq]
    omega
  · rw [lastPdeIdx_eq (by omega) (by omega), reserved_eq]
    omega

end MemoryAllocation

theorem sizeInsidePte_toNat (left : U32) : (sizeInsidePte left).toNat = min left.toNat (2 ^ 22) := by
  rw [sizeInsidePte]
  split
  · rename_i small
    rw [BitVec.lt_def] at small
    have bound : (0x400000#32).toNat = 2 ^ 22 := rfl
    omega
  · rename_i large
    rw [BitVec.lt_def] at large
    have bound : (0x400000#32).toNat = 2 ^ 22 := rfl
    omega

def MemoryAllocation.pages (descriptor : MemoryAllocation) : Nat := descriptor.size.toNat / 4096

def MemoryAllocation.firstPte (descriptor : MemoryAllocation) : Nat :=
  pteEntry descriptor.maliAddress

namespace MemoryAllocation.Shaped

variable {descriptor : MemoryAllocation} (shaped : descriptor.Shaped)
include shaped

theorem address_eq : descriptor.maliAddress.toNat =
    4096 * (1024 * descriptor.firstPdeIdx + descriptor.firstPte) := by
  have aligned := shaped.aligned
  rw [firstPdeIdx_eq, firstPte, pteEntry_eq]
  omega

theorem size_eq : descriptor.size.toNat = 4096 * descriptor.pages := by
  have whole := shaped.whole
  rw [pages]
  omega

theorem pages_pos : 0 < descriptor.pages := by
  have positive := shaped.positive
  have size := shaped.size_eq
  omega

theorem releaseLastPdeIdx_bounds : 1024 * descriptor.releaseLastPdeIdx <
        1024 * descriptor.firstPdeIdx + descriptor.firstPte + descriptor.pages ∧
      1024 * descriptor.firstPdeIdx + descriptor.firstPte + descriptor.pages ≤
        1024 * (descriptor.releaseLastPdeIdx + 1) := by
  have positive := shaped.pages_pos
  rw [shaped.releaseLastPdeIdx_eq, shaped.address_eq, shaped.size_eq]
  omega

theorem covers_iff (pde pte : Nat) : descriptor.Covers pde pte ↔
    1024 * descriptor.firstPdeIdx + descriptor.firstPte ≤ 1024 * pde + pte ∧
      1024 * pde + pte < 1024 * descriptor.firstPdeIdx + descriptor.firstPte + descriptor.pages := by
  rw [Covers, shaped.address_eq, shaped.size_eq]
  omega

theorem reaches_iff (pde pte : Nat) : descriptor.Reaches pde pte ↔
    descriptor.firstPte = 0 ∨ descriptor.firstPdeIdx = descriptor.releaseLastPdeIdx ∨
      (pde = descriptor.releaseLastPdeIdx ∧ descriptor.firstPte ≤ pte) := by
  have begins : descriptor.maliAddress.toNat % 2 ^ 22 = 0 ↔ descriptor.firstPte = 0 := by
    have small : descriptor.firstPte < 1024 := by
      rw [firstPte, pteEntry_eq]
      exact Nat.mod_lt _ (by omega)
    rw [shaped.address_eq]
    omega
  rw [Reaches, begins, firstPte]

end MemoryAllocation.Shaped

theorem firstPte_lt (descriptor : MemoryAllocation) : descriptor.firstPte < 1024 := by
  rw [MemoryAllocation.firstPte, pteEntry_eq]
  exact Nat.mod_lt _ (by omega)

variable {bytes maliAddress : U32} {count page : Nat}

theorem pteEntry_pages (address : maliAddress.toNat = 4096 * page) (size : bytes.toNat = 4096 * count) :
    pteEntry maliAddress = page % 1024 ∧ pteEntry (maliAddress + bytes - 1) = (page + count + 1023) % 1024 := by
  have final : (maliAddress + bytes - 1).toNat =
      (2 ^ 32 - 1 + (maliAddress.toNat + bytes.toNat) % 2 ^ 32) % 2 ^ 32 := by
    simp only [BitVec.ofNat_eq_ofNat, BitVec.toNat_sub, BitVec.toNat_add, BitVec.toNat_ofNat]
  rw [pteEntry_eq, pteEntry_eq, final, address, size]
  omega

theorem add_pages (address : maliAddress.toNat = 4096 * page) (size : bytes.toNat = 4096 * count) :
    ∃ next, (maliAddress + bytes).toNat = 4096 * next ∧ next % 1024 = (page + count) % 1024 := by
  refine ⟨(page + count) % 2 ^ 20, ?_, by omega⟩
  rw [BitVec.toNat_add, address, size]
  omega

theorem sizeInsidePte_pages {left : U32} (bytes : left.toNat = 4096 * count) :
    (sizeInsidePte left).toNat = 4096 * min count 1024 ∧
      (left - sizeInsidePte left).toNat = 4096 * (count - 1024) := by
  have step := sizeInsidePte_toNat left
  have size : (sizeInsidePte left).toNat = 4096 * min count 1024 := by omega
  refine ⟨size, ?_⟩
  rw [BitVec.toNat_sub_of_le (by rw [BitVec.le_def]; omega)]
  omega

/-- After `round` rounds of the release loop: the pages left to account for, and the
position in a table of the page the address has moved to. That is the position of
the first page until the range is used up, and never the start of a table later. -/
def ReleaseInvariant (descriptor : MemoryAllocation) (index : Nat) (maliAddress left : U32) : Prop :=
  ∃ round page, index = descriptor.firstPdeIdx + round ∧ index ≤ descriptor.releaseLastPdeIdx ∧
    maliAddress.toNat = 4096 * page ∧ left.toNat = 4096 * (descriptor.pages - 1024 * round) ∧
    ((1024 * round ≤ descriptor.pages ∧ page % 1024 = descriptor.firstPte) ∨
      (descriptor.pages < 1024 * round ∧ page % 1024 ≠ 0))

section Loop

variable {descriptor : MemoryAllocation} (shaped : descriptor.Shaped)
include shaped

theorem releaseInvariant_start :
    ReleaseInvariant descriptor descriptor.firstPdeIdx descriptor.maliAddress descriptor.size := by
  have bounds := shaped.releaseLastPdeIdx_bounds
  have small := firstPte_lt descriptor
  have positive := shaped.pages_pos
  refine ⟨0, _, rfl, by omega, shaped.address_eq, shaped.size_eq, .inl ⟨by omega, by omega⟩⟩

variable {index : Nat} {left maliAddress : U32}

theorem releaseInvariant_next (holds : ReleaseInvariant descriptor index maliAddress left)
    (more : index + 1 < descriptor.releaseLastPdeIdx + 1) :
    ReleaseInvariant descriptor (index + 1) maliAddress (left - sizeInsidePte left) ∧
      ReleaseInvariant descriptor (index + 1) (maliAddress + sizeInsidePte left)
        (left - sizeInsidePte left) := by
  obtain ⟨round, page, position, _, address, leftover, moved⟩ := holds
  obtain ⟨size, remaining⟩ := sizeInsidePte_pages leftover
  obtain ⟨next, nextAddress, nextPosition⟩ := add_pages address size
  have bounds := shaped.releaseLastPdeIdx_bounds
  rw [Nat.sub_sub, ← Nat.mul_succ] at remaining
  refine ⟨⟨round + 1, page, by omega, by omega, address, remaining, ?_⟩,
    ⟨round + 1, next, by omega, by omega, nextAddress, remaining, ?_⟩⟩
  · omega
  · rw [nextPosition]
    omega

theorem releaseInvariant_span
    (holds : ReleaseInvariant descriptor index maliAddress left) {pte : Nat} (inside : pte < 1024) :
    (pteEntry maliAddress ≤ pte ∧ pte ≤ pteEntry (maliAddress + sizeInsidePte left - 1)) ↔
      descriptor.Covers index pte ∧ descriptor.Reaches index pte := by
  obtain ⟨round, page, position, reached, address, leftover, moved⟩ := holds
  obtain ⟨size, _⟩ := sizeInsidePte_pages leftover
  obtain ⟨first, last⟩ := pteEntry_pages address size
  have bounds := shaped.releaseLastPdeIdx_bounds
  have positive := shaped.pages_pos
  rw [first, last, shaped.covers_iff, shaped.reaches_iff, position]
  rcases moved with ⟨within, same⟩ | ⟨past, offset⟩
  · rcases Nat.lt_or_ge (descriptor.pages - 1024 * round) 1024 with partTable | fullTable
    · omega
    · omega
  · omega

end Loop

end Floid.Mmu
