import Floid.Osk.Types

namespace Floid.Core

open Osk

/-- `_mali_mem_validation_t`. -/
structure MemValidation where
  physBase : U32
  size : U32
  cpuUsageAdjust : U32

def invalidMem : MemValidation := ⟨0xFFFFFFFF#32, 0xFFFFFFFF#32, 0xFFFFFFFF#32⟩

def pageAlignedWord (value : U32) : Bool := value &&& pageOffsetMask = 0

/-- `mali_kernel_core_resource_mem_validation`. The two module parameters replace
the base and the size of the resource unless they are -1. -/
def resourceMemValidation (memValidationBase memValidationSize : U32)
    (resource validator : MemValidation) : Errcode × MemValidation :=
  if validator.physBase ≠ 0xFFFFFFFF#32 then (.fault, validator)
  else
    let base := if memValidationBase ≠ 0xFFFFFFFF#32 then memValidationBase else resource.physBase
    let size := if memValidationSize ≠ 0xFFFFFFFF#32 then memValidationSize else resource.size
    if pageAlignedWord base && pageAlignedWord size && pageAlignedWord resource.cpuUsageAdjust then
      (.ok, ⟨base, size, resource.cpuUsageAdjust⟩)
    else (.fault, validator)

def validateMaliPhysRange (validator : MemValidation) (physBase size : U32) : Errcode :=
  if pageAlignedWord physBase && pageAlignedWord size then
    if validator.physBase ≤ physBase ∧ validator.physBase ≤ physBase + size ∧
        physBase ≤ validator.physBase + validator.size ∧
        physBase + size ≤ validator.physBase + validator.size then .ok
    else .fault
  else .fault

def MemValidation.Admits (validator : MemValidation) (base size : Nat) : Prop :=
  ∀ offset < size, validator.physBase.toNat ≤ base + offset ∧
    base + offset < validator.physBase.toNat + validator.size.toNat

theorem pageAlignedWord_iff (value : U32) : pageAlignedWord value = true ↔ value.toNat % 4096 = 0 := by
  have masked : (value &&& pageOffsetMask).toNat = value.toNat % 4096 := by
    rw [BitVec.toNat_and, show pageOffsetMask.toNat = 2 ^ 12 - 1 from rfl, Nat.and_two_pow_sub_one_eq_mod]
  rw [pageAlignedWord, decide_eq_true_iff, ← BitVec.toNat_inj, masked]
  exact Iff.rfl

variable {physBase size : U32} {validator : MemValidation}

theorem validateMaliPhysRange_ok : validateMaliPhysRange validator physBase size = .ok ↔
      physBase.toNat % 4096 = 0 ∧ size.toNat % 4096 = 0 ∧
      validator.physBase.toNat ≤ physBase.toNat ∧
      validator.physBase.toNat ≤ (physBase.toNat + size.toNat) % 2 ^ 32 ∧
      physBase.toNat ≤ (validator.physBase.toNat + validator.size.toNat) % 2 ^ 32 ∧
      (physBase.toNat + size.toNat) % 2 ^ 32 ≤ (validator.physBase.toNat + validator.size.toNat) % 2 ^ 32 := by
  rw [validateMaliPhysRange, ← pageAlignedWord_iff, ← pageAlignedWord_iff]
  simp only [BitVec.le_def, BitVec.toNat_add]
  cases pageAlignedWord physBase <;> cases pageAlignedWord size <;> simp

theorem validated_admits_iff (validated : validateMaliPhysRange validator physBase size = .ok) :
    validator.Admits physBase.toNat size.toNat ↔ physBase.toNat + size.toNat < 2 ^ 32 := by
  obtain ⟨_, _, above, endAbove, below, endBelow⟩ := validateMaliPhysRange_ok.mp validated
  have base := physBase.isLt
  have windowSize := validator.size.isLt
  constructor
  · intro admitted
    by_contra wrapped
    have last := admitted (size.toNat - 1) (by omega)
    omega
  · intro bounded offset inside
    omega

def MemValidation.WrapsInto (validator : MemValidation) (base size : Nat) : Prop :=
  base % 4096 = 0 ∧ size % 4096 = 0 ∧ validator.physBase.toNat + validator.size.toNat < 2 ^ 32 ∧
    base ≤ validator.physBase.toNat + validator.size.toNat ∧
    2 ^ 32 + validator.physBase.toNat ≤ base + size

theorem wrapsInto_iff : validator.WrapsInto physBase.toNat size.toNat ↔
      validateMaliPhysRange validator physBase size = .ok ∧ 2 ^ 32 ≤ physBase.toNat + size.toNat := by
  rw [validateMaliPhysRange_ok, MemValidation.WrapsInto]
  have base := physBase.isLt
  have bytes := size.isLt
  have windowBase := validator.physBase.isLt
  have windowSize := validator.size.isLt
  constructor <;> intro _ <;> omega

theorem validated_admits_of_not_wrapsInto (validated : validateMaliPhysRange validator physBase size = .ok)
    (straight : ¬ validator.WrapsInto physBase.toNat size.toNat) :
    validator.Admits physBase.toNat size.toNat := by
  apply (validated_admits_iff validated).mpr
  by_contra wrapped
  exact straight (wrapsInto_iff.mpr ⟨validated, by omega⟩)

end Floid.Core
