import Floid.Buddy.Block

namespace Floid.Buddy

open Osk

/-- Debug builds keep what stands in a `MALI_DEBUG_CODE`. -/
inductive Build where
  | debug
  | release
  deriving DecidableEq

structure BankRange where
  baseAddr : U32
  realSize : U32
  usable : realSize &&& ~~~(minBlockSize - 1) ≠ 0

def checkRegistrations : Build → List BankRange → U32 → U32 → Errcode
  | .release, _, _, _ => .ok
  | .debug, [], _, _ => .ok
  | .debug, bank :: banks, physBase, size =>
      if bank.baseAddr = physBase then .fault
      else if (physBase > bank.baseAddr ∧ physBase < bank.baseAddr + bank.realSize) ∨
          (physBase + size > bank.baseAddr ∧ physBase + size < bank.baseAddr + bank.realSize) then
        .fault
      else checkRegistrations .debug banks physBase size

namespace BankRange

variable {bank new : BankRange}

def Has (bank : BankRange) (address : U32) : Prop := address - bank.baseAddr < bank.realSize

def Overlaps (bank new : BankRange) : Prop := ∃ address, bank.Has address ∧ new.Has address

def EndInside (bank new : BankRange) : Prop :=
  bank.baseAddr = new.baseAddr ∨ (new.baseAddr > bank.baseAddr ∧ new.baseAddr < bank.baseAddr + bank.realSize) ∨
    (new.baseAddr + new.realSize > bank.baseAddr ∧ new.baseAddr + new.realSize < bank.baseAddr + bank.realSize)

def ReachesTop (bank : BankRange) : Prop := 2 ^ 32 ≤ bank.baseAddr.toNat + bank.realSize.toNat

def Hidden (bank new : BankRange) : Prop :=
  bank.baseAddr ≠ new.baseAddr ∧
    ((∀ address, bank.Has address → new.Has address) ∨ (bank.ReachesTop ∧ bank.Overlaps new))

theorem realSize_pos (bank : BankRange) : 0 < bank.realSize.toNat := by
  apply Nat.pos_of_ne_zero
  intro zero
  apply bank.usable
  rw [show bank.realSize = 0#32 from BitVec.eq_of_toNat_eq zero]
  exact BitVec.zero_and

theorem has_iff {address : U32} : bank.Has address ↔
    (2 ^ 32 - bank.baseAddr.toNat + address.toNat) % 2 ^ 32 < bank.realSize.toNat := by
  rw [Has, BitVec.lt_def, BitVec.toNat_sub]

theorem has_base (bank : BankRange) : bank.Has bank.baseAddr := by
  have positive := bank.realSize_pos
  have bound := bank.baseAddr.isLt
  rw [has_iff]
  omega

theorem overlaps_iff : bank.Overlaps new ↔ bank.Has new.baseAddr ∨ new.Has bank.baseAddr := by
  constructor
  · rintro ⟨address, inBank, inNew⟩
    have bound := bank.baseAddr.isLt
    have newBound := new.baseAddr.isLt
    have addressBound := address.isLt
    simp only [has_iff] at inBank inNew ⊢
    omega
  · rintro (inBank | inNew)
    · exact ⟨new.baseAddr, inBank, new.has_base⟩
    · exact ⟨bank.baseAddr, bank.has_base, inNew⟩

theorem enclosed_iff : (∀ address, bank.Has address → new.Has address) ↔
    (2 ^ 32 - new.baseAddr.toNat + bank.baseAddr.toNat) % 2 ^ 32 + bank.realSize.toNat ≤
      new.realSize.toNat := by
  have bound := bank.baseAddr.isLt
  have newBound := new.baseAddr.isLt
  have sizeBound := new.realSize.isLt
  constructor
  · intro enclosed
    have first := enclosed _ bank.has_base
    have behind := enclosed (new.baseAddr + new.realSize)
    simp only [has_iff, BitVec.toNat_add] at first behind
    omega
  · intro distances address
    have addressBound := address.isLt
    simp only [has_iff]
    omega

theorem endInside_iff : bank.EndInside new ↔ bank.baseAddr.toNat = new.baseAddr.toNat ∨
      (bank.baseAddr.toNat < new.baseAddr.toNat ∧
        new.baseAddr.toNat < (bank.baseAddr.toNat + bank.realSize.toNat) % 2 ^ 32) ∨
      (bank.baseAddr.toNat < (new.baseAddr.toNat + new.realSize.toNat) % 2 ^ 32 ∧
        (new.baseAddr.toNat + new.realSize.toNat) % 2 ^ 32 <
          (bank.baseAddr.toNat + bank.realSize.toNat) % 2 ^ 32) := by
  simp only [EndInside, BitVec.toNat_eq, gt_iff_lt, BitVec.lt_def, BitVec.toNat_add]

theorem overlaps_iff_endInside_or_hidden : bank.Overlaps new ↔ bank.EndInside new ∨ bank.Hidden new := by
  have positive := bank.realSize_pos
  have newPositive := new.realSize_pos
  have bound := bank.baseAddr.isLt
  have newBound := new.baseAddr.isLt
  have sizeBound := bank.realSize.isLt
  have newSizeBound := new.realSize.isLt
  rw [Hidden, enclosed_iff, overlaps_iff, endInside_iff]
  simp only [has_iff, ReachesTop, ne_eq, BitVec.toNat_eq]
  omega

end BankRange

theorem checkRegistrations_fault_iff {banks : List BankRange} {new : BankRange} :
    checkRegistrations .debug banks new.baseAddr new.realSize = .fault ↔
      ∃ bank ∈ banks, bank.EndInside new := by
  induction banks with
  | nil => simp [checkRegistrations]
  | cons bank banks ih =>
    have parts : (∃ entry ∈ bank :: banks, entry.EndInside new) ↔
        bank.EndInside new ∨ ∃ entry ∈ banks, entry.EndInside new := by simp
    rw [checkRegistrations, parts, ← ih, BankRange.EndInside]
    split
    · rename_i duplicate
      exact iff_of_true rfl (.inl (.inl duplicate))
    · rename_i different
      split
      · rename_i inside
        exact iff_of_true rfl (.inl (.inr inside))
      · rename_i outside
        exact (or_iff_right (not_or_intro different outside)).symm

def OverlapSeen (banks : List BankRange) (new : BankRange) : Build → Prop
  | .debug => (∃ bank ∈ banks, bank.Hidden new) → ∃ bank ∈ banks, bank.EndInside new
  | .release => ∀ bank ∈ banks, ¬ bank.Overlaps new

/-- The check rejects exactly the overlapping banks, if and only if no overlap with a
hidden bank goes by unseen. -/
theorem checkRegistrations_exact_iff (build : Build) (banks : List BankRange) (new : BankRange) :
    (checkRegistrations build banks new.baseAddr new.realSize = .fault ↔
      ∃ bank ∈ banks, bank.Overlaps new) ↔ OverlapSeen banks new build := by
  cases build with
  | release => simp [checkRegistrations, OverlapSeen]
  | debug =>
    have parts : (∃ bank ∈ banks, bank.Overlaps new) ↔
        (∃ bank ∈ banks, bank.EndInside new) ∨ ∃ bank ∈ banks, bank.Hidden new := by
      simp only [BankRange.overlaps_iff_endInside_or_hidden, and_or_left, exists_or]
    rw [checkRegistrations_fault_iff, parts, OverlapSeen]
    constructor
    · exact fun exact hidden => exact.mpr (.inr hidden)
    · exact fun seen => ⟨.inl, fun overlapping => overlapping.elim id seen⟩

/-- One megabyte at 0x40100000 and four at 0x40000000 around it. -/
theorem checkRegistrations_misses_enclosed :
    let bank : BankRange := ⟨0x40100000#32, 0x100000#32, by decide⟩
    let new : BankRange := ⟨0x40000000#32, 0x400000#32, by decide⟩
    checkRegistrations .debug [bank] new.baseAddr new.realSize = .ok ∧ bank.Overlaps new :=
  ⟨by decide, 0x40100000#32, by unfold BankRange.Has; decide, by unfold BankRange.Has; decide⟩

end Floid.Buddy
