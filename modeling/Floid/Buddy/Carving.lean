import Floid.Buddy.Register
import Mathlib.Data.Nat.Log

namespace Floid.Buddy

open Osk Lib

variable {size : U32}

theorem highestSetBit_eq {order : Nat} (small : order < 32) (nonzero : size.toNat ≠ 0)
    (bounded : size.toNat < 2 ^ (order + 1)) : highestSetBit order size = size.toNat.log2 := by
  induction order with
  | zero =>
    have one : size.toNat = 1 := by omega
    rw [highestSetBit, one]
    rfl
  | succ order ih =>
    have bit : (1#32 <<< (order + 1)) &&& size = 0 ↔ size.toNat < 2 ^ (order + 1) := by
      change BitVec.twoPow 32 (order + 1) &&& size = 0#32 ↔ _
      have digit : size.getLsbD (order + 1) = decide (2 ^ (order + 1) ≤ size.toNat) := by
        rw [BitVec.getLsbD, Nat.testBit_eq_decide_div_mod_eq]
        by_cases below : size.toNat < 2 ^ (order + 1)
        · simp [Nat.div_eq_of_lt below, below]
        · have one : size.toNat / 2 ^ (order + 1) = 1 := by
            rw [Nat.pow_succ] at bounded
            exact Nat.div_eq_of_lt_le (by omega) (by omega)
          simp [one, Nat.not_lt.mp below]
      have power : BitVec.twoPow 32 (order + 1) ≠ 0#32 := by
        intro zero
        have value := congrArg BitVec.toNat zero
        rw [BitVec.toNat_twoPow, Nat.mod_eq_of_lt (Nat.pow_lt_pow_right (by decide) small)] at value
        exact absurd value (Nat.ne_of_gt (Nat.two_pow_pos _))
      rw [BitVec.twoPow_and, digit]
      by_cases below : size.toNat < 2 ^ (order + 1)
      · simp [below]
      · simp [below, Nat.not_lt.mp below, power]
    rw [highestSetBit]
    split
    · rename_i clear
      exact ih (by omega) (bit.mp clear)
    · rename_i set
      have reached : 2 ^ (order + 1) ≤ size.toNat := Nat.not_lt.mp (mt bit.mpr set)
      exact ((Nat.log2_eq_iff nonzero).mpr ⟨reached, bounded⟩).symm

theorem clog_eq_log2 {value : Nat} (nonzero : value ≠ 0) :
    Nat.clog 2 value = if value % 2 ^ value.log2 ≠ 0 then value.log2 + 1 else value.log2 := by
  have least := Nat.log2_self_le nonzero
  have most : value < 2 ^ (value.log2 + 1) := Nat.lt_log2_self
  generalize value.log2 = order at *
  have parts : value % 2 ^ order = value - 2 ^ order := by
    rw [Nat.mod_eq_sub_mod least, Nat.mod_eq_of_lt (by rw [Nat.pow_succ] at most; omega)]
  rw [parts]
  split
  · rename_i larger
    have notLess : order < Nat.clog 2 value := (Nat.lt_clog_iff_pow_lt (by decide)).mpr (by omega)
    have enough : Nat.clog 2 value ≤ order + 1 :=
      (Nat.clog_le_iff_le_pow (by decide)).mpr (Nat.le_of_lt most)
    omega
  · have exact : value = 2 ^ order := by omega
    rw [exact, Nat.clog_pow _ _ (by decide)]

theorem orderNeededForSize_eq (size : U32) : orderNeededForSize size none = Nat.clog 2 size.toNat := by
  by_cases zero : size = 0#32
  · subst zero
    simp [orderNeededForSize]
  · have nonzero : size.toNat ≠ 0 := fun value => zero (BitVec.eq_of_toNat_eq value)
    have bound := size.isLt
    have highest := highestSetBit_eq (show 31 < 32 by decide) nonzero bound
    have order : size.toNat.log2 < 32 := (Nat.log2_lt nonzero).mpr bound
    have rest : size &&& ((1#32 <<< size.toNat.log2) - 1) ≠ 0 ↔ size.toNat % 2 ^ size.toNat.log2 ≠ 0 := by
      have power : (1#32 <<< size.toNat.log2).toNat = 2 ^ size.toNat.log2 := by
        rw [BitVec.toNat_shiftLeft, Nat.shiftLeft_eq, show (1#32).toNat = 1 from rfl, Nat.one_mul,
          Nat.mod_eq_of_lt (Nat.pow_lt_pow_right (by decide) order)]
      have mask : ((1#32 <<< size.toNat.log2) - 1).toNat = 2 ^ size.toNat.log2 - 1 := by
        rw [BitVec.toNat_sub_of_le, power]
        · rfl
        · rw [BitVec.le_def, power]
          exact Nat.two_pow_pos _
      rw [← Nat.and_two_pow_sub_one_eq_mod, ← mask, ← BitVec.toNat_and]
      exact not_congr BitVec.toNat_eq
    have positive : 0 < size := by
      rw [BitVec.lt_def]
      exact Nat.pos_of_ne_zero nonzero
    simp only [orderNeededForSize, if_pos positive, highest, clog_eq_log2 nonzero, rest]

def topLevelBlocks (bank : MemoryBank) : Set AlignedBlock :=
  {piece | piece.start < bank.blocks ∧
    getBlockToplevel (bank.blocklist piece.start) = piece.order + bank.minOrder}

theorem Represents.topLevelBlocks_eq {bank : MemoryBank} {free held : Set AlignedBlock}
    {inHand : Set Nat} (shown : Represents bank (binaryBlocks bank.blocks) free held inHand) :
    topLevelBlocks bank = binaryBlocks bank.blocks := by
  ext piece
  rw [topLevelBlocks, Set.mem_ofPred_eq, shown.minOrder_eq]
  constructor
  · rintro ⟨inside, field⟩
    by_cases starts : ∃ top ∈ binaryBlocks bank.blocks, top.start = piece.start
    · obtain ⟨top, isTop, same⟩ := starts
      have order := shown.top_level top isTop
      rw [same, field] at order
      have equal := AlignedBlock.eq_of_covers (show top.order = piece.order by omega)
        top.covers_start (same ▸ piece.covers_start)
      exact equal ▸ isTop
    · have zero := shown.not_top_level piece.start inside
        fun top isTop same => starts ⟨top, isTop, same⟩
      omega
  · intro isTop
    exact ⟨(binaryBlocks_topLevel bank.blocks).tiles.inside piece isTop _ piece.covers_start,
      shown.top_level piece isTop⟩

structure Carved (size : U32) : Prop where
  fits : ∃ rounds, maximumOrderLoop size 1#32 0 rounds = some (Nat.log 2 size.toNat)
  needed : orderNeededForSize size none = Nat.clog 2 size.toNat
  tiled : ∀ maxOrder beyond, ∃ rounds bank,
    initSlots rounds size 0 (blankBank maxOrder (size / minBlockSize).toNat beyond) = some bank ∧
      bank.blocks * minBlockSize.toNat = size.toNat ∧
      IsTiling (topLevelBlocks bank) (Set.Iio bank.blocks)

theorem carving_tiles {blocks : Nat} (maxOrder : Nat) (beyond : Nat → U32)
    (whole : size.toNat = blocks * 2 ^ 20) (small : blocks ≤ 2 ^ 11) :
    ∃ bank, initSlots (blocks + 1) size 0 (blankBank maxOrder blocks beyond) = some bank ∧
      bank.blocks = blocks ∧ IsTiling (topLevelBlocks bank) (Set.Iio bank.blocks) := by
  have start := @blankBank_partlyInitialised maxOrder blocks beyond size small whole
  obtain ⟨bank, run, sameBlocks, -, shown⟩ := @initSlots_represents (blocks + 1) _ _ _ _ start
    (by change blocks < 0 + (blocks + 1); omega)
  change bank.blocks = blocks at sameBlocks
  change Represents bank (binaryBlocks blocks) (binaryBlocks blocks) ∅ ∅ at shown
  rw [← sameBlocks] at shown
  refine ⟨bank, run, sameBlocks, ?_⟩
  rw [shown.topLevelBlocks_eq]
  exact (binaryBlocks_topLevel bank.blocks).tiles

/-- A bank size is carved exactly when it has at most 2^31 bytes. -/
theorem carved_iff {size : U32} (whole : minBlockSize.toNat ∣ size.toNat) :
    Carved size ↔ size.toNat ≤ 2 ^ 31 := by
  constructor
  · intro carved
    by_contra large
    obtain ⟨rounds, fits⟩ := carved.fits
    have endless := @maximumOrderLoop_large size 0 rounds (by omega) (by decide)
    rw [show BitVec.ofNat 32 (2 ^ 0) = 1#32 from rfl, fits] at endless
    contradiction
  · intro bounded
    obtain ⟨blocks, isWhole⟩ := whole
    rw [show minBlockSize.toNat = 2 ^ 20 from rfl, Nat.mul_comm] at isWhole
    have units : (size / minBlockSize).toNat = blocks := by
      rw [BitVec.toNat_udiv, isWhole, show minBlockSize.toNat = 2 ^ 20 from rfl, Nat.mul_div_cancel _ (by decide)]
    constructor
    · refine ⟨33, ?_⟩
      rw [← Nat.log2_eq_log_two]
      by_cases zero : size.toNat = 0
      · rw [show size = 0#32 from BitVec.eq_of_toNat_eq zero]
        rfl
      · exact maximumOrderWhichFits_eq (Nat.pos_of_ne_zero zero) bounded
    · exact orderNeededForSize_eq size
    · intro maxOrder beyond
      obtain ⟨bank, run, sameBlocks, tiles⟩ := carving_tiles maxOrder beyond isWhole (by omega)
      rw [units]
      exact ⟨blocks + 1, bank, run, by rw [sameBlocks, isWhole]; rfl, tiles⟩

theorem carved_twoGigabytes : Carved 0x80000000#32 :=
  (carved_iff (by decide)).mpr (by decide)

/-- 2049 megabytes keep the search for the largest order going for ever. -/
theorem maximumOrder_endless : minBlockSize.toNat ∣ (0x80100000#32).toNat ∧
      ∀ rounds, maximumOrderLoop 0x80100000#32 1#32 0 rounds = none :=
  ⟨by decide, fun rounds => @maximumOrderLoop_large _ 0 rounds (by decide) (by decide)⟩

end Floid.Buddy
