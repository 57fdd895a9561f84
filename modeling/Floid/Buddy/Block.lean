import Floid.Osk.Types
import Floid.Lib.BuddySystem

/-!
The word in which a memory block keeps its free flag, its order and the order of the
top-level block it starts, and the arithmetic of orders and buddies.
-/

namespace Floid.Buddy

open Osk Lib
open BitVec (eq_of_getLsbD_eq lt_def ofNat toNat_ofNat)
open Nat (mod_eq_of_lt pow_le_pow_right shiftLeft_eq)

def minBlockSize : U32 := 0x100000#32

def miscShiftFree : Nat := 0

def miscShiftOrder : Nat := 1

def miscShiftToplevel : Nat := 6

def miscMaskFree : U32 := 0x01#32

def miscMaskOrder : U32 := 0x1F#32

def miscMaskToplevel : U32 := 0x1F#32

def getBlockFree (misc : U32) : U32 := (misc >>> miscShiftFree) &&& miscMaskFree

def setBlockFree (misc : U32) (state : Bool) : U32 :=
  if state then misc ||| (miscMaskFree <<< miscShiftFree)
  else misc &&& ~~~(miscMaskFree <<< miscShiftFree)

def setBlockOrder (misc : U32) (order : Nat) : U32 :=
  (misc &&& ~~~(miscMaskOrder <<< miscShiftOrder)) |||
    ((ofNat 32 order &&& miscMaskOrder) <<< miscShiftOrder)

def getBlockOrder (misc : U32) : Nat := ((misc >>> miscShiftOrder) &&& miscMaskOrder).toNat

def setBlockToplevel (misc : U32) (level : Nat) : U32 :=
  misc ||| ((ofNat 32 level &&& miscMaskToplevel) <<< miscShiftToplevel)

def getBlockToplevel (misc : U32) : Nat :=
  ((misc >>> miscShiftToplevel) &&& miscMaskToplevel).toNat

def blockIsValidBuddy (misc : U32) (order : Nat) : Bool :=
  getBlockFree misc ≠ 0 && getBlockOrder misc == order

def blockGetBuddy (offset order : Nat) : Nat := offset ^^^ 1 <<< order

def blockGetParent (offset order : Nat) : Nat := offset &&& (2 ^ 32 - 1 - 1 <<< order)

def highestSetBit : Nat → U32 → Nat
  | 0, _ => 0
  | order + 1, size =>
      if (1#32 <<< (order + 1)) &&& size = 0 then highestSetBit order size else order + 1

def orderNeededForSize (size : U32) (minOrder : Option Nat) : Nat :=
  let order :=
    if 0 < size then
      let order := highestSetBit 31 size
      -- a size that is no power of two needs the next order
      if size &&& ((1#32 <<< order) - 1) ≠ 0 then order + 1 else order
    else 0
  match minOrder with
  | some smallest => if order < smallest then smallest else order
  | none => order

/-- The loop of `maximum_order_which_fits`; the last argument bounds its rounds. -/
def maximumOrderLoop (size : U32) : U32 → Nat → Nat → Option Nat
  | _, _, 0 => none
  | powsize, order, rounds + 1 =>
      if powsize < size then
        if size < powsize <<< 1 then some order
        else maximumOrderLoop size (powsize <<< 1) (order + 1) rounds
      else some order

/-- `maximum_order_which_fits`. A size above 2^31 keeps the loop going for ever, once
the power has been shifted out; any other size ends it within 32 rounds. -/
def maximumOrderWhichFits (size : U32) : Option Nat := maximumOrderLoop size 1#32 0 33

@[simp] theorem getLsbD_miscMaskFree (bit : Nat) : miscMaskFree.getLsbD bit = decide (bit = 0) := by
  cases bit <;> simp [miscMaskFree]

@[simp] theorem getLsbD_miscMaskOrder (bit : Nat) : miscMaskOrder.getLsbD bit = decide (bit < 5) := by
  rw [miscMaskOrder, BitVec.getLsbD_ofNat, show 0x1F = 2 ^ 5 - 1 from rfl, Nat.testBit_two_pow_sub_one]
  by_cases small : bit < 5 <;> simp [small]
  omega

@[simp] theorem getLsbD_miscMaskToplevel (bit : Nat) : miscMaskToplevel.getLsbD bit = decide (bit < 5) :=
  getLsbD_miscMaskOrder bit

variable {order : Nat}

theorem mask_order_toNat (small : order < 32) : (ofNat 32 order &&& miscMaskOrder).toNat = order := by
  rw [BitVec.toNat_and, miscMaskOrder, show (0x1F#32).toNat = 2 ^ 5 - 1 from rfl,
    Nat.and_two_pow_sub_one_eq_mod, toNat_ofNat]
  omega

variable (misc : U32)

@[simp] theorem getBlockFree_setBlockFree (state : Bool) :
    getBlockFree (setBlockFree misc state) = if state then 1#32 else 0#32 := by
  apply eq_of_getLsbD_eq
  intro bit small
  cases state <;> simp [getBlockFree, setBlockFree, miscShiftFree]
  grind

@[simp] theorem getBlockOrder_setBlockFree (state : Bool) :
    getBlockOrder (setBlockFree misc state) = getBlockOrder misc := by
  apply congrArg BitVec.toNat
  apply eq_of_getLsbD_eq
  intro bit small
  cases state <;> simp [setBlockFree, miscShiftFree, miscShiftOrder]
  grind

@[simp] theorem getBlockToplevel_setBlockFree (state : Bool) :
    getBlockToplevel (setBlockFree misc state) = getBlockToplevel misc := by
  apply congrArg BitVec.toNat
  apply eq_of_getLsbD_eq
  intro bit small
  cases state <;> simp [setBlockFree, miscShiftFree, miscShiftToplevel]
  grind

@[simp] theorem getBlockFree_setBlockOrder (order : Nat) :
    getBlockFree (setBlockOrder misc order) = getBlockFree misc := by
  apply eq_of_getLsbD_eq
  intro bit small
  simp [getBlockFree, setBlockOrder, miscShiftFree, miscShiftOrder]
  grind

@[simp] theorem getBlockOrder_setBlockOrder (small : order < 32) :
    getBlockOrder (setBlockOrder misc order) = order := by
  have field : (setBlockOrder misc order >>> miscShiftOrder) &&& miscMaskOrder =
      ofNat 32 order &&& miscMaskOrder := by
    apply eq_of_getLsbD_eq
    intro bit _
    simp [setBlockOrder, miscShiftOrder]
    grind
  rw [getBlockOrder, field, mask_order_toNat small]

@[simp] theorem getBlockToplevel_setBlockOrder (order : Nat) :
    getBlockToplevel (setBlockOrder misc order) = getBlockToplevel misc := by
  apply congrArg BitVec.toNat
  apply eq_of_getLsbD_eq
  intro bit small
  simp [setBlockOrder, miscShiftOrder, miscShiftToplevel]
  grind

theorem getBlockToplevel_setBlockToplevel_zero {level : Nat} (small : level < 32) :
    getBlockToplevel (setBlockToplevel 0#32 level) = level := by
  have field : (setBlockToplevel 0#32 level >>> miscShiftToplevel) &&& miscMaskToplevel =
      ofNat 32 level &&& miscMaskOrder := by
    apply eq_of_getLsbD_eq
    intro bit _
    simp [setBlockToplevel, miscShiftToplevel]
    grind
  rw [getBlockToplevel, field, mask_order_toNat small]

theorem blockIsValidBuddy_iff {misc : U32} :
    blockIsValidBuddy misc order = true ↔ getBlockFree misc ≠ 0 ∧ getBlockOrder misc = order := by
  simp [blockIsValidBuddy]

theorem blockGetBuddy_start (block : AlignedBlock) :
    blockGetBuddy block.start block.order = block.buddy.start := by
  rw [blockGetBuddy, AlignedBlock.start, ← shiftLeft_eq, ← Nat.shiftLeft_xor_distrib, shiftLeft_eq]
  rfl

theorem blockGetParent_start {block : AlignedBlock} (small : block.start < 2 ^ 32) (smallOrder : block.order < 32) :
    blockGetParent block.start block.order = block.parent.start := by
  have parent : block.parent.start = (block.index / 2) <<< (block.order + 1) := by
    rw [shiftLeft_eq]
    rfl
  have start : block.start = block.index <<< block.order := by
    rw [shiftLeft_eq]
    rfl
  have flag : 1 <<< block.order < 2 ^ 32 := by
    rw [Nat.one_shiftLeft]
    exact Nat.pow_lt_pow_right (by decide) smallOrder
  apply Nat.eq_of_testBit_eq
  intro bit
  rw [blockGetParent, Nat.testBit_and, Nat.sub_sub, Nat.add_comm 1, Nat.testBit_two_pow_sub_succ flag]
  by_cases high : bit < 32
  · rw [parent, start]
    simp only [Nat.testBit_shiftLeft, Nat.testBit_div_two, Nat.one_shiftLeft, Nat.testBit_two_pow]
    by_cases above : block.order + 1 ≤ bit
    · have shifted : bit - (block.order + 1) + 1 = bit - block.order := by omega
      have apart : block.order ≤ bit ∧ block.order ≠ bit := by omega
      simp [shifted, high, above, apart]
    · have same : block.order ≤ bit → block.order = bit := by omega
      simp [above]
      intro lower _ _
      exact same lower
  · have outside : block.start.testBit bit = false :=
      Nat.testBit_lt_two_pow (Nat.lt_of_lt_of_le small (pow_le_pow_right (by decide) (by omega)))
    have parentSmall : block.parent.start ≤ block.start := by
      rw [parent, start, shiftLeft_eq, shiftLeft_eq, Nat.pow_succ, Nat.mul_comm _ 2, ← Nat.mul_assoc]
      exact Nat.mul_le_mul_right _ (by omega)
    have parentOutside : block.parent.start.testBit bit = false :=
      Nat.testBit_lt_two_pow (Nat.lt_of_lt_of_le (Nat.lt_of_le_of_lt parentSmall small)
        (pow_le_pow_right (by decide) (by omega)))
    rw [outside, parentOutside, Bool.false_and]

theorem minOrder_eq : orderNeededForSize minBlockSize none = 20 := by decide

theorem le_orderNeededForSize (size : U32) (minOrder : Nat) :
    minOrder ≤ orderNeededForSize size (some minOrder) := by
  dsimp only [orderNeededForSize]
  generalize (if 0 < size then _ else 0) = order
  split <;> omega

theorem maximumOrderLoop_eq {size : U32} {order rounds : Nat} (positive : 0 < size.toNat)
    (bounded : size.toNat ≤ 2 ^ 31) (reached : 2 ^ order ≤ size.toNat)
    (enough : 32 ≤ order + rounds) :
    maximumOrderLoop size (ofNat 32 (2 ^ order)) order rounds = some size.toNat.log2 := by
  induction rounds generalizing order with
  | zero =>
    have large := pow_le_pow_right (n := 2) (by decide) (show 32 ≤ order by omega)
    omega
  | succ rounds ih =>
    have small : order ≤ 31 :=
      (Nat.pow_le_pow_iff_right (by decide)).mp (Nat.le_trans reached bounded)
    have power : (ofNat 32 (2 ^ order)).toNat = 2 ^ order := by
      rw [toNat_ofNat, mod_eq_of_lt (Nat.pow_lt_pow_right (by decide) (by omega))]
    rw [maximumOrderLoop]
    simp only [lt_def, power]
    split
    · rename_i below
      have smaller : order < 31 :=
        (Nat.pow_lt_pow_iff_right (by decide)).mp (Nat.lt_of_lt_of_le below bounded)
      have double : ofNat 32 (2 ^ order) <<< 1 = ofNat 32 (2 ^ (order + 1)) := by
        apply BitVec.eq_of_toNat_eq
        rw [BitVec.toNat_shiftLeft, power, toNat_ofNat, shiftLeft_eq, Nat.pow_one, ← Nat.pow_succ]
      have doublePower : (ofNat 32 (2 ^ (order + 1))).toNat = 2 ^ (order + 1) := by
        rw [toNat_ofNat, mod_eq_of_lt (Nat.pow_lt_pow_right (by decide) (by omega))]
      rw [double, doublePower]
      split
      · rename_i past
        rw [(Nat.log2_eq_iff (by omega)).mpr ⟨reached, past⟩]
      · exact ih (by omega) (by omega)
    · rename_i exact
      have same : size.toNat = 2 ^ order := by omega
      rw [same, Nat.log2_two_pow]

theorem maximumOrderWhichFits_eq {size : U32} (positive : 0 < size.toNat)
    (bounded : size.toNat ≤ 2 ^ 31) : maximumOrderWhichFits size = some size.toNat.log2 :=
  @maximumOrderLoop_eq size 0 33 positive bounded positive (by decide)

variable {size : U32}

theorem maximumOrderLoop_zero (rounds : Nat) (positive : 0 < size.toNat) :
    maximumOrderLoop size 0#32 order rounds = none := by
  induction rounds generalizing order with
  | zero => rfl
  | succ rounds ih =>
    rw [maximumOrderLoop, if_pos (by simpa [lt_def] using positive)]
    simpa using ih

theorem maximumOrderLoop_large {size : U32} {order rounds : Nat} (large : 2 ^ 31 < size.toNat) (small : order ≤ 31) :
    maximumOrderLoop size (ofNat 32 (2 ^ order)) order rounds = none := by
  induction rounds generalizing order with
  | zero => rfl
  | succ rounds ih =>
    have power : (ofNat 32 (2 ^ order)).toNat = 2 ^ order := by
      rw [toNat_ofNat, mod_eq_of_lt (Nat.pow_lt_pow_right (by decide) (by omega))]
    have bound : 2 ^ order ≤ 2 ^ 31 := pow_le_pow_right (by decide) small
    have double : (ofNat 32 (2 ^ order) <<< 1) = ofNat 32 (2 ^ (order + 1)) := by
      apply BitVec.eq_of_toNat_eq
      rw [BitVec.toNat_shiftLeft, power, toNat_ofNat, shiftLeft_eq, Nat.pow_one, ← Nat.pow_succ]
    rw [maximumOrderLoop, if_pos (by rw [lt_def, power]; omega), double]
    by_cases last : order = 31
    · rw [last, show ofNat 32 (2 ^ (31 + 1)) = 0#32 from rfl, if_neg (by simp)]
      exact maximumOrderLoop_zero rounds (by omega)
    · have doubleBound : 2 ^ (order + 1) ≤ 2 ^ 31 := pow_le_pow_right (by decide) (by omega)
      have notPast : ¬ size < ofNat 32 (2 ^ (order + 1)) := by
        rw [lt_def, toNat_ofNat, mod_eq_of_lt (by omega)]
        omega
      rw [if_neg notPast]
      exact ih (by omega)

theorem size_le_of_maximumOrderWhichFits
    (fits : maximumOrderWhichFits size = some order) : size.toNat ≤ 2 ^ 31 := by
  by_contra large
  have endless := @maximumOrderLoop_large size 0 33 (by omega) (by decide)
  rw [maximumOrderWhichFits] at fits
  rw [show ofNat 32 (2 ^ 0) = 1#32 from rfl, fits] at endless
  contradiction

end Floid.Buddy
