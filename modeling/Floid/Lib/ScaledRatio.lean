import Mathlib.Algebra.Order.Ring.Nat
import Mathlib.Tactic.Ring

/-!
A ratio in parts of a power of two, computed with few bits: both numbers are first shifted down, the
divisor by more bits than the dividend.
-/

namespace Floid.Lib

def scaledRatio (bits shift part whole : Nat) : Nat := part / 2 ^ shift / (whole / 2 ^ (shift + bits))

variable {bits shift part whole : Nat}

theorem scaledRatio_le (within : part ≤ whole) (kept : 2 ^ bits ≤ whole / 2 ^ (shift + bits)) :
    scaledRatio bits shift part whole ≤ 2 ^ bits := by
  have positive : 0 < whole / 2 ^ (shift + bits) := Nat.lt_of_lt_of_le (Nat.two_pow_pos bits) kept
  have split : whole / 2 ^ (shift + bits) = whole / 2 ^ shift / 2 ^ bits := by
    rw [Nat.pow_add, Nat.div_div_eq_div_mul]
  refine Nat.le_of_lt_succ ((Nat.div_lt_iff_lt_mul positive).mpr ?_)
  calc part / 2 ^ shift
      ≤ whole / 2 ^ shift := Nat.div_le_div_right within
    _ < 2 ^ bits * (whole / 2 ^ (shift + bits) + 1) := by
        rw [split]
        exact Nat.lt_mul_div_succ _ (Nat.two_pow_pos bits)
    _ ≤ (2 ^ bits + 1) * (whole / 2 ^ (shift + bits)) := by
        rw [Nat.mul_succ, Nat.succ_mul]
        exact Nat.add_le_add_left kept _

theorem lt_scaledRatio_succ (positive : 0 < whole / 2 ^ (shift + bits)) :
    2 ^ bits * part < (scaledRatio bits shift part whole + 1) * whole := by
  have below : part / 2 ^ shift + 1 ≤
      (scaledRatio bits shift part whole + 1) * (whole / 2 ^ (shift + bits)) := by
    rw [Nat.mul_comm]
    exact Nat.lt_mul_div_succ _ positive
  calc 2 ^ bits * part
      < 2 ^ bits * (2 ^ shift * (part / 2 ^ shift + 1)) :=
        Nat.mul_lt_mul_of_pos_left (Nat.lt_mul_div_succ _ (Nat.two_pow_pos shift))
          (Nat.two_pow_pos bits)
    _ = (part / 2 ^ shift + 1) * 2 ^ (shift + bits) := by ring
    _ ≤ (scaledRatio bits shift part whole + 1) * (whole / 2 ^ (shift + bits)) *
          2 ^ (shift + bits) := Nat.mul_le_mul_right _ below
    _ ≤ (scaledRatio bits shift part whole + 1) * whole := by
        rw [Nat.mul_assoc]
        exact Nat.mul_le_mul_left _ (Nat.div_mul_le_self _ _)

theorem scaledRatio_mul_le {digits : Nat} (within : part ≤ whole) (enough : bits ≤ digits)
    (kept : 2 ^ digits ≤ whole / 2 ^ (shift + bits)) :
    2 ^ digits * (scaledRatio bits shift part whole * whole) ≤
      2 ^ (digits + bits) * part + 2 ^ bits * whole := by
  have atMost : scaledRatio bits shift part whole ≤ 2 ^ bits :=
    scaledRatio_le within (Nat.le_trans (Nat.pow_le_pow_right Nat.two_pos enough) kept)
  have below : whole ≤ (whole / 2 ^ (shift + bits) + 1) * 2 ^ (shift + bits) := by
    rw [Nat.mul_comm]
    exact Nat.le_of_lt (Nat.lt_mul_div_succ _ (Nat.two_pow_pos _))
  have quotient : scaledRatio bits shift part whole * (whole / 2 ^ (shift + bits)) ≤
      part / 2 ^ shift := Nat.div_mul_le_self _ _
  have lost : 2 ^ digits * 2 ^ (shift + bits) ≤ whole :=
    Nat.le_trans (Nat.mul_le_mul_right _ kept) (Nat.div_mul_le_self _ _)
  calc 2 ^ digits * (scaledRatio bits shift part whole * whole)
      ≤ 2 ^ digits * (scaledRatio bits shift part whole * ((whole / 2 ^ (shift + bits) + 1) * 2 ^ (shift + bits))) :=
        Nat.mul_le_mul_left _ (Nat.mul_le_mul_left _ below)
    _ = 2 ^ (digits + bits) * (scaledRatio bits shift part whole * (whole / 2 ^ (shift + bits)) * 2 ^ shift) +
          scaledRatio bits shift part whole * (2 ^ digits * 2 ^ (shift + bits)) := by ring
    _ ≤ 2 ^ (digits + bits) * (part / 2 ^ shift * 2 ^ shift) + 2 ^ bits * whole :=
        Nat.add_le_add (Nat.mul_le_mul_left _ (Nat.mul_le_mul_right _ quotient))
          (Nat.mul_le_mul atMost lost)
    _ ≤ 2 ^ (digits + bits) * part + 2 ^ bits * whole :=
        Nat.add_le_add_right (Nat.mul_le_mul_left _ (Nat.div_mul_le_self _ _)) _

end Floid.Lib
