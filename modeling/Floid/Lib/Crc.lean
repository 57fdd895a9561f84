import Mathlib.Logic.Basic
import Mathlib.Tactic.Common

/-!
Cyclic redundancy checks: the remainder of a message, taken bit by bit with the lowest bit of each
byte first, and how a table of the remainders of all bytes gives the same byte by byte.
-/

namespace Floid.Lib.Crc

variable {width : Nat}

def divide (poly c : BitVec width) : BitVec width :=
  if c.msb then c <<< 1 ^^^ poly else c <<< 1

def shift (poly c : BitVec width) : BitVec width :=
  if c.getLsbD 0 then c >>> 1 ^^^ poly else c >>> 1

def takeBit (poly c : BitVec width) (bit : Bool) : BitVec width :=
  shift poly (c ^^^ (BitVec.ofBool bit).setWidth width)

def bits (byte : BitVec 8) : List Bool := (List.range 8).map byte.getLsbD

def remainder (poly c : BitVec width) (message : List (BitVec 8)) : BitVec width :=
  (message.flatMap bits).foldl (takeBit poly) c

def remainderBy (table : BitVec 8 → BitVec width) (c : BitVec width) (message : List (BitVec 8)) : BitVec width :=
  message.foldl (fun c byte => table ((c ^^^ byte.setWidth width).setWidth 8) ^^^ (c >>> 8)) c

variable (poly : BitVec width)

theorem shift_xor (a b : BitVec width) : shift poly (a ^^^ b) = shift poly a ^^^ shift poly b := by
  unfold shift
  rw [BitVec.getLsbD_xor, BitVec.ushiftRight_xor_distrib]
  cases a.getLsbD 0 <;> cases b.getLsbD 0 <;> simp only [Bool.xor_false, Bool.xor_true,
    Bool.not_true, Bool.not_false, Bool.false_eq_true, if_true, if_false]
  · ac_rfl
  · ac_rfl
  · rw [BitVec.xor_assoc, BitVec.xor_comm (b >>> 1), ← BitVec.xor_assoc poly, BitVec.xor_self, BitVec.zero_xor]

theorem repeat_shift_xor (count : Nat) (a b : BitVec width) : Nat.repeat (shift poly) count (a ^^^ b) =
      Nat.repeat (shift poly) count a ^^^ Nat.repeat (shift poly) count b := by
  induction count with
  | zero => rfl
  | succ count ih => rw [Nat.repeat, Nat.repeat, Nat.repeat, ih, shift_xor]

variable {count : Nat}

theorem repeat_shift_of_high {c : BitVec width} (high : ∀ index < count, c.getLsbD index = false) :
    Nat.repeat (shift poly) count c = c >>> count := by
  induction count with
  | zero => simp [Nat.repeat]
  | succ count ih =>
    have lowest : (c >>> count).getLsbD 0 = false := by
      rw [BitVec.getLsbD_ushiftRight]
      exact high count (by omega)
    rw [Nat.repeat, ih fun index below => high index (by omega), shift, lowest,
      if_neg Bool.false_ne_true, BitVec.shiftRight_add]

theorem reverse_divide (c : BitVec width) : (divide poly c).reverse = shift poly.reverse c.reverse := by
  have moved : (c <<< 1).reverse = c.reverse >>> 1 := by
    apply BitVec.eq_of_getLsbD_eq
    intro index inside
    rw [BitVec.getLsbD_reverse, BitVec.getLsbD_ushiftRight, BitVec.getLsbD_reverse,
      BitVec.getMsbD_shiftLeft, Nat.add_comm]
  have xor (a b : BitVec width) : (a ^^^ b).reverse = a.reverse ^^^ b.reverse := by
    apply BitVec.eq_of_getLsbD_eq
    intro index inside
    rw [BitVec.getLsbD_reverse, BitVec.getLsbD_xor, BitVec.getLsbD_reverse, BitVec.getLsbD_reverse,
      BitVec.getMsbD_xor]
  unfold divide shift
  rw [BitVec.getLsbD_reverse, ← BitVec.msb]
  split
  · rw [xor, moved]
  · exact moved

theorem reverse_repeat_divide (count : Nat) (c : BitVec width) : (Nat.repeat (divide poly) count c).reverse =
      Nat.repeat (shift poly.reverse) count c.reverse := by
  induction count with
  | zero => rfl
  | succ count ih => rw [Nat.repeat, Nat.repeat, reverse_divide, ih]

theorem foldl_takeBit (wide : 8 ≤ width) (c : BitVec width) (byte : BitVec 8) (few : count ≤ 8) :
    ((List.range count).map byte.getLsbD).foldl (takeBit poly) c =
      Nat.repeat (shift poly) count (c ^^^ (byte.setWidth count).setWidth width) := by
  induction count with
  | zero =>
    have empty : (byte.setWidth 0).setWidth width = BitVec.ofNat width 0 := by
      apply BitVec.eq_of_getLsbD_eq
      intro index inside
      simp
    rw [empty, BitVec.xor_zero]
    rfl
  | succ count ih =>
    have next : (byte.setWidth (count + 1)).setWidth width = (byte.setWidth count).setWidth width ^^^
        (BitVec.ofBool (byte.getLsbD count)).setWidth width <<< count := by
      apply BitVec.eq_of_getLsbD_eq
      intro index inside
      simp only [BitVec.getLsbD_setWidth, BitVec.getLsbD_xor, BitVec.getLsbD_shiftLeft, BitVec.getLsbD_ofBool]
      rcases Nat.lt_trichotomy index count with below | rfl | beyond
      · simp [below, Nat.lt_succ_of_lt below, inside]
      · simp [inside]
        omega
      · have apart : ¬index < count + 1 := by omega
        have notBelow : ¬index < count := by omega
        have notFirst : index - count ≠ 0 := by omega
        simp [apart, notBelow, notFirst]
    have high (index : Nat) (below : index < count) :
        ((BitVec.ofBool (byte.getLsbD count)).setWidth width <<< count).getLsbD index = false := by
      rw [BitVec.getLsbD_shiftLeft]
      simp [below]
    have back : (BitVec.ofBool (byte.getLsbD count)).setWidth width <<< count >>> count =
        (BitVec.ofBool (byte.getLsbD count)).setWidth width := by
      apply BitVec.eq_of_getLsbD_eq
      intro index inside
      simp only [BitVec.getLsbD_ushiftRight, BitVec.getLsbD_shiftLeft, BitVec.getLsbD_setWidth, BitVec.getLsbD_ofBool]
      rcases Nat.eq_zero_or_pos index with rfl | positive
      · have room : count < width := by omega
        simp [room, inside]
      · have notFirst : index ≠ 0 := by omega
        simp [notFirst]
    rw [List.range_succ, List.map_append, List.foldl_append, ih (by omega), List.map_singleton,
      List.foldl_cons, List.foldl_nil, takeBit, Nat.repeat, next, ← BitVec.xor_assoc,
      repeat_shift_xor poly count (c ^^^ (byte.setWidth count).setWidth width),
      repeat_shift_of_high poly high, back]

theorem remainderBy_eq (wide : 8 ≤ width) {table : BitVec 8 → BitVec width}
    (isTable : ∀ byte, table byte = Nat.repeat (shift poly) 8 (byte.setWidth width))
    (c : BitVec width) (message : List (BitVec 8)) :
    remainderBy table c message = remainder poly c message := by
  induction message generalizing c with
  | nil => rfl
  | cons byte rest ih =>
    have step : (bits byte).foldl (takeBit poly) c =
        table ((c ^^^ byte.setWidth width).setWidth 8) ^^^ (c >>> 8) := by
      have split : c ^^^ byte.setWidth width =
          ((c ^^^ byte.setWidth width).setWidth 8).setWidth width ^^^ c >>> 8 <<< 8 := by
        apply BitVec.eq_of_getLsbD_eq
        intro index inside
        simp only [BitVec.getLsbD_xor, BitVec.getLsbD_setWidth, BitVec.getLsbD_shiftLeft, BitVec.getLsbD_ushiftRight]
        by_cases low : index < 8
        · simp [low, inside]
        · have place : 8 + (index - 8) = index := by omega
          have none : byte.getLsbD index = false := byte.getLsbD_of_ge index (by omega)
          simp [low, inside, place, none]
      have high (index : Nat) (below : index < 8) : (c >>> 8 <<< 8).getLsbD index = false := by
        rw [BitVec.getLsbD_shiftLeft]
        simp [below]
      have back : c >>> 8 <<< 8 >>> 8 = c >>> 8 := by
        apply BitVec.eq_of_getLsbD_eq
        intro index inside
        simp only [BitVec.getLsbD_ushiftRight, BitVec.getLsbD_shiftLeft]
        by_cases room : 8 + index < width
        · simp [room]
        · simp [room, c.getLsbD_of_ge (8 + index) (by omega)]
      rw [bits, foldl_takeBit poly wide c byte (Nat.le_refl 8), BitVec.setWidth_eq]
      conv => lhs; rw [split]
      rw [repeat_shift_xor, repeat_shift_of_high poly high, back, isTable]
    rw [remainderBy, remainder, List.flatMap_cons, List.foldl_append, step]
    exact ih _

end Floid.Lib.Crc
