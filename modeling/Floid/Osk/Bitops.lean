import Floid.Lib.Mask
import Floid.Osk.Types

/-! The non-atomic bit operations of the OS kernel layer, on sequences of 32-bit words. -/

namespace Floid.Osk

open BitVec (ofNat)

/-- What a `u32 *` points to: the word at each index. -/
abbrev Words := Nat → U32

namespace Words

def write (words : Words) (index : Nat) (value : U32) : Words :=
  fun other => if other = index then value else words other

@[simp] theorem write_same (words : Words) (index : Nat) (value : U32) :
    words.write index value index = value := by
  simp [write]

theorem write_other (words : Words) {index other : Nat} (value : U32) (different : other ≠ index) :
    words.write index value other = words other := by
  simp [write, different]

def bit (words : Words) (nr : Nat) : Bool :=
  (words (nr / 32)).getLsbD (nr % 32)

end Words

def internalClearBit (nr : Nat) (value : U32) : U32 :=
  value &&& ~~~(1#32 <<< nr)

def internalSetBit (nr : Nat) (value : U32) : U32 :=
  value ||| (1#32 <<< nr)

def internalTestBit (nr : Nat) (value : U32) : U32 :=
  value &&& (1#32 <<< nr)

def clz (value : U32) : Nat :=
  if value = 0 then 32 else 31 - Nat.log2 value.toNat

def internalFindFirstZeroBit (value : U32) : Int :=
  let inverted := ~~~value
  let negated := -inverted
  let isolated := negated &&& inverted
  31 - (clz isolated : Int)

def clearNonatomicBit (nr : Nat) (addr : Words) : Words :=
  addr.write (nr >>> 5) (internalClearBit (nr &&& 31) (addr (nr >>> 5)))

def setNonatomicBit (nr : Nat) (addr : Words) : Words :=
  addr.write (nr >>> 5) (internalSetBit (nr &&& 31) (addr (nr >>> 5)))

def testBit (nr : Nat) (addr : Words) : U32 :=
  internalTestBit (nr &&& 31) (addr (nr >>> 5))

def findFirstZeroBitFrom (addr : Words) (maxbit : Nat) : Nat → Nat → Nat
  | 0, total => total
  | remaining + 1, total =>
      if total < maxbit then
        let result := internalFindFirstZeroBit (addr (total / 32))
        if 0 ≤ result then total + result.toNat
        else findFirstZeroBitFrom addr maxbit remaining (total + 32)
      else total

def findFirstZeroBit (addr : Words) (maxbit : Nat) : Nat :=
  let total := findFirstZeroBitFrom addr maxbit (maxbit / 32 + 1) 0
  if maxbit ≤ total then maxbit else total

theorem shiftRight_five (nr : Nat) : nr >>> 5 = nr / 32 := by
  rw [Nat.shiftRight_eq_div_pow]

theorem and_thirtyOne (nr : Nat) : nr &&& 31 = nr % 32 :=
  Nat.and_two_pow_sub_one_eq_mod nr 5

theorem getLsbD_one_shiftLeft (nr index : Nat) (inside : nr < 32) :
    (1#32 <<< nr).getLsbD index = decide (index = nr) := by
  rw [← BitVec.twoPow_eq, BitVec.getLsbD_twoPow]
  simp [inside, eq_comm]

theorem getLsbD_internalSetBit (nr index : Nat) (value : U32) (inside : nr < 32) :
    (internalSetBit nr value).getLsbD index = (value.getLsbD index || decide (index = nr)) := by
  rw [internalSetBit, BitVec.getLsbD_or, getLsbD_one_shiftLeft nr index inside]

theorem getLsbD_internalClearBit (nr index : Nat) (value : U32) (inside : nr < 32) :
    (internalClearBit nr value).getLsbD index = (value.getLsbD index && !decide (index = nr)) := by
  rw [internalClearBit, BitVec.getLsbD_and, BitVec.getLsbD_not, getLsbD_one_shiftLeft nr index inside]
  by_cases small : index < 32
  · simp [small]
  · simp [BitVec.getLsbD_of_ge value index (by omega)]

theorem internalTestBit_eq_zero_iff (nr : Nat) (value : U32) (inside : nr < 32) :
    internalTestBit nr value = 0 ↔ value.getLsbD nr = false := by
  constructor
  · intro zero
    have cleared := congrArg (·.getLsbD nr) zero
    simpa [internalTestBit, getLsbD_one_shiftLeft nr nr inside] using cleared
  · intro clear
    apply BitVec.eq_of_getLsbD_eq
    intro index _
    rw [internalTestBit, BitVec.getLsbD_and, getLsbD_one_shiftLeft nr index inside]
    by_cases same : index = nr
    · simp [same, clear]
    · simp [same]

theorem position_eq_iff (left right : Nat) :
    left = right ↔ left / 32 = right / 32 ∧ left % 32 = right % 32 := by
  omega

theorem bit_setNonatomicBit (nr other : Nat) (addr : Words) :
    (setNonatomicBit nr addr).bit other = (addr.bit other || decide (other = nr)) := by
  unfold setNonatomicBit Words.bit Words.write
  rw [shiftRight_five, and_thirtyOne]
  by_cases word : other / 32 = nr / 32
  · rw [if_pos word, getLsbD_internalSetBit _ _ _ (Nat.mod_lt _ (by omega)), ← word]
    simp only [position_eq_iff other nr, word, true_and]
  · rw [if_neg word]
    simp [show other ≠ nr by rintro rfl; exact word rfl]

theorem bit_clearNonatomicBit (nr other : Nat) (addr : Words) :
    (clearNonatomicBit nr addr).bit other = (addr.bit other && !decide (other = nr)) := by
  unfold clearNonatomicBit Words.bit Words.write
  rw [shiftRight_five, and_thirtyOne]
  by_cases word : other / 32 = nr / 32
  · rw [if_pos word, getLsbD_internalClearBit _ _ _ (Nat.mod_lt _ (by omega)), ← word]
    simp only [position_eq_iff other nr, word, true_and]
  · rw [if_neg word]
    simp [show other ≠ nr by rintro rfl; exact word rfl]

theorem testBit_eq_zero_iff (nr : Nat) (addr : Words) : testBit nr addr = 0 ↔ addr.bit nr = false := by
  unfold testBit
  rw [shiftRight_five, and_thirtyOne, internalTestBit_eq_zero_iff _ _ (Nat.mod_lt _ (by omega))]
  rfl

theorem setNonatomicBit_other (nr index : Nat) (addr : Words) (different : index ≠ nr / 32) :
    setNonatomicBit nr addr index = addr index := by
  rw [setNonatomicBit, shiftRight_five, Words.write_other _ _ different]

theorem clearNonatomicBit_other (nr index : Nat) (addr : Words) (different : index ≠ nr / 32) :
    clearNonatomicBit nr addr index = addr index := by
  rw [clearNonatomicBit, shiftRight_five, Words.write_other _ _ different]

theorem internalFindFirstZeroBit_spec (value : U32) :
    (internalFindFirstZeroBit value < 0 ∧ ∀ index < 32, value.getLsbD index = true) ∨
    ∃ position : Nat, position < 32 ∧ internalFindFirstZeroBit value = position ∧
      value.getLsbD position = false ∧ ∀ lower < position, value.getLsbD lower = true := by
  unfold internalFindFirstZeroBit clz
  by_cases full : ~~~value = 0
  · left
    have isolated := Lib.neg_and_self_eq_zero_iff.mpr full
    refine ⟨by simp only [isolated]; decide, ?_⟩
    intro index inside
    have inverted := congrArg (·.getLsbD index) full
    simpa [inside] using inverted
  · right
    obtain ⟨position, lowest⟩ := Lib.exists_isLowestBit full
    have inside := lowest.lt_width
    have isolated : ¬(-~~~value &&& ~~~value = 0) := fun zero =>
      full (Lib.neg_and_self_eq_zero_iff.mp zero)
    refine ⟨position, inside, ?_, ?_, ?_⟩
    · simp only [isolated, if_false, Lib.log2_neg_and_self lowest]
      omega
    · simpa [inside] using lowest.1
    · intro lower below
      simpa [show lower < 32 by omega] using lowest.2 lower below

theorem findFirstZeroBitFrom_spec (addr : Words) (maxbit remaining total : Nat)
    (aligned : total % 32 = 0) (enough : maxbit < total + 32 * remaining)
    (allSet : ∀ nr < total, addr.bit nr = true) :
    (∀ nr < findFirstZeroBitFrom addr maxbit remaining total, addr.bit nr = true) ∧
    (findFirstZeroBitFrom addr maxbit remaining total < maxbit →
      addr.bit (findFirstZeroBitFrom addr maxbit remaining total) = false) := by
  induction remaining generalizing total with
  | zero => exact ⟨allSet, fun below => by simp only [findFirstZeroBitFrom] at below; omega⟩
  | succ remaining ih =>
    rw [findFirstZeroBitFrom]
    by_cases below : total < maxbit
    · have word_of (offset : Nat) (small : offset < 32) :
          addr.bit (total + offset) = (addr (total / 32)).getLsbD offset := by
        rw [Words.bit, show (total + offset) / 32 = total / 32 by omega,
          show (total + offset) % 32 = offset by omega]
      rw [if_pos below]
      rcases internalFindFirstZeroBit_spec (addr (total / 32)) with
        ⟨negative, full⟩ | ⟨position, inside, found, clear, lower_set⟩
      · simp only [show ¬(0 ≤ internalFindFirstZeroBit (addr (total / 32))) by omega, if_false]
        refine ih (total + 32) (by omega) (by omega) ?_
        intro nr inRange
        rcases Nat.lt_or_ge nr total with old | new
        · exact allSet nr old
        · rw [show nr = total + (nr - total) by omega, word_of _ (by omega)]
          exact full _ (by omega)
      · simp only [found, Int.natCast_nonneg, if_true, Int.toNat_natCast]
        refine ⟨?_, fun _ => by rw [word_of _ inside]; exact clear⟩
        intro nr inRange
        rcases Nat.lt_or_ge nr total with old | new
        · exact allSet nr old
        · rw [show nr = total + (nr - total) by omega, word_of _ (by omega)]
          exact lower_set _ (by omega)
    · rw [if_neg below]
      exact ⟨allSet, fun stopped => absurd stopped below⟩

theorem findFirstZeroBit_spec (addr : Words) (maxbit : Nat) : findFirstZeroBit addr maxbit ≤ maxbit ∧
    (∀ nr < findFirstZeroBit addr maxbit, addr.bit nr = true) ∧
    (findFirstZeroBit addr maxbit < maxbit → addr.bit (findFirstZeroBit addr maxbit) = false) := by
  obtain ⟨lower_set, stopped⟩ := findFirstZeroBitFrom_spec addr maxbit (maxbit / 32 + 1) 0
    rfl (by omega) (fun _ impossible => absurd impossible (Nat.not_lt_zero _))
  simp only [findFirstZeroBit]
  split
  · exact ⟨Nat.le_refl _, fun nr below => lower_set nr (by omega), fun below => by omega⟩
  · exact ⟨by omega, lower_set, stopped⟩

theorem findFirstZeroBit_lt (addr : Words) {maxbit nr : Nat} (inside : nr < maxbit)
    (clear : addr.bit nr = false) : findFirstZeroBit addr maxbit < maxbit := by
  obtain ⟨bounded, lower_set, _⟩ := findFirstZeroBit_spec addr maxbit
  by_contra reached
  simp [lower_set nr (by omega)] at clear

/-- The loop of `_mali_osk_find_first_zero_bit` in its own arithmetic, where `addr` is a place in
memory that has only some of the words. -/
def findFirstZeroBitLoop (memory : Nat → Option U32) (maxbit : U32) : Nat → Nat → U32 → Option U32
  | 0, _, _ => none
  | rounds + 1, addr, total =>
      if total < maxbit then
        (memory addr).bind fun value =>
          let result := internalFindFirstZeroBit value
          if 0 ≤ result then some (total + BitVec.ofInt 32 result)
          else findFirstZeroBitLoop memory maxbit rounds (addr + 1) (total + 32)
      else some total

def bitmapWords (addr : Words) (count : Nat) : Nat → Option U32 :=
  fun index => if index < count then some (addr index) else none

structure IsFirstZero (addr : Words) (maxbit nr : Nat) : Prop where
  bounded : nr ≤ maxbit
  set : ∀ lower < nr, addr.bit lower = true
  clear : nr < maxbit → addr.bit nr = false

def FindsFirstZero (addr : Words) (maxbit : U32) : Prop :=
  ∃ rounds total,
    findFirstZeroBitLoop (bitmapWords addr ((maxbit.toNat + 31) / 32)) maxbit rounds 0 0 = some total ∧
      IsFirstZero addr maxbit.toNat (if maxbit ≤ total then maxbit else total).toNat

variable {addr : Words} {maxbit : U32}

theorem bit_word (index offset : Nat) (inside : offset < 32) :
    addr.bit (32 * index + offset) = (addr index).getLsbD offset := by
  rw [Words.bit, show (32 * index + offset) / 32 = index by omega,
    show (32 * index + offset) % 32 = offset by omega]

theorem findFirstZeroBitLoop_eq (fits : maxbit.toNat ≤ 2 ^ 32 - 32 ∨ ∃ nr < 2 ^ 32, addr.bit nr = false)
    (rounds index : Nat) (small : 32 * index < 2 ^ 32) (enough : maxbit.toNat < 32 * index + 32 * rounds)
    (allSet : ∀ nr < 32 * index, addr.bit nr = true) :
    findFirstZeroBitLoop (bitmapWords addr ((maxbit.toNat + 31) / 32)) maxbit (rounds + 1) index
        (ofNat 32 (32 * index)) =
      some (ofNat 32 (findFirstZeroBitFrom addr maxbit.toNat rounds (32 * index))) ∧
    findFirstZeroBitFrom addr maxbit.toNat rounds (32 * index) < 2 ^ 32 := by
  have total : (ofNat 32 (32 * index)).toNat = 32 * index := by
    rw [BitVec.toNat_ofNat, Nat.mod_eq_of_lt small]
  induction rounds generalizing index with
  | zero =>
    rw [findFirstZeroBitLoop, if_neg (by rw [BitVec.lt_def, total]; omega), findFirstZeroBitFrom]
    exact ⟨rfl, small⟩
  | succ rounds ih =>
    have lower : ofNat 32 (32 * index) < maxbit ↔ 32 * index < maxbit.toNat := by
      rw [BitVec.lt_def, total]
    rw [findFirstZeroBitLoop, findFirstZeroBitFrom]
    by_cases below : 32 * index < maxbit.toNat
    · rw [if_pos (lower.mpr below), if_pos below, bitmapWords, if_pos (by omega), Option.bind_some,
        show 32 * index / 32 = index by omega]
      dsimp only
      rcases internalFindFirstZeroBit_spec (addr index) with
        ⟨negative, full⟩ | ⟨position, inside, found, _⟩
      · rw [if_neg (by omega), if_neg (by omega)]
        have set : ∀ nr < 32 * (index + 1), addr.bit nr = true := by
          intro nr inRange
          rcases Nat.lt_or_ge nr (32 * index) with old | new
          · exact allSet nr old
          · rw [show nr = 32 * index + (nr - 32 * index) by omega, bit_word _ _ (by omega)]
            exact full _ (by omega)
        have next : 32 * (index + 1) < 2 ^ 32 := by
          rcases fits with short | ⟨nr, inside, clear⟩
          · omega
          · by_contra beyond
            rw [set nr (by omega)] at clear
            cases clear
        have moved : ofNat 32 (32 * index) + 32 = ofNat 32 (32 * (index + 1)) := by
          rw [Nat.mul_add, BitVec.ofNat_add]
          rfl
        rw [moved]
        refine ih (index + 1) next (by omega) set ?_
        rw [BitVec.toNat_ofNat, Nat.mod_eq_of_lt next]
      · rw [found, if_pos (Int.natCast_nonneg _), if_pos (Int.natCast_nonneg _), BitVec.ofNat_add,
          Int.toNat_natCast, BitVec.ofInt_natCast]
        exact ⟨rfl, by omega⟩
    · rw [if_neg fun less => below (lower.mp less), if_neg below]
      exact ⟨rfl, small⟩

theorem findFirstZeroBitLoop_none (long : 2 ^ 32 - 32 < maxbit.toNat)
    (allSet : ∀ nr < 2 ^ 32, addr.bit nr = true) (rounds index : Nat) (inside : index ≤ 2 ^ 27) :
    findFirstZeroBitLoop (bitmapWords addr ((maxbit.toNat + 31) / 32)) maxbit rounds index
      (ofNat 32 (32 * index)) = none := by
  have upper := maxbit.isLt
  induction rounds generalizing index with
  | zero => rfl
  | succ rounds ih =>
    have below : (ofNat 32 (32 * index)).toNat < maxbit.toNat := by
      rw [BitVec.toNat_ofNat]
      omega
    rw [findFirstZeroBitLoop, if_pos (BitVec.lt_def.mpr below), bitmapWords]
    split
    · have full : internalFindFirstZeroBit (addr index) < 0 := by
        rcases internalFindFirstZeroBit_spec (addr index) with
          ⟨negative, _⟩ | ⟨position, small, _, clear, _⟩
        · exact negative
        · rw [← bit_word _ _ small, allSet _ (by omega)] at clear
          cases clear
      rw [Option.bind_some]
      dsimp only
      rw [if_neg (by omega), ← ih (index + 1) (by omega), Nat.mul_add, BitVec.ofNat_add]
      rfl
    · rfl

theorem total_capped {total : Nat} (small : total < 2 ^ 32) :
    (if maxbit ≤ ofNat 32 total then maxbit else ofNat 32 total).toNat =
      if maxbit.toNat ≤ total then maxbit.toNat else total := by
  have same : (ofNat 32 total).toNat = total := by rw [BitVec.toNat_ofNat, Nat.mod_eq_of_lt small]
  simp only [apply_ite BitVec.toNat, BitVec.le_def, same]

/-- The search is exact if and only if `total` does not wrap: there are at most `2 ^ 32 - 32` bits,
or one of the `2 ^ 32` is clear. -/
theorem findsFirstZero_iff (addr : Words) (maxbit : U32) :
    FindsFirstZero addr maxbit ↔ maxbit.toNat ≤ 2 ^ 32 - 32 ∨ ∃ nr < 2 ^ 32, addr.bit nr = false := by
  constructor
  · intro ⟨rounds, total, ran, _⟩
    by_contra long
    push Not at long
    rw [show (0 : U32) = ofNat 32 (32 * 0) from rfl, findFirstZeroBitLoop_none long.1
      (fun nr inside => Bool.eq_true_of_not_eq_false (long.2 nr inside)) _ _ (by omega)] at ran
    cases ran
  · intro fits
    obtain ⟨ran, small⟩ := findFirstZeroBitLoop_eq fits (maxbit.toNat / 32 + 1) 0 (by omega) (by omega)
      (fun _ impossible => absurd impossible (Nat.not_lt_zero _))
    refine ⟨_, _, ran, ?_⟩
    obtain ⟨bounded, set, clear⟩ := findFirstZeroBit_spec addr maxbit.toNat
    have same := @total_capped maxbit _ small
    rw [show (if maxbit.toNat ≤ _ then maxbit.toNat else _) = findFirstZeroBit addr maxbit.toNat from rfl] at same
    rw [same]
    exact ⟨bounded, set, clear⟩

theorem not_findsFirstZero : ¬FindsFirstZero (fun _ => 0xffffffff) 0xffffffff := by
  intro ⟨rounds, total, ran, _⟩
  rw [show (0 : U32) = ofNat 32 (32 * 0) from rfl, findFirstZeroBitLoop_none (by decide) ?_ _ _
    (by omega)] at ran
  · cases ran
  · intro nr _
    have place := Nat.mod_lt nr (show 0 < 32 by decide)
    rw [Words.bit, show (0xffffffff : U32) = BitVec.allOnes 32 from rfl, BitVec.getLsbD_allOnes]
    exact decide_eq_true place

end Floid.Osk
