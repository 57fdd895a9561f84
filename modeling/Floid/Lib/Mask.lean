import Mathlib.Data.BitVec

/-!
Bit masks as sets of positions, ordered by inclusion, and the lowest of their positions:
`x & -x` keeps that bit and clears all the others.
-/

namespace Floid.Lib

open BitVec (eq_of_getLsbD_eq getLsbD_and getLsbD_or twoPow)

variable {width : Nat} {first second third other : BitVec width}

def Subset (first second : BitVec width) : Prop := first &&& ~~~second = (0 : BitVec width)

instance : Decidable (Subset first second) := inferInstanceAs (Decidable (_ = _))

theorem subset_iff : Subset first second ↔ ∀ bit, first.getLsbD bit = true → second.getLsbD bit = true := by
  constructor
  · intro subset bit set
    have clear := congrArg (fun mask => mask.getLsbD bit) subset
    have inside := BitVec.lt_of_getLsbD set
    simpa [set, inside] using clear
  · intro subset
    apply eq_of_getLsbD_eq
    intro bit inside
    have implied := subset bit
    grind

namespace Subset

theorem refl (mask : BitVec width) : Subset mask mask := subset_iff.mpr fun _ set => set

theorem trans (inner : Subset first second) (outer : Subset second third) : Subset first third :=
  subset_iff.mpr fun bit set => subset_iff.mp outer bit (subset_iff.mp inner bit set)

theorem zero (mask : BitVec width) : Subset 0 mask := by simp [Subset]

theorem eq_zero (subset : Subset first 0) : first = 0 := by
  simpa [Subset] using subset

theorem and_left (mask limit : BitVec width) : Subset (mask &&& limit) mask := by
  rw [subset_iff]
  simp only [getLsbD_and, Bool.and_eq_true]
  exact fun _ set => set.1

theorem and_right (mask limit : BitVec width) : Subset (mask &&& limit) limit := by
  rw [subset_iff]
  simp only [getLsbD_and, Bool.and_eq_true]
  exact fun _ set => set.2

theorem and (left : Subset first second) (right : Subset first third) : Subset first (second &&& third) := by
  rw [subset_iff] at *
  simp only [getLsbD_and, Bool.and_eq_true]
  exact fun bit set => ⟨left bit set, right bit set⟩

theorem or_left (mask extra : BitVec width) : Subset mask (mask ||| extra) := by
  rw [subset_iff]
  simp only [getLsbD_or, Bool.or_eq_true]
  exact fun _ set => .inl set

theorem or (left : Subset first third) (right : Subset second third) : Subset (first ||| second) third := by
  rw [subset_iff] at *
  simp only [getLsbD_or, Bool.or_eq_true]
  exact fun bit set => set.elim (left bit) (right bit)

theorem or_mono (subset : Subset first second) (extra : BitVec width) :
    Subset (first ||| extra) (second ||| extra) := by
  rw [subset_iff] at *
  simp only [getLsbD_or, Bool.or_eq_true]
  exact fun bit set => set.imp (subset bit) id

theorem and_mono (subset : Subset first second) (limit : BitVec width) :
    Subset (first &&& limit) (second &&& limit) := by
  rw [subset_iff] at *
  simp only [getLsbD_and, Bool.and_eq_true]
  exact fun bit set => ⟨subset bit set.1, set.2⟩

theorem compl_iff : Subset first (~~~second) ↔ first &&& second = 0 := by
  simp [Subset]

theorem compl_anti (apart : Subset first (~~~second)) (smaller : Subset other second) :
    Subset first (~~~other) := by
  rw [compl_iff] at *
  have both : Subset (first &&& other) (first &&& second) := by
    have step := smaller.and_mono first
    rwa [BitVec.and_comm other, BitVec.and_comm second] at step
  rw [apart] at both
  exact both.eq_zero

theorem apart_of_parts {part piece : BitVec width} (apart : first &&& second = 0)
    (left : Subset part first) (right : Subset piece second) : part &&& piece = 0 :=
  compl_iff.mp ((left.trans (compl_iff.mpr apart)).compl_anti right)

theorem compl_or (left : Subset first (~~~second)) (right : Subset first (~~~third)) :
    Subset first (~~~(second ||| third)) := by
  have both := left.and right
  rwa [← BitVec.not_or] at both

theorem and_eq (subset : Subset first second) : first &&& second = first := by
  rw [subset_iff] at subset
  apply eq_of_getLsbD_eq
  intro bit _
  rw [getLsbD_and]
  grind

theorem or_eq (subset : Subset first second) : second ||| first = second := by
  rw [subset_iff] at subset
  apply eq_of_getLsbD_eq
  intro bit _
  rw [getLsbD_or]
  grind

end Subset

theorem clear_or_set (mask cleared set : BitVec width) :
    (mask &&& ~~~cleared) ||| set = (mask ||| set) &&& ~~~(cleared &&& ~~~set) := by
  apply eq_of_getLsbD_eq
  intro bit inside
  simp only [getLsbD_or, getLsbD_and, BitVec.getLsbD_not, inside, decide_true, Bool.true_and]
  grind

theorem subset_of_twoPow {position : Nat} (meets : twoPow width position &&& first ≠ 0) :
    Subset (twoPow width position) first := by
  rw [subset_iff]
  intro bit set
  obtain ⟨_, rfl⟩ : position < width ∧ position = bit := by
    simpa using set
  by_contra clear
  apply meets
  apply eq_of_getLsbD_eq
  intro other _
  simp only [getLsbD_and, BitVec.getLsbD_twoPow, BitVec.ofNat_eq_ofNat, BitVec.getLsbD_zero]
  grind

def IsLowestBit (word : BitVec width) (position : Nat) : Prop :=
  word.getLsbD position = true ∧ ∀ lower < position, word.getLsbD lower = false

variable {position : Nat} {word : BitVec width}

theorem IsLowestBit.lt_width (lowest : IsLowestBit word position) : position < width :=
  BitVec.lt_of_getLsbD lowest.1

theorem exists_isLowestBit (nonzero : word ≠ 0) : ∃ position, IsLowestBit word position := by
  have some_bit : ∃ position, word.getLsbD position = true := by
    by_contra none
    apply nonzero
    apply BitVec.eq_of_getLsbD_eq
    intro position _
    rw [show BitVec.getLsbD (0 : BitVec width) position = false from BitVec.getLsbD_zero]
    exact Bool.eq_false_iff.mpr fun set => none ⟨position, set⟩
  refine ⟨Nat.find some_bit, Nat.find_spec some_bit, ?_⟩
  intro lower below
  exact Bool.eq_false_iff.mpr (Nat.find_min some_bit below)

theorem neg_and_self_of_isLowestBit (lowest : IsLowestBit word position) :
    -word &&& word = BitVec.twoPow width position := by
  apply BitVec.eq_of_getLsbD_eq
  intro index inside
  rw [BitVec.getLsbD_and, BitVec.getLsbD_neg, BitVec.getLsbD_twoPow]
  rcases Nat.lt_trichotomy index position with below | same | above
  · simp [lowest.2 index below, show position ≠ index by omega]
  · subst same
    have none_lower : ¬∃ lower < index, word.getLsbD lower = true := by
      rintro ⟨lower, below, set⟩
      simp [lowest.2 lower below] at set
    simp [lowest.1, inside, none_lower]
  · have some_lower : ∃ lower < index, word.getLsbD lower = true := ⟨position, above, lowest.1⟩
    simp [some_lower, inside, show position ≠ index by omega]

theorem log2_neg_and_self (lowest : IsLowestBit word position) :
    Nat.log2 (-word &&& word).toNat = position := by
  rw [neg_and_self_of_isLowestBit lowest, BitVec.toNat_twoPow,
    Nat.mod_eq_of_lt (Nat.pow_lt_pow_right (by omega) lowest.lt_width), Nat.log2_two_pow]

theorem neg_and_self_eq_zero_iff : -word &&& word = 0 ↔ word = 0 := by
  constructor
  · intro isolated
    by_contra nonzero
    obtain ⟨position, lowest⟩ := exists_isLowestBit nonzero
    rw [neg_and_self_of_isLowestBit lowest] at isolated
    have cleared := congrArg (·.getLsbD position) isolated
    simp [lowest.lt_width] at cleared
  · rintro rfl
    simp

end Floid.Lib
