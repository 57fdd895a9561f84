import Mathlib.Data.BitVec
import Mathlib.Data.Fin.VecNotation

/-!
The block cipher AES with a key of 128 bits, as its standard defines it. The state is a
matrix of four rows and four columns of bytes, filled column by column, and the bytes are
elements of the field with 256 elements.
-/

namespace Floid.Lib.Rijndael

abbrev Byte := BitVec 8

def xtime (b : Byte) : Byte := b <<< 1 ^^^ if b.msb then 0x1B else 0

def mul (a b : Byte) : Byte :=
  ((List.range 8).foldl (fun (sum, power) bit =>
    (if a.getLsbD bit then sum ^^^ power else sum, xtime power)) ((0, b) : Byte × Byte)).1

def inverse (b : Byte) : Byte :=
  let half := (fun power => mul (mul power power) b)^[6] b
  mul half half

def subByte (b : Byte) : Byte :=
  let i := inverse b
  i ^^^ i.rotateLeft 1 ^^^ i.rotateLeft 2 ^^^ i.rotateLeft 3 ^^^ i.rotateLeft 4 ^^^ 0x63

abbrev State := Fin 4 → Fin 4 → Byte

abbrev Word := Fin 4 → Byte

def subBytes (s : State) : State := fun r c => subByte (s r c)

def shiftRows (s : State) : State := fun r c => s r (c + r)

def coefficient (r k : Fin 4) : Byte := ![2, 3, 1, 1] (k - r)

def mixColumns (s : State) : State := fun r c =>
  mul (coefficient r 0) (s 0 c) ^^^ mul (coefficient r 1) (s 1 c) ^^^
    mul (coefficient r 2) (s 2 c) ^^^ mul (coefficient r 3) (s 3 c)

def addRoundKey (s : State) (words : Fin 4 → Word) : State := fun r c => s r c ^^^ words c r

def rcon (i : Nat) : Word := ![xtime^[i - 1] 1, 0, 0, 0]

def keyWord (key : Fin 4 → Word) (i : Nat) : Word :=
  if small : i < 4 then key ⟨i, small⟩
  else if i % 4 = 0 then fun r =>
    keyWord key (i - 4) r ^^^ (subByte (keyWord key (i - 1) (r + 1)) ^^^ rcon (i / 4) r)
  else fun r => keyWord key (i - 4) r ^^^ keyWord key (i - 1) r

def roundKey (key : Fin 4 → Word) (round : Nat) : Fin 4 → Word := fun c => keyWord key (4 * round + c)

def afterRounds (key : Fin 4 → Word) (s : State) : Nat → State
  | 0 => addRoundKey s (roundKey key 0)
  | round + 1 => addRoundKey (mixColumns (shiftRows (subBytes (afterRounds key s round))))
      (roundKey key (round + 1))

def cipher (key : Fin 4 → Word) (s : State) : State :=
  addRoundKey (shiftRows (subBytes (afterRounds key s 9))) (roundKey key 10)

def stateOf (block : Vector Byte 16) : State := fun r c => block[r.val + 4 * c.val]

def wordsOf (key : Vector Byte 16) : Fin 4 → Word := fun c r => key[r.val + 4 * c.val]

def blockOf (s : State) : Vector Byte 16 :=
  Vector.ofFn fun index => s ⟨index.val % 4, by omega⟩ ⟨index.val / 4, by omega⟩

def aes128 (key block : Vector Byte 16) : Vector Byte 16 :=
  blockOf (cipher (wordsOf key) (stateOf block))

theorem blockOf_stateOf (block : Vector Byte 16) : blockOf (stateOf block) = block := by
  refine Vector.ext fun index small => ?_
  simp only [blockOf, stateOf, Vector.getElem_ofFn]
  congr 1
  omega

theorem keyWord_four_mul (key : Fin 4 → Word) (round : Nat) (r : Fin 4) :
    keyWord key (4 * (round + 1)) r = keyWord key (4 * round) r ^^^
      (subByte (keyWord key (4 * round + 3) (r + 1)) ^^^ rcon (round + 1) r) := by
  rw [keyWord, dif_neg (by omega), if_pos (by omega), Nat.mul_div_cancel_left _ (by omega)]
  rfl

theorem keyWord_four_mul_add (key : Fin 4 → Word) (round : Nat) (r : Fin 4) {c : Nat}
    (inside : c + 1 < 4) : keyWord key (4 * (round + 1) + (c + 1)) r =
      keyWord key (4 * round + (c + 1)) r ^^^ keyWord key (4 * (round + 1) + c) r := by
  rw [keyWord, dif_neg (by omega), if_neg (by omega)]
  rw [show 4 * (round + 1) + (c + 1) - 4 = 4 * round + (c + 1) by omega]
  rfl

theorem mul_two (b : Byte) : mul 2#8 b = xtime b := by
  revert b
  decide +kernel

theorem mul_three (b : Byte) : mul 3#8 b = xtime b ^^^ b := by
  revert b
  decide +kernel

theorem mul_one (b : Byte) : mul 1#8 b = b := by
  revert b
  decide +kernel

end Floid.Lib.Rijndael
