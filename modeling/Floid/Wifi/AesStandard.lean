import Mathlib.Tactic.FinCases
import Floid.Lib.Rijndael
import Floid.Wifi.Aes

namespace Floid.Wifi

open Lib
open Floid.Lib.Rijndael (stateOf wordsOf subByte xtime)
open Vector (ext getElem_append_left)

theorem sbox_eq (a : U8) : sbox a = subByte a := by
  revert a
  decide +kernel

theorem stateOf_byteSub (block : Block) : stateOf (byteSub block) = Rijndael.subBytes (stateOf block) := by
  funext r c
  simp only [stateOf, byteSub, Rijndael.subBytes, Vector.getElem_map, sbox_eq]

theorem stateOf_shiftRow (block : Block) : stateOf (shiftRow block) = Rijndael.shiftRows (stateOf block) := by
  funext r c
  fin_cases r <;> fin_cases c <;> rfl

theorem stateOf_xor128 (block key : Block) :
    stateOf (xor128 block key) = Rijndael.addRoundKey (stateOf block) (wordsOf key) := by
  funext r c
  simp only [stateOf, xor128, xorBlocks, Rijndael.addRoundKey, wordsOf, Vector.getElem_zipWith]

theorem xtime_eq (a : U8) : xtime a =
    (if a &&& 0x80 = 0x80 then (0x1B : U8) else 0) ^^^ (a &&& 0x7F) <<< 1 := by
  revert a
  decide +kernel

theorem masked_top (a : U8) : ((a &&& 0x7F) &&& 0x80 = 0x80) = False := by
  revert a
  decide +kernel

theorem masked_low (a : U8) : (a &&& 0x7F) <<< 1 &&& (0xFE : U8) = (a &&& 0x7F) <<< 1 := by
  revert a
  decide +kernel

theorem xor32_mk (a b c d e f g h : U8) :
    xor32 #v[a, b, c, d] #v[e, f, g, h] = #v[a ^^^ e, b ^^^ f, c ^^^ g, d ^^^ h] := by
  refine ext fun index small => ?_
  rw [xor32, xorBlocks, Vector.getElem_zipWith]
  match index, small with
  | 0, _ | 1, _ | 2, _ | 3, _ => rfl

theorem mixColumn_eq (a b c d : U8) : mixColumn #v[a, b, c, d] =
    #v[xtime a ^^^ (xtime b ^^^ b) ^^^ c ^^^ d, a ^^^ xtime b ^^^ (xtime c ^^^ c) ^^^ d,
      a ^^^ b ^^^ xtime c ^^^ (xtime d ^^^ d), xtime a ^^^ a ^^^ b ^^^ c ^^^ xtime d] := by
  have mapped (f : U8 → U8) : #v[a, b, c, d].map f = #v[f a, f b, f c, f d] := by simp
  have first (e f g h : U8) : #v[e, f, g, h][0] = e := rfl
  have second (e f g h : U8) : #v[e, f, g, h][1] = f := rfl
  have third (e f g h : U8) : #v[e, f, g, h][2] = g := rfl
  have fourth (e f g h : U8) : #v[e, f, g, h][3] = h := rfl
  simp only [mixColumn, mapped, first, second, third, fourth, masked_top, if_false, masked_low, xor32_mk, ← xtime_eq]
  ac_rfl

theorem getElem_columns (first second third fourth : Vector U8 4) (r c : Fin 4) :
    (first ++ second ++ third ++ fourth)[r.val + 4 * c.val] = (![first, second, third, fourth] c)[r] := by
  have small := r.isLt
  match c with
  | 0 =>
      change (first ++ second ++ third ++ fourth)[r.val + 4 * 0] = first[r.val]
      rw [getElem_append_left (show r.val + 4 * 0 < 4 + 4 + 4 by omega),
        getElem_append_left (show r.val + 4 * 0 < 4 + 4 by omega),
        getElem_append_left (show r.val + 4 * 0 < 4 by omega)]
      rfl
  | 1 =>
      change (first ++ second ++ third ++ fourth)[r.val + 4 * 1] = second[r.val]
      rw [getElem_append_left (show r.val + 4 * 1 < 4 + 4 + 4 by omega),
        getElem_append_left (show r.val + 4 * 1 < 4 + 4 by omega),
        Vector.getElem_append_right (show r.val + 4 * 1 < 4 + 4 by omega) (by omega)]
      rfl
  | 2 =>
      change (first ++ second ++ third ++ fourth)[r.val + 4 * 2] = third[r.val]
      rw [getElem_append_left (show r.val + 4 * 2 < 4 + 4 + 4 by omega),
        Vector.getElem_append_right (show r.val + 4 * 2 < 4 + 4 + 4 by omega) (by omega)]
      rfl
  | 3 =>
      change (first ++ second ++ third ++ fourth)[r.val + 4 * 3] = fourth[r.val]
      rw [Vector.getElem_append_right (show r.val + 4 * 3 < 4 + 4 + 4 + 4 by omega) (by omega)]
      rfl

theorem stateOf_mixColumns (block : Block) :
    stateOf (mixColumns block) = Rijndael.mixColumns (stateOf block) := by
  funext r c
  rw [stateOf, mixColumns, getElem_columns, mixColumn_eq, mixColumn_eq, mixColumn_eq, mixColumn_eq]
  fin_cases c <;> fin_cases r <;>
    simp [Rijndael.mixColumns, Rijndael.coefficient, Rijndael.mul_one, Rijndael.mul_two, Rijndael.mul_three, stateOf]

theorem rconTable_powers : ∀ round : Fin 10, xtime^[round.val] 1 = rconTable[round.val] := by
  decide +kernel

variable {round : Nat}

theorem rcon_eq (small : round < 10) : Rijndael.rcon (round + 1) = ![rconTable[round], 0, 0, 0] := by
  rw [Rijndael.rcon, Nat.add_sub_cancel]
  exact congrArg (fun byte => ![byte, 0, 0, 0]) (rconTable_powers ⟨round, small⟩)

theorem wordsOf_nextKey (first : Fin 4 → Rijndael.Word) {key : Block}
    (small : round < 10) (roundKey : wordsOf key = Rijndael.roundKey first round) :
    wordsOf (nextKey key ⟨round, by omega⟩) = Rijndael.roundKey first (round + 1) := by
  have before (c r : Fin 4) : Rijndael.keyWord first (4 * round + c.val) r = wordsOf key c r :=
    (congrFun (congrFun roundKey c) r).symm
  have word0 (r : Fin 4) : Rijndael.keyWord first (4 * (round + 1)) r = wordsOf key 0 r ^^^
      (sbox (wordsOf key 3 (r + 1)) ^^^ (![rconTable[round], 0, 0, 0] : Rijndael.Word) r) := by
    rw [Rijndael.keyWord_four_mul, rcon_eq small, sbox_eq, ← before 0, ← before 3]
    rfl
  have later (c : Fin 4) (inside : c.val + 1 < 4) (r : Fin 4) :
      Rijndael.keyWord first (4 * (round + 1) + (c.val + 1)) r =
        wordsOf key ⟨c.val + 1, inside⟩ r ^^^ Rijndael.keyWord first (4 * (round + 1) + c.val) r := by
    rw [Rijndael.keyWord_four_mul_add first round r inside, ← before ⟨c.val + 1, inside⟩]
  have word1 (r : Fin 4) : Rijndael.keyWord first (4 * (round + 1) + 1) r =
      wordsOf key 1 r ^^^ Rijndael.keyWord first (4 * (round + 1)) r := later 0 (by decide) r
  have word2 (r : Fin 4) : Rijndael.keyWord first (4 * (round + 1) + 2) r =
      wordsOf key 2 r ^^^ Rijndael.keyWord first (4 * (round + 1) + 1) r := later 1 (by decide) r
  have word3 (r : Fin 4) : Rijndael.keyWord first (4 * (round + 1) + 3) r =
      wordsOf key 3 r ^^^ Rijndael.keyWord first (4 * (round + 1) + 2) r := later 2 (by decide) r
  have set0 (e f g h byte : U8) : #v[e, f, g, h].set 0 byte = #v[byte, f, g, h] := rfl
  have first0 (e f g h : U8) : #v[e, f, g, h][0] = e := rfl
  funext c r
  rw [wordsOf, nextKey, getElem_columns, Rijndael.roundKey]
  simp only [xor32_mk, set0, first0]
  match c with
  | 0 =>
      change _ = Rijndael.keyWord first (4 * (round + 1)) r
      rw [word0]
      fin_cases r <;> simp [wordsOf, BitVec.xor_assoc]
  | 1 =>
      change _ = Rijndael.keyWord first (4 * (round + 1) + 1) r
      rw [word1, word0]
      fin_cases r <;> simp [wordsOf, BitVec.xor_assoc]
  | 2 =>
      change _ = Rijndael.keyWord first (4 * (round + 1) + 2) r
      rw [word2, word1, word0]
      fin_cases r <;> simp [wordsOf, BitVec.xor_assoc]
  | 3 =>
      change _ = Rijndael.keyWord first (4 * (round + 1) + 3) r
      rw [word3, word2, word1, word0]
      fin_cases r <;> simp [wordsOf, BitVec.xor_assoc]

structure AfterRound (key data : Block) (round : Nat) (state : Block × Block) : Prop where
  roundKey : wordsOf state.1 = Rijndael.roundKey (wordsOf key) (round + 1)
  ciphertext : stateOf state.2 = Rijndael.afterRounds (wordsOf key) (stateOf data) round

theorem roundKey_zero (key : Block) : Rijndael.roundKey (wordsOf key) 0 = wordsOf key := by
  funext c
  rw [Rijndael.roundKey, Nat.mul_zero, Nat.zero_add, Rijndael.keyWord, dif_pos c.isLt]

theorem afterRound_zero (key data : Block) : AfterRound key data 0 (nextKey key 0, xor128 key data) where
  roundKey := wordsOf_nextKey _ (show 0 < 10 by omega) (roundKey_zero key).symm
  ciphertext := by
    have swap : xor128 key data = xor128 data key :=
      ext fun index small => by simp [xor128, xorBlocks, BitVec.xor_comm]
    rw [swap, stateOf_xor128, Rijndael.afterRounds, roundKey_zero]

theorem AfterRound.next {key data : Block} {state : Block × Block}
    (now : AfterRound key data round state) (small : round + 1 < 10) :
    AfterRound key data (round + 1) (aesRound state ⟨round + 1, by omega⟩) where
  roundKey := wordsOf_nextKey _ small now.roundKey
  ciphertext := by
    rw [aesRound, stateOf_xor128, stateOf_mixColumns, stateOf_shiftRow, stateOf_byteSub,
      now.roundKey, now.ciphertext, Rijndael.afterRounds]

theorem aes128k128d_eq (key data : Block) : aes128k128d key data = Rijndael.aes128 key data := by
  have last : AfterRound key data 9 (([1, 2, 3, 4, 5, 6, 7, 8, 9] : List (Fin 12)).foldl aesRound
      (nextKey key 0, xor128 key data)) := by
    have rounds := afterRound_zero key data
    iterate 9 replace rounds := rounds.next (by omega)
    exact rounds
  rw [aes128k128d, Rijndael.aes128, Rijndael.cipher, ← last.roundKey, ← last.ciphertext,
    ← stateOf_byteSub, ← stateOf_shiftRow, ← stateOf_xor128, Rijndael.blockOf_stateOf]

end Floid.Wifi
