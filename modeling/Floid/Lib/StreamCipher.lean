import Mathlib.Data.BitVec

/-!
Stream ciphers. A generator gives one word of key stream after the other, whatever it
is applied to, and a text is enciphered by adding the key stream to it.
-/

namespace Floid.Lib

variable {State : Type*} {w : Nat} (next : State → BitVec w × State)

def keyStream : Nat → State → List (BitVec w)
  | 0, _ => []
  | count + 1, state => (next state).1 :: keyStream count (next state).2

def advance : Nat → State → State
  | 0, state => state
  | count + 1, state => advance count (next state).2

def applyStream : State → List (BitVec w) → List (BitVec w) × State
  | state, [] => ([], state)
  | state, word :: rest =>
      let (key, after) := next state
      let (out, last) := applyStream after rest
      ((word ^^^ key) :: out, last)

variable {next}

theorem applyStream_eq (state : State) (text : List (BitVec w)) : applyStream next state text =
      (List.zipWith (· ^^^ ·) text (keyStream next text.length state), advance next text.length state) := by
  induction text generalizing state with
  | nil => rfl
  | cons word rest ih => simp [applyStream, ih, keyStream, advance]

theorem keyStream_length (count : Nat) (state : State) : (keyStream next count state).length = count := by
  induction count generalizing state with
  | zero => rfl
  | succ count ih => rw [keyStream, List.length_cons, ih]

theorem applyStream_length (state : State) (text : List (BitVec w)) :
    (applyStream next state text).1.length = text.length := by
  rw [applyStream_eq, List.length_zipWith, keyStream_length, Nat.min_self]

theorem applyStream_append (state : State) (first second : List (BitVec w)) :
    applyStream next state (first ++ second) =
      ((applyStream next state first).1 ++ (applyStream next (applyStream next state first).2 second).1,
        (applyStream next (applyStream next state first).2 second).2) := by
  induction first generalizing state with
  | nil => rfl
  | cons word rest ih => simp [applyStream, ih]

/-- Enciphering with one key and deciphering with another gives the text back exactly
when the two give the same key stream over its length. -/
theorem applyStream_restores_iff (state other : State) (text : List (BitVec w)) :
    (applyStream next other (applyStream next state text).1).1 = text ↔
      keyStream next text.length other = keyStream next text.length state := by
  induction text generalizing state other with
  | nil => exact ⟨fun _ => rfl, fun _ => rfl⟩
  | cons word rest ih =>
    have key : word ^^^ (next state).1 ^^^ (next other).1 = word ↔ (next other).1 = (next state).1 := by
      constructor
      · intro same
        rw [BitVec.xor_assoc] at same
        have zero : (next state).1 ^^^ (next other).1 = 0#w := by
          have both := congrArg (word ^^^ ·) same
          simpa [← BitVec.xor_assoc] using both
        exact (BitVec.xor_eq_zero_iff.mp zero).symm
      · intro same
        rw [same, BitVec.xor_assoc, BitVec.xor_self, BitVec.xor_zero]
    simp only [applyStream, keyStream, List.length_cons, List.cons.injEq]
    rw [key, ih]

end Floid.Lib

/-!
Modes of operation of a block function. In counter mode the key stream is one block
after the other, each made from its number, so that it is a stream cipher whose state is
a place in the stream. In a CBC-MAC each block of the text goes into the next input.
-/

namespace Floid.Lib

variable {w n : Nat}

def counterWord (keyBlock : Nat → Vector (BitVec w) n) (place : Nat) : BitVec w × Nat :=
  ((keyBlock (place / n)).toList.getD (place % n) 0, place + 1)

def xorBlocks (first second : Vector (BitVec w) n) : Vector (BitVec w) n :=
  Vector.zipWith (· ^^^ ·) first second

def paddedBlock (text : List (BitVec w)) : Vector (BitVec w) n :=
  Vector.ofFn fun index => text.getD index 0

def textBlocks (n : Nat) : Nat → List (BitVec w) → List (Vector (BitVec w) n)
  | 0, _ => []
  | count + 1, text => paddedBlock (text.take n) :: textBlocks n count (text.drop n)

def cbcChain (encrypt : Vector (BitVec w) n → Vector (BitVec w) n) (chain : Vector (BitVec w) n)
    (blocks : List (Vector (BitVec w) n)) : Vector (BitVec w) n :=
  blocks.foldl (fun chain block => encrypt (xorBlocks chain block)) chain

variable {keyBlock : Nat → Vector (BitVec w) n}

theorem advance_counterWord (count place : Nat) :
    advance (counterWord keyBlock) count place = place + count := by
  induction count generalizing place with
  | zero => rfl
  | succ count ih =>
    rw [advance, ih, counterWord]
    omega

theorem keyStream_counterWord (block : Nat) {count from_ : Nat} (inside : from_ + count ≤ n) :
    keyStream (counterWord keyBlock) count (n * block + from_) =
      ((keyBlock block).toList.drop from_).take count := by
  induction count generalizing from_ with
  | zero => rw [List.take_zero, keyStream]
  | succ count ih =>
    have small : from_ < (keyBlock block).toList.length := by
      rw [Vector.length_toList]
      omega
    have quotient : (n * block + from_) / n = block := by
      rw [Nat.mul_add_div (by omega), Nat.div_eq_of_lt (by omega), Nat.add_zero]
    have remainder : (n * block + from_) % n = from_ := by
      rw [Nat.mul_add_mod, Nat.mod_eq_of_lt (by omega)]
    rw [keyStream, counterWord, quotient, remainder, List.drop_eq_getElem_cons small, List.take_succ_cons]
    dsimp only
    rw [Nat.add_assoc, ih (by omega), List.getD_eq_getElem?_getD, List.getElem?_eq_getElem small, Option.getD_some]

theorem applyStream_block (block : Nat) {text : List (BitVec w)} (short : text.length ≤ n) :
    applyStream (counterWord keyBlock) (n * block) text =
      (List.zipWith (· ^^^ ·) text (keyBlock block).toList, n * block + text.length) := by
  rw [applyStream_eq, advance_counterWord]
  have stream := @keyStream_counterWord w n keyBlock block text.length 0 (by omega)
  rw [Nat.add_zero, List.drop_zero] at stream
  rw [stream]
  congr 1
  refine List.ext_getElem? fun index => ?_
  by_cases small : index < text.length
  · simp [List.getElem?_zipWith, List.getElem?_take_of_lt small]
  · rw [List.getElem?_eq_none (by simp; omega), List.getElem?_eq_none (by simp; omega)]

theorem applyStream_twice (place : Nat) (text : List (BitVec w)) : (applyStream (counterWord keyBlock) place
      (applyStream (counterWord keyBlock) place text).1).1 = text :=
  (applyStream_restores_iff place place text).mpr rfl

theorem textBlocks_append (count more : Nat) {whole : List (BitVec w)} (rest : List (BitVec w))
    (length : whole.length = n * count) :
    textBlocks n (count + more) (whole ++ rest) = textBlocks n count whole ++ textBlocks n more rest := by
  induction count generalizing whole with
  | zero =>
    obtain rfl : whole = [] := List.eq_nil_of_length_eq_zero length
    rw [Nat.zero_add]
    rfl
  | succ count ih =>
    rw [Nat.mul_succ] at length
    rw [Nat.succ_add, textBlocks, textBlocks, List.take_append_of_le_length (by omega),
      List.drop_append_of_le_length (by omega), ih (by rw [List.length_drop]; omega)]
    rfl

end Floid.Lib

/-!
CCM, counter mode with a CBC-MAC, for a block function of 16 bytes. The parameters are
the length of the tag, `tagLength`, and the length of the field for the length of the
text, `width`; a nonce has 15 - `width` bytes.
-/

namespace Floid.Lib.Ccm

abbrev Block := Vector (BitVec 8) 16

def bigEndian : Nat → Nat → List (BitVec 8)
  | 0, _ => []
  | count + 1, number => bigEndian count (number / 256) ++ [BitVec.ofNat 8 (number % 256)]

def blocks (text : List (BitVec 8)) : List Block := textBlocks 16 ((text.length + 15) / 16) text

def firstBlock (tagLength width : Nat) (nonce data text : List (BitVec 8)) : Block :=
  paddedBlock ([BitVec.ofNat 8 ((if data = [] then 0 else 64) + 8 * ((tagLength - 2) / 2) +
    (width - 1))] ++ nonce ++ bigEndian width text.length)

def lengthAndData (data : List (BitVec 8)) : List (BitVec 8) :=
  if data = [] then [] else bigEndian 2 data.length ++ data

def counterBlock (width : Nat) (nonce : List (BitVec 8)) (number : Nat) : Block :=
  paddedBlock ([BitVec.ofNat 8 (width - 1)] ++ nonce ++ bigEndian width number)

section

variable (encrypt : Block → Block) (tagLength width : Nat) (nonce data text : List (BitVec 8))

def mac : Block :=
  cbcChain encrypt (encrypt (firstBlock tagLength width nonce data text))
    (blocks (lengthAndData data) ++ blocks text)

def cipherText : List (BitVec 8) :=
  (applyStream (counterWord fun index => encrypt (counterBlock width nonce (index + 1))) 0 text).1

def tag : List (BitVec 8) :=
  List.zipWith (· ^^^ ·) ((mac encrypt tagLength width nonce data text).toList.take tagLength)
    (encrypt (counterBlock width nonce 0)).toList

end

theorem blocks_two {first second : List (BitVec 8)} (whole : first.length = 16)
    (some : 0 < second.length) (short : second.length ≤ 16) :
    blocks (first ++ second) = [paddedBlock first, paddedBlock second] := by
  rw [blocks, List.length_append, whole, show (16 + second.length + 15) / 16 = 2 by omega,
    textBlocks, textBlocks, textBlocks, List.take_left' whole, List.drop_left' whole,
    List.take_of_length_le short]

theorem bigEndian_two (number : Nat) : bigEndian 2 number =
    [BitVec.ofNat 8 (number / 256 % 256), BitVec.ofNat 8 (number % 256)] := rfl

end Floid.Lib.Ccm
