import Mathlib.Logic.Basic

/-!
The message integrity code Michael, over words: the message is padded to whole words, each is added
to the left half of a state of two words, and the halves are mixed.
-/

namespace Floid.Lib.Michael

def words : List (BitVec 8) → List (BitVec 32)
  | b0 :: b1 :: b2 :: b3 :: rest => (b3 ++ b2 ++ b1 ++ b0) :: words rest
  | _ => []

def wordBytes (word : BitVec 32) : List (BitVec 8) :=
  (List.range 4).map fun index => word.extractLsb' (8 * index) 8

def xswap (word : BitVec 32) : BitVec 32 :=
  word.extractLsb' 16 8 ++ word.extractLsb' 24 8 ++ word.extractLsb' 0 8 ++ word.extractLsb' 8 8

def block (state : BitVec 32 × BitVec 32) (word : BitVec 32) : BitVec 32 × BitVec 32 :=
  let l := state.1 ^^^ word
  let r := state.2 ^^^ l.rotateLeft 17
  let l := l + r
  let r := r ^^^ xswap l
  let l := l + r
  let r := r ^^^ l.rotateLeft 3
  let l := l + r
  let r := r ^^^ l.rotateRight 2
  (l + r, r)

def pad (message : List (BitVec 8)) : List (BitVec 8) :=
  message ++ 0x5a :: List.replicate (4 + (3 - message.length % 4)) 0

def tag (key : BitVec 32 × BitVec 32) (message : List (BitVec 8)) : List (BitVec 8) :=
  let (l, r) := (words (pad message)).foldl block key
  wordBytes l ++ wordBytes r

theorem pad_length_mod (message : List (BitVec 8)) : (pad message).length % 4 = 0 := by
  rw [pad, List.length_append, List.length_cons, List.length_replicate]
  omega

end Floid.Lib.Michael
