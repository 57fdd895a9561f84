import Mathlib.Data.BitVec

namespace Floid.Osk

/-- The driver's `u32`: every address, size and register word. -/
abbrev U32 := BitVec 32

/-- `_mali_osk_errcode_t`. -/
inductive Errcode where
  | ok
  | fault
  | invalidFunc
  | invalidArgs
  | nomem
  | timeout
  | restartsyscall
  | itemNotFound
  | busy
  | unsupported
  deriving DecidableEq, Repr

def pageSize : U32 := 0x1000#32

def pageOffsetMask : U32 := 0xFFF#32

-- The index literals of the arrays of these lengths.
instance neZeroFour : NeZero 4 := ⟨by decide⟩
instance neZeroSix : NeZero 6 := ⟨by decide⟩
instance neZeroEight : NeZero 8 := ⟨by decide⟩
instance neZeroSixteen : NeZero 16 := ⟨by decide⟩

end Floid.Osk
