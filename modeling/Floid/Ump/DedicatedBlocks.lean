import Floid.Engine.BlockLists
import Floid.Ump.Memory

namespace Floid.Ump

open Osk Lib
open BitVec (ofNat)

/-- `UMP_BLOCK_SIZE`, 256 kB. -/
def umpBlockSize : U32 := 0x40000#32

structure BlockAllocator where
  base : U32
  numBlocks : U32
  numFree : U32
  next : Nat → Option Nat
  firstFree : Option Nat

/-- What the backend fills in of an `ump_dd_mem`. -/
structure DedicatedMem where
  sizeBytes : U32
  nrBlocks : U32
  blockArray : List PhysicalBlock
  backendInfo : Option Nat

namespace BlockAllocator

variable (allocator : BlockAllocator)

/-- The `usable_size` of `ump_block_allocator_create`, and in an allocation the size of
the blocks for so many bytes. -/
def wholeBlocks (size : U32) : U32 := (size + umpBlockSize - 1) &&& ~~~(umpBlockSize - 1)

/-- `ump_block_allocator_create`, given that there is memory for it or not. Its loop
links the blocks as that of the GPU's own block allocator does. -/
def create (baseAddress size : U32) (available : Bool) (links : Nat → Option Nat) : Option BlockAllocator :=
  let numBlocks := wholeBlocks size / umpBlockSize
  if wholeBlocks size = 0 then none
  else if available then
    let lists := Engine.BlockAllocator.linkBlocks links numBlocks.toNat
    some {
      base := baseAddress
      numBlocks
      numFree := numBlocks
      next := lists.1
      firstFree := lists.2 }
  else none

def getPhys (block : Nat) : U32 := allocator.base + ofNat 32 block * umpBlockSize

def physicalBlock (block : Nat) : PhysicalBlock := ⟨allocator.getPhys block, umpBlockSize⟩

def unlinkFirst (block : Nat) (link : Option Nat) : BlockAllocator :=
  { allocator with
    firstFree := allocator.next block
    next := Function.update allocator.next block link
    numFree := allocator.numFree - 1 }

def relink : Nat → Option Nat → BlockAllocator → Option BlockAllocator
  | _, none, allocator => some allocator
  | 0, some _, _ => none
  | fuel + 1, some block, allocator =>
      relink fuel (allocator.next block)
        { allocator with
          next := Function.update allocator.next block allocator.firstFree
          firstFree := some block
          numFree := allocator.numFree + 1 }

def freeList : List Nat := Chain.walk allocator.next allocator.numBlocks.toNat allocator.firstFree

end BlockAllocator

structure DedicatedLoop where
  allocator : BlockAllocator
  lastAllocated : Option Nat
  left : U32
  sizeBytes : U32
  blockArray : List PhysicalBlock

namespace DedicatedLoop

def remaining (left : U32) : U32 := if left < umpBlockSize then 0 else left - umpBlockSize

def take (loop : DedicatedLoop) (block : Nat) : DedicatedLoop where
  allocator := loop.allocator.unlinkFirst block loop.lastAllocated
  lastAllocated := some block
  left := remaining loop.left
  sizeBytes := loop.sizeBytes + umpBlockSize
  blockArray := loop.blockArray ++ [loop.allocator.physicalBlock block]

def run (nrBlocks : U32) : Nat → DedicatedLoop → Option DedicatedLoop
  | fuel, loop =>
      if 0 < loop.left then
        match loop.allocator.firstFree, fuel with
        | none, _ => some loop
        | some _, 0 => none
        | some block, fuel + 1 =>
            if loop.blockArray.length < nrBlocks.toNat then run nrBlocks fuel (loop.take block)
            else none
      else some loop

end DedicatedLoop

/-- What happens around an allocation: whether there is memory for the array, and
whether the wait for the mutex is not interrupted. -/
structure DedicatedRequest where
  memory : Bool
  mutex : Bool

/-- `block_allocator_allocate`, for a descriptor of the given size. A size of zero is a
`BUG_ON`, and there is no memory for an array without entries. -/
def blockAllocatorAllocate (request : DedicatedRequest) (sizeBytes : U32)
    (allocator : BlockAllocator) : Option (Option DedicatedMem × BlockAllocator) :=
  let nrBlocks := BlockAllocator.wholeBlocks sizeBytes / umpBlockSize
  if sizeBytes = 0 then none
  else if request.memory ∧ nrBlocks ≠ 0 then
    if request.mutex then do
      let loop ← DedicatedLoop.run nrBlocks allocator.numBlocks.toNat
        ⟨allocator, none, sizeBytes, 0, []⟩
      if loop.left ≠ 0 then
        let restored ← loop.allocator.relink allocator.numBlocks.toNat loop.lastAllocated
        return (none, restored)
      else
        return (some ⟨loop.sizeBytes, nrBlocks, loop.blockArray, loop.lastAllocated⟩, loop.allocator)
    else some (none, allocator)
  else some (none, allocator)

/-- `block_allocator_release`: nothing is done when the wait is interrupted. NULL for
the blocks is a `BUG_ON`. -/
def blockAllocatorRelease (mutex : Bool) (handle : DedicatedMem) (allocator : BlockAllocator) :
    Option BlockAllocator :=
  match handle.backendInfo with
  | none => none
  | some block =>
      if mutex then allocator.relink allocator.numBlocks.toNat (some block) else some allocator

namespace BlockAllocator

theorem wholeBlocks_toNat (size : U32) :
    (wholeBlocks size).toNat = (size.toNat + (2 ^ 18 - 1)) % 2 ^ 32 / 2 ^ 18 * 2 ^ 18 := by
  have mask : ~~~(umpBlockSize - 1) = BitVec.allOnes 32 <<< 18 := by decide
  have shifted : wholeBlocks size = (size + umpBlockSize - 1) >>> 18 <<< 18 := by
    rw [wholeBlocks, mask]
    ext bit
    simp only [BitVec.getElem_and, BitVec.getElem_shiftLeft, BitVec.getElem_allOnes]
    grind
  have sum : (size + umpBlockSize - 1).toNat = (size.toNat + (2 ^ 18 - 1)) % 2 ^ 32 := by
    rw [show size + umpBlockSize - 1 = size + 0x3FFFF#32 by rw [umpBlockSize]; grind, BitVec.toNat_add]
    rfl
  rw [shifted, BitVec.toNat_shiftLeft, BitVec.toNat_ushiftRight, sum, Nat.shiftRight_eq_div_pow, Nat.shiftLeft_eq]
  omega

theorem nrBlocks_toNat (size : U32) :
    (wholeBlocks size / umpBlockSize).toNat = (size.toNat + (2 ^ 18 - 1)) % 2 ^ 32 / 2 ^ 18 := by
  rw [BitVec.toNat_udiv, wholeBlocks_toNat, show umpBlockSize.toNat = 2 ^ 18 from rfl]
  exact Nat.mul_div_cancel _ (by omega)

variable {allocator : BlockAllocator}

theorem relink_eq {fuel : Nat} {list head : Option Nat} {next : Nat → Option Nat} {blocks : List Nat}
    (chain : Chain allocator.next list blocks)
    (moved : moveAll fuel list (allocator.next, allocator.firstFree) = some (next, head)) :
    relink fuel list allocator = some { allocator with
      next
      firstFree := head
      numFree := allocator.numFree + ofNat 32 blocks.length } := by
  induction blocks generalizing fuel list allocator with
  | nil =>
    cases chain
    simp only [moveAll, Option.some.injEq, Prod.mk.injEq] at moved
    obtain ⟨rfl, rfl⟩ := moved
    simp [relink]
  | cons block rest ih =>
    cases chain with
    | cons tail =>
      cases fuel with
      | zero => cases moved
      | succ fuel =>
        have fresh := (List.nodup_cons.mp (Chain.cons tail).nodup).1
        rw [relink, @ih { allocator with
          next := Function.update allocator.next block allocator.firstFree
          firstFree := some block
          numFree := allocator.numFree + 1 } fuel _ (tail.update fresh _) moved]
        simp only [List.length_cons, Option.some.injEq, mk.injEq, true_and, and_true]
        rw [BitVec.ofNat_add, BitVec.add_assoc]
        congr 1
        exact BitVec.add_comm _ _

theorem relink_spec {fuel : Nat} {list : Option Nat} {blocks free : List Nat}
    (chain : Chain allocator.next list blocks)
    (onto : Chain allocator.next allocator.firstFree free)
    (apart : ∀ block ∈ blocks, block ∉ free) (enough : blocks.length ≤ fuel) :
    ∃ next firstFree, relink fuel list allocator = some { allocator with
        next
        firstFree
        numFree := allocator.numFree + ofNat 32 blocks.length } ∧
      Chain next firstFree (blocks.reverse ++ free) ∧
      ∀ block ∉ blocks, next block = allocator.next block := by
  obtain ⟨next, firstFree, moved, linked, others⟩ := moveAll_spec chain onto apart enough
  exact ⟨next, firstFree, relink_eq chain moved, linked, others⟩

end BlockAllocator

namespace DedicatedLoop

variable {loop after : DedicatedLoop} {taken free now rest : List Nat} {nrBlocks : U32}

theorem remaining_toNat (left : U32) : (remaining left).toNat = left.toNat - 2 ^ 18 := by
  have size : umpBlockSize.toNat = 2 ^ 18 := rfl
  rw [remaining]
  split
  · rename_i less
    rw [BitVec.lt_def, size] at less
    rw [show (0 : U32).toNat = 0 from rfl]
    omega
  · rename_i less
    rw [BitVec.lt_def, size] at less
    rw [BitVec.toNat_sub_of_le (by rw [BitVec.le_def, size]; omega), size]

structure Lists (nrBlocks : U32) (loop : DedicatedLoop) (taken free : List Nat) : Prop where
  onFree : Chain loop.allocator.next loop.allocator.firstFree free
  onTaken : Chain loop.allocator.next loop.lastAllocated taken
  apart : ∀ block ∈ taken, block ∉ free
  entries : loop.left.toNat + loop.blockArray.length * 2 ^ 18 ≤ nrBlocks.toNat * 2 ^ 18

theorem Lists.take {block : Nat} (lists : loop.Lists nrBlocks taken (block :: rest))
    (room : loop.blockArray.length < nrBlocks.toNat) :
    (loop.take block).Lists nrBlocks (block :: taken) rest := by
  have nodup := List.nodup_cons.mp lists.onFree.nodup
  have absent : block ∉ taken := fun member => lists.apart block member List.mem_cons_self
  refine ⟨lists.onFree.tail.update nodup.1 _, lists.onTaken.push absent, fun other member => ?_, ?_⟩
  · cases member with
    | head => exact nodup.1
    | tail _ earlier => exact fun inRest => lists.apart other earlier (List.mem_cons_of_mem _ inRest)
  · have entries := lists.entries
    simp only [DedicatedLoop.take, remaining_toNat, List.length_append, List.length_singleton]
    omega

structure Filled (loop after : DedicatedLoop) (taken free now rest : List Nat) : Prop where
  split : free = now ++ rest
  onFree : Chain after.allocator.next after.allocator.firstFree rest
  onTaken : Chain after.allocator.next after.lastAllocated (now.reverse ++ taken)
  blockArray : after.blockArray = loop.blockArray ++ now.map loop.allocator.physicalBlock
  others : ∀ block, block ∉ taken → block ∉ free → after.allocator.next block = loop.allocator.next block
  base : after.allocator.base = loop.allocator.base
  numBlocks : after.allocator.numBlocks = loop.allocator.numBlocks
  numFree : after.allocator.numFree + ofNat 32 now.length = loop.allocator.numFree
  left : after.left.toNat = loop.left.toNat - now.length * 2 ^ 18
  exhausted : after.left = 0 ∨ rest = []

theorem Filled.refl (onFree : Chain loop.allocator.next loop.allocator.firstFree free)
    (onTaken : Chain loop.allocator.next loop.lastAllocated taken)
    (exhausted : loop.left = 0 ∨ free = []) : loop.Filled loop taken free [] free where
  split := rfl
  onFree := onFree
  onTaken := onTaken
  blockArray := (List.append_nil _).symm
  others _ _ _ := rfl
  base := rfl
  numBlocks := rfl
  numFree := BitVec.add_zero _
  left := by simp
  exhausted := exhausted

theorem Filled.cons {block : Nat} (filled : (loop.take block).Filled after (block :: taken) free now rest) :
    loop.Filled after taken (block :: free) (block :: now) rest where
  __ := filled
  split := by rw [filled.split, List.cons_append]
  onTaken := by
    rw [List.reverse_cons, List.append_assoc]
    exact filled.onTaken
  blockArray := by
    rw [filled.blockArray, List.map_cons]
    exact List.append_assoc _ _ _
  others := by
    intro other notTaken notFree
    rw [List.mem_cons, not_or] at notFree
    rw [filled.others other (by simp [notFree.1, notTaken]) notFree.2]
    exact Function.update_of_ne notFree.1 _ _
  numFree := by
    have counted := filled.numFree
    rw [List.length_cons, BitVec.ofNat_add, ← BitVec.add_assoc, counted]
    exact BitVec.sub_add_cancel _ _
  left := by
    have left := filled.left
    simp only [DedicatedLoop.take, remaining_toNat] at left
    rw [left, List.length_cons]
    omega

theorem run_exists {fuel : Nat} (lists : loop.Lists nrBlocks taken free) (enough : free.length ≤ fuel) :
    ∃ after now rest, run nrBlocks fuel loop = some after ∧ loop.Filled after taken free now rest := by
  induction free generalizing loop taken fuel with
  | nil =>
    have empty : loop.allocator.firstFree = none := lists.onFree.eq_nil_iff.mp rfl
    refine ⟨loop, [], [], ?_, .refl lists.onFree lists.onTaken (.inr rfl)⟩
    unfold run
    split
    · rw [empty]
    · rfl
  | cons block free ih =>
    cases fuel with
    | zero => simp at enough
    | succ fuel =>
      have head : loop.allocator.firstFree = some block := lists.onFree.head_eq
      unfold run
      by_cases more : 0 < loop.left
      · have entries := lists.entries
        have bytes : 0 < loop.left.toNat := BitVec.lt_def.mp more
        have room : loop.blockArray.length < nrBlocks.toNat := by omega
        rw [if_pos more, head]
        dsimp only
        rw [if_pos room]
        obtain ⟨after, now, rest, ran, filled⟩ :=
          ih (lists.take room) (Nat.le_of_succ_le_succ enough)
        exact ⟨after, _, _, ran, filled.cons⟩
      · have none : loop.left = 0 := by simpa using more
        rw [if_neg more]
        exact ⟨loop, [], _, rfl, .refl lists.onFree lists.onTaken (.inl none)⟩

end DedicatedLoop

structure Allocated (request : DedicatedRequest) (sizeBytes : U32) (allocator : BlockAllocator)
    (free : List Nat) (mem : Option DedicatedMem) (after : BlockAllocator) (now rest : List Nat) :
    Prop where
  split : free = now ++ rest
  onFree : Chain after.next after.firstFree rest
  others : ∀ block ∉ free, after.next block = allocator.next block
  base : after.base = allocator.base
  numBlocks : after.numBlocks = allocator.numBlocks
  numFree : after.numFree + ofNat 32 now.length = allocator.numFree
  refused : mem = none → now = [] ∧ (request.memory = true → request.mutex = true →
    BlockAllocator.wholeBlocks sizeBytes / umpBlockSize ≠ 0 → free.length * 2 ^ 18 < sizeBytes.toNat)
  held : ∀ new, mem = some new → Chain after.next new.backendInfo now.reverse ∧
    new.blockArray = now.map allocator.physicalBlock ∧ sizeBytes.toNat ≤ now.length * 2 ^ 18

section Calls

variable {allocator : BlockAllocator} {free : List Nat}

theorem blockAllocatorAllocate_nonzero {request : DedicatedRequest} {sizeBytes : U32}
    {result : Option DedicatedMem × BlockAllocator}
    (ran : blockAllocatorAllocate request sizeBytes allocator = some result) : sizeBytes ≠ 0 := by
  intro zero
  rw [blockAllocatorAllocate, if_pos zero] at ran
  contradiction

theorem blockAllocatorAllocate_exists (request : DedicatedRequest) {sizeBytes : U32}
    (nonzero : sizeBytes ≠ 0) (onFree : Chain allocator.next allocator.firstFree free)
    (enough : free.length ≤ allocator.numBlocks.toNat) :
    ∃ mem after now rest, blockAllocatorAllocate request sizeBytes allocator = some (mem, after) ∧
      Allocated request sizeBytes allocator free mem after now rest := by
  have unchanged (reason : request.memory = true → request.mutex = true →
      BlockAllocator.wholeBlocks sizeBytes / umpBlockSize ≠ 0 → free.length * 2 ^ 18 < sizeBytes.toNat) :
      Allocated request sizeBytes allocator free none allocator [] free :=
    ⟨rfl, onFree, fun _ _ => rfl, rfl, rfl, BitVec.add_zero _, fun _ => ⟨rfl, reason⟩, fun _ made => nomatch made⟩
  unfold blockAllocatorAllocate
  dsimp only
  rw [if_neg nonzero]
  by_cases memory : request.memory ∧ BlockAllocator.wholeBlocks sizeBytes / umpBlockSize ≠ 0
  · rw [if_pos memory]
    by_cases mutex : request.mutex
    · rw [if_pos mutex]
      have entries : sizeBytes.toNat ≤
          (BlockAllocator.wholeBlocks sizeBytes / umpBlockSize).toNat * 2 ^ 18 := by
        have nrBlocks := BlockAllocator.nrBlocks_toNat sizeBytes
        have some : (BlockAllocator.wholeBlocks sizeBytes / umpBlockSize).toNat ≠ 0 :=
          fun zero => memory.2 (BitVec.eq_of_toNat_eq zero)
        omega
      have lists : DedicatedLoop.Lists (BlockAllocator.wholeBlocks sizeBytes / umpBlockSize)
          ⟨allocator, none, sizeBytes, 0, []⟩ [] free :=
        ⟨onFree, .nil, by simp, by simpa using entries⟩
      obtain ⟨loop, now, rest, ran, filled⟩ := DedicatedLoop.run_exists lists enough
      have onTaken := filled.onTaken
      rw [List.append_nil] at onTaken
      have left := filled.left
      rw [ran]
      by_cases short : loop.left = 0
      · refine ⟨some ⟨loop.sizeBytes, BlockAllocator.wholeBlocks sizeBytes / umpBlockSize,
          loop.blockArray, loop.lastAllocated⟩, loop.allocator, now, rest, ?_, ?_⟩
        · simp only [Option.bind_eq_bind, Option.bind_some, short, ne_eq, not_true_eq_false, if_false]
          rfl
        · refine { filled with
            others := fun block absent => filled.others block (by simp) absent
            refused := (nomatch ·)
            held := ?_ }
          intro new made
          cases made
          refine ⟨onTaken, filled.blockArray, ?_⟩
          rw [short, show (0 : U32).toNat = 0 from rfl] at left
          exact Nat.sub_eq_zero_iff_le.mp left.symm
      · -- no block is left, and those taken go back in the order they came off
        obtain rfl : rest = [] := filled.exhausted.resolve_left short
        obtain rfl : free = now := by rw [filled.split, List.append_nil]
        have room : free.reverse.length ≤ allocator.numBlocks.toNat := by simpa using enough
        obtain ⟨next, firstFree, ran, chain, others⟩ :=
          BlockAllocator.relink_spec onTaken filled.onFree (by simp) room
        rw [List.reverse_reverse, List.append_nil] at chain
        refine ⟨none, { loop.allocator with
          next
          firstFree
          numFree := loop.allocator.numFree + ofNat 32 free.reverse.length },
          [], free, ?_, ?_⟩
        · simp only [Option.bind_eq_bind, Option.bind_some, short, ne_eq, not_false_eq_true, if_true, ran]
          rfl
        · refine ⟨rfl, chain, fun block absent => ?_, filled.base, filled.numBlocks, ?_,
            fun _ => ⟨rfl, fun _ _ _ => ?_⟩, fun _ made => nomatch made⟩
          · exact (others block (by simpa using absent)).trans
              (filled.others block (by simp) absent)
          · have counted := filled.numFree
            rw [List.length_reverse]
            exact (BitVec.add_zero _).trans counted
          · have positive : loop.left.toNat ≠ 0 := fun zero => short (BitVec.eq_of_toNat_eq zero)
            dsimp only at left
            omega
    · rw [if_neg mutex]
      exact ⟨none, _, [], free, rfl, unchanged fun _ got => absurd got mutex⟩
  · rw [if_neg memory]
    exact ⟨none, _, [], free, rfl, unchanged fun got _ some => absurd ⟨got, some⟩ memory⟩

end Calls

end Floid.Ump
