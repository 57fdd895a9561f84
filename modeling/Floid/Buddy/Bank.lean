import Floid.Buddy.Block
import Mathlib.Logic.Function.Basic

/-!
A memory bank and the three operations on it. Blocks are named by their offset into
the bank's block list, free lists by their index, the order less the smallest order.
-/

namespace Floid.Buddy

open Osk
open Function (update update_of_ne update_self)

/-- `mali_memory_bank`, less the address of the memory and what names the bank. -/
structure MemoryBank where
  minOrder : Nat
  maxOrder : Nat
  blocks : Nat
  /-- The `misc` words. Past the block list they are whatever the memory holds. -/
  blocklist : Nat → U32
  freelist : Nat → List Nat
  numActiveAllocations : Nat

namespace MemoryBank

def updateMisc (bank : MemoryBank) (block : Nat) (change : U32 → U32) : MemoryBank :=
  { bank with blocklist := update bank.blocklist block (change (bank.blocklist block)) }

def listDelinit (bank : MemoryBank) (block : Nat) : MemoryBank :=
  { bank with freelist := fun index => (bank.freelist index).erase block }

def listAdd (bank : MemoryBank) (block index : Nat) : MemoryBank :=
  { bank with freelist := update bank.freelist index (block :: bank.freelist index) }

def listAddtail (bank : MemoryBank) (block index : Nat) : MemoryBank :=
  { bank with freelist := update bank.freelist index (bank.freelist index ++ [block]) }

variable (bank : MemoryBank)

@[simp] theorem updateMisc_same (block : Nat) (change : U32 → U32) :
    (bank.updateMisc block change).blocklist block = change (bank.blocklist block) :=
  update_self ..

variable {other index : Nat}

theorem updateMisc_other (change : U32 → U32) {block : Nat} (different : other ≠ block) :
    (bank.updateMisc block change).blocklist other = bank.blocklist other :=
  update_of_ne different ..

@[simp] theorem updateMisc_minOrder (block : Nat) (change : U32 → U32) :
    (bank.updateMisc block change).minOrder = bank.minOrder := rfl

@[simp] theorem updateMisc_blocks (block : Nat) (change : U32 → U32) :
    (bank.updateMisc block change).blocks = bank.blocks := rfl

@[simp] theorem listAdd_same (block index : Nat) :
    (bank.listAdd block index).freelist index = block :: bank.freelist index :=
  update_self ..

theorem listAdd_other (block : Nat)
    (different : other ≠ index) : (bank.listAdd block index).freelist other = bank.freelist other :=
  update_of_ne different ..

@[simp] theorem listAddtail_same (block index : Nat) :
    (bank.listAddtail block index).freelist index = bank.freelist index ++ [block] :=
  update_self ..

theorem listAddtail_other (block : Nat) (different : other ≠ index) :
    (bank.listAddtail block index).freelist other = bank.freelist other :=
  update_of_ne different ..

@[simp] theorem listAddtail_blocklist (block index : Nat) :
    (bank.listAddtail block index).blocklist = bank.blocklist := rfl

@[simp] theorem updateMisc_freelist (block : Nat) (change : U32 → U32) :
    (bank.updateMisc block change).freelist = bank.freelist := rfl

end MemoryBank

structure BankResources where
  bank : Bool
  atomic : Errcode
  lock : Bool
  blocklist : Option (Nat → U32)
  freelist : Bool

def initSlots : Nat → U32 → Nat → MemoryBank → Option MemoryBank
  | 0, _, _, _ => none
  | rounds + 1, left, offset, bank =>
      if offset < bank.blocks then
        match maximumOrderWhichFits left with
        | some blockOrder =>
            let tagged := bank.updateMisc offset fun misc =>
              setBlockOrder (setBlockFree (setBlockToplevel misc blockOrder) true) blockOrder
            initSlots rounds (left - (1#32 <<< blockOrder))
              (offset + (1#32 <<< blockOrder / minBlockSize).toNat)
              (tagged.listAddtail offset (blockOrder - bank.minOrder))
        | none => none
      else some bank

def blankBank (maxOrder blocks : Nat) (beyond : Nat → U32) : MemoryBank where
  minOrder := orderNeededForSize minBlockSize none
  maxOrder := maxOrder
  blocks := blocks
  blocklist block := if block < blocks then 0#32 else beyond block
  freelist _ := []
  numActiveAllocations := 0

/-- `mali_memory_bank_register`; nothing when a loop of it does not end. -/
def bankRegister (resources : BankResources) (size : U32) : Option (Errcode × Option MemoryBank) :=
  let usableSize := size &&& ~~~(minBlockSize - 1)
  if usableSize = 0 then some (.invalidArgs, none)
  else if ¬ resources.bank then some (.nomem, none)
  else if resources.atomic ≠ .ok then some (resources.atomic, none)
  else
    match maximumOrderWhichFits usableSize with
    | none => none
    | some maxOrder =>
        if ¬ resources.lock then some (.fault, none)
        else
          match resources.blocklist with
          | none => some (.nomem, none)
          | some beyond =>
              if ¬ resources.freelist then some (.nomem, none)
              else
                let blocks := (usableSize / minBlockSize).toNat
                (initSlots (blocks + 1) usableSize 0 (blankBank maxOrder blocks beyond)).map
                  fun bank => (.ok, some bank)

def splitBlock (requestedOrder block : Nat) : Nat → MemoryBank → MemoryBank
  | 0, bank => bank
  | currentOrder + 1, bank =>
      if requestedOrder < currentOrder + 1 then
        let buddyBlock := blockGetBuddy block (currentOrder - bank.minOrder)
        let marked := bank.updateMisc buddyBlock fun misc =>
          setBlockFree (setBlockOrder misc currentOrder) true
        splitBlock requestedOrder block currentOrder
          (marked.listAdd buddyBlock (currentOrder - bank.minOrder))
      else bank

def orderToSplit (bank : MemoryBank) (requestedOrder : Nat) : Option Nat :=
  (List.range' requestedOrder (bank.maxOrder + 1 - requestedOrder)).find? fun currentOrder =>
    !(bank.freelist (currentOrder - bank.minOrder)).isEmpty

def blockGet (bank : MemoryBank) (minimumSize : U32) : MemoryBank × Option Nat :=
  if minimumSize = 0 then (bank, none)
  else
    let requestedOrder := orderNeededForSize minimumSize (some bank.minOrder)
    match orderToSplit bank requestedOrder with
    | none => (bank, none)
    | some currentOrder =>
        match bank.freelist (currentOrder - bank.minOrder) with
        | [] => (bank, none)
        | block :: _ =>
            let split := splitBlock requestedOrder block currentOrder (bank.listDelinit block)
            let taken := split.updateMisc block fun misc =>
              setBlockFree (setBlockOrder misc requestedOrder) false
            ({ taken with numActiveAllocations := taken.numActiveAllocations + 1 }, some block)

def mergeBuddies (bank : MemoryBank) (block buddyBlock parent currentOrder : Nat) : MemoryBank :=
  let clear := fun misc => setBlockFree (setBlockOrder misc 0) false
  (((bank.listDelinit buddyBlock).updateMisc block clear).updateMisc buddyBlock clear).updateMisc
    parent fun misc => setBlockFree (setBlockOrder misc (currentOrder + 1)) true

def mergeBlock : Nat → Nat → Nat → MemoryBank → MemoryBank × Nat × Nat
  | 0, block, currentOrder, bank => (bank, block, currentOrder)
  | rounds + 1, block, currentOrder, bank =>
      -- for a whole top-level block this may be past the block list
      let buddyBlock := blockGetBuddy block (currentOrder - bank.minOrder)
      if blockIsValidBuddy (bank.blocklist buddyBlock) currentOrder then
        let parent := blockGetParent block (currentOrder - bank.minOrder)
        let merged := mergeBuddies bank block buddyBlock parent currentOrder
        if getBlockToplevel (merged.blocklist parent) = currentOrder + 1 then
          (merged, parent, currentOrder + 1)
        else mergeBlock rounds parent (currentOrder + 1) merged
      else (bank, block, currentOrder)

def blockRelease (bank : MemoryBank) (block : Nat) : MemoryBank :=
  let marked := bank.updateMisc block fun misc => setBlockFree misc true
  let currentOrder := getBlockOrder (marked.blocklist block)
  let (merged, released, order) :=
    mergeBlock (bank.maxOrder + 1 - currentOrder) block currentOrder marked
  let listed := merged.listAdd released (order - bank.minOrder)
  { listed with numActiveAllocations := listed.numActiveAllocations - 1 }

end Floid.Buddy
