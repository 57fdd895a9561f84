import Floid.Buddy.Register
import Floid.Buddy.Release
import Floid.Lib.Transition

namespace Floid.Buddy

open Floid.Osk Floid.Lib AlignedBlock

structure BankState where
  bank : MemoryBank
  outstanding : List Nat

inductive BankAction where
  | get (minimumSize : U32)
  | release (block : Nat)
  | elsewhere (words : Nat → U32)

def BankState.get (state : BankState) (minimumSize : U32) : BankState :=
  let (bank, block) := blockGet state.bank minimumSize
  ⟨bank, block.toList ++ state.outstanding⟩

def BankState.release (state : BankState) (block : Nat) : BankState :=
  ⟨blockRelease state.bank block, state.outstanding.erase block⟩

def BankState.elsewhere (state : BankState) (words : Nat → U32) : BankState :=
  { state with
    bank := { state.bank with
      blocklist := fun block =>
        if block < state.bank.blocks then state.bank.blocklist block else words block } }

def bankSystem (registered : MemoryBank) : TransitionSystem BankState BankAction where
  initial state := state = ⟨registered, []⟩
  step before action after :=
    match action with
    | .get minimumSize => after = before.get minimumSize
    | .release block => block ∈ before.outstanding ∧ after = before.release block
    | .elsewhere words => after = before.elsewhere words

def freeBlocks (bank : MemoryBank) : Set AlignedBlock :=
  {piece | piece.start ∈ bank.freelist piece.order}

def BankState.outstandingBlocks (state : BankState) : Set AlignedBlock :=
  {piece | piece.start ∈ state.outstanding ∧
    getBlockOrder (state.bank.blocklist piece.start) = piece.order + state.bank.minOrder}

structure Conserved (registered : MemoryBank) (state : BankState) : Prop where
  blocks_eq : state.bank.blocks = registered.blocks
  tiles : IsTiling (freeBlocks state.bank ∪ state.outstandingBlocks) (Set.Iio state.bank.blocks)
  apart : ∀ piece ∈ freeBlocks state.bank, piece ∉ state.outstandingBlocks
  free_once : ∀ index, (state.bank.freelist index).Nodup
  outstanding_once : state.outstanding.Nodup
  free_block : ∀ index, ∀ block ∈ state.bank.freelist index,
    ∃ piece ∈ freeBlocks state.bank, piece.order = index ∧ piece.start = block
  outstanding_block : ∀ block ∈ state.outstanding, ∃ piece ∈ state.outstandingBlocks, piece.start = block
  marked : ∀ index, ∀ block ∈ state.bank.freelist index,
    getBlockFree (state.bank.blocklist block) ≠ 0 ∧
      getBlockOrder (state.bank.blocklist block) = index + state.bank.minOrder
  aligned : ∀ index, ∀ block ∈ state.bank.freelist index,
    ∃ level, ∃ head ∈ registered.freelist level,
      head ≤ block ∧ 2 ^ index ∣ block - head ∧ block + 2 ^ index ≤ head + 2 ^ level
  unmerged : ∀ index, ∀ block ∈ state.bank.freelist index, blockGetBuddy block index ∉ state.bank.freelist index
  restored : state.outstanding = [] → ∀ index, state.bank.freelist index = registered.freelist index

def ReadableRelease (state : BankState) : BankAction → Prop
  | .release block =>
      BuddyReadable state.bank block (getBlockOrder (state.bank.blocklist block))
  | _ => True

structure Accounted (registered : MemoryBank) (state : BankState) (free held : Set AlignedBlock) : Prop where
  blocks_eq : state.bank.blocks = registered.blocks
  steady : Steady state.bank free held
  once : state.outstanding.Nodup
  mem_outstanding : ∀ block, block ∈ state.outstanding ↔ ∃ piece ∈ held, piece.start = block

theorem Accounted.get {registered : MemoryBank} {state : BankState} {free held : Set AlignedBlock}
    (before : Accounted registered state free held) (minimumSize : U32) :
    ∃ free' held', Accounted registered (state.get minimumSize) free' held' := by
  rcases @blockGet_steady _ _ _ minimumSize before.steady with
    unchanged | ⟨bank', free', piece, run, steady, new, blocks⟩
  · refine ⟨free, held, ?_⟩
    rw [BankState.get, unchanged]
    exact before
  · refine ⟨free', insert piece held, ?_⟩
    have after : state.get minimumSize = ⟨bank', piece.start :: state.outstanding⟩ := by
      rw [BankState.get, run]
      rfl
    rw [after]
    constructor
    · exact blocks.trans before.blocks_eq
    · exact steady
    · refine List.nodup_cons.mpr ⟨?_, before.once⟩
      rw [before.mem_outstanding]
      rintro ⟨other, member, same⟩
      exact new other member same
    · intro block
      rw [List.mem_cons, before.mem_outstanding]
      grind

theorem Accounted.release {registered : MemoryBank} {state : BankState}
    {free held : Set AlignedBlock} {block : Nat} (before : Accounted registered state free held)
    (member : block ∈ state.outstanding)
    (readable : ReadableRelease state (.release block)) :
    ∃ free' held', Accounted registered (state.release block) free' held' := by
  obtain ⟨piece, isHeld, rfl⟩ := (before.mem_outstanding block).mp member
  obtain ⟨free', steady, blocks⟩ := blockRelease_steady before.steady isHeld readable
  refine ⟨free', held \ {piece}, ?_⟩
  constructor
  · exact blocks.trans before.blocks_eq
  · exact steady
  · exact before.once.erase _
  · intro block
    rw [BankState.release, before.once.mem_erase_iff, before.mem_outstanding]
    constructor
    · rintro ⟨different, other, otherHeld, rfl⟩
      exact ⟨other, ⟨otherHeld, fun same => different (same ▸ rfl)⟩, rfl⟩
    · rintro ⟨other, ⟨otherHeld, different⟩, rfl⟩
      exact ⟨fun same => different
        (before.steady.same_of_start (.inr isHeld) (.inr otherHeld) same), other, otherHeld, rfl⟩

variable {free held : Set AlignedBlock} {registered bank : MemoryBank} {state : BankState}

theorem Accounted.elsewhere (before : Accounted registered state free held)
    (words : Nat → U32) : Accounted registered (state.elsewhere words) free held := by
  have steady := before.steady
  have word {block : Nat} (inside : block < state.bank.blocks) :
      (state.elsewhere words).bank.blocklist block = state.bank.blocklist block := if_pos inside
  have pieceWord {piece : AlignedBlock} (member : piece ∈ free ∪ held) :
      (state.elsewhere words).bank.blocklist piece.start = state.bank.blocklist piece.start :=
    word (steady.tiling.tiles.inside piece member _ piece.covers_start)
  refine { before with steady := ⟨?_, ?_, steady.tiling⟩ }
  · exact ⟨steady.layout.positive, steady.layout.small, steady.layout.maxOrder_eq⟩
  · constructor
    · exact steady.shown.minOrder_eq
    · exact steady.shown.nodup
    · exact steady.shown.mem_freelist
    · intro piece member
      rw [pieceWord (.inl member)]
      exact steady.shown.free_marked piece member
    · intro block inside notInHand marked
      rw [word inside] at marked
      exact steady.shown.marked_free block inside notInHand marked
    · intro piece member
      rw [pieceWord (.inr member)]
      exact steady.shown.held_order piece member
    · intro piece isTop
      rw [word ((binaryBlocks_topLevel _).tiles.inside piece isTop _ piece.covers_start)]
      exact steady.shown.top_level piece isTop
    · intro block inside notTop
      rw [word inside]
      exact steady.shown.not_top_level block inside notTop

theorem accounted_of_restricted {allowed : BankState → BankAction → Prop} {resources : BankResources}
    {size : U32} (accepted : bankRegister resources size = some (.ok, some registered))
    (readable : ∀ {before free held block}, Accounted registered before free held →
      block ∈ before.outstanding → allowed before (.release block) →
      ReadableRelease before (.release block))
    (reached : ((bankSystem registered).restrict allowed).Reachable state) :
    ∃ free held, Accounted registered state free held := by
  apply reached.invariant
  · rintro _ rfl
    exact ⟨_, ∅, rfl, bankRegister_steady accepted, List.nodup_nil, by simp⟩
  · rintro before action after ⟨free, held, accounted⟩ ⟨permitted, stepped⟩
    cases action with
    | get minimumSize => exact stepped ▸ accounted.get minimumSize
    | release block =>
      exact stepped.2 ▸ accounted.release stepped.1 (readable accounted stepped.1 permitted)
    | elsewhere words => exact stepped ▸ ⟨free, held, accounted.elsewhere words⟩

theorem accounted_of_reachable {resources : BankResources} {size : U32}
    (accepted : bankRegister resources size = some (.ok, some registered))
    (reached : ((bankSystem registered).restrict ReadableRelease).Reachable state) :
    ∃ free held, Accounted registered state free held :=
  accounted_of_restricted accepted (fun _ _ readable => readable) reached

theorem freeBlocks_eq (steady : Steady bank free held) : freeBlocks bank = free := by
  ext piece
  rw [freeBlocks, Set.mem_ofPred_eq, steady.shown.mem_freelist]
  constructor
  · rintro ⟨other, member, sameOrder, sameStart⟩
    have same := eq_of_covers sameOrder other.covers_start
      (sameStart ▸ piece.covers_start)
    exact same ▸ member
  · exact fun member => ⟨piece, member, rfl, rfl⟩

theorem outstandingBlocks_eq (accounted : Accounted registered state free held) :
    state.outstandingBlocks = held := by
  have shown := accounted.steady.shown
  ext piece
  rw [BankState.outstandingBlocks, Set.mem_ofPred_eq, accounted.mem_outstanding, shown.minOrder_eq]
  constructor
  · rintro ⟨⟨other, member, sameStart⟩, order⟩
    rw [← sameStart, shown.held_order other member] at order
    have same := eq_of_covers (show other.order = piece.order by omega)
      other.covers_start (sameStart ▸ piece.covers_start)
    exact same ▸ member
  · exact fun member => ⟨⟨piece, member, rfl⟩, shown.held_order piece member⟩

theorem freelist_eq_of_top (blocks : bank.blocks = registered.blocks)
    (steady : Steady bank (binaryBlocks bank.blocks) ∅)
    (start : Steady registered (binaryBlocks registered.blocks) ∅) (index : Nat) :
    bank.freelist index = registered.freelist index := by
  have members (block : Nat) : block ∈ bank.freelist index ↔ block ∈ registered.freelist index := by
    rw [steady.shown.mem_freelist, start.shown.mem_freelist, blocks]
  have single : ∀ block ∈ registered.freelist index, block = (binaryBlock registered.blocks index).start := by
    intro block listed
    obtain ⟨piece, member, rfl, rfl⟩ := (start.shown.mem_freelist _ _).mp listed
    exact congrArg AlignedBlock.start member.2
  have same := (List.perm_ext_iff_of_nodup (steady.shown.nodup index) (start.shown.nodup index)).mpr
    members
  cases listed : registered.freelist index with
  | nil => exact (List.perm_nil.mp (listed ▸ same))
  | cons first rest =>
    have once := start.shown.nodup index
    rw [listed] at once single
    cases rest with
    | nil => exact List.perm_singleton.mp (listed ▸ same)
    | cons second rest =>
      have equal := (single first List.mem_cons_self).trans
        (single second (List.mem_cons_of_mem _ List.mem_cons_self)).symm
      exact absurd (equal ▸ List.mem_cons_self) (List.nodup_cons.mp once).1

theorem Accounted.conserved (accounted : Accounted registered state free held)
    (start : Steady registered (binaryBlocks registered.blocks) ∅) :
    Conserved registered state := by
  have steady := accounted.steady
  have shown := steady.shown
  have isFree := freeBlocks_eq steady
  have isHeld := outstandingBlocks_eq accounted
  constructor
  · exact accounted.blocks_eq
  · rw [isFree, isHeld]
    exact steady.tiling.tiles
  · rw [isFree, isHeld]
    exact steady.tiling.apart
  · exact shown.nodup
  · exact accounted.once
  · rw [isFree]
    exact fun index block listed => (shown.mem_freelist index block).mp listed
  · rw [isHeld]
    exact fun block member => (accounted.mem_outstanding block).mp member
  · intro index block listed
    obtain ⟨piece, member, rfl, rfl⟩ := (shown.mem_freelist index block).mp listed
    rw [shown.minOrder_eq]
    exact shown.free_marked piece member
  · intro index block listed
    obtain ⟨piece, member, rfl, rfl⟩ := (shown.mem_freelist index block).mp listed
    obtain ⟨head, isTop, within⟩ := steady.tiling.bounded piece (.inl member)
    refine ⟨head.order, head.start, ?_, ?_, ?_, ?_⟩
    · rw [start.shown.mem_freelist]
      exact ⟨head, accounted.blocks_eq ▸ isTop, rfl, rfl⟩
    · exact (covers_iff.mp (within _ piece.covers_start)).1
    · have divides := Nat.pow_dvd_pow 2 (order_le_of_within within)
      exact Nat.dvd_sub (Nat.dvd_mul_left _ _) (Nat.dvd_trans divides (Nat.dvd_mul_left _ _))
    · have positive := Nat.two_pow_pos piece.order
      have last := covers_iff.mp (within (piece.start + 2 ^ piece.order - 1) (covers_iff.mpr ⟨by omega, by omega⟩))
      omega
  · intro index block listed buddyListed
    obtain ⟨piece, member, rfl, rfl⟩ := (shown.mem_freelist index block).mp listed
    rw [blockGetBuddy_start, shown.mem_freelist] at buddyListed
    obtain ⟨other, otherFree, sameOrder, sameStart⟩ := buddyListed
    have same := eq_of_covers (show other.order = piece.buddy.order from sameOrder)
      other.covers_start (sameStart ▸ piece.buddy.covers_start)
    exact steady.tiling.unmerged piece member (same ▸ otherFree)
  · intro none index
    have nothing : held = ∅ := by
      ext piece
      refine ⟨fun member => ?_, fun impossible => absurd impossible (Set.notMem_empty _)⟩
      have listed := (accounted.mem_outstanding piece.start).mpr ⟨piece, member, rfl⟩
      rw [none] at listed
      exact absurd listed List.not_mem_nil
    subst nothing
    obtain rfl := steady.tiling.free_unique (.start (binaryBlocks_topLevel _)) (binaryBlocks_topLevel _)
    exact freelist_eq_of_top accounted.blocks_eq steady start index

/-- Every bank keeps its memory together over every run in which no release is misled by
the memory past the block list. -/
theorem buddy_conservation {resources : BankResources} {size : U32} {registered : MemoryBank}
    {state : BankState} (accepted : bankRegister resources size = some (.ok, some registered))
    (reached : ((bankSystem registered).restrict ReadableRelease).Reachable state) :
    Conserved registered state := by
  obtain ⟨free, held, accounted⟩ := accounted_of_reachable accepted reached
  exact accounted.conserved (bankRegister_steady accepted)

def resourcesBefore (word : U32) : BankResources :=
  ⟨true, .ok, true, some fun _ => word, true⟩

theorem buddy_conservation_getRelease : ∃ registered state,
      bankRegister (resourcesBefore 0#32) 0x300000#32 = some (.ok, some registered) ∧
        state = ((BankState.mk registered []).get 0x180000#32).release 0 ∧
        Conserved registered state := by
  refine ⟨_, _, rfl, rfl, ?_⟩
  apply @buddy_conservation (resourcesBefore 0#32) 0x300000#32 _ _ rfl
  refine .next (.release 0) (.next (.get 0x180000#32) (.initial rfl) ⟨trivial, rfl⟩) ⟨.inr rfl, ?_, rfl⟩
  decide

/-- One megabyte, and behind its block list a word that looks like a free block: the
release merges the block with it and puts the result on a list past the free lists. -/
theorem phantom_buddy_merged : ∃ registered state,
      bankRegister (resourcesBefore 0x29#32) 0x100000#32 = some (.ok, some registered) ∧
        (bankSystem registered).Reachable state ∧ ¬ Conserved registered state := by
  refine ⟨_, _, rfl, .next (.release 0) (.next (.get 0x100000#32) (.initial rfl) rfl) ⟨?_, rfl⟩, ?_⟩
  · decide
  · intro conserved
    have restored := conserved.restored rfl 0
    exact absurd restored (by decide)

theorem blockGet_none_iff {minimumSize : U32} (steady : Steady bank free held)
    (nonzero : minimumSize ≠ 0) : (blockGet bank minimumSize).2 = none ↔
      ∀ piece ∈ free, piece.order + 20 < orderNeededForSize minimumSize (some 20) := by
  have lists := steady.shown.mem_freelist
  simp only [blockGet, if_neg nonzero, steady.shown.minOrder_eq]
  cases found : orderToSplit bank (orderNeededForSize minimumSize (some 20)) with
  | none =>
    refine iff_of_true rfl fun piece isFree => ?_
    by_contra! large
    have fits := steady.layout.order_le (steady.tiling.tiles.inside piece (.inl isFree))
    have inRange : piece.order + 20 ∈ List.range' (orderNeededForSize minimumSize (some 20))
        (bank.maxOrder + 1 - orderNeededForSize minimumSize (some 20)) := by
      rw [List.mem_range'_1, steady.layout.maxOrder_eq]
      omega
    have empty := List.find?_eq_none.mp found _ inRange
    rw [steady.shown.minOrder_eq, Nat.add_sub_cancel] at empty
    have listed := (lists _ _).mpr ⟨piece, isFree, rfl, rfl⟩
    simp_all
  | some currentOrder =>
    have inRange := List.mem_of_find?_eq_some found
    have filled := List.find?_some found
    rw [List.mem_range'_1] at inRange
    rw [steady.shown.minOrder_eq] at filled
    cases listed : bank.freelist (currentOrder - 20) with
    | nil => simp [listed] at filled
    | cons block rest =>
      obtain ⟨piece, isFree, order, -⟩ := (lists _ block).mp (listed ▸ List.mem_cons_self)
      refine iff_of_false (by simp [listed]) fun allSmall => ?_
      have small := allSmall piece isFree
      omega

/-- The blocks that a request could be given if nothing was in use. -/
def blocksForSize (registered : MemoryBank) (minimumSize : U32) : Set AlignedBlock :=
  {piece | piece.order + registered.minOrder = orderNeededForSize minimumSize (some registered.minOrder) ∧
    ∃ head ∈ freeBlocks registered, piece.Within head}

/-- Whatever has been got and released before, the bank refuses a request only when each
block that would do shares memory with one that is in use. -/
theorem blockGet_refuses_iff {resources : BankResources} {size minimumSize : U32}
    (accepted : bankRegister resources size = some (.ok, some registered))
    (reached : ((bankSystem registered).restrict ReadableRelease).Reachable state)
    (nonzero : minimumSize ≠ 0) :
    (blockGet state.bank minimumSize).2 = none ↔
      ∀ piece ∈ blocksForSize registered minimumSize,
        ∃ other ∈ state.outstandingBlocks, piece.Meets other := by
  obtain ⟨free, held, accounted⟩ := accounted_of_reachable accepted reached
  have start := bankRegister_steady accepted
  have steady := accounted.steady
  have level := binaryBlocks_topLevel state.bank.blocks
  rw [blockGet_none_iff steady nonzero, outstandingBlocks_eq accounted, blocksForSize,
    freeBlocks_eq start, start.shown.minOrder_eq, ← accounted.blocks_eq]
  constructor
  · rintro allSmall piece ⟨order, head, isTop, within⟩
    by_contra! apart
    obtain ⟨whole, isFree, inside⟩ := steady.tiling.exists_free_within level isTop within apart
    have small := allSmall whole isFree
    have large := order_le_of_within inside
    omega
  · intro allMet piece isFree
    by_contra! large
    have smallest := le_orderNeededForSize minimumSize 20
    generalize needed : orderNeededForSize minimumSize (some 20) = requestedOrder at *
    obtain ⟨head, isTop, within⟩ := steady.tiling.bounded piece (.inl isFree)
    have first : (AlignedBlock.mk (requestedOrder - 20) (piece.start / 2 ^ (requestedOrder - 20))).Within
        piece := within_of_covers (show requestedOrder - 20 ≤ piece.order by omega) rfl piece.covers_start
    obtain ⟨other, isHeld, unit, covered, otherCovers⟩ := allMet _
      ⟨Nat.sub_add_cancel smallest, head, isTop, fun unit covered => within unit (first unit covered)⟩
    have same := steady.tiling.tiles.apart piece (.inl isFree) other (.inr isHeld) unit
      (first unit covered) otherCovers
    exact steady.tiling.apart piece isFree (same ▸ isHeld)

/-- Of three megabytes two are in use: the third does not do for two more. -/
theorem blockGet_refuses_secondPair : ∃ registered state,
      bankRegister (resourcesBefore 0#32) 0x300000#32 = some (.ok, some registered) ∧
        state = (BankState.mk registered []).get 0x180000#32 ∧
        ∀ piece ∈ blocksForSize registered 0x180000#32,
          ∃ other ∈ state.outstandingBlocks, piece.Meets other := by
  refine ⟨_, _, rfl, rfl, ?_⟩
  refine (@blockGet_refuses_iff _ _ (resourcesBefore 0#32) 0x300000#32 0x180000#32 rfl
    (.next (.get 0x180000#32) (.initial rfl) ⟨trivial, rfl⟩) (by decide)).mp ?_
  decide

/-- The bank keeps no trace of the order of the requests: two runs that end with the same
blocks in use end with the same free blocks. -/
theorem freeBlocks_of_outstanding {resources : BankResources} {size : U32} {other : BankState}
    (accepted : bankRegister resources size = some (.ok, some registered))
    (reached : ((bankSystem registered).restrict ReadableRelease).Reachable state)
    (otherReached : ((bankSystem registered).restrict ReadableRelease).Reachable other)
    (same : state.outstandingBlocks = other.outstandingBlocks) :
    freeBlocks state.bank = freeBlocks other.bank := by
  obtain ⟨free, held, accounted⟩ := accounted_of_reachable accepted reached
  obtain ⟨others, otherHeld, otherAccounted⟩ := accounted_of_reachable accepted otherReached
  obtain rfl : held = otherHeld := by
    rw [← outstandingBlocks_eq accounted, same, outstandingBlocks_eq otherAccounted]
  rw [freeBlocks_eq accounted.steady, freeBlocks_eq otherAccounted.steady]
  have tiling := accounted.steady.tiling
  have otherTiling := otherAccounted.steady.tiling
  rw [otherAccounted.blocks_eq, ← accounted.blocks_eq] at otherTiling
  exact tiling.free_unique otherTiling (binaryBlocks_topLevel _)

/-- A block got and released while another is in use leaves the bank as it was. -/
theorem freeBlocks_of_outstanding_pair : ∃ registered state other,
      bankRegister (resourcesBefore 0#32) 0x300000#32 = some (.ok, some registered) ∧
        state = (BankState.mk registered []).get 0x100000#32 ∧
        other = (state.get 0x180000#32).release 0 ∧ freeBlocks other.bank = freeBlocks state.bank := by
  refine ⟨_, _, _, rfl, rfl, rfl, ?_⟩
  refine @freeBlocks_of_outstanding _ _ (resourcesBefore 0#32) 0x300000#32 _ rfl
    (.next (.release 0) (.next (.get 0x180000#32) (.next (.get 0x100000#32) (.initial rfl) ⟨trivial, rfl⟩)
      ⟨trivial, rfl⟩) ⟨.inr rfl, ?_, rfl⟩) (.next (.get 0x100000#32) (.initial rfl) ⟨trivial, rfl⟩) ?_
  · decide
  · ext piece
    refine and_congr_right fun listed => ?_
    rw [List.mem_singleton.mp listed]
    exact Iff.rfl

end Floid.Buddy
