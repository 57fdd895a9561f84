import Floid.Buddy.Operations

namespace Floid.Buddy

open Floid.Osk Floid.Lib MemoryBank

def topFrom (blocks order : Nat) : Set AlignedBlock :=
  {piece | piece ∈ binaryBlocks blocks ∧ order ≤ piece.order}

theorem digit_eq (value order : Nat) : value / 2 ^ order % 2 = value % 2 ^ (order + 1) / 2 ^ order := by
  rw [Nat.pow_succ, Nat.mod_mul_right_div_self]

variable {blocks order : Nat} {bank : MemoryBank} {resources : BankResources}

theorem topFrom_next (some_left : blocks % 2 ^ order ≠ 0) :
    let next := (blocks % 2 ^ order).log2
    next < order ∧ blocks % 2 ^ (next + 1) = blocks % 2 ^ order ∧
      binaryBlock blocks next ∈ binaryBlocks blocks ∧
      topFrom blocks next = insert (binaryBlock blocks next) (topFrom blocks order) := by
  intro next
  have least : 2 ^ next ≤ blocks % 2 ^ order := Nat.log2_self_le some_left
  have most : blocks % 2 ^ order < 2 ^ (next + 1) := Nat.lt_log2_self
  have bounded : blocks % 2 ^ order < 2 ^ order := Nat.mod_lt _ (Nat.two_pow_pos _)
  have below : next < order :=
    (Nat.pow_lt_pow_iff_right (by decide)).mp (Nat.lt_of_le_of_lt least bounded)
  -- between the two orders all digits are zero
  have between : ∀ higher, next < higher → higher ≤ order → blocks % 2 ^ higher = blocks % 2 ^ order := by
    intro higher above within
    rw [← Nat.mod_mod_of_dvd blocks (Nat.pow_dvd_pow 2 within)]
    exact Nat.mod_eq_of_lt (Nat.lt_of_lt_of_le most (Nat.pow_le_pow_right (by decide) above))
  have digit : blocks / 2 ^ next % 2 = 1 := by
    rw [digit_eq, between (next + 1) (by omega) below]
    exact (Nat.div_eq_iff (Nat.two_pow_pos _)).mpr (by rw [Nat.pow_succ] at most; omega)
  refine ⟨below, between (next + 1) (by omega) below, mem_binaryBlocks.mpr digit, ?_⟩
  ext piece
  constructor
  · rintro ⟨member, above⟩
    rcases Nat.lt_or_ge piece.order order with lower | higher
    · left
      have sameOrder : piece.order = next := by
        by_contra different
        have pieceDigit := member.1
        rw [digit_eq, between (piece.order + 1) (by omega) lower, Nat.div_eq_of_lt] at pieceDigit
        · contradiction
        · exact Nat.lt_of_lt_of_le most (Nat.pow_le_pow_right (by decide) (by omega))
      rw [member.2, sameOrder]
    · exact .inr ⟨member, higher⟩
  · rintro (rfl | ⟨member, above⟩)
    · exact ⟨mem_binaryBlocks.mpr digit, Nat.le_refl next⟩
    · exact ⟨member, by omega⟩

theorem Represents.addTopLevel {bank : MemoryBank} {top : Set AlignedBlock} {piece : AlignedBlock}
    {change : U32 → U32} (shown : Represents bank top top ∅ ∅)
    (apart : ∀ other ∈ top, other.start ≠ piece.start)
    (marked : getBlockFree (change (bank.blocklist piece.start)) ≠ 0)
    (order : getBlockOrder (change (bank.blocklist piece.start)) = piece.order + 20)
    (level : getBlockToplevel (change (bank.blocklist piece.start)) = piece.order + 20) :
    Represents ((bank.updateMisc piece.start change).listAddtail piece.start piece.order)
      (insert piece top) (insert piece top) ∅ ∅ := by
  have word (block : Nat) (different : block ≠ piece.start) :
      ((bank.updateMisc piece.start change).listAddtail piece.start piece.order).blocklist block =
        bank.blocklist block := by
    rw [listAddtail_blocklist, updateMisc_other _ _ different]
  have own : ((bank.updateMisc piece.start change).listAddtail piece.start piece.order).blocklist
      piece.start = change (bank.blocklist piece.start) := by
    rw [listAddtail_blocklist, updateMisc_same]
  constructor
  · exact shown.minOrder_eq
  · intro index
    by_cases same : index = piece.order
    · rw [same, listAddtail_same, updateMisc_freelist]
      apply List.Nodup.append (shown.nodup _) (List.nodup_singleton _)
      rw [List.disjoint_singleton]
      intro listed
      obtain ⟨other, member, _, sameStart⟩ := (shown.mem_freelist _ _).mp listed
      exact apart other member sameStart
    · rw [listAddtail_other _ _ same]
      exact shown.nodup index
  · intro index block
    by_cases same : index = piece.order
    · rw [same, listAddtail_same, updateMisc_freelist, List.mem_append, List.mem_singleton, shown.mem_freelist]
      grind
    · rw [listAddtail_other _ _ same, updateMisc_freelist, shown.mem_freelist]
      grind
  · rintro other (rfl | member)
    · rw [own]
      exact ⟨marked, order⟩
    · rw [word _ (apart other member)]
      exact shown.free_marked other member
  · intro block inside _ isMarked
    by_cases same : block = piece.start
    · exact ⟨piece, .inl rfl, same.symm⟩
    · rw [word _ same] at isMarked
      obtain ⟨other, member, starts⟩ := shown.marked_free block inside (by simp) isMarked
      exact ⟨other, .inr member, starts⟩
  · simp
  · rintro other (rfl | member)
    · rw [own, level]
    · rw [word _ (apart other member)]
      exact shown.top_level other member
  · intro block inside notTop
    rw [word _ (notTop piece (.inl rfl)).symm]
    exact shown.not_top_level block inside fun other member => notTop other (.inr member)

/-- The loop of `mali_memory_bank_register` between two rounds: the blocks of the orders
from `order` on are made, and the rest of the bank is still blank. -/
structure PartlyInitialised (bank : MemoryBank) (left : U32) (offset order : Nat) : Prop where
  shown : Represents bank (topFrom bank.blocks order) (topFrom bank.blocks order) ∅ ∅
  small : bank.blocks ≤ 2 ^ 11
  left_eq : left.toNat = bank.blocks % 2 ^ order * 2 ^ 20
  offset_eq : offset + bank.blocks % 2 ^ order = bank.blocks
  blank : ∀ block < bank.blocks, offset ≤ block → bank.blocklist block = 0#32

theorem shiftLeft_blockOrder (small : order ≤ 11) : (1#32 <<< (order + 20)).toNat = 2 ^ order * 2 ^ 20 := by
  have bound : 2 ^ (order + 20) < 2 ^ 32 := Nat.pow_lt_pow_right (by decide) (by omega)
  rw [BitVec.toNat_shiftLeft, Nat.shiftLeft_eq, show (1#32).toNat = 1 from rfl, Nat.one_mul,
    Nat.mod_eq_of_lt bound, Nat.pow_add]

theorem log2_mul_two_pow {value : Nat} (digits : Nat) (nonzero : value ≠ 0) :
    (value * 2 ^ digits).log2 = value.log2 + digits := by
  have positive := Nat.two_pow_pos digits
  rw [Nat.log2_eq_iff (Nat.mul_ne_zero nonzero (Nat.ne_of_gt positive))]
  constructor
  · rw [Nat.pow_add]
    exact Nat.mul_le_mul_right _ (Nat.log2_self_le nonzero)
  · rw [show value.log2 + digits + 1 = value.log2 + 1 + digits by omega, Nat.pow_add]
    exact Nat.mul_lt_mul_of_pos_right Nat.lt_log2_self positive

theorem PartlyInitialised.round {left : U32} {offset : Nat}
    (state : PartlyInitialised bank left offset order) (more : offset < bank.blocks) :
    ∃ next < order, maximumOrderWhichFits left = some (next + 20) ∧
      (1#32 <<< (next + 20) / minBlockSize).toNat = 2 ^ next ∧
      PartlyInitialised ((bank.updateMisc offset fun misc =>
          setBlockOrder (setBlockFree (setBlockToplevel misc (next + 20)) true)
            (next + 20)).listAddtail offset next)
        (left - (1#32 <<< (next + 20)))
        (offset + (1#32 <<< (next + 20) / minBlockSize).toNat) next := by
  have small := state.small
  have split := state.offset_eq
  have left_eq := state.left_eq
  have some_left : bank.blocks % 2 ^ order ≠ 0 := by omega
  obtain ⟨below, same, isTop, topNext⟩ := topFrom_next some_left
  have least : 2 ^ (bank.blocks % 2 ^ order).log2 ≤ bank.blocks % 2 ^ order :=
    Nat.log2_self_le some_left
  have fits := @maximumOrderWhichFits_eq left (by omega) (by omega)
  rw [left_eq, log2_mul_two_pow 20 some_left] at fits
  generalize (bank.blocks % 2 ^ order).log2 = next at *
  have nextSmall : next ≤ 11 :=
    (Nat.pow_le_pow_iff_right (a := 2) (by decide)).mp (by omega)
  have power := shiftLeft_blockOrder nextSmall
  have startEq : (binaryBlock bank.blocks next).start = offset := by
    have whole := Nat.div_add_mod' bank.blocks (2 ^ (next + 1))
    rw [binaryBlock_start]
    omega
  have rest : bank.blocks % 2 ^ next + 2 ^ next = bank.blocks % 2 ^ order := by
    have digit := (mem_binaryBlocks.mp isTop)
    have parts := Nat.mod_pow_succ (x := bank.blocks) (b := 2) (k := next)
    rw [digit] at parts
    omega
  have units : (1#32 <<< (next + 20) / minBlockSize).toNat = 2 ^ next := by
    rw [BitVec.toNat_udiv, power, show minBlockSize.toNat = 2 ^ 20 from rfl, Nat.mul_div_cancel _ (by decide)]
  have blank := state.blank offset more (Nat.le_refl _)
  refine ⟨next, below, fits, units, ?_⟩
  constructor
  · have added := @Represents.addTopLevel bank _ (binaryBlock bank.blocks next)
      (fun misc => setBlockOrder (setBlockFree (setBlockToplevel misc (next + 20)) true) (next + 20)) state.shown
    rw [startEq, blank, ← topNext] at added
    apply added
    · intro other member same
      have meets := (binaryBlocks_topLevel bank.blocks).tiles.apart other member.1 _ isTop offset
        (same ▸ other.covers_start) (startEq ▸ AlignedBlock.covers_start _)
      have higher := member.2
      rw [meets] at higher
      exact absurd higher (Nat.not_le.mpr below)
    · simp
    · exact getBlockOrder_setBlockOrder _ (show next + 20 < 32 by omega)
    · simp only [getBlockToplevel_setBlockOrder, getBlockToplevel_setBlockFree]
      exact getBlockToplevel_setBlockToplevel_zero (by omega)
  · exact small
  · change (left - 1#32 <<< (next + 20)).toNat = bank.blocks % 2 ^ next * 2 ^ 20
    rw [BitVec.toNat_sub_of_le (by rw [BitVec.le_def]; omega)]
    omega
  · change offset + _ + bank.blocks % 2 ^ next = bank.blocks
    omega
  · intro block inside above
    have different : block ≠ offset := by
      have positive := Nat.two_pow_pos next
      omega
    rw [listAddtail_blocklist, updateMisc_other _ _ different]
    exact state.blank block inside (by omega)

theorem topFrom_eq_of_mod_eq_zero (whole : blocks % 2 ^ order = 0) :
    topFrom blocks order = binaryBlocks blocks := by
  ext piece
  refine ⟨fun member => member.1, fun member => ⟨member, ?_⟩⟩
  by_contra lower
  have digit := member.1
  rw [digit_eq, ← Nat.mod_mod_of_dvd blocks (Nat.pow_dvd_pow 2 (Nat.not_le.mp lower)), whole,
    Nat.zero_mod, Nat.zero_div] at digit
  contradiction

theorem initSlots_represents {rounds order offset : Nat} {left : U32} {bank : MemoryBank}
    (state : PartlyInitialised bank left offset order) (enough : bank.blocks < offset + rounds) :
    ∃ bank', initSlots rounds left offset bank = some bank' ∧ bank'.blocks = bank.blocks ∧
      bank'.maxOrder = bank.maxOrder ∧
      Represents bank' (binaryBlocks bank.blocks) (binaryBlocks bank.blocks) ∅ ∅ := by
  induction rounds generalizing order offset left bank with
  | zero =>
    have split := state.offset_eq
    omega
  | succ rounds ih =>
    rw [initSlots]
    split
    · rename_i more
      obtain ⟨next, _, fits, units, rest⟩ := state.round more
      have advances := Nat.two_pow_pos next
      simp only [fits, state.shown.minOrder_eq, Nat.add_sub_cancel]
      exact ih rest (by change bank.blocks < _; omega)
    · rename_i done
      have split := state.offset_eq
      have whole : bank.blocks % 2 ^ order = 0 := by omega
      have shown := state.shown
      rw [topFrom_eq_of_mod_eq_zero whole] at shown
      exact ⟨bank, rfl, rfl, rfl, shown⟩

theorem usableSize_toNat (size : U32) :
    (size &&& ~~~(minBlockSize - 1)).toNat = size.toNat / 2 ^ 20 * 2 ^ 20 := by
  have shifted : size &&& ~~~(minBlockSize - 1) = (size >>> 20) <<< 20 := by
    apply BitVec.eq_of_getLsbD_eq
    intro bit small
    have mask : (minBlockSize - 1).getLsbD bit = decide (bit < 20) := by
      rw [show minBlockSize - 1 = BitVec.ofNat 32 (2 ^ 20 - 1) from rfl, BitVec.getLsbD_ofNat,
        Nat.testBit_two_pow_sub_one]
      simp [small]
    rw [BitVec.getLsbD_and, BitVec.getLsbD_not, mask, BitVec.getLsbD_shiftLeft]
    by_cases low : bit < 20
    · simp [low]
    · simp [low, small, Nat.add_sub_cancel' (Nat.not_lt.mp low)]
  rw [shifted, BitVec.toNat_shiftLeft, BitVec.toNat_ushiftRight, Nat.shiftRight_eq_div_pow,
    Nat.shiftLeft_eq, Nat.mod_eq_of_lt (by omega)]

variable {size : U32}

theorem bankRegister_accepted (accepted : bankRegister resources size = some (.ok, some bank)) :
    ∃ usableSize maxOrder blocks beyond, usableSize.toNat = size.toNat / 2 ^ 20 * 2 ^ 20 ∧
      blocks = size.toNat / 2 ^ 20 ∧ 0 < blocks ∧ maximumOrderWhichFits usableSize = some maxOrder ∧
      initSlots (blocks + 1) usableSize 0 (blankBank maxOrder blocks beyond) = some bank := by
  have usable := usableSize_toNat size
  simp only [bankRegister] at accepted
  generalize size &&& ~~~(minBlockSize - 1) = usableSize at accepted usable
  have blocks : (usableSize / minBlockSize).toNat = size.toNat / 2 ^ 20 := by
    rw [BitVec.toNat_udiv, usable, show minBlockSize.toNat = 2 ^ 20 from rfl, Nat.mul_div_cancel _ (by decide)]
  split at accepted
  · simp at accepted
  · rename_i nonzero
    have positive : usableSize.toNat ≠ 0 := fun zero => nonzero (BitVec.eq_of_toNat_eq zero)
    split at accepted
    · simp at accepted
    · split at accepted
      · simp at accepted
      · split at accepted
        · contradiction
        · rename_i maxOrder fits
          split at accepted
          · simp at accepted
          · split at accepted
            · simp at accepted
            · split at accepted
              · simp at accepted
              · rename_i beyond _ _
                obtain ⟨bank', run, isBank⟩ := Option.map_eq_some_iff.mp accepted
                obtain rfl : bank' = bank := by simpa using isBank
                exact ⟨usableSize, maxOrder, _, beyond, usable, blocks, by omega, fits, run⟩

theorem blankBank_partlyInitialised {maxOrder blocks : Nat} {beyond : Nat → U32} {usableSize : U32}
    (small : blocks ≤ 2 ^ 11) (usable : usableSize.toNat = blocks * 2 ^ 20) :
    PartlyInitialised (blankBank maxOrder blocks beyond) usableSize 0 12 := by
  have whole : blocks % 2 ^ 12 = blocks := Nat.mod_eq_of_lt (by omega)
  have blank : ∀ block < blocks, (blankBank maxOrder blocks beyond).blocklist block = 0#32 :=
    fun block inside => if_pos inside
  have none : topFrom blocks 12 = ∅ := by
    ext piece
    refine ⟨?_, fun impossible => absurd impossible (Set.notMem_empty _)⟩
    rintro ⟨member, above⟩
    have digit := member.1
    have larger := Nat.pow_le_pow_right (n := 2) (by decide) above
    rw [Nat.div_eq_of_lt (by omega)] at digit
    contradiction
  constructor
  · change Represents _ (topFrom blocks 12) (topFrom blocks 12) ∅ ∅
    rw [none]
    constructor
    · exact minOrder_eq
    · exact fun _ => List.nodup_nil
    · simp [blankBank]
    · simp
    · intro block inside _ marked
      rw [blank block inside] at marked
      exact absurd rfl marked
    · simp
    · simp
    · intro block inside _
      rw [blank block inside]
      rfl
  · exact small
  · change usableSize.toNat = blocks % 2 ^ 12 * 2 ^ 20
    rw [whole, usable]
  · change 0 + blocks % 2 ^ 12 = blocks
    rw [whole, Nat.zero_add]
  · exact fun block inside _ => blank block inside

theorem bankRegister_steady (accepted : bankRegister resources size = some (.ok, some bank)) :
    Steady bank (binaryBlocks bank.blocks) ∅ := by
  obtain ⟨usableSize, maxOrder, blocks, beyond, usable, blocksEq, positive, fits, run⟩ :=
    bankRegister_accepted accepted
  rw [← blocksEq] at usable
  have bounded := size_le_of_maximumOrderWhichFits fits
  have largest : maxOrder = 20 + blocks.log2 := by
    have exact := maximumOrderWhichFits_eq (by omega) bounded
    rw [fits, usable, log2_mul_two_pow 20 (by omega), Nat.add_comm] at exact
    exact Option.some.inj exact
  have start := @blankBank_partlyInitialised maxOrder blocks beyond usableSize (by omega) usable
  obtain ⟨initialised, sameRun, sameBlocks, sameMaxOrder, shown⟩ :=
    @initSlots_represents (blocks + 1) _ _ _ _ start
      (by change blocks < 0 + (blocks + 1); omega)
  obtain rfl : initialised = bank := by
    rw [run] at sameRun
    exact (Option.some.inj sameRun).symm
  change initialised.blocks = blocks at sameBlocks
  change initialised.maxOrder = maxOrder at sameMaxOrder
  rw [← sameBlocks] at shown
  exact ⟨⟨by omega, by omega, by rw [sameMaxOrder, largest, sameBlocks]⟩, shown, .start (binaryBlocks_topLevel _)⟩

end Floid.Buddy
