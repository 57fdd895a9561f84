import Floid.Ump.Memory

namespace Floid.Ump

open Osk

inductive MsyncOp where
  | clean
  | cleanAndInvalidate
  | readoutCacheEnabled
  | unknown
  deriving DecidableEq, Repr

/-- `_ump_uk_msync_s`. -/
structure MsyncArgs where
  mapping : U32
  address : U32
  size : U32
  op : MsyncOp
  secureId : U32

structure AddressRange where
  first : U32
  last : U32
  deriving DecidableEq, Repr

structure CacheFlush where
  inner : Option AddressRange
  outer : List AddressRange
  deriving DecidableEq, Repr

def CacheFlush.nothing : CacheFlush := ⟨none, []⟩

def msyncBlocks : List PhysicalBlock → U32 → U32 → List AddressRange
  | [], _, _ => []
  | block :: rest, offset, size =>
      if block.size ≤ offset then msyncBlocks rest (offset - block.size) size
      else
        let startP := if offset ≠ 0 then block.addr + offset else block.addr
        if size < block.size - offset then [⟨startP, startP + size - 1⟩]
        else
          let endP :=
            if offset ≠ 0 then startP + (block.size - offset - 1) else startP + block.size - 1
          let size := if offset ≠ 0 then size - (block.size - offset) else size - block.size
          ⟨startP, endP⟩ :: if size = 0 then [] else msyncBlocks rest 0 size

def oskMsync (accessOk : U32 → U32 → Bool) (mem : DdMem) (virt offset size : U32) (op : MsyncOp) : CacheFlush :=
  if accessOk virt size then
    ⟨some ⟨virt, virt + size - 1⟩,
      if op = .clean ∨ op = .cleanAndInvalidate then msyncBlocks mem.blocks offset size else []⟩
  else .nothing

namespace MsyncArgs

variable (args : MsyncArgs)

/-- `virtual`. -/
def virt : U32 := if args.address ≠ 0 then args.address else args.mapping

def offset : U32 := if args.address ≠ 0 then args.address - args.mapping else 0

/-- `size`, for an object. -/
def sizeOf (mem : DdMem) : U32 := if args.size ≠ 0 then args.size else mem.sizeBytes - args.offset

end MsyncArgs

/-- What `_ump_ukk_msync` flushes of an object. -/
def msyncFlush (accessOk : U32 → U32 → Bool) (args : MsyncArgs) (mem : DdMem) : CacheFlush :=
  if args.op = .readoutCacheEnabled then .nothing
  else if !mem.isCached then .nothing
  else if mem.sizeBytes < args.offset + args.sizeOf mem then .nothing
  else oskMsync accessOk mem args.virt args.offset (args.sizeOf mem) args.op

/-- `_ump_ukk_msync`, with what it answers about the cache if there is such memory, and what it
flushes. -/
def ukkMsyncFlush (accessOk : U32 → U32 → Bool) (args : MsyncArgs) (device : Device) :
    Option (Device × Option Bool × CacheFlush) :=
  match (device.secureIdMap.get args.secureId).join with
  | none => some (device, none, .nothing)
  | some mem => do
      let referenced ← device.referenceAdd mem
      let object ← referenced.mems mem
      let released ← referenced.referenceRelease mem
      return (released, some object.isCached, msyncFlush accessOk args object)

def PhysicalBlock.bytes (block : PhysicalBlock) : List Nat :=
  List.range' block.addr.toNat block.size.toNat

def DdMem.bytes (mem : DdMem) : List Nat := mem.blocks.flatMap PhysicalBlock.bytes

def AddressRange.bytes (range : AddressRange) : List Nat :=
  List.range' range.first.toNat (range.last.toNat + 1 - range.first.toNat)

def CacheFlush.bytes (flush : CacheFlush) : List Nat := flush.outer.flatMap AddressRange.bytes

structure DdMem.LaidOut (mem : DdMem) : Prop where
  total : (mem.blocks.map fun block => block.size.toNat).sum = mem.sizeBytes.toNat
  below : ∀ block ∈ mem.blocks, block.addr.toNat + block.size.toNat ≤ 2 ^ 32

structure MsyncArgs.Flushes (accessOk : U32 → U32 → Bool) (args : MsyncArgs) (mem : DdMem) : Prop where
  op : args.op = .clean ∨ args.op = .cleanAndInvalidate
  cached : mem.isCached = true
  within : args.offset + args.sizeOf mem ≤ mem.sizeBytes
  mapped : accessOk args.virt (args.sizeOf mem) = true

def FlushedExactly (mem : DdMem) (offset size : U32) (flush : CacheFlush) : Prop :=
  flush.bytes = mem.bytes ∨ flush.bytes = (mem.bytes.drop offset.toNat).take size.toNat

theorem DdMem.bytes_length (mem : DdMem) :
    mem.bytes.length = (mem.blocks.map fun block => block.size.toNat).sum := by
  simp [bytes, PhysicalBlock.bytes, List.length_flatMap]

variable {first second : U32}

theorem toNat_add_of_fits (fits : first.toNat + second.toNat < 2 ^ 32) :
    (first + second).toNat = first.toNat + second.toNat := BitVec.toNat_add_of_lt fits

theorem toNat_sub_of_le (less : second.toNat ≤ first.toNat) : (first - second).toNat = first.toNat - second.toNat :=
  BitVec.toNat_sub_of_le (BitVec.le_def.mpr less)

variable {count : U32}

theorem last_toNat (positive : 0 < count.toNat) (fits : first.toNat + count.toNat ≤ 2 ^ 32) :
    (first + count - 1).toNat = first.toNat + count.toNat - 1 := by
  have one : (count - 1).toNat = count.toNat - 1 := toNat_sub_of_le positive
  have moved : first + count - 1 = first + (count - 1) := by grind
  rw [moved, toNat_add_of_fits (by omega), one]
  omega

theorem range_bytes (positive : 0 < count.toNat) (fits : first.toNat + count.toNat ≤ 2 ^ 32) :
    AddressRange.bytes ⟨first, first + count - 1⟩ = List.range' first.toNat count.toNat := by
  have numbered : first.toNat + count.toNat - 1 + 1 - first.toNat = count.toNat := by omega
  rw [AddressRange.bytes, last_toNat positive fits, numbered]

theorem msyncBlocks_bytes {blocks : List PhysicalBlock} {offset size : U32}
    (below : ∀ block ∈ blocks, block.addr.toNat + block.size.toNat ≤ 2 ^ 32)
    (nonempty : offset.toNat < (blocks.map fun block => block.size.toNat).sum → size ≠ 0) :
    (msyncBlocks blocks offset size).flatMap AddressRange.bytes =
      ((blocks.flatMap PhysicalBlock.bytes).drop offset.toNat).take size.toNat := by
  induction blocks generalizing offset size with
  | nil => simp [msyncBlocks]
  | cons block rest ih =>
    have fits := below block List.mem_cons_self
    have others : ∀ other ∈ rest, other.addr.toNat + other.size.toNat ≤ 2 ^ 32 :=
      fun other member => below other (List.mem_cons_of_mem _ member)
    have length : block.bytes.length = block.size.toNat := List.length_range'
    rw [List.map_cons, List.sum_cons] at nonempty
    rw [msyncBlocks, List.flatMap_cons, List.drop_append, length]
    by_cases skipped : block.size ≤ offset
    · have less : block.size.toNat ≤ offset.toNat := BitVec.le_def.mp skipped
      rw [if_pos skipped, List.drop_of_length_le (by omega), List.nil_append]
      rw [ih others (by rw [toNat_sub_of_le less]; exact fun inside => nonempty (by omega)), toNat_sub_of_le less]
    · have inside : offset.toNat < block.size.toNat := BitVec.lt_def.mp (BitVec.not_le.mp skipped)
      have start : (if offset ≠ 0 then block.addr + offset else block.addr) = block.addr + offset := by
        by_cases zero : offset = 0
        · rw [if_neg fun nonzero => nonzero zero, zero]
          exact (BitVec.add_zero _).symm
        · rw [if_pos zero]
      have room : (block.size - offset).toNat = block.size.toNat - offset.toNat :=
        toNat_sub_of_le (Nat.le_of_lt inside)
      have first : (block.addr + offset).toNat = block.addr.toNat + offset.toNat :=
        toNat_add_of_fits (by omega)
      have bytes : block.bytes.drop offset.toNat =
          List.range' (block.addr + offset).toNat (block.size - offset).toNat := by
        rw [PhysicalBlock.bytes, List.drop_range', Nat.mul_one, first, room]
      have nonzero := nonempty (by omega)
      have positive : 0 < size.toNat := Nat.pos_of_ne_zero fun zero =>
        nonzero (BitVec.eq_of_toNat_eq zero)
      rw [if_neg skipped, start, bytes, Nat.sub_eq_zero_of_le (Nat.le_of_lt inside), List.drop_zero]
      by_cases few : size < block.size - offset
      · have less : size.toNat < (block.size - offset).toNat := BitVec.lt_def.mp few
        rw [if_pos few, List.flatMap_singleton, range_bytes positive (by omega),
          List.take_append_of_le_length (by rw [List.length_range']; omega),
          List.take_range'_of_length_ge (by omega)]
      · have most : (block.size - offset).toNat ≤ size.toNat :=
          BitVec.le_def.mp (BitVec.not_lt.mp few)
        have ended : (if offset ≠ 0 then block.addr + offset + (block.size - offset - 1)
            else block.addr + offset + block.size - 1) =
            block.addr + offset + (block.size - offset) - 1 := by
          by_cases zero : offset = 0
          · rw [if_neg fun nonzero => nonzero zero, zero]
            simp
          · rw [if_pos zero]
            grind
        have left : (if offset ≠ 0 then size - (block.size - offset) else size - block.size) =
            size - (block.size - offset) := by
          by_cases zero : offset = 0
          · rw [if_neg fun nonzero => nonzero zero, zero]
            simp
          · rw [if_pos zero]
        have sizeLeft := toNat_sub_of_le most
        rw [if_neg few]
        dsimp only
        rw [ended, left, List.flatMap_cons, range_bytes (by omega) (by omega), List.take_append,
          List.take_of_length_le (by rw [List.length_range']; exact most), List.length_range',
          ← sizeLeft]
        congr 1
        by_cases whole : size - (block.size - offset) = 0
        · rw [if_pos whole, whole]
          rfl
        · rw [if_neg whole, ih others fun _ => whole]
          rfl

variable {accessOk : U32 → U32 → Bool} {args : MsyncArgs} {mem : DdMem} {device after : Device}
  {cached : Option Bool} {flush : CacheFlush}

theorem msyncFlush_bytes (laid : mem.LaidOut) (flushes : args.Flushes accessOk mem) :
    (msyncFlush accessOk args mem).bytes = (mem.bytes.drop args.offset.toNat).take (args.sizeOf mem).toNat := by
  have notReadout : args.op ≠ .readoutCacheEnabled := by
    rcases flushes.op with op | op <;> rw [op] <;> decide
  have outer : (msyncFlush accessOk args mem).outer = msyncBlocks mem.blocks args.offset (args.sizeOf mem) := by
    rw [msyncFlush, if_neg notReadout, flushes.cached, if_neg (by decide),
      if_neg (BitVec.not_lt.mpr flushes.within), oskMsync, if_pos flushes.mapped, if_pos flushes.op]
  rw [CacheFlush.bytes, outer]
  refine msyncBlocks_bytes laid.below fun inside => ?_
  rw [laid.total] at inside
  rw [MsyncArgs.sizeOf]
  by_cases given : args.size = 0
  · rw [if_neg fun nonzero => nonzero given]
    intro zero
    have less := toNat_sub_of_le (Nat.le_of_lt inside)
    rw [zero, show (0 : U32).toNat = 0 from rfl] at less
    omega
  · rw [if_pos given]
    exact given

theorem msyncFlush_outer (kept : ¬args.Flushes accessOk mem) : (msyncFlush accessOk args mem).outer = [] := by
  rw [msyncFlush]
  by_cases readout : args.op = .readoutCacheEnabled
  · rw [if_pos readout]
    rfl
  rw [if_neg readout]
  by_cases cached : mem.isCached = true
  · rw [cached, if_neg (by decide)]
    by_cases beyond : mem.sizeBytes < args.offset + args.sizeOf mem
    · rw [if_pos beyond]
      rfl
    rw [if_neg beyond, oskMsync]
    by_cases mapped : accessOk args.virt (args.sizeOf mem) = true
    · have other : ¬(args.op = .clean ∨ args.op = .cleanAndInvalidate) := fun op =>
        kept ⟨op, cached, BitVec.not_lt.mp beyond, mapped⟩
      rw [if_pos mapped, if_neg other]
    · rw [if_neg mapped]
      rfl
  · rw [eq_false_of_ne_true cached, if_pos (by decide)]
    rfl

theorem ukkMsyncFlush_some (ran : ukkMsyncFlush accessOk args device = some (after, cached, flush)) :
    match (device.secureIdMap.get args.secureId).join.bind device.mems with
    | none => flush = .nothing
    | some object => flush = msyncFlush accessOk args object := by
  rw [ukkMsyncFlush] at ran
  cases found : (device.secureIdMap.get args.secureId).join with
  | none =>
    rw [found] at ran
    cases ran
    rfl
  | some mem =>
    rw [found] at ran
    obtain ⟨referenced, added, ran⟩ := Option.bind_eq_some_iff.mp ran
    obtain ⟨object, is, ran⟩ := Option.bind_eq_some_iff.mp ran
    obtain ⟨released, _, ran⟩ := Option.bind_eq_some_iff.mp ran
    cases ran
    obtain ⟨before, isBefore, rfl⟩ := Option.map_eq_some_iff.mp added
    rw [Device.setMem] at is
    dsimp only at is
    rw [Function.update_self, Option.some.injEq] at is
    rw [Option.bind_some, isBefore, ← is]
    rfl

/-- The physical ranges that are flushed are the bytes of the object from the offset on, as many as
the size says and there are, and all of them where neither address nor size is given; nothing is
flushed for a readout, of memory that is not cached, where offset and size together are more than
the object has, or where the user cannot write. -/
theorem msync_exact (laid : ∀ mem object, device.mems mem = some object → object.LaidOut)
    (ran : ukkMsyncFlush accessOk args device = some (after, cached, flush)) :
    (∀ object, (device.secureIdMap.get args.secureId).join.bind device.mems = some object →
      args.Flushes accessOk object →
        flush.bytes = (object.bytes.drop args.offset.toNat).take (args.sizeOf object).toNat ∧
        (args.address = 0 → args.size = 0 → flush.bytes = object.bytes) ∧
        ∀ address ∈ flush.bytes, ∃ block ∈ object.blocks, address ∈ block.bytes) ∧
      ((∀ object, (device.secureIdMap.get args.secureId).join.bind device.mems = some object →
        ¬args.Flushes accessOk object) → flush.bytes = []) := by
  have result := ukkMsyncFlush_some ran
  constructor
  · intro object found flushes
    rw [found] at result
    obtain ⟨mem, _, is⟩ := Option.bind_eq_some_iff.mp found
    have laidOut := laid mem object is
    have bytes := msyncFlush_bytes laidOut flushes
    dsimp only at result
    rw [← result] at bytes
    refine ⟨bytes, fun noAddress noSize => ?_, fun address member => ?_⟩
    · have offset : args.offset = 0 := by
        rw [MsyncArgs.offset, if_neg fun nonzero => nonzero noAddress]
      have size : args.sizeOf object = object.sizeBytes := by
        rw [MsyncArgs.sizeOf, if_neg fun nonzero => nonzero noSize, offset]
        exact BitVec.sub_zero _
      rw [bytes, offset, size]
      exact List.take_of_length_le (by rw [← laidOut.total, ← DdMem.bytes_length]; exact Nat.le_refl _)
    · rw [bytes] at member
      exact List.mem_flatMap.mp (List.mem_of_mem_drop (List.mem_of_mem_take member))
  · intro kept
    cases found : (device.secureIdMap.get args.secureId).join.bind device.mems with
    | none =>
      rw [found] at result
      rw [result]
      rfl
    | some object =>
      rw [found] at result
      dsimp only at result
      rw [result, CacheFlush.bytes, msyncFlush_outer (kept object found)]
      rfl

def twoBlocks : DdMem where
  secureId := 1#32
  refCount := 1
  sizeBytes := 0x3000#32
  blocks := [⟨0x80004000#32, 0x1000#32⟩, ⟨0x80000000#32, 0x2000#32⟩]
  isCached := true
  releaseFunc := .backend

def twoBlocksDevice : Device where
  secureIdMap := (DescriptorMapping.create 128 4096).occupy 1 0
  mems mem := if mem = 0 then some twoBlocks else none
  nextMem := 1
  released := []

def acrossBlocks : MsyncArgs where
  mapping := 0x40000000#32
  address := 0x40000ff0#32
  size := 0x20#32
  op := .cleanAndInvalidate
  secureId := 1#32

theorem msync_exact_acrossBlocks : ∃ after flush, ukkMsyncFlush (fun _ _ => true) acrossBlocks twoBlocksDevice =
        some (after, some true, flush) ∧
      flush.bytes = (twoBlocks.bytes.drop 0xff0).take 0x20 := by
  have laid : ∀ mem object, twoBlocksDevice.mems mem = some object → object.LaidOut := by
    intro mem object found
    obtain rfl : object = twoBlocks := by
      rw [twoBlocksDevice] at found
      dsimp only at found
      split at found
      · exact (Option.some.inj found).symm
      · cases found
    exact ⟨by decide, by decide⟩
  obtain ⟨after, flush, ran⟩ : ∃ after flush, ukkMsyncFlush (fun _ _ => true) acrossBlocks
      twoBlocksDevice = some (after, some true, flush) := ⟨_, _, rfl⟩
  have flushes : acrossBlocks.Flushes (fun _ _ => true) twoBlocks :=
    ⟨.inr rfl, rfl, by decide, rfl⟩
  exact ⟨after, flush, ran, ((msync_exact laid ran).1 twoBlocks rfl flushes).1⟩

/-- A range that ends behind the object is not flushed, neither as far as the object goes nor with
the whole of it. -/
theorem msync_not_exact :
    let args := { acrossBlocks with address := 0x40002000#32, size := 0x1001#32 }
    ¬FlushedExactly twoBlocks args.offset (args.sizeOf twoBlocks)
      (msyncFlush (fun _ _ => true) args twoBlocks) := by
  intro args
  have kept : ¬args.Flushes (fun _ _ => true) twoBlocks := fun flushes =>
    absurd flushes.within (by decide)
  have nothing : (msyncFlush (fun _ _ => true) args twoBlocks).bytes.length = 0 := by
    rw [CacheFlush.bytes, msyncFlush_outer kept]
    rfl
  have size : twoBlocks.bytes.length = 0x3000 :=
    twoBlocks.bytes_length.trans (by decide)
  rintro (whole | part)
  · rw [whole, size] at nothing
    cases nothing
  · rw [part, List.length_take, List.length_drop, size] at nothing
    exact absurd nothing (by decide)

end Floid.Ump
