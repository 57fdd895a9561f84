import Floid.Core.SystemInfo

namespace Floid.Core

open Osk Lib
open BitVec (ofNat ofNat_add toNat_add toNat_ofNat)

variable {Info : Type} {words : Info → List U32} {base : U32} {count : Nat}

def pointerTo (base : U32) : List (U32 × Info) → Nat → U32
  | [], _ => 0
  | _ :: _, position => base + ofNat 32 (4 * position)

def copiedWords (words : Info → List U32) (base : U32) : List (U32 × Info) → Nat → List U32
  | [], _ => []
  | (_, info) :: rest, position =>
      (words info ++ [pointerTo base rest (position + (words info).length + 1)]) ++
        copiedWords words base rest (position + (words info).length + 1)

theorem copiedWords_length (width : ∀ info, (words info).length = count) (base : U32)
    (entries : List (U32 × Info)) (position : Nat) :
    (copiedWords words base entries position).length = (count + 1) * entries.length := by
  induction entries generalizing position with
  | nil => simp [copiedWords]
  | cons entry entries ih =>
    rw [copiedWords, List.length_append, List.length_append, List.length_singleton, width, ih,
      List.length_cons, Nat.mul_succ, Nat.add_comm]

theorem writeInfos_copied {entries : List (U32 × Info)} {patchPos writePos : Nat}
    {buffer : List U32} (before : patchPos < writePos)
    (room : writePos + (copiedWords words base entries writePos).length ≤ buffer.length)
    (head : buffer[patchPos]? = some (headAddress entries)) :
    ∃ after, writeInfos words base entries patchPos writePos buffer =
        some (writePos + (copiedWords words base entries writePos).length, after) ∧
      after.length = buffer.length ∧
      segment after writePos (copiedWords words base entries writePos).length =
        some (copiedWords words base entries writePos) ∧
      after[patchPos]? = some (pointerTo base entries writePos) ∧
      ∀ index < writePos, index ≠ patchPos → after[index]? = buffer[index]? := by
  induction entries generalizing patchPos writePos buffer with
  | nil =>
    refine ⟨buffer, rfl, rfl, ?_, head, fun _ _ _ => rfl⟩
    rw [copiedWords, List.length_nil] at room ⊢
    rw [segment_of_le room, List.take_zero]
  | cons entry rest ih =>
    obtain ⟨address, info⟩ := entry
    have size : (copiedWords words base ((address, info) :: rest) writePos).length =
        (words info).length + 1 +
          (copiedWords words base rest (writePos + (words info).length + 1)).length := by
      rw [copiedWords, List.length_append, List.length_append, List.length_singleton]
    rw [size] at room ⊢
    obtain ⟨patched, patch⟩ := @overwrite_exists _ buffer
      [base + ofNat 32 (4 * writePos)] patchPos (by simp; omega)
    have patchedLength := overwrite_length patch
    obtain ⟨copied, copy⟩ := @overwrite_exists _ patched (words info ++ [headAddress rest])
      writePos (by simp; omega)
    have copiedLength := overwrite_length copy
    have link : copied[writePos + (words info).length]? = some (headAddress rest) := by
      rw [getElem?_overwrite copy, if_pos (by simp), Nat.add_sub_cancel_left, List.getElem?_concat_length]
    obtain ⟨after, run, length, laid, patchedLink, kept⟩ :=
      ih (show writePos + (words info).length < writePos + (words info).length + 1 by omega)
        (by omega) link
    have own : segment after writePos (words info).length = some (words info) := by
      refine segment_eq_some_iff.mpr ⟨by omega, rfl, fun index small => ?_⟩
      rw [kept _ (by omega) (by omega), getElem?_overwrite copy, if_pos (by simp; omega),
        Nat.add_sub_cancel_left, List.getElem?_append_left small]
    have ownLink : segment after (writePos + (words info).length) 1 =
        some [pointerTo base rest (writePos + (words info).length + 1)] := by
      refine segment_eq_some_iff.mpr ⟨by omega, rfl, fun index small => ?_⟩
      obtain rfl : index = 0 := by omega
      exact patchedLink.symm
    refine ⟨after, ?_, by omega, ?_, ?_, ?_⟩
    · simp only [writeInfos, patch, copy, Option.bind_some, run]
      congr 2
      omega
    · have record := segment_append own ownLink
      exact segment_append record (by rwa [← Nat.add_assoc])
    · rw [kept _ (by omega) (by omega), getElem?_overwrite copy, if_neg (by omega),
        getElem?_overwrite patch, if_pos (by simp), Nat.sub_self]
      rfl
    · intro index small different
      rw [kept _ (by omega) (by omega), getElem?_overwrite copy, if_neg (by omega),
        getElem?_overwrite patch, if_neg (by simp; omega)]

theorem follows_link_iff {buffer : List U32} {pointer : U32} {record : List U32} {rest : List (List U32)} :
    Follows base buffer count pointer (record :: rest) ↔
      pointer ≠ 0 ∧ (pointer - base).toNat % 4 = 0 ∧
        ∃ next, segment buffer ((pointer - base).toNat / 4) (count + 1) = some (record ++ [next]) ∧
          Follows base buffer count next rest := by
  constructor
  · intro follows
    cases follows with
    | link notNull aligned read tail => exact ⟨notNull, aligned, _, read, tail⟩
  · rintro ⟨notNull, aligned, next, read, tail⟩
    exact .link notNull aligned read tail

theorem follows_copied_iff {entries : List (U32 × Info)} {position : Nat} {buffer : List U32}
    (width : ∀ info, (words info).length = count)
    (small : 4 * (position + (copiedWords words base entries position).length) < 2 ^ 32)
    (laid : segment buffer position (copiedWords words base entries position).length =
      some (copiedWords words base entries position)) :
    Follows base buffer count (pointerTo base entries position)
        (entries.map fun entry => words entry.2) ↔
      ∀ i < entries.length, base + ofNat 32 (4 * position + 4 * (count + 1) * i) ≠ 0 := by
  induction entries generalizing position with
  | nil => exact iff_of_true .null (by simp)
  | cons entry rest ih =>
    obtain ⟨address, info⟩ := entry
    have size := copiedWords_length width base ((address, info) :: rest) position
    have offset : (base + ofNat 32 (4 * position) - base).toNat = 4 * position := by
      rw [BitVec.add_comm, BitVec.add_sub_cancel, toNat_ofNat, Nat.mod_eq_of_lt (by omega)]
    obtain ⟨record, tail⟩ := segment_split laid
    rw [List.length_append, List.length_singleton, width] at record tail
    have small' :
        4 * (position + count + 1 + (copiedWords words base rest (position + count + 1)).length) < 2 ^ 32 := by
      simp only [copiedWords, List.length_append, List.length_singleton, width] at small
      omega
    have further := ih small' tail
    rw [List.map_cons, pointerTo, follows_link_iff, offset, Nat.mul_mod_right,
      Nat.mul_div_cancel_left _ (by decide), record]
    have addresses (i : Nat) : 4 * (position + count + 1) + 4 * (count + 1) * i =
        4 * position + 4 * (count + 1) * (i + 1) := by
      rw [Nat.mul_succ (4 * (count + 1)) i]
      omega
    constructor
    · rintro ⟨notNull, -, link, read, follows⟩ i inside
      have same := List.append_cancel_left (Option.some.inj read)
      rw [List.singleton_inj] at same
      cases i with
      | zero => simpa using notNull
      | succ i =>
        rw [← addresses]
        exact further.mp (same ▸ follows) i (by simpa using inside)
    · intro notNull
      refine ⟨by simpa using notNull 0 (by simp), rfl, _, rfl, ?_⟩
      refine further.mpr fun i inside => ?_
      rw [addresses]
      exact notNull (i + 1) (by simpa using inside)

theorem foldl_size {Item : Type} (items : List Item) (size : Nat) (start : U32) :
    items.foldl (fun newSize _ => newSize + ofNat 32 size) start =
      start + ofNat 32 (size * items.length) := by
  induction items generalizing start with
  | nil => simp
  | cons item items ih =>
    rw [List.foldl_cons, ih, BitVec.add_assoc, ← ofNat_add, List.length_cons, Nat.mul_succ, Nat.add_comm size]

namespace KernelSystemInfo

variable (kernel : KernelSystemInfo)

theorem total_lt : sizeofSystemInfo + sizeofCoreInfo * kernel.info.coreInfo.length +
    sizeofMemInfo * kernel.info.memInfo.length < 2 ^ 32 := by
  have together := MemoryBlock.sum_le kernel.apart 1 (2 ^ 32)
    fun block member => kernel.inMemory block member
  have sum : ((kernel.info.blocks kernel.address).map Prod.snd).sum =
      sizeofSystemInfo + (sizeofCoreInfo * kernel.info.coreInfo.length +
        sizeofMemInfo * kernel.info.memInfo.length) := by
    rw [SystemInfo.blocks, List.map_cons, List.sum_cons, List.map_append, List.sum_append, List.map_map, List.map_map]
    have constant (Item : Type) (items : List Item) (size : Nat) :
        (items.map fun _ => size).sum = size * items.length := by
      rw [List.map_const', List.sum_replicate_nat, Nat.mul_comm]
    exact congrArg (sizeofSystemInfo + ·) (congrArg₂ (· + ·) (constant ..) (constant ..))
  omega

theorem newSize_toNat : kernel.info.newSize.toNat = sizeofSystemInfo + sizeofCoreInfo * kernel.info.coreInfo.length +
      sizeofMemInfo * kernel.info.memInfo.length := by
  have total := kernel.total_lt
  rw [SystemInfo.newSize, foldl_size, foldl_size, ← ofNat_add, ← ofNat_add, toNat_ofNat, Nat.mod_eq_of_lt total]

end KernelSystemInfo

/-- With a buffer of the reported size nothing is written outside of it, and a reader at
the user's base finds the lists of the kernel, as long as no element is at address zero. -/
theorem getSystemInfo_serialised_iff (kernel : KernelSystemInfo) (args : GetSystemInfoArgs)
    (buffer : List U32) (ctx : args.ctx = true) (given : args.systemInfo ≠ 0)
    (size : args.size = kernel.info.newSize) (length : 4 * buffer.length = args.size.toNat) :
    ∃ after, getSystemInfo kernel.info kernel.info.newSize args buffer = some (.ok, after) ∧
      after.length = buffer.length ∧
      (Serialised kernel.info args.adjustPtrBase after ↔ NoneAtNull kernel.info args.adjustPtrBase) := by
  have total := kernel.total_lt
  rw [size, kernel.newSize_toNat] at length
  simp only [sizeofSystemInfo, sizeofCoreInfo, sizeofMemInfo] at total length
  have coreWidth (core : CoreInfo) : core.words.length = 5 := rfl
  have memWidth (mem : MemInfo) : mem.words.length = 4 := rfl
  generalize isBase : args.adjustPtrBase = base
  have coreLength := copiedWords_length coreWidth base kernel.info.coreInfo 4
  have memLength (position : Nat) :=
    copiedWords_length memWidth base kernel.info.memInfo position
  obtain ⟨master, masterCopy⟩ := @overwrite_exists _ buffer kernel.info.words 0
    (by simp [SystemInfo.words]; omega)
  have masterLength := overwrite_length masterCopy
  have masterWord (index : Nat) (small : index < 4) : master[index]? = kernel.info.words[index]? := by
    rw [getElem?_overwrite masterCopy, if_pos (by simp [SystemInfo.words]; omega), Nat.sub_zero]
  obtain ⟨cores, coresRun, coresLength, coresLaid, coresPointer, coresKept⟩ :=
    @writeInfos_copied CoreInfo CoreInfo.words base kernel.info.coreInfo 0 4 master (by decide)
      (by omega) (masterWord 0 (by decide))
  rw [coreLength] at coresRun coresLaid
  obtain ⟨mems, memsRun, memsLength, memsLaid, memsPointer, memsKept⟩ :=
    @writeInfos_copied MemInfo MemInfo.words base kernel.info.memInfo 1
      (4 + (5 + 1) * kernel.info.coreInfo.length) cores (by omega)
      (by rw [memLength]; omega)
      (by rw [coresKept 1 (by decide) (by decide)]; exact masterWord 1 (by decide))
  refine ⟨mems, ?_, by omega, ?_⟩
  · have allowed : ¬ args.size < kernel.info.newSize := by
      rw [size]
      exact BitVec.lt_irrefl _
    rw [getSystemInfo, if_neg (by simp [ctx]), if_neg given, if_neg allowed, masterCopy,
      Option.bind_some, isBase, coresRun]
    simp only [Option.bind_some, memsRun, Option.map_some]
  · have coresStay : segment mems 4 ((5 + 1) * kernel.info.coreInfo.length) =
        some (copiedWords CoreInfo.words base kernel.info.coreInfo 4) := by
      rw [← coresLaid]
      exact segment_congr memsLength fun index first last => memsKept _ (by omega) (by omega)
    have corePointer : mems[0]? = some (pointerTo base kernel.info.coreInfo 4) := by
      rw [memsKept 0 (by omega) (by decide), coresPointer]
    have word (index : Nat) (first : 2 ≤ index) (small : index < 4) :
        mems[index]? = kernel.info.words[index]? := by
      rw [memsKept _ (by omega) (by omega), coresKept _ small (by omega), masterWord _ small]
    have coreFollows := @follows_copied_iff CoreInfo CoreInfo.words base 5 kernel.info.coreInfo 4
      mems coreWidth (by omega) (by rwa [coreLength])
    have memFollows := @follows_copied_iff MemInfo MemInfo.words base 4 kernel.info.memInfo
      (4 + (5 + 1) * kernel.info.coreInfo.length) mems memWidth (by rw [memLength]; omega) memsLaid
    have coreOffset (i : Nat) : 4 * 4 + 4 * (5 + 1) * i = sizeofSystemInfo + sizeofCoreInfo * i := rfl
    have memOffset (i : Nat) : 4 * (4 + (5 + 1) * kernel.info.coreInfo.length) + 4 * (4 + 1) * i =
        sizeofSystemInfo + sizeofCoreInfo * kernel.info.coreInfo.length + sizeofMemInfo * i := by
      simp only [sizeofSystemInfo, sizeofCoreInfo, sizeofMemInfo]
      omega
    simp only [coreOffset] at coreFollows
    simp only [memOffset] at memFollows
    rw [NoneAtNull, ← coreFollows, ← memFollows]
    constructor
    · rintro ⟨-, -, ⟨corePointer', isCore, core⟩, ⟨memPointer', isMem, mem⟩⟩
      obtain rfl := Option.some.inj (corePointer.symm.trans isCore)
      obtain rfl := Option.some.inj (memsPointer.symm.trans isMem)
      exact ⟨core, mem⟩
    · rintro ⟨core, mem⟩
      exact ⟨word 2 (by decide) (by decide), word 3 (by decide) (by decide),
        ⟨_, corePointer, core⟩, ⟨_, memsPointer, mem⟩⟩

theorem noneAtNull_of_fits (kernel : KernelSystemInfo) (nonzero : base ≠ 0)
    (fits : base.toNat + kernel.info.newSize.toNat ≤ 2 ^ 32) : NoneAtNull kernel.info base := by
  have positive : 0 < base.toNat := Nat.pos_of_ne_zero fun zero =>
    nonzero (BitVec.eq_of_toNat_eq zero)
  rw [kernel.newSize_toNat] at fits
  simp only [sizeofSystemInfo, sizeofCoreInfo, sizeofMemInfo] at fits
  constructor
  · intro i inside zero
    have address : BitVec.toNat _ = 0 := congrArg BitVec.toNat zero
    simp only [toNat_add, toNat_ofNat, sizeofSystemInfo, sizeofCoreInfo] at address
    omega
  · intro i inside zero
    have address : BitVec.toNat _ = 0 := congrArg BitVec.toNat zero
    simp only [toNat_add, toNat_ofNat, sizeofSystemInfo, sizeofCoreInfo, sizeofMemInfo] at address
    omega

def oneOfEach : KernelSystemInfo where
  info := ⟨[(0xC0001000#32, ⟨7#32, 0xCD07#32, 0xE0D60000#32, 0#32, 0#32⟩)],
    [(0xC0002000#32, ⟨0x10000000#32, 63#32, 30#32, 0#32⟩)], 1#32, driverModeNormal⟩
  address := 0xC0000000#32
  inMemory := by decide
  apart := by simp [SystemInfo.blocks, MemoryBlock.Apart, sizeofSystemInfo, sizeofCoreInfo, sizeofMemInfo]

theorem getSystemInfo_oneOfEach : ∃ after, getSystemInfo oneOfEach.info oneOfEach.info.newSize
        ⟨true, 60#32, 0xC0003000#32, 0x40008000#32⟩ (List.replicate 15 0) = some (.ok, after) ∧
      Serialised oneOfEach.info 0x40008000#32 after := by
  obtain ⟨after, run, -, serialised⟩ := getSystemInfo_serialised_iff oneOfEach
    ⟨true, 60#32, 0xC0003000#32, 0x40008000#32⟩ (List.replicate 15 0) rfl (by decide)
    (by decide) (by decide)
  exact ⟨after, run, serialised.mpr (noneAtNull_of_fits oneOfEach (by decide) (by decide))⟩

/-- At this base the address of the core wraps to zero, and the list of cores seems empty. -/
theorem getSystemInfo_wrapped : ∃ after, getSystemInfo oneOfEach.info oneOfEach.info.newSize
        ⟨true, 60#32, 0xC0003000#32, 0xFFFFFFF0#32⟩ (List.replicate 15 0) = some (.ok, after) ∧
      after[0]? = some 0 ∧ ¬ Serialised oneOfEach.info 0xFFFFFFF0#32 after := by
  refine ⟨_, rfl, rfl, fun serialised => ?_⟩
  obtain ⟨pointer, isFirst, follows⟩ := serialised.coreInfo
  cases follows with
  | link notNull => exact notNull (Option.some.inj isFirst).symm

end Floid.Core
