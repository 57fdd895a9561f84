import Floid.Lib.Buffer
import Floid.Mmu.LinkedSession

namespace Floid.Mmu

open Osk Lib
open BitVec (ofNat ofNat_add toNat_ofNat)

structure DumpedSession where
  space : AddressSpace
  pageDirectoryMapped : Bool
  unmapped : pageDirectoryMapped = false → ∀ index < 1024, space.session.pageEntriesMapped index = none

structure DumpInfo where
  bufferLeft : U32
  registerWritesSize : U32
  pageTableDumpSize : U32
  buffer : Option (Nat × List U32)

abbrev DumpStep := DumpInfo → Option (Errcode × DumpInfo)

def DumpStep.andThen (first second : DumpStep) : DumpStep := fun info =>
  (first info).bind fun (err, info) => if err ≠ .ok then some (err, info) else second info

def writereg (register what : U32) : DumpStep := fun info =>
  let counted := { info with registerWritesSize := info.registerWritesSize + 8 }
  match counted.buffer with
  | none => some (.ok, counted)
  | some (position, buffer) =>
      if counted.bufferLeft < 8 then some (.nomem, counted)
      else (overwrite buffer position [register, what]).map fun buffer =>
        (.ok, { counted with buffer := some (position + 2, buffer), bufferLeft := counted.bufferLeft - 8 })

def pageRecord (page : Words) (physAddr : U32) : List U32 := physAddr :: (List.range 1024).map page

def dumpPage (page : Words) (physAddr : U32) : DumpStep := fun info =>
  let counted := { info with pageTableDumpSize := info.pageTableDumpSize + 4100 }
  match counted.buffer with
  | none => some (.ok, counted)
  | some (position, buffer) =>
      if counted.bufferLeft < 4100 then some (.nomem, counted)
      else (overwrite buffer position (pageRecord page physAddr)).map fun buffer =>
        (.ok, { counted with
          buffer := some (position + 1025, buffer)
          bufferLeft := counted.bufferLeft - 4100 })

def dumpTables (space : AddressSpace) : List Nat → DumpStep
  | [] => fun info => some (.ok, info)
  | index :: indices =>
      match space.session.pageEntriesMapped index with
      | none => dumpTables space indices
      | some page =>
          (dumpPage (space.cache.memory page) (withoutFlags (space.directory index))).andThen
            (dumpTables space indices)

def dumpMmuPageTable (session : DumpedSession) : DumpStep :=
  if session.pageDirectoryMapped then
    (dumpPage session.space.directory session.space.session.pageDirectory).andThen
      (dumpTables session.space (List.range 1024))
  else fun info => some (.ok, info)

def dumpMmuRegisters (session : DumpedSession) : DumpStep :=
  (writereg 0x0#32 session.space.session.pageDirectory).andThen
    ((writereg 0x8#32 4#32).andThen (writereg 0x8#32 0#32))

/-- `_mali_ukk_query_mmu_page_table_dump_size`: the error code and the size. -/
def queryMmuPageTableDumpSize (ctx : Bool) (session : DumpedSession) : Option (Errcode × U32) :=
  if ¬ ctx then some (.invalidArgs, 0)
  else
    ((dumpMmuRegisters session).andThen (dumpMmuPageTable session) ⟨0, 0, 0, none⟩).map
      fun (err, info) => (err, info.registerWritesSize + info.pageTableDumpSize)

structure MmuPageTableDump where
  buffer : List U32
  registerWrites : Nat
  registerWritesSize : U32
  pageTableDump : Nat
  pageTableDumpSize : U32

def DumpInfo.position (info : DumpInfo) : Nat := info.buffer.elim 0 Prod.fst

def DumpInfo.words (info : DumpInfo) : List U32 := info.buffer.elim [] Prod.snd

/-- `_mali_ukk_dump_mmu_page_table`: the error code, and the arguments of a success. -/
def dumpMmuPageTableTo (ctx : Bool) (session : DumpedSession) (size : U32)
    (buffer : Option (List U32)) : Option (Errcode × Option MmuPageTableDump) :=
  match buffer with
  | none => some (.invalidArgs, none)
  | some words =>
      if ¬ ctx then some (.invalidArgs, none)
      else
        (dumpMmuRegisters session ⟨size, 0, 0, some (0, words)⟩).bind fun (err, written) =>
          if err ≠ .ok then some (err, none)
          else
            (dumpMmuPageTable session written).map fun (err, dumped) =>
              if err ≠ .ok then (err, none)
              else (.ok, some
                { buffer := dumped.words
                  registerWrites := 0
                  registerWritesSize := dumped.registerWritesSize
                  pageTableDump := written.position
                  pageTableDumpSize := dumped.pageTableDumpSize })

structure Emits (step : DumpStep) (registers pages : Nat) (words : List U32) : Prop where
  size : registers + pages = 4 * words.length
  counts : ∀ info : DumpInfo, info.buffer = none →
    step info = some (.ok, { info with
      registerWritesSize := info.registerWritesSize + ofNat 32 registers
      pageTableDumpSize := info.pageTableDumpSize + ofNat 32 pages })
  writes : ∀ (info : DumpInfo) (position : Nat) (buffer after : List U32),
    info.buffer = some (position, buffer) → 4 * words.length ≤ info.bufferLeft.toNat →
    overwrite buffer position words = some after →
    step info = some (.ok,
      { bufferLeft := info.bufferLeft - ofNat 32 (4 * words.length)
        registerWritesSize := info.registerWritesSize + ofNat 32 registers
        pageTableDumpSize := info.pageTableDumpSize + ofNat 32 pages
        buffer := some (position + words.length, after) })

namespace Emits

variable {first second : DumpStep} {registers pages registers' pages' : Nat}
  {words words' : List U32}

theorem nothing : Emits (fun info => some (.ok, info)) 0 0 [] where
  size := rfl
  counts info _ := by simp
  writes info position buffer after isBuffer _ wrote := by
    rw [overwrite, List.length_nil, Nat.add_zero] at wrote
    split at wrote
    · obtain rfl : buffer = after := by simpa using wrote
      cases info
      simp_all
    · cases wrote

theorem andThen (before : Emits first registers pages words) (after : Emits second registers' pages' words') :
    Emits (first.andThen second) (registers + registers') (pages + pages') (words ++ words') where
  size := by
    have own := before.size
    have rest := after.size
    rw [List.length_append]
    omega
  counts info noBuffer := by
    rw [DumpStep.andThen, before.counts info noBuffer, Option.bind_some]
    simp only [ne_eq, not_true, if_false]
    have rest := after.counts { info with
      registerWritesSize := info.registerWritesSize + ofNat 32 registers
      pageTableDumpSize := info.pageTableDumpSize + ofNat 32 pages } noBuffer
    rw [rest]
    simp only [ofNat_add, BitVec.add_assoc]
  writes info position buffer written isBuffer left wrote := by
    rw [List.length_append] at left
    have room := (overwrite_some wrote).1
    rw [List.length_append] at room
    obtain ⟨middle, front⟩ := @overwrite_exists _ buffer words position (by omega)
    have length := overwrite_length front
    obtain ⟨last, back⟩ := @overwrite_exists _ middle words' (position + words.length) (by omega)
    obtain rfl : last = written := Option.some.inj ((overwrite_append front back).symm.trans wrote)
    have small := info.bufferLeft.isLt
    have own : (ofNat 32 (4 * words.length)).toNat = 4 * words.length := by
      rw [toNat_ofNat, Nat.mod_eq_of_lt (by omega)]
    rw [DumpStep.andThen, before.writes info position buffer middle isBuffer (by omega) front, Option.bind_some]
    simp only [ne_eq, not_true, if_false]
    rw [after.writes _ _ _ _ rfl _ back]
    · simp only [List.length_append, ofNat_add, BitVec.add_assoc, Nat.add_assoc, Nat.mul_add, BitVec.sub_sub]
    · change _ ≤ (info.bufferLeft - ofNat 32 (4 * words.length)).toNat
      rw [BitVec.toNat_sub_of_le (by rw [BitVec.le_def]; omega), own]
      omega

end Emits

theorem writereg_emits (register what : U32) : Emits (writereg register what) 8 0 [register, what] where
  size := rfl
  counts info noBuffer := by simp [writereg, noBuffer]
  writes info position buffer after isBuffer left wrote := by
    have enough : 8#32 ≤ info.bufferLeft := left
    simp [writereg, isBuffer, enough, wrote]

@[simp] theorem pageRecord_length (page : Words) (physAddr : U32) :
    (pageRecord page physAddr).length = 1025 := by
  simp [pageRecord]

theorem dumpPage_emits (page : Words) (physAddr : U32) :
    Emits (dumpPage page physAddr) 0 4100 (pageRecord page physAddr) where
  size := by rw [pageRecord_length]
  counts info noBuffer := by simp [dumpPage, noBuffer]
  writes info position buffer after isBuffer left wrote := by
    rw [pageRecord_length] at left
    have enough : 4100#32 ≤ info.bufferLeft := left
    simp [dumpPage, isBuffer, enough, wrote]

def mappedEntries (space : AddressSpace) (indices : List Nat) : List Nat :=
  indices.filter fun index => (space.session.pageEntriesMapped index).isSome

def tableRecord (space : AddressSpace) (index : Nat) : List U32 :=
  match space.session.pageEntriesMapped index with
  | none => []
  | some page => pageRecord (space.cache.memory page) (withoutFlags (space.directory index))

theorem dumpTables_emits (space : AddressSpace) (indices : List Nat) :
    Emits (dumpTables space indices) 0 (4100 * (mappedEntries space indices).length)
      ((mappedEntries space indices).flatMap (tableRecord space)) := by
  induction indices with
  | nil => exact .nothing
  | cons index indices ih =>
    cases mapped : space.session.pageEntriesMapped index with
    | none =>
      have same : mappedEntries space (index :: indices) = mappedEntries space indices := by
        simp [mappedEntries, mapped]
      rw [same, dumpTables, mapped]
      exact ih
    | some page =>
      have more : mappedEntries space (index :: indices) = index :: mappedEntries space indices := by
        simp [mappedEntries, mapped]
      have record : tableRecord space index =
          pageRecord (space.cache.memory page) (withoutFlags (space.directory index)) := by
        rw [tableRecord, mapped]
      have both := (dumpPage_emits (space.cache.memory page) (withoutFlags (space.directory index))).andThen ih
      rw [more, dumpTables, mapped, List.flatMap_cons, record, List.length_cons, Nat.mul_succ, Nat.add_comm _ 4100]
      exact both

def registerSection (session : DumpedSession) : List U32 :=
  [0x0#32, session.space.session.pageDirectory, 0x8#32, 4#32, 0x8#32, 0#32]

def pageSection (session : DumpedSession) : List U32 :=
  if session.pageDirectoryMapped then
    pageRecord session.space.directory session.space.session.pageDirectory ++
      (mappedEntries session.space (List.range 1024)).flatMap (tableRecord session.space)
  else []

theorem dumpMmuRegisters_emits (session : DumpedSession) :
    Emits (dumpMmuRegisters session) 24 0 (registerSection session) :=
  (writereg_emits ..).andThen ((writereg_emits ..).andThen (writereg_emits ..))

theorem dumpMmuPageTable_emits (session : DumpedSession) :
    ∃ pages ≤ 4100 * 1025, Emits (dumpMmuPageTable session) 0 pages (pageSection session) := by
  cases mapped : session.pageDirectoryMapped with
  | false =>
    refine ⟨0, by decide, ?_⟩
    simp only [dumpMmuPageTable, pageSection, mapped]
    exact .nothing
  | true =>
    have few : (mappedEntries session.space (List.range 1024)).length ≤ 1024 := by
      have shorter := List.length_filter_le
        (fun index => (session.space.session.pageEntriesMapped index).isSome) (List.range 1024)
      rwa [List.length_range] at shorter
    refine ⟨4100 + 4100 * (mappedEntries session.space (List.range 1024)).length, by omega, ?_⟩
    simp only [dumpMmuPageTable, pageSection, mapped, if_true]
    exact (dumpPage_emits ..).andThen (dumpTables_emits ..)

structure DumpComplete (session : DumpedSession) (dump : MmuPageTableDump) : Prop where
  filled : dump.buffer = registerSection session ++ pageSection session
  sizes : dump.registerWritesSize.toNat + dump.pageTableDumpSize.toNat = 4 * dump.buffer.length
  registers : segment dump.buffer dump.registerWrites (dump.registerWritesSize.toNat / 4) =
    some (registerSection session)
  pages : segment dump.buffer dump.pageTableDump (dump.pageTableDumpSize.toNat / 4) = some (pageSection session)
  tables : session.pageDirectoryMapped = true → ∃ indices : List Nat, indices.Nodup ∧
    (∀ index, index ∈ indices ↔ index < 1024 ∧ (session.space.session.pageEntriesMapped index).isSome) ∧
    pageSection session =
      pageRecord session.space.directory session.space.session.pageDirectory ++
        indices.flatMap (tableRecord session.space)
  addresses : session.space.Linked → ∀ index < 1024, ∀ page,
    session.space.session.pageEntriesMapped index = some page →
      tableRecord session.space index = pageRecord (session.space.cache.memory page) page

theorem pageSection_tables {session : DumpedSession} (mapped : session.pageDirectoryMapped = true) :
    ∃ indices : List Nat, indices.Nodup ∧
      (∀ index, index ∈ indices ↔ index < 1024 ∧ (session.space.session.pageEntriesMapped index).isSome) ∧
      pageSection session =
        pageRecord session.space.directory session.space.session.pageDirectory ++
          indices.flatMap (tableRecord session.space) := by
  refine ⟨mappedEntries session.space (List.range 1024), ?_, ?_, ?_⟩
  · exact List.nodup_range.filter _
  · intro index
    rw [mappedEntries, List.mem_filter, List.mem_range]
  · rw [pageSection, if_pos mapped]

theorem tableRecord_linked {space : AddressSpace} (linked : space.Linked) {index : Nat}
    (inside : index < 1024) {page : U32} (mapped : space.session.pageEntriesMapped index = some page) :
    tableRecord space index = pageRecord (space.cache.memory page) page := by
  obtain ⟨entry, -, -, aligned⟩ := linked.linked index inside page mapped
  rw [tableRecord, mapped, entry, withoutFlags_present aligned]

/-- A buffer of the size that the query returns is filled by the dump, to its last word. -/
theorem dumpMmuPageTable_fits (session : DumpedSession) :
    ∃ size, queryMmuPageTableDumpSize true session = some (.ok, size) ∧
      ∀ buffer : List U32, 4 * buffer.length = size.toNat →
        ∃ dump, dumpMmuPageTableTo true session size (some buffer) = some (.ok, some dump) ∧
          DumpComplete session dump := by
  obtain ⟨pages, few, pagesEmit⟩ := dumpMmuPageTable_emits session
  have registersEmit := dumpMmuRegisters_emits session
  have counted := (registersEmit.andThen pagesEmit).counts ⟨0, 0, 0, none⟩ rfl
  have pageSize := pagesEmit.size
  have registerLength : (registerSection session).length = 6 := rfl
  have total : (ofNat 32 24 + ofNat 32 pages).toNat = 24 + pages := by
    rw [← ofNat_add, toNat_ofNat, Nat.mod_eq_of_lt (by omega)]
  refine ⟨ofNat 32 24 + ofNat 32 pages, ?_, ?_⟩
  · rw [queryMmuPageTableDumpSize, if_neg (by simp), counted]
    simp
  · intro buffer length
    rw [total] at length
    obtain ⟨middle, front⟩ := @overwrite_exists _ buffer (registerSection session) 0
      (by rw [registerLength]; omega)
    have middleLength := overwrite_length front
    obtain ⟨last, back⟩ := @overwrite_exists _ middle (pageSection session) 6 (by omega)
    have all := overwrite_append front (by rwa [registerLength])
    rw [overwrite_all (by rw [List.length_append, registerLength]; omega)] at all
    obtain rfl := Option.some.inj all
    have first := registersEmit.writes ⟨ofNat 32 24 + ofNat 32 pages, 0, 0,
      some (0, buffer)⟩ 0 buffer middle rfl (by rw [registerLength, total]; omega) front
    have left : (ofNat 32 24 + ofNat 32 pages -
        ofNat 32 (4 * (registerSection session).length)).toNat = pages := by
      rw [registerLength, BitVec.add_comm, BitVec.add_sub_cancel, toNat_ofNat, Nat.mod_eq_of_lt (by omega)]
    have second := pagesEmit.writes ⟨ofNat 32 24 + ofNat 32 pages -
        ofNat 32 (4 * (registerSection session).length), 0 + ofNat 32 24,
        0 + ofNat 32 0, some (0 + (registerSection session).length, middle)⟩ 6 middle _ rfl
      (by rw [left]; omega) back
    have pagesSmall : (ofNat 32 pages).toNat = pages := by
      rw [toNat_ofNat, Nat.mod_eq_of_lt (by omega)]
    refine ⟨⟨registerSection session ++ pageSection session, 0, ofNat 32 24, 6, ofNat 32 pages⟩, ?_, ?_⟩
    · rw [dumpMmuPageTableTo, if_neg (by simp), first, Option.bind_some]
      simp only [ne_eq, not_true, if_false, registerLength, Nat.zero_add] at second ⊢
      rw [second]
      simp [DumpInfo.words, DumpInfo.position]
    · refine ⟨rfl, ?_, ?_, ?_, pageSection_tables, fun linked index inside page =>
        tableRecord_linked linked inside⟩
      · change (ofNat 32 24).toNat + (ofNat 32 pages).toNat = 4 * List.length _
        rw [pagesSmall, List.length_append, registerLength, show (ofNat 32 24).toNat = 24 from rfl]
        omega
      · have front := segment_middle [] (registerSection session) (pageSection session)
        change segment (registerSection session ++ pageSection session) 0
          ((ofNat 32 24).toNat / 4) = _
        rwa [registerLength, List.nil_append] at front
      · have sections := segment_middle (registerSection session) (pageSection session) []
        rw [List.append_nil] at sections
        change segment _ 6 ((ofNat 32 pages).toNat / 4) = _
        rwa [pagesSmall, show pages / 4 = (pageSection session).length by omega]

def oneTableSession : DumpedSession where
  space := ⟨⟨[], [], fun page index => if page = 0x1000#32 ∧ index = 3 then 0x2001#32 else 0⟩,
    ⟨0x1000#32, fun index => if index = 3 then some 0x2000#32 else none, fun _ => 0⟩⟩
  pageDirectoryMapped := true
  unmapped := by simp

theorem dumpMmuPageTable_oneTable :
    ∃ dump, dumpMmuPageTableTo true oneTableSession 8224#32 (some (List.replicate 2056 0)) =
        some (.ok, some dump) ∧ DumpComplete oneTableSession dump := by
  obtain ⟨size, queried, filled⟩ := dumpMmuPageTable_fits oneTableSession
  have run : queryMmuPageTableDumpSize true oneTableSession = some (.ok, 8224#32) := by
    decide +kernel
  obtain rfl : 8224#32 = size := by
    rw [run] at queried
    simpa using queried
  exact filled (List.replicate 2056 0) (by rw [List.length_replicate]; rfl)

end Floid.Mmu
