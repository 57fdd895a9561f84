import Floid.Lib.Buffer
import Floid.Lib.MemoryBlocks
import Floid.Osk.Types

namespace Floid.Core

open Floid.Osk

structure CoreInfo where
  type : U32
  version : U32
  regAddress : U32
  coreNr : U32
  flags : U32
  deriving DecidableEq

structure MemInfo where
  size : U32
  flags : U32
  maximumOrderSupported : U32
  identifier : U32
  deriving DecidableEq

/-- `_mali_system_info`. Each element of a list comes with its address. -/
structure SystemInfo where
  coreInfo : List (U32 × CoreInfo)
  memInfo : List (U32 × MemInfo)
  hasMmu : U32
  drivermode : U32
  deriving DecidableEq

/-- `_mali_system_info` after it has been cleared. -/
def SystemInfo.blank : SystemInfo := ⟨[], [], 0, 0⟩

def driverModeNormal : U32 := 2#32

def sizeofSystemInfo : Nat := 16

def sizeofCoreInfo : Nat := 24

def sizeofMemInfo : Nat := 20

/-- The size that `build_system_info` adds up. -/
def SystemInfo.newSize (info : SystemInfo) : U32 :=
  info.memInfo.foldl (fun newSize _ => newSize + BitVec.ofNat 32 sizeofMemInfo)
    (info.coreInfo.foldl (fun newSize _ => newSize + BitVec.ofNat 32 sizeofCoreInfo)
      (BitVec.ofNat 32 sizeofSystemInfo))

end Floid.Core

namespace Floid.Core

open Floid.Osk Floid.Lib

def headAddress {Info : Type} : List (U32 × Info) → U32
  | [] => 0
  | (address, _) :: _ => address

def SystemInfo.words (info : SystemInfo) : List U32 :=
  [headAddress info.coreInfo, headAddress info.memInfo, info.hasMmu, info.drivermode]

def CoreInfo.words (core : CoreInfo) : List U32 :=
  [core.type, core.version, core.regAddress, core.coreNr, core.flags]

def MemInfo.words (mem : MemInfo) : List U32 :=
  [mem.size, mem.flags, mem.maximumOrderSupported, mem.identifier]

def writeInfos {Info : Type} (words : Info → List U32) (adjustPtrBase : U32) :
    List (U32 × Info) → Nat → Nat → List U32 → Option (Nat × List U32)
  | [], _, writePos, buffer => some (writePos, buffer)
  | (_, info) :: rest, patchPos, writePos, buffer =>
      (overwrite buffer patchPos [adjustPtrBase + BitVec.ofNat 32 (4 * writePos)]).bind fun patched =>
        (overwrite patched writePos (words info ++ [headAddress rest])).bind fun copied =>
          writeInfos words adjustPtrBase rest (writePos + (words info).length)
            (writePos + (words info).length + 1) copied

/-- `_mali_uk_get_system_info_s`. -/
structure GetSystemInfoArgs where
  ctx : Bool
  size : U32
  systemInfo : U32
  ukkPrivate : U32

def GetSystemInfoArgs.adjustPtrBase (args : GetSystemInfoArgs) : U32 :=
  if args.ukkPrivate = 0 then args.systemInfo else args.ukkPrivate

/-- `_mali_ukk_get_system_info`: the error code and the buffer. -/
def getSystemInfo (systemInfo : SystemInfo) (systemInfoSize : U32) (args : GetSystemInfoArgs)
    (buffer : List U32) : Option (Errcode × List U32) :=
  if ¬ args.ctx then some (.invalidArgs, buffer)
  else if args.systemInfo = 0 then some (.invalidArgs, buffer)
  else if args.size < systemInfoSize then some (.fault, buffer)
  else
    (overwrite buffer 0 systemInfo.words).bind fun buffer =>
      (writeInfos CoreInfo.words args.adjustPtrBase systemInfo.coreInfo 0 4 buffer).bind
        fun (writePos, buffer) =>
          (writeInfos MemInfo.words args.adjustPtrBase systemInfo.memInfo 1 writePos buffer).map
            fun (_, buffer) => (.ok, buffer)

def SystemInfo.blocks (info : SystemInfo) (address : U32) : List MemoryBlock :=
  (address.toNat, sizeofSystemInfo) ::
    (info.coreInfo.map (fun entry => (entry.1.toNat, sizeofCoreInfo)) ++
      info.memInfo.map (fun entry => (entry.1.toNat, sizeofMemInfo)))

structure KernelSystemInfo where
  info : SystemInfo
  address : U32
  inMemory : ∀ block ∈ info.blocks address, 0 < block.1 ∧ block.1 + block.2 ≤ 2 ^ 32
  apart : (info.blocks address).Pairwise MemoryBlock.Apart

inductive Follows (base : U32) (buffer : List U32) (count : Nat) : U32 → List (List U32) → Prop where
  | null : Follows base buffer count 0 []
  | link {pointer next : U32} {words : List U32} {rest : List (List U32)} (notNull : pointer ≠ 0)
      (aligned : (pointer - base).toNat % 4 = 0)
      (record : segment buffer ((pointer - base).toNat / 4) (count + 1) = some (words ++ [next]))
      (tail : Follows base buffer count next rest) :
      Follows base buffer count pointer (words :: rest)

structure Serialised (info : SystemInfo) (base : U32) (buffer : List U32) : Prop where
  hasMmu : buffer[2]? = some info.hasMmu
  drivermode : buffer[3]? = some info.drivermode
  coreInfo : ∃ pointer, buffer[0]? = some pointer ∧
    Follows base buffer 5 pointer (info.coreInfo.map fun entry => entry.2.words)
  memInfo : ∃ pointer, buffer[1]? = some pointer ∧
    Follows base buffer 4 pointer (info.memInfo.map fun entry => entry.2.words)

def NoneAtNull (info : SystemInfo) (base : U32) : Prop :=
  (∀ i < info.coreInfo.length, base + BitVec.ofNat 32 (sizeofSystemInfo + sizeofCoreInfo * i) ≠ 0) ∧
    ∀ i < info.memInfo.length,
      base + BitVec.ofNat 32 (sizeofSystemInfo + sizeofCoreInfo * info.coreInfo.length + sizeofMemInfo * i) ≠ 0

end Floid.Core
