import Floid.Ump.DescriptorMapping

/-!
UMP memory is shared between processes and drivers by its secure ID. A memory object
has a count of the references to it: those of the sessions that allocated it, of
mappings, and of other drivers. The last one to go releases it.

A function is `none` where the code would use memory through NULL, or through a
pointer to something that has been freed.
-/

namespace Floid.Ump

open Osk
open Function (update)

structure PhysicalBlock where
  addr : U32
  size : U32

inductive ReleaseFunc where
  | backend
  | physBlocks

/-- `ump_dd_mem`. -/
structure DdMem where
  secureId : U32
  refCount : Int
  sizeBytes : U32
  blocks : List PhysicalBlock
  isCached : Bool
  releaseFunc : ReleaseFunc

/-- The global `device` and the objects there are. Objects are named by the order of
their creation, and `released` has those whose release function has run. -/
structure Device where
  secureIdMap : DescriptorMapping Nat
  mems : Nat → Option DdMem
  nextMem : Nat
  released : List Nat

def errcode : Errcode → Int
  | .ok => 0
  | .fault => -1
  | .invalidFunc => -2
  | .invalidArgs => -3
  | .nomem => -4
  | .timeout => -5
  | .restartsyscall => -6
  | .itemNotFound => -7
  | .busy => -8
  | .unsupported => -9

namespace Device

variable (device : Device)

def setMem (mem : Nat) (object : Option DdMem) : Device :=
  { device with mems := update device.mems mem object }

def addMem (map : DescriptorMapping Nat) (object : DdMem) : Device :=
  { device with
    secureIdMap := map
    mems := update device.mems device.nextMem (some object)
    nextMem := device.nextMem + 1 }

def referenceAdd (mem : Nat) : Option Device :=
  (device.mems mem).map fun object =>
    device.setMem mem (some { object with refCount := object.refCount + 1 })

def referenceRelease (mem : Nat) : Option Device :=
  (device.mems mem).map fun object =>
    let newRef := object.refCount - 1
    if newRef = 0 then
      { device with
        secureIdMap := device.secureIdMap.free object.secureId
        mems := update device.mems mem none
        released := mem :: device.released }
    else device.setMem mem (some { object with refCount := newRef })

/-- `ump_dd_handle_create_from_secure_id`: the handle, `none` for
`UMP_DD_HANDLE_INVALID`. -/
def handleCreateFromSecureId (secureId : U32) : Option (Option Nat × Device) :=
  match device.secureIdMap.get secureId with
  | none => some (none, device)
  | some none => none
  | some (some mem) => (device.referenceAdd mem).map fun referenced => (some mem, referenced)

end Device

def sizeAlign (size : U32) : U32 := (size + 0xFFF) &&& ~~~0xFFF

/-- What happens around `ump_dd_handle_create_from_phys_blocks`: whether there is memory
for the object, for a larger table and for the copy of the blocks. -/
structure PhysBlocksRequest where
  object : Bool
  tableAllocated : Bool
  blockArray : Bool

def handleCreateFromPhysBlocks (request : PhysBlocksRequest) (blocks : List PhysicalBlock)
    (device : Device) : Option Nat × Device :=
  if blocks.all fun block => block.addr &&& 0xFFF == 0 && block.size &&& 0xFFF == 0 then
    if request.object then
      match device.secureIdMap.allocateMapping device.nextMem request.tableAllocated with
      | (none, map) => (none, { device with secureIdMap := map })
      | (some mapId, map) =>
          let secureId := BitVec.ofNat 32 mapId
          if request.blockArray then
            (some device.nextMem, device.addMem map
              { secureId
                refCount := 1
                sizeBytes := blocks.foldl (fun total block => total + block.size) 0
                blocks
                isCached := false
                releaseFunc := .physBlocks })
          else (none, { device with secureIdMap := map.free secureId })
    else (none, device)
  else (none, device)

structure MemoryAllocation where
  size : U32
  handle : Nat
  cookie : U32
  isCached : Bool

/-- `ump_session_data`, with the mappings it has by the order of their creation. The
elements of its memory list are the objects they refer to. -/
structure Session where
  memoryList : List Nat
  mappingsList : List Nat
  cookiesMap : DescriptorMapping Nat
  allocations : Nat → Option MemoryAllocation
  nextAllocation : Nat

def ukkOpen : Session where
  memoryList := []
  mappingsList := []
  cookiesMap := .create 128 4096
  allocations _ := none
  nextAllocation := 0

/-- The arguments of `_ump_ukk_allocate` and what happens around it: whether there is
memory for a list element, for the object and for a larger table, and what the backend
gives for a size. -/
structure AllocateRequest where
  size : U32
  useCache : Bool
  element : Bool
  object : Bool
  tableAllocated : Bool
  backend : U32 → Option (List PhysicalBlock)

def ukkAllocate (request : AllocateRequest) (session : Session) (device : Device) : Int × Session × Device :=
  if request.element && request.object then
    match device.secureIdMap.allocateMapping device.nextMem request.tableAllocated with
    | (none, map) => (-errcode .invalidFunc, session, { device with secureIdMap := map })
    | (some mapId, map) =>
        let secureId := BitVec.ofNat 32 mapId
        let sizeBytes := sizeAlign (if request.size = 0 then 1 else request.size)
        match request.backend sizeBytes with
        | none => (errcode .invalidFunc, session, { device with secureIdMap := map.free secureId })
        | some blocks =>
            (errcode .ok, { session with memoryList := device.nextMem :: session.memoryList }, device.addMem map
                { secureId
                  refCount := 1
                  sizeBytes
                  blocks
                  isCached := request.useCache
                  releaseFunc := .backend })
  else (errcode .nomem, session, device)

def ukkSizeGet (secureId : U32) (device : Device) : Option (Int × U32) :=
  match device.secureIdMap.get secureId with
  | none => some (errcode .fault, 0)
  | some none => none
  | some (some mem) => (device.mems mem).map fun object => (errcode .ok, object.sizeBytes)

def ukkMsync (secureId : U32) (device : Device) : Option Device :=
  match (device.secureIdMap.get secureId).join with
  | none => some device
  | some mem => (device.referenceAdd mem).bind fun referenced => referenced.referenceRelease mem

def findElement (device : Device) (secureId : U32) : List Nat → Option (Option Nat)
  | [] => some none
  | mem :: rest =>
      match device.mems mem with
      | none => none
      | some object =>
          if object.secureId = secureId then some (some mem) else findElement device secureId rest

def ukkRelease (secureId : U32) (session : Session) (device : Device) : Option (Int × Session × Device) :=
  match findElement device secureId session.memoryList with
  | none => none
  | some none => some (errcode .invalidFunc, session, device)
  | some (some mem) =>
      (device.referenceRelease mem).map fun released =>
        (errcode .ok, { session with memoryList := session.memoryList.erase mem }, released)

/-- The arguments of `_ump_ukk_map_mem` and what happens around it: whether there is
memory for the descriptor and for a larger table, what the initialization of the
region answers, and which blocks can be mapped. -/
structure MapRequest where
  secureId : U32
  size : U32
  descriptor : Bool
  tableAllocated : Bool
  regionInit : Int
  mapBlock : Nat → Bool

def ukkMapMem (request : MapRequest) (session : Session) (device : Device) : Option (Int × Session × Device) :=
  if request.descriptor then
    match device.handleCreateFromSecureId request.secureId with
    | none => none
    | some (none, looked) => some (errcode .fault, session, looked)
    | some (some mem, referenced) =>
        match referenced.mems mem with
        | none => none
        | some object =>
            let fail (error : Int) (cookies : DescriptorMapping Nat) :=
              (referenced.referenceRelease mem).map fun released =>
                (error, { session with cookiesMap := cookies }, released)
            if object.sizeBytes ≠ request.size then fail (errcode .fault) session.cookiesMap
            else
              match session.cookiesMap.allocateMapping session.nextAllocation
                  request.tableAllocated with
              | (none, cookies) => fail (errcode .nomem) cookies
              | (some mapId, cookies) =>
                  let cookie := BitVec.ofNat 32 mapId
                  if request.regionInit ≠ errcode .ok then
                    fail request.regionInit (cookies.free cookie)
                  else if (List.range object.blocks.length).all request.mapBlock then
                    some (errcode .ok,
                      { session with
                        mappingsList := session.nextAllocation :: session.mappingsList
                        cookiesMap := cookies
                        allocations := update session.allocations session.nextAllocation
                          (some ⟨request.size, mem, cookie, object.isCached⟩)
                        nextAllocation := session.nextAllocation + 1 },
                      referenced)
                  else fail (errcode .fault) (cookies.free cookie)
  else some (errcode .nomem, session, device)

def ukkUnmapMem (cookie : U32) (session : Session) (device : Device) : Option (Session × Device) :=
  match session.cookiesMap.get cookie with
  | none => some (session, device)
  | some none => none
  | some (some mapping) =>
      match session.allocations mapping with
      | none => none
      | some descriptor =>
          (device.referenceRelease descriptor.handle).map fun released =>
            ({ session with
              mappingsList := session.mappingsList.erase mapping
              cookiesMap := session.cookiesMap.free cookie
              allocations := update session.allocations mapping none }, released)

def closeMappings : List Nat → Session → Device → Option (Session × Device)
  | [], session, device => some (session, device)
  | mapping :: rest, session, device =>
      match session.allocations mapping with
      | none => none
      | some descriptor =>
          match ukkUnmapMem descriptor.cookie session device with
          | none => none
          | some (unmapped, released) => closeMappings rest unmapped released

def closeMemory : List Nat → Device → Option Device
  | [], device => some device
  | mem :: rest, device =>
      match device.referenceRelease mem with
      | none => none
      | some released => closeMemory rest released

def ukkClose (session : Session) (device : Device) : Option Device :=
  match closeMappings session.mappingsList session device with
  | none => none
  | some (unmapped, released) => closeMemory unmapped.memoryList released

end Floid.Ump
