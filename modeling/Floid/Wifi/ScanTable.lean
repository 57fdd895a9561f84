import Floid.Wifi.StaTable

/-!
The networks that a scan has found: the records of `free_bss_buf`, the pool of those that are
free and the queue of those that are in use. A description of a network is in memory as
`WLAN_BSSID_EX` has it, so that a copy of its first bytes is what `_memcpy` leaves.
-/

namespace Floid.Wifi

open Osk

def bssidExSz : Nat := 888

def maxBssCnt : Nat := 64

structure WlanBssidEx where
  bytes : Fin bssidExSz → U8

namespace WlanBssidEx

def byte (bss : WlanBssidEx) (offset : Nat) : U8 :=
  if inside : offset < bssidExSz then bss.bytes ⟨offset, inside⟩ else 0

def ulong (bss : WlanBssidEx) (offset : Nat) : U32 :=
  bss.byte (offset + 3) ++ bss.byte (offset + 2) ++ bss.byte (offset + 1) ++ bss.byte offset

def macAddress (bss : WlanBssidEx) : MacAddr := Vector.ofFn fun i => bss.byte (4 + i)

def reserved0 (bss : WlanBssidEx) : U8 := bss.byte 10

def ssid (bss : WlanBssidEx) : List U8 :=
  (List.range (bss.ulong 12).toNat).map fun i => bss.byte (16 + i)

def privacy (bss : WlanBssidEx) : U32 := bss.ulong 48

def rssi (bss : WlanBssidEx) : U32 := bss.ulong 52

/-- `Configuration.DSConfig`. -/
def dsConfig (bss : WlanBssidEx) : U32 := bss.ulong 72

def infrastructureMode (bss : WlanBssidEx) : U32 := bss.ulong 92

/-- `PhyInfo.Optimum_antenna`. -/
def optimumAntenna (bss : WlanBssidEx) : U8 := bss.byte 114

def ieLength (bss : WlanBssidEx) : U32 := bss.ulong 116

def capability (bss : WlanBssidEx) : U16 := bss.byte 131 ++ bss.byte 130

/-- `get_WLAN_BSSID_EX_sz`. -/
def sz (bss : WlanBssidEx) : U32 := 120 + bss.ieLength

def setByte (bss : WlanBssidEx) (offset : Nat) (value : U8) : WlanBssidEx where
  bytes i := if i = offset then value else bss.bytes i

def setUlong (bss : WlanBssidEx) (offset : Nat) (value : U32) : WlanBssidEx where
  bytes i :=
    if offset ≤ i.val ∧ i.val < offset + 4 then (value >>> (8 * (i.val - offset))).setWidth 8
    else bss.bytes i

/-- `_memcpy (dst, src, length)`. -/
def memcpy (dst src : WlanBssidEx) (length : Nat) : WlanBssidEx where
  bytes i := if i.val < length then src.bytes i else dst.bytes i

theorem byte_memcpy (dst src : WlanBssidEx) (length offset : Nat) : (dst.memcpy src length).byte offset =
      if offset < length then src.byte offset else dst.byte offset := by
  unfold byte
  by_cases inside : offset < bssidExSz
  · simp only [dif_pos inside, memcpy]
  · simp only [dif_neg inside, ite_self]

def capabilityBss : U16 := 1

def capabilityIbss : U16 := 2

def isSameNetwork (src dst : WlanBssidEx) : Bool :=
  src.ulong 12 = dst.ulong 12 && src.dsConfig = dst.dsConfig && src.macAddress = dst.macAddress &&
    src.ssid = dst.ssid &&
    src.capability &&& capabilityIbss = dst.capability &&& capabilityIbss &&
    src.capability &&& capabilityBss = dst.capability &&& capabilityBss

end WlanBssidEx

/-- `wlan_network`, less its place in a queue. -/
structure WlanNetwork where
  networkType : U32
  fixed : Bool
  lastScanned : U32
  aid : U32
  joinRes : U32
  network : WlanBssidEx

abbrev NetworkRef := Fin maxBssCnt

structure ScanTable where
  networks : NetworkRef → WlanNetwork
  freeBssPool : List NetworkRef
  scannedQueue : List NetworkRef
  numOfScanned : Int

structure AntennaDiversity where
  /-- `AntDivCfg` is set, and the chip is not a 92C. -/
  compares : Bool
  curAntenna : U8

def AntennaDiversity.swAntDivCompare (antenna : AntennaDiversity) (dst src : WlanBssidEx) : WlanBssidEx :=
  if antenna.compares ∧ src.rssi.toInt ≤ dst.rssi.toInt then
    (src.setUlong 52 dst.rssi).setByte 114 dst.optimumAntenna
  else src

def timeAfter (a b : U32) : Bool := (b - a).toInt < 0

namespace ScanTable

def modify (table : ScanTable) (pnetwork : NetworkRef) (change : WlanNetwork → WlanNetwork) : ScanTable :=
  { table with networks := Function.update table.networks pnetwork (change (table.networks pnetwork)) }

def setFixed (table : ScanTable) (fixed : Bool) : Option NetworkRef → ScanTable
  | none => table
  | some pnetwork => table.modify pnetwork fun record => { record with fixed }

def allocNetwork (now : U32) (table : ScanTable) : Option NetworkRef × ScanTable :=
  match table.freeBssPool with
  | [] => (none, table)
  | pnetwork :: rest =>
      (some pnetwork,
        { table with
          freeBssPool := rest
          numOfScanned := table.numOfScanned + 1 }.modify pnetwork fun record =>
            { record with networkType := 0, fixed := false, lastScanned := now, aid := 0, joinRes := 0 })

def insertTail (table : ScanTable) (pnetwork : NetworkRef) : ScanTable :=
  { table with scannedQueue := table.scannedQueue ++ [pnetwork] }

/-- A record goes from its queue to the end of `free_bss_pool`. -/
def release (table : ScanTable) (pnetwork : NetworkRef) : ScanTable :=
  { table with
    freeBssPool := unlink pnetwork table.freeBssPool ++ [pnetwork]
    scannedQueue := unlink pnetwork table.scannedQueue
    numOfScanned := table.numOfScanned - 1 }

def scanqueueLifetime : U32 := 20

def freeNetwork (hz now : U32) (adhoc isfreeall : Bool) (table : ScanTable) (pnetwork : NetworkRef) : ScanTable :=
  let record := table.networks pnetwork
  if record.fixed then table
  else
    let lifetime := if adhoc then 1 else scanqueueLifetime
    if !isfreeall ∧ (now - record.lastScanned) / hz < lifetime then table
    else table.release pnetwork

def freeNetworkNolock (table : ScanTable) : Option NetworkRef → ScanTable
  | none => table
  | some pnetwork => if (table.networks pnetwork).fixed then table else table.release pnetwork

def findNetwork (table : ScanTable) (addr : MacAddr) : Option NetworkRef :=
  if addr = Vector.replicate 6 0 then none
  else table.scannedQueue.find? fun pnetwork => (table.networks pnetwork).network.macAddress = addr

def freeNetworkQueue (hz now : U32) (adhoc isfreeall : Bool) (table : ScanTable) : ScanTable :=
  table.scannedQueue.foldl (freeNetwork hz now adhoc isfreeall) table

def freeScanqueue (table : ScanTable) : ScanTable :=
  table.scannedQueue.foldl release table

def oldestOf (table : ScanTable) (records : List NetworkRef) : Option NetworkRef :=
  records.foldl (fun oldest pwlan =>
    match oldest with
    | none => some pwlan
    | some found =>
        if timeAfter (table.networks found).lastScanned (table.networks pwlan).lastScanned then
          some pwlan
        else some found) none

theorem oldestOf_eq (table : ScanTable) (records : List NetworkRef) : table.oldestOf records =
    records.foldl (fun oldest pwlan => oldest.elim (some pwlan) fun found =>
      if timeAfter (table.networks found).lastScanned (table.networks pwlan).lastScanned then some pwlan
      else some found) none := by
  rw [oldestOf]
  congr 1
  funext oldest pwlan
  cases oldest <;> rfl

def getOldestWlanNetwork (table : ScanTable) : Option NetworkRef :=
  table.oldestOf (table.scannedQueue.filter fun pwlan => !(table.networks pwlan).fixed)

def updateNetwork (antenna : AntennaDiversity) (table : ScanTable) (pnetwork : NetworkRef)
    (src : WlanBssidEx) : ScanTable :=
  table.modify pnetwork fun record =>
    let src := antenna.swAntDivCompare record.network src
    { record with network := record.network.memcpy src src.sz.toNat }

def matching (table : ScanTable) (target : WlanBssidEx) : Option NetworkRef :=
  table.scannedQueue.find? fun pnetwork => (table.networks pnetwork).network.isSameNetwork target

def updateScannedNetwork (antenna : AntennaDiversity) (now : U32) (table : ScanTable)
    (target : WlanBssidEx) : ScanTable :=
  match table.matching target with
  | none =>
      let heard := target.setByte 114 antenna.curAntenna
      if table.freeBssPool = [] then
        -- the oldest record is looked for among all, those with `fixed` too
        match table.oldestOf table.scannedQueue with
        | none => table
        | some oldest =>
            table.modify oldest fun record =>
              { network := record.network.memcpy heard target.sz.toNat
                lastScanned := now
                fixed := false
                networkType := 0
                aid := 0
                joinRes := 0 }
      else
        match table.allocNetwork now with
        | (none, table) => table
        | (some pnetwork, table) =>
            let heard := heard.setUlong 0 target.sz
            (table.modify pnetwork fun record =>
              { record with network := record.network.memcpy heard target.sz.toNat }).insertTail
                pnetwork
  | some pnetwork =>
      if target.ieLength < (table.networks pnetwork).network.ieLength ∧ target.reserved0 = 1 then
        table
      else
        (table.updateNetwork antenna pnetwork target).modify pnetwork fun record =>
          { record with lastScanned := now }

end ScanTable

end Floid.Wifi
