import Floid.Wifi.Coalesce
import Floid.Wifi.CollectBss

/-!
How a management frame is built: behind the transmit descriptor in an extended transmit buffer,
with `pframe` where the next byte goes and `pktlen` counted apart. And the P2P elements that
are built behind it.
-/

namespace Floid.Wifi

open Osk
open BitVec (ofNat toNat_add toNat_ofNat)

def ibssParaIe : U8 := 6

def maxXmitExtbufSz : Nat := 2048

def shortBytes (value : U16) : List U8 := [value.setWidth 8, (value >>> 8).setWidth 8]

def shortBytesBe (value : U16) : List U8 := [(value >>> 8).setWidth 8, value.setWidth 8]

def bytesFrom (memory : Nat → U8) (start count : Nat) : List U8 :=
  (List.range count).map fun i => memory (start + i)

structure MgntBuild where
  /-- The bytes from the frame control to `pframe`. -/
  frame : List U8
  pktlen : U32
  extent : Nat

namespace MgntBuild

def header (subType : U16) (addr1 addr2 addr3 : MacAddr) (num : U16) : MgntBuild where
  frame := shortBytes subType ++ ([0, 0] : List U8) ++ addr1.toList ++ addr2.toList ++ addr3.toList ++
    shortBytes ((num <<< 4) &&& 0xfff0)
  pktlen := 24
  extent := 64

variable (build : MgntBuild)

def copy (count : U32) (bytes : List U8) : MgntBuild where
  frame := (build.frame ++ bytes).take ((build.frame.length + count.toNat) % 2 ^ 32)
  pktlen := build.pktlen + count
  extent := max build.extent (build.frame.length + bytes.length)

def setFixedIe (source : List U8) : MgntBuild := build.copy (ofNat 32 source.length) source

def setIe (index : U8) (len : U32) (source : Nat → U8) : MgntBuild :=
  build.copy (len + 2) (index :: len.setWidth 8 :: bytesFrom source 0 len.toNat)

/-- A frame that is as long as its `pktlen` says, in a buffer that has held it all the time. -/
structure Proper (build : MgntBuild) : Prop where
  pktlen : build.pktlen.toNat = build.frame.length
  fits : txdescOffset + build.extent ≤ maxXmitExtbufSz

structure Within (limit : Nat) (build : MgntBuild) : Prop where
  pktlen : build.pktlen = ofNat 32 build.frame.length
  length : build.frame.length ≤ limit
  extent : build.extent ≤ max 64 limit

variable {build : MgntBuild} {limit more : Nat}

theorem Within.proper (within : build.Within limit) (small : limit ≤ 2008) : build.Proper := by
  have length := within.length
  have extent := within.extent
  constructor
  · rw [within.pktlen, toNat_ofNat, Nat.mod_eq_of_lt (by omega)]
  · have offset : txdescOffset = 40 := rfl
    unfold maxXmitExtbufSz
    omega

theorem Within.mono (within : build.Within limit) (le : limit ≤ more) : build.Within more :=
  ⟨within.pktlen, within.length.trans le, within.extent.trans (max_le_max_left 64 le)⟩

theorem header_length (subType : U16) (addr1 addr2 addr3 : MacAddr) (num : U16) :
    (header subType addr1 addr2 addr3 num).frame.length = 24 := by
  simp [header, shortBytes]

theorem header_within (subType : U16) (addr1 addr2 addr3 : MacAddr) (num : U16) :
    (header subType addr1 addr2 addr3 num).Within 24 := by
  have length := header_length subType addr1 addr2 addr3 num
  exact ⟨by rw [length]; rfl, length.le, le_rfl⟩

variable {bytes : List U8} {count : U32}

theorem copy_pktlen (same : build.pktlen = ofNat 32 build.frame.length)
    (reaches : (build.frame.length + count.toNat) % 2 ^ 32 ≤ build.frame.length + bytes.length) :
    (build.copy count bytes).pktlen = ofNat 32 (build.copy count bytes).frame.length := by
  have length : (build.copy count bytes).frame.length = (build.frame.length + count.toNat) % 2 ^ 32 := by
    rw [copy, List.length_take, List.length_append]
    exact min_eq_left reaches
  rw [length]
  apply BitVec.eq_of_toNat_eq
  rw [copy, same, toNat_add, toNat_ofNat, toNat_ofNat, Nat.mod_mod, Nat.mod_add_mod]

theorem Within.copy (within : build.Within limit)
    (reaches : count.toNat ≤ bytes.length) (room : limit + bytes.length ≤ more) :
    (build.copy count bytes).Within more := by
  have length := within.length
  have extent := within.extent
  refine ⟨copy_pktlen within.pktlen ?_, ?_, ?_⟩
  · exact (Nat.mod_le _ _).trans (Nat.add_le_add_left reaches _)
  · rw [MgntBuild.copy, List.length_take, List.length_append]
    omega
  · dsimp only [MgntBuild.copy]
    omega

theorem Within.setFixedIe {source : List U8} (within : build.Within limit)
    (room : limit + source.length ≤ more) : (build.setFixedIe source).Within more := by
  refine within.copy ?_ room
  rw [toNat_ofNat]
  exact Nat.mod_le _ _

@[simp]
theorem length_bytesFrom (memory : Nat → U8) (start count : Nat) :
    (bytesFrom memory start count).length = count := by
  rw [bytesFrom, List.length_map, List.length_range]

theorem Within.copyFrom {memory : Nat → U8} {start : Nat}
    (within : build.Within limit) (room : limit + count.toNat ≤ more) :
    (build.copy count (bytesFrom memory start count.toNat)).Within more :=
  within.copy (length_bytesFrom ..).ge (by rwa [length_bytesFrom])

theorem Within.setIe {index : U8} {len : U32} {source : Nat → U8} (within : build.Within limit)
    (room : limit + (len.toNat + 2) ≤ more) : (build.setIe index len source).Within more := by
  refine within.copy ?_ ?_
  · simp only [List.length_cons, length_bytesFrom, toNat_add]
    exact Nat.mod_le _ _
  · simp only [List.length_cons, length_bytesFrom]
    omega

end MgntBuild

def setP2pAttrContent (attrId : U8) (attrLen : U16) (data : List U8) : List U8 :=
  attrId :: shortBytes attrLen ++ data

structure P2pClient where
  isP2pDevice : Bool
  devAddr : MacAddr
  hwaddr : MacAddr
  devCap : U8
  configMethods : U16
  primaryDevType : Vector U8 8
  numOfSecdevType : U8
  /-- The memory from `secdev_types_list` on, and from `dev_name`. -/
  secdevTypesList : Nat → U8
  devNameLen : U16
  devName : Nat → U8

structure WifidirectInfo where
  role : P2pRole
  p2pState : P2pState
  deviceAddr : MacAddr
  /-- The memory from `device_name` on. -/
  deviceName : Nat → U8
  deviceNameLen : U8
  /-- The stations of `asoc_list`. -/
  asocList : List P2pClient

/-- What `go_add_group_info_attr` writes for a station, behind the byte with the length. -/
def P2pClient.body (psta : P2pClient) : List U8 :=
  psta.devAddr.toList ++ psta.hwaddr.toList ++ [psta.devCap] ++ shortBytesBe psta.configMethods ++
    psta.primaryDevType.toList ++ [psta.numOfSecdevType] ++
    bytesFrom psta.secdevTypesList 0 (psta.numOfSecdevType.toNat * 8) ++
    if 0 < psta.devNameLen then
      shortBytesBe 0x1011 ++ shortBytesBe psta.devNameLen ++ bytesFrom psta.devName 0 psta.devNameLen.toNat
    else []

def P2pClient.tmplen (psta : P2pClient) : U8 := ofNat 8 (psta.body.length + 1)

namespace WifidirectInfo

variable (pwdinfo : WifidirectInfo)

def clients : List P2pClient := pwdinfo.asocList.filter P2pClient.isP2pDevice

def groupInfo : List U8 := pwdinfo.clients.flatMap fun psta => (psta.tmplen - 1) :: psta.body

/-- `attr_len`. -/
def groupInfoLen : U16 := (pwdinfo.clients.map fun psta => psta.tmplen.setWidth 16).sum

def goAddGroupInfoAttr : Option (List U8) :=
  if maxP2pIeLen < pwdinfo.groupInfo.length then none
  else if 0 < pwdinfo.groupInfoLen then
    some (setP2pAttrContent 0x0e pwdinfo.groupInfoLen (pwdinfo.groupInfo.take pwdinfo.groupInfoLen.toNat))
  else some []

def grpcap : U8 := if pwdinfo.p2pState = .provisioningIng then 0x49 else 0x09

def p2poui : List U8 := [0x50, 0x6f, 0x9a, 0x09]

def beaconP2pIe : List U8 :=
  p2poui ++ setP2pAttrContent 0x02 2 [0x20, pwdinfo.grpcap] ++
    setP2pAttrContent 0x03 6 pwdinfo.deviceAddr.toList

def probeRespP2pIe : List U8 :=
  p2poui ++ [0x02] ++ shortBytes 2 ++ [0x20] ++
    (match pwdinfo.role with
      | .go => [pwdinfo.grpcap]
      | .device => [0]
      | .disable | .client => []) ++
    [0x08] ++ shortBytes 4 ++ [0xff, 0xff, 0xff, 0xff] ++
    [0x0d] ++ shortBytes (21 + pwdinfo.deviceNameLen.setWidth 16) ++ pwdinfo.deviceAddr.toList ++
    shortBytesBe 0x0008 ++ shortBytesBe 0x001e ++ [0x00, 0x50, 0xf2, 0x04] ++
    shortBytesBe 0x0001 ++ [0] ++ shortBytesBe 0x1011 ++
    shortBytesBe (pwdinfo.deviceNameLen.setWidth 16) ++
    bytesFrom pwdinfo.deviceName 0 pwdinfo.deviceNameLen.toNat

/-- `build_probe_resp_p2p_ie`, up to its `set_ie`. It is `none` where it writes behind
`p2pie`. -/
def buildProbeRespP2pIe : Option (List U8) :=
  (if pwdinfo.role = .go then pwdinfo.goAddGroupInfoAttr else some []).bind fun group =>
    if maxP2pIeLen < (pwdinfo.probeRespP2pIe ++ group).length then none
    else some (pwdinfo.probeRespP2pIe ++ group)

end WifidirectInfo

def assocRespP2pIe (statusCode : U8) : List U8 :=
  WifidirectInfo.p2poui ++ setP2pAttrContent 0x00 1 [statusCode]

def MgntBuild.setP2pIe (build : MgntBuild) (p2pie : List U8) : MgntBuild :=
  build.setIe vendorSpecificIe (ofNat 32 p2pie.length) fun i => p2pie.getD i 0

theorem MgntBuild.Within.setP2pIe {build : MgntBuild} {limit more : Nat} {p2pie : List U8}
    (within : build.Within limit) (room : limit + (p2pie.length + 2) ≤ more) :
    (build.setP2pIe p2pie).Within more := by
  have width := Nat.mod_le p2pie.length (2 ^ 32)
  refine within.setIe ?_
  rw [toNat_ofNat]
  omega

end Floid.Wifi
