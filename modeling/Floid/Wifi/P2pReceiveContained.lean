import Floid.Wifi.P2pContainment

namespace Floid.Wifi

open Osk Lib
open Option (bind_eq_bind bind_some getD_some isSome_iff_exists isSome_of_eq_some)

section

variable {noaAttr : Vector U8 256} {attrContentlen : Nat} {pwdinfo : P2pPs}
variable {noaOffset noaNum : U8}

def noaDescriptor (noaAttr : Vector U8 256) (place : Nat) : List U8 :=
  (noaAttr.toList.drop place).take 13

theorem noaLoop_done (passed : attrContentlen ≤ noaOffset.toNat) :
    noaLoop noaAttr attrContentlen pwdinfo noaOffset noaNum = some (pwdinfo, noaNum) := by
  rw [noaLoop, if_neg (Nat.not_lt.mpr passed)]

theorem noaLoop_next (more : noaOffset.toNat < attrContentlen) (inside : noaNum.toNat < 2)
    (early : noaOffset.toNat ≤ 243) :
    noaLoop noaAttr attrContentlen pwdinfo noaOffset noaNum =
      noaLoop noaAttr attrContentlen
        (pwdinfo.setNoa ⟨noaNum.toNat, inside⟩ (noaDescriptor noaAttr noaOffset.toNat))
        (noaOffset + 13) (noaNum + 1) := by
  have read : segment noaAttr.toList noaOffset.toNat 13 = some (noaDescriptor noaAttr noaOffset.toNat) :=
    segment_of_le (by rw [Vector.length_toList]; omega)
  rw [noaLoop, if_pos more, dif_pos inside]
  simp only [read]

theorem noaLoop_outside (more : noaOffset.toNat < attrContentlen) (outside : ¬noaNum.toNat < 2) :
    noaLoop noaAttr attrContentlen pwdinfo noaOffset noaNum = none := by
  rw [noaLoop, if_pos more, dif_neg outside]

theorem noaLoop_isSome_iff : (noaLoop noaAttr attrContentlen pwdinfo 2 0).isSome ↔ attrContentlen ≤ 28 := by
  by_cases none : attrContentlen ≤ 2
  · rw [noaLoop_done none]
    exact iff_of_true rfl (by omega)
  · rw [noaLoop_next (by exact Nat.lt_of_not_le none) (by decide) (by decide)]
    by_cases one : attrContentlen ≤ 15
    · rw [noaLoop_done one]
      exact iff_of_true rfl (by omega)
    · rw [noaLoop_next (by exact Nat.lt_of_not_le one) (by decide) (by decide)]
      by_cases two : attrContentlen ≤ 28
      · rw [noaLoop_done two]
        exact iff_of_true rfl two
      · rw [noaLoop_outside (by exact Nat.lt_of_not_le two) (by decide)]
        exact iff_of_false nofun two

end

/-- When `process_p2p_ps_ie` is contained: a Notice of Absence has at most two descriptors. -/
def PsContained (ies : List U8) : Prop :=
  WithP2pIe maxP2pIeLen ies ies.length fun p2pIe => AttrFits 28 p2pIe 0x0c

variable {n attrlen : Nat} {p2pIe data : List U8}

variable {target : U8}

theorem AttrFits.mono {m : Nat} (fits : AttrFits n p2pIe target)
    (le : n ≤ m) : AttrFits m p2pIe target := by
  obtain ⟨outcome, found, room⟩ := fits
  refine ⟨outcome, found, ?_⟩
  intro attrlen data same
  obtain ⟨whole, short⟩ := room attrlen data same
  exact ⟨whole, short.trans le⟩

theorem processP2pPsIe_isSome_iff (pwdinfo : P2pPs) (ies : List U8) :
    (processP2pPsIe pwdinfo ies).isSome ↔ PsContained ies := by
  refine (withP2pIe_isSome_iff rfl).trans (WithP2pIe.congr fun p2pIe => ?_)
  refine bind_isSome_iff.trans ?_
  constructor
  · rintro ⟨⟨there, noaAttr, attrlen⟩, got, well⟩
    obtain ⟨outcome, found, room⟩ := getP2pAttrInto_isSome_iff.mp (isSome_of_eq_some got)
    refine ⟨outcome, found, ?_⟩
    rintro attrlen_ data rfl
    obtain ⟨whole, fits⟩ := room attrlen_ data rfl
    obtain ⟨filled, copied, -⟩ := getP2pAttrInto_some (Vector.replicate 256 (0 : U8)) 0
      found whole fits
    cases copied.symm.trans got
    obtain ⟨after, looped, -⟩ := bind_isSome_iff.mp well
    have short := noaLoop_isSome_iff.mp (isSome_of_eq_some looped)
    refine ⟨whole, ?_⟩
    split at short <;> omega
  · intro fits
    obtain ⟨⟨there, noaAttr, attrlen⟩, got⟩ := isSome_iff_exists.mp
      (getP2pAttrInto_isSome_iff.mpr (fits.mono (by decide : 28 ≤ 256)))
    refine ⟨(there, noaAttr, attrlen), got, ?_⟩
    obtain ⟨outcome, found, room⟩ := fits
    cases outcome with
    | none =>
      cases (getP2pAttrInto_none found).symm.trans got
      rfl
    | some attr =>
      obtain ⟨attrlen_, data⟩ := attr
      obtain ⟨whole, short⟩ := room attrlen_ data rfl
      obtain ⟨filled, copied, -⟩ := getP2pAttrInto_some (Vector.replicate 256 (0 : U8)) 0
        found whole (by omega)
      cases copied.symm.trans got
      dsimp only
      rw [if_pos rfl]
      have bound : (if 2 < attrlen then attrlen else 0) ≤ 28 := by split <;> omega
      exact bind_isSome_iff.mpr (Exists.imp (fun after done => ⟨done, rfl⟩)
        (isSome_iff_exists.mp (noaLoop_isSome_iff.mpr bound)))

theorem be16At_take (bytes : List U8) : be16At (bytes.take 2) = be16At bytes := by
  simp [be16At, List.getD_eq_getElem?_getD]

def secdevTypes (content : List U8) : Nat := (content.getD 16 0).toNat

structure DeviceInfoContained (content : List U8) : Prop where
  types : 19 + secdevTypes content * 8 ≤ content.length
  name : be16At (content.drop (17 + secdevTypes content * 8)) = 0x1011 →
    21 + secdevTypes content * 8 +
      min 32 (be16At (content.drop (19 + secdevTypes content * 8))).toNat ≤ content.length

theorem devNameLen_toNat (len : U16) : (if 32 < len then 32 else len : U16).toNat = min 32 len.toNat := by
  split <;> bv_omega

theorem readName_isSome_iff (psta : StaDevice) (content : List U8) (place : Nat) :
    (psta.readName content place).isSome ↔ place + 2 ≤ content.length ∧
      (be16At (content.drop place) = 0x1011 →
        place + 4 + min 32 (be16At (content.drop (place + 2))).toNat ≤ content.length) := by
  unfold StaDevice.readName
  simp only [bind_eq_bind]
  rw [bind_isSome_iff]
  constructor
  · rintro ⟨type, read, well⟩
    obtain ⟨inside, rfl⟩ := segment_some read
    refine ⟨inside, ?_⟩
    intro name
    rw [be16At_take, if_pos name, bind_isSome_iff] at well
    obtain ⟨nameLen, readLen, well⟩ := well
    obtain ⟨insideLen, rfl⟩ := segment_some readLen
    obtain ⟨bytes, readName, -⟩ := bind_isSome_iff.mp well
    obtain ⟨insideName, -⟩ := segment_some readName
    rw [be16At_take, devNameLen_toNat] at insideName
    exact insideName
  · rintro ⟨inside, name⟩
    refine ⟨_, segment_of_le inside, ?_⟩
    rw [be16At_take]
    by_cases named : be16At (content.drop place) = 0x1011
    · have whole := name named
      have readLen : segment content (place + 2) 2 = some ((content.drop (place + 2)).take 2) :=
        segment_of_le (by omega)
      rw [if_pos named, readLen, bind_some, be16At_take, devNameLen_toNat, segment_of_le whole, bind_some]
      have room : 0 + ((content.drop (place + 4)).take
          (min 32 (be16At (content.drop (place + 2))).toNat)).length ≤ 32 := by
        rw [List.length_take]
        omega
      unfold fillField
      rw [if_pos room]
      rfl
    · rw [if_neg named]
      rfl

theorem readInfo_isSome_iff (psta : StaDevice) (content : List U8) :
    (psta.readInfo content).isSome ↔ DeviceInfoContained content := by
  unfold StaDevice.readInfo
  simp only [bind_eq_bind]
  constructor
  · intro well
    obtain ⟨devAddr, -, well⟩ := bind_isSome_iff.mp well
    obtain ⟨configMethods, -, well⟩ := bind_isSome_iff.mp well
    obtain ⟨primaryDevType, -, well⟩ := bind_isSome_iff.mp well
    obtain ⟨numOfSecdevType, num, well⟩ := bind_isSome_iff.mp well
    obtain ⟨types, -, well⟩ := bind_isSome_iff.mp well
    obtain ⟨secdevTypesList, -, well⟩ := bind_isSome_iff.mp well
    have count : secdevTypes content = numOfSecdevType.toNat := by
      rw [secdevTypes, List.getD_eq_getElem?_getD, num, getD_some]
    obtain ⟨inside, name⟩ := (readName_isSome_iff ..).mp well
    rw [← count] at inside name
    refine ⟨by omega, ?_⟩
    intro named
    have whole := name named
    rw [show 17 + secdevTypes content * 8 + 2 = 19 + secdevTypes content * 8 by omega] at whole
    omega
  · rintro ⟨types, name⟩
    have num : content[16]? = some (content.getD 16 0) := by
      rw [List.getD_eq_getElem?_getD, List.getElem?_eq_getElem (by omega), getD_some]
    have room : 0 + ((content.drop 17).take (min 32 (secdevTypes content * 8))).length ≤ 32 := by
      rw [List.length_take]
      omega
    rw [segment_of_le (by omega), bind_some, segment_of_le (by omega), bind_some,
      segment_of_le (by omega), bind_some, num, bind_some]
    change ((segment content 17 (min 32 (secdevTypes content * 8))).bind _).isSome
    rw [segment_of_le (by omega), bind_some]
    unfold fillField
    rw [if_pos room, bind_some]
    refine (readName_isSome_iff ..).mpr ⟨?_, ?_⟩
    · change 17 + secdevTypes content * 8 + 2 ≤ content.length
      omega
    · intro named
      have whole := name named
      change 17 + secdevTypes content * 8 + 4 +
        min 32 (be16At (content.drop (17 + secdevTypes content * 8 + 2))).toNat ≤ content.length
      rw [show 17 + secdevTypes content * 8 + 2 = 19 + secdevTypes content * 8 by omega]
      omega

/-- When `process_assoc_req_p2p_ie` is contained. -/
def AssocContained (role : P2pRole) (p2pIe : List U8) (allocated : Bool) : Prop :=
  role = .go → AttrFits 2 p2pIe 0x02 ∧
    ((∃ capability, P2pAttr p2pIe 0x02 (some capability)) →
      ∃ outcome, P2pAttr p2pIe 0x0d outcome ∧ ∀ attrlen data, outcome = some (attrlen, data) →
        allocated = true → attrlen ≤ data.length ∧ DeviceInfoContained (data.take attrlen))

theorem attr_there_iff {attrContent : Vector U8 n} {attrContentlen : Nat} {read : Bool × Vector U8 n × Nat}
    (got : getP2pAttrInto p2pIe target attrContent attrContentlen = some read) :
    read.1 = true ↔ ∃ attr, P2pAttr p2pIe target (some attr) := by
  obtain ⟨outcome, found, room⟩ := getP2pAttrInto_isSome_iff.mp (isSome_of_eq_some got)
  cases outcome with
  | none =>
    cases (getP2pAttrInto_none found).symm.trans got
    refine iff_of_false Bool.false_ne_true ?_
    rintro ⟨attr, again⟩
    cases found.unique again
  | some attr =>
    obtain ⟨attrlen, data⟩ := attr
    obtain ⟨whole, fits⟩ := room attrlen data rfl
    obtain ⟨filled, copied, -⟩ := getP2pAttrInto_some attrContent attrContentlen found whole fits
    cases copied.symm.trans got
    exact iff_of_true rfl ⟨_, found⟩

theorem deviceInfo_isSome_iff (p2pIe : List U8) (psta : StaDevice) (allocated : Bool) :
    ((findP2pAttr p2pIe 0x0d).bind fun
      | none => some (p2pStatusFailInvalidParam, psta)
      | some (attrlen, data) =>
          if allocated then
            (segment data 0 attrlen).bind fun content =>
              (psta.readInfo content).bind fun psta => some (p2pStatusSuccess, psta)
          else some (p2pStatusSuccess, psta)).isSome ↔
      ∃ outcome, P2pAttr p2pIe 0x0d outcome ∧ ∀ attrlen data, outcome = some (attrlen, data) →
        allocated = true → attrlen ≤ data.length ∧ DeviceInfoContained (data.take attrlen) := by
  rw [bind_isSome_iff]
  constructor
  · rintro ⟨outcome, found, well⟩
    refine ⟨outcome, findP2pAttr_eq_some_iff.mp found, ?_⟩
    rintro attrlen data rfl rfl
    dsimp only at well
    rw [if_pos rfl] at well
    obtain ⟨content, read, well⟩ := bind_isSome_iff.mp well
    obtain ⟨whole, rfl⟩ := segment_some read
    obtain ⟨after, info, -⟩ := bind_isSome_iff.mp well
    refine ⟨by omega, ?_⟩
    rw [List.drop_zero] at info
    exact (readInfo_isSome_iff ..).mp (isSome_of_eq_some info)
  · rintro ⟨outcome, found, contained⟩
    refine ⟨outcome, findP2pAttr_eq_some_iff.mpr found, ?_⟩
    cases outcome with
    | none => rfl
    | some attr =>
      obtain ⟨attrlen, data⟩ := attr
      dsimp only
      cases allocated with
      | false => rfl
      | true =>
        obtain ⟨whole, info⟩ := contained attrlen data rfl rfl
        rw [if_pos rfl, segment_of_le (by omega), bind_some, List.drop_zero]
        obtain ⟨after, done⟩ := isSome_iff_exists.mp
          ((readInfo_isSome_iff psta (data.take attrlen)).mpr info)
        rw [done]
        rfl

theorem processAssocReqDevice_isSome_iff (role : P2pRole) (p2pIe : List U8) (psta : StaDevice) (allocated : Bool) :
    (processAssocReqDevice role p2pIe psta allocated).isSome ↔ AssocContained role p2pIe allocated := by
  unfold processAssocReqDevice AssocContained
  by_cases owner : role = .go
  · rw [if_neg (not_not.mpr owner)]
    refine bind_isSome_iff.trans (Iff.trans ?_ (forall_prop_of_true owner).symm)
    constructor
    · rintro ⟨⟨there, capAttr, attrlen⟩, got, well⟩
      refine ⟨getP2pAttrInto_isSome_iff.mp (isSome_of_eq_some got), ?_⟩
      rintro ⟨⟨capLen, capData⟩, capability⟩
      have found := (attr_there_iff got).mpr ⟨_, capability⟩
      dsimp only at found well
      rw [found, if_neg (by decide)] at well
      exact (deviceInfo_isSome_iff ..).mp well
    · rintro ⟨fits, info⟩
      obtain ⟨⟨there, capAttr, attrlen⟩, got⟩ :=
        isSome_iff_exists.mp (getP2pAttrInto_isSome_iff.mpr fits)
      refine ⟨(there, capAttr, attrlen), got, ?_⟩
      dsimp only
      cases there with
      | false => rfl
      | true =>
        rw [if_neg (by decide)]
        exact (deviceInfo_isSome_iff ..).mpr (info ((attr_there_iff got).mp rfl))
  · rw [if_pos owner]
    exact iff_of_true rfl fun go => absurd go owner

def OwnGroup (pwdinfo : DevdiscInfo) (groupid : List U8) : Prop :=
  (groupid ++ List.replicate (38 - groupid.length) 0).take 15 =
    pwdinfo.deviceAddr.toList ++ pwdinfo.p2pGroupSsid.toList

structure DevdiscAttrsContained (pwdinfo : DevdiscInfo) (p2pIe : List U8) : Prop where
  groupid : AttrFits 38 p2pIe 0x0f
  device : ∀ attrlen data, P2pAttr p2pIe 0x0f (some (attrlen, data)) →
    OwnGroup pwdinfo (data.take attrlen) → AttrFits 6 p2pIe 0x03

/-- When `process_p2p_devdisc_req` is contained. -/
structure DevdiscContained (pwdinfo : DevdiscInfo) (pframe : List U8) (len : U32) : Prop where
  token : 32 ≤ pframe.length
  p2p : WithP2pIe maxP2pIeLen (pframe.drop 32) (len - 8).toNat (DevdiscAttrsContained pwdinfo)

theorem ownGroup_iff {pwdinfo : DevdiscInfo} {groupid : Vector U8 38} {there : Bool} {attrContentlen : Nat}
    (got : getP2pAttrInto p2pIe 0x0f (Vector.replicate 38 (0 : U8)) attrContentlen =
      some (there, groupid, attrlen)) {attrlen_ : Nat}
    (found : P2pAttr p2pIe 0x0f (some (attrlen_, data))) :
    groupid.toList.take 15 = pwdinfo.deviceAddr.toList ++ pwdinfo.p2pGroupSsid.toList ↔
      OwnGroup pwdinfo (data.take attrlen_) := by
  obtain ⟨outcome, again, room⟩ := getP2pAttrInto_isSome_iff.mp (isSome_of_eq_some got)
  cases found.unique again
  obtain ⟨whole, fits⟩ := room attrlen_ data rfl
  obtain ⟨filled, copied, bytes⟩ := getP2pAttrInto_some (Vector.replicate 38 (0 : U8))
    attrContentlen found whole fits
  cases copied.symm.trans got
  rw [bytes, OwnGroup, List.length_take, Nat.min_eq_left whole, Vector.toList_replicate, List.drop_replicate]

theorem processP2pDevdiscReq_isSome_iff (pwdinfo : DevdiscInfo) (pframe : List U8) (len : U32) :
    (processP2pDevdiscReq pwdinfo pframe len).isSome ↔ DevdiscContained pwdinfo pframe len := by
  have token : (∃ dialogToken, pframe[31]? = some dialogToken) ↔ 32 ≤ pframe.length := by
    constructor
    · rintro ⟨dialogToken, found⟩
      exact (List.getElem?_eq_some_iff.mp found).1
    · intro long
      exact ⟨_, List.getElem?_eq_getElem (show 31 < pframe.length by omega)⟩
  have walked : (processP2pDevdiscReq pwdinfo pframe len).isSome ↔
      (∃ dialogToken, pframe[31]? = some dialogToken) ∧
        WithP2pIe maxP2pIeLen (pframe.drop 32) (len - 8).toNat
          (DevdiscAttrsContained pwdinfo) := by
    refine bind_isSome_iff.trans ?_
    rw [← exists_and_right]
    refine exists_congr fun dialogToken => and_congr_right fun _ => ?_
    refine (withP2pIe_isSome_iff rfl).trans (WithP2pIe.congr fun p2pIe => ?_)
    refine bind_isSome_iff.trans ?_
    constructor
    · rintro ⟨⟨there, groupid, attrlen⟩, got, well⟩
      refine ⟨getP2pAttrInto_isSome_iff.mp (isSome_of_eq_some got), ?_⟩
      intro attrlen_ data found own
      have thereTrue := (attr_there_iff got).mpr ⟨_, found⟩
      dsimp only at thereTrue well
      rw [thereTrue, if_neg (by decide), if_neg (not_not.mpr ((ownGroup_iff got found).mpr own))] at well
      obtain ⟨read, device, -⟩ := bind_isSome_iff.mp well
      exact getP2pAttrInto_isSome_iff.mp (isSome_of_eq_some device)
    · rintro ⟨fits, device⟩
      obtain ⟨⟨there, groupid, attrlen⟩, got⟩ :=
        isSome_iff_exists.mp (getP2pAttrInto_isSome_iff.mpr fits)
      refine ⟨(there, groupid, attrlen), got, ?_⟩
      dsimp only
      cases there with
      | false => rfl
      | true =>
        rw [if_neg (by decide)]
        by_cases own : groupid.toList.take 15 = pwdinfo.deviceAddr.toList ++ pwdinfo.p2pGroupSsid.toList
        · rw [if_neg (not_not.mpr own)]
          obtain ⟨⟨attrlen_, data⟩, found⟩ := (attr_there_iff got).mp rfl
          have fits := device attrlen_ data found ((ownGroup_iff got found).mp own)
          refine (attr_isSome_iff fun read => iff_of_true ?_ trivial).mpr ⟨fits, trivial⟩
          split
          · rfl
          · rfl
        · rw [if_pos own]
          rfl
  rw [walked, token]
  exact ⟨fun ⟨token, p2p⟩ => ⟨token, p2p⟩, fun ⟨token, p2p⟩ => ⟨token, p2p⟩⟩

structure NoaEntry (pwdinfo : P2pPs) (noaNum : Fin 2) (descriptor : List U8) : Prop where
  count : pwdinfo.noaCount.get noaNum = descriptor.getD 0 0
  duration : pwdinfo.noaDuration.get noaNum = wordAt descriptor 1
  interval : pwdinfo.noaInterval.get noaNum = wordAt descriptor 5
  startTime : pwdinfo.noaStartTime.get noaNum = wordAt descriptor 9

theorem setNoa_entry (pwdinfo : P2pPs) (noaNum : Fin 2) (descriptor : List U8) :
    NoaEntry (pwdinfo.setNoa noaNum descriptor) noaNum descriptor := by
  constructor <;> exact Vector.getElem_set_self _

theorem NoaEntry.setSecond {pwdinfo : P2pPs} {descriptor : List U8}
    (entry : NoaEntry pwdinfo 0 descriptor) (second : List U8) :
    NoaEntry (pwdinfo.setNoa 1 second) 0 descriptor := by
  obtain ⟨count, duration, interval, startTime⟩ := entry
  constructor
  · exact (Vector.getElem_set_ne (by decide) (by decide) (by decide)).trans count
  · exact (Vector.getElem_set_ne (by decide) (by decide) (by decide)).trans duration
  · exact (Vector.getElem_set_ne (by decide) (by decide) (by decide)).trans interval
  · exact (Vector.getElem_set_ne (by decide) (by decide) (by decide)).trans startTime

theorem noaDescriptor_data {noaAttr : Vector U8 256} {zeros : List U8} {place : Nat}
    (bytes : noaAttr.toList = data.take attrlen ++ zeros) (whole : attrlen ≤ data.length)
    (inside : place + 13 ≤ attrlen) :
    noaDescriptor noaAttr place = (data.drop place).take 13 := by
  rw [noaDescriptor, bytes, List.drop_append_of_le_length (by rw [List.length_take]; omega),
    List.take_append_of_le_length (by rw [List.length_drop, List.length_take]; omega),
    List.drop_take, List.take_take, Nat.min_eq_left (by omega)]

theorem processP2pPsIe_noa (pwdinfo : P2pPs) {ies : List U8}
    (copied : P2pIeCopied maxP2pIeLen ies ies.length (some p2pIe))
    (notice : P2pAttr p2pIe 0x0c (some (2 + 13 * n, data))) (whole : 2 + 13 * n ≤ data.length)
    (few : n ≤ 2) :
    ∃ after, processP2pPsIe pwdinfo ies = some after ∧ after.noaNum.toNat = n ∧
      ∀ i : Fin 2, i.val < n → NoaEntry after i ((data.drop (2 + 13 * i.val)).take 13) := by
  obtain ⟨noaAttr, read, bytes⟩ :=
    getP2pAttrInto_some (Vector.replicate 256 (0 : U8)) 0 notice whole (by omega)
  have looped : ∃ after noaNum, noaLoop noaAttr (if 2 < 2 + 13 * n then 2 + 13 * n else 0)
      { pwdinfo with
        noaIndex := noaAttr[0]
        oppPs := noaAttr[1] >>> 7
        ctwindow := noaAttr[1] &&& 0x7f } 2 0 = some (after, noaNum) ∧ noaNum.toNat = n ∧
      ∀ i : Fin 2, i.val < n → NoaEntry after i ((data.drop (2 + 13 * i.val)).take 13) := by
    generalize ({ pwdinfo with
      noaIndex := noaAttr[0]
      oppPs := noaAttr[1] >>> 7
      ctwindow := noaAttr[1] &&& 0x7f } : P2pPs) = pwdinfo
    obtain rfl | rfl | rfl : n = 0 ∨ n = 1 ∨ n = 2 := by omega
    · refine ⟨pwdinfo, 0, ?_, rfl, fun i none => absurd none (Nat.not_lt_zero _)⟩
      rw [if_neg (by decide)]
      exact noaLoop_done (by decide)
    · have first : noaDescriptor noaAttr 2 = (data.drop 2).take 13 :=
        noaDescriptor_data bytes whole (by decide)
      refine ⟨pwdinfo.setNoa 0 ((data.drop 2).take 13), 1, ?_, rfl, ?_⟩
      · rw [if_pos (by decide), noaLoop_next (by decide) (by decide) (by decide), noaLoop_done (by decide), ← first]
        rfl
      · intro i one
        obtain rfl : i = 0 := by omega
        exact setNoa_entry ..
    · have first : noaDescriptor noaAttr 2 = (data.drop 2).take 13 :=
        noaDescriptor_data bytes whole (by decide)
      have second : noaDescriptor noaAttr 15 = (data.drop 15).take 13 :=
        noaDescriptor_data bytes whole (by decide)
      refine ⟨(pwdinfo.setNoa 0 ((data.drop 2).take 13)).setNoa 1 ((data.drop 15).take 13), 2, ?_, rfl, ?_⟩
      · rw [if_pos (by decide), noaLoop_next (by decide) (by decide) (by decide),
          noaLoop_next (by decide) (by decide) (by decide), noaLoop_done (by decide), ← first,
          ← second]
        rfl
      · intro i both
        match i with
        | 0 => exact (setNoa_entry ..).setSecond _
        | 1 => exact setNoa_entry ..
  obtain ⟨after, noaNum, done, count, entries⟩ := looped
  refine ⟨{ after with noaNum, enabled := after.enabled || after.oppPs = 1 || 0 < noaNum }, ?_, count, ?_⟩
  · unfold processP2pPsIe
    simp only [bind_eq_bind]
    rw [getP2pIeInto_eq_some_iff.mpr copied, bind_some]
    dsimp only
    rw [read, bind_some]
    dsimp only
    rw [if_pos rfl, done, bind_some]
    rfl
  · intro i small
    obtain ⟨count, duration, interval, startTime⟩ := entries i small
    exact ⟨count, duration, interval, startTime⟩

/-- What the six handlers do with a frame: when they stay inside what is there, and the entries of
a Notice of Absence that has room. -/
theorem p2pHandlers_contained_iff (ies p2pIe pframe : List U8) (len : U32) :
    (∀ pwdinfo, (processP2pPsIe pwdinfo ies).isSome ↔ PsContained ies) ∧
    (∀ role psta allocated, (processAssocReqDevice role p2pIe psta allocated).isSome ↔
      AssocContained role p2pIe allocated) ∧
    (∀ pwdinfo, (processP2pDevdiscReq pwdinfo pframe len).isSome ↔ DevdiscContained pwdinfo pframe len) ∧
    (∀ pwdinfo : NegoInfo, ((pwdinfo.processP2pGroupNegotationReq pframe len).isSome ↔ ReqContained pframe len) ∧
      ((pwdinfo.processP2pGroupNegotationResp pframe len).isSome ↔ RespContained pwdinfo.intent pframe len) ∧
      ((pwdinfo.processP2pGroupNegotationConfirm pframe len).isSome ↔ ConfirmContained pframe len)) ∧
    ∀ pwdinfo data n, P2pIeCopied maxP2pIeLen ies ies.length (some p2pIe) →
      P2pAttr p2pIe 0x0c (some (2 + 13 * n, data)) → 2 + 13 * n ≤ data.length → n ≤ 2 →
      ∃ after, processP2pPsIe pwdinfo ies = some after ∧ after.noaNum.toNat = n ∧
        ∀ i : Fin 2, i.val < n → NoaEntry after i ((data.drop (2 + 13 * i.val)).take 13) := by
  refine ⟨fun pwdinfo => processP2pPsIe_isSome_iff pwdinfo ies, ?_, ?_, ?_, ?_⟩
  · intro role psta allocated
    exact processAssocReqDevice_isSome_iff role p2pIe psta allocated
  · intro pwdinfo
    exact processP2pDevdiscReq_isSome_iff pwdinfo pframe len
  · intro pwdinfo
    exact ⟨processReq_isSome_iff pwdinfo pframe len, processResp_isSome_iff pwdinfo pframe len,
      processConfirm_isSome_iff pwdinfo pframe len⟩
  · intro pwdinfo data n copied notice whole few
    exact processP2pPsIe_noa pwdinfo copied notice whole few

def noticeIe (notice : List U8) : List U8 :=
  [vendorSpecificIe, .ofNat 8 (notice.length + 7)] ++ WifidirectInfo.p2poui ++
    [0x0c, .ofNat 8 notice.length, 0] ++ notice

def noPs : P2pPs :=
  ⟨0, 0, 0, 0, .replicate 2 0, .replicate 2 0, .replicate 2 0, .replicate 2 0, false⟩

def oneDescriptor : List U8 := [1, 0, 3, 0, 0, 1, 0, 0, 0, 2, 0, 0, 0, 4, 0]

theorem oneDescriptor_copied : P2pIeCopied maxP2pIeLen (noticeIe oneDescriptor)
    (noticeIe oneDescriptor).length (some (noticeIe oneDescriptor)) :=
  .copied (.found (by decide) rfl) (by decide) (by decide)

theorem oneDescriptor_notice : P2pAttr (noticeIe oneDescriptor) 0x0c (some (2 + 13 * 1, oneDescriptor)) := by
  refine ⟨by decide, ?_⟩
  rw [if_pos (by decide)]
  exact .found

theorem p2pHandlers_contained_notice :
    ∃ after, processP2pPsIe noPs (noticeIe oneDescriptor) = some after ∧ after.noaNum.toNat = 1 ∧
      ∀ i : Fin 2, i.val < 1 → NoaEntry after i ((oneDescriptor.drop (2 + 13 * i.val)).take 13) := by
  obtain ⟨-, -, -, -, entries⟩ :=
    p2pHandlers_contained_iff (noticeIe oneDescriptor) (noticeIe oneDescriptor) [] 0
  exact entries noPs oneDescriptor 1 oneDescriptor_copied oneDescriptor_notice (by decide) (by decide)

/-- A third descriptor is written behind the arrays. -/
theorem p2pHandlers_not_contained : ¬∀ pwdinfo ies, (processP2pPsIe pwdinfo ies).isSome := by
  intro contained
  obtain ⟨copied, again, fits⟩ := (processP2pPsIe_isSome_iff noPs _).mp
    (contained noPs (noticeIe (List.replicate 41 0)))
  have whole : P2pIeCopied maxP2pIeLen (noticeIe (List.replicate 41 0))
      (noticeIe (List.replicate 41 0)).length (some (noticeIe (List.replicate 41 0))) :=
    .copied (.found (by decide) rfl) (by decide) (by decide)
  have same := (getP2pIeInto_eq_some_iff.mpr again).symm.trans
    (getP2pIeInto_eq_some_iff.mpr whole)
  cases same
  obtain ⟨outcome, found, room⟩ := fits _ rfl
  have notice : P2pAttr (noticeIe (List.replicate 41 0)) 0x0c
      (some (41, List.replicate 41 0)) := by
    refine ⟨by decide, ?_⟩
    rw [if_pos (by decide)]
    exact .found
  exact absurd (room 41 _ (found.unique notice)).2 (by decide)

end Floid.Wifi
