import Floid.Wifi.ElementSearch
import Floid.Wifi.MgntProper

/-!
The elements that an access point puts into its frames: the group information of a group owner, and the
traffic map, which is inserted among those that are configured.
-/

namespace Floid.Wifi

open Osk Lib

section GroupInfo

/-- What `set_ie` writes at `pbuf`. -/
def WifidirectInfo.probeRespElement (pwdinfo : WifidirectInfo) : Option (List U8) :=
  pwdinfo.buildProbeRespP2pIe.map fun p2pie => ((⟨[], 0, 0⟩ : MgntBuild).setP2pIe p2pie).frame

/-- A client descriptor: its length and what is stored for the station. -/
def P2pClient.Described (psta : P2pClient) (descriptor : List U8) : Prop :=
  ∃ length : U8, descriptor = length :: psta.body ∧ length.toNat = psta.body.length

def groupInfoAttr (descriptors : List (List U8)) : List U8 :=
  if descriptors = [] then []
  else setP2pAttrContent 0x0e (BitVec.ofNat 16 descriptors.flatten.length) descriptors.flatten

/-- The lists and names in `sta_info` have 32 bytes. -/
structure GroupInfoExact (pwdinfo : WifidirectInfo) : Prop where
  inside : ∀ psta ∈ pwdinfo.clients, psta.numOfSecdevType.toNat * 8 ≤ 32 ∧ psta.devNameLen.toNat ≤ 32
  written : ∃ element : Element, element.id = vendorSpecificIe ∧
    pwdinfo.probeRespElement = some element.bytes ∧
    ∃ descriptors, List.Forall₂ P2pClient.Described pwdinfo.clients descriptors ∧
      element.data = pwdinfo.probeRespP2pIe ++ groupInfoAttr descriptors

def descriptorsLen (clients : List P2pClient) : Nat := (clients.map fun psta => psta.body.length + 1).sum

variable {pwdinfo : WifidirectInfo} {clients : List P2pClient} {p2pie : List U8}

theorem setP2pIe_bytes (short : p2pie.length ≤ 256) : ((⟨[], 0, 0⟩ : MgntBuild).setP2pIe p2pie).frame =
      vendorSpecificIe :: BitVec.ofNat 8 p2pie.length :: p2pie := by
  have copied : bytesFrom (fun i => p2pie.getD i 0) 0 p2pie.length = p2pie := by
    refine List.ext_getElem (MgntBuild.length_bytesFrom ..) fun i _ inside => ?_
    simp [bytesFrom, inside]
  have length : (BitVec.ofNat 32 p2pie.length).toNat = p2pie.length := by
    rw [BitVec.toNat_ofNat, Nat.mod_eq_of_lt (by omega)]
  have count : (BitVec.ofNat 32 p2pie.length + 2).toNat = p2pie.length + 2 := by
    rw [BitVec.toNat_add, length]
    exact Nat.mod_eq_of_lt (Nat.lt_of_le_of_lt (Nat.add_le_add_right short 2) (by decide))
  rw [MgntBuild.setP2pIe, MgntBuild.setIe, MgntBuild.copy, length, copied, count]
  dsimp only
  rw [List.nil_append, List.length_nil, Nat.zero_add, Nat.mod_eq_of_lt (by omega), List.take_of_length_le (by simp),
    BitVec.setWidth_ofNat_of_le (by decide)]

theorem tmplen_toNat {psta : P2pClient} (small : psta.body.length + 1 ≤ 255) :
    psta.tmplen.toNat = psta.body.length + 1 := by
  rw [P2pClient.tmplen, BitVec.toNat_ofNat, Nat.mod_eq_of_lt (by omega)]

theorem groupInfoLen_toNat (small : descriptorsLen clients ≤ 255) :
    ((clients.map fun psta => psta.tmplen.setWidth 16).sum : U16).toNat = descriptorsLen clients := by
  induction clients with
  | nil => rfl
  | cons psta rest ih =>
    rw [descriptorsLen, List.map_cons, List.sum_cons] at small ⊢
    have later := ih (by rw [descriptorsLen]; omega)
    rw [descriptorsLen] at later
    rw [List.map_cons, List.sum_cons, BitVec.toNat_add, later, BitVec.toNat_setWidth,
      tmplen_toNat (by omega), Nat.mod_eq_of_lt (by omega), Nat.mod_eq_of_lt (by omega)]

theorem descriptors_length {descriptors : List (List U8)}
    (described : List.Forall₂ P2pClient.Described clients descriptors) :
    descriptors.flatten.length = descriptorsLen clients := by
  induction described with
  | nil => rfl
  | cons one _ ih =>
    obtain ⟨length, rfl, _⟩ := one
    rw [List.flatten_cons, List.length_append, ih, descriptorsLen, descriptorsLen, List.map_cons,
      List.sum_cons, List.length_cons]

theorem described (small : descriptorsLen clients ≤ 255) :
    List.Forall₂ P2pClient.Described clients (clients.map fun psta => (psta.tmplen - 1) :: psta.body) := by
  induction clients with
  | nil => exact .nil
  | cons psta rest ih =>
    rw [descriptorsLen, List.map_cons, List.sum_cons] at small
    have length := @tmplen_toNat psta (by omega)
    exact .cons ⟨_, rfl, by bv_omega⟩ (ih (by rw [descriptorsLen]; omega))

theorem goAddGroupInfoAttr_eq (small : descriptorsLen pwdinfo.clients ≤ 255) :
    pwdinfo.goAddGroupInfoAttr = some (groupInfoAttr
      (pwdinfo.clients.map fun psta => (psta.tmplen - 1) :: psta.body)) := by
  have length := descriptors_length (described small)
  have total : pwdinfo.groupInfoLen.toNat = descriptorsLen pwdinfo.clients := groupInfoLen_toNat small
  have all : pwdinfo.groupInfo = (pwdinfo.clients.map fun psta => (psta.tmplen - 1) :: psta.body).flatten :=
    List.flatMap_def
  have fits : ¬maxP2pIeLen < pwdinfo.groupInfo.length := by
    rw [all, length]
    exact Nat.not_lt.mpr (small.trans (by decide))
  rw [WifidirectInfo.goAddGroupInfoAttr, if_neg fits]
  cases none_ : pwdinfo.clients with
  | nil => simp [WifidirectInfo.groupInfoLen, none_, groupInfoAttr]
  | cons psta rest =>
    have some_ : 0 < pwdinfo.groupInfoLen := by
      rw [BitVec.lt_def, total, none_, descriptorsLen, List.map_cons, List.sum_cons]
      exact Nat.lt_of_lt_of_le (Nat.succ_pos _) (Nat.le_add_right ..)
    rw [if_pos some_, ← none_, groupInfoAttr, if_neg (by simp [none_]), ← all, List.take_of_length_le (by rw [all, length, total]),
      all, length, ← total, BitVec.ofNat_toNat, BitVec.setWidth_eq]

def fiveTypes : P2pClient where
  isP2pDevice := true
  devAddr := Vector.replicate 6 0
  hwaddr := Vector.replicate 6 0
  devCap := 0
  configMethods := 0
  primaryDevType := Vector.replicate 8 0
  numOfSecdevType := 5
  secdevTypesList _ := 0
  devNameLen := 0
  devName _ := 0

def smallGroup (asocList : List P2pClient) : WifidirectInfo :=
  ⟨.go, .idle, Vector.replicate 6 0, fun _ => 0, 0, asocList⟩

end GroupInfo

section TrafficMap

def timIe : U8 := 5

def timElement (timBitmap : U16) : List U8 :=
  let control : List U8 := [0, 1, if timBitmap &&& 1 ≠ 0 then 1 else 0]
  if timBitmap &&& 0xff00 ≠ 0 ∧ timBitmap &&& 0x00fc ≠ 0 then
    timIe :: 5 :: control ++ [timBitmap.setWidth 8, (timBitmap >>> 8).setWidth 8]
  else timIe :: 4 :: control ++ [timBitmap.setWidth 8]

def timHeadLen (srcIe : List U8) (ssidLength : Nat) : Option Nat :=
  (getIe (srcIe.drop 12) supportedratesIe (srcIe.drop 12).length).map fun p =>
    12 + (ssidLength + 2) + (match p with | some (_, tmpLen) => tmpLen + 2 | none => 0) + 3

/-- `update_BCNTIM`: the `IELength` bytes that it leaves at `dst_ie`. It is `none` where
`src_ielen-head_len` is negative. -/
def updateBcntim (srcIe : List U8) (ssidLength : Nat) (timBitmap : U16) : Option (List U8) :=
  if timBitmap ≠ 0 then
    (timHeadLen srcIe ssidLength).bind fun headLen =>
      if srcIe.length < headLen then none
      else some (srcIe.take headLen ++ timElement timBitmap ++ srcIe.drop headLen)
  else some srcIe

/-- The partial bitmap begins at twice the offset of the control byte. -/
def trafficFor (data : List U8) (aid : Nat) : Bool :=
  let first := 2 * (data.getD 2 0 >>> 1).toNat
  first ≤ aid / 8 && ((data.drop 3).getD (aid / 8 - first) 0).getLsbD (aid % 8)

structure TimDecodes (timBitmap : U16) (tim : Element) : Prop where
  id : tim.id = timIe
  bitmap : 4 ≤ tim.data.length
  group : (tim.data.getD 2 0).getLsbD 0 = timBitmap.getLsbD 0
  stations : ∀ aid, 1 ≤ aid → aid ≤ 15 → trafficFor tim.data aid = timBitmap.getLsbD aid

def TimInserted (fixed : Vector U8 12) (elements : List Element) (ssidLength : Nat) (timBitmap : U16) : Prop :=
  let srcIe := fixed.toList ++ listBytes elements
  if timBitmap = 0 then updateBcntim srcIe ssidLength timBitmap = some srcIe
  else ∃ before after tim, elements = before ++ after ∧ TimDecodes timBitmap tim ∧
    timHeadLen srcIe ssidLength = some (12 + (listBytes before).length) ∧
    updateBcntim srcIe ssidLength timBitmap = some (fixed.toList ++ listBytes (before ++ tim :: after))

def ratesLen (elements : List Element) : Nat :=
  match elements.find? (·.id = supportedratesIe) with
  | some rates => rates.bytes.length
  | none => 0

variable {fixed : Vector U8 12} {elements : List Element} {ssidLength : Nat} {timBitmap : U16}

theorem getIe_listBytes (index : U8) (elements : List Element) :
    (getIe (listBytes elements) index (listBytes elements).length).map (·.map Prod.snd) =
      some ((elements.find? (·.id = index)).map (·.data.length)) := by
  induction elements with
  | nil => rfl
  | cons element rest ih =>
    have head : listBytes (element :: rest) =
        element.id :: BitVec.ofNat 8 element.data.length :: (element.data ++ listBytes rest) := listBytes_cons ..
    rw [getIe, if_neg (by rw [head]; simp only [List.length_cons, List.length_append]; omega), getIeFrom, head]
    simp only [List.getElem?_cons_zero, List.getElem?_cons_succ, Option.bind_eq_bind, Option.bind_some,
      element.length_toNat, List.find?_cons]
    by_cases same : element.id = index
    · simp [same]
    · simp only [if_neg same, decide_eq_false same]
      rw [← ih, getIe, List.drop_succ_cons, List.drop_succ_cons, List.drop_left]
      have left : ((element.id :: BitVec.ofNat 8 element.data.length :: (element.data ++ listBytes rest)).length : Int) -
          (element.data.length + 2) = (listBytes rest).length := by
        simp only [List.length_cons, List.length_append]
        omega
      rw [left]
      by_cases empty : ((listBytes rest).length : Int) ≤ 0
      · rw [if_pos empty, if_pos (by omega)]
        rfl
      · rw [if_neg empty, if_neg (by omega)]

theorem timHeadLen_eq : timHeadLen (fixed.toList ++ listBytes elements) ssidLength =
    some (12 + (ssidLength + 2 + ratesLen elements + 3)) := by
  have read := getIe_listBytes supportedratesIe elements
  rw [timHeadLen, List.drop_left' fixed.length_toList]
  cases found : getIe (listBytes elements) supportedratesIe (listBytes elements).length with
  | none =>
    rw [found] at read
    cases read
  | some p =>
    rw [found] at read
    rw [Option.map_some, ratesLen]
    cases rates : elements.find? (·.id = supportedratesIe) with
    | none =>
      cases p with
      | none => simp only [Option.some.injEq]; omega
      | some p => simp [rates] at read
    | some element =>
      cases p with
      | none => simp [rates] at read
      | some p =>
        simp [rates] at read
        simp only [read, Option.some.injEq, bytes_length]
        omega

theorem and_eq_zero_iff {mask : U16} : timBitmap &&& mask = 0 ↔
    ∀ aid < 16, mask.getLsbD aid = true → timBitmap.getLsbD aid = false := by
  constructor
  · intro zero aid inside set
    have bit := congrArg (·.getLsbD aid) zero
    simpa [set] using bit
  · intro clear
    refine BitVec.eq_of_getLsbD_eq fun aid inside => ?_
    rw [BitVec.getLsbD_and]
    cases set : mask.getLsbD aid with
    | false => simp
    | true => simp [clear aid inside set]

theorem timElement_decodes (timBitmap : U16) : ∃ tim : Element, tim.bytes = timElement timBitmap ∧
    (TimDecodes timBitmap tim ↔ timBitmap &&& 0xff00 = 0 ∨ timBitmap &&& 0x00fc ≠ 0) := by
  have group : ((if timBitmap &&& 1 ≠ 0 then 1 else 0 : U8).getLsbD 0) = timBitmap.getLsbD 0 := by
    have one : timBitmap &&& 1 = 0 ↔ timBitmap.getLsbD 0 = false := by
      have only : ∀ aid < 16, (1 : U16).getLsbD aid = true → aid = 0 := by decide
      refine and_eq_zero_iff.trans ⟨fun clear => clear 0 (by decide) (by decide), fun clear aid inside set => ?_⟩
      rwa [only aid inside set]
    split
    · rename_i some_
      rw [Ne, one, Bool.not_eq_false] at some_
      rw [some_]
      rfl
    · rename_i none_
      rw [one.mp (not_not.mp none_)]
      rfl
  have first : (if timBitmap &&& 1 ≠ 0 then 1 else 0 : U8) >>> 1 = 0 := by
    split <;> rfl
  have low {aid : Nat} (small : aid < 8) : (timBitmap.setWidth 8).getLsbD (aid % 8) = timBitmap.getLsbD aid := by
    rw [BitVec.getLsbD_setWidth, Nat.mod_eq_of_lt small]
    simp [small]
  have high {aid : Nat} (inside : aid < 16) (large : 8 ≤ aid) :
      ((timBitmap >>> 8).setWidth 8).getLsbD (aid % 8) = timBitmap.getLsbD aid := by
    rw [BitVec.getLsbD_setWidth, BitVec.getLsbD_ushiftRight, show 8 + aid % 8 = aid by omega]
    simp [Nat.mod_lt]
  have highMask : timBitmap &&& 0xff00 = 0 ↔ ∀ aid, 8 ≤ aid → aid ≤ 15 → timBitmap.getLsbD aid = false := by
    have mask : ∀ aid < 16, (0xff00 : U16).getLsbD aid = true ↔ 8 ≤ aid := by decide
    exact and_eq_zero_iff.trans ⟨fun clear aid large inside => clear aid (by omega) ((mask aid (by omega)).mpr large),
      fun clear aid inside set => clear aid ((mask aid inside).mp set) (by omega)⟩
  rw [timElement]
  split
  · rename_i long
    refine ⟨⟨timIe, [0, 1, _, timBitmap.setWidth 8, (timBitmap >>> 8).setWidth 8], by simp⟩, rfl,
      iff_of_true ⟨rfl, by simp, group, fun aid _ inside => ?_⟩ (.inr long.2)⟩
    simp only [trafficFor, List.getD_cons_succ, List.getD_cons_zero, List.drop_succ_cons, List.drop_zero, first]
    by_cases small : aid < 8
    · simp [Nat.div_eq_of_lt small, low small]
    · simp [show aid / 8 = 1 by omega, high (by omega : aid < 16) (by omega)]
  · rename_i short
    have stations {aid : Nat} : trafficFor [0, 1, if timBitmap &&& 1 ≠ 0 then 1 else 0, timBitmap.setWidth 8] aid =
        (decide (aid < 8) && timBitmap.getLsbD aid) := by
      simp only [trafficFor, List.getD_cons_succ, List.getD_cons_zero, List.drop_succ_cons, List.drop_zero, first]
      by_cases small : aid < 8
      · simp [Nat.div_eq_of_lt small, low small, small]
      · obtain ⟨more, eq⟩ : ∃ more, aid / 8 = more + 1 := ⟨aid / 8 - 1, by omega⟩
        simp [eq, small]
    refine ⟨⟨timIe, [0, 1, _, timBitmap.setWidth 8], by simp⟩, rfl, fun decodes => .inl ?_, fun mask => ?_⟩
    · refine highMask.mpr fun aid large inside => ?_
      rw [← decodes.stations aid (by omega) inside, stations]
      simp [large]
    · refine ⟨rfl, by simp, group, fun aid _ inside => ?_⟩
      rw [stations]
      by_cases small : aid < 8
      · simp [small]
      · have high : timBitmap &&& 0xff00 = 0 := by
          by_contra some_
          exact short ⟨some_, mask.resolve_left some_⟩
        simp [small, highMask.mp high aid (by omega) inside]

/-- The element is inserted properly if and only if there is none to insert, or the guessed head is the
size of some leading elements and no bit from 8 on is set without one from 2 to 7. -/
theorem updateBcntim_inserts_iff (fixed : Vector U8 12) (elements : List Element) (ssidLength : Nat)
    (timBitmap : U16) : TimInserted fixed elements ssidLength timBitmap ↔
      timBitmap = 0 ∨
        (∃ before after, elements = before ++ after ∧
          (listBytes before).length = ssidLength + 2 + ratesLen elements + 3) ∧
        (timBitmap &&& 0xff00 = 0 ∨ timBitmap &&& 0x00fc ≠ 0) := by
  obtain ⟨tim, bytes, decodes⟩ := timElement_decodes timBitmap
  rw [TimInserted]
  by_cases none_ : timBitmap = 0
  · rw [if_pos none_, updateBcntim, if_neg (not_not_intro none_)]
    exact iff_of_true rfl (.inl none_)
  · rw [if_neg none_, or_iff_right none_, updateBcntim, if_pos none_, timHeadLen_eq, Option.bind_some]
    have inserted {before after : List Element} (split : elements = before ++ after)
        (place : (listBytes before).length = ssidLength + 2 + ratesLen elements + 3) :
        (if (fixed.toList ++ listBytes elements).length < 12 + (ssidLength + 2 + ratesLen elements + 3) then none
          else some ((fixed.toList ++ listBytes elements).take (12 + (ssidLength + 2 + ratesLen elements + 3)) ++
            timElement timBitmap ++ (fixed.toList ++ listBytes elements).drop
              (12 + (ssidLength + 2 + ratesLen elements + 3)))) =
          some (fixed.toList ++ listBytes (before ++ tim :: after)) := by
      have front : (fixed.toList ++ listBytes before).length = 12 + (ssidLength + 2 + ratesLen elements + 3) := by
        rw [List.length_append, fixed.length_toList, place]
      rw [if_neg, ← front, split, listBytes_append, ← List.append_assoc, List.take_left, List.drop_left,
        listBytes_append, listBytes_cons, bytes]
      · simp only [List.append_assoc]
      · rw [List.length_append, fixed.length_toList, split, listBytes_append, List.length_append]
        rw [split] at place
        omega
    constructor
    · rintro ⟨before, after, other, split, otherDecodes, place, made⟩
      have place : (listBytes before).length = ssidLength + 2 + ratesLen elements + 3 := by
        have same := Option.some.inj place
        omega
      refine ⟨⟨before, after, split, place⟩, decodes.mp ?_⟩
      rw [inserted split place, Option.some.injEq, List.append_cancel_left_eq, listBytes_append, listBytes_append,
        List.append_cancel_left_eq, listBytes_cons, listBytes_cons] at made
      obtain ⟨rfl, _⟩ := Element.bytes_append_inj made
      exact otherDecodes
    · rintro ⟨⟨before, after, split, place⟩, mask⟩
      exact ⟨before, after, tim, split, decodes.mpr mask, by rw [place], inserted split place⟩

/-- Without a DS parameter set, more is copied than the list has. -/
theorem updateBcntim_not_inserts : ¬TimInserted (Vector.replicate 12 0)
    [⟨0, [0x61], by decide⟩, ⟨supportedratesIe, [0x82], by decide⟩] 1 1 := by
  intro inserted
  rw [TimInserted, if_neg (by decide)] at inserted
  obtain ⟨_, _, _, _, _, _, made⟩ := inserted
  rw [updateBcntim, if_pos (by decide), timHeadLen_eq, Option.bind_some, if_pos (by decide)] at made
  cases made

end TrafficMap

end Floid.Wifi
