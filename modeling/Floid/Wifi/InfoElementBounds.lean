import Floid.Lib.Elements
import Floid.Wifi.InfoElements

namespace Floid.Wifi

open Osk Lib
open List (length_cons length_drop)
open Option (bind_eq_bind bind_eq_some_iff bind_some isSome_iff_exists isSome_of_eq_some)
open Function (update)
open BitVec (ofNat)

theorem fillField_isSome_iff {n : Nat} {field : Vector U8 n} {start : Nat} {data : List U8} :
    (fillField field start data).isSome ↔ start + data.length ≤ n := by
  unfold fillField
  split <;> simp [*]

theorem ite_isSome {α : Type} {condition : Prop} [Decidable condition] (yes no : α) :
    (if condition then some yes else some no).isSome := by
  split <;> rfl

def WmmParamFits (info : MlmeInfo) (pIE : List U8) : Prop :=
  info.qosOption = true → 26 ≤ pIE.length

def HtCapsFit (info : MlmeInfo) (pIE : List U8) : Prop :=
  info.htOption = true → ∃ id length data, pIE = id :: length :: data ∧
    length.toNat ≤ 26 ∧ length.toNat ≤ data.length

def DataFits (size : Nat) (pIE : List U8) : Prop :=
  ∃ id length data, pIE = id :: length :: data ∧ (size < length.toNat ∨ length.toNat ≤ data.length)

def BeaconElementFits (pIE : List U8) : Prop :=
  ∃ id length data, pIE = id :: length :: data ∧ (id = 61 → 2 ≤ data.length) ∧
    (id = 42 → length = 1 → data ≠ [])

def BeaconFits (frame : List U8) : Prop :=
  36 ≤ frame.length ∧ ∀ pIE, Element.WalkedTo (fun _ => True) (frame.drop 36) pIE → pIE ≠ [] →
    BeaconElementFits pIE

def WalkFits (index : U8) (list : List U8) : Prop :=
  ∀ pIE, Element.WalkedTo (fun element => element.id ≠ index) list pIE → pIE.length ≠ 1

def FirstOf (index : U8) (list : List U8) (length : U8) (data : List U8) : Prop :=
  Element.WalkedTo (fun element => element.id ≠ index) list (index :: length :: data)

def RatesFit (list : List U8) : Prop :=
  WalkFits 1 list ∧ ∀ length data, FirstOf 1 list length data →
    length.toNat ≤ data.length ∧ length.toNat ≤ 16 ∧ WalkFits 50 list ∧
      ∀ extLength extData, FirstOf 50 list extLength extData →
        extLength.toNat ≤ extData.length ∧ length.toNat + extLength.toNat ≤ 16

section

variable {registry : RegistryPriv} {oneStream : Bool} {info : MlmeInfo} {pIE : List U8}

theorem wmmParamHandler_isSome_iff : (wmmParamHandler info pIE).isSome ↔ WmmParamFits info pIE := by
  rw [wmmParamHandler, WmmParamFits]
  cases info.qosOption with
  | false => simp
  | true =>
    simp only [Bool.true_eq_false, if_false, bind_eq_bind, bind_isSome_iff, true_implies]
    constructor
    · intro ⟨data, read, _⟩
      have inside := (segment_some read).1
      omega
    · intro enough
      have read : segment pIE 8 18 = some _ := segment_of_le (by omega)
      refine ⟨_, read, ?_⟩
      have length := segment_length read
      obtain ⟨wmmParam, filled⟩ := isSome_iff_exists.mp
        (@fillField_isSome_iff 18 info.wmmParam 0 _ |>.mpr (by rw [length]))
      exact ⟨wmmParam, filled, rfl⟩

theorem mergeHtCaps_isSome_iff {data : List U8} {htCaps : Vector U8 26} {i left : Nat} :
    (mergeHtCaps data htCaps i left).isSome ↔ left = 0 ∨ i + left ≤ 26 ∧ i + left ≤ data.length := by
  induction left generalizing i htCaps with
  | zero => simp [mergeHtCaps]
  | succ left ih =>
    rw [mergeHtCaps, bind_eq_bind, bind_isSome_iff]
    constructor
    · intro ⟨peer, read, merged⟩
      obtain ⟨more, _⟩ := List.getElem?_eq_some_iff.mp read
      by_cases inside : i < 26
      · rw [dif_pos inside] at merged
        rcases ih.mp merged with rfl | ⟨field, list⟩
        · exact .inr ⟨by omega, by omega⟩
        · exact .inr ⟨by omega, by omega⟩
      · rw [dif_neg inside] at merged
        cases merged
    · intro fits
      obtain ⟨field, list⟩ := fits.resolve_left (by omega)
      refine ⟨data[i], List.getElem?_eq_getElem (by omega), ?_⟩
      rw [dif_pos (by omega), ih]
      by_cases last : left = 0
      · exact .inl last
      · exact .inr ⟨by omega, by omega⟩

theorem length_read {length : U8} (read : pIE[1]? = some length) : ∃ id data, pIE = id :: length :: data := by
  match pIE, read with
  | id :: other :: data, read =>
      cases read
      exact ⟨id, data, rfl⟩

theorem htCapsHandler_isSome_iff : (htCapsHandler oneStream info pIE).isSome ↔ HtCapsFit info pIE := by
  rw [htCapsHandler, HtCapsFit]
  cases info.htOption with
  | false => simp
  | true =>
    simp only [Bool.true_eq_false, if_false, bind_eq_bind, bind_isSome_iff, true_implies]
    constructor
    · intro ⟨length, read, htCaps, merged, _⟩
      obtain ⟨id, data, rfl⟩ := length_read read
      refine ⟨id, length, data, rfl, ?_⟩
      rcases mergeHtCaps_isSome_iff.mp (isSome_of_eq_some merged) with empty | ⟨field, list⟩
      · omega
      · rw [Nat.zero_add] at field list
        exact ⟨field, list⟩
    · intro ⟨id, length, data, whole, field, list⟩
      subst whole
      obtain ⟨htCaps, merged⟩ := isSome_iff_exists.mp
        (@mergeHtCaps_isSome_iff data info.htCaps 0 length.toNat |>.mpr (.inr ⟨by omega, by omega⟩))
      exact ⟨length, rfl, htCaps, merged, rfl⟩

theorem copiesData_isSome_iff {size : Nat} (field : Vector U8 size) (store : Vector U8 size → MlmeInfo) : (do
      let length : U8 ← pIE[1]?
      if size < length.toNat then return info
      else
        let data ← segment pIE 2 length.toNat
        let filled ← fillField field 0 data
        return store filled).isSome ↔ DataFits size pIE := by
  rw [bind_eq_bind, bind_isSome_iff]
  constructor
  · intro ⟨length, read, result⟩
    obtain ⟨id, data, rfl⟩ := length_read read
    refine ⟨id, length, data, rfl, ?_⟩
    by_cases long : size < length.toNat
    · exact .inl long
    · rw [if_neg long, bind_eq_bind, bind_isSome_iff] at result
      obtain ⟨copied, read, _⟩ := result
      have inside := (segment_some read).1
      simp only [length_cons] at inside
      exact .inr (by omega)
  · intro ⟨id, length, data, whole, fits⟩
    subst whole
    refine ⟨length, rfl, ?_⟩
    by_cases long : size < length.toNat
    · rw [if_pos long]
      rfl
    · have read : segment (id :: length :: data) 2 length.toNat = some _ :=
        segment_of_le (by simp only [length_cons]; omega)
      have copied := segment_length read
      obtain ⟨filled, fill⟩ := isSome_iff_exists.mp
        (@fillField_isSome_iff size field 0 _ |>.mpr (by rw [copied]; omega))
      rw [if_neg long, read, bind_eq_bind, bind_some, fill]
      rfl

theorem htInfoHandler_isSome_iff :
    (htInfoHandler info pIE).isSome ↔ (info.htOption = true → DataFits 22 pIE) := by
  rw [htInfoHandler]
  by_cases option : info.htOption = false
  · rw [if_pos option, option]
    simp
  · rw [if_neg option]
    refine (copiesData_isSome_iff info.htInfo fun htInfo => { info with htInfoEnable := true, htInfo }).trans ?_
    exact ⟨fun fits _ => fits, fun fits => fits (eq_true_of_ne_false option)⟩

theorem erpIEHandler_isSome_iff : (erpIEHandler info pIE).isSome ↔ DataFits 1 pIE :=
  copiesData_isSome_iff #v[info.erpIe] fun erpIe => { info with erpEnable := true, erpIe := erpIe[0] }

theorem updateBeaconElement_isSome_iff (id length : U8) (data : List U8) :
    (updateBeaconElement registry info (id :: length :: data)).isSome ↔
      BeaconElementFits (id :: length :: data) := by
  have fits : BeaconElementFits (id :: length :: data) ↔
      (id = 61 → 2 ≤ data.length) ∧ (id = 42 → length = 1 → data ≠ []) := by
    constructor
    · intro ⟨_, _, _, whole, htInfo, erp⟩
      cases whole
      exact ⟨htInfo, erp⟩
    · intro ⟨htInfo, erp⟩
      exact ⟨id, length, data, rfl, htInfo, erp⟩
  rw [fits, updateBeaconElement, List.getElem?_cons_zero, bind_eq_bind, bind_some]
  by_cases htInfo : id = 61
  · subst htInfo
    change (bwmodeUpdateCheck info (61 :: length :: data)).isSome ↔ _
    rw [bwmodeUpdateCheck, bind_eq_bind, bind_isSome_iff]
    constructor
    · intro ⟨infos0, read, _⟩
      obtain ⟨more, _⟩ := List.getElem?_eq_some_iff.mp read
      simp only [length_cons] at more
      exact ⟨fun _ => by omega, fun other => absurd other (by decide)⟩
    · intro ⟨enough, _⟩
      have more : 3 < (61 :: length :: data).length := by
        have enough := enough rfl
        simp only [length_cons]
        omega
      exact ⟨_, List.getElem?_eq_getElem more, ite_isSome _ _⟩
  · by_cases erp : id = 42
    · subst erp
      change ((erpIEHandler info (42 :: length :: data)).map (vcsUpdate registry)).isSome ↔ _
      rw [Option.isSome_map, erpIEHandler_isSome_iff]
      constructor
      · intro ⟨_, _, _, whole, fits⟩
        cases whole
        refine ⟨fun other => absurd other (by decide), fun _ one empty => ?_⟩
        subst one empty
        rcases fits with long | all
        · exact absurd long (by decide)
        · exact absurd all (by decide)
      · intro ⟨_, present⟩
        refine ⟨42, length, data, rfl, ?_⟩
        by_cases one : length = 1
        · subst one
          exact .inr (List.length_pos_iff.mpr (present rfl rfl))
        · have differs : length.toNat ≠ 1 := fun same => one (BitVec.eq_of_toNat_eq same)
          omega
    · have neitherHt : id.toNat ≠ 61 := fun same => htInfo (BitVec.eq_of_toNat_eq same)
      have neitherErp : id.toNat ≠ 42 := fun same => erp (BitVec.eq_of_toNat_eq same)
      have other : updateBeaconElement registry info (id :: length :: data) = some info := by
        rw [updateBeaconElement, List.getElem?_cons_zero, Option.bind_eq_bind, Option.bind_some]
        split
        · exact absurd ‹_› neitherHt
        · exact absurd ‹_› neitherErp
        · rfl
      exact ⟨fun _ => ⟨fun same => absurd same htInfo, fun same => absurd same erp⟩, fun _ => isSome_of_eq_some other⟩

theorem updateBeaconInfoFrom_isSome_iff {list : List U8} :
    (updateBeaconInfoFrom registry info list list.length).isSome ↔
      ∀ pIE, Element.WalkedTo (fun _ => True) list pIE → pIE ≠ [] → BeaconElementFits pIE := by
  have isLoop : Element.IsLoop (updateBeaconElement registry) (updateBeaconInfoFrom registry) := by
    intro info list left
    rw [updateBeaconInfoFrom]
    rfl
  refine (isLoop.isSome_iff (fun info id length data (_ : True) =>
    updateBeaconElement_isSome_iff id length data) (fun _ _ _ _ _ => trivial) trivial).trans ?_
  have two (pIE : List U8) (fits : BeaconElementFits pIE) : 2 ≤ pIE.length := by
    obtain ⟨id, length, data, rfl, _⟩ := fits
    simp
  exact forall_congr' fun pIE => forall_congr' fun _ => forall_congr' fun _ =>
    and_iff_right_of_imp (two pIE)

end

def GetIeFinds (index : U8) (list : List U8) : Option (Option (List U8 × Nat)) → Prop
  | none => ¬WalkFits index list
  | some none => WalkFits index list ∧ ∀ length data, ¬FirstOf index list length data
  | some (some (pIE, ieLen)) => WalkFits index list ∧ ∃ length data,
      pIE = index :: length :: data ∧ ieLen = length.toNat ∧
        ∀ otherLength otherData, FirstOf index list otherLength otherData ↔
          otherLength = length ∧ otherData = data

theorem GetIeFinds.next {index : U8} {element : Element} {rest : List U8}
    {result : Option (Option (List U8 × Nat))} (differs : element.id ≠ index)
    (found : GetIeFinds index rest result) : GetIeFinds index (element.bytes ++ rest) result := by
  have walks : WalkFits index (element.bytes ++ rest) ↔ WalkFits index rest := by
    constructor
    · intro fits pIE walked
      exact fits pIE (.next differs walked)
    · intro fits pIE walked
      rcases Element.walkedTo_bytes_iff.mp walked with rfl | ⟨_, walked⟩
      · simp [Element.bytes]
      · exact fits pIE walked
  have first (length : U8) (data : List U8) : FirstOf index (element.bytes ++ rest) length data ↔
      FirstOf index rest length data := by
    constructor
    · intro walked
      rcases Element.walkedTo_bytes_iff.mp walked with whole | ⟨_, walked⟩
      · rw [Element.bytes] at whole
        simp only [List.cons_append, List.cons.injEq] at whole
        exact absurd whole.1.symm differs
      · exact walked
    · exact .next differs
  obtain _ | _ | ⟨_, _⟩ := result
  · exact fun fits => found (walks.mp fits)
  · exact ⟨walks.mpr found.1, fun length data walked => found.2 _ _ ((first _ _).mp walked)⟩
  · obtain ⟨fits, length, data, isElement, isLength, unique⟩ := found
    exact ⟨walks.mpr fits, length, data, isElement, isLength,
      fun otherLength otherData => (first _ _).trans (unique _ _)⟩

theorem GetIeFinds.cutOff {index id length : U8} {data : List U8} (differs : id ≠ index)
    (cut : Element.CutOff (id :: length :: data)) :
    GetIeFinds index (id :: length :: data) (some none) := by
  constructor
  · intro pIE walked
    rw [(Element.walkedTo_cutOff_iff cut).mp walked]
    simp
  · intro otherLength otherData walked
    have same := (Element.walkedTo_cutOff_iff cut).mp walked
    simp only [List.cons.injEq] at same
    exact differs same.1.symm

theorem GetIeFinds.here (index length : U8) (data : List U8) : GetIeFinds index (index :: length :: data)
      (some (some (index :: length :: data, length.toNat))) := by
  have only (suffix : List U8) (walked : Element.WalkedTo (fun element => element.id ≠ index)
      (index :: length :: data) suffix) : suffix = index :: length :: data := by
    by_cases whole : length.toNat ≤ data.length
    · obtain ⟨element, isIndex, _, same⟩ := Element.exists_bytes index length data whole
      rw [same] at walked ⊢
      rcases Element.walkedTo_bytes_iff.mp walked with whole | ⟨passes, _⟩
      · exact whole
      · exact absurd isIndex passes
    · exact (Element.walkedTo_cutOff_iff (Element.cutOff_cons _ _ _ (by omega))).mp walked
  refine ⟨fun pIE walked => by rw [only pIE walked]; simp, length, data, rfl, rfl, ?_⟩
  intro otherLength otherData
  constructor
  · intro walked
    have same := only _ walked
    simp only [List.cons.injEq, true_and] at same
    exact same
  · intro ⟨sameLength, sameData⟩
    rw [sameLength, sameData]
    exact .here _

theorem getIe_finds (index : U8) (list : List U8) : GetIeFinds index list (getIe list index list.length) := by
  induction long : list.length using Nat.strong_induction_on generalizing list with
  | _ n ih =>
    subst long
    match list with
    | [] =>
        refine ⟨fun pIE walked => ?_, fun length data walked => ?_⟩
        · rw [(Element.walkedTo_cutOff_iff Element.cutOff_nil).mp walked]
          simp
        · cases (Element.walkedTo_cutOff_iff Element.cutOff_nil).mp walked
    | [id] =>
        have none : getIe [id] index ([id].length : Nat) = none := by
          rw [getIe, if_neg (by simp), getIeFrom]
          rfl
        rw [none]
        intro fits
        exact fits [id] (.here _) rfl
    | id :: length :: data =>
        rw [getIe, if_neg (by simp only [length_cons]; omega), getIeFrom,
          List.getElem?_cons_succ, List.getElem?_cons_zero, List.getElem?_cons_zero,
          bind_eq_bind, bind_some, bind_some]
        by_cases isIndex : id = index
        · rw [if_pos isIndex, isIndex]
          exact .here index length data
        · rw [if_neg isIndex]
          dsimp only
          by_cases whole : length.toNat ≤ data.length
          · obtain ⟨element, isId, _, same⟩ := Element.exists_bytes id length data whole
            have left : ((id :: length :: data).length : Int) - (length.toNat + 2) =
                ((data.drop length.toNat).length : Nat) := by
              simp only [length_cons, length_drop]
              omega
            have shorter : (data.drop length.toNat).length < (id :: length :: data).length := by
              omega
            have rest := ih _ shorter (data.drop length.toNat) rfl
            rw [left, List.drop_succ_cons, List.drop_succ_cons]
            have found := rest.next (isId.trans_ne isIndex)
            rw [← same, getIe] at found
            by_cases done : ((data.drop length.toNat).length : Int) ≤ 0
            · rw [if_pos (by omega)] at found
              rw [if_pos done]
              exact found
            · rw [if_neg (by omega)] at found
              rw [if_neg done]
              exact found
          · rw [if_pos (by simp only [length_cons]; omega)]
            exact .cutOff isIndex (Element.cutOff_cons _ _ _ (by omega))

theorem copyElement_isSome_iff {n : Nat} (field : Vector U8 n) (start : Nat) (id length : U8)
    (data : List U8) : ((segment (id :: length :: data) 2 length.toNat).bind
      (fillField field start)).isSome ↔ length.toNat ≤ data.length ∧ start + length.toNat ≤ n := by
  rw [bind_isSome_iff]
  constructor
  · intro ⟨copied, read, filled⟩
    have inside := (segment_some read).1
    have size := segment_length read
    rw [fillField_isSome_iff, size] at filled
    simp only [length_cons] at inside
    exact ⟨by omega, filled⟩
  · intro ⟨inside, fits⟩
    have read : segment (id :: length :: data) 2 length.toNat = some _ :=
      segment_of_le (by simp only [length_cons]; omega)
    exact ⟨_, read, by rw [fillField_isSome_iff, segment_length read]; exact fits⟩

variable {camIdx : Fin 32}

theorem copyExtRates_isSome_iff {info : MlmeInfo} {list : List U8} (rates : Vector U8 16) (supportRateNum : Nat) :
    ((getIe list 50 list.length).bind fun
      | none => some (true, { info with supportedRates := update info.supportedRates camIdx rates })
      | some (pIE, ieLen) => (segment pIE 2 ieLen).bind fun data =>
          (fillField rates supportRateNum data).bind fun rates =>
            some (true, { info with supportedRates := update info.supportedRates camIdx rates })).isSome ↔
      WalkFits 50 list ∧ ∀ length data, FirstOf 50 list length data →
        length.toNat ≤ data.length ∧ supportRateNum + length.toNat ≤ 16 := by
  have second := getIe_finds 50 list
  cases extended : getIe list 50 list.length with
  | none =>
    rw [extended] at second
    exact ⟨nofun, fun fits => absurd fits.1 second⟩
  | some found =>
    rw [extended] at second
    cases found with
    | none =>
      exact ⟨fun _ => ⟨second.1, fun length data walked => absurd walked (second.2 _ _)⟩, fun _ => rfl⟩
    | some found =>
      obtain ⟨fits, extLength, extData, isElement, isLength, unique⟩ := second
      obtain ⟨pIE, ieLen⟩ := found
      subst isElement isLength
      rw [bind_some]
      constructor
      · intro copied
        refine ⟨fits, fun length data walked => ?_⟩
        obtain ⟨rfl, rfl⟩ := (unique _ _).mp walked
        apply (copyElement_isSome_iff rates supportRateNum 50 length data).mp
        obtain ⟨bytes, read, filled⟩ := bind_isSome_iff.mp copied
        obtain ⟨after, wrote, _⟩ := bind_isSome_iff.mp filled
        exact bind_isSome_iff.mpr ⟨bytes, read, isSome_of_eq_some wrote⟩
      · intro ⟨_, first⟩
        have copied := (copyElement_isSome_iff rates supportRateNum 50 extLength extData).mpr
          (first _ _ ((unique _ _).mpr ⟨rfl, rfl⟩))
        obtain ⟨bytes, read, filled⟩ := bind_isSome_iff.mp copied
        obtain ⟨after, wrote⟩ := isSome_iff_exists.mp filled
        exact bind_isSome_iff.mpr ⟨bytes, read, bind_isSome_iff.mpr ⟨after, wrote, rfl⟩⟩

theorem updateStaSupportRate_isSome_iff {info : MlmeInfo} {list : List U8} {varIeLen : U32}
    (length : varIeLen.toInt = list.length) :
    (updateStaSupportRate info list varIeLen camIdx).isSome ↔ RatesFit list := by
  have first := getIe_finds 1 list
  rw [updateStaSupportRate, length, RatesFit]
  cases supported : getIe list 1 list.length with
  | none =>
    rw [supported] at first
    exact ⟨nofun, fun fits => absurd fits.1 first⟩
  | some found =>
    rw [supported] at first
    cases found with
    | none =>
      exact ⟨fun _ => ⟨first.1, fun length data walked => absurd walked (first.2 _ _)⟩, fun _ => rfl⟩
    | some found =>
      obtain ⟨fits, rateLength, rateData, isElement, isLength, unique⟩ := first
      obtain ⟨pIE, ieLen⟩ := found
      subst isElement isLength
      simp only [bind_eq_bind, bind_some]
      constructor
      · intro copied
        obtain ⟨bytes, read, filled⟩ := bind_isSome_iff.mp copied
        obtain ⟨rates, wrote, later⟩ := bind_isSome_iff.mp filled
        refine ⟨fits, fun length data walked => ?_⟩
        obtain ⟨rfl, rfl⟩ := (unique _ _).mp walked
        obtain ⟨inside, room⟩ := (copyElement_isSome_iff (info.supportedRates camIdx) 0 1 length data).mp
          (bind_isSome_iff.mpr ⟨bytes, read, isSome_of_eq_some wrote⟩)
        exact ⟨inside, by omega, (copyExtRates_isSome_iff rates length.toNat).mp later⟩
      · intro ⟨_, first⟩
        obtain ⟨inside, room, later⟩ := first _ _ ((unique _ _).mpr ⟨rfl, rfl⟩)
        have copied := (copyElement_isSome_iff (info.supportedRates camIdx) 0 1 rateLength rateData).mpr
          ⟨inside, by omega⟩
        obtain ⟨bytes, read, filled⟩ := bind_isSome_iff.mp copied
        obtain ⟨rates, wrote⟩ := isSome_iff_exists.mp filled
        exact bind_isSome_iff.mpr ⟨bytes, read, bind_isSome_iff.mpr ⟨rates, wrote,
          (copyExtRates_isSome_iff rates rateLength.toNat).mpr later⟩⟩

section

variable {registry : RegistryPriv} {oneStream : Bool} {info after : MlmeInfo} {list : List U8}

def BeaconChanges (info after : MlmeInfo) : Prop :=
  ∃ erpEnable erpIe curBwmode curChOffset bwmodeUpdated apHtpriv rtsen cts2self,
    after = { info with erpEnable, erpIe, curBwmode, curChOffset, bwmodeUpdated, apHtpriv, rtsen, cts2self }

theorem BeaconChanges.refl (info : MlmeInfo) : BeaconChanges info info :=
  ⟨_, _, _, _, _, _, _, _, rfl⟩

theorem BeaconChanges.trans {middle : MlmeInfo} (first : BeaconChanges info middle)
    (second : BeaconChanges middle after) : BeaconChanges info after := by
  obtain ⟨_, _, _, _, _, _, _, _, rfl⟩ := first
  obtain ⟨_, _, _, _, _, _, _, _, rfl⟩ := second
  exact ⟨_, _, _, _, _, _, _, _, rfl⟩

theorem erpIEHandler_changes (called : erpIEHandler info list = some after) :
    ∃ erpEnable erpIe, after = { info with erpEnable, erpIe } := by
  rw [erpIEHandler] at called
  obtain ⟨length, _, called⟩ := bind_eq_some_iff.mp called
  split at called
  · cases called
    exact ⟨_, _, rfl⟩
  · obtain ⟨data, _, called⟩ := bind_eq_some_iff.mp called
    obtain ⟨erpIe, _, called⟩ := bind_eq_some_iff.mp called
    cases called
    exact ⟨_, _, rfl⟩

theorem vcsUpdate_changes (registry : RegistryPriv) (info : MlmeInfo) :
    BeaconChanges info (vcsUpdate registry info) := by
  unfold vcsUpdate
  split <;> exact ⟨_, _, _, _, _, _, _, _, rfl⟩

theorem updateBeaconElement_changes (called : updateBeaconElement registry info list = some after) :
    BeaconChanges info after := by
  rw [updateBeaconElement] at called
  obtain ⟨elementID, _, called⟩ := bind_eq_some_iff.mp called
  split at called
  · rw [bwmodeUpdateCheck] at called
    obtain ⟨infos0, _, called⟩ := bind_eq_some_iff.mp called
    dsimp only at called
    repeat' split at called
    all_goals
      cases called
      exact ⟨_, _, _, _, _, _, _, _, rfl⟩
  · obtain ⟨handled, erp, rfl⟩ := Option.map_eq_some_iff.mp called
    obtain ⟨erpEnable, erpIe, rfl⟩ := erpIEHandler_changes erp
    exact BeaconChanges.trans ⟨_, _, _, _, _, _, _, _, rfl⟩ (vcsUpdate_changes registry _)
  · cases called
    exact .refl _

theorem updateBeaconInfoFrom_changes {left : Nat}
    (called : updateBeaconInfoFrom registry info list left = some after) :
    BeaconChanges info after := by
  induction left using Nat.strong_induction_on generalizing list info with
  | _ left ih =>
    rw [updateBeaconInfoFrom] at called
    by_cases done : left = 0
    · rw [if_pos done] at called
      cases called
      exact .refl _
    · rw [if_neg done] at called
      obtain ⟨middle, now, called⟩ := bind_eq_some_iff.mp called
      obtain ⟨length, _, later⟩ := bind_eq_some_iff.mp called
      exact (updateBeaconElement_changes now).trans (ih _ (by omega) later)

variable {success : Bool}

theorem wmmParamHandler_changes (called : wmmParamHandler info list = some (success, after)) :
    ∃ wmmEnable wmmParam, after = { info with wmmEnable, wmmParam } := by
  rw [wmmParamHandler] at called
  split at called
  · cases called
    exact ⟨_, _, rfl⟩
  · obtain ⟨data, _, called⟩ := bind_eq_some_iff.mp called
    obtain ⟨wmmParam, _, called⟩ := bind_eq_some_iff.mp called
    cases called
    exact ⟨_, _, rfl⟩

theorem htCapsHandler_changes (called : htCapsHandler oneStream info list = some after) :
    ∃ htCapsEnable htCaps, after = { info with htCapsEnable, htCaps } := by
  rw [htCapsHandler] at called
  split at called
  · cases called
    exact ⟨_, _, rfl⟩
  · obtain ⟨length, _, called⟩ := bind_eq_some_iff.mp called
    obtain ⟨htCaps, _, called⟩ := bind_eq_some_iff.mp called
    cases called
    exact ⟨_, _, rfl⟩

theorem htInfoHandler_changes (called : htInfoHandler info list = some after) :
    ∃ htInfoEnable htInfo, after = { info with htInfoEnable, htInfo } := by
  rw [htInfoHandler] at called
  split at called
  · cases called
    exact ⟨_, _, rfl⟩
  · obtain ⟨length, _, called⟩ := bind_eq_some_iff.mp called
    split at called
    · cases called
      exact ⟨_, _, rfl⟩
    · obtain ⟨data, _, called⟩ := bind_eq_some_iff.mp called
      obtain ⟨htInfo, _, called⟩ := bind_eq_some_iff.mp called
      cases called
      exact ⟨_, _, rfl⟩

theorem updateStaSupportRate_changes {varIeLen : U32}
    (called : updateStaSupportRate info list varIeLen camIdx = some (success, after)) :
    ∃ rates, after = { info with supportedRates := update info.supportedRates camIdx rates } := by
  rw [updateStaSupportRate] at called
  obtain ⟨found, _, called⟩ := bind_eq_some_iff.mp called
  cases found with
  | none =>
    cases called
    exact ⟨info.supportedRates camIdx, by rw [Function.update_eq_self]⟩
  | some found =>
    obtain ⟨data, _, called⟩ := bind_eq_some_iff.mp called
    obtain ⟨rates, _, called⟩ := bind_eq_some_iff.mp called
    obtain ⟨extended, _, called⟩ := bind_eq_some_iff.mp called
    cases extended with
    | none =>
      cases called
      exact ⟨_, rfl⟩
    | some extended =>
      obtain ⟨data, _, called⟩ := bind_eq_some_iff.mp called
      obtain ⟨rates, _, called⟩ := bind_eq_some_iff.mp called
      cases called
      exact ⟨_, rfl⟩

end

theorem sub_fixed_toNat {length : Nat} (small : length < 2 ^ 31) : (ofNat 32 length - (12 + 24)).toNat =
      if 36 ≤ length then length - 36 else length + 2 ^ 32 - 36 := by
  rw [BitVec.toNat_sub, show ((12 : U32) + 24).toNat = 36 from rfl, BitVec.toNat_ofNat]
  split <;> omega

/-- Each handler completes, reads nothing behind the list and changes only its own field exactly
if what it copies or looks at is in the list and fits. -/
theorem infoElements_contained_iff (registry : RegistryPriv) (oneStream : Bool) (info : MlmeInfo) :
    (∀ pIE, (∃ success wmmEnable wmmParam,
        wmmParamHandler info pIE = some (success, { info with wmmEnable, wmmParam })) ↔
      WmmParamFits info pIE) ∧
    (∀ pIE, (∃ htCapsEnable htCaps, htCapsHandler oneStream info pIE = some { info with htCapsEnable, htCaps }) ↔
      HtCapsFit info pIE) ∧
    (∀ pIE, (∃ htInfoEnable htInfo, htInfoHandler info pIE = some { info with htInfoEnable, htInfo }) ↔
      (info.htOption = true → DataFits 22 pIE)) ∧
    (∀ pIE, (∃ erpEnable erpIe, erpIEHandler info pIE = some { info with erpEnable, erpIe }) ↔ DataFits 1 pIE) ∧
    (∀ frame : List U8, frame.length < 2 ^ 31 →
      ((∃ after, updateBeaconInfo registry info frame (ofNat 32 frame.length) = some after ∧
          BeaconChanges info after) ↔ BeaconFits frame) ∧
      ∀ camIdx, (∃ success rates, updateStaSupportRate info (frame.drop 36)
          (ofNat 32 frame.length - 24 - 12) camIdx = some (success, { info with
            supportedRates := update info.supportedRates camIdx rates })) ↔
        RatesFit (frame.drop 36)) := by
  refine ⟨fun pIE => ?_, fun pIE => ?_, fun pIE => ?_, fun pIE => ?_, fun frame small => ⟨?_, fun camIdx => ?_⟩⟩
  · rw [← wmmParamHandler_isSome_iff, isSome_iff_exists]
    constructor
    · intro ⟨_, _, _, called⟩
      exact ⟨_, called⟩
    · intro ⟨⟨success, after⟩, called⟩
      obtain ⟨wmmEnable, wmmParam, rfl⟩ := wmmParamHandler_changes called
      exact ⟨_, _, _, called⟩
  · rw [← @htCapsHandler_isSome_iff oneStream, isSome_iff_exists]
    constructor
    · intro ⟨_, _, called⟩
      exact ⟨_, called⟩
    · intro ⟨after, called⟩
      obtain ⟨htCapsEnable, htCaps, rfl⟩ := htCapsHandler_changes called
      exact ⟨_, _, called⟩
  · rw [← htInfoHandler_isSome_iff, isSome_iff_exists]
    constructor
    · intro ⟨_, _, called⟩
      exact ⟨_, called⟩
    · intro ⟨after, called⟩
      obtain ⟨htInfoEnable, htInfo, rfl⟩ := htInfoHandler_changes called
      exact ⟨_, _, called⟩
  · rw [← @erpIEHandler_isSome_iff info, isSome_iff_exists]
    constructor
    · intro ⟨_, _, called⟩
      exact ⟨_, called⟩
    · intro ⟨after, called⟩
      obtain ⟨erpEnable, erpIe, rfl⟩ := erpIEHandler_changes called
      exact ⟨_, _, called⟩
  · have length : (ofNat 32 frame.length - (12 + 24)).toNat =
        if 36 ≤ frame.length then (frame.drop 36).length else frame.length + 2 ^ 32 - 36 := by
      rw [length_drop]
      exact sub_fixed_toNat small
    rw [updateBeaconInfo, length, BeaconFits]
    constructor
    · intro ⟨after, called, _⟩
      by_cases enough : 36 ≤ frame.length
      · rw [if_pos enough] at called
        exact ⟨enough, updateBeaconInfoFrom_isSome_iff.mp (isSome_of_eq_some called)⟩
      · rw [if_neg enough, updateBeaconInfoFrom, if_neg (by omega), List.drop_eq_nil_of_le (by omega)] at called
        cases called
    · intro ⟨enough, fits⟩
      rw [if_pos enough]
      obtain ⟨after, called⟩ := isSome_iff_exists.mp
        ((@updateBeaconInfoFrom_isSome_iff registry info (frame.drop 36)).mpr fits)
      exact ⟨after, called, updateBeaconInfoFrom_changes called⟩
  · have same : (∃ success rates, updateStaSupportRate info (frame.drop 36)
          (ofNat 32 frame.length - 24 - 12) camIdx = some (success, { info with
            supportedRates := update info.supportedRates camIdx rates })) ↔
        (updateStaSupportRate info (frame.drop 36) (ofNat 32 frame.length - 24 - 12)
          camIdx).isSome := by
      rw [isSome_iff_exists]
      constructor
      · intro ⟨_, _, called⟩
        exact ⟨_, called⟩
      · intro ⟨⟨success, after⟩, called⟩
        obtain ⟨rates, rfl⟩ := updateStaSupportRate_changes called
        exact ⟨_, _, called⟩
    rw [same]
    have length : (ofNat 32 frame.length - 24 - 12).toInt = (frame.length : Int) - 36 := by
      rw [sub_sub, BitVec.toInt_eq_toNat_cond, show (24 + 12 : U32) = 12 + 24 from rfl, sub_fixed_toNat small]
      split <;> split <;> omega
    by_cases enough : 36 ≤ frame.length
    · exact updateStaSupportRate_isSome_iff (by rw [length, length_drop]; omega)
    · rw [List.drop_eq_nil_of_le (by omega), updateStaSupportRate, getIe, if_pos (by omega)]
      refine ⟨fun _ => ?_, fun _ => rfl⟩
      obtain ⟨fits, absent⟩ := getIe_finds 1 []
      exact ⟨fits, fun length data first => absurd first (absent _ _)⟩

def htStation : MlmeInfo where
  qosOption := true
  htOption := true
  wmmEnable := false
  wmmParam := .replicate 18 0
  htCapsEnable := false
  htCaps := .replicate 26 0
  htInfoEnable := false
  htInfo := .replicate 22 0
  erpEnable := false
  erpIe := 0
  supportedRates _ := .replicate 16 0
  curBwmode := 0
  curChOffset := 0
  bwmodeUpdated := false
  apHtpriv := none
  rtsen := false
  cts2self := false

def erpBeacon : List U8 := List.replicate 36 0 ++ [42, 1, 3]

theorem infoElements_contained_erpBeacon :
    ∃ after, updateBeaconInfo ⟨2, 1⟩ htStation erpBeacon (ofNat 32 erpBeacon.length) = some after ∧
      BeaconChanges htStation after := by
  refine ((infoElements_contained_iff ⟨2, 1⟩ true htStation).2.2.2.2 erpBeacon (by decide)).1.mpr
    ⟨by decide, fun pIE walked some => ?_⟩
  have element : erpBeacon.drop 36 = (Element.mk 42 [3] (by decide)).bytes ++ [] := rfl
  rw [element, Element.walkedTo_bytes_iff] at walked
  rcases walked with rfl | ⟨_, ends⟩
  · exact ⟨42, 1, [3], rfl, fun other => absurd other (by decide), fun _ _ => by simp⟩
  · exact absurd ((Element.walkedTo_cutOff_iff Element.cutOff_nil).mp ends) some

/-- Capabilities of 27 bytes, 17 rates, a beacon of 30 bytes and a parameter set that is not there. -/
theorem infoElements_contained_fails : htCapsHandler true htStation (45 :: 27 :: List.replicate 27 0) = none ∧
      updateStaSupportRate htStation (1 :: 17 :: List.replicate 17 2) 19 2 = none ∧
      updateBeaconInfo ⟨2, 1⟩ htStation (List.replicate 30 0) 30 = none ∧
      wmmParamHandler htStation [221, 6, 0x00, 0x50, 0xf2, 0x02, 0x01, 0x01] = none := by
  refine ⟨?_, ?_, ?_, ?_⟩
  · rw [← Option.not_isSome_iff_eq_none, htCapsHandler_isSome_iff]
    intro fits
    obtain ⟨_, _, _, whole, few, _⟩ := fits rfl
    cases whole
    exact absurd few (by decide)
  · rw [← Option.not_isSome_iff_eq_none, updateStaSupportRate_isSome_iff (by decide)]
    intro fits
    obtain ⟨_, few, _⟩ := fits.2 17 (List.replicate 17 2) (.here _)
    exact absurd few (by decide)
  · rw [updateBeaconInfo, updateBeaconInfoFrom, if_neg (by decide)]
    rfl
  · rw [← Option.not_isSome_iff_eq_none, wmmParamHandler_isSome_iff]
    intro fits
    exact absurd (fits rfl) (by decide)

end Floid.Wifi
