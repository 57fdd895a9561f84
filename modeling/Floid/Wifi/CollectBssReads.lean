import Floid.Wifi.Survey

namespace Floid.Wifi

open Floid.Osk Floid.Lib WlanBssidEx
open Option (bind_some isSome_ite isSome_of_eq_some isSome_some map_none map_some some.injEq)
open BitVec (ofNat)

def WlanBssidEx.Has (bss : WlanBssidEx) (p count : Nat) : Prop :=
  count = 0 ∨ p + count ≤ ieOffset + bss.ieLength.toNat

instance (bss : WlanBssidEx) (p count : Nat) : Decidable (bss.Has p count) :=
  inferInstanceAs (Decidable (count = 0 ∨ p + count ≤ ieOffset + bss.ieLength.toNat))

namespace SurveyFrame

variable (frame : SurveyFrame)

def collectSsidIn (bss : WlanBssidEx) : Option (Option WlanBssidEx) :=
  match bss.element frame.behind ssidIe with
  | none => some none
  | some p =>
      let len := bss.elementLen frame.behind p
      if bss.Has p 2 ∧ bss.Has (p + 2) len ∧ len ≤ 32 then some (frame.collectSsid bss) else none

def collectRateElementIn (index : U8) (i : Nat) (bss : WlanBssidEx) : Option (WlanBssidEx × Nat) :=
  match bss.element frame.behind index with
  | none => some (bss, 0)
  | some p =>
      let len := bss.elementLen frame.behind p
      if bss.Has (p + 2) len ∧ i + len ≤ 16 then some (frame.collectRateElement index i bss)
      else none

def collectRatesIn (bss : WlanBssidEx) : Option WlanBssidEx := do
  let bss := bss.setBytes supportedRatesOffset (List.replicate 16 0)
  let (bss, i) ← frame.collectRateElementIn supportedratesIe 0 bss
  let (bss, _) ← frame.collectRateElementIn extSupportedratesIe i bss
  return bss.setUlong 56 3

def collectHeadIn (antenna : U8) : Option (Option WlanBssidEx) :=
  if frame.len < wlanHdrA3Len ∨ maxIeSz < frame.bodyLen then some none
  else if frame.bodyLen < fixedIeLength then none
  else
    (frame.collectSsidIn (frame.collectBody antenna)).bind fun
      | none => some none
      | some bss => (frame.collectRatesIn bss).map fun bss =>
          some ((bss.setUlong 72 0).setUlong 60 0)

def channelElementIn (bss : WlanBssidEx) : Option (Option U8) :=
  match bss.element frame.behind dssetIe with
  | some p => if bss.Has (p + 2) 1 then some (some (bss.memory frame.behind (p + 2))) else none
  | none =>
      match bss.element frame.behind htAddInfoIe with
      | some p => if bss.Has (p + 2) 1 then some (some (bss.memory frame.behind (p + 2))) else none
      | none => some none

def coexistCheckIn (bss : WlanBssidEx) : Option CoexistCheck :=
  match bss.element frame.behind htCapabilityIe with
  | none => some .noHt
  | some p =>
      if bss.elementLen frame.behind p = 0 then some .noHt
      else if bss.Has (p + 2) 2 then some (frame.coexistCheck bss)
      else none

end SurveyFrame

/-- `collect_bss_info`. -/
def SurveyAdapter.collectBssInfoIn (adapter : SurveyAdapter) (frame : SurveyFrame) :
    Option (SurveyAdapter × Option WlanBssidEx × List SurveyEffect) := do
  match ← frame.collectHeadIn adapter.antenna with
  | none => return (adapter, none, [])
  | some bss =>
      let (channel, used) : U8 × List SurveyEffect :=
        match ← frame.channelElementIn bss with
        | some channel => (channel, [])
        | none =>
            if adapter.res.state = .process then
              ((adapter.channelAt adapter.res.channelIdx).channelNum, [.indexed adapter.res.channelIdx])
            else (adapter.curChannel, [])
      let bss := frame.collectTail channel bss
      if adapter.wifiSpec ∧ adapter.bwmodeUpdated = false then
        match ← frame.coexistCheckIn bss with
        | .noHt => return ({ adapter with numStaNoHt := adapter.numStaNoHt + 1 }, some bss, used)
        | .fortyMhzIntolerant =>
            return ({ adapter with numFortyMhzIntolerant := adapter.numFortyMhzIntolerant + 1 }, some bss, used)
        | .tolerant => return (adapter, some bss, used)
      else return (adapter, some bss, used)

variable {first second memory : Nat → U8} {limit : Nat}

variable {a b start : Nat}

theorem getIeWalk_congr (index : U8) (same : ∀ i < limit, second (b + i) = first (a + i)) (rounds : Nat) :
    ∀ i < limit, getIeWalk second index rounds (b + i) i limit =
      (getIeWalk first index rounds (a + i) i limit).map fun p => p - a + b := by
  induction rounds with
  | zero => exact fun _ _ => rfl
  | succ rounds ih =>
    intro i inside
    rw [getIeWalk, getIeWalk, same i inside]
    by_cases found : first (a + i) = index
    · rw [if_pos found, if_pos found, map_some, Nat.add_sub_cancel_left, Nat.add_comm]
    · rw [if_neg found, if_neg found]
      dsimp only
      by_cases more : i + 1 < limit
      · have next : second (b + i + 1) = first (a + i + 1) := same (i + 1) more
        rw [next]
        split
        · rfl
        · rename_i further
          have step := ih (i + ((first (a + i + 1)).toNat + 2)) (by omega)
          rwa [← Nat.add_assoc b, ← Nat.add_assoc a] at step
      · rw [if_pos (by omega), if_pos (by omega)]
        rfl

theorem getIeWalk_bounds {index : U8} {p : Nat} (rounds : Nat) :
    ∀ i < limit, getIeWalk memory index rounds (start + i) i limit = some p →
      start ≤ p ∧ p < start + limit := by
  induction rounds with
  | zero =>
    intro i _ found
    cases found
  | succ rounds ih =>
    intro i inside found
    rw [getIeWalk] at found
    split at found
    · cases found
      omega
    · dsimp only at found
      split at found
      · cases found
      · rename_i further
        refine ih (i + ((memory (start + i + 1)).toNat + 2)) (by omega) ?_
        rwa [← Nat.add_assoc]

theorem getIeAt_congr (index : U8) (same : ∀ i < limit, second (b + i) = first (a + i)) :
    getIeAt second b index limit = (getIeAt first a index limit).map fun p => p - a + b := by
  unfold getIeAt
  by_cases empty : limit < 1
  · rw [if_pos empty, if_pos empty]
    rfl
  · rw [if_neg empty, if_neg empty]
    exact getIeWalk_congr index same limit 0 (by omega)

theorem getIeAt_bounds {index : U8} {p : Nat}
    (found : getIeAt memory start index limit = some p) : start ≤ p ∧ p < start + limit := by
  unfold getIeAt at found
  split at found
  · cases found
  · exact getIeWalk_bounds limit 0 (by omega) found

namespace SurveyFrame

variable {frame : SurveyFrame} {bss after : WlanBssidEx} {index : U8} {p count : Nat}

def Has (frame : SurveyFrame) (p count : Nat) : Prop := count = 0 ∨ p + count ≤ frame.len

def ie (frame : SurveyFrame) (index : U8) : Option Nat :=
  getIeAt frame.memory (wlanHdrA3Len + fixedIeLength) index (frame.bodyLen - fixedIeLength)

def ieLen (frame : SurveyFrame) (p : Nat) : Nat :=
  if p + 1 < frame.len then (frame.memory (p + 1)).toNat
  else if frame.bodyLen < maxIeSz then 0 else (frame.behind 0).toNat

structure InRecord (frame : SurveyFrame) (bss : WlanBssidEx) : Prop where
  ieLength : bss.ieLength = ofNat 32 frame.bodyLen
  body : ∀ i < frame.bodyLen, bss.memory frame.behind (ieOffset + i) = frame.memory (wlanHdrA3Len + i)
  rest : (bss.memory frame.behind (ieOffset + frame.bodyLen)).toNat =
    if frame.bodyLen < maxIeSz then 0 else (frame.behind 0).toNat

theorem InRecord.congr (inRecord : frame.InRecord bss)
    (same : ∀ place, 116 ≤ place → after.byte place = bss.byte place) : frame.InRecord after := by
  have memory (place : Nat) (behind : 116 ≤ place) :
      after.memory frame.behind place = bss.memory frame.behind place := by
    unfold WlanBssidEx.memory
    rw [same place behind]
  constructor
  · rw [← inRecord.ieLength]
    unfold WlanBssidEx.ieLength ulong
    rw [same _ (by decide), same _ (by decide), same _ (by decide), same _ (by decide)]
  · intro i inside
    rw [memory _ (Nat.le_add_right_of_le (by decide)), inRecord.body i inside]
  · rw [memory _ (Nat.le_add_right_of_le (by decide)), inRecord.rest]

variable {offset place : Nat} {data : List U8}

theorem byte_setByte_of_ne (bss : WlanBssidEx) (value : U8)
    (other : place ≠ offset) : (bss.setByte offset value).byte place = bss.byte place := by
  unfold WlanBssidEx.byte setByte
  split
  · exact if_neg other
  · rfl

theorem byte_setBytes (bss : WlanBssidEx) (other : place < offset ∨ offset + data.length ≤ place) :
    (bss.setBytes offset data).byte place = bss.byte place := by
  unfold WlanBssidEx.byte setBytes
  split
  · exact if_neg (by dsimp only; omega)
  · rfl

theorem byte_setUlong (bss : WlanBssidEx) (value : U32) (other : place < offset ∨ offset + 4 ≤ place) :
    (bss.setUlong offset value).byte place = bss.byte place := by
  unfold WlanBssidEx.byte setUlong
  split
  · exact if_neg (by dsimp only; omega)
  · rfl

theorem ulong_setUlong (bss : WlanBssidEx) {offset : Nat} (value : U32)
    (inside : offset + 4 ≤ bssidExSz) : (bss.setUlong offset value).ulong offset = value := by
  have byte (i : Nat) (small : i < 4) :
      (bss.setUlong offset value).byte (offset + i) = (value >>> (8 * i)).setWidth 8 := by
    unfold WlanBssidEx.byte setUlong
    rw [dif_pos (by omega)]
    dsimp only
    rw [if_pos (by omega), Nat.add_sub_cancel_left]
  have first := byte 0 (by decide)
  rw [Nat.add_zero] at first
  unfold ulong
  rw [byte 3 (by decide), byte 2 (by decide), byte 1 (by decide), first]
  ext bit low
  simp only [BitVec.getElem_append, BitVec.getElem_setWidth, BitVec.getLsbD_ushiftRight]
  repeat' split
  all_goals
    rw [← BitVec.getLsbD_eq_getElem low]
    congr 1
    omega

theorem InRecord.setBytes (inRecord : frame.InRecord bss)
    (before : offset + data.length ≤ 116) : frame.InRecord (bss.setBytes offset data) :=
  inRecord.congr fun _ behind => byte_setBytes bss (.inr (before.trans behind))

theorem InRecord.setUlong (inRecord : frame.InRecord bss) (value : U32)
    (before : offset + 4 ≤ 116) : frame.InRecord (bss.setUlong offset value) :=
  inRecord.congr fun _ behind => byte_setUlong bss value (.inr (before.trans behind))

theorem inRecord_collectBody (antenna : U8) (short : frame.bodyLen ≤ maxIeSz) :
    frame.InRecord (frame.collectBody antenna) := by
  have room : bssidExSz = ieOffset + maxIeSz := rfl
  unfold collectBody
  dsimp only
  have clear (place : Nat) (behind : 120 ≤ place) :
      ((((if (frame.memory 0 &&& 0xfc) >>> 4 = 0x80 then
          setByte ⟨fun _ => 0⟩ 10 1 else ⟨fun _ => 0⟩).setUlong 0
        (ofNat 32 (bssidExSz - maxIeSz + frame.bodyLen))).setUlong 116
        (ofNat 32 frame.bodyLen)).byte place) = 0 := by
    rw [byte_setUlong _ _ (.inr behind), byte_setUlong _ _ (.inr (by omega))]
    split
    · rw [byte_setByte_of_ne _ _ (by omega)]
      simp [WlanBssidEx.byte]
    · simp [WlanBssidEx.byte]
  have length := @ulong_setUlong ((if (frame.memory 0 &&& 0xfc) >>> 4 = 0x80 then
      setByte ⟨fun _ => 0⟩ 10 1 else ⟨fun _ => 0⟩).setUlong 0
    (ofNat 32 (bssidExSz - maxIeSz + frame.bodyLen))) 116 (ofNat 32 frame.bodyLen)
    (by decide)
  generalize ((if (frame.memory 0 &&& 0xfc) >>> 4 = 0x80 then
      setByte ⟨fun _ => 0⟩ 10 1 else ⟨fun _ => 0⟩).setUlong 0
    (ofNat 32 (bssidExSz - maxIeSz + frame.bodyLen))).setUlong 116
    (ofNat 32 frame.bodyLen) = bss at clear length ⊢
  have size : ((List.range frame.bodyLen).map fun i => frame.memory (wlanHdrA3Len + i)).length =
      frame.bodyLen := by simp
  have later (place : Nat) (behind : 116 ≤ place) :
      (((((bss.setBytes ieOffset ((List.range frame.bodyLen).map fun i =>
        frame.memory (wlanHdrA3Len + i))).setUlong 52 frame.recvSignalPower).setByte 113
        frame.signalQual).setByte 112 frame.signalStrength).setByte 114 antenna).byte place =
      (bss.setBytes ieOffset ((List.range frame.bodyLen).map fun i =>
        frame.memory (wlanHdrA3Len + i))).byte place := by
    rw [byte_setByte_of_ne _ _ (by omega), byte_setByte_of_ne _ _ (by omega),
      byte_setByte_of_ne _ _ (by omega), byte_setUlong _ _ (.inr (by omega))]
  constructor
  · rw [← length]
    have front (place : Nat) (behind : 116 ≤ place) (before : place < ieOffset) :=
      (later place behind).trans (byte_setBytes bss (.inl before))
    unfold WlanBssidEx.ieLength ulong
    rw [front _ (by decide) (by decide), front _ (by decide) (by decide),
      front _ (by decide) (by decide), front _ (by decide) (by decide)]
  · intro i inside
    unfold WlanBssidEx.memory
    rw [if_pos (by omega), later _ (by unfold ieOffset; omega)]
    unfold WlanBssidEx.byte setBytes
    rw [dif_pos (by omega)]
    dsimp only
    rw [if_pos (by rw [size]; omega), Nat.add_sub_cancel_left, List.getD_eq_getElem?_getD]
    simp [inside]
  · unfold WlanBssidEx.memory
    by_cases full : frame.bodyLen < maxIeSz
    · rw [if_pos (by omega), if_pos full, later _ (by unfold ieOffset; omega),
        byte_setBytes bss (.inr (by rw [size])),
        clear _ (show 120 ≤ ieOffset + frame.bodyLen from Nat.le_add_right 120 _)]
      rfl
    · rw [if_neg (by omega), if_neg full, show ieOffset + frame.bodyLen - bssidExSz = 0 by omega]

theorem ie_bounds (found : frame.ie index = some p) : 36 ≤ p ∧ p < frame.len := by
  have bounds := getIeAt_bounds found
  unfold bodyLen at bounds
  simp only [wlanHdrA3Len, fixedIeLength] at bounds
  omega

namespace InRecord

theorem element_eq (inRecord : frame.InRecord bss) (whole : 12 ≤ frame.bodyLen)
    (short : frame.bodyLen ≤ maxIeSz) (index : U8) :
    bss.element frame.behind index = (frame.ie index).map fun p => p + 96 := by
  have limit : (bss.ieLength - ofNat 32 fixedIeLength).toInt.toNat = frame.bodyLen - fixedIeLength := by
    unfold maxIeSz at short
    rw [inRecord.ieLength, fixedIeLength]
    have value : (ofNat 32 frame.bodyLen - ofNat 32 12).toNat = frame.bodyLen - 12 := by
      bv_omega
    rw [BitVec.toInt_eq_toNat_of_lt (by omega), value, Int.toNat_natCast]
  unfold element ie
  rw [limit, getIeAt_congr (a := wlanHdrA3Len + fixedIeLength) index]
  · cases found : getIeAt frame.memory (wlanHdrA3Len + fixedIeLength) index
        (frame.bodyLen - fixedIeLength) with
    | none => rfl
    | some p =>
      have bounds := (getIeAt_bounds found).1
      simp only [wlanHdrA3Len, fixedIeLength, ieOffset, map_some, some.injEq] at bounds ⊢
      omega
  · intro i inside
    rw [Nat.add_assoc, Nat.add_assoc]
    exact inRecord.body (fixedIeLength + i) (by omega)

theorem elementLen_eq (inRecord : frame.InRecord bss) (found : frame.ie index = some p) :
    bss.elementLen frame.behind (p + 96) = frame.ieLen p := by
  obtain ⟨low, high⟩ := ie_bounds found
  have size : frame.bodyLen = frame.len - 24 := rfl
  unfold elementLen ieLen
  split
  · have byte := inRecord.body (p + 1 - 24) (by omega)
    have place : ieOffset + (p + 1 - 24) = p + 96 + 1 := by unfold ieOffset; omega
    have origin : wlanHdrA3Len + (p + 1 - 24) = p + 1 := by unfold wlanHdrA3Len; omega
    rw [place, origin] at byte
    rw [byte]
  · have place : ieOffset + frame.bodyLen = p + 96 + 1 := by unfold ieOffset; omega
    rw [← inRecord.rest, place]

theorem has_iff (inRecord : frame.InRecord bss) (whole : 12 ≤ frame.bodyLen)
    (short : frame.bodyLen ≤ maxIeSz) : bss.Has (p + 96) count ↔ frame.Has p count := by
  have size : frame.bodyLen = frame.len - 24 := rfl
  have length : bss.ieLength.toNat = frame.bodyLen := by
    unfold maxIeSz at short
    rw [inRecord.ieLength, BitVec.toNat_ofNat, Nat.mod_eq_of_lt (by omega)]
  unfold WlanBssidEx.Has Has
  rw [length]
  unfold ieOffset
  omega

theorem has_data_iff (inRecord : frame.InRecord bss) (whole : 12 ≤ frame.bodyLen)
    (short : frame.bodyLen ≤ maxIeSz) : bss.Has (p + 96 + 2) count ↔ frame.Has (p + 2) count := by
  rw [show p + 96 + 2 = p + 2 + 96 by omega, inRecord.has_iff whole short]

end InRecord

def SsidFits (frame : SurveyFrame) : Prop :=
  ∀ p, frame.ie ssidIe = some p → frame.Has p 2 ∧ frame.Has (p + 2) (frame.ieLen p) ∧ frame.ieLen p ≤ 32

def RatesFit (frame : SurveyFrame) (index : U8) (i : Nat) : Prop :=
  ∀ p, frame.ie index = some p → frame.Has (p + 2) (frame.ieLen p) ∧ i + frame.ieLen p ≤ 16

def rateCount (frame : SurveyFrame) (index : U8) : Nat :=
  match frame.ie index with
  | none => 0
  | some p => frame.ieLen p

def ChannelFits (frame : SurveyFrame) : Prop :=
  (∀ p, frame.ie dssetIe = some p → frame.Has (p + 2) 1) ∧
    (frame.ie dssetIe = none → ∀ p, frame.ie htAddInfoIe = some p → frame.Has (p + 2) 1)

def CoexistFits (frame : SurveyFrame) : Prop :=
  ∀ p, frame.ie htCapabilityIe = some p → frame.ieLen p ≠ 0 → frame.Has (p + 2) 2

section

variable (inRecord : frame.InRecord bss) (whole : 12 ≤ frame.bodyLen)
  (short : frame.bodyLen ≤ maxIeSz)

include inRecord whole short

theorem collectSsidIn_isSome_iff : (frame.collectSsidIn bss).isSome ↔ frame.SsidFits := by
  unfold collectSsidIn SsidFits
  rw [inRecord.element_eq whole short]
  cases found : frame.ie ssidIe with
  | none => simp
  | some p =>
    simp only [map_some, some.injEq, forall_eq']
    rw [isSome_ite, inRecord.elementLen_eq found, inRecord.has_iff whole short, inRecord.has_data_iff whole short]

theorem collectSsidIn_eq_some {outcome : Option WlanBssidEx} (collected : frame.collectSsidIn bss = some outcome) :
    (outcome = none ↔ frame.ie ssidIe = none) ∧ ∀ after, outcome = some after → frame.InRecord after := by
  have fits := (collectSsidIn_isSome_iff inRecord whole short).mp (isSome_of_eq_some collected)
  have elements := inRecord.element_eq whole short ssidIe
  unfold collectSsidIn at collected
  cases found : frame.ie ssidIe with
  | none =>
    rw [found] at elements
    simp only [elements, map_none, some.injEq] at collected
    exact ⟨iff_of_true collected.symm rfl, fun after isAfter => by
      rw [← collected] at isAfter
      cases isAfter⟩
  | some p =>
    rw [found] at elements
    obtain ⟨-, -, room⟩ := fits p found
    have length := inRecord.elementLen_eq found
    simp only [elements, map_some] at collected
    split at collected
    · rw [some.injEq] at collected
      unfold collectSsid at collected
      rw [elements, map_some, map_some] at collected
      subst collected
      refine ⟨iff_of_false nofun nofun, ?_⟩
      rintro after isAfter
      rw [some.injEq] at isAfter
      subst isAfter
      dsimp only
      split
      · refine InRecord.setUlong (InRecord.setBytes inRecord ?_) _ (by decide)
        rw [List.length_map, List.length_range, length]
        unfold ssidOffset
        omega
      · exact inRecord.setUlong _ (by decide)
    · cases collected

variable {i : Nat}

theorem collectRateElementIn_isSome_iff :
    (frame.collectRateElementIn index i bss).isSome ↔ frame.RatesFit index i := by
  unfold collectRateElementIn RatesFit
  rw [inRecord.element_eq whole short]
  cases found : frame.ie index with
  | none => simp
  | some p =>
    simp only [map_some, some.injEq, forall_eq']
    rw [isSome_ite, inRecord.elementLen_eq found, inRecord.has_data_iff whole short]

theorem collectRateElementIn_eq_some {used : Nat}
    (collected : frame.collectRateElementIn index i bss = some (after, used)) :
    used = frame.rateCount index ∧ frame.InRecord after := by
  have fits := (collectRateElementIn_isSome_iff inRecord whole short).mp
    (isSome_of_eq_some collected)
  have elements := inRecord.element_eq whole short index
  unfold collectRateElementIn at collected
  unfold rateCount
  cases found : frame.ie index with
  | none =>
    rw [found] at elements
    simp only [elements, map_none, some.injEq, Prod.mk.injEq] at collected
    exact ⟨collected.2.symm, collected.1 ▸ inRecord⟩
  | some p =>
    rw [found] at elements
    obtain ⟨-, room⟩ := fits p found
    have length := inRecord.elementLen_eq found
    simp only [elements, map_some] at collected
    split at collected
    · rw [some.injEq] at collected
      unfold collectRateElement at collected
      simp only [elements, map_some, Prod.mk.injEq] at collected
      obtain ⟨rfl, rfl⟩ := collected
      refine ⟨length, InRecord.setBytes inRecord ?_⟩
      rw [List.length_map, List.length_range, length]
      unfold supportedRatesOffset
      omega
    · cases collected

theorem collectRatesIn_isSome_iff : (frame.collectRatesIn bss).isSome ↔ frame.RatesFit supportedratesIe 0 ∧
      frame.RatesFit extSupportedratesIe (frame.rateCount supportedratesIe) := by
  have cleared : frame.InRecord (bss.setBytes supportedRatesOffset (List.replicate 16 0)) :=
    inRecord.setBytes (by simp [supportedRatesOffset])
  refine bind_isSome_iff.trans ?_
  constructor
  · rintro ⟨⟨first, i⟩, collected, well⟩
    obtain ⟨rfl, inFirst⟩ := collectRateElementIn_eq_some cleared whole short collected
    obtain ⟨second, extended, -⟩ := bind_isSome_iff.mp well
    exact ⟨(collectRateElementIn_isSome_iff cleared whole short).mp (isSome_of_eq_some collected),
      (collectRateElementIn_isSome_iff inFirst whole short).mp (isSome_of_eq_some extended)⟩
  · intro ⟨rates, extRates⟩
    obtain ⟨⟨first, i⟩, collected⟩ := Option.isSome_iff_exists.mp
      ((collectRateElementIn_isSome_iff cleared whole short).mpr rates)
    obtain ⟨rfl, inFirst⟩ := collectRateElementIn_eq_some cleared whole short collected
    exact ⟨_, collected, (bind_total_isSome_iff fun _ => rfl).mpr
      ((collectRateElementIn_isSome_iff inFirst whole short).mpr extRates)⟩

theorem collectRatesIn_eq_some (collected : frame.collectRatesIn bss = some after) : frame.InRecord after := by
  have cleared : frame.InRecord (bss.setBytes supportedRatesOffset (List.replicate 16 0)) :=
    inRecord.setBytes (by simp [supportedRatesOffset])
  obtain ⟨⟨first, i⟩, collected, later⟩ := Option.bind_eq_some_iff.mp collected
  have inFirst := (collectRateElementIn_eq_some cleared whole short collected).2
  obtain ⟨⟨second, used⟩, extended, later⟩ := Option.bind_eq_some_iff.mp later
  have inSecond := (collectRateElementIn_eq_some inFirst whole short extended).2
  cases later
  exact inSecond.setUlong _ (by decide)

theorem channelElementIn_isSome_iff : (frame.channelElementIn bss).isSome ↔ frame.ChannelFits := by
  unfold channelElementIn ChannelFits
  rw [inRecord.element_eq whole short, inRecord.element_eq whole short]
  cases frame.ie dssetIe with
  | none =>
    cases frame.ie htAddInfoIe with
    | none => simp
    | some p =>
      simp only [map_some, map_none, isSome_ite]
      rw [inRecord.has_data_iff whole short]
      simp
  | some p =>
    simp only [map_some, isSome_ite]
    rw [inRecord.has_data_iff whole short]
    simp

theorem coexistCheckIn_isSome_iff : (frame.coexistCheckIn bss).isSome ↔ frame.CoexistFits := by
  unfold coexistCheckIn CoexistFits
  rw [inRecord.element_eq whole short]
  cases found : frame.ie htCapabilityIe with
  | none => simp
  | some p =>
    simp only [map_some, some.injEq, forall_eq']
    rw [inRecord.elementLen_eq found]
    split
    · exact iff_of_true rfl fun present => absurd ‹_› present
    · rw [isSome_ite, inRecord.has_data_iff whole short, forall_prop_of_true ‹_›]

end

theorem InRecord.collectTail (inRecord : frame.InRecord bss) (channel : U8) :
    frame.InRecord (frame.collectTail channel bss) := by
  unfold SurveyFrame.collectTail
  have copied : frame.InRecord ((bss.setUlong 72 (channel.setWidth 32)).copyWithin frame.behind 64
      (ieOffset + 8) 2) :=
    InRecord.setBytes (inRecord.setUlong _ (by decide)) (by simp)
  refine InRecord.setUlong (InRecord.setUlong ?_ _ (by decide)) _ (by decide)
  split
  · exact InRecord.setBytes (copied.setUlong _ (by decide)) (by simp)
  · exact InRecord.setBytes (copied.setUlong _ (by decide)) (by simp)

end SurveyFrame

/-- When `collect_bss_info` is contained: a body that it takes has its fixed fields, the SSID and
the rates are in the frame and fit their fields, and so are the channel and, if the coexistence
is checked, the first two bytes of the HT capabilities. -/
def CollectContained (adapter : SurveyAdapter) (frame : SurveyFrame) : Prop :=
  wlanHdrA3Len ≤ frame.len → frame.bodyLen ≤ maxIeSz → fixedIeLength ≤ frame.bodyLen ∧
    frame.SsidFits ∧ (frame.ie ssidIe ≠ none → (frame.RatesFit supportedratesIe 0 ∧
        frame.RatesFit extSupportedratesIe (frame.rateCount supportedratesIe)) ∧
      frame.ChannelFits ∧
      (adapter.wifiSpec = true ∧ adapter.bwmodeUpdated = false → frame.CoexistFits))

theorem collectBssInfoIn_isSome_iff {adapter : SurveyAdapter} {frame : SurveyFrame} :
    (adapter.collectBssInfoIn frame).isSome ↔ CollectContained adapter frame := by
  unfold SurveyAdapter.collectBssInfoIn SurveyFrame.collectHeadIn CollectContained
  by_cases taken : frame.len < wlanHdrA3Len ∨ maxIeSz < frame.bodyLen
  · rw [if_pos taken]
    exact iff_of_true rfl fun long short => absurd taken (by omega)
  · have long : wlanHdrA3Len ≤ frame.len := by omega
    have short : frame.bodyLen ≤ maxIeSz := by omega
    rw [if_neg taken, forall_prop_of_true long, forall_prop_of_true short]
    by_cases whole : fixedIeLength ≤ frame.bodyLen
    · rw [if_neg (Nat.not_lt.mpr whole), and_iff_right whole]
      have inBody := frame.inRecord_collectBody adapter.antenna short
      rw [← SurveyFrame.collectSsidIn_isSome_iff inBody whole short]
      cases collected : frame.collectSsidIn (frame.collectBody adapter.antenna) with
      | none => simp
      | some outcome =>
        obtain ⟨missing, inSsid⟩ :=
          SurveyFrame.collectSsidIn_eq_some inBody whole short collected
        cases outcome with
        | none => exact iff_of_true rfl ⟨rfl, fun found => absurd (missing.mp rfl) found⟩
        | some bss =>
          have inSsid := inSsid bss rfl
          have found : frame.ie ssidIe ≠ none := fun none_ => nomatch missing.mpr none_
          rw [forall_prop_of_true found, ← SurveyFrame.collectRatesIn_isSome_iff inSsid whole short]
          cases rates : frame.collectRatesIn bss with
          | none => simp [rates]
          | some bss =>
            have inRates := SurveyFrame.collectRatesIn_eq_some inSsid whole short rates
            have inHead : frame.InRecord ((bss.setUlong 72 0).setUlong 60 0) :=
              (inRates.setUlong _ (by decide)).setUlong _ (by decide)
            simp only [rates, Option.bind_eq_bind, bind_some, map_some, isSome_some, true_and]
            generalize (bss.setUlong 72 0).setUlong 60 0 = bss at inHead ⊢
            rw [← SurveyFrame.channelElementIn_isSome_iff inHead whole short]
            cases frame.channelElementIn bss with
            | none => simp
            | some channel =>
              rw [bind_some, isSome_some, and_iff_right rfl]
              by_cases checks : adapter.wifiSpec = true ∧ adapter.bwmodeUpdated = false
              · rw [if_pos checks, forall_prop_of_true checks]
                refine (bind_total_isSome_iff fun check => ?_).trans
                  (SurveyFrame.coexistCheckIn_isSome_iff (inHead.collectTail _) whole short)
                cases check <;> rfl
              · rw [if_neg checks]
                exact iff_of_true rfl fun checked => absurd checked checks
    · rw [if_pos (Nat.lt_of_not_le whole)]
      exact iff_of_false nofun fun both => whole both.1

end Floid.Wifi
