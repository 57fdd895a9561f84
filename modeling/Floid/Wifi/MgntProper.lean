import Floid.Wifi.MgntIssue

namespace Floid.Wifi

open Osk Lib
open BitVec (ofNat)

namespace MgntBuild

variable {build : MgntBuild} {limit : Nat}

theorem setFixedIe_pktlen (source : List U8) :
    (build.setFixedIe source).pktlen = build.pktlen + ofNat 32 source.length := rfl

theorem setIe_pktlen (index : U8) (len : U32) (source : Nat → U8) :
    (build.setIe index len source).pktlen = build.pktlen + (len + 2) := rfl

theorem Within.setFixedFields (within : build.Within limit) (info : MgntInfo) :
    (build.setFixedFields info).Within (limit + 12) := by
  have stamp : (build.copy 8 (List.replicate 8 0)).Within (limit + 8) :=
    within.copy (by decide) le_rfl
  have interval : ((build.copy 8 (List.replicate 8 0)).copy 2 (bytesFrom info.ies 8 2)).Within
      (limit + 8 + 2) := stamp.copyFrom le_rfl
  exact interval.copyFrom le_rfl

end MgntBuild

def MgntInfo.networkIesLen (info : MgntInfo) (ibss : Bool) : Nat :=
  let rateLen := getRatesetLen info.supportedRates
  (info.ssidLength.toNat + 2) + (min 8 rateLen + 2) + 3 + (if ibss then 7 else 0) +
    if 8 < rateLen then rateLen - 8 + 2 else 0

variable {build : MgntBuild}

theorem MgntBuild.Within.setNetworkIes {limit : Nat}
    (within : build.Within limit) (info : MgntInfo) (ibss : Bool) :
    (build.setNetworkIes info ibss).Within (limit + info.networkIesLen ibss) := by
  unfold MgntBuild.setNetworkIes MgntInfo.networkIesLen
  dsimp only
  generalize getRatesetLen info.supportedRates = rateLen
  have width : (ofNat 32 (min 8 rateLen)).toNat ≤ min 8 rateLen := by
    rw [BitVec.toNat_ofNat]
    exact Nat.mod_le _ _
  have more : (ofNat 32 (rateLen - 8)).toNat ≤ rateLen - 8 := by
    rw [BitVec.toNat_ofNat]
    exact Nat.mod_le _ _
  have ssid : (build.setIe ssidIe info.ssidLength info.ssid).Within
      (limit + (info.ssidLength.toNat + 2)) := within.setIe le_rfl
  generalize build.setIe ssidIe info.ssidLength info.ssid = build at ssid ⊢
  have rates : (build.setIe supportedratesIe (ofNat 32 (min 8 rateLen))
      info.supportedRates).Within (limit + (info.ssidLength.toNat + 2) + (min 8 rateLen + 2)) :=
    ssid.setIe (by omega)
  generalize build.setIe supportedratesIe (ofNat 32 (min 8 rateLen)) info.supportedRates =
    build at rates ⊢
  have channel : (build.setIe dssetIe 1 fun _ => info.dsConfig).Within
      (limit + (info.ssidLength.toNat + 2) + (min 8 rateLen + 2) + 3) := rates.setIe le_rfl
  generalize (build.setIe dssetIe 1 fun _ => info.dsConfig) = build at channel ⊢
  have adhoc : (if ibss then (build.setIe ibssParaIe 2 fun _ => 0).setIe erpinfoIe 1 fun _ => 0
      else build).Within (limit + (info.ssidLength.toNat + 2) + (min 8 rateLen + 2) + 3 +
        if ibss then 7 else 0) := by
    cases ibss with
    | false => exact channel
    | true =>
      have window : (build.setIe ibssParaIe 2 fun _ => 0).Within
        (limit + (info.ssidLength.toNat + 2) + (min 8 rateLen + 2) + 3 + 4) := channel.setIe le_rfl
      exact window.setIe le_rfl
  generalize (if ibss then (build.setIe ibssParaIe 2 fun _ => 0).setIe erpinfoIe 1 fun _ => 0
      else build) = build at adhoc ⊢
  by_cases long : 8 < rateLen
  · rw [if_pos long, if_pos long]
    exact adhoc.setIe (by omega)
  · rw [if_neg long, if_neg long]
    exact adhoc.mono (by omega)

def MgntInfo.beaconLen (info : MgntInfo) : Nat :=
  if info.isAp then info.ieLength.toNat + 24 + if info.pwdinfo.role = .go then 20 else 0
  else 36 + info.networkIesLen true

theorem setFixedFields_length (info : MgntInfo)
    (length : build.frame.length = 24) (pktlen : build.pktlen = 24) :
    (build.setFixedFields info).frame.length = 36 ∧ (build.setFixedFields info).pktlen = 36 := by
  constructor
  · simp [MgntBuild.setFixedFields, MgntBuild.copy, length]
  · simp [MgntBuild.setFixedFields, MgntBuild.copy, pktlen]

variable {info : MgntInfo} {wpsProbeRespIe : Option (Nat → U8)} {security : SecurityPriv}
    {options : AsocOptions} {pstat : AsocSta}

theorem copyBeaconIes (within : build.Within 36)
    (length : build.frame.length = 36) (pktlen : build.pktlen = 36)
    (short : info.ieLength.toNat ≤ maxIeSz) :
    (build.copy (info.ieLength - 12) (bytesFrom info.ies 12
      (build.pktlen + (info.ieLength - 12)).toNat)).Within (info.ieLength.toNat + 60) ∧
      (build.copy (info.ieLength - 12) (bytesFrom info.ies 12
        (build.pktlen + (info.ieLength - 12)).toNat)).pktlen = info.ieLength + 24 := by
  have extent := within.extent
  have sum : build.pktlen + (info.ieLength - 12) = info.ieLength + 24 := by
    rw [pktlen]
    bv_omega
  have total : (info.ieLength + 24).toNat = info.ieLength.toNat + 24 := by
    unfold maxIeSz at short
    bv_omega
  have place : (36 + (info.ieLength - 12).toNat) % 2 ^ 32 = info.ieLength.toNat + 24 := by
    bv_omega
  rw [sum, total]
  refine ⟨⟨MgntBuild.copy_pktlen within.pktlen ?_, ?_, ?_⟩, sum⟩
  · rw [length, place, MgntBuild.length_bytesFrom]
    omega
  · rw [MgntBuild.copy, length, place, List.length_take]
    omega
  · dsimp only [MgntBuild.copy]
    rw [length, MgntBuild.length_bytesFrom]
    omega

theorem beaconP2pIe_length (pwdinfo : WifidirectInfo) : pwdinfo.beaconP2pIe.length = 18 := by
  simp [WifidirectInfo.beaconP2pIe, WifidirectInfo.p2poui, setP2pAttrContent, shortBytes]

theorem buildBeacon_within (short : info.ieLength.toNat ≤ maxIeSz) (small : info.beaconLen + 32 ≤ 512) :
    (buildBeacon info).Within 600 ∧ (buildBeacon info).pktlen.toNat ≤ info.beaconLen := by
  have fixed := (MgntBuild.header_within wifiBeacon bcAddr info.myid info.macAddress 0).setFixedFields info
  obtain ⟨length, pktlen⟩ := setFixedFields_length info
    (MgntBuild.header_length wifiBeacon bcAddr info.myid info.macAddress 0) rfl
  unfold MgntInfo.beaconLen at small ⊢
  unfold buildBeacon
  generalize (MgntBuild.header wifiBeacon bcAddr info.myid info.macAddress 0).setFixedFields
    info = build at fixed length pktlen ⊢
  dsimp only
  cases ap : info.isAp with
  | false =>
    rw [ap] at small
    rw [if_neg Bool.false_ne_true] at small ⊢
    rw [if_neg Bool.false_ne_true]
    have network := fixed.setNetworkIes info true
    refine ⟨network.mono (by omega), ?_⟩
    have size := network.length
    rw [network.pktlen, BitVec.toNat_ofNat]
    exact (Nat.mod_le _ _).trans size
  | true =>
    rw [ap] at small
    rw [if_pos rfl] at small ⊢
    rw [if_pos rfl]
    obtain ⟨copied, counted⟩ := copyBeaconIes fixed length pktlen short
    generalize build.copy (info.ieLength - 12) (bytesFrom info.ies 12
      (build.pktlen + (info.ieLength - 12)).toNat) = build at copied counted ⊢
    by_cases owner : info.pwdinfo.role = .go
    · rw [if_pos owner] at small ⊢
      rw [if_pos owner]
      refine ⟨copied.setP2pIe ?_, ?_⟩
      · rw [beaconP2pIe_length]
        omega
      · have added : (build.setP2pIe info.pwdinfo.beaconP2pIe).pktlen = build.pktlen + 20 := by
          rw [MgntBuild.setP2pIe, MgntBuild.setIe_pktlen, beaconP2pIe_length]
          rfl
        rw [added, counted]
        bv_omega
    · rw [if_neg owner] at small ⊢
      rw [if_neg owner]
      refine ⟨copied.mono (by omega), ?_⟩
      rw [counted]
      bv_omega

theorem issueBeacon_proper (short : info.ieLength.toNat ≤ maxIeSz) (small : info.beaconLen + 32 ≤ 512) :
    ∃ build, issueBeacon info = .dumped build ∧ build.Proper := by
  obtain ⟨within, size⟩ := buildBeacon_within short small
  refine ⟨buildBeacon info, if_neg ?_, within.proper (by omega)⟩
  bv_omega

theorem getWpsIeFrom_bounds {inIe : Nat → U8} {inLen cnt offset length : Nat}
    (found : getWpsIeFrom inIe inLen cnt = some (offset, length)) :
    offset < inLen ∧ length ≤ 257 := by
  fun_induction getWpsIeFrom inIe inLen cnt with
  | case1 cnt inside step element =>
    simp only [Option.some.injEq, Prod.mk.injEq] at found
    obtain ⟨rfl, size⟩ := found
    refine ⟨inside, ?_⟩
    rw [← size]
    omega
  | case2 cnt inside step other ih => exact ih found
  | case3 cnt outside => cases found

def WpsInside (info : MgntInfo) (wpsProbeRespIe : Option (Nat → U8)) : Prop :=
  ∀ wps, wpsProbeRespIe = some wps → ∀ offset length,
    getWpsIeFrom info.ies info.ieLength.toNat 12 = some (offset, length) →
      offset + length ≤ info.ieLength.toNat ∨ maxIeSz + length < info.ieLength.toNat + ((wps 1).toNat + 2) ∨
        info.ieLength.toNat + ((wps 1).toNat + 2) < length

theorem MgntBuild.Within.setProbeRespIes (within : build.Within 24)
    (short : info.ieLength.toNat ≤ maxIeSz) (wps : WpsInside info wpsProbeRespIe) :
    (build.setProbeRespIes info wpsProbeRespIe).Within (24 + maxIeSz) := by
  have limit : maxIeSz = 768 := rfl
  unfold MgntBuild.setProbeRespIes
  split
  · rename_i wpsIe offset length element
    have inside := wps wpsIe rfl offset length element
    obtain ⟨before, size⟩ := getWpsIeFrom_bounds element
    generalize info.ieLength = ieLength at *
    have offset_ : (ofNat 32 offset).toNat = offset := by
      rw [BitVec.toNat_ofNat]
      omega
    have newLen : ((wpsIe 1).setWidth 32 + 2 : U32).toNat = (wpsIe 1).toNat + 2 := by
      bv_omega
    have both : (ofNat 32 offset + (wpsIe 1).setWidth 32 + 2 : U32).toNat =
        offset + ((wpsIe 1).toNat + 2) := by
      bv_omega
    dsimp only
    rw [both]
    have first : (build.copy (ofNat 32 offset) (bytesFrom info.ies 0 offset)).Within
        (24 + offset) := within.copy (by simp [offset_]) (by simp)
    generalize build.copy (ofNat 32 offset) (bytesFrom info.ies 0 offset) = build
      at first ⊢
    by_cases fits : offset + ((wpsIe 1).toNat + 2) ≤ maxIeSz
    · rw [if_pos fits]
      have second : (build.copy ((wpsIe 1).setWidth 32 + 2) (bytesFrom wpsIe 0
          ((wpsIe 1).setWidth 32 + 2 : U32).toNat)).Within
          (24 + offset + ((wpsIe 1).toNat + 2)) := first.copyFrom (by omega)
      by_cases rest : (ofNat 32 offset + (wpsIe 1).setWidth 32 + 2 +
          (ieLength - ofNat 32 offset - ofNat 32 length) : U32).toNat ≤ maxIeSz
      · rw [if_pos rest]
        refine second.copyFrom ?_
        have whole : offset + length ≤ ieLength.toNat := by bv_omega
        bv_omega
      · rw [if_neg rest]
        exact second.mono (by omega)
    · rw [if_neg fits]
      have rest : ¬(ofNat 32 offset + (wpsIe 1).setWidth 32 + 2 +
          (ieLength - ofNat 32 offset - ofNat 32 length) : U32).toNat ≤ maxIeSz := by
        bv_omega
      rw [if_neg rest]
      exact first.mono (by omega)
  · exact within.copyFrom (by omega)

theorem buildProbeRespP2pIe_length {pwdinfo : WifidirectInfo} {p2pie : List U8}
    (built : pwdinfo.buildProbeRespP2pIe = some p2pie) : p2pie.length ≤ maxP2pIeLen := by
  obtain ⟨group, -, built⟩ := Option.bind_eq_some_iff.mp built
  split at built
  · cases built
  · rename_i fits
    cases built
    exact Nat.le_of_not_lt fits

structure ProberspMeets (info : MgntInfo) (isValidP2pProbereq : Bool)
    (wpsProbeRespIe : Option (Nat → U8)) : Prop where
  short : info.ieLength.toNat ≤ maxIeSz
  wps : info.isAp = true → WpsInside info wpsProbeRespIe
  p2p : info.pwdinfo.role = .go → isValidP2pProbereq = true → info.pwdinfo.buildProbeRespP2pIe ≠ none
  room : info.isAp = false → 36 + info.networkIesLen info.isAdhoc +
    (if info.pwdinfo.role = .go ∧ isValidP2pProbereq then
      (info.pwdinfo.buildProbeRespP2pIe.getD []).length + 2 else 0) ≤ 2008

theorem issueProbersp_proper {isValidP2pProbereq : Bool} (da : MacAddr)
    (meets : ProberspMeets info isValidP2pProbereq wpsProbeRespIe) :
    ∃ build, issueProbersp info da isValidP2pProbereq wpsProbeRespIe = some (.dumped build) ∧ build.Proper := by
  have limit : maxIeSz = 768 := rfl
  have header := MgntBuild.header_within wifiProbersp da info.myid info.macAddress info.mgntSeq
  have room := meets.room
  unfold issueProbersp
  generalize MgntBuild.header wifiProbersp da info.myid info.macAddress info.mgntSeq = build
    at header ⊢
  dsimp only
  rw [if_neg (Nat.not_lt.mpr meets.short)]
  have elements : (if info.isAp then build.setProbeRespIes info wpsProbeRespIe
      else (build.setFixedFields info).setNetworkIes info info.isAdhoc).Within
        (if info.isAp then 24 + maxIeSz else 36 + info.networkIesLen info.isAdhoc) := by
    cases ap : info.isAp with
    | true => exact header.setProbeRespIes meets.short (meets.wps ap)
    | false => exact (header.setFixedFields info).setNetworkIes info info.isAdhoc
  generalize (if info.isAp then build.setProbeRespIes info wpsProbeRespIe
      else (build.setFixedFields info).setNetworkIes info info.isAdhoc) = build at elements ⊢
  by_cases p2p : info.pwdinfo.role = .go ∧ isValidP2pProbereq
  · rw [if_pos p2p]
    rw [if_pos p2p] at room
    obtain ⟨p2pie, built⟩ := Option.ne_none_iff_exists'.mp (meets.p2p p2p.1 p2p.2)
    have length := buildProbeRespP2pIe_length built
    rw [built] at room ⊢
    refine ⟨build.setP2pIe p2pie, rfl, (elements.setP2pIe le_rfl).proper ?_⟩
    rw [Option.getD_some] at room
    unfold maxP2pIeLen at length
    cases ap : info.isAp with
    | true =>
      rw [if_pos rfl]
      omega
    | false => exact room ap
  · rw [if_neg p2p]
    rw [if_neg p2p] at room
    refine ⟨build, rfl, elements.proper ?_⟩
    cases ap : info.isAp with
    | true =>
      rw [if_pos rfl]
      omega
    | false => exact room ap

theorem shortBytes_length (value : U16) : (shortBytes value).length = 2 := rfl

theorem issueAuthSta_proper (info : MgntInfo) (psta : AuthSta) (status : U16) :
    (issueAuthSta info psta status).Proper := by
  have header := MgntBuild.header_within wifiAuth psta.hwaddr info.myid info.myid info.mgntSeq
  unfold issueAuthSta
  generalize MgntBuild.header wifiAuth psta.hwaddr info.myid info.myid info.mgntSeq = build
    at header ⊢
  dsimp only
  generalize (if status ≠ 0 then 0 else psta.authalg) = algorithm
  have fields : (((build.setFixedIe (shortBytes algorithm)).setFixedIe
      (shortBytes psta.authSeq)).setFixedIe (shortBytes status)).Within 30 :=
    ((header.setFixedIe le_rfl).setFixedIe le_rfl).setFixedIe le_rfl
  split
  · exact (fields.setIe le_rfl).proper (by decide)
  · exact fields.proper (by decide)

theorem MgntBuild.Within.encrypted {limit : Nat}
    (within : build.Within limit) (long : 28 ≤ build.frame.length) (small : limit ≤ 2000)
    (key : security.dot11DefKeylen security.dot11PrivacyKeyIndex ≤ 13) :
    ∃ after, build.encrypted security = some after ∧ after.Within (limit + 4) := by
  have length := within.length
  have extent := within.extent
  have pktlen : (build.pktlen + 4).toNat = build.frame.length + 4 := by
    rw [within.pktlen]
    bv_omega
  unfold MgntBuild.encrypted
  dsimp only
  rw [pktlen]
  have buffer : (build.frame.set 1 0x40 ++ [0, 0, 0, 0]).length = build.frame.length + 4 := by
    simp
  generalize build.frame.set 1 0x40 ++ [0, 0, 0, 0] = memory at buffer ⊢
  have payload : (ofNat 32 (build.frame.length + 4) - ofNat 32 24 -
      ofNat 32 4 - ofNat 32 4).toNat = build.frame.length - 28 := by
    bv_omega
  have iv : segment memory 24 3 = some ((memory.drop 24).take 3) :=
    segment_of_le (by omega)
  have plain : segment memory 28 (build.frame.length - 28) =
      some ((memory.drop 28).take (build.frame.length - 28)) := segment_of_le (by omega)
  have plainLength := segment_length plain
  generalize (memory.drop 28).take (build.frame.length - 28) = text at plain plainLength
  obtain ⟨wepkey, keyed⟩ : ∃ wepkey, wepKey ((memory.drop 24).take 3)
      (security.dot11DefKey security.dot11PrivacyKeyIndex)
      (security.dot11DefKeylen security.dot11PrivacyKeyIndex) = some wepkey :=
    ⟨_, if_pos (by omega)⟩
  have room : 28 + text.length + 4 ≤ memory.length := by omega
  obtain ⟨first, after, wroteFirst, wrote, afterLength, -, -⟩ :=
    arcfourInPlace_exists wepkey room
  rw [plainLength] at wrote
  have done : wepEncryptFragment security (challengeAttrib (build.frame.length + 4))
      (build.frame.length + 4) 0 memory = some after := by
    simp only [wepEncryptFragment, challengeAttrib, Nat.zero_add, payload, iv, keyed, plain,
      Option.bind_eq_bind, Option.bind_some, wroteFirst, wrote]
  refine ⟨⟨after, build.pktlen + 4, max build.extent (build.frame.length + 4)⟩, ?_, ?_, ?_, ?_⟩
  · rw [done]
    rfl
  · dsimp only
    rw [afterLength, buffer, within.pktlen]
    bv_omega
  · dsimp only
    omega
  · dsimp only
    omega

theorem issueAuthClient_proper (info : MgntInfo) {client : AuthClient} (status : U16)
    (key : client.authSeq = 3 → info.fwAuthState = true → client.shared = true →
      security.dot11DefKeylen security.dot11PrivacyKeyIndex ≤ 13) :
    ∃ build, issueAuthClient info security client status = some build ∧ build.Proper := by
  have header := MgntBuild.header_within wifiAuth info.macAddress info.myid info.macAddress
    info.mgntSeq
  have pktlen : (MgntBuild.header wifiAuth info.macAddress info.myid info.macAddress info.mgntSeq).pktlen = 24 := rfl
  unfold issueAuthClient
  generalize MgntBuild.header wifiAuth info.macAddress info.myid info.macAddress info.mgntSeq =
    build at header pktlen ⊢
  dsimp only
  generalize (if client.shared then (1 : U16) else 0) = algorithm
  generalize client.iv ||| client.keyIndex <<< 30 = iv
  by_cases answers : client.authSeq = 3 ∧ info.fwAuthState ∧ client.shared
  · rw [if_pos answers, if_pos answers]
    have fields : ((((build.setFixedIe (littleEndian iv)).setFixedIe (shortBytes algorithm)).setFixedIe
        (shortBytes client.authSeq)).setFixedIe (shortBytes status)).Within 34 :=
      (((header.setFixedIe le_rfl).setFixedIe le_rfl).setFixedIe le_rfl).setFixedIe le_rfl
    have fieldsCount : ((((build.setFixedIe (littleEndian iv)).setFixedIe
        (shortBytes algorithm)).setFixedIe (shortBytes client.authSeq)).setFixedIe
        (shortBytes status)).pktlen = 34 := by
      simp only [MgntBuild.setFixedIe_pktlen, pktlen]
      rfl
    generalize (((build.setFixedIe (littleEndian iv)).setFixedIe (shortBytes algorithm)).setFixedIe
        (shortBytes client.authSeq)).setFixedIe (shortBytes status) = build at fields fieldsCount ⊢
    have text : (build.setIe chlgetxtIe 128 fun i => client.chgTxt.toList.getD i 0).Within 164 :=
      fields.setIe le_rfl
    have count : (build.setIe chlgetxtIe 128 fun i => client.chgTxt.toList.getD i 0).pktlen = 164 := by
      rw [MgntBuild.setIe_pktlen, fieldsCount]
      rfl
    generalize (build.setIe chlgetxtIe 128 fun i => client.chgTxt.toList.getD i 0) = build
      at text count ⊢
    have long : 28 ≤ build.frame.length := by
      have same := text.pktlen
      rw [count] at same
      bv_omega
    obtain ⟨after, done, within⟩ := text.encrypted long (by omega)
      (key answers.1 answers.2.1 answers.2.2)
    exact ⟨after, done, within.proper (by omega)⟩
  · rw [if_neg answers, if_neg answers]
    have fields : (((build.setFixedIe (shortBytes algorithm)).setFixedIe
        (shortBytes client.authSeq)).setFixedIe (shortBytes status)).Within 30 :=
      ((header.setFixedIe le_rfl).setFixedIe le_rfl).setFixedIe le_rfl
    exact ⟨_, rfl, fields.proper (by decide)⟩

def MgntInfo.copiedLen (info : MgntInfo) (index : U8) : Nat :=
  match getIeAt info.ies 12 index (info.ieLength.toNat - 12) with
  | none => 0
  | some p => if 0 < info.ies (p + 1) then (info.ies (p + 1)).toNat + 2 else 0

theorem elementCount (length : U8) : (length.setWidth 32 + 2 : U32).toNat = length.toNat + 2 := by
  bv_omega

theorem MgntBuild.Within.copyIe {index : U8} {limit : Nat} (within : build.Within limit) :
    (build.copyIe info index).Within (limit + info.copiedLen index) := by
  unfold MgntBuild.copyIe MgntInfo.copiedLen
  cases getIeAt info.ies 12 index (info.ieLength.toNat - 12) with
  | none => exact within
  | some p =>
    dsimp only
    by_cases body : 0 < info.ies (p + 1)
    · rw [if_pos body, if_pos body]
      refine within.copy ?_ ?_
      · rw [elementCount, MgntBuild.length_bytesFrom]
      · rw [MgntBuild.length_bytesFrom]
    · rw [if_neg body, if_neg body]
      exact within

def MgntInfo.wmmLen (info : MgntInfo) : Nat :=
  match wmmParaIe info with
  | some (some p) => (info.ies (p + 1)).toNat + 2
  | _ => 0

def MgntInfo.networkCopiedLen (info : MgntInfo) (options : AsocOptions) (pstat : AsocSta) : Nat :=
  (if pstat.ht ∧ options.htOption then
    info.copiedLen htCapabilityIe + info.copiedLen htAddInfoIe else 0) +
    if pstat.wme ∧ options.qosOption then info.wmmLen else 0

theorem MgntBuild.Within.copyNetworkIes {limit : Nat} (within : build.Within limit)
    (ends : pstat.wme = true → options.qosOption = true → wmmParaIe info ≠ none) :
    ∃ after, build.copyNetworkIes info options pstat = some after ∧
      after.Within (limit + info.networkCopiedLen options pstat) := by
  unfold MgntBuild.copyNetworkIes MgntInfo.networkCopiedLen
  have ht : (if pstat.ht ∧ options.htOption then
      (build.copyIe info htCapabilityIe).copyIe info htAddInfoIe else build).Within
        (limit + if pstat.ht ∧ options.htOption then
          info.copiedLen htCapabilityIe + info.copiedLen htAddInfoIe else 0) := by
    by_cases both : pstat.ht ∧ options.htOption
    · rw [if_pos both, if_pos both]
      exact within.copyIe.copyIe.mono (by omega)
    · rw [if_neg both, if_neg both]
      exact within
  generalize (if pstat.ht ∧ options.htOption then
      (build.copyIe info htCapabilityIe).copyIe info htAddInfoIe else build) = build at ht ⊢
  by_cases wmm : pstat.wme ∧ options.qosOption
  · rw [if_pos wmm, if_pos wmm]
    obtain ⟨found, walked⟩ := Option.ne_none_iff_exists'.mp (ends wmm.1 wmm.2)
    unfold MgntInfo.wmmLen
    rw [walked]
    cases found with
    | none => exact ⟨build, rfl, ht.mono (by omega)⟩
    | some p =>
      refine ⟨_, rfl, ht.copy ?_ ?_⟩
      · rw [elementCount, MgntBuild.length_bytesFrom]
      · rw [MgntBuild.length_bytesFrom]
        exact (Nat.add_assoc ..).le
  · rw [if_neg wmm, if_neg wmm]
    exact ⟨build, rfl, ht.mono (by omega)⟩

def AsocSta.ratesLen (pstat : AsocSta) : Nat :=
  if pstat.bssratelen ≤ 8 then pstat.bssratelen.toNat + 2 else pstat.bssratelen.toNat + 4

def asocrspLen (info : MgntInfo) (options : AsocOptions) (pstat : AsocSta) : Nat :=
  30 + pstat.ratesLen + info.networkCopiedLen options pstat + (if options.realtekAp then 8 else 0) +
    if info.pwdinfo.role = .go ∧ pstat.isP2pDevice then 10 else 0

structure AsocrspMeets (info : MgntInfo) (options : AsocOptions) (pstat : AsocSta)
    (pktType : Int) : Prop where
  pktType : pktType = wifiAssocrsp.toNat ∨ pktType = wifiReassocrsp.toNat
  ends : pstat.wme = true → options.qosOption = true → wmmParaIe info ≠ none
  room : asocrspLen info options pstat ≤ 2008

theorem MgntBuild.Within.rates {limit : Nat} (within : build.Within limit) (pstat : AsocSta) :
    (if pstat.bssratelen ≤ 8 then build.setIe supportedratesIe pstat.bssratelen pstat.bssrateset
      else
        (build.setIe supportedratesIe 8 pstat.bssrateset).setIe extSupportedratesIe
          (pstat.bssratelen - 8) fun i => pstat.bssrateset (8 + i)).Within
      (limit + pstat.ratesLen) := by
  unfold AsocSta.ratesLen
  by_cases few : pstat.bssratelen ≤ 8
  · rw [if_pos few, if_pos few]
    exact within.setIe le_rfl
  · rw [if_neg few, if_neg few]
    have first : (build.setIe supportedratesIe 8 pstat.bssrateset).Within (limit + 10) :=
      within.setIe le_rfl
    refine first.setIe ?_
    bv_omega

theorem issueAsocrsp_proper {pktType : Int} (status : U16) (meets : AsocrspMeets info options pstat pktType) :
    ∃ build, issueAsocrsp info options pstat status pktType = some (.dumped build) ∧ build.Proper := by
  have room := meets.room
  have header := MgntBuild.header_within (BitVec.ofInt 16 pktType) pstat.hwaddr info.myid
    info.macAddress info.mgntSeq
  unfold asocrspLen at room
  unfold issueAsocrsp
  rw [if_neg (by have either := meets.pktType; omega)]
  generalize MgntBuild.header (BitVec.ofInt 16 pktType) pstat.hwaddr info.myid info.macAddress
    info.mgntSeq = build at header ⊢
  dsimp only
  have fields : (((build.setFixedIe (bytesFrom info.ies 10 2)).setFixedIe (shortBytes status)).setFixedIe
      (shortBytes (pstat.aid.setWidth 16 ||| 0xc000))).Within 30 :=
    ((header.setFixedIe le_rfl).setFixedIe le_rfl).setFixedIe le_rfl
  have rates := fields.rates pstat
  obtain ⟨copied, done, network⟩ := rates.copyNetworkIes meets.ends
  rw [done]
  have vendor : (if options.realtekAp then
      copied.setIe vendorSpecificIe 6 fun i => realtek96bIe.getD i 0 else copied).Within
        (30 + pstat.ratesLen + info.networkCopiedLen options pstat +
          if options.realtekAp then 8 else 0) := by
    cases options.realtekAp with
    | false => exact network
    | true => exact network.setIe le_rfl
  refine ⟨_, rfl, ?_⟩
  generalize (if options.realtekAp then
      copied.setIe vendorSpecificIe 6 fun i => realtek96bIe.getD i 0 else copied) = build
    at vendor ⊢
  by_cases p2p : info.pwdinfo.role = .go ∧ pstat.isP2pDevice
  · rw [if_pos p2p] at room
    rw [if_pos p2p]
    exact (vendor.setP2pIe le_rfl).proper room
  · rw [if_neg p2p] at room
    rw [if_neg p2p]
    exact vendor.proper room

theorem issueDeauthFrame_proper (info : MgntInfo) (da : MacAddr) (reason : U16) :
    (issueDeauthFrame info da reason).Proper := by
  have header := MgntBuild.header_within wifiDeauth da info.myid info.macAddress info.mgntSeq
  have body : (issueDeauthFrame info da reason).Within 26 := header.setFixedIe le_rfl
  exact body.proper (by decide)

theorem MgntBuild.Within.baFields {dialogToken : U8}
    {first second third : U16} (within : build.Within 26) :
    ((((build.setFixedIe [dialogToken]).setFixedIe (shortBytes first)).setFixedIe
      (shortBytes second)).setFixedIe (shortBytes third)).Within 33 := by
  have token : (build.setFixedIe [dialogToken]).Within 27 := within.setFixedIe le_rfl
  have one : ((build.setFixedIe [dialogToken]).setFixedIe (shortBytes first)).Within 29 :=
    token.setFixedIe (by rw [shortBytes_length])
  have two : (((build.setFixedIe [dialogToken]).setFixedIe (shortBytes first)).setFixedIe
      (shortBytes second)).Within 31 := one.setFixedIe (by rw [shortBytes_length])
  exact two.setFixedIe (by rw [shortBytes_length])

theorem issueActionBA_proper (info : MgntInfo) (ba : BaInfo) (raddr : MacAddr) (action : U8)
    (status : U16) : (issueActionBA info ba raddr action status).Proper := by
  have header := MgntBuild.header_within wifiAction raddr info.myid info.macAddress info.mgntSeq
  unfold issueActionBA
  generalize MgntBuild.header wifiAction raddr info.myid info.macAddress info.mgntSeq = build
    at header ⊢
  have head : ((build.setFixedIe [3]).setFixedIe [action]).Within 26 :=
    (header.setFixedIe le_rfl).setFixedIe le_rfl
  dsimp only
  generalize (build.setFixedIe [3]).setFixedIe [action] = build at head ⊢
  split
  · exact head.baFields.proper (by decide)
  · exact head.baFields.proper (by decide)
  · have reason : (build.setFixedIe (shortBytes ((status &&& 0x1f) <<< 3))).Within 28 :=
      head.setFixedIe (by rw [shortBytes_length])
    have body : ((build.setFixedIe (shortBytes ((status &&& 0x1f) <<< 3))).setFixedIe
        (shortBytes 37)).Within 30 := reason.setFixedIe (by rw [shortBytes_length])
    exact body.proper (by decide)
  · exact head.proper (by decide)

end Floid.Wifi
