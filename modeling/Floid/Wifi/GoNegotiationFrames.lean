import Floid.Wifi.GoNegotiation

namespace Floid.Wifi

open Floid.Osk Floid.Lib WifidirectInfo
open List (append_assoc append_nil length_append length_cons length_nil)
open Option (bind_eq_bind bind_some)
open BitVec (ofNat)

def sectionElement (body : List U8) (short : body.length ≤ 255) : Element :=
  ⟨vendorSpecificIe, body, Nat.lt_succ_of_le short⟩

namespace MgntBuild

variable {build : MgntBuild} {bytes body : List U8} {count : U32}

theorem copy_frame (reaches : count.toNat = bytes.length) (small : build.frame.length + bytes.length < 2 ^ 32) :
    (build.copy count bytes).frame = build.frame ++ bytes := by
  rw [copy, reaches, Nat.mod_eq_of_lt small, ← length_append, List.take_length]

theorem setFixedIe_frame (small : build.frame.length + bytes.length < 2 ^ 32) :
    (build.setFixedIe bytes).frame = build.frame ++ bytes := by
  refine copy_frame ?_ small
  rw [BitVec.toNat_ofNat, Nat.mod_eq_of_lt (by omega)]

theorem bytesFrom_list (list : List U8) : bytesFrom (fun i => list.getD i 0) 0 list.length = list := by
  apply List.ext_getElem
  · rw [length_bytesFrom]
  · intro i within inside
    simp [bytesFrom, inside]

theorem setP2pIe_frame (short : body.length ≤ 255) (small : build.frame.length < 2 ^ 31) :
    (build.setP2pIe body).frame = build.frame ++ (sectionElement body short).bytes := by
  have width : (ofNat 32 body.length).toNat = body.length := by
    rw [BitVec.toNat_ofNat]
    omega
  have low : (ofNat 32 body.length).setWidth 8 = ofNat 8 body.length := by
    apply BitVec.eq_of_toNat_eq
    rw [BitVec.toNat_setWidth, width, BitVec.toNat_ofNat]
  unfold setP2pIe setIe
  rw [width, low, bytesFrom_list]
  refine copy_frame ?_ ?_
  · rw [length_cons, length_cons]
    bv_omega
  · rw [length_cons, length_cons]
    omega

end MgntBuild

structure GoFrameLayout (raddr addr2 : MacAddr) (ouiSubtype dialogToken : U8) (sections : List U8)
    (pframe : List U8) : Prop where
  parts : ∃ first last : List U8, first.length = 4 ∧ last.length = 8 ∧
    pframe = first ++ (raddr.toList ++ (addr2.toList ++ (last ++
      ([4, 9, 0x50, 0x6f, 0x9a, 0x09, ouiSubtype, dialogToken] ++ sections))))

namespace GoFrameLayout

variable {raddr addr2 : MacAddr} {ouiSubtype dialogToken : U8} {sections pframe : List U8}

theorem length (layout : GoFrameLayout raddr addr2 ouiSubtype dialogToken sections pframe) :
    pframe.length = 32 + sections.length := by
  obtain ⟨first, last, four, eight, rfl⟩ := layout.parts
  simp [four, eight]
  omega

theorem toRaddr (layout : GoFrameLayout raddr addr2 ouiSubtype dialogToken sections pframe) :
    segment pframe 4 6 = some raddr.toList := by
  obtain ⟨first, last, four, eight, rfl⟩ := layout.parts
  have found := segment_middle first raddr.toList (addr2.toList ++ (last ++
    ([4, 9, 0x50, 0x6f, 0x9a, 0x09, ouiSubtype, dialogToken] ++ sections)))
  rwa [four, Vector.length_toList, append_assoc] at found

theorem fromAddr2 (layout : GoFrameLayout raddr addr2 ouiSubtype dialogToken sections pframe) :
    (Vector.ofFn fun i : Fin 6 => pframe.getD (10 + i) 0) = addr2 := by
  obtain ⟨first, last, four, eight, rfl⟩ := layout.parts
  apply Vector.ext
  intro i small
  have head : (first ++ raddr.toList).length = 10 := by simp [four]
  rw [Vector.getElem_ofFn, List.getD_eq_getElem?_getD, ← append_assoc,
    List.getElem?_append_right (by omega), head, Nat.add_sub_cancel_left,
    List.getElem?_append_left (by simpa using small)]
  simp [small]

theorem drop (layout : GoFrameLayout raddr addr2 ouiSubtype dialogToken sections pframe) :
    pframe.drop 24 = [4, 9, 0x50, 0x6f, 0x9a, 0x09, ouiSubtype, dialogToken] ++ sections := by
  obtain ⟨first, last, four, eight, rfl⟩ := layout.parts
  have head : (first ++ raddr.toList ++ addr2.toList ++ last).length = 24 := by
    simp [four, eight]
  rw [← append_assoc, ← append_assoc, ← append_assoc, ← head, List.drop_left]

theorem behind (layout : GoFrameLayout raddr addr2 ouiSubtype dialogToken sections pframe) (i : Nat) :
    pframe[24 + i]? = ([4, 9, 0x50, 0x6f, 0x9a, 0x09, ouiSubtype, dialogToken] ++ sections)[i]? := by
  rw [← layout.drop, List.getElem?_drop]

theorem oui (layout : GoFrameLayout raddr addr2 ouiSubtype dialogToken sections pframe) :
    segment pframe 26 4 = some p2poui := by
  have long := layout.length
  have whole := layout.drop
  have next : pframe.drop 26 = (pframe.drop 24).drop 2 := by rw [List.drop_drop]
  rw [segment_of_le (by omega), next, whole]
  rfl

theorem dropFixed (layout : GoFrameLayout raddr addr2 ouiSubtype dialogToken sections pframe) :
    (pframe.drop 24).drop 8 = sections := by
  rw [layout.drop]
  rfl

theorem inLen (layout : GoFrameLayout raddr addr2 ouiSubtype dialogToken sections pframe)
    (small : sections.length < 2 ^ 16) :
    (ofNat 32 pframe.length - 8 : U32).toNat = sections.length + 24 := by
  have length := layout.length
  bv_omega

theorem onActionPublic (layout : GoFrameLayout raddr addr2 ouiSubtype dialogToken sections pframe)
    (pwdinfo : NegoInfo) (others : NegoInfo → List U8 → Option NegoInfo) (allocated : Bool)
    (own : raddr = pwdinfo.myid) :
    pwdinfo.onActionPublic others pframe allocated =
      pwdinfo.onGoFrame others pframe allocated ouiSubtype addr2 := by
  have category := layout.behind 0
  have action := layout.behind 1
  have subtype := layout.behind 6
  simp only [Nat.add_zero, Nat.reduceAdd, List.cons_append, List.getElem?_cons_zero,
    List.getElem?_cons_succ] at category action subtype
  unfold NegoInfo.onActionPublic
  rw [layout.toRaddr, category, action, layout.oui, subtype, layout.fromAddr2, own]
  simp only [bind_eq_bind, bind_some, ne_eq, not_true_eq_false, if_false]

end GoFrameLayout

namespace NegoInfo

variable (info : NegoInfo) {raddr : MacAddr} {ouiSubtype dialogToken : U8}

theorem goFrameHead_layout (raddr : MacAddr) (ouiSubtype dialogToken : U8) (sections : List U8) :
    GoFrameLayout raddr info.myid ouiSubtype dialogToken sections
      ((info.goFrameHead raddr ouiSubtype dialogToken).frame ++ sections) := by
  refine ⟨shortBytes wifiAction ++ [0, 0],
    info.myid.toList ++ shortBytes ((info.mgntSeq <<< 4) &&& 0xfff0), rfl, by simp [shortBytes],
    ?_⟩
  have head := MgntBuild.header_within wifiAction raddr info.myid info.myid info.mgntSeq
  have bytes : (MgntBuild.header wifiAction raddr info.myid info.myid info.mgntSeq).frame =
      shortBytes wifiAction ++ ([0, 0] : List U8) ++ raddr.toList ++ info.myid.toList ++ info.myid.toList ++
        shortBytes ((info.mgntSeq <<< 4) &&& 0xfff0) := rfl
  unfold goFrameHead
  generalize MgntBuild.header wifiAction raddr info.myid info.myid info.mgntSeq = build
    at head bytes ⊢
  have category : (build.setFixedIe [4]).Within 25 := head.setFixedIe le_rfl
  have action : ((build.setFixedIe [4]).setFixedIe [9]).Within 26 := category.setFixedIe le_rfl
  have oui : (((build.setFixedIe [4]).setFixedIe [9]).setFixedIe p2poui).Within 30 := action.setFixedIe le_rfl
  have subtype : ((((build.setFixedIe [4]).setFixedIe [9]).setFixedIe
      p2poui).setFixedIe [ouiSubtype]).Within 31 := oui.setFixedIe le_rfl
  have short {build : MgntBuild} {limit : Nat} {bytes : List U8} (within : build.Within limit)
      (small : limit + bytes.length < 2 ^ 32) : build.frame.length + bytes.length < 2 ^ 32 := by
    have length := within.length
    omega
  rw [MgntBuild.setFixedIe_frame (short subtype (by simp)), MgntBuild.setFixedIe_frame (short oui (by simp)),
    MgntBuild.setFixedIe_frame (short action (by simp [p2poui])),
    MgntBuild.setFixedIe_frame (short category (by decide)),
    MgntBuild.setFixedIe_frame (short head (by decide)), bytes]
  simp [p2poui]

variable {p2p : List U8}

theorem sections_layout (raddr : MacAddr) (ouiSubtype dialogToken : U8) {wps : List U8}
    (wpsShort : wps.length ≤ 255) (p2pShort : p2p.length ≤ 255) :
    ∃ build after, setSection (info.goFrameHead raddr ouiSubtype dialogToken) wps = some build ∧
      setSection build p2p = some after ∧
      GoFrameLayout raddr info.myid ouiSubtype dialogToken
        ((sectionElement wps wpsShort).bytes ++ (sectionElement p2p p2pShort).bytes)
        after.frame := by
  have layout := info.goFrameHead_layout raddr ouiSubtype dialogToken
    ((sectionElement wps wpsShort).bytes ++ (sectionElement p2p p2pShort).bytes)
  have empty := (info.goFrameHead_layout raddr ouiSubtype dialogToken []).length
  generalize info.goFrameHead raddr ouiSubtype dialogToken = head at layout empty ⊢
  rw [append_nil, length_nil] at empty
  have first : (head.setP2pIe wps).frame = head.frame ++ (sectionElement wps wpsShort).bytes :=
    MgntBuild.setP2pIe_frame wpsShort (by omega)
  have length : (head.setP2pIe wps).frame.length < 2 ^ 31 := by
    rw [first, length_append, empty]
    simp only [sectionElement, Element.bytes, length_cons]
    omega
  refine ⟨head.setP2pIe wps, (head.setP2pIe wps).setP2pIe p2p, if_neg (by omega), if_neg (by omega), ?_⟩
  rw [MgntBuild.setP2pIe_frame p2pShort length, first, append_assoc]
  exact layout

theorem section_layout (raddr : MacAddr) (ouiSubtype dialogToken : U8) (short : p2p.length ≤ 255) :
    ∃ build, setSection (info.goFrameHead raddr ouiSubtype dialogToken) p2p = some build ∧
      GoFrameLayout raddr info.myid ouiSubtype dialogToken (sectionElement p2p short).bytes
        build.frame := by
  have layout := info.goFrameHead_layout raddr ouiSubtype dialogToken
    (sectionElement p2p short).bytes
  have empty := (info.goFrameHead_layout raddr ouiSubtype dialogToken []).length
  generalize info.goFrameHead raddr ouiSubtype dialogToken = head at layout empty ⊢
  rw [append_nil, length_nil] at empty
  refine ⟨head.setP2pIe p2p, if_neg (by omega), ?_⟩
  rw [MgntBuild.setP2pIe_frame short (by omega)]
  exact layout

theorem requestP2pIe_length : info.requestP2pIe.length ≤ 253 := by
  have name := info.nameFits
  simp [requestP2pIe, setP2pAttrContent, shortBytes, shortBytesBe, goIntentAttr, confTimeoutAttr,
    intendedIfAddrAttr, channelListAttr, deviceInfoAttr, operatingChAttr, countryString,
    p2poui, wpsOui]
  omega

theorem responseP2pIe_length (result : U8) : (info.responseP2pIe result).length ≤ 253 := by
  have name := info.nameFits
  have ssid := info.ssidFits
  have group : (if info.role = .go then
      setP2pAttrContent 0x0f (ofNat 16 (6 + info.negoSsid.length))
        (info.deviceAddr.toList ++ info.negoSsid)
      else []).length ≤ 41 := by
    split
    · simp [setP2pAttrContent, shortBytes]
      omega
    · exact Nat.zero_le _
  simp only [responseP2pIe, setP2pAttrContent, shortBytes, shortBytesBe, goIntentAttr,
    confTimeoutAttr, intendedIfAddrAttr, channelListAttr, deviceInfoAttr, operatingChAttr,
    countryString, p2poui, wpsOui, length_append, length_cons,
    length_nil, Vector.length_toList] at group ⊢
  omega

theorem confirmP2pIe_length (result : U8) : (info.confirmP2pIe result).length ≤ 253 := by
  cases role : info.role <;>
    simp [confirmP2pIe, role, setP2pAttrContent, shortBytes, operatingChAttr, countryString, p2poui]

end NegoInfo

section

variable {sections attrs rest data : List U8} {target attrId : U8} {attrLen : U16}

theorem findP2pAttr_section (short : (p2poui ++ attrs).length ≤ 255) :
    findP2pAttr (sectionElement (p2poui ++ attrs) short).bytes target = p2pAttrOf target attrs := by
  simp [findP2pAttr, sectionElement, Element.bytes, p2poui, Lib.segment]

variable {attrContentlen inLen : Nat} {p2pIe : List U8} {p2p : Element}

theorem getP2pAttrInto_found {n : Nat} {attrContent filled : Vector U8 n}
    (found : findP2pAttr p2pIe target = some (some (n, filled.toList ++ rest))) :
    getP2pAttrInto p2pIe target attrContent attrContentlen = some (true, filled, n) := by
  have length := filled.length_toList
  have content : segment (filled.toList ++ rest) 0 n = some filled.toList := by
    rw [segment_front rest (by omega), segment_of_le (by omega), List.drop_zero, List.take_of_length_le (by omega)]
  have copied : fillField attrContent 0 filled.toList = some filled := by
    unfold fillField
    rw [if_pos (by omega)]
    congr 1
    apply Vector.ext
    intro place small
    rw [Vector.getElem_ofFn, if_pos ⟨Nat.zero_le _, by omega⟩]
    simp [small]
  unfold getP2pAttrInto
  rw [found]
  simp only [content, copied, bind_some, Option.map_some]

theorem getP2pAttrInto_missing {n : Nat} {attrContent : Vector U8 n}
    (missing : findP2pAttr p2pIe target = some none) :
    getP2pAttrInto p2pIe target attrContent attrContentlen = some (false, attrContent, attrContentlen) := by
  unfold getP2pAttrInto
  rw [missing]

theorem getVendorIe_alone (p2pId : p2p.id = vendorSpecificIe)
    (p2pFirst : p2p.data.take 4 = p2poui) (p2pLong : 4 ≤ p2p.data.length)
    (inside : 0 < inLen) :
    getVendorIe p2poui p2p.bytes inLen = some (some (p2p.bytes ++ [])) := by
  have found : getVendorIe p2poui (p2p.bytes ++ []) inLen =
      some (some (p2p.bytes ++ [])) := getVendorIe_found p2pId p2pFirst p2pLong inside
  rwa [append_nil] at found ⊢

theorem sections_found {wps : Element} (wpsId : wps.id = vendorSpecificIe)
    (wpsFirst : wps.data.take 4 = wpsOui) (wpsLong : 4 ≤ wps.data.length)
    (p2pId : p2p.id = vendorSpecificIe) (p2pFirst : p2p.data.take 4 = p2poui)
    (p2pLong : 4 ≤ p2p.data.length) (fits : p2p.bytes.length ≤ 255)
    (all : inLen = (wps.bytes ++ p2p.bytes).length + 24) :
    getWpsIeP2p (wps.bytes ++ p2p.bytes) inLen = some true ∧
      getP2pIeInto 255 (wps.bytes ++ p2p.bytes) inLen = some (some p2p.bytes) := by
  have inside : 0 < inLen := by omega
  have rest : 0 < inLen - wps.bytes.length := by
    rw [all, length_append]
    omega
  constructor
  · unfold getWpsIeP2p
    rw [getVendorIe_found wpsId wpsFirst wpsLong inside]
    rfl
  · have other : wps.data.take 4 ≠ p2poui := by
      rw [wpsFirst]
      decide
    have found : getVendorIe p2poui (wps.bytes ++ p2p.bytes) inLen = some (some (p2p.bytes ++ [])) := by
      rw [getVendorIe_skip other wpsLong inside]
      exact getVendorIe_alone p2pId p2pFirst p2pLong rest
    exact getP2pIeInto_found found fits

theorem section_found (p2pId : p2p.id = vendorSpecificIe)
    (p2pFirst : p2p.data.take 4 = p2poui) (p2pLong : 4 ≤ p2p.data.length)
    (fits : p2p.bytes.length ≤ 255) (all : inLen = p2p.bytes.length + 24) :
    getP2pIeInto 255 p2p.bytes inLen = some (some p2p.bytes) := by
  have found : getVendorIe p2poui p2p.bytes inLen = some (some (p2p.bytes ++ [])) := by
    exact getVendorIe_alone p2pId p2pFirst p2pLong (by omega)
  exact getP2pIeInto_found found fits

end

def NegoInfo.sentIntent (info : NegoInfo) : U8 := info.intent <<< 1 ||| 1

namespace NegoInfo

variable {info pwdinfo : NegoInfo} {raddr addr2 : MacAddr} {dialogToken result : U8}
variable {devicePwid : U16} {wpsShort : (negoWpsIe devicePwid).length ≤ 255} {pframe : List U8}

theorem negoWpsIe_length (devicePwid : U16) : (negoWpsIe devicePwid).length = 15 := rfl

theorem layout_sections_found {ouiSubtype : U8} {body attrs : List U8} {short : body.length ≤ 255}
    (layout : GoFrameLayout raddr addr2 ouiSubtype dialogToken
      ((sectionElement (negoWpsIe devicePwid) wpsShort).bytes ++ (sectionElement body short).bytes) pframe)
    (begins : body = p2poui ++ attrs) (fits : body.length ≤ 253) :
    getWpsIeP2p ((pframe.drop 24).drop 8) (ofNat 32 pframe.length - 8 : U32).toNat = some true ∧
      getP2pIeInto 255 ((pframe.drop 24).drop 8) (ofNat 32 pframe.length - 8 : U32).toNat =
        some (some (sectionElement body short).bytes) := by
  subst begins
  have wpsSize : (sectionElement (negoWpsIe devicePwid) wpsShort).bytes.length = 17 := rfl
  have size : (sectionElement (p2poui ++ attrs) short).bytes.length ≤ 255 := by
    simp only [sectionElement, Element.bytes, length_cons]
    omega
  rw [layout.dropFixed, layout.inLen (by rw [length_append]; omega)]
  have wpsLong : 4 ≤ (sectionElement (negoWpsIe devicePwid) wpsShort).data.length :=
    (by decide : 4 ≤ 15)
  have p2pLong : 4 ≤ (sectionElement (p2poui ++ attrs) short).data.length := by
    simp [sectionElement, p2poui]
  exact sections_found rfl rfl wpsLong rfl rfl p2pLong size rfl

def requested (pwdinfo info : NegoInfo) : NegoInfo :=
  { pwdinfo with
    p2pState := .gonegoIng
    peerIntent := info.sentIntent
    role := negotiatedRole pwdinfo.intent info.sentIntent
    p2pPeerInterfaceAddr := info.myid }

def intentStatus (pwdinfo info : NegoInfo) : U8 :=
  if pwdinfo.intent = info.sentIntent >>> 1 ∧ pwdinfo.intent = 15 then p2pStatusFailBothGointent15
  else 0

theorem processReq_request {short : info.requestP2pIe.length ≤ 255} (layout : GoFrameLayout raddr addr2 0 dialogToken
      ((sectionElement (negoWpsIe devicePwid) wpsShort).bytes ++
        (sectionElement info.requestP2pIe short).bytes) pframe) :
    pwdinfo.processP2pGroupNegotationReq (pframe.drop 24) (ofNat 32 pframe.length) =
      some (pwdinfo.intentStatus info, pwdinfo.requested info) := by
  obtain ⟨wps, p2p⟩ := layout_sections_found layout rfl info.requestP2pIe_length
  have intent : findP2pAttr (sectionElement info.requestP2pIe short).bytes 0x04 =
      some (some (1, (#v[info.sentIntent] : Vector U8 1).toList ++ (confTimeoutAttr ++
        (setP2pAttrContent 0x06 5 (countryString ++ [info.listenChannel]) ++
          (setP2pAttrContent 0x08 4 [0xff, 0xff, 0xff, 0xff] ++ (info.intendedIfAddrAttr ++
            (channelListAttr ++ (info.deviceInfoAttr ++ operatingChAttr 11)))))))) := by
    refine (findP2pAttr_section short).trans ?_
    rw [p2pAttrOf_skip (by decide) rfl]
    exact p2pAttrOf_found
  have addr : findP2pAttr (sectionElement info.requestP2pIe short).bytes 0x09 =
      some (some (6, info.myid.toList ++
        (channelListAttr ++ (info.deviceInfoAttr ++ operatingChAttr 11)))) := by
    refine (findP2pAttr_section short).trans ?_
    rw [p2pAttrOf_skip (by decide) rfl, goIntentAttr, p2pAttrOf_skip (by decide) rfl,
      confTimeoutAttr, p2pAttrOf_skip (by decide) rfl, p2pAttrOf_skip (by decide) rfl,
      p2pAttrOf_skip (by decide) rfl]
    exact p2pAttrOf_found
  unfold processP2pGroupNegotationReq
  rw [wps, p2p]
  simp only [bind_eq_bind, bind_some, getP2pAttrInto_found intent, getP2pAttrInto_found addr]
  simp [intentStatus, requested]

def accepted (pwdinfo info : NegoInfo) : NegoInfo :=
  { pwdinfo with
    peerIntent := info.sentIntent
    role := negotiatedRole pwdinfo.intent info.sentIntent
    peerOperatingCh :=
      if negotiatedRole pwdinfo.intent info.sentIntent = .client then 11
      else pwdinfo.peerOperatingCh }

theorem processResp_response {short : (info.responseP2pIe result).length ≤ 255}
    (layout : GoFrameLayout raddr addr2 1 dialogToken ((sectionElement (negoWpsIe devicePwid) wpsShort).bytes ++
        (sectionElement (info.responseP2pIe result) short).bytes) pframe) :
    pwdinfo.processP2pGroupNegotationResp (pframe.drop 24) (ofNat 32 pframe.length) =
      if result = 0 then
        some (pwdinfo.intentStatus info, pwdinfo.accepted info)
      else some (0, { pwdinfo with role := .device, p2pState := .gonegoFail }) := by
  obtain ⟨wps, p2p⟩ := layout_sections_found layout rfl (info.responseP2pIe_length result)
  obtain ⟨behindStatus, status⟩ : ∃ rest, findP2pAttr
      (sectionElement (info.responseP2pIe result) short).bytes 0x00 =
        some (some (1, (#v[result] : Vector U8 1).toList ++ rest)) :=
    ⟨_, (findP2pAttr_section short).trans p2pAttrOf_found⟩
  obtain ⟨behindIntent, intent⟩ : ∃ rest, findP2pAttr
      (sectionElement (info.responseP2pIe result) short).bytes 0x04 =
        some (some (1, (#v[info.sentIntent] : Vector U8 1).toList ++ rest)) := by
    refine Exists.imp (fun rest walked => (findP2pAttr_section short).trans walked) ?_
    rw [p2pAttrOf_skip (by decide) rfl, p2pAttrOf_skip (by decide) rfl]
    exact ⟨_, p2pAttrOf_found⟩
  obtain ⟨behindChannel, channel⟩ : ∃ rest, findP2pAttr
      (sectionElement (info.responseP2pIe result) short).bytes 0x11 =
        some (some (5, (#v[0x55, 0x53, 0x04, 0x51, 11] : Vector U8 5).toList ++ rest)) := by
    refine Exists.imp (fun rest walked => (findP2pAttr_section short).trans walked) ?_
    rw [p2pAttrOf_skip (by decide) rfl, p2pAttrOf_skip (by decide) rfl, goIntentAttr,
      p2pAttrOf_skip (by decide) rfl, confTimeoutAttr, p2pAttrOf_skip (by decide) rfl]
    exact ⟨_, p2pAttrOf_found⟩
  generalize (sectionElement (info.responseP2pIe result) short).bytes = p2pIe at *
  unfold processP2pGroupNegotationResp
  rw [wps, p2p]
  simp only [bind_eq_bind, bind_some, getP2pAttrInto_found status]
  by_cases success : result = 0
  · rw [if_pos success, if_pos ⟨trivial, success⟩]
    unfold acceptGoResponse
    simp only [bind_eq_bind, bind_some, getP2pAttrInto_found intent, getP2pAttrInto_found channel]
    by_cases client : negotiatedRole pwdinfo.intent info.sentIntent = .client
    · simp [client, accepted, intentStatus]
    · simp [client, accepted, intentStatus]
  · rw [if_neg success, if_neg (fun both => success both.2)]
    rfl

def confirmed (pwdinfo : NegoInfo) (channel : U8) : NegoInfo :=
  { pwdinfo with
    negotiationDialogToken := 1
    p2pState := .gonegoOk
    role := confirmedRole pwdinfo.intent pwdinfo.peerIntent
    peerOperatingCh := channel }

variable {short : (info.confirmP2pIe result).length ≤ 255}

theorem confirm_groupId :
    findP2pAttr (sectionElement (info.confirmP2pIe result) short).bytes 0x0f = some none := by
  refine (findP2pAttr_section short).trans ?_
  rw [p2pAttrOf_skip (by decide) rfl, p2pAttrOf_skip (by decide) rfl, operatingChAttr, p2pAttrOf_skip (by decide) rfl]
  cases role : info.role <;>
    simp [p2pAttrOf, shortBytes, setP2pAttrContent, countryString, operatingChAttr]

theorem processConfirm_confirm (pwdinfo : NegoInfo) (layout : GoFrameLayout raddr addr2 2 dialogToken
      (sectionElement (info.confirmP2pIe result) short).bytes pframe) :
    ∃ channel, pwdinfo.processP2pGroupNegotationConfirm (pframe.drop 24)
        (ofNat 32 pframe.length) =
      if result = 0 then some (0, pwdinfo.confirmed channel)
      else some (result, { pwdinfo with
        negotiationDialogToken := 1
        role := .device
        p2pState := .gonegoFail }) := by
  have bound := info.confirmP2pIe_length result
  have size : (sectionElement (info.confirmP2pIe result) short).bytes.length ≤ 255 := by
    simp only [sectionElement, Element.bytes, length_cons]
    omega
  have long : 4 ≤ (sectionElement (info.confirmP2pIe result) short).data.length := by
    simp [sectionElement, confirmP2pIe, p2poui]
  have p2p := section_found rfl rfl long size (layout.inLen (by omega))
  have groupId : findP2pAttr (sectionElement (info.confirmP2pIe result) short).bytes 0x0f =
    some none := confirm_groupId
  obtain ⟨behindStatus, status⟩ : ∃ rest, findP2pAttr
      (sectionElement (info.confirmP2pIe result) short).bytes 0x00 =
        some (some (1, (#v[result] : Vector U8 1).toList ++ rest)) :=
    ⟨_, (findP2pAttr_section short).trans p2pAttrOf_found⟩
  obtain ⟨behindChannel, channel⟩ : ∃ rest, findP2pAttr
      (sectionElement (info.confirmP2pIe result) short).bytes 0x11 =
        some (some (5, (#v[0x55, 0x53, 0x04, 0x51,
          if info.role = .client then info.peerOperatingCh else info.listenChannel] :
            Vector U8 5).toList ++ rest)) := by
    refine Exists.imp (fun rest walked => (findP2pAttr_section short).trans walked) ?_
    rw [p2pAttrOf_skip (by decide) rfl, p2pAttrOf_skip (by decide) rfl]
    exact ⟨_, p2pAttrOf_found⟩
  refine ⟨if info.role = .client then info.peerOperatingCh else info.listenChannel, ?_⟩
  unfold processP2pGroupNegotationConfirm
  rw [layout.dropFixed, p2p]
  generalize (sectionElement (info.confirmP2pIe result) short).bytes = p2pIe at *
  simp only [bind_eq_bind, bind_some, getP2pAttrInto_found status]
  by_cases success : result = 0
  · rw [if_pos success]
    unfold acceptGoConfirm
    simp only [bind_eq_bind, bind_some, getP2pAttrInto_missing groupId, getP2pAttrInto_found channel]
    simp [success, confirmed]
  · rw [if_neg success, if_pos trivial, if_neg (by exact success)]
    rfl

end NegoInfo

end Floid.Wifi
