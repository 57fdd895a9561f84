import Floid.Lib.Michael
import Floid.Wifi.Coalesce
import Mathlib.Tactic.IntervalCases

namespace Floid.Wifi

open Floid.Osk Floid.Lib Michael
open Option (bind_eq_bind bind_some map_map)

def micKey (key : Vector U8 16) : U32 × U32 :=
  (key.get 3 ++ key.get 2 ++ key.get 1 ++ key.get 0, key.get 7 ++ key.get 6 ++ key.get 5 ++ key.get 4)

def daSaPlaces : (toDs fromDs : Bool) → Nat × Nat
  | false, false => (4, 10)
  | false, true => (4, 16)
  | true, false => (16, 10)
  | true, true => (16, 24)

def daSa (header : List U8) : Option (List U8 × List U8) := do
  let control1 ← header[1]?
  let (da, sa) := daSaPlaces (control1.getLsbD 0) (control1.getLsbD 1)
  return (← segment header da 6, ← segment header sa 6)

/-- The beginning of `xmitframe_addmic`, up to the payloads. -/
def addmicHeader (key : Vector U8 16) (pframe : List U8) (priority : U8) : Option MicData := do
  let control1 ← pframe[1]?
  let micdata := secmicsetkey key
  if control1 &&& 1 ≠ 0 then
    let micdata := secmicappend micdata (← segment pframe 16 6)
    let sa ← segment pframe (if control1 &&& 2 ≠ 0 then 24 else 10) 6
    return secmicappend (secmicappend micdata sa) [priority, 0, 0, 0]
  else
    let micdata := secmicappend micdata (← segment pframe 4 6)
    let sa ← segment pframe (if control1 &&& 2 ≠ 0 then 16 else 10) 6
    return secmicappend (secmicappend micdata sa) [priority, 0, 0, 0]

def addmicLoop (attrib : TxAttrib) (buffer : List U8) : Nat → Nat → MicData → Option (MicData × Nat)
  | 0, payload, micdata => some (micdata, payload)
  | left + 1, payload, micdata => do
      let payload := rnd4 payload + attrib.hdrlen + attrib.ivLen
      if left = 0 then
        let length := attrib.lastTxcmdsz - attrib.hdrlen - attrib.ivLen - attrib.icvRoom
        addmicLoop attrib buffer left (payload + length)
          (secmicappend micdata (← segment buffer payload length))
      else
        let length := attrib.fragLen - attrib.hdrlen - attrib.ivLen - attrib.icvRoom
        addmicLoop attrib buffer left (payload + length + attrib.icvLen)
          (secmicappend micdata (← segment buffer payload length))

def betweenWords (state : U32 × U32) : MicData := ⟨state.1, state.2, 0, 0⟩

theorem secmicappend_append (mic : MicData) (first second : List U8) :
    secmicappend mic (first ++ second) = secmicappend (secmicappend mic first) second :=
  List.foldl_append

theorem secmicappend_flatten (mic : MicData) (pieces : List (List U8)) :
    pieces.foldl secmicappend mic = secmicappend mic pieces.flatten := by
  induction pieces generalizing mic with
  | nil => rfl
  | cons piece rest ih => rw [List.foldl_cons, ih, List.flatten_cons, secmicappend_append]

theorem word_eq (b0 b1 b2 b3 : U8) : (0 ||| b0.setWidth 32 <<< (8 * 0) ||| b1.setWidth 32 <<< (8 * 1) |||
        b2.setWidth 32 <<< (8 * 2) ||| b3.setWidth 32 <<< (8 * 3) : U32) = b3 ++ b2 ++ b1 ++ b0 := by
  apply BitVec.eq_of_getLsbD_eq
  intro index inside
  simp only [BitVec.getLsbD_or, BitVec.getLsbD_shiftLeft, BitVec.getLsbD_setWidth, BitVec.getLsbD_append]
  interval_cases index <;> simp

theorem xswap_eq (l : U32) : (l &&& 0xff00ff00) >>> 8 ||| (l &&& 0x00ff00ff) <<< 8 = xswap l := by
  apply BitVec.eq_of_getLsbD_eq
  intro index inside
  simp only [xswap, BitVec.getLsbD_or, BitVec.getLsbD_shiftLeft, BitVec.getLsbD_ushiftRight,
    BitVec.getLsbD_and, BitVec.getLsbD_append, BitVec.getLsbD_extractLsb']
  interval_cases index <;> simp

theorem secmicappend_word (state : U32 × U32) (b0 b1 b2 b3 : U8) (rest : List U8) :
    secmicappend (betweenWords state) (b0 :: b1 :: b2 :: b3 :: rest) =
      secmicappend (betweenWords (block state (b3 ++ b2 ++ b1 ++ b0))) rest := by
  have three (L R : U32) : secmicappend ⟨L, R, 0, 0⟩ [b0, b1, b2] =
      ⟨L, R, 0 ||| b0.setWidth 32 <<< (8 * 0) ||| b1.setWidth 32 <<< (8 * 1) ||| b2.setWidth 32 <<< (8 * 2), 3⟩ := rfl
  have whole : secmicappendbyte (secmicappend (betweenWords state) [b0, b1, b2]) b3 =
      betweenWords (block state (b3 ++ b2 ++ b1 ++ b0)) := by
    rw [betweenWords, three, secmicappendbyte, word_eq, if_pos (Nat.le_refl 4), betweenWords, block]
    simp only [xswap_eq]
  rw [← whole]
  rfl

theorem secmicappend_words (state : U32 × U32) (message : List U8) (whole : message.length % 4 = 0) :
    secmicappend (betweenWords state) message = betweenWords ((words message).foldl block state) := by
  induction message using words.induct generalizing state with
  | case1 b0 b1 b2 b3 rest ih =>
    simp only [List.length_cons] at whole
    rw [secmicappend_word, words, List.foldl_cons]
    exact ih _ (by omega)
  | case2 message short =>
    match message, whole, short with
    | [], _, _ => rfl
    | [_], whole, _ => simp at whole
    | [_, _], whole, _ => simp at whole
    | [_, _, _], whole, _ => simp at whole
    | b0 :: b1 :: b2 :: b3 :: rest, _, short => exact absurd rfl (short b0 b1 b2 b3 rest)

theorem secmicappend_nBytesInM (mic : MicData) (message : List U8) (partly : mic.nBytesInM < 4) :
    (secmicappend mic message).nBytesInM = (mic.nBytesInM + message.length) % 4 := by
  induction message generalizing mic with
  | nil => exact (Nat.mod_eq_of_lt partly).symm
  | cons byte rest ih =>
    have next : (secmicappendbyte mic byte).nBytesInM = (mic.nBytesInM + 1) % 4 := by
      unfold secmicappendbyte
      by_cases full : 4 ≤ mic.nBytesInM + 1
      · rw [if_pos full]
        dsimp only
        omega
      · rw [if_neg full]
        dsimp only
        omega
    have step : secmicappend mic (byte :: rest) = secmicappend (secmicappendbyte mic byte) rest := rfl
    rw [step, ih _ (by omega), next, List.length_cons]
    omega

theorem secgetmic_eq (state : U32 × U32) (message : List U8) :
    secgetmic (secmicappend (betweenWords state) message) = tag state message := by
  have count : (secmicappend (secmicappend (betweenWords state) message)
      [0x5a, 0, 0, 0, 0]).nBytesInM = (message.length + 5) % 4 := by
    rw [← secmicappend_append, secmicappend_nBytesInM _ _ (Nat.zero_lt_succ 3), List.length_append]
    exact congrArg (· % 4) (Nat.zero_add _)
  have zeros : (4 - (message.length + 5) % 4) % 4 = 3 - message.length % 4 := by omega
  have padded : message ++ ([0x5a, 0, 0, 0, 0] ++ List.replicate (3 - message.length % 4) 0) = pad message := by
    rw [pad, List.replicate_add]
    rfl
  rw [secgetmic, count, zeros, ← secmicappend_append, ← secmicappend_append, padded,
    secmicappend_words _ _ (pad_length_mod message)]
  rfl

theorem toDs_iff (control1 : U8) : control1 &&& 1 ≠ 0 ↔ control1.getLsbD 0 = true := by
  revert control1
  decide +kernel

theorem fromDs_iff (control1 : U8) : control1 &&& 2 ≠ 0 ↔ control1.getLsbD 1 = true := by
  revert control1
  decide +kernel

theorem bind_pair {Result : Type*} (compute : List U8 → List U8 → Result) (first second : Option (List U8)) :
    (first.bind fun da => second.bind fun sa => some (compute da sa)) =
      (first.bind fun da => second.bind fun sa => some (da, sa)).map fun (da, sa) =>
        compute da sa := by
  cases first <;> cases second <;> rfl

theorem secmicsetkey_eq (key : Vector U8 16) : secmicsetkey key = betweenWords (micKey key) := rfl

theorem seccalctkipmic_eq (key : Vector U8 16) (header data : List U8) (pri : U8) :
    seccalctkipmic key header data pri = (daSa header).map fun (da, sa) =>
      tag (micKey key) (da ++ sa ++ [pri, 0, 0, 0] ++ data) := by
  unfold seccalctkipmic daSa
  cases header[1]? with
  | none => rfl
  | some control1 =>
    simp only [bind_eq_bind, bind_some, toDs_iff, fromDs_iff, secmicsetkey_eq, secgetmic_eq]
    cases control1.getLsbD 0 <;> cases control1.getLsbD 1 <;> exact bind_pair _ _ _

theorem addmicHeader_eq (key : Vector U8 16) (header : List U8) (priority : U8) :
    addmicHeader key header priority = (daSa header).map fun (da, sa) =>
      secmicappend (secmicsetkey key) (da ++ sa ++ [priority, 0, 0, 0]) := by
  unfold addmicHeader daSa
  cases header[1]? with
  | none => rfl
  | some control1 =>
    simp only [bind_eq_bind, bind_some, toDs_iff, fromDs_iff, secmicappend_append]
    cases control1.getLsbD 0 <;> cases control1.getLsbD 1 <;> exact bind_pair _ _ _

theorem addmicLoop_eq (attrib : TxAttrib) (buffer : List U8) (left payload : Nat) (mic : MicData) :
    (addmicLoop attrib buffer left payload mic).map Prod.fst =
      (segments buffer (addmicPlaces attrib left payload)).map (secmicappend mic) := by
  induction left generalizing payload mic with
  | zero => rfl
  | succ left ih =>
    rw [addmicLoop, addmicPlaces]
    by_cases last : left = 0
    · subst last
      simp only [if_true, segments, addmicLoop, bind_eq_bind, Option.map_bind]
      congr 1
      funext data
      simp
    · simp only [if_neg last, segments, bind_eq_bind, Option.map_bind, Function.comp_def]
      congr 1
      funext data
      rw [ih]
      cases segments buffer _ with
      | none => rfl
      | some others => exact congrArg some (secmicappend_append mic data others).symm

/-- The MIC is Michael over destination, source, priority and data; it does not depend on how the
data is cut into pieces; and `xmitframe_addmic`, fragment by fragment, comes to the MIC of all
payloads together. -/
theorem seccalctkipmic_exact : (∀ (key : Vector U8 16) (header data : List U8) (pri : U8),
      seccalctkipmic key header data pri = (daSa header).map fun (da, sa) =>
        Michael.tag (micKey key) (da ++ sa ++ [pri, 0, 0, 0] ++ data)) ∧
    (∀ (mic : MicData) (pieces : List (List U8)), pieces.foldl secmicappend mic = secmicappend mic pieces.flatten) ∧
    ∀ (key : Vector U8 16) (header : List U8) (priority : U8) (attrib : TxAttrib) (buffer : List U8)
      (left payload : Nat),
      ((addmicHeader key header priority).bind fun micdata =>
          (addmicLoop attrib buffer left payload micdata).map fun looped => secgetmic looped.1) =
        (segments buffer (addmicPlaces attrib left payload)).bind fun data =>
          seccalctkipmic key header data priority := by
  refine ⟨seccalctkipmic_eq, secmicappend_flatten, ?_⟩
  intro key header priority attrib buffer left payload
  have looped (micdata : MicData) :
      ((addmicLoop attrib buffer left payload micdata).map fun looped => secgetmic looped.1) =
        (segments buffer (addmicPlaces attrib left payload)).map fun data =>
          secgetmic (secmicappend micdata data) := by
    have same := congrArg (Option.map secgetmic) (addmicLoop_eq attrib buffer left payload micdata)
    rw [map_map, map_map] at same
    exact same
  have whole (front data : List U8) :
      secgetmic (secmicappend (secmicappend (secmicsetkey key) front) data) =
        Michael.tag (micKey key) (front ++ data) := by
    rw [← secmicappend_append, secmicsetkey_eq, secgetmic_eq]
  simp only [looped, addmicHeader_eq, seccalctkipmic_eq]
  cases daSa header with
  | none =>
    cases segments buffer (addmicPlaces attrib left payload) with
    | none => rfl
    | some data => rfl
  | some addresses =>
    simp only [Option.map_some, bind_some, whole]
    cases segments buffer (addmicPlaces attrib left payload) with
    | none => rfl
    | some data => rfl

end Floid.Wifi
