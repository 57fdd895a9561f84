import Floid.Wifi.DefragPayload
import Floid.Wifi.XmitSend

namespace Floid.Wifi

open Osk Lib
open Option (bind_eq_bind bind_eq_some_iff pure_def some.injEq)

def fragNumAt (buffer : List U8) (start : Nat) : Option U8 := (buffer[start + 22]?).map (· &&& 0x0f)

/-- `GetMFrag`. -/
def moreFragAt (buffer : List U8) (start : Nat) : Option Bool :=
  (buffer[start + 1]?).map fun control => decide (control &&& 0x04 ≠ 0)

def FragmentPlace.text (fragment : FragmentPlace) : Nat × Nat := (fragment.payload, fragment.count)

theorem moreFrag_set : ∀ control : U8, (control ||| 0x04) &&& 0x04 ≠ 0 := by decide

theorem moreFrag_clear : ∀ control : U8, (control &&& ~~~0x04) &&& 0x04 = 0 := by decide

variable {after buffer llc rest : List U8} {memStart : Nat}

theorem setMFrag_some {more : Bool} (ran : setMFrag memStart more buffer = some after) :
    after.length = buffer.length ∧ moreFragAt after memStart = some more ∧
      ∀ index, index ≠ memStart + 1 → after[index]? = buffer[index]? := by
  simp only [setMFrag, bind_eq_bind, bind_eq_some_iff] at ran
  obtain ⟨control, _, wrote⟩ := ran
  refine ⟨overwrite_length wrote, ?_, fun index other => ?_⟩
  · rw [moreFragAt, getElem?_overwrite wrote, if_pos (by simp), Nat.sub_self]
    simp only [List.getElem?_cons_zero, Option.map_some, some.injEq]
    cases more
    · exact decide_eq_false fun set => set (moreFrag_clear control)
    · exact decide_eq_true (moreFrag_set control)
  · rw [getElem?_overwrite wrote, if_neg (by simp; omega)]

variable {attrib : TxAttrib}

structure WrittenFragment (attrib : TxAttrib) (llc rest iv : List U8) (memStart : Nat)
    (buffer : List U8) (fragment : FragmentPlace) (after : List U8) : Prop where
  place : fragment = ⟨memStart, memStart + attrib.hdrlen + attrib.ivLen, (llc ++ fragmentData attrib llc rest).length⟩
  length : after.length = buffer.length
  more : moreFragAt after memStart = some true
  others : ∀ index, index < memStart + attrib.hdrlen → index ≠ memStart + 1 → after[index]? = buffer[index]?
  iv : segment after (memStart + attrib.hdrlen) attrib.ivLen = some iv
  text : segment after fragment.payload fragment.count = some (llc ++ fragmentData attrib llc rest)

theorem writeFragment_some {iv : List U8}
    {fragment : FragmentPlace} (hdrlen : 2 ≤ attrib.hdrlen) (ivLength : iv.length = attrib.ivLen)
    (ran : writeFragment attrib llc rest iv memStart buffer = some (fragment, after)) :
    WrittenFragment attrib llc rest iv memStart buffer fragment after := by
  simp only [writeFragment, bind_eq_bind, bind_eq_some_iff, pure_def, some.injEq, Prod.mk.injEq] at ran
  obtain ⟨marked, mark, withIv, wroteIv, withText, wroteText, last, wroteIcv, rfl, rfl⟩ := ran
  obtain ⟨markedLength, more, unmarked⟩ := setMFrag_some mark
  have before : ∀ index, index < memStart + attrib.hdrlen → last[index]? = marked[index]? := by
    intro index early
    rw [getElem?_overwrite wroteIcv, if_neg (by omega), getElem?_overwrite wroteText,
      if_neg (by omega), getElem?_overwrite wroteIv, if_neg (by omega)]
  constructor
  case place => rfl
  case length =>
    rw [overwrite_length wroteIcv, overwrite_length wroteText, overwrite_length wroteIv, markedLength]
  case more =>
    rw [moreFragAt, before _ (by omega)]
    exact more
  case others =>
    intro index early other
    rw [before _ early, unmarked _ other]
  case iv =>
    rw [segment_overwrite_apart wroteIcv (.inl (by omega)),
      segment_overwrite_apart wroteText (.inl (by omega)), ← ivLength]
    exact segment_overwrite_same wroteIv
  case text =>
    rw [segment_overwrite_apart wroteIcv (.inl (Nat.le_refl _))]
    exact segment_overwrite_same wroteText

theorem rnd4_mod (x : Nat) : rnd4 x % 4 = 0 := Nat.mul_mod_left ..

theorem rnd4_lt (x : Nat) : rnd4 x < x + 4 := by
  rw [rnd4]
  split <;> omega

def nextMemStart (attrib : TxAttrib) (memStart count : Nat) : Nat :=
  rnd4 (memStart + attrib.hdrlen + attrib.ivLen + count + attrib.icvRoom) + txdescOffset

theorem nextMemStart_ge (memStart count : Nat) :
    memStart + attrib.hdrlen + attrib.ivLen + count + attrib.icvRoom + 40 ≤
      nextMemStart attrib memStart count :=
  Nat.add_le_add_right (rnd4_le _) _

def PacketDone (attrib : TxAttrib) (llc rest : List U8) : Prop :=
  isMcast attrib.ra ∨ rest.drop (fragmentData attrib llc rest).length = []

theorem fragmentData_append (llc rest : List U8) :
    fragmentData attrib llc rest ++ rest.drop (fragmentData attrib llc rest).length = rest := by
  have taken : ∃ count, fragmentData attrib llc rest = rest.take count := by
    unfold fragmentData pktfileRead
    split
    · exact ⟨_, rfl⟩
    · split
      · exact ⟨rest.length, rest.take_length.symm⟩
      · exact ⟨_, rfl⟩
  obtain ⟨count, taken⟩ := taken
  rw [taken, List.length_take]
  rcases Nat.le_total count rest.length with fewer | more
  · rw [Nat.min_eq_left fewer, List.take_append_drop]
  · rw [Nat.min_eq_right more, List.drop_length, List.append_nil, List.take_of_length_le more]

theorem PacketDone.fragmentData_eq (done : PacketDone attrib llc rest)
    (all : rest.length ≤ attrib.pktlen) : fragmentData attrib llc rest = rest := by
  rcases done with group | read
  · rw [fragmentData, if_pos group, List.take_of_length_le all]
  · have whole := @fragmentData_append attrib llc rest
    rwa [read, List.append_nil] at whole

def Spaced (attrib : TxAttrib) : List FragmentPlace → Prop
  | [] => True
  | [last] => 0 < last.count
  | first :: next :: rest =>
      attrib.hdrlen + attrib.ivLen + first.count + attrib.icvRoom + 4 = attrib.fragLen ∧
        next.start = nextMemStart attrib first.start first.count ∧ Spaced attrib (next :: rest)

theorem fragmentData_full (goesOn : ¬ PacketDone attrib llc rest) :
    attrib.hdrlen + attrib.ivLen + (llc ++ fragmentData attrib llc rest).length + attrib.icvRoom + 4 =
      attrib.fragLen := by
  unfold PacketDone at goesOn
  rw [not_or, List.drop_eq_nil_iff, fragmentData, if_neg (by simp_all), pktfileRead] at goesOn
  rw [fragmentData, if_neg goesOn.1, pktfileRead]
  split
  · rename_i negative
    rw [if_pos negative] at goesOn
    exact absurd (Nat.le_refl _) goesOn.2
  · rename_i positive
    rw [if_neg positive, List.length_take] at goesOn
    rw [List.length_append, List.length_take]
    unfold TxAttrib.mpduLen at *
    omega

structure WrittenFragments (attrib : TxAttrib) (pbufStart memStart : Nat) (llc rest iv : List U8)
    (buffer : List U8) (fragments : List FragmentPlace) (after : List U8) : Prop where
  first : ∃ later, fragments = ⟨memStart, memStart + attrib.hdrlen + attrib.ivLen,
      (llc ++ fragmentData attrib llc rest).length⟩ :: later ∧
    (later = [] ↔ PacketDone attrib llc rest) ∧ ∀ next ∈ later,
      nextMemStart attrib memStart (llc ++ fragmentData attrib llc rest).length ≤ next.start
  second : ∀ fragment next further, fragments = fragment :: next :: further →
    (further = [] ↔ PacketDone attrib [] (rest.drop (fragmentData attrib llc rest).length))
  spaced : Spaced attrib fragments
  payloads : ∀ fragment ∈ fragments, fragment.payload = fragment.start + attrib.hdrlen + attrib.ivLen
  length : after.length = buffer.length
  others : ∀ index, index < memStart + attrib.hdrlen → index ≠ memStart + 1 → after[index]? = buffer[index]?
  iv : segment after (memStart + attrib.hdrlen) attrib.ivLen = some iv
  text : segments after (fragments.map FragmentPlace.text) = some (llc ++ rest)
  more : ∀ (k : Nat) (inside : k < fragments.length),
    moreFragAt after fragments[k].start = some (decide (k + 1 < fragments.length))
  copied : ∀ (k : Nat) (inside : k < fragments.length), 0 < k →
    ∀ index, index < attrib.hdrlen → index ≠ 1 →
      after[fragments[k].start + index]? = after[pbufStart + txdescOffset + index]?

theorem coalesceFragments_some {pbufStart left frgInx memStart : Nat} {rest buffer after : List U8}
    {txpn txpnAfter : BitVec 64} {fragments : List FragmentPlace} (hdrlen : 2 ≤ attrib.hdrlen)
    (ivLength : ∀ txpn, (fragmentIv attrib txpn).1.length = attrib.ivLen)
    (start : pbufStart + txdescSize ≤ memStart) (all : rest.length ≤ attrib.pktlen)
    (some_ : frgInx = 0 ∨ rest ≠ [])
    (ran : coalesceFragments attrib pbufStart left frgInx memStart rest txpn buffer =
      some (fragments, txpnAfter, after)) :
    WrittenFragments attrib pbufStart memStart
      (if frgInx = 0 then putSnap attrib.etherType else []) rest (fragmentIv attrib txpn).1 buffer
      fragments after := by
  have size : txdescSize = 32 := rfl
  have offset : txdescOffset = 40 := rfl
  induction left generalizing frgInx memStart rest buffer txpn fragments txpnAfter after with
  | zero => exact absurd ran (by simp [coalesceFragments])
  | succ left ih =>
    simp only [coalesceFragments, bind_eq_bind, bind_eq_some_iff] at ran
    obtain ⟨⟨fragment, wrote⟩, writing, ran⟩ := ran
    have written := writeFragment_some hdrlen (ivLength txpn) writing
    have data : (if frgInx = 0 then putSnap attrib.etherType else []) ++ rest ≠ [] := by
      rcases some_ with first | later
      · rw [if_pos first]
        simp [putSnap]
      · simp [later]
    generalize (if frgInx = 0 then putSnap attrib.etherType else []) = llc at written ran data ⊢
    generalize (fragmentIv attrib txpn).1 = iv at written ⊢
    obtain ⟨place, length, more, others, ivRead, text⟩ := written
    rw [place] at text
    split at ran
    · rename_i done
      simp only [bind_eq_some_iff, pure_def, some.injEq, Prod.mk.injEq] at ran
      obtain ⟨cleared, clear, rfl, _, rfl⟩ := ran
      obtain ⟨clearedLength, last, unmarked⟩ := setMFrag_some clear
      have same : ∀ place count, memStart + 2 ≤ place →
          segment cleared place count = segment wrote place count := fun place count behind =>
        segment_congr clearedLength fun index begin _ => unmarked index (by omega)
      constructor
      case first => exact ⟨[], by rw [place], iff_of_true rfl done, by simp⟩
      case second => exact fun _ _ _ more => absurd (List.cons.inj more).2 (by simp)
      case spaced =>
        rw [place, Spaced, PacketDone.fragmentData_eq done all]
        exact List.length_pos_iff.mpr data
      case payloads =>
        intro other member
        rw [List.mem_singleton.mp member, place]
      case length => rw [clearedLength, length]
      case others => exact fun index early other => (unmarked _ other).trans (others _ early other)
      case iv => rw [same _ _ (by omega), ivRead]
      case text =>
        rw [List.map_singleton, place, FragmentPlace.text, segments, same _ _ (by dsimp only; omega),
          text, PacketDone.fragmentData_eq done all]
        simp [segments]
      case more =>
        intro k inside
        obtain rfl : k = 0 := by simpa using inside
        simpa [place] using last
      case copied =>
        intro k inside positive
        simp only [List.length_singleton] at inside
        omega
    · rename_i goesOn
      simp only [bind_eq_some_iff, pure_def, some.injEq, Prod.mk.injEq] at ran
      obtain ⟨header, copy, headed, wroteHeader, ⟨later, _, result⟩, recursion, rfl, _, rfl⟩ := ran
      have next : rnd4 (fragment.payload + fragment.count + attrib.icvRoom) + txdescOffset =
          nextMemStart attrib memStart (llc ++ fragmentData attrib llc rest).length := by
        rw [place]
        rfl
      have behind := @nextMemStart_ge attrib memStart
        (llc ++ fragmentData attrib llc rest).length
      rw [next] at wroteHeader recursion
      generalize nextIs : nextMemStart attrib memStart (llc ++ fragmentData attrib llc rest).length = nextStart
        at wroteHeader recursion behind
      have rest_ := ih (by omega) (by rw [List.length_drop]; omega) (.inr (not_or.mp goesOn).2) recursion
      rw [if_neg (Nat.succ_ne_zero frgInx)] at rest_
      have headedLength := overwrite_length wroteHeader
      have headerLength := segment_length copy
      have early : ∀ index, index < nextStart → result[index]? = wrote[index]? := by
        intro index before
        rw [rest_.others _ (by omega) (by omega), getElem?_overwrite wroteHeader, if_neg (by omega)]
      have total := rest_.length.trans headedLength
      have kept : ∀ place count, place + count ≤ nextStart →
          segment result place count = segment wrote place count := fun place count before =>
        segment_congr total fun index _ last => early index (by omega)
      obtain ⟨after_, followed, ends, behindIt⟩ := rest_.first
      constructor
      case first =>
        refine ⟨later, by rw [place], iff_of_false ?_ goesOn, ?_⟩
        · rw [followed]
          exact List.cons_ne_nil _ _
        · intro next member
          rw [followed] at member
          rw [nextIs]
          rcases List.mem_cons.mp member with rfl | further
          · exact Nat.le_refl _
          · have beyond := behindIt next further
            have order := @nextMemStart_ge attrib nextStart
              ([] ++ fragmentData attrib [] (rest.drop (fragmentData attrib llc rest).length)).length
            omega
      case second =>
        intro _ next further whole
        rw [followed] at whole
        obtain ⟨_, rfl⟩ := List.cons.inj (List.cons.inj whole).2
        exact ends
      case spaced =>
        have spaced := rest_.spaced
        rw [followed] at spaced ⊢
        rw [place]
        exact ⟨fragmentData_full goesOn, nextIs.symm, spaced⟩
      case payloads =>
        intro other member
        rcases List.mem_cons.mp member with rfl | further
        · rw [place]
        · exact rest_.payloads other further
      case length => rw [total, length]
      case others =>
        intro index before other
        rw [early _ (by omega), others _ before other]
      case iv => rw [kept _ _ (by omega), ivRead]
      case text =>
        rw [List.map_cons, place, FragmentPlace.text, segments, kept _ _ (by dsimp only; omega), text, rest_.text]
        simp [fragmentData_append]
      case more =>
        intro k inside
        cases k with
        | zero =>
          rw [moreFragAt, List.getElem_cons_zero, place, early _ (by dsimp only; omega)]
          rw [decide_eq_true (by rw [List.length_cons, followed, List.length_cons]; omega)]
          exact more
        | succ k =>
          rw [List.getElem_cons_succ, rest_.more k (by simpa using inside)]
          simp
      case copied =>
        intro k inside _ index small other
        cases k with
        | zero => omega
        | succ k =>
          rw [List.getElem_cons_succ]
          cases k with
          | zero =>
            simp only [followed, List.getElem_cons_zero]
            rw [rest_.others _ (by omega) (by omega), getElem?_overwrite wroteHeader,
              if_pos (by omega), Nat.add_sub_cancel_left, early _ (by omega)]
            exact (segment_eq_some_iff.mp copy).2.2 index small
          | succ k => exact rest_.copied (k + 1) (by simpa using inside) (by omega) index small other

end Floid.Wifi
