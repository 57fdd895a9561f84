import Floid.Wifi.Frames

namespace Floid.Wifi

open Osk Lib
open List (append_assoc append_eq_nil_iff append_inj append_nil drop_left length_append length_cons length_drop length_nil length_take take_append_drop)

def ethHlen : Nat := 14
def maxSubframeCount : Nat := 64
def snapSize : Nat := 6
def ethPAarp : Nat := 0x80f3
def ethPIpx : Nat := 0x8137
def rfc1042Header : List U8 := [0xaa, 0xaa, 0x03, 0x00, 0x00, 0x00]
def bridgeTunnelHeader : List U8 := [0xaa, 0xaa, 0x03, 0x00, 0x00, 0xf8]

def netShort (bytes : List U8) (place : Nat) : Nat :=
  256 * (bytes.getD place 0).toNat + (bytes.getD (place + 1) 0).toNat

def htons (value : Nat) : List U8 := [.ofNat 8 (value / 256), .ofNat 8 value]

def paddingLen (length : Nat) : Nat := if 4 - length % 4 = 4 then 0 else 4 - length % 4

structure Collected where
  subframes : List (List U8)
  complete : Bool

/-- The first loop of `amsdu_to_msdu`, with so many buffers in `subframes`; what is left of the
payload are `a_len` bytes from `pdata` on. -/
def collectSubframes (nrSubframes : Nat) (pdata : List U8) : Collected :=
  if pdata.length ≤ ethHlen then ⟨[], true⟩
  else
    let nSubframeLength := netShort pdata 12
    if pdata.length < ethHlen + nSubframeLength then ⟨[], false⟩
    else
      let subSkb := (pdata.drop ethHlen).take nSubframeLength
      if maxSubframeCount ≤ nrSubframes + 1 then ⟨[subSkb], true⟩
      else
        let rest := pdata.drop (ethHlen + nSubframeLength)
        let paddingLen := if rest.length ≠ 0 then paddingLen (nSubframeLength + ethHlen) else 0
        if rest.length < paddingLen then ⟨[subSkb], false⟩
        else
          let later := collectSubframes (nrSubframes + 1) (rest.drop paddingLen)
          ⟨subSkb :: later.subframes, later.complete⟩
termination_by pdata.length
decreasing_by
  simp only [length_drop, ethHlen] at *
  omega

def toEthernet (dst src : MacAddr) (subSkb : List U8) : List U8 :=
  let ethType := netShort subSkb 6
  if 8 ≤ subSkb.length ∧
      ((subSkb.take snapSize = rfc1042Header ∧ ethType ≠ ethPAarp ∧ ethType ≠ ethPIpx) ∨
        subSkb.take snapSize = bridgeTunnelHeader) then
    dst.toList ++ src.toList ++ subSkb.drop snapSize
  else dst.toList ++ src.toList ++ htons subSkb.length ++ subSkb

/-- The frames that are indicated, the buffers that are neither indicated nor released, and whether
`eth_type` has been read behind the end of a buffer. -/
structure MsduResult where
  indicated : List (List U8)
  lost : List (List U8)
  readsBehind : Bool

/-- `amsdu_to_msdu`, for the payload of an aggregate with these addresses. `a_len` is signed, and
nothing is done with a payload that is too long for it. Allocations succeed. -/
def msdus (dst src : MacAddr) (payload : List U8) : MsduResult :=
  if 2 ^ 31 ≤ payload.length then ⟨[], [], false⟩
  else
    let collected := collectSubframes 0 payload
    if collected.complete then
      { indicated := collected.subframes.map (toEthernet dst src)
        lost := []
        readsBehind := collected.subframes.any fun subSkb => subSkb.length < 8 }
    else ⟨[], collected.subframes, false⟩

/-- What `amsdu_to_msdu` takes apart: the frame without its header and initialization vector. -/
def RecvFrame.amsduPayload (frame : RecvFrame) : Option (List U8) :=
  let frame := (frame.pull frame.attrib.hdrlen).getD frame
  let frame := if 0 < frame.attrib.ivLen then (frame.pull frame.attrib.ivLen).getD frame else frame
  frame.bytes

def amsduToMsdu (prframe : RecvFrame) : Option MsduResult :=
  prframe.amsduPayload.map (msdus prframe.attrib.dst prframe.attrib.src)

structure Subframe where
  da : MacAddr
  sa : MacAddr
  body : List U8
  short : body.length < 2 ^ 16

namespace Subframe

def bytes (subframe : Subframe) : List U8 :=
  subframe.da.toList ++ subframe.sa.toList ++ htons subframe.body.length ++ subframe.body

def Encapsulated (body rest : List U8) : Prop :=
  2 ≤ rest.length ∧
    (body = rfc1042Header ++ rest ∧ netShort rest 0 ≠ ethPAarp ∧ netShort rest 0 ≠ ethPIpx ∨
      body = bridgeTunnelHeader ++ rest)

def Delivers (subframe : Subframe) (frame : List U8) : Prop :=
  ∃ rest, frame = subframe.da.toList ++ subframe.sa.toList ++ rest ∧
    (Encapsulated subframe.body rest ∨ (∀ other, ¬Encapsulated subframe.body other) ∧
        rest = htons subframe.body.length ++ subframe.body)

end Subframe

inductive IsAmsdu : List Subframe → List U8 → Prop
  | nil : IsAmsdu [] []
  | last (subframe : Subframe) : IsAmsdu [subframe] subframe.bytes
  | more {next : Subframe} {later : List Subframe} {bytes : List U8} (subframe : Subframe)
      (padding : List U8) (sized : padding.length = paddingLen (subframe.body.length + ethHlen))
      (rest : IsAmsdu (next :: later) bytes) :
      IsAmsdu (subframe :: next :: later) (subframe.bytes ++ (padding ++ bytes))

inductive Parsed : Nat → List Subframe → List U8 → Prop
  | short {room : Nat} {tail : List U8} (few : tail.length ≤ ethHlen) : Parsed (room + 1) [] tail
  | full (subframe : Subframe) (tail : List U8) (some : subframe.body ++ tail ≠ []) :
      Parsed 1 [subframe] (subframe.bytes ++ tail)
  | last {room : Nat} (subframe : Subframe) (some : subframe.body ≠ []) :
      Parsed (room + 2) [subframe] subframe.bytes
  | more {room : Nat} {later : List Subframe} {bytes : List U8} (subframe : Subframe)
      (padding : List U8) (sized : padding.length = paddingLen (subframe.body.length + ethHlen))
      (some : padding ++ bytes ≠ []) (rest : Parsed (room + 1) later bytes) :
      Parsed (room + 2) (subframe :: later) (subframe.bytes ++ (padding ++ bytes))

variable {dst src : MacAddr} {payload rest : List U8} {subframes : List Subframe}
  {subframe : Subframe}

theorem netShort_htons {front back : List U8} {value : Nat} (small : value < 2 ^ 16) :
    netShort (front ++ (htons value ++ back)) front.length = value := by
  unfold netShort htons
  simp only [List.getD_eq_getElem?_getD]
  rw [List.getElem?_append_right (Nat.le_refl _), List.getElem?_append_right (Nat.le_add_right _ 1)]
  simp only [Nat.sub_self, Nat.add_sub_cancel_left, List.cons_append, List.nil_append,
    List.getElem?_cons_zero, List.getElem?_cons_succ, Option.getD_some, BitVec.toNat_ofNat]
  omega

theorem drop_split (list : List U8) (place count : Nat) :
    list.drop place = (list.drop place).take count ++ list.drop (place + count) := by
  rw [← List.drop_drop, take_append_drop]

theorem htons_netShort {place : Nat} (inside : place + 2 ≤ payload.length) :
    htons (netShort payload place) = (payload.drop place).take 2 := by
  obtain ⟨high, low, rest, split⟩ : ∃ high low rest, payload.drop place = high :: low :: rest := by
    match split : payload.drop place with
    | [] | [_] =>
        have length := congrArg List.length split
        simp only [length_drop, length_nil, List.length_singleton] at length
        omega
    | high :: low :: rest => exact ⟨high, low, rest, rfl⟩
  have first : payload[place]? = some high := by
    rw [← Nat.add_zero place, ← List.getElem?_drop, split]
    rfl
  have second : payload[place + 1]? = some low := by
    rw [← List.getElem?_drop, split]
    rfl
  have value : netShort payload place = 256 * high.toNat + low.toNat := by
    simp only [netShort, List.getD_eq_getElem?_getD, first, second, Option.getD_some]
  rw [split, htons, value, List.take_succ_cons, List.take_succ_cons, List.take_zero]
  congr 1
  · apply BitVec.eq_of_toNat_eq
    rw [BitVec.toNat_ofNat]
    omega
  · congr 1
    apply BitVec.eq_of_toNat_eq
    rw [BitVec.toNat_ofNat]
    omega

namespace Subframe

theorem bytes_append (subframe : Subframe) (rest : List U8) :
    subframe.bytes ++ rest = (subframe.da.toList ++ subframe.sa.toList) ++
      (htons subframe.body.length ++ (subframe.body ++ rest)) := by
  simp [bytes]

theorem addresses_length (subframe : Subframe) : (subframe.da.toList ++ subframe.sa.toList).length = 12 := by
  simp

theorem length_bytes (subframe : Subframe) : subframe.bytes.length = subframe.body.length + ethHlen := by
  simp [bytes, htons, ethHlen]
  omega

theorem netShort_bytes (subframe : Subframe) (rest : List U8) :
    netShort (subframe.bytes ++ rest) 12 = subframe.body.length := by
  rw [bytes_append, ← subframe.addresses_length]
  exact netShort_htons subframe.short

theorem drop_bytes (subframe : Subframe) (rest : List U8) :
    (subframe.bytes ++ rest).drop (ethHlen + subframe.body.length) = rest := by
  rw [Nat.add_comm, ← subframe.length_bytes]
  exact drop_left

theorem body_bytes (subframe : Subframe) (rest : List U8) :
    ((subframe.bytes ++ rest).drop ethHlen).take subframe.body.length = subframe.body := by
  have head : (subframe.da.toList ++ subframe.sa.toList ++ htons subframe.body.length).length =
      ethHlen := by simp [htons, ethHlen]
  rw [bytes, append_assoc, ← head, drop_left, List.take_left]

theorem bytes_inj {first second : Subframe} {later : List U8}
    (same : first.bytes ++ later = second.bytes ++ rest) : first = second ∧ later = rest := by
  have length : first.body.length = second.body.length := by
    rw [← first.netShort_bytes later, same, second.netShort_bytes]
  obtain ⟨front, back⟩ := append_inj same (by rw [length_bytes, length_bytes, length])
  refine ⟨?_, back⟩
  obtain ⟨header, body⟩ := List.append_inj' front length
  obtain ⟨addresses, _⟩ := List.append_inj' header rfl
  obtain ⟨da, sa⟩ := append_inj addresses (by simp)
  cases first
  cases second
  simp only [Vector.toList_inj] at da sa body
  subst da sa body
  rfl

theorem exists_of_length (long : ethHlen ≤ payload.length) (enough : ethHlen + netShort payload 12 ≤ payload.length) :
    ∃ (subframe : Subframe) (rest : List U8), payload = subframe.bytes ++ rest ∧
      subframe.body.length = netShort payload 12 := by
  have size : ((payload.drop ethHlen).take (netShort payload 12)).length = netShort payload 12 := by
    rw [length_take, length_drop]
    omega
  have small : netShort payload 12 < 2 ^ 16 := by
    unfold netShort
    omega
  refine ⟨⟨⟨(payload.take 6).toArray, by simp [ethHlen] at *; omega⟩,
    ⟨((payload.drop 6).take 6).toArray, by simp [ethHlen] at *; omega⟩,
    (payload.drop ethHlen).take (netShort payload 12), by omega⟩,
    payload.drop (ethHlen + netShort payload 12), ?_, size⟩
  have length : htons (netShort payload 12) = (payload.drop 12).take 2 := htons_netShort long
  simp only [bytes, size, length, append_assoc]
  change payload = payload.take 6 ++ ((payload.drop 6).take 6 ++ ((payload.drop 12).take 2 ++
    ((payload.drop 14).take (netShort payload 12) ++ payload.drop (14 + netShort payload 12))))
  rw [← drop_split payload 14, ← drop_split payload 12 2, ← drop_split payload 6 6, take_append_drop]

end Subframe

theorem collectSubframes_bytes (nrSubframes : Nat) (some : subframe.body ++ rest ≠ []) :
    collectSubframes nrSubframes (subframe.bytes ++ rest) =
      if maxSubframeCount ≤ nrSubframes + 1 then ⟨[subframe.body], true⟩
      else
        let padding := if rest.length ≠ 0 then paddingLen (subframe.body.length + ethHlen) else 0
        if rest.length < padding then ⟨[subframe.body], false⟩
        else
          let later := collectSubframes (nrSubframes + 1) (rest.drop padding)
          ⟨subframe.body :: later.subframes, later.complete⟩ := by
  have length := subframe.length_bytes
  have more : 0 < (subframe.body ++ rest).length := List.length_pos_iff.mpr some
  rw [length_append] at more
  rw [collectSubframes, if_neg (by rw [length_append]; omega)]
  simp only [subframe.netShort_bytes, subframe.body_bytes, subframe.drop_bytes]
  rw [if_neg (by rw [length_append]; omega)]

theorem Parsed.collectSubframes_eq {room : Nat} (parsed : Parsed room subframes payload) :
    ∀ nrSubframes, nrSubframes + room = maxSubframeCount →
      collectSubframes nrSubframes payload = ⟨subframes.map Subframe.body, true⟩ := by
  induction parsed with
  | short few =>
    intro nrSubframes _
    rw [collectSubframes, if_pos few]
    rfl
  | full subframe tail some =>
    intro nrSubframes full
    rw [collectSubframes_bytes nrSubframes some, if_pos (by omega)]
    rfl
  | last subframe some =>
    intro nrSubframes room
    have step := @collectSubframes_bytes [] subframe nrSubframes (by rwa [append_nil])
    rw [append_nil] at step
    rw [step, if_neg (by omega)]
    have ends : collectSubframes (nrSubframes + 1) [] = ⟨[], true⟩ := by
      rw [collectSubframes, if_pos (show ([] : List U8).length ≤ ethHlen from Nat.zero_le _)]
    simp [ends]
  | @more room later bytes subframe padding sized some _ induction =>
    intro nrSubframes total
    have nonempty : (padding ++ bytes).length ≠ 0 := fun empty =>
      some (List.length_eq_zero_iff.mp empty)
    rw [collectSubframes_bytes nrSubframes fun empty => some (append_eq_nil_iff.mp empty).2, if_neg (by omega)]
    rw [if_pos nonempty, ← sized, if_neg (by rw [length_append]; omega), drop_left,
      induction (nrSubframes + 1) (by omega)]
    rfl

theorem parsed_of_complete (room : Nat) : ∀ payload nrSubframes, nrSubframes + (room + 1) = maxSubframeCount →
      (collectSubframes nrSubframes payload).complete = true →
      ∃ subframes, Parsed (room + 1) subframes payload := by
  induction room with
  | zero =>
    intro payload nrSubframes total complete
    by_cases few : payload.length ≤ ethHlen
    · exact ⟨[], .short few⟩
    · rw [collectSubframes, if_neg few] at complete
      dsimp only at complete
      by_cases cut : payload.length < ethHlen + netShort payload 12
      · rw [if_pos cut] at complete
        cases complete
      · obtain ⟨subframe, rest, rfl, size⟩ :=
          Subframe.exists_of_length (by omega) (Nat.le_of_not_lt cut)
        refine ⟨[subframe], .full subframe rest fun empty => few ?_⟩
        rw [length_append, subframe.length_bytes]
        have gone := congrArg List.length empty
        rw [length_append, length_nil] at gone
        omega
  | succ room induction =>
    intro payload nrSubframes total complete
    by_cases few : payload.length ≤ ethHlen
    · exact ⟨[], .short few⟩
    · by_cases cut : payload.length < ethHlen + netShort payload 12
      · rw [collectSubframes, if_neg few] at complete
        rw [if_pos cut] at complete
        cases complete
      · obtain ⟨subframe, rest, rfl, size⟩ :=
          Subframe.exists_of_length (by omega) (Nat.le_of_not_lt cut)
        have some : subframe.body ++ rest ≠ [] := by
          intro empty
          have gone := congrArg List.length empty
          rw [length_append, length_nil] at gone
          rw [length_append, subframe.length_bytes] at few
          omega
        rw [collectSubframes_bytes nrSubframes some, if_neg (by omega)] at complete
        dsimp only at complete
        by_cases ends : rest = []
        · subst ends
          rw [append_nil] at some ⊢
          exact ⟨[subframe], .last subframe some⟩
        · rw [if_pos (fun empty => ends (List.length_eq_zero_iff.mp empty))] at complete
          split at complete
          · cases complete
          · rename_i enough
            obtain ⟨later, parsed⟩ := induction _ (nrSubframes + 1) (by omega) complete
            have split : rest = rest.take (paddingLen (subframe.body.length + ethHlen)) ++
                rest.drop (paddingLen (subframe.body.length + ethHlen)) :=
              (take_append_drop _ _).symm
            refine ⟨subframe :: later, ?_⟩
            rw [split]
            refine .more subframe _ ?_ ?_ parsed
            · rw [length_take, Nat.min_eq_left (Nat.le_of_not_lt enough)]
            · rwa [← split]

def FirstCutOff (payload : List U8) : Prop :=
  ethHlen < payload.length ∧ payload.length < ethHlen + netShort payload 12

theorem collected_eq_nil_iff {nrSubframes : Nat} (exit : (collectSubframes nrSubframes payload).complete = false) :
    (collectSubframes nrSubframes payload).subframes = [] ↔ FirstCutOff payload := by
  unfold FirstCutOff
  rw [collectSubframes] at exit ⊢
  split at exit
  · cases exit
  · rename_i many
    rw [if_neg many, and_iff_right (Nat.lt_of_not_le many)]
    dsimp only at exit ⊢
    by_cases cut : payload.length < ethHlen + netShort payload 12
    · rw [if_pos cut]
      exact iff_of_true rfl cut
    · rw [if_neg cut] at exit ⊢
      refine iff_of_false ?_ cut
      repeat' split
      all_goals simp

def EndsWell (subframes : List Subframe) : Prop :=
  ∀ subframe, subframes.getLast? = some subframe → subframe.body ≠ []

theorem IsAmsdu.ne_nil {next : Subframe} {later : List Subframe}
    (amsdu : IsAmsdu (next :: later) payload) : payload ≠ [] := by
  have header (subframe : Subframe) (rest : List U8) : subframe.bytes ++ rest ≠ [] := by
    intro empty
    have length := congrArg List.length empty
    rw [length_append, subframe.length_bytes, length_nil] at length
    unfold ethHlen at length
    omega
  cases amsdu with
  | last => exact append_nil next.bytes ▸ header next []
  | more => exact header next _

theorem IsAmsdu.unique {others : List Subframe} (amsdu : IsAmsdu subframes payload)
    (other : IsAmsdu others payload) : subframes = others := by
  induction amsdu generalizing others with
  | nil =>
    cases others with
    | nil => rfl
    | cons => exact absurd rfl other.ne_nil
  | last subframe =>
    generalize bytes : subframe.bytes = payload at other
    cases other with
    | nil => exact absurd bytes (IsAmsdu.last subframe).ne_nil
    | last another =>
      rw [← append_nil subframe.bytes, ← append_nil another.bytes] at bytes
      rw [(Subframe.bytes_inj bytes).1]
    | more another padding sized later =>
      rw [← append_nil subframe.bytes] at bytes
      have ends := (Subframe.bytes_inj bytes).2
      exact absurd (append_eq_nil_iff.mp ends.symm).2 later.ne_nil
  | more subframe padding sized rest induction =>
    generalize bytes : subframe.bytes ++ (padding ++ _) = payload at other
    cases other with
    | nil =>
      have ends := (append_eq_nil_iff.mp bytes).2
      exact absurd (append_eq_nil_iff.mp ends).2 rest.ne_nil
    | last another =>
      rw [← append_nil another.bytes] at bytes
      have ends := (Subframe.bytes_inj bytes).2
      exact absurd (append_eq_nil_iff.mp ends).2 rest.ne_nil
    | more another between long later =>
      obtain ⟨rfl, back⟩ := Subframe.bytes_inj bytes
      obtain ⟨_, rfl⟩ := append_inj back (sized.trans long.symm)
      rw [induction later]

theorem IsAmsdu.parsed (amsdu : IsAmsdu subframes payload) :
    ∀ room, subframes.length ≤ room + 1 → ∃ parsed, Parsed (room + 1) parsed payload ∧
      (EndsWell subframes → parsed = subframes) ∧
      (¬EndsWell subframes → parsed.length < subframes.length) := by
  induction amsdu with
  | nil =>
    intro room _
    exact ⟨[], .short (Nat.zero_le _), fun _ => rfl, fun not => absurd nofun not⟩
  | last subframe =>
    intro room _
    by_cases empty : subframe.body = []
    · refine ⟨[], .short ?_, fun well => absurd empty (well subframe rfl), fun _ => Nat.zero_lt_one⟩
      rw [subframe.length_bytes, empty]
      exact Nat.le_of_eq (Nat.zero_add _)
    · have well : EndsWell [subframe] := by
        rintro other ⟨rfl⟩
        exact empty
      refine ⟨[subframe], ?_, fun _ => rfl, fun not => absurd well not⟩
      cases room with
      | zero =>
        rw [← append_nil subframe.bytes]
        exact .full subframe [] (by rwa [append_nil])
      | succ room => exact .last subframe empty
  | @more next later bytes subframe padding sized amsdu induction =>
    intro room few
    obtain ⟨room, rfl⟩ : ∃ more, room = more + 1 := ⟨room - 1, by
      simp only [length_cons] at few
      omega⟩
    obtain ⟨parsed, isParsed, same, less⟩ := induction room (Nat.le_of_succ_le_succ few)
    have some : padding ++ bytes ≠ [] := fun empty =>
      amsdu.ne_nil (append_eq_nil_iff.mp empty).2
    have ends : EndsWell (subframe :: next :: later) ↔ EndsWell (next :: later) := by
      simp only [EndsWell, List.getLast?_cons_cons]
    refine ⟨subframe :: parsed, .more subframe padding sized some isParsed, fun well => ?_, fun not => ?_⟩
    · rw [same (ends.mp well)]
    · exact Nat.succ_lt_succ (less fun well => not (ends.mpr well))

variable {body : List U8}

theorem Subframe.encapsulated_iff : Subframe.Encapsulated body rest ↔
      (8 ≤ body.length ∧ ((body.take snapSize = rfc1042Header ∧ netShort body 6 ≠ ethPAarp ∧
            netShort body 6 ≠ ethPIpx) ∨
          body.take snapSize = bridgeTunnelHeader)) ∧
        rest = body.drop snapSize := by
  have type (header : List U8) (six : header.length = 6) : netShort (header ++ rest) 6 = netShort rest 0 := by
    simp only [netShort, List.getD_eq_getElem?_getD]
    rw [List.getElem?_append_right (by omega), List.getElem?_append_right (by omega), six]
  constructor
  · rintro ⟨two, ⟨rfl, aarp, ipx⟩ | rfl⟩
    · refine ⟨⟨?_, .inl ⟨rfl, ?_, ?_⟩⟩, rfl⟩
      · simp only [rfc1042Header, length_append, length_cons, length_nil]
        omega
      · rwa [type _ rfl]
      · rwa [type _ rfl]
    · refine ⟨⟨?_, .inr rfl⟩, rfl⟩
      simp only [bridgeTunnelHeader, length_append, length_cons, length_nil]
      omega
  · rintro ⟨⟨eight, header⟩, rfl⟩
    have parts : body = body.take snapSize ++ body.drop snapSize :=
      (take_append_drop snapSize body).symm
    have two : 2 ≤ (body.drop snapSize).length := by
      simp only [length_drop, snapSize]
      omega
    have same : netShort body 6 = netShort (body.drop snapSize) 0 := by
      have six : (body.take snapSize).length = 6 := by
        rw [length_take]
        exact Nat.min_eq_left (Nat.le_trans (by decide) eight)
      rw [← type _ six, ← parts]
    rw [same] at header
    obtain ⟨header, aarp, ipx⟩ | header := header
    · exact ⟨two, .inl ⟨header ▸ parts, aarp, ipx⟩⟩
    · exact ⟨two, .inr (header ▸ parts)⟩

theorem Subframe.delivers_iff {frame : List U8} :
    subframe.Delivers frame ↔ frame = toEthernet subframe.da subframe.sa subframe.body := by
  unfold Subframe.Delivers toEthernet
  simp only [Subframe.encapsulated_iff]
  split
  · rename_i header
    constructor
    · rintro ⟨rest, rfl, ⟨_, rfl⟩ | ⟨bare, _⟩⟩
      · rfl
      · exact absurd ⟨header, rfl⟩ (bare _)
    · rintro rfl
      exact ⟨_, rfl, .inl ⟨header, rfl⟩⟩
  · rename_i bare
    constructor
    · rintro ⟨rest, rfl, ⟨header, _⟩ | ⟨_, rfl⟩⟩
      · exact absurd header bare
      · simp only [append_assoc]
    · rintro rfl
      exact ⟨_, by simp only [append_assoc], .inr ⟨fun _ header => bare header.1, rfl⟩⟩

theorem toEthernet_inj {da sa : MacAddr} :
    toEthernet dst src body = toEthernet da sa body ↔ da = dst ∧ sa = src := by
  have front (dst src : MacAddr) : ∃ rest, ∀ dst src : MacAddr,
      toEthernet dst src body = dst.toList ++ (src.toList ++ rest) := by
    unfold toEthernet
    dsimp only
    split
    · exact ⟨_, fun _ _ => by rw [append_assoc]⟩
    · exact ⟨_, fun _ _ => by rw [append_assoc, append_assoc]⟩
  obtain ⟨rest, front⟩ := front dst src
  rw [front dst src, front da sa]
  constructor
  · intro same
    obtain ⟨first, same⟩ := append_inj same (by simp)
    obtain ⟨second, _⟩ := append_inj same (by simp)
    exact ⟨(Vector.toList_inj.mp first).symm, (Vector.toList_inj.mp second).symm⟩
  · rintro ⟨rfl, rfl⟩
    rfl

theorem Parsed.msdus_eq (parsed : Parsed maxSubframeCount subframes payload) (small : payload.length < 2 ^ 31) :
    msdus dst src payload =
      { indicated := subframes.map fun subframe => toEthernet dst src subframe.body
        lost := []
        readsBehind := subframes.any fun subframe => subframe.body.length < 8 } := by
  unfold msdus
  rw [if_neg (Nat.not_le_of_lt small), parsed.collectSubframes_eq 0 (Nat.zero_add _)]
  simp [Function.comp_def]

def WellFormed (subframes : List Subframe) (payload : List U8) : Prop :=
  subframes.length ≤ maxSubframeCount ∧ IsAmsdu subframes payload

theorem IsAmsdu.length_le (amsdu : IsAmsdu subframes payload) :
    payload.length ≤ subframes.length * (2 ^ 16 + 16) := by
  have padding (length : Nat) : paddingLen length < 4 := by
    unfold paddingLen
    split <;> omega
  induction amsdu with
  | nil => exact Nat.zero_le _
  | last subframe =>
    have short := subframe.short
    rw [subframe.length_bytes, List.length_singleton, ethHlen]
    omega
  | more subframe between sized rest induction =>
    have short := subframe.short
    have few := padding (subframe.body.length + ethHlen)
    simp only [length_append, length_cons, subframe.length_bytes, sized, Nat.succ_mul, ethHlen] at *
    omega

theorem WellFormed.length_lt (wellFormed : WellFormed subframes payload) : payload.length < 2 ^ 31 := by
  have length := wellFormed.2.length_le
  have few := Nat.mul_le_mul_right (2 ^ 16 + 16) wellFormed.1
  unfold maxSubframeCount at few
  omega

theorem WellFormed.delivers_iff (wellFormed : WellFormed subframes payload) :
    List.Forall₂ Subframe.Delivers subframes (msdus dst src payload).indicated ↔
      (∀ subframe ∈ subframes, subframe.da = dst ∧ subframe.sa = src) ∧ EndsWell subframes := by
  obtain ⟨parsed, isParsed, same, less⟩ := wellFormed.2.parsed 63 wellFormed.1
  rw [Parsed.msdus_eq isParsed wellFormed.length_lt]
  by_cases well : EndsWell subframes
  · rw [and_iff_left well, same well, List.forall₂_map_right_iff, List.forall₂_same]
    simp only [Subframe.delivers_iff, toEthernet_inj]
  · refine iff_of_false (fun delivered => ?_) fun both => well both.2
    have length := delivered.length_eq
    rw [List.length_map] at length
    exact Nat.lt_irrefl _ (length ▸ less well)

/-- Nothing is collected from the payload, or it is taken apart into subframes that are at least as
long as an encapsulation with its type. -/
def Harmless (payload : List U8) : Prop :=
  2 ^ 31 ≤ payload.length ∨ FirstCutOff payload ∨
    ∃ subframes, Parsed maxSubframeCount subframes payload ∧ ∀ subframe ∈ subframes, 8 ≤ subframe.body.length

theorem harmless_iff : ((msdus dst src payload).readsBehind = false ∧ (msdus dst src payload).lost = []) ↔
      Harmless payload := by
  unfold Harmless
  by_cases small : 2 ^ 31 ≤ payload.length
  · rw [msdus, if_pos small]
    exact iff_of_true ⟨rfl, rfl⟩ (.inl small)
  rw [or_iff_right small]
  cases complete : (collectSubframes 0 payload).complete with
  | true =>
    constructor
    · rintro ⟨inside, _⟩
      obtain ⟨subframes, parsed⟩ := parsed_of_complete 63 payload 0 rfl complete
      refine .inr ⟨subframes, parsed, ?_⟩
      simpa [parsed.msdus_eq (Nat.lt_of_not_le small)] using inside
    · rintro (cut | ⟨subframes, parsed, long⟩)
      · rw [collectSubframes, if_neg (Nat.not_le_of_lt cut.1)] at complete
        rw [if_pos cut.2] at complete
        cases complete
      · simpa [parsed.msdus_eq (Nat.lt_of_not_le small)] using long
  | false =>
    have exit : msdus dst src payload = ⟨[], (collectSubframes 0 payload).subframes, false⟩ := by
      simp only [msdus, if_neg small, complete, Bool.false_eq_true, if_false]
    rw [exit, and_iff_right rfl, collected_eq_nil_iff complete]
    refine ⟨.inl, Or.rec id ?_⟩
    rintro ⟨subframes, parsed, _⟩
    rw [parsed.collectSubframes_eq 0 (Nat.zero_add _)] at complete
    cases complete

/-- An aggregate is delivered subframe by subframe; with anything else nothing is read outside of
the payload, and every buffer that is not indicated is released. -/
def DecapsulatesExactly (prframe : RecvFrame) (payload : List U8) : Prop :=
  ∃ result, amsduToMsdu prframe = some result ∧
    (∀ subframes, WellFormed subframes payload → List.Forall₂ Subframe.Delivers subframes result.indicated) ∧
    ((∀ subframes, ¬WellFormed subframes payload) → result.readsBehind = false ∧ result.lost = [])

/-- An aggregate is delivered exactly when its subframes have the addresses of the frame and the
last one is not empty; anything else does no harm exactly when nothing is collected from it, or it
can be taken apart into subframes that are long enough for what is looked up in them. -/
theorem amsduToMsdu_exact_iff (prframe : RecvFrame) (payload : List U8)
    (carried : prframe.amsduPayload = some payload) :
    DecapsulatesExactly prframe payload ↔
      (∀ subframes, WellFormed subframes payload → (∀ subframe ∈ subframes,
          subframe.da = prframe.attrib.dst ∧ subframe.sa = prframe.attrib.src) ∧
        EndsWell subframes) ∧
      ((∀ subframes, ¬WellFormed subframes payload) → Harmless payload) := by
  have result : amsduToMsdu prframe = some (msdus prframe.attrib.dst prframe.attrib.src payload) := by
    rw [amsduToMsdu, carried]
    rfl
  unfold DecapsulatesExactly
  simp only [result, Option.some.injEq, exists_eq_left', harmless_iff]
  refine and_congr (forall_congr' fun subframes => ?_) Iff.rfl
  exact forall_congr' fun wellFormed => wellFormed.delivers_iff

def aggregate (dst src : MacAddr) (payload : List U8) : RecvFrame where
  attrib :=
    { amsdu := true, order := false, qos := true, toFrDs := 1, seqNum := 0, fragNum := 0
      mfrag := false, privacy := false, bdecrypted := false, hdrlen := 26, ivLen := 0, icvLen := 0
      encrypt := .noPrivacy, priority := 0, dst, src, ta := src, ra := dst, bssid := src }
  len := .ofNat 32 (26 + payload.length)
  buffer := .replicate 26 0 ++ payload
  rxData := 0
  rxTail := 26 + payload.length

theorem amsduToMsdu_exact_iff_own : DecapsulatesExactly
      (aggregate #v[0x00, 0x90, 0x4c, 0, 0, 1] #v[0x00, 0x0c, 0x43, 0, 0, 2]
        [0x00, 0x90, 0x4c, 0, 0, 1, 0x00, 0x0c, 0x43, 0, 0, 2, 0, 8, 0xaa, 0xaa, 0x03, 0, 0, 0, 0x08, 0x00])
      [0x00, 0x90, 0x4c, 0, 0, 1, 0x00, 0x0c, 0x43, 0, 0, 2, 0, 8, 0xaa, 0xaa, 0x03, 0, 0, 0, 0x08, 0x00] := by
  have amsdu : IsAmsdu [⟨#v[0x00, 0x90, 0x4c, 0, 0, 1], #v[0x00, 0x0c, 0x43, 0, 0, 2],
      [0xaa, 0xaa, 0x03, 0, 0, 0, 0x08, 0x00], by decide⟩] _ := .last _
  refine (amsduToMsdu_exact_iff _ _ (by decide)).mpr
    ⟨fun subframes wellFormed => ?_, fun other => ?_⟩
  · obtain rfl := amsdu.unique wellFormed.2
    simp [aggregate, EndsWell]
  · exact absurd ⟨by decide, amsdu⟩ (other _)

/-- A host behind an access point has made one subframe, and it is indicated as one of the access
point. -/
theorem amsduToMsdu_not_exact : ¬DecapsulatesExactly
      (aggregate #v[0x00, 0x90, 0x4c, 0, 0, 1] #v[0x00, 0x0c, 0x43, 0, 0, 2]
        [0x00, 0x90, 0x4c, 0, 0, 1, 0x00, 0x1b, 0x21, 0, 0, 3, 0, 8, 0xaa, 0xaa, 0x03, 0, 0, 0, 0x08, 0x00])
      [0x00, 0x90, 0x4c, 0, 0, 1, 0x00, 0x1b, 0x21, 0, 0, 3, 0, 8, 0xaa, 0xaa, 0x03, 0, 0, 0, 0x08, 0x00] := by
  rintro ⟨result, carried, delivered, _⟩
  have amsdu : IsAmsdu [⟨#v[0x00, 0x90, 0x4c, 0, 0, 1], #v[0x00, 0x1b, 0x21, 0, 0, 3],
      [0xaa, 0xaa, 0x03, 0, 0, 0, 0x08, 0x00], by decide⟩] _ := .last _
  have wellFormed : WellFormed _ _ := ⟨by decide, amsdu⟩
  cases carried
  have same := wellFormed.delivers_iff.mp (delivered _ wellFormed)
  exact absurd (same.1 _ (List.mem_singleton.mpr rfl)).2 (by decide)

end Floid.Wifi
