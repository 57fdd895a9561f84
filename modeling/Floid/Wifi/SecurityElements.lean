import Floid.Wifi.ElementSearch
import Floid.Wifi.P2pElements

/-!
The WPA and RSN elements of a list: `get_sec_ie`, which copies them, and the parsers that look
into them.
-/

namespace Floid.Wifi

open Osk Lib
open List (append_assoc append_nil cons_append drop_left forall_mem_cons length_append length_cons length_take)
open Option (bind_some map_eq_some_iff)
open BitVec (ofNat)

structure SecBuffer where
  ie : List U8
  len : U16

structure SecIe where
  rsn : SecBuffer
  wpa : SecBuffer

def traceEnds (size : Nat) : Nat → U8 → Bool
  | 0, _ => false
  | rounds + 1, i => if i.toNat < size then traceEnds size rounds (i + 8) else true

def SecBuffer.copy (rounds : Nat) (list : List U8) (size : Nat) (buffer : SecBuffer) : Option SecBuffer :=
  match segment list 0 size with
  | none => none
  | some ie =>
      if traceEnds size rounds 0 then some ⟨ie ++ buffer.ie.drop size, ofNat 16 size⟩ else none

inductive SecKind where
  | wpa
  | rsn
  | other
  deriving DecidableEq

def secKind (authmode : U8) (data : List U8) : Option SecKind :=
  if authmode = wpaIeId then
    (segment data 0 4).map fun oui => if oui = wpaOuiType then .wpa else .other
  else some (if authmode = wpa2IeId then .rsn else .other)

def SecIe.copy (rounds : Nat) (list : List U8) (size : Nat) (out : SecIe) : SecKind → Option SecIe
  | .wpa => (out.wpa.copy rounds list size).map fun wpa => { out with wpa }
  | .rsn => (out.rsn.copy rounds list size).map fun rsn => { out with rsn }
  | .other => some out

/-- The loop of `get_sec_ie`. There is no result when it reads behind the list, or a copy is not
printed within the rounds. -/
def getSecIeWalk (rounds : Nat) (list : List U8) (out : SecIe) : Option SecIe :=
  match list with
  | [] => some out
  | authmode :: length :: data =>
      (secKind authmode data).bind fun kind =>
        (out.copy rounds (authmode :: length :: data) (length.toNat + 2) kind).bind fun out =>
          getSecIeWalk rounds (data.drop length.toNat) out
  | _ => none
termination_by list.length
decreasing_by
  rw [List.length_drop, length_cons, length_cons]
  omega

def getSecIe (rounds : Nat) (inIe : List U8) (out : SecIe) : Option (Nat × SecIe) :=
  (getSecIeWalk rounds (inIe.drop 12) out).map fun out => (out.rsn.len.toNat + out.wpa.len.toNat, out)

def HasWpaOui (element : Element) : Prop :=
  element.id = wpaIeId ∧ element.data.take 4 = wpaOuiType

instance (element : Element) : Decidable (HasWpaOui element) := inferInstanceAs (Decidable (_ ∧ _))

def IsRsn (element : Element) : Prop := element.id = wpa2IeId

instance (element : Element) : Decidable (IsRsn element) := inferInstanceAs (Decidable (_ = _))

def lastElement (kind : Element → Prop) [DecidablePred kind] (elements : List Element) : Option Element :=
  (elements.filter kind).getLast?

def SecBuffer.Holds (buffer : SecBuffer) : Option Element → Prop
  | none => buffer.len = 0
  | some element =>
      buffer.len.toNat = element.bytes.length ∧ buffer.ie.take element.bytes.length = element.bytes

def SecIeExact (fixed : Vector U8 12) (elements : List Element) (out : SecIe) : Prop :=
  ∃ rounds size after, getSecIe rounds (fixed.toList ++ listBytes elements) out = some (size, after) ∧
    after.wpa.Holds (lastElement HasWpaOui elements) ∧ after.rsn.Holds (lastElement IsRsn elements)

def secKinds : List Element → List (Option SecKind × Element)
  | [] => []
  | element :: rest => (secKind element.id (element.data ++ listBytes rest), element) :: secKinds rest

def lastTaken (kind : SecKind) (elements : List Element) : Option Element :=
  (((secKinds elements).filter fun entry => entry.1 = some kind).getLast?).map Prod.snd

/-- The element is looked at inside the list, and is not taken for a WPA or RSN element unless it
is short enough for the counter of the loop that prints it. -/
def SecFits (entry : Option SecKind × Element) : Prop :=
  ∃ kind, entry.1 = some kind ∧ (kind ≠ .other → entry.2.data.length < 247)

variable {rounds size : Nat} {i : U8} {element : Element} {rest elements : List Element}
  {buffer after : SecBuffer} {out outAfter : SecIe} {kind : SecKind} {list : List U8}

theorem traceEnds_of_short (short : size ≤ 248) (near : 248 ≤ i.toNat + 8 * rounds) :
    traceEnds size (rounds + 1) i = true := by
  induction rounds generalizing i with
  | zero => rw [traceEnds, if_neg (by omega)]
  | succ rounds ih =>
    rw [traceEnds]
    split
    · next more =>
        have next : (i + 8).toNat = i.toNat + 8 := by
          rw [BitVec.toNat_add, show (8 : U8).toNat = 8 from rfl]
          exact Nat.mod_eq_of_lt (by omega)
        exact ih (by omega)
    · rfl

theorem not_traceEnds (long : 248 < size) (eighth : i.toNat % 8 = 0) : traceEnds size rounds i = false := by
  induction rounds generalizing i with
  | zero => rfl
  | succ rounds ih =>
    have next : (i + 8).toNat = (i.toNat + 8) % 256 := BitVec.toNat_add i 8
    rw [traceEnds, if_pos (by omega)]
    exact ih (by omega)

theorem traceEnds_iff : (∃ rounds, traceEnds size rounds 0 = true) ↔ size ≤ 248 := by
  constructor
  · intro ⟨rounds, ends⟩
    by_contra long
    rw [not_traceEnds (Nat.lt_of_not_le long) rfl] at ends
    cases ends
  · exact fun short => ⟨32, traceEnds_of_short short (by decide)⟩

def SecBuffer.Becomes (buffer after : SecBuffer) : Option Element → Prop
  | none => after = buffer
  | some element => after.Holds (some element)

theorem copy_eq : buffer.copy rounds (element.bytes ++ list) element.bytes.length =
    if traceEnds element.bytes.length rounds 0 then
      some ⟨element.bytes ++ buffer.ie.drop element.bytes.length, ofNat 16 element.bytes.length⟩
    else none := by
  rw [SecBuffer.copy, segment_front list (by omega), segment_all]

theorem copy_some (copied : buffer.copy rounds (element.bytes ++ list) element.bytes.length = some after) :
    element.data.length < 247 ∧ after.Holds (some element) := by
  have size := bytes_length element
  rw [copy_eq] at copied
  split at copied
  · next ends =>
      have few := traceEnds_iff.mp ⟨rounds, ends⟩
      cases copied
      refine ⟨by omega, ?_, List.take_left⟩
      exact (BitVec.toNat_ofNat _ _).trans (Nat.mod_eq_of_lt (by omega))
  · cases copied

theorem copy_exists (short : element.data.length < 247) :
    ∃ after, buffer.copy 32 (element.bytes ++ list) element.bytes.length = some after := by
  have size := bytes_length element
  rw [copy_eq, if_pos (traceEnds_of_short (by omega) (by decide))]
  exact ⟨_, rfl⟩

theorem getSecIeWalk_cons : getSecIeWalk rounds (listBytes (element :: rest)) out =
    (secKind element.id (element.data ++ listBytes rest)).bind fun kind =>
      (out.copy rounds (element.bytes ++ listBytes rest) element.bytes.length kind).bind
        (getSecIeWalk rounds (listBytes rest)) := by
  rw [listBytes_cons, Element.bytes, cons_append, cons_append, getSecIeWalk]
  simp only [element.length_toNat, drop_left, length_cons]

theorem getLast?_filter_cons {Item : Type*} (passes : Item → Bool) (item : Item) (items : List Item) :
    ((item :: items).filter passes).getLast? =
      (items.filter passes).getLast?.or (if passes item then some item else none) := by
  rw [List.filter_cons]
  split
  · rw [List.getLast?_cons]
    cases (items.filter passes).getLast? <;> rfl
  · rw [Option.or_none]

theorem lastTaken_cons : lastTaken kind (element :: rest) = (lastTaken kind rest).or
      (if secKind element.id (element.data ++ listBytes rest) = some kind then some element else none) := by
  rw [lastTaken, lastTaken, secKinds, getLast?_filter_cons]
  simp only [decide_eq_true_eq]
  cases ((secKinds rest).filter fun entry => decide (entry.1 = some kind)).getLast? <;> split <;> rfl

theorem lastElement_cons (kind : Element → Prop) [DecidablePred kind] (element : Element) (rest : List Element) :
    lastElement kind (element :: rest) = (lastElement kind rest).or (if kind element then some element else none) := by
  rw [lastElement, lastElement, getLast?_filter_cons]
  simp only [decide_eq_true_eq]

theorem SecBuffer.Becomes.cons {next : SecBuffer} {last first : Option Element}
    (now : buffer.Becomes next first) (later : next.Becomes after last) :
    buffer.Becomes after (last.or first) := by
  cases last with
  | none =>
    obtain rfl : after = next := later
    exact now
  | some element => exact later

theorem getSecIeWalk_some (walked : getSecIeWalk rounds (listBytes elements) out = some outAfter) :
    (∀ entry ∈ secKinds elements, SecFits entry) ∧ out.wpa.Becomes outAfter.wpa (lastTaken .wpa elements) ∧
      out.rsn.Becomes outAfter.rsn (lastTaken .rsn elements) := by
  induction elements generalizing out with
  | nil =>
    rw [listBytes, List.flatMap_nil, getSecIeWalk] at walked
    cases walked
    exact ⟨fun _ member => (by cases member), rfl, rfl⟩
  | cons element rest ih =>
    rw [getSecIeWalk_cons] at walked
    obtain ⟨kind, taken, walked⟩ := Option.bind_eq_some_iff.mp walked
    obtain ⟨next, copied, walked⟩ := Option.bind_eq_some_iff.mp walked
    obtain ⟨fits, wpaLast, rsnLast⟩ := ih walked
    rw [secKinds, lastTaken_cons, lastTaken_cons, taken, forall_mem_cons]
    cases kind with
    | wpa =>
      obtain ⟨wpa, wrote, rfl⟩ := map_eq_some_iff.mp copied
      obtain ⟨short, holds⟩ := copy_some wrote
      exact ⟨⟨⟨_, rfl, fun _ => short⟩, fits⟩, .cons holds wpaLast, .cons rfl rsnLast⟩
    | rsn =>
      obtain ⟨rsn, wrote, rfl⟩ := map_eq_some_iff.mp copied
      obtain ⟨short, holds⟩ := copy_some wrote
      exact ⟨⟨⟨_, rfl, fun _ => short⟩, fits⟩, .cons rfl wpaLast, .cons holds rsnLast⟩
    | other =>
      obtain rfl : out = next := Option.some.inj copied
      exact ⟨⟨⟨_, rfl, (absurd rfl ·)⟩, fits⟩, .cons rfl wpaLast, .cons rfl rsnLast⟩

theorem getSecIeWalk_exists (fits : ∀ entry ∈ secKinds elements, SecFits entry) (out : SecIe) :
    ∃ after, getSecIeWalk 32 (listBytes elements) out = some after := by
  induction elements generalizing out with
  | nil => exact ⟨out, by rw [listBytes, List.flatMap_nil, getSecIeWalk]⟩
  | cons element rest ih =>
    rw [secKinds, forall_mem_cons] at fits
    obtain ⟨⟨kind, taken, short⟩, fits⟩ := fits
    dsimp only at taken short
    rw [getSecIeWalk_cons, taken, bind_some]
    cases kind with
    | wpa =>
      obtain ⟨wpa, copied⟩ := @copy_exists element out.wpa (listBytes rest) (short fun same => by cases same)
      rw [SecIe.copy, copied]
      exact ih fits _
    | rsn =>
      obtain ⟨rsn, copied⟩ := @copy_exists element out.rsn (listBytes rest) (short fun same => by cases same)
      rw [SecIe.copy, copied]
      exact ih fits _
    | other => exact ih fits out

theorem secKind_rsn_iff {data : List U8} : secKind element.id data = some .rsn ↔ IsRsn element := by
  unfold secKind IsRsn
  split
  · next vendor =>
      have other : element.id ≠ wpa2IeId := by rw [vendor]; decide
      simp only [other, iff_false, map_eq_some_iff, not_exists, not_and]
      intro oui _
      split <;> nofun
  · split <;> simp_all

theorem secKind_wpa (isWpa : HasWpaOui element) : secKind element.id (element.data ++ list) = some .wpa := by
  have long : 4 ≤ element.data.length := by
    have taken := congrArg List.length isWpa.2
    rw [length_take, wpaOuiType, length_cons] at taken
    exact min_eq_left_iff.mp taken
  rw [secKind, if_pos isWpa.1, segment_front list (by omega), segment_of_le (by omega), List.drop_zero, isWpa.2]
  rfl

theorem lastTaken_rsn : lastTaken .rsn elements = lastElement IsRsn elements := by
  induction elements with
  | nil => rfl
  | cons element rest ih =>
    rw [lastTaken_cons, lastElement_cons, ih]
    simp only [secKind_rsn_iff]

theorem lastTaken_wpa (absent : lastTaken .wpa elements = none) : lastElement HasWpaOui elements = none := by
  induction elements with
  | nil => rfl
  | cons element rest ih =>
    rw [lastTaken_cons, Option.or_eq_none_iff] at absent
    rw [lastElement_cons, ih absent.1, Option.none_or, if_neg]
    intro isWpa
    rw [if_pos (secKind_wpa isWpa)] at absent
    cases absent.2

theorem SecBuffer.Becomes.holds_iff {taken wanted : Option Element} (becomes : buffer.Becomes after taken)
    (isTaken : taken = none → wanted = none) :
    after.Holds wanted ↔ taken = wanted ∧ (wanted = none → buffer.len = 0) := by
  cases taken with
  | none =>
    obtain rfl : after = buffer := becomes
    rw [isTaken rfl]
    exact ⟨fun zero => ⟨rfl, fun _ => zero⟩, fun zero => zero.2 rfl⟩
  | some element =>
    obtain ⟨length, bytes⟩ := becomes
    constructor
    · intro holds
      cases wanted with
      | none =>
        have zero : after.len = 0 := holds
        rw [zero, bytes_length] at length
        cases length
      | some other =>
        have same : element.bytes = other.bytes := by
          rw [← bytes, ← length, holds.1, holds.2]
        have one : element.bytes ++ [] = other.bytes ++ [] := by rw [same]
        exact ⟨congrArg _ (Element.bytes_append_inj one).1, nofun⟩
    · rintro ⟨rfl, _⟩
      exact ⟨length, bytes⟩

/-- `get_sec_ie` is exact if and only if each vendor element has four bytes of the list behind its
head, no element that is copied has more than 246 bytes of data, the last one that looks like a
WPA element is one, and the length of a kind that is absent was zero before. -/
theorem getSecIe_exact_iff (fixed : Vector U8 12) (elements : List Element) (out : SecIe) :
    SecIeExact fixed elements out ↔ (∀ entry ∈ secKinds elements, SecFits entry) ∧
      lastTaken .wpa elements = lastElement HasWpaOui elements ∧
      (lastElement HasWpaOui elements = none → out.wpa.len = 0) ∧
      (lastElement IsRsn elements = none → out.rsn.len = 0) := by
  have list : (fixed.toList ++ listBytes elements).drop 12 = listBytes elements :=
    List.drop_left' fixed.length_toList
  simp only [SecIeExact, getSecIe, list, map_eq_some_iff, Prod.mk.injEq]
  constructor
  · rintro ⟨rounds, size, after, ⟨_, walked, rfl, rfl⟩, wpa, rsn⟩
    obtain ⟨fits, wpaLast, rsnLast⟩ := getSecIeWalk_some walked
    rw [lastTaken_rsn] at rsnLast
    obtain ⟨isLast, wpaZero⟩ := (wpaLast.holds_iff lastTaken_wpa).mp wpa
    exact ⟨fits, isLast, wpaZero, ((rsnLast.holds_iff id).mp rsn).2⟩
  · intro ⟨fits, isLast, wpaZero, rsnZero⟩
    obtain ⟨after, walked⟩ := getSecIeWalk_exists fits out
    obtain ⟨_, wpaLast, rsnLast⟩ := getSecIeWalk_some walked
    rw [lastTaken_rsn] at rsnLast
    exact ⟨32, _, after, ⟨after, walked, rfl, rfl⟩,
      (wpaLast.holds_iff lastTaken_wpa).mpr ⟨isLast, wpaZero⟩, (rsnLast.holds_iff id).mpr ⟨rfl, rsnZero⟩⟩

def longRsn : Element :=
  ⟨wpa2IeId, List.replicate 247 0, by rw [List.length_replicate]; decide⟩

def emptyVendor : Element := ⟨wpaIeId, [], by decide⟩

/-- An RSN element of 247 bytes is never done printing, and a vendor element without data at the end
of the list is looked at behind it. -/
theorem getSecIe_not_exact : (¬∃ out, SecIeExact (Vector.replicate 12 0) [longRsn] out) ∧
      ¬∃ out, SecIeExact (Vector.replicate 12 0) [emptyVendor] out := by
  have walks {element out} (isExact : SecIeExact (Vector.replicate 12 0) [element] out) :
      SecFits (secKind element.id (element.data ++ listBytes []), element) := by
    obtain ⟨rounds, size, after, ran, _⟩ := isExact
    rw [getSecIe, List.drop_left' Vector.length_toList] at ran
    obtain ⟨result, walked, _⟩ := map_eq_some_iff.mp ran
    exact (getSecIeWalk_some walked).1 _ List.mem_cons_self
  constructor
  · rintro ⟨_, isExact⟩
    obtain ⟨kind, taken, short⟩ := walks isExact
    obtain rfl : SecKind.rsn = kind := Option.some.inj taken
    have few : (List.replicate 247 (0 : U8)).length < 247 := short nofun
    rw [List.length_replicate] at few
    omega
  · rintro ⟨_, isExact⟩
    obtain ⟨kind, taken, _⟩ := walks isExact
    cases taken

structure Ciphers where
  group : U32
  pairwise : U32

structure SecParser where
  id : U8
  ouiType : List U8
  behind : Nat
  suite : List U8 → U32

def wpaParser : SecParser := ⟨wpaIeId, wpaOuiType, 6, getWpaCipherSuite⟩

def wpa2Parser : SecParser := ⟨wpa2IeId, [], 2, getWpa2CipherSuite⟩

def orSuites (suite : List U8 → U32) : Nat → List U8 → U32 → Option U32
  | 0, _, pairwise => some pairwise
  | count + 1, pos, pairwise =>
      (segment pos 0 4).bind fun s => orSuites suite count (pos.drop 4) (pairwise ||| suite s)

def parsePairwise (suite : List U8 → U32) (pos : List U8) (ciphers : Ciphers) : Option (Bool × Ciphers) :=
  match pos with
  | [] => some (true, ciphers)
  | low :: high :: pos =>
      let count := low.toNat + 256 * high.toNat
      if count = 0 ∨ pos.length < count * 4 then some (false, ciphers)
      else (orSuites suite count pos ciphers.pairwise).map fun pairwise => (true, { ciphers with pairwise })
  | _ => some (false, ciphers)

def parseSuites (suite : List U8 → U32) (pos : List U8) (ciphers : Ciphers) : Option (Bool × Ciphers) :=
  if 4 ≤ pos.length then
    (segment pos 0 4).bind fun s => parsePairwise suite (pos.drop 4) { ciphers with group := suite s }
  else if 0 < pos.length then some (false, ciphers)
  else parsePairwise suite pos ciphers

/-- `parse_wpa_ie` and `parse_wpa2_ie`: whether they succeed, and the ciphers. There is no result
when they read behind the string. -/
def SecParser.parse (parser : SecParser) (ie : List U8) (ciphers : Ciphers) : Option (Bool × Ciphers) :=
  match ie with
  | [] => some (false, ciphers)
  | first :: rest =>
      if first ≠ parser.id then some (false, ciphers)
      else (rest[0]?).bind fun length =>
        if length ≠ ofNat 8 (ie.length - 2) then some (false, ciphers)
        else (segment ie 2 parser.ouiType.length).bind fun ouiType =>
          if ouiType ≠ parser.ouiType then some (false, ciphers)
          else parseSuites parser.suite (ie.drop (parser.behind + 2)) ciphers

inductive SuiteBody : List U8 → Option (List U8) → List (List U8) → Prop
  | absent : SuiteBody [] none []
  | group {group : List U8} (four : group.length = 4) : SuiteBody group (some group) []
  | pairs {group : List U8} {pairs : List (List U8)} {count : U16} (trailing : List U8)
      (four : group.length = 4) (fours : ∀ pair ∈ pairs, pair.length = 4)
      (counted : pairs.length = count.toNat) (nonzero : count.toNat ≠ 0) :
      SuiteBody (group ++ (shortBytes count ++ (pairs.flatten ++ trailing))) (some group) pairs

def SecParser.WellFormed (parser : SecParser) (ie : List U8) (group : Option (List U8))
    (pairs : List (List U8)) : Prop :=
  ∃ element : Element, ie = element.bytes ∧ element.id = parser.id ∧
    element.data.take parser.ouiType.length = parser.ouiType ∧
    SuiteBody (element.data.drop parser.behind) group pairs

def Ciphers.gain (suite : List U8 → U32) (group : Option (List U8)) (pairs : List (List U8))
    (ciphers : Ciphers) : Ciphers where
  group := (group.map suite).getD ciphers.group
  pairwise := pairs.foldl (fun pairwise pair => pairwise ||| suite pair) ciphers.pairwise

def SecParser.Exact (parser : SecParser) (ie : List U8) (ciphers : Ciphers) : Prop :=
  ∃ accepted after, parser.parse ie ciphers = some (accepted, after) ∧
    (accepted = true ↔ ∃ group pairs, parser.WellFormed ie group pairs) ∧
    ∀ group pairs, parser.WellFormed ie group pairs → after = ciphers.gain parser.suite group pairs

/-- A string that begins like the element is not so short that the parser reads behind it, nor so
long that its length has no byte. -/
def SecParser.Fits (parser : SecParser) (ie : List U8) : Prop :=
  ie ≠ [parser.id] ∧
    ∀ data, ie = parser.id :: ofNat 8 data.length :: data → parser.ouiType.length ≤ data.length ∧
      (data.take parser.ouiType.length = parser.ouiType →
        (∃ group pairs, SuiteBody (data.drop parser.behind) group pairs) → data.length < 256)

variable {suite : List U8 → U32} {parser : SecParser} {ciphers result : Ciphers} {pos ie data trailing : List U8}
  {group : Option (List U8)} {pairs : List (List U8)} {count : Nat} {pairwise : U32} {accepted : Bool}

theorem orSuites_eq (fours : ∀ pair ∈ pairs, pair.length = 4) :
    orSuites suite pairs.length (pairs.flatten ++ trailing) pairwise =
      some (pairs.foldl (fun pairwise pair => pairwise ||| suite pair) pairwise) := by
  induction pairs generalizing pairwise with
  | nil => rfl
  | cons pair pairs ih =>
    rw [forall_mem_cons] at fours
    rw [length_cons, orSuites, List.flatten_cons, append_assoc, segment_front _ (by omega),
      ← fours.1, segment_all, bind_some, drop_left, List.foldl_cons]
    exact ih fours.2

theorem exists_fours (enough : count * 4 ≤ pos.length) : ∃ pairs trailing,
    pos = List.flatten pairs ++ trailing ∧ pairs.length = count ∧ ∀ pair ∈ pairs, pair.length = 4 := by
  induction count generalizing pos with
  | zero => exact ⟨[], pos, rfl, rfl, nofun⟩
  | succ count ih =>
    have long : count * 4 ≤ (pos.drop 4).length := by
      rw [List.length_drop]
      omega
    obtain ⟨pairs, trailing, rest, counted, fours⟩ := ih long
    refine ⟨pos.take 4 :: pairs, trailing, ?_, by rw [length_cons, counted], ?_⟩
    · rw [List.flatten_cons, append_assoc, ← rest, List.take_append_drop]
    · rw [forall_mem_cons, length_take]
      exact ⟨by omega, fours⟩

theorem parseSuites_group (pairs : List U8) (four : pos.length = 4) : parseSuites suite (pos ++ pairs) ciphers =
    parsePairwise suite pairs { ciphers with group := suite pos } := by
  rw [parseSuites, length_append, if_pos (by omega), segment_front _ (by omega), ← four, segment_all,
    bind_some, drop_left]

theorem parsePairwise_eq (count : U16) (fours : ∀ pair ∈ pairs, pair.length = 4)
    (counted : pairs.length = count.toNat) (nonzero : count.toNat ≠ 0) :
    parsePairwise suite (shortBytes count ++ (pairs.flatten ++ trailing)) ciphers = some (true,
      { ciphers with pairwise := pairs.foldl (fun pairwise pair => pairwise ||| suite pair) ciphers.pairwise }) := by
  have long : pairs.flatten.length = pairs.length * 4 := by
    rw [List.length_flatten, List.map_congr_left fours, List.map_const', List.sum_replicate_nat]
  rw [shortBytes, cons_append, cons_append, List.nil_append, parsePairwise]
  simp only [shortBytes_toNat]
  rw [if_neg, ← counted, orSuites_eq fours]
  · rfl
  · rw [length_append, long, counted]
    omega

theorem SuiteBody.parses (body : SuiteBody pos group pairs) :
    parseSuites suite pos ciphers = some (true, ciphers.gain suite group pairs) := by
  cases body with
  | absent => rfl
  | group four =>
    have parsed := @parseSuites_group suite ciphers pos [] four
    rwa [append_nil] at parsed
  | pairs trailing four fours counted nonzero =>
    rw [parseSuites_group _ four, parsePairwise_eq _ fours counted nonzero]
    rfl

theorem exists_count (low high : U8) : ∃ count : U16, shortBytes count = [low, high] ∧
    count.toNat = low.toNat + 256 * high.toNat := by
  refine ⟨ofNat 16 (low.toNat + 256 * high.toNat), ?_, ?_⟩
  · rw [shortBytes, List.cons.injEq, List.cons.injEq]
    exact ⟨by bv_omega, by bv_omega, rfl⟩
  · exact (BitVec.toNat_ofNat _ _).trans (Nat.mod_eq_of_lt (by omega))

theorem parseSuites_total (suite : List U8 → U32) (pos : List U8) (ciphers : Ciphers) :
    ∃ accepted after, parseSuites suite pos ciphers = some (accepted, after) ∧
      (accepted = true → ∃ group pairs, SuiteBody pos group pairs) := by
  by_cases complete : 4 ≤ pos.length
  · have four : (pos.take 4).length = 4 := by
      rw [length_take]
      omega
    rw [← List.take_append_drop 4 pos, parseSuites_group _ four]
    match pos.drop 4 with
    | [] => exact ⟨true, _, rfl, fun _ => ⟨_, [], by rw [append_nil]; exact .group four⟩⟩
    | [_] => exact ⟨false, _, rfl, nofun⟩
    | low :: high :: rest =>
        rw [parsePairwise]
        by_cases botch : low.toNat + 256 * high.toNat = 0 ∨ rest.length < (low.toNat + 256 * high.toNat) * 4
        · exact ⟨false, _, if_pos botch, nofun⟩
        · obtain ⟨pairs, trailing, rfl, counted, fours⟩ := exists_fours (Nat.le_of_not_lt fun few => botch (.inr few))
          rw [if_neg botch, ← counted, orSuites_eq fours]
          refine ⟨true, _, rfl, fun _ => ⟨some (pos.take 4), pairs, ?_⟩⟩
          obtain ⟨count, bytes, value⟩ := exists_count low high
          have body := SuiteBody.pairs trailing four fours (counted.trans value.symm) (by omega)
          rwa [bytes] at body
  · cases pos with
    | nil => exact ⟨true, _, rfl, fun _ => ⟨none, [], .absent⟩⟩
    | cons first rest =>
      refine ⟨false, ciphers, ?_, nofun⟩
      rw [parseSuites, if_neg complete, if_pos (by simp)]

theorem parse_headed (parser : SecParser) (data : List U8) (ciphers : Ciphers) :
    parser.parse (parser.id :: ofNat 8 data.length :: data) ciphers =
      (segment data 0 parser.ouiType.length).bind fun ouiType =>
        if ouiType ≠ parser.ouiType then some (false, ciphers)
        else parseSuites parser.suite (data.drop parser.behind) ciphers := by
  have behindHead : segment (parser.id :: ofNat 8 data.length :: data) 2 parser.ouiType.length =
      segment data 0 parser.ouiType.length := by
    rw [Lib.segment, Lib.segment, length_cons, length_cons]
    exact if_congr (by omega) rfl rfl
  rw [SecParser.parse, if_neg (by simp), List.getElem?_cons_zero, bind_some, if_neg (by simp), behindHead]
  rfl

theorem wellFormed_headed : parser.WellFormed (parser.id :: ofNat 8 data.length :: data) group pairs ↔
    data.length < 256 ∧ data.take parser.ouiType.length = parser.ouiType ∧
      SuiteBody (data.drop parser.behind) group pairs := by
  constructor
  · rintro ⟨element, bytes, _, ouiType, body⟩
    rw [Element.bytes, List.cons.injEq, List.cons.injEq] at bytes
    rw [bytes.2.2]
    exact ⟨element.short, ouiType, body⟩
  · rintro ⟨short, ouiType, body⟩
    exact ⟨⟨parser.id, data, short⟩, rfl, rfl, ouiType, body⟩

theorem SecParser.WellFormed.headed (wellFormed : parser.WellFormed ie group pairs) :
    ∃ data, ie = parser.id :: ofNat 8 data.length :: data := by
  obtain ⟨element, rfl, isId, _⟩ := wellFormed
  exact ⟨element.data, by rw [Element.bytes, isId]⟩

theorem exact_of_other (other : ∀ data, ie ≠ parser.id :: ofNat 8 data.length :: data)
    (rejected : parser.parse ie ciphers = some (false, ciphers)) : parser.Exact ie ciphers := by
  have unformed (group : Option (List U8)) (pairs : List (List U8)) : ¬parser.WellFormed ie group pairs := by
    intro wellFormed
    obtain ⟨data, same⟩ := wellFormed.headed
    exact other data same
  refine ⟨false, ciphers, rejected, ?_, fun group pairs wellFormed => absurd wellFormed (unformed group pairs)⟩
  exact iff_of_false nofun fun ⟨group, pairs, wellFormed⟩ => unformed group pairs wellFormed

theorem exact_headed_iff : parser.Exact (parser.id :: ofNat 8 data.length :: data) ciphers ↔
    parser.Fits (parser.id :: ofNat 8 data.length :: data) := by
  have fits : parser.Fits (parser.id :: ofNat 8 data.length :: data) ↔
      parser.ouiType.length ≤ data.length ∧ (data.take parser.ouiType.length = parser.ouiType →
        (∃ group pairs, SuiteBody (data.drop parser.behind) group pairs) → data.length < 256) := by
    constructor
    · exact fun fits => fits.2 data rfl
    · refine fun fits => ⟨fun absurd_ => (by cases absurd_), fun other same => ?_⟩
      rw [← (List.cons.inj (List.cons.inj same).2).2]
      exact fits
  rw [fits, SecParser.Exact, parse_headed]
  simp only [wellFormed_headed]
  by_cases long : parser.ouiType.length ≤ data.length
  · rw [segment_of_le (by omega), List.drop_zero, bind_some]
    simp only [long, true_and]
    by_cases ouiType : data.take parser.ouiType.length = parser.ouiType
    · obtain ⟨accepted, after, parsed, body⟩ :=
        parseSuites_total parser.suite (data.drop parser.behind) ciphers
      have parses {group pairs} (body : SuiteBody (data.drop parser.behind) group pairs) :
          true = accepted ∧ ciphers.gain parser.suite group pairs = after := by
        have same := body.parses.symm.trans parsed
        rwa [Option.some.injEq, Prod.mk.injEq] at same
      rw [if_neg (not_not_intro ouiType), parsed]
      simp only [ouiType, true_and, forall_const, Option.some.injEq, Prod.mk.injEq]
      constructor
      · rintro ⟨_, _, ⟨rfl, rfl⟩, wellFormed, _⟩ ⟨group, pairs, isBody⟩
        obtain ⟨_, _, short, _⟩ := wellFormed.mp (parses isBody).1.symm
        exact short
      · intro short
        refine ⟨accepted, after, ⟨rfl, rfl⟩, ⟨fun isAccepted => ?_, ?_⟩, ?_⟩
        · obtain ⟨group, pairs, isBody⟩ := body isAccepted
          exact ⟨group, pairs, short ⟨group, pairs, isBody⟩, isBody⟩
        · rintro ⟨group, pairs, _, isBody⟩
          exact (parses isBody).1.symm
        · exact fun group pairs wellFormed => (parses wellFormed.2).2.symm
    · rw [if_pos ouiType]
      refine iff_of_true ⟨false, ciphers, rfl, ?_, ?_⟩ fun same => absurd same ouiType
      · refine iff_of_false Bool.false_ne_true ?_
        rintro ⟨_, _, _, same, _⟩
        exact ouiType same
      · exact fun _ _ wellFormed => absurd wellFormed.2.1 ouiType
  · rw [Lib.segment, if_neg (by omega)]
    exact iff_of_false (by rintro ⟨_, _, ⟨⟩, _⟩) fun fits => long fits.1

theorem SecParser.exact_iff (parser : SecParser) (ie : List U8) (ciphers : Ciphers) :
    parser.Exact ie ciphers ↔ parser.Fits ie := by
  by_cases headed : ∃ data, ie = parser.id :: ofNat 8 data.length :: data
  · obtain ⟨data, rfl⟩ := headed
    exact exact_headed_iff
  · have other (data : List U8) : ie ≠ parser.id :: ofNat 8 data.length :: data :=
      fun same => headed ⟨data, same⟩
    have fits : ie ≠ [parser.id] → parser.Fits ie :=
      fun long => ⟨long, fun data same => absurd same (other data)⟩
    match ie with
    | [] => exact iff_of_true (exact_of_other other rfl) (fits nofun)
    | first :: rest =>
        by_cases isFirst : first = parser.id
        · subst isFirst
          match rest with
          | [] =>
              refine iff_of_false ?_ fun short => short.1 rfl
              rintro ⟨_, _, parsed, _⟩
              rw [SecParser.parse, if_neg (by simp)] at parsed
              cases parsed
          | length :: data =>
              have mismatch : length ≠ ofNat 8 data.length := fun same => other data (same ▸ rfl)
              refine iff_of_true (exact_of_other other ?_) (fits nofun)
              rw [SecParser.parse, if_neg (by simp), List.getElem?_cons_zero, bind_some]
              exact if_pos mismatch
        · refine iff_of_true (exact_of_other other ?_) (fits fun same => isFirst (List.cons.inj same).1)
          rw [SecParser.parse, if_pos isFirst]

/-- `parse_wpa_ie` and `parse_wpa2_ie` are exact if and only if a string that begins with the id has a
length byte and, if that is right, the OUI and type, and a string that is well-formed otherwise has
no more than 255 bytes of data. -/
theorem secParsers_exact_iff (ie : List U8) (ciphers : Ciphers) :
    (wpaParser.Exact ie ciphers ↔ wpaParser.Fits ie) ∧ (wpa2Parser.Exact ie ciphers ↔ wpa2Parser.Fits ie) :=
  ⟨wpaParser.exact_iff ie ciphers, wpa2Parser.exact_iff ie ciphers⟩

/-- Of a single byte the length is read behind it, and of an element without data the OUI. -/
theorem secParsers_not_exact : ¬wpaParser.Exact [wpaIeId] ⟨0, 0⟩ ∧
    ¬wpaParser.Exact [wpaIeId, 0] ⟨0, 0⟩ ∧ ¬wpa2Parser.Exact [wpa2IeId] ⟨0, 0⟩ := by
  refine ⟨?_, ?_, ?_⟩ <;>
  · rintro ⟨_, _, parsed, _⟩
    cases parsed

section Parser

inductive ElemField
  | ssid | suppRates | fhParams | dsParams | cfParams | tim | ibssParams | challenge | erpInfo
  | extSuppRates | wpaIe | rsnIe | wme | wmeTspec | wpsIe | powerCap | suppChannels | mdie | ftie
  | timeoutInt | htCapabilities | htOperation | vendorHtCap
  deriving DecidableEq

abbrev ParsedElems := ElemField → Option (Nat × Nat)

inductive ParseRes
  | ok | unknown | failed
  deriving DecidableEq

def ouiMicrosoft : List U8 := [0x00, 0x50, 0xf2]

def ouiBroadcom : List U8 := [0x00, 0x90, 0x4c]

/-- `rtw_ieee802_11_parse_vendor_specific`. -/
def parseVendorField (body : List U8) : Option (Option ElemField) :=
  if body.length < 4 then some none
  else do
    let oui ← segment body 0 3
    let type ← body[3]?
    if oui = ouiMicrosoft then
      match type with
      | 1#8 => some (some .wpaIe)
      | 2#8 =>
          if body.length < 5 then some none
          else body[4]?.map fun subtype =>
            match subtype with
            | 0#8 | 1#8 => some .wme
            | 2#8 => some .wmeTspec
            | _ => none
      | 4#8 => some (some .wpsIe)
      | _ => some none
    else some (if oui = ouiBroadcom ∧ type = 0x33#8 then some .vendorHtCap else none)

def parseField (id : U8) (body : List U8) : Option (Option ElemField) :=
  match id with
  | 0#8 => some (some .ssid)
  | 1#8 => some (some .suppRates)
  | 2#8 => some (some .fhParams)
  | 3#8 => some (some .dsParams)
  | 4#8 => some (some .cfParams)
  | 5#8 => some (some .tim)
  | 6#8 => some (some .ibssParams)
  | 16#8 => some (some .challenge)
  | 33#8 => some (some .powerCap)
  | 36#8 => some (some .suppChannels)
  | 42#8 => some (some .erpInfo)
  | 45#8 => some (some .htCapabilities)
  | 48#8 => some (some .rsnIe)
  | 50#8 => some (some .extSuppRates)
  | 54#8 => some (some .mdie)
  | 55#8 => some (some .ftie)
  | 56#8 => some (some .timeoutInt)
  | 61#8 => some (some .htOperation)
  | 221#8 => parseVendorField body
  | _ => some none

def ParsedElems.store (elems : ParsedElems) (field : Option ElemField) (pos len : Nat) : ParsedElems :=
  match field with
  | none => elems
  | some field => Function.update elems field (some (pos, len))

def parseElemsLoop (start : List U8) (pos left unknown : Nat) (elems : ParsedElems) :
    Option (ParseRes × ParsedElems) :=
  if 2 ≤ left then do
    let id ← start[pos]?
    let elen ← start[pos + 1]?
    if left - 2 < elen.toNat then some (.failed, elems)
    else
      let body ← segment start (pos + 2) elen.toNat
      let field ← parseField id body
      parseElemsLoop start (pos + 2 + elen.toNat) (left - 2 - elen.toNat)
        (if field = none then unknown + 1 else unknown) (elems.store field (pos + 2) elen.toNat)
  else some (if left ≠ 0 then .failed else if unknown ≠ 0 then .unknown else .ok, elems)
termination_by left

/-- `rtw_ieee802_11_parse_elems`: `none` when it reads behind the list or an element. -/
def rtwParseElems (start : List U8) : Option (ParseRes × ParsedElems) :=
  parseElemsLoop start 0 start.length 0 fun _ => none

/-- What an element of a field is: its id, and how its body can begin. -/
def ElemField.heads : ElemField → U8 × List (List U8)
  | .ssid => (0#8, [[]])
  | .suppRates => (1#8, [[]])
  | .fhParams => (2#8, [[]])
  | .dsParams => (3#8, [[]])
  | .cfParams => (4#8, [[]])
  | .tim => (5#8, [[]])
  | .ibssParams => (6#8, [[]])
  | .challenge => (16#8, [[]])
  | .powerCap => (33#8, [[]])
  | .suppChannels => (36#8, [[]])
  | .erpInfo => (42#8, [[]])
  | .htCapabilities => (45#8, [[]])
  | .rsnIe => (48#8, [[]])
  | .extSuppRates => (50#8, [[]])
  | .mdie => (54#8, [[]])
  | .ftie => (55#8, [[]])
  | .timeoutInt => (56#8, [[]])
  | .htOperation => (61#8, [[]])
  | .wpaIe => (221#8, [ouiMicrosoft ++ [1#8]])
  | .wme => (221#8, [ouiMicrosoft ++ [2#8, 0#8], ouiMicrosoft ++ [2#8, 1#8]])
  | .wmeTspec => (221#8, [ouiMicrosoft ++ [2#8, 2#8]])
  | .wpsIe => (221#8, [ouiMicrosoft ++ [4#8]])
  | .vendorHtCap => (221#8, [ouiBroadcom ++ [0x33#8]])

def ElemField.Denotes (field : ElemField) (element : Element) : Prop :=
  element.id = field.heads.1 ∧ ∃ head ∈ field.heads.2, element.data.take head.length = head

/-- A field has the body of the last element that it denotes. -/
def ParsedElems.Latest (elements : List Element) (elems : ParsedElems) : Prop :=
  ∀ field place len, elems field = some (place, len) ↔ ∃ before element after,
    elements = before ++ element :: after ∧ field.Denotes element ∧ (∀ other ∈ after, ¬field.Denotes other) ∧
      place = (listBytes before).length + 2 ∧ len = element.data.length

theorem parseVendorField_eq (body : List U8) : ∃ answer, parseVendorField body = some answer ∧
    ∀ field : ElemField, answer = some field ↔
      field.heads.1 = 221#8 ∧ ∃ head ∈ field.heads.2, body.take head.length = head := by
  match body with
  | [] | [_] | [_, _] | [_, _, _] =>
    exact ⟨none, rfl, fun field => by cases field <;> simp [ElemField.heads, ouiMicrosoft, ouiBroadcom]⟩
  | o0 :: o1 :: o2 :: type :: rest =>
    have oui : segment (o0 :: o1 :: o2 :: type :: rest) 0 3 = some [o0, o1, o2] := by simp [Lib.segment]
    rw [parseVendorField, if_neg (by simp), oui]
    simp only [Option.bind_eq_bind, bind_some, List.getElem?_cons_succ, List.getElem?_cons_zero]
    by_cases microsoft : [o0, o1, o2] = ouiMicrosoft
    · rw [if_pos microsoft]
      cases microsoft
      split
      case h_2 =>
        cases rest with
        | nil => exact ⟨_, rfl, fun field => by cases field <;> simp [ElemField.heads, ouiMicrosoft, ouiBroadcom]⟩
        | cons subtype rest =>
          refine ⟨_, rfl, fun field => ?_⟩
          dsimp only
          split
          all_goals cases field <;> simp_all [ElemField.heads, ouiMicrosoft, ouiBroadcom]
      all_goals
        refine ⟨_, rfl, fun field => ?_⟩
        cases field <;> simp_all [ElemField.heads, ouiMicrosoft, ouiBroadcom]
    · rw [if_neg microsoft]
      refine ⟨_, rfl, fun field => ?_⟩
      simp only [ouiMicrosoft, List.cons.injEq, not_and] at microsoft
      cases field <;> simp_all [ElemField.heads, ouiMicrosoft, ouiBroadcom]

theorem parseField_eq (element : Element) : ∃ answer, parseField element.id element.data = some answer ∧
    ∀ field : ElemField, answer = some field ↔ field.Denotes element := by
  unfold parseField ElemField.Denotes
  split
  case h_19 vendor =>
    obtain ⟨answer, parsed, denotes⟩ := parseVendorField_eq element.data
    exact ⟨answer, parsed, fun field => by rw [denotes, vendor, eq_comm]⟩
  all_goals
    refine ⟨_, rfl, fun field => ?_⟩
    cases field <;> simp_all [ElemField.heads, ouiMicrosoft, ouiBroadcom]

variable {elements : List Element} {elems : ParsedElems}

theorem ParsedElems.Latest.store (latest : elems.Latest elements) {element : Element}
    {answer : Option ElemField} (denotes : ∀ field : ElemField, answer = some field ↔ field.Denotes element) :
    (elems.store answer ((listBytes elements).length + 2) element.data.length).Latest
      (elements ++ [element]) := by
  intro field place len
  have splits {before after : List Element} {last : Element}
      (split : elements ++ [element] = before ++ last :: after) :
      after = [] ∧ elements = before ∧ element = last ∨
        ∃ others, after = others ++ [element] ∧ elements = before ++ last :: others := by
    obtain rfl | ⟨others, other, rfl⟩ := after.eq_nil_or_concat
    · obtain ⟨rfl, same⟩ := List.append_inj' split rfl
      cases same
      exact .inl ⟨rfl, rfl, rfl⟩
    · rw [List.concat_eq_append, ← cons_append, ← append_assoc] at split
      obtain ⟨rfl, same⟩ := List.append_inj' split rfl
      cases same
      exact .inr ⟨others, List.concat_eq_append, rfl⟩
  by_cases here : field.Denotes element
  · obtain rfl := (denotes field).mpr here
    rw [ParsedElems.store, Function.update_self, Option.some.injEq, Prod.mk.injEq]
    constructor
    · rintro ⟨rfl, rfl⟩
      exact ⟨elements, element, [], rfl, here, nofun, rfl, rfl⟩
    · rintro ⟨before, last, after, split, _, notAfter, rfl, rfl⟩
      obtain ⟨_, rfl, rfl⟩ | ⟨others, rfl, _⟩ := splits split
      · exact ⟨rfl, rfl⟩
      · exact absurd here (notAfter _ (by simp))
  · have kept : elems.store answer ((listBytes elements).length + 2) element.data.length field =
        elems field := by
      cases answer with
      | none => rfl
      | some other =>
        exact Function.update_of_ne (fun same => here ((denotes field).mp (by rw [same]))) _ _
    rw [kept, latest]
    constructor
    · rintro ⟨before, last, after, rfl, is, notAfter, places⟩
      refine ⟨before, last, after ++ [element], by simp, is, fun other among => ?_, places⟩
      obtain among | among := List.mem_append.mp among
      · exact notAfter other among
      · rwa [List.mem_singleton.mp among]
    · rintro ⟨before, last, after, split, is, notAfter, places⟩
      obtain ⟨_, _, rfl⟩ | ⟨others, rfl, rfl⟩ := splits split
      · exact absurd is here
      · exact ⟨before, last, others, rfl, is, by simp_all, places⟩

def AllKnown (elements : List Element) : Prop :=
  ∀ element ∈ elements, ∃ field : ElemField, field.Denotes element

theorem parseElemsLoop_element (front tail : List U8) (element : Element) {field : Option ElemField}
    (parsed : parseField element.id element.data = some field) (unknown : Nat) (elems : ParsedElems) :
    parseElemsLoop (front ++ (element.bytes ++ tail)) front.length (element.bytes ++ tail).length
      unknown elems =
      parseElemsLoop (front ++ (element.bytes ++ tail)) (front.length + element.bytes.length)
        tail.length (if field = none then unknown + 1 else unknown)
        (elems.store field (front.length + 2) element.data.length) := by
  have body := segment_middle (front ++ [element.id, ofNat 8 element.data.length]) element.data tail
  have left : (element.bytes ++ tail).length = 2 + element.data.length + tail.length := by
    simp [Element.bytes]
    omega
  rw [left, parseElemsLoop, if_pos (by omega)]
  simp only [append_assoc, cons_append, List.nil_append, length_append,
    length_cons, List.length_nil, Nat.zero_add] at body
  simp [Element.bytes, body, parsed, Nat.mod_eq_of_lt element.short]
  rw [if_neg (by omega), show 2 + element.data.length + tail.length - 2 - element.data.length =
    tail.length by omega, Nat.add_assoc, Nat.add_comm 2]

theorem parseElemsLoop_spec {rest : List U8} (cut : Element.CutOff rest) (list passed : List Element)
    {unknown : Nat} (latest : elems.Latest passed) (known : unknown = 0 ↔ AllKnown passed) :
    ∃ result after,
      parseElemsLoop (listBytes (passed ++ list) ++ rest) (listBytes passed).length
        (listBytes list ++ rest).length unknown elems = some (result, after) ∧
      after.Latest (passed ++ list) ∧ (result = .failed ↔ rest ≠ []) ∧
      (result = .ok ↔ rest = [] ∧ AllKnown (passed ++ list)) := by
  induction list generalizing passed unknown elems with
  | nil =>
    rw [append_nil]
    change ∃ result after, parseElemsLoop _ _ rest.length _ _ = _ ∧ _
    match rest, cut with
    | [], _ | [id], _ =>
      rw [parseElemsLoop, if_neg (by simp)]
      refine ⟨_, _, rfl, latest, ?_, ?_⟩ <;> by_cases none_ : unknown = 0 <;> simp_all
    | id :: elen :: data, cut =>
      have short : data.length < elen.toNat := by
        by_contra enough
        obtain ⟨element, _, _, same⟩ := Element.exists_bytes id elen data (Nat.le_of_not_lt enough)
        exact cut element _ same
      rw [parseElemsLoop, if_pos (by simp)]
      simp [short]
      simp [latest]
  | cons element list ih =>
    obtain ⟨field, parsed, denotes⟩ := parseField_eq element
    have still : (if field = none then unknown + 1 else unknown) = 0 ↔ AllKnown (passed ++ [element]) := by
      rw [AllKnown, List.forall_mem_append, List.forall_mem_singleton, ← AllKnown, ← known]
      cases field with
      | none => simpa using fun _ field => (denotes field).not.mp nofun
      | some field => simpa using fun _ => ⟨field, (denotes field).mp rfl⟩
    have next := ih (passed ++ [element]) (latest.store denotes) still
    rw [append_assoc, List.singleton_append, listBytes_snoc_length] at next
    rw [listBytes_cons, append_assoc]
    simp only [listBytes_append passed (element :: list), listBytes_cons, append_assoc] at next ⊢
    rwa [parseElemsLoop_element _ _ element parsed]

theorem exists_listBytes (start : List U8) :
    ∃ list rest, start = listBytes list ++ rest ∧ Element.CutOff rest := by
  by_cases cut : Element.CutOff start
  · exact ⟨[], start, rfl, cut⟩
  · simp only [Element.CutOff, not_forall, not_not] at cut
    obtain ⟨element, behind, rfl⟩ := cut
    obtain ⟨list, rest, rfl, cut⟩ := exists_listBytes behind
    exact ⟨element :: list, rest, by rw [listBytes_cons, append_assoc], cut⟩
termination_by start.length
decreasing_by
  subst_vars
  simp [Element.bytes]
  omega

theorem eq_nil_of_whole {rest : List U8} (cut : Element.CutOff rest) (list whole : List Element)
    (same : listBytes list ++ rest = listBytes whole) : rest = [] := by
  induction list generalizing whole with
  | nil =>
    cases whole with
    | nil => exact same
    | cons element whole => exact absurd same (cut element (listBytes whole))
  | cons element list ih =>
    rw [listBytes_cons, append_assoc] at same
    cases whole with
    | nil => cases same
    | cons other whole => exact ih whole (Element.bytes_append_inj same).2

theorem rtwParseElems_exact (start : List U8) : ∃ list rest result elems,
    start = listBytes list ++ rest ∧ Element.CutOff rest ∧
    rtwParseElems start = some (result, elems) ∧ ParsedElems.Latest list elems ∧
    (result = .failed ↔ ¬∃ whole, start = listBytes whole) ∧
    (result = .ok ↔ (∃ whole, start = listBytes whole) ∧ AllKnown list) := by
  obtain ⟨list, rest, rfl, cut⟩ := exists_listBytes start
  have blank : ParsedElems.Latest [] fun _ => none :=
    fun _ _ _ => ⟨nofun, fun ⟨_, _, _, none_, _⟩ => by simp at none_⟩
  obtain ⟨result, elems, parsed, latest, failed, ok⟩ :=
    parseElemsLoop_spec cut list [] blank (iff_of_true rfl nofun)
  have whole : (∃ whole, listBytes list ++ rest = listBytes whole) ↔ rest = [] :=
    ⟨fun ⟨whole, same⟩ => eq_nil_of_whole cut list whole same, fun none_ => ⟨list, by simp [none_]⟩⟩
  rw [whole]
  exact ⟨list, rest, result, elems, rfl, cut, parsed, latest, failed, ok⟩

end Parser

end Floid.Wifi
