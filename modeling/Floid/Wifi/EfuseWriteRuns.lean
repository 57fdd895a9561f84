import Floid.Wifi.EfuseWriteRead

namespace Floid.Wifi

open Floid.Lib PgPacket

def lastOf (section_ word : Nat) : List PgPacket → Option U16
  | [] => none
  | packet :: before =>
      if packet.section_ = section_ ∧ packet.enables word = true then some (packet.word word)
      else lastOf section_ word before

theorem lastWord_append (section_ word : Nat) (later earlier : List PgPacket) :
    lastWord section_ word (later ++ earlier) =
      (lastOf section_ word later).getD (lastWord section_ word earlier) := by
  induction later with
  | nil => rfl
  | cons packet rest ih =>
    rw [List.cons_append, lastWord, lastOf]
    split
    · rfl
    · exact ih

section NewPacket

variable {offset wordEn : U8} (offset_lt : offset.toNat < efuseMaxSection)
  (wordEn_lt : wordEn.toNat < 15) (words : Nat → U16)

def PgPacket.appended : PgPacket :=
  .ofWords (newHeader offset wordEn) (newHeader_spec offset_lt wordEn_lt).2.2 words

theorem appended_section : (appended offset_lt wordEn_lt words).section_ = offset.toNat :=
  congrArg BitVec.toNat (newHeader_spec offset_lt wordEn_lt).1

variable {word : Nat}

theorem appended_enables (below : word < efuseMaxWordUnit) :
    (appended offset_lt wordEn_lt words).enables word = wordEnabled wordEn word := by
  rw [enables, decide_eq_true below, Bool.true_and]
  exact congrArg (wordEnabled · word) (newHeader_spec offset_lt wordEn_lt).2.1

theorem lastWord_appended (section_ : Nat) (below : word < efuseMaxWordUnit) (packets : List PgPacket) :
    lastWord section_ word (packets ++ [appended offset_lt wordEn_lt words]).reverse =
      if section_ = offset.toNat ∧ wordEnabled wordEn word = true then words word
      else lastWord section_ word packets.reverse := by
  rw [List.reverse_append, List.reverse_singleton, List.singleton_append, lastWord,
    appended_section, appended_enables _ _ _ below]
  by_cases enabled : section_ = offset.toNat ∧ wordEnabled wordEn word = true
  · rw [if_pos ⟨enabled.1.symm, enabled.2⟩, if_pos enabled]
    apply ofWords_word
    exact (appended_enables offset_lt wordEn_lt words below).trans enabled.2
  · rw [if_neg enabled, if_neg fun both => enabled ⟨both.1.symm, both.2⟩]

end NewPacket

theorem blank_word {packet : PgPacket} (blank : packet.programmed = false) (word : Nat) :
    packet.word word = 0xFFFF := by
  have byte (index : Nat) : packet.data.getD index 0xFF = 0xFF := by
    rcases Nat.lt_or_ge index packet.data.length with inside | outside
    · rw [getD_of_lt _ _ inside, blank_data blank inside]
    · rw [List.getD_eq_getElem?_getD, List.getElem?_eq_none outside, Option.getD_none]
  rw [PgPacket.word, packed, byte, byte]
  rfl

theorem lastWord_middle (section_ word : Nat) (earlier later : List PgPacket) (packet : PgPacket) :
    lastWord section_ word (earlier ++ packet :: later).reverse =
      (lastOf section_ word later.reverse).getD
        (if packet.section_ = section_ ∧ packet.enables word = true then packet.word word
          else lastWord section_ word earlier.reverse) := by
  rw [List.reverse_append, List.reverse_cons, List.append_assoc, lastWord_append, List.singleton_append, lastWord]

theorem lastWord_refill (packet : PgPacket) (words : Nat → U16)
    (section_ word : Nat) (earlier later : List PgPacket) :
    lastWord section_ word (earlier ++ packet.refill words :: later).reverse =
      if packet.section_ = section_ ∧ packet.enables word = true then
        (lastOf section_ word later.reverse).getD (words word)
      else lastWord section_ word (earlier ++ packet :: later).reverse := by
  have sameSection : (packet.refill words).section_ = packet.section_ := rfl
  have sameWords : (packet.refill words).enables word = packet.enables word := rfl
  rw [lastWord_middle, lastWord_middle, sameSection, sameWords]
  by_cases enabled : packet.section_ = section_ ∧ packet.enables word = true
  · rw [if_pos enabled, if_pos enabled]
    congr 1
    exact ofWords_word packet.header_ne words enabled.2
  · rw [if_neg enabled, if_neg enabled, if_neg enabled]

structure EfuseState where
  array : EfuseArray
  repeatTimes : Nat

def efuseMap (content : EfuseContent) (section_ word : Nat) : U16 := (efuseWalk content).efuseWord section_ word

/-- A call that returns true replaces exactly its words in the map, hits no programmed byte
and programs none of the protected tail. Without room it returns false, and a call that
does so changes nothing. -/
structure WriteSound (state : EfuseState) (call : EfuseWriteCall) (stored : Bool) (after : EfuseState) :
    Prop where
  replaced : stored = true → ∀ section_, ∀ word < efuseMaxWordUnit,
    efuseMap after.array.content section_ word =
      if section_ = call.offset.toNat ∧ wordEnabled call.wordEn word = true then call.words word
      else efuseMap state.array.content section_ word
  once : stored = true → after.array.refused = state.array.refused
  protected_ : stored = true → ∀ addr, efuseProtected ≤ addr →
    after.array.content addr = state.array.content addr
  noRoom : efuseProtected ≤ efuseGetCurrentSize state.array.content → stored = false
  unchanged : stored = false → after = state

def TailClear (packets : List PgPacket) (packet : PgPacket) : Prop :=
  ∀ index, efuseProtected ≤ (logBytes packets).length + 1 + index → packet.data.getD index 0xFF = 0xFF

def CommonReplaced (call : EfuseWriteCall) (packet : PgPacket) (later : List PgPacket) : Prop :=
  ∀ word < efuseMaxWordUnit, wordEnabled call.wordEn word = true → packet.enables word = true →
    ∀ value, lastOf call.offset.toNat word later.reverse = some value → value = call.words word

def RestPresent (call : EfuseWriteCall) (packet : PgPacket) (packets : List PgPacket) : Prop :=
  ∀ word < efuseMaxWordUnit, wordEnabled call.wordEn word = true → packet.enables word = false →
    lastWord call.offset.toNat word packets.reverse = call.words word

def WriteMeets (packets : List PgPacket) (repeatTimes : Nat) (call : EfuseWriteCall) : Prop :=
  efuseProtected ≤ (logBytes packets).length ∨
    match findReusable call.offset call.wordEn packets with
    | none => TailClear packets (.appended call.offset_lt call.wordEn_lt call.targetWords)
    | some (_, packet, later) =>
        CommonReplaced call packet later ∧
          -- the words that are left are appended, or cut off by the counter
          if all : restWordEn call.wordEn packet = 0x0F then True
          else if efuseRepeatThreshold < repeatTimes + 1 then RestPresent call packet packets
          else TailClear packets (.appended call.offset_lt (restWordEn_lt all) call.targetWords)

structure Logged (state : EfuseState) (packets : List PgPacket) : Prop where
  holds : state.array.content = contentOf packets
  fits : (logBytes packets).length ≤ efuseRealContentLen
  refused : state.array.refused = []

variable {packets : List PgPacket}

theorem efuseMap_eq (fits : (logBytes packets).length ≤ efuseRealContentLen)
    (section_ word : Nat) :
    efuseMap (contentOf packets) section_ word = lastWord section_ word packets.reverse := by
  rw [efuseMap, efuseWalk_word (contentOf_log fits)]

theorem logBytes_append_one (packets : List PgPacket) (packet : PgPacket) :
    (logBytes (packets ++ [packet])).length = (logBytes packets).length + packet.data.length + 1 := by
  rw [logBytes_append, List.length_append, logBytes_length_cons, size, show (logBytes []).length = 0 from rfl]
  omega

theorem tail_appended_iff (room : (logBytes packets).length < efuseProtected)
    (packet : PgPacket) :
    (∀ addr, efuseProtected ≤ addr → contentOf (packets ++ [packet]) addr = contentOf packets addr) ↔
      TailClear packets packet := by
  have byte (index : Nat) : contentOf (packets ++ [packet]) ((logBytes packets).length + 1 + index) =
      packet.data.getD index 0xFF := by
    rcases Nat.lt_or_ge index packet.data.length with inside | outside
    · rw [contentOf_middle _ _ _ inside, getD_of_lt _ _ inside]
    · rw [contentOf_end _ (by rw [logBytes_append_one]; omega), List.getD_eq_getElem?_getD,
        List.getElem?_eq_none outside, Option.getD_none]
  constructor
  · intro same index beyond
    rw [← byte, same _ beyond, contentOf_end _ (by omega)]
  · intro clear addr beyond
    obtain ⟨index, rfl⟩ : ∃ index, addr = (logBytes packets).length + 1 + index :=
      ⟨addr - (logBytes packets).length - 1, by omega⟩
    rw [byte, clear index beyond, contentOf_end _ (by omega)]

theorem contentOf_short {packets others : List PgPacket} {addr : Nat}
    (first : (logBytes packets).length < efuseProtected) (second : (logBytes others).length < efuseProtected)
    (beyond : efuseProtected ≤ addr) : contentOf packets addr = contentOf others addr := by
  rw [contentOf_end _ (by omega), contentOf_end _ (by omega)]

section Call

variable {packets : List PgPacket} (call : EfuseWriteCall)

variable {earlier later : List PgPacket} {packet : PgPacket}

theorem filled_word (reusable : packet.reusable call.offset call.wordEn = true) (section_ word : Nat) :
    lastWord section_ word (earlier ++ packet.refill call.targetWords :: later).reverse =
      if section_ = call.offset.toNat ∧ wordEnabled call.wordEn word = true ∧ packet.enables word = true then
        (lastOf section_ word later.reverse).getD (call.words word)
      else lastWord section_ word (earlier ++ packet :: later).reverse := by
  unfold PgPacket.reusable at reusable
  rw [Bool.and_eq_true, Bool.and_eq_true, decide_eq_true_iff, Bool.not_eq_true'] at reusable
  obtain ⟨⟨sameOffset, blank⟩, _⟩ := reusable
  have sameSection : packet.section_ = call.offset.toNat := congrArg BitVec.toNat sameOffset
  rw [lastWord_refill, sameSection]
  by_cases ours : section_ = call.offset.toNat
  · subst ours
    cases enabled : packet.enables word with
    | false => simp
    | true =>
      cases target : wordEnabled call.wordEn word with
      | true => simp [EfuseWriteCall.targetWords, target]
      | false =>
        -- a word the call does not have is filled in with 0xFFFF, as it was
        simp only [EfuseWriteCall.targetWords, target, true_and, if_true, Bool.false_eq_true, if_false, false_and]
        rw [lastWord_middle, if_pos ⟨sameSection, enabled⟩, blank_word blank]
  · rw [if_neg (fun both => ours both.1.symm), if_neg (fun all => ours all.1)]

variable {word : Nat}

theorem common_iff : (lastOf call.offset.toNat word later.reverse).getD (call.words word) = call.words word ↔
      ∀ value, lastOf call.offset.toNat word later.reverse = some value → value = call.words word := by
  cases lastOf call.offset.toNat word later.reverse with
  | none => simp
  | some value => simp

theorem wordEnabled_rest (packet : PgPacket) (below : word < efuseMaxWordUnit) :
    wordEnabled (restWordEn call.wordEn packet) word =
      (wordEnabled call.wordEn word && !packet.enables word) := by
  rw [restWordEn, wordEnabled_maskWhere _ below, enables, decide_eq_true below, Bool.true_and]

def MapReplaced (before after : List PgPacket) : Prop :=
  ∀ section_, ∀ word < efuseMaxWordUnit,
    lastWord section_ word after.reverse =
      if section_ = call.offset.toNat ∧ wordEnabled call.wordEn word = true then call.words word
      else lastWord section_ word before.reverse

theorem appendAll_replaced (before : List PgPacket) : MapReplaced call before
      (before ++ [appended call.offset_lt call.wordEn_lt call.targetWords]) := by
  intro section_ word below
  rw [lastWord_appended _ _ _ _ below]
  by_cases ours : section_ = call.offset.toNat ∧ wordEnabled call.wordEn word = true
  · rw [if_pos ours, if_pos ours, EfuseWriteCall.targetWords, if_pos ours.2]
  · rw [if_neg ours, if_neg ours]

theorem filled_iff (reusable : packet.reusable call.offset call.wordEn = true) :
    MapReplaced call (earlier ++ packet :: later) (earlier ++ packet.refill call.targetWords :: later) ↔
      CommonReplaced call packet later ∧ RestPresent call packet (earlier ++ packet :: later) := by
  constructor
  · intro replaced
    constructor
    · intro word below target enabled
      have ours := replaced call.offset.toNat word below
      rw [filled_word call reusable, if_pos ⟨rfl, target, enabled⟩, if_pos ⟨rfl, target⟩] at ours
      exact (common_iff call).mp ours
    · intro word below target enabled
      have ours := replaced call.offset.toNat word below
      rwa [filled_word call reusable, if_neg (by simp [enabled]), if_pos ⟨rfl, target⟩] at ours
  · rintro ⟨common, rest⟩ section_ word below
    rw [filled_word call reusable]
    by_cases ours : section_ = call.offset.toNat ∧ wordEnabled call.wordEn word = true
    · obtain ⟨rfl, target⟩ := ours
      have enabledTarget : call.offset.toNat = call.offset.toNat ∧ wordEnabled call.wordEn word = true :=
        ⟨rfl, target⟩
      rw [if_pos enabledTarget]
      cases enabled : packet.enables word with
      | true =>
        rw [if_pos ⟨rfl, target, rfl⟩]
        exact (common_iff call).mpr (common word below target enabled)
      | false =>
        rw [if_neg (by simp)]
        exact rest word below target enabled
    · rw [if_neg ours, if_neg fun all => ours ⟨all.1, all.2.1⟩]

theorem appendRest_iff (reusable : packet.reusable call.offset call.wordEn = true)
    (some_ : (restWordEn call.wordEn packet).toNat < 15) :
    MapReplaced call (earlier ++ packet :: later)
        (earlier ++ packet.refill call.targetWords :: later ++ [appended call.offset_lt some_ call.targetWords]) ↔
      CommonReplaced call packet later := by
  constructor
  · intro replaced word below target enabled
    have ours := replaced call.offset.toNat word below
    rw [lastWord_appended _ _ _ _ below, wordEnabled_rest call packet below,
      if_neg (by simp [enabled]), filled_word call reusable, if_pos ⟨rfl, target, enabled⟩,
      if_pos ⟨rfl, target⟩] at ours
    exact (common_iff call).mp ours
  · intro common section_ word below
    rw [lastWord_appended _ _ _ _ below, wordEnabled_rest call packet below, filled_word call reusable]
    by_cases ours : section_ = call.offset.toNat ∧ wordEnabled call.wordEn word = true
    · obtain ⟨rfl, target⟩ := ours
      have enabledTarget : call.offset.toNat = call.offset.toNat ∧ wordEnabled call.wordEn word = true :=
        ⟨rfl, target⟩
      rw [if_pos enabledTarget]
      cases enabled : packet.enables word with
      | true =>
        rw [if_neg (by simp), if_pos ⟨rfl, target, rfl⟩]
        exact (common_iff call).mpr (common word below target enabled)
      | false =>
        rw [if_pos ⟨rfl, by simp [target]⟩, EfuseWriteCall.targetWords, if_pos target]
    · rw [if_neg ours, if_neg (fun all => ours ⟨all.1, by simpa using (Bool.and_eq_true _ _ ▸ all.2).1⟩),
        if_neg fun all => ours ⟨all.1, all.2.1⟩]

theorem restPresent_of_all (all : restWordEn call.wordEn packet = 0x0F) : RestPresent call packet packets := by
  intro word below target enabled
  have bit := wordEnabled_rest call packet below
  rw [all, target, enabled] at bit
  change word < 4 at below
  have words : word = 0 ∨ word = 1 ∨ word = 2 ∨ word = 3 := by omega
  rcases words with rfl | rfl | rfl | rfl <;> exact absurd bit (by decide)

end Call

theorem appended_length {offset wordEn : U8} (offset_lt : offset.toNat < efuseMaxSection)
    (wordEn_lt : wordEn.toNat < 15) (words : Nat → U16) :
    (appended offset_lt wordEn_lt words).data.length ≤ 8 := by
  have length := (appended offset_lt wordEn_lt words).data_eq
  have few := (appended offset_lt wordEn_lt words).wordCnts_le
  omega

theorem writeSound_stored_iff {state : EfuseState} {packets after : List PgPacket} {counter : Nat}
    (logged : Logged state packets) (room : (logBytes packets).length < efuseProtected)
    (fits : (logBytes after).length ≤ efuseRealContentLen) (call : EfuseWriteCall) :
    WriteSound state call true ⟨{ state.array with content := contentOf after }, counter⟩ ↔
      MapReplaced call packets after ∧
        ∀ addr, efuseProtected ≤ addr → contentOf after addr = contentOf packets addr := by
  have map (section_ word : Nat) :
      efuseMap state.array.content section_ word = lastWord section_ word packets.reverse := by
    rw [logged.holds]
    exact efuseMap_eq logged.fits section_ word
  constructor
  · intro sound
    constructor
    · intro section_ word below
      have ours := sound.replaced rfl section_ word below
      rwa [map, efuseMap_eq fits] at ours
    · intro addr beyond
      have kept := sound.protected_ rfl addr beyond
      rwa [logged.holds] at kept
  · rintro ⟨replaced, kept⟩
    exact
      { replaced := fun _ section_ word below => by
          rw [map, efuseMap_eq fits]
          exact replaced section_ word below
        once := fun _ => rfl
        protected_ := fun _ addr beyond => by
          rw [logged.holds]
          exact kept addr beyond
        noRoom := fun full => by
          rw [logged.holds, efuseGetCurrentSize_eq logged.fits] at full
          omega
        unchanged := fun refused => by cases refused }

variable {state : EfuseState}

theorem efuseCall_iff (logged : Logged state packets)
    (call : EfuseWriteCall) (stale : List U8) (depth : Nat) :
    ∃ stored after next,
      efusePgPacketWrite stale (depth + 1) state.array state.repeatTimes call.offset call.wordEn call.data =
          some (stored, after.array, after.repeatTimes) ∧
        Logged after next ∧
        (WriteSound state call stored after ↔ WriteMeets packets state.repeatTimes call) := by
  have tail : efuseProtected = 497 := rfl
  have length : efuseRealContentLen = 512 := rfl
  rcases Nat.lt_or_ge (logBytes packets).length efuseProtected with room | full
  · have notFull : ¬efuseProtected ≤ (logBytes packets).length := Nat.not_le.mpr room
    have wrote := efusePgPacketWrite_eq logged.holds room call stale depth state.repeatTimes
    refine ⟨true, ⟨{ state.array with content := contentOf (writtenLog call packets state.repeatTimes).1 },
      (writtenLog call packets state.repeatTimes).2⟩, (writtenLog call packets state.repeatTimes).1, wrote, ?_⟩
    rw [WriteMeets, or_iff_right notFull, writtenLog]
    cases found : findReusable call.offset call.wordEn packets with
    | none =>
      have newLength := appended_length call.offset_lt call.wordEn_lt call.targetWords
      have fits : (logBytes (packets ++ [appended call.offset_lt call.wordEn_lt call.targetWords])).length ≤
            efuseRealContentLen := by
        rw [logBytes_append_one]
        omega
      refine ⟨⟨rfl, fits, logged.refused⟩, ?_⟩
      refine (writeSound_stored_iff logged room fits call).trans ?_
      rw [tail_appended_iff room]
      exact and_iff_right (appendAll_replaced call packets)
    | some parts =>
      obtain ⟨earlier, packet, later⟩ := parts
      obtain ⟨rfl, reusable, _⟩ := findReusable_some found
      have refilled := logBytes_refill earlier later packet call.targetWords
      have filledFits : (logBytes (earlier ++ packet.refill call.targetWords :: later)).length ≤
          efuseRealContentLen := by omega
      have kept : ∀ addr, efuseProtected ≤ addr →
          contentOf (earlier ++ packet.refill call.targetWords :: later) addr =
            contentOf (earlier ++ packet :: later) addr :=
        fun addr beyond => contentOf_short (by omega) room beyond
      have filledIff := (@writeSound_stored_iff _ _ _ (state.repeatTimes + 1) logged room
        filledFits call).trans ((and_iff_left kept).trans (filled_iff call reusable))
      dsimp only
      by_cases all : restWordEn call.wordEn packet = 0x0F
      · rw [dif_pos all, dif_pos all]
        refine ⟨⟨rfl, filledFits, logged.refused⟩, filledIff.trans ?_⟩
        rw [and_iff_left (restPresent_of_all call all), and_true]
      · rw [dif_neg all, dif_neg all]
        by_cases often : efuseRepeatThreshold < state.repeatTimes + 1
        · rw [if_pos often, if_pos often]
          exact ⟨⟨rfl, filledFits, logged.refused⟩, filledIff⟩
        · rw [if_neg often, if_neg often]
          have newLength := appended_length call.offset_lt (restWordEn_lt all) call.targetWords
          have fits : (logBytes (earlier ++ packet.refill call.targetWords :: later ++
              [appended call.offset_lt (restWordEn_lt all) call.targetWords])).length ≤
                efuseRealContentLen := by
            rw [logBytes_append_one]
            omega
          refine ⟨⟨rfl, fits, logged.refused⟩, ?_⟩
          refine (writeSound_stored_iff logged room fits call).trans ?_
          rw [appendRest_iff call reusable]
          refine and_congr_right fun _ => ?_
          have sameTail : TailClear (earlier ++ packet.refill call.targetWords :: later)
              (.appended call.offset_lt (restWordEn_lt all) call.targetWords) ↔
              TailClear (earlier ++ packet :: later)
                (.appended call.offset_lt (restWordEn_lt all) call.targetWords) := by
            unfold TailClear
            rw [refilled]
          rw [← sameTail, ← tail_appended_iff (by omega)]
          constructor
          · intro same addr beyond
            rw [same addr beyond, kept addr beyond]
          · intro same addr beyond
            rw [same addr beyond, kept addr beyond]
  · refine ⟨false, state, packets, efusePgPacketWrite_full logged.holds logged.fits full call stale depth
      state.repeatTimes, logged, iff_of_true ?_ (.inl full)⟩
    exact
      { replaced := fun stored => by cases stored
        once := fun stored => by cases stored
        protected_ := fun stored => by cases stored
        noRoom := fun _ => rfl
        unchanged := fun _ => rfl }

def efuseRuns : TransitionSystem EfuseState EfuseWriteCall where
  initial state := state = ⟨⟨fun _ => 0xFF, []⟩, 0⟩
  step before call after := ∃ stale depth stored,
    efusePgPacketWrite stale (depth + 1) before.array before.repeatTimes call.offset call.wordEn call.data =
      some (stored, after.array, after.repeatTimes)

theorem EfuseState.ext_parts {other : EfuseState} (array : state.array = other.array)
    (counter : state.repeatTimes = other.repeatTimes) : state = other := by
  cases state
  cases other
  cases array
  cases counter
  rfl

theorem reachable_logged (reached : efuseRuns.Reachable state) : ∃ packets, Logged state packets := by
  apply reached.invariant (fun state initially => ?_) (fun before call after inductive_ stepped => ?_)
  · rw [show state = ⟨⟨fun _ => 0xFF, []⟩, 0⟩ from initially]
    exact ⟨[], ⟨rfl, Nat.zero_le _, rfl⟩⟩
  · obtain ⟨packets, logged⟩ := inductive_
    obtain ⟨stale, depth, stored, wrote⟩ := stepped
    obtain ⟨stored_, after_, next, wrote_, nextLogged, _⟩ := efuseCall_iff logged call stale depth
    rw [wrote_] at wrote
    simp only [Option.some.injEq, Prod.mk.injEq] at wrote
    exact ⟨next, EfuseState.ext_parts wrote.2.1 wrote.2.2 ▸ nextLogged⟩

/-- In every reachable state the content is a log, and every call returns and keeps its
promise if and only if it meets the condition there. -/
theorem efuseWrite_iff {state : EfuseState} (reached : efuseRuns.Reachable state) : ∃ packets, Logged state packets ∧
      ∀ (call : EfuseWriteCall) (stale : List U8) (depth : Nat), ∃ stored after,
        efusePgPacketWrite stale (depth + 1) state.array state.repeatTimes call.offset call.wordEn
            call.data = some (stored, after.array, after.repeatTimes) ∧
          (WriteSound state call stored after ↔ WriteMeets packets state.repeatTimes call) := by
  obtain ⟨packets, logged⟩ := reachable_logged reached
  refine ⟨packets, logged, fun call stale depth => ?_⟩
  obtain ⟨stored, after, _, wrote, _, sound⟩ := efuseCall_iff logged call stale depth
  exact ⟨stored, after, wrote, sound⟩

theorem efuseWrite_iff_blank : ∃ packets, Logged ⟨⟨fun _ => 0xFF, []⟩, 0⟩ packets ∧
      ∀ (call : EfuseWriteCall) (stale : List U8) (depth : Nat), ∃ stored after,
        efusePgPacketWrite stale (depth + 1) ⟨fun _ => 0xFF, []⟩ 0 call.offset call.wordEn
            call.data = some (stored, after.array, after.repeatTimes) ∧
          (WriteSound ⟨⟨fun _ => 0xFF, []⟩, 0⟩ call stored after ↔ WriteMeets packets 0 call) :=
  efuseWrite_iff (.initial rfl)

def sectionCall (wordEn first second third fourth : U8) (mask : wordEn.toNat < 15) : EfuseWriteCall :=
  ⟨0, wordEn, [first, second, third, fourth, 0xFF, 0xFF, 0xFF, 0xFF], by decide, mask, rfl⟩

theorem reachable_writtenLog {repeatTimes : Nat}
    (reached : efuseRuns.Reachable ⟨⟨contentOf packets, []⟩, repeatTimes⟩)
    (room : (logBytes packets).length < efuseProtected) (call : EfuseWriteCall) :
    efuseRuns.Reachable ⟨⟨contentOf (writtenLog call packets repeatTimes).1, []⟩,
      (writtenLog call packets repeatTimes).2⟩ :=
  reached.next call ⟨[], 0, true, efusePgPacketWrite_eq rfl room call [] 0 repeatTimes⟩

def firstLog : List PgPacket × Nat := writtenLog (sectionCall 0x0E 0xFF 0xFF 0xFF 0xFF (by decide)) [] 0

def secondLog : List PgPacket × Nat :=
  writtenLog (sectionCall 0x0D 0xFF 0xFF 0xFF 0xFF (by decide)) firstLog.1 firstLog.2

def thirdLog : List PgPacket × Nat :=
  writtenLog (sectionCall 0x0C 0x11 0x22 0x33 0x44 (by decide)) secondLog.1 secondLog.2

/-- The third call fills in the first header and appends the second word at the end. The
second header is still without data then; the next call fills it in, and is not seen. -/
theorem secondWord_unseen :
    ∃ state, efuseRuns.Reachable state ∧ ∃ (call : EfuseWriteCall) (stored : Bool) (after : EfuseState),
      efusePgPacketWrite [] 1 state.array state.repeatTimes call.offset call.wordEn call.data =
          some (stored, after.array, after.repeatTimes) ∧
        ¬WriteSound state call stored after := by
  have start : efuseRuns.Reachable ⟨⟨contentOf [], []⟩, 0⟩ := .initial rfl
  have first : efuseRuns.Reachable ⟨⟨contentOf firstLog.1, []⟩, firstLog.2⟩ :=
    reachable_writtenLog start (by decide) _
  have second : efuseRuns.Reachable ⟨⟨contentOf secondLog.1, []⟩, secondLog.2⟩ :=
    reachable_writtenLog first (by decide) _
  have third : efuseRuns.Reachable ⟨⟨contentOf thirdLog.1, []⟩, thirdLog.2⟩ :=
    reachable_writtenLog second (by decide) _
  let call : EfuseWriteCall := sectionCall 0x0D 0xFF 0xFF 0x55 0x66 (by decide)
  refine ⟨_, third, call, true, ⟨⟨contentOf (writtenLog call thirdLog.1 thirdLog.2).1, []⟩,
    (writtenLog call thirdLog.1 thirdLog.2).2⟩, efusePgPacketWrite_eq rfl (by decide) call [] 0 _, ?_⟩
  intro sound
  have replaced := sound.replaced rfl 0 1 (by decide)
  rw [efuseMap_eq (by decide)] at replaced
  exact absurd replaced (by decide)

end Floid.Wifi
