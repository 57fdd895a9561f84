import Floid.Wifi.ApAuth

namespace Floid.Wifi

open Floid.Osk AuthRecord

variable {Station : Type*} [DecidableEq Station]

namespace MgntFrame

variable (frame : MgntFrame Station)

def ivRoom : Nat := if frame.privacy then 4 else 0

def algorithm : Nat := frame.le16 (wlanHdrA3Len + frame.ivRoom)

def sequence : Nat := frame.le16 (wlanHdrA3Len + frame.ivRoom + 2)

def Carries (challenge : ChallengeText) : Prop :=
  ∃ p, frame.challengeFrom frame.ivRoom = some p ∧ (frame.memory (p + 1)).toNat = 128 ∧
    p + 2 + 128 ≤ frame.len ∧ frame.challengeBytes p = challenge

end MgntFrame

namespace AuthAp

variable (ap : AuthAp Station)

def OpenAllowed : Prop := ap.dot11AuthAlgrthm = .open ∨ ap.dot11AuthAlgrthm = .auto

def SharedAllowed : Prop :=
  ap.dot11AuthAlgrthm = .shared ∨
    ap.dot11AuthAlgrthm = .auto ∧ (ap.dot11PrivacyAlgrthm = wep40 ∨ ap.dot11PrivacyAlgrthm = wep104)

def authenticated (sa : Station) : Bool := (ap.stainfo sa).any AuthRecord.success

end AuthAp

abbrev Exchanges (Station : Type*) := Station → Option ChallengeText

def FirstFrame (ap : AuthAp Station) (frame : MgntFrame Station) : Prop :=
  frame.sequence = 1 ∧ (frame.algorithm = 0 ∧ ap.OpenAllowed ∨ frame.algorithm = 1 ∧ ap.SharedAllowed)

def ThirdFrame (ap : AuthAp Station) (exchanges : Exchanges Station) (frame : MgntFrame Station) : Prop :=
  frame.algorithm = 1 ∧ frame.sequence = 3 ∧ ap.SharedAllowed ∧
    ∃ challenge, exchanges frame.sa = some challenge ∧ frame.Carries challenge

def Answered (answer : Option (AuthAnswer Station)) (sa : Station) : Prop :=
  ∃ algorithm seq challenge, answer = some (.toStation sa algorithm seq statsSuccessful challenge)

structure FrameProper (ap : AuthAp Station) (exchanges : Exchanges Station) (frame : MgntFrame Station)
    (answer : Option (AuthAnswer Station)) (after : AuthAp Station) : Prop where
  sound : ∀ sa, ap.authenticated sa = false → after.authenticated sa = true →
    sa = frame.sa ∧ (frame.algorithm = 0 ∧ frame.sequence = 1 ∧ ap.OpenAllowed ∨ ThirdFrame ap exchanges frame)
  firstAnswered : FirstFrame ap frame → Answered answer frame.sa
  thirdAnswered : ThirdFrame ap exchanges frame → Answered answer frame.sa

def nextExchanges (exchanges : Exchanges Station) (frame : MgntFrame Station)
    (answer : Option (AuthAnswer Station)) : Exchanges Station :=
  Function.update exchanges frame.sa
    (if frame.algorithm = 1 ∧ frame.sequence = 1 then
      match answer with
      | some (.toStation _ _ _ _ challenge) => challenge
      | _ => none
    else none)

structure AuthEvent (Station : Type*) where
  frame : MgntFrame Station
  staAllocated : Bool
  xmitAllocated : Bool

def AuthEvent.answer (event : AuthEvent Station) (ap : AuthAp Station) : Option (AuthAnswer Station) :=
  (onAuth ap event.frame event.staAllocated event.xmitAllocated).1

def AuthEvent.after (event : AuthEvent Station) (ap : AuthAp Station) : AuthAp Station :=
  (onAuth ap event.frame event.staAllocated event.xmitAllocated).2

def RunProper (ap : AuthAp Station) (exchanges : Exchanges Station) : List (AuthEvent Station) → Prop
  | [] => True
  | event :: rest =>
      FrameProper ap exchanges event.frame (event.answer ap) (event.after ap) ∧
        RunProper (event.after ap) (nextExchanges exchanges event.frame (event.answer ap)) rest

def ReadAsSent (frame : MgntFrame Station) : Prop :=
  frame.le16 wlanHdrA3Len = frame.algorithm ∧ frame.le16 (wlanHdrA3Len + 2) = frame.sequence

structure FrameMeets (ap : AuthAp Station) (exchanges : Exchanges Station) (event : AuthEvent Station) :
    Prop where
  first : FirstFrame ap event.frame → ReadAsSent event.frame ∧ event.xmitAllocated = true ∧
    match ap.stainfo event.frame.sa with
    | some pstat => pstat.authSeq = 0
    | none => event.staAllocated = true
  third : ThirdFrame ap exchanges event.frame → ReadAsSent event.frame ∧ event.xmitAllocated = true ∧
    event.frame.challengeFrom 4 = event.frame.challengeFrom event.frame.ivRoom ∧
    ∃ pstat, ap.stainfo event.frame.sa = some pstat ∧ pstat.authSeq = 2
  readFirst : ap.dot11AuthAlgrthm = .open → ap.authenticated event.frame.sa = false →
    event.frame.le16 wlanHdrA3Len = 0 → event.frame.le16 (wlanHdrA3Len + 2) = 1 →
    event.frame.algorithm = 0 ∧ event.frame.sequence = 1
  /-- What is read as a third frame with the text of a waiting record is read in its place,
  is allowed, ends an exchange, and has an element of the full length inside it. -/
  readThird : ∀ pstat p, ap.stainfo event.frame.sa = some pstat → pstat.authSeq = 2 →
    pstat.success = false → event.frame.le16 (wlanHdrA3Len + 2) = 3 →
    ap.dot11AuthAlgrthm ≠ .open →
    event.frame.challengeFrom 4 = some p → event.frame.memory (p + 1) ≠ 0 →
    event.frame.challengeBytes p = pstat.chgTxt →
      ReadAsSent event.frame ∧ event.frame.challengeFrom event.frame.ivRoom = some p ∧
      event.frame.le16 wlanHdrA3Len = 1 ∧ ap.SharedAllowed ∧ exchanges event.frame.sa ≠ none ∧
      (event.frame.memory (p + 1)).toNat = 128 ∧ p + 2 + 128 ≤ event.frame.len

def RunMeets (ap : AuthAp Station) (exchanges : Exchanges Station) : List (AuthEvent Station) → Prop
  | [] => True
  | event :: rest =>
      FrameMeets ap exchanges event ∧
        RunMeets (event.after ap) (nextExchanges exchanges event.frame (event.answer ap)) rest

theorem decide_and_twoPow (state : U32) {bit : Nat} (inside : bit < 32) :
    decide (state &&& BitVec.twoPow 32 bit ≠ 0) = state.getLsbD bit := by
  have one : BitVec.twoPow 32 bit ≠ 0 := by
    intro zero
    have set := congrArg (fun word => BitVec.getLsbD word bit) zero
    simp [inside] at set
  rw [BitVec.and_twoPow]
  cases state.getLsbD bit with
  | false => rfl
  | true => exact decide_eq_true one

theorem AuthRecord.success_eq (record : AuthRecord) : record.success = record.state.getLsbD 10 := by
  rw [← decide_and_twoPow record.state (by decide), success,
    show wifiFwAuthSuccess = BitVec.twoPow 32 10 by decide]

variable {algorithm : Nat} {pstat psta : AuthRecord} {allocated : Bool} {sa hwaddr : Station}
    {challenge : ChallengeText} {exchanges : Exchanges Station} {event : AuthEvent Station}

omit [DecidableEq Station] in
theorem AuthRecord.advance_ok {next : AuthRecord} {frame : MgntFrame Station} {authMode seq assocTo : Nat}
    (advanced : pstat.advance frame authMode algorithm seq assocTo = .ok next) :
    pstat.authSeq + 1 = seq ∧ next.chgTxt = pstat.chgTxt ∧
      (algorithm = 0 ∧ (authMode = 0 ∨ authMode = 2) ∧ seq = 1 ∧ next.success = true ∨
        ¬(algorithm = 0 ∧ (authMode = 0 ∨ authMode = 2)) ∧ seq = 1 ∧ next.success = pstat.success ∨
        ¬(algorithm = 0 ∧ (authMode = 0 ∨ authMode = 2)) ∧ seq = 3 ∧
          ∃ p, frame.challengeFrom 4 = some p ∧ frame.memory (p + 1) ≠ 0 ∧
            frame.challengeBytes p = pstat.chgTxt) := by
  unfold advance at advanced
  split at advanced
  · cases advanced
  · rename_i inOrder
    have expected : pstat.authSeq + 1 = seq := Decidable.not_not.mp inOrder
    refine ⟨expected, ?_⟩
    split at advanced
    · rename_i open_
      split at advanced
      · rename_i first
        cases advanced
        refine ⟨rfl, .inl ⟨open_.1, open_.2, first, ?_⟩⟩
        rw [success_eq]
        simp [wifiFwAuthSuccess]
      · cases advanced
    · rename_i shared
      split at advanced
      · rename_i first
        cases advanced
        refine ⟨rfl, .inr (.inl ⟨shared, first, ?_⟩)⟩
        rw [success_eq, success_eq]
        simp [wifiFwAuthNull, wifiFwAuthState]
      · split at advanced
        · rename_i third
          cases found : frame.challengeFrom 4 with
          | none =>
            rw [found] at advanced
            cases advanced
          | some p =>
            rw [found] at advanced
            dsimp only at advanced
            split at advanced
            · cases advanced
            · rename_i some_
              split at advanced
              · rename_i same
                cases advanced
                exact ⟨rfl, .inr (.inr ⟨shared, third, p, rfl, some_, same⟩)⟩
              · cases advanced
        · cases advanced

theorem AuthAp.takeRecord_some {ap next : AuthAp Station} (taken : ap.takeRecord sa allocated = some (pstat, next)) :
    (ap.stainfo sa = some pstat ∨ ap.stainfo sa = none ∧ allocated = true ∧ pstat = .fresh) ∧
      next.stainfo = ap.stainfo ∧ next.apState = ap.apState ∧
      next.dot11AuthAlgrthm = ap.dot11AuthAlgrthm ∧ next.dot11PrivacyAlgrthm = ap.dot11PrivacyAlgrthm := by
  unfold takeRecord at taken
  cases found : ap.stainfo sa with
  | some record =>
    rw [found] at taken
    cases taken
    exact ⟨.inl rfl, rfl, rfl, rfl, rfl⟩
  | none =>
    rw [found] at taken
    dsimp only at taken
    split at taken
    · rename_i room
      cases taken
      exact ⟨.inr ⟨rfl, room, rfl⟩, rfl, rfl, rfl, rfl⟩
    · cases taken

def AuthRecord.timed (pstat : AuthRecord) (authTo : Nat) : AuthRecord :=
  if pstat.authSeq = 0 then { pstat with expireTo := authTo } else pstat

@[simp] theorem AuthRecord.timed_authSeq (pstat : AuthRecord) (authTo : Nat) :
    (pstat.timed authTo).authSeq = pstat.authSeq := by
  unfold timed
  split <;> rfl

@[simp] theorem AuthRecord.timed_success (pstat : AuthRecord) (authTo : Nat) :
    (pstat.timed authTo).success = pstat.success := by
  unfold timed
  split <;> rfl

@[simp] theorem AuthRecord.timed_chgTxt (pstat : AuthRecord) (authTo : Nat) :
    (pstat.timed authTo).chgTxt = pstat.chgTxt := by
  unfold timed
  split <;> rfl

inductive OnAuthResult (ap : AuthAp Station) (event : AuthEvent Station) :
    Option (AuthAnswer Station) → AuthAp Station → Prop where
  | refused {answer : Option (AuthAnswer Station)} (status : Nat)
      (reason : ap.apState = false ∨ (0 < event.frame.le16 wlanHdrA3Len ∧ ap.authMode = 0 ∨
        event.frame.le16 wlanHdrA3Len = 0 ∧ ap.authMode = 1) ∨
        ap.takeRecord event.frame.sa event.staAllocated = none)
      (answered : answer = none ∨ answer = some (.asClient status)) :
      OnAuthResult ap event answer ap
  | failed {pstat : AuthRecord} {next : AuthAp Station} {status : Nat}
      (taken : ap.takeRecord event.frame.sa event.staAllocated = some (pstat, next))
      (rejected : (pstat.timed next.authTo).advance event.frame ap.authMode
        (event.frame.le16 wlanHdrA3Len) (event.frame.le16 (wlanHdrA3Len + 2)) next.assocTo = .error status) :
      OnAuthResult ap event (issueAuth event.frame.sa failedStat status event.xmitAllocated)
        (next.store event.frame.sa (pstat.timed next.authTo))
  | advanced {pstat done : AuthRecord} {next : AuthAp Station}
      (allowed : ¬(0 < event.frame.le16 wlanHdrA3Len ∧ ap.authMode = 0 ∨
        event.frame.le16 wlanHdrA3Len = 0 ∧ ap.authMode = 1))
      (taken : ap.takeRecord event.frame.sa event.staAllocated = some (pstat, next))
      (accepted : (pstat.timed next.authTo).advance event.frame ap.authMode
        (event.frame.le16 wlanHdrA3Len) (event.frame.le16 (wlanHdrA3Len + 2)) next.assocTo = .ok done) :
      OnAuthResult ap event
        (issueAuth event.frame.sa { done with authSeq := event.frame.le16 (wlanHdrA3Len + 2) + 1 }
          statsSuccessful event.xmitAllocated)
        (next.store event.frame.sa (if done.success then { done with authSeq := 0 }
            else { done with authSeq := event.frame.le16 (wlanHdrA3Len + 2) + 1 }))

theorem onAuth_result (ap : AuthAp Station) (event : AuthEvent Station) :
    OnAuthResult ap event (event.answer ap) (event.after ap) := by
  have asClient (status : Nat) :
      (if event.xmitAllocated then some (.asClient status) else none : Option (AuthAnswer Station)) = none ∨
        (if event.xmitAllocated then some (.asClient status) else none : Option (AuthAnswer Station)) =
          some (.asClient status) := by
    cases event.xmitAllocated
    · exact .inl rfl
    · exact .inr rfl
  unfold AuthEvent.answer AuthEvent.after onAuth
  by_cases notAp : ap.apState = false
  · rw [if_pos notAp]
    exact .refused 0 (.inl notAp) (.inl rfl)
  · rw [if_neg notAp]
    dsimp only
    by_cases badAlgorithm : 0 < event.frame.le16 wlanHdrA3Len ∧ ap.authMode = 0 ∨
        event.frame.le16 wlanHdrA3Len = 0 ∧ ap.authMode = 1
    · rw [if_pos badAlgorithm]
      exact .refused _ (.inr (.inl badAlgorithm)) (asClient _)
    · rw [if_neg badAlgorithm]
      cases taken : ap.takeRecord event.frame.sa event.staAllocated with
      | none => exact .refused _ (.inr (.inr taken)) (asClient _)
      | some parts =>
        obtain ⟨pstat, next⟩ := parts
        dsimp only
        have mode : next.authMode = ap.authMode := by
          obtain ⟨_, _, _, algorithm, privacy⟩ := AuthAp.takeRecord_some taken
          unfold AuthAp.authMode
          rw [algorithm, privacy]
        rw [mode]
        rw [show (if pstat.authSeq = 0 then { pstat with expireTo := next.authTo } else pstat) =
          pstat.timed next.authTo from rfl]
        cases result : (pstat.timed next.authTo).advance event.frame ap.authMode
            (event.frame.le16 wlanHdrA3Len) (event.frame.le16 (wlanHdrA3Len + 2)) next.assocTo with
        | error status => exact .failed taken result
        | ok done => exact .advanced badAlgorithm taken result

structure Serving (ap : AuthAp Station) : Prop where
  apState : ap.apState = true
  setting : ap.dot11AuthAlgrthm ≠ .ieee8021X

def ExchangesKnown (ap : AuthAp Station) (exchanges : Exchanges Station) : Prop :=
  ∀ sa challenge, exchanges sa = some challenge → ∃ pstat, ap.stainfo sa = some pstat ∧ pstat.chgTxt = challenge

variable {ap : AuthAp Station}

omit [DecidableEq Station] in
theorem AuthAp.authMode_eq (serving : Serving ap) :
    ap.authMode = ap.dot11AuthAlgrthm.toNat := by
  have setting := serving.setting
  unfold authMode
  cases algorithm : ap.dot11AuthAlgrthm with
  | ieee8021X => exact absurd algorithm setting
  | «open» => rfl
  | shared => rfl
  | auto => rfl

omit [DecidableEq Station] in
theorem AuthAp.open_of_authMode (serving : Serving ap)
    (mode : ap.authMode = 0 ∨ ap.authMode = 2) : ap.dot11AuthAlgrthm = .open := by
  rw [authMode_eq serving] at mode
  cases algorithm : ap.dot11AuthAlgrthm with
  | «open» => rfl
  | shared => simp [algorithm, AuthAlgrthm.toNat] at mode
  | ieee8021X => exact absurd algorithm serving.setting
  | auto => simp [algorithm, AuthAlgrthm.toNat] at mode

section

variable {ap : AuthAp Station}

@[simp] theorem AuthAp.store_self (sa : Station) (pstat : AuthRecord) :
    (ap.store sa pstat).stainfo sa = some pstat := Function.update_self ..

variable {sa : Station} {pstat : AuthRecord}

theorem AuthAp.store_of_ne {other : Station} (pstat : AuthRecord) (different : other ≠ sa) :
    (ap.store sa pstat).stainfo other = ap.stainfo other := Function.update_of_ne different ..

omit [DecidableEq Station] in
theorem AuthAp.authenticated_eq (found : ap.stainfo sa = some pstat) : ap.authenticated sa = pstat.success := by
  unfold authenticated
  rw [found]
  rfl

theorem AuthAp.takeRecord_success {next : AuthAp Station} (taken : ap.takeRecord sa allocated = some (pstat, next)) :
    pstat.success = ap.authenticated sa := by
  rcases (takeRecord_some taken).1 with found | ⟨missing, _, fresh⟩
  · exact (authenticated_eq found).symm
  · unfold authenticated
    rw [missing, fresh]
    decide

end

theorem onAuth_other (ap : AuthAp Station) (event : AuthEvent Station)
    (different : sa ≠ event.frame.sa) : (event.after ap).stainfo sa = ap.stainfo sa := by
  have result := onAuth_result ap event
  generalize event.answer ap = answer, event.after ap = after at result ⊢
  cases result with
  | refused => rfl
  | failed taken =>
    rw [AuthAp.store_of_ne _ different, (AuthAp.takeRecord_some taken).2.1]
  | advanced _ taken =>
    rw [AuthAp.store_of_ne _ different, (AuthAp.takeRecord_some taken).2.1]

theorem onAuth_settings (ap : AuthAp Station) (event : AuthEvent Station) :
    (event.after ap).apState = ap.apState ∧ (event.after ap).dot11AuthAlgrthm = ap.dot11AuthAlgrthm := by
  have result := onAuth_result ap event
  generalize event.answer ap = answer, event.after ap = after at result ⊢
  cases result with
  | refused => exact ⟨rfl, rfl⟩
  | failed taken =>
    obtain ⟨_, _, state, algorithm, _⟩ := AuthAp.takeRecord_some taken
    exact ⟨state, algorithm⟩
  | advanced _ taken =>
    obtain ⟨_, _, state, algorithm, _⟩ := AuthAp.takeRecord_some taken
    exact ⟨state, algorithm⟩

theorem Serving.after (serving : Serving ap) (event : AuthEvent Station) :
    Serving (event.after ap) where
  apState := (onAuth_settings ap event).1.trans serving.apState
  setting := (onAuth_settings ap event).2 ▸ serving.setting

omit [DecidableEq Station] in
theorem issueAuth_challenge {status seq : Nat} {answeredStatus : Nat}
    (issued : issueAuth hwaddr psta status allocated =
      some (.toStation sa algorithm seq answeredStatus (some challenge))) :
    psta.chgTxt = challenge ∧ psta.state &&& wifiFwAuthState ≠ 0 := by
  unfold issueAuth at issued
  cases allocated with
  | false => simp at issued
  | true =>
    simp only [if_true, Option.some.injEq, AuthAnswer.toStation.injEq] at issued
    obtain ⟨_, _, _, _, text⟩ := issued
    by_cases carries : psta.authSeq = 2 ∧ psta.state &&& wifiFwAuthState ≠ 0 ∧
        (if status ≠ statsSuccessful then 0 else psta.authalg) ≠ 0
    · rw [if_pos carries] at text
      exact ⟨Option.some.inj text, carries.2.1⟩
    · rw [if_neg carries] at text
      cases text

theorem nextExchanges_self {frame : MgntFrame Station} {answer : Option (AuthAnswer Station)}
    (sent : nextExchanges exchanges frame answer frame.sa = some challenge) :
    ∃ sa algorithm seq status, answer = some (.toStation sa algorithm seq status (some challenge)) := by
  unfold nextExchanges at sent
  rw [Function.update_self] at sent
  split at sent
  · split at sent
    · rename_i sa algorithm seq status text
      exact ⟨sa, algorithm, seq, status, by rw [sent]⟩
    · cases sent
  · cases sent

theorem ExchangesKnown.after (known : ExchangesKnown ap exchanges) (event : AuthEvent Station) :
    ExchangesKnown (event.after ap) (nextExchanges exchanges event.frame (event.answer ap)) := by
  intro sa challenge sent
  by_cases same : sa = event.frame.sa
  · subst same
    obtain ⟨_, _, _, _, answered⟩ := nextExchanges_self sent
    have result := onAuth_result ap event
    generalize event.answer ap = answer, event.after ap = after at answered result ⊢
    cases result with
    | refused status _ refusal =>
      rw [answered] at refusal
      rcases refusal with none_ | client
      · cases none_
      · cases client
    | failed taken rejected =>
      -- the static record has no state, so no challenge goes with a failure
      exact absurd (by decide) (issueAuth_challenge answered).2
    | @advanced pstat done next allowed taken accepted =>
      refine ⟨_, AuthAp.store_self _ _, ?_⟩
      have text := (issueAuth_challenge answered).1
      split
      · exact text
      · exact text
  · unfold nextExchanges at sent
    rw [Function.update_of_ne same] at sent
    rw [onAuth_other ap event same]
    exact known sa challenge sent

theorem onAuth_sound
    (serving : Serving ap) (known : ExchangesKnown ap exchanges) (meets : FrameMeets ap exchanges event)
    (before : ap.authenticated sa = false)
    (acquired : (event.after ap).authenticated sa = true) :
    sa = event.frame.sa ∧
      (event.frame.algorithm = 0 ∧ event.frame.sequence = 1 ∧ ap.OpenAllowed ∨
        ThirdFrame ap exchanges event.frame) := by
  by_cases same : sa = event.frame.sa
  · subst same
    refine ⟨rfl, ?_⟩
    have result := onAuth_result ap event
    generalize event.answer ap = answer, event.after ap = after at acquired result
    cases result with
    | refused =>
      rw [before] at acquired
      cases acquired
    | failed taken =>
      rw [AuthAp.authenticated_eq (AuthAp.store_self _ _), timed_success,
        AuthAp.takeRecord_success taken, before] at acquired
      cases acquired
    | @advanced pstat done next allowed taken accepted =>
      rw [AuthAp.authenticated_eq (AuthAp.store_self _ _)] at acquired
      have success : done.success = true := by
        cases done_ : done.success with
        | true => rfl
        | false =>
          rw [if_neg (by rw [done_]; decide)] at acquired
          exact done_.symm.trans acquired
      obtain ⟨inOrder, _, ways⟩ := advance_ok accepted
      rw [timed_authSeq] at inOrder
      rw [timed_success, timed_chgTxt] at ways
      have kept := AuthAp.takeRecord_success taken
      rcases ways with ⟨open_, mode, first, _⟩ | ⟨_, _, unchanged⟩ | ⟨shared, third, p, found, some_, text⟩
      · have setting := AuthAp.open_of_authMode serving mode
        obtain ⟨algorithm, sequence⟩ := meets.readFirst setting before open_ first
        exact .inl ⟨algorithm, sequence, .inl setting⟩
      · rw [unchanged, kept, before] at success
        cases success
      · right
        have waiting : pstat.authSeq = 2 := by omega
        have here : ap.stainfo event.frame.sa = some pstat := by
          rcases (AuthAp.takeRecord_some taken).1 with here | ⟨_, _, fresh⟩
          · exact here
          · rw [fresh] at waiting
            cases waiting
        have setting : ap.dot11AuthAlgrthm ≠ .open := by
          intro setting
          have mode : ap.authMode = 0 := by rw [AuthAp.authMode_eq serving, setting]; rfl
          rcases Nat.eq_zero_or_pos (event.frame.le16 wlanHdrA3Len) with zero | positive
          · exact shared ⟨zero, .inl mode⟩
          · exact allowed (.inl ⟨positive, mode⟩)
        obtain ⟨read, place, algorithm, sharedAllowed, exchange, long, inside⟩ :=
          meets.readThird pstat p here waiting (kept.trans before) third setting found some_ text
        obtain ⟨challenge, sent⟩ := Option.ne_none_iff_exists'.mp exchange
        obtain ⟨record, recorded, same⟩ := known _ _ sent
        obtain rfl : pstat = record := Option.some.inj (here.symm.trans recorded)
        exact ⟨read.1.symm.trans algorithm, read.2.symm.trans third, sharedAllowed, challenge, sent,
          p, place, long, inside, text.trans same⟩
  · unfold AuthAp.authenticated at before acquired
    rw [onAuth_other ap event same, before] at acquired
    cases acquired

section

omit [DecidableEq Station]

theorem AuthRecord.advance_first (frame : MgntFrame Station)
    (authMode algorithm assocTo : Nat) (idle : pstat.authSeq = 0) :
    ∃ next, pstat.advance frame authMode algorithm 1 assocTo = .ok next := by
  unfold advance
  rw [if_neg (by rw [idle]; decide)]
  by_cases open_ : algorithm = 0 ∧ (authMode = 0 ∨ authMode = 2)
  · rw [if_pos open_, if_pos rfl]
    exact ⟨_, rfl⟩
  · rw [if_neg open_, if_pos rfl]
    exact ⟨_, rfl⟩

theorem AuthRecord.advance_third {frame : MgntFrame Station} {p : Nat}
    (authMode assocTo : Nat) (waiting : pstat.authSeq = 2) (found : frame.challengeFrom 4 = some p)
    (nonempty : frame.memory (p + 1) ≠ 0) (same : frame.challengeBytes p = pstat.chgTxt) :
    ∃ next, pstat.advance frame authMode 1 3 assocTo = .ok next := by
  unfold advance
  rw [if_neg (by rw [waiting]; decide), if_neg (fun open_ => absurd open_.1 (by decide)),
    if_neg (by decide), if_pos rfl, found]
  dsimp only
  rw [if_neg nonempty, if_pos same]
  exact ⟨_, rfl⟩

theorem issueAuth_answered
    (room : allocated = true) : Answered (issueAuth hwaddr psta statsSuccessful allocated) hwaddr := by
  unfold issueAuth
  rw [if_pos room]
  exact ⟨_, _, _, rfl⟩

end

theorem onAuth_answered (serving : Serving ap) (room : event.xmitAllocated = true)
    (allowed : ¬(0 < event.frame.le16 wlanHdrA3Len ∧ ap.authMode = 0 ∨
      event.frame.le16 wlanHdrA3Len = 0 ∧ ap.authMode = 1))
    (taken : ap.takeRecord event.frame.sa event.staAllocated ≠ none)
    (passes : ∀ pstat next, ap.takeRecord event.frame.sa event.staAllocated = some (pstat, next) →
      ∃ done, (pstat.timed next.authTo).advance event.frame ap.authMode
        (event.frame.le16 wlanHdrA3Len) (event.frame.le16 (wlanHdrA3Len + 2)) next.assocTo = .ok done) :
    Answered (event.answer ap) event.frame.sa := by
  have result := onAuth_result ap event
  generalize event.answer ap = answer, event.after ap = after at result ⊢
  cases result with
  | refused status reason =>
    rcases reason with notAp | bad | missing
    · rw [serving.apState] at notAp
      cases notAp
    · exact absurd bad allowed
    · exact absurd missing taken
  | failed taken_ rejected =>
    obtain ⟨done, accepted⟩ := passes _ _ taken_
    rw [accepted] at rejected
    cases rejected
  | advanced => exact issueAuth_answered room

omit [DecidableEq Station] in
theorem allowed_of_setting (serving : Serving ap)
    (setting : algorithm = 0 ∧ ap.OpenAllowed ∨ algorithm = 1 ∧ ap.SharedAllowed) :
    ¬(0 < algorithm ∧ ap.authMode = 0 ∨ algorithm = 0 ∧ ap.authMode = 1) := by
  rw [AuthAp.authMode_eq serving]
  rcases setting with ⟨rfl, open_ | auto⟩ | ⟨rfl, shared | ⟨auto, _⟩⟩
  · simp [open_, AuthAlgrthm.toNat]
  · simp [auto, AuthAlgrthm.toNat]
  · simp [shared, AuthAlgrthm.toNat]
  · simp [auto, AuthAlgrthm.toNat]

theorem onAuth_proper
    (serving : Serving ap) (known : ExchangesKnown ap exchanges) (meets : FrameMeets ap exchanges event) :
    FrameProper ap exchanges event.frame (event.answer ap) (event.after ap) where
  sound _ before acquired := onAuth_sound serving known meets before acquired
  firstAnswered first := by
    obtain ⟨⟨algorithm, sequence⟩, room, idle⟩ := meets.first first
    refine onAuth_answered serving room ?_ ?_ ?_
    · rw [algorithm]
      exact allowed_of_setting serving first.2
    · unfold AuthAp.takeRecord
      cases found : ap.stainfo event.frame.sa with
      | some pstat => exact Option.some_ne_none _
      | none =>
        rw [found] at idle
        rw [if_pos idle]
        exact Option.some_ne_none _
    · intro pstat next taken
      have fromIdle : pstat.authSeq = 0 := by
        rcases (AuthAp.takeRecord_some taken).1 with found | ⟨_, _, fresh⟩
        · rw [found] at idle
          exact idle
        · rw [fresh]
          rfl
      rw [sequence, first.1]
      exact advance_first _ _ _ _ ((timed_authSeq _ _).trans fromIdle)
  thirdAnswered third := by
    obtain ⟨⟨algorithm, sequence⟩, room, place, record, found, waiting⟩ := meets.third third
    obtain ⟨shared, thirdSeq, setting, challenge, sent, p, carried, long, _, text⟩ := third
    obtain ⟨known_, recorded, same⟩ := known _ _ sent
    obtain rfl : record = known_ := Option.some.inj (found.symm.trans recorded)
    refine onAuth_answered serving room ?_ ?_ ?_
    · rw [algorithm]
      exact allowed_of_setting serving (.inr ⟨shared, setting⟩)
    · unfold AuthAp.takeRecord
      rw [found]
      exact Option.some_ne_none _
    · intro pstat next taken
      obtain rfl : pstat = record := by
        rcases (AuthAp.takeRecord_some taken).1 with here | ⟨missing, _⟩
        · exact Option.some.inj (here.symm.trans found)
        · rw [missing] at found
          cases found
      rw [algorithm, shared, sequence, thirdSeq]
      refine advance_third _ _ ((timed_authSeq _ _).trans waiting)
        (place.trans carried) ?_ ?_
      · intro empty
        rw [empty] at long
        cases long
      · exact (text.trans same.symm).trans (timed_chgTxt _ _).symm

theorem runProper_of_known
    {events : List (AuthEvent Station)} (serving : Serving ap) (known : ExchangesKnown ap exchanges)
    (meets : RunMeets ap exchanges events) : RunProper ap exchanges events := by
  induction events generalizing ap exchanges with
  | nil => trivial
  | cons event rest ih =>
    exact ⟨onAuth_proper serving known meets.1, ih (serving.after event) (known.after event) meets.2⟩

theorem authentication_sound_complete (ap : AuthAp Station) (events : List (AuthEvent Station))
    (serving : Serving ap) (meets : RunMeets ap (fun _ => none) events) :
    RunProper ap (fun _ => none) events :=
  runProper_of_known serving (fun _ _ sent => nomatch sent) meets

def emptyAp (algorithm : AuthAlgrthm) : AuthAp Bool where
  apState := true
  dot11AuthAlgrthm := algorithm
  dot11PrivacyAlgrthm := wep104
  authTo := 3
  assocTo := 3
  stainfo _ := none
  authList := []
  asocList := []

def firstFrame (algorithm : U8) : AuthEvent Bool where
  frame :=
    { sa := true
      memory := fun offset => if offset = 24 then algorithm else if offset = 26 then 1 else 0
      len := 30 }
  staAllocated := true
  xmitAllocated := true

theorem authentication_sound_complete_open : Serving (emptyAp .open) ∧
      RunMeets (emptyAp .open) (fun _ => none) [firstFrame 0, firstFrame 0] ∧
      RunProper (emptyAp .open) (fun _ => none) [firstFrame 0, firstFrame 0] := by
  have serving : Serving (emptyAp .open) := ⟨rfl, by decide⟩
  have meets : RunMeets (emptyAp .open) (fun _ => none) [firstFrame 0, firstFrame 0] := by
    refine ⟨⟨fun _ => ⟨⟨by decide, by decide⟩, rfl, rfl⟩, fun third => absurd third.2.1 (by decide),
      fun _ _ _ _ => by decide, fun _ _ _ _ _ _ other => absurd rfl other⟩,
      ⟨fun _ => ⟨⟨by decide, by decide⟩, rfl, rfl⟩, fun third => absurd third.2.1 (by decide),
      fun _ _ _ _ => by decide, fun _ _ _ _ _ _ other => absurd rfl other⟩, trivial⟩
  exact ⟨serving, meets, authentication_sound_complete _ _ serving meets⟩

/-- A station that begins a shared-key exchange again before it has ended the first is
rejected. -/
theorem secondBeginning_rejected : Serving (emptyAp .shared) ∧
      ¬RunProper (emptyAp .shared) (fun _ => none) [firstFrame 1, firstFrame 1] := by
  refine ⟨⟨rfl, by decide⟩, ?_⟩
  intro proper
  obtain ⟨_, _, _, answered⟩ := proper.2.1.firstAnswered ⟨by decide, .inr ⟨by decide, .inl rfl⟩⟩
  have rejected : (firstFrame 1).answer ((firstFrame 1).after (emptyAp .shared)) =
      some (.toStation true 0 2 statsOutOfAuthSeq none) := by rfl
  rw [rejected] at answered
  cases answered

end Floid.Wifi
