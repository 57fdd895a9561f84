import Floid.Wifi.AssocTable
import Floid.Wifi.ClientLink
import Floid.Wifi.InfoElementBounds

namespace Floid.Wifi

open Floid.Osk Floid.Lib

namespace MgntFrame

variable {Station : Type*} (frame : MgntFrame Station)

def Has (p count : Nat) : Prop := count = 0 ∨ p + count ≤ frame.len

instance (p count : Nat) : Decidable (frame.Has p count) :=
  inferInstanceAs (Decidable (count = 0 ∨ p + count ≤ frame.len))

def read (p count : Nat) : Option (List U8) :=
  if frame.Has p count then some (frame.bytes p count) else none

def read16 (p : Nat) : Option Nat := if frame.Has p 2 then some (frame.le16 p) else none

def tail (p : Nat) : List U8 := frame.bytes p (frame.len - p)

def ListIn (start : Nat) : Prop := start ≤ frame.len ∧ frame.len - start < 2 ^ 31

instance (start : Nat) : Decidable (frame.ListIn start) :=
  inferInstanceAs (Decidable (start ≤ frame.len ∧ frame.len - start < 2 ^ 31))

def listLen (start : Nat) : Option Nat :=
  if frame.ListIn start then some (frame.len - start) else none

end MgntFrame

def AuthRecord.checkChallenge {Station : Type*} (pstat : AuthRecord) (frame : MgntFrame Station)
    (assocTo : Nat) : Option (Except Nat AuthRecord) := do
  let start := wlanHdrA3Len + 4 + authIeOffset
  let limit ← frame.listLen start
  match getIeAt frame.memory start chlgetxtIe limit with
  | none => return .error statsChallengeFail
  | some p =>
      -- the length that `get_ie` gives
      if frame.memory (p + 1) = 0 then return .error statsChallengeFail
      else
        let text ← frame.read (p + 2) 128
        if text = pstat.chgTxt.toList then
          return .ok { pstat with
            state := (pstat.state &&& ~~~wifiFwAuthState) ||| wifiFwAuthSuccess
            expireTo := assocTo }
        else return .error statsChallengeFail

def AuthRecord.advanceIn {Station : Type*} (pstat : AuthRecord) (frame : MgntFrame Station)
    (authMode algorithm seq assocTo : Nat) : Option (Except Nat AuthRecord) :=
  if pstat.authSeq + 1 ≠ seq then some (.error statsOutOfAuthSeq)
  else if algorithm = 0 ∧ (authMode = 0 ∨ authMode = 2) then
    if seq = 1 then
      some (.ok { pstat with
        state := (pstat.state &&& ~~~wifiFwAuthNull) ||| wifiFwAuthSuccess
        expireTo := assocTo
        authalg := algorithm })
    else some (.error statsOutOfAuthSeq)
  else if seq = 1 then
    some (.ok { pstat with
      state := (pstat.state &&& ~~~wifiFwAuthNull) ||| wifiFwAuthState
      authalg := algorithm
      authSeq := 2 })
  else if seq = 3 then pstat.checkChallenge frame assocTo
  else some (.error statsOutOfAuthSeq)

/-- `OnAuth`. -/
def AssocAp.onAuthIn {Sta Xmit Recv : Type} [DecidableEq Sta] (ap : AssocAp Sta Xmit Recv)
    (frame : MgntFrame MacAddr) (xmitAllocated : Bool) :
    Option (Option (AuthAnswer MacAddr) × AssocAp Sta Xmit Recv) :=
  if ap.apState = false then some (none, ap)
  else do
    let seq ← frame.read16 (wlanHdrA3Len + 2)
    let algorithm ← frame.read16 wlanHdrA3Len
    let asClient (status : Nat) : Option (AuthAnswer MacAddr) :=
      if xmitAllocated then some (.asClient status) else none
    if (0 < algorithm ∧ ap.authMode = 0) ∨ (algorithm = 0 ∧ ap.authMode = 1) then
      return (asClient statsNoSuppAlg, ap)
    else
      match ap.takeRecord frame.sa with
      | (none, ap) => return (asClient statsUnableHandleSta, ap)
      | (some pstat, ap) =>
          let ap := ap.enlist pstat
          let record := ap.auth pstat
          let record := if record.authSeq = 0 then { record with expireTo := ap.authTo } else record
          match ← record.advanceIn frame ap.authMode algorithm seq ap.assocTo with
          | .error status =>
              return (issueAuth frame.sa failedStat status xmitAllocated, ap.store pstat record)
          | .ok record =>
              let record := { record with authSeq := seq + 1 }
              return (issueAuth (ap.stapriv.stainfo pstat).hwaddr record statsSuccessful xmitAllocated,
                ap.store pstat (if record.success then { record with authSeq := 0 } else record))

def ClientLink.takeChallenge {Station : Type} (link : ClientLink Station)
    (frame : LinkFrame Station) : Option (Option (ClientLink Station)) := do
  let start := wlanHdrA3Len + authIeOffset
  let limit ← frame.listLen start
  match getIeAt frame.memory start chlgetxtIe limit with
  | none => return none
  | some p =>
      let text ← frame.read (p + 2) (frame.memory (p + 1)).toNat
      let chgTxt ← fillField link.chgTxt 0 text
      return some { link with chgTxt, authSeq := 3 }

/-- `OnAuthClient`. -/
def ClientLink.onAuthClientIn {Station : Type} [DecidableEq Station] (link : ClientLink Station)
    (frame : LinkFrame Station) (xmitAllocated : Bool) : Option (ClientLink Station) :=
  if frame.da ≠ link.myid then some link
  else if link.has wifiFwAuthState = false then some link
  else do
    let _ ← frame.read16 frame.authOffset
    let seq ← frame.read16 (frame.authOffset + 2)
    let status ← frame.read16 (frame.authOffset + 4)
    if status ≠ 0 then return link
    else if seq = 2 then
      if link.authAlgo = .shared then
        match ← link.takeChallenge frame with
        | none => return link
        | some link => return link.issueAuthRequest xmitAllocated
      else return link.startClntAssoc xmitAllocated
    else if seq = 4 then
      if link.authAlgo = .shared then return link.startClntAssoc xmitAllocated else return link
    else return link

def wmmParaOui : List U8 := [0x00, 0x50, 0xf2, 0x02, 0x01, 0x01]

def assocRspElement (oneStream : Bool) (info : MlmeInfo) (pIE : List U8) : Option MlmeInfo := do
  let elementID ← pIE[0]?
  match elementID.toNat with
  | 221 =>
      let oui ← segment pIE 2 6
      if oui = wmmParaOui then (wmmParamHandler info pIE).map Prod.snd else return info
  | 45 => htCapsHandler oneStream info pIE
  | 61 => htInfoHandler info pIE
  | 42 => erpIEHandler info pIE
  | _ => return info

def assocRspElements (oneStream : Bool) (info : MlmeInfo) (pIE : List U8) (left : Nat) : Option MlmeInfo :=
  if left = 0 then some info
  else do
    let info ← assocRspElement oneStream info pIE
    let length ← pIE[1]?
    assocRspElements oneStream info (pIE.drop (length.toNat + 2)) (left - (length.toNat + 2))
termination_by left

def updateBrateTbl (rates : Vector U8 16) : Vector U8 16 :=
  rates.map fun rate =>
    if rate &&& 0x7f ∈ ([0x02, 0x04, 0x0b, 0x16, 0x0c, 0x18, 0x30] : List U8) then rate ||| 0x80
    else rate

structure AssocClient (Station : Type) where
  link : ClientLink Station
  info : MlmeInfo
  /-- `SupportedRates` of the network. -/
  rates : Vector U8 16

/-- `OnAssocRsp`. -/
def AssocClient.onAssocRspIn {Station : Type} [DecidableEq Station] (client : AssocClient Station)
    (oneStream : Bool) (frame : LinkFrame Station) (cmdAllocated : Bool) :
    Option (AssocClient Station) :=
  let link := client.link
  if frame.da ≠ link.myid then some client
  else if link.has (wifiFwAuthSuccess ||| wifiFwAssocState) = false then some client
  else if link.has wifiFwAssocSuccess then some client
  else do
    let status ← frame.read16 (wlanHdrA3Len + 2)
    if 0 < status then
      return { client with
        link := ({ link with linkTimer := false } : ClientLink Station).reportJoinRes (-4) cmdAllocated }
    else
      let capability ← frame.read16 wlanHdrA3Len
      let aid ← frame.read16 (wlanHdrA3Len + 4)
      let aid := aid &&& 0x3fff
      let start := wlanHdrA3Len + 6
      let info ← assocRspElements oneStream client.info (frame.tail start) (frame.len - start)
      return {
        link := ({ link with
          linkTimer := false
          capability
          slotTime := if capability.testBit 10 then 9 else 20
          aid
          state := (link.state &&& ~~~wifiFwAssocState) ||| wifiFwAssocSuccess } :
            ClientLink Station).reportJoinRes aid cmdAllocated
        info
        rates := updateBrateTbl client.rates }

end Floid.Wifi

namespace Floid.Wifi

open Floid.Osk Floid.Lib

namespace MgntFrame

variable {Station : Type*} {frame : MgntFrame Station} {p count start limit : Nat}

theorem read_eq_some_iff {data : List U8} :
    frame.read p count = some data ↔ frame.Has p count ∧ frame.bytes p count = data := by
  unfold read
  by_cases has : frame.Has p count
  · simp [has]
  · simp [has]

theorem read_of_has (has : frame.Has p count) : frame.read p count = some (frame.bytes p count) :=
  if_pos has

theorem read16_eq_some_iff {value : Nat} :
    frame.read16 p = some value ↔ p + 2 ≤ frame.len ∧ frame.le16 p = value := by
  have has : frame.Has p 2 ↔ p + 2 ≤ frame.len := or_iff_right (by decide)
  unfold read16
  rw [← has]
  by_cases has : frame.Has p 2
  · simp [has]
  · simp [has]

theorem listLen_eq_some_iff :
    frame.listLen start = some limit ↔ frame.ListIn start ∧ frame.len - start = limit := by
  unfold listLen
  by_cases list : frame.ListIn start
  · rw [if_pos list, Option.some.injEq, and_iff_right list]
  · rw [if_neg list]
    exact iff_of_false nofun fun both => list both.1

theorem bytes_length : (frame.bytes p count).length = count := by
  simp [bytes]

end MgntFrame

section

variable {Station : Type*} {pstat : AuthRecord} {frame : MgntFrame Station}
variable {authMode algorithm seq assocTo : Nat}

def ChallengeIn (frame : MgntFrame Station) : Prop :=
  frame.ListIn 34 ∧ ∀ p, frame.getIe 34 chlgetxtIe = some p → frame.memory (p + 1) ≠ 0 → p + 130 ≤ frame.len

theorem checkChallenge_isSome_iff : (pstat.checkChallenge frame assocTo).isSome ↔ ChallengeIn frame := by
  refine bind_isSome_iff.trans ?_
  simp only [MgntFrame.listLen_eq_some_iff]
  constructor
  · rintro ⟨limit, ⟨list, rfl⟩, well⟩
    refine ⟨list, ?_⟩
    intro p found length
    have same : getIeAt frame.memory (wlanHdrA3Len + 4 + authIeOffset) chlgetxtIe
        (frame.len - (wlanHdrA3Len + 4 + authIeOffset)) = some p := found
    simp only [same, if_neg length] at well
    obtain ⟨text, read, -⟩ := bind_isSome_iff.mp well
    have has := (MgntFrame.read_eq_some_iff.mp read).1
    exact (has.resolve_left (by decide)).trans' (by omega)
  · rintro ⟨list, inside⟩
    refine ⟨_, ⟨list, rfl⟩, ?_⟩
    split
    · rfl
    · rename_i p found
      split
      · rfl
      · rename_i length
        have has : frame.Has (p + 2) 128 := .inr (by have := inside p found length; omega)
        rw [MgntFrame.read_of_has has]
        exact ite_isSome ..

def ComesToChallenge (pstat : AuthRecord) (authMode algorithm seq : Nat) : Prop :=
  pstat.authSeq = 2 ∧ seq = 3 ∧ ¬(algorithm = 0 ∧ (authMode = 0 ∨ authMode = 2))

theorem advanceIn_isSome_iff : (pstat.advanceIn frame authMode algorithm seq assocTo).isSome ↔
    (ComesToChallenge pstat authMode algorithm seq → ChallengeIn frame) := by
  unfold AuthRecord.advanceIn ComesToChallenge
  split
  · rename_i out
    exact iff_of_true rfl fun comes => absurd (by omega) out
  · rename_i inSeq
    split
    · rename_i open_
      refine iff_of_true ?_ fun comes => absurd open_ comes.2.2
      split <;> rfl
    · rename_i shared
      split
      · rename_i first
        exact iff_of_true rfl fun comes => absurd (comes.2.1.symm.trans first) (by decide)
      · split
        · rename_i third
          rw [checkChallenge_isSome_iff]
          have comes : pstat.authSeq = 2 ∧ seq = 3 ∧
              ¬(algorithm = 0 ∧ (authMode = 0 ∨ authMode = 2)) := ⟨by omega, third, shared⟩
          exact ⟨fun inside _ => inside, fun inside => inside comes⟩
        · rename_i other
          exact iff_of_true rfl fun comes => absurd comes.2.1 other

theorem challengeBytes_toList (p : Nat) : (frame.challengeBytes p).toList = frame.bytes (p + 2) 128 := by
  refine List.ext_getElem ?_ fun i within inside => ?_
  · simp [MgntFrame.bytes]
  · simp [MgntFrame.bytes, MgntFrame.challengeBytes]

variable {checked : Except Nat AuthRecord}

theorem checkChallenge_eq (stays : pstat.checkChallenge frame assocTo = some checked) :
    checked = match frame.challengeFrom 4 with
      | none => .error statsChallengeFail
      | some p =>
          if frame.memory (p + 1) = 0 then .error statsChallengeFail
          else if frame.challengeBytes p = pstat.chgTxt then
            .ok { pstat with
              state := (pstat.state &&& ~~~wifiFwAuthState) ||| wifiFwAuthSuccess
              expireTo := assocTo }
          else .error statsChallengeFail := by
  obtain ⟨limit, list, stays⟩ := Option.bind_eq_some_iff.mp stays
  obtain ⟨-, rfl⟩ := MgntFrame.listLen_eq_some_iff.mp list
  have same : frame.challengeFrom 4 = getIeAt frame.memory (wlanHdrA3Len + 4 + authIeOffset)
      chlgetxtIe (frame.len - (wlanHdrA3Len + 4 + authIeOffset)) := by
    unfold MgntFrame.challengeFrom
    rw [Nat.sub_sub, Nat.sub_sub]
    rfl
  rw [same]
  cases found : getIeAt frame.memory (wlanHdrA3Len + 4 + authIeOffset) chlgetxtIe
      (frame.len - (wlanHdrA3Len + 4 + authIeOffset)) with
  | none =>
    rw [found] at stays
    cases stays
    rfl
  | some p =>
    rw [found] at stays
    dsimp only at stays ⊢
    split at stays
    · rename_i empty
      cases stays
      exact (if_pos empty).symm
    · rename_i length
      obtain ⟨text, read, stays⟩ := Option.bind_eq_some_iff.mp stays
      obtain ⟨-, rfl⟩ := MgntFrame.read_eq_some_iff.mp read
      rw [if_neg length]
      have texts : frame.bytes (p + 2) 128 = pstat.chgTxt.toList ↔ frame.challengeBytes p = pstat.chgTxt := by
        rw [← challengeBytes_toList, Vector.toList_inj]
      split at stays
      · rename_i right
        cases stays
        exact (if_pos (texts.mp right)).symm
      · rename_i wrong
        cases stays
        exact (if_neg fun right => wrong (texts.mpr right)).symm

theorem advanceIn_eq (stays : pstat.advanceIn frame authMode algorithm seq assocTo = some checked) :
    checked = pstat.advance frame authMode algorithm seq assocTo := by
  unfold AuthRecord.advanceIn at stays
  unfold AuthRecord.advance
  split at stays
  · rename_i out
    cases stays
    exact (if_pos out).symm
  · rename_i inSeq
    rw [if_neg inSeq]
    split at stays
    · rename_i open_
      rw [if_pos open_]
      split at stays
      · rename_i first
        cases stays
        exact (if_pos first).symm
      · rename_i later
        cases stays
        exact (if_neg later).symm
    · rename_i shared
      rw [if_neg shared]
      split at stays
      · rename_i first
        cases stays
        exact (if_pos first).symm
      · rename_i later
        rw [if_neg later]
        split at stays
        · rename_i third
          rw [if_pos third]
          exact checkChallenge_eq stays
        · rename_i other
          cases stays
          exact (if_neg other).symm

end

section

variable {Sta Xmit Recv : Type} [DecidableEq Sta] {ap : AssocAp Sta Xmit Recv}
variable {frame : MgntFrame MacAddr} {xmitAllocated : Bool}

def AssocAp.RefusesAlgorithm (ap : AssocAp Sta Xmit Recv) (algorithm : Nat) : Prop :=
  (0 < algorithm ∧ ap.authMode = 0) ∨ (algorithm = 0 ∧ ap.authMode = 1)

/-- When `OnAuth` is contained: the frame has the algorithm and the number, and when a station
answers a challenge, the challenge. -/
def AuthContained (ap : AssocAp Sta Xmit Recv) (frame : MgntFrame MacAddr) : Prop :=
  ap.apState = true → 28 ≤ frame.len ∧ ∀ pstat, ap.stapriv.getStainfo frame.sa = some pstat →
    ¬ap.RefusesAlgorithm (frame.le16 24) →
    ComesToChallenge (ap.auth pstat) ap.authMode (frame.le16 24) (frame.le16 26) →
    ChallengeIn frame

theorem takeRecord_comes_iff {sa : MacAddr} {pstat : Sta} {next : AssocAp Sta Xmit Recv}
    {algorithm seq : Nat} (taken : ap.takeRecord sa = (some pstat, next)) :
    ComesToChallenge (next.auth pstat) next.authMode algorithm seq ↔
      ap.stapriv.getStainfo sa = some pstat ∧ ComesToChallenge (ap.auth pstat) ap.authMode algorithm seq := by
  unfold AssocAp.takeRecord at taken
  cases known : ap.stapriv.getStainfo sa with
  | some found =>
    simp only [known] at taken
    cases taken
    exact (and_iff_right rfl).symm
  | none =>
    simp only [known] at taken
    refine iff_of_false ?_ fun both => Option.some_ne_none _ both.1.symm
    intro comes
    cases allocated : ap.stapriv.allocStainfo sa with
    | mk record stapriv =>
      cases record with
      | none =>
        simp only [allocated] at taken
        cases taken
      | some record =>
        simp only [allocated] at taken
        cases taken
        have fresh := comes.1
        simp [AssocAp.store, AuthRecord.fresh] at fresh

theorem enlist_auth (pstat : Sta) : (ap.enlist pstat).auth = ap.auth := by
  unfold AssocAp.enlist
  split <;> rfl

theorem enlist_authMode (pstat : Sta) : (ap.enlist pstat).authMode = ap.authMode := by
  unfold AssocAp.enlist
  split <;> rfl

theorem timed_comes_iff {record : AuthRecord} {authMode algorithm seq authTo : Nat} :
    ComesToChallenge (if record.authSeq = 0 then { record with expireTo := authTo } else record)
      authMode algorithm seq ↔ ComesToChallenge record authMode algorithm seq := by
  split <;> rfl

theorem authReads_isSome_iff {Station β : Type} {frame : MgntFrame Station} {rest : Nat → Nat → Option β} :
    ((frame.read16 26).bind fun seq => (frame.read16 24).bind (rest seq)).isSome ↔
      28 ≤ frame.len ∧ (rest (frame.le16 26) (frame.le16 24)).isSome := by
  rw [bind_isSome_iff]
  constructor
  · intro ⟨seq, readSeq, stays⟩
    obtain ⟨algorithm, readAlgorithm, stays⟩ := bind_isSome_iff.mp stays
    obtain ⟨inside, rfl⟩ := MgntFrame.read16_eq_some_iff.mp readSeq
    obtain ⟨-, rfl⟩ := MgntFrame.read16_eq_some_iff.mp readAlgorithm
    exact ⟨inside, stays⟩
  · intro ⟨long, stays⟩
    exact ⟨_, MgntFrame.read16_eq_some_iff.mpr ⟨long, rfl⟩, bind_isSome_iff.mpr
      ⟨_, MgntFrame.read16_eq_some_iff.mpr ⟨by omega, rfl⟩, stays⟩⟩

theorem onAuthIn_isSome_iff : (ap.onAuthIn frame xmitAllocated).isSome ↔ AuthContained ap frame := by
  unfold AssocAp.onAuthIn AuthContained
  cases state : ap.apState with
  | false => simp
  | true =>
    rw [if_neg (by decide), forall_prop_of_true rfl]
    refine authReads_isSome_iff.trans (and_congr_right fun long => ?_)
    by_cases refused : (0 < frame.le16 24 ∧ ap.authMode = 0) ∨ (frame.le16 24 = 0 ∧ ap.authMode = 1)
    · rw [if_pos refused]
      exact iff_of_true rfl fun _ _ passes => absurd refused passes
    · rw [if_neg refused]
      cases taken : ap.takeRecord frame.sa with
      | mk pstat next =>
        cases pstat with
        | none =>
          refine iff_of_true rfl fun pstat known _ comes => ?_
          unfold AssocAp.takeRecord at taken
          simp only [known] at taken
          cases taken
        | some pstat =>
          dsimp only
          refine (bind_total_isSome_iff fun checked => ?_).trans ?_
          · cases checked <;> rfl
          · rw [advanceIn_isSome_iff, timed_comes_iff, enlist_auth, enlist_authMode, takeRecord_comes_iff taken]
            constructor
            · intro inside other known _ comes
              have same : other = pstat := by
                unfold AssocAp.takeRecord at taken
                simp only [known] at taken
                cases taken
                rfl
              subst same
              exact inside ⟨known, comes⟩
            · intro inside ⟨known, comes⟩
              exact inside pstat known refused comes

theorem onAuthIn_eq {after : Option (AuthAnswer MacAddr) × AssocAp Sta Xmit Recv}
    (stays : ap.onAuthIn frame xmitAllocated = some after) :
    after = ap.onAuth frame xmitAllocated := by
  unfold AssocAp.onAuthIn at stays
  unfold AssocAp.onAuth
  cases state : ap.apState with
  | false =>
    rw [state, if_pos rfl] at stays
    cases stays
    rfl
  | true =>
    rw [state, if_neg (by decide)] at stays
    obtain ⟨seq, readSeq, stays⟩ := Option.bind_eq_some_iff.mp stays
    obtain ⟨algorithm, readAlgorithm, stays⟩ := Option.bind_eq_some_iff.mp stays
    obtain ⟨-, rfl⟩ := MgntFrame.read16_eq_some_iff.mp readSeq
    obtain ⟨-, rfl⟩ := MgntFrame.read16_eq_some_iff.mp readAlgorithm
    rw [if_neg (by decide)]
    dsimp only at stays ⊢
    split at stays
    · rename_i refused
      cases stays
      exact (if_pos refused).symm
    · rename_i passes
      rw [if_neg passes]
      cases taken : ap.takeRecord frame.sa with
      | mk pstat next =>
        rw [taken] at stays
        cases pstat with
        | none =>
          cases stays
          rfl
        | some pstat =>
          dsimp only at stays ⊢
          obtain ⟨checked, advanced, stays⟩ := Option.bind_eq_some_iff.mp stays
          have same := advanceIn_eq advanced
          subst same
          cases advances : AuthRecord.advance _ _ _ _ _ _ with
          | error status =>
            rw [advances] at stays
            cases stays
            rfl
          | ok record =>
            rw [advances] at stays
            cases stays
            rfl

end

section

variable {Station : Type} [DecidableEq Station] {link : ClientLink Station} {frame : LinkFrame Station}

def ChallengeTaken (frame : LinkFrame Station) : Prop :=
  frame.ListIn 30 ∧ ∀ p, frame.getIe 30 chlgetxtIe = some p →
    frame.Has (p + 2) (frame.memory (p + 1)).toNat ∧ (frame.memory (p + 1)).toNat ≤ 128

omit [DecidableEq Station] in
theorem takeChallenge_isSome_iff : (link.takeChallenge frame).isSome ↔ ChallengeTaken frame := by
  refine bind_isSome_iff.trans ?_
  simp only [MgntFrame.listLen_eq_some_iff]
  constructor
  · rintro ⟨limit, ⟨list, rfl⟩, well⟩
    refine ⟨list, fun p found => ?_⟩
    have same : getIeAt frame.memory (wlanHdrA3Len + authIeOffset) chlgetxtIe
        (frame.len - (wlanHdrA3Len + authIeOffset)) = some p := found
    simp only [same] at well
    obtain ⟨text, read, well⟩ := bind_isSome_iff.mp well
    obtain ⟨has, rfl⟩ := MgntFrame.read_eq_some_iff.mp read
    obtain ⟨chgTxt, filled, -⟩ := bind_isSome_iff.mp well
    have room := fillField_isSome_iff.mp (Option.isSome_of_eq_some filled)
    rw [MgntFrame.bytes_length] at room
    exact ⟨has, by omega⟩
  · rintro ⟨list, inside⟩
    refine ⟨_, ⟨list, rfl⟩, ?_⟩
    split
    · rfl
    · rename_i p found
      obtain ⟨has, room⟩ := inside p found
      rw [MgntFrame.read_of_has has, Option.bind_eq_bind, Option.bind_some]
      refine (bind_total_isSome_iff fun _ => rfl).mpr (fillField_isSome_iff.mpr ?_)
      rw [MgntFrame.bytes_length]
      omega

/-- When `OnAuthClient` is contained: the frame has its three numbers, and the second frame of an
authentication with a shared key has the challenge. -/
def AuthClientContained (link : ClientLink Station) (frame : LinkFrame Station) : Prop :=
  frame.da = link.myid → link.has wifiFwAuthState = true →
    frame.authOffset + 6 ≤ frame.len ∧
      (frame.le16 (frame.authOffset + 4) = 0 → frame.le16 (frame.authOffset + 2) = 2 →
        link.authAlgo = .shared → ChallengeTaken frame)

theorem onAuthClientIn_isSome_iff {xmitAllocated : Bool} :
    (link.onAuthClientIn frame xmitAllocated).isSome ↔ AuthClientContained link frame := by
  unfold ClientLink.onAuthClientIn AuthClientContained
  by_cases own : frame.da = link.myid
  · rw [if_neg (not_not.mpr own), forall_prop_of_true own]
    cases state : link.has wifiFwAuthState with
    | false => simp
    | true =>
      rw [if_neg (by decide), forall_prop_of_true rfl]
      constructor
      · intro well
        obtain ⟨algorithm, readAlgorithm, well⟩ := bind_isSome_iff.mp well
        obtain ⟨seq, readSeq, well⟩ := bind_isSome_iff.mp well
        obtain ⟨status, readStatus, well⟩ := bind_isSome_iff.mp well
        obtain ⟨-, rfl⟩ := MgntFrame.read16_eq_some_iff.mp readSeq
        obtain ⟨inside, rfl⟩ := MgntFrame.read16_eq_some_iff.mp readStatus
        refine ⟨inside, fun successful second shared => ?_⟩
        rw [if_neg (not_not.mpr successful), if_pos second, if_pos shared] at well
        obtain ⟨taken, takes, -⟩ := bind_isSome_iff.mp well
        exact takeChallenge_isSome_iff.mp (Option.isSome_of_eq_some takes)
      · intro ⟨long, challenge⟩
        have reads (p : Nat) (inside : p + 2 ≤ frame.len) : frame.read16 p = some (frame.le16 p) :=
          MgntFrame.read16_eq_some_iff.mpr ⟨inside, rfl⟩
        simp only [reads frame.authOffset (by omega), reads (frame.authOffset + 2) (by omega),
          reads (frame.authOffset + 4) (by omega), Option.bind_eq_bind, Option.bind_some]
        split
        · rfl
        · rename_i successful
          split
          · rename_i second
            split
            · rename_i shared
              refine (bind_total_isSome_iff fun taken => ?_).mpr (takeChallenge_isSome_iff.mpr
                (challenge (not_not.mp successful) second shared))
              cases taken <;> rfl
            · rfl
          · repeat' split
            all_goals rfl
  · rw [if_pos own]
    exact iff_of_true rfl fun same => absurd same own

def AssocRspElementFits (info : MlmeInfo) (pIE : List U8) : Prop :=
  (pIE[0]? = some 221 → 8 ≤ pIE.length ∧ (segment pIE 2 6 = some wmmParaOui → WmmParamFits info pIE)) ∧
  (pIE[0]? = some 45 → HtCapsFit info pIE) ∧
  (pIE[0]? = some 61 → info.htOption = true → DataFits 22 pIE) ∧
  (pIE[0]? = some 42 → DataFits 1 pIE)

variable {info : MlmeInfo} {oneStream : Bool}

theorem assocRspElement_isSome_iff (id length : U8)
    (data : List U8) : (assocRspElement oneStream info (id :: length :: data)).isSome ↔
      AssocRspElementFits info (id :: length :: data) := by
  unfold assocRspElement AssocRspElementFits
  simp only [List.getElem?_cons_zero, Option.bind_eq_bind, Option.bind_some, Option.some.injEq]
  by_cases vendor : id = 221
  · subst vendor
    simp only [show (221 : U8) ≠ 45 by decide, show (221 : U8) ≠ 61 by decide,
      show (221 : U8) ≠ 42 by decide, true_implies, false_implies, and_true]
    refine Iff.trans (b := (((segment (221 :: length :: data) 2 6).bind fun oui =>
      if oui = wmmParaOui then (wmmParamHandler info (221 :: length :: data)).map Prod.snd
      else some info).isSome : Prop)) Iff.rfl ?_
    rw [bind_isSome_iff]
    constructor
    · rintro ⟨oui, read, well⟩
      refine ⟨(segment_some read).1, fun same => ?_⟩
      rw [read, Option.some.injEq] at same
      rw [if_pos same, Option.isSome_map] at well
      exact wmmParamHandler_isSome_iff.mp well
    · rintro ⟨inside, fits⟩
      refine ⟨_, segment_of_le inside, ?_⟩
      split
      · rename_i same
        rw [Option.isSome_map]
        exact wmmParamHandler_isSome_iff.mpr (fits ((segment_of_le inside).trans (congrArg some same)))
      · rfl
  · by_cases htCaps : id = 45
    · subst htCaps
      simp only [show (45 : U8) ≠ 221 by decide, show (45 : U8) ≠ 61 by decide,
        show (45 : U8) ≠ 42 by decide, true_implies, false_implies, and_true, true_and]
      exact htCapsHandler_isSome_iff
    · by_cases htInfo : id = 61
      · subst htInfo
        simp only [show (61 : U8) ≠ 221 by decide, show (61 : U8) ≠ 45 by decide,
          show (61 : U8) ≠ 42 by decide, true_implies, false_implies, and_true, true_and]
        exact htInfoHandler_isSome_iff
      · by_cases erp : id = 42
        · subst erp
          simp only [show (42 : U8) ≠ 221 by decide, show (42 : U8) ≠ 45 by decide,
            show (42 : U8) ≠ 61 by decide, true_implies, false_implies, true_and]
          exact erpIEHandler_isSome_iff
        · refine iff_of_true ?_ ⟨fun same => absurd same vendor, fun same => absurd same htCaps,
            fun same => absurd same htInfo, fun same => absurd same erp⟩
          have other (value : U8) (differs : id ≠ value) : id.toNat ≠ value.toNat :=
            fun same => differs (BitVec.eq_of_toNat_eq same)
          split
          · exact absurd ‹_› (other 221 vendor)
          · exact absurd ‹_› (other 45 htCaps)
          · exact absurd ‹_› (other 61 htInfo)
          · exact absurd ‹_› (other 42 erp)
          · rfl

theorem assocRspElement_options {after : MlmeInfo} {pIE : List U8}
    (called : assocRspElement oneStream info pIE = some after) :
    after.qosOption = info.qosOption ∧ after.htOption = info.htOption := by
  obtain ⟨elementID, -, called⟩ := Option.bind_eq_some_iff.mp called
  split at called
  · obtain ⟨oui, -, called⟩ := Option.bind_eq_some_iff.mp called
    split at called
    · obtain ⟨⟨success, handled⟩, wmm, rfl⟩ := Option.map_eq_some_iff.mp called
      obtain ⟨_, _, rfl⟩ := wmmParamHandler_changes wmm
      exact ⟨rfl, rfl⟩
    · cases called
      exact ⟨rfl, rfl⟩
  · obtain ⟨_, _, rfl⟩ := htCapsHandler_changes called
    exact ⟨rfl, rfl⟩
  · obtain ⟨_, _, rfl⟩ := htInfoHandler_changes called
    exact ⟨rfl, rfl⟩
  · obtain ⟨_, _, rfl⟩ := erpIEHandler_changes called
    exact ⟨rfl, rfl⟩
  · cases called
    exact ⟨rfl, rfl⟩

theorem assocRspElements_isSome_iff {oneStream : Bool} {info : MlmeInfo} {list : List U8} :
    (assocRspElements oneStream info list list.length).isSome ↔
      ∀ pIE, Element.WalkedTo (fun _ => True) list pIE → pIE ≠ [] →
        2 ≤ pIE.length ∧ AssocRspElementFits info pIE := by
  have isLoop : Element.IsLoop (assocRspElement oneStream) (assocRspElements oneStream) := by
    intro info list left
    rw [assocRspElements]
    rfl
  refine isLoop.isSome_iff (fun state id length data
    (same : state.qosOption = info.qosOption ∧ state.htOption = info.htOption) => ?_) ?_ ⟨rfl, rfl⟩
  · rw [assocRspElement_isSome_iff, AssocRspElementFits, AssocRspElementFits, WmmParamFits,
      WmmParamFits, HtCapsFit, HtCapsFit, same.1, same.2]
  · intro state pIE after same called
    obtain ⟨qos, ht⟩ := assocRspElement_options called
    exact ⟨qos.trans same.1, ht.trans same.2⟩

/-- When `OnAssocRsp` is contained: the frame has the status, and behind a successful one the other
numbers; and of every element that the walk comes to, what it is looked at for. -/
def AssocRspContained (client : AssocClient Station) (frame : LinkFrame Station) : Prop :=
  frame.da = client.link.myid → client.link.has (wifiFwAuthSuccess ||| wifiFwAssocState) = true →
    client.link.has wifiFwAssocSuccess = false →
    28 ≤ frame.len ∧ (frame.le16 26 = 0 → 30 ≤ frame.len ∧
      ∀ pIE, Element.WalkedTo (fun _ => True) (frame.tail 30) pIE → pIE ≠ [] →
        2 ≤ pIE.length ∧ AssocRspElementFits client.info pIE)

theorem onAssocRspIn_isSome_iff {client : AssocClient Station} {cmdAllocated : Bool} :
    (client.onAssocRspIn oneStream frame cmdAllocated).isSome ↔ AssocRspContained client frame := by
  unfold AssocClient.onAssocRspIn AssocRspContained
  by_cases own : frame.da = client.link.myid
  · rw [if_neg (not_not.mpr own), forall_prop_of_true own]
    cases waits : client.link.has (wifiFwAuthSuccess ||| wifiFwAssocState) with
    | false => simp
    | true =>
      rw [if_neg (by decide), forall_prop_of_true rfl]
      cases done : client.link.has wifiFwAssocSuccess with
      | true => simp
      | false =>
        rw [if_neg (by decide), forall_prop_of_true rfl]
        have length : (frame.tail 30).length = frame.len - 30 := MgntFrame.bytes_length
        constructor
        · intro well
          obtain ⟨status, readStatus, well⟩ := bind_isSome_iff.mp well
          obtain ⟨long, rfl⟩ := MgntFrame.read16_eq_some_iff.mp readStatus
          refine ⟨long, fun successful => ?_⟩
          rw [if_neg (by
            intro failed
            exact Nat.lt_irrefl 0 (successful ▸ failed))] at well
          obtain ⟨capability, -, well⟩ := bind_isSome_iff.mp well
          obtain ⟨aid, readAid, well⟩ := bind_isSome_iff.mp well
          obtain ⟨inside, -⟩ := MgntFrame.read16_eq_some_iff.mp readAid
          obtain ⟨info, walked, -⟩ := bind_isSome_iff.mp well
          refine ⟨inside, (@assocRspElements_isSome_iff oneStream _ _).mp ?_⟩
          rw [length]
          exact Option.isSome_of_eq_some walked
        · intro ⟨long, elements⟩
          have reads (p : Nat) (inside : p + 2 ≤ frame.len) : frame.read16 p = some (frame.le16 p) :=
            MgntFrame.read16_eq_some_iff.mpr ⟨inside, rfl⟩
          rw [reads (wlanHdrA3Len + 2) long, Option.bind_eq_bind, Option.bind_some]
          split
          · rfl
          · rename_i successful
            obtain ⟨inside, walked⟩ := elements (Nat.eq_zero_of_not_pos successful)
            have short : wlanHdrA3Len + 2 ≤ frame.len := (by decide : wlanHdrA3Len + 2 ≤ 28).trans long
            rw [reads wlanHdrA3Len short, reads (wlanHdrA3Len + 4) inside, Option.bind_some, Option.bind_some]
            refine (bind_total_isSome_iff fun _ => rfl).mpr ?_
            have well := (@assocRspElements_isSome_iff oneStream client.info _).mpr walked
            rwa [length] at well
  · rw [if_pos own]
    exact iff_of_true rfl fun same => absurd same own

end

end Floid.Wifi
