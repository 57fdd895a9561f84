import Floid.Wifi.ApProtection
import Floid.Wifi.StationLists

namespace Floid.Wifi

open Floid.Osk Floid.Lib Adapter
open Function (update update_eq_self update_of_ne update_self)

def MgntFrame.lacks {Station : Type*} (frame : MgntFrame Station) : StaProperty → Bool
  | .nonErp => frame.supportRates.all fun rate => (rate &&& 0x7f).toNat ≤ 22
  | .noShortSlotTime => !frame.capabInfo.getLsbD 10
  | .noShortPreamble => !frame.capabInfo.getLsbD 5
  | .noHt => frame.htCapElement.isNone
  | .htNoGf => frame.htCapElement.any fun pos => !(BitVec.ofNat 16 (frame.le16 pos)).getLsbD 4
  | .ht20mhz => frame.htCapElement.any fun pos => !(BitVec.ofNat 16 (frame.le16 pos)).getLsbD 1

namespace StaCaps

variable (caps : StaCaps)

def lacks : StaProperty → Bool
  | .nonErp => caps.nonErp
  | .noShortSlotTime => caps.noShortSlotTime
  | .noShortPreamble => !caps.shortPreamble
  | .noHt => !caps.ht
  | .htNoGf => caps.ht && !caps.greenField
  | .ht20mhz => caps.ht && !caps.supWidth

def recounted : StaProperty → Bool
  | .htNoGf => caps.counted .htNoGf || caps.lacks .htNoGf
  | .ht20mhz => caps.counted .ht20mhz || caps.lacks .ht20mhz
  | property => caps.lacks property

theorem request_counted {Station : Type*} (settings : AssocSettings) (frame : MgntFrame Station) :
    (caps.request settings frame).counted = caps.counted := by
  have noted : ∀ earlier : StaCaps, (earlier.noteHt frame).counted = earlier.counted := by
    intro earlier
    unfold noteHt
    split <;> rfl
  unfold request
  split
  · split <;> exact noted _
  · rfl

end StaCaps

namespace BssProtection

variable (bss : BssProtection)

/-- The operation mode that the rule above `rtw_ht_operation_update` prescribes for the
counters. -/
def prescribedOpMode : U16 :=
  (if 0 < bss.num .noHt ∨ 0 < bss.num .htNoGf then opModeMixed
    else if bss.supWidth ∧ 0 < bss.num .ht20mhz then opMode20mhzHtStaAssoced
    else if bss.olbcHt then opModeMayBeLegacyStas
    else opModePure) |||
  (if 0 < bss.num .htNoGf then htInfoOperationModeNonGfDevsPresent else 0) |||
  (if 0 < bss.num .noHt ∨ bss.olbcHt then htInfoOperationModeNonHtStaPresent else 0)

structure SameCounts (before after : BssProtection) : Prop where
  num : after.num = before.num
  olbcHt : after.olbcHt = before.olbcHt
  htOpMode : after.htOpMode = before.htOpMode
  supWidth : after.supWidth = before.supWidth

variable (property : StaProperty)

theorem announce_same (value : Int) : SameCounts bss (bss.announce property value) := by
  unfold announce
  split
  · exact ⟨rfl, rfl, rfl, rfl⟩
  · cases property <;> dsimp only <;> try split
    all_goals exact ⟨rfl, rfl, rfl, rfl⟩

theorem count_num (on : Bool) : (bss.count property on).num = update bss.num property
      (bss.num property + ((on.toNat : Int) - (!on).toNat)) := by
  cases on with
  | false => exact (announce_same _ property 0).num
  | true => exact (announce_same _ property 1).num

theorem count_same (on : Bool) : (bss.count property on).olbcHt = bss.olbcHt ∧
      (bss.count property on).htOpMode = bss.htOpMode ∧
      (bss.count property on).supWidth = bss.supWidth := by
  cases on with
  | false =>
    have same := announce_same
      { bss with num := update bss.num property (bss.num property - 1) } property 0
    exact ⟨same.olbcHt, same.htOpMode, same.supWidth⟩
  | true =>
    have same := announce_same
      { bss with num := update bss.num property (bss.num property + 1) } property 1
    exact ⟨same.olbcHt, same.htOpMode, same.supWidth⟩

theorem setOpModeFlag_same (flag : U16) (on : Bool) : (bss.setOpModeFlag flag on).1.num = bss.num ∧
      (bss.setOpModeFlag flag on).1.olbcHt = bss.olbcHt ∧
      (bss.setOpModeFlag flag on).1.supWidth = bss.supWidth := by
  unfold setOpModeFlag
  split
  · exact ⟨rfl, rfl, rfl⟩
  · split <;> exact ⟨rfl, rfl, rfl⟩

theorem htOperationUpdate_same (htOption : Bool) : (bss.htOperationUpdate htOption).1.num = bss.num ∧
      (bss.htOperationUpdate htOption).1.olbcHt = bss.olbcHt ∧
      (bss.htOperationUpdate htOption).1.supWidth = bss.supWidth := by
  cases htOption with
  | true => exact ⟨rfl, rfl, rfl⟩
  | false =>
    have first := bss.setOpModeFlag_same htInfoOperationModeNonGfDevsPresent
      (bss.num .htNoGf ≠ 0)
    unfold htOperationUpdate
    rw [if_neg Bool.false_ne_true]
    generalize bss.setOpModeFlag htInfoOperationModeNonGfDevsPresent
      (bss.num .htNoGf ≠ 0) = flagged at first
    obtain ⟨flagged, gfChanges⟩ := flagged
    dsimp only at first ⊢
    have second := flagged.setOpModeFlag_same htInfoOperationModeNonHtStaPresent
      (decide (flagged.num .noHt ≠ 0) || flagged.olbcHt)
    generalize flagged.setOpModeFlag htInfoOperationModeNonHtStaPresent
      (decide (flagged.num .noHt ≠ 0) || flagged.olbcHt) = both at second
    obtain ⟨both, htChanges⟩ := both
    rw [first.1, first.2.1, first.2.2] at second
    generalize (if both.num .noHt ≠ 0 ∨ both.htOpMode &&& htInfoOperationModeNonGfDevsPresent ≠ 0 then opModeMixed
      else _ : U16) = newOpMode
    split <;> exact second

theorem announceHt_same (htOption : Bool) :
    (bss.announceHt htOption).num = bss.num ∧ (bss.announceHt htOption).olbcHt = bss.olbcHt ∧
      (bss.announceHt htOption).supWidth = bss.supWidth ∧
      (htOption = true → (bss.announceHt htOption).htOpMode = bss.htOpMode) := by
  have same := bss.htOperationUpdate_same htOption
  have mode : htOption = true → (bss.htOperationUpdate htOption).1.htOpMode = bss.htOpMode := by
    intro ht
    subst ht
    rfl
  unfold announceHt
  generalize bss.htOperationUpdate htOption = updated at same mode
  obtain ⟨updated, changes⟩ := updated
  dsimp only at same mode ⊢
  split <;> exact ⟨same.1, same.2.1, same.2.2, mode⟩

end BssProtection

namespace ProtectedAp

variable {Sta Xmit Recv : Type} [DecidableEq Sta] {before middle after : ProtectedAp Sta Xmit Recv}
  {psta : Sta}

structure Recounted (psta : Sta) (counted : StaProperty → Bool)
    (before after : ProtectedAp Sta Xmit Recv) : Prop where
  ap : after.ap = before.ap
  events : after.events = before.events
  caps : after.caps = update before.caps psta { before.caps psta with counted }
  num : ∀ property, after.bss.num property = before.bss.num property +
    (((counted property).toNat : Int) - ((before.caps psta).counted property).toNat)
  olbcHt : after.bss.olbcHt = before.bss.olbcHt
  supWidth : after.bss.supWidth = before.bss.supWidth
  htOpMode : before.ap.settings.htOption = true → after.bss.htOpMode = before.bss.htOpMode

theorem Recounted.trans {first second : StaProperty → Bool}
    (one : Recounted psta first before middle) (two : Recounted psta second middle after) :
    Recounted psta second before after := by
  have record : middle.caps psta = { before.caps psta with counted := first } := by
    rw [one.caps, update_self]
  constructor
  case ap => exact two.ap.trans one.ap
  case events => exact two.events.trans one.events
  case caps => rw [two.caps, record, one.caps, Function.update_idem]
  case num =>
    intro property
    rw [two.num, one.num, record]
    dsimp only
    omega
  case olbcHt => exact two.olbcHt.trans one.olbcHt
  case supWidth => exact two.supWidth.trans one.supWidth
  case htOpMode =>
    intro ht
    rw [two.htOpMode (one.ap ▸ ht), one.htOpMode ht]

theorem mark_recounted (self : ProtectedAp Sta Xmit Recv) (psta : Sta) (property : StaProperty) (on : Bool) :
    Recounted psta (update (self.caps psta).counted property on) self
      (self.mark psta property on) := by
  unfold mark
  dsimp only
  split
  · rename_i same
    have unchanged : update (self.caps psta).counted property on = (self.caps psta).counted := by
      rw [← same, update_eq_self]
    rw [unchanged]
    exact ⟨rfl, rfl, (update_eq_self ..).symm, by simp, rfl, rfl, fun _ => rfl⟩
  · rename_i different
    have same := self.bss.count_same property on
    refine ⟨rfl, rfl, rfl, fun other => ?_, same.1, same.2.2, fun _ => same.2.1⟩
    rw [BssProtection.count_num]
    by_cases own : other = property
    · subst own
      rw [update_self, update_self]
      have flip : (self.caps psta).counted other = !on := by
        cases on <;> simpa using different
      rw [flip]
    · rw [update_of_ne own, update_of_ne own]
      omega

variable {counted : StaProperty → Bool} {earlier : Sta → StaProperty → Bool}
    {ap : AssocAp Sta Xmit Recv} {events : List MacAddr} {frame : MgntFrame MacAddr}
    {self : ProtectedAp Sta Xmit Recv} {xmitAllocated : Bool}

theorem Recounted.announced (recounted : Recounted psta counted before after) : Recounted psta counted before
      { after with bss := after.bss.announceHt after.ap.settings.htOption } := by
  have same := after.bss.announceHt_same after.ap.settings.htOption
  constructor
  case ap => exact recounted.ap
  case events => exact recounted.events
  case caps => exact recounted.caps
  case num =>
    intro property
    rw [same.1]
    exact recounted.num property
  case olbcHt => exact same.2.1.trans recounted.olbcHt
  case supWidth => exact same.2.2.1.trans recounted.supWidth
  case htOpMode =>
    intro ht
    have still : after.ap.settings.htOption = true := recounted.ap ▸ ht
    exact (same.2.2.2 still).trans (recounted.htOpMode ht)

theorem Recounted.mark (recounted : Recounted psta counted before after) (property : StaProperty) (on : Bool) :
    Recounted psta (update counted property on) before (after.mark psta property on) := by
  have next := after.mark_recounted psta property on
  rw [recounted.caps, update_self] at next
  exact recounted.trans next

theorem uncount_recounted (self : ProtectedAp Sta Xmit Recv) (psta : Sta) :
    Recounted psta (fun _ => false) self (self.uncount psta) := by
  have marked := (((((self.mark_recounted psta .nonErp false).mark .noShortSlotTime false).mark
    .noShortPreamble false).mark .htNoGf false).mark .noHt false).mark .ht20mhz false
  have none_ : update (update (update (update
      (update (update (self.caps psta).counted .nonErp false)
        .noShortSlotTime false) .noShortPreamble false) .htNoGf false) .noHt false)
        .ht20mhz false = fun _ => false := by
    funext property
    cases property <;> rfl
  rw [none_] at marked
  exact marked.announced

theorem Recounted.htCapUpdate (recounted : Recounted psta counted before after) : Recounted psta
      (if (before.caps psta).ht then
        let counted := update counted .noHt false
        let counted := if (before.caps psta).greenField then counted
          else update counted .htNoGf true
        if (before.caps psta).supWidth then counted else update counted .ht20mhz true
      else update counted .noHt true)
      before (after.htCapUpdate psta) := by
  have record : after.caps psta = { before.caps psta with counted } := by
    rw [recounted.caps, update_self]
  have same : (after.caps psta).ht = (before.caps psta).ht := by rw [record]
  have sameField : (after.caps psta).greenField = (before.caps psta).greenField := by
    rw [record]
    rfl
  have sameWidth : (after.caps psta).supWidth = (before.caps psta).supWidth := by
    rw [record]
    rfl
  have left := recounted.mark .noHt false
  unfold ProtectedAp.htCapUpdate
  cases ht : (before.caps psta).ht with
  | false =>
    simp only [same, ht, Bool.false_eq_true, if_false]
    exact recounted.mark .noHt true
  | true =>
    simp only [same, sameField, sameWidth, ht, if_true]
    cases (before.caps psta).greenField <;> cases (before.caps psta).supWidth
    · exact (left.mark .htNoGf true).mark .ht20mhz true
    · exact left.mark .htNoGf true
    · exact left.mark .ht20mhz true
    · exact left

theorem bssCapUpdate_recounted (self : ProtectedAp Sta Xmit Recv) (psta : Sta) :
    Recounted psta (self.caps psta).recounted self (self.bssCapUpdate psta) := by
  have marked := (((self.mark_recounted psta .nonErp (self.caps psta).nonErp).mark
    .noShortSlotTime (self.caps psta).noShortSlotTime).mark .noShortPreamble
    (!(self.caps psta).shortPreamble)).htCapUpdate
  refine Recounted.announced (cast (congrArg (Recounted psta · _ _) ?_) marked)
  funext property
  cases ht : (self.caps psta).ht <;> cases field : (self.caps psta).greenField <;>
    cases width : (self.caps psta).supWidth <;> cases property <;>
    simp [StaCaps.recounted, StaCaps.lacks, ht, field, width]

structure CountersProper (driver : ProtectedAp Sta Xmit Recv) (latest : Sta → StaProperty → Bool) : Prop where
  counters : driver.events = [] → ∀ property, driver.bss.num property =
    (driver.ap.stapriv.asocList.countP fun psta => latest psta property)
  htOpMode : driver.ap.settings.htOption = true → driver.bss.htOpMode = driver.bss.prescribedOpMode

structure Kept (driver : ProtectedAp Sta Xmit Recv) (latest : Sta → StaProperty → Bool) : Prop where
  listed : driver.ap.stapriv.Listed
  clear : ∀ psta, psta ∉ driver.ap.stapriv.asocList → ∀ property, (driver.caps psta).counted property = false
  num : ∀ property, driver.bss.num property =
    (driver.ap.stapriv.asocList.countP fun psta => (driver.caps psta).counted property)
  latest : ∀ psta ∈ driver.ap.stapriv.asocList,
    (∀ property, (driver.caps psta).counted property = latest psta property) ∨
      (driver.ap.stapriv.stainfo psta).hwaddr ∈ driver.events
  olbcHt : driver.bss.olbcHt = false
  htOpMode : driver.ap.settings.htOption = true → driver.bss.htOpMode = 0
  pure : driver.ap.settings.htOption = true → ∀ psta ∈ driver.ap.stapriv.asocList,
    (driver.caps psta).counted .noHt = false ∧ (driver.caps psta).counted .htNoGf = false ∧
      (driver.bss.supWidth = true → (driver.caps psta).counted .ht20mhz = false)

variable {latest : Sta → StaProperty → Bool}

omit [DecidableEq Sta] in
theorem Kept.proper (kept : before.Kept latest) : before.CountersProper latest := by
  constructor
  case counters =>
    intro settled property
    rw [kept.num]
    refine congrArg Nat.cast (List.countP_congr fun psta inside => ?_)
    obtain same | waits := kept.latest psta inside
    · rw [same]
    · rw [settled] at waits
      cases waits
  case htOpMode =>
    intro ht
    have none_ : ∀ property, (∀ psta ∈ before.ap.stapriv.asocList,
        (before.caps psta).counted property = false) → before.bss.num property = 0 := by
      intro property clear
      rw [kept.num, Nat.cast_eq_zero, List.countP_eq_zero]
      intro psta inside
      rw [clear psta inside]
      exact Bool.false_ne_true
    have noHt := none_ .noHt fun psta inside => (kept.pure ht psta inside).1
    have htNoGf := none_ .htNoGf fun psta inside => (kept.pure ht psta inside).2.1
    rw [kept.htOpMode ht, BssProtection.prescribedOpMode, noHt, htNoGf, kept.olbcHt]
    cases width : before.bss.supWidth with
    | false => simp [opModePure]
    | true =>
      rw [none_ .ht20mhz fun psta inside => (kept.pure ht psta inside).2.2 width]
      simp [opModePure]

theorem Kept.recount (kept : before.Kept earlier) (recounted : Recounted psta counted before after)
    (elsewhere : ∀ other, other ≠ psta → earlier other = latest other)
    (expected : ∀ property, counted property = (decide (psta ∈ before.ap.stapriv.asocList) && latest psta property))
    (pure : before.ap.settings.htOption = true → counted .noHt = false ∧ counted .htNoGf = false ∧
        (before.bss.supWidth = true → counted .ht20mhz = false)) : after.Kept latest := by
  have own : (after.caps psta).counted = counted := by
    rw [recounted.caps, update_self]
  have others : ∀ other, other ≠ psta → after.caps other = before.caps other := by
    intro other apart
    rw [recounted.caps, update_of_ne apart]
  constructor
  case listed =>
    rw [recounted.ap]
    exact kept.listed
  case clear =>
    intro other outside property
    rw [recounted.ap] at outside
    by_cases same : other = psta
    · subst same
      rw [own, expected, decide_eq_false outside, Bool.false_and]
    · rw [others other same]
      exact kept.clear other outside property
  case num =>
    intro property
    have has : (fun other => (after.caps other).counted property) =
        update (fun other => (before.caps other).counted property) psta
          (counted property) := by
      funext other
      by_cases same : other = psta
      · subst same
        rw [own, update_self]
      · rw [others other same, update_of_ne same]
    rw [recounted.num, recounted.ap, has, kept.num]
    by_cases inside : psta ∈ before.ap.stapriv.asocList
    · rw [countP_update _ _ kept.listed.asocNodup inside]
    · rw [expected, decide_eq_false inside, Bool.false_and, kept.clear psta inside property]
      have same : update (fun other => (before.caps other).counted property) psta false =
          fun other => (before.caps other).counted property :=
        Function.update_eq_self_iff.mpr (kept.clear psta inside property).symm
      rw [same, sub_self, add_zero]
  case latest =>
    intro other inside
    rw [recounted.ap] at inside ⊢
    rw [recounted.events]
    by_cases same : other = psta
    · subst same
      refine .inl fun property => ?_
      rw [own, expected, decide_eq_true inside, Bool.true_and]
    · rw [others other same, ← elsewhere other same]
      exact kept.latest other inside
  case olbcHt => exact recounted.olbcHt.trans kept.olbcHt
  case htOpMode =>
    intro ht
    rw [recounted.ap] at ht
    exact (recounted.htOpMode ht).trans (kept.htOpMode ht)
  case pure =>
    intro ht other inside
    rw [recounted.ap] at ht inside
    rw [recounted.supWidth]
    by_cases same : other = psta
    · subst same
      rw [own]
      exact pure ht
    · rw [others other same]
      exact kept.pure ht other inside

theorem Kept.leave (kept : before.Kept latest)
    (recounted : Recounted psta (fun _ => false) before middle) (caps : after.caps = middle.caps)
    (bss : after.bss = middle.bss) (events : after.events = middle.events)
    (settings : after.ap.settings = before.ap.settings) (listed : after.ap.stapriv.Listed)
    (asocList : after.ap.stapriv.asocList = unlink psta before.ap.stapriv.asocList)
    (hwaddr : ∀ other, other ≠ psta →
      (after.ap.stapriv.stainfo other).hwaddr = (before.ap.stapriv.stainfo other).hwaddr) :
    after.Kept latest := by
  have own : (after.caps psta).counted = fun _ => false := by
    rw [caps, recounted.caps, update_self]
  have others : ∀ other, other ≠ psta → after.caps other = before.caps other := by
    intro other apart
    rw [caps, recounted.caps, update_of_ne apart]
  constructor
  case listed => exact listed
  case clear =>
    intro other outside property
    by_cases same : other = psta
    · rw [same, own]
    · rw [others other same]
      refine kept.clear other (fun inside => outside ?_) property
      rw [asocList]
      exact mem_unlink.mpr ⟨inside, same⟩
  case num =>
    intro property
    have has : (unlink psta before.ap.stapriv.asocList).countP
        (fun other => (after.caps other).counted property) =
        (unlink psta before.ap.stapriv.asocList).countP
          fun other => (before.caps other).counted property := by
      refine List.countP_congr fun other inside => ?_
      rw [others other (mem_unlink.mp inside).2]
    rw [bss, recounted.num, asocList, has, countP_unlink _ kept.listed.asocNodup
      (fun outside => kept.clear psta outside property), kept.num]
    simp only [Bool.toNat_false]
    omega
  case latest =>
    intro other inside
    rw [asocList] at inside
    obtain ⟨earlier, apart⟩ := mem_unlink.mp inside
    rw [others other apart, hwaddr other apart, events, recounted.events]
    exact kept.latest other earlier
  case olbcHt =>
    rw [bss, recounted.olbcHt]
    exact kept.olbcHt
  case htOpMode =>
    intro ht
    rw [settings] at ht
    rw [bss, recounted.htOpMode ht]
    exact kept.htOpMode ht
  case pure =>
    intro ht other inside
    rw [settings] at ht
    rw [asocList] at inside
    obtain ⟨earlier, apart⟩ := mem_unlink.mp inside
    rw [others other apart, bss, recounted.supWidth]
    exact kept.pure ht other earlier

theorem Kept.apFreeSta (kept : before.Kept latest) (used : before.ap.stapriv.Hashed psta) :
    (before.apFreeSta (some psta)).Kept latest := by
  have freed := freeStainfo_freed before.ap.stapriv psta
  have recounted := before.uncount_recounted psta
  have same : (before.apFreeSta (some psta)).ap = before.ap.apFreeSta (some psta) := by
    rw [← recounted.ap]
    rfl
  refine kept.leave recounted rfl rfl rfl ?_ ?_ ?_ fun other apart => ?_
  · rw [same]
    rfl
  · rw [same]
    exact kept.listed.freeStainfo used
  · rw [same]
    exact freed.asocList
  · rw [same]
    exact congrArg StaRecord.hwaddr (freed.others other apart)

theorem Kept.receiveLeave (kept : before.Kept latest) (sa bssid : MacAddr) :
    (before.receiveLeave sa bssid).Kept latest := by
  unfold ProtectedAp.receiveLeave
  split
  · exact kept
  · split
    · exact kept
    · cases found : before.ap.stapriv.getStainfo sa with
      | none => exact kept
      | some psta => exact kept.apFreeSta (AssocAp.getStainfo_hashed found)

theorem Kept.rtwDelSta (kept : before.Kept latest) (staAddr : MacAddr) :
    (before.rtwDelSta staAddr).Kept latest := by
  unfold ProtectedAp.rtwDelSta
  cases found : before.ap.stapriv.getStainfo staAddr with
  | none => exact kept
  | some psta => exact kept.apFreeSta (AssocAp.getStainfo_hashed found)

omit [DecidableEq Sta] in
theorem Kept.retable (kept : before.Kept latest)
    (listed : ap.stapriv.Listed) (settings : ap.settings = before.ap.settings)
    (asocList : ap.stapriv.asocList = before.ap.stapriv.asocList)
    (hwaddr : ∀ psta ∈ before.ap.stapriv.asocList,
      (ap.stapriv.stainfo psta).hwaddr = (before.ap.stapriv.stainfo psta).hwaddr) :
    ({ before with ap } : ProtectedAp Sta Xmit Recv).Kept latest := by
  constructor
  case listed => exact listed
  case clear =>
    intro psta outside
    exact kept.clear psta (asocList ▸ outside)
  case num =>
    intro property
    rw [asocList]
    exact kept.num property
  case latest =>
    intro psta inside
    have earlier : psta ∈ before.ap.stapriv.asocList := asocList ▸ inside
    dsimp only
    rw [hwaddr psta earlier]
    exact kept.latest psta earlier
  case olbcHt => exact kept.olbcHt
  case htOpMode =>
    intro ht
    exact kept.htOpMode (settings ▸ ht)
  case pure =>
    intro ht psta inside
    exact kept.pure (settings ▸ ht) psta (asocList ▸ inside)

omit [DecidableEq Sta] in
theorem Kept.walk {step : ProtectedAp Sta Xmit Recv → Sta → ProtectedAp Sta Xmit Recv}
    {ready : ProtectedAp Sta Xmit Recv → Sta → Prop}
    (keeps : ∀ (self : ProtectedAp Sta Xmit Recv) (psta : Sta), self.Kept latest → ready self psta →
      (step self psta).Kept latest ∧ ∀ other, other ≠ psta → ready self other → ready (step self psta) other)
    (kept : before.Kept latest) {todo : List Sta} (nodup : todo.Nodup)
    (all : ∀ psta ∈ todo, ready before psta) : (todo.foldl step before).Kept latest := by
  induction todo generalizing before with
  | nil => exact kept
  | cons first rest ih =>
    obtain ⟨absent, nodup⟩ := List.nodup_cons.mp nodup
    have stepped := keeps before first kept (all first List.mem_cons_self)
    rw [List.foldl_cons]
    refine ih stepped.1 nodup fun psta inside => ?_
    exact stepped.2 psta (fun same => absent (same ▸ inside))
      (all psta (List.mem_cons_of_mem _ inside))

theorem Kept.expireAuth (kept : before.Kept latest) (used : before.ap.stapriv.Hashed psta)
    (loose : psta ∉ before.ap.stapriv.asocList) :
    (before.expireAuth psta).Kept latest ∧ ∀ other, other ≠ psta →
      before.ap.stapriv.Hashed other ∧ other ∉ before.ap.stapriv.asocList →
      (before.expireAuth psta).ap.stapriv.Hashed other ∧
        other ∉ (before.expireAuth psta).ap.stapriv.asocList := by
  unfold ProtectedAp.expireAuth AssocAp.expireAuth
  dsimp only
  split
  · exact ⟨kept, fun _ _ => id⟩
  · split
    · have freed := freeStainfo_freed
        { before.ap.stapriv with authList := unlink psta before.ap.stapriv.authList } psta
      have asocList := freed.asocList.trans (unlink_absent loose)
      constructor
      · refine kept.retable ((kept.listed.leaveAuth psta).freeStainfo used) rfl asocList ?_
        intro other inside
        exact congrArg StaRecord.hwaddr (freed.others other fun same => loose (same ▸ inside))
      · intro other apart ready
        exact ⟨(hashed_freeStainfo _ psta other).mpr ⟨ready.1, apart⟩, fun inside => ready.2 (asocList ▸ inside)⟩
    · exact ⟨kept.retable kept.listed rfl rfl fun _ _ => rfl, fun _ _ => id⟩

theorem renewAsoc_table (ap : AssocAp Sta Xmit Recv) (psta : Sta) :
    (ap.renewAsoc psta).stapriv = ap.stapriv ∧ (ap.renewAsoc psta).settings = ap.settings := by
  unfold AssocAp.renewAsoc AssocAp.chkStaIsAlive
  by_cases quiet : ap.rxPkts psta = ap.lastRxPkts psta
  · rw [if_pos quiet]
    cases (ap.stapriv.stainfo psta).asleep <;> exact ⟨rfl, rfl⟩
  · rw [if_neg quiet]
    exact ⟨rfl, rfl⟩

theorem Kept.freed {ap : AssocAp Sta Xmit Recv} (kept : before.Kept latest)
    (used : before.ap.stapriv.Hashed psta) (table : ap.stapriv =
      ({ before.ap.stapriv with
        asocList := unlink psta before.ap.stapriv.asocList } : Adapter Sta Xmit Recv).freeStainfo psta)
    (settings : ap.settings = before.ap.settings) :
    ({ before.uncount psta with ap } : ProtectedAp Sta Xmit Recv).Kept latest ∧
      ∀ other, other ≠ psta → before.ap.stapriv.Hashed other → ap.stapriv.Hashed other := by
  have freed := freeStainfo_freed
    { before.ap.stapriv with asocList := unlink psta before.ap.stapriv.asocList } psta
  rw [← table] at freed
  constructor
  · refine kept.leave (before.uncount_recounted psta) rfl rfl rfl settings ?_ ?_
      fun other apart => congrArg StaRecord.hwaddr (freed.others other apart)
    · rw [table]
      exact (kept.listed.leaveAsoc psta).freeStainfo used
    · refine freed.asocList.trans (unlink_absent fun inside => ?_)
      exact (mem_unlink.mp inside).2 rfl
  · intro other apart inside
    rw [table]
    exact (hashed_freeStainfo _ psta other).mpr ⟨inside, apart⟩

theorem Kept.expireAsoc (kept : before.Kept latest) (used : before.ap.stapriv.Hashed psta) :
    (before.expireAsoc psta).Kept latest ∧ ∀ other, other ≠ psta →
      before.ap.stapriv.Hashed other → (before.expireAsoc psta).ap.stapriv.Hashed other := by
  obtain ⟨table, settings⟩ := renewAsoc_table before.ap psta
  unfold ProtectedAp.expireAsoc AssocAp.expireAsoc
  dsimp only
  generalize before.ap.renewAsoc psta = next at table settings
  by_cases zero : (next.auth psta).expireTo = 0
  · rw [if_neg (by omega), if_pos zero]
    refine ⟨kept.retable (table ▸ kept.listed) settings (table ▸ rfl) fun _ _ => by rw [table], fun _ _ inside => ?_⟩
    rw [table]
    exact inside
  · by_cases last : (next.auth psta).expireTo = 1
    · rw [if_pos last, if_neg zero, if_pos (by omega)]
      exact kept.freed used (by rw [← table]; rfl) settings
    · rw [if_neg last, if_neg zero, if_neg (by omega)]
      refine ⟨kept.retable (table ▸ kept.listed) settings (table ▸ rfl) fun _ _ => ?_, fun _ _ inside => ?_⟩
      · dsimp only [AssocAp.store]
        rw [table]
      · dsimp only [AssocAp.store]
        rw [table]
        exact inside

theorem Kept.expireTimeoutChk (kept : before.Kept latest) : before.expireTimeoutChk.Kept latest := by
  have first := kept.walk
    (fun _ _ kept ready => kept.expireAuth ready.1 ready.2)
    kept.listed.authNodup
    fun psta inside => ⟨kept.listed.authHashed psta inside, kept.listed.apart psta inside⟩
  exact first.walk (fun _ _ kept ready => kept.expireAsoc ready)
    first.listed.asocNodup first.listed.asocHashed

theorem Kept.flushSta (kept : before.Kept latest) (used : before.ap.stapriv.Hashed psta) :
    (before.flushSta psta).Kept latest ∧ ∀ other, other ≠ psta →
      before.ap.stapriv.Hashed other → (before.flushSta psta).ap.stapriv.Hashed other :=
  kept.freed used rfl rfl

theorem Kept.rtwStaFlush (kept : before.Kept latest) : before.rtwStaFlush.Kept latest :=
  kept.walk (fun _ _ kept ready => kept.flushSta ready) kept.listed.asocNodup
    kept.listed.asocHashed

omit [DecidableEq Sta] in
theorem Kept.recap {caps : Sta → StaCaps} (kept : before.Kept latest)
    (same : ∀ psta, (caps psta).counted = (before.caps psta).counted)
    (waits : before.events ⊆ events) :
    ({ before with caps, events } : ProtectedAp Sta Xmit Recv).Kept latest := by
  constructor
  case listed => exact kept.listed
  case clear =>
    intro psta outside property
    rw [same]
    exact kept.clear psta outside property
  case num =>
    intro property
    simp only [same]
    exact kept.num property
  case latest =>
    intro psta inside
    rw [same]
    exact (kept.latest psta inside).imp_right fun waiting => waits waiting
  case olbcHt => exact kept.olbcHt
  case htOpMode => exact kept.htOpMode
  case pure =>
    intro ht psta inside
    rw [same]
    exact kept.pure ht psta inside

omit [DecidableEq Sta] in
theorem authTaken_iff (self : ProtectedAp Sta Xmit Recv) (frame : MgntFrame MacAddr) :
    self.authTaken frame = true ↔ self.ap.Authenticates frame := by
  simp only [authTaken, AssocAp.Authenticates, Bool.and_eq_true, Bool.not_eq_true',
    Bool.or_eq_false_iff, Bool.and_eq_false_iff, decide_eq_false_iff_not, beq_eq_false_iff_ne]
  refine and_congr_right fun _ => ?_
  omega

theorem Kept.onAuth (kept : before.Kept latest)
    (uncounted : before.authTaken frame = true → ∀ psta ∈ before.ap.stapriv.asocList,
      before.ap.stapriv.getStainfo frame.sa = some psta →
      ∀ property, (before.caps psta).counted property = false) (xmitAllocated : Bool) :
    (before.onAuth frame xmitAllocated).Kept latest := by
  obtain ⟨settings, gets, fails⟩ := before.ap.onAuth_table frame xmitAllocated
  unfold ProtectedAp.onAuth
  generalize (before.ap.onAuth frame xmitAllocated).2 = ap at settings gets fails
  by_cases taken : before.ap.Authenticates frame
  · have authTaken := (before.authTaken_iff frame).mpr taken
    obtain ⟨listed, table⟩ := AssocAp.authTable_takeRecord frame.sa kept.listed
    rw [← gets taken] at listed table
    rw [authTaken]
    cases table with
    | full found none_ same =>
      rw [found, none_]
      exact kept.retable listed settings (by rw [same]) fun _ _ => by rw [same]
    | found psta found asocList stainfo =>
      rw [found]
      have none_ : (before.caps psta).counted = fun _ => false := by
        funext property
        by_cases inside : psta ∈ before.ap.stapriv.asocList
        · exact uncounted authTaken psta inside found property
        · exact kept.clear psta inside property
      have recounted : Recounted psta (fun _ => false) before before :=
        ⟨rfl, rfl, by rw [← none_, update_eq_self], by simp [none_], rfl, rfl, fun _ => rfl⟩
      exact kept.leave recounted rfl rfl rfl settings listed asocList
        fun other _ => by rw [stainfo]
    | fresh psta found given asocList loose stainfo =>
      rw [found, given]
      have tabled := kept.retable listed settings asocList fun other inside => by
        rw [stainfo other fun same => loose (same ▸ inside)]
      refine tabled.recap (fun other => ?_) (List.Subset.refl _)
      by_cases same : other = psta
      · subst same
        rw [update_self]
        funext property
        exact (kept.clear other loose property).symm
      · rw [update_of_ne same]
  · have authTaken : before.authTaken frame = false :=
      Bool.eq_false_iff.mpr fun on => taken ((before.authTaken_iff frame).mp on)
    rw [authTaken]
    have same := fails taken
    exact kept.retable (same ▸ kept.listed) settings (by rw [same]) fun _ _ => by rw [same]

def latestAfter (self : ProtectedAp Sta Xmit Recv) (latest : Sta → StaProperty → Bool)
    (frame : MgntFrame MacAddr) : Sta → StaProperty → Bool :=
  match self.requester frame with
  | none => latest
  | some pstat =>
      if self.accepts frame pstat then update latest pstat frame.lacks else latest

theorem Kept.join {caps : Sta → StaCaps} {lacks : StaProperty → Bool} (kept : before.Kept latest)
    (lists : AssocAp.RequestLists true psta before.ap ap)
    (found : before.ap.stapriv.getStainfo (before.ap.stapriv.stainfo psta).hwaddr = some psta)
    (same : ∀ psta, (caps psta).counted = (before.caps psta).counted)
    (waits : before.events ⊆ events)
    (carried : (∀ property, (before.caps psta).counted property = lacks property) ∨
      (before.ap.stapriv.stainfo psta).hwaddr ∈ events) :
    ({ before with ap, caps, events } : ProtectedAp Sta Xmit Recv).Kept
      (update latest psta lacks) := by
  have members : ∀ other, other ∈ ap.stapriv.asocList ↔ other ∈ before.ap.stapriv.asocList ∨ other = psta := by
    intro other
    rw [lists.asocList, if_pos rfl]
    exact AssocAp.mem_enlisted
  constructor
  case listed =>
    refine (kept.listed.join found).same ?_ ?_ ?_
    · exact ⟨lists.same.freeStaQueue, lists.same.staHash, lists.same.hwaddr⟩
    · rw [lists.authList, if_pos rfl]
    · rw [lists.asocList, if_pos rfl]
  case clear =>
    intro other outside property
    rw [same]
    exact kept.clear other (fun inside => outside ((members other).mpr (.inl inside))) property
  case num =>
    intro property
    simp only [same]
    rw [kept.num, lists.asocList, if_pos rfl]
    by_cases inside : psta ∈ before.ap.stapriv.asocList
    · rw [decide_eq_true inside, if_pos rfl]
    · rw [decide_eq_false inside, if_neg Bool.false_ne_true, List.countP_append,
        List.countP_singleton, kept.clear psta inside]
      simp
  case latest =>
    intro other inside
    rw [same, lists.same.hwaddr]
    by_cases own : other = psta
    · subst own
      rw [update_self]
      exact carried
    · rw [update_of_ne own]
      have earlier := ((members other).mp inside).resolve_right own
      exact (kept.latest other earlier).imp_right fun waiting => waits waiting
  case olbcHt => exact kept.olbcHt
  case htOpMode =>
    intro ht
    exact kept.htOpMode (lists.settings ▸ ht)
  case pure =>
    intro ht other inside
    have on : before.ap.settings.htOption = true := lists.settings ▸ ht
    dsimp only
    rw [same]
    by_cases earlier : other ∈ before.ap.stapriv.asocList
    · exact kept.pure on other earlier
    · exact ⟨kept.clear other earlier _, kept.clear other earlier _, fun _ => kept.clear other earlier _⟩

omit [DecidableEq Sta] in
theorem requester_some (asks : self.requester frame = some psta) :
    self.ap.apState ≠ false ∧ ¬ frame.len < frame.ieStart ∧ self.ap.stapriv.getStainfo frame.sa = some psta ∧
      (self.ap.auth psta).success ≠ false := by
  unfold requester at asks
  split at asks
  · cases asks
  · rename_i gets
    obtain ⟨on, long⟩ := not_or.mp gets
    cases found : self.ap.stapriv.getStainfo frame.sa with
    | none =>
      rw [found] at asks
      cases asks
    | some pstat =>
      rw [found] at asks
      dsimp only at asks
      split at asks
      · rename_i success
        cases asks
        exact ⟨on, long, rfl, by simp [success]⟩
      · cases asks

theorem onAssocReq_requester (asks : self.requester frame = some psta) :
    self.ap.onAssocReq frame xmitAllocated = self.ap.checkRequest frame psta xmitAllocated := by
  obtain ⟨on, long, found, success⟩ := requester_some asks
  rw [AssocAp.onAssocReq, if_neg on, if_neg long, found]
  exact if_neg success

theorem onAssocReq_nobody {reply : Option AssocReply} (asks : self.requester frame = none)
    (done : self.ap.onAssocReq frame xmitAllocated = some (reply, ap)) : ap = self.ap := by
  unfold requester at asks
  unfold AssocAp.onAssocReq at done
  by_cases off : self.ap.apState = false
  · rw [if_pos off] at done
    cases done
    rfl
  · by_cases short : frame.len < frame.ieStart
    · rw [if_neg off, if_pos short] at done
      cases done
      rfl
    · rw [if_neg off, if_neg short] at done
      rw [if_neg (not_or.mpr ⟨off, short⟩)] at asks
      cases found : self.ap.stapriv.getStainfo frame.sa with
      | none =>
        rw [found] at done
        cases done
        rfl
      | some pstat =>
        rw [found] at done asks
        dsimp only at done asks
        by_cases fails : (self.ap.auth pstat).success = false
        · rw [if_pos fails] at done
          cases done
          rfl
        · rw [if_pos (by simpa using fails)] at asks
          cases asks

omit [DecidableEq Sta] in
theorem getStainfo_own {self : AssocAp Sta Xmit Recv} {mac : MacAddr}
    (found : self.stapriv.getStainfo mac = some psta) :
    self.stapriv.getStainfo (self.stapriv.stainfo psta).hwaddr = some psta := by
  rw [(getStainfo_eq_some found).2]
  unfold getStainfo at found ⊢
  rw [lookupAddr_lookupAddr]
  exact found

def Carried (self : ProtectedAp Sta Xmit Recv) (frame : MgntFrame MacAddr)
    (eventAllocated : Bool) (pstat : Sta) : Prop :=
  eventAllocated = true ∨ (self.ap.stapriv.stainfo pstat).hwaddr ∈ self.events ∨
    ∀ property, (self.caps pstat).counted property = frame.lacks property

theorem Kept.onAssocReq {eventAllocated : Bool} (kept : before.Kept latest)
    (carried : ∀ pstat, before.requester frame = some pstat → before.accepts frame pstat = true →
      before.Carried frame eventAllocated pstat)
    (done : before.onAssocReq frame xmitAllocated eventAllocated = some after) :
    after.Kept (before.latestAfter latest frame) := by
  obtain ⟨⟨reply, ap⟩, handled, built⟩ := Option.map_eq_some_iff.mp done
  unfold latestAfter
  cases asks : before.requester frame with
  | none =>
    rw [asks] at built
    subst built
    rw [onAssocReq_nobody asks handled]
    exact kept
  | some pstat =>
    rw [asks] at built
    subst built
    rw [onAssocReq_requester asks] at handled
    have lists := AssocAp.checkRequest_lists handled
    have found := getStainfo_own (requester_some asks).2.2.1
    have recorded : ∀ other, (update before.caps pstat
        ((before.caps pstat).request before.ap.settings frame) other).counted =
        (before.caps other).counted := by
      intro other
      by_cases own : other = pstat
      · subst own
        rw [update_self]
        exact (before.caps other).request_counted before.ap.settings frame
      · rw [update_of_ne own]
    dsimp only
    rw [show ((before.ap.settings.refusal frame == some none) &&
      (before.ap.giveAid pstat).isSome) = before.accepts frame pstat from rfl] at lists
    cases accepted : before.accepts frame pstat with
    | false =>
      rw [accepted] at lists
      rw [Bool.false_and, if_neg Bool.false_ne_true, if_neg Bool.false_ne_true]
      have tabled := kept.retable (kept.listed.same lists.same lists.authList lists.asocList)
        lists.settings lists.asocList fun other _ => lists.same.hwaddr other
      exact tabled.recap recorded (List.Subset.refl _)
    | true =>
      rw [accepted] at lists
      rw [Bool.true_and, if_pos rfl]
      refine kept.join lists found recorded ?_ ?_
      · split
        · exact List.subset_append_left ..
        · exact List.Subset.refl _
      · obtain allocated | waits | counted := carried pstat asks accepted
        · rw [if_pos allocated]
          exact .inr (List.mem_append_right _ (List.mem_singleton_self _))
        · refine .inr ?_
          split
          · exact List.mem_append_left _ waits
          · exact waits
        · exact .inl counted

structure EventMeets (driver : ProtectedAp Sta Xmit Recv) (latest : Sta → StaProperty → Bool)
    (psta : Sta) (allowed : Bool) : Prop where
  recorded : allowed = true → ∀ property, (driver.caps psta).lacks property =
    (decide (psta ∈ driver.ap.stapriv.asocList) && latest psta property)
  stale : allowed = true → ∀ property, property = .htNoGf ∨ property = .ht20mhz →
    (driver.caps psta).counted property = true → (driver.caps psta).lacks property = true
  /-- A station that `access_ctrl` does not allow is counted for what it lacks as it is. -/
  denied : allowed = false → ∀ property, (driver.caps psta).counted property =
    (decide (psta ∈ driver.ap.stapriv.asocList) && latest psta property)
  pure : allowed = true → driver.ap.settings.htOption = true →
    (driver.caps psta).lacks .noHt = false ∧ (driver.caps psta).lacks .htNoGf = false ∧
      (driver.bss.supWidth = true → (driver.caps psta).lacks .ht20mhz = false)

theorem EventMeets.recounted (meets : self.EventMeets latest psta true) (property : StaProperty) :
    (self.caps psta).recounted property = (self.caps psta).lacks property := by
  have stale := meets.stale rfl property
  cases property with
  | htNoGf | ht20mhz =>
    cases counted : (self.caps psta).counted _ with
    | false => exact (congrArg (· || _) counted).trans (Bool.false_or _)
    | true =>
      have lacking := stale (by simp) counted
      exact (congrArg (· || _) counted).trans lacking.symm
  | _ => rfl

theorem Kept.dequeue {macaddr : MacAddr} (kept : before.Kept latest) (queued : before.events = macaddr :: events)
    (known : ∀ psta ∈ before.ap.stapriv.asocList, before.ap.stapriv.getStainfo macaddr = some psta →
      ∀ property, (before.caps psta).counted property = earlier psta property)
    (elsewhere : ∀ psta, before.ap.stapriv.getStainfo macaddr ≠ some psta → earlier psta = latest psta) :
    ({ before with events } : ProtectedAp Sta Xmit Recv).Kept earlier := by
  refine { kept with latest := fun psta inside => ?_ }
  by_cases found : before.ap.stapriv.getStainfo macaddr = some psta
  · exact .inl (known psta inside found)
  · rw [elsewhere psta found]
    refine (kept.latest psta inside).imp_right fun waits => ?_
    rw [queued] at waits
    refine (List.mem_cons.mp waits).resolve_left fun same => found ?_
    rw [← same]
    exact kept.listed.found psta inside

theorem Kept.stassocEventCallback {allowed : Bool} (kept : before.Kept latest)
    (meets : ∀ macaddr events psta, before.events = macaddr :: events →
      before.ap.stapriv.getStainfo macaddr = some psta →
      before.EventMeets latest psta allowed) :
    (before.stassocEventCallback allowed).Kept latest := by
  unfold ProtectedAp.stassocEventCallback
  cases queued : before.events with
  | nil => exact kept
  | cons macaddr events =>
    dsimp only
    cases allowed with
    | false =>
      rw [if_neg Bool.false_ne_true]
      refine kept.dequeue queued (fun psta inside found property => ?_) fun _ _ => rfl
      have denied := (meets macaddr events psta queued found).denied rfl property
      rw [denied, decide_eq_true inside, Bool.true_and]
    | true =>
      rw [if_pos rfl]
      cases found : before.ap.stapriv.getStainfo macaddr with
      | none =>
        refine kept.dequeue queued (fun psta _ some_ => ?_) fun _ _ => rfl
        rw [found] at some_
        cases some_
      | some psta =>
        have event := meets macaddr events psta queued found
        -- until it is counted again, the station lacks what it is counted for
        have waiting : ({ before with events } : ProtectedAp Sta Xmit Recv).Kept
            (update latest psta (before.caps psta).counted) := by
          refine kept.dequeue queued (fun other _ some_ property => ?_) fun other apart => ?_
          · rw [found] at some_
            cases some_
            rw [update_self]
          · exact update_of_ne
              (fun same => apart (found.trans (congrArg some same.symm))) ..
        refine waiting.recount (bssCapUpdate_recounted _ psta)
          (fun other apart => update_of_ne apart ..) (fun property => ?_) fun ht => ?_
        · exact (event.recounted property).trans (event.recorded rfl property)
        · have pure := event.pure rfl ht
          exact ⟨(event.recounted _).trans pure.1, (event.recounted _).trans pure.2.1,
            fun width => (event.recounted _).trans (pure.2.2 width)⟩

def ScanMeets (self : ProtectedAp Sta Xmit Recv) (frame : SurveyFrame) (antenna channel : U8) : Prop :=
  self.bss.wifiSpec = true → self.bss.bwmodeUpdated = false → ∀ bss,
    frame.collectHead antenna = some bss → frame.coexistCheck (frame.collectTail channel bss) ≠ .noHt

omit [DecidableEq Sta] in
theorem collectBssInfo_same {frame : SurveyFrame}
    {antenna channel : U8} (meets : self.ScanMeets frame antenna channel) :
    self.collectBssInfo frame antenna channel = self := by
  unfold collectBssInfo
  cases collected : frame.collectHead antenna with
  | none => rfl
  | some bss =>
    refine if_neg fun counts => ?_
    exact meets counts.1 counts.2.1 bss collected counts.2.2

theorem onAssocReq_nobody_isSome (asks : self.requester frame = none) :
    self.ap.onAssocReq frame xmitAllocated ≠ none := by
  refine AssocAp.onAssocReq_isSome fun pstat on long found success => absurd asks ?_
  rw [requester, if_neg (by simp [on, long]), found]
  simp [success]

end ProtectedAp

structure ProtectionTrack (Sta Xmit Recv : Type) where
  driver : ProtectedAp Sta Xmit Recv
  latest : Sta → StaProperty → Bool

inductive ProtectionAction where
  | auth (frame : MgntFrame MacAddr) (xmitAllocated : Bool)
  | assocReq (frame : MgntFrame MacAddr) (xmitAllocated eventAllocated : Bool)
  | stassocEvent (allowed : Bool)
  | deAuth (sa bssid : MacAddr)
  | disassoc (sa bssid : MacAddr)
  | delSta (staAddr : MacAddr)
  | expireTimeout
  | staFlush
  | scan (frame : SurveyFrame) (antenna channel : U8)
  | other

namespace ProtectionTrack

variable {Sta Xmit Recv : Type}

def Proper (track : ProtectionTrack Sta Xmit Recv) : Prop :=
  track.driver.CountersProper track.latest

structure Starts (track : ProtectionTrack Sta Xmit Recv) : Prop where
  freeNodup : track.driver.ap.stapriv.freeStaQueue.Nodup
  unhashed : ∀ psta ∈ track.driver.ap.stapriv.freeStaQueue, ¬ track.driver.ap.stapriv.Hashed psta
  authList : track.driver.ap.stapriv.authList = []
  asocList : track.driver.ap.stapriv.asocList = []
  counted : ∀ psta property, (track.driver.caps psta).counted property = false
  num : ∀ property, track.driver.bss.num property = 0
  olbcHt : track.driver.bss.olbcHt = false
  htOpMode : track.driver.bss.htOpMode = 0
  events : track.driver.events = []

structure OtherCode (before after : ProtectionTrack Sta Xmit Recv) : Prop where
  lists : Adapter.SameLists before.driver.ap.stapriv after.driver.ap.stapriv
  authList : after.driver.ap.stapriv.authList = before.driver.ap.stapriv.authList
  asocList : after.driver.ap.stapriv.asocList = before.driver.ap.stapriv.asocList
  htOption : after.driver.ap.settings.htOption = before.driver.ap.settings.htOption
  caps : after.driver.caps = before.driver.caps
  num : after.driver.bss.num = before.driver.bss.num
  olbcHt : after.driver.bss.olbcHt = before.driver.bss.olbcHt
  htOpMode : after.driver.bss.htOpMode = before.driver.bss.htOpMode
  supWidth : after.driver.bss.supWidth = before.driver.bss.supWidth
  events : after.driver.events = before.driver.events
  latest : after.latest = before.latest

variable [DecidableEq Sta]

def system (Sta Xmit Recv : Type) [DecidableEq Sta] :
    TransitionSystem (ProtectionTrack Sta Xmit Recv) ProtectionAction where
  initial := Starts
  step before action after :=
    match action with
    | .auth frame xmitAllocated =>
        after = { before with driver := before.driver.onAuth frame xmitAllocated }
    | .assocReq frame xmitAllocated eventAllocated => ∀ driver,
        before.driver.onAssocReq frame xmitAllocated eventAllocated = some driver →
          after = ⟨driver, before.driver.latestAfter before.latest frame⟩
    | .stassocEvent allowed =>
        after = { before with driver := before.driver.stassocEventCallback allowed }
    | .deAuth sa bssid | .disassoc sa bssid =>
        after = { before with driver := before.driver.receiveLeave sa bssid }
    | .delSta staAddr => after = { before with driver := before.driver.rtwDelSta staAddr }
    | .expireTimeout => after = { before with driver := before.driver.expireTimeoutChk }
    | .staFlush => after = { before with driver := before.driver.rtwStaFlush }
    | .scan frame antenna channel =>
        after = { before with driver := before.driver.collectBssInfo frame antenna channel }
    | .other => OtherCode before after

def Meets (track : ProtectionTrack Sta Xmit Recv) : ProtectionAction → Prop
  /- A station that is counted for something does not authenticate again. -/
  | .auth frame _ => track.driver.authTaken frame = true →
      ∀ psta ∈ track.driver.ap.stapriv.asocList, track.driver.ap.stapriv.getStainfo frame.sa = some psta →
        ∀ property, (track.driver.caps psta).counted property = false
  /- No check writes behind a buffer, and the event of who joins is not lost. -/
  | .assocReq frame _ eventAllocated => ∀ pstat, track.driver.requester frame = some pstat →
      track.driver.ap.settings.refusal frame ≠ none ∧
        (track.driver.accepts frame pstat = true → track.driver.Carried frame eventAllocated pstat)
  | .stassocEvent allowed => ∀ macaddr events psta, track.driver.events = macaddr :: events →
      track.driver.ap.stapriv.getStainfo macaddr = some psta →
      track.driver.EventMeets track.latest psta allowed
  | .scan frame antenna channel => track.driver.ScanMeets frame antenna channel
  | _ => True

variable {before after : ProtectionTrack Sta Xmit Recv}

omit [DecidableEq Sta] in
theorem kept_start (starts : before.Starts) : before.driver.Kept before.latest := by
  constructor
  case listed =>
    constructor
    case freeNodup => exact starts.freeNodup
    case unhashed => exact starts.unhashed
    case authNodup => exact starts.authList ▸ List.nodup_nil
    case asocNodup => exact starts.asocList ▸ List.nodup_nil
    all_goals simp [starts.authList, starts.asocList]
  case clear => exact fun psta _ => starts.counted psta
  case num => simp [starts.num, starts.asocList]
  case latest => simp [starts.asocList]
  case olbcHt => exact starts.olbcHt
  case htOpMode => exact fun _ => starts.htOpMode
  case pure => simp [starts.asocList]

omit [DecidableEq Sta] in
theorem kept_other (kept : before.driver.Kept before.latest) (same : OtherCode before after) :
    after.driver.Kept after.latest := by
  constructor
  case listed => exact kept.listed.same same.lists same.authList same.asocList
  case clear =>
    rw [same.asocList, same.caps]
    exact kept.clear
  case num =>
    rw [same.asocList, same.caps, same.num]
    exact kept.num
  case latest =>
    intro psta inside
    rw [same.caps, same.latest, same.events, same.lists.hwaddr]
    exact kept.latest psta (same.asocList ▸ inside)
  case olbcHt => exact same.olbcHt.trans kept.olbcHt
  case htOpMode =>
    rw [same.htOption, same.htOpMode]
    exact kept.htOpMode
  case pure =>
    rw [same.htOption, same.asocList, same.caps, same.supWidth]
    exact kept.pure

theorem onAssocReq_handled {frame : MgntFrame MacAddr} (xmitAllocated eventAllocated : Bool)
    (fits : ∀ pstat, before.driver.requester frame = some pstat → before.driver.ap.settings.refusal frame ≠ none) :
    ∃ driver, before.driver.onAssocReq frame xmitAllocated eventAllocated = some driver := by
  have handled : before.driver.ap.onAssocReq frame xmitAllocated ≠ none := by
    cases asks : before.driver.requester frame with
    | some pstat =>
      rw [ProtectedAp.onAssocReq_requester asks]
      exact AssocAp.checkRequest_isSome (fits pstat asks)
    | none => exact ProtectedAp.onAssocReq_nobody_isSome asks
  obtain ⟨result, done⟩ := Option.ne_none_iff_exists'.mp handled
  unfold ProtectedAp.onAssocReq
  rw [done]
  exact ⟨_, rfl⟩

theorem kept_step {action : ProtectionAction} (kept : before.driver.Kept before.latest)
    (meets : before.Meets action) (stepped : (system Sta Xmit Recv).step before action after) :
    after.driver.Kept after.latest := by
  cases action with
  | auth frame xmitAllocated =>
    subst stepped
    exact kept.onAuth meets xmitAllocated
  | assocReq frame xmitAllocated eventAllocated =>
    obtain ⟨driver, done⟩ := onAssocReq_handled xmitAllocated eventAllocated
      fun pstat asks => (meets pstat asks).1
    rw [stepped driver done]
    exact kept.onAssocReq (fun pstat asks accepted => (meets pstat asks).2 accepted) done
  | stassocEvent allowed =>
    subst stepped
    exact kept.stassocEventCallback meets
  | deAuth sa bssid | disassoc sa bssid =>
    subst stepped
    exact kept.receiveLeave sa bssid
  | delSta staAddr =>
    subst stepped
    exact kept.rtwDelSta staAddr
  | expireTimeout =>
    subst stepped
    exact kept.expireTimeoutChk
  | staFlush =>
    subst stepped
    exact kept.rtwStaFlush
  | scan frame antenna channel =>
    subst stepped
    dsimp only
    rw [ProtectedAp.collectBssInfo_same meets]
    exact kept
  | other => exact kept_other kept stepped

end ProtectionTrack

namespace ProtectionTrack

def unprotected : ProtectionTrack Bool Unit Unit where
  driver :=
    { ap :=
        { AssocAp.unassociated with
          settings := { AssocAp.unassociated.settings with htOption := true } }
      caps := fun _ => .initial
      bss := ⟨fun _ => 0, false, 0, true, 1, false, false, []⟩
      events := [] }
  latest := fun _ _ => false

def htRequest (capInfo : U8) : MgntFrame MacAddr :=
  AssocAp.requestFrame 0x61 ([45, 26, capInfo] ++ List.replicate 25 0)

variable (track : ProtectionTrack Bool Unit Unit)

def authenticated : ProtectionTrack Bool Unit Unit :=
  { track with driver := track.driver.onAuth AssocAp.authFrame true }

def requested (frame : MgntFrame MacAddr) : ProtectionTrack Bool Unit Unit :=
  ⟨(track.driver.onAssocReq frame true true).getD track.driver, track.driver.latestAfter track.latest frame⟩

def counted : ProtectionTrack Bool Unit Unit :=
  { track with driver := track.driver.stassocEventCallback true }

theorem unprotected_starts : unprotected.Starts where
  freeNodup := AssocAp.unassociated_starts.freeNodup
  unhashed := AssocAp.unassociated_starts.unhashed
  authList := rfl
  asocList := rfl
  counted := fun _ _ => rfl
  num := fun _ => rfl
  olbcHt := rfl
  htOpMode := rfl
  events := rfl

theorem requested_step (frame : MgntFrame MacAddr) :
    (system Bool Unit Unit).step track (.assocReq frame true true) (track.requested frame) := by
  intro driver done
  rw [requested, done]
  rfl

theorem authenticated_reachable : (system Bool Unit Unit).Reachable unprotected.authenticated :=
  .next (.auth AssocAp.authFrame true) (.initial unprotected_starts) rfl

variable {track}

theorem joined_reachable (reached : (system Bool Unit Unit).Reachable track) (frame : MgntFrame MacAddr) :
    (system Bool Unit Unit).Reachable (track.requested frame).counted :=
  (reached.next (.assocReq frame true true) (requested_step track frame)).next
    (.stassocEvent true) rfl

end ProtectionTrack

end Floid.Wifi
