import Floid.Wifi.AggregationPlan

namespace Floid.Wifi

open Floid.Osk Floid.Lib TxAttrib

def PlacedFrame.stop (placed : PlacedFrame) : Nat :=
  placed.memStart + placed.coalesced.attrib.lastTxcmdsz

def Transfer.place (transfer : Transfer) (placed : PlacedFrame) : Nat :=
  max placed.start transfer.start

def Transfer.descriptors (transfer : Transfer) : List Nat :=
  transfer.placed.map fun placed => transfer.place placed - transfer.start

/-- What `xmitframe_coalesce` has written for a frame is in a region: the header, the fragments,
and every byte that has changed. -/
structure PlacedFrame.Contained (stale : U16) (priv : TxPriv) (placed : PlacedFrame)
    (first : Nat) : Prop where
  header : first ≤ placed.memStart ∧ placed.memStart + wlanhdrOffset ≤ placed.stop
  fragments : ∀ fragment ∈ placed.coalesced.fragments, first ≤ fragment.start ∧
    fragment.payload + fragment.count + placed.coalesced.attrib.icvRoom ≤ placed.stop
  others : ∀ (known : Option TxSta) (before : List U8),
    xmitframeCoalesce stale priv known placed.frame.attrib (some placed.start) placed.pktOffset
      placed.frame.pkt before = some placed.coalesced →
    SameOutside first placed.stop before placed.coalesced.buffer

structure Transfer.LaidOut (stale : U16) (priv : TxPriv) (bulkSize usbTxAggDescNum : Nat)
    (transfer : Transfer) : Prop where
  aligned : ∀ placed ∈ transfer.placed, transfer.place placed % 8 = 0
  inside : ∀ placed ∈ transfer.placed, placed.stop ≤ maxXmitbufSz
  disjoint : transfer.placed.Pairwise fun placed other =>
    placed.stop ≤ transfer.place other ∨ other.stop ≤ transfer.place placed
  contained : ∀ placed ∈ transfer.placed, placed.Contained stale priv (transfer.place placed)
  aggNum : transfer.aggNum = transfer.placed.length
  length : transfer.length % bulkSize ≠ 0
  blocks : ∀ block, inBlock bulkSize transfer.descriptors block ≤ usbTxAggDescNum

/-- A frame fits into the region that has been counted for it: the state allows to send, and it goes
into one fragment, no shorter than the room that is cleared for a header. -/
def FitsRegion (priv : TxPriv) (psta : TxSta) (frame : TxFrame) : Prop :=
  (priv.addresses frame.attrib).isSome = true ∧ OneFragment frame.attrib frame.body ∧
    wlanhdrOffset ≤ frame.attrib.builtLength priv psta frame.body

section Regions

variable {stale : U16} {priv : TxPriv} {psta : TxSta} {frame : TxFrame} {pbufStart pktOffset : Nat}
  {buffer : List U8} {coalesced : Coalesced}

theorem builtLength_le (prepared : frame.Prepared) (sta : TxSta) :
    frame.attrib.builtLength priv sta frame.body ≤ xmitframeNeedLength frame.attrib := by
  rw [xmitframeNeedLength_eq prepared, builtLength, micLen]
  by_cases tkip : frame.attrib.encrypt = .tkip
  · rw [if_pos tkip]
    split <;> omega
  · rw [if_neg tkip, if_neg fun both => tkip both.1]

theorem xmitframeNeedLength_le (prepared : frame.Prepared) (sta : TxSta) :
    xmitframeNeedLength frame.attrib ≤ frame.attrib.builtLength priv sta frame.body + 8 := by
  rw [xmitframeNeedLength_eq prepared, builtLength, micLen]
  split <;> split <;> omega

theorem xmitframeCoalesce_built
    (ran : xmitframeCoalesce stale priv (some psta) frame.attrib (some pbufStart) pktOffset frame.pkt
      buffer = some coalesced) :
    ∃ built, buildFragments priv psta frame.attrib pbufStart pktOffset frame.pkt buffer = some built ∧
      coalesced.attrib = built.attrib ∧ coalesced.fragments = built.fragments := by
  simp only [xmitframeCoalesce, Option.bind_eq_bind, Option.bind_eq_some_iff] at ran
  obtain ⟨built, build, ran⟩ := ran
  refine ⟨built, build, ?_⟩
  split at ran
  · cases ran
    exact ⟨rfl, rfl⟩
  · simp only [Option.bind_eq_some_iff, Option.pure_def, Option.some.injEq] at ran
    obtain ⟨_, _, rfl⟩ := ran
    exact ⟨rfl, rfl⟩

variable {built : Coalesced} {after before : TxSta}

theorem buildFragments_unaddressed (updated : frame.attrib.Updated)
    (unaddressed : ¬ (priv.addresses frame.attrib).isSome = true)
    (ran : buildFragments priv psta frame.attrib pbufStart pktOffset frame.pkt buffer = some built) :
    built.attrib = frame.attrib := by
  have failed : (makeWlanhdr priv psta frame.attrib).1 = false := by
    rw [makeWlanhdr_made updated]
    exact Bool.eq_false_iff.mpr unaddressed
  simp only [buildFragments, Option.bind_eq_bind, Option.bind_eq_some_iff] at ran
  obtain ⟨headed, _, ran⟩ := ran
  rw [failed] at ran
  cases ran
  rfl

theorem buildFragments_beyond (updated : frame.attrib.Updated)
    (threshold : frame.attrib.Threshold) (several : ¬ OneFragment frame.attrib frame.body)
    (addressed : (priv.addresses frame.attrib).isSome = true)
    (ran : buildFragments priv psta frame.attrib pbufStart pktOffset frame.pkt buffer = some built) :
    ∃ fragment ∈ built.fragments, pbufStart + txdescSize + pktOffset * packetOffsetSz +
      built.attrib.lastTxcmdsz < fragment.payload + fragment.count + built.attrib.icvRoom := by
  obtain ⟨_, _, looped, _, _, written, _, mic⟩ := buildFragments_made updated addressed ran
  obtain ⟨attribIs, _⟩ := xmitframeAddmic_cases mic
  obtain ⟨later, fragments, ends, behind⟩ := written.first
  have goesOn := mt (packetDone_iff updated threshold frame.body).mp several
  have some_ : later ≠ [] := fun none_ => goesOn (ends.mp none_)
  have lastIs : built.fragments.getLast? = some (later.getLast some_) := by
    rw [fragments, List.getLast?_cons, List.getLast?_eq_some_getLast some_]
    rfl
  have member := List.getLast_mem some_
  have inside : later.getLast some_ ∈ built.fragments := by
    rw [fragments]
    exact List.mem_cons_of_mem _ member
  refine ⟨_, inside, ?_⟩
  have start := behind _ member
  have payload : (later.getLast some_).payload = (later.getLast some_).start + frame.attrib.hdrlen +
    frame.attrib.ivLen := written.payloads _ inside
  have next := @nextMemStart_ge (frame.attrib.packed frame.body)
    (pbufStart + txdescSize + pktOffset * packetOffsetSz)
    (putSnap frame.attrib.etherType ++ fragmentData (frame.attrib.packed frame.body)
      (putSnap frame.attrib.etherType) frame.body).length
  have room : built.attrib.icvRoom = frame.attrib.icvRoom := by
    rw [attribIs]
    rfl
  have icv : frame.attrib.icvRoom ≤ 18 := by
    have overhead := updated.overhead_le
    have hdrlen := updated.hdrlen
    omega
  have size : built.attrib.lastTxcmdsz ≤ frame.attrib.txcmdsz (later.getLast some_).count + 8 := by
    rw [attribIs]
    change (frame.attrib.packed _).txcmdsz ((built.fragments.getLast?.map FragmentPlace.count).getD 0) +
      (if _ then 8 else 0) ≤ _
    rw [lastIs]
    exact Nat.add_le_add_left (by split <;> omega) _
  rw [txcmdsz] at size
  rw [room]
  have ends_ := Nat.le_trans next start
  omega

section Placed

variable {placed : PlacedFrame} {first : Nat}

theorem memStart_mod (aligned : placed.start % 8 = 0) : placed.memStart % 4 = 0 := by
  rw [PlacedFrame.memStart, txdescSize, packetOffsetSz]
  omega

theorem PlacedFrame.Contained.fits (contained : placed.Contained stale priv first)
    (prepared : placed.frame.Prepared) (aligned : placed.start % 8 = 0)
    (ran : xmitframeCoalesce stale priv (some psta) placed.frame.attrib (some placed.start)
      placed.pktOffset placed.frame.pkt buffer = some placed.coalesced) :
    FitsRegion priv psta placed.frame := by
  have ⟨updated, threshold, _, unsent⟩ := prepared
  obtain ⟨built, build, attribs, fragments⟩ := xmitframeCoalesce_built ran
  have header := contained.header.2
  rw [PlacedFrame.stop, attribs] at header
  have addressed : (priv.addresses placed.frame.attrib).isSome = true := by
    by_contra unaddressed
    rw [buildFragments_unaddressed updated unaddressed build, unsent, wlanhdrOffset] at header
    omega
  have one : OneFragment placed.frame.attrib placed.frame.body := by
    by_contra several
    obtain ⟨fragment, member, beyond⟩ := buildFragments_beyond updated threshold several addressed build
    rw [← fragments] at member
    have ends := (contained.fragments fragment member).2
    rw [PlacedFrame.stop, attribs] at ends
    exact Nat.not_le.mpr beyond ends
  have within := (buildFragments_within updated threshold (memStart_mod aligned) one addressed build).1
  refine ⟨addressed, one, ?_⟩
  rw [within.attribIs] at header
  exact Nat.le_of_add_le_add_left header
theorem FitsRegion.stop (fits : FitsRegion priv psta placed.frame) (prepared : placed.frame.Prepared)
    (aligned : placed.start % 8 = 0)
    (ran : xmitframeCoalesce stale priv (some psta) placed.frame.attrib (some placed.start)
      placed.pktOffset placed.frame.pkt buffer = some placed.coalesced) :
    placed.stop = placed.memStart + placed.frame.attrib.builtLength priv psta placed.frame.body := by
  obtain ⟨addressed, one, _⟩ := fits
  obtain ⟨built, build, attribs, _⟩ := xmitframeCoalesce_built ran
  have within := (buildFragments_within prepared.updated prepared.threshold (memStart_mod aligned) one
    addressed build).1
  rw [PlacedFrame.stop, attribs, within.attribIs]
  rfl

theorem FitsRegion.contained (fits : FitsRegion priv psta placed.frame)
    (prepared : placed.frame.Prepared) (aligned : placed.start % 8 = 0) (before : first ≤ placed.memStart)
    (ran : xmitframeCoalesce stale priv (some psta) placed.frame.attrib (some placed.start)
      placed.pktOffset placed.frame.pkt buffer = some placed.coalesced)
    (small : placed.stop ≤ maxXmitbufSz) : placed.Contained stale priv first := by
  have stop := fits.stop prepared aligned ran
  obtain ⟨addressed, one, long⟩ := fits
  rw [stop] at small
  have within : ∀ sta before, xmitframeCoalesce stale priv (some sta) placed.frame.attrib
      (some placed.start) placed.pktOffset placed.frame.pkt before = some placed.coalesced →
      BuiltWithin priv sta placed.frame.attrib placed.memStart placed.frame.body before
        placed.coalesced := by
    intro sta before ran_
    have less := @builtLength_le priv _ prepared sta
    have more := @xmitframeNeedLength_le priv _ prepared psta
    refine xmitframeCoalesce_within prepared.updated prepared.threshold (memStart_mod aligned) one addressed ?_ ran_
    change placed.frame.attrib.builtLength priv sta placed.frame.body < _
    unfold maxXmitbufSz at small
    omega
  have own := within psta buffer ran
  constructor
  case header =>
    rw [stop]
    exact ⟨before, Nat.add_le_add_left long _⟩
  case fragments =>
    intro fragment member
    rw [own.fragments] at member
    rw [List.mem_singleton.mp member, stop, own.attribIs, builtLength, txcmdsz]
    refine ⟨before, ?_⟩
    change placed.memStart + placed.frame.attrib.hdrlen + placed.frame.attrib.ivLen +
      (8 + placed.frame.body.length) + placed.frame.attrib.icvRoom ≤ _
    omega
  case others =>
    intro known earlier ran_
    cases known with
    | none =>
      have left := Option.some.inj ran_
      rw [← left]
      exact SameOutside.refl ..
    | some sta =>
      have other := within sta earlier ran_
      have length : placed.frame.attrib.builtLength priv sta placed.frame.body =
          placed.frame.attrib.builtLength priv psta placed.frame.body := by
        have both := congrArg (fun attrib : TxAttrib => attrib.lastTxcmdsz)
          (other.attribIs.symm.trans own.attribIs)
        exact both
      refine other.within.mono before ?_
      rw [stop, length, Nat.max_eq_right long]

end Placed

theorem builtLength_congr (same : SameKeys before after) (attrib : TxAttrib)
    (body : List U8) : attrib.builtLength priv after body = attrib.builtLength priv before body := by
  have key : txMickey priv after attrib = txMickey priv before attrib := by
    simp only [txMickey, same.mickey]
  rw [builtLength, builtLength, key]

theorem FitsRegion.congr (same : SameKeys before after) :
    FitsRegion priv after frame ↔ FitsRegion priv before frame := by
  simp only [FitsRegion, builtLength_congr same]

end Regions

section Transfers

variable {stale : U16} {priv : TxPriv} {psta : TxSta} {bulkSize usbTxAggDescNum : Nat}
  {txdesc : TxAttrib → Nat → Nat → Vector U8 32} {first : TxFrame} {waiting : List TxFrame}
  {buffer : List U8} {transfer : Transfer}

theorem PlacedFor.region {frames : List TxFrame} {pbufTail : Nat} {sent : List U8}
    {placed : PlacedFrame} {place : Nat} (prepared : placed.frame.Prepared)
    (placedFor : PlacedFor stale priv psta frames pbufTail sent placed)
    (before : place ≤ placed.memStart) :
    (placed.Contained stale priv place → FitsRegion priv psta placed.frame) ∧
      (FitsRegion priv psta placed.frame → placed.stop = placed.memStart +
          placed.frame.attrib.builtLength priv psta placed.frame.body ∧
        (placed.stop ≤ maxXmitbufSz → placed.Contained stale priv place)) := by
  obtain ⟨sta, earlier, same, ran⟩ := placedFor.ran
  rw [← FitsRegion.congr same, ← builtLength_congr same]
  have aligned := placedFor.aligned
  exact ⟨fun contained => contained.fits prepared aligned ran, fun fits =>
    ⟨fits.stop prepared aligned ran, fun small => fits.contained prepared aligned before ran small⟩⟩

/-- A transfer is laid out as its regions say exactly if its frames fit, the first of them goes into
the buffer, and the removal of the first eight bytes keeps to the blocks. -/
theorem aggregationLayout_iff (prepared : ∀ frame ∈ first :: waiting, frame.Prepared)
    (bulk : bulkSize = 64 ∨ bulkSize = 512) (several : 2 ≤ usbTxAggDescNum)
    (ran : rtl8192cuXmitframeComplete stale priv bulkSize usbTxAggDescNum txdesc psta first waiting
      buffer = some transfer) :
    transfer.LaidOut stale priv bulkSize usbTxAggDescNum ↔
      (∀ frame ∈ (planTransfer bulkSize usbTxAggDescNum first waiting).frames, FitsRegion priv psta frame) ∧
      txdescOffset + first.attrib.builtLength priv psta first.body ≤ maxXmitbufSz ∧
      (planTransfer bulkSize usbTxAggDescNum first waiting).KeepsBlocks bulkSize usbTxAggDescNum := by
  obtain ⟨ordered, placedFor⟩ := rtl8192cuXmitframeComplete_placed prepared ran
  obtain ⟨plan, planIs, frames, starts, counts, begins, length⟩ :=
    rtl8192cuXmitframeComplete_plan (prepared first (List.mem_cons_self ..)) ran
  have positive : 0 < bulkSize := by
    rcases bulk with rfl | rfl <;> decide
  have counted : plan.Counted bulkSize usbTxAggDescNum := by
    rw [planIs]
    exact planFrames_counted positive (planFirst_going first positive several)
  have head : plan.frames.head? = some first := by
    rw [planIs]
    exact planFrames_head rfl
  rw [← planIs]
  have offset : txdescOffset = 40 := rfl
  have eight : packetOffsetSz = 8 := rfl
  have start : transfer.start = 0 ∨ transfer.start = 8 := by
    rw [begins, eight]
    split <;> simp
  have prepared_ : ∀ placed ∈ transfer.placed, placed.frame.Prepared := fun placed member =>
    prepared _ (placedFor placed member).1.frame
  have place : ∀ placed ∈ transfer.placed, transfer.place placed ≤ placed.memStart := by
    intro placed member
    have header := (placedFor placed member).1.header
    rw [Transfer.place, PlacedFrame.memStart] at *
    omega
  have descriptors : transfer.descriptors =
      plan.starts.map (· - if plan.pbufTail % bulkSize = 0 then packetOffsetSz else 0) := by
    rw [← starts, ← begins, List.map_map, Transfer.descriptors]
    refine List.map_congr_left fun placed _ => ?_
    rw [Transfer.place, Function.comp_apply]
    omega
  have region := fun placed member =>
    (placedFor placed member).1.region (prepared_ placed member) (place placed member)
  rw [← frames, List.forall_mem_map]
  constructor
  · intro layout
    have fits := fun placed member => (region placed member).1 (layout.contained placed member)
    refine ⟨fits, ?_, ?_⟩
    · rw [← frames, List.head?_map, Option.map_eq_some_iff] at head
      obtain ⟨placed, begins, rfl⟩ := head
      have member := List.mem_of_head? begins
      have inside := layout.inside placed member
      have header := (placedFor placed member).1.header
      rw [((region placed member).2 (fits placed member)).1] at inside
      omega
    · refine (counted.shifted bulk).mp ?_
      rw [← descriptors]
      exact layout.blocks
  · rintro ⟨fits, firstFits, blocks⟩
    have stop : ∀ placed ∈ transfer.placed,
        placed.stop ≤ placed.memStart + xmitframeNeedLength placed.frame.attrib := by
      intro placed member
      rw [((region placed member).2 (fits placed member)).1]
      exact Nat.add_le_add_left (builtLength_le (prepared_ placed member) psta) _
    have inside : ∀ placed ∈ transfer.placed, placed.stop ≤ maxXmitbufSz := by
      intro placed member
      have tail := (placedFor placed member).1.tail
      have header := (placedFor placed member).1.header
      have ends := stop placed member
      rcases counted.fits with room | single
      · omega
      · rw [← starts, List.map_eq_singleton_iff] at single
        obtain ⟨only, all, zero⟩ := single
        rw [all] at member
        obtain rfl := List.mem_singleton.mp member
        rw [← frames, all, List.map_singleton, List.head?_cons, Option.some.injEq] at head
        have few := (placedFor placed (by rw [all]; exact member)).1.offset
        rw [((region placed (by rw [all]; exact member)).2 (fits placed (by rw [all]; exact member))).1,
          head, PlacedFrame.memStart, zero, eight]
        have size : txdescSize = 32 := rfl
        omega
    constructor
    case aligned =>
      intro placed member
      have aligned := (placedFor placed member).1.aligned
      rw [Transfer.place]
      omega
    case inside => exact inside
    case disjoint =>
      refine ordered.imp_of_mem fun member _ behind => .inl ?_
      exact Nat.le_trans (Nat.le_trans (stop _ member) behind) (Nat.le_max_left ..)
    case contained =>
      exact fun placed member => ((region placed member).2 (fits placed member)).2 (inside placed member)
    case aggNum => exact counts
    case length =>
      have tail := counted.before 0 (by
        obtain ⟨later, first, _⟩ := counted.first
        rw [first]
        exact List.mem_cons_self ..)
      rw [length, begins]
      rcases bulk with rfl | rfl <;> split <;> omega
    case blocks =>
      rw [descriptors]
      exact (counted.shifted bulk).mpr blocks

end Transfers

def longFrame : TxFrame := ⟨{ plainAttrib with pktlen := 40 }, List.replicate 54 0, false⟩

def splitFrame : TxFrame := ⟨{ plainAttrib with pktlen := 286 }, List.replicate 300 0, false⟩

theorem longFrame_prepared : longFrame.Prepared where
  updated := ⟨.inl ⟨rfl, rfl, rfl⟩, rfl, rfl, fun swenc => absurd swenc (by decide)⟩
  threshold := ⟨by decide, by decide⟩
  pktlen := by decide
  unsent := rfl

theorem aggregationLayout_iff_long : ∃ transfer,
    rtl8192cuXmitframeComplete 0 plainPriv 512 6 (fun _ _ _ => Vector.replicate 32 0) plainSta longFrame
      [longFrame] (List.replicate 256 0) = some transfer ∧ transfer.LaidOut 0 plainPriv 512 6 := by
  have done : (rtl8192cuXmitframeComplete 0 plainPriv 512 6 (fun _ _ _ => Vector.replicate 32 0)
      plainSta longFrame [longFrame] (List.replicate 256 0)).isSome = true := by decide +kernel
  obtain ⟨transfer, ran⟩ := Option.isSome_iff_exists.mp done
  have fits : FitsRegion plainPriv plainSta longFrame := ⟨rfl, .inr (by decide), by decide⟩
  have prepared : ∀ frame ∈ [longFrame, longFrame], frame.Prepared := by
    simp [longFrame_prepared]
  refine ⟨transfer, ran, (aggregationLayout_iff prepared (.inr rfl) (by decide) ran).mpr ⟨?_, ?_, ?_⟩⟩
  · intro frame member
    have frames : (planTransfer 512 6 longFrame [longFrame]).frames = [longFrame, longFrame] := rfl
    rw [frames] at member
    simp only [List.mem_cons, List.not_mem_nil, or_false, or_self] at member
    rw [member]
    exact fits
  · decide
  · exact fun removed => absurd removed (by decide)

/-- A frame in two fragments: the second is behind the region of the frame, where the next frame
is put. -/
theorem aggregationLayout_fails : ∃ transfer,
    rtl8192cuXmitframeComplete 0 plainPriv 512 6 (fun _ _ _ => Vector.replicate 32 0) plainSta splitFrame
      [longFrame] (List.replicate 640 0) = some transfer ∧ ¬ transfer.LaidOut 0 plainPriv 512 6 := by
  have done : ((rtl8192cuXmitframeComplete 0 plainPriv 512 6 (fun _ _ _ => Vector.replicate 32 0)
      plainSta splitFrame [longFrame] (List.replicate 640 0)).map fun transfer =>
        transfer.placed.map fun placed => (placed.coalesced.fragments.map FragmentPlace.text,
          placed.stop)) = some [([(64, 228), (356, 66)], 130), ([(416, 48)], 464)] := by decide +kernel
  obtain ⟨transfer, ran, places⟩ := Option.map_eq_some_iff.mp done
  refine ⟨transfer, ran, fun layout => ?_⟩
  have first : ∃ placed ∈ transfer.placed, (placed.coalesced.fragments.map FragmentPlace.text,
      placed.stop) = ([(64, 228), (356, 66)], 130) := by
    rw [← List.mem_map, places]
    exact List.mem_cons_self ..
  obtain ⟨placed, member, facts⟩ := first
  rw [Prod.mk.injEq] at facts
  obtain ⟨texts, stop⟩ := facts
  have second : ∃ fragment ∈ placed.coalesced.fragments, fragment.text = (356, 66) := by
    rw [← List.mem_map, texts]
    simp
  obtain ⟨fragment, inside, text⟩ := second
  rw [FragmentPlace.text, Prod.mk.injEq] at text
  have ends := ((layout.contained placed member).fragments fragment inside).2
  rw [stop, text.1, text.2] at ends
  omega

end Floid.Wifi
