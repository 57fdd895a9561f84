import Floid.Wifi.BlockAck

namespace Floid.Wifi

open Floid.Osk Floid.Lib BackCall
open Function (update update_of_ne update_self)
open List (mem_singleton not_mem_nil)

variable {Frame : Type}

def BackFrame.reads (frame : BackFrame) : BackCall :=
  if frame.byte 1 = BackAction.addbaReq.code then
    .addbaReq frame.addbaRequest.tid frame.addbaRequest.startSeq
  else if frame.byte 1 = BackAction.addbaResp.code then
    .addbaResp ((frame.byte 5 >>> 2) &&& 0x7).toNat (frame.word 3 = 0)
  else .delba ((frame.byte 3 >>> 4) &&& 0xf).toNat (frame.byte 3 &&& 8 ≠ 0)

def BackCall.effect (accept : Bool) (psta : BaSta Frame) : BackCall → BaSta Frame
  | .addbaReq tid startSeq =>
      { psta with
        recvreorderCtrl := update psta.recvreorderCtrl tid
          (processAddbaReq (psta.recvreorderCtrl tid) startSeq accept) }
  | .addbaResp tid true =>
      { psta with
        aggEnableBitmap := psta.aggEnableBitmap ||| tidBit tid
        candidateTidBitmap := psta.candidateTidBitmap &&& ~~~tidBit tid }
  | .addbaResp tid false =>
      { psta with aggEnableBitmap := psta.aggEnableBitmap &&& ~~~tidBit tid }
  | .delba tid initiator => psta.endAgreement (!initiator) tid

namespace BaLink

structure Associated (link : BaLink Frame) (sta : Side → BaSta Frame) : Prop where
  linked : ∀ side, (link.device side).isLinked = true
  htEnable : ∀ side, (link.device side).htEnable = true
  found : ∀ side, (link.device side).stainfo (link.peer side) = some (sta side)

def aggEnabled (link : BaLink Frame) (side : Side) (tid : Nat) : Bool :=
  match (link.device side).stainfo (link.peer side) with
  | some psta => psta.inForce true tid
  | none => false

def reorderEnabled (link : BaLink Frame) (side : Side) (tid : Nat) : Bool :=
  match (link.device side).stainfo (link.peer side) with
  | some psta => psta.inForce false tid
  | none => false

def Agrees (link : BaLink Frame) : Prop :=
  (∀ side, link.channel side = []) →
    ∀ side, ∀ tid < 8, link.aggEnabled side tid = link.reorderEnabled side.other tid

def Handles (link : BaLink Frame) : Prop :=
  ∀ side frame rest, link.channel side = frame :: rest →
    (onActionBack (link.device side.other) frame).1.stainfo (link.peer side.other) =
      ((link.device side.other).stainfo (link.peer side.other)).map fun psta =>
        frame.call.effect (link.device side.other).bAcceptAddbaReq psta

end BaLink

def blockAckSystem (Frame : Type) : TransitionSystem (BaLink Frame) BaLinkAction where
  initial link :=
    (∃ sta, link.Associated sta ∧ ∀ side tid initiator, (sta side).inForce initiator tid = false) ∧
      ∀ side, link.channel side = []
  step link action after :=
    after = link.step action ∧ ∀ side tid, action = .addBa side tid → tid.toNat < 8

/-- `send_delba` is called only when all it has to end is the agreement for identifier 0
that the other device has asked for. -/
def OnlyFirstDelba (link : BaLink Frame) : BaLinkAction → Prop
  | .sendDelba side initiator =>
      ∀ psta, (link.device side).stainfo (link.peer side) = some psta →
        ∀ tid < maxTid, psta.inForce initiator tid = true → initiator = false ∧ tid = 0
  | _ => True

variable {psta : BaSta Frame}

section Bytes

theorem word_fixedWord (value : U16) :
    (value.setWidth 8).setWidth 16 ||| (((value >>> 8).setWidth 8).setWidth 16 <<< 8) = value := by
  apply BitVec.eq_of_getLsbD_eq
  intro index inside
  by_cases low : index < 8
  · simp [inside, low]
  · have high : index - 8 < 8 := by omega
    have back : 8 + (index - 8) = index := by omega
    simp [inside, low, high, back]

variable {other : Nat}

theorem tidBit_getLsbD {tid : Nat} (inside : tid < 8) (otherInside : other < 8) :
    (tidBit tid).getLsbD other = decide (other = tid) := by
  have all : ∀ tid other : Fin 8, (tidBit tid).getLsbD other = decide (other.val = tid.val) := by
    decide
  exact all ⟨tid, inside⟩ ⟨other, otherInside⟩

theorem inForce_originator {tid : Nat} (inside : tid < 8) :
    psta.inForce true tid = psta.aggEnableBitmap.getLsbD tid := by
  have masked (other : Nat) (otherInside : other < 8) :
      (psta.aggEnableBitmap &&& tidBit tid).getLsbD other =
        (psta.aggEnableBitmap.getLsbD other && decide (other = tid)) := by
    rw [BitVec.getLsbD_and, tidBit_getLsbD inside otherInside]
  cases bit : psta.aggEnableBitmap.getLsbD tid with
  | false =>
    have zero : psta.aggEnableBitmap &&& tidBit tid = 0 := by
      apply BitVec.eq_of_getLsbD_eq
      intro other otherInside
      rw [masked other otherInside, show (0 : U8).getLsbD other = false from BitVec.getLsbD_zero]
      by_cases same : other = tid
      · simp [same, bit]
      · simp [same]
    simp [BaSta.inForce, zero]
  | true =>
    have nonzero : psta.aggEnableBitmap &&& tidBit tid ≠ 0 := by
      intro zero
      have set := masked tid inside
      rw [zero, bit] at set
      simp at set
    exact decide_eq_true nonzero

variable {bitmap : U8}

theorem getLsbD_set {tid : Nat} (inside : tid < 8) (otherInside : other < 8) :
    (bitmap ||| tidBit tid).getLsbD other = (decide (other = tid) || bitmap.getLsbD other) := by
  rw [BitVec.getLsbD_or, tidBit_getLsbD inside otherInside, Bool.or_comm]

theorem getLsbD_clear {tid : Nat} (inside : tid < 8) (otherInside : other < 8) :
    (bitmap &&& ~~~tidBit tid).getLsbD other = (!decide (other = tid) && bitmap.getLsbD other) := by
  rw [BitVec.getLsbD_and, BitVec.getLsbD_not, tidBit_getLsbD inside otherInside, Bool.and_comm]
  simp [otherInside]

end Bytes

structure FrameSound (addr1 addr2 : MacAddr) (frame : BackFrame) : Prop where
  addressed : frame.addr1 = addr1
  sender : frame.addr2 = addr2
  category : frame.byte 0 = wlanCategoryBack
  action : frame.byte 1 = BackAction.addbaReq.code ∨ frame.byte 1 = BackAction.addbaResp.code ∨
    frame.byte 1 = BackAction.delba.code
  reads : frame.reads = frame.call
  tid : ∀ tid startSeq, frame.call = .addbaReq tid startSeq → tid < 8
  respTid : ∀ tid accepted, frame.call = .addbaResp tid accepted → tid < 8
  delba : ∀ tid initiator, frame.call = .delba tid initiator → tid = 0 ∧ initiator = false

section Frames

variable {adapter : BaAdapter Frame} {raddr : MacAddr}

variable (status : U16)

theorem addbaReq_tid : ((((0x0803 ||| ((status &&& 0xf) <<< 2)) : U16) >>> 2) &&& 0x0f).toNat =
      (status &&& 0xf).toNat := by
  have all : ∀ tid : Fin 16,
      ((((0x0803 ||| (BitVec.ofNat 16 tid <<< 2)) : U16) >>> 2) &&& 0x0f).toNat = tid.val := by
    decide
  have bounded : (status &&& 0xf).toNat < 16 := by
    have below := @Nat.and_le_right status.toNat (0xf : U16).toNat
    have value : (0xf : U16).toNat = 15 := rfl
    rw [BitVec.toNat_and]
    omega
  have decoded := all ⟨_, bounded⟩
  rwa [BitVec.ofNat_toNat, BitVec.setWidth_eq] at decoded

theorem shiftLeft_shiftRight_startSeq (startSeq : U16) :
    ((startSeq <<< 4) >>> 4).setWidth 12 = startSeq.setWidth 12 := by
  apply BitVec.eq_of_getLsbD_eq
  intro index inside
  have bounded : 4 + index < 16 := by omega
  have notLow : ¬4 + index < 4 := by omega
  have valid : index < 16 := by omega
  simp [inside, bounded, notLow, BitVec.getLsbD_eq_getElem valid]

theorem issueAddbaReq_reads :
    (issueAddbaReq adapter raddr status).2.reads = (issueAddbaReq adapter raddr status).2.call := by
  have paraSet : (issueAddbaReq adapter raddr status).2.word 3 =
      0x0803 ||| ((status &&& 0xf) <<< 2) := word_fixedWord _
  have isRequest : (issueAddbaReq adapter raddr status).2.byte 1 = BackAction.addbaReq.code := rfl
  rw [BackFrame.reads, if_pos isRequest]
  simp only [BackFrame.addbaRequest, AddbaRequest.tid, AddbaRequest.startSeq, paraSet, addbaReq_tid]
  congr 1
  exact (congrArg (fun word : U16 => (word >>> 4).setWidth 12) (word_fixedWord _)).trans
    (shiftLeft_shiftRight_startSeq _)

theorem issueAddbaResp_reads (inside : adapter.addbaReq.tid < 8) :
    (issueAddbaResp adapter raddr status).reads = (issueAddbaResp adapter raddr status).call := by
  have answered : (issueAddbaResp adapter raddr status).word 3 = status := word_fixedWord _
  have low : (issueAddbaResp adapter raddr status).byte 5 = adapter.addbaReq.baParaSet.setWidth 8 := rfl
  have notRequest : (issueAddbaResp adapter raddr status).byte 1 ≠ BackAction.addbaReq.code :=
    show (1 : U8) ≠ 0 by decide
  have tid : ((adapter.addbaReq.baParaSet.setWidth 8 >>> 2) &&& 0x7 : U8).toNat = adapter.addbaReq.tid := by
    have value (bits : Nat) : bits &&& 7 = bits % 8 := Nat.and_two_pow_sub_one_eq_mod bits 3
    have wide (bits : Nat) : bits &&& 15 = bits % 16 := Nat.and_two_pow_sub_one_eq_mod bits 4
    simp only [AddbaRequest.tid, BitVec.toNat_and, BitVec.toNat_ushiftRight, BitVec.toNat_setWidth,
      Nat.shiftRight_eq_div_pow, show (0x0f : U16).toNat = 15 from rfl,
      show (0x7 : U8).toNat = 7 from rfl, value, wide] at inside ⊢
    omega
  have isResponse : (issueAddbaResp adapter raddr status).byte 1 = BackAction.addbaResp.code := rfl
  rw [BackFrame.reads, if_neg notRequest, if_pos isResponse, answered, low, tid]
  rfl

theorem issueDelba_reads : (issueDelba adapter raddr status).reads = .delba 0 false := by
  have high : (issueDelba adapter raddr status).byte 3 = 0 := by
    change (((status &&& 0x1f) <<< 3) >>> 8 : U16).setWidth 8 = (0 : U8)
    apply BitVec.eq_of_getLsbD_eq
    intro index inside
    have beyond : ∀ index < 8, (0x1f#16).getLsbD (8 + index - 3) = false := by decide
    simp [beyond index inside]
  have notRequest : (issueDelba adapter raddr status).byte 1 ≠ BackAction.addbaReq.code :=
    show (2 : U8) ≠ 0 by decide
  have notResponse : (issueDelba adapter raddr status).byte 1 ≠ BackAction.addbaResp.code :=
    show (2 : U8) ≠ 1 by decide
  rw [BackFrame.reads, if_neg notRequest, if_neg notResponse, high]
  decide

theorem issueAddbaReq_sound {status : U16} (inside : (status &&& 0xf).toNat < 8) :
    FrameSound raddr adapter.myid (issueAddbaReq adapter raddr status).2 where
  addressed := rfl
  sender := rfl
  category := rfl
  action := .inl rfl
  reads := issueAddbaReq_reads status
  tid := by
    intro tid startSeq same
    cases same
    exact inside
  respTid := by
    intro tid accepted same
    cases same
  delba := by
    intro tid initiator same
    cases same

theorem issueAddbaResp_sound (inside : adapter.addbaReq.tid < 8) :
    FrameSound raddr adapter.myid (issueAddbaResp adapter raddr status) where
  addressed := rfl
  sender := rfl
  category := rfl
  action := .inr (.inl rfl)
  reads := issueAddbaResp_reads status inside
  tid := by
    intro tid startSeq same
    cases same
  respTid := by
    intro tid accepted same
    cases same
    exact inside
  delba := by
    intro tid initiator same
    cases same

theorem issueDelba_sound : FrameSound raddr adapter.myid (issueDelba adapter raddr 0) where
  addressed := rfl
  sender := rfl
  category := rfl
  action := .inr (.inr rfl)
  reads := issueDelba_reads 0
  tid := by
    intro tid startSeq same
    cases same
  respTid := by
    intro tid accepted same
    cases same
  delba := by
    intro tid initiator same
    cases same
    exact ⟨rfl, rfl⟩

structure SameDevice (before after : BaAdapter Frame) : Prop where
  myid : after.myid = before.myid
  state : after.state = before.state
  htEnable : after.htEnable = before.htEnable

theorem SameDevice.isLinked {before after : BaAdapter Frame} (same : SameDevice before after) :
    after.isLinked = before.isLinked := by
  simp only [BaAdapter.isLinked, same.state]

inductive Answers (addr1 addr2 : MacAddr) (accept : Bool) : BackCall → Option BackFrame → Prop where
  | response {tid : Nat} {startSeq : BitVec 12} {frame : BackFrame}
      (sound : FrameSound addr1 addr2 frame) (call : frame.call = .addbaResp tid accept) :
      Answers addr1 addr2 accept (.addbaReq tid startSeq) (some frame)
  | addbaResp {tid : Nat} {accepted : Bool} : Answers addr1 addr2 accept (.addbaResp tid accepted) none
  | delba {tid : Nat} {initiator : Bool} : Answers addr1 addr2 accept (.delba tid initiator) none

theorem processAddbaReqFrame_sound (request : AddbaRequest)
    (found : adapter.stainfo raddr = some psta) :
    let processed := processAddbaReqFrame { adapter with addbaReq := request } request raddr
    processed.stainfo raddr = some ((BackCall.addbaReq request.tid request.startSeq).effect
        adapter.bAcceptAddbaReq psta) ∧
      SameDevice adapter processed ∧ processed.addbaReq = request ∧
      processed.bAcceptAddbaReq = adapter.bAcceptAddbaReq := by
  simp only [processAddbaReqFrame, found, BaAdapter.setSta, update_self]
  exact ⟨rfl, ⟨rfl, rfl, rfl⟩, trivial, trivial⟩

theorem onActionBack_sound {frame : BackFrame}
    (sound : FrameSound adapter.myid raddr frame) (linked : adapter.isLinked = true)
    (htEnable : adapter.htEnable = true) (found : adapter.stainfo raddr = some psta) :
    (onActionBack adapter frame).1.stainfo raddr = some (frame.call.effect adapter.bAcceptAddbaReq psta) ∧
      SameDevice adapter (onActionBack adapter frame).1 ∧
      Answers raddr adapter.myid adapter.bAcceptAddbaReq frame.call (onActionBack adapter frame).2 := by
  have reads := sound.reads
  have mine : ¬adapter.myid ≠ frame.addr1 := not_not.mpr sound.addressed.symm
  have isLinked : ¬(!adapter.isLinked) = true := by simp [linked]
  have category : ¬frame.byte 0 ≠ wlanCategoryBack := not_not.mpr sound.category
  have ht : ¬(!adapter.htEnable) = true := by simp [htEnable]
  rw [onActionBack, if_neg mine, if_neg isLinked, sound.sender, found]
  simp only [if_neg category, if_neg ht]
  rcases sound.action with request | response | delba
  · rw [if_pos request]
    rw [BackFrame.reads, if_pos request] at reads
    have tid := sound.tid _ _ reads.symm
    rw [← reads]
    obtain ⟨sta, same, request, accept⟩ := processAddbaReqFrame_sound frame.addbaRequest found
    generalize processAddbaReqFrame { adapter with addbaReq := frame.addbaRequest }
      frame.addbaRequest raddr = processed at *
    rw [accept]
    refine ⟨sta, same, ?_⟩
    rw [← same.myid]
    refine .response (issueAddbaResp_sound _ (request ▸ tid)) ?_
    rw [issueAddbaResp, request]
    cases adapter.bAcceptAddbaReq <;> rfl
  · have notRequest : frame.byte 1 ≠ BackAction.addbaReq.code := by
      rw [response]
      decide
    rw [if_neg notRequest, if_pos response]
    rw [BackFrame.reads, if_neg notRequest, if_pos response] at reads
    rw [← reads]
    refine ⟨?_, ⟨rfl, rfl, rfl⟩, .addbaResp⟩
    simp only [BaAdapter.setSta, update_self, onAddbaResp]
    by_cases accepted : frame.word 3 = 0
    · rw [if_pos accepted, decide_eq_true accepted]
      rfl
    · rw [if_neg accepted, decide_eq_false accepted]
      rfl
  · have notRequest : frame.byte 1 ≠ BackAction.addbaReq.code := by
      rw [delba]
      decide
    have notResponse : frame.byte 1 ≠ BackAction.addbaResp.code := by
      rw [delba]
      decide
    rw [if_neg notRequest, if_neg notResponse, if_pos delba]
    rw [BackFrame.reads, if_neg notRequest, if_neg notResponse] at reads
    rw [← reads]
    refine ⟨?_, ⟨rfl, rfl, rfl⟩, .delba⟩
    simp only [BaAdapter.setSta, update_self, onDelba]
    by_cases recipient : frame.byte 3 &&& 8 = 0
    · rw [if_pos recipient, decide_eq_false (not_not.mpr recipient)]
      rfl
    · rw [if_neg recipient, decide_eq_true recipient]
      rfl

end Frames

section Loop

variable {adapter : BaAdapter Frame} {addr : MacAddr} {initiator : Bool} {psta : BaSta Frame}

theorem sendDelbaLoop_none {remaining tid : Nat}
    (none : ∀ other, tid ≤ other → other < tid + remaining → psta.inForce initiator other = false) :
    sendDelbaLoop adapter initiator addr remaining tid psta = (psta, []) := by
  induction remaining generalizing tid with
  | zero => rfl
  | succ remaining ih =>
    rw [sendDelbaLoop, none tid (Nat.le_refl _) (by omega), if_neg Bool.false_ne_true]
    exact ih fun other lower upper => none other (by omega) (by omega)

theorem sendDelbaLoop_first (only : ∀ tid < maxTid, psta.inForce initiator tid = true → initiator = false ∧ tid = 0) :
    sendDelbaLoop adapter initiator addr maxTid 0 psta = (psta, []) ∨
      initiator = false ∧ psta.inForce false 0 = true ∧
        sendDelbaLoop adapter initiator addr maxTid 0 psta =
          (psta.endAgreement false 0, [issueDelba adapter addr 0]) := by
  by_cases first : psta.inForce initiator 0 = true
  · obtain ⟨rfl, _⟩ := only 0 (by decide) first
    refine .inr ⟨rfl, first, ?_⟩
    rw [show maxTid = 15 + 1 from rfl, sendDelbaLoop, if_pos first, sendDelbaLoop_none]
    · rfl
    · intro other lower upper
      have different : other ≠ 0 := by omega
      have kept : (psta.endAgreement false 0).inForce false other = psta.inForce false other := by
        simp [BaSta.inForce, BaSta.endAgreement, different]
      rw [kept]
      by_contra inForce
      exact different (only other (by simp only [maxTid]; omega) (by simpa using inForce)).2
  · refine .inl (sendDelbaLoop_none fun other _ upper => ?_)
    by_contra inForce
    obtain ⟨rfl, rfl⟩ := only other (by omega) (by simpa using inForce)
    exact first (by simpa using inForce)

end Loop

section Settled

def BackCall.learned (tid : Nat) (bit : Bool) : BackCall → Bool
  | .addbaReq _ _ => bit
  | .addbaResp other accepted => if other = tid then accepted else bit
  | .delba other initiator => if other = tid ∧ initiator = false then false else bit

def settled (tid : Nat) : List BackFrame → Bool → Bool
  | [], bit => bit
  | frame :: rest, bit => settled tid rest (frame.call.learned tid bit)

variable {bit : Bool}

theorem settled_append {tid : Nat} (first second : List BackFrame) :
    settled tid (first ++ second) bit = settled tid second (settled tid first bit) := by
  induction first generalizing bit with
  | nil => rfl
  | cons frame rest ih => exact ih

theorem settled_none {tid : Nat} {frames : List BackFrame}
    (nothing : ∀ frame ∈ frames, ∀ bit, frame.call.learned tid bit = bit) :
    settled tid frames bit = bit := by
  induction frames with
  | nil => rfl
  | cons frame rest ih =>
    rw [settled, nothing frame List.mem_cons_self]
    exact ih fun other member => nothing other (List.mem_cons_of_mem _ member)

variable {accept : Bool} {psta : BaSta Frame} {addr1 addr2 : MacAddr} {frame : BackFrame} {tid : Nat}

theorem FrameSound.inForce_originator (sound : FrameSound addr1 addr2 frame) (inside : tid < 8) :
    (frame.call.effect accept psta).inForce true tid = frame.call.learned tid (psta.inForce true tid) := by
  cases call : frame.call with
  | addbaReq other startSeq => rfl
  | addbaResp other accepted =>
    have otherInside := sound.respTid other accepted call
    rw [Wifi.inForce_originator inside, Wifi.inForce_originator inside]
    cases accepted with
    | true =>
      simp only [effect, learned, getLsbD_set otherInside inside]
      by_cases same : tid = other
      · simp [same]
      · simp [same, Ne.symm same]
    | false =>
      simp only [effect, learned, getLsbD_clear otherInside inside]
      by_cases same : tid = other
      · simp [same]
      · simp [same, Ne.symm same]
  | delba other initiator =>
    obtain ⟨rfl, rfl⟩ := sound.delba other initiator call
    rw [Wifi.inForce_originator inside, Wifi.inForce_originator inside]
    simp only [effect, BaSta.endAgreement, learned, Bool.not_false, if_true, getLsbD_clear (by decide : 0 < 8) inside]
    by_cases same : tid = 0
    · simp [same]
    · simp [same, Ne.symm same]

theorem FrameSound.inForce_recipient (sound : FrameSound addr1 addr2 frame) :
    (frame.call.effect accept psta).inForce false tid =
      match frame.call with
      | .addbaReq other _ => if other = tid then accept else psta.inForce false tid
      | _ => psta.inForce false tid := by
  cases call : frame.call with
  | addbaReq other startSeq =>
    simp only [effect, BaSta.inForce, Bool.false_eq_true, if_false]
    by_cases same : tid = other
    · simp [same, processAddbaReq]
    · simp [same, Ne.symm same]
  | addbaResp other accepted => cases accepted <;> rfl
  | delba other initiator =>
    obtain ⟨rfl, rfl⟩ := sound.delba other initiator call
    rfl

end Settled

@[simp] theorem Side.other_other (side : Side) : side.other.other = side := by
  cases side <;> rfl

@[simp] theorem Side.other_ne (side : Side) : side.other ≠ side := by
  cases side <;> decide

theorem Side.eq_or_other (side other : Side) : other = side ∨ other = side.other := by
  cases side <;> cases other <;> decide

namespace BaLink

variable {link : BaLink Frame} {sta : Side → BaSta Frame} {side : Side}

structure Sound (link : BaLink Frame) (sta : Side → BaSta Frame) : Prop where
  associated : link.Associated sta
  frames : ∀ side, ∀ frame ∈ link.channel side, FrameSound (link.peer side) (link.device side).myid frame
  agreed : ∀ side, ∀ tid < 8,
    settled tid (link.channel side.other) ((sta side).inForce true tid) = (sta side.other).inForce false tid

variable {sent : List BackFrame}

theorem setDevice_peer {adapter : BaAdapter Frame} (same : SameDevice (link.device side) adapter) (other : Side) :
    (link.setDevice side adapter sent).peer other = link.peer other := by
  simp only [peer, setDevice]
  by_cases own : other.other = side
  · rw [own, update_self, same.myid]
  · rw [update_of_ne own]

theorem Sound.setDevice {adapter : BaAdapter Frame} (associated : link.Associated sta)
    (frames : ∀ side, ∀ frame ∈ link.channel side, FrameSound (link.peer side) (link.device side).myid frame)
    (same : SameDevice (link.device side) adapter)
    (found : adapter.stainfo (link.peer side) = some psta)
    (sentSound : ∀ frame ∈ sent, FrameSound (link.peer side) (link.device side).myid frame)
    (asOriginator : ∀ tid < 8, settled tid (link.channel side.other) (psta.inForce true tid) =
      (sta side.other).inForce false tid)
    (asRecipient : ∀ tid < 8, settled tid (link.channel side ++ sent) ((sta side.other).inForce true tid) =
        psta.inForce false tid) :
    (link.setDevice side adapter sent).Sound (update sta side psta) := by
  refine ⟨⟨?_, ?_, ?_⟩, ?_, ?_⟩
  · intro other
    rcases side.eq_or_other other with rfl | rfl
    · simp only [BaLink.setDevice, update_self]
      rw [same.isLinked, associated.linked]
    · simp only [BaLink.setDevice, update_of_ne side.other_ne]
      exact associated.linked _
  · intro other
    rcases side.eq_or_other other with rfl | rfl
    · simp only [BaLink.setDevice, update_self]
      rw [same.htEnable, associated.htEnable]
    · simp only [BaLink.setDevice, update_of_ne side.other_ne]
      exact associated.htEnable _
  · intro other
    rw [setDevice_peer same]
    rcases side.eq_or_other other with rfl | rfl
    · simpa only [BaLink.setDevice, update_self] using found
    · simpa only [BaLink.setDevice, update_of_ne side.other_ne] using
        associated.found side.other
  · intro other frame member
    rw [setDevice_peer same]
    rcases side.eq_or_other other with rfl | rfl
    · simp only [BaLink.setDevice, update_self] at member ⊢
      rw [same.myid]
      rcases List.mem_append.mp member with old | new
      · exact frames _ frame old
      · exact sentSound frame new
    · simp only [BaLink.setDevice, update_of_ne side.other_ne] at member ⊢
      exact frames _ frame member
  · intro other tid inside
    rcases side.eq_or_other other with rfl | rfl
    · simpa only [BaLink.setDevice, update_self, update_of_ne other.other_ne] using
        asOriginator tid inside
    · simpa only [BaLink.setDevice, Side.other_other, update_self,
        update_of_ne side.other_ne] using asRecipient tid inside

theorem Sound.keep {adapter : BaAdapter Frame}
    (sound : link.Sound sta) (same : SameDevice (link.device side) adapter)
    (found : adapter.stainfo (link.peer side) = some psta)
    (sameForce : ∀ initiator tid, psta.inForce initiator tid = (sta side).inForce initiator tid)
    (sentSound : ∀ frame ∈ sent, FrameSound (link.peer side) (link.device side).myid frame)
    (requests : ∀ tid, ∀ frame ∈ sent, ∀ bit, frame.call.learned tid bit = bit) :
    (link.setDevice side adapter sent).Sound (update sta side psta) := by
  refine Sound.setDevice sound.associated sound.frames same found sentSound ?_ ?_
  · intro tid inside
    rw [sameForce]
    exact sound.agreed side tid inside
  · intro tid inside
    have agreed := sound.agreed side.other tid inside
    rw [Side.other_other] at agreed
    rw [settled_append, settled_none (requests tid), sameForce]
    exact agreed

theorem Sound.addBa (sound : link.Sound sta) {tid : U8} (inside : tid.toNat < 8) :
    ∃ sta, (link.step (.addBa side tid)).Sound sta := by
  have linked := sound.associated.linked side
  have htEnable := sound.associated.htEnable side
  have found := sound.associated.found side
  have status : ((tid.setWidth 16 : U16) &&& 0xf).toNat < 8 := by
    have value (bits : Nat) : bits &&& 15 = bits % 16 := Nat.and_two_pow_sub_one_eq_mod bits 4
    simp only [BitVec.toNat_and, BitVec.toNat_setWidth, show (0xf : U16).toNat = 15 from rfl, value]
    omega
  have allowed : (link.device side).state &&& wifiFwAssocSuccess ≠ 0 ∧
      (link.device side).htEnable = true ∨ (link.device side).state &&& 0x03 = wifiFwApState := by
    simp only [BaAdapter.isLinked, Bool.or_eq_true, decide_eq_true_eq] at linked
    rcases linked with ap | associated
    · exact .inr ap
    · exact .inl ⟨associated, htEnable⟩
  refine ⟨update sta side (sta side), ?_⟩
  simp only [step, addBaHdl, found, if_pos allowed, Option.toList_some]
  refine sound.keep ⟨rfl, rfl, rfl⟩ found (fun _ _ => rfl) ?_ ?_
  · intro frame member
    rw [mem_singleton.mp member]
    exact issueAddbaReq_sound status
  · intro other frame member bit
    rw [mem_singleton.mp member]
    rfl

theorem Sound.sendDelba (sound : link.Sound sta) {initiator : Bool}
    (only : OnlyFirstDelba link (.sendDelba side initiator)) :
    ∃ sta, (link.step (.sendDelba side initiator)).Sound sta := by
  have linked : ¬(!(link.device side).isLinked) = true := by
    simp [sound.associated.linked side]
  have found := sound.associated.found side
  have ended := @sendDelbaLoop_first _ (link.device side) (link.peer side) _ _
    (only (sta side) found)
  simp only [step, Wifi.sendDelba, if_neg linked, found]
  rcases ended with none | ⟨rfl, inForce, first⟩
  · rw [none]
    refine ⟨_, sound.keep ⟨rfl, rfl, rfl⟩ ?_ (fun _ _ => rfl) ?_ ?_⟩
    · exact update_self ..
    · exact fun _ member => absurd member not_mem_nil
    · exact fun _ _ member => absurd member not_mem_nil
  · rw [first]
    refine ⟨_, Sound.setDevice sound.associated sound.frames ⟨rfl, rfl, rfl⟩ (update_self ..) ?_ ?_ ?_⟩
    · intro frame member
      rw [mem_singleton.mp member]
      exact issueDelba_sound
    · exact fun tid inside => sound.agreed side tid inside
    · intro tid inside
      have agreed := sound.agreed side.other tid inside
      rw [Side.other_other] at agreed
      rw [settled_append, agreed]
      by_cases same : tid = 0
      · subst same
        rfl
      · simp [settled, learned, issueDelba, BaSta.inForce, BaSta.endAgreement, same, Ne.symm same]

theorem Sound.deliver (sound : link.Sound sta) : ∃ sta, (link.deliver side).Sound sta := by
  cases queue : link.channel side with
  | nil => exact ⟨sta, by rwa [BaLink.deliver, queue]⟩
  | cons frame rest =>
    have member : frame ∈ link.channel side := by simp [queue]
    have frameSound := sound.frames side frame member
    have found := sound.associated.found side.other
    have sender : link.peer side.other = (link.device side).myid := by
      rw [peer, Side.other_other]
    rw [← sender] at frameSound
    obtain ⟨after, same, answers⟩ := onActionBack_sound frameSound (sound.associated.linked _)
      (sound.associated.htEnable _) found
    rw [BaLink.deliver, queue]
    simp only
    generalize onActionBack (link.device side.other) frame = result at *
    obtain ⟨adapter, answer⟩ := result
    have associated : (link.tail side rest).Associated sta :=
      ⟨sound.associated.linked, sound.associated.htEnable, sound.associated.found⟩
    have frames : ∀ other, ∀ old ∈ (link.tail side rest).channel other,
        FrameSound (link.peer other) (link.device other).myid old := by
      intro other old oldMember
      refine sound.frames other old ?_
      by_cases own : other = side
      · subst own
        rw [queue]
        exact List.mem_cons_of_mem _ (by simpa [tail] using oldMember)
      · simpa [tail, own] using oldMember
    have asOriginator : ∀ tid < 8, settled tid ((link.tail side rest).channel side.other.other)
        ((frame.call.effect (link.device side.other).bAcceptAddbaReq
          (sta side.other)).inForce true tid) = (sta side.other.other).inForce false tid := by
      intro tid inside
      have agreed := sound.agreed side.other tid inside
      simp only [Side.other_other, queue, settled] at agreed
      rw [frameSound.inForce_originator inside]
      simpa [tail] using agreed
    have other (tid : Nat) (inside : tid < 8) :
        settled tid ((link.tail side rest).channel side.other) ((sta side).inForce true tid) =
          (sta side.other).inForce false tid := by
      simpa [tail] using sound.agreed side tid inside
    have recipient := fun tid => @FrameSound.inForce_recipient _
      (link.device side.other).bAcceptAddbaReq (sta side.other) _ _ _ tid frameSound
    refine ⟨_, Sound.setDevice associated frames same after ?_ asOriginator ?_⟩
    · intro new newMember
      cases call : frame.call with
      | addbaReq =>
        rw [call] at answers
        cases answers with
        | response answerSound =>
          obtain rfl := mem_singleton.mp newMember
          exact sender.symm ▸ answerSound
      | addbaResp | delba =>
        rw [call] at answers
        cases answers
        exact absurd newMember not_mem_nil
    · intro tid inside
      rw [recipient, settled_append, Side.other_other, other tid inside]
      cases call : frame.call with
      | addbaReq =>
        rw [call] at answers
        cases answers with
        | response _ answerCall => simp [settled, answerCall, learned]
      | addbaResp | delba =>
        rw [call] at answers
        cases answers
        rfl

theorem Sound.step (sound : link.Sound sta) {action : BaLinkAction} (only : OnlyFirstDelba link action)
    (tids : ∀ side tid, action = .addBa side tid → tid.toNat < 8) :
    ∃ sta, (link.step action).Sound sta := by
  cases action with
  | addBa side tid => exact sound.addBa (tids side tid rfl)
  | setAccept side accept =>
    refine ⟨_, sound.keep ⟨rfl, rfl, rfl⟩ (sound.associated.found side) (fun _ _ => rfl) ?_ ?_⟩
    · exact fun _ member => absurd member not_mem_nil
    · exact fun _ _ member => absurd member not_mem_nil
  | sendDelba side initiator => exact sound.sendDelba only
  | deliver side => exact sound.deliver
  | transmit side tid seq =>
    simp only [BaLink.step, sound.associated.found side]
    refine ⟨_, sound.keep ⟨rfl, rfl, rfl⟩ (update_self ..) (fun _ _ => rfl) ?_ ?_⟩
    · exact fun _ member => absurd member not_mem_nil
    · exact fun _ _ member => absurd member not_mem_nil

theorem Sound.agrees (sound : link.Sound sta) : link.Agrees := by
  intro empty side tid inside
  have agreed := sound.agreed side tid inside
  rw [empty side.other, settled] at agreed
  simp only [aggEnabled, reorderEnabled, sound.associated.found]
  exact agreed

theorem Sound.handles (sound : link.Sound sta) : link.Handles := by
  intro side frame rest queue
  have frameSound := sound.frames side frame (by simp [queue])
  have found := sound.associated.found side.other
  have sender : link.peer side.other = (link.device side).myid := by
    rw [peer, Side.other_other]
  rw [← sender] at frameSound
  rw [(onActionBack_sound frameSound (sound.associated.linked _) (sound.associated.htEnable _)
    found).1, found, Option.map_some]

end BaLink

/-- In every run in which `send_delba` has nothing to end but what the other device has
asked for identifier 0, the two ends agree whenever nothing is on its way, and every frame
does exactly what it was sent for. -/
theorem blockAck_agrees {link : BaLink Frame}
    (reached : ((blockAckSystem Frame).restrict OnlyFirstDelba).Reachable link) :
    link.Agrees ∧ link.Handles := by
  have sound : ∃ sta, link.Sound sta := by
    refine @TransitionSystem.Reachable.invariant _ _ _ (fun link => ∃ sta, link.Sound sta) _ reached
      ?_ ?_
    · rintro link ⟨⟨sta, associated, nothing⟩, empty⟩
      refine ⟨sta, associated, fun side frame member => ?_, fun side tid _ => ?_⟩
      · simp [empty side] at member
      · rw [empty, settled, nothing, nothing]
    · rintro before action after ⟨sta, sound⟩ ⟨only, rfl, tids⟩
      exact sound.step only tids
  obtain ⟨sta, sound⟩ := sound
  exact ⟨sound.agrees, sound.handles⟩

def sideAddr : Side → MacAddr
  | .left => Vector.replicate 6 0x11
  | .right => Vector.replicate 6 0x22

def freshSta : BaSta U16 where
  aggEnableBitmap := 0
  candidateTidBitmap := 0
  txseqTid _ := 6
  recvreorderCtrl _ := ⟨false, 0xffff, 64, [], false⟩

def freshLink : BaLink U16 where
  device side :=
    { myid := sideAddr side
      state := match side with
        | .left => wifiFwApState
        | .right => wifiFwStationState ||| wifiFwAssocSuccess
      htEnable := true
      bAcceptAddbaReq := true
      dialogToken := 0
      addbaReq := ⟨0, 0, 0, 0⟩
      stainfo := fun addr => if addr = sideAddr side.other then some freshSta else none }
  channel _ := []

theorem freshLink_initial : (blockAckSystem U16).initial freshLink := by
  refine ⟨⟨fun _ => freshSta, ⟨?_, fun _ => rfl, ?_⟩, ?_⟩, fun _ => rfl⟩
  · intro side
    cases side <;> decide
  · intro side
    simp [freshLink, BaLink.peer]
  · intro side tid initiator
    cases initiator <;> simp [BaSta.inForce, freshSta]

def agreedLink : BaLink U16 :=
  ((freshLink.step (.addBa .left 1)).step (.deliver .left)).step (.deliver .right)

theorem blockAck_agrees_agreedLink : agreedLink.Agrees ∧ agreedLink.Handles := by
  refine blockAck_agrees ?_
  refine TransitionSystem.Reachable.next (.deliver .right) ?_ ⟨trivial, rfl, ?_⟩
  · refine TransitionSystem.Reachable.next (.deliver .left) ?_ ⟨trivial, rfl, ?_⟩
    · refine TransitionSystem.Reachable.next (.addBa .left 1) (.initial freshLink_initial)
        ⟨trivial, rfl, ?_⟩
      rintro side tid same
      cases same
      decide
    · exact fun _ _ same => absurd same (by simp)
  · exact fun _ _ same => absurd same (by simp)

def endedLink : BaLink U16 := (agreedLink.step (.sendDelba .left true)).step (.deliver .left)

theorem blockAck_disagrees : (blockAckSystem U16).Reachable endedLink ∧ ¬endedLink.Agrees := by
  constructor
  · have asked : (blockAckSystem U16).Reachable (freshLink.step (.addBa .left 1)) := by
      refine .next (.addBa .left 1) (.initial freshLink_initial) ⟨rfl, ?_⟩
      rintro side tid same
      cases same
      decide
    have received := asked.next (.deliver .left) ⟨rfl, fun _ _ same => absurd same (by simp)⟩
    have agreed : (blockAckSystem U16).Reachable agreedLink :=
      received.next (.deliver .right) ⟨rfl, fun _ _ same => absurd same (by simp)⟩
    have sent := agreed.next (.sendDelba .left true) ⟨rfl, fun _ _ same => absurd same (by simp)⟩
    exact sent.next (.deliver .left) ⟨rfl, fun _ _ same => absurd same (by simp)⟩
  · intro agrees
    have empty : ∀ side, endedLink.channel side = [] := by
      intro side
      cases side <;> decide +kernel
    have same := agrees empty .left 1 (by decide)
    have cleared : endedLink.aggEnabled .left 1 = false := by decide +kernel
    have reordering : endedLink.reorderEnabled .right 1 = true := by decide +kernel
    rw [cleared] at same
    simp [Side.other, reordering] at same

end Floid.Wifi
