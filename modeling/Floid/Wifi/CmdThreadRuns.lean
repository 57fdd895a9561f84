import Floid.Wifi.CmdThread

namespace Floid.Wifi

open Osk Lib
open List (append_assoc nil_append)

namespace CmdObj

variable (obj : CmdObj)

def owned : List CmdResource :=
  (if obj.cmdcode = setDrvExtraCmd ∧ obj.extra.pbuf ∧ 0 < obj.extra.sz then [.pbuf] else []) ++
    ((if obj.cmdcode ≠ joinBssCmd ∧ obj.cmdcode ≠ createBssCmd then [.parmbuf] else []) ++
      (if obj.rsp ∧ obj.rspsz ≠ 0 ∧ obj.cmdcode ≠ readBbregCmd ∧ obj.cmdcode ≠ readRfregCmd then [.rsp]
        else []) ++ [.obj])

/-- An object that `free_cmd_obj` frees without its handler: it owns no further buffer, and is
no register read with a response. -/
structure Plain : Prop where
  extra : obj.cmdcode = setDrvExtraCmd → ¬(obj.extra.pbuf = true ∧ 0 < obj.extra.sz)
  read : obj.cmdcode = readBbregCmd ∨ obj.cmdcode = readRfregCmd → ¬(obj.rsp = true ∧ obj.rspsz ≠ 0)

end CmdObj

structure CmdProper (cmds : CmdThread) : Prop where
  once : cmds.offered.Perm (cmds.handled ++ cmds.queue)
  fifo : cmds.accepted = cmds.dequeued ++ cmds.queue
  ran : cmds.executed.Sublist cmds.dequeued
  freed : cmds.freed = cmds.handled.flatMap fun obj => obj.mark obj.owned
  within : ∀ read ∈ cmds.reads, read.2 ≤ read.1.cmdsz
  inTables : ∀ cmdcode ∈ cmds.lookups, cmdcode < maxH2ccmd
  finished : cmds.phase = .terminated → cmds.queue = []

def CmdMeets (cmds : CmdThread) : CmdEvent → Prop
  | .enqueueCmd obj => ∀ parm ∈ obj,
      if cmds.hwInitCompleted = false then parm.Plain else cmds.phase ≠ .terminated
  | .enqueueCmdEx obj => ∀ parm ∈ obj,
      if cmds.hwInitCompleted = false ∧ cmds.bSkip parm = false then parm.Plain
      else cmds.phase ≠ .terminated
  | .next outcome => cmds.phase = .running → cmds.driverStopped = false → ∀ obj ∈ cmds.queue.head?,
      obj.cmdcode < maxH2ccmd ∧ obj.cmdsz % 4 = 0 ∧ (obj.cmdcode = disConnectCmd → outcome.ret = h2cSuccess) ∧
        (obj.cmdcode = setAssocStaCmd → outcome.station = true)
  | .drain => cmds.phase = .draining → ∀ obj ∈ cmds.queue.head?, obj.Plain
  | _ => True

namespace CmdObj

variable {obj : CmdObj}

theorem freeCmdObj_of_not_read (notRead : obj.cmdcode ≠ readBbregCmd ∧ obj.cmdcode ≠ readRfregCmd) :
    obj.handlerFrees ++ obj.freeCmdObj = obj.owned := by
  unfold handlerFrees freeCmdObj owned
  simp [notRead.1, notRead.2]

theorem handlerFrees_eq_nil (other : obj.cmdcode ≠ setDrvExtraCmd) : obj.handlerFrees = [] :=
  if_neg fun extra => other extra.1

theorem Plain.freeCmdObj_eq (plain : obj.Plain) : obj.freeCmdObj = obj.owned := by
  by_cases notRead : obj.cmdcode ≠ readBbregCmd ∧ obj.cmdcode ≠ readRfregCmd
  · have none_ : obj.handlerFrees = [] := if_neg fun extra => plain.extra extra.1 extra.2
    rw [← freeCmdObj_of_not_read notRead, none_, nil_append]
  · have read : obj.cmdcode = readBbregCmd ∨ obj.cmdcode = readRfregCmd := by
      by_contra neither
      exact notRead (not_or.mp neither)
    have noExtra : obj.cmdcode ≠ setDrvExtraCmd := by
      rcases read with read | read <;> rw [read] <;> decide
    have noRsp := plain.read read
    have noPbuf : ¬(obj.cmdcode = setDrvExtraCmd ∧ obj.extra.pbuf = true ∧ 0 < obj.extra.sz) :=
      fun extra => noExtra extra.1
    have noOwn : ¬(obj.rsp = true ∧ obj.rspsz ≠ 0 ∧ obj.cmdcode ≠ readBbregCmd ∧
        obj.cmdcode ≠ readRfregCmd) := fun some_ => noRsp ⟨some_.1, some_.2.1⟩
    unfold freeCmdObj owned
    rw [if_neg noRsp, if_neg noPbuf, if_neg noOwn, nil_append]

theorem callbackFrees_eq {station : Bool} (disconnected : obj.cmdcode = disConnectCmd → obj.res = h2cSuccess)
    (known : obj.cmdcode = setAssocStaCmd → station = true)
    (notRead : obj.cmdcode ≠ readBbregCmd ∧ obj.cmdcode ≠ readRfregCmd) :
    obj.callbackFrees station = obj.freeCmdObj := by
  unfold callbackFrees cmdCallback
  rw [if_neg (not_or.mpr notRead)]
  by_cases join : obj.cmdcode = joinBssCmd
  · rw [if_pos join]
  by_cases disconnect : obj.cmdcode = disConnectCmd
  · rw [if_neg join, if_pos disconnect]
    exact if_neg (not_not.mpr (disconnected disconnect))
  by_cases create : obj.cmdcode = createBssCmd
  · rw [if_neg join, if_neg disconnect, if_pos create]
  by_cases survey : obj.cmdcode = siteSurveyCmd
  · rw [if_neg join, if_neg disconnect, if_neg create, if_pos survey]
  by_cases key : obj.cmdcode = setStaKeyCmd
  · rw [if_neg join, if_neg disconnect, if_neg create, if_neg survey, if_pos key]
  by_cases station_ : obj.cmdcode = setAssocStaCmd
  · rw [if_neg join, if_neg disconnect, if_neg create, if_neg survey, if_neg key, if_pos station_]
    exact if_pos (known station_)
  · rw [if_neg join, if_neg disconnect, if_neg create, if_neg survey, if_neg key, if_neg station_]

theorem executed_frees {station : Bool} (disconnected : obj.cmdcode = disConnectCmd → obj.res = h2cSuccess)
    (known : obj.cmdcode = setAssocStaCmd → station = true) :
    obj.handlerFrees ++ obj.callbackFrees station = obj.owned := by
  by_cases notRead : obj.cmdcode ≠ readBbregCmd ∧ obj.cmdcode ≠ readRfregCmd
  · rw [callbackFrees_eq disconnected known notRead, freeCmdObj_of_not_read notRead]
  · have read : obj.cmdcode = readBbregCmd ∨ obj.cmdcode = readRfregCmd := by
      by_contra neither
      exact notRead (not_or.mp neither)
    have noOwn : ¬(obj.rsp = true ∧ obj.rspsz ≠ 0 ∧ obj.cmdcode ≠ readBbregCmd ∧
        obj.cmdcode ≠ readRfregCmd) := fun some_ => notRead some_.2.2
    have heap : obj.cmdcode ≠ joinBssCmd ∧ obj.cmdcode ≠ createBssCmd := by
      rcases read with read | read <;> rw [read] <;> decide
    unfold handlerFrees callbackFrees cmdCallback owned
    rw [if_pos read, if_neg noOwn, if_pos heap]
    rfl

end CmdObj

namespace CmdThread

variable {cmds : CmdThread} {obj : CmdObj}

theorem proper_reject (proper : CmdProper cmds) (plain : obj.Plain) : CmdProper (cmds.reject obj) where
  __ := proper
  once := by
    have moved : (cmds.handled ++ cmds.queue ++ [obj]).Perm (cmds.handled ++ [obj] ++ cmds.queue) := by
      rw [append_assoc, append_assoc]
      exact List.perm_append_comm.append_left _
    exact (proper.once.append_right [obj]).trans moved
  freed := by
    change cmds.freed ++ obj.mark obj.freeCmdObj = (cmds.handled ++ [obj]).flatMap _
    rw [List.flatMap_append, proper.freed, plain.freeCmdObj_eq, List.flatMap_singleton]

theorem proper_accept (proper : CmdProper cmds) (alive : cmds.phase ≠ .terminated) : CmdProper (cmds.accept obj) where
  __ := proper
  once := by
    change (cmds.offered ++ [obj]).Perm (cmds.handled ++ (cmds.queue ++ [obj]))
    rw [← append_assoc]
    exact proper.once.append_right [obj]
  fifo := by
    change cmds.accepted ++ [obj] = cmds.dequeued ++ (cmds.queue ++ [obj])
    rw [← append_assoc, proper.fifo]
  finished terminated := absurd terminated alive

theorem execute_spec {outcome : CmdOutcome} (code : obj.cmdcode < maxH2ccmd) (size : obj.cmdsz % 4 = 0)
    (disconnected : obj.cmdcode = disConnectCmd → outcome.ret = h2cSuccess)
    (known : obj.cmdcode = setAssocStaCmd → outcome.station = true) :
    ∃ executed, (executed = cmds.executed ∨ executed = cmds.executed ++ [obj]) ∧
      cmds.execute obj outcome =
        { cmds with
          reads := cmds.reads ++ [(obj, obj.cmdsz)]
          lookups := cmds.lookups ++ [obj.cmdcode]
          executed
          freed := cmds.freed ++ obj.mark obj.owned } := by
  have whole : rnd4 obj.cmdsz = obj.cmdsz := by
    unfold rnd4
    rw [if_pos size]
    omega
  unfold execute
  rw [whole]
  rw [if_pos code.le, if_pos code]
  by_cases handler : hasHandler obj.cmdcode = true
  · have frees : obj.handlerFrees ++ { obj with res := outcome.ret }.callbackFrees outcome.station =
        obj.owned :=
      @CmdObj.executed_frees { obj with res := outcome.ret } outcome.station disconnected known
    rw [if_pos handler, frees]
    exact ⟨_, .inr rfl, rfl⟩
  · have noHandler : obj.handlerFrees = [] := by
      refine CmdObj.handlerFrees_eq_nil fun extra => handler ?_
      rw [extra]
      decide
    have frees := @CmdObj.executed_frees obj outcome.station
      (fun disconnect => absurd (by rw [disconnect]; decide) handler) known
    rw [noHandler, nil_append] at frees
    rw [if_neg handler, frees]
    exact ⟨_, .inl rfl, rfl⟩

theorem perm_handled {offered handled rest : List CmdObj} (once : offered.Perm (handled ++ obj :: rest)) :
    offered.Perm (handled ++ [obj] ++ rest) := by
  rw [append_assoc]
  exact once

theorem proper_next {outcome : CmdOutcome} (proper : CmdProper cmds) (meets : CmdMeets cmds (.next outcome)) :
    CmdProper (cmds.next outcome) := by
  unfold next
  split
  · rename_i running
    split
    · exact { proper with finished := fun terminated => nomatch terminated }
    · rename_i going
      cases waiting : cmds.queue with
      | nil => exact proper
      | cons obj rest =>
        dsimp only
        obtain ⟨code, size, disconnected, known⟩ :=
          meets running (Bool.not_eq_true _ ▸ going) obj (by rw [waiting]; rfl)
        obtain ⟨executed, ran, result⟩ := @execute_spec
          { cmds with
            queue := rest
            dequeued := cmds.dequeued ++ [obj]
            handled := cmds.handled ++ [obj] } obj outcome code size disconnected known
        rw [result]
        have once := proper.once
        have fifo := proper.fifo
        rw [waiting] at once fifo
        exact
          { once := perm_handled once
            fifo := by rw [fifo, append_assoc]; rfl
            ran := by
              rcases ran with same | more
              · rw [same]
                exact proper.ran.trans (List.sublist_append_left _ _)
              · rw [more]
                exact proper.ran.append (List.Sublist.refl _)
            freed := by
              rw [List.flatMap_append, ← proper.freed, List.flatMap_singleton]
            within := by
              intro read member
              rcases List.mem_append.mp member with member | member
              · exact proper.within read member
              · obtain rfl := List.mem_singleton.mp member
                exact Nat.le_refl _
            inTables := by
              intro cmdcode member
              rcases List.mem_append.mp member with member | member
              · exact proper.inTables cmdcode member
              · obtain rfl := List.mem_singleton.mp member
                exact code
            finished := fun terminated => by
              rw [running] at terminated
              cases terminated }
  · exact proper

theorem proper_drain (proper : CmdProper cmds) (meets : CmdMeets cmds .drain) : CmdProper cmds.drain := by
  unfold drain
  split
  · rename_i draining
    have once := proper.once
    have fifo := proper.fifo
    cases waiting : cmds.queue with
    | nil =>
      rw [waiting] at once fifo
      exact { proper with once, fifo, finished := fun _ => rfl }
    | cons obj rest =>
      rw [waiting] at once fifo
      dsimp only
      exact
        { proper with
          once := perm_handled once
          fifo := by rw [fifo, append_assoc]; rfl
          ran := proper.ran.trans (List.sublist_append_left _ _)
          freed := by
            rw [List.flatMap_append, ← proper.freed, List.flatMap_singleton,
              (meets draining obj (by rw [waiting]; rfl)).freeCmdObj_eq]
          finished := fun terminated => by
            rw [draining] at terminated
            cases terminated }
  · exact proper

theorem proper_enqueue (proper : CmdProper cmds) {rejects : Prop} [Decidable rejects]
    (meets : if rejects then obj.Plain else cmds.phase ≠ .terminated) :
    CmdProper (if rejects then cmds.reject obj else cmds.accept obj) := by
  split at meets
  · rename_i rejected
    rw [if_pos rejected]
    exact proper_reject proper meets
  · rename_i accepted
    rw [if_neg accepted]
    exact proper_accept proper meets

theorem proper_step {event : CmdEvent} (proper : CmdProper cmds) (meets : CmdMeets cmds event) :
    CmdProper (cmds.step event) := by
  cases event with
  | enqueueCmd parm =>
    cases parm with
    | none => exact proper
    | some obj => exact proper_enqueue proper (meets obj rfl)
  | enqueueCmdEx parm =>
    cases parm with
    | none => exact proper
    | some obj => exact proper_enqueue proper (meets obj rfl)
  | hwInit completed => exact { proper with }
  | detectRfOff detect => exact { proper with }
  | stop => exact { proper with }
  | interrupt =>
    change CmdProper (if cmds.phase = .running then { cmds with phase := .draining } else cmds)
    split
    · exact { proper with finished := fun terminated => nomatch terminated }
    · exact proper
  | next outcome => exact proper_next proper meets
  | drain => exact proper_drain proper meets

theorem proper_started (started : cmds.Started) : CmdProper cmds where
  once := by rw [started.offered, started.handled, started.queue]; exact List.Perm.refl _
  fifo := by rw [started.accepted, started.dequeued, started.queue]; rfl
  ran := by rw [started.executed]; exact List.nil_sublist _
  freed := by rw [started.freed, started.handled]; rfl
  within := by rw [started.reads]; exact fun _ member => nomatch member
  inTables := by rw [started.lookups]; exact fun _ member => nomatch member
  finished _ := started.queue

end CmdThread

def plainObj (id cmdcode cmdsz : Nat) : CmdObj where
  id := id
  cmdcode := cmdcode
  res := 0
  cmdsz := cmdsz
  rsp := false
  rspsz := 0
  extra := ⟨0, 0, false⟩

def startedCmds : CmdThread where
  queue := []
  hwInitCompleted := true
  rfOffDetect := false
  driverStopped := false
  phase := .running
  offered := []
  accepted := []
  dequeued := []
  executed := []
  handled := []
  freed := []
  reads := []
  lookups := []

theorem startedCmds_started : startedCmds.Started := ⟨rfl, rfl, rfl, rfl, rfl, rfl, rfl, rfl, rfl, rfl⟩

def oneCommand (obj : CmdObj) : CmdThread :=
  (startedCmds.step (.enqueueCmd (some obj))).step (.next ⟨h2cSuccess, false⟩)

end Floid.Wifi
