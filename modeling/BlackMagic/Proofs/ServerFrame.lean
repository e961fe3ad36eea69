import BlackMagic.Server

/-! What the packets that only work on the current target leave alone, and how many
replies they send. Everything the server decides by is in a view of its state: the targets, the list
and the two pointers. -/

namespace BlackMagic.Proofs.ServerFrame
open BlackMagic.Targets BlackMagic.Commands BlackMagic.Server Lib Lib.Program

structure View where
  heap : Nat → Target
  targetList : List Nat
  allocated : Nat
  curTarget : Option Nat
  lastTarget : Option Nat

def view (server : Server) : View :=
  ⟨server.heap, server.targetList, server.allocated, server.curTarget, server.lastTarget⟩

/-- A packet that answers a request. -/
def isReply : Output → Bool
  | .reply _ => true
  | _ => false

def replies (server : Server) : Nat := server.output.countP isReply

/-- The server has this view and has sent this many replies. -/
def At (v : View) (n : Nat) (server : Server) : Prop := view server = v ∧ replies server = n

def Raised (reason : Stop) : Prop := ∃ exception, reason = .raised exception

/-- The action keeps the view; it sends `count` replies, or raises an exception and sends
none. -/
def Serves {α : Type} (v : View) (count : Nat) (action : Action α) : Prop :=
  ∀ n, Meets (At v n) action (fun _ => At v (n + count)) (fun reason server => Raised reason ∧ At v n server)

variable {α β : Type} {v : View} {count : Nat}

theorem serves_pure (value : α) : Serves v 0 (pure value : Action α) := fun _ => meets_pure fun _ holds => holds

theorem Serves.bind {action : Action α} {next : α → Action β} (first : Serves v 0 action)
    (rest : ∀ value, Serves v count (next value)) : Serves v count (action >>= next) :=
  fun n => Meets.bind (first n) fun value => rest value n

theorem serves_read {next : Server → Action β} (rest : ∀ server, view server = v → Serves v count (next server)) :
    Serves v count (read >>= next) :=
  fun n => meets_reading fun server holds current same => by
    subst same
    exact rest current holds.1 n current holds

theorem serves_ite {condition : Prop} [Decidable condition] {action other : Action α}
    (holds : condition → Serves v count action) (fails : ¬ condition → Serves v count other) :
    Serves v count (if condition then action else other) :=
  fun n => meets_ite (fun yes => holds yes n) (fun no => fails no n)

theorem serves_onlyIf {condition : Prop} [Decidable condition] {action : Action Unit} (holds : Serves v 0 action) :
    Serves v 0 (onlyIf condition action) :=
  fun n => meets_onlyIf (fun _ => holds n) fun _ _ unchanged => unchanged

theorem serves_each {body : β → Action Unit} (kept : ∀ item, Serves v 0 (body item)) (list : List β) :
    Serves v 0 (each body list) :=
  fun n => meets_each fun item _ => kept item n

theorem serves_raise (exception : Exception) : Serves v count (raise exception : Action α) :=
  fun _ => meets_stop fun _ holds => ⟨⟨exception, rfl⟩, holds⟩

theorem serves_change {f : Server → Server} (kept : ∀ server, view (f server) = view server ∧ (f server).output = server.output) :
    Serves v 0 (change f : Action Unit) := by
  intro n
  refine meets_change fun server holds => ⟨(kept server).1.trans holds.1, ?_⟩
  rw [replies, (kept server).2]
  exact holds.2

theorem gdbPutpacket_serves (body : Text) : Serves v 1 (gdbPutpacket body) :=
  fun _ => meets_change fun server holds => ⟨holds.1, by simp [replies, isReply, ← holds.2]⟩

theorem gdbPutpacketz_serves (body : String) : Serves v 1 (gdbPutpacketz body) := gdbPutpacket_serves _

theorem gdbOut_serves (text : Text) : Serves v 0 (gdbOut text) :=
  fun _ => meets_change fun server holds => ⟨holds.1, by simp [replies, isReply, ← holds.2]⟩

theorem gdbPutNotificationz_serves (body : String) : Serves v 0 (gdbPutNotificationz body) :=
  fun _ => meets_change fun server holds => ⟨holds.1, by simp [replies, isReply, ← holds.2]⟩

theorem gdbSetNoackmode_serves (enable : Bool) : Serves v 0 (gdbSetNoackmode enable) := by
  refine serves_read fun server _ => Serves.bind (serves_onlyIf fun _ => ?_) fun _ => ?_
  · exact meets_change fun server holds => ⟨holds.1, by simp [replies, isReply, ← holds.2]⟩
  · exact serves_change fun server => ⟨rfl, rfl⟩

theorem perform_serves (outcome : Outcome α) : Serves v 0 (perform outcome) := by
  refine Serves.bind (serves_each gdbOut_serves _) fun _ => ?_
  cases outcome.result with
  | ok value => exact serves_pure value
  | error exception => exact serves_raise exception

theorem dereference_serves {target : Option Nat} (present : target ≠ none) (call : Call) :
    Serves v 0 (dereference target call) := by
  cases target with
  | none => exact absurd rfl present
  | some id => exact Serves.bind (serves_change fun server => ⟨rfl, rfl⟩) fun _ => serves_pure id

theorem onCurrent_serves (current : v.curTarget ≠ none) (call : Call) : Serves v 0 (onCurrent call) := by
  refine serves_read fun server seen => dereference_serves ?_ call
  have same : server.curTarget = v.curTarget := congrArg View.curTarget seen
  rw [same]
  exact current

section Handlers

variable (answers : Answers)

theorem gdbPutpacketF_serves (formatted : answers.formatted = true) (body : Text) :
    Serves v 1 (gdbPutpacketF answers body) := by
  rw [gdbPutpacketF, onlyIf, if_pos formatted]
  exact gdbPutpacket_serves body

theorem handleG_serves (current : v.curTarget ≠ none) : Serves v 1 (handleG answers) := by
  refine (onCurrent_serves current _).bind fun _ => serves_ite (fun _ => ?_) fun _ => gdbPutpacketz_serves _
  refine (onCurrent_serves current _).bind fun _ => (perform_serves _).bind fun _ => ?_
  exact gdbPutpacket_serves _

theorem handleM_serves (current : v.curTarget ≠ none) (packet : Text) : Serves v 1 (handleM answers packet) := by
  refine serves_ite (fun _ => gdbPutpacketz_serves _) fun _ => ?_
  refine (onCurrent_serves current _).bind fun _ => (perform_serves _).bind fun mem => ?_
  cases mem with
  | none => exact gdbPutpacketz_serves _
  | some mem => exact gdbPutpacket_serves _

theorem handleWriteG_serves (current : v.curTarget ≠ none) (pbuf : Buffer) : Serves v 1 (handleWriteG answers pbuf) := by
  refine (onCurrent_serves current _).bind fun _ => (serves_onlyIf ?_).bind fun _ => gdbPutpacketz_serves _
  exact (onCurrent_serves current _).bind fun _ => perform_serves _

theorem writeMemory_serves (current : v.curTarget ≠ none) (addr : Nat) (data : Text) :
    Serves v 1 (writeMemory answers addr data) := by
  refine (onCurrent_serves current _).bind fun _ => (perform_serves _).bind fun failed => ?_
  exact serves_ite (fun _ => gdbPutpacketz_serves _) fun _ => gdbPutpacketz_serves _

theorem handleWriteM_serves (current : v.curTarget ≠ none) (pbuf : Buffer) (size : Nat) :
    Serves v 1 (handleWriteM answers pbuf size) :=
  serves_ite (fun _ => gdbPutpacketz_serves _) fun _ => writeMemory_serves answers current _ _

theorem handleX_serves (current : v.curTarget ≠ none) (pbuf : Buffer) (size : Nat) :
    Serves v 1 (handleX answers pbuf size) :=
  serves_ite (fun _ => gdbPutpacketz_serves _) fun _ => writeMemory_serves answers current _ _

theorem handleH_serves (packet : Text) : Serves v 1 (handleH packet) :=
  serves_ite (fun _ => gdbPutpacketz_serves _) fun _ => gdbPutpacketz_serves _

theorem handleWriteP_serves (current : v.curTarget ≠ none) (pbuf : Buffer) (size : Nat) :
    Serves v 1 (handleWriteP answers pbuf size) := by
  rw [handleWriteP]
  cases answers.regWrite with
  | none => exact gdbPutpacketz_serves _
  | some regWrite =>
    refine (onCurrent_serves current _).bind fun _ => (perform_serves _).bind fun written => ?_
    exact serves_ite (fun _ => gdbPutpacketz_serves _) fun _ => gdbPutpacketz_serves _

theorem handleZPacket_serves (current : v.curTarget ≠ none) (packet : Text) : Serves v 1 (handleZPacket answers packet) := by
  refine Serves.bind ?_ fun ret => ?_
  · refine serves_ite (fun _ => ?_) fun _ => ?_
    · exact (onCurrent_serves current _).bind fun _ => perform_serves _
    · exact (onCurrent_serves current _).bind fun _ => perform_serves _
  · refine serves_ite (fun _ => gdbPutpacketz_serves _) fun _ => ?_
    exact serves_ite (fun _ => gdbPutpacketz_serves _) fun _ => gdbPutpacketz_serves _

theorem handleQStringReply_serves (reply param : Text) : Serves v 1 (handleQStringReply reply param) := by
  refine serves_ite (fun _ => gdbPutpacketz_serves _) fun _ => ?_
  refine serves_ite (fun _ => gdbPutpacketz_serves _) fun _ => ?_
  exact serves_ite (fun _ => gdbPutpacketz_serves _) fun _ => gdbPutpacket_serves _

private theorem describing_serves {description : Option Nat → Action Unit}
    (served : ∀ target, target ≠ none → Serves v 1 (description target)) :
    Serves v 1 (describedTarget >>= fun target => if target = none then gdbPutpacketz "E01" else description target) := by
  refine Serves.bind (serves_read fun server _ => serves_pure _) fun target => ?_
  exact serves_ite (fun _ => gdbPutpacketz_serves _) fun present => served target present

theorem execQMemoryMap_serves (param : Text) : Serves v 1 (execQMemoryMap answers param) :=
  describing_serves fun _ present => (dereference_serves present _).bind fun _ => handleQStringReply_serves _ _

theorem execQFeatureRead_serves (param : Text) : Serves v 1 (execQFeatureRead answers param) :=
  describing_serves fun _ present => (dereference_serves present _).bind fun _ => handleQStringReply_serves _ _

theorem execQThreadInfo_serves (first : Bool) : Serves v 1 (execQThreadInfo first) :=
  serves_read fun _ _ => serves_ite (fun _ => gdbPutpacketz_serves _) fun _ => gdbPutpacketz_serves _

theorem execQNoackmode_serves : Serves v 1 execQNoackmode :=
  (gdbSetNoackmode_serves true).bind fun _ => gdbPutpacketz_serves _

theorem execQSupported_serves (formatted : answers.formatted = true) : Serves v 1 (execQSupported answers) :=
  (gdbSetNoackmode_serves false).bind fun _ => gdbPutpacketF_serves answers formatted _

/-- The check for a target in front of a handler. -/
theorem errorIfNoTarget_serves {action : Action Unit} (served : v.curTarget ≠ none → Serves v 1 action) :
    Serves v 1 (errorIfNoTarget action) := by
  refine serves_read fun server seen => serves_ite (fun _ => gdbPutpacketz_serves _) fun present => served ?_
  have same : server.curTarget = v.curTarget := congrArg View.curTarget seen
  rwa [← same]

end Handlers

/-- The action keeps the view, however it ends. -/
def Plain {α : Type} (action : Action α) : Prop := ∀ v, Keeps (fun server => view server = v) action

theorem Serves.keeps {action : Action α} (served : Serves v count action) : Keeps (fun server => view server = v) action := by
  intro server seen
  have result := served (replies server) server ⟨seen, rfl⟩
  revert result
  cases action server with
  | mk ending final =>
    cases ending with
    | ok value => exact fun result => result.1
    | error reason => exact fun result => result.2.1

theorem plain_of_serves {action : Action α} (served : ∀ v, Serves v count action) : Plain action := fun v => (served v).keeps

theorem Plain.bind {action : Action α} {next : α → Action β} (first : Plain action) (rest : ∀ value, Plain (next value)) :
    Plain (action >>= next) :=
  fun v => (first v).bind fun value => rest value v

theorem plain_onlyIf {condition : Prop} [Decidable condition] {action : Action Unit} (holds : Plain action) :
    Plain (onlyIf condition action) :=
  fun v => keeps_onlyIf (holds v)

/-- A property of the view survives a plain action. -/
theorem Plain.respects {action : Action α} (plain : Plain action) (property : View → Prop) :
    Keeps (fun server => property (view server)) action := by
  intro server holds
  have result := plain (view server) server rfl
  revert result
  cases action server with
  | mk ending final =>
    cases ending with
    | ok value => exact fun (same : view final = view server) => show property (view final) from same ▸ holds
    | error reason => exact fun (same : view final = view server) => show property (view final) from same ▸ holds

section Handlers

variable (answers : Answers)

theorem errorIfNoTarget_plain {action : Action Unit} (plain : Plain action) : Plain (errorIfNoTarget action) :=
  fun v => keeps_read.bind fun _ => keeps_ite (gdbPutpacketz_serves _).keeps (plain v)

theorem gdbPutpacketF_plain (body : Text) : Plain (gdbPutpacketF answers body) :=
  plain_onlyIf (plain_of_serves fun _ => gdbPutpacket_serves body)

theorem dereference_plain (target : Option Nat) (call : Call) : Plain (dereference target call) := by
  intro v
  cases target with
  | none => exact keeps_stop _
  | some id => exact (dereference_serves (by simp) call).keeps

theorem onCurrent_plain (call : Call) : Plain (onCurrent call) :=
  fun v => keeps_read.bind fun server => dereference_plain server.curTarget call v

theorem handleHaltReason_plain : Plain handleHaltReason :=
  fun _ => keeps_read.bind fun _ => keeps_ite (gdbPutpacketz_serves _).keeps (keeps_change fun _ same => same)

theorem handleResume_plain (singleStep : Bool) : Plain (handleResume answers singleStep) := by
  refine fun v => keeps_read.bind fun _ => keeps_ite (gdbPutpacketz_serves _).keeps ?_
  exact (onCurrent_plain _ v).bind fun _ => (perform_serves _).keeps.bind fun _ => handleHaltReason_plain v

theorem handleP_plain (packet : Text) : Plain (handleP answers packet) := by
  intro v
  rw [handleP]
  cases answers.regRead with
  | none => exact (gdbPutpacketz_serves _).keeps
  | some regRead =>
    refine (onCurrent_plain _ v).bind fun _ => (perform_serves _).keeps.bind fun value => ?_
    refine keeps_ite (keeps_stop _) (keeps_ite ?_ ?_)
    · exact (gdbPutpacket_serves _).keeps
    · exact (gdbPutpacketz_serves _).keeps

theorem execQSupported_plain : Plain (execQSupported answers) :=
  fun v => (gdbSetNoackmode_serves false).keeps.bind fun _ => gdbPutpacketF_plain answers _ v

theorem execQCrc_plain (param : Text) : Plain (execQCrc answers param) := by
  refine fun v => keeps_onlyIf (keeps_read.bind fun _ => keeps_ite (gdbPutpacketz_serves _).keeps ?_)
  refine (onCurrent_plain _ v).bind fun _ => (perform_serves _).keeps.bind fun crc => ?_
  cases crc with
  | none => exact (gdbPutpacketz_serves _).keeps
  | some crc => exact gdbPutpacketF_plain answers _ v

theorem handleVStopped_plain : Plain handleVStopped := by
  refine fun v => keeps_read.bind fun _ => keeps_ite ?_ (gdbPutpacketz_serves _).keeps
  exact (gdbPutpacketz_serves _).keeps.bind fun _ => keeps_change fun _ same => same

end Handlers

end BlackMagic.Proofs.ServerFrame
