import BlackMagic.Proofs.ServerEndings
import BlackMagic.Proofs.ServerTargets

/-! Which packets follow a null pointer, and which get the one reply they should get. -/

namespace BlackMagic.Proofs.ServerReplies
open BlackMagic.Targets BlackMagic.Commands BlackMagic.Server Lib Lib.Program ServerFrame TargetList ServerInvariants
open ServerEndings ServerTargets

/-- The packets that follow a null pointer: a kill, an erase or a write that loses its
target, a restart whose attach is refused, and the end of the flash operations without a
target. -/
def PassesNull (answers : Answers) (pbuf : Buffer) (size : Nat) (v : View) : Prop :=
  match packetKind (pbuf 0) with
  | .kill => KillFaults answers v
  | .reset => RestartFaults answers v
  | .verbose =>
    match parseVPacket answers (packetString pbuf size) with
    | .kill => KillFaults answers v
    | .flashErase _ _ => FlashFaults answers v answers.flashErase
    | .flashWrite _ _ => WriteFaults answers v
    | .flashDone => v.curTarget = none
    | _ => False
  | _ => False

/-- How many replies a packet should get at once. -/
def expectedReplies (pbuf : Buffer) (v : View) : Nat :=
  match packetKind (pbuf 0) with
  | .kill | .reset | .endOfTransmission => 0
  | .step | .resume | .haltReason => resumeReplies v
  | .unsupported => if pbuf 0 = 3#8 then 0 else 1
  | _ => 1

/-- The packets that get them. -/
def Answered (answers : Answers) (pbuf : Buffer) (size : Nat) (v : View) : Prop :=
  match packetKind (pbuf 0) with
  | .step | .resume => Resumes answers v
  | .readRegister => v.curTarget = none ∨ ¬ Overruns answers
  | .endOfTransmission => Releases answers v
  | .kill => KillQuiet answers v
  | .reset => RestartQuiet answers v
  | .query =>
    match execCommand (packetString pbuf size) with
    | some (.supported, _) => answers.formatted = true
    | some (.crc, param) => CrcAnswered answers v param
    | _ => True
  | .verbose => ¬ PassesNull answers pbuf size v
  | .unsupported => pbuf 0 ≠ 3#8
  | _ => True

section Packets

variable {v : View} {answers : Answers}

private theorem head_of_endOfTransmission : ∀ head : Byte, packetKind head = .endOfTransmission → head = 4#8 := by
  decide +kernel

private theorem head_of_detach : ∀ head : Byte, packetKind head = .detach → head = chr 'D' := by decide +kernel

private theorem handleVPacket_settles (pbuf : Buffer) (size : Nat) (kind : packetKind (pbuf 0) = .verbose) :
    Settles v (handleVPacket answers pbuf size) 1 (¬ PassesNull answers pbuf size v) (PassesNull answers pbuf size v) := by
  have harmless : ∀ {action : Action Unit}, Settles v action 1 True False → Settles v action 1 (¬ False) False := by
    rw [not_false_eq_true]
    exact id
  simp only [PassesNull, kind, handleVPacket]
  cases parseVPacket answers (packetString pbuf size) with
  | attach n => exact harmless (handleVAttach_settles n)
  | kill => exact handleVKill_settles
  | run => exact harmless (handleVRun_settles _)
  | flashErase addr len => exact handleVFlashErase_settles addr len
  | flashWrite addr bin => exact handleVFlashWrite_settles addr _
  | flashDone => exact handleVFlashDone_settles
  | stopped => exact harmless handleVStopped_settles
  | unsupported => exact harmless (settles_of_serves (gdbPutpacketz_serves _))

private theorem handleQPacket_settles (pbuf : Buffer) (size : Nat) :
    Settles v (handleQPacket answers pbuf size) 1
      (match execCommand (packetString pbuf size) with
        | some (.supported, _) => answers.formatted = true
        | some (.crc, param) => CrcAnswered answers v param
        | _ => True) False := by
  rw [handleQPacket]
  cases execCommand (packetString pbuf size) with
  | none => exact settles_of_serves (gdbPutpacketz_serves _)
  | some found =>
    cases found with
    | mk command param =>
      cases command with
      | rcmd => exact execQRcmd_settles pbuf size
      | supported => exact execQSupported_settles
      | memoryMap => exact settles_of_serves (execQMemoryMap_serves answers param)
      | featureRead => exact settles_of_serves (execQFeatureRead_serves answers param)
      | crc => exact execQCrc_settles param
      | c => exact settles_of_serves (gdbPutpacketz_serves _)
      | firstThreadInfo => exact settles_of_serves (execQThreadInfo_serves true)
      | nextThreadInfo => exact settles_of_serves (execQThreadInfo_serves false)
      | noackmode => exact settles_of_serves execQNoackmode_serves

theorem gdbMainLoop_settles (answers : Answers) (pbuf : Buffer) (size : Nat) (v : View) :
    Settles v (gdbMainLoop answers pbuf size) (expectedReplies pbuf v) (Answered answers pbuf size v)
      (PassesNull answers pbuf size v) := by
  have served : ∀ {action : Action Unit}, (v.curTarget ≠ none → Serves v 1 action) →
      Settles v (errorIfNoTarget action) 1 True False := fun serves => settles_of_serves (errorIfNoTarget_serves serves)
  rw [gdbMainLoop]
  simp only [expectedReplies, Answered, PassesNull]
  cases kind : packetKind (pbuf 0) with
  | verbose =>
    have settles := @handleVPacket_settles v answers pbuf size kind
    simp only [PassesNull, kind] at settles
    exact settles
  | query =>
    exact handleQPacket_settles pbuf size
  | readRegisters =>
    exact served fun current => handleG_serves answers current
  | readMemory =>
    exact served fun current => handleM_serves answers current _
  | writeRegisters =>
    exact served fun current => handleWriteG_serves answers current pbuf
  | writeMemory =>
    exact served fun current => handleWriteM_serves answers current pbuf size
  | thread =>
    exact settles_of_serves (handleH_serves _)
  | step =>
    exact handleResume_settles true
  | resume =>
    exact handleResume_settles false
  | haltReason =>
    exact handleHaltReason_settles
  | readRegister =>
    exact handleP_settles _
  | writeRegister =>
    exact served fun current => handleWriteP_serves answers current pbuf size
  | fileIo =>
    exact settles_of_serves (gdbPutpacketz_serves _)
  | extended =>
    exact settles_of_serves (gdbPutpacketz_serves _)
  | endOfTransmission =>
    rw [head_of_endOfTransmission _ kind]
    exact endOfTransmission_settles
  | detach =>
    rw [head_of_detach _ kind]
    exact handleD_settles
  | kill =>
    exact handleKillTarget_settles
  | reset =>
    exact handleR_settles
  | writeBinary =>
    exact served fun current => handleX_serves answers current pbuf size
  | breakwatch =>
    exact served fun current => handleZPacket_serves answers current _
  | unsupported =>
    refine (ends_of_serves (gdbPutpacketz_serves _)).settles ?_
    by_cases interrupt : pbuf 0 = 3#8 <;> simp [interrupt]

/-- Handling a packet never passes a null pointer to an operation, except for the packets
that are named. -/
theorem null_target_passed (answers : Answers) (pbuf : Buffer) (size : Nat) (server : Server) :
    (∀ call, (gdbMainLoop answers pbuf size server).1 ≠ .error (.nullTarget call)) ↔
      ¬ PassesNull answers pbuf size (view server) := by
  obtain ⟨total, ends, -⟩ := gdbMainLoop_settles answers pbuf size (view server)
  have ending := ends (replies server) server (at_self rfl)
  revert ending
  cases gdbMainLoop answers pbuf size server with
  | mk outcome final =>
    cases outcome with
    | ok value => exact fun ending => iff_of_true (fun call => by simp) ending.2
    | error reason =>
      intro ending
      rw [← not_congr ending.2]
      cases reason with
      | nullTarget call => exact iff_of_false (fun never => never call rfl) fun harmless => harmless trivial
      | raised exception => exact iff_of_true (fun call => by simp) id
      | overrun => exact iff_of_true (fun call => by simp) id
      | abort => exact iff_of_true (fun call => by simp) id

/-- The server passes a null pointer to `target_flash_complete` in its first state. -/
theorem flash_done_passes_null :
    run initial [] = some initial ∧
      (gdbMainLoop calm (fun i => (ascii "vFlashDone").getD i 0#8) (ascii "vFlashDone").length initial).1 =
        .error (.nullTarget .flashComplete) := by
  exact ⟨rfl, rfl⟩

end Packets

section Discipline

variable {answers : Answers}

end Discipline

section Polling

variable {answers : Answers} {α : Type}

/-- The poll loop goes on. -/
def Waiting (server : Server) : Prop := server.gdbTargetRunning = true ∧ server.curTarget ≠ none

/-- The server has this view, has sent this many replies and waits for the target or
not. -/
def Polls (v : View) (n : Nat) (running : Bool) (server : Server) : Prop :=
  At v n server ∧ server.gdbTargetRunning = running

private def Steady (action : Action α) : Prop := ∀ running, Keeps (fun server => server.gdbTargetRunning = running) action

/-- A steady action with a known fate. -/
private theorem Steady.polls {action : Action α} (steady : Steady action) {v w : View} {value : α}
    (runs : Runs v action (.returned value w)) (n : Nat) (running : Bool) :
    Meets (Polls v n running) action (fun found server => found = value ∧ Polls w n running server) (fun _ _ => False) :=
  ((runs n).both (steady running)).weaken (fun _ holds => holds) (fun _ _ reached => ⟨reached.1.1, reached.1.2, reached.2⟩)
    fun _ _ never => never.1

/-- The stop reply is sent and the target is no longer waited for. -/
private def Stopped (n : Nat) (server : Server) : Prop := replies server = n + 1 ∧ server.gdbTargetRunning = false

/-- A run of poll passes. -/
def polled (polls : List (Byte × Answers)) : History := polls.map fun poll => (.poll poll.1, poll.2)

end Polling

section Claims

end Claims

end BlackMagic.Proofs.ServerReplies
