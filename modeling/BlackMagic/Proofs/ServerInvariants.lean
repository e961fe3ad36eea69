import BlackMagic.Proofs.TargetList

/-! Invariants of the list and the pointers: a few facts about views make one that every
packet, poll and scan keeps. Attaching by number and the loss of the connection are left to the
invariant. -/

namespace BlackMagic.Proofs.ServerInvariants
open BlackMagic.Targets BlackMagic.Commands BlackMagic.Server Lib Lib.Program ServerFrame TargetList

/-- The pointer is null or points at a target on the list that has its controller. -/
def Listed (v : View) (pointer : Option Nat) : Prop :=
  ∀ id, pointer = some id → id ∈ v.targetList ∧ (v.heap id).tc = true

structure Sound (v : View) : Prop where
  curTarget : Listed v v.curTarget
  lastTarget : Listed v v.lastTarget
  allocated : ∀ id ∈ v.targetList, id < v.allocated
  distinct : v.targetList.Nodup

/-- A property of views that the server keeps. -/
structure Stable (kept : View → Prop) : Prop where
  sound : ∀ v, kept v → Sound v
  freed : ∀ v, Sound v → kept (freed v)
  interrupted : ∀ answers place v w, kept v → Interrupted answers place v w → kept w
  created : ∀ v, kept v → v.curTarget = none → kept (created v)
  cmdline : ∀ v id cmdline, kept v → kept (withTarget id (fun target => { target with cmdline := cmdline }) v)
  released : ∀ v id, kept v → v.curTarget = some id →
    kept { setAttached id false v with lastTarget := some id, curTarget := none }
  controlled : ∀ v id, kept v → v.curTarget = none → id ∈ v.targetList → kept (controlled id v)
  attached : ∀ v id, kept v → v.curTarget = none → id ∈ v.targetList → (v.heap id).tc = true →
    kept { setAttached id true v with curTarget := some id }

/-- No attach reports success after freeing the list. -/
def AttachHonest (answers : Answers) : Prop := answers.attach.frees = true → answers.attach.result ≠ .ok true

def Holds (kept : View → Prop) (server : Server) : Prop := kept (view server)

section Views

variable {v w : View}

theorem Listed.dropped {pointer : Option Nat} (listed : Listed v pointer) (id : Nat) : Listed v (dropped id pointer) := by
  intro other same
  rw [TargetList.dropped] at same
  split at same
  · cases same
  · exact listed other same

theorem Listed.cleared {pointer : Option Nat} (listed : Listed v pointer) (done : List Nat) :
    Listed v (cleared v done pointer) := by
  intro other same
  cases pointer with
  | none => cases same
  | some id =>
    rw [TargetList.cleared] at same
    split at same
    · cases same
    · exact listed other same

/-- Nothing is lost from the list or the controllers. -/
theorem Listed.mono {pointer : Option Nat} (listed : Listed v pointer)
    (larger : ∀ id ∈ v.targetList, id ∈ w.targetList ∧ ((v.heap id).tc = true → (w.heap id).tc = true)) :
    Listed w pointer := by
  intro id same
  have found := listed id same
  exact ⟨(larger id found.1).1, (larger id found.1).2 found.2⟩

theorem listed_none : Listed v none := fun _ none => by cases none

theorem freed_curTarget {v : View} (sound : Sound v) : (freed v).curTarget = none := by
  show cleared v v.targetList v.curTarget = none
  cases current : v.curTarget with
  | none => rfl
  | some id => exact if_pos (sound.curTarget id current)

theorem freed_lastTarget {v : View} (sound : Sound v) : (freed v).lastTarget = none := by
  show cleared v v.targetList v.lastTarget = none
  cases last : v.lastTarget with
  | none => rfl
  | some id => exact if_pos (sound.lastTarget id last)

theorem created_curTarget (v : View) (found : Nat) : (created^[found] v).curTarget = v.curTarget := by
  induction found generalizing v with
  | zero => rfl
  | succ found ih => exact ih (created v)

theorem controlled_targetList (id : Nat) (v : View) : (controlled id v).targetList = v.targetList := by
  rw [controlled]
  split <;> rfl

theorem controlled_tc (id : Nat) (v : View) : ((controlled id v).heap id).tc = true := by
  simp [controlled, withTarget]

theorem controlled_curTarget {id : Nat} {v : View} (free : v.curTarget = none) : (controlled id v).curTarget = none := by
  rw [controlled]
  split
  · exact dropped_other (by simp [free]) |>.trans free
  · exact free

end Views

section Soundness

theorem sound_withTarget {v : View} (sound : Sound v) (id : Nat) {f : Target → Target}
    (controlled : ∀ target, target.tc = true → (f target).tc = true) : Sound (withTarget id f v) := by
  have larger : ∀ other ∈ v.targetList, other ∈ (withTarget id f v).targetList ∧
      ((v.heap other).tc = true → ((withTarget id f v).heap other).tc = true) := by
    refine fun other listed => ⟨listed, fun held => ?_⟩
    by_cases same : other = id
    · subst same
      simpa [withTarget] using controlled _ held
    · simpa [withTarget, same] using held
  exact ⟨sound.curTarget.mono larger, sound.lastTarget.mono larger, sound.allocated, sound.distinct⟩

theorem sound_controlled {v : View} (sound : Sound v) (id : Nat) : Sound (controlled id v) := by
  rw [controlled]
  refine sound_withTarget ?_ id fun _ _ => rfl
  split
  · exact ⟨sound.curTarget.dropped id, sound.lastTarget.dropped id, sound.allocated, sound.distinct⟩
  · exact sound

theorem sound_freed {v : View} (sound : Sound v) : Sound (freed v) := by
  refine ⟨?_, ?_, fun id listed => absurd listed List.not_mem_nil, List.nodup_nil⟩
  · rw [freed_curTarget sound]
    exact listed_none
  · rw [freed_lastTarget sound]
    exact listed_none

theorem sound_created {v : View} (sound : Sound v) : Sound (created v) := by
  have larger : ∀ id ∈ v.targetList, id ∈ (created v).targetList ∧
      ((v.heap id).tc = true → ((created v).heap id).tc = true) := by
    refine fun id listed => ⟨List.mem_append_left _ listed, fun held => ?_⟩
    have old : id ≠ v.allocated := Nat.ne_of_lt (sound.allocated id listed)
    simpa [created, old] using held
  refine ⟨sound.curTarget.mono larger, sound.lastTarget.mono larger, fun id listed => ?_, ?_⟩
  · obtain old | new := List.mem_append.mp listed
    · exact Nat.lt_succ_of_lt (sound.allocated id old)
    · rw [List.mem_singleton.mp new]
      exact Nat.lt_succ_self _
  · refine List.Nodup.append sound.distinct (List.nodup_singleton _) fun id old new => ?_
    have small := sound.allocated id old
    rw [List.mem_singleton.mp new] at small
    exact Nat.lt_irrefl _ small

theorem sound_stable : Stable Sound where
  sound _ sound := sound
  freed _ sound := sound_freed sound
  interrupted _ _ v w sound interrupted := by
    obtain ⟨first, id, last, -, -, rfl⟩ := interrupted
    exact ⟨sound.curTarget.cleared first, sound.lastTarget.cleared first, sound.allocated, sound.distinct⟩
  created _ sound _ := sound_created sound
  cmdline _ id _ sound := sound_withTarget sound id fun _ held => held
  released v id sound current := by
    have detached : Sound (setAttached id false v) := sound_withTarget sound id fun _ held => held
    exact ⟨listed_none, current ▸ detached.curTarget, detached.allocated, detached.distinct⟩
  controlled _ id sound _ _ := sound_controlled sound id
  attached v id sound _ listed held := by
    have attached : Sound (setAttached id true v) := sound_withTarget sound id fun _ held => held
    refine ⟨fun other same => ?_, attached.lastTarget, attached.allocated, attached.distinct⟩
    cases same
    exact ⟨listed, by simpa [setAttached, withTarget] using held⟩

end Soundness

section Keeping

/-- Detach from the current target and remember it: what `D` and a kill have in common. -/
def release (answers : Answers) : Action Unit := do
  targetDetach answers (← read).curTarget
  change fun server => { server with lastTarget := server.curTarget, curTarget := none }

variable {kept : View → Prop} {answers : Answers} {α : Type}

theorem holds_of_at {w : View} {n : Nat} {server : Server} (reached : At w n server) (holds : kept w) :
    Holds kept server := by
  rw [Holds, reached.1]
  exact holds

theorem at_self {server state : Server} (same : state = server) : At (view server) (replies server) state :=
  ⟨congrArg view same, congrArg replies same⟩

theorem meets_of_views {action : Action α} {final : α → Server → Prop} {stopped : Stop → Server → Prop}
    (met : ∀ v n, kept v → Meets (At v n) action final stopped) : Meets (Holds kept) action final stopped :=
  fun server holds => met (view server) (replies server) holds server (at_self rfl)

variable (stable : Stable kept)
include stable

theorem Stable.polledView {v : View} (holds : kept v) (frees : Bool) : kept (polledView v frees) := by
  cases frees with
  | true => exact stable.freed v (stable.sound v holds)
  | false => exact holds

theorem Stable.struck {v w : View} (holds : kept v) (struck : Struck answers v w) : kept w := by
  obtain rfl | rfl | interrupted := struck
  · exact holds
  · exact stable.freed v (stable.sound v holds)
  · exact stable.interrupted _ _ v w holds interrupted

theorem Stable.scanned {v : View} (holds : kept v) (found : Nat) : kept (scanned v found) := by
  rw [TargetList.scanned]
  have free := freed_curTarget (stable.sound v holds)
  induction found with
  | zero => exact stable.freed v (stable.sound v holds)
  | succ found ih =>
    rw [Function.iterate_succ_apply']
    exact stable.created _ ih ((created_curTarget _ found).trans free)

theorem targetListFree_keeps (place : Place) : Keeps (Holds kept) (targetListFree answers place) := by
  refine meets_of_views fun v n holds => (targetListFree_spec place).weaken (fun _ at_v => at_v) ?_ ?_
  · exact fun _ server finished => holds_of_at finished.2 (stable.freed v (stable.sound v holds))
  · intro reason server raised
    obtain ⟨-, -, w, interrupted, reached⟩ := raised
    exact holds_of_at reached (stable.interrupted _ _ v w holds interrupted)

theorem performPolled_keeps (polled : Polled α) : Keeps (Holds kept) (performPolled answers polled) := by
  refine meets_of_views fun v n holds => (performPolled_spec polled).weaken (fun _ at_v => at_v) ?_ ?_
  · exact fun _ server returned => holds_of_at returned.2.2 (stable.polledView holds _)
  · intro reason server raised
    obtain ⟨-, -, w, struck, reached⟩ := raised
    exact holds_of_at reached (stable.struck holds struck)

theorem runScan_keeps (scan : Scan) : Keeps (Holds kept) (runScan answers scan) := by
  refine meets_of_views fun v n holds => (runScan_spec scan).weaken (fun _ at_v => at_v) ?_ ?_
  · exact fun _ server returned => holds_of_at returned (stable.scanned holds _)
  · intro reason server raised
    obtain ⟨-, w, outcome, reached⟩ := raised
    obtain rfl | interrupted := outcome
    · exact holds_of_at reached (stable.scanned holds _)
    · exact holds_of_at reached (stable.interrupted _ _ v w holds interrupted)

theorem release_keeps : Keeps (Holds kept) (release answers) := by
  refine meets_reading fun server holds => ?_
  cases current : server.curTarget with
  | none =>
    refine Meets.bind (show Meets _ _ (fun _ _ => False) _ from ?_) fun _ _ never => never.elim
    exact Meets.bind (show Meets _ _ (fun _ _ => False) _ from meets_stop fun state same => same ▸ holds)
      fun _ _ never => never.elim
  | some id =>
    have detaching : Meets (fun state => state = server) (targetDetach answers (some id)) _ _ :=
      (targetDetach_spec id).weaken (fun _ => at_self) (fun _ _ returned => returned.2)
        (fun _ _ raised => holds_of_at raised.2.2 holds)
    refine Meets.bind detaching fun _ => meets_change fun state reached => ?_
    have pointer : state.curTarget = some id := (congrArg View.curTarget reached.1).trans current
    show kept { view state with lastTarget := state.curTarget, curTarget := none }
    rw [pointer, reached.1]
    exact stable.released (view server) id holds current

theorem targetAttach_keeps (honest : AttachHonest answers) (id : Nat) :
    Meets (Holds fun v => kept v ∧ v.curTarget = none ∧ id ∈ v.targetList) (targetAttach answers (some id))
      (fun target => Holds fun v => kept { v with curTarget := target }) (fun _ => Holds kept) := by
  refine meets_of_views fun v n holds => (targetAttach_spec id).weaken (fun _ at_v => at_v) ?_ ?_
  · intro target server returned
    have controlled := stable.controlled v id holds.1 holds.2.1 holds.2.2
    have free : (TargetList.controlled id v).curTarget = none := controlled_curTarget holds.2.1
    obtain ⟨attach, rfl, reached⟩ | ⟨attach, rfl, reached⟩ := returned
    · have stays : answers.attach.frees = false := Bool.eq_false_iff.mpr fun frees => honest frees attach.result
      refine holds_of_at reached ?_
      rw [stays]
      refine stable.attached _ id controlled free ?_ (controlled_tc id v)
      show id ∈ (TargetList.controlled id v).targetList
      rw [controlled_targetList]
      exact holds.2.2
    · refine holds_of_at reached ?_
      have polled := stable.polledView controlled answers.attach.frees
      have still : (TargetList.polledView (TargetList.controlled id v) answers.attach.frees).curTarget = none := by
        cases answers.attach.frees with
        | true => exact freed_curTarget (stable.sound _ controlled)
        | false => exact free
      rwa [← still]
  · intro reason server raised
    obtain ⟨-, -, w, struck, reached⟩ := raised
    exact holds_of_at reached (stable.struck (stable.controlled v id holds.1 holds.2.1 holds.2.2) struck)

theorem targetReset_keeps (target : Option Nat) : Keeps (Holds kept) (targetReset answers target) :=
  Keeps.bind ((dereference_plain target _).respects kept) fun _ => performPolled_keeps stable _

theorem targetSetCmdline_keeps (target : Option Nat) (cmdline : Text) :
    Keeps (Holds kept) (targetSetCmdline target cmdline) := by
  refine Keeps.bind ((dereference_plain target _).respects kept) fun id => ?_
  refine meets_of_views fun v n holds => (updateTarget_spec id _).weaken (fun _ at_v => at_v) ?_ ?_
  · exact fun _ server returned => holds_of_at returned (stable.cmdline v id _ holds)
  · exact fun _ _ never => never.elim

end Keeping

section Handlers

variable {kept : View → Prop} {answers : Answers}

/-- Whatever serves from every view keeps every property of views. -/
theorem keeps_of_serves {α : Type} {action : Action α} {count : Nat} (served : ∀ v, Serves v count action) :
    Keeps (Holds kept) action :=
  (plain_of_serves served).respects kept

theorem gdbPutpacketz_keeps (body : String) : Keeps (Holds kept) (gdbPutpacketz body) :=
  keeps_of_serves fun _ => gdbPutpacketz_serves body

theorem gdbOut_keeps (text : Text) : Keeps (Holds kept) (gdbOut text) := keeps_of_serves fun _ => gdbOut_serves text

variable (stable : Stable kept)
include stable

theorem handleD_keeps (head : Byte) : Keeps (Holds kept) (handleD answers head) := by
  refine keeps_read.bind fun _ => (keeps_onlyIf (release_keeps stable)).bind fun _ => ?_
  refine (keeps_onlyIf (gdbPutpacketz_keeps _)).bind fun _ => ?_
  exact keeps_of_serves fun _ => gdbSetNoackmode_serves false

theorem handleKillTarget_keeps : Keeps (Holds kept) (handleKillTarget answers) := by
  refine keeps_read.bind fun _ => keeps_onlyIf ?_
  exact keeps_read.bind fun _ => (targetReset_keeps stable _).bind fun _ => release_keeps stable

/-- Attach again to the last target, which becomes the current one. -/
theorem reattach_keeps (honest : AttachHonest answers) {next : Unit → Action Unit}
    (rest : Keeps (Holds kept) (next ())) :
    Meets (Holds fun v => kept v ∧ v.curTarget = none)
      (read >>= fun server => targetAttach answers server.lastTarget >>= fun target => setCurTarget target >>= next)
      (fun _ => Holds kept) (fun _ => Holds kept) := by
  refine meets_reading fun server holds => ?_
  cases last : server.lastTarget with
  | none =>
    refine Meets.bind (show Meets _ _ (fun _ _ => False) _ from ?_) fun _ _ never => never.elim
    exact Meets.bind (show Meets _ _ (fun _ _ => False) _ from meets_stop fun state same => same ▸ holds.1)
      fun _ _ never => never.elim
  | some id =>
    have listed : id ∈ server.targetList := ((stable.sound _ holds.1).lastTarget id last).1
    refine Meets.bind ((targetAttach_keeps stable honest id).starting fun state same => ?_) fun target => ?_
    · exact same ▸ ⟨holds.1, holds.2, listed⟩
    · exact Meets.bind (meets_change fun _ holds => holds) fun _ => rest

theorem handleR_keeps (honest : AttachHonest answers) : Keeps (Holds kept) (handleR answers) := by
  refine meets_reading fun server holds => meets_ite (fun _ => ?_) fun free => ?_
  · exact (keeps_read.bind fun _ => targetReset_keeps stable _).starting fun _ same => same ▸ holds
  · have free : server.curTarget = none := not_not.mp free
    refine meets_reading fun state same => meets_onlyIf (fun _ => ?_) fun _ final current => ?_
    · refine (reattach_keeps stable honest ?_).starting fun final current => ?_
      · exact keeps_read.bind fun _ => targetReset_keeps stable _
      · exact current ▸ same ▸ ⟨holds, free⟩
    · exact current ▸ same ▸ holds

theorem handleVRun_keeps (honest : AttachHonest answers) (packet : Text) :
    Keeps (Holds kept) (handleVRun answers packet) := by
  have running : Keeps (Holds kept) (read >>= fun server => targetSetCmdline server.curTarget (runCmdline packet) >>=
      fun _ => read >>= fun server => targetReset answers server.curTarget >>= fun _ => gdbPutpacketz "T05") :=
    keeps_read.bind fun _ => (targetSetCmdline_keeps stable _ _).bind fun _ =>
      keeps_read.bind fun _ => (targetReset_keeps stable _).bind fun _ => gdbPutpacketz_keeps _
  refine meets_reading fun server holds => meets_ite (fun _ => ?_) fun free => ?_
  · exact running.starting fun _ same => same ▸ holds
  · have free : server.curTarget = none := not_not.mp free
    refine meets_reading fun state same => meets_ite (fun _ => ?_) fun _ => ?_
    · refine (reattach_keeps stable honest ?_).starting fun final current => ?_
      · exact keeps_read.bind fun _ => keeps_ite running (gdbPutpacketz_keeps _)
      · exact current ▸ same ▸ ⟨holds, free⟩
    · exact (gdbPutpacketz_keeps _).starting fun final current => current ▸ same ▸ holds

theorem targetFlashComplete_keeps (target : Option Nat) : Keeps (Holds kept) (targetFlashComplete answers target) :=
  Keeps.bind ((dereference_plain target _).respects kept) fun _ => performPolled_keeps stable _

theorem endFlash_keeps (succeeded : Bool) : Keeps (Holds kept) (endFlash answers succeeded) := by
  refine keeps_ite (gdbPutpacketz_keeps _) (keeps_read.bind fun _ => ?_)
  exact (targetFlashComplete_keeps stable _).bind fun _ => gdbPutpacketz_keeps _

theorem handleVFlashErase_keeps (addr len : Nat) : Keeps (Holds kept) (handleVFlashErase answers addr len) := by
  refine keeps_read.bind fun _ => keeps_ite (gdbPutpacketz_keeps _) ?_
  refine ((onCurrent_plain _).respects kept).bind fun _ => (performPolled_keeps stable _).bind fun _ => ?_
  exact endFlash_keeps stable _

theorem handleVFlashWrite_keeps (addr : Nat) (data : Text) : Keeps (Holds kept) (handleVFlashWrite answers addr data) := by
  refine keeps_read.bind fun _ => keeps_ite (endFlash_keeps stable _) ?_
  refine ((onCurrent_plain _).respects kept).bind fun _ => (performPolled_keeps stable _).bind fun _ => ?_
  exact endFlash_keeps stable _

theorem handleVFlashDone_keeps : Keeps (Holds kept) (handleVFlashDone answers) := by
  refine keeps_read.bind fun _ => (targetFlashComplete_keeps stable _).bind fun _ => ?_
  exact keeps_ite (gdbPutpacketz_keeps _) (gdbPutpacketz_keeps _)

theorem commandProcess_keeps (target : Option Nat) (cmdBuffer : Text) :
    Keeps (Holds kept) (commandProcess answers target cmdBuffer) := by
  have bears : Bears answers (Holds kept) (fun _ => Holds kept) :=
    { raised := fun _ _ holds => holds
      printing := gdbOut_keeps
      following := fun id call => (dereference_plain (some id) call).respects kept
      freeing := fun place => targetListFree_keeps stable place
      polling := fun polled => performPolled_keeps stable polled
      scanning := fun scan => runScan_keeps stable scan }
  exact bears.commandProcess target cmdBuffer

theorem execQRcmd_keeps (pbuf : Buffer) (size : Nat) : Keeps (Holds kept) (execQRcmd answers pbuf size) := by
  refine keeps_read.bind fun _ => (commandProcess_keeps stable _ _).bind fun _ => ?_
  refine keeps_ite (gdbPutpacketz_keeps _) (keeps_ite (gdbPutpacketz_keeps _) ?_)
  exact keeps_of_serves fun _ => gdbPutpacket_serves _

theorem handleQPacket_keeps (pbuf : Buffer) (size : Nat) : Keeps (Holds kept) (handleQPacket answers pbuf size) := by
  rw [handleQPacket]
  cases execCommand (packetString pbuf size) with
  | none => exact gdbPutpacketz_keeps _
  | some found =>
    cases found with
    | mk command param =>
      cases command with
      | rcmd => exact execQRcmd_keeps stable pbuf size
      | supported => exact (execQSupported_plain answers).respects kept
      | memoryMap => exact keeps_of_serves fun _ => execQMemoryMap_serves answers param
      | featureRead => exact keeps_of_serves fun _ => execQFeatureRead_serves answers param
      | crc => exact (execQCrc_plain answers param).respects kept
      | c => exact gdbPutpacketz_keeps _
      | firstThreadInfo => exact keeps_of_serves fun _ => execQThreadInfo_serves true
      | nextThreadInfo => exact keeps_of_serves fun _ => execQThreadInfo_serves false
      | noackmode => exact keeps_of_serves fun _ => execQNoackmode_serves

theorem gdbPollTarget_keeps : Keeps (Holds kept) (gdbPollTarget answers) := by
  have halting : Keeps (Holds kept) (change fun server => { server with gdbTargetRunning := false } : Action Unit) :=
    keeps_change fun _ holds => holds
  refine keeps_read.bind fun _ => keeps_ite (gdbPutpacketz_keeps _) ?_
  refine ((onCurrent_plain _).respects kept).bind fun _ => (performPolled_keeps stable _).bind fun polled => ?_
  refine keeps_onlyIf (halting.bind fun _ => ?_)
  exact (gdbPutpacketF_plain answers _).respects kept

theorem pollPass_keeps (c : Byte) : Keeps (Holds kept) (pollPass answers c) := by
  have condition : Keeps (Holds kept) polling := keeps_read.bind fun _ => keeps_pure _
  refine condition.bind fun _ => keeps_onlyIf ((gdbPollTarget_keeps stable).bind fun _ => ?_)
  refine condition.bind fun _ => keeps_onlyIf (keeps_onlyIf ?_)
  exact ((onCurrent_plain _).respects kept).bind fun _ => keeps_of_serves fun _ => perform_serves _

end Handlers

section Steps

variable {kept : View → Prop} {answers : Answers}

/-- The number of the target that a packet attaches to. -/
def attachNumber (answers : Answers) : Event → Option Nat
  | .packet pbuf size =>
    if packetKind (pbuf 0) = .verbose then
      match parseVPacket answers (packetString pbuf size) with
      | .attach n => some n
      | _ => none
    else none
  | _ => none

/-- What an action is to do from a state: keep the property, or stop where the pointers
are sound. -/
def Carries (kept : View → Prop) (server : Server) (action : Action Unit) : Prop :=
  Meets (fun state => state = server) action (fun _ => Holds kept) (fun _ => Holds Sound)

variable (stable : Stable kept)
include stable

theorem Stable.carries {server : Server} {action : Action Unit} (holds : Holds kept server)
    (keeps : Keeps (Holds kept) action) : Carries kept server action :=
  keeps.weaken (fun _ same => same ▸ holds) (fun _ _ holds => holds) fun _ state holds => stable.sound (view state) holds

private theorem handleVPacket_carries (honest : AttachHonest answers) {server : Server} (holds : Holds kept server)
    (pbuf : Buffer) (size : Nat)
    (attach : ∀ n, parseVPacket answers (packetString pbuf size) = .attach n →
      Carries kept server (handleVAttach answers n)) :
    Carries kept server (handleVPacket answers pbuf size) := by
  rw [handleVPacket]
  cases parsed : parseVPacket answers (packetString pbuf size) with
  | attach n => exact attach n parsed
  | kill => exact stable.carries holds ((handleKillTarget_keeps stable).bind fun _ => gdbPutpacketz_keeps _)
  | run => exact stable.carries holds (handleVRun_keeps stable honest _)
  | flashErase addr len => exact stable.carries holds (handleVFlashErase_keeps stable addr len)
  | flashWrite addr bin => exact stable.carries holds (handleVFlashWrite_keeps stable addr _)
  | flashDone => exact stable.carries holds (handleVFlashDone_keeps stable)
  | stopped => exact stable.carries holds (handleVStopped_plain.respects kept)
  | unsupported => exact stable.carries holds (gdbPutpacketz_keeps _)

private theorem gdbMainLoop_carries (honest : AttachHonest answers) {server : Server} (holds : Holds kept server)
    (pbuf : Buffer) (size : Nat)
    (attach : ∀ n, attachNumber answers (.packet pbuf size) = some n → Carries kept server (handleVAttach answers n)) :
    Carries kept server (gdbMainLoop answers pbuf size) := by
  have served : ∀ action : Action Unit, (∀ v, v.curTarget ≠ none → Serves v 1 action) →
      Carries kept server (errorIfNoTarget action) := fun action serves =>
    stable.carries holds (keeps_of_serves fun v => errorIfNoTarget_serves (serves v))
  rw [gdbMainLoop]
  cases kind : packetKind (pbuf 0) with
  | readRegisters => exact served _ fun v current => handleG_serves answers current
  | readMemory => exact served _ fun v current => handleM_serves answers current _
  | writeRegisters => exact served _ fun v current => handleWriteG_serves answers current pbuf
  | writeMemory => exact served _ fun v current => handleWriteM_serves answers current pbuf size
  | thread => exact stable.carries holds (keeps_of_serves fun _ => handleH_serves _)
  | step => exact stable.carries holds ((handleResume_plain answers true).respects kept)
  | resume => exact stable.carries holds ((handleResume_plain answers false).respects kept)
  | haltReason => exact stable.carries holds (handleHaltReason_plain.respects kept)
  | readRegister => exact stable.carries holds ((errorIfNoTarget_plain (handleP_plain answers _)).respects kept)
  | writeRegister => exact served _ fun v current => handleWriteP_serves answers current pbuf size
  | fileIo => exact stable.carries holds (gdbPutpacketz_keeps _)
  | extended => exact stable.carries holds (gdbPutpacketz_keeps _)
  | endOfTransmission => exact stable.carries holds (handleD_keeps stable _)
  | detach => exact stable.carries holds (handleD_keeps stable _)
  | kill => exact stable.carries holds (handleKillTarget_keeps stable)
  | reset => exact stable.carries holds (handleR_keeps stable honest)
  | writeBinary => exact served _ fun v current => handleX_serves answers current pbuf size
  | query => exact stable.carries holds (handleQPacket_keeps stable pbuf size)
  | verbose =>
    refine handleVPacket_carries stable honest holds pbuf size fun n parsed => attach n ?_
    rw [attachNumber, if_pos kind, parsed]
  | breakwatch => exact served _ fun v current => handleZPacket_serves answers current _
  | unsupported => exact stable.carries holds (gdbPutpacketz_keeps _)

/-- An exception frees the list, which the property survives from sound pointers. -/
theorem mainLoop_holds {server final : Server} {body : Action Unit} (carries : Carries kept server body)
    (returned : mainLoop answers body server = (.ok (), final)) : Holds kept final := by
  have looping : Meets (fun state => state = server) (mainLoop answers body) (fun _ => Holds kept) (fun _ _ => True) := by
    refine mainLoop_meets carries (fun exception => ?_) fun _ _ _ _ => trivial
    refine meets_of_views fun v n sound => (recovering_spec exception).weaken (fun _ at_v => at_v) ?_ fun _ _ _ => trivial
    exact fun _ _ reached => holds_of_at reached (stable.freed v sound)
  exact looping.returned rfl returned

/-- A step keeps the property if its attach by number and its loss of the connection do. -/
theorem step_holds (honest : AttachHonest answers) {server final : Server} (holds : Holds kept server) (event : Event)
    (attach : ∀ n, attachNumber answers event = some n → Carries kept server (handleVAttach answers n))
    (drop : event = .drop → Carries kept server (dropConnection answers))
    (returned : step answers event server = (.ok (), final)) : Holds kept final := by
  refine mainLoop_holds stable ?_ returned
  cases event with
  | packet pbuf size => exact gdbMainLoop_carries stable honest holds pbuf size attach
  | poll c => exact stable.carries holds (pollPass_keeps stable c)
  | drop => exact drop rfl

end Steps

end BlackMagic.Proofs.ServerInvariants
