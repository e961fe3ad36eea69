import BlackMagic.FlashModes
import BlackMagic.Proofs.FlashModeCalls

/-! What an exit from flash mode writes back, over runs of requests that enter it on two ways. -/

namespace BlackMagic.Proofs.SavedRegisters
open BlackMagic.Flash BlackMagic.FlashModes FlashModeCalls

variable {σ ρ ε : Type} {part : Part σ ρ ε} {world : World ε} {layout : Regions} {machine : Machine σ ρ}
  {start : σ} {enters outside inside : σ → Prop}

/-- What a part keeps of the registers as they were at the start, once it enters flash mode as `enters` says. -/
structure Preserves (part : Part σ ρ ε) (start : σ) (enters outside inside : σ → Prop) : Prop where
  begun : outside start
  entered : ∀ state, outside state → enters state →
    part.saved (part.enterFlashMode state) = part.held start ∧ inside (part.enterFlashMode state)
  worked : ∀ effect state, inside state →
    part.saved (part.command effect state) = part.saved state ∧ inside (part.command effect state)
  left : ∀ state, inside state → part.saved state = part.held start → outside (part.exitFlashMode state)

/-- The values from the start are in the registers outside of flash mode and in the slot inside, and no others were written
back. -/
structure Intact (part : Part σ ρ ε) (start : σ) (outside inside : σ → Prop) (machine : Machine σ ρ) : Prop where
  idle : machine.target.flashMode = false → outside machine.state
  session : machine.target.flashMode = true → part.saved machine.state = part.held start ∧ inside machine.state
  restored : ∀ values, machine.restored = some values → values = part.held start

section Calls

theorem calls_append (first last past : List Call) (machine : Machine σ ρ) :
    machine.calls part world past (first ++ last) =
      (machine.calls part world past first).calls part world (past ++ first) last := by
  induction first generalizing past machine with
  | nil => rw [List.nil_append, List.append_nil, Machine.calls]
  | cons call rest ih =>
    rw [List.cons_append, Machine.calls, ih, List.append_assoc, List.singleton_append, ← Machine.calls]

/-- The registers in flash mode after some work. -/
structure Worked (part : Part σ ρ ε) (inside : σ → Prop) (machine next : Machine σ ρ) : Prop where
  saved : part.saved next.state = part.saved machine.state
  inside : inside next.state
  restored : next.restored = machine.restored

theorem call_worked (preserves : Preserves part start enters outside inside) {call : Call} (working : Working call) (effect : ε)
    (within : inside machine.state) : Worked part inside machine (machine.call part call effect) := by
  obtain ⟨saved, still⟩ := preserves.worked effect machine.state within
  cases call with
  | enterFlashMode => exact working.elim
  | exitFlashMode => exact working.elim
  | reset => exact working.elim
  | erase => exact ⟨saved, still, rfl⟩
  | write => exact ⟨saved, still, rfl⟩
  | malloc => exact ⟨rfl, within, rfl⟩
  | prepare => exact ⟨rfl, within, rfl⟩
  | done => exact ⟨rfl, within, rfl⟩
  | memcpy => exact ⟨rfl, within, rfl⟩

theorem calls_worked (preserves : Preserves part start enters outside inside) {calls : List Call}
    (working : ∀ call ∈ calls, Working call) (past : List Call) (within : inside machine.state) :
    Worked part inside machine (machine.calls part world past calls) := by
  induction calls generalizing past machine with
  | nil => exact ⟨rfl, within, rfl⟩
  | cons call rest ih =>
    have first := call_worked preserves (working call List.mem_cons_self) (world.effect (past ++ [call])) within
    have later := ih (fun other member => working other (List.mem_cons_of_mem call member)) (past ++ [call]) first.inside
    exact ⟨later.saved.trans first.saved, later.inside, later.restored.trans first.restored⟩

/-- A request's calls are those that it adds. -/
theorem forward_eq {next : Target} {made : List Call} (calls : next.calls = machine.target.calls ++ made) :
    machine.forward part world next =
      { machine.calls part world machine.target.calls made with target := next } := by
  rw [Machine.forward, calls, List.drop_left]

end Calls

section Requests

theorem session_intact (preserves : Preserves part start enters outside inside)
    (intact : Intact part start outside inside machine) {next : Target} (session : Session machine.target next)
    (safe : machine.target.flashMode = false → enters machine.state) :
    Intact part start outside inside (machine.forward part world next) := by
  obtain ⟨more, calls, working⟩ := session.calls
  rw [List.append_assoc] at calls
  rw [forward_eq calls, calls_append]
  obtain ⟨entered, entry, saved, within, restored⟩ : ∃ entered, machine.calls part world machine.target.calls
        (if machine.target.flashMode then [] else [.enterFlashMode]) = entered ∧
      part.saved entered.state = part.held start ∧ inside entered.state ∧ entered.restored = machine.restored := by
    cases mode : machine.target.flashMode with
    | true =>
      obtain ⟨saved, within⟩ := intact.session mode
      exact ⟨machine, rfl, saved, within, rfl⟩
    | false =>
      obtain ⟨saved, within⟩ := preserves.entered machine.state (intact.idle mode) (safe mode)
      exact ⟨machine.enter part, rfl, saved, within, rfl⟩
  rw [entry]
  have worked := @calls_worked _ _ _ part world entered start enters outside inside preserves more working
    (machine.target.calls ++ if machine.target.flashMode then [] else [.enterFlashMode]) within
  constructor
  · intro left
    cases session.mode.symm.trans left
  · intro _
    exact ⟨worked.saved.trans saved, worked.inside⟩
  · intro values written
    exact intact.restored values (restored ▸ worked.restored ▸ written)

theorem exit_intact (preserves : Preserves part start enters outside inside) {next : Target}
    (saved : part.saved machine.state = part.held start) (within : inside machine.state) (left : next.flashMode = false) :
    Intact part start outside inside { machine.exit part with target := next } := by
  constructor
  · intro _
    exact preserves.left machine.state within saved
  · intro entered
    cases left.symm.trans entered
  · intro values written
    rw [← Option.some.inj written, saved]

/-- What a request has to respect: flash mode is entered as `enters` says, and no mass erase comes in flash mode. -/
def Safe (enters : σ → Prop) (machine : Machine σ ρ) : Request ε → Prop
  | .write _ _ => machine.target.flashMode = false → enters machine.state
  | .erase _ _ => machine.target.flashMode = false → enters machine.state
  | .complete => True
  | .massErase _ => machine.target.flashMode = false ∧ enters machine.state

def SafeRun (part : Part σ ρ ε) (world : World ε) (layout : Regions) (enters : σ → Prop) :
    List (Request ε) → Machine σ ρ → Prop
  | [], _ => True
  | request :: rest, machine =>
    Safe enters machine request ∧ SafeRun part world layout enters rest (perform part world layout request machine)

theorem entering_answered (world : World ε) (calls : List Call) :
    world.environment.answer (calls ++ [.enterFlashMode]) = true := by
  simp only [World.environment, List.getLast?_concat]

theorem complete_intact (preserves : Preserves part start enters outside inside)
    (intact : Intact part start outside inside machine) :
    Intact part start outside inside
      (machine.forward part world (targetFlashComplete layout world.environment machine.target).2) := by
  obtain ⟨idle, session⟩ := @targetFlashComplete_calls layout world.environment rfl machine.target
  cases mode : machine.target.flashMode with
  | false =>
    rw [idle mode, @forward_eq _ _ _ part world machine machine.target [] (List.append_nil _).symm]
    exact intact
  | true =>
    obtain ⟨left, more, calls, working⟩ := session mode
    obtain ⟨saved, within⟩ := intact.session mode
    rw [List.append_assoc] at calls
    rw [forward_eq calls, calls_append]
    have worked := @calls_worked _ _ _ part world _ start enters outside inside preserves more working machine.target.calls
      within
    exact exit_intact preserves (worked.saved.trans saved) worked.inside left

theorem perform_intact (preserves : Preserves part start enters outside inside)
    (intact : Intact part start outside inside machine) {request : Request ε} (safe : Safe enters machine request) :
    Intact part start outside inside (perform part world layout request machine) := by
  cases request with
  | write dest data =>
    exact session_intact preserves intact (targetFlashWrite_session rfl (entering_answered world) dest data _) safe
  | erase addr len =>
    exact session_intact preserves intact (targetFlashErase_session rfl (entering_answered world) addr len _) safe
  | complete => exact complete_intact preserves intact
  | massErase effect =>
    obtain ⟨outside, enters⟩ := safe
    obtain ⟨saved, within⟩ := preserves.entered machine.state (intact.idle outside) enters
    obtain ⟨kept, still⟩ := preserves.worked effect _ within
    exact @exit_intact _ _ _ part { machine with state := part.command effect (part.enterFlashMode machine.state) } _ _ _ _
      preserves machine.target (kept.trans saved) still outside

theorem run_intact (preserves : Preserves part start enters outside inside) {requests : List (Request ε)}
    (intact : Intact part start outside inside machine) (safe : SafeRun part world layout enters requests machine) :
    Intact part start outside inside (performAll part world layout requests machine) := by
  induction requests generalizing machine with
  | nil => exact intact
  | cons request rest ih => exact ih (perform_intact preserves intact safe.1) safe.2

/-- A run from outside of flash mode writes nothing back but what the registers held at its start. -/
theorem run_restored (preserves : Preserves part start enters outside inside) {target : Target} (left : target.flashMode = false)
    {requests : List (Request ε)} (safe : SafeRun part world layout enters requests ⟨target, start, none⟩) {values : ρ}
    (written : (performAll part world layout requests ⟨target, start, none⟩).restored = some values) :
    values = part.held start := by
  have intact : Intact part start outside inside (⟨target, start, none⟩ : Machine σ ρ) := by
    refine ⟨fun _ => preserves.begun, fun entered => ?_, fun _ never => by cases never⟩
    cases left.symm.trans entered
  exact (run_intact preserves intact safe).restored values written

end Requests

section Parts

theorem lpc17xx_preserves (start : Lpc17xx) : Preserves lpc17xx start (fun _ => True)
    (fun state => lpc17xx.held state = lpc17xx.held start) (fun _ => True) where
  begun := rfl
  entered _ outside _ := ⟨outside, trivial⟩
  worked _ _ _ := ⟨rfl, trivial⟩
  left _ _ saved := saved

open Imxrt in
theorem build_keeps (state : Imxrt.State) (command length : BitVec 16) :
    imxrt.saved (imxrtSpiBuildInsnSequence state command length).2 = imxrt.saved state ∧
      (imxrtSpiBuildInsnSequence state command length).2.lutCtrl = state.lutCtrl := by
  have filled (slot : Nat) : imxrt.saved (fillSlot state slot command length) = imxrt.saved state ∧
      (fillSlot state slot command length).lutCtrl = state.lutCtrl := by
    rw [fillSlot, writeLut]
    split
    · exact ⟨rfl, rfl⟩
    · exact ⟨rfl, rfl⟩
  rw [imxrtSpiBuildInsnSequence]
  cases lookup state command with
  | cached slot => exact ⟨rfl, rfl⟩
  | empty slot => exact filled slot
  | full => exact filled 0

open Imxrt in
theorem enter_saves (state : Imxrt.State) : imxrt.saved (imxrtEnterFlashMode state) = imxrt.held state := by
  have lut : (if state.lutCtrl ≠ lutCtrlUnlock then { state with lutCtrl := lutCtrlUnlock } else state).lut = state.lut := by
    split <;> rfl
  have same : sequences (imxrtEnterFlashMode state).flexspiPrgSeqState = sequences state.lut := by
    funext slot
    simp only [sequences, imxrtEnterFlashMode, lut]
    by_cases inside : slot < cachedSlots
    · rw [if_pos inside, if_pos inside, if_pos inside]
    · rw [if_neg inside, if_neg inside]
  exact congrArg (ImxrtRegisters.mk state.mpuCtrl state.lutCtrl) same

open Imxrt in
theorem enter_lutCtrl (state : Imxrt.State) : (imxrtEnterFlashMode state).lutCtrl = lutCtrlUnlock := by
  simp only [imxrtEnterFlashMode]
  split
  · rfl
  next unlocked => exact not_not.mp unlocked

open Imxrt in
/-- An exit writes back all that is saved, as the look-up table is not locked. -/
theorem exit_restores {state : Imxrt.State} (unlocked : state.lutCtrl = lutCtrlUnlock) :
    imxrt.held (imxrtExitFlashMode state) = imxrt.saved state := by
  have unlockedTable : writable state = true := by
    rw [writable, unlocked]
    decide
  have lut : sequences (imxrtExitFlashMode state).lut = sequences state.flexspiPrgSeqState := by
    funext slot
    simp only [sequences, imxrtExitFlashMode, writeLut, if_pos unlockedTable]
    by_cases inside : slot < cachedSlots
    · rw [if_pos inside, if_pos inside]
      split
      · exact if_pos (decide_eq_true inside)
      · exact if_pos (decide_eq_true inside)
    · rw [if_neg inside, if_neg inside]
  have lutCtrl : (imxrtExitFlashMode state).lutCtrl = state.flexspiLutState := by
    simp only [imxrtExitFlashMode, writeLut, if_pos unlockedTable]
    split
    · rfl
    next same => exact unlocked.trans (not_not.mp same).symm
  have mpuCtrl : (imxrtExitFlashMode state).mpuCtrl = state.mpuState := rfl
  simp only [imxrt, lut, lutCtrl, mpuCtrl]

open Imxrt in
/-- Flash mode has the look-up table unlocked, so that an exit can put its contents back. -/
theorem imxrt_preserves (start : Imxrt.State) : Preserves imxrt start (fun _ => True)
    (fun state => imxrt.held state = imxrt.held start) (fun state => state.lutCtrl = lutCtrlUnlock) where
  begun := rfl
  entered state outside _ := ⟨(enter_saves state).trans outside, enter_lutCtrl state⟩
  worked commands state within := by
    induction commands generalizing state with
    | nil => exact ⟨rfl, within⟩
    | cons command rest ih =>
      obtain ⟨saved, lutCtrl⟩ := build_keeps state command.1 command.2
      obtain ⟨later, still⟩ := ih (imxrtSpiBuildInsnSequence state command.1 command.2).2 (lutCtrl.trans within)
      exact ⟨later.trans saved, still⟩
  left _ within saved := (exit_restores within).trans saved

/-- The SSI is as `rp_flash_exit_xip` leaves it before anything is entered, and the register for the XIP is as it was. -/
def RpEnters (start state : Rp) : Prop :=
  rpFlashInitSpi start.ssi = start.ssi ∧ state.ssi.xipSpiCtrl0 = start.ssi.xipSpiCtrl0

theorem rp2040_preserves (start : Rp) : Preserves rp2040 start (RpEnters start)
    (fun state => state.ssi.ctrl1 = start.ssi.ctrl1) (fun _ => True) where
  begun := rfl
  entered state outside enters := by
    obtain ⟨settled, xip⟩ := enters
    refine ⟨?_, trivial⟩
    have saved : rp2040.saved (rp2040.enterFlashMode state) = rpFlashInitSpi state.ssi := rfl
    have same : rpFlashInitSpi state.ssi = rpFlashInitSpi start.ssi := by
      rw [rpFlashInitSpi, rpFlashInitSpi, outside, xip]
    rw [saved, same]
    exact settled
  worked lengths state _ := by
    refine ⟨?_, trivial⟩
    induction lengths generalizing state with
    | nil => rfl
    | cons length rest ih => exact ih { state with ssi := { state.ssi with ctrl1 := length } }
  left _ _ saved := by
    have ctrl1 := congrArg SsiRegisters.ctrl1 saved
    exact ctrl1

end Parts

/-- In every run of erases, writes, completions and mass erases whose mass erases all come outside of flash mode, an exit
from flash mode writes back what the registers held at the start. The RP2040 saves its registers after it has changed them,
so that there this has to make no difference. -/
theorem flash_mode_restores (layout : Regions) {target : Target} (left : target.flashMode = false) :
    (∀ (world : World Unit) (start : Lpc17xx) (requests : List (Request Unit)),
      SafeRun lpc17xx world layout (fun _ => True) requests ⟨target, start, none⟩ →
        ∀ values, (performAll lpc17xx world layout requests ⟨target, start, none⟩).restored = some values →
          values = lpc17xx.held start) ∧
    (∀ (world : World (List (BitVec 16 × BitVec 16))) (start : Imxrt.State) (requests : List (Request _)),
      SafeRun imxrt world layout (fun _ => True) requests ⟨target, start, none⟩ →
        ∀ values, (performAll imxrt world layout requests ⟨target, start, none⟩).restored = some values →
          values = imxrt.held start) ∧
    (∀ (world : World (List Word)) (start : Rp) (requests : List (Request _)),
      SafeRun rp2040 world layout (RpEnters start) requests ⟨target, start, none⟩ →
        ∀ values, (performAll rp2040 world layout requests ⟨target, start, none⟩).restored = some values →
          values = rp2040.held start) := by
  refine ⟨fun world start requests safe values written => ?_, fun world start requests safe values written => ?_,
    fun world start requests safe values written => ?_⟩
  · exact run_restored (lpc17xx_preserves start) left safe written
  · exact run_restored (imxrt_preserves start) left safe written
  · exact run_restored (rp2040_preserves start) left safe written

/-- The low sectors of an LPC17xx. -/
def lowSectors : Regions := ⟨targetAddFlash ⟨0, 0x10000, 0x1000, 1024, 0, 0xff, true, false⟩ []⟩

def willing {ε : Type} (effect : ε) : World ε := ⟨fun _ => true, fun _ _ => 0, fun _ => effect⟩

/-- A session with an enabled MPU. -/
theorem mpu_restored :
    (performAll lpc17xx (willing ()) lowSectors [.erase 0 0x1000, .complete] ⟨.probed, ⟨1, 1, 0, 0⟩, none⟩).restored =
      some (1, 1) ∧ ((1, 1) : Word × Word) = lpc17xx.held ⟨1, 1, 0, 0⟩ := by
  have written : (performAll lpc17xx (willing ()) lowSectors [.erase 0 0x1000, .complete]
      ⟨.probed, ⟨1, 1, 0, 0⟩, none⟩).restored = some (1, 1) := by decide +kernel
  exact ⟨written, (flash_mode_restores lowSectors rfl).1 (willing ()) ⟨1, 1, 0, 0⟩ [.erase 0 0x1000, .complete]
    ⟨fun _ => trivial, trivial, trivial⟩ (1, 1) written⟩

/-- A mass erase in flash mode leaves the MPU of an LPC17xx disabled, and on an RP2040 that runs from its Flash even a mass
erase alone writes back another frame format. -/
theorem mass_erase_in_flash_mode :
    ((performAll lpc17xx (willing ()) lowSectors [.erase 0 0x1000, .massErase (), .complete]
        ⟨.probed, ⟨1, 1, 0, 0⟩, none⟩).target.flashMode = false ∧
      (performAll lpc17xx (willing ()) lowSectors [.erase 0 0x1000, .massErase (), .complete]
        ⟨.probed, ⟨1, 1, 0, 0⟩, none⟩).restored = some (0, 1) ∧
      ((0, 1) : Word × Word) ≠ lpc17xx.held ⟨1, 1, 0, 0⟩) ∧
    (performAll rp2040 (willing []) ⟨[]⟩ [.massErase []] ⟨.probed, ⟨⟨1, 0x001f0300, 0, 0x03000218⟩, ⟨0, 0, 0, 0⟩⟩, none⟩).restored
      = some ⟨1, 0x00070000, 0, 0x03000218⟩ := by
  refine ⟨⟨?_, ?_, ?_⟩, ?_⟩
  · decide +kernel
  · decide +kernel
  · decide +kernel
  · decide +kernel

end BlackMagic.Proofs.SavedRegisters
