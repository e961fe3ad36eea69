import BlackMagic.Flash
import BlackMagic.Imxrt

/-! Flash mode on the parts that save registers when they enter it: LPC17xx (`lpc17xx.c`), i.MXRT (`imxrt.c`) and RP2040
(`rp.c`), with the mass erase, which enters and leaves flash mode by itself (`lpc17xx_mass_erase`, `bmp_spi_mass_erase`). -/

namespace BlackMagic.FlashModes
open Flash

abbrev Word := BitVec 32

/-- The flash mode callbacks of a part over its registers and the driver's private data. What its flash drivers do has an
effect on these as well. -/
structure Part (σ ρ ε : Type) where
  enterFlashMode : σ → σ
  exitFlashMode : σ → σ
  command : ε → σ → σ
  /-- The registers that an exit writes. -/
  held : σ → ρ
  /-- What the private data holds for them. -/
  saved : σ → ρ

section Lpc17xx

structure Lpc17xx where
  mpuCtrl : Word
  memmap : Word
  mpuCtrlState : Word
  memmapState : Word
  deriving DecidableEq, Repr

/-- The commands are calls of the ROM, which leaves these registers alone. -/
def lpc17xx : Part Lpc17xx (Word × Word) Unit where
  enterFlashMode state := { state with mpuCtrlState := state.mpuCtrl, mpuCtrl := 0, memmapState := state.memmap }
  exitFlashMode state := { state with memmap := state.memmapState, mpuCtrl := state.mpuCtrlState }
  command _ state := state
  held state := (state.mpuCtrl, state.memmap)
  saved state := (state.mpuCtrlState, state.memmapState)

end Lpc17xx

section Imxrt
open Imxrt

structure ImxrtRegisters where
  mpuCtrl : Word
  lutCtrl : Word
  lut : Nat → List LutInsn

/-- The sequences of the table that the driver saves. -/
def sequences (lut : Nat → List LutInsn) : Nat → List LutInsn := fun slot => if slot < cachedSlots then lut slot else []

/-- The commands, with their lengths, put their sequences into the table. -/
def imxrt : Part Imxrt.State ImxrtRegisters (List (BitVec 16 × BitVec 16)) where
  enterFlashMode := imxrtEnterFlashMode
  exitFlashMode := imxrtExitFlashMode
  command commands state := commands.foldl (fun state command => (imxrtSpiBuildInsnSequence state command.1 command.2).2) state
  held state := ⟨state.mpuCtrl, state.lutCtrl, sequences state.lut⟩
  saved state := ⟨state.mpuState, state.flexspiLutState, sequences state.flexspiPrgSeqState⟩

end Imxrt

section Rp

structure SsiRegisters where
  enable : Word
  ctrl0 : Word
  ctrl1 : Word
  xipSpiCtrl0 : Word
  deriving DecidableEq, Repr

structure Rp where
  ssi : SsiRegisters
  /-- What the private data holds for them. -/
  priv : SsiRegisters
  deriving DecidableEq, Repr

def rpSsiCtrl0FrfMask : Word := 0x00600000
def rpSsiCtrl0FrfSerial : Word := 0 <<< 21
def rpSsiCtrl0TmodMask : Word := 0x00000300
def rpSsiCtrl0TmodBidi : Word := 0 <<< 8
def rpSsiCtrl0TmodEeprom : Word := 3 <<< 8
def rpSsiCtrl0DataBitMask : Word := 0x001f0000
def rpSsiCtrl0DataBits (x : Word) : Word := (x - 1) <<< 16
def rpSsiCtrl0Mask : Word := rpSsiCtrl0FrfMask ||| rpSsiCtrl0TmodMask ||| rpSsiCtrl0DataBitMask
def rpSsiEnableSsi : Word := 1 <<< 0
def rpSsiXipSpiCtrl0FormatFrf : Word := 2 <<< 0
def rpSsiXipSpiCtrl0AddressLength (x : Word) : Word := (x * 2) <<< 2
def rpSsiXipSpiCtrl0InstrLength8b : Word := 2 <<< 8
def rpSsiXipSpiCtrl0WaitCycles (x : Word) : Word := (x * 8) <<< 11
def rpSsiXipSpiCtrl0XipCmd (x : Word) : Word := x <<< 24
def rpSsiXipSpiCtrl0Trans1C1A : Word := 0 <<< 0

/-- What `rp_flash_exit_xip` does to the SSI. -/
def rpFlashInitSpi (ssi : SsiRegisters) : SsiRegisters :=
  { ssi with ctrl0 := rpSsiCtrl0FrfSerial ||| rpSsiCtrl0DataBits 8 ||| rpSsiCtrl0TmodBidi, enable := 1 }

def rpSpiConfig (state : Rp) : Rp where
  priv := state.ssi
  ssi := { state.ssi with
    ctrl0 := state.ssi.ctrl0 &&& rpSsiCtrl0Mask ||| rpSsiCtrl0FrfSerial ||| rpSsiCtrl0TmodBidi ||| rpSsiCtrl0DataBits 8
    xipSpiCtrl0 := rpSsiXipSpiCtrl0FormatFrf ||| rpSsiXipSpiCtrl0AddressLength 0 ||| rpSsiXipSpiCtrl0InstrLength8b |||
      rpSsiXipSpiCtrl0WaitCycles 0
    enable := rpSsiEnableSsi }

def rpSpiRestore (state : Rp) : Rp := { state with ssi := state.priv }

def rpFlashEnterXip (ssi : SsiRegisters) : SsiRegisters :=
  { ssi with
    ctrl0 := rpSsiCtrl0FrfSerial ||| rpSsiCtrl0DataBits 32 ||| rpSsiCtrl0TmodEeprom
    xipSpiCtrl0 := rpSsiXipSpiCtrl0XipCmd 3 ||| rpSsiXipSpiCtrl0InstrLength8b ||| rpSsiXipSpiCtrl0AddressLength 3 |||
      rpSsiXipSpiCtrl0Trans1C1A
    enable := rpSsiEnableSsi }

def rpFlashPrepare (state : Rp) : Rp := rpSpiConfig { state with ssi := rpFlashInitSpi state.ssi }

def rpFlashResume (state : Rp) : Rp :=
  let restored := rpSpiRestore state
  { restored with ssi := rpFlashEnterXip restored.ssi }

/-- The commands set the length of their transfer in `CTRL1`. -/
def rp2040 : Part Rp SsiRegisters (List Word) where
  enterFlashMode := rpFlashPrepare
  exitFlashMode := rpFlashResume
  command lengths state := lengths.foldl (fun state length => { state with ssi := { state.ssi with ctrl1 := length } }) state
  held state := state.ssi
  saved state := state.priv

end Rp

section Requests

variable {σ ρ ε : Type}

structure Machine (σ ρ : Type) where
  target : Target
  state : σ
  /-- What the last exit from flash mode has written back. -/
  restored : Option ρ

/-- What a debugger can ask for. -/
inductive Request (ε : Type) where
  | write (dest : Nat) (data : List Byte)
  | erase (addr len : Nat)
  | complete
  | massErase (effect : ε)

/-- What the flash drivers and the heap do. -/
structure World (ε : Type) where
  answer : List Call → Bool
  garbage : List Call → Buffer
  effect : List Call → ε

/-- The flash mode callbacks of these parts succeed. -/
def World.environment (world : World ε) : Environment where
  enterFlashMode := true
  exitFlashMode := true
  reset := true
  answer calls :=
    match calls.getLast? with
    | some .enterFlashMode => true
    | some .exitFlashMode => true
    | _ => world.answer calls
  garbage := world.garbage

variable (part : Part σ ρ ε) (world : World ε) (layout : Regions)

def Machine.enter (machine : Machine σ ρ) : Machine σ ρ := { machine with state := part.enterFlashMode machine.state }

def Machine.exit (machine : Machine σ ρ) : Machine σ ρ :=
  { machine with state := part.exitFlashMode machine.state, restored := some (part.saved machine.state) }

def Machine.call (machine : Machine σ ρ) (call : Call) (effect : ε) : Machine σ ρ :=
  match call with
  | .enterFlashMode => machine.enter part
  | .exitFlashMode => machine.exit part
  | .erase _ _ _ => { machine with state := part.command effect machine.state }
  | .write _ _ _ _ => { machine with state := part.command effect machine.state }
  | _ => machine

/-- Calls that are made one after another. -/
def Machine.calls (past : List Call) : List Call → Machine σ ρ → Machine σ ρ
  | [], machine => machine
  | call :: rest, machine =>
    Machine.calls (past ++ [call]) rest (machine.call part call (world.effect (past ++ [call])))

/-- A request to the flash layer, with the calls that it makes. -/
def Machine.forward (next : Target) (machine : Machine σ ρ) : Machine σ ρ :=
  let made := next.calls.drop machine.target.calls.length
  { machine.calls part world machine.target.calls made with target := next }

def massErase (effect : ε) (machine : Machine σ ρ) : Machine σ ρ :=
  let entered := machine.enter part
  Machine.exit part { entered with state := part.command effect entered.state }

def perform (request : Request ε) (machine : Machine σ ρ) : Machine σ ρ :=
  match request with
  | .write dest data => machine.forward part world (targetFlashWrite layout world.environment dest data machine.target).2
  | .erase addr len => machine.forward part world (targetFlashErase layout world.environment addr len machine.target).2
  | .complete => machine.forward part world (targetFlashComplete layout world.environment machine.target).2
  | .massErase effect => massErase part effect machine

def performAll : List (Request ε) → Machine σ ρ → Machine σ ρ
  | [], machine => machine
  | request :: rest, machine => performAll rest (perform part world layout request machine)

end Requests

end BlackMagic.FlashModes
