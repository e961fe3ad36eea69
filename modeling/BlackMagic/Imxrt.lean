import BlackMagic.SpiCommands

/-! The sequences of the FlexSPI controller of an i.MXRT (`imxrt.c`): its look-up table, and the cache of the commands the
table holds sequences for. -/

namespace BlackMagic.Imxrt
open SpiCommands

def spiFlashDataOut : BitVec 16 := 0x1000

def lutCtrlLock : BitVec 32 := 0x00000001
def lutCtrlUnlock : BitVec 32 := 0x00000002

def lutOpcode (op : BitVec 8) : BitVec 8 := (op &&& 0x3f) <<< 2
def lutModeSerial : BitVec 8 := 0x0
def lutOpStop : BitVec 8 := 0x00
def lutOpCommand : BitVec 8 := 0x01
def lutOpRaddr : BitVec 8 := 0x02
def lutOpDummyCycles : BitVec 8 := 0x0c
def lutOpRead : BitVec 8 := 0x09
def lutOpWrite : BitVec 8 := 0x08

structure LutInsn where
  value : BitVec 8
  opcodeMode : BitVec 8
  deriving DecidableEq, Repr

/-- The look-up table of the controller with its lock and the control register of the MPU, and what the driver keeps. -/
structure State where
  lut : Nat → List LutInsn
  lutCtrl : BitVec 32
  mpuCtrl : BitVec 32
  mpuState : BitVec 32
  flexspiLutState : BitVec 32
  flexspiCachedCommands : Nat → BitVec 16
  flexspiPrgSeqState : Nat → List LutInsn

def cachedSlots : Nat := 4
def sequenceLength : Nat := 8

def writable (state : State) : Bool := state.lutCtrl &&& lutCtrlLock == 0

/-- A write to the table, which the controller ignores while the table is locked. -/
def writeLut (state : State) (slots : Nat → Bool) (contents : Nat → List LutInsn) : State :=
  if writable state then { state with lut := fun slot => if slots slot then contents slot else state.lut slot }
  else state

def imxrtEnterFlashMode (state : State) : State :=
  let unlocked := if state.lutCtrl ≠ lutCtrlUnlock then { state with lutCtrl := lutCtrlUnlock } else state
  { unlocked with
    mpuState := state.mpuCtrl
    mpuCtrl := 0
    flexspiLutState := state.lutCtrl
    flexspiPrgSeqState := fun slot => if slot < cachedSlots then unlocked.lut slot else state.flexspiPrgSeqState slot
    flexspiCachedCommands := fun slot => if slot < cachedSlots then 0 else state.flexspiCachedCommands slot }

def imxrtExitFlashMode (state : State) : State :=
  let restored := writeLut state (fun slot => slot < cachedSlots) state.flexspiPrgSeqState
  let relocked :=
    if state.flexspiLutState ≠ lutCtrlUnlock then { restored with lutCtrl := state.flexspiLutState } else restored
  { relocked with mpuCtrl := state.mpuState }

/-- How the search for a slot ends. -/
inductive Lookup where
  | cached (slot : Nat)
  | empty (slot : Nat)
  | full
  deriving DecidableEq, Repr

/-- The slot of a command; where all slots are in use, the first one is used again. -/
def Lookup.slot : Lookup → Nat
  | .cached slot => slot
  | .empty slot => slot
  | .full => 0

/-- The search of the cache, with as many slots left. -/
def findSlot (cachedCommands : Nat → BitVec 16) (command : BitVec 16) : Nat → Nat → Lookup
  | 0, _ => .full
  | left + 1, slot =>
    if cachedCommands slot = command then .cached slot
    else if cachedCommands slot = 0 then .empty slot
    else findSlot cachedCommands command left (slot + 1)

def lookup (state : State) (command : BitVec 16) : Lookup :=
  findSlot state.flexspiCachedCommands command cachedSlots 0

/-- The instructions for a command. -/
def sequenceInsns (command length : BitVec 16) : List LutInsn :=
  [⟨(command &&& spiFlashOpcodeMask).setWidth 8, lutOpcode lutOpCommand ||| lutModeSerial⟩] ++
  (if command &&& spiFlashOpcodeModeMask = spiFlashOpcode3bAddr then
    [⟨24, lutOpcode lutOpRaddr ||| lutModeSerial⟩] else []) ++
  (if command &&& spiFlashDummyMask ≠ 0 then
    [⟨((command &&& spiFlashDummyMask) >>> spiFlashDummyShift).setWidth 8 * 8,
      lutOpcode lutOpDummyCycles ||| lutModeSerial⟩] else []) ++
  if length ≠ 0 then
    if command &&& spiFlashDataOut ≠ 0 then [⟨0, lutOpcode lutOpWrite ||| lutModeSerial⟩]
    else [⟨0, lutOpcode lutOpRead ||| lutModeSerial⟩]
  else []

/-- The sequence for a command, filled up by STOP instructions. -/
def buildSequence (command length : BitVec 16) : List LutInsn :=
  let insns := sequenceInsns command length
  insns ++ List.replicate (sequenceLength - insns.length) ⟨0, 0⟩

/-- Writes the sequence for a command to a slot and notes the command. -/
def fillSlot (state : State) (slot : Nat) (command length : BitVec 16) : State :=
  let written := writeLut state (fun place => place == slot) fun _ => buildSequence command length
  { written with
    flexspiCachedCommands := fun place => if place = slot then command else state.flexspiCachedCommands place }

def imxrtSpiBuildInsnSequence (state : State) (command length : BitVec 16) : Nat × State :=
  match lookup state command with
  | .cached slot => (slot, state)
  | other => (other.slot, fillSlot state other.slot command length)

/-- What the controller does for one instruction of a sequence. -/
inductive Phase where
  | command (opcode : BitVec 8)
  | address (bits : Nat)
  | dummyCycles (cycles : Nat)
  | read
  | write
  | other (insn : LutInsn)
  deriving DecidableEq, Repr

def phase (insn : LutInsn) : Phase :=
  if insn.opcodeMode = lutOpcode lutOpCommand ||| lutModeSerial then .command insn.value
  else if insn.opcodeMode = lutOpcode lutOpRaddr ||| lutModeSerial then .address insn.value.toNat
  else if insn.opcodeMode = lutOpcode lutOpDummyCycles ||| lutModeSerial then .dummyCycles insn.value.toNat
  else if insn.opcodeMode = lutOpcode lutOpRead ||| lutModeSerial then .read
  else if insn.opcodeMode = lutOpcode lutOpWrite ||| lutModeSerial then .write
  else .other insn

/-- The controller carries out a sequence up to its first STOP instruction. -/
def phases : List LutInsn → List Phase
  | [] => []
  | insn :: rest => if insn.opcodeMode >>> 2 = lutOpStop then [] else phase insn :: phases rest

/-- What a command word asks for: its opcode, a 24-bit address where bit 11 is set, as many dummy bytes as bits 8 to 10
say, and data out of or into the probe by bit 12. -/
def requested (command : BitVec 16) (data : Bool) : List Phase :=
  [.command (command.setWidth 8)] ++
  (if command.getLsbD 11 then [.address 24] else []) ++
  (if command.extractLsb' 8 3 ≠ 0 then [.dummyCycles (8 * (command.extractLsb' 8 3).toNat)] else []) ++
  if data then if command.getLsbD 12 then [.write] else [.read] else []

/-- The table holds at the slot what a command asks for. -/
def Encodes (state : State) (slot : Nat) (command : BitVec 16) (data : Bool) : Prop :=
  phases (state.lut slot) = requested command data

instance (state : State) (slot : Nat) (command : BitVec 16) (data : Bool) : Decidable (Encodes state slot command data) :=
  inferInstanceAs (Decidable (_ = _))

/-- A command word of the driver is not zero, and comes always or never with data. -/
def Allowed (data : BitVec 16 → Bool) (command length : BitVec 16) : Prop :=
  command ≠ 0 ∧ data command = decide (length ≠ 0)

/-- The slots filled since the last change of the mode, after a command. -/
def refresh (state : State) (fresh : Nat → Bool) (command : BitVec 16) : Nat → Bool :=
  match lookup state command with
  | .cached _ => fresh
  | other => fun place => if place = other.slot then writable state else fresh place

/-- The runs of the driver, with the slots filled since the last change of the mode and whether this was an entry. -/
inductive Run (data : BitVec 16 → Bool) : State → (Nat → Bool) → Bool → Prop
  | probed (lut : Nat → List LutInsn) (lutCtrl mpuCtrl : BitVec 32) :
    Run data ⟨lut, lutCtrl, mpuCtrl, 0, 0, fun _ => 0, fun _ => List.replicate sequenceLength ⟨0, 0⟩⟩ (fun _ => false) false
  | enter {state : State} {fresh : Nat → Bool} {session : Bool} (before : Run data state fresh session) :
    Run data (imxrtEnterFlashMode state) (fun _ => false) true
  | exit {state : State} {fresh : Nat → Bool} {session : Bool} (before : Run data state fresh session) :
    Run data (imxrtExitFlashMode state) (fun _ => false) false
  | command {state : State} {fresh : Nat → Bool} {session : Bool} {word length : BitVec 16}
    (before : Run data state fresh session) (allowed : Allowed data word length) :
    Run data (imxrtSpiBuildInsnSequence state word length).2 (refresh state fresh word) session

/-- A command that is found is found in a slot filled since the last change of the mode, and a command that is not comes
while the table is not locked. -/
def backed (state : State) (fresh : Nat → Bool) (command : BitVec 16) : Bool :=
  match lookup state command with
  | .cached slot => fresh slot
  | _ => writable state

end BlackMagic.Imxrt
