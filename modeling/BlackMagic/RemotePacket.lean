import BlackMagic.Jtag
import BlackMagic.RemoteResponse
import BlackMagic.SwdAccess

/-! The packets of the remote protocol (`remote.c`) and what they call: the SWD and the JTAG port (`swdptap.c`, `jtagtap.c`,
`jtag_scan.c`) and the accesses of a debug port (`adiv5.c`, `adiv5_swd.c`, `adiv5_jtag.c`). A run stops at the first use of
an array outside of it, or shift by the width of a word or more. Sequences of a literal number of at most 32 cycles and
shifts by literals are not looked at. -/

namespace BlackMagic.RemotePacket
open Lib Lib.Program Hex
open Jtag (JtagDev jtagMaxDevs)
open RemoteMemory (isHex hton)
open RemoteResponse (responseDigits)

section State

/-- What is used at an index that is computed: arrays, and the bits of a word. -/
inductive Place where
  | packet
  | received
  | jtagDevs
  | ones
  | ir
  | dataIn
  | dataOut
  | hex
  | response
  | buffer
  | shift
  deriving DecidableEq, Repr

inductive Halt where
  | outOfBounds (place : Place)
  | nullPointer
  | raised
  | unfinished
  deriving DecidableEq, Repr

inductive Response where
  | value (code : Byte) (param : BitVec 64)
  | data (code : Byte) (bytes : List Byte)
  | string (code : Byte) (text : List Byte)
  deriving DecidableEq, Repr

/-- The functions that an initialisation puts into `remote_dp`. -/
inductive DpFunctions where
  | swd
  | jtag
  deriving DecidableEq, Repr

structure RemoteDp where
  functions : Option DpFunctions
  fault : Byte
  devIndex : Byte

structure Firmware where
  packet : Buffer
  /-- The functions of the SWD port are set. -/
  swdProc : Bool
  jtagProc : Bool
  remoteDp : RemoteDp
  jtagDevs : Nat → JtagDev
  jtagDevCount : Nat
  /-- The transactions with the target so far. -/
  transactions : Nat
  /-- The responses to the packet. -/
  sent : List Response

/-- The pins and the clock: the levels of `SWDIO` during the packet, and for each transaction the bits of `TDO` or the
answers of the SWD port. -/
structure Environment where
  swdio : Nat → Bool
  tdo : Nat → BitVec 64
  expired : Nat → Bool
  swd : SwdAccess.Environment
  nrst : Bool

abbrev Action := Program Firmware Halt

def touch (place : Place) (size index : Nat) : Action Unit :=
  if index < size then pure () else stop (.outOfBounds place)

def gdbPacketBufferSize : Nat := 1024

end State

section Text

def packetByte (place : Nat) : Action Byte := do
  touch .packet (gdbPacketBufferSize + 1) place
  pure ((← read).packet place)

/-- The loop of `remote_hex_string_to_num`, from a place of the packet on. -/
def readDigits : Nat → Nat → BitVec 64 → Action (BitVec 64)
  | 0, _, ret => pure ret
  | max + 1, place, ret => do
    let value ← packetByte place
    if isHex value then readDigits max (place + 1) ((ret <<< 4) ||| (hton value).setWidth 64) else pure ret

def remoteHexStringToNum (max place : Nat) : Action (BitVec 64) := readDigits max place 0

def remoteRespOk : Byte := chr 'K'
def remoteRespParerr : Byte := chr 'P'
def remoteRespErr : Byte := chr 'E'
def remoteRespNotsup : Byte := chr 'N'
def remoteErrorUnrecognised : BitVec 64 := 1
def remoteErrorWronglen : BitVec 64 := 2
def remoteErrorFault : BitVec 64 := 3
def remoteErrorException : BitVec 64 := 4
def exceptionError : BitVec 64 := 1

def send (response : Response) : Action Unit :=
  change fun firmware => { firmware with sent := firmware.sent ++ [response] }

/-- `hexify` of one byte at a time, with its terminator, into an array of two. -/
def remoteSendBuf (size len : Nat) : Action Unit :=
  each (fun offset => do
    touch .buffer size offset
    each (touch .hex 2) [0, 1, 2]) (List.range len)

def remoteRespondBuf (responseCode : Byte) (buffer : Buffer) (size len : Nat) : Action Unit := do
  remoteSendBuf size len
  send (.data responseCode (buffer.take len))

def remoteRespond (responseCode : Byte) (param : BitVec 64) : Action Unit := do
  each (touch .response 16) (List.range (responseDigits param).length)
  send (.value responseCode param)

def remoteRespondString (responseCode : Byte) (str : List Byte) : Action Unit :=
  send (.string responseCode (str.map fun c => if c = chr '$' ∨ c = chr '!' ∨ c = chr '#' then chr ' ' else c))

end Text

section Ports
variable (env : Environment)

/-- A call through the table of the SWD port. -/
def swdProc : Action Unit := do
  if (← read).swdProc then pure () else stop .nullPointer

def jtagProc : Action Unit := do
  if (← read).jtagProc then pure () else stop .nullPointer

def swdValue (clockCycles : Nat) : BitVec 32 :=
  (List.range clockCycles).foldl (fun value cycle => if env.swdio cycle then value ||| 1#32 <<< cycle else value) 0#32

/-- A bit is shifted to its place only if it is set. -/
def swdptapSeqIn (clockCycles : Nat) : Action (BitVec 32) := do
  each (fun cycle => onlyIf (env.swdio cycle = true) (touch .shift 32 cycle)) (List.range clockCycles)
  pure (swdValue env clockCycles)

def swdptapSeqInParity (clockCycles : Nat) : Action (Bool × BitVec 32) := do
  let result ← swdptapSeqIn env clockCycles
  let parity := (List.range 32).countP result.getLsbD + if env.swdio clockCycles then 1 else 0
  pure (decide (parity % 2 = 1), result)

def swdptapSeqOut (clockCycles : Nat) : Action Unit := each (touch .shift 32) (List.range clockCycles)

/-- The bytes of the data, cycle by cycle. -/
def jtagtapTdiSeq (data : Place) (size clockCycles : Nat) : Action Unit :=
  each (fun cycle => touch data size (cycle / 8)) (List.range clockCycles)

/-- The eight bytes of `data_in` and of `data_out` in a scan. -/
def scanBytes (clockCycles : Nat) : Action Unit := do
  each (fun cycle => do
    touch .dataIn 8 (cycle / 8)
    onlyIf (cycle % 8 = 7) (touch .dataOut 8 (cycle / 8))) (List.range clockCycles)
  onlyIf (clockCycles % 8 ≠ 0) (touch .dataOut 8 ((clockCycles - 1) / 8))

def jtagtapTdiTdoSeq (clockCycles : Nat) : Action (BitVec 64) := do
  scanBytes clockCycles
  let firmware ← read
  change fun firmware => { firmware with transactions := firmware.transactions + 1 }
  pure (env.tdo firmware.transactions &&& (1#64 <<< clockCycles - 1))

def setDev (device : Nat) (f : JtagDev → JtagDev) : Action Unit := do
  touch .jtagDevs jtagMaxDevs device
  change fun firmware =>
    { firmware with
      jtagDevs := fun other => if other = device then f (firmware.jtagDevs device) else firmware.jtagDevs other }

def jtagDev (device : Nat) : Action JtagDev := do
  touch .jtagDevs jtagMaxDevs device
  pure ((← read).jtagDevs device)

def jtagAddDevice (devIndex : Nat) (dev : JtagDev) : Action Unit := do
  onlyIf (devIndex = 0) (change fun firmware =>
    { firmware with
      jtagDevs := fun device => if device < jtagMaxDevs then ⟨0, 0, 0, 0, 0, 0, 0⟩ else firmware.jtagDevs device })
  setDev devIndex fun _ => dev
  change fun firmware => { firmware with jtagDevCount := devIndex + 1 }

def jtagDevWriteIr (devIndex : Nat) (ir : BitVec 32) : Action Unit := do
  let device ← jtagDev devIndex
  if ir = device.currentIr then pure ()
  else do
    each (fun other => setDev other fun dev => { dev with currentIr := 0xffffffff#32 })
      (List.range (← read).jtagDevCount)
    setDev devIndex fun dev => { dev with currentIr := ir }
    let device ← jtagDev devIndex
    jtagtapTdiSeq .ones 8 device.irPrescan.toNat
    jtagtapTdiSeq .ir 4 device.irLen.toNat
    jtagtapTdiSeq .ones 8 device.irPostscan.toNat

/-- The data of a scan, with a place for what comes out or without. -/
def shiftData (stored : Bool) (clockCycles : Nat) : Action (BitVec 64) :=
  if stored then jtagtapTdiTdoSeq env clockCycles
  else do
    jtagtapTdiSeq .dataIn 8 clockCycles
    pure 0

def jtagDevShiftDr (devIndex : Nat) (stored : Bool) (clockCycles : Nat) : Action (BitVec 64) := do
  let device ← jtagDev devIndex
  jtagtapTdiSeq .ones 8 device.drPrescan.toNat
  let dataOut ← shiftData env stored clockCycles
  jtagtapTdiSeq .ones 8 device.drPostscan.toNat
  pure dataOut

end Ports

section DebugPort
variable (env : Environment) (rounds : Nat)

def adiv5ApnDp : BitVec 16 := 0x100
def adiv5DpSelect : BitVec 16 := 0x8
def adiv5DpRdbuff : BitVec 16 := 0xc
def adiv5ApCsw : BitVec 16 := 0x100
def adiv5ApTar : BitVec 16 := 0x104
def adiv5ApDrw : BitVec 16 := 0x10c
def irAbort : BitVec 32 := 0x8
def irDpacc : BitVec 32 := 0xa
def irApacc : BitVec 32 := 0xb
def jtagdpAckOk : BitVec 3 := 2
def jtagdpAckWait : BitVec 3 := 1
def swdpAckNoResponse : Byte := 7

def setFault (fault : Byte) : Action Unit :=
  change fun firmware => { firmware with remoteDp := { firmware.remoteDp with fault := fault } }

/-- The debug port and the result after an access through the SWD port. -/
def swdAccessed (ending : Except SwdAccess.Halt (BitVec 32)) (dp : SwdAccess.DebugPort) : Action (BitVec 32) := do
  change fun firmware => { firmware with transactions := dp.transactions }
  setFault dp.fault
  match ending with
  | .ok result => pure result
  | .error (.raised _) => stop .raised
  | .error .unfinished => stop .unfinished

def firmwareSwdpLowAccess (rnw : Bool) (addr : BitVec 16) (value : BitVec 32) : Action (BitVec 32) := do
  let firmware ← read
  if addr &&& adiv5ApnDp ≠ 0 ∧ firmware.remoteDp.fault ≠ 0 then pure 0
  else do
    let accessed :=
      SwdAccess.firmwareSwdpLowAccess env.swd rounds rnw addr value ⟨firmware.remoteDp.fault, firmware.transactions, []⟩
    swdAccessed accessed.1 accessed.2

def adiv5JtagdpAbort (devIndex : Nat) : Action Unit := do
  jtagDevWriteIr devIndex irAbort
  let _ ← jtagDevShiftDr env devIndex false 35

/-- The loop of an access through the JTAG port, for so many rounds at most. -/
def jtagTransfer (devIndex : Nat) : Nat → Action (BitVec 64)
  | 0 => stop .unfinished
  | rounds + 1 => do
    let response ← jtagDevShiftDr env devIndex true 35
    if !env.expired (← read).transactions ∧ response.setWidth 3 = jtagdpAckWait then jtagTransfer devIndex rounds
    else pure response

def jtagdpAccess (devIndex : Nat) (addr : BitVec 16) : Action (BitVec 32) := do
  jtagDevWriteIr devIndex (if addr &&& adiv5ApnDp ≠ 0 then irApacc else irDpacc)
  let response ← jtagTransfer env devIndex rounds
  let ack := response.setWidth 3
  if ack = jtagdpAckWait then do
    adiv5JtagdpAbort env devIndex
    setFault 1
    pure 0
  else if ack ≠ jtagdpAckOk then stop .raised
  else pure ((response >>> 3).setWidth 32)

def fwAdiv5JtagdpLowAccess (addr : BitVec 16) : Action (BitVec 32) := do
  jtagdpAccess env rounds (← read).remoteDp.devIndex.toNat addr

def adiv5DpLowAccess (rnw : Bool) (addr : BitVec 16) (value : BitVec 32) : Action (BitVec 32) := do
  match (← read).remoteDp.functions with
  | none => stop .nullPointer
  | some .swd => firmwareSwdpLowAccess env rounds rnw addr value
  | some .jtag => fwAdiv5JtagdpLowAccess env rounds addr

/-- Nothing sets the `error` function of `remote_dp`. -/
def adiv5DpRecoverableAccess (rnw : Bool) (addr : BitVec 16) (value : BitVec 32) : Action (BitVec 32) := do
  let result ← adiv5DpLowAccess env rounds rnw addr value
  if (← read).remoteDp.fault = swdpAckNoResponse then stop .nullPointer else pure result

def firmwareSwdpRead (addr : BitVec 16) : Action (BitVec 32) := do
  if addr &&& adiv5ApnDp ≠ 0 then do
    let _ ← adiv5DpRecoverableAccess env rounds true addr 0
    adiv5DpLowAccess env rounds true adiv5DpRdbuff 0
  else adiv5DpRecoverableAccess env rounds true addr 0

def fwAdiv5JtagdpRead (addr : BitVec 16) : Action (BitVec 32) := do
  let _ ← fwAdiv5JtagdpLowAccess env rounds addr
  fwAdiv5JtagdpLowAccess env rounds adiv5DpRdbuff

def adiv5DpRead (addr : BitVec 16) : Action (BitVec 32) := do
  match (← read).remoteDp.functions with
  | none => stop .nullPointer
  | some .swd => firmwareSwdpRead env rounds addr
  | some .jtag => fwAdiv5JtagdpRead env rounds addr

def selectAp (apsel : Byte) (addr : BitVec 16) : Action (BitVec 32) :=
  adiv5DpRecoverableAccess env rounds false adiv5DpSelect (apsel.setWidth 32 <<< 24 ||| (addr &&& 0xf0).setWidth 32)

def firmwareApWrite (apsel : Byte) (addr : BitVec 16) (value : BitVec 32) : Action Unit := do
  let _ ← selectAp env rounds apsel addr
  let _ ← adiv5DpLowAccess env rounds false addr value

def firmwareApRead (apsel : Byte) (addr : BitVec 16) : Action (BitVec 32) := do
  let _ ← selectAp env rounds apsel addr
  adiv5DpRead env rounds addr

end DebugPort

section Memory
variable (env : Environment) (rounds : Nat) (ap : RemoteMemory.AccessPort)

/-- The locals of a block transfer. -/
structure Transfer where
  index : Nat
  addr : Nat
  origin : Nat

def apMemAccessSetup (addr align : Nat) : Action Unit := do
  firmwareApWrite env rounds ap.apsel adiv5ApCsw (ap.csw ||| 0x10#32 ||| RemoteMemory.cswSize align)
  let _ ← adiv5DpLowAccess env rounds false adiv5ApTar (BitVec.ofNat 32 addr)

/-- The bytes of the packet buffer that one element is copied to or from. -/
def copied (index align : Nat) : List Nat := (List.range (if align < 2 then 1 <<< align else 4)).map (index + ·)

/-- The lane of a byte or of a halfword. -/
def laneShift (addr align : Nat) : Nat := if align = 0 then 8 * (addr &&& 3) else if align = 1 then 8 * (addr &&& 2) else 0

def adiv5UnpackData (index src : Nat) (data : BitVec 32) (align : MemAp.Align) : Action Nat := do
  each (touch .packet (gdbPacketBufferSize + 1)) (copied index align.toNat)
  let (dest, next) := MemAp.adiv5UnpackData (← read).packet index src data align
  change fun firmware => { firmware with packet := dest }
  touch .shift 32 (laneShift src align.toNat)
  touch .shift 32 align.toNat
  pure next

def adiv5PackData (dest index align : Nat) : Action (BitVec 32 × Nat) := do
  each (touch .packet (gdbPacketBufferSize + 1)) (copied index align)
  touch .shift 32 (laneShift dest align)
  touch .shift 32 align
  pure (RemoteMemory.adiv5PackData dest (← read).packet index align)

/-- An address leaves the range in which it is incremented. -/
def overflows (addr origin : Nat) : Prop := (addr ^^^ origin) &&& 0xfffffc00 ≠ 0

instance (addr origin : Nat) : Decidable (overflows addr origin) := inferInstanceAs (Decidable (_ ≠ _))

def readElement (align : MemAp.Align) (reading : Transfer) : Action Transfer := do
  let value ← adiv5DpLowAccess env rounds true adiv5ApDrw 0
  let index ← adiv5UnpackData reading.index reading.addr value align
  let src := (reading.addr + align.bytes) % 2 ^ 32
  if overflows src reading.origin then do
    let _ ← adiv5DpLowAccess env rounds false adiv5ApTar (BitVec.ofNat 32 src)
    let _ ← adiv5DpLowAccess env rounds true adiv5ApDrw 0
    pure ⟨index, src, src⟩
  else pure ⟨index, src, reading.origin⟩

/-- `while (--len)`, with the number of further elements. -/
def readElements (align : MemAp.Align) : Nat → Transfer → Action Transfer
  | 0, reading => pure reading
  | more + 1, reading => do readElements align more (← readElement env rounds align reading)

def advi5MemReadBytes (src len : Nat) : Action Unit := do
  let align := MemAp.minAlign src len
  if len = 0 then pure ()
  else do
    touch .shift 32 align.toNat
    apMemAccessSetup env rounds ap src align.toNat
    let _ ← adiv5DpLowAccess env rounds true adiv5ApDrw 0
    let reading ← readElements env rounds align (len >>> align.toNat - 1) ⟨0, src, src⟩
    let value ← adiv5DpLowAccess env rounds true adiv5DpRdbuff 0
    let _ ← adiv5UnpackData reading.index reading.addr value align

def writeElement (align : Nat) (writing : Transfer) : Action Transfer := do
  let (value, index) ← adiv5PackData writing.addr writing.index align
  let _ ← adiv5DpLowAccess env rounds false adiv5ApDrw value
  let dest := (writing.addr + 1 <<< align) % 2 ^ 32
  if overflows dest writing.origin then do
    let _ ← adiv5DpLowAccess env rounds false adiv5ApTar (BitVec.ofNat 32 dest)
    pure ⟨index, dest, dest⟩
  else pure ⟨index, dest, writing.origin⟩

/-- `while (len--)`. -/
def writeElements (align : Nat) : Nat → Transfer → Action Transfer
  | 0, writing => pure writing
  | more + 1, writing => do writeElements align more (← writeElement env rounds align writing)

def adiv5MemWriteBytes (dest len align : Nat) : Action Unit := do
  touch .shift 32 align
  apMemAccessSetup env rounds ap dest align
  let _ ← writeElements env rounds align (len >>> align) ⟨0, dest, dest⟩
  let _ ← adiv5DpRead env rounds adiv5DpRdbuff

end Memory

section Commands

inductive SwdCommand where
  | init
  | inPar
  | inBits
  | out
  | outPar

/-- The letters of `remote.h`. -/
def swdCommand (letter : Byte) : Option SwdCommand :=
  if letter = chr 'S' then some .init
  else if letter = chr 'I' then some .inPar
  else if letter = chr 'i' then some .inBits
  else if letter = chr 'o' then some .out
  else if letter = chr 'O' then some .outPar
  else none

inductive JtagCommand where
  | init
  | reset
  | tms
  | cycle
  | tditdo
  | next

def jtagCommand (letter : Byte) : Option JtagCommand :=
  if letter = chr 'S' then some .init
  else if letter = chr 'R' then some .reset
  else if letter = chr 'T' then some .tms
  else if letter = chr 'c' then some .cycle
  else if letter = chr 'D' ∨ letter = chr 'd' then some .tditdo
  else if letter = chr 'N' then some .next
  else none

inductive GeneralCommand where
  | voltage
  | nrstSet
  | nrstGet
  | freqSet
  | freqGet
  | pwrSet
  | pwrGet
  | start
  | targetClkOe

def generalCommand (letter : Byte) : Option GeneralCommand :=
  if letter = chr 'V' then some .voltage
  else if letter = chr 'Z' then some .nrstSet
  else if letter = chr 'z' then some .nrstGet
  else if letter = chr 'F' then some .freqSet
  else if letter = chr 'f' then some .freqGet
  else if letter = chr 'P' then some .pwrSet
  else if letter = chr 'p' then some .pwrGet
  else if letter = chr 'A' then some .start
  else if letter = chr 'E' then some .targetClkOe
  else none

inductive HighLevelCommand where
  | check
  | addJtagDev

def highLevelCommand (letter : Byte) : Option HighLevelCommand :=
  if letter = chr 'C' then some .check else if letter = chr 'J' then some .addJtagDev else none

inductive Adiv5Command where
  | dpRead
  | rawAccess
  | apRead
  | apWrite
  | memRead
  | memWrite

def adiv5Command (letter : Byte) : Option Adiv5Command :=
  if letter = chr 'd' then some .dpRead
  else if letter = chr 'R' then some .rawAccess
  else if letter = chr 'a' then some .apRead
  else if letter = chr 'A' then some .apWrite
  else if letter = chr 'm' then some .memRead
  else if letter = chr 'M' then some .memWrite
  else none

inductive Group where
  | swd
  | jtag
  | general
  | highLevel
  | adiv5
  | spi

def group (letter : Byte) : Option Group :=
  if letter = chr 'S' then some .swd
  else if letter = chr 'J' then some .jtag
  else if letter = chr 'G' then some .general
  else if letter = chr 'H' then some .highLevel
  else if letter = chr 'A' then some .adiv5
  else if letter = chr 's' then some .spi
  else none

end Commands

section Packets
variable (env : Environment) (rounds packetLen : Nat)

def remoteUnrecognised : Action Unit := remoteRespond remoteRespErr remoteErrorUnrecognised

def remoteWronglen : Action Unit := remoteRespond remoteRespErr remoteErrorWronglen

def setFunctions (functions : DpFunctions) : Action Unit :=
  change fun firmware => { firmware with remoteDp := { firmware.remoteDp with functions := some functions } }

def remotePacketProcessSwd : Action Unit := do
  match swdCommand (← packetByte 1) with
  | some .init =>
    if packetLen = 2 then do
      setFunctions .swd
      change fun firmware => { firmware with swdProc := true }
      remoteRespond remoteRespOk 0
    else remoteWronglen
  | some .inPar => do
    let clockCycles ← remoteHexStringToNum 2 2
    swdProc
    let (parityError, result) ← swdptapSeqInParity env clockCycles.toNat
    remoteRespond (if parityError then remoteRespParerr else remoteRespOk) (result.setWidth 64)
  | some .inBits => do
    let clockCycles ← remoteHexStringToNum 2 2
    swdProc
    let result ← swdptapSeqIn env clockCycles.toNat
    remoteRespond remoteRespOk (result.setWidth 64)
  | some .out | some .outPar => do
    let clockCycles ← remoteHexStringToNum 2 2
    let _ ← remoteHexStringToNum 0xffffffff 4
    swdProc
    swdptapSeqOut clockCycles.toNat
    remoteRespond remoteRespOk 0
  | none => remoteUnrecognised

def remotePacketProcessJtag : Action Unit := do
  match jtagCommand (← packetByte 1) with
  | some .init => do
    setFunctions .jtag
    change fun firmware => { firmware with jtagProc := true }
    remoteRespond remoteRespOk 0
  | some .reset => do
    jtagProc
    remoteRespond remoteRespOk 0
  | some .tms => do
    let _ ← remoteHexStringToNum 2 2
    let _ ← remoteHexStringToNum 2 4
    if packetLen < 4 then remoteWronglen
    else do
      jtagProc
      remoteRespond remoteRespOk 0
  | some .cycle => do
    let _ ← remoteHexStringToNum 8 4
    let _ ← packetByte 2
    let _ ← packetByte 3
    jtagProc
    remoteRespond remoteRespOk 0
  | some .tditdo =>
    if packetLen < 5 then remoteWronglen
    else do
      let clockCycles ← remoteHexStringToNum 2 2
      let _ ← remoteHexStringToNum 0xffffffff 4
      jtagProc
      let dataOut ← jtagtapTdiTdoSeq env clockCycles.toNat
      remoteRespond remoteRespOk dataOut
  | some .next =>
    if packetLen ≠ 4 then remoteWronglen
    else do
      let _ ← packetByte 2
      let _ ← packetByte 3
      jtagProc
      let firmware ← read
      let tdo := (env.tdo firmware.transactions).getLsbD 0
      remoteRespond remoteRespOk (if tdo then 1 else 0)
  | none => remoteUnrecognised

/-- The platform has no power switch and a fixed frequency. -/
def remotePacketProcessGeneral : Action Unit := do
  match generalCommand (← packetByte 1) with
  | some .voltage => remoteRespondString remoteRespOk (ascii "not supported on this platform.")
  | some .nrstSet | some .targetClkOe => do
    let _ ← packetByte 2
    remoteRespond remoteRespOk 0
  | some .nrstGet => remoteRespond remoteRespOk (if env.nrst then 1 else 0)
  | some .freqSet => do
    let _ ← remoteHexStringToNum 8 2
    remoteRespond remoteRespOk 0
  | some .freqGet => remoteRespondBuf remoteRespOk (Lib.Words.byteOf 0#32) 4 4
  | some .pwrSet | some .pwrGet => remoteRespond remoteRespNotsup 0
  | some .start =>
    remoteRespondString remoteRespOk (ascii "Black Magic Probe (esp32), (Firmware 0.2)v1.6.1-107-ga9219c3")
  | none => remoteUnrecognised

def remotePacketProcessHighLevel : Action Unit := do
  match highLevelCommand (← packetByte 1) with
  | some .check => remoteRespond remoteRespOk 3
  | some .addJtagDev =>
    if packetLen < 22 then remoteWronglen
    else do
      let index ← remoteHexStringToNum 2 2
      let drPrescan ← remoteHexStringToNum 2 4
      let drPostscan ← remoteHexStringToNum 2 6
      let irLen ← remoteHexStringToNum 2 8
      let irPrescan ← remoteHexStringToNum 2 10
      let irPostscan ← remoteHexStringToNum 2 12
      let currentIr ← remoteHexStringToNum 8 14
      jtagAddDevice index.toNat
        ⟨0, currentIr.setWidth 32, drPrescan.setWidth 8, drPostscan.setWidth 8, irLen.setWidth 8, irPrescan.setWidth 8,
          irPostscan.setWidth 8⟩
      remoteRespond remoteRespOk 0
  | none => remoteUnrecognised

def remoteAdiv5Respond (data : Option (Buffer × Nat)) (length : Nat) : Action Unit := do
  let fault := (← read).remoteDp.fault
  if fault ≠ 0 then remoteRespond remoteRespErr (remoteErrorFault ||| fault.setWidth 64 <<< 8)
  else
    match data with
    | some (data, size) => remoteRespondBuf remoteRespOk data size length
    | none => remoteRespond remoteRespOk 0

/-- The text behind the fields of the packet is decoded to the start of the buffer. -/
def unhexify (packetLen length : Nat) : Action Unit := do
  each (fun idx => do
    touch .received packetLen (32 + 2 * idx)
    touch .received packetLen (32 + 2 * idx + 1)) (List.range length)
  change fun firmware => { firmware with packet := RemoteMemory.unhexifyInPlace 32 length 0 firmware.packet }

def remoteParameterError : Action Unit := remoteRespond remoteRespParerr 0

/-- The commands of `remote_packet_process_adiv5`, with the number of the access port. -/
def remoteAdiv5Command (apsel : Byte) : Adiv5Command → Action Unit
  | .dpRead => do
    let addr ← remoteHexStringToNum 4 6
    let data ← adiv5DpRead env rounds (addr.setWidth 16)
    remoteAdiv5Respond (some (Lib.Words.byteOf data, 4)) 4
  | .rawAccess => do
    let addr ← remoteHexStringToNum 4 6
    let value ← remoteHexStringToNum 8 10
    let data ← adiv5DpLowAccess env rounds (apsel ≠ 0) (addr.setWidth 16) (value.setWidth 32)
    remoteAdiv5Respond (some (Lib.Words.byteOf data, 4)) 4
  | .apRead => do
    let addr ← remoteHexStringToNum 4 6
    let data ← firmwareApRead env rounds apsel (addr.setWidth 16)
    remoteAdiv5Respond (some (Lib.Words.byteOf data, 4)) 4
  | .apWrite => do
    let addr ← remoteHexStringToNum 4 6
    let value ← remoteHexStringToNum 8 10
    firmwareApWrite env rounds apsel (addr.setWidth 16) (value.setWidth 32)
    remoteAdiv5Respond none 0
  | .memRead => do
    let csw ← remoteHexStringToNum 8 6
    let address ← remoteHexStringToNum 8 14
    let length ← remoteHexStringToNum 8 22
    if length.toNat > 1024 then remoteParameterError
    else do
      advi5MemReadBytes env rounds ⟨apsel, csw.setWidth 32⟩ address.toNat length.toNat
      remoteAdiv5Respond (some ((← read).packet, gdbPacketBufferSize + 1)) length.toNat
  | .memWrite => do
    let csw ← remoteHexStringToNum 8 6
    let align ← remoteHexStringToNum 2 14
    let dest ← remoteHexStringToNum 8 16
    let length ← remoteHexStringToNum 8 24
    if length.toNat > 1024 then remoteParameterError
    else do
      touch .shift 32 align.toNat
      if length.toNat &&& (1 <<< align.toNat - 1) ≠ 0 then remoteParameterError
      else do
        unhexify packetLen length.toNat
        adiv5MemWriteBytes env rounds ⟨apsel, csw.setWidth 32⟩ dest.toNat length.toNat align.toNat
        remoteAdiv5Respond none 0

def remotePacketProcessAdiv5 : Action Unit := do
  if packetLen < 8 then remoteParameterError
  else do
    let devIndex ← remoteHexStringToNum 2 2
    change fun firmware => { firmware with remoteDp := { firmware.remoteDp with devIndex := devIndex.setWidth 8 } }
    let apsel ← remoteHexStringToNum 2 4
    match adiv5Command (← packetByte 1) with
    | some command => remoteAdiv5Command env rounds packetLen (apsel.setWidth 8) command
    | none => remoteUnrecognised

/-- An exception becomes an error response. -/
def remoteCaught (halt : Halt) : Action Unit :=
  if halt = .raised then remoteRespond remoteRespErr (remoteErrorException ||| exceptionError <<< 8) else stop halt

/-- The packets for SPI are not processed. -/
def remotePacketProcess : Action Unit := do
  match group (← packetByte 0) with
  | some .swd => remotePacketProcessSwd env packetLen
  | some .jtag => remotePacketProcessJtag env packetLen
  | some .general => remotePacketProcessGeneral env
  | some .highLevel => remotePacketProcessHighLevel packetLen
  | some .adiv5 =>
    rescue (remotePacketProcessAdiv5 env rounds packetLen) remoteCaught
  | some .spi => pure ()
  | none => remoteUnrecognised

end Packets

end BlackMagic.RemotePacket
