import BlackMagic.Commands
import BlackMagic.Hex
import BlackMagic.Lib.Scan
import BlackMagic.Lib.Words

/-! The GDB server (`gdb_main.c`): the packets it answers, outside of a system call of
the target, the polling of a running target, and the loop around both (`main.c`). -/

namespace BlackMagic.Server
open Lib Lib.Program Lib.Scan Lib.Words Targets Commands Hex

def gdbPacketBufferSize : Nat := 1024
def gdbMaxPacketSize : Nat := 1024

/-- The received packet as a C string: it has a terminator at `size`. -/
def packetString (pbuf : Buffer) (size : Nat) : Text := cString (pbuf.take size)

/-- Bytes of the buffer from an offset on. -/
def slice (pbuf : Buffer) (offset len : Nat) : Text := (List.range len).map fun i => pbuf (offset + i)

/-- `%X` and `%lx`. -/
def printHex (value : Nat) : Text := (Nat.toDigits 16 value).map fun c => chr c.toUpper

def printHexLower (value : Nat) : Text := (Nat.toDigits 16 value).map chr

/-- `%08X`. -/
def printHex8 (value : Nat) : Text := List.replicate (8 - (printHex value).length) (chr '0') ++ printHex value

variable (answers : Answers)

/-- `gdb_putpacket_f`, which sends nothing when it cannot allocate the text. -/
def gdbPutpacketF (body : Text) : Action Unit := do
  onlyIf answers.formatted (gdbPutpacket body)

/-- The check at the top of most packets. -/
def errorIfNoTarget (handle : Action Unit) : Action Unit := do
  if (← read).curTarget = none then gdbPutpacketz "EFF" else handle

/-- Follow the current target for a call. -/
def onCurrent (call : Call) : Action Nat := do
  dereference (← read).curTarget call

/-- A local that `sscanf` stores to at the given place, or its uninitialised value. -/
def stored (scanned : Scanned) (place : Nat) : Nat := (scanned.values[place]?).getD (answers.uninitialised place)

/-- Read general registers. -/
def handleG : Action Unit := do
  let _ ← onCurrent .regsSize
  if answers.regsSize ≠ 0 then
    let _ ← onCurrent .regsRead
    let gpRegs ← perform answers.regsRead
    gdbPutpacket (hexify (gpRegs.take answers.regsSize))
  else gdbPutpacketz "00"

/-- Read memory. -/
def handleM (packet : Text) : Action Unit := do
  let scanned := sscanf packet (text "m" ++ [.hex none] ++ text "," ++ [.hex none])
  let addr := stored answers scanned 0
  let len := stored answers scanned 1
  if len > gdbPacketBufferSize / 2 then gdbPutpacketz "E02"
  else
    let _ ← onCurrent (.memRead addr len)
    match ← perform answers.memRead with
    | none => gdbPutpacketz "E01"
    | some mem => gdbPutpacket (hexify (mem.take len))

/-- Write general registers. -/
def handleWriteG (pbuf : Buffer) : Action Unit := do
  let _ ← onCurrent .regsSize
  onlyIf (answers.regsSize ≠ 0) do
    let gpRegs := unhexify (slice pbuf 1 (2 * answers.regsSize)) answers.regsSize
    let _ ← onCurrent (.regsWrite gpRegs)
    perform answers.regsWrite
  gdbPutpacketz "OK"

/-- The end of both memory writes. -/
def writeMemory (addr : Nat) (data : Text) : Action Unit := do
  let _ ← onCurrent (.memWrite addr data)
  if ← perform answers.memWrite then gdbPutpacketz "E01" else gdbPutpacketz "OK"

/-- Write memory from hex digits. -/
def handleWriteM (pbuf : Buffer) (size : Nat) : Action Unit := do
  let scanned := sscanf (packetString pbuf size)
    (text "M" ++ [.hex none] ++ text "," ++ [.hex none] ++ text ":" ++ [.position])
  let addr := (scanned.values[0]?).getD 0
  let len := (scanned.values[1]?).getD 0
  let hex := stored answers scanned 2
  if len > sub32 size (hex % 2 ^ 32) / 2 then gdbPutpacketz "E02"
  else writeMemory answers addr (unhexify (slice pbuf hex (2 * len)) len)

/-- Write memory from binary data. -/
def handleX (pbuf : Buffer) (size : Nat) : Action Unit := do
  let scanned := sscanf (packetString pbuf size)
    (text "X" ++ [.hex none] ++ text "," ++ [.hex none] ++ text ":" ++ [.position])
  let addr := stored answers scanned 0
  let len := stored answers scanned 1
  let bin := stored answers scanned 2
  if len > sub32 size (bin % 2 ^ 32) then gdbPutpacketz "E02"
  else writeMemory answers addr (slice pbuf bin len)

/-- Set the thread. -/
def handleH (packet : Text) : Action Unit := do
  let scanned := sscanf packet (text "H" ++ [.character, .hex none])
  if (scanned.values[1]?).getD 0 ≤ 1 then gdbPutpacketz "OK" else gdbPutpacketz "E01"

/-- The reason for the halt. -/
def handleHaltReason : Action Unit := do
  if (← read).curTarget = none then gdbPutpacketz "W00"
  else change fun server => { server with gdbTargetRunning := true }

/-- Continue or step, falling through to the reason for the halt. -/
def handleResume (singleStep : Bool) : Action Unit := do
  if (← read).curTarget = none then gdbPutpacketz "X1D"
  else
    let _ ← onCurrent (.haltResume singleStep)
    perform answers.haltResume
    handleHaltReason

/-- Read a register: the size that the driver returns becomes unsigned, and a
negative one runs over the eight bytes. -/
def handleP (packet : Text) : Action Unit := do
  match answers.regRead with
  | none => gdbPutpacketz "00"
  | some regRead =>
    let reg := stored answers (sscanf packet (text "p" ++ [.hex none])) 0
    let _ ← onCurrent (.regRead reg)
    let (s, val) ← perform regRead
    if s < 0 ∨ 8 < s then stop .overrun
    else if 0 < s then gdbPutpacket (hexify (val.take s.toNat))
    else gdbPutpacketz "EFF"

/-- Write a register; without a `=` the value comes from wherever the unset offset
points. -/
def handleWriteP (pbuf : Buffer) (size : Nat) : Action Unit := do
  match answers.regWrite with
  | none => gdbPutpacketz "OK"
  | some regWrite =>
    let scanned := sscanf (packetString pbuf size) (text "P" ++ [.hex none] ++ text "=" ++ [.position])
    let digits := cString (slice pbuf (stored answers scanned 1) gdbPacketBufferSize)
    let _ ← onCurrent (.regWrite (stored answers scanned 0) (unhexify digits (digits.length / 2)))
    if 0 < (← perform regWrite) then gdbPutpacketz "OK" else gdbPutpacketz "EFF"

/-- Detach, for `D` and for the end of the transmission. -/
def handleD (head : Byte) : Action Unit := do
  onlyIf ((← read).curTarget ≠ none) do
    targetDetach answers (← read).curTarget
    change fun server => { server with lastTarget := server.curTarget, curTarget := none }
  onlyIf (head = chr 'D') (gdbPutpacketz "OK")
  gdbSetNoackmode false

def handleKillTarget : Action Unit := do
  onlyIf ((← read).curTarget ≠ none) do
    targetReset answers (← read).curTarget
    targetDetach answers (← read).curTarget
    change fun server => { server with lastTarget := server.curTarget, curTarget := none }

def setCurTarget (target : Option Nat) : Action Unit := change fun server => { server with curTarget := target }

/-- Reset or restart. -/
def handleR : Action Unit := do
  if (← read).curTarget ≠ none then targetReset answers (← read).curTarget
  else
    onlyIf ((← read).lastTarget ≠ none) do
      setCurTarget (← targetAttach answers (← read).lastTarget)
      targetReset answers (← read).curTarget

section QPackets

def execQRcmd (pbuf : Buffer) (size : Nat) : Action Unit := do
  let datalen := (size - 6) / 2
  let data := unhexify (slice pbuf 6 (2 * datalen)) datalen
  let c ← commandProcess answers (← read).curTarget data
  if c < 0 then gdbPutpacketz ""
  else if c = 0 then gdbPutpacketz "OK"
  else gdbPutpacket (hexify (ascii "Failed\n"))

def handleQStringReply (reply param : Text) : Action Unit := do
  let scanned := sscanf param ([.hex (some 8)] ++ text "," ++ [.hex (some 8)])
  let addr := (scanned.values[0]?).getD 0
  let len := (scanned.values[1]?).getD 0
  if scanned.count ≠ 2 then gdbPutpacketz "E01"
  else if addr > reply.length then gdbPutpacketz "E01"
  else if addr = reply.length then gdbPutpacketz "l"
  else gdbPutpacket (ascii "m" ++ (reply.drop addr).take len)

def execQSupported : Action Unit := do
  gdbSetNoackmode false
  gdbPutpacketF answers
    (ascii "PacketSize=" ++ printHex gdbMaxPacketSize ++ ascii ";qXfer:memory-map:read+;qXfer:features:read+")

/-- The target that the descriptions are about. -/
def describedTarget : Action (Option Nat) := do
  let server ← read
  pure (if server.curTarget = none then server.lastTarget else server.curTarget)

def execQMemoryMap (param : Text) : Action Unit := do
  let target ← describedTarget
  if target = none then gdbPutpacketz "E01"
  else
    let _ ← dereference target .memMap
    handleQStringReply answers.memMap param

def execQFeatureRead (param : Text) : Action Unit := do
  let target ← describedTarget
  if target = none then gdbPutpacketz "E01"
  else
    let _ ← dereference target .regsDescription
    handleQStringReply (answers.regsDescription.getD []) param

/-- Nothing is sent when the parameters do not parse. -/
def execQCrc (param : Text) : Action Unit := do
  let scanned := sscanf param ([.hex none] ++ text "," ++ [.hex none])
  onlyIf (scanned.count = 2) do
    if (← read).curTarget = none then gdbPutpacketz "E01"
    else
      let _ ← onCurrent (.crc32 (stored answers scanned 0) (stored answers scanned 1))
      match ← perform answers.crc32 with
      | none => gdbPutpacketz "E03"
      | some crc => gdbPutpacketF answers (ascii "C" ++ printHexLower crc)

def execQC : Action Unit := gdbPutpacketz "QC1"

def execQThreadInfo (first : Bool) : Action Unit := do
  if first && (← read).curTarget.isSome then gdbPutpacketz "m1" else gdbPutpacketz "l"

def execQNoackmode : Action Unit := do
  gdbSetNoackmode true
  gdbPutpacketz "OK"

inductive QCommand where
  | rcmd
  | supported
  | memoryMap
  | featureRead
  | crc
  | c
  | firstThreadInfo
  | nextThreadInfo
  | noackmode
  deriving DecidableEq, Repr

def qCommands : List (String × QCommand) :=
  [("qRcmd,", .rcmd), ("qSupported", .supported), ("qXfer:memory-map:read::", .memoryMap),
    ("qXfer:features:read:target.xml:", .featureRead), ("qCRC:", .crc), ("qC", .c),
    ("qfThreadInfo", .firstThreadInfo), ("qsThreadInfo", .nextThreadInfo), ("QStartNoAckMode", .noackmode)]

/-- `exec_command`: the first command whose name starts the packet, and the packet
behind the name. -/
def execCommand (packet : Text) : Option (QCommand × Text) :=
  (qCommands.find? fun command => (ascii command.1).isPrefixOf packet).map fun command =>
    (command.2, packet.drop (ascii command.1).length)

def runQCommand (pbuf : Buffer) (size : Nat) (param : Text) : QCommand → Action Unit
  | .rcmd => execQRcmd answers pbuf size
  | .supported => execQSupported answers
  | .memoryMap => execQMemoryMap answers param
  | .featureRead => execQFeatureRead answers param
  | .crc => execQCrc answers param
  | .c => execQC
  | .firstThreadInfo => execQThreadInfo true
  | .nextThreadInfo => execQThreadInfo false
  | .noackmode => execQNoackmode

def handleQPacket (pbuf : Buffer) (size : Nat) : Action Unit :=
  match execCommand (packetString pbuf size) with
  | some (command, param) => runQCommand answers pbuf size param command
  | none => gdbPutpacketz ""

end QPackets

section VPackets

def isHexDigit (c : Byte) : Bool := (digit 16 c).isSome

/-- The loop of `vRun` over its argument: what it has stored so far, and the packet
from `tok` on. -/
def decodeCmdline : Nat → Text → Text → Text
  | 0, cmdline, _ => cmdline
  | more + 1, cmdline, tok =>
    if (cString cmdline).length + 3 ≥ 83 then cmdline
    else
      match tok with
      | [] => cmdline
      | c :: rest =>
        if c = chr ';' then decodeCmdline more (cmdline ++ [chr ' ']) rest
        else
          match rest with
          | [] => cmdline
          | d :: rest =>
            if isHexDigit c && isHexDigit d then
              let value := unhexify [c, d] 1
              let escaped := if value = [chr ' '] ∨ value = [chr '\\'] then [chr '\\'] else []
              decodeCmdline more (cmdline ++ escaped ++ value) rest
            else cmdline

/-- The command line of a `vRun` packet as a C string. -/
def runCmdline (packet : Text) : Text :=
  let tok := packet.drop 4
  let tok := if tok.head? = some (chr ';') then tok.tail else tok
  cString (decodeCmdline tok.length [] tok)

def handleVAttach (n : Nat) : Action Unit := do
  setCurTarget (← targetAttachN answers n)
  if (← read).curTarget ≠ none then gdbPutpacketz "T05thread:1;" else gdbPutpacketz "E01"

def handleVKill : Action Unit := do
  handleKillTarget answers
  gdbPutpacketz "OK"

def handleVRun (packet : Text) : Action Unit := do
  let cmdline := runCmdline packet
  if (← read).curTarget ≠ none then
    targetSetCmdline (← read).curTarget cmdline
    targetReset answers (← read).curTarget
    gdbPutpacketz "T05"
  else if (← read).lastTarget ≠ none then
    setCurTarget (← targetAttach answers (← read).lastTarget)
    if (← read).curTarget ≠ none then
      targetSetCmdline (← read).curTarget cmdline
      targetReset answers (← read).curTarget
      gdbPutpacketz "T05"
    else gdbPutpacketz "E01"
  else gdbPutpacketz "E01"

def targetFlashComplete (target : Option Nat) : Action Bool := do
  let _ ← dereference target .flashComplete
  performPolled answers answers.flashComplete

/-- The end of both flash operations. -/
def endFlash (succeeded : Bool) : Action Unit := do
  if succeeded then gdbPutpacketz "OK"
  else
    let _ ← targetFlashComplete answers (← read).curTarget
    gdbPutpacketz "EFF"

def handleVFlashErase (addr len : Nat) : Action Unit := do
  if (← read).curTarget = none then gdbPutpacketz "EFF"
  else
    let _ ← onCurrent (.flashErase addr len)
    endFlash answers (← performPolled answers answers.flashErase)

def handleVFlashWrite (addr : Nat) (data : Text) : Action Unit := do
  if (← read).curTarget = none then endFlash answers false
  else
    let _ ← onCurrent (.flashWrite addr data)
    endFlash answers (← performPolled answers answers.flashWrite)

def handleVFlashDone : Action Unit := do
  if ← targetFlashComplete answers (← read).curTarget then gdbPutpacketz "OK" else gdbPutpacketz "EFF"

def handleVStopped : Action Unit := do
  if (← read).gdbNeedsDetachNotify then
    gdbPutpacketz "W00"
    change fun server => { server with gdbNeedsDetachNotify := false }
  else gdbPutpacketz "OK"

inductive VPacket where
  | attach (n : Nat)
  | kill
  | run
  | flashErase (addr len : Nat)
  | flashWrite (addr bin : Nat)
  | flashDone
  | stopped
  | unsupported
  deriving DecidableEq, Repr

/-- The tests of `handle_v_packet` in their order. -/
def parseVPacket (packet : Text) : VPacket :=
  let attach := sscanf packet (text "vAttach;" ++ [.hex (some 8)])
  let erase := sscanf packet (text "vFlashErase:" ++ [.hex (some 8)] ++ text "," ++ [.hex (some 8)])
  let write := sscanf packet (text "vFlashWrite:" ++ [.hex (some 8)] ++ text ":" ++ [.position])
  if attach.count = 1 then .attach ((attach.values[0]?).getD 0)
  else if (ascii "vKill;").isPrefixOf packet then .kill
  else if (ascii "vRun").isPrefixOf packet then .run
  else if erase.count = 2 then .flashErase ((erase.values[0]?).getD 0) ((erase.values[1]?).getD 0)
  else if write.count = 1 then .flashWrite ((write.values[0]?).getD 0) (stored answers write 1)
  else if packet = ascii "vFlashDone" then .flashDone
  else if packet = ascii "vStopped" then .stopped
  else .unsupported

def handleVPacket (pbuf : Buffer) (plen : Nat) : Action Unit :=
  let packet := packetString pbuf plen
  match parseVPacket answers packet with
  | .attach n => handleVAttach answers n
  | .kill => handleVKill answers
  | .run => handleVRun answers packet
  | .flashErase addr len => handleVFlashErase answers addr len
  | .flashWrite addr bin => handleVFlashWrite answers addr (slice pbuf bin (sub32 plen (bin % 2 ^ 32)))
  | .flashDone => handleVFlashDone answers
  | .stopped => handleVStopped
  | .unsupported => gdbPutpacketz ""

end VPackets

/-- The call for a packet that starts with `Z` or `z`. -/
def breakwatchCall (packet : Text) (type addr len : Nat) : Action Int := do
  if packet.head? = some (chr 'Z') then
    let _ ← onCurrent (.breakwatchSet type addr len)
    perform answers.breakwatchSet
  else
    let _ ← onCurrent (.breakwatchClear type addr len)
    perform answers.breakwatchClear

/-- Set or clear a break- or watchpoint. -/
def handleZPacket (packet : Text) : Action Unit := do
  let scanned := sscanf packet
    ([.skipping [chr 'z', chr 'Z'], .decimal none] ++ text "," ++ [.hex (some 8)] ++ text "," ++ [.decimal none])
  let type := stored answers scanned 0
  let addr := stored answers scanned 1
  let len := stored answers scanned 2
  let ret ← breakwatchCall answers packet type addr len
  if ret < 0 then gdbPutpacketz "E01" else if 0 < ret then gdbPutpacketz "" else gdbPutpacketz "OK"

/-- The cases of the switch on the first character. -/
inductive PacketKind where
  | readRegisters
  | readMemory
  | writeRegisters
  | writeMemory
  | thread
  | step
  | resume
  | haltReason
  | readRegister
  | writeRegister
  | fileIo
  | extended
  | endOfTransmission
  | detach
  | kill
  | reset
  | writeBinary
  | query
  | verbose
  | breakwatch
  | unsupported
  deriving DecidableEq, Repr

def packetKind (head : Byte) : PacketKind :=
  if head = chr 'g' then .readRegisters
  else if head = chr 'm' then .readMemory
  else if head = chr 'G' then .writeRegisters
  else if head = chr 'M' then .writeMemory
  else if head = chr 'H' then .thread
  else if head = chr 's' then .step
  else if head = chr 'c' ∨ head = chr 'C' then .resume
  else if head = chr '?' then .haltReason
  else if head = chr 'p' then .readRegister
  else if head = chr 'P' then .writeRegister
  else if head = chr 'F' then .fileIo
  else if head = chr '!' then .extended
  else if head = 4#8 then .endOfTransmission
  else if head = chr 'D' then .detach
  else if head = chr 'k' then .kill
  else if head = chr 'r' ∨ head = chr 'R' then .reset
  else if head = chr 'X' then .writeBinary
  else if head = chr 'Q' ∨ head = chr 'q' then .query
  else if head = chr 'v' then .verbose
  else if head = chr 'Z' ∨ head = chr 'z' then .breakwatch
  else .unsupported

/-- `gdb_main_loop` when it is not called from a system call. -/
def gdbMainLoop (pbuf : Buffer) (size : Nat) : Action Unit :=
  let packet := packetString pbuf size
  match packetKind (pbuf 0) with
  | .readRegisters => errorIfNoTarget (handleG answers)
  | .readMemory => errorIfNoTarget (handleM answers packet)
  | .writeRegisters => errorIfNoTarget (handleWriteG answers pbuf)
  | .writeMemory => errorIfNoTarget (handleWriteM answers pbuf size)
  | .thread => handleH packet
  | .step => handleResume answers true
  | .resume => handleResume answers false
  | .haltReason => handleHaltReason
  | .readRegister => errorIfNoTarget (handleP answers packet)
  | .writeRegister => errorIfNoTarget (handleWriteP answers pbuf size)
  | .fileIo => gdbPutpacketz ""
  | .extended => gdbPutpacketz "OK"
  | .endOfTransmission => handleD answers (pbuf 0)
  | .detach => handleD answers (pbuf 0)
  | .kill => handleKillTarget answers
  | .reset => handleR answers
  | .writeBinary => errorIfNoTarget (handleX answers pbuf size)
  | .query => handleQPacket answers pbuf size
  | .verbose => handleVPacket answers pbuf size
  | .breakwatch => errorIfNoTarget (handleZPacket answers packet)
  | .unsupported => gdbPutpacketz ""

def stopReply (reason : TargetHaltReason) (watch : Nat) : Text :=
  match reason with
  | .error => ascii "X1D"
  | .request => ascii "T02"
  | .watchpoint => ascii "T05watch:" ++ printHex8 watch ++ ascii ";"
  | .fault => ascii "T0B"
  | _ => ascii "T05"

def gdbPollTarget : Action Unit := do
  if (← read).curTarget = none then gdbPutpacketz "W00"
  else
    let _ ← onCurrent .haltPoll
    let (reason, watch) ← performPolled answers answers.haltPoll
    onlyIf (reason ≠ .running) do
      change fun server => { server with gdbTargetRunning := false }
      gdbPutpacketF answers (stopReply reason watch)

/-- The condition of the poll loop. -/
def polling : Action Bool := do
  let server ← read
  pure (server.gdbTargetRunning && server.curTarget.isSome)

/-- One pass of the poll loop of `bmp_poll_loop`, with the character that has arrived. -/
def pollPass (c : Byte) : Action Unit := do
  onlyIf (← polling) do
    gdbPollTarget answers
    onlyIf (← polling) do
      onlyIf (c = 3#8 ∨ c = 4#8) do
        let _ ← onCurrent .haltRequest
        perform answers.haltRequest

/-- The end of a broken connection in `gdb_if_getchar`. -/
def dropConnection : Action Unit := do
  onlyIf ((← read).curTarget ≠ none) do
    targetDetach answers (← read).curTarget

/-- The catch of `main_loop`; nobody catches an exception from its own clean-up. -/
def mainLoop (body : Action Unit) : Action Unit :=
  rescue body fun reason =>
    match reason with
    | .raised exception => do
      gdbPutpacketz "EFF"
      rescue (targetListFree answers .recovery) fun _ => stop .abort
      gdbOut (ascii "Uncaught exception: " ++ exception.msg ++ ascii "\n")
    | other => stop other

/-- What can happen to the server next: a packet, a pass of the poll loop, or the loss
of the connection. -/
inductive Event where
  | packet (pbuf : Buffer) (size : Nat)
  | poll (c : Byte)
  | drop

def handle : Event → Action Unit
  | .packet pbuf size => gdbMainLoop answers pbuf size
  | .poll c => pollPass answers c
  | .drop => dropConnection answers

def step (event : Event) : Action Unit := mainLoop answers (handle answers event)

/-- The server before the first scan. -/
def initial : Server :=
  { heap := fun _ => ⟨false, false, []⟩, targetList := [], allocated := 0, curTarget := none, lastTarget := none
    gdbTargetRunning := false, gdbNeedsDetachNotify := false, noackmode := false, output := [], calls := [] }

/-- The events of a run, each with the answers of its step. -/
abbrev History := List (Event × Answers)

/-- The server after a run, if no step of it crashes. -/
def run : Server → History → Option Server
  | server, [] => some server
  | server, (event, answers) :: rest =>
    match step answers event server with
    | (.ok _, next) => run next rest
    | (.error _, _) => none

end BlackMagic.Server
