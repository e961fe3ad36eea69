import BlackMagic.Bytes
import BlackMagic.Lib.Crc
import BlackMagic.Lib.Framing
import BlackMagic.Lib.Program

/-! The client of the STM32 boot loader (`stm32flash/stm32.c`) over its serial port (`esp32_port.c`), and the boot loader at the
other end. A wait in which nothing arrives is a reply of its own; the clock in seconds is given by the number of reads before. -/

namespace BlackMagic.Stm32Flash
open Lib Lib.Program Lib.Framing

def stm32Ack : Byte := 0x79
def stm32Nack : Byte := 0x1f
def stm32Busy : Byte := 0x76
def stm32CmdInit : Byte := 0x7f
def stm32CmdGet : Byte := 0x00
def stm32CmdGvr : Byte := 0x01
def stm32CmdGid : Byte := 0x02
def stm32CmdRm : Byte := 0x11
def stm32CmdGo : Byte := 0x21
def stm32CmdWm : Byte := 0x31
def stm32CmdWmNs : Byte := 0x32
def stm32CmdEr : Byte := 0x43
def stm32CmdEe : Byte := 0x44
def stm32CmdEeNs : Byte := 0x45
def stm32CmdWp : Byte := 0x63
def stm32CmdWpNs : Byte := 0x64
def stm32CmdUw : Byte := 0x73
def stm32CmdUwNs : Byte := 0x74
def stm32CmdRp : Byte := 0x82
def stm32CmdRpNs : Byte := 0x83
def stm32CmdUr : Byte := 0x92
def stm32CmdUrNs : Byte := 0x93
def stm32CmdCrc : Byte := 0xa1
def stm32CmdErr : Byte := 0xff

def stm32MasseraseTimeout : Nat := 35
def stm32PageeraseTimeout : Nat := 5
def stm32BlkwriteTimeout : Nat := 1

def stm32MaxPages : Nat := 0xffff
def stm32MassErasePages : Nat := 0x100000

inductive Reply where
  | late
  | byte (value : Byte)
  deriving DecidableEq, Repr

def spelled (bytes : List Byte) : List Reply := bytes.map .byte

def checksum (bytes : List Byte) : Byte := bytes.foldl (· ^^^ ·) 0

section BootLoader

/-- What the boot loader waits for. -/
inductive Task where
  | init
  | command
  | address (command : Byte)
  | amount (address : BitVec 32)
  | block (address : BitVec 32)
  | pages
  | manyPages
  | length (address : BitVec 32)
  /-- It has jumped to the program with this vector table. -/
  | left (address : BitVec 32)
  deriving DecidableEq, Repr

structure Boot where
  memory : BitVec 32 → Byte
  /-- How many writes and erasures there have been. -/
  served : Nat

/-- A part with a boot loader. -/
structure Part where
  version : Byte
  options : Byte × Byte
  blVersion : Byte
  commands : List Byte
  pid : BitVec 16
  /-- Commands that are refused, as by the protection of the memory. -/
  refused : Byte → Bool
  valid : BitVec 32 → Bool
  page : BitVec 32 → Option Nat
  /-- What writing a byte makes of the one before. -/
  cell : BitVec 32 → Byte → Byte → Byte
  /-- What comes before the acknowledgement of a write, of an erasure of so many pages, and of all. -/
  writing : Nat → List Reply
  erasing : Nat → Nat → List Reply
  clearing : Nat → List Reply
  summing : List Reply

variable (part : Part)

def acked : List Reply := [.byte stm32Ack]
def nacked : List Reply := [.byte stm32Nack]

def bigEndian (bytes : List Byte) : Nat := bytes.foldl (fun value byte => value * 256 + byte.toNat) 0

/-- The memory with bytes written from an address on. -/
def Part.written (memory : BitVec 32 → Byte) (address : BitVec 32) (bytes : List Byte) : BitVec 32 → Byte := fun place =>
  match bytes[(place - address).toNat]? with
  | some byte => part.cell place (memory place) byte
  | none => memory place

def Part.erased (memory : BitVec 32 → Byte) (gone : Nat → Prop) [DecidablePred gone] : BitVec 32 → Byte := fun place =>
  match part.page place with
  | some page => if gone page then 0xff else memory place
  | none => memory place

/-- The bytes of a part of the memory. -/
def recalled (memory : BitVec 32 → Byte) (address : BitVec 32) (count : Nat) : List Byte :=
  (List.range count).map fun i => memory (address + BitVec.ofNat 32 i)

def crcPoly : BitVec 32 := 0x04c11db7

/-- The CRC unit takes words, the most significant byte first. -/
def crcOfWords : BitVec 32 → List Byte → BitVec 32
  | crc, a :: b :: c :: d :: rest => crcOfWords (Crc.crcBytes crcPoly crc [d, c, b, a]) rest
  | crc, _ => crc

def bytesOf (word : BitVec 32) : List Byte :=
  [(word >>> 24).setWidth 8, (word >>> 16).setWidth 8, (word >>> 8).setWidth 8, word.setWidth 8]

/-- How long a frame is, from what has come of it. -/
def need : Task → List Byte → Nat
  | .init, _ => 1
  | .command, _ => 2
  | .address _, _ => 5
  | .amount _, _ => 2
  | .block _, got => if got.length < 1 then 1 else (got.headD 0).toNat + 3
  | .pages, got => if got.length < 1 then 1 else if got.headD 0 = 0xff then 2 else (got.headD 0).toNat + 3
  | .manyPages, got =>
    if got.length < 2 then 2 else if bigEndian (got.take 2) = 0xffff then 3 else 2 * bigEndian (got.take 2) + 5
  | .length _, _ => 5
  | .left _, _ => 1

def Part.takes (command : Byte) : Bool := part.commands.contains command && !part.refused command

/-- After the two bytes of a command. -/
def Part.obey (command : Byte) : Task × List Reply :=
  if ¬ part.takes command then (.command, nacked)
  else if command = stm32CmdGet then
    (.command, acked ++ spelled (BitVec.ofNat 8 part.commands.length :: part.blVersion :: part.commands) ++ acked)
  else if command = stm32CmdGvr then (.command, acked ++ spelled [part.version, part.options.1, part.options.2] ++ acked)
  else if command = stm32CmdGid then
    (.command, acked ++ spelled [1, (part.pid >>> 8).setWidth 8, part.pid.setWidth 8] ++ acked)
  else if command = stm32CmdEr then (.pages, acked)
  else if command = stm32CmdEe ∨ command = stm32CmdEeNs then (.manyPages, acked)
  else if command = stm32CmdRm ∨ command = stm32CmdGo ∨ command = stm32CmdWm ∨ command = stm32CmdWmNs ∨
      command = stm32CmdCrc then (.address command, acked)
  else (.command, nacked)

/-- After the address of a command. -/
def afterAddress (command : Byte) (address : BitVec 32) : Task :=
  if command = stm32CmdRm then .amount address
  else if command = stm32CmdGo then .left address
  else if command = stm32CmdCrc then .length address
  else .block address

def addressOf (bytes : List Byte) : BitVec 32 := BitVec.ofNat 32 (bigEndian (bytes.take 4))

def pairs : List Byte → List Nat
  | high :: low :: rest => bigEndian [high, low] :: pairs rest
  | _ => []

def Part.erase (boot : Boot) (gone : Nat → Prop) [DecidablePred gone] : Boot :=
  ⟨part.erased boot.memory gone, boot.served + 1⟩

def Part.conclude : Task → List Byte → Boot → (Task × Boot) × List Reply
  | .init, bytes, boot => if bytes = [stm32CmdInit] then ((.command, boot), acked) else ((.init, boot), [])
  | .command, bytes, boot =>
    if checksum bytes = 0xff then
      let (task, replies) := part.obey (bytes.headD 0)
      ((task, boot), replies)
    else ((.command, boot), nacked)
  | .address command, bytes, boot =>
    if checksum bytes = 0 ∧ part.valid (addressOf bytes) then ((afterAddress command (addressOf bytes), boot), acked)
    else ((.command, boot), nacked)
  | .amount address, bytes, boot =>
    if checksum bytes = 0xff then
      ((.command, boot), acked ++ spelled (recalled boot.memory address ((bytes.headD 0).toNat + 1)))
    else ((.command, boot), nacked)
  | .block address, bytes, boot =>
    if checksum bytes = 0 then
      ((.command, ⟨part.written boot.memory address ((bytes.drop 1).dropLast), boot.served + 1⟩),
        part.writing boot.served ++ acked)
    else ((.command, boot), nacked)
  | .pages, bytes, boot =>
    if bytes.headD 0 = 0xff then
      if bytes = [0xff, 0x00] then ((.command, part.erase boot fun _ => True), part.clearing boot.served ++ acked)
      else ((.command, boot), nacked)
    else if checksum bytes = 0 then
      let pages := ((bytes.drop 1).dropLast).map BitVec.toNat
      ((.command, part.erase boot (· ∈ pages)), part.erasing boot.served pages.length ++ acked)
    else ((.command, boot), nacked)
  | .manyPages, bytes, boot =>
    if bigEndian (bytes.take 2) = 0xffff then
      if checksum bytes = 0 then ((.command, part.erase boot fun _ => True), part.clearing boot.served ++ acked)
      else ((.command, boot), nacked)
    else if checksum bytes = 0 then
      let pages := pairs ((bytes.drop 2).dropLast)
      ((.command, part.erase boot (· ∈ pages)), part.erasing boot.served pages.length ++ acked)
    else ((.command, boot), nacked)
  | .length address, bytes, boot =>
    if checksum bytes = 0 then
      let crc := bytesOf (crcOfWords 0xffffffff (recalled boot.memory address (addressOf bytes).toNat))
      ((.command, boot), acked ++ part.summing ++ acked ++ spelled (crc ++ [checksum crc]))
    else ((.command, boot), nacked)
  | .left address, _, boot => ((.left address, boot), [])

def Part.protocol : Protocol Task Byte Boot Reply := ⟨need, part.conclude⟩

end BootLoader

section Port

structure Line where
  boot : Receiver Task Byte Boot
  /-- What has come, or is to come, and has not been read. -/
  pending : List Reply
  reads : Nat

inductive Stm32Err where
  | unknown
  | nack
  | noCmd
  /-- More rounds of a loop than are looked at. -/
  | unfinished
  deriving DecidableEq, Repr

/-- A function that returns an error ends with it. -/
abbrev Action := Program Line Stm32Err

variable (part : Part) (time : Nat → Nat) (rounds : Nat)

/-- The bytes of a read, if they come before a wait in vain. -/
def arrive : Nat → List Reply → Option (List Byte) × List Reply
  | 0, pending => (some [], pending)
  | _ + 1, [] => (none, [])
  | _ + 1, .late :: rest => (none, rest)
  | count + 1, .byte value :: rest =>
    let (bytes, left) := arrive count rest
    (bytes.map (value :: ·), left)

def espRead (count : Nat) : Action (Option (List Byte)) := do
  let line ← Program.read
  change fun line => { line with pending := (arrive count line.pending).2, reads := line.reads + 1 }
  pure (arrive count line.pending).1

/-- What has come before is flushed. -/
def espWrite (bytes : List Byte) : Action Unit :=
  change fun line =>
    let (boot, replies) := part.protocol.feedAll bytes line.boot
    { line with boot := boot, pending := replies }

def seconds : Action Nat := do
  let line ← Program.read
  pure (time line.reads)

/-- A read that must succeed. -/
def espReadAll (count : Nat) : Action (List Byte) := do
  match ← espRead count with
  | some bytes => pure bytes
  | none => stop .unknown

def awaitAck (timeout t0 : Nat) : Nat → Action Unit
  | 0 => stop .unfinished
  | rounds + 1 => do
    match ← espRead 1 with
    | none =>
      let t1 ← seconds time
      if timeout ≠ 0 ∧ t1 < t0 + timeout then awaitAck timeout t0 rounds else stop .unknown
    | some bytes =>
      if bytes.headD 0 = stm32Ack then pure ()
      else if bytes.headD 0 = stm32Nack then stop .nack
      else if bytes.headD 0 ≠ stm32Busy then stop .unknown
      else awaitAck timeout t0 rounds

def stm32GetAckTimeout (timeout : Nat) : Action Unit := do
  let t0 ← seconds time
  awaitAck time timeout t0 rounds

/-- Whatever error there is, it is returned as an unknown one. -/
def anyError {α : Type} (action : Action α) : Action α :=
  rescue action fun reason => if reason = .unfinished then stop .unfinished else stop .unknown

def stm32GetAck : Action Unit := stm32GetAckTimeout time rounds 0

def stm32SendCommandTimeout (cmd : Byte) (timeout : Nat) : Action Unit := do
  espWrite part [cmd, cmd ^^^ 0xff]
  anyError (stm32GetAckTimeout time rounds timeout)

def stm32SendCommand (cmd : Byte) : Action Unit := stm32SendCommandTimeout part time rounds cmd 0

end Port

section Client

/-- The codes of the commands that the boot loader has, or that of none. -/
structure Cmd where
  get : Byte
  gvr : Byte
  gid : Byte
  rm : Byte
  go : Byte
  wm : Byte
  er : Byte
  wp : Byte
  uw : Byte
  rp : Byte
  ur : Byte
  crc : Byte
  deriving DecidableEq, Repr

def fNoMe : BitVec 32 := 1
def fObll : BitVec 32 := 2
def fPempty : BitVec 32 := 4

structure Dev where
  id : BitVec 16
  ramStart : BitVec 32
  flEnd : BitVec 32
  flags : BitVec 32
  deriving DecidableEq, Repr

structure Stm32 where
  version : Byte
  option1 : Byte
  option2 : Byte
  blVersion : Byte
  pid : BitVec 16
  cmd : Cmd
  dev : Dev
  deriving DecidableEq, Repr

variable (part : Part) (time : Nat → Nat) (rounds : Nat) (stm : Stm32)

def addressFrame (address : BitVec 32) : List Byte := bytesOf address ++ [checksum (bytesOf address)]

/-- The bytes that are read. -/
def stm32ReadMemory (address : BitVec 32) (len : Nat) : Action (List Byte) :=
  if len = 0 then pure []
  else if 256 < len then stop .unknown
  else if stm.cmd.rm = stm32CmdErr then stop .noCmd
  else do
    stm32SendCommand part time rounds stm.cmd.rm
    espWrite part (addressFrame address)
    anyError (stm32GetAck time rounds)
    stm32SendCommand part time rounds (BitVec.ofNat 8 (len - 1))
    espReadAll len

def alignedLen (len : Nat) : Nat := (len + 3) / 4 * 4

/-- The number of bytes and the bytes with their padding. -/
def blockFrame (data : List Byte) : List Byte :=
  let bytes := BitVec.ofNat 8 (alignedLen data.length - 1) :: data ++ List.replicate (alignedLen data.length - data.length) 0xff
  bytes ++ [checksum bytes]

def stm32WriteMemory (address : BitVec 32) (data : List Byte) : Action Unit :=
  if data.length = 0 then pure ()
  else if 256 < data.length then stop .unknown
  else if address &&& 3 ≠ 0 then stop .unknown
  else if stm.cmd.wm = stm32CmdErr then stop .noCmd
  else do
    stm32SendCommand part time rounds stm.cmd.wm
    espWrite part (addressFrame address)
    anyError (stm32GetAck time rounds)
    espWrite part (blockFrame data)
    anyError (stm32GetAckTimeout time rounds stm32BlkwriteTimeout)

def stm32MassErase : Action Unit := do
  stm32SendCommand part time rounds stm.cmd.er
  if stm.cmd.er = stm32CmdEr then
    stm32SendCommandTimeout part time rounds 0xff stm32MasseraseTimeout
  else do
    espWrite part [0xff, 0xff, 0x00]
    anyError (stm32GetAckTimeout time rounds stm32MasseraseTimeout)

/-- The pages of the loops `for (pg_num = spage; pg_num < spage + pages; pg_num++)`. -/
def pageNumbers (spage pages : Nat) : List Nat := List.range' spage ((spage + pages) % 2 ^ 32 - spage)

def stm32PagesErase (spage pages : Nat) : Action Unit := do
  stm32SendCommand part time rounds stm.cmd.er
  if stm.cmd.er = stm32CmdEr then do
    let bytes := BitVec.ofNat 8 (pages - 1) :: (pageNumbers spage pages).map (BitVec.ofNat 8)
    espWrite part (bytes ++ [checksum bytes])
    anyError (stm32GetAckTimeout time rounds (pages * stm32PageeraseTimeout))
  else do
    let bytes := BitVec.ofNat 8 ((pages - 1) / 256) :: BitVec.ofNat 8 (pages - 1) ::
      (pageNumbers spage pages).flatMap fun page => [BitVec.ofNat 8 (page / 256), BitVec.ofNat 8 page]
    espWrite part (bytes ++ [checksum bytes])
    anyError (stm32GetAckTimeout time rounds (pages * stm32PageeraseTimeout))

/-- `while (pages)`, with as many passes as there are pages. -/
def erasePasses : Nat → Nat → Nat → Action Unit
  | 0, _, _ => pure ()
  | passes + 1, spage, pages =>
    if pages = 0 then pure ()
    else do
      let n := if pages ≤ 511 then pages else 511
      stm32PagesErase part time rounds stm spage n
      erasePasses passes ((spage + n) % 2 ^ 32) (pages - n)

/-- `flash_addr_to_page_ceil` is declared only. -/
def stm32EraseMemory (flashAddrToPageCeil : BitVec 32 → Nat) (spage pages : Nat) : Action Unit :=
  if pages = 0 ∨ stm32MaxPages < spage ∨ (pages ≠ stm32MassErasePages ∧ stm32MaxPages < (spage + pages) % 2 ^ 32) then pure ()
  else if stm.cmd.er = stm32CmdErr then stop .noCmd
  else if pages = stm32MassErasePages then
    if stm.dev.flags &&& fNoMe = 0 then stm32MassErase part time rounds stm
    else
      let pages := flashAddrToPageCeil stm.dev.flEnd
      erasePasses part time rounds stm pages spage pages
  else erasePasses part time rounds stm pages spage pages

def stm32Go (address : BitVec 32) : Action Unit :=
  if stm.cmd.go = stm32CmdErr then stop .noCmd
  else do
    stm32SendCommand part time rounds stm.cmd.go
    espWrite part (addressFrame address)
    anyError (stm32GetAck time rounds)

def wordOf (bytes : List Byte) : BitVec 32 := BitVec.ofNat 32 (bigEndian bytes)

def stm32CrcMemory (address length : BitVec 32) : Action (BitVec 32) :=
  if address &&& 3 ≠ 0 ∨ length &&& 3 ≠ 0 then stop .unknown
  else if stm.cmd.crc = stm32CmdErr then stop .noCmd
  else do
    stm32SendCommand part time rounds stm.cmd.crc
    espWrite part (addressFrame address)
    anyError (stm32GetAck time rounds)
    espWrite part (addressFrame length)
    anyError (stm32GetAck time rounds)
    anyError (stm32GetAck time rounds)
    let bytes ← espReadAll 5
    if bytes.getD 4 0 ≠ checksum (bytes.take 4) then stop .unknown else pure (wordOf (bytes.take 4))

def crcBitOf (crc : BitVec 32) : BitVec 32 :=
  if crc &&& 0x80000000 ≠ 0 then (crc <<< 1) ^^^ crcPoly else crc <<< 1

def crcWordOf (crc : BitVec 32) (a b c d : Byte) : BitVec 32 :=
  crcBitOf^[32] (crc ^^^ (a.setWidth 32 ||| b.setWidth 32 <<< 8 ||| c.setWidth 32 <<< 16 ||| d.setWidth 32 <<< 24))

def swCrcWords : BitVec 32 → List Byte → BitVec 32
  | crc, a :: b :: c :: d :: rest => swCrcWords (crcWordOf crc a b c d) rest
  | crc, _ => crc

def stm32SwCrc (crc : BitVec 32) (buf : List Byte) : BitVec 32 := if buf.length % 4 ≠ 0 then 0 else swCrcWords crc buf

/-- `while (length)`, with so many passes at most. -/
def crcPasses : Nat → BitVec 32 → Nat → BitVec 32 → Action (BitVec 32)
  | 0, _, _, crc => pure crc
  | passes + 1, address, length, crc =>
    if length = 0 then pure crc
    else do
      let len := if 256 < length then 256 else length
      let buf ← anyError (stm32ReadMemory part time rounds stm address len)
      crcPasses passes (address + BitVec.ofNat 32 len) (length - len) (stm32SwCrc crc buf)

def stm32CrcWrapper (address length : BitVec 32) : Action (BitVec 32) :=
  if address &&& 3 ≠ 0 ∨ length &&& 3 ≠ 0 then stop .unknown
  else if stm.cmd.crc ≠ stm32CmdErr then stm32CrcMemory part time rounds stm address length
  else crcPasses part time rounds stm length.toNat address length.toNat 0xffffffff

def littleEndian (word : BitVec 32) : List Byte := (bytesOf word).reverse

/-- `while (length > 0)`, with so many passes at most. -/
def rawPasses : Nat → BitVec 32 → List Byte → Action Unit
  | 0, _, _ => pure ()
  | passes + 1, address, mem =>
    if mem.length = 0 then pure ()
    else do
      anyError (stm32WriteMemory part time rounds stm address (mem.take 256))
      rawPasses passes (address + BitVec.ofNat 32 (min 256 mem.length)) (mem.drop 256)

def rawImage (targetAddress : BitVec 32) (code : List Byte) : List Byte :=
  littleEndian 0x20002000 ++ littleEndian (targetAddress + 8 + 1) ++ code

def stm32RunRawCode (targetAddress : BitVec 32) (code : List Byte) : Action Unit :=
  if targetAddress &&& 3 ≠ 0 then stop .unknown
  else do
    let mem := rawImage targetAddress code
    rawPasses part time rounds stm mem.length targetAddress mem
    stm32Go part time rounds stm targetAddress

def stmResetCode : List Byte :=
  [0x01, 0x49, 0x02, 0x4a, 0x0a, 0x60, 0xfe, 0xe7, 0x0c, 0xed, 0x00, 0xe0, 0x04, 0x00, 0xfa, 0x05]

def stmOblLaunchCode : List Byte :=
  [0x01, 0x49, 0x02, 0x4a, 0x0a, 0x60, 0xfe, 0xe7, 0x10, 0x20, 0x02, 0x40, 0x00, 0x20, 0x00, 0x00]

def stmPemptyLaunchCode : List Byte :=
  [0x08, 0x48, 0x00, 0x68, 0x01, 0x30, 0x41, 0x1e, 0x88, 0x41, 0x07, 0x49, 0x07, 0x4a, 0x0b, 0x68, 0x13, 0x40, 0x5c, 0x1e,
    0xa3, 0x41, 0x98, 0x42, 0x00, 0xd1, 0x0a, 0x60, 0x04, 0x48, 0x05, 0x49, 0x01, 0x60, 0xfe, 0xe7, 0x00, 0x00, 0x00, 0x08,
    0x10, 0x20, 0x02, 0x40, 0x00, 0x00, 0x02, 0x00, 0x0c, 0xed, 0x00, 0xe0, 0x04, 0x00, 0xfa, 0x05]

def resetCode (flags : BitVec 32) : List Byte :=
  if flags &&& fObll ≠ 0 then stmOblLaunchCode else if flags &&& fPempty ≠ 0 then stmPemptyLaunchCode else stmResetCode

def stm32ResetDevice : Action Unit := stm32RunRawCode part time rounds stm stm.dev.ramStart (resetCode stm.dev.flags)

end Client

section Init
variable (part : Part) (time : Nat → Nat) (rounds : Nat)

def stm32SendInitSeq : Action Unit := do
  espWrite part [stm32CmdInit]
  match ← espRead 1 with
  | some bytes => if bytes.headD 0 = stm32Ack ∨ bytes.headD 0 = stm32Nack then pure () else stop .unknown
  | none => do
    espWrite part [stm32CmdInit]
    match ← espRead 1 with
    | some bytes => if bytes.headD 0 = stm32Nack then pure () else stop .unknown
    | none => stop .unknown

/-- For a port that is read byte by byte. -/
def stm32GuessLenCmd (cmd : Byte) : Action (List Byte) := do
  stm32SendCommand part time rounds cmd
  let first ← espReadAll 1
  let rest ← espReadAll ((first.headD 0).toNat + 1)
  pure (first ++ rest)

def newer (prev a : Byte) : Byte := if prev = stm32CmdErr then a else if a < prev then prev else a

/-- A command from the list of the boot loader. -/
def learn (cmd : Cmd) (val : Byte) : Cmd :=
  if val = stm32CmdGet then { cmd with get := val }
  else if val = stm32CmdGvr then { cmd with gvr := val }
  else if val = stm32CmdGid then { cmd with gid := val }
  else if val = stm32CmdRm then { cmd with rm := val }
  else if val = stm32CmdGo then { cmd with go := val }
  else if val = stm32CmdWm ∨ val = stm32CmdWmNs then { cmd with wm := newer cmd.wm val }
  else if val = stm32CmdEr ∨ val = stm32CmdEe ∨ val = stm32CmdEeNs then { cmd with er := newer cmd.er val }
  else if val = stm32CmdWp ∨ val = stm32CmdWpNs then { cmd with wp := newer cmd.wp val }
  else if val = stm32CmdUw ∨ val = stm32CmdUwNs then { cmd with uw := newer cmd.uw val }
  else if val = stm32CmdRp ∨ val = stm32CmdRpNs then { cmd with rp := newer cmd.rp val }
  else if val = stm32CmdUr ∨ val = stm32CmdUrNs then { cmd with ur := newer cmd.ur val }
  else if val = stm32CmdCrc then { cmd with crc := newer cmd.crc val }
  else cmd

def noCommands : Cmd := ⟨0xff, 0xff, 0xff, 0xff, 0xff, 0xff, 0xff, 0xff, 0xff, 0xff, 0xff, 0xff⟩

def devices : List Dev := [
  ⟨0x440, 0x20000800, 0x08010000, 0⟩,
  ⟨0x444, 0x20000800, 0x08008000, 0⟩,
  ⟨0x442, 0x20001800, 0x08040000, fObll⟩,
  ⟨0x445, 0x20001800, 0x08008000, 0⟩,
  ⟨0x448, 0x20001800, 0x08020000, 0⟩,
  ⟨0x412, 0x20000200, 0x08008000, 0⟩,
  ⟨0x410, 0x20000200, 0x08020000, 0⟩,
  ⟨0x414, 0x20000200, 0x08080000, 0⟩,
  ⟨0x420, 0x20000200, 0x08020000, 0⟩,
  ⟨0x428, 0x20000200, 0x08080000, 0⟩,
  ⟨0x418, 0x20001000, 0x08040000, 0⟩,
  ⟨0x430, 0x20000800, 0x08100000, 0⟩,
  ⟨0x411, 0x20002000, 0x08100000, 0⟩,
  ⟨0x432, 0x20001400, 0x08040000, 0⟩,
  ⟨0x422, 0x20001400, 0x08040000, 0⟩,
  ⟨0x439, 0x20001800, 0x08010000, 0⟩,
  ⟨0x438, 0x20001800, 0x08010000, 0⟩,
  ⟨0x446, 0x20001800, 0x08080000, 0⟩,
  ⟨0x413, 0x20003000, 0x08100000, 0⟩,
  ⟨0x419, 0x20003000, 0x08200000, 0⟩,
  ⟨0x423, 0x20003000, 0x08040000, 0⟩,
  ⟨0x433, 0x20003000, 0x08080000, 0⟩,
  ⟨0x458, 0x20003000, 0x08020000, 0⟩,
  ⟨0x431, 0x20003000, 0x08080000, 0⟩,
  ⟨0x441, 0x20003000, 0x08100000, 0⟩,
  ⟨0x421, 0x20003000, 0x08080000, 0⟩,
  ⟨0x434, 0x20003000, 0x08200000, 0⟩,
  ⟨0x463, 0x20003000, 0x08180000, 0⟩,
  ⟨0x452, 0x20004000, 0x08080000, 0⟩,
  ⟨0x449, 0x20004000, 0x08100000, 0⟩,
  ⟨0x451, 0x20004000, 0x08200000, 0⟩,
  ⟨0x466, 0x20001000, 0x08010000, 0⟩,
  ⟨0x460, 0x20002700, 0x08020000, 0⟩,
  ⟨0x467, 0x20004000, 0x08080000, 0⟩,
  ⟨0x456, 0x20001000, 0x08010000, 0⟩,
  ⟨0x468, 0x20004000, 0x08020000, 0⟩,
  ⟨0x469, 0x20004000, 0x08080000, 0⟩,
  ⟨0x479, 0x20004000, 0x08080000, 0⟩,
  ⟨0x450, 0x20004100, 0x08200000, 0⟩,
  ⟨0x457, 0x20000800, 0x08004000, fNoMe⟩,
  ⟨0x425, 0x20001000, 0x08008000, fNoMe⟩,
  ⟨0x417, 0x20001000, 0x08010000, fNoMe⟩,
  ⟨0x447, 0x20002000, 0x08030000, fNoMe⟩,
  ⟨0x416, 0x20000800, 0x08020000, fNoMe⟩,
  ⟨0x429, 0x20001000, 0x08020000, fNoMe⟩,
  ⟨0x427, 0x20001000, 0x08040000, fNoMe⟩,
  ⟨0x436, 0x20001000, 0x08060000, fNoMe⟩,
  ⟨0x437, 0x20001000, 0x08080000, fNoMe⟩,
  ⟨0x464, 0x20003100, 0x08020000, 0⟩,
  ⟨0x435, 0x20003100, 0x08040000, 0⟩,
  ⟨0x462, 0x20003100, 0x08080000, fPempty⟩,
  ⟨0x415, 0x20003100, 0x08100000, 0⟩,
  ⟨0x461, 0x20003100, 0x08100000, 0⟩,
  ⟨0x470, 0x20003200, 0x08100000, 0⟩,
  ⟨0x641, 0x20000200, 0x08020000, 0⟩,
  ⟨0x9a8, 0x20000200, 0x08020000, 0⟩,
  ⟨0x9b0, 0x20000200, 0x08040000, 0⟩]

/-- The version and the options, also behind an acknowledgement too many. -/
def readVersion : Action (List Byte) := do
  let buf ← espReadAll 3
  if buf.getD 0 0 = stm32Ack ∧ buf.getD 1 0 = 0x31 then do
    let more ← espRead 1
    pure [buf.getD 1 0, buf.getD 2 0, (more.getD [buf.getD 2 0]).headD 0]
  else pure buf

def stm32Init : Action Stm32 := do
  rescue (stm32SendInitSeq part) fun _ => pure ()
  stm32SendCommand part time rounds stm32CmdGvr
  let version ← readVersion
  anyError (stm32GetAck time rounds)
  let info ← stm32GuessLenCmd part time rounds stm32CmdGet
  let len := info.headD 0 + 1
  let cmd := ((info.drop 2).take (len.toNat - 1)).foldl learn noCommands
  anyError (stm32GetAck time rounds)
  if cmd.get = stm32CmdErr ∨ cmd.gvr = stm32CmdErr ∨ cmd.gid = stm32CmdErr then stop .unknown
  else do
    let ids ← stm32GuessLenCmd part time rounds cmd.gid
    if ids.headD 0 + 1 < 2 then stop .unknown
    else do
      let pid := (ids.getD 1 0).setWidth 16 <<< 8 ||| (ids.getD 2 0).setWidth 16
      anyError (stm32GetAck time rounds)
      match devices.find? (·.id == pid) with
      | some dev => pure ⟨version.getD 0 0, version.getD 1 0, version.getD 2 0, info.getD 1 0, pid, cmd, dev⟩
      | none => stop .unknown

end Init

section Meaning

abbrev Memory := BitVec 32 → Byte

/-- Goes on only where something holds. -/
def require {σ : Type} (condition : Prop) [Decidable condition] : Program σ Stm32Err Unit :=
  if condition then pure () else stop .unknown

inductive Deed where
  | read (address : BitVec 32) (len : Nat)
  | write (address : BitVec 32) (data : List Byte)
  | erase (spage pages : Nat)
  deriving DecidableEq, Repr

variable (part : Part) (time : Nat → Nat) (rounds : Nat) (stm : Stm32) (flashAddrToPageCeil : BitVec 32 → Nat)

def perform : Deed → Action (List Byte)
  | .read address len => stm32ReadMemory part time rounds stm address len
  | .write address data => do
    stm32WriteMemory part time rounds stm address data
    pure []
  | .erase spage pages => do
    stm32EraseMemory part time rounds stm flashAddrToPageCeil spage pages
    pure []

def padded (data : List Byte) : List Byte := data ++ List.replicate (alignedLen data.length - data.length) 0xff

def eraseRange (spage pages : Nat) : Program Memory Stm32Err Unit :=
  if pages = 0 then pure ()
  else do
    require (part.takes stm.cmd.er)
    change fun memory => part.erased memory fun page => spage ≤ page ∧ page < spage + pages

def readPlainly (address : BitVec 32) (len : Nat) : Program Memory Stm32Err (List Byte) :=
  if len = 0 then pure []
  else if 256 < len then stop .unknown
  else if stm.cmd.rm = stm32CmdErr then stop .noCmd
  else do
    require (part.takes stm.cmd.rm)
    require (part.valid address)
    let memory ← Program.read
    pure (recalled memory address len)

def writePlainly (address : BitVec 32) (data : List Byte) : Program Memory Stm32Err Unit :=
  if data.length = 0 then pure ()
  else if 256 < data.length then stop .unknown
  else if address &&& 3 ≠ 0 then stop .unknown
  else if stm.cmd.wm = stm32CmdErr then stop .noCmd
  else do
    require (part.takes stm.cmd.wm)
    require (part.valid address)
    change fun memory => part.written memory address (padded data)

def erasePlainly (spage pages : Nat) : Program Memory Stm32Err Unit :=
  if pages = 0 ∨ stm32MaxPages < spage ∨ (pages ≠ stm32MassErasePages ∧ stm32MaxPages < (spage + pages) % 2 ^ 32) then pure ()
  else if stm.cmd.er = stm32CmdErr then stop .noCmd
  else if pages = stm32MassErasePages then
    if stm.dev.flags &&& fNoMe = 0 then do
      require (part.takes stm.cmd.er)
      change fun memory => part.erased memory fun _ => True
    else eraseRange part stm spage (flashAddrToPageCeil stm.dev.flEnd)
  else eraseRange part stm spage pages

/-- What the deeds are for. -/
def plainly : Deed → Program Memory Stm32Err (List Byte)
  | .read address len => readPlainly part stm address len
  | .write address data => do
    writePlainly part stm address data
    pure []
  | .erase spage pages => do
    erasePlainly part stm flashAddrToPageCeil spage pages
    pure []

end Meaning

end BlackMagic.Stm32Flash
