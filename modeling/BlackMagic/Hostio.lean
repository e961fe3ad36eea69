import BlackMagic.Server

/-! File input and output for the target on the host (`gdb_hostio.c`): a request to GDB, and the packets that are handled
until the call returns. Which packets GDB sends meanwhile is given, with what the drivers answer to each. -/

namespace BlackMagic.Hostio
open Lib Lib.Program Lib.Scan Targets Commands Server

/-- The fields of the controller that a reply sets. -/
structure TargetController where
  errno : Nat
  interrupted : Bool
  deriving DecidableEq, Repr

/-- A packet from GDB in the packet buffer, and what the drivers answer while it is handled. -/
structure Incoming where
  pbuf : Buffer
  size : Nat
  answers : Answers

structure Session where
  server : Server
  tc : TargetController
  incoming : List Incoming

/-- Why a call does not return: the server stops, or there is no packet to wait for. -/
inductive Halt where
  | stopped (reason : Stop)
  | noPacket

abbrev Action := Program Session Halt

def onServer (action : Targets.Action α) : Action α := fun session =>
  match action session.server with
  | (.ok value, server) => (.ok value, { session with server := server })
  | (.error reason, server) => (.error (.stopped reason), { session with server := server })

section Replies

def targetEunknown : Nat := 9999

/-- An unsigned value as an `int`. -/
def toInt (value : Nat) : Int := (BitVec.ofNat 32 value).toInt

def setController (tc : TargetController) : Action Unit := change fun session => { session with tc := tc }

def hostioReply (pbuf : Buffer) (size : Nat) : Action Int := do
  let retcodeIsNegative := pbuf 1 = chr '-'
  let scanned := sscanf ((packetString pbuf size).drop (if retcodeIsNegative then 2 else 1))
    ([.hex none] ++ text "," ++ [.hex none] ++ text "," ++ [.character])
  let retcode := (scanned.values[0]?).getD 0
  let errno := (scanned.values[1]?).getD 0
  let ctrlCFlag := (scanned.values[2]?).getD 0
  if scanned.count < 1 then
    setController ⟨targetEunknown, false⟩
    pure (-1)
  else
    setController ⟨if 2 ≤ scanned.count then errno else 0, scanned.count = 3 ∧ ctrlCFlag = (chr 'C').toNat⟩
    pure (if retcodeIsNegative then toInt (2 ^ 32 - retcode) else toInt retcode)

/-- `gdb_main_loop` when it is called from a system call: one packet, whose result it returns. -/
def gdbMainLoopInSyscall (packet : Incoming) : Action Int := do
  if packetKind (packet.pbuf 0) = .fileIo then hostioReply packet.pbuf packet.size
  else
    onServer (gdbMainLoop packet.answers packet.pbuf packet.size)
    pure 0

def gdbGetpacket : Action Incoming := do
  match (← read).incoming with
  | [] => stop .noPacket
  | packet :: rest =>
    change fun session => { session with incoming := rest }
    pure packet

def hostioGetResponse : Action Int := do
  gdbMainLoopInSyscall (← gdbGetpacket)

end Replies

section Requests

variable (answers : Answers)

/-- Send a request and wait for the response. -/
def ask (body : Text) : Action Int := do
  onServer (gdbPutpacketF answers body)
  hostioGetResponse

/-- `%08X` and `%X` of a machine word. -/
def word8 (value : BitVec 32) : Text := printHex8 value.toNat
def word (value : BitVec 32) : Text := printHex value.toNat

def hostioOpen (path pathLen flags mode : BitVec 32) : Action Int :=
  ask answers (ascii "Fopen," ++ word8 path ++ ascii "/" ++ word pathLen ++ ascii "," ++ word8 flags ++ ascii "," ++ word8 mode)

def hostioClose (fd : BitVec 32) : Action Int := ask answers (ascii "Fclose," ++ word8 fd)

def hostioRead (fd buf count : BitVec 32) : Action Int :=
  ask answers (ascii "Fread," ++ word8 fd ++ ascii "," ++ word8 buf ++ ascii "," ++ word8 count)

def hostioWrite (fd buf count : BitVec 32) : Action Int :=
  ask answers (ascii "Fwrite," ++ word8 fd ++ ascii "," ++ word8 buf ++ ascii "," ++ word8 count)

def hostioLseek (fd offset flag : BitVec 32) : Action Int :=
  ask answers (ascii "Flseek," ++ word8 fd ++ ascii "," ++ word8 offset ++ ascii "," ++ word8 flag)

def hostioRename (oldpath oldLen newpath newLen : BitVec 32) : Action Int :=
  ask answers (ascii "Frename," ++ word8 oldpath ++ ascii "/" ++ word oldLen ++ ascii "," ++ word8 newpath ++ ascii "/" ++
    word newLen)

def hostioUnlink (path pathLen : BitVec 32) : Action Int :=
  ask answers (ascii "Funlink," ++ word8 path ++ ascii "/" ++ word pathLen)

def hostioStat (path pathLen buf : BitVec 32) : Action Int :=
  ask answers (ascii "Fstat," ++ word8 path ++ ascii "/" ++ word pathLen ++ ascii "," ++ word8 buf)

def hostioFstat (fd buf : BitVec 32) : Action Int := ask answers (ascii "Ffstat," ++ word fd ++ ascii "," ++ word8 buf)

def hostioGettimeofday (tv tz : BitVec 32) : Action Int :=
  ask answers (ascii "Fgettimeofday," ++ word8 tv ++ ascii "," ++ word8 tz)

def hostioIsatty (fd : BitVec 32) : Action Int := ask answers (ascii "Fisatty," ++ word8 fd)

def hostioSystem (cmd cmdLen : BitVec 32) : Action Int :=
  ask answers (ascii "Fsystem," ++ word8 cmd ++ ascii "/" ++ word cmdLen)

end Requests

/-- The calls in the controller of the GDB server. -/
inductive Request where
  | openFile (path pathLen flags mode : BitVec 32)
  | close (fd : BitVec 32)
  | read (fd buf count : BitVec 32)
  | write (fd buf count : BitVec 32)
  | lseek (fd offset flag : BitVec 32)
  | rename (oldpath oldLen newpath newLen : BitVec 32)
  | unlink (path pathLen : BitVec 32)
  | stat (path pathLen buf : BitVec 32)
  | fstat (fd buf : BitVec 32)
  | gettimeofday (tv tz : BitVec 32)
  | isatty (fd : BitVec 32)
  | system (cmd cmdLen : BitVec 32)
  deriving DecidableEq, Repr

def hostio (answers : Answers) : Request → Action Int
  | .openFile path pathLen flags mode => hostioOpen answers path pathLen flags mode
  | .close fd => hostioClose answers fd
  | .read fd buf count => hostioRead answers fd buf count
  | .write fd buf count => hostioWrite answers fd buf count
  | .lseek fd offset flag => hostioLseek answers fd offset flag
  | .rename oldpath oldLen newpath newLen => hostioRename answers oldpath oldLen newpath newLen
  | .unlink path pathLen => hostioUnlink answers path pathLen
  | .stat path pathLen buf => hostioStat answers path pathLen buf
  | .fstat fd buf => hostioFstat answers fd buf
  | .gettimeofday tv tz => hostioGettimeofday answers tv tz
  | .isatty fd => hostioIsatty answers fd
  | .system cmd cmdLen => hostioSystem answers cmd cmdLen

end BlackMagic.Hostio
