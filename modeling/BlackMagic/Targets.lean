import BlackMagic.Lib.Program
import BlackMagic.Bytes

/-! The list of targets and the two pointers that the GDB server keeps into it
(`target.c`, `gdb_main.c`). A pointer is the number its target was allocated under, and
the memory of a freed target keeps its content. What the drivers, the probe's hardware and
the heap do during one step is a record of answers: each operation is called at most once in a
step, detaching apart, which is answered for each place it is called from. -/

namespace BlackMagic.Targets
open Lib Lib.Program

abbrev Text := List Byte

inductive ExceptionType where
  | error
  | timeout
  deriving DecidableEq, Repr

structure Exception where
  type : ExceptionType
  msg : Text
  deriving DecidableEq, Repr

/-- The operations that dereference a target. -/
inductive Call where
  | attach
  | detach
  | reset
  | setCmdline (cmdline : Text)
  | regsSize
  | regsRead
  | regsWrite (data : Text)
  | memRead (addr len : Nat)
  | memWrite (addr : Nat) (data : Text)
  | regRead (reg : Nat)
  | regWrite (reg : Nat) (data : Text)
  | haltRequest
  | haltPoll
  | haltResume (step : Bool)
  | breakwatchSet (type addr len : Nat)
  | breakwatchClear (type addr len : Nat)
  | flashErase (addr len : Nat)
  | flashWrite (addr : Nat) (data : Text)
  | flashComplete
  | memMap
  | regsDescription
  | crc32 (addr len : Nat)
  | command (argv : List Text)
  deriving DecidableEq, Repr

/-- Why a step does not come to its end: an exception, a call on a null pointer, an
access outside an array, or an exception that nobody catches. -/
inductive Stop where
  | raised (exception : Exception)
  | nullTarget (call : Call)
  | overrun
  | abort
  deriving DecidableEq, Repr

/-- What goes to the client: a packet, console text in an `O` packet, a notification, or
an acknowledgement out of turn. -/
inductive Output where
  | reply (body : Text)
  | console (text : Text)
  | notification (body : Text)
  | ack
  deriving DecidableEq, Repr

/-- The fields of a target that the server sets; `tc` tells whether it has its
controller. -/
structure Target where
  attached : Bool
  tc : Bool
  cmdline : Text
  deriving DecidableEq, Repr

structure Server where
  heap : Nat → Target
  targetList : List Nat
  allocated : Nat
  curTarget : Option Nat
  lastTarget : Option Nat
  gdbTargetRunning : Bool
  gdbNeedsDetachNotify : Bool
  noackmode : Bool
  output : List Output
  calls : List (Nat × Call)

abbrev Action := Program Server Stop

/-- What a driver call prints and how it ends. -/
structure Outcome (α : Type) where
  console : List Text
  result : Except Exception α

/-- The same for a call that polls the halt state on its way: on a communication error
the poll frees all targets. -/
structure Polled (α : Type) where
  console : List Text
  frees : Bool
  result : Except Exception α

/-- A scan: how many targets it leaves on the list. -/
structure Scan where
  console : List Text
  found : Nat
  result : Except Exception Bool

/-- Where a target is detached: by request, when the list is freed during a request, and
when it is freed after an exception. -/
inductive Place where
  | request
  | listFree
  | recovery
  deriving DecidableEq, Repr

inductive TargetHaltReason where
  | running
  | error
  | request
  | stepping
  | breakpoint
  | watchpoint
  | fault
  deriving DecidableEq, Repr

/-- What the code around the server answers during one step; `uninitialised` stands for the
locals that the code reads without having set them. -/
structure Answers where
  attach : Polled Bool
  detach : Place → Nat → Option Exception
  reset : Polled Unit
  regsSize : Nat
  regsRead : Outcome Text
  regsWrite : Outcome Unit
  memRead : Outcome (Option Text)
  memWrite : Outcome Bool
  regRead : Option (Outcome (Int × Text))
  regWrite : Option (Outcome Int)
  haltRequest : Outcome Unit
  haltPoll : Polled (TargetHaltReason × Nat)
  haltResume : Outcome Unit
  breakwatchSet : Outcome Int
  breakwatchClear : Outcome Int
  flashErase : Polled Bool
  flashWrite : Polled Bool
  flashComplete : Polled Bool
  memMap : Text
  regsDescription : Option Text
  crc32 : Outcome (Option Nat)
  jtagScan : Scan
  swdScan : Scan
  command : Option (Polled Bool)
  information : List Text
  uartScan : Bool
  formatted : Bool
  uninitialised : Nat → Nat

section Output

def emit (output : Output) : Action Unit := change fun server => { server with output := server.output ++ [output] }

def gdbPutpacket (body : Text) : Action Unit := emit (.reply body)

def gdbPutpacketz (body : String) : Action Unit := gdbPutpacket (ascii body)

def gdbPutNotificationz (body : String) : Action Unit := emit (.notification (ascii body))

def gdbOut (text : Text) : Action Unit := emit (.console text)

def gdbSetNoackmode (enable : Bool) : Action Unit := do
  onlyIf (!enable && (← read).noackmode) (emit .ack)
  change fun server => { server with noackmode := enable }

end Output

/-- Change a target in the heap. -/
def updateTarget (id : Nat) (f : Target → Target) : Action Unit :=
  change fun server => { server with heap := fun other => if other = id then f (server.heap id) else server.heap other }

def raise {α : Type} (exception : Exception) : Action α := stop (.raised exception)

def perform {α : Type} (outcome : Outcome α) : Action α := do
  each gdbOut outcome.console
  match outcome.result with
  | .ok value => pure value
  | .error exception => raise exception

/-- Follow a pointer for a call. -/
def dereference (target : Option Nat) (call : Call) : Action Nat := do
  match target with
  | none => stop (.nullTarget call)
  | some id =>
    change fun server => { server with calls := server.calls ++ [(id, call)] }
    pure id

def gdbTargetDestroyCallback (id : Nat) : Action Unit := do
  onlyIf ((← read).curTarget = some id) do
    gdbPutNotificationz "%Stop:W00"
    gdbOut (ascii "You are now detached from the previous target.\n")
    change fun server => { server with curTarget := none, gdbNeedsDetachNotify := true }
  onlyIf ((← read).lastTarget = some id) do
    change fun server => { server with lastTarget := none }

variable (answers : Answers)

def driverDetach (place : Place) (id : Nat) : Action Unit := do
  match answers.detach place id with
  | none => pure ()
  | some exception => raise exception

/-- One pass of the loop of `target_list_free`. -/
def freeTarget (place : Place) (id : Nat) : Action Unit := do
  onlyIf ((← read).heap id).attached (driverDetach answers place id)
  onlyIf ((← read).heap id).tc (gdbTargetDestroyCallback id)

def targetListFree (place : Place) : Action Unit := do
  each (freeTarget answers place) (← read).targetList
  change fun server => { server with targetList := [] }

def performPolled {α : Type} (polled : Polled α) : Action α := do
  each gdbOut polled.console
  onlyIf polled.frees (targetListFree answers .listFree)
  match polled.result with
  | .ok value => pure value
  | .error exception => raise exception

def targetNew : Action Unit :=
  change fun server => { server with
    heap := fun id => if id = server.allocated then ⟨false, false, []⟩ else server.heap id
    targetList := server.targetList ++ [server.allocated]
    allocated := server.allocated + 1 }

/-- `jtag_scan` or `adiv5_swd_scan`. -/
def runScan (scan : Scan) : Action Bool := do
  targetListFree answers .listFree
  each (fun _ => targetNew) (List.range scan.found)
  each gdbOut scan.console
  match scan.result with
  | .ok value => pure value
  | .error exception => raise exception

def targetAttach (target : Option Nat) : Action (Option Nat) := do
  let id ← dereference target .attach
  onlyIf ((← read).heap id).tc (gdbTargetDestroyCallback id)
  updateTarget id fun target => { target with tc := true }
  if !(← performPolled answers answers.attach) then return none
  updateTarget id fun target => { target with attached := true }
  return some id

def targetAttachN (n : Nat) : Action (Option Nat) := do
  match n with
  | 0 => pure none
  | n + 1 =>
    match (← read).targetList[n]? with
    | none => pure none
    | some id => targetAttach answers (some id)

def targetDetach (target : Option Nat) : Action Unit := do
  let id ← dereference target .detach
  driverDetach answers .request id
  updateTarget id fun target => { target with attached := false }

def targetReset (target : Option Nat) : Action Unit := do
  let _ ← dereference target .reset
  performPolled answers answers.reset

/-- A target keeps at most 80 characters. -/
def targetSetCmdline (target : Option Nat) (cmdline : Text) : Action Unit := do
  let id ← dereference target (.setCmdline cmdline)
  updateTarget id fun target => { target with cmdline := cmdline.take 80 }

end BlackMagic.Targets
