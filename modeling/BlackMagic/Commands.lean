import BlackMagic.Targets

/-! The monitor commands of `command.c`, for a probe without power switch, RTT and
debug output. Commands that only print or set up the probe print what the answers hold. -/

namespace BlackMagic.Commands
open Lib Lib.Program Targets

inductive Command where
  | version
  | help
  | jtagScan
  | swdScan
  | rvswdScan
  | autoScan
  | frequency
  | targets
  | morse
  | haltTimeout
  | connectReset
  | reset
  | uartScan
  | uartSend
  | tdiLowReset
  | traceswo
  | heapinfo
  deriving DecidableEq, Repr

def cmdList : List (String × Command) :=
  [("version", .version), ("help", .help), ("jtag_scan", .jtagScan), ("swd_scan", .swdScan),
    ("swdp_scan", .swdScan), ("rvswd_scan", .rvswdScan), ("auto_scan", .autoScan), ("frequency", .frequency),
    ("targets", .targets), ("morse", .morse), ("halt_timeout", .haltTimeout), ("connect_rst", .connectReset),
    ("reset", .reset), ("uart_scan", .uartScan), ("uart_send", .uartSend), ("tdi_low_reset", .tdiLowReset),
    ("traceswo", .traceswo), ("heapinfo", .heapinfo)]

/-- A C string up to its terminator. -/
def cString (text : Text) : Text := text.takeWhile (· ≠ 0#8)

/-- `strtok_r` with a space and a tab. -/
def tokens (text : Text) : List Text :=
  (text.splitOnP fun c => c = chr ' ' ∨ c = chr '\t').filter (· ≠ [])

variable (answers : Answers)

/-- Print the list; the lines of the targets are part of the answers. -/
def cmdTargets : Action Bool := do
  gdbOut (ascii "Available Targets:\n")
  gdbOut (ascii "No. Att Driver\n")
  each gdbOut answers.information
  if (← read).targetList = [] then
    gdbOut (ascii "No usable targets found.\n")
    return false
  return true

/-- What the scan commands print for the exception that ended a scan. -/
def scanException (exception : Exception) : Text :=
  match exception.type with
  | .timeout => ascii "Timeout during scan. Is target stuck in WFI?\n"
  | .error => ascii "Exception: " ++ exception.msg ++ ascii "\n"

/-- The part that the scan commands share. -/
def scanCommand (scan : Action Bool) (failure : String) : Action Bool := do
  let scanResult ← rescue scan fun reason =>
    match reason with
    | .raised exception => do
      gdbOut (scanException exception)
      pure false
    | other => stop other
  if !scanResult then
    gdbOut (ascii failure)
    return false
  let _ ← cmdTargets answers
  return true

def cmdJtagScan : Action Bool := scanCommand answers (runScan answers answers.jtagScan) "JTAG device scan failed!\n"

def cmdSwdScan : Action Bool := scanCommand answers (runScan answers answers.swdScan) "SW-DP scan failed!\n"

def cmdRvswdScan : Action Bool := scanCommand answers (pure false) "RVSWD scan failed!\n"

def cmdAutoScan : Action Bool :=
  scanCommand answers
    (do
      if ← runScan answers answers.jtagScan then return true
      gdbOut (ascii "JTAG scan found no devices, trying SWD!\n")
      if ← runScan answers answers.swdScan then return true
      gdbOut (ascii "SW-DP scan found no devices.\n")
      return false)
    "auto scan failed!\n"

def cmdReset : Action Bool := do
  targetListFree answers .listFree
  return true

/-- A handler that prints something and succeeds. -/
def cmdInform : Action Bool := do
  each gdbOut answers.information
  return true

def handler : Command → Action Bool
  | .jtagScan => cmdJtagScan answers
  | .swdScan => cmdSwdScan answers
  | .rvswdScan => cmdRvswdScan answers
  | .autoScan => cmdAutoScan answers
  | .targets => cmdTargets answers
  | .reset => cmdReset answers
  | .tdiLowReset => cmdReset answers
  | .uartScan => do
    each gdbOut answers.information
    return answers.uartScan
  | _ => cmdInform answers

/-- `target_command`, with the handler of the target's own that matches, if any. -/
def targetCommand (target : Option Nat) (argv : List Text) : Action Int := do
  let _ ← dereference target (.command argv)
  match answers.command with
  | none => pure (-1)
  | some handled =>
    let result ← performPolled answers handled
    pure (if result then 0 else 1)

/-- The command that a first word abbreviates. -/
def lookup (argv : List Text) : Option Command :=
  match argv with
  | [] => some .version
  | name :: _ => (cmdList.find? fun command => name.isPrefixOf (ascii command.1)).map Prod.snd

def commandProcess (target : Option Nat) (cmdBuffer : Text) : Action Int := do
  let argv := tokens (cString cmdBuffer)
  match lookup argv with
  | some command =>
    let result ← handler answers command
    pure (if result then 0 else 1)
  | none =>
    if target = none then pure (-1) else targetCommand answers target argv

end BlackMagic.Commands
