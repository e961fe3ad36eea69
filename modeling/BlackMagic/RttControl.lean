import BlackMagic.Lib.Scan
import BlackMagic.Lib.Words
import BlackMagic.Rtt

/-! The control block of RTT (`rtt.c`) and the monitor commands for it (`command.c`): which channels
there are and which of them the probe serves. What the target answers is left open, also between
two reads of the same words. -/

namespace BlackMagic.RttControl
open Lib.Scan Lib.Words Rtt

def maxRttChan : Nat := 16

/-- An entry of the control block. -/
structure Descriptor extends RttChannel where
  nameAddr : Nat
  flag : Nat
  deriving DecidableEq, Repr

def cleared : Descriptor := ⟨⟨0, 0, 0, 0⟩, 0, 0⟩

/-- The variables, and the indices that have been used in `rtt_channel` and `rtt_channel_enabled`. -/
structure Control where
  rttEnabled : Bool
  rttFound : Bool
  rttCbaddr : Nat
  rttNumUpChan : Nat
  rttNumDownChan : Nat
  rttAutoChannel : Bool
  rttChannelEnabled : Nat → Bool
  rttChannel : Nat → Descriptor
  rttIdent : List Byte
  rttMinPollMs : Nat
  rttMaxPollMs : Nat
  rttMaxPollErrs : Nat
  pollMs : Nat
  pollErrs : Nat
  lastPollMs : Nat
  rttFlagSkip : Bool
  rttFlagBlock : Bool
  rttFlagRam : Bool
  rttRamStart : Nat
  rttRamEnd : Nat
  savedCblockHeader : List Nat
  indices : List Nat

/-- The values after power-up, for an identifier that has been configured or none. -/
def powerUp (rttIdent : List Byte) : Control where
  rttEnabled := false
  rttFound := false
  rttCbaddr := 0
  rttNumUpChan := 0
  rttNumDownChan := 0
  rttAutoChannel := true
  rttChannelEnabled := fun _ => false
  rttChannel := fun _ => cleared
  rttIdent := rttIdent
  rttMinPollMs := 8
  rttMaxPollMs := 256
  rttMaxPollErrs := 10
  pollMs := 0
  pollErrs := 0
  lastPollMs := 0
  rttFlagSkip := false
  rttFlagBlock := false
  rttFlagRam := false
  rttRamStart := 0
  rttRamEnd := 0
  savedCblockHeader := [0, 0, 0, 0, 0, 0]
  indices := []

section Arrays

def touch (index : Nat) (control : Control) : Control := { control with indices := control.indices ++ [index] }

def enable (index : Nat) (value : Bool) (control : Control) : Control :=
  { touch index control with
    rttChannelEnabled := fun i => if i = index then value else control.rttChannelEnabled i }

def enableNone (control : Control) : Control := (List.range maxRttChan).foldl (fun control i => enable i false control) control

def store (index : Nat) (descriptor : Descriptor) (control : Control) : Control :=
  { touch index control with
    rttChannel := fun i => if i = index then descriptor else control.rttChannel i }

def clearChannels (control : Control) : Control := { control with rttChannel := fun _ => cleared }

/-- `rtt_num_up_chan + rtt_num_down_chan`. -/
def channels (control : Control) : Nat := add32 control.rttNumUpChan control.rttNumDownChan

end Arrays

section FindRtt

/-- The target: its RAM, what the search finds between two addresses, and what two reads return, if they succeed. -/
structure FindAnswers where
  ram : List (Nat × Nat)
  fastSearch : Nat → Nat → Nat
  memorySearch : List Byte → Nat → Nat → Nat
  numBuf : Option (BitVec 32 × BitVec 32)
  header : Option (List Nat)

def searchRange (answers : FindAnswers) (control : Control) (ramStart ramEnd : Nat) : Nat :=
  if control.rttIdent.getD 0 0#8 = 0#8 then answers.fastSearch ramStart ramEnd
  else answers.memorySearch control.rttIdent ramStart ramEnd

/-- The first region where the search finds something. -/
def searchRam (answers : FindAnswers) (control : Control) : List (Nat × Nat) → Nat
  | [] => 0
  | (start, length) :: rest =>
    let cbaddr := searchRange answers control start (add32 start length)
    if cbaddr ≠ 0 then cbaddr else searchRam answers control rest

/-- The numbers of channels, clamped. -/
def setNumbers (up down : BitVec 32) (control : Control) : Control :=
  let up := if maxRttChan < up.toNat then maxRttChan else up.toNat
  let down := if maxRttChan < add32 up down.toNat then sub32 maxRttChan up else down.toNat
  { control with rttNumUpChan := up, rttNumDownChan := down }

/-- The first output channels and the first input channel. -/
def selectChannels (control : Control) : Control :=
  let control := enable 1 (decide (1 < control.rttNumUpChan))
    (enable 0 (decide (0 < control.rttNumUpChan)) (enableNone control))
  if control.rttNumUpChan < maxRttChan ∧ 0 < control.rttNumDownChan then enable control.rttNumUpChan true control else control

/-- What follows once the numbers of channels have been read. -/
def readBlock (header : Option (List Nat)) (control : Control) : Control :=
  if 255 < control.rttNumUpChan ∨ 255 < control.rttNumDownChan then { control with rttEnabled := false }
  else if control.rttNumUpChan = 0 ∧ control.rttNumDownChan = 0 then { control with rttEnabled := false }
  else
    let control := clearChannels control
    let control := if control.rttAutoChannel then selectChannels control else control
    match header with
    | none => control
    | some words => { control with savedCblockHeader := words, rttFound := true }

def findRtt (target : Option FindAnswers) (control : Control) : Control :=
  let control := { control with rttFound := false, pollMs := control.rttMaxPollMs, pollErrs := 0, lastPollMs := 0 }
  match target with
  | none => control
  | some answers =>
    if !control.rttEnabled then control
    else
      let cbaddr :=
        if control.rttFlagRam then searchRange answers control control.rttRamStart control.rttRamEnd
        else searchRam answers control answers.ram
      let control := { control with rttCbaddr := cbaddr }
      if cbaddr = 0 then control
      else
        match answers.numBuf with
        | none => control
        | some (up, down) => readBlock answers.header (setNumbers up down control)

end FindRtt

section PollRtt

/-- What a poll finds: the time, the control block as three reads return it, and for each channel
what `print_rtt` or `read_rtt` makes of its entry. -/
structure PollAnswers where
  find : FindAnswers
  now : Nat
  header : Option (List Nat)
  block : Option (Nat → Descriptor)
  printRtt : Nat → Descriptor → Descriptor × RttRetval
  readRtt : Nat → Descriptor → Descriptor × RttRetval

/-- The state of the loop over the channels. -/
structure Served where
  control : Control
  rttErr : Bool
  rttBusy : Bool

def returned (result : RttRetval) (served : Served) : Served :=
  match result with
  | .ok => { served with rttBusy := true }
  | .err => { served with rttErr := true }
  | .idle => served

def serveChannel (answers : PollAnswers) (served : Served) (i : Nat) : Served :=
  let control := touch i served.control
  if !control.rttChannelEnabled i then { served with control := control }
  else if i < control.rttNumUpChan then
    let (descriptor, result) := answers.printRtt i (control.rttChannel i)
    returned result { served with control := store i descriptor control }
  else
    let control := { touch i control with
      rttFlagSkip := (control.rttChannel i).flag = 0, rttFlagBlock := (control.rttChannel i).flag = 2 }
    let (descriptor, result) := answers.readRtt i (control.rttChannel i)
    returned result { served with control := store i descriptor control }

/-- How many entries a read of the channels touches. -/
def entriesRead (control : Control) : Nat := (24 * channels control % 2 ^ 32 + 23) / 24

def serveChannels (answers : PollAnswers) (control : Control) : Served :=
  match answers.block with
  | none => ⟨control, true, false⟩
  | some block =>
    let control := (List.range (entriesRead control)).foldl (fun control i => store i (block i) control) control
    (List.range (channels control)).foldl (serveChannel answers) ⟨control, false, false⟩

/-- The control block must be what it was. -/
def checkHeader (header : Option (List Nat)) (control : Control) : Control :=
  if control.rttFound then
    if header = some control.savedCblockHeader then control else { control with rttFound := false }
  else control

/-- The time of the next poll, and the end after too many errors. -/
def adjustPolling (now : Nat) (served : Served) : Control :=
  let control := { served.control with lastPollMs := now }
  let pollMs := if served.rttBusy && !served.rttErr then control.pollMs / 2 else control.pollMs * 2 % 2 ^ 32
  let pollMs :=
    if control.rttMaxPollMs < pollMs then control.rttMaxPollMs
    else if pollMs < control.rttMinPollMs then control.rttMinPollMs
    else pollMs
  let control := { control with pollMs := pollMs }
  if served.rttErr then
    let pollErrs := add32 control.pollErrs 1
    let lost := control.rttMaxPollErrs ≠ 0 ∧ control.rttMaxPollErrs < pollErrs
    { control with pollErrs := pollErrs, rttEnabled := if lost then false else control.rttEnabled }
  else control

def pollRtt (target : Option PollAnswers) (control : Control) : Control :=
  match target with
  | none => control
  | some answers =>
    if !control.rttEnabled then control
    else if add32 control.lastPollMs control.pollMs ≤ answers.now ∨ answers.now < control.lastPollMs then
      let control := if control.rttFound then control else findRtt (some answers.find) control
      let control := checkHeader answers.header control
      let served :=
        if control.rttFound ∧ control.rttCbaddr ≠ 0 then serveChannels answers control else ⟨control, false, false⟩
      adjustPolling answers.now served
    else control

end PollRtt

section CmdRtt

/-- `strtoul` with base 0. -/
def strtoul0 (input : List Byte) : Nat :=
  let input := input.dropWhile isSpace
  let (negative, limit, input) := sign input.length input
  match hexMark limit input with
  | some (limit, rest) => strtoul 16 negative (digits 16 limit rest).1
  | none =>
    let base := if input.getD 0 0#8 = chr '0' then 8 else 10
    strtoul base negative (digits base limit input).1

/-- `strncmp` of the argument with a keyword, as far as the argument goes. -/
def abbreviates (argument : List Byte) (keyword : String) : Bool := argument.isPrefixOf (ascii keyword)

/-- A channel number from the command line. -/
def selectChannel (control : Control) (argument : List Byte) : Control :=
  let channel := strtoul0 argument
  if channel < maxRttChan then enable channel true control else control

/-- An identifier of at most 15 characters, with spaces for underscores. -/
def setIdent (argument : List Byte) : List Byte := (argument.take 15).map fun c => if c = chr '_' then chr ' ' else c

/-- What `%x` stores into a variable, if it succeeds. -/
def scanAddress (argument : List Byte) : Option Nat := (sscanf argument [.hex none]).values[0]?

def setRam (first second : List Byte) (control : Control) : Control :=
  let start := scanAddress first
  let stop := scanAddress second
  let control := { control with
    rttRamStart := start.getD control.rttRamStart, rttRamEnd := stop.getD control.rttRamEnd }
  { control with rttFlagRam := start.isSome ∧ stop.isSome ∧ control.rttRamStart < control.rttRamEnd }

/-- The commands for the search and the polling. -/
def setParameters (command : List Byte) (rest : List (List Byte)) (control : Control) : Control :=
  match rest with
  | [] => if abbreviates command "ram" then { control with rttFlagRam := false } else control
  | [name] => if abbreviates command "ident" then { control with rttIdent := setIdent name } else control
  | [start, stop] => if abbreviates command "ram" then setRam start stop control else control
  | [maxMs, minMs, maxErrs] =>
    if abbreviates command "poll" then
      { control with rttMaxPollMs := strtoul0 maxMs, rttMinPollMs := strtoul0 minMs, rttMaxPollErrs := strtoul0 maxErrs }
    else control
  | _ => control

/-- The arguments behind the name of the command; the texts that it prints are left out. -/
def cmdRtt (arguments : List (List Byte)) (control : Control) : Control :=
  match arguments with
  | [] => clearChannels { control with rttEnabled := true, rttFound := false }
  | command :: rest =>
    if rest = [] ∧ abbreviates command "enabled" then
      clearChannels { control with rttEnabled := true, rttFound := false }
    else if rest = [] ∧ abbreviates command "disabled" then { control with rttEnabled := false, rttFound := false }
    else if rest = [] ∧ abbreviates command "status" then
      (List.range maxRttChan).foldl (fun control i => touch i control) control
    else if abbreviates command "channel" then
      let control := enableNone control
      if rest = [] then { control with rttAutoChannel := true }
      else rest.foldl selectChannel { control with rttAutoChannel := false }
    else if rest = [] ∧ abbreviates command "ident" then { control with rttIdent := [] }
    else if rest = [] ∧ abbreviates command "poll" then control
    else if rest = [] ∧ abbreviates command "cblock" then
      (List.range (channels control)).foldl (fun control i => touch i control) control
    else setParameters command rest control

end CmdRtt

/-- What can happen: the search, a poll, a reset of the target by the debugger, or a command. -/
inductive Event where
  | find (target : Option FindAnswers)
  | poll (target : Option PollAnswers)
  | reset
  | command (arguments : List (List Byte))

def step (control : Control) : Event → Control
  | .find target => findRtt target control
  | .poll target => pollRtt target control
  | .reset => { control with rttFound := false }
  | .command arguments => cmdRtt arguments control

def run (control : Control) (events : List Event) : Control := events.foldl step control

end BlackMagic.RttControl
