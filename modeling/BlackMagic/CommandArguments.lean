import BlackMagic.Commands
import BlackMagic.Lib.Scan
import BlackMagic.Lib.Tokens

/-! How monitor commands use their arguments (`command.c` and the command tables of the target drivers): the tokens that
are stored, and the places of `argv` that are read, by `command_process` itself and by the handlers. What a handler does
besides is left out, and what it asks the target is a field of the target. -/

namespace BlackMagic.CommandArguments
open Commands Targets Lib.Scan Lib.Tokens

/-- The global handlers, and those of the tables of the drivers. -/
inductive Handler where
  | cmdVersion | cmdHelp | cmdJtagScan | cmdSwdScan | cmdRvswdScan | cmdAutoScan | cmdFrequency | cmdTargets | cmdMorse
  | cmdHaltTimeout | cmdConnectReset | cmdReset | scanUartBootMode | uartSend | cmdTdiLowReset | cmdTargetPower | cmdRtt
  | cmdTraceswo | cmdHeapinfo | cmdDebugBmp
  | targetCmdMassErase | targetCmdRangeErase
  | cortexmVectorCatch | cortexmRedirectStdout
  | stm32h7CmdPsize | stm32h7Uid | stm32h7Crc | stm32h7CmdRev
  | rpCmdEraseSector | rpCmdResetUsbBoot
  | lpc15xxReadUid | lpc55xxReadUid | lpc11xxReadUid | renesasUid
  | kinetisCmdUnsafe | kinetisMdmCmdKe04Mode | ke04CmdSectorErase
  | stm32h5CmdUid | stm32h5CmdRev
  | stm32l4CmdEraseBank1 | stm32l4CmdEraseBank2 | stm32l4CmdOption
  | samdCmdLockFlash | samdCmdUnlockFlash | samdCmdLockBootprot | samdCmdUnlockBootprot | samdCmdReadUserrow | samdCmdSerial
  | samdCmdMbist | samdCmdSsb
  | samx5xCmdLockFlash | samx5xCmdUnlockFlash | samx5xCmdLockBootprot | samx5xCmdUnlockBootprot | samx5xCmdReadUserpage
  | samx5xCmdSerial | samx5xCmdSsb | samx5xCmdUpdateUserWord | samx5xCmdMbist | samx5xCmdWrite8 | samx5xCmdWrite16
  | samx5xCmdWrite32
  | lpc546xxCmdEraseSector | lpc546xxCmdReadPartid | lpc546xxCmdReadUid | lpc546xxCmdResetAttach | lpc546xxCmdReset
  | lpc546xxCmdWriteSector
  | stm32f1CmdOption
  | nrf51CmdEraseUicr | nrf51CmdProtectFlash | nrf51CmdRead
  | stm32g0CmdEraseBank | stm32g0CmdOption | stm32g0CmdIrreversible
  | msp432CmdEraseMain | msp432CmdSectorErase
  | lpc43xxCmdReset | lpc43xxCmdMkboot
  | efm32CmdSerial | efm32CmdEfmInfo | efm32CmdBootloader
  | stm32lxCmdOption | stm32lxCmdEeprom
  | stm32f4CmdOption | stm32f4CmdPsize
  | samCmdGpnvm
  deriving DecidableEq, Repr

section Tables

/-- What a build of the firmware may leave out. -/
structure Options where
  powerSwitch : Bool
  rtt : Bool
  traceswo : Bool
  /-- `TRACESWO_PROTOCOL == 2`. -/
  traceswoAsync : Bool
  debug : Bool
  samx5xExtra : Bool

abbrev CommandTable := List (String × Handler)

def cmdList (options : Options) : CommandTable :=
  let general : CommandTable :=
    [("version", .cmdVersion), ("help", .cmdHelp), ("jtag_scan", .cmdJtagScan), ("swd_scan", .cmdSwdScan),
      ("swdp_scan", .cmdSwdScan), ("rvswd_scan", .cmdRvswdScan), ("auto_scan", .cmdAutoScan), ("frequency", .cmdFrequency),
      ("targets", .cmdTargets), ("morse", .cmdMorse), ("halt_timeout", .cmdHaltTimeout), ("connect_rst", .cmdConnectReset),
      ("reset", .cmdReset), ("uart_scan", .scanUartBootMode), ("uart_send", .uartSend),
      ("tdi_low_reset", .cmdTdiLowReset)]
  let power : CommandTable := if options.powerSwitch then [("tpwr", .cmdTargetPower)] else []
  let rtt : CommandTable := if options.rtt then [("rtt", .cmdRtt)] else []
  let traceswo : CommandTable := if options.traceswo then [("traceswo", .cmdTraceswo)] else []
  let heapinfo : CommandTable := [("heapinfo", .cmdHeapinfo)]
  let debug : CommandTable := if options.debug then [("debug_bmp", .cmdDebugBmp)] else []
  general ++ power ++ rtt ++ traceswo ++ heapinfo ++ debug

def targetCmdList : CommandTable := [("erase_mass", .targetCmdMassErase), ("erase_range", .targetCmdRangeErase)]
def cortexmCmdList : CommandTable := [("vector_catch", .cortexmVectorCatch), ("redirect_stdout", .cortexmRedirectStdout)]

def stm32h7CmdList : CommandTable :=
  [("psize", .stm32h7CmdPsize), ("uid", .stm32h7Uid), ("crc", .stm32h7Crc), ("revision", .stm32h7CmdRev)]

def rpCmdList : CommandTable := [("erase_sector", .rpCmdEraseSector), ("reset_usb_boot", .rpCmdResetUsbBoot)]
def lpc15xxCmdList : CommandTable := [("readuid", .lpc15xxReadUid)]
def lpc55xxCmdList : CommandTable := [("readuid", .lpc55xxReadUid)]
def renesasCmdList : CommandTable := [("uid", .renesasUid)]
def kinetisCmdList : CommandTable := [("unsafe", .kinetisCmdUnsafe)]
def kinetisMdmCmdList : CommandTable := [("ke04_mode", .kinetisMdmCmdKe04Mode)]
def stm32h5CmdList : CommandTable := [("uid", .stm32h5CmdUid), ("revision", .stm32h5CmdRev)]
def lpc11xxCmdList : CommandTable := [("readuid", .lpc11xxReadUid)]

def stm32l4CmdList : CommandTable :=
  [("erase_bank1", .stm32l4CmdEraseBank1), ("erase_bank2", .stm32l4CmdEraseBank2), ("option", .stm32l4CmdOption)]

def samdCmdList : CommandTable :=
  [("lock_flash", .samdCmdLockFlash), ("unlock_flash", .samdCmdUnlockFlash), ("lock_bootprot", .samdCmdLockBootprot),
    ("unlock_bootprot", .samdCmdUnlockBootprot), ("user_row", .samdCmdReadUserrow), ("serial", .samdCmdSerial),
    ("mbist", .samdCmdMbist), ("set_security_bit", .samdCmdSsb)]

def samx5xCmdList (options : Options) : CommandTable :=
  let general : CommandTable :=
    [("lock_flash", .samx5xCmdLockFlash), ("unlock_flash", .samx5xCmdUnlockFlash),
      ("lock_bootprot", .samx5xCmdLockBootprot), ("unlock_bootprot", .samx5xCmdUnlockBootprot),
      ("user_page", .samx5xCmdReadUserpage), ("serial", .samx5xCmdSerial), ("set_security_bit", .samx5xCmdSsb),
      ("update_user_word", .samx5xCmdUpdateUserWord)]
  let extra : CommandTable :=
    [("mbist", .samx5xCmdMbist), ("write8", .samx5xCmdWrite8), ("write16", .samx5xCmdWrite16),
      ("write32", .samx5xCmdWrite32)]
  general ++ if options.samx5xExtra then extra else []

def lpc546xxCmdList : CommandTable :=
  [("erase_sector", .lpc546xxCmdEraseSector), ("read_partid", .lpc546xxCmdReadPartid),
    ("read_uid", .lpc546xxCmdReadUid), ("reset_attach", .lpc546xxCmdResetAttach), ("reset", .lpc546xxCmdReset),
    ("write_sector", .lpc546xxCmdWriteSector)]

def stm32f1CmdList : CommandTable := [("option", .stm32f1CmdOption)]

def nrf51CmdList : CommandTable :=
  [("erase_uicr", .nrf51CmdEraseUicr), ("protect_flash", .nrf51CmdProtectFlash), ("read", .nrf51CmdRead)]

def stm32g0CmdList : CommandTable :=
  [("erase_bank 1|2", .stm32g0CmdEraseBank), ("option", .stm32g0CmdOption), ("irreversible", .stm32g0CmdIrreversible)]

def msp432CmdList : CommandTable := [("erase", .msp432CmdEraseMain), ("sector_erase", .msp432CmdSectorErase)]
def lpc43xxCmdList : CommandTable := [("reset", .lpc43xxCmdReset), ("mkboot", .lpc43xxCmdMkboot)]

def efm32CmdList : CommandTable :=
  [("serial", .efm32CmdSerial), ("efm_info", .efm32CmdEfmInfo), ("bootloader", .efm32CmdBootloader)]

def stm32lxCmdList : CommandTable := [("option", .stm32lxCmdOption), ("eeprom", .stm32lxCmdEeprom)]
def stm32f4CmdList : CommandTable := [("option", .stm32f4CmdOption), ("psize", .stm32f4CmdPsize)]
def keCmdList : CommandTable := [("unsafe", .kinetisCmdUnsafe), ("sector_erase", .ke04CmdSectorErase)]
def samCmdList : CommandTable := [("gpnvm", .samCmdGpnvm)]

/-- The tables that drivers add to a target. -/
inductive Table where
  | target | cortexm | stm32h7 | rp | lpc15xx | lpc55xx | renesas | kinetis | kinetisMdm | stm32h5 | lpc11xx | stm32l4 | samd
  | samx5x | lpc546xx | stm32f1 | nrf51 | stm32g0 | msp432 | lpc43xx | efm32 | stm32lx | stm32f4 | ke | sam
  deriving DecidableEq, Repr

def Table.cmds (options : Options) : Table → CommandTable
  | .target => targetCmdList
  | .cortexm => cortexmCmdList
  | .stm32h7 => stm32h7CmdList
  | .rp => rpCmdList
  | .lpc15xx => lpc15xxCmdList
  | .lpc55xx => lpc55xxCmdList
  | .renesas => renesasCmdList
  | .kinetis => kinetisCmdList
  | .kinetisMdm => kinetisMdmCmdList
  | .stm32h5 => stm32h5CmdList
  | .lpc11xx => lpc11xxCmdList
  | .stm32l4 => stm32l4CmdList
  | .samd => samdCmdList
  | .samx5x => samx5xCmdList options
  | .lpc546xx => lpc546xxCmdList
  | .stm32f1 => stm32f1CmdList
  | .nrf51 => nrf51CmdList
  | .stm32g0 => stm32g0CmdList
  | .msp432 => msp432CmdList
  | .lpc43xx => lpc43xxCmdList
  | .efm32 => efm32CmdList
  | .stm32lx => stm32lxCmdList
  | .stm32f4 => stm32f4CmdList
  | .ke => keCmdList
  | .sam => samCmdList

end Tables

section Calls

/-- The tables of a target, and what its handlers ask it before they look at further arguments. -/
structure Target where
  commands : List Table
  /-- `FLASH_OBR_RDPRT`, and whether the Flash can be unlocked (STM32F1). -/
  readProtected : Bool
  flashUnlocks : Bool
  /-- The option words of a part that has them (STM32L4). -/
  optionWords : Option Nat
  /-- Whether the NVM can be unlocked, and the size of its EEPROM (STM32L0, L1). -/
  nvmUnlocks : Bool
  eepromSize : Nat
  /-- Whether there is a bootloader (EFM32). -/
  bootloader : Bool
  /-- The GPNVM bits that a known driver has (SAM). -/
  gpnvmMask : Option (BitVec 32)

/-- A call of a handler: what it is given, and what lies behind the tokens in the array. -/
structure Call where
  argv : List Text
  unset : Nat → Text
  target : Option Target
  options : Options

namespace Call

def argc (call : Call) : Nat := call.argv.length

def arg (call : Call) (i : Nat) : Text := call.argv[i]?.getD (call.unset i)

/-- An answer of the target; the handlers of its tables have one. -/
def asks (call : Call) (question : Target → Bool) : Bool := call.target.any question

/-- The places from `first` on, up to that of the last argument. -/
def after (call : Call) (first : Nat) : List Nat := List.range' first (call.argc - first)

end Call

end Calls

section Library

def lower (text : Text) : Text := text.map fun c => if chr 'A' ≤ c ∧ c ≤ chr 'Z' then c + 32#8 else c

/-- Whether `strncmp` finds no difference in the first `count` characters. -/
def strncmpEqual (one two : Text) (count : Nat) : Bool := (one ++ [0#8]).take count = (two ++ [0#8]).take count

/-- `strtoul` for any base: the value, and how many characters have been used. -/
def strtoulAny (text : Text) : Nat × Nat :=
  let input := text.dropWhile isSpace
  let (negative, _, input) := sign input.length input
  let (base, input) :=
    match hexMark input.length input with
    | some (_, input) => (16, input)
    | none => (if input.head? = some (chr '0') then 8 else 10, input)
  match digits base input.length input with
  | ([], _) => (0, 0)
  | (values, rest) => (strtoul base negative values, text.length - rest.length)

end Library

section Handlers

variable (call : Call)

/-- The argument is looked at whenever there is one. -/
def optionalArgument : List Nat := if call.argc > 1 then [1] else []

/-- The argument is looked at where there is exactly one. -/
def oneArgument : List Nat := if call.argc = 2 then [1] else []

/-- The argument is looked at unless the command stands alone. -/
def argumentUnlessAlone : List Nat := if call.argc = 1 then [] else [1]

def uartSend : List Nat := call.after 1 ++ [1]

def cmdRtt : List Nat :=
  let is (keyword : String) := (call.arg 1).isPrefixOf (ascii keyword)
  if call.argc < 2 then []
  else if call.argc = 2 ∧ (is "enabled" ∨ is "disabled" ∨ is "status") then [1]
  else if is "channel" then 1 :: call.after 2
  else if call.argc = 2 then [1]
  else if call.argc = 3 ∧ is "ident" then [1, 2]
  else if call.argc = 4 ∧ is "ram" then [1, 2, 3]
  else if call.argc = 5 ∧ is "poll" then [1, 2, 3, 4]
  else [1]

def cmdTraceswo : List Nat :=
  let baudrate := call.options.traceswoAsync ∧ call.argc > 1 ∧
    (call.arg 1).head?.any fun c => chr '0' ≤ c ∧ c ≤ chr '9'
  let decodeArg := if baudrate then 2 else 1
  (if call.options.traceswoAsync ∧ call.argc > 1 then [1] else []) ++
    if call.argc > decodeArg then
      decodeArg :: if (call.arg decodeArg).isPrefixOf (ascii "decode") then call.after (decodeArg + 1) else []
    else []

def cmdHeapinfo : List Nat := if call.target.isSome ∧ call.argc = 5 then [1, 2, 3, 4] else []

def targetCmdRangeErase : List Nat := if call.argc < 3 then [] else [1, 2]

def cortexmVectorCatch : List Nat := if call.argc < 3 then [] else call.after 0 ++ [1]

def rpCmdEraseSector : List Nat := if call.argc = 3 then [1, 2] else oneArgument call

def rpCmdResetUsbBoot : List Nat := optionalArgument call ++ if call.argc > 2 then [2] else []

/-- The usage text, printed where there is no argument, does not end the handler. -/
def ke04CmdSectorErase : List Nat := [1]

def msp432CmdSectorErase : List Nat := [1]

def stm32l4CmdOption : List Nat :=
  match call.target.bind Target.optionWords with
  | none => []
  | some wordCount =>
    if call.argc = 2 then [1]
    else if call.argc > 2 then
      1 :: if call.arg 1 = ascii "write" then List.range' 2 (min (call.argc - 2) wordCount) else []
    else []

/-- Whether a number cannot be told from the text, as the SAMx5x commands see it. -/
def unrecognised (text : Text) : Bool :=
  let (value, used) := strtoulAny text
  used = 0 ∨ (value = 0 ∧ text.getD (used - 1) 0#8 ≠ chr '0')

def samx5xCmdUpdateUserWord : List Nat :=
  if call.argc < 3 ∨ call.argc > 4 then []
  else [1, 2] ++ if !unrecognised (call.arg 1) ∧ !unrecognised (call.arg 2) ∧ call.argc = 4 then [3] else []

def samx5xCmdWrite : List Nat := if call.argc = 3 then [1, 2] else []

def stm32f1CmdOption : List Nat :=
  oneArgument call ++
    if call.asks (!·.readProtected) ∧ call.asks Target.flashUnlocks ∧ call.argc = 3 then [1, 2] else []

/-- The handlers of `nrf51_read_cmd_list` do not look at arguments. -/
def nrf51CmdRead : List Nat := optionalArgument call

def stm32g0ParseCmdlineRegisters (argc : Nat) : List Nat :=
  (List.range ((argc + 1) / 2)).flatMap fun k => [2 + 2 * k, 2 + 2 * k + 1]

def stm32g0CmdOption : List Nat :=
  if call.argc = 2 then [1]
  else if call.argc > 2 ∧ call.argc % 2 = 0 then
    1 :: if lower (call.arg 1) = ascii "write" then stm32g0ParseCmdlineRegisters (call.argc - 2) else []
  else []

def efm32CmdBootloader : List Nat := if call.asks Target.bootloader then argumentUnlessAlone call else []

def stm32lxCmdOption : List Nat :=
  if call.asks Target.nvmUnlocks ∧ call.argc ≥ 2 then
    let is (keyword : String) := (lower (call.arg 1)).isPrefixOf (ascii keyword)
    1 :: if call.argc = 4 ∧ (is "raw" ∨ is "write") then [2, 3] else []
  else []

def stm32lxNvmEepromPhys : Nat := 0x8080000

def stm32lxCmdEeprom : List Nat :=
  if call.asks Target.nvmUnlocks ∧ call.argc = 4 then
    let addr := (strtoulAny (call.arg 2)).1
    [2, 3] ++ if call.asks fun target => stm32lxNvmEepromPhys ≤ addr ∧ addr < stm32lxNvmEepromPhys + target.eepromSize
      then [1] else []
  else []

def partialMatch (text : Text) (what : String) : Bool := (lower text).isPrefixOf (ascii what)

def stm32f4CmdOption : List Nat :=
  if call.argc = 2 then [1]
  else if call.argc > 2 then
    1 :: if partialMatch (call.arg 1) "write" then
      2 :: if call.argc > 3 then 3 :: (if call.argc > 4 then [4] else []) else []
    else []
  else []

def samCmdGpnvm : List Nat :=
  if call.argc ≠ 2 ∧ call.argc ≠ 4 then []
  else
    let arglen := (call.arg 1).length % 256
    match if arglen = 0 then none else call.target.bind Target.gpnvmMask with
    | none => [1]
    | some gpnvmMask =>
      if strncmpEqual (call.arg 1) (ascii "set") arglen then
        let mask := BitVec.ofNat 32 (strtoulAny (call.arg 2)).1
        if mask = 0 ∨ mask &&& ~~~gpnvmMask ≠ 0 then [1, 2] else [1, 2, 3]
      else [1]

/-- The places of `argv` that a handler reads. -/
def handlerReads : Handler → List Nat
  | .cmdSwdScan | .cmdHaltTimeout | .cmdReset | .lpc546xxCmdEraseSector | .lpc546xxCmdWriteSector => optionalArgument call
  | .cmdFrequency | .cmdConnectReset | .cmdTargetPower | .cmdDebugBmp | .samdCmdLockFlash | .samdCmdLockBootprot
  | .stm32g0CmdEraseBank | .stm32g0CmdIrreversible | .lpc43xxCmdMkboot => oneArgument call
  | .cortexmRedirectStdout | .stm32h7CmdPsize | .stm32f4CmdPsize | .kinetisCmdUnsafe => argumentUnlessAlone call
  | .uartSend => uartSend call
  | .cmdTdiLowReset => optionalArgument { call with argv := [] }
  | .cmdRtt => cmdRtt call
  | .cmdTraceswo => cmdTraceswo call
  | .cmdHeapinfo => cmdHeapinfo call
  | .targetCmdRangeErase => targetCmdRangeErase call
  | .cortexmVectorCatch => cortexmVectorCatch call
  | .rpCmdEraseSector => rpCmdEraseSector call
  | .rpCmdResetUsbBoot => rpCmdResetUsbBoot call
  | .ke04CmdSectorErase => ke04CmdSectorErase
  | .msp432CmdSectorErase => msp432CmdSectorErase
  | .stm32l4CmdOption => stm32l4CmdOption call
  | .samx5xCmdUpdateUserWord => samx5xCmdUpdateUserWord call
  | .samx5xCmdWrite8 | .samx5xCmdWrite16 | .samx5xCmdWrite32 => samx5xCmdWrite call
  | .stm32f1CmdOption => stm32f1CmdOption call
  | .nrf51CmdRead => nrf51CmdRead call
  | .stm32g0CmdOption => stm32g0CmdOption call
  | .efm32CmdBootloader => efm32CmdBootloader call
  | .stm32lxCmdOption => stm32lxCmdOption call
  | .stm32lxCmdEeprom => stm32lxCmdEeprom call
  | .stm32f4CmdOption => stm32f4CmdOption call
  | .samCmdGpnvm => samCmdGpnvm call
  | _ => []

end Handlers

section CommandProcess

def isDelimiter (c : Byte) : Bool := c = chr ' ' ∨ c = chr '\t'

/-- The first entry of a table that the first token abbreviates. -/
def abbreviated (name : Text) (table : CommandTable) : Option Handler :=
  (table.find? fun command => name.isPrefixOf (ascii command.1)).map Prod.snd

/-- The handler that a command goes to; without tokens it is the first of all. -/
def dispatch (options : Options) (target : Option Target) (argv : List Text) : Option Handler :=
  match argv with
  | [] => (cmdList options).head?.map Prod.snd
  | name :: _ =>
    match abbreviated name (cmdList options) with
    | some handler => some handler
    | none => target.bind fun target => target.commands.findSome? fun table => abbreviated name (table.cmds options)

/-- What `command_process` does with the array. -/
structure Processed where
  allocated : Nat
  call : Call
  handler : Option Handler
  reads : List Nat

def commandProcess (options : Options) (target : Option Target) (unset : Nat → Text) (cmdBuffer : Text) : Processed :=
  let text := cString cmdBuffer
  let argv := tokens isDelimiter text.length text
  let call : Call := ⟨argv, unset, target, options⟩
  let handler := dispatch options target argv
  { allocated := 1 + text.countP isDelimiter
    call := call
    handler := handler
    reads := (if argv.length = 0 then [] else [0]) ++
      (match handler with | some handler => handlerReads call handler | none => []) }

end CommandProcess

end BlackMagic.CommandArguments
