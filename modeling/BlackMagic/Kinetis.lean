import BlackMagic.Flash

/-! The flash drivers for the Kinetis (`kinetis.c`) and KE04 (`nxpke04.c`) parts, and the controller that they give their
commands to. The byte of the program flash that decides whether a part comes up secured gets a treatment of its own. -/

namespace BlackMagic.Kinetis
open Flash Lib.Words

/-- What the flash controller answers: FSTAT at the end of each command, and whether the driver could wait for it before. -/
structure Controller where
  fstat : Nat → Byte
  waits : Nat → Bool

/-- The program flash, how often each byte of it has been erased, and how many commands the controller has been given. -/
structure Device where
  memory : Nat → Byte
  erasures : Nat → Nat
  commands : Nat

def flashSecurityByteUnsecured : Byte := 0xfe

section Memory

/-- Programming clears bits. -/
def program (addr : Nat) (data : List Byte) (device : Device) : Device :=
  { device with
    memory := fun a => if addr ≤ a then device.memory a &&& data[a - addr]?.getD 0xff#8 else device.memory a }

def eraseSector (sector addr : Nat) (device : Device) : Device :=
  { device with
    memory := fun a => if a / sector = addr / sector then 0xff#8 else device.memory a
    erasures := fun a => if a / sector = addr / sector then device.erasures a + 1 else device.erasures a }

/-- `target_mem_read`. -/
def readBytes (memory : Nat → Byte) (addr len : Nat) : List Byte := (List.range len).map fun j => memory (addr + j)

/-- The caller's data, with the byte that leaves the part unsecured. -/
def patched (unsafeEnabled : Bool) (securityByte dest : Nat) (src : List Byte) : List Byte :=
  if !unsafeEnabled && decide (dest ≤ securityByte) && decide (securityByte < add32 dest src.length) then
    src.set (securityByte - dest) flashSecurityByteUnsecured
  else src

/-- A loop over `len` bytes in steps, up to the first command that is refused. -/
def commandLoop (command : Nat → Device → Bool × Device) (step : Nat) : Nat → Nat → Nat → Device → Bool × Device
  | 0, _, _, device => (true, device)
  | fuel + 1, offset, len, device =>
    if len = 0 then (true, device)
    else
      let done := command offset device
      if !done.1 then (false, done.2)
      else commandLoop command step fuel (offset + step) (if step < len then len - step else 0) done.2

end Memory

section Kinetis

def flashSecurityByteAddress : Nat := 0x40c
def ftfxFstatAccerr : Byte := 1 <<< 5
def ftfxFstatFpviol : Byte := 1 <<< 4
def ftfxFstatMgstat0 : Byte := 1 <<< 0

/-- A command that the controller accepts may still go wrong, and then changes nothing. -/
def carryOut (failed : Bool) (execute : Device → Device) (device : Device) : Device :=
  let device := if failed then device else execute device
  { device with commands := device.commands + 1 }

/-- A command, with the low 24 bits of the address. Whether it went wrong is not looked at. -/
def kinetisFccobCmd (controller : Controller) (addr : Nat) (execute : Nat → Device → Device) (device : Device) :
    Bool × Device :=
  let fstat := controller.fstat device.commands
  let refused := fstat &&& (ftfxFstatAccerr ||| ftfxFstatFpviol) ≠ 0
  let failed := fstat &&& ftfxFstatMgstat0 ≠ 0
  (decide ¬refused, carryOut (refused ∨ failed) (execute (addr % 2 ^ 24)) device)

def kinetisFlashCmdErase (controller : Controller) (blocksize addr len : Nat) (device : Device) : Bool × Device :=
  commandLoop (fun offset => kinetisFccobCmd controller (add32 addr offset) (eraseSector blocksize)) blocksize len 0 len
    device

/-- The phrases of 8 bytes, or longwords of 4. -/
def kinetisFlashCmdWrite (unsafeEnabled : Bool) (controller : Controller) (writeLen dest : Nat) (src : List Byte)
    (device : Device) : Bool × Device :=
  let src := patched unsafeEnabled flashSecurityByteAddress dest src
  commandLoop (fun offset => kinetisFccobCmd controller (add32 dest offset) fun addr =>
    program addr ((src.drop offset).take writeLen)) writeLen src.length 0 src.length device

def k64WriteLen : Nat := 8
def klWriteLen : Nat := 4

/-- The result of the command is not looked at. -/
def kinetisFlashDone (unsafeEnabled : Bool) (controller : Controller) (writeLen : Nat) (device : Device) : Bool × Device :=
  if unsafeEnabled then (true, device)
  else if device.memory flashSecurityByteAddress = flashSecurityByteUnsecured then (true, device)
  else if writeLen = k64WriteLen then
    let vals := (readBytes device.memory (flashSecurityByteAddress - 4) 8).set 4 flashSecurityByteUnsecured
    (true, (kinetisFccobCmd controller (flashSecurityByteAddress - 4) (program · vals) device).2)
  else
    let val := (readBytes device.memory flashSecurityByteAddress 4).set 0 flashSecurityByteUnsecured
    (true, (kinetisFccobCmd controller flashSecurityByteAddress (program · val) device).2)

end Kinetis

section Ke04

def ke04SecurityByteAddress : Nat := 0x40e
def ke04SecurityWordAddress : Nat := 0x40c
def ftmreFstatAccerr : Byte := 0x20
def ftmreFstatFpviol : Byte := 0x10
def ftmreFstatMgstat1 : Byte := 0x02
def ftmreFstatMgstat0 : Byte := 0x01
def ke04WriteLen : Nat := 8
def ke04SectorSize : Nat := 0x200

def ke04Command (controller : Controller) (addr : Nat) (execute : Nat → Device → Device) (device : Device) :
    Bool × Device :=
  if !controller.waits device.commands then (false, carryOut true id device)
  else
    let fstat := controller.fstat device.commands
    let refused := fstat &&& (ftmreFstatAccerr ||| ftmreFstatFpviol) ≠ 0
    let failed := fstat &&& (ftmreFstatMgstat1 ||| ftmreFstatMgstat0) ≠ 0
    (decide ¬refused, carryOut (refused ∨ failed) (execute (addr % 2 ^ 24)) device)

def ke04FlashErase (controller : Controller) (blocksize addr len : Nat) (device : Device) : Bool × Device :=
  commandLoop (fun offset => ke04Command controller (add32 addr offset) (eraseSector blocksize)) blocksize len 0 len device

def ke04FlashWrite (unsafeEnabled : Bool) (controller : Controller) (dest : Nat) (src : List Byte) (device : Device) :
    Bool × Device :=
  let src := patched unsafeEnabled ke04SecurityByteAddress dest src
  commandLoop (fun offset => ke04Command controller (add32 dest offset) fun addr =>
    program addr ((src.drop offset).take ke04WriteLen)) ke04WriteLen src.length 0 src.length device

def ke04FlashDone (unsafeEnabled : Bool) (controller : Controller) (device : Device) : Bool × Device :=
  if unsafeEnabled || device.memory ke04SecurityByteAddress = flashSecurityByteUnsecured then (true, device)
  else
    let vals := (readBytes device.memory ke04SecurityWordAddress 4).set 2 flashSecurityByteUnsecured
    ke04Command controller ke04SecurityWordAddress (program · vals) device

end Ke04

section Parts

inductive Driver where
  | kinetis (writeLen : Nat)
  | ke04
  deriving DecidableEq, Repr

/-- A part, with the regions that its probe registers. -/
structure Part where
  driver : Driver
  list : List TargetFlash
  deriving DecidableEq, Repr

/-- `kinetis_add_flash` for each place and sector size; the region of the KE04 has the same fields. -/
def addRegions (places : List (Nat × Nat × Nat)) : List TargetFlash :=
  places.foldl (fun list (start, length, erasesize) =>
    targetAddFlash ⟨start, length, erasesize, 0, 0, 0xff#8, false, true⟩ list) []

def kinetisPart (writeLen : Nat) (places : List (Nat × Nat × Nat)) : Part := ⟨.kinetis writeLen, addRegions places⟩

def klS32k14Setup (flashSize flexmemSize : Nat) : Part :=
  kinetisPart k64WriteLen [(0, flashSize, 0x1000), (0x10000000, flexmemSize, 0x1000)]

/-- What `kinetis_probe` and `ke04_probe` recognise. -/
def parts : List Part :=
  [kinetisPart klWriteLen [(0, 0x8000, 0x400)],
    kinetisPart klWriteLen [(0, 0x10000, 0x400)],
    kinetisPart klWriteLen [(0, 0x20000, 0x400)],
    kinetisPart klWriteLen [(0, 0x40000, 0x400)],
    kinetisPart klWriteLen [(0, 0x7fff, 0x400)],
    kinetisPart klWriteLen [(0, 0x3fff, 0x400)],
    kinetisPart klWriteLen [(0, 0x1fff, 0x400)],
    kinetisPart klWriteLen [(0, 0x40000, 0x800), (0x40000, 0x40000, 0x800)],
    kinetisPart k64WriteLen [(0, 0x80000, 0x1000), (0x80000, 0x80000, 0x1000)],
    kinetisPart klWriteLen [(0, 0x20000, 0x800), (0x10000000, 0x10000, 0x800)],
    kinetisPart klWriteLen [(0, 0x40000, 0x800), (0x10000000, 0x10000, 0x800)],
    kinetisPart k64WriteLen [(0, 0x40000, 0x800), (0x10000000, 0x8000, 0x800)],
    klS32k14Setup 0x40000 0x10000,
    klS32k14Setup 0x80000 0x10000,
    klS32k14Setup 0x100000 0x10000,
    klS32k14Setup 0x180000 0x80000,
    ⟨.ke04, addRegions [(0, 0x2000, ke04SectorSize)]⟩,
    ⟨.ke04, addRegions [(0, 0x10000, ke04SectorSize)]⟩,
    ⟨.ke04, addRegions [(0, 0x20000, ke04SectorSize)]⟩]

namespace Part

variable (part : Part) (unsafeEnabled : Bool) (controller : Controller)

def regions : Regions := ⟨part.list⟩

def securityByteAddress : Nat :=
  match part.driver with
  | .kinetis _ => flashSecurityByteAddress
  | .ke04 => ke04SecurityByteAddress

/-- What the driver does with a call, and what it answers. -/
def handle (call : Call) (device : Device) : Bool × Device :=
  match part.driver, call with
  | .kinetis _, .erase i addr len => kinetisFlashCmdErase controller (part.regions.flash i).blocksize addr len device
  | .kinetis writeLen, .write _ dest _ src => kinetisFlashCmdWrite unsafeEnabled controller writeLen dest src device
  | .kinetis writeLen, .done _ => kinetisFlashDone unsafeEnabled controller writeLen device
  | .ke04, .erase i addr len => ke04FlashErase controller (part.regions.flash i).blocksize addr len device
  | .ke04, .write _ dest _ src => ke04FlashWrite unsafeEnabled controller dest src device
  | .ke04, .done _ => ke04FlashDone unsafeEnabled controller device
  | _, _ => (true, device)

def after (device : Device) (calls : List Call) : Device :=
  calls.foldl (fun device call => (part.handle unsafeEnabled controller call device).2) device

/-- The driver on a device, with any heap. The target has no flash mode of its own, and it can be reset. -/
def environment (device : Device) (heap : List Call → Bool) (garbage : List Call → Buffer) : Environment where
  enterFlashMode := false
  exitFlashMode := false
  reset := true
  answer calls :=
    match calls.getLast? with
    | some (.malloc _) => heap calls
    | some call => (part.handle unsafeEnabled controller call (part.after unsafeEnabled controller device calls.dropLast)).1
    | none => true
  garbage := garbage

end Part

end Parts

end BlackMagic.Kinetis
