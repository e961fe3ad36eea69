import BlackMagic.Flash

/-! How drivers register their flash (`samd.c`, `samx5x.c`, `efm32.c`, `sam3x.c`,
`nrf51.c`, `stm32f1.c`). A field that a routine does not set is zero, as `calloc`
leaves it. -/

namespace BlackMagic.FlashDrivers
open BlackMagic.Flash

def calloc : TargetFlash := ⟨0, 0, 0, 0, 0, 0, false, false⟩

def samdRowSize : Nat := 256
def samdPageSize : Nat := 64
def samx5xPageSize : Nat := 512
def samx5xBlockSize : Nat := samx5xPageSize * 16
def samSmallPageSize : Nat := 256
def samLargePageSize : Nat := 512

def samdAddFlash (addr length : Nat) : List TargetFlash → List TargetFlash :=
  targetAddFlash { calloc with start := addr, length := length, blocksize := samdRowSize, writesize := samdPageSize }

def samx5xAddFlash (addr length eraseBlockSize writePageSize : Nat) : List TargetFlash → List TargetFlash :=
  targetAddFlash { calloc with start := addr, length := length, blocksize := eraseBlockSize, writesize := writePageSize }

def efm32AddFlash (addr length pageSize : Nat) : List TargetFlash → List TargetFlash :=
  targetAddFlash { calloc with start := addr, length := length, blocksize := pageSize, writesize := pageSize }

def sam3AddFlash (addr length : Nat) : List TargetFlash → List TargetFlash :=
  targetAddFlash
    { calloc with start := addr, length := length, blocksize := samSmallPageSize, writesize := samSmallPageSize }

def samAddFlash (addr length : Nat) : List TargetFlash → List TargetFlash :=
  targetAddFlash
    { calloc with start := addr, length := length, blocksize := samLargePageSize * 8, writesize := samLargePageSize }

def nrf51AddFlash (addr length erasesize : Nat) : List TargetFlash → List TargetFlash :=
  targetAddFlash
    { calloc with
      start := addr, length := length, blocksize := erasesize, writesize := min erasesize 1024, prepare := true, done := true
      erased := 0xff#8 }

def stm32f1AddFlash (addr length erasesize : Nat) : List TargetFlash → List TargetFlash :=
  targetAddFlash
    { calloc with start := addr, length := length, blocksize := erasesize, writesize := 1024, erased := 0xff#8 }

/-- A registration routine, with the sizes that its caller passes for all regions of a part. -/
inductive Driver where
  | samd
  | samx5x (eraseBlockSize writePageSize : Nat)
  | efm32 (pageSize : Nat)
  | sam3
  | sam
  | nrf51 (erasesize : Nat)
  | stm32f1 (erasesize : Nat)
  deriving DecidableEq, Repr

def Driver.addFlash (driver : Driver) (addr length : Nat) : List TargetFlash → List TargetFlash :=
  match driver with
  | .samd => samdAddFlash addr length
  | .samx5x eraseBlockSize writePageSize => samx5xAddFlash addr length eraseBlockSize writePageSize
  | .efm32 pageSize => efm32AddFlash addr length pageSize
  | .sam3 => sam3AddFlash addr length
  | .sam => samAddFlash addr length
  | .nrf51 erasesize => nrf51AddFlash addr length erasesize
  | .stm32f1 erasesize => stm32f1AddFlash addr length erasesize

/-- The flash list of a part, from the places of its regions. -/
def Driver.register (driver : Driver) : List (Nat × Nat) → List TargetFlash
  | [] => []
  | (addr, length) :: places => driver.addFlash addr length (driver.register places)

/-- The routines that set `erased`. -/
def Driver.setsErased : Driver → Bool
  | .nrf51 _ => true
  | .stm32f1 _ => true
  | _ => false

end BlackMagic.FlashDrivers
