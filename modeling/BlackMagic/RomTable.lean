import BlackMagic.Adiv5

/-! The walk through the ROM tables of an access port (`adiv5_component_probe`) over the memory of the target, whose
content stays the same during the walk. -/

namespace BlackMagic.RomTable
open Adiv5

/-- The memory as the access port reads it, word by word; a fault leaves an error behind. -/
structure TargetMemory where
  word : BitVec 32 → BitVec 32
  faults : BitVec 32 → Bool

def cidr0Offset : BitVec 32 := 0xff0
def pidr0Offset : BitVec 32 := 0xfe0
def pidr4Offset : BitVec 32 := 0xfd0
def devtypeOffset : BitVec 32 := 0xfcc
def devarchOffset : BitVec 32 := 0xfbc
def samx5xDsuCtrlstat : BitVec 32 := 0x41002100
def romRomentryOffset : BitVec 32 := 0xfffff000
def cidPreamble : BitVec 32 := 0xb105000d
def cidClassMask : BitVec 32 := 0x0000f000
def cidcRomtab : BitVec 32 := 1
def cidcDc : BitVec 32 := 9

/-- A component the walk has been at: the addresses on the way to it, its own the last, and the probe that was run. -/
structure Visit where
  path : List (BitVec 32)
  probed : Option ArmArch

variable (memory : TargetMemory) (armComponentLut : List Component)

/-- The four words of an identification. -/
def idWords (addr : BitVec 32) : List (BitVec 32) := [addr, addr + 4, addr + 8, addr + 12]

def adiv5ApReadId (addr : BitVec 32) : BitVec 32 :=
  let data := fun word => (memory.word word).extractLsb' 0 8
  data (addr + 12) ++ data (addr + 8) ++ data (addr + 4) ++ data addr

/-- Whether the read of an identification leaves an error. -/
def idFaults (addr : BitVec 32) : Bool := (idWords addr).any memory.faults

def adiv5ApReadPidr (addr : BitVec 32) : BitVec 64 :=
  adiv5ApReadId memory (addr + pidr4Offset) ++ adiv5ApReadId memory (addr + pidr0Offset)

/-- The component identification, if it can be read and has the preamble. -/
def cidClass (addr : BitVec 32) : Option (BitVec 32) :=
  let cidr := adiv5ApReadId memory (addr + cidr0Offset)
  if idFaults memory (addr + cidr0Offset) then none
  else if cidr &&& ~~~cidClassMask ≠ cidPreamble then none
  else some ((cidr &&& cidClassMask) >>> 12)

def partNumber (pidr : BitVec 64) : Nat := (pidr &&& 0xfff#64).toNat

/-- A SAMx5x part whose table says that it is protected. -/
def samx5xProtected (pidr : BitVec 64) : Bool :=
  designerCode pidr = jep106ManufacturerAtmel ∧ partNumber pidr = 0xcd0 ∧
    memory.word samx5xDsuCtrlstat &&& (1#32 <<< 16) ≠ 0

/-- The entries of a table from one on, with the probe of an entry. -/
def tableEntries (probeEntry : BitVec 32 → Option (List Visit)) (addr : BitVec 32) : Nat → Nat → Option (List Visit)
  | 0, _ => some []
  | remaining + 1, i =>
    let entry := memory.word (addr + BitVec.ofNat 32 i * 4)
    if memory.faults (addr + BitVec.ofNat 32 i * 4) then some []
    else if entry = 0 then some []
    else if entry &&& 1#32 = 0 then tableEntries probeEntry addr remaining (i + 1)
    else
      match probeEntry (addr + (entry &&& romRomentryOffset)) with
      | none => none
      | some visits => (tableEntries probeEntry addr remaining (i + 1)).map (visits ++ ·)

/-- The probe that is run for a component that is not a table. -/
def leafArch (addr : BitVec 32) (cidClass : BitVec 32) (pidr : BitVec 64) : Option ArmArch :=
  let designer := designerCode pidr
  if designer ≠ jep106ManufacturerArm ∧ designer ≠ jep106ManufacturerArmChina then none
  else
    let devarch := memory.word (addr + devarchOffset)
    let devType := if cidClass = cidcDc then (memory.word (addr + devtypeOffset) &&& 0xff#32).toNat else 0
    let archId := if cidClass = cidcDc ∧ devarch &&& (1#32 <<< 20) ≠ 0 then (devarch &&& 0xffff#32).toNat else 0
    match (armComponentLut.find? fun row =>
        row.partNumber = partNumber pidr ∧ row.devType = devType ∧ row.archId = archId).map Component.arch with
    | some .cortexm => some .cortexm
    | some .cortexa => some .cortexa
    | _ => none

/-- The probe, with the addresses of the tables around the component; `recursion` is how many these are. There is no
result if tables go deeper than `levels`. -/
def adiv5ComponentProbe : Nat → List (BitVec 32) → BitVec 32 → Option (List Visit)
  | 0, _, _ => none
  | levels + 1, outer, address =>
    let recursion := outer.length
    let addr := address &&& 0xfffff000#32
    let path := outer ++ [addr]
    if addr = 0 then some []
    else
      match cidClass memory addr with
      | none => some [⟨path, none⟩]
      | some cidClass =>
        let pidr := adiv5ApReadPidr memory addr
        if cidClass = cidcRomtab then
          if recursion = 0 ∧ samx5xProtected memory pidr then some [⟨path, some .cortexm⟩]
          else (tableEntries memory (adiv5ComponentProbe levels path) addr 960 0).map (⟨path, none⟩ :: ·)
        else some [⟨path, leafArch memory armComponentLut addr cidClass pidr⟩]

end BlackMagic.RomTable
