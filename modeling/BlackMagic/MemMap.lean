import BlackMagic.Lib.Print
import BlackMagic.Server

/-! The memory map of a target as a document (`target_mem_map`): what is left of the buffer is
worked out from an offset that grows by the whole length of each text, whether it fits or not. -/

namespace BlackMagic.MemMap
open Lib.Print Server

structure TargetRam where
  start : BitVec 32
  length : BitVec 32

structure TargetFlash where
  start : BitVec 32
  length : BitVec 32
  blocksize : BitVec 32

structure Target where
  ram : List TargetRam
  flash : List TargetFlash

/-- `%08x`. -/
def printHexLower8 (value : Nat) : List Byte :=
  List.replicate (8 - (printHexLower value).length) (chr '0') ++ printHexLower value

def ramText (ram : TargetRam) : List Byte :=
  ascii "<memory type=\"ram\" start=\"0x" ++ printHexLower8 ram.start.toNat ++ ascii "\" length=\"0x" ++
    printHexLower ram.length.toNat ++ ascii "\"/>"

def flashText (flash : TargetFlash) : List Byte :=
  ascii "<memory type=\"flash\" start=\"0x" ++ printHexLower8 flash.start.toNat ++ ascii "\" length=\"0x" ++
    printHexLower flash.length.toNat ++ ascii "\">"

def blocksizeText (flash : TargetFlash) : List Byte :=
  ascii "<property name=\"blocksize\">0x" ++ printHexLower flash.blocksize.toNat ++ ascii "</property></memory>"

def mapRam (buf len : Nat) (ram : TargetRam) (memory : Memory) : Nat × Memory := snprintf buf len (ramText ram) memory

def mapFlash (buf len : Nat) (flash : TargetFlash) (memory : Memory) : Nat × Memory :=
  let first := snprintf buf (left len 0) (flashText flash) memory
  let second := snprintf (buf + first.1) (left len first.1) (blocksizeText flash) first.2
  (first.1 + second.1, second.2)

/-- The loop over the regions of one kind. -/
def mapEach {α : Type} (map : Nat → Nat → α → Memory → Nat × Memory) (len : Nat) (regions : List α)
    (printed : Nat × Memory) : Nat × Memory :=
  regions.foldl (fun printed region =>
    let mapped := map printed.1 (left len printed.1) region printed.2
    (printed.1 + mapped.1, mapped.2)) printed

def targetMemMap (target : Target) (tmp : Buffer) (len : Nat) : Bool × Memory :=
  let opening := snprintf 0 (left len 0) (ascii "<memory-map>") ⟨tmp, []⟩
  let ram := mapEach mapRam len target.ram opening
  let flash := mapEach mapFlash len target.flash ram
  let closing := snprintf flash.1 (left len flash.1) (ascii "</memory-map>") flash.2
  (decide (flash.1 + closing.1 < left len 1), closing.2)

end BlackMagic.MemMap
