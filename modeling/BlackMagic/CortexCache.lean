import BlackMagic.Lib.Words

/-! The cache maintenance around memory accesses of a Cortex-M target (`cortexm.c`). Addresses are below 2^32, and the arithmetic
on them is that of 32 bits. -/

namespace BlackMagic.CortexCache
open Lib.Words

/-- A region of RAM, which lies in the address space. -/
structure TargetRam where
  start : Nat
  length : Nat
  begins : start < 2 ^ 32
  short : length < 2 ^ 32
  fits : start + length ≤ 2 ^ 32

def cortexCtrFormatArmv7 : Nat := 4

def cortexCtrDcacheLine (cacheType : BitVec 32) : Nat := 1 <<< ((cacheType >>> 16) &&& 0xf).toNat

/-- The line length that a probe takes from the cache type register: it stays 0 where this has another format. -/
def dcacheLineLength (cacheType : BitVec 32) : Nat :=
  if (cacheType >>> 29).toNat = cortexCtrFormatArmv7 then cortexCtrDcacheLine cacheType else 0

inductive CacheReg where
  | dccmvac
  | dccimvac
  deriving DecidableEq

/-- The loop over a region: the addresses written to the register, unless it has not ended. -/
def cleanLines (minline ramEnd : Nat) : Nat → Nat → Option (List Nat)
  | 0, _ => none
  | fuel + 1, ram => if ram < ramEnd then (cleanLines minline ramEnd fuel (add32 ram minline)).map (ram :: ·) else some []

def cleanRegion (minline addr memEnd fuel : Nat) (r : TargetRam) : Option (List Nat) :=
  let ram := r.start
  let ramEnd := add32 r.start r.length
  let ram := if ram < addr then addr else ram
  let ramEnd := if memEnd < ramEnd then memEnd else ramEnd
  cleanLines minline ramEnd fuel (alignDown ram minline)

/-- The loop over the list of regions. -/
def cleanRegions (minline addr memEnd fuel : Nat) : List TargetRam → Option (List Nat)
  | [] => some []
  | r :: next => do
    let lines ← cleanRegion minline addr memEnd fuel r
    let others ← cleanRegions minline addr memEnd fuel next
    pure (lines ++ others)

/-- All writes to the cache registers, unless a loop has not ended. -/
def cortexmCacheClean (lineLength : Nat) (ram : List TargetRam) (fuel addr len : Nat) (invalidate : Bool) :
    Option (List (CacheReg × Nat)) :=
  if lineLength = 0 then some []
  else
    let cacheReg := if invalidate then CacheReg.dccimvac else CacheReg.dccmvac
    let minline := lineLength <<< 2
    (cleanRegions minline addr (add32 addr len) fuel ram).map fun lines => lines.map fun line => (cacheReg, line)

end BlackMagic.CortexCache
