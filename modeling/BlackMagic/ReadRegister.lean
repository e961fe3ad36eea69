import BlackMagic.Registers
import BlackMagic.Server

/-! Reading one register for GDB (the `p` packet), with the loop of `hexify` and what it reads
and writes. -/

namespace BlackMagic.ReadRegister
open Lib.Scan Targets Commands Server

/-- The hex buffer and the indices used so far, of the buffer that is read and of the one that is
written. -/
structure Hexed where
  hex : Buffer
  reads : List Nat
  writes : List Nat

namespace Hexed

def digit (hexed : Hexed) (index : Nat) (value : Byte) : Hexed :=
  { hexed with hex := hexed.hex.set index (Hex.hexDigit value), writes := hexed.writes ++ [index] }

/-- One pass of the loop. -/
def byte (buf : Buffer) (hexed : Hexed) (idx : Nat) : Hexed :=
  ({ hexed with reads := hexed.reads ++ [idx] }.digit (2 * idx) (buf idx >>> 4)).digit (2 * idx + 1) (buf idx &&& 15#8)

def terminate (hexed : Hexed) (index : Nat) : Hexed :=
  { hexed with hex := hexed.hex.set index 0#8, writes := hexed.writes ++ [index] }

end Hexed

def hexify (hex buf : Buffer) (size : Nat) : Hexed :=
  ((List.range size).foldl (Hexed.byte buf) ⟨hex, [], []⟩).terminate (2 * size)

/-- The result of a driver, an `ssize_t`, and what is in the eight bytes of `val` and behind. -/
structure Driven where
  result : BitVec 32
  val : Buffer

/-- `target_reg_read` of a target, with a driver's `reg_read` or without. -/
def targetRegRead (regRead : Option (Nat → Nat → Buffer → Driven)) (reg max : Nat) (val : Buffer) : Driven :=
  match regRead with
  | some regRead => regRead reg max val
  | none => ⟨0#32, val⟩

/-- A reply with the accesses of `val` and of the packet buffer that were made for it. -/
structure Answer where
  body : Text
  reads : List Nat
  writes : List Nat

def Answer.plain (body : String) : Answer := ⟨ascii body, [], []⟩

/-- The target as the packet sees it: the driver's `reg_read`, if there is one. -/
abbrev Current : Type := Option (Nat → Nat → Buffer → Driven)

/-- The register that a packet names, or whatever was in the local variable. -/
def registerOf (packet : Text) (uninitialised : Nat) : Nat :=
  ((sscanf packet (text "p" ++ [.hex none])).values[0]?).getD uninitialised

/-- The `p` case of `gdb_main_loop`. The signed result becomes unsigned. -/
def readRegister (curTarget : Option Current) (packet : Text) (pbuf val : Buffer) (uninitialised : Nat) : Answer :=
  match curTarget with
  | none => .plain "EFF"
  | some none => .plain "00"
  | some (some regRead) =>
    let driven := targetRegRead (some regRead) (registerOf packet uninitialised) 8 val
    let s := driven.result.toNat
    if 0 < s then
      let hexed := hexify pbuf driven.val s
      ⟨hexed.hex.take (s * 2 % 2 ^ 32), hexed.reads, hexed.writes⟩
    else .plain "EFF"

/-- The driver of a core: its bytes go to the start of `val`. -/
def driverOf (core : Registers.Core) (reg max : Nat) (val : Buffer) : Driven :=
  let read := Registers.regRead reg max core
  ⟨BitVec.ofInt 32 read.1, fun i => (read.2[i]?).getD (val i)⟩

end BlackMagic.ReadRegister
