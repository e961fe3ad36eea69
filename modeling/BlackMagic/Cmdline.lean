import BlackMagic.Lib.Fitting
import BlackMagic.Server

/-! The command line of a `vRun` packet (`gdb_main.c`): the loop that decodes it into a local
buffer, with the indices it writes. -/

namespace BlackMagic.Cmdline
open Lib Targets Commands

def sizeofCmdline : Nat := 83

/-- The buffer and the indices that have been written. -/
structure Memory where
  cmdline : Buffer
  writes : List Nat

def Memory.store (memory : Memory) (index : Nat) (value : Byte) : Memory :=
  ⟨memory.cmdline.set index value, memory.writes ++ [index]⟩

/-- The locals between two passes of the loop: it always leaves a terminator where it writes
next. -/
structure Line extends Memory where
  pcmdline : Nat
  terminated : cmdline pcmdline = 0#8

namespace Line

def terminate (memory : Memory) (pcmdline : Nat) : Line :=
  ⟨memory.store pcmdline 0#8, pcmdline, Buffer.set_self _ _ _⟩

/-- `strlen`, which finds a terminator at `pcmdline` at the latest. -/
def strlen (line : Line) : Nat := (cString (line.cmdline.take (line.pcmdline + 1))).length

def separator (line : Line) : Line := terminate (line.store line.pcmdline (chr ' ')) (line.pcmdline + 1)

/-- Two digits and the two characters behind them, which are decoded as well. -/
def pair (line : Line) (digits behind : Byte × Byte) : Line :=
  let p := line.pcmdline
  let memory := (line.store p ((Hex.unhexDigit digits.1 <<< 4) ||| Hex.unhexDigit digits.2)).store (p + 1)
    ((Hex.unhexDigit behind.1 <<< 4) ||| Hex.unhexDigit behind.2)
  if memory.cmdline p = chr ' ' ∨ memory.cmdline p = chr '\\' then
    terminate ((memory.store (p + 1) (memory.cmdline p)).store p (chr '\\')) (p + 2)
  else terminate memory (p + 1)

end Line

/-- The next two characters of the packet, which ends with a terminator and has one more character
behind it. -/
def peek (behind : Byte) : Text → Byte × Byte
  | [] => (0#8, behind)
  | [c] => (c, 0#8)
  | c :: d :: _ => (c, d)

def decode (behind : Byte) : Text → Line → Line
  | [], line => line
  | c :: rest, line =>
    if line.strlen + 3 ≥ sizeofCmdline then line
    else if c = chr ';' then decode behind rest line.separator
    else
      match rest with
      | [] => line
      | d :: rest =>
        if Server.isHexDigit c && Server.isHexDigit d then decode behind rest (line.pair (c, d) (peek behind rest))
        else line

/-- Where the argument starts. -/
def argument (packet : Text) : Text :=
  let tok := packet.drop 4
  if tok.head? = some (chr ';') then tok.tail else tok

/-- The loop of `vRun`, from whatever is in the buffer. -/
def vRun (packet : Text) (behind : Byte) (cmdline : Buffer) : Line :=
  decode behind (argument packet) (.terminate ⟨cmdline, []⟩ 0)

section Specification

/-- A space or a backslash gets a backslash in front. -/
def escape (value : Byte) : Text := if value = chr ' ' ∨ value = chr '\\' then [chr '\\', value] else [value]

/-- The decoded argument piece by piece, up to the first character that is not a part of it. -/
def pieces : Text → List Text
  | [] => []
  | c :: rest =>
    if c = chr ';' then [chr ' '] :: pieces rest
    else
      match rest with
      | [] => []
      | d :: rest =>
        if Server.isHexDigit c && Server.isHexDigit d then
          escape ((Hex.unhexDigit c <<< 4) ||| Hex.unhexDigit d) :: pieces rest
        else []

/-- The longest prefix that fits into the buffer with a terminator. -/
def commandLine (packet : Text) : Text := (fitting (sizeofCmdline - 1) (pieces (argument packet))).flatten

/-- Everything is written inside the buffer, and the string in it is the command line. -/
structure Decoded (packet : Text) (line : Line) : Prop where
  inside : ∀ i ∈ line.writes, i < sizeofCmdline
  terminated : ∃ i < sizeofCmdline, line.cmdline i = 0#8
  text : cString (line.cmdline.take sizeofCmdline) = commandLine packet

end Specification

end BlackMagic.Cmdline
