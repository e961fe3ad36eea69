import BlackMagic.Bytes
import BlackMagic.Lib.Polling
import BlackMagic.Lib.Words

/-! The user page of the SAM D51 and E5x (`samx5x.c`): a word of it is changed by an erase of the page and writes of all of
its quad words. The page is a buffer by the offset in it. -/

namespace BlackMagic.Samx5x
open Lib.Polling Lib.Words

def samx5xPageSize : Nat := 512
def samx5xStatusReady : BitVec 32 := 1 <<< 0

/-- What a wait reads from the status register, and whether an error is found after such a read. -/
structure Polls where
  status : Nat → BitVec 32
  error : Nat → Bool

/-- Whether the controller got ready before an error; nothing if neither comes in so many polls. -/
def waitReady (patience : Nat) (polls : Polls) : Option Bool :=
  await (fun n =>
    if polls.status n &&& samx5xStatusReady ≠ 0 then some true else if polls.error n then some false else none) patience 0

/-- The waits for the erase and for each write, by its offset. -/
structure Answers where
  erase : Polls
  write : Nat → Polls

/-- The page after an erase. -/
def erased (page : Buffer) : Buffer := fun i => if i < samx5xPageSize then 0xff else page i

/-- The page after a write of a quad word, which only clears bits. -/
def writtenQuadWord (page buffer : Buffer) (offset : Nat) : Buffer :=
  fun i => if offset ≤ i ∧ i < offset + 16 then page i &&& buffer i else page i

/-- The loop that writes the buffer back. -/
def writeBack (patience : Nat) (answers : Answers) (buffer : Buffer) : List Nat → Buffer → Option Int × Buffer
  | [], page => (some 0, page)
  | offset :: rest, page =>
    match waitReady patience (answers.write offset) with
    | some true => writeBack patience answers buffer rest (writtenQuadWord page buffer offset)
    | some false => (some (-2), writtenQuadWord page buffer offset)
    | none => (none, writtenQuadWord page buffer offset)

def offsets : List Nat := (List.range 32).map (· * 16)

def samx5xWriteUserPage (patience : Nat) (answers : Answers) (buffer page : Buffer) : Option Int × Buffer :=
  match waitReady patience answers.erase with
  | some true => writeBack patience answers buffer offsets (erased page)
  | some false => (some (-1), erased page)
  | none => (none, erased page)

/-- The bits of the user page that are set in the factory, as far as the table goes. -/
def factoryTable : List Byte :=
  [0x00, 0x80, 0xff, 0xc3, 0x00, 0xff, 0x00, 0x80, 0x00, 0x00, 0x00, 0x00, 0x00, 0x00, 0x00, 0x00, 0xff, 0xff, 0xff, 0xff]

def factoryBits (i : Nat) : Byte := factoryTable[i]?.getD 0

/-- The loop that puts the factory bits of a word together. -/
def factoryWord (force : Bool) (addr : Nat) : Nat → Nat → BitVec 32 → BitVec 32
  | 0, _, word => word
  | left + 1, i, word =>
    if !force && decide (addr + i < 20) then
      factoryWord force addr left (i + 1) (word ||| (factoryBits (addr + i)).setWidth 32 <<< (i * 8))
    else word

def wordAt (buffer : Buffer) (addr : Nat) : BitVec 32 := ofLanes fun lane => buffer (addr + lane)

/-- A buffer with a word at an offset. -/
def withWord (buffer : Buffer) (addr : Nat) (word : BitVec 32) : Buffer :=
  fun i => if addr ≤ i ∧ i < addr + 4 then byteOf word (i - addr) else buffer i

/-- The result, the value that was reported, and the page. -/
structure Updated where
  result : Option Int
  valueWritten : BitVec 32
  page : Buffer

def samx5xUpdateUserWord (patience : Nat) (answers : Answers) (page : Buffer) (addr : Nat) (value : BitVec 32)
    (force : Bool) : Updated :=
  let currentWord := wordAt page addr
  let factoryWord := factoryWord force addr 4 0 0
  let newWord := (currentWord &&& factoryWord) ||| (value &&& ~~~factoryWord)
  if newWord ≠ currentWord then
    let done := samx5xWriteUserPage patience answers (withWord page addr newWord) page
    ⟨done.1, newWord, done.2⟩
  else ⟨some 0, newWord, page⟩

end BlackMagic.Samx5x
