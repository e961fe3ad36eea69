import BlackMagic.Lib.ChunkLoop
import BlackMagic.TargetMemory

/-! The search for the control block of RTT in target memory (`rtt.c`): by a rolling hash of the usual
identifier, or for an identifier that the user has given. -/

namespace BlackMagic.RttSearch
open Lib.ChunkLoop Lib.Words

section FastSearch

def m : Nat := 16
def p : Nat := 0x444110cd
def q : Nat := 0x797a9691
def r : Nat := 0x73b07d01
def stride : Nat := 128

/-- Arithmetic on `uint64_t`. -/
def add64 (a b : Nat) : Nat := (a + b) % 2 ^ 64
def sub64 (a b : Nat) : Nat := (a + 2 ^ 64 - b) % 2 ^ 64
def mul64 (a b : Nat) : Nat := a * b % 2 ^ 64
def shiftLeft64 (a count : Nat) : Nat := a * 2 ^ count % 2 ^ 64

/-- The buffer, the running value with all the values it has had, and the reads. -/
structure Rolling where
  srchBuf : Buffer
  t : Nat
  values : List Nat
  reads : List (Nat × Nat)

/-- What a search returns, and what it did. -/
structure Outcome where
  address : Nat
  values : List Nat
  reads : List (Nat × Nat)

/-- One byte leaves the window of the hash, and one enters it. -/
def roll (t : Nat) (leaving entering : Byte) : Nat :=
  let t := sub64 (add64 t q) (mul64 r leaving.toNat % q) % q
  add64 (shiftLeft64 t 8) entering.toNat % q

/-- The loop over the bytes of a chunk, from one of them on. -/
def rollBytes (addr : Nat) : List Nat → Rolling → Rolling ⊕ Outcome
  | [], rolling => .inl rolling
  | i :: rest, rolling =>
    let t := roll rolling.t (rolling.srchBuf i) (rolling.srchBuf (i + m))
    let rolling := { rolling with t := t, values := rolling.values ++ [t] }
    if p = t then .inr ⟨add32 (sub32 (add32 addr i) m) 1, rolling.values, rolling.reads⟩ else rollBytes addr rest rolling

def copyBytes (dest : Buffer) (offset : Nat) (bytes : List Byte) : Buffer := fun i =>
  if offset ≤ i ∧ i < offset + bytes.length then bytes.getD (i - offset) 0#8 else dest i

def fastChunk (memory : TargetMemory) (ramEnd addr : Nat) (rolling : Rolling) : Rolling ⊕ Outcome :=
  let bufSiz := min stride (ramEnd - addr)
  let srchBuf := copyBytes rolling.srchBuf 0 ((List.range m).map fun i => rolling.srchBuf (stride + i))
  let reads := rolling.reads ++ [(addr, bufSiz)]
  match targetMemRead memory addr bufSiz with
  | none => .inr ⟨0, rolling.values, reads⟩
  | some bytes =>
    rollBytes addr (List.range bufSiz) { rolling with srchBuf := copyBytes srchBuf m bytes, reads := reads }

/-- The search, if it ends within so many passes of its outer loop. -/
def fastSearch (memory : TargetMemory) (ramStart ramEnd passes : Nat) : Option Outcome :=
  chunkLoop stride ramEnd (fastChunk memory ramEnd) (fun rolling => ⟨0, rolling.values, rolling.reads⟩) passes ramStart
    ⟨fun _ => 0#8, 0, [], []⟩

end FastSearch

section MemorySearch

/-- An identifier as a C string of at most 15 characters. -/
structure Ident where
  text : List Byte
  plain : 0#8 ∉ text
  fits : text.length ≤ 15

def srchBufSize : Nat := 128

/-- `strncmp` of so many characters finds no difference. -/
def strncmpEqual (left right : Nat → Byte) : Nat → Nat → Bool
  | _, 0 => true
  | i, more + 1 => if left i ≠ right i then false else if left i = 0#8 then true else strncmpEqual left right (i + 1) more

def matchAt (srchBuf : List Byte) (ident : Ident) (offset : Nat) : Bool :=
  strncmpEqual (fun i => srchBuf.getD (offset + i) 0#8) (fun i => ident.text.getD i 0#8) 0 ident.text.length

/-- A read that fails is passed over. -/
def memoryChunk (memory : TargetMemory) (ident : Ident) (ramEnd addr : Nat) (reads : List (Nat × Nat)) :
    List (Nat × Nat) ⊕ Nat × List (Nat × Nat) :=
  let bufSiz := min (ramEnd - addr) srchBufSize
  let reads := reads ++ [(addr, bufSiz)]
  match targetMemRead memory addr bufSiz with
  | none => .inl reads
  | some srchBuf =>
    match (List.range (bufSiz - (ident.text.length + 1))).find? (matchAt srchBuf ident) with
    | some offset => .inr (add32 addr offset, reads)
    | none => .inl reads

def step (ident : Ident) : Nat := srchBufSize - ident.text.length - 1

/-- The search, if it ends within so many passes of its outer loop: the address and the reads. -/
def memorySearch (memory : TargetMemory) (ident : Ident) (ramStart ramEnd passes : Nat) : Option (Nat × List (Nat × Nat)) :=
  if ident.text.length = 0 ∨ srchBufSize / 2 < ident.text.length then some (0, [])
  else chunkLoop (step ident) ramEnd (memoryChunk memory ident ramEnd) (fun reads => (0, reads)) passes ramStart []

end MemorySearch

end BlackMagic.RttSearch
