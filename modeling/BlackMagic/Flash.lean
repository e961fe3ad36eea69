import BlackMagic.Bytes
import BlackMagic.Lib.Words

/-! Buffered flash programming (`target_flash.c`, `target_add_flash`). The fields that a
driver fixes when it registers a region are a `TargetFlash`; the fields that the
buffer code moves are a `FlashState`, one for each region by its place in the
target's list, which stands for the region's pointer. Drivers are seen through the
calls they receive: the environment answers each call by the history of all calls
so far, so every driver and every heap is covered. -/

namespace BlackMagic.Flash
open Lib.Words

inductive FlashOperation where
  | none
  | erase
  | write
  deriving DecidableEq, Repr

structure TargetFlash where
  start : Nat
  length : Nat
  blocksize : Nat
  writesize : Nat
  writebufsize : Nat
  erased : Byte
  /-- Whether the driver has a `prepare` callback. -/
  prepare : Bool
  /-- Whether the driver has a `done` callback. -/
  done : Bool
  deriving DecidableEq, Repr

def flashWriteBufferCeiling : Nat := 1024

def bufferSize (writesize : Nat) : Nat :=
  if writesize ≤ flashWriteBufferCeiling / 2 then writesize * (flashWriteBufferCeiling / writesize) else writesize

def targetAddFlash (flash : TargetFlash) (list : List TargetFlash) : List TargetFlash :=
  let writesize := if flash.writesize = 0 then flash.blocksize else flash.writesize
  { flash with writesize := writesize, writebufsize := bufferSize writesize } :: list

namespace TargetFlash

def contains (flash : TargetFlash) (addr : Nat) : Bool :=
  decide (flash.start ≤ addr) && decide (addr < add32 flash.start flash.length)

/-- The regions the buffer code is written for. -/
structure Valid (flash : TargetFlash) : Prop where
  power : ∃ k < 32, flash.writesize = 2 ^ k
  buffered : flash.writebufsize = bufferSize flash.writesize
  start : flash.writesize ∣ flash.start
  length : flash.writesize ∣ flash.length
  bounded : flash.start + flash.length < 2 ^ 32

def Apart (first second : TargetFlash) : Prop := ∀ addr, ¬ (first.contains addr ∧ second.contains addr)

instance : Inhabited TargetFlash := ⟨⟨0, 0, 1, 1, 1024, 0xff#8, false, false⟩⟩

end TargetFlash

/-- The flash list of a target. -/
structure Regions where
  list : List TargetFlash

def Regions.flash (regions : Regions) (i : Nat) : TargetFlash := regions.list[i]?.getD default

/-- A flash list that the buffer code is written for. -/
structure Layout extends Regions where
  valid : ∀ flash ∈ list, flash.Valid
  apart : list.Pairwise TargetFlash.Apart

/-- Registering a valid region that overlaps no other keeps the list valid. -/
def Layout.add (layout : Layout) (flash : TargetFlash)
    (valid : ∀ added ∈ (targetAddFlash flash []), added.Valid)
    (apart : ∀ added ∈ (targetAddFlash flash []), ∀ other ∈ layout.list, added.Apart other) : Layout where
  list := targetAddFlash flash layout.list
  valid := by
    intro member listed
    rcases List.mem_cons.mp listed with rfl | old
    · exact valid _ (List.mem_cons_self)
    · exact layout.valid member old
  apart := List.pairwise_cons.mpr ⟨apart _ List.mem_cons_self, layout.apart⟩

instance : Coe Layout Regions := ⟨Layout.toRegions⟩

structure FlashState where
  operation : FlashOperation
  buf : Option Buffer
  bufAddrBase : Nat
  bufAddrLow : Nat
  bufAddrHigh : Nat

/-- A region as `calloc` leaves it. -/
def FlashState.registered : FlashState := ⟨.none, none, 0, 0, 0⟩

/-- A call out of the flash layer, with the region it is made for. -/
inductive Call where
  | enterFlashMode
  | exitFlashMode
  | reset
  | malloc (size : Nat)
  /-- With whether the region has a buffer, which the driver can see. -/
  | prepare (flash : Nat) (operation : FlashOperation) (buffered : Bool)
  | erase (flash : Nat) (addr len : Nat)
  /-- With the place of the data in the region's buffer. -/
  | write (flash : Nat) (dest : Nat) (source : Nat) (data : List Byte)
  | done (flash : Nat)
  | memcpy (flash : Nat) (offset len : Nat)
  deriving DecidableEq, Repr

/-- What the target's drivers and the heap do. -/
structure Environment where
  enterFlashMode : Bool
  exitFlashMode : Bool
  reset : Bool
  answer : List Call → Bool
  /-- What `malloc` leaves in a fresh block. -/
  garbage : List Call → Buffer

structure Target where
  flashMode : Bool
  state : Nat → FlashState
  calls : List Call
  /-- A null buffer was dereferenced. -/
  fault : Bool

def Target.put (target : Target) (i : Nat) (state : FlashState) : Target :=
  { target with state := fun j => if j = i then state else target.state j }

/-- A target as its probe routine leaves it. -/
def Target.probed : Target := ⟨false, fun _ => .registered, [], false⟩

def uint32Max : Nat := 0xffffffff

variable (layout : Regions) (env : Environment)

def Target.ask (target : Target) (call : Call) : Bool × Target :=
  let calls := target.calls ++ [call]
  (env.answer calls, { target with calls := calls })

def targetFlashForAddr (addr : Nat) : Option Nat := layout.list.findIdx? fun flash => flash.contains addr

def targetEnterFlashMode (target : Target) : Bool × Target :=
  if target.flashMode then (true, target)
  else
    let entered :=
      if env.enterFlashMode then target.ask env .enterFlashMode
      else if env.reset then (true, (target.ask env .reset).2)
      else (true, target)
    if entered.1 then (true, { entered.2 with flashMode := true }) else (false, entered.2)

def targetExitFlashMode (target : Target) : Bool × Target :=
  if !target.flashMode then (true, target)
  else
    let exited :=
      if env.exitFlashMode then target.ask env .exitFlashMode
      else if env.reset then (true, (target.ask env .reset).2)
      else (true, target)
    (exited.1, { exited.2 with flashMode := false })

def flashDone (i : Nat) (target : Target) : Bool × Target :=
  if (target.state i).operation = .none then (true, target)
  else
    let ended := if (layout.flash i).done then target.ask env (.done i) else (true, target)
    (ended.1, ended.2.put i { ended.2.state i with buf := none, operation := .none })

def flashPrepare (i : Nat) (operation : FlashOperation) (target : Target) : Bool × Target :=
  if (target.state i).operation = operation then (true, target)
  else
    let ended := if (target.state i).operation ≠ .none then flashDone layout env i target else (true, target)
    if ended.1 then
      let target := ended.2.put i { ended.2.state i with operation := operation }
      let prepared :=
        if (layout.flash i).prepare then target.ask env (.prepare i operation (target.state i).buf.isSome)
        else (true, target)
      if prepared.1 then prepared else (false, prepared.2.put i { prepared.2.state i with operation := .none })
    else ended

def flashBufferAlloc (i : Nat) (target : Target) : Bool × Target :=
  let asked := target.ask env (.malloc (layout.flash i).writebufsize)
  if asked.1 then
    (true, asked.2.put i { asked.2.state i with
      buf := some (env.garbage asked.2.calls), bufAddrBase := uint32Max, bufAddrLow := uint32Max, bufAddrHigh := 0 })
  else (false, asked.2.put i { asked.2.state i with buf := none })

/-- The writes of a flush from the offset `done * writesize` on. Every one is made,
whatever the ones before it returned. -/
def flushWrites (i alignedAddr source : Nat) (src : Buffer) : Nat → Nat → Bool → Target → Bool × Target
  | 0, _, result, target => (result, target)
  | more + 1, done, result, target =>
    let offset := done * (layout.flash i).writesize
    let data := (List.range (layout.flash i).writesize).map fun j => src (offset + j)
    let written := target.ask env (.write i (add32 alignedAddr offset) (source + offset) data)
    flushWrites i alignedAddr source src more (done + 1) (result && written.1) written.2

def flashBufferedFlush (i : Nat) (target : Target) : Bool × Target :=
  let flash := target.state i
  if flash.buf.isSome ∧ flash.bufAddrBase ≠ uint32Max ∧ flash.bufAddrLow ≠ uint32Max ∧
      flash.bufAddrLow < flash.bufAddrHigh then
    let prepared := flashPrepare layout env i .write target
    if !prepared.1 then (false, prepared.2)
    else
      match (prepared.2.state i).buf with
      | none => (false, { prepared.2 with fault := true })
      | some buf =>
        let writesize := (layout.flash i).writesize
        let alignedAddr := alignDown flash.bufAddrLow writesize
        let source := sub32 alignedAddr flash.bufAddrBase
        let src : Buffer := fun j => buf (source + j)
        let length := sub32 flash.bufAddrHigh alignedAddr
        let written :=
          flushWrites layout env i alignedAddr source src ((length + writesize - 1) / writesize) 0 true prepared.2
        (written.1, written.2.put i { written.2.state i with
          bufAddrBase := uint32Max, bufAddrLow := uint32Max, bufAddrHigh := 0 })
  else (true, target)

/-- The buffer is set up for another block, after a flush of the block it held. -/
def setupBuffer (i baseAddr : Nat) (target : Target) : Bool × Target :=
  if baseAddr ≠ (target.state i).bufAddrBase then
    let flushed := flashBufferedFlush layout env i target
    match (flushed.2.state i).buf with
    | none => (false, { flushed.2 with fault := true })
    | some buf =>
      (flushed.1, flushed.2.put i { flushed.2.state i with
        bufAddrBase := baseAddr
        buf := some fun j => if j < (layout.flash i).writebufsize then (layout.flash i).erased else buf j })
  else (true, target)

def copyChunk (i dest : Nat) (chunk : List Byte) (target : Target) : Target :=
  let flash := target.state i
  let offset := dest % (layout.flash i).writebufsize
  match flash.buf with
  | none => { target with fault := true }
  | some buf =>
    let copied : Target := { target with calls := target.calls ++ [.memcpy i offset chunk.length] }
    copied.put i { flash with
      buf := some fun j => if offset ≤ j then chunk[j - offset]?.getD (buf j) else buf j
      bufAddrLow := min flash.bufAddrLow dest
      bufAddrHigh := max flash.bufAddrHigh (add32 dest chunk.length) }

/-- The loop of `flash_buffered_write`. Each pass takes at least one byte, so the
length of the data is fuel enough. -/
def bufferedWrites (i : Nat) : Nat → Nat → List Byte → Bool → Target → Bool × Target
  | 0, _, src, result, target => (result && src.isEmpty, target)
  | fuel + 1, dest, src, result, target =>
    if src = [] then (result, target)
    else
      let writebufsize := (layout.flash i).writebufsize
      let setup := setupBuffer layout env i (alignDown dest writebufsize) target
      let localLen := min (writebufsize - dest % writebufsize) src.length
      let target := copyChunk layout i dest (src.take localLen) setup.2
      bufferedWrites i fuel (add32 dest localLen) (src.drop localLen) (result && setup.1) target

def flashBufferedWrite (i dest : Nat) (src : List Byte) (target : Target) : Bool × Target :=
  bufferedWrites layout env i src.length dest src true target

/-- Flush a region's buffer and end its operation. -/
def flushDone (i : Nat) (target : Target) : Bool × Target :=
  let flushed := flashBufferedFlush layout env i target
  let ended := flashDone layout env i flushed.2
  (flushed.1 && ended.1, ended.2)

/-- The first loop of `target_flash_write`: find the region of `dest` and flush the
buffers of all others. -/
def evictOthers (dest : Nat) : List Nat → Bool → Option Nat → Target → Bool × Option Nat × Target
  | [], result, active, target => (result, active, target)
  | i :: rest, result, active, target =>
    if (layout.flash i).contains dest then evictOthers dest rest result (some i) target
    else if (target.state i).buf.isSome then
      let flushed := flushDone layout env i target
      evictOthers dest rest (result && flushed.1) active flushed.2
    else evictOthers dest rest result active target

/-- The second loop of `target_flash_write`. -/
def writeRegions : Nat → Nat → Nat → List Byte → Target → Bool × Target
  | 0, _, _, src, target => (src.isEmpty, target)
  | fuel + 1, active, dest, src, target =>
    if src = [] then (true, target)
    else
      match targetFlashForAddr layout dest with
      | none => (false, target)
      | some i =>
        let left := if i ≠ active then flushDone layout env active target else (true, target)
        let alloc := if (left.2.state i).buf.isNone then flashBufferAlloc layout env i left.2 else (true, left.2)
        if !(left.1 && alloc.1) then (false, alloc.2)
        else
          let flash := layout.flash i
          let localEndAddr := min (add32 dest src.length) (add32 flash.start flash.length)
          let localLength := sub32 localEndAddr dest
          let written := flashBufferedWrite layout env i dest (src.take localLength) alloc.2
          if !written.1 then (false, written.2)
          else writeRegions fuel i localEndAddr (src.drop localLength) written.2

def targetFlashWrite (dest : Nat) (src : List Byte) (target : Target) : Bool × Target :=
  let entered := targetEnterFlashMode env target
  if !entered.1 then (false, entered.2)
  else
    match evictOthers layout env dest (List.range layout.list.length) true none entered.2 with
    | (result, some active, target) =>
      if result then writeRegions layout env src.length active dest src target else (false, target)
    | (_, none, target) => (false, target)

/-- The loop of `target_flash_erase`. It ends within `len` passes unless a region has
no block size, which is not an answer. -/
def eraseBlocks : Nat → Nat → Nat → Nat → Bool → Target → Bool × Target
  | 0, active, _, len, result, target =>
    if len = 0 then
      let ended := flashDone layout env active target
      (result && ended.1, ended.2)
    else (false, target)
  | fuel + 1, active, addr, len, result, target =>
    if len = 0 then
      let ended := flashDone layout env active target
      (result && ended.1, ended.2)
    else
      match targetFlashForAddr layout addr with
      | none => (false, target)
      | some i =>
        let left := if i ≠ active then flashDone layout env active target else (true, target)
        let blocksize := (layout.flash i).blocksize
        let localStartAddr := alignDown addr blocksize
        let localEndAddr := add32 localStartAddr blocksize
        let prepared := flashPrepare layout env i .erase left.2
        if !prepared.1 then (false, prepared.2)
        else
          let erased := prepared.2.ask env (.erase i localStartAddr blocksize)
          if !(result && left.1 && erased.1) then
            let ended := flashDone layout env i erased.2
            (false, ended.2)
          else eraseBlocks fuel i localEndAddr (len - min (sub32 localEndAddr addr) len) true erased.2

def targetFlashErase (addr len : Nat) (target : Target) : Bool × Target :=
  let entered := targetEnterFlashMode env target
  if !entered.1 then (false, entered.2)
  else
    match targetFlashForAddr layout addr with
    | none => (false, entered.2)
    | some active => eraseBlocks layout env len active addr len true entered.2

def completeRegions : List Nat → Bool → Target → Bool × Target
  | [], result, target => (result, target)
  | i :: rest, result, target =>
    let flushed := flushDone layout env i target
    completeRegions rest (result && flushed.1) flushed.2

def targetFlashComplete (target : Target) : Bool × Target :=
  if !target.flashMode then (false, target)
  else
    let completed := completeRegions layout env (List.range layout.list.length) true target
    (completed.1, (targetExitFlashMode env completed.2).2)

end BlackMagic.Flash
