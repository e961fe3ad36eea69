import BlackMagic.Lib.Slots
import Mathlib.Data.Nat.Bitwise

/-! Break- and watchpoints of a Cortex-M target (`target.c`, `cortexm.c`): the list in
the target, the slot masks in the driver's private data, and the comparators in the
flash patch and watchpoint units. Memory accesses succeed; what the hardware answers
to a read is an argument of the operation that reads it. -/

namespace BlackMagic.Breakpoints
open Lib.Slots

/-- `target_breakwatch_e`; a packet can also name a type outside the enumeration. -/
inductive TargetBreakwatch where
  | breakSoft
  | breakHard
  | watchWrite
  | watchRead
  | watchAccess
  | other (value : Nat)
  deriving DecidableEq, Repr

structure Breakwatch where
  type : TargetBreakwatch
  addr : BitVec 32
  size : Nat
  reserved : Nat
  deriving DecidableEq, Repr

/-- The private data of the driver, as far as slots are concerned. -/
structure CortexmPriv where
  breakpointsMask : BitVec 8
  watchpointsMask : BitVec 8
  watchpointsAvailable : Nat
  breakpointsAvailable : Nat
  flashPatchRevision : BitVec 32
  demcr : BitVec 32

structure Target where
  attached : Bool
  bwList : List Breakwatch
  priv : CortexmPriv
  flavourV6m : Bool
  apCortexmDemcr : BitVec 32
  memory : Nat → BitVec 32

def cortexmFpbCtrl : Nat := 0xe0002000
def cortexmFpbComp (i : Nat) : Nat := 0xe0002000 + 0x008 + 4 * i
def cortexmDwtComp (i : Nat) : Nat := 0xe0001000 + 0x020 + 0x10 * i
def cortexmDwtMask (i : Nat) : Nat := 0xe0001000 + 0x024 + 0x10 * i
def cortexmDwtFunc (i : Nat) : Nat := 0xe0001000 + 0x028 + 0x10 * i
def cortexmDfsr : Nat := 0xe000ed30
def cortexmDhcsr : Nat := 0xe000edf0
def cortexmDemcr : Nat := 0xe000edfc

def cortexmDhcsrDbgkey : BitVec 32 := 0xa05f0000#32
def cortexmDhcsrSResetSt : BitVec 32 := 0x02000000#32
def cortexmDhcsrCHalt : BitVec 32 := 2#32
def cortexmDhcsrCDebugen : BitVec 32 := 1#32

def targetMemWrite32 (target : Target) (addr : Nat) (value : BitVec 32) : Target :=
  { target with memory := fun a => if a = addr then value else target.memory a }

/-- Zero one register of each slot from `i` on. -/
def clearSlots (register : Nat → Nat) : Nat → Nat → Target → Target
  | 0, _, target => target
  | more + 1, i, target => clearSlots register more (i + 1) (targetMemWrite32 target (register i) 0#32)

/-- `cortexm_attach`: the units answer `flashBreakCfg` and `watchpoints`, and the
status register `statuses`, of which the last is read when the wait times out. -/
def cortexmAttach (flashBreakCfg watchpoints : BitVec 32) (statuses : List (BitVec 32)) (target : Target) :
    Bool × Target :=
  let target := targetMemWrite32 target cortexmDhcsr (cortexmDhcsrDbgkey ||| cortexmDhcsrCHalt ||| cortexmDhcsrCDebugen)
  let target := targetMemWrite32 target cortexmDemcr target.priv.demcr
  let target := targetMemWrite32 target cortexmDfsr 0x1f#32
  let priv := { target.priv with
    breakpointsAvailable := min ((flashBreakCfg >>> 4) &&& 0xf#32).toNat 8
    flashPatchRevision := flashBreakCfg >>> 28
    watchpointsAvailable := min (watchpoints >>> 28).toNat 8
    breakpointsMask := 0#8
    watchpointsMask := 0#8 }
  let target := { target with priv := priv }
  let target := clearSlots cortexmFpbComp priv.breakpointsAvailable 0 target
  let target := clearSlots cortexmDwtFunc priv.watchpointsAvailable 0 target
  let target := targetMemWrite32 target cortexmFpbCtrl 3#32
  (statuses.any fun status => status &&& cortexmDhcsrSResetSt = 0#32, target)

def cortexmDetach (target : Target) : Target :=
  let target := clearSlots cortexmFpbComp target.priv.breakpointsAvailable 0 target
  let target := clearSlots cortexmDwtFunc target.priv.watchpointsAvailable 0 target
  let target := targetMemWrite32 target cortexmDemcr target.apCortexmDemcr
  let target := targetMemWrite32 target cortexmDhcsr (cortexmDhcsrDbgkey ||| cortexmDhcsrCDebugen ||| cortexmDhcsrCHalt)
  let target := targetMemWrite32 target cortexmDhcsr (cortexmDhcsrDbgkey ||| cortexmDhcsrCDebugen)
  targetMemWrite32 target cortexmDhcsr cortexmDhcsrDbgkey

/-- The width of a 32-bit value, and 255 for zero. -/
def ulog2 (value : Nat) : Nat := if value % 2 ^ 32 = 0 then 255 else Nat.log2 (value % 2 ^ 32) + 1

def dwtMask (len : Nat) : BitVec 32 := if len < 2 then 0#32 else BitVec.ofNat 32 (min (ulog2 (len - 1)) 31)

def dwtFunc (flavourV6m : Bool) (type : TargetBreakwatch) : BitVec 32 :=
  let x := if flavourV6m then 0#32 else 0x800#32
  match type with
  | .watchWrite => 6#32 ||| x
  | .watchRead => 5#32 ||| x
  | .watchAccess => 7#32 ||| x
  | _ => 0xffffffff#32

/-- The value of a flash patch comparator, which in its first revision matches one
half of a word. -/
def breakValue (flashPatchRevision addr : BitVec 32) : BitVec 32 :=
  let val :=
    if flashPatchRevision = 0#32 then
      (addr &&& 0x1ffffffc#32) ||| (if addr &&& 2#32 ≠ 0#32 then 0x80000000#32 else 0x40000000#32)
    else addr
  val ||| 1#32

/-- The watchpoint cases of `cortexm_breakwatch_set`. -/
def watchpointSet (bw : Breakwatch) (target : Target) : Int × Breakwatch × Target :=
  let i := firstFree target.priv.watchpointsMask target.priv.watchpointsAvailable
  if i = target.priv.watchpointsAvailable then (-1, bw, target)
  else
    let target := { target with priv.watchpointsMask := take target.priv.watchpointsMask i }
    let target := targetMemWrite32 target (cortexmDwtComp i) bw.addr
    let target := targetMemWrite32 target (cortexmDwtMask i) (dwtMask bw.size)
    let target := targetMemWrite32 target (cortexmDwtFunc i) (dwtFunc target.flavourV6m bw.type)
    (0, { bw with reserved := i }, target)

def cortexmBreakwatchSet (bw : Breakwatch) (target : Target) : Int × Breakwatch × Target :=
  match bw.type with
  | .breakHard =>
    let val := breakValue target.priv.flashPatchRevision bw.addr
    let i := firstFree target.priv.breakpointsMask target.priv.breakpointsAvailable
    if i = target.priv.breakpointsAvailable then (-1, bw, target)
    else
      let target := { target with priv.breakpointsMask := take target.priv.breakpointsMask i }
      (0, { bw with reserved := i }, targetMemWrite32 target (cortexmFpbComp i) val)
  | .watchWrite => watchpointSet bw target
  | .watchRead => watchpointSet bw target
  | .watchAccess => watchpointSet bw target
  | _ => (1, bw, target)

/-- The watchpoint cases of `cortexm_breakwatch_clear`. -/
def watchpointClear (i : Nat) (target : Target) : Int × Target :=
  let target := { target with priv.watchpointsMask := release target.priv.watchpointsMask i }
  (0, targetMemWrite32 target (cortexmDwtFunc i) 0#32)

def cortexmBreakwatchClear (bw : Breakwatch) (target : Target) : Int × Target :=
  let i := bw.reserved
  match bw.type with
  | .breakHard =>
    let target := { target with priv.breakpointsMask := release target.priv.breakpointsMask i }
    (0, targetMemWrite32 target (cortexmFpbComp i) 0#32)
  | .watchWrite => watchpointClear i target
  | .watchRead => watchpointClear i target
  | .watchAccess => watchpointClear i target
  | _ => (1, target)

/-- `target_attach` once the target has its controller. -/
def targetAttach (flashBreakCfg watchpoints : BitVec 32) (statuses : List (BitVec 32)) (target : Target) : Target :=
  let (attached, target) := cortexmAttach flashBreakCfg watchpoints statuses target
  if !attached then target else { target with attached := true }

def targetDetach (target : Target) : Target := { cortexmDetach target with attached := false }

/-- `target_breakwatch_set`; `allocated` tells whether the heap has room for the copy. -/
def targetBreakwatchSet (type : TargetBreakwatch) (addr : BitVec 32) (len : Nat) (allocated : Bool) (target : Target) :
    Int × Target :=
  let (ret, bw, target) := cortexmBreakwatchSet ⟨type, addr, len, 0⟩ target
  if ret = 0 then if !allocated then (1, target) else (ret, { target with bwList := bw :: target.bwList })
  else (ret, target)

/-- The entry that `target_breakwatch_clear` looks for. -/
def Breakwatch.isFor (type : TargetBreakwatch) (addr : BitVec 32) (len : Nat) (bw : Breakwatch) : Bool :=
  bw.type = type ∧ bw.addr = addr ∧ bw.size = len

def targetBreakwatchClear (type : TargetBreakwatch) (addr : BitVec 32) (len : Nat) (target : Target) : Int × Target :=
  match target.bwList.find? (Breakwatch.isFor type addr len) with
  | none => (-1, target)
  | some bw =>
    let (ret, target) := cortexmBreakwatchClear bw target
    if ret = 0 then (ret, { target with bwList := target.bwList.eraseP (Breakwatch.isFor type addr len) })
    else (ret, target)

inductive Operation where
  | attach (flashBreakCfg watchpoints : BitVec 32) (statuses : List (BitVec 32))
  | detach
  | set (type : TargetBreakwatch) (addr : BitVec 32) (len : Nat) (allocated : Bool)
  | clear (type : TargetBreakwatch) (addr : BitVec 32) (len : Nat)

def step (target : Target) : Operation → Target
  | .attach flashBreakCfg watchpoints statuses => targetAttach flashBreakCfg watchpoints statuses target
  | .detach => targetDetach target
  | .set type addr len allocated => (targetBreakwatchSet type addr len allocated target).2
  | .clear type addr len => (targetBreakwatchClear type addr len target).2

/-- A probed target that was never attached. -/
structure Fresh (target : Target) : Prop where
  attached : target.attached = false
  bwList : target.bwList = []
  breakpointsMask : target.priv.breakpointsMask = 0#8
  watchpointsMask : target.priv.watchpointsMask = 0#8
  breakpointsAvailable : target.priv.breakpointsAvailable = 0
  watchpointsAvailable : target.priv.watchpointsAvailable = 0

end BlackMagic.Breakpoints
