import BlackMagic.Bytes

/-! The exceptions of `exception.h`: frames on the C stack in a global list, which a macro around a `for` loop enters
and `raise_exception` searches. The code around them is a tree of statements over data of its own. How each block has
been left and where each exception went is recorded. -/

namespace BlackMagic.Exceptions

/-- `exception_s`, less the buffer of `setjmp`; a frame is known by its address. -/
structure ExceptionFrame where
  type : BitVec 32
  msg : List Byte
  mask : BitVec 32
  outer : Option Nat

def exceptionError : BitVec 32 := 1
def exceptionTimeout : BitVec 32 := 2
def exceptionAll : BitVec 32 := -1

/-- A block that is running: its frame, its mask, and `innermost_exception` on entry to it. -/
structure Block where
  frame : Nat
  mask : BitVec 32
  entered : Option Nat
  deriving DecidableEq, Repr

/-- How a block is left: its body comes to an end, it catches an exception, an exception goes on to an enclosing block,
or its body leaves the `for` loop of the macro. -/
inductive Way where
  | completed
  | caught
  | passed (catcher : Option Block)
  | broken
  deriving DecidableEq, Repr

/-- A block has been left, with `innermost_exception` as it is then. -/
structure Exit where
  block : Block
  way : Way
  after : Option Nat
  deriving DecidableEq, Repr

/-- An exception has been raised inside of the blocks, the innermost one first, and goes to a frame. -/
structure Raise where
  type : BitVec 32
  enclosing : List Block
  target : Option Nat
  deriving DecidableEq, Repr

structure Machine (δ : Type) where
  data : δ
  innermostException : Option Nat
  frames : Nat → ExceptionFrame
  exits : List Exit
  raises : List Raise

/-- How a statement ends; a jump goes to the frame it was made for, whether its block is running or not. -/
inductive Ending where
  | done
  | broke
  | jumped (frame : Nat)
  | aborted
  deriving DecidableEq, Repr

/-- The statements. A `look` goes on as the machine says, the frames of caught exceptions included. -/
inductive Code (δ : Type) where
  | work (f : δ → δ)
  | look (next : Machine δ → Code δ)
  | seq (first second : Code δ)
  | leave
  | loop (body : Code δ)
  | raise (type : BitVec 32) (msg : List Byte)
  | tryCatch (frame : Nat) (mask : BitVec 32) (body : Code δ)

variable {δ : Type}

/-- A run that comes to its end. -/
abbrev Run (δ : Type) := Option (Ending × Machine δ)

section Statements

/-- The walk of `raise_exception` from a frame outwards: the first one whose mask matches, if the walk ends. -/
def findFrame (frames : Nat → ExceptionFrame) (type : BitVec 32) : Nat → Option Nat → Option (Option Nat)
  | 0, _ => none
  | _ + 1, none => some none
  | fuel + 1, some frame =>
    if (frames frame).mask &&& type ≠ 0 then some (some frame) else findFrame frames type fuel (frames frame).outer

def raiseException (fuel : Nat) (live : List Block) (type : BitVec 32) (msg : List Byte) (machine : Machine δ) : Run δ :=
  match findFrame machine.frames type fuel machine.innermostException with
  | none => none
  | some none => some (.aborted, { machine with raises := machine.raises ++ [⟨type, live, none⟩] })
  | some (some frame) =>
    some (.jumped frame,
      { machine with
        innermostException := (machine.frames frame).outer
        frames := fun other =>
          if other = frame then { machine.frames frame with type := type, msg := msg } else machine.frames other
        raises := machine.raises ++ [⟨type, live, some frame⟩] })

/-- What `TRY_CATCH` does before `setjmp`. -/
def enter (frame : Nat) (mask : BitVec 32) (machine : Machine δ) : Machine δ :=
  { machine with
    innermostException := some frame
    frames := fun other =>
      if other = frame then { machine.frames frame with type := 0, mask := mask, outer := machine.innermostException }
      else machine.frames other }

def recordExit (block : Block) (way : Way) (machine : Machine δ) : Machine δ :=
  { machine with exits := machine.exits ++ [⟨block, way, machine.innermostException⟩] }

/-- The `for` loop of `TRY_CATCH`, and the `setjmp` before it that a jump comes back to. -/
def forLoop (live : List Block) (block : Block) (body : Machine δ → Run δ) : Nat → Machine δ → Run δ
  | 0, _ => none
  | fuel + 1, machine =>
    if machine.innermostException = some block.frame then
      match body machine with
      | none => none
      | some (.done, machine) =>
        forLoop live block body fuel { machine with innermostException := (machine.frames block.frame).outer }
      | some (.broke, machine) => some (.done, recordExit block .broken machine)
      | some (.jumped frame, machine) =>
        if frame = block.frame then some (.done, recordExit block .caught machine)
        else some (.jumped frame, recordExit block (.passed (live.find? fun outer => outer.frame = frame)) machine)
      | some (.aborted, machine) => some (.aborted, machine)
    else some (.done, recordExit block .completed machine)

/-- Any other loop, which only a `break` or a jump ends. -/
def plainLoop (body : Machine δ → Run δ) : Nat → Machine δ → Run δ
  | 0, _ => none
  | fuel + 1, machine =>
    match body machine with
    | some (.done, machine) => plainLoop body fuel machine
    | some (.broke, machine) => some (.done, machine)
    | ended => ended

/-- A statement inside of the blocks that are running; each loop and each walk has the given fuel. -/
def run (fuel : Nat) : List Block → Code δ → Machine δ → Run δ
  | _, .work f, machine => some (.done, { machine with data := f machine.data })
  | live, .look next, machine => run fuel live (next machine) machine
  | live, .seq first second, machine =>
    match run fuel live first machine with
    | some (.done, machine) => run fuel live second machine
    | ended => ended
  | _, .leave, machine => some (.broke, machine)
  | live, .loop body, machine => plainLoop (run fuel live body) fuel machine
  | live, .raise type msg, machine => raiseException fuel live type msg machine
  | live, .tryCatch frame mask body, machine =>
    let block : Block := ⟨frame, mask, machine.innermostException⟩
    forLoop live block (run fuel (block :: live) body) fuel (enter frame mask machine)

end Statements

/-- The machine before any block. -/
def start (data : δ) : Machine δ :=
  { data := data, innermostException := none, frames := fun _ => ⟨0, [], 0, none⟩, exits := [], raises := [] }

section Commands

/-- The scan of `cmd_auto_scan`; the data is its `scan_result`, which the two scans set. The messages are left out. -/
def cmdAutoScan (frame : Nat) (jtagScan adiv5SwdScan : Code Bool) : Code Bool :=
  .tryCatch frame exceptionAll
    (.seq jtagScan <| .seq (.look fun machine => if machine.data then .leave else .work id) <|
      .seq adiv5SwdScan (.look fun machine => if machine.data then .leave else .work id))

/-- The scan of `cmd_jtag_scan`. -/
def cmdJtagScan (frame : Nat) (jtagScan : Code Bool) : Code Bool := .tryCatch frame exceptionAll jtagScan

/-- A pass of `main_loop` around a command. -/
def mainLoop (frame : Nat) (bmpPollLoop : Code δ) : Code δ := .tryCatch frame exceptionAll bmpPollLoop

end Commands

end BlackMagic.Exceptions
