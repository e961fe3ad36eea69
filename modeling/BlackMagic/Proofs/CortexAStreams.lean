import BlackMagic.Lib.Chunks
import BlackMagic.Proofs.CortexAUnit

/-! The fast mode of the data channel of a halted Cortex-A core: every access gives the core the same instruction again. -/

namespace BlackMagic.Proofs.CortexAStreams
open CortexADebug CortexAUnit Lib Lib.Program Lib.Words
open SwdAccess (Halt)

section Modes

/-- The core takes the same instruction with every access to the data channel. -/
structure Fast (insn : BitVec 32) (unit : DebugUnit) : Prop where
  tidy : Tidy unit
  enabled : unit.control &&& itrEnable ≠ 0
  fast : unit.fast = true
  itr : unit.itr = insn
  rx : unit.rxFull = false
  halted : unit.restarted = false

/-- What the driver writes to `DBGDSCR` to enter the fast mode. -/
def entering (dscr : BitVec 32) : BitVec 32 := (dscr &&& ~~~extdccmodeMask) ||| extdccmodeFast

end Modes

section Reads

/-- Where a word is. -/
def wordAt (base : BitVec 32) (i : Nat) : BitVec 32 := base + 4#32 * BitVec.ofNat 32 i

/-- So many words from an address on can be accessed. -/
def Mapped (core : Core) (base : BitVec 32) (count : Nat) : Prop := ∀ i < count, core.word (wordAt base i) ≠ none

instance (core : Core) (base : BitVec 32) (count : Nat) : Decidable (Mapped core base count) :=
  inferInstanceAs (Decidable (∀ i < count, core.word (wordAt base i) ≠ none))

/-- Words were read, all of them there. -/
structure Going (original : Core) (base : BitVec 32) (count : Nat) (unit : DebugUnit) : Prop where
  clear : unit.sticky = false
  core : unit.core = original.setReg 0 (wordAt base count)
  mapped : Mapped original base count
  last : ∀ i, count = i + 1 → original.word (wordAt base i) = some unit.dtrtx

/-- A word was not there. -/
structure Aborted (original : Core) (base : BitVec 32) (count : Nat) (unit : DebugUnit) : Prop where
  sticky : unit.sticky = true
  tx : unit.txFull = false
  moved : ∃ value, unit.core = original.setReg 0 value
  gap : ¬ Mapped original base count

variable {hardware : Hardware} {polls : Nat} {original : Core} {base : BitVec 32} {count : Nat} {priv : Priv}

theorem reg_setReg (core : Core) (regno : Nat) (value : BitVec 32) : (core.setReg regno value).reg regno = value :=
  Function.update_self _ _ _

theorem setReg_setReg (core : Core) (regno : Nat) (first second : BitVec 32) :
    (core.setReg regno first).setReg regno second = core.setReg regno second :=
  congrArg (fun registers => { core with registers := registers }) (Function.update_idem _ _ _)

theorem wordAt_succ (base : BitVec 32) (count : Nat) : wordAt base count + 4 = wordAt base (count + 1) := by
  rw [wordAt, wordAt, BitVec.ofNat_add, BitVec.mul_add, BitVec.add_assoc]
  rfl

theorem Mapped.succ (mapped : Mapped original base count) (last : original.word (wordAt base count) ≠ none) :
    Mapped original base (count + 1) := by
  intro i within
  rcases Nat.lt_succ_iff_lt_or_eq.mp within with before | rfl
  · exact mapped i before
  · exact last

def loadWord : BitVec 32 := 0xecb05e01

theorem decode_loadWord : decode loadWord = .ldcR0 := by decide

theorem afterData_fast {unit : DebugUnit} (fast : unit.fast = true) :
    unit.afterData hardware = unit.issue hardware unit.itr := by
  rw [DebugUnit.afterData, fast, if_pos rfl]

theorem Fast.afterData {insn : BitVec 32} {unit : DebugUnit} (fast : Fast insn unit) :
    unit.afterData hardware = unit.issue hardware insn := by
  rw [afterData_fast fast.fast, fast.itr]

theorem Fast.emptied {insn : BitVec 32} {unit : DebugUnit} (fast : Fast insn unit) :
    Fast insn { unit with txFull := false } :=
  ⟨⟨fast.tidy.control, fast.tidy.entry⟩, fast.enabled, fast.fast, fast.itr, fast.rx, fast.halted⟩

/-- A load of the next word. -/
theorem Going.load (hardware : Hardware) {unit : DebugUnit} (fast : Fast loadWord unit)
    (going : Going original base count unit) (tx : unit.txFull = false) :
    Fast loadWord (unit.issue hardware loadWord) ∧
      (Going original base (count + 1) (unit.issue hardware loadWord) ∨
        Aborted original base (count + 1) (unit.issue hardware loadWord)) := by
  rw [issue_enabled fast.enabled going.clear, decode_loadWord, DebugUnit.execute, going.core, reg_setReg]
  have same : (original.setReg 0 (wordAt base count)).word (wordAt base count) = original.word (wordAt base count) := rfl
  rw [same]
  cases found : original.word (wordAt base count) with
  | none =>
    refine ⟨⟨⟨fast.tidy.control, fast.tidy.entry⟩, fast.enabled, fast.fast, fast.itr, fast.rx, fast.halted⟩,
      .inr ⟨rfl, tx, ⟨_, rfl⟩, fun mapped => mapped count (Nat.lt_succ_self count) found⟩⟩
  | some word =>
    refine ⟨⟨⟨fast.tidy.control, fast.tidy.entry⟩, fast.enabled, fast.fast, fast.itr, fast.rx, fast.halted⟩,
      .inl ⟨going.clear, ?_, going.mapped.succ (by rw [found]; exact Option.some_ne_none _), ?_⟩⟩
    · show unit.core.setReg 0 (unit.core.reg 0 + 4) = _
      rw [going.core, reg_setReg, setReg_setReg, wordAt_succ]
    · rintro i same
      obtain rfl : count = i := Nat.succ_injective same
      exact found

theorem Aborted.load (hardware : Hardware) {unit : DebugUnit} (fast : Fast loadWord unit)
    (aborted : Aborted original base count unit) :
    Fast loadWord (unit.issue hardware loadWord) ∧ Aborted original base (count + 1) (unit.issue hardware loadWord) := by
  rw [DebugUnit.issue, if_pos (.inr aborted.sticky)]
  exact ⟨fast, aborted.sticky, aborted.tx, aborted.moved,
    fun mapped => aborted.gap fun i within => mapped i (Nat.lt_succ_of_lt within)⟩

/-- The words read so far, and the one that waits in the data channel. -/
structure Reading (original : Core) (base : BitVec 32) (priv : Priv) (count : Nat) (session : Session) : Prop where
  fast : Fast loadWord session.unit
  progress : Going original base count session.unit ∨ Aborted original base count session.unit
  priv : session.priv = priv

end Reads

section Status

variable {holds : Session → Prop} {core : Core} {priv : Priv}

/-- The unit in fast mode. -/
structure Entered (insn : BitVec 32) (core : Core) (priv : Priv) (session : Session) : Prop where
  fast : Fast insn session.unit
  clear : session.unit.sticky = false
  tx : session.unit.txFull = false
  core : session.unit.core = core
  priv : session.priv = priv

/-- The unit as it was, but that an abort may be pending. -/
structure Left (session : Session) : Prop where
  tidy : Tidy session.unit
  enabled : session.unit.control &&& itrEnable ≠ 0
  slow : session.unit.control &&& extdccmodeMask = 0
  rx : session.unit.rxFull = false
  halted : session.unit.restarted = false

theorem Left.taking {session : Session} (left : Left session) (clear : session.unit.sticky = false)
    {tx : Bool} (full : session.unit.txFull = tx) : Taking false tx session.unit :=
  ⟨left.tidy, left.enabled, left.slow, clear, left.rx, full, left.halted⟩

def fault (priv : Priv) : Priv := { priv with mmuFault := true }

end Status

section MemoryRead

variable {hardware : Hardware} {polls : Nat} {original core : Core} {base : BitVec 32} {count : Nat} {priv : Priv}

/-- What the end of a stream leaves. -/
structure Ended (original : Core) (base : BitVec 32) (priv : Priv) (count : Nat) (session : Session) : Prop where
  left : Left session
  progress : Going original base count session.unit ∨ Aborted original base count session.unit
  priv : session.priv = priv

end MemoryRead

end BlackMagic.Proofs.CortexAStreams
