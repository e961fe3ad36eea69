import BlackMagic.CortexADebug

/-! What the instructions do that a halted Cortex-A core is given, one by one. -/

namespace BlackMagic.Proofs.CortexAUnit
open CortexADebug Lib Lib.Program
open SwdAccess (Halt)

section Status

def entryMask : BitVec 32 := 0x3d

/-- No other bits are where the status is. -/
structure Tidy (unit : DebugUnit) : Prop where
  control : unit.control &&& controlMask = unit.control
  entry : unit.entry &&& entryMask = unit.entry

/-- The bits of the status that the unit adds. -/
def flags (unit : DebugUnit) : BitVec 32 :=
  (if unit.restarted then dscrRestarted else 0) ||| (if unit.sticky then sdabortL else 0) |||
    (if unit.pending = 0 then insnComplete else 0) ||| (if unit.txFull then dtrReadReady else 0) |||
    (if unit.rxFull then dtrWriteDone else 0)

theorem dscr_flags (unit : DebugUnit) : unit.dscr = unit.control ||| unit.entry ||| flags unit := by
  rw [DebugUnit.dscr, flags]
  simp only [BitVec.or_assoc]

theorem and_of_disjoint {word mask other : BitVec 32} (within : word &&& other = word) (apart : other &&& mask = 0#32) :
    word &&& mask = 0#32 := by
  rw [← within, BitVec.and_assoc, apart, BitVec.and_zero]

end Status

section Taking

/-- The core takes instructions, one at a time, and the data channel is as given. -/
structure Taking (rx tx : Bool) (unit : DebugUnit) : Prop where
  tidy : Tidy unit
  enabled : unit.control &&& itrEnable ≠ 0
  slow : unit.control &&& extdccmodeMask = 0
  clear : unit.sticky = false
  rx : unit.rxFull = rx
  tx : unit.txFull = tx
  halted : unit.restarted = false

theorem Taking.pended {rx tx : Bool} {unit : DebugUnit} (taking : Taking rx tx unit) (pending issued : Nat) :
    Taking rx tx { unit with pending := pending, issued := issued } where
  tidy := ⟨taking.tidy.control, taking.tidy.entry⟩
  enabled := taking.enabled
  slow := taking.slow
  clear := taking.clear
  rx := taking.rx
  tx := taking.tx
  halted := taking.halted

theorem Taking.modified {rx tx : Bool} {unit : DebugUnit} (taking : Taking rx tx unit) (f : Core → Core) :
    Taking rx tx (unit.modify f) where
  tidy := ⟨taking.tidy.control, taking.tidy.entry⟩
  enabled := taking.enabled
  slow := taking.slow
  clear := taking.clear
  rx := taking.rx
  tx := taking.tx
  halted := taking.halted

/-- The core and the private data are known, and the data channel is empty. -/
structure At (core : Core) (priv : Priv) (session : Session) : Prop where
  taking : Taking false false session.unit
  core : session.unit.core = core
  priv : session.priv = priv

def never : Halt → Session → Prop := fun _ _ => False

variable {hardware : Hardware} {polls : Nat} {core : Core} {priv : Priv}

theorem fast_slow {unit : DebugUnit} (slow : unit.control &&& extdccmodeMask = 0) : unit.fast = false := by
  rw [DebugUnit.fast, slow]
  decide

theorem issue_enabled {unit : DebugUnit} (enabled : unit.control &&& itrEnable ≠ 0) (clear : unit.sticky = false)
    (insn : BitVec 32) :
    unit.issue hardware insn =
      { unit.execute hardware (decode insn) with pending := hardware.lag unit.issued, issued := unit.issued + 1 } := by
  have taken : ¬ (unit.control &&& itrEnable = 0 ∨ unit.sticky = true) := fun blocked =>
    blocked.elim enabled fun sticky => Bool.false_ne_true (clear.symm.trans sticky)
  rw [DebugUnit.issue, if_neg taken]

theorem Taking.writeItr {rx tx : Bool} {unit : DebugUnit} (taking : Taking rx tx unit) (insn : BitVec 32) :
    unit.writeItr hardware insn =
      { unit.execute hardware (decode insn) with pending := hardware.lag unit.issued, issued := unit.issued + 1 } := by
  rw [DebugUnit.writeItr, fast_slow taking.slow, if_neg Bool.false_ne_true, issue_enabled taking.enabled taking.clear]

/-- The session whose data channel is as given, with facts that no look at the status changes. -/
structure Holding (rx tx : Bool) (fact : DebugUnit → Prop) (priv : Priv) (session : Session) : Prop where
  taking : Taking rx tx session.unit
  fact : fact session.unit
  priv : session.priv = priv

theorem At.pended {session : Session} (met : At core priv session) (pending : Nat) :
    At core priv { session with unit := { session.unit with pending := pending } } :=
  ⟨met.taking.pended pending _, met.core, met.priv⟩

theorem Taking.emptied {rx tx : Bool} {unit : DebugUnit} (taking : Taking rx tx unit) :
    Taking rx false { unit with txFull := false } where
  tidy := ⟨taking.tidy.control, taking.tidy.entry⟩
  enabled := taking.enabled
  slow := taking.slow
  clear := taking.clear
  rx := taking.rx
  tx := rfl
  halted := taking.halted

theorem Taking.filled {rx tx : Bool} {unit : DebugUnit} (taking : Taking rx tx unit) (value : BitVec 32) :
    Taking true tx { unit with dtrrx := value, rxFull := true } where
  tidy := ⟨taking.tidy.control, taking.tidy.entry⟩
  enabled := taking.enabled
  slow := taking.slow
  clear := taking.clear
  rx := rfl
  tx := taking.tx
  halted := taking.halted

end Taking

end BlackMagic.Proofs.CortexAUnit
