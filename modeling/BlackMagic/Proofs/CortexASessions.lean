import BlackMagic.Proofs.CortexAMemory

/-! A halt of a Cortex-A core, from the poll that sees it to the request to go on. -/

namespace BlackMagic.Proofs.CortexASessions
open CortexADebug CortexAUnit CortexAStreams CortexAMemory Lib Lib.Program Lib.Words
open Registers (RegCache)
open SwdAccess (Halt)

section Stage

/-- The halted core, changed only where the driver may, with what is known of it and of the private data. -/
def Stage (original : Core) (memory : Memory) (fact : Core → Priv → Prop) (session : Session) : Prop :=
  ∃ core priv, Scratched original memory core ∧ fact core priv ∧ At core priv session

variable {hardware : Hardware} {polls : Nat} {original : Core} {memory : Memory} {fact : Core → Priv → Prop}

theorem Stage.imp {next : Core → Priv → Prop} {session : Session} (stage : Stage original memory fact session)
    (implies : ∀ core priv, fact core priv → next core priv) : Stage original memory next session := by
  obtain ⟨core, priv, scratched, known, met⟩ := stage
  exact ⟨core, priv, scratched, implies core priv known, met⟩

end Stage

section RegsRead

variable {hardware : Hardware} {polls : Nat} {original : Core}

/-- The registers of the core, as the debugger sees them. -/
def cacheOf (core : Core) : RegCache where
  r := fun j => if j.val < 15 then core.reg j else core.pc
  cpsr := core.cpsr
  fpscr := core.fpscr
  d := fun j => core.d j

theorem ofNat_val {i : Nat} (small : i < 16) : (Fin.ofNat 16 i).val = i := Nat.mod_eq_of_lt small

end RegsRead

section RegsWrite

variable {hardware : Hardware} {polls : Nat} {original : Core} {memory : Memory} {cache : RegCache} {priv : Priv}

/-- The core with so many of its registers as the debugger wants them. The mode that the core was halted in may lose its
stack pointer if the debugger has changed the mode. -/
structure Restored (original : Core) (memory : Memory) (cache : RegCache) (pc : BitVec 32) (count : Nat) (core : Core) :
    Prop where
  registers : ∀ place, (∀ regno < 15, place ≠ CortexADebug.place (cache.cpsr.setWidth 5) regno) →
    place ≠ CortexADebug.place original.mode 13 → core.registers place = original.registers place
  general : ∀ regno < count, core.reg regno = cache.r (Fin.ofNat 16 regno)
  pc : core.pc = pc
  cpsr : core.cpsr = cache.cpsr
  fpscr : core.fpscr = cache.fpscr
  doubles : ∀ j < 16, core.d j = cache.d (Fin.ofNat 16 j)
  beyond : ∀ j, 16 ≤ j → core.d j = original.d j
  memory : core.memory = memory

theorem Restored.setReg {pc : BitVec 32} {count : Nat} {core : Core}
    (restored : Restored original memory cache pc count core) (small : count < 15) :
    Restored original memory cache pc (count + 1) (core.setReg count (cache.r (Fin.ofNat 16 count))) where
  registers := fun place apart other => by
    have here := apart count small
    rw [← restored.cpsr] at here
    exact (Function.update_of_ne here _ _).trans (restored.registers place apart other)
  general := by
    intro regno below
    rcases Nat.lt_succ_iff_lt_or_eq.mp below with before | rfl
    · rw [reg_setReg_ne _ (Nat.ne_of_lt before)]
      exact restored.general regno before
    · exact reg_setReg _ _ _
  pc := restored.pc
  cpsr := restored.cpsr
  fpscr := restored.fpscr
  doubles := restored.doubles
  beyond := restored.beyond
  memory := restored.memory

end RegsWrite

section Deeds

variable {hardware : Hardware} {polls : Nat} {original core : Core} {memory : Memory} {cache : RegCache} {priv : Priv}

/-- The core as it was halted, but for its memory and for what the driver uses, with what the debugger sees of its
registers. -/
def Halted (original : Core) (memory : Memory) (cache : RegCache) : Session → Prop :=
  Stage original memory fun _ priv => priv.regCache = cache

/-- The bytes that a deed puts into the memory. -/
def written : Deed → Option (BitVec 32 × List (BitVec 8))
  | .memWrite dest src => some (dest, src)
  | .breakwatchSet bw =>
    if bw.type = .breakSoft ∧ (bw.size = 2 ∨ bw.size = 4) then
      some (bw.addr, valueBytes bw.size (softOpcode bw.size))
    else none
  | .breakwatchClear bw =>
    if bw.type = .breakSoft ∧ (bw.size = 2 ∨ bw.size = 4) then
      some (bw.addr, valueBytes bw.size (BitVec.ofNat 32 bw.reserved))
    else none
  | _ => none

def memoryAfter (memory : Memory) (deed : Deed) : Memory :=
  match written deed with
  | some (dest, src) => store dest src memory
  | none => memory

end Deeds

section Sessions

variable {hardware : Hardware} {polls : Nat} {original : Core} {memory : Memory} {cache : RegCache} {priv : Priv}

/-- The unit of a core that has halted. -/
structure Stopped (unit : DebugUnit) : Prop where
  tidy : Tidy unit
  entered : unit.entry &&& dscrHalted ≠ 0
  slow : unit.control &&& extdccmodeMask = 0
  clear : unit.sticky = false
  rx : unit.rxFull = false
  tx : unit.txFull = false
  halted : unit.restarted = false

theorem Stopped.seen {unit : DebugUnit} (stopped : Stopped unit) : unit.dscr &&& dscrHalted ≠ 0 := by
  rw [dscr_flags, BitVec.and_or_distrib_right, BitVec.and_or_distrib_right]
  exact fun none => stopped.entered (BitVec.or_eq_zero_iff.mp (BitVec.or_eq_zero_iff.mp none).1).2

def flagsMask : BitVec 32 := dscrRestarted ||| sdabortL ||| insnComplete ||| dtrReadReady ||| dtrWriteDone

theorem flags_within (unit : DebugUnit) : flags unit &&& flagsMask = flags unit := by
  rw [flags]
  cases unit.sticky <;> cases unit.restarted <;> cases unit.txFull <;> cases unit.rxFull <;>
    by_cases done : unit.pending = 0 <;> simp only [done, if_true, if_false] <;> decide

/-- The reason is that of the core. -/
theorem Stopped.reason {unit : DebugUnit} (stopped : Stopped unit) (watchpoints : List Nat) :
    CortexA.haltReason (unit.dscr ||| itrEnable) watchpoints = CortexA.haltReason unit.entry watchpoints := by
  have moe : (unit.dscr ||| itrEnable) &&& CortexA.dscrMoeMask = unit.entry &&& CortexA.dscrMoeMask := by
    have none : controlMask &&& CortexA.dscrMoeMask = 0#32 := by decide
    have also : itrEnable &&& CortexA.dscrMoeMask = 0#32 := by decide
    rw [BitVec.and_or_distrib_right, also, BitVec.or_zero, dscr_flags, BitVec.and_or_distrib_right,
      BitVec.and_or_distrib_right, and_of_disjoint stopped.tidy.control none, BitVec.zero_or,
      and_of_disjoint (flags_within unit) (by decide), BitVec.or_zero]
  simp only [CortexA.haltReason, moe]

/-- The core goes on, as instructions are disabled. -/
structure Resumed (fact : Core → Prop) (session : Session) : Prop where
  restarted : session.unit.restarted = true
  disabled : session.unit.control &&& itrEnable = 0
  running : session.unit.entry &&& dscrHalted = 0
  fact : fact session.unit.core

/-- What the resumed core has. -/
abbrev Released (original : Core) (memory : Memory) (cache : RegCache) : Session → Prop :=
  Resumed (Restored original memory cache (cachedPc cache) 15)

theorem disabled (dscr : BitVec 32) : dscr &&& ~~~itrEnable &&& controlMask &&& itrEnable = 0 := by
  rw [BitVec.and_assoc, BitVec.and_assoc, show ~~~itrEnable &&& (controlMask &&& itrEnable) = 0#32 by decide,
    BitVec.and_zero]
  rfl

theorem returns {α : Type} {before : Session → Prop} {program : Action α} {after : α → Session → Prop}
    (met : Meets before program after never) {session : Session} (holds : before session) :
    ∃ value final, program session = (.ok value, final) ∧ after value final := by
  have result := met session holds
  revert result
  cases program session with
  | mk ending final =>
    cases ending with
    | ok value => exact fun result => ⟨value, final, rfl, result⟩
    | error reason => exact fun result => result.elim

/-- A debugger that only looks leaves the core as it was. -/
theorem Restored.untouched {core : Core}
    (restored : Restored original memory (cacheOf original) (original.pc &&& ~~~1#32) 15 core) :
    core.registers = original.registers ∧ core.cpsr = original.cpsr ∧ core.fpscr = original.fpscr ∧ core.d = original.d := by
  have mode : core.mode = original.mode := congrArg (BitVec.setWidth 5) restored.cpsr
  refine ⟨funext fun place => ?_, restored.cpsr, restored.fpscr, funext fun j => ?_⟩
  · by_cases used : ∃ regno < 15, place = CortexADebug.place original.mode regno
    · obtain ⟨regno, small, rfl⟩ := used
      have same := restored.general regno small
      rw [Core.reg, mode] at same
      refine same.trans ?_
      show (if (Fin.ofNat 16 regno).val < 15 then original.reg (Fin.ofNat 16 regno).val else original.pc) = _
      rw [ofNat_val (by omega), if_pos small, Core.reg]
    · have apart : ∀ regno < 15, place ≠ CortexADebug.place original.mode regno := fun regno small same =>
        used ⟨regno, small, same⟩
      exact restored.registers place apart (apart 13 (by decide))
  · rcases Nat.lt_or_ge j 16 with below | above
    · refine (restored.doubles j below).trans ?_
      show original.d (Fin.ofNat 16 j).val = original.d j
      rw [ofNat_val below]
    · exact restored.beyond j above

/-- A core that was halted on request, with memory at the low addresses. -/
def halted : Session where
  unit := {
    core := {
      registers := fun place => BitVec.ofNat 32 place.1
      pc := 0x8000
      cpsr := 0x1df
      fpscr := 0
      d := fun _ => 0
      par := 0
      memory := fun address => if address.toNat < 0x2000 then some 0 else none }
    control := haltDbgEnable
    entry := dscrHalted
    dtrrx := 0
    rxFull := false
    dtrtx := 0
    txFull := false
    itr := 0
    sticky := false
    pending := 0
    issued := 0
    bvr := fun _ => 0
    bcr := fun _ => 0
    wvr := fun _ => 0
    wcr := fun _ => 0
    restarted := false }
  priv := ⟨⟨fun _ => 0, 0, 0, fun _ => 0⟩, 0, 0, false, 0, 0, 6, 4⟩

def deeds : List Deed := [.memWrite 0x1001 [1, 2, 3], .checkError, .memRead 0x1ffc 4]

end Sessions

end BlackMagic.Proofs.CortexASessions
