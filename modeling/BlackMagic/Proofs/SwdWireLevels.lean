import BlackMagic.Lib.Simulation
import BlackMagic.SwdWire

/-! What the sequences of the SWD pins are to the target: bits that it hears, and bits that it says. -/

namespace BlackMagic.Proofs.SwdWireLevels
open SwdWire Lib Lib.Bits
open SwdAccess (Environment Sent makePacketRequest adiv5ApnDp swdpAckOk)

section Words
variable {width : Nat}

theorem count_bitsOf (word : BitVec 32) : (bitsOf 32 word).count true = popcount word := by
  rw [bitsOf, popcount, List.count, List.countP_map]
  congr 1
  funext place
  simp

/-- A word with the bits from a place on put in. -/
def gather : Nat → List Bool → BitVec 32 → BitVec 32
  | _, [], value => value
  | cycle, bit :: rest, value => gather (cycle + 1) rest (value ||| if bit then 1#32 <<< cycle else 0#32)

theorem gather_bits (bits : List Bool) (cycle : Nat) (value : BitVec 32) (place : Nat) (inside : place < 32) :
    (gather cycle bits value).getLsbD place =
      (value.getLsbD place || (decide (cycle ≤ place) && bits.getD (place - cycle) false)) := by
  induction bits generalizing cycle value with
  | nil => simp [gather]
  | cons bit rest ih =>
    rw [gather, ih]
    rcases Nat.lt_trichotomy place cycle with before | here | behind
    · have outside : ¬ cycle + 1 ≤ place := by omega
      have later : ¬ cycle ≤ place := by omega
      cases bit <;> simp [outside, later, before]
    · subst here
      cases bit <;> simp [inside]
    · obtain ⟨more, rfl⟩ : ∃ more, place = cycle + 1 + more := ⟨place - cycle - 1, by omega⟩
      have shifted : cycle + 1 + more - cycle = more + 1 := by omega
      have first : cycle ≤ cycle + 1 + more := by omega
      have other : cycle + 1 + more - (cycle + 1) = more := by omega
      cases bit
      · simp [shifted, first, other]
      · have apart : ¬ cycle + 1 + more - cycle = 0 := by omega
        simp [shifted, first, other, inside]

theorem gather_word {count : Nat} (word : BitVec width) (count_le : count ≤ 32) :
    gather 0 (bitsOf count word) 0#32 = (wordOf count (bitsOf count word)).setWidth 32 := by
  apply BitVec.eq_of_getLsbD_eq
  intro place inside
  rw [gather_bits _ _ _ _ inside]
  simp only [BitVec.getLsbD_zero, Bool.false_or, Nat.zero_le, decide_true, Bool.true_and, Nat.sub_zero, inside,
    wordOf, BitVec.getLsbD_setWidth, BitVec.getLsbD_ofBoolListLE]
  by_cases short : place < count
  · simp [short]
  · have beyond : (bitsOf count word).length ≤ place := by simp; omega
    simp [short, List.getElem?_eq_none beyond]

end Words

section Levels
variable (env : Environment)

def Quiet (target : Target) : Prop := drives target.phase = none

/-- The target hears these bits and never drives the wire meanwhile. -/
def Hears : List Bool → Target → Target → Prop
  | [], target, final => target = final
  | bit :: rest, target, final => Quiet (edge env bit target) ∧ Hears rest (edge env bit target) final

/-- The target says these bits. -/
def Says : List Bool → Target → Target → Prop
  | [], target, final => target = final
  | bit :: rest, target, final => drives target.phase = some bit ∧ Says rest (edge env bit target) final

variable {env} {target middle final : Target}

theorem Hears.append {first second : List Bool} (heard : Hears env first target middle)
    (rest : Hears env second middle final) : Hears env (first ++ second) target final := by
  induction first generalizing target with
  | nil =>
    cases heard
    exact rest
  | cons bit first ih => exact ⟨heard.1, ih heard.2⟩

variable {port : Port}

theorem setClk_driving (low : port.swclk = false) (drives : port.driving = true) (unclashed : port.clash = false)
    (quiet : Quiet (edge env port.swdio port.target)) :
    port.setClk env = { port with swclk := true, target := edge env port.swdio port.target } := by
  simp only [Port.setClk, low, Bool.false_eq_true, if_false, Port.level, drives, if_true, Port.watched, unclashed]
  rw [quiet]
  rfl

theorem setClk_floating (low : port.swclk = false) (floats : port.driving = false) :
    port.setClk env = { port with swclk := true, target := edge env port.level port.target } := by
  simp [Port.setClk, low, Port.watched, floats]

/-- What a sequence leaves behind at a port that drives. -/
def after (port : Port) (swclk swdio : Bool) (target : Target) : Port :=
  { port with swclk := swclk, swdio := swdio, target := target }

theorem seqOutCycles_hears {tmsStates : BitVec 32} {left cycle : Nat} (drives : port.driving = true)
    (unclashed : port.clash = false)
    (heard : Hears env ((List.range left).map fun place => tmsStates.getLsbD (cycle + place)) port.target final) :
    ∃ swclk swdio, seqOutCycles env tmsStates left cycle port = after port swclk swdio final := by
  induction left generalizing cycle port with
  | zero =>
    cases heard
    exact ⟨port.swclk, port.swdio, rfl⟩
  | succ left ih =>
    rw [List.range_succ_eq_map, List.map_cons, List.map_map] at heard
    obtain ⟨quiet, rest⟩ := heard
    simp only [Nat.add_zero] at quiet rest
    have stepped : ((port.clearClk.setIo (tmsStates.getLsbD cycle)).setClk env) =
        after port true (tmsStates.getLsbD cycle) (edge env (tmsStates.getLsbD cycle) port.target) :=
      @setClk_driving env (port.clearClk.setIo (tmsStates.getLsbD cycle)) rfl drives unclashed quiet
    rw [seqOutCycles, stepped]
    have shifted : ((List.range left).map fun place => tmsStates.getLsbD (cycle + 1 + place)) =
        (List.range left).map ((fun place => tmsStates.getLsbD (cycle + place)) ∘ Nat.succ) := by
      apply List.map_congr_left
      intro place _
      simp only [Function.comp, Nat.succ_eq_add_one]
      congr 1
      omega
    rw [← shifted] at rest
    exact @ih (after port true (tmsStates.getLsbD cycle) (edge env (tmsStates.getLsbD cycle) port.target)) (cycle + 1)
      drives unclashed rest

theorem turnaround_same {drive : Bool} (same : drive = port.olddir) : turnaround env drive port = port := if_pos same

theorem seqOut_hears {tmsStates : BitVec 32} {count : Nat} (toward : port.olddir = true) (drives : port.driving = true)
    (unclashed : port.clash = false) (heard : Hears env (bitsOf count tmsStates) port.target final) :
    ∃ swdio, swdptapSeqOut env tmsStates count port = after port false swdio final := by
  have bits : Hears env ((List.range count).map fun place => tmsStates.getLsbD (0 + place)) port.target final := by
    simp only [Nat.zero_add]
    exact heard
  obtain ⟨swclk, swdio, cycles⟩ := seqOutCycles_hears drives unclashed bits
  exact ⟨swdio, by rw [swdptapSeqOut, turnaround_same toward.symm, cycles]; rfl⟩

theorem seqInCycles_said {bits : List Bool} {cycle : Nat} {value : BitVec 32} (floats : port.driving = false)
    (said : Says env bits port.target final) :
    ∃ swclk, seqInCycles env bits.length cycle value port =
      (gather cycle bits value, after port swclk port.swdio final) := by
  induction bits generalizing cycle value port with
  | nil =>
    cases said
    exact ⟨port.swclk, rfl⟩
  | cons bit rest ih =>
    obtain ⟨driven, said⟩ := said
    have level : port.clearClk.level = bit := by
      simp [Port.level, Port.clearClk, floats, driven]
    have stepped : port.clearClk.setClk env = after port true port.swdio (edge env bit port.target) := by
      rw [@setClk_floating env port.clearClk rfl floats, level]
      rfl
    rw [List.length_cons, seqInCycles, stepped, level, gather]
    exact @ih (after port true port.swdio (edge env bit port.target)) _ _ floats said

end Levels

end BlackMagic.Proofs.SwdWireLevels
