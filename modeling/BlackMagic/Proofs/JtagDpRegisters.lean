import BlackMagic.Proofs.JtagDpSessions

/-! A clock that leaves the debug ports time enough: every access is made once, and a read returns what the register
reads. -/

namespace BlackMagic.Proofs.JtagDpRegisters
open Lib Lib.Program Lib.Tap
open Jtag (Probe)
open SwdAccess (Halt adiv5ApnDp)
open JtagDp JtagDpWire JtagDpSessions JtagAccess

variable {δ : Type} {behaviour : Nat → Behaviour δ} {platformTimeMs : Nat → Nat} {devIndex : Nat}

section Requests

end Requests

section Straight
variable {ir : BitVec 32} {request : BitVec 64} {transaction : Transaction} {timeout : Nat} {link : Link (Ports δ)}

/-- A port after an access that it has let wait as long as it was busy. -/
def DebugPort.after (behaviour : Behaviour δ) (transaction : Transaction) (port : DebugPort δ) : DebugPort δ :=
  { port with busy := 0 }.request behaviour transaction

/-- The link after such an access. -/
def accessed (behaviour : Nat → Behaviour δ) (devIndex : Nat) (transaction : Transaction) (link : Link (Ports δ)) :
    Link (Ports δ) :=
  { link with
    scans := link.scans + (link.wire.ports devIndex).busy + 1
    wire := { link.wire with
      ports := Function.update link.wire.ports devIndex
        (DebugPort.after (behaviour devIndex) transaction (link.wire.ports devIndex)) } }

/-- The link after one scan. -/
def scanned (behaviour : Nat → Behaviour δ) (devIndex : Nat) (request : BitVec 64) (link : Link (Ports δ)) : Link (Ports δ) :=
  { link with wire := link.wire.update behaviour devIndex request, scans := link.scans + 1 }

end Straight

section Cores
variable {limit rounds : Nat} {link : Link (Ports δ)} {cores : Nat → Core δ}

/-- The waits end before the timeout. -/
structure Patient (platformTimeMs : Nat → Nat) (behaviour : Nat → Behaviour δ) (limit : Nat) : Prop where
  delay : ∀ devIndex performed, (behaviour devIndex).delay performed ≤ limit
  clock : ∀ scans, ∀ more ≤ limit, platformTimeMs (scans + more) ≤ platformTimeMs scans + 250

/-- A port of which this is the core. -/
structure Holds (limit : Nat) (core : Core δ) (port : DebugPort δ) : Prop where
  registers : port.registers = core.registers
  result : port.result = core.result
  performed : port.performed = core.performed
  busy : port.busy ≤ limit

def Settled (limit : Nat) (link : Link (Ports δ)) (cores : Nat → Core δ) : Prop :=
  ∀ devIndex, Holds limit (cores devIndex) (link.wire.ports devIndex)

def completed (behaviour : Nat → Behaviour δ) (devIndex : Nat) (transaction : Transaction) (cores : Nat → Core δ) : Core δ :=
  let (result, registers) := (behaviour devIndex).perform transaction (cores devIndex).registers
  ⟨registers, result, (cores devIndex).performed ++ [transaction]⟩

theorem complete_runs (devIndex : Nat) (transaction : Transaction) (cores : Nat → Core δ) :
    complete behaviour devIndex transaction cores =
      (.ok (completed behaviour devIndex transaction cores).result,
        Function.update cores devIndex (completed behaviour devIndex transaction cores)) := rfl

theorem Holds.after (patient : Patient platformTimeMs behaviour limit) {port : DebugPort δ} (transaction : Transaction)
    (holds : Holds limit (cores devIndex) port) :
    Holds limit (completed behaviour devIndex transaction cores) (DebugPort.after (behaviour devIndex) transaction port) := by
  have outcome : DebugPort.after (behaviour devIndex) transaction port =
      ⟨((behaviour devIndex).perform transaction port.registers).2, ((behaviour devIndex).perform transaction port.registers).1,
        (behaviour devIndex).delay (port.performed ++ [transaction]), port.performed ++ [transaction]⟩ := rfl
  rw [outcome, holds.registers, holds.performed]
  exact ⟨rfl, rfl, rfl, patient.delay devIndex _⟩

end Cores

section Chains
variable {served : Nat → Prop} {parts : List (ChainPart (DebugPort δ))} {limit rounds : Nat} {stack : Buffer}

/-- A chain at rest whose ports have these cores. -/
structure Holding (served : Nat → Prop) (parts : List (ChainPart (DebugPort δ))) (limit : Nat)
    (link : Link (Probe (DebugPort δ))) (cores : Nat → Core δ) : Prop where
  ready : Ready parts link.wire
  ports : ∀ i, served i → ∃ port, (link.wire.chain.devices[i]?).map Device.state = some port ∧ Holds limit (cores i) port

theorem Holding.straight {link : Link (Probe (DebugPort δ))} {cores : Nat → Core δ}
    (holding : Holding served parts limit link cores) :
    ∃ straight, Linked served parts link straight ∧ Settled limit straight cores := by
  have each : ∀ i, ∃ port, (served i → (link.wire.chain.devices[i]?).map Device.state = some port) ∧
      Holds limit (cores i) port := by
    intro i
    by_cases at_ : served i
    · obtain ⟨port, found, holds⟩ := holding.ports i at_
      exact ⟨port, fun _ => found, holds⟩
    · exact ⟨⟨(cores i).registers, (cores i).result, 0, (cores i).performed⟩, fun here => absurd here at_,
        ⟨rfl, rfl, rfl, Nat.zero_le limit⟩⟩
  choose ports same holds using each
  exact ⟨⟨⟨ports, fun _ => 0⟩, link.fault, link.scans⟩, ⟨rfl, rfl, holding.ready, same⟩, holds⟩

end Chains

end BlackMagic.Proofs.JtagDpRegisters
