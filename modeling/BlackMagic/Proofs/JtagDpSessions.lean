import BlackMagic.Proofs.JtagDpWire

/-! What is asked of the debug ports on a chain goes as if the ports were driven straight. -/

namespace BlackMagic.Proofs.JtagDpSessions
open Lib Lib.Program Lib.Tap
open Jtag (Probe)
open JtagDp JtagDpWire

variable {δ : Type} {behaviour : Nat → Behaviour δ} {served : Nat → Prop} {parts : List (ChainPart (DebugPort δ))}
  {stack : Buffer} {platformTimeMs : Nat → Nat}

section Simulation
variable {devIndex : Nat} {ir : BitVec 32}

/-- The two sides have made the same scans and have the same faults. -/
def Linked (served : Nat → Prop) (parts : List (ChainPart (DebugPort δ))) (link : Link (Probe (DebugPort δ)))
    (straight : Link (Ports δ)) : Prop :=
  link.fault = straight.fault ∧ link.scans = straight.scans ∧ Wired served parts link.wire straight.wire

def LinkedAt (served : Nat → Prop) (parts : List (ChainPart (DebugPort δ))) (devIndex : Nat) (ir : BitVec 32)
    (link : Link (Probe (DebugPort δ))) (straight : Link (Ports δ)) : Prop :=
  link.fault = straight.fault ∧ link.scans = straight.scans ∧ Selected served parts devIndex ir link.wire straight.wire

theorem LinkedAt.linked {link : Link (Probe (DebugPort δ))} {straight : Link (Ports δ)}
    (linked : LinkedAt served parts devIndex ir link straight) : Linked served parts link straight :=
  ⟨linked.1, linked.2.1, linked.2.2.toWired⟩

theorem writeIr_follows (equipped : Equipped behaviour served parts) (at_ : served devIndex) (accessible : Accessible ir) :
    Follows (Linked served parts) (jtagDevWriteIr (probeWire stack) devIndex ir)
      (jtagDevWriteIr (portWire behaviour) devIndex ir) (fun _ => LinkedAt served parts devIndex ir) (Linked served parts) :=
  follows_change fun _ _ linked => ⟨linked.1, linked.2.1, writeIr_selected equipped linked.2.2 at_ accessible⟩

theorem scan_follows (equipped : Equipped behaviour served parts) (at_ : served devIndex) (accessible : Accessible ir)
    (request : BitVec 64) :
    Follows (LinkedAt served parts devIndex ir) (scan (probeWire stack) devIndex request)
      (scan (portWire behaviour) devIndex request) (fun _ => LinkedAt served parts devIndex ir) (Linked served parts) := by
  intro link straight linked
  obtain ⟨selected, stored⟩ := shiftDr_selected equipped linked.2.2 at_ accessible (some stack) request
  obtain ⟨buffer, result, same⟩ := stored rfl
  have response : ((probeWire stack).shiftDr devIndex request link.wire).1 = doubleWordAt buffer := by
    show doubleWordAt ((Jtag.jtagDevShiftDr devIndex (some stack) (bytesOf request) 35 link.wire).1.getD stack) = _
    rw [result]
    rfl
  obtain ⟨value, ack⟩ := response_low same
  refine ⟨?_, linked.1, congrArg (· + 1) linked.2.1, selected⟩
  rw [response, value, ack]
  rfl

theorem timeoutSet_follows (ms : Nat) :
    Follows (LinkedAt served parts devIndex ir) (platformTimeoutSet platformTimeMs ms) (platformTimeoutSet platformTimeMs ms)
      (fun _ => LinkedAt served parts devIndex ir) (Linked served parts) := by
  intro link straight linked
  refine ⟨?_, linked⟩
  rw [linked.2.1]

theorem expired_follows (timeout : Nat) :
    Follows (LinkedAt served parts devIndex ir) (platformTimeoutIsExpired platformTimeMs timeout)
      (platformTimeoutIsExpired platformTimeMs timeout) (fun _ => LinkedAt served parts devIndex ir) (Linked served parts) := by
  intro link straight linked
  refine ⟨?_, linked⟩
  rw [linked.2.1]

theorem scanUntil_follows (equipped : Equipped behaviour served parts) (at_ : served devIndex) (accessible : Accessible ir)
    (request : BitVec 64) (timeout rounds : Nat) :
    Follows (LinkedAt served parts devIndex ir) (scanUntil platformTimeMs (probeWire stack) devIndex request timeout rounds)
      (scanUntil platformTimeMs (portWire behaviour) devIndex request timeout rounds)
      (fun _ => LinkedAt served parts devIndex ir) (Linked served parts) := by
  induction rounds with
  | zero => exact follows_stop fun _ _ linked => linked.linked
  | succ rounds ih =>
    refine (scan_follows equipped at_ accessible request).bind fun response => ?_
    refine (expired_follows timeout).bind fun late => ?_
    exact follows_ite (fun _ => ih) fun _ => follows_pure fun _ _ linked => linked

theorem abort_follows (equipped : Equipped behaviour served parts) (at_ : served devIndex) (abort : BitVec 32) :
    Follows (Linked served parts) (adiv5JtagdpAbort (probeWire stack) devIndex abort)
      (adiv5JtagdpAbort (portWire behaviour) devIndex abort) (fun _ => Linked served parts) (Linked served parts) := by
  have accessible : Accessible irAbort := .inl rfl
  refine (writeIr_follows equipped at_ accessible).bind fun _ => follows_change fun link straight linked => ?_
  have selected := (shiftDr_selected equipped linked.2.2 at_ accessible none (abort.setWidth 64 <<< 3)).1
  exact ⟨linked.1, congrArg (· + 1) linked.2.1, selected.toWired⟩

theorem setFault_follows (fault : BitVec 8) :
    Follows (Linked served parts) (setFault devIndex fault) (setFault devIndex fault) (fun _ => Linked served parts)
      (Linked served parts) :=
  follows_change fun _ _ linked => ⟨congrArg (Function.update · devIndex fault) linked.1, linked.2⟩

theorem lowAccess_follows (equipped : Equipped behaviour served parts) (at_ : served devIndex) (rounds : Nat) (rnw : Bool)
    (addr : BitVec 16) (value : BitVec 32) :
    Follows (Linked served parts) (fwAdiv5JtagdpLowAccess platformTimeMs (probeWire stack) rounds devIndex rnw addr value)
      (fwAdiv5JtagdpLowAccess platformTimeMs (portWire behaviour) rounds devIndex rnw addr value)
      (fun _ => Linked served parts) (Linked served parts) := by
  have accessible : Accessible (if addr &&& SwdAccess.adiv5ApnDp ≠ 0 then irApacc else irDpacc) := by
    split
    · exact .inr (.inr rfl)
    · exact .inr (.inl rfl)
  refine (writeIr_follows equipped at_ accessible).bind fun _ => ?_
  refine (timeoutSet_follows 250).bind fun timeout => ?_
  refine (scanUntil_follows equipped at_ accessible (requestOf rnw addr value) timeout rounds).bind fun response => ?_
  refine Follows.weaken (?_ : Follows (Linked served parts) _ _ _ _) (fun _ _ linked => linked.linked) (fun _ _ _ linked => linked)
    fun _ _ linked => linked
  refine follows_ite (fun _ => ?_) fun _ => ?_
  · refine (abort_follows equipped at_ _).bind fun _ => ?_
    exact (setFault_follows 1).bind fun _ => follows_pure fun _ _ linked => linked
  · exact follows_ite (fun _ => follows_stop fun _ _ linked => linked) fun _ => follows_pure fun _ _ linked => linked

theorem read_follows (equipped : Equipped behaviour served parts) (at_ : served devIndex) (rounds : Nat) (addr : BitVec 16) :
    Follows (Linked served parts) (fwAdiv5JtagdpRead platformTimeMs (probeWire stack) rounds devIndex addr)
      (fwAdiv5JtagdpRead platformTimeMs (portWire behaviour) rounds devIndex addr) (fun _ => Linked served parts)
      (Linked served parts) :=
  (lowAccess_follows equipped at_ rounds true addr 0).bind fun _ => lowAccess_follows equipped at_ rounds true adiv5DpRdbuff 0

theorem error_follows (equipped : Equipped behaviour served parts) (at_ : served devIndex) (rounds : Nat) :
    Follows (Linked served parts) (adiv5JtagdpError platformTimeMs (probeWire stack) rounds devIndex)
      (adiv5JtagdpError platformTimeMs (portWire behaviour) rounds devIndex) (fun _ => Linked served parts)
      (Linked served parts) := by
  refine (read_follows equipped at_ rounds adiv5DpCtrlstat).bind fun status => ?_
  refine (setFault_follows 0).bind fun _ => ?_
  exact (lowAccess_follows equipped at_ rounds false adiv5DpCtrlstat _).bind fun _ => follows_pure fun _ _ linked => linked

theorem perform_follows (equipped : Equipped behaviour served parts) (rounds : Nat) (item : Nat × Deed) (at_ : served item.1) :
    Follows (Linked served parts) (perform platformTimeMs (probeWire stack) rounds item)
      (perform platformTimeMs (portWire behaviour) rounds item) (fun _ => Linked served parts) (Linked served parts) := by
  obtain ⟨devIndex, deed⟩ := item
  cases deed with
  | lowAccess rnw addr value => exact lowAccess_follows equipped at_ rounds rnw addr value
  | dpRead addr => exact read_follows equipped at_ rounds addr
  | error => exact error_follows equipped at_ rounds
  | abort abort => exact (abort_follows equipped at_ abort).bind fun _ => follows_pure fun _ _ linked => linked

end Simulation

section Example

variable (behaviour : Behaviour δ) (registers : δ)

def plainPart : ChainPart (DebugPort δ) := portPart behaviour 0x4ba00477#32 [true, false, false, false]

end Example

end BlackMagic.Proofs.JtagDpSessions
