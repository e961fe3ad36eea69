import BlackMagic.Proofs.SwdWireFaithful

/-! Accesses and line resets one after the other, over the pins and at the debug port. -/

namespace BlackMagic.Proofs.SwdWireSessions
open SwdWire SwdWireLevels SwdWireRuns SwdWireFaithful Lib Lib.Program Lib.Bits
open SwdAccess (Environment Sent Halt DebugPort swdpAckOk swdpAckWait swdpAckFault)

section Resets
variable {env : Environment} {port : Port} {target final : Target} {dp : DebugPort}

/-- The target drives nothing, and ones do not end a request that it would answer. -/
def Listening : Phase → Prop
  | .request bits => bits.getD 6 true = true
  | .answering _ | .ack _ _ | .dataOut _ => False
  | _ => True

theorem Listening.quiet {phase : Phase} (listening : Listening phase) : drives phase = none := by
  cases phase with
  | ack request left => exact listening.elim
  | dataOut left => exact listening.elim
  | _ => rfl

theorem getD_append_one {bits : List Bool} (stops : bits.getD 6 true = true) : (bits ++ [true]).getD 6 true = true := by
  by_cases inside : 6 < bits.length
  · rw [List.getD_append _ _ _ _ inside, stops]
  · rw [List.getD_append_right _ _ _ _ (by omega)]
    grind

theorem requestIntact_ones {bits : List Bool} (stops : bits.getD 6 true = true) :
    requestIntact (bits ++ [true]) = false := by
  have seventh := getD_append_one stops
  unfold requestIntact
  split
  next start apndp rnw a2 a3 parity stop park same =>
    have stop : stop = true := by
      rw [same] at seventh
      exact seventh
    simp [stop]
  · rfl

/-- No data are being received. -/
def Untaken : Phase → Prop
  | .receiving | .dataIn _ => False
  | _ => True

/-- What so many ones leave behind at a target that listens. -/
structure Counted (count : Nat) (target next : Target) : Prop where
  listening : Listening next.phase
  ones : next.ones = target.ones + count
  requests : next.requests = target.requests
  untaken : Untaken target.phase → Untaken next.phase ∧ next.seen = target.seen

theorem Counted.add {first second : Nat} {target middle next : Target} (counted : Counted first target middle)
    (more : Counted second middle next) : Counted (first + second) target next where
  listening := more.listening
  ones := by rw [more.ones, counted.ones, Nat.add_assoc]
  requests := more.requests.trans counted.requests
  untaken := fun untaken =>
    have middle := counted.untaken untaken
    have last := more.untaken middle.1
    ⟨last.1, last.2.trans middle.2⟩

theorem requestBit_counted {bits : List Bool} (stops : bits.getD 6 true = true) :
    Counted 1 target (requestBit (bits ++ [true]) { target with ones := target.ones + 1 }) := by
  rw [requestBit]
  split
  · exact ⟨getD_append_one stops, rfl, rfl, fun _ => ⟨trivial, rfl⟩⟩
  · rw [requestIntact_ones stops]
    exact ⟨trivial, rfl, rfl, fun _ => ⟨trivial, rfl⟩⟩

theorem dataBit_counted {bits got : List Bool} (receiving : target.phase = .dataIn got) :
    Counted 1 target (dataBit bits { target with ones := target.ones + 1 }) := by
  have never : Untaken target.phase → False := by
    rw [receiving]
    exact id
  rw [dataBit]
  split
  · exact ⟨trivial, rfl, rfl, fun untaken => (never untaken).elim⟩
  · split <;> exact ⟨trivial, rfl, rfl, fun untaken => (never untaken).elim⟩

theorem listen_counted {phase : Phase} {ones requests : Nat} {seen : List Sent} (listening : Listening phase) :
    Counted 1 ⟨phase, ones, requests, seen⟩ (SwdWire.listen env true ⟨phase, ones + 1, requests, seen⟩) := by
  cases phase with
  | idle => exact @requestBit_counted ⟨.idle, ones, requests, seen⟩ [] rfl
  | request bits => exact @requestBit_counted ⟨.request bits, ones, requests, seen⟩ bits listening
  | dataIn bits => exact @dataBit_counted ⟨.dataIn bits, ones, requests, seen⟩ _ bits rfl
  | receiving => exact ⟨trivial, rfl, rfl, fun never => never.elim⟩
  | answering request => exact listening.elim
  | ack request left => exact listening.elim
  | dataOut left => exact listening.elim
  | _ => exact ⟨trivial, rfl, rfl, fun _ => ⟨trivial, rfl⟩⟩

/-- A one is heard, and enough of them reset the target. -/
theorem edge_one {phase : Phase} {ones requests : Nat} {seen : List Sent} (listening : Listening phase) :
    edge env true ⟨phase, ones, requests, seen⟩ =
      if resetOnes ≤ ones + 1 then ⟨.reset, ones + 1, requests, seen⟩
      else SwdWire.listen env true ⟨phase, ones + 1, requests, seen⟩ := by
  cases phase with
  | answering request => exact listening.elim
  | ack request left => exact listening.elim
  | dataOut left => exact listening.elim
  | _ => rfl

theorem one_heard (listening : Listening target.phase) : Counted 1 target (edge env true target) := by
  obtain ⟨phase, ones, requests, seen⟩ := target
  rw [edge_one listening]
  split
  · exact ⟨trivial, rfl, rfl, fun _ => ⟨trivial, rfl⟩⟩
  · exact listen_counted listening

theorem ones_heard {count : Nat} (listening : Listening target.phase) :
    ∃ final, Hears env (List.replicate count true) target final ∧ Counted count target final := by
  induction count generalizing target with
  | zero => exact ⟨target, rfl, listening, rfl, rfl, fun untaken => ⟨untaken, rfl⟩⟩
  | succ count ih =>
    have counted : Counted 1 target (edge env true target) := one_heard listening
    obtain ⟨final, heard, rest⟩ := ih counted.listening
    refine ⟨final, ⟨counted.listening.quiet, heard⟩, ?_⟩
    rw [Nat.add_comm count 1]
    exact counted.add rest

theorem more_ones_heard {count : Nat} (listening : Listening target.phase) (enough : resetOnes ≤ target.ones + 1) :
    Hears env (List.replicate (count + 1) true) target
      ⟨.reset, target.ones + (count + 1), target.requests, target.seen⟩ := by
  obtain ⟨phase, ones, requests, seen⟩ := target
  induction count generalizing phase ones with
  | zero =>
    have stepped := @edge_one env phase ones requests seen listening
    rw [if_pos enough] at stepped
    exact ⟨by rw [stepped]; rfl, stepped⟩
  | succ count ih =>
    have stepped := @edge_one env phase ones requests seen listening
    rw [if_pos enough] at stepped
    refine ⟨by rw [stepped]; rfl, ?_⟩
    have later : resetOnes ≤ ones + 1 + 1 := Nat.le_succ_of_le enough
    have rest := ih .reset (ones + 1) trivial later
    have sum : ones + (count + 1 + 1) = ones + 1 + (count + 1) := by omega
    simp only [stepped, sum]
    exact rest

theorem zeros_heard {count ones requests : Nat} {seen : List Sent} :
    Hears env (List.replicate (count + 1) false) ⟨.reset, ones, requests, seen⟩ ⟨.idle, 0, requests, seen⟩ := by
  have stepped : edge env false ⟨.reset, ones, requests, seen⟩ = ⟨.idle, 0, requests, seen⟩ := rfl
  refine ⟨by rw [stepped]; rfl, ?_⟩
  rw [stepped]
  cases count with
  | zero => rfl
  | succ count => exact idle_heard (Nat.succ_ne_zero count)

/-- Both ends can be brought back: nothing clashes, and the target drives nothing. -/
structure Recoverable (port : Port) : Prop where
  unclashed : port.clash = false
  facing : port.driving = port.olddir
  listening : Listening port.target.phase

/-- The port of a target that has just been reset. -/
structure Fresh (port : Port) : Prop where
  unclashed : port.clash = false
  toward : port.olddir = true
  drives : port.driving = true
  idle : port.target.phase = .idle
  few : port.target.ones = 0

theorem turned_recoverable (recoverable : Recoverable port) :
    ∃ swclk target count, Counted count port.target target ∧
      turnaround env true port = { port with olddir := true, driving := true, swclk := swclk, target := target } := by
  cases toward : port.olddir with
  | true =>
    refine ⟨port.swclk, port.target, 0, ⟨recoverable.listening, rfl, rfl, fun untaken => ⟨untaken, rfl⟩⟩, ?_⟩
    rw [turnaround_same toward.symm]
    have driven := recoverable.facing.trans toward
    obtain ⟨swclk, swdio, driving, olddir, fault, target, clash⟩ := port
    simp only at toward driven
    rw [toward, driven]
  | false =>
    have counted : Counted 1 port.target (edge env true port.target) := one_heard recoverable.listening
    refine ⟨true, edge env true port.target, 1, counted, ?_⟩
    have level : Port.level { port with olddir := true, swclk := false } = true := by
      simp [Port.level, recoverable.facing.trans toward, recoverable.listening.quiet]
    rw [turnaround, if_neg (by simp [toward])]
    simp only [if_true, Port.clearClk]
    rw [@setClk_floating env { port with olddir := true, swclk := false } rfl (recoverable.facing.trans toward), level]
    simp [Port.modeDrive, Port.watched, counted.listening.quiet, recoverable.unclashed]

/-- After a line reset the target awaits a request, whatever it was about to hear. -/
theorem lineReset_fresh (recoverable : Recoverable port) :
    Fresh (swdLineResetSequence env true port) ∧
      (swdLineResetSequence env true port).target.requests = port.target.requests ∧
      (swdLineResetSequence env true port).fault = port.fault ∧
      (Untaken port.target.phase → (swdLineResetSequence env true port).target.seen = port.target.seen) := by
  obtain ⟨swclk, target, count, turning, turned⟩ := @turned_recoverable env port recoverable
  obtain ⟨first, heard, counted⟩ := @ones_heard env _ 32 turning.listening
  have bits : bitsOf 32 0xffffffff#32 = List.replicate 32 true := by decide +kernel
  rw [← bits] at heard
  obtain ⟨swdio, sent⟩ := @seqOut_hears env _
    { port with olddir := true, driving := true, swclk := swclk, target := target } 0xffffffff#32 32 rfl rfl
    recoverable.unclashed heard
  rw [← turned, seqOut_turned, turned] at sent
  obtain ⟨second, more, continued⟩ := @ones_heard env _ 17 counted.listening
  have enough : resetOnes ≤ second.ones + 1 := by
    rw [continued.ones, counted.ones]
    simp only [resetOnes]
    omega
  have rest : Hears env (bitsOf 32 0x0fffffff#32) first ⟨.idle, 0, second.requests, second.seen⟩ := by
    have split : bitsOf 32 0x0fffffff#32 =
        List.replicate 17 true ++ (List.replicate (10 + 1) true ++ List.replicate (3 + 1) false) := by decide +kernel
    rw [split]
    exact more.append ((more_ones_heard continued.listening enough).append zeros_heard)
  obtain ⟨last, done⟩ := @seqOut_hears env _
    (after { port with olddir := true, driving := true, swclk := swclk, target := target } false swdio first) 0x0fffffff#32
    32 rfl rfl recoverable.unclashed rest
  have whole : swdLineResetSequence env true port =
      swdptapSeqOut env 0x0fffffff#32 32 (swdptapSeqOut env 0xffffffff#32 32 port) := rfl
  have total := (turning.add counted).add continued
  rw [whole, sent, done]
  exact ⟨⟨recoverable.unclashed, rfl, rfl, rfl, rfl⟩, total.requests, rfl, fun untaken => (total.untaken untaken).2⟩

end Resets

section Sessions
variable {env : Environment} {port : Port} {dp : DebugPort}

/-- What is done with a port. -/
inductive Deed where
  | access (rnw : Bool) (addr : BitVec 16) (value : BitVec 32)
  | lineReset

/-- A deed over the pins. -/
def wired (env : Environment) (rounds : Nat) : Deed → Action (BitVec 32)
  | .access rnw addr value => firmwareSwdpLowAccess env rounds rnw addr value
  | .lineReset => do
    change (swdLineResetSequence env true)
    pure 0

/-- A deed at the debug port, to which a line reset is nothing. -/
def plain (env : Environment) (rounds : Nat) : Deed → SwdAccess.Action (BitVec 32)
  | .access rnw addr value => SwdAccess.firmwareSwdpLowAccess env rounds rnw addr value
  | .lineReset => pure 0

theorem linked_recoverable (linked : Linked port dp) : Recoverable port where
  unclashed := linked.unclashed
  facing := linked.facing
  listening := by
    rw [linked.waiting]
    split <;> trivial

theorem lineReset_linked (linked : Linked port dp) : Linked (swdLineResetSequence env true port) dp := by
  obtain ⟨fresh, requests, fault, untaken⟩ := @lineReset_fresh env port (linked_recoverable linked)
  have seen : (swdLineResetSequence env true port).target.seen = port.target.seen := by
    apply untaken
    rw [linked.waiting]
    split <;> trivial
  exact { fault := fault.trans linked.fault
          requests := requests.trans linked.requests
          seen := seen.trans linked.seen
          unclashed := fresh.unclashed
          facing := fresh.drives.trans fresh.toward.symm
          waiting := by rw [fresh.toward, fresh.idle]; rfl
          few := by rw [fresh.few]; exact Nat.zero_le 1 }

theorem wired_follows (rounds : Nat) (deed : Deed) :
    Follows Linked (wired env rounds deed) (plain env rounds deed) (fun _ => Linked) Linked := by
  cases deed with
  | access rnw addr value => exact firmwareSwdpLowAccess_follows rounds rnw addr value
  | lineReset =>
    intro port dp linked
    exact ⟨rfl, lineReset_linked linked⟩

/-- Whatever accesses and line resets are made, over the pins they end as they do at the debug port, the target receives
the requests and the data that the debug port sends, and no two drive the wire at once. -/
theorem session_faithful (rounds : Nat) (deeds : List Deed) (linked : Linked port dp) :
    (attempts (wired env rounds) deeds port).1 = (attempts (plain env rounds) deeds dp).1 ∧
      Linked (attempts (wired env rounds) deeds port).2 (attempts (plain env rounds) deeds dp).2 :=
  attempts_follow (fun deed _ => wired_follows rounds deed) linked

/-- A port at rest. -/
def restingPort : Port := ⟨false, false, true, true, 0, ⟨.idle, 0, 0, []⟩, false⟩

/-- A target that answers the first request with a wait, the second with a fault, and all others. -/
def busyTarget : Environment where
  ack n := if n = 0 then swdpAckWait else if n = 1 then swdpAckFault else swdpAckOk
  response n := BitVec.ofNat 32 (0x2ba01477 + n)
  parityError n := decide (n = 4)
  platformTimeMs n := n

def busySession : List Deed :=
  [.access true 0x04 0, .lineReset, .access false 0x08 0xf0, .access true 0x10c 0]

theorem session_faithful_busy :
    (attempts (wired busyTarget 9) busySession restingPort).1 = (attempts (plain busyTarget 9) busySession ⟨0, 0, []⟩).1 ∧
      Linked (attempts (wired busyTarget 9) busySession restingPort).2
        (attempts (plain busyTarget 9) busySession ⟨0, 0, []⟩).2 :=
  session_faithful 9 busySession ⟨⟨rfl, rfl, rfl, rfl⟩, rfl, rfl, Nat.zero_le 1⟩

end Sessions

end BlackMagic.Proofs.SwdWireSessions
