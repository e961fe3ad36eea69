import BlackMagic.Proofs.SwdWireRuns

/-! The accesses pin by pin follow those of the debug port, and the target receives what was sent. -/

namespace BlackMagic.Proofs.SwdWireFaithful
open SwdWire SwdWireLevels SwdWireRuns Lib Lib.Program Lib.Bits
open SwdAccess (Environment Sent Halt DebugPort makePacketRequest adiv5ApnDp swdpAckOk swdpAckWait swdpAckFault
  swdpAckNoResponse)

section Ports
variable {env : Environment} {port : Port} {dp : DebugPort}

/-- What has passed between the two ends is what the debug port knows of. -/
structure Agreeing (port : Port) (dp : DebugPort) : Prop where
  fault : port.fault = dp.fault
  requests : port.target.requests = dp.transactions
  seen : port.target.seen = dp.sent.filter (· ≠ .idle)
  unclashed : port.clash = false

/-- The probe drives the wire, and the target awaits a request. -/
structure Driving (most : Nat) (port : Port) (dp : DebugPort) : Prop extends Agreeing port dp where
  toward : port.olddir = true
  drives : port.driving = true
  idle : port.target.phase = .idle
  few : port.target.ones ≤ most

/-- Between two accesses: the probe may still have to turn the wire round. -/
structure Linked (port : Port) (dp : DebugPort) : Prop extends Agreeing port dp where
  facing : port.driving = port.olddir
  waiting : port.target.phase = if port.olddir then .idle else .leaving
  few : port.target.ones ≤ 1

/-- The data phase after an acknowledgement. -/
def answered (env : Environment) (rnw : Bool) (ack : BitVec 3) (dp : DebugPort) : Phase :=
  if ack ≠ swdpAckOk then .leaving
  else if rnw then .dataOut (answerBits env (dp.transactions - 1))
  else .receiving

/-- After a request and its acknowledgement. -/
structure Answered (env : Environment) (rnw : Bool) (ack : BitVec 3) (port : Port) (dp : DebugPort) : Prop
    extends Agreeing port dp where
  away : port.olddir = false
  floats : port.driving = false
  low : port.swclk = false
  phase : port.target.phase = answered env rnw ack dp
  few : port.target.ones = 0

theorem Driving.linked (driving : Driving 1 port dp) : Linked port dp where
  toAgreeing := driving.toAgreeing
  facing := driving.drives.trans driving.toward.symm
  waiting := by rw [driving.toward, driving.idle]; rfl
  few := driving.few

/-- A turn toward the target, at a target that lets go of the wire. -/
theorem turnaround_drive {before next : Phase} (away : port.olddir = false) (floats : port.driving = false)
    (leaves : port.target.phase = before) (quiet : drives before = none) (silent : drives next = none)
    (unclashed : port.clash = false)
    (stepped : edge env true port.target = { port.target with phase := next, ones := port.target.ones + 1 }) :
    turnaround env true port =
      { port with olddir := true, driving := true, swclk := true,
                  target := { port.target with phase := next, ones := port.target.ones + 1 } } := by
  have level : Port.level { port with olddir := true, swclk := false } = true := by
    simp [Port.level, floats, leaves, quiet]
  rw [turnaround, if_neg (by simp [away])]
  simp only [if_true, Port.clearClk]
  rw [@setClk_floating env { port with olddir := true, swclk := false } rfl floats, level]
  simp [Port.modeDrive, Port.watched, stepped, silent, unclashed]

theorem edge_leaving {target : Target} (leaving : target.phase = .leaving) (few : target.ones + 1 < resetOnes) :
    edge env true target = { target with phase := .idle, ones := target.ones + 1 } := by
  have early : ¬ resetOnes ≤ target.ones + 1 := by omega
  simp only [edge, leaving, if_true, if_neg early, SwdWire.listen]

theorem edge_receiving {target : Target} (receiving : target.phase = .receiving) (few : target.ones + 1 < resetOnes) :
    edge env true target = { target with phase := .dataIn [], ones := target.ones + 1 } := by
  have early : ¬ resetOnes ≤ target.ones + 1 := by omega
  simp only [edge, receiving, if_true, if_neg early, SwdWire.listen]

theorem Linked.turned (env : Environment) (linked : Linked port dp) : Driving 2 (turnaround env true port) dp := by
  have few := linked.few
  cases toward : port.olddir with
  | true =>
    rw [turnaround_same toward.symm]
    exact { toAgreeing := linked.toAgreeing
            toward := toward
            drives := linked.facing.trans toward
            idle := by rw [linked.waiting, toward]; rfl
            few := by omega }
  | false =>
    have leaving : port.target.phase = .leaving := by rw [linked.waiting, toward]; rfl
    rw [turnaround_drive toward (linked.facing.trans toward) leaving rfl rfl linked.unclashed
      (edge_leaving leaving (by simp only [resetOnes]; omega))]
    exact { fault := linked.fault
            requests := linked.requests
            seen := linked.seen
            unclashed := linked.unclashed
            toward := rfl
            drives := rfl
            idle := rfl
            few := by simp only; omega }

theorem turnaround_twice : turnaround env true (turnaround env true port) = turnaround env true port := by
  apply turnaround_same
  simp only [turnaround]
  split
  · assumption
  · rfl

theorem seqOut_turned {tmsStates : BitVec 32} {count : Nat} :
    swdptapSeqOut env tmsStates count (turnaround env true port) = swdptapSeqOut env tmsStates count port := by
  rw [swdptapSeqOut, turnaround_twice, swdptapSeqOut]

end Ports

section Sequences
variable {env : Environment} {port : Port} {dp : DebugPort}

/-- A request, and what the debug port knows after it. -/
theorem request_sent (env : Environment) (linked : Linked port dp) (rnw : Bool) (addr : BitVec 16) :
    ∃ swdio more, more ≤ 10 ∧
      swdptapSeqOut env ((makePacketRequest rnw addr).setWidth 32) 8 port =
        after (turnaround env true port) false swdio
          ⟨.answering (makePacketRequest rnw addr), more, dp.transactions + 1,
            dp.sent.filter (· ≠ .idle) ++ [.request (makePacketRequest rnw addr)]⟩ := by
  have turned := linked.turned env
  obtain ⟨more, most, heard⟩ := @request_heard env (turnaround env true port).target.ones
    (turnaround env true port).target.requests (turnaround env true port).target.seen turned.few rnw addr
  have start : (turnaround env true port).target = ⟨.idle, (turnaround env true port).target.ones,
      (turnaround env true port).target.requests, (turnaround env true port).target.seen⟩ := by
    rw [← turned.idle]
  have bits : bitsOf 8 ((makePacketRequest rnw addr).setWidth 32) = bitsOf 8 (makePacketRequest rnw addr) := by
    apply List.map_congr_left
    intro place inside
    have inside := List.mem_range.mp inside
    rw [BitVec.getLsbD_setWidth]
    simp only [show place < 32 by omega, decide_true, Bool.true_and]
  rw [← start, ← bits, turned.requests, turned.seen] at heard
  obtain ⟨swdio, sent⟩ := seqOut_hears turned.toward turned.drives turned.unclashed heard
  rw [seqOut_turned] at sent
  exact ⟨swdio, more, most, sent⟩

/-- A turn away from the target, which then says its acknowledgement. -/
theorem turnaround_float {request : BitVec 8} {ones requests : Nat} {seen : List Sent} (toward : port.olddir = true)
    (low : port.swclk = false) (few : ones + 1 < resetOnes)
    (target : port.target = ⟨.answering request, ones, requests, seen⟩) :
    turnaround env false port =
      { port with olddir := false, driving := false, swclk := true,
                  target := ⟨.ack request (bitsOf 3 (env.ack (requests - 1))), ones + 1, requests, seen⟩ } := by
  have level : Port.level { port with olddir := false, driving := false } = true := by
    simp [Port.level, target, drives]
  have early : ¬ resetOnes ≤ ones + 1 := by omega
  rw [turnaround, if_neg (by simp [toward])]
  simp only [Bool.false_eq_true, if_false, Port.modeFloat]
  rw [@setClk_floating env { port with olddir := false, driving := false } low rfl, level]
  simp only [target, edge, if_true, if_neg early, SwdWire.listen]

theorem ack_read {request : BitVec 8} {ones requests : Nat} {seen : List Sent} (toward : port.olddir = true)
    (low : port.swclk = false) (few : ones + 1 < resetOnes)
    (target : port.target = ⟨.answering request, ones, requests, seen⟩) :
    swdptapSeqIn env 3 port = ((env.ack (requests - 1)).setWidth 32,
      { port with olddir := false, driving := false, swclk := false,
                  target := ⟨acknowledged env request ⟨.idle, 0, requests, seen⟩, 0, requests, seen⟩ }) := by
  have said := ack_said env (ones + 1) requests seen request
  obtain ⟨swclk, read⟩ := @seqInCycles_said env _
    { port with olddir := false, driving := false, swclk := true,
                target := ⟨.ack request (bitsOf 3 (env.ack (requests - 1))), ones + 1, requests, seen⟩ } _ 0 0#32 rfl said
  rw [length_bitsOf] at read
  have word := @gather_word 3 3 (env.ack (requests - 1)) (by decide)
  rw [wordOf_bitsOf] at word
  rw [swdptapSeqIn, turnaround_float toward low few target, read, word]
  rfl

theorem exchange_runs (request : BitVec 8) :
    exchange env request port =
      (.ok ((swdptapSeqIn env 3 (swdptapSeqOut env (request.setWidth 32) 8 port)).1.setWidth 3),
        (swdptapSeqIn env 3 (swdptapSeqOut env (request.setWidth 32) 8 port)).2) := rfl

theorem exchange_follows (rnw : Bool) (addr : BitVec 16) :
    Follows Linked (exchange env (makePacketRequest rnw addr)) (SwdAccess.exchange env (makePacketRequest rnw addr))
      (Answered env rnw) Linked := by
  intro port dp linked
  obtain ⟨swdio, more, most, sent⟩ := request_sent env linked rnw addr
  have turned := linked.turned env
  have few : more + 1 < resetOnes := by
    simp only [resetOnes]
    omega
  have value : ((env.ack (dp.transactions + 1 - 1)).setWidth 32).setWidth 3 = env.ack (dp.transactions + 1 - 1) := by simp
  rw [exchange_runs, sent,
    @ack_read env (after (turnaround env true port) false swdio _) _ _ _ _ turned.toward rfl few rfl, value]
  exact ⟨rfl, { fault := turned.fault
                requests := rfl
                seen := by simp
                unclashed := turned.unclashed
                away := rfl
                floats := rfl
                low := rfl
                phase := by simp only [acknowledged, isRead_makePacketRequest, answered]
                few := rfl }⟩

/-- The parity of the data that the target says is right, but for an error on the wire. -/
theorem answer_parity (n : Nat) :
    answerBits env n = bitsOf 32 (env.response n) ++ [decide (popcount (env.response n) % 2 = 1) ^^ env.parityError n] := by
  rw [answerBits]
  simp only [oddOnes, count_bitsOf]

/-- The data phase of a read. -/
theorem read_said (env : Environment) (bits : List Bool) (last : Bool) (ones requests : Nat) (seen : List Sent) :
    Says env bits ⟨.dataOut (bits ++ [last]), ones, requests, seen⟩
      ⟨.dataOut [last], if bits = [] then ones else 0, requests, seen⟩ := by
  induction bits generalizing ones with
  | nil => rfl
  | cons bit rest ih =>
    cases rest with
    | nil => exact ⟨rfl, rfl⟩
    | cons next rest => exact ⟨rfl, @ih 0⟩

theorem Answered.target {rnw : Bool} {ack : BitVec 3} (met : Answered env rnw ack port dp) :
    port.target = ⟨answered env rnw ack dp, 0, dp.transactions, dp.sent.filter (· ≠ .idle)⟩ := by
  rw [← met.phase, ← met.few, ← met.requests, ← met.seen]

theorem read_parity (word : BitVec 32) (wrong : Bool) :
    decide ((popcount word + if decide (popcount word % 2 = 1) ^^ wrong then 1 else 0) % 2 = 1) = wrong := by
  rcases Nat.mod_two_eq_zero_or_one (popcount word) with even | odd
  · cases wrong
    · simp [even]
    · have sum : (popcount word + 1) % 2 = 1 := by omega
      simp [even, sum]
  · cases wrong
    · have sum : (popcount word + 1) % 2 = 0 := by omega
      simp [odd, sum]
    · simp [odd]

/-- The last cycle of a read, after which the probe drives the wire again. -/
theorem read_finished (last swdio : Bool) (met : Answered env true swdpAckOk port dp) :
    let told := after port false swdio ⟨.dataOut [last], 0, dp.transactions, dp.sent.filter (· ≠ .idle)⟩
    told.level = last ∧ Driving 1 (turnaround env true (told.setClk env)) dp := by
  intro told
  have level : told.level = last := by simp [told, Port.level, after, met.floats, drives]
  have clocked : told.setClk env =
      after port true swdio ⟨.leaving, 0, dp.transactions, dp.sent.filter (· ≠ .idle)⟩ := by
    rw [@setClk_floating env told rfl met.floats, level]
    rfl
  refine ⟨level, ?_⟩
  rw [clocked, @turnaround_drive env (after port true swdio ⟨.leaving, 0, dp.transactions, dp.sent.filter (· ≠ .idle)⟩) _ _
    met.away met.floats rfl rfl rfl met.unclashed (edge_leaving rfl (show 0 + 1 < resetOnes by decide))]
  exact { fault := met.fault
          requests := rfl
          seen := rfl
          unclashed := met.unclashed
          toward := rfl
          drives := rfl
          idle := rfl
          few := Nat.le_refl 1 }

theorem data_read (met : Answered env true swdpAckOk port dp) :
    ∃ turned, swdptapSeqInParity env 32 port =
        ((env.response (dp.transactions - 1), env.parityError (dp.transactions - 1)), turned) ∧ Driving 1 turned dp := by
  have said := read_said env (bitsOf 32 (env.response (dp.transactions - 1)))
    (decide (popcount (env.response (dp.transactions - 1)) % 2 = 1) ^^ env.parityError (dp.transactions - 1))
    0 dp.transactions (dp.sent.filter (· ≠ .idle))
  have target : port.target = ⟨.dataOut (answerBits env (dp.transactions - 1)), 0, dp.transactions,
      dp.sent.filter (· ≠ .idle)⟩ := met.target
  rw [← answer_parity, ← target] at said
  obtain ⟨swclk, cycles⟩ := @seqInCycles_said env _ port _ 0 0#32 met.floats said
  rw [length_bitsOf] at cycles
  have word := @gather_word 32 32 (env.response (dp.transactions - 1)) (Nat.le_refl _)
  rw [wordOf_bitsOf, BitVec.setWidth_eq] at word
  rw [word] at cycles
  have read : swdptapSeqIn env 32 port = (env.response (dp.transactions - 1), after port false port.swdio
      ⟨.dataOut [decide (popcount (env.response (dp.transactions - 1)) % 2 = 1) ^^ env.parityError (dp.transactions - 1)],
        0, dp.transactions, dp.sent.filter (· ≠ .idle)⟩) := by
    rw [swdptapSeqIn, turnaround_same met.away.symm, cycles]
    simp [after, Port.clearClk]
  obtain ⟨level, driving⟩ := read_finished
    (decide (popcount (env.response (dp.transactions - 1)) % 2 = 1) ^^ env.parityError (dp.transactions - 1)) port.swdio met
  refine ⟨_, ?_, driving⟩
  rw [swdptapSeqInParity, read]
  simp only [level, read_parity]

theorem parity_sent {ones requests : Nat} {seen : List Sent} {value : BitVec 32} (low : port.swclk = false)
    (driven : port.driving = true) (unclashed : port.clash = false)
    (target : port.target = ⟨.dataIn (bitsOf 32 value), ones, requests, seen⟩) (few : ones + 1 < resetOnes) :
    ((port.setIo (decide (popcount value % 2 = 1))).setClk env).clearClk =
      after port false (decide (popcount value % 2 = 1))
        ⟨.idle, if popcount value % 2 = 1 then ones + 1 else 0, requests, seen ++ [.data value]⟩ := by
  have parity := @parity_heard env ones requests seen few value
  rw [← target] at parity
  rw [@setClk_driving env (port.setIo (decide (popcount value % 2 = 1))) low driven unclashed (by
    change Quiet (edge env (decide (popcount value % 2 = 1)) port.target)
    rw [parity]
    rfl)]
  change after port false (decide (popcount value % 2 = 1)) (edge env (decide (popcount value % 2 = 1)) port.target) = _
  rw [parity]

/-- The data phase of a write, up to the idle cycles after it. -/
theorem data_written (met : Answered env false swdpAckOk port dp) (value : BitVec 32) :
    Driving 34 (swdptapSeqOutParity env value 32 port) { dp with sent := dp.sent ++ [.data value] } := by
  have receiving : port.target.phase = .receiving := met.phase
  have turned := @turnaround_drive env port _ _ met.away met.floats receiving rfl rfl met.unclashed
    (edge_receiving receiving (by rw [met.few]; decide))
  simp only [met.few, met.requests, met.seen] at turned
  obtain ⟨more, most, heard⟩ := @data_heard env (0 + 1) dp.transactions (dp.sent.filter (· ≠ .idle)) (bitsOf 32 value) []
    (by simp) (by simp [resetOnes])
  have most : more ≤ 33 := by
    simp only [length_bitsOf] at most
    omega
  rw [List.nil_append] at heard
  obtain ⟨swdio, sent⟩ := @seqOut_hears env _
    { port with olddir := true, driving := true, swclk := true,
                target := ⟨.dataIn [], 0 + 1, dp.transactions, dp.sent.filter (· ≠ .idle)⟩ } value 32 rfl rfl
    met.unclashed heard
  rw [← turned, seqOut_turned, turned] at sent
  have few : more + 1 < resetOnes := by
    simp only [resetOnes]
    omega
  rw [swdptapSeqOutParity, sent, @parity_sent env _ more dp.transactions (dp.sent.filter (· ≠ .idle)) value]
  · exact { fault := met.fault
            requests := rfl
            seen := by simp [after]
            unclashed := met.unclashed
            toward := rfl
            drives := rfl
            idle := rfl
            few := by
              change (if popcount value % 2 = 1 then more + 1 else 0) ≤ 34
              split <;> omega }
  · rfl
  · rfl
  · exact met.unclashed
  · rfl
  · exact few

theorem idle_cycles {most : Nat} (driving : Driving most port dp) :
    Linked (swdptapSeqOut env 0 8 port) { dp with sent := dp.sent ++ [.idle] } := by
  have start : port.target = ⟨.idle, port.target.ones, dp.transactions, dp.sent.filter (· ≠ .idle)⟩ := by
    rw [← driving.idle, ← driving.requests, ← driving.seen]
  have heard := @idle_heard env port.target.ones dp.transactions (dp.sent.filter (· ≠ .idle)) 8 (by decide)
  rw [← start] at heard
  obtain ⟨swdio, sent⟩ := @seqOut_hears env _ port 0 8 driving.toward driving.drives driving.unclashed heard
  rw [sent]
  refine Driving.linked ?_
  exact { fault := driving.fault
          requests := rfl
          seen := by simp [after]
          unclashed := driving.unclashed
          toward := driving.toward
          drives := driving.drives
          idle := rfl
          few := Nat.zero_le 1 }

end Sequences

section Accesses
variable {env : Environment}

theorem agreeing_fault {port : Port} {dp : DebugPort} (linked : Linked port dp) (fault : BitVec 8) :
    Linked { port with fault := fault } { dp with fault := fault } :=
  { linked with fault := rfl }

theorem Answered.linked {rnw : Bool} {ack : BitVec 3} {port : Port} {dp : DebugPort} (met : Answered env rnw ack port dp)
    (refused : ack ≠ swdpAckOk) : Linked port dp where
  toAgreeing := met.toAgreeing
  facing := met.floats.trans met.away.symm
  waiting := by
    rw [met.phase, answered, if_pos refused, met.away]
    rfl
  few := by rw [met.few]; exact Nat.zero_le 1

theorem setFault_follows (fault : BitVec 8) :
    Follows Linked (setFault fault) (SwdAccess.setFault fault) (fun _ => Linked) Linked :=
  follows_change fun _ _ linked => agreeing_fault linked fault

theorem platformTimeoutSet_follows (ms : Nat) :
    Follows Linked (platformTimeoutSet env ms) (SwdAccess.platformTimeoutSet env ms) (fun _ => Linked) Linked := by
  intro port dp linked
  refine ⟨?_, linked⟩
  rw [linked.requests]

theorem sequence_read_follows {β : Type} {next : BitVec 32 × Bool → Action β} {rest : BitVec 32 × Bool → SwdAccess.Action β}
    (follows : ∀ read, Follows Linked (next read) (rest read) (fun _ => Linked) Linked) :
    Follows (Answered env true swdpAckOk) (sequence (swdptapSeqInParity env 32) >>= next)
      (SwdAccess.seqInParity env >>= rest) (fun _ => Linked) Linked := by
  have read : Follows (Answered env true swdpAckOk) (sequence (swdptapSeqInParity env 32)) (SwdAccess.seqInParity env)
      (fun _ => Linked) Linked := by
    intro port dp met
    obtain ⟨turned, ran, driving⟩ := data_read met
    have outcome : sequence (swdptapSeqInParity env 32) port =
        (.ok (swdptapSeqInParity env 32 port).1, (swdptapSeqInParity env 32 port).2) := rfl
    rw [outcome, ran]
    exact ⟨rfl, driving.linked⟩
  exact read.bind follows

theorem write_follows (value : BitVec 32) :
    Follows (Answered env false swdpAckOk) (do change (swdptapSeqOutParity env value 32); seqOut env 0 8; pure 0)
      (do SwdAccess.seqOut (.data value); SwdAccess.seqOut .idle; pure 0) (fun _ : BitVec 32 => Linked) Linked := by
  refine follows_bind (fun _ => Driving 34) (follows_change fun _ _ met => data_written met value) fun _ => ?_
  refine follows_bind (fun _ => Linked) (follows_change fun _ _ driving => idle_cycles driving) fun _ => ?_
  exact follows_pure fun _ _ linked => linked

variable {access : LowAccess} {model : SwdAccess.LowAccess}

/-- An acknowledged access is followed by its data phase. -/
def Ready (env : Environment) (rnw : Bool) (ack : BitVec 3) (port : Port) (dp : DebugPort) : Prop :=
  if ack = swdpAckOk then Answered env rnw ack port dp else Linked port dp

variable {rnw : Bool} {ack : BitVec 3}

theorem Ready.linked {port : Port} {dp : DebugPort} (ready : Ready env rnw ack port dp) (refused : ack ≠ swdpAckOk) :
    Linked port dp := by
  rwa [Ready, if_neg refused] at ready

theorem Ready.agreeing {port : Port} {dp : DebugPort} (ready : Ready env rnw ack port dp) : Agreeing port dp := by
  rw [Ready] at ready
  split at ready
  · exact ready.toAgreeing
  · exact ready.toAgreeing

theorem exchange_ready (rnw : Bool) (addr : BitVec 16) :
    Follows Linked (exchange env (makePacketRequest rnw addr)) (SwdAccess.exchange env (makePacketRequest rnw addr))
      (Ready env rnw) Linked := by
  refine (exchange_follows rnw addr).weaken (fun _ _ linked => linked) (fun ack port dp met => ?_) fun _ _ linked => linked
  rw [Ready]
  split
  · exact met
  next refused => exact met.linked refused

/-- An access at a point where it was not acknowledged. -/
theorem refused_follows {program : Action (BitVec 32)} {other : SwdAccess.Action (BitVec 32)}
    (follows : Follows Linked program other (fun _ => Linked) Linked) (refused : ack ≠ swdpAckOk) :
    Follows (Ready env rnw ack) program other (fun _ => Linked) Linked :=
  follows.weaken (fun _ _ ready => ready.linked refused) (fun _ _ _ linked => linked) fun _ _ linked => linked

theorem adiv5DpWrite_follows {addr : BitVec 16} {value : BitVec 32}
    (follows : Follows Linked (access false addr value) (model false addr value) (fun _ => Linked) Linked) :
    Follows Linked (adiv5DpWrite access addr value) (SwdAccess.adiv5DpWrite model addr value) (fun _ => Linked) Linked :=
  Follows.bind follows fun _ => follows_pure fun _ _ linked => linked

theorem faulted_follows (fault : BitVec 8) :
    Follows Linked (do setFault fault; pure 0) (do SwdAccess.setFault fault; pure 0) (fun _ : BitVec 32 => Linked) Linked :=
  Follows.bind (setFault_follows fault) fun _ => follows_pure fun _ _ linked => linked

theorem conclude_follows (follows : ∀ rnw addr value,
      Follows Linked (access rnw addr value) (model rnw addr value) (fun _ => Linked) Linked) (value : BitVec 32) :
    Follows (Ready env rnw ack) (conclude env access rnw value ack) (SwdAccess.conclude env model rnw value ack)
      (fun _ => Linked) Linked := by
  rw [conclude, SwdAccess.conclude]
  refine follows_ite (fun waiting => refused_follows ?_ (by rw [waiting]; decide)) fun _ => ?_
  · exact Follows.bind (adiv5DpWrite_follows (follows false _ _)) fun _ => faulted_follows _
  refine follows_ite (fun faulty => refused_follows (faulted_follows _) (by rw [faulty]; decide)) fun _ => ?_
  refine follows_ite (fun silent => refused_follows (faulted_follows _) (by rw [silent]; decide)) fun _ => ?_
  refine follows_ite (fun invalid => follows_stop fun _ _ ready => ready.linked invalid) fun valid => ?_
  obtain rfl : ack = swdpAckOk := Decidable.not_not.mp valid
  have met : ∀ port dp, Ready env rnw swdpAckOk port dp → Answered env rnw swdpAckOk port dp := by
    intro port dp ready
    rwa [Ready, if_pos rfl] at ready
  cases rnw with
  | false => exact (write_follows value).weaken met (fun _ _ _ linked => linked) fun _ _ linked => linked
  | true =>
    refine Follows.weaken (sequence_read_follows fun read => ?_) met (fun _ _ _ linked => linked) fun _ _ linked => linked
    refine follows_ite (fun _ => ?_) fun _ => follows_pure fun _ _ linked => linked
    exact Follows.bind (setFault_follows 1) fun _ => follows_stop fun _ _ linked => linked

theorem expired_follows (timeout : Nat) :
    Follows (Ready env rnw ack) (platformTimeoutIsExpired env timeout) (SwdAccess.platformTimeoutIsExpired env timeout)
      (fun _ => Ready env rnw ack) Linked := by
  intro port dp ready
  refine ⟨?_, ready⟩
  rw [ready.agreeing.requests]

mutual

theorem firmwareSwdpLowAccess_follows (rounds : Nat) (rnw : Bool) (addr : BitVec 16) (value : BitVec 32) :
    Follows Linked (firmwareSwdpLowAccess env rounds rnw addr value)
      (SwdAccess.firmwareSwdpLowAccess env rounds rnw addr value) (fun _ => Linked) Linked := by
  cases rounds with
  | zero =>
    rw [firmwareSwdpLowAccess, SwdAccess.firmwareSwdpLowAccess]
    exact follows_stop fun _ _ linked => linked
  | succ rounds =>
    rw [firmwareSwdpLowAccess, SwdAccess.firmwareSwdpLowAccess]
    refine follows_reading fun port dp linked => ?_
    have same : (port.fault ≠ 0) = (dp.fault ≠ 0) := by rw [linked.fault]
    simp only [same]
    refine follows_ite (fun _ => follows_pure fun _ _ related => by rw [related.1, related.2]; exact linked) fun _ => ?_
    refine Follows.bind ((platformTimeoutSet_follows 250).known linked) fun timeout => ?_
    exact transact_follows rounds rnw addr value timeout

theorem transact_follows (rounds : Nat) (rnw : Bool) (addr : BitVec 16) (value : BitVec 32) (timeout : Nat) :
    Follows Linked (transact env rounds rnw addr value timeout) (SwdAccess.transact env rounds rnw addr value timeout)
      (fun _ => Linked) Linked := by
  cases rounds with
  | zero =>
    rw [transact, SwdAccess.transact]
    exact follows_stop fun _ _ linked => linked
  | succ rounds =>
    rw [transact, SwdAccess.transact]
    refine Follows.bind (exchange_ready rnw addr) fun ack => ?_
    refine follows_bind (fun _ => Ready env rnw ack) ?_ fun _ => ?_
    · refine follows_onlyIf (fun faulty => ?_) fun _ _ _ ready => ready
      have refused : ack ≠ swdpAckOk := by rw [faulty]; decide
      refine (adiv5DpWrite_follows (firmwareSwdpLowAccess_follows rounds false _ _)).weaken
        (fun _ _ ready => ready.linked refused) (fun _ _ _ linked => ?_) fun _ _ linked => linked
      rwa [Ready, if_neg refused]
    · refine Follows.bind (expired_follows timeout) fun late => ?_
      refine follows_ite (fun again => ?_) fun _ => conclude_follows (firmwareSwdpLowAccess_follows rounds) value
      refine refused_follows (transact_follows rounds rnw addr value timeout) ?_
      rcases again.1 with waiting | faulty
      · rw [waiting]; decide
      · rw [faulty]; decide

end

end Accesses

end BlackMagic.Proofs.SwdWireFaithful
