import BlackMagic.Proofs.Stm32FlashSessions

/-! The first exchanges bring both ends in step, and the client learns which commands there are. -/

namespace BlackMagic.Proofs.Stm32FlashInit
open Lib Lib.Program Lib.Framing Stm32Flash Stm32FlashExchanges Stm32FlashFrames Stm32FlashSessions

section Learning

/-- The newest command of its kind that is listed, or none. -/
def Newest (kinds listed : List Byte) (code : Byte) : Prop :=
  (code = stm32CmdErr ∧ ∀ val ∈ listed, val ∉ kinds) ∨
    (code ∈ listed ∧ code ∈ kinds ∧ ∀ val ∈ listed, val ∈ kinds → val ≤ code)

theorem newest_other {kinds listed : List Byte} {code val : Byte} (newest : Newest kinds listed code) (other : val ∉ kinds) :
    Newest kinds (listed ++ [val]) code := by
  rcases newest with ⟨none, absent⟩ | ⟨there, kind, above⟩
  · refine .inl ⟨none, fun any found => ?_⟩
    rcases List.mem_append.mp found with old | new
    · exact absent any old
    · rwa [List.mem_singleton.mp new]
  · refine .inr ⟨List.mem_append_left _ there, kind, fun any found same => ?_⟩
    rcases List.mem_append.mp found with old | new
    · exact above any old same
    · exact absurd (List.mem_singleton.mp new ▸ same) other

theorem newest_newer {kinds listed : List Byte} {code val : Byte} (newest : Newest kinds listed code) (same : val ∈ kinds)
    (real : stm32CmdErr ∉ kinds) : Newest kinds (listed ++ [val]) (newer code val) := by
  have last : val ∈ listed ++ [val] := List.mem_append_right _ (List.mem_singleton_self val)
  rcases newest with ⟨rfl, absent⟩ | ⟨there, kind, above⟩
  · rw [newer, if_pos rfl]
    refine .inr ⟨last, same, fun any found kind => ?_⟩
    rcases List.mem_append.mp found with old | new
    · exact absurd kind (absent any old)
    · rw [List.mem_singleton.mp new]
      exact BitVec.le_refl val
  · have known : code ≠ stm32CmdErr := fun none => real (none ▸ kind)
    rw [newer, if_neg known]
    split
    next older =>
      refine .inr ⟨List.mem_append_left _ there, kind, fun any found kind => ?_⟩
      rcases List.mem_append.mp found with old | new
      · exact above any old kind
      · rw [List.mem_singleton.mp new]
        exact BitVec.le_of_lt older
    next younger =>
      refine .inr ⟨last, same, fun any found kind => ?_⟩
      rcases List.mem_append.mp found with old | new
      · exact BitVec.le_trans (above any old kind) (BitVec.not_lt.mp younger)
      · rw [List.mem_singleton.mp new]
        exact BitVec.le_refl val

/-- A code of a kind of its own. -/
theorem newest_single {listed : List Byte} {code val : Byte} (newest : Newest [val] listed code) (real : val ≠ stm32CmdErr) :
    Newest [val] (listed ++ [val]) val := by
  have single : newer code val = val := by
    rcases newest with ⟨rfl, _⟩ | ⟨_, kind, _⟩
    · rfl
    · rw [List.mem_singleton.mp kind, newer, if_neg real, ite_self]
  have taken := newest_newer newest (List.mem_singleton_self val) (by simpa using Ne.symm real)
  rwa [single] at taken

structure Learnt (listed : List Byte) (cmd : Cmd) : Prop where
  get : Newest [stm32CmdGet] listed cmd.get
  gvr : Newest [stm32CmdGvr] listed cmd.gvr
  gid : Newest [stm32CmdGid] listed cmd.gid
  rm : Newest [stm32CmdRm] listed cmd.rm
  go : Newest [stm32CmdGo] listed cmd.go
  wm : Newest [stm32CmdWm, stm32CmdWmNs] listed cmd.wm
  er : Newest [stm32CmdEr, stm32CmdEe, stm32CmdEeNs] listed cmd.er
  wp : Newest [stm32CmdWp, stm32CmdWpNs] listed cmd.wp
  uw : Newest [stm32CmdUw, stm32CmdUwNs] listed cmd.uw
  rp : Newest [stm32CmdRp, stm32CmdRpNs] listed cmd.rp
  ur : Newest [stm32CmdUr, stm32CmdUrNs] listed cmd.ur
  crc : Newest [stm32CmdCrc] listed cmd.crc

theorem of_ite {property : Cmd → Prop} {condition : Prop} [Decidable condition] {one other : Cmd}
    (holds : condition → property one) (fails : ¬ condition → property other) :
    property (if condition then one else other) := by
  split
  next yes => exact holds yes
  next no => exact fails no

theorem learn_learnt {listed : List Byte} {cmd : Cmd} {val : Byte} (learnt : Learnt listed cmd) :
    Learnt (listed ++ [val]) (learn cmd val) := by
  obtain ⟨get, gvr, gid, rm, go, wm, er, wp, uw, rp, ur, crc⟩ := learnt
  rw [learn]
  repeat' refine of_ite (fun code => ?_) fun _ => ?_
  all_goals try rcases code with rfl | rfl | rfl
  all_goals
    constructor
    all_goals first
      | exact newest_newer (by assumption) (by decide) (by decide)
      | exact newest_single (by assumption) (by decide)
      | exact newest_other (by assumption) (by decide)
      | exact newest_other (by assumption) (by simp_all)

theorem learnt_nothing : Learnt [] noCommands := by
  constructor
  all_goals exact .inl ⟨rfl, fun _ listed => absurd listed List.not_mem_nil⟩

/-- After the list is gone through the newest commands are known. -/
theorem learnt_all (commands : List Byte) : Learnt commands (commands.foldl learn noCommands) := by
  induction commands using List.reverseRecOn with
  | nil => exact learnt_nothing
  | append_singleton listed val ih =>
    rw [List.foldl_append]
    exact learn_learnt ih

theorem Newest.listed {kinds listed : List Byte} {code : Byte} (newest : Newest kinds listed code) :
    code ∈ stm32CmdErr :: kinds := by
  rcases newest with ⟨rfl, _⟩ | ⟨_, kind, _⟩
  · exact List.mem_cons_self
  · exact List.mem_cons_of_mem _ kind

theorem Learnt.known {listed : List Byte} {cmd : Cmd} (learnt : Learnt listed cmd) : Known cmd :=
  ⟨learnt.rm.listed, learnt.go.listed, learnt.wm.listed, learnt.er.listed, learnt.crc.listed⟩

theorem Newest.single {listed : List Byte} {code val : Byte} (newest : Newest [val] listed code) (there : val ∈ listed) :
    code = val := by
  rcases newest with ⟨_, absent⟩ | ⟨_, kind, _⟩
  · exact absurd (List.mem_singleton_self val) (absent val there)
  · exact List.mem_singleton.mp kind

end Learning

section Init
variable {part : Part} {time : Nat → Nat} {rounds : Nat}

/-- A boot loader that waits for the first byte, or for a command of which it may have one byte already. -/
structure Begun (line : Line) (memory : Memory) : Prop where
  memory : line.boot.state.memory = memory
  waiting : line.boot.expecting = .init ∧ line.boot.got = [] ∨
    line.boot.expecting = .command ∧ (line.boot.got = [] ∨ ∃ byte, line.boot.got = [byte])

/-- No command has the complement of the first byte. -/
theorem conclude_init (byte : Byte) (boot : Boot) :
    part.conclude .command [byte, stm32CmdInit] boot = ((.command, boot), nacked) := by
  have codes : ∀ byte : Byte, checksum [byte, stm32CmdInit] = 0xff → byte = 0x80 := by decide +kernel
  rw [Part.conclude]
  split
  next sum =>
    obtain rfl := codes byte sum
    have obeyed : part.obey 0x80 = (.command, nacked) := by
      rw [Part.obey]
      split
      · rfl
      · rfl
    show (((part.obey 0x80).1, boot), (part.obey 0x80).2) = _
    rw [obeyed]
  next => rfl

theorem feed_init (boot : Boot) :
    part.protocol.feedAll [stm32CmdInit] ⟨.init, [], boot⟩ = (⟨.command, [], boot⟩, acked) := by
  rw [Protocol.feedAll_frame (Protocol.frame_fixed (fun _ => rfl) rfl (by decide))]
  rfl

theorem feed_second (byte : Byte) (boot : Boot) :
    part.protocol.feedAll [stm32CmdInit] ⟨.command, [byte], boot⟩ = (⟨.command, [], boot⟩, nacked) := by
  have framed : part.protocol.Frame .command ([byte] ++ [stm32CmdInit]) :=
    Protocol.frame_fixed (fun _ => rfl) rfl (by decide)
  have concluded : part.protocol.conclude .command ([byte] ++ [stm32CmdInit]) boot = ((.command, boot), nacked) :=
    conclude_init byte boot
  rw [Protocol.feedAll_gathers framed (List.cons_ne_nil _ _), concluded]

theorem feed_first (boot : Boot) :
    part.protocol.feedAll [stm32CmdInit] ⟨.command, [], boot⟩ = (⟨.command, [stm32CmdInit], boot⟩, []) := rfl

theorem wrote {line : Line} {bytes : List Byte} {boot : Receiver Task Byte Boot} {replies : List Reply}
    (fed : part.protocol.feedAll bytes line.boot = (boot, replies)) :
    espWrite part bytes line = (.ok (), { line with boot := boot, pending := replies }) := by
  show (Except.ok (), { line with boot := (part.protocol.feedAll bytes line.boot).1, pending := _ }) = _
  rw [fed]

/-- Wherever the boot loader was, it waits for a command. -/
theorem sendInitSeq_begun {line : Line} {memory : Memory} (begun : Begun line memory) :
    ∃ final, stm32SendInitSeq part line = (.ok (), final) ∧ InStep final memory := by
  obtain ⟨⟨expecting, got, boot⟩, pending, reads⟩ := line
  obtain ⟨rfl, waiting⟩ := begun
  rcases waiting with ⟨rfl, rfl⟩ | ⟨rfl, rfl | ⟨byte, rfl⟩⟩
  · refine ⟨⟨⟨.command, [], boot⟩, [], reads + 1⟩, ?_, ⟨rfl, rfl, rfl, rfl⟩⟩
    rw [stm32SendInitSeq, bind_returned (wrote (feed_init boot)), bind_returned (espRead_runs rfl rfl)]
    rfl
  · refine ⟨⟨⟨.command, [], boot⟩, [], reads + 1 + 1⟩, ?_, ⟨rfl, rfl, rfl, rfl⟩⟩
    rw [stm32SendInitSeq, bind_returned (wrote (feed_first boot)), bind_returned (espRead_runs rfl rfl)]
    show (espWrite part [stm32CmdInit] >>= _) _ = _
    rw [bind_returned (wrote (feed_second stm32CmdInit boot)), bind_returned (espRead_runs rfl rfl)]
    rfl
  · refine ⟨⟨⟨.command, [], boot⟩, [], reads + 1⟩, ?_, ⟨rfl, rfl, rfl, rfl⟩⟩
    rw [stm32SendInitSeq, bind_returned (wrote (feed_second byte boot)), bind_returned (espRead_runs rfl rfl)]
    rfl

variable {memory : Memory} {task : Task} {rest : List Reply}

theorem sendCommand_meets {α : Type} (positive : 0 < rounds) {command : Byte} {following : Unit → Action α}
    {last : α → Line → Prop} (taken : part.takes command = true) (obeyed : part.obey command = (task, acked ++ rest))
    (follows : ∀ done, Meets (fun line => At task rest line memory) (following done) last never) :
    Meets (fun line => InStep line memory) (stm32SendCommand part time rounds command >>= following) last never := by
  have sent := @exchange_meets part time rounds 0 .command task _ memory α rest [] following last positive
    (command_frame command) (fun served => by rw [conclude_command fun _ => obeyed, if_pos taken]) follows
  rwa [← bind_bind] at sent

theorem getAck_meets (positive : 0 < rounds) :
    Meets (fun line => At task (acked ++ rest) line memory) (anyError (stm32GetAck time rounds))
      (fun _ line => At task rest line memory) never :=
  getAckTimeout_meets (bearable_none positive)

/-- A reply that tells its own length. -/
theorem guessLenCmd_meets (positive : 0 < rounds) {command first : Byte} {more : List Byte}
    (taken : part.takes command = true)
    (obeyed : part.obey command = (.command, acked ++ spelled (first :: more) ++ acked)) (counted : more.length = first.toNat + 1) :
    Meets (fun line => InStep line memory) (stm32GuessLenCmd part time rounds command)
      (fun result line => result = first :: more ∧ At .command acked line memory) never := by
  have split : part.obey command = (.command, acked ++ (spelled [first] ++ (spelled more ++ acked))) := by
    rw [obeyed, List.append_assoc]
    rfl
  refine sendCommand_meets positive taken split fun _ => ?_
  refine Meets.bind (readAll_meets rfl) fun begun => meets_given fun same => ?_
  subst same
  refine Meets.bind (readAll_meets counted) fun result => meets_given fun same => ?_
  subst same
  exact meets_pure fun line there => ⟨rfl, there⟩

theorem identity (pid : BitVec 16) :
    ((pid >>> 8).setWidth 8).setWidth 16 <<< 8 ||| (pid.setWidth 8).setWidth 16 = pid := by
  apply BitVec.eq_of_getLsbD_eq
  intro place inside
  by_cases low : place < 8
  · simp [low, inside]
  · have within : place - 8 < 8 := by omega
    have back : 8 + (place - 8) = place := by omega
    simp [low, inside, within, back, show place - 8 < 16 by omega]

/-- A part that says what the client asks for, and is one of its devices. -/
structure Identified (part : Part) (dev : Dev) : Prop where
  get : part.takes stm32CmdGet = true
  gvr : part.takes stm32CmdGvr = true
  gid : part.takes stm32CmdGid = true
  few : part.commands.length ≤ 254
  version : part.version ≠ stm32Ack
  listed : devices.find? (·.id == part.pid) = some dev

theorem takes_listed {command : Byte} (taken : part.takes command = true) : command ∈ part.commands := by
  rw [Part.takes, Bool.and_eq_true] at taken
  exact List.contains_iff_mem.mp taken.1

theorem obey_get (taken : part.takes stm32CmdGet = true) : part.obey stm32CmdGet =
    (.command, acked ++ spelled (BitVec.ofNat 8 part.commands.length :: part.blVersion :: part.commands) ++ acked) := by
  rw [Part.obey, if_neg (not_not_intro taken)]
  rfl

theorem obey_gvr (taken : part.takes stm32CmdGvr = true) : part.obey stm32CmdGvr =
    (.command, acked ++ (spelled [part.version, part.options.1, part.options.2] ++ acked)) := by
  rw [Part.obey, if_neg (not_not_intro taken)]
  rfl

theorem obey_gid (taken : part.takes stm32CmdGid = true) : part.obey stm32CmdGid =
    (.command, acked ++ spelled [1, (part.pid >>> 8).setWidth 8, part.pid.setWidth 8] ++ acked) := by
  rw [Part.obey, if_neg (not_not_intro taken)]
  rfl

theorem readVersion_meets (version : part.version ≠ stm32Ack) :
    Meets (fun line => At .command (spelled [part.version, part.options.1, part.options.2] ++ acked) line memory) readVersion
      (fun result line => result = [part.version, part.options.1, part.options.2] ∧ At .command acked line memory) never := by
  refine Meets.bind (readAll_meets rfl) fun result => meets_given fun same => ?_
  subst same
  refine meets_ite (fun extra => absurd extra.1 version) fun _ => meets_pure fun line there => ⟨rfl, there⟩

theorem init_meets {dev : Dev} (identified : Identified part dev) (positive : 0 < rounds) :
    Meets (fun line => Begun line memory) (stm32Init part time rounds)
      (fun stm line => stm = ⟨part.version, part.options.1, part.options.2, part.blVersion, part.pid,
        part.commands.foldl learn noCommands, dev⟩ ∧ InStep line memory) never := by
  have few := identified.few
  have learnt := learnt_all part.commands
  have counted : (BitVec.ofNat 8 part.commands.length).toNat = part.commands.length := by
    rw [BitVec.toNat_ofNat]
    omega
  have begun : Meets (fun line => Begun line memory) (rescue (stm32SendInitSeq part) fun _ => pure ())
      (fun _ line => InStep line memory) never := by
    intro line begun
    obtain ⟨final, sent, after⟩ := sendInitSeq_begun begun
    rw [Program.rescue, sent]
    exact after
  refine Meets.bind begun fun _ => sendCommand_meets positive identified.gvr (obey_gvr identified.gvr) fun _ => ?_
  refine Meets.bind (readVersion_meets identified.version) fun version => meets_given fun same => ?_
  subst same
  refine Meets.via (fun _ line => InStep line memory) (getAck_meets positive) fun _ => ?_
  refine Meets.bind (guessLenCmd_meets positive identified.get (obey_get identified.get) (by
    rw [counted]
    rfl)) fun info => meets_given fun same => ?_
  subst same
  have length : (BitVec.ofNat 8 part.commands.length + 1).toNat - 1 = part.commands.length := by
    rw [BitVec.toNat_add, counted]
    show (part.commands.length + 1) % 256 - 1 = part.commands.length
    omega
  have commands : (((BitVec.ofNat 8 part.commands.length :: part.blVersion :: part.commands).drop 2).take
      ((BitVec.ofNat 8 part.commands.length + 1).toNat - 1)).foldl learn noCommands =
        part.commands.foldl learn noCommands := by
    rw [length]
    exact congrArg _ (List.take_length)
  refine Meets.via (fun _ line => InStep line memory) (getAck_meets positive) fun _ => ?_
  have had := learnt.get.single (takes_listed identified.get)
  have version := learnt.gvr.single (takes_listed identified.gvr)
  have ids := learnt.gid.single (takes_listed identified.gid)
  generalize cmd_eq : (((BitVec.ofNat 8 part.commands.length :: part.blVersion :: part.commands).drop 2).take
      (((BitVec.ofNat 8 part.commands.length :: part.blVersion :: part.commands).headD 0 + 1).toNat - 1)).foldl learn
        noCommands = cmd
  obtain rfl : cmd = part.commands.foldl learn noCommands := cmd_eq.symm.trans commands
  refine meets_ite (fun missing => ?_) fun _ => ?_
  · rw [had, version, ids] at missing
    exact absurd missing (by decide)
  · rw [ids]
    refine Meets.bind (guessLenCmd_meets positive identified.gid (obey_gid identified.gid) rfl) fun ids =>
      meets_given fun same => ?_
    subst same
    refine meets_ite (fun short => absurd short (by simp)) fun _ => ?_
    refine Meets.via (fun _ line => InStep line memory) (getAck_meets positive) fun _ => ?_
    have pid : (([(1 : Byte), (part.pid >>> 8).setWidth 8, part.pid.setWidth 8].getD 1 0).setWidth 16 <<< 8 |||
        ([(1 : Byte), (part.pid >>> 8).setWidth 8, part.pid.setWidth 8].getD 2 0).setWidth 16 : BitVec 16) = part.pid :=
      identity part.pid
    rw [pid, identified.listed]
    exact meets_pure fun line ready => ⟨rfl, ready⟩

/-- Wherever the boot loader was, the client gets in step with it and knows the newest command of each kind. -/
theorem init_learns {dev : Dev} (identified : Identified part dev) (positive : 0 < rounds) {line : Line}
    (begun : Begun line memory) :
    ∃ stm final, stm32Init part time rounds line = (.ok stm, final) ∧ InStep final memory ∧ Learnt part.commands stm.cmd ∧
      stm.dev = dev ∧ stm.pid = part.pid ∧
      (stm.version, (stm.option1, stm.option2), stm.blVersion) = (part.version, part.options, part.blVersion) := by
  have met := @init_meets part time rounds memory dev identified positive line begun
  revert met
  cases running : stm32Init part time rounds line with
  | mk ending final =>
    cases ending with
    | error reason => exact fun stopped => stopped.elim
    | ok stm =>
      rintro ⟨rfl, ready⟩
      exact ⟨_, final, rfl, ready, learnt_all part.commands, rfl, rfl, rfl⟩

theorem sample_identified : Identified samplePart sampleDev :=
  ⟨by decide, by decide, by decide, by decide, by decide, by decide⟩

theorem init_learns_halfway :
    ∃ stm final, stm32Init samplePart id 3 ⟨⟨.command, [0x11], ⟨fun _ => 0xff, 0⟩⟩, [.late], 0⟩ = (.ok stm, final) ∧
      InStep final (fun _ => 0xff) ∧ Learnt samplePart.commands stm.cmd ∧ stm.dev = sampleDev ∧ stm.pid = 0x410 ∧
      (stm.version, (stm.option1, stm.option2), stm.blVersion) =
        (samplePart.version, samplePart.options, samplePart.blVersion) :=
  init_learns sample_identified (by decide) ⟨rfl, .inr ⟨rfl, .inr ⟨0x11, rfl⟩⟩⟩

end Init

end BlackMagic.Proofs.Stm32FlashInit
