import BlackMagic.Proofs.RemotePorts

/-! Which packets of the remote protocol are handled inside all bounds, and which malformed ones are refused. -/

namespace BlackMagic.Proofs.RemoteBounds
open RemotePacket Lib Lib.Program RemoteAccesses RemoteScans RemotePorts

section Operations
variable {α : Type} {origin : Firmware}

/-- An operation on the debug port: what accesses keep it keeps, and it does not return if no access does. -/
structure Operates (origin : Firmware) (operation : Environment → Nat → Action α) : Prop where
  keeps : ∀ {env rounds functions kept stopped}, Supports env rounds functions kept stopped →
    Meets kept (operation env rounds) (fun _ => kept) stopped
  begins : ∀ {env rounds} {stopped : Halt → Firmware → Prop},
    (∀ rnw addr value, Meets (Proceeds origin) (adiv5DpLowAccess env rounds rnw addr value) (fun _ _ => False) stopped) →
      Meets (Proceeds origin) (operation env rounds) (fun _ _ => False) stopped

/-- What follows is not reached. -/
theorem unreached_bind {β : Type} {kept : Firmware → Prop} {program : Action α} {next : α → Action β}
    {stopped : Halt → Firmware → Prop} (unreached : Meets kept program (fun _ _ => False) stopped) :
    Meets kept (program >>= next) (fun _ _ => False) stopped :=
  Meets.bind unreached fun _ _ never => never.elim

theorem access_operates (rnw : Bool) (addr : BitVec 16) (value : BitVec 32) :
    Operates origin fun env rounds => adiv5DpLowAccess env rounds rnw addr value :=
  ⟨fun supports => supports.access, fun unreached => unreached rnw addr value⟩

theorem selectAp_begins {env : Environment} {rounds : Nat} {stopped : Halt → Firmware → Prop} {apsel : Byte}
    {addr : BitVec 16}
    (unreached : ∀ rnw addr value,
      Meets (Proceeds origin) (adiv5DpLowAccess env rounds rnw addr value) (fun _ _ => False) stopped) :
    Meets (Proceeds origin) (selectAp env rounds apsel addr) (fun _ _ => False) stopped :=
  unreached_bind (unreached _ _ _)

theorem dpRead_operates (addr : BitVec 16) : Operates origin fun env rounds => adiv5DpRead env rounds addr := by
  constructor
  · exact fun supports => dpRead_meets supports
  · intro env rounds stopped unreached
    apply meets_reading
    intro firmware holds
    have accessed := unreached true addr 0 firmware holds
    rw [adiv5DpLowAccess, read_bind] at accessed
    cases selected : firmware.remoteDp.functions with
    | none =>
      rw [selected] at accessed
      rintro _ rfl
      exact accessed
    | some functions =>
      cases functions with
      | swd =>
        apply Meets.known _ holds
        apply meets_ite
        · exact fun _ => unreached_bind (unreached_bind (unreached _ _ _))
        · exact fun _ => unreached_bind (unreached _ _ _)
      | jtag =>
        rw [selected] at accessed
        apply unreached_bind
        rintro _ rfl
        exact accessed

theorem apRead_operates (apsel : Byte) (addr : BitVec 16) :
    Operates origin fun env rounds => firmwareApRead env rounds apsel addr :=
  ⟨fun supports => apRead_meets supports, fun unreached => unreached_bind (selectAp_begins unreached)⟩

theorem apWrite_operates (apsel : Byte) (addr : BitVec 16) (value : BitVec 32) :
    Operates origin fun env rounds => firmwareApWrite env rounds apsel addr value :=
  ⟨fun supports => apWrite_meets supports, fun unreached => unreached_bind (selectAp_begins unreached)⟩

theorem setup_begins {env : Environment} {rounds : Nat} {stopped : Halt → Firmware → Prop} {ap : RemoteMemory.AccessPort}
    {addr align : Nat} (unreached : ∀ rnw addr value,
      Meets (Proceeds origin) (adiv5DpLowAccess env rounds rnw addr value) (fun _ _ => False) stopped) :
    Meets (Proceeds origin) (apMemAccessSetup env rounds ap addr align) (fun _ _ => False) stopped :=
  unreached_bind (unreached_bind (selectAp_begins unreached))

theorem memRead_operates (ap : RemoteMemory.AccessPort) (src : Nat) {len : Nat} (short : len ≤ gdbPacketBufferSize)
    (positive : 0 < len) : Operates origin fun env rounds => advi5MemReadBytes env rounds ap src len := by
  constructor
  · exact fun supports => memRead_meets supports short
  · intro env rounds stopped unreached
    rw [advi5MemReadBytes]
    simp only [if_neg (Nat.ne_of_gt positive)]
    have small : ∀ align : MemAp.Align, align.toNat < 32 := fun align => by cases align <;> decide
    apply Meets.bind ((checks_touch _ _ _).meets (small _))
    intro _
    exact unreached_bind (setup_begins unreached)

theorem memWrite_operates (ap : RemoteMemory.AccessPort) (dest : Nat) {len align : Nat} (short : len ≤ gdbPacketBufferSize)
    (small : align < 32) : Operates origin fun env rounds => adiv5MemWriteBytes env rounds ap dest len align := by
  constructor
  · exact fun supports => memWrite_meets supports short small
  · intro env rounds stopped unreached
    apply Meets.bind ((checks_touch _ _ _).meets small)
    intro _
    exact unreached_bind (setup_begins unreached)

end Operations

section Adiv5
variable {α : Type} {origin : Firmware} {packetLen : Nat}

theorem low_bits (upper : BitVec 64) : remoteErrorFault ||| upper <<< 8 ≠ 1 ∧ remoteErrorFault ||| upper <<< 8 ≠ 2 := by
  constructor
  · intro same
    have bit := congrArg (fun value => value.getLsbD 1) same
    simp [remoteErrorFault] at bit
  · intro same
    have bit := congrArg (fun value => value.getLsbD 0) same
    simp [remoteErrorFault] at bit

theorem fault_unlisted (fault : BitVec 64) :
    Response.value remoteRespErr (remoteErrorFault ||| fault <<< 8) ∉ refusals := by
  intro listed
  have codes : remoteRespErr ≠ remoteRespParerr := by decide
  simp only [refusals, List.mem_cons, Response.value.injEq, codes, false_and, true_and, List.not_mem_nil, or_false] at listed
  exact listed.elim (low_bits fault).1 (low_bits fault).2

/-- A packet that is answered, and not refused. -/
def Accepted (firmware : Firmware) : Prop := ∃ response, response ∉ refusals ∧ firmware.sent = [response]

variable {allowed : Prop}

theorem value_meets (unanswered : origin.sent = []) {code : Byte} {param : BitVec 64}
    (unlisted : .value code param ∉ refusals) {stopped : Halt → Firmware → Prop} :
    Meets (Proceeds origin) (remoteRespond code param) (fun _ => Accepted) stopped := by
  intro firmware holds
  rw [remoteRespond_eq]
  refine ⟨_, unlisted, ?_⟩
  rw [answered, holds.sent, unanswered]
  rfl

theorem respondBuf_meets (unanswered : origin.sent = []) {data : Buffer} {size length : Nat}
    (excused : length ≠ 0 → ¬ allowed) :
    Meets (Proceeds origin) (remoteRespondBuf remoteRespOk data size length) (fun _ => Accepted)
      (Excused allowed origin) := by
  intro firmware holds
  by_cases empty : length = 0
  · rw [remoteRespondBuf, bind_returned ((remoteSendBuf_checks size length).passes empty firmware)]
    refine ⟨.data remoteRespOk (data.take length), by simp [refusals], ?_⟩
    show firmware.sent ++ [_] = _
    rw [holds.sent, unanswered]
    rfl
  · obtain ⟨place, stopped⟩ := (remoteSendBuf_checks size length).fails empty firmware
    rw [remoteRespondBuf, bind_stopped stopped]
    exact ⟨fun _ => excused empty, holds⟩

theorem adiv5Respond_meets (unanswered : origin.sent = []) {data : Option (Buffer × Nat)} {length : Nat}
    (excused : data.isSome → length ≠ 0 → origin.remoteDp.fault = 0 → ¬ allowed) :
    Meets (Proceeds origin) (remoteAdiv5Respond data length) (fun _ => Accepted) (Excused allowed origin) := by
  apply meets_reading
  intro firmware holds
  apply Meets.known _ holds
  apply meets_ite
  · exact fun _ => value_meets unanswered (fault_unlisted _)
  · intro clear
    have faultless : origin.remoteDp.fault = 0 := not_not.mp fun pending => clear (holds.fault pending)
    cases data with
    | none => exact value_meets unanswered (ok_unlisted 0)
    | some data => exact respondBuf_meets unanswered fun some => excused rfl some faultless

theorem caught_meets (unanswered : origin.sent = []) (halt : Halt) :
    Meets (Excused allowed origin halt) (remoteCaught halt) (fun _ => Accepted) (Excused allowed origin) := by
  apply meets_ite
  · intro _
    exact (value_meets unanswered (by decide)).starting fun _ stopped => stopped.proceeds
  · exact fun _ => meets_stop fun _ stopped => stopped

/-- An operation returns only with a debug port. -/
theorem operation_meets {operation : Environment → Nat → Action α} (operates : Operates origin operation)
    (env : Environment) (rounds : Nat) :
    Meets (Proceeds origin) (operation env rounds)
      (fun _ firmware => origin.remoteDp.functions ≠ none ∧ Proceeds origin firmware)
      (Excused (Accessible origin) origin) := by
  by_cases absent : origin.remoteDp.functions = none
  · have crashes : Meets (Proceeds origin) (operation env rounds) (fun _ _ => False)
        (Excused (Accessible origin) origin) := by
      apply operates.begins
      intro rnw addr value
      apply meets_reading
      intro firmware holds
      rw [holds.functions, absent]
      apply Meets.known _ holds
      exact meets_stop fun _ holds => excused_inside nofun holds
    exact crashes.returning fun _ _ never => never.elim
  · exact (operates.keeps (supports_proceeds origin env rounds)).returning fun _ _ holds => ⟨absent, holds⟩

/-- A command with an operation on the debug port; `loud` says that data are sent back. -/
structure Command (origin : Firmware) (loud : Prop) (operation : Environment → Nat → Action α) (reply : α → Action Unit)
    (data : α → Firmware → Option (Buffer × Nat)) (length : Nat) : Prop where
  operates : Operates origin operation
  replies : ∀ value firmware, reply value firmware = remoteAdiv5Respond (data value firmware) length firmware
  speaks : loud → length ≠ 0 ∧ ∀ value firmware, (data value firmware).isSome
  quiet : ¬ loud → ∀ value firmware, data value firmware = none

variable {loud : Prop} {operation : Environment → Nat → Action α} {reply : α → Action Unit}
  {data : α → Firmware → Option (Buffer × Nat)} {length : Nat}

def Sparing (loud : Prop) (firmware : Firmware) : Prop := Accessible firmware ∧ (loud → Silent firmware)

theorem command_meets (command : Command origin loud operation reply data length) (unanswered : origin.sent = [])
    (env : Environment) (rounds : Nat) :
    Meets (Proceeds origin) (rescue (operation env rounds >>= reply) remoteCaught) (fun _ => Accepted)
      (Excused (Sparing loud origin) origin) := by
  have operates := (operation_meets command.operates env rounds).halting
    (Excused.narrowed fun sparing : Sparing loud origin => sparing.1)
  apply Meets.rescue _ (caught_meets unanswered)
  apply Meets.bind operates
  intro value
  apply meets_given
  intro present firmware holds
  rw [command.replies]
  apply adiv5Respond_meets unanswered _ firmware holds
  intro some _ faultless sparing
  by_cases speaks : loud
  · exact (sparing.2 speaks).elim present fun fault => fault faultless
  · rw [command.quiet speaks] at some
    cases some

theorem rescue_congr {program other : Action Unit} {handler : Halt → Action Unit} {firmware after : Firmware}
    (same : program firmware = other after) : rescue program handler firmware = rescue other handler after := by
  rw [rescue, rescue, same]

theorem rescue_refused {program : Action Unit} {firmware : Firmware} (refused : Refused (program firmware)) :
    Refused (rescue program remoteCaught firmware) := by
  have running : program firmware = (.ok (), (program firmware).2) := Prod.ext refused.1 rfl
  rw [rescue, running]
  exact ⟨rfl, refused.2⟩

theorem rescue_overran {program : Action Unit} {firmware final : Firmware} {place : Place}
    (stopped : program firmware = (.error (.outOfBounds place), final)) :
    Overran (rescue program remoteCaught firmware) := by
  refine ⟨place, ?_⟩
  rw [rescue, stopped]
  rfl

theorem command_overruns (command : Command origin loud operation reply data length) (exposed : ¬ Sparing loud origin) :
    ∃ env rounds, Overran (rescue (operation env rounds >>= reply) remoteCaught origin) := by
  by_cases accessible : Accessible origin
  · obtain ⟨speaks, noisy⟩ := Classical.not_imp.mp fun silent => exposed ⟨accessible, silent⟩
    obtain ⟨present, faultless⟩ := not_or.mp noisy
    obtain ⟨functions, selected⟩ := Option.ne_none_iff_exists'.mp present
    have started : Faultless origin origin := ⟨Proceeds.refl origin, not_not.mp faultless⟩
    have met := command.operates.keeps (supports_faultless selected accessible 0) origin started
    refine ⟨acknowledging, 2, ?_⟩
    cases running : operation acknowledging 2 origin with
    | mk ending final =>
      rw [running] at met
      cases ending with
      | error halt => exact met.elim
      | ok value =>
        obtain ⟨⟨bytes, size⟩, given⟩ := Option.isSome_iff_exists.mp ((command.speaks speaks).2 value final)
        obtain ⟨place, stopped⟩ := respondBuf_overruns (command.speaks speaks).1 final
        apply rescue_overran
        rw [bind_returned running, command.replies, given, remoteAdiv5Respond, read_bind, if_neg (not_not.mpr met.2)]
        exact stopped
  · have blocked := command.operates.begins (fun rnw addr value => @access_blocked origin accessible 0 rnw addr value)
    have met := blocked origin (Proceeds.refl origin)
    refine ⟨waiting, 1, ?_⟩
    cases running : operation waiting 1 origin with
    | mk ending final =>
      rw [running] at met
      cases ending with
      | ok value => exact met.elim
      | error halt =>
        obtain ⟨place, rfl⟩ := met
        exact rescue_overran (bind_stopped running)

theorem judged_of_meets {program : Environment → Nat → Action Unit}
    (met : ∀ env rounds, Meets (Proceeds origin) (program env rounds) (fun _ => Accepted) (Excused allowed origin))
    (overruns : ¬ allowed → ∃ env rounds, Overran (program env rounds origin)) :
    Judged allowed False fun env rounds => program env rounds origin := by
  constructor
  · rintro sparing env rounds ⟨place, stopped⟩
    exact ((met env rounds).halted (Proceeds.refl origin) (Prod.ext stopped rfl)).excuse ⟨place, rfl⟩ sparing
  · exact overruns
  · exact fun never => never.elim
  · intro _
    refine ⟨acknowledging, 0, ?_⟩
    rintro ⟨returned, refusal, listed, sent⟩
    obtain ⟨response, unlisted, answer⟩ := (met acknowledging 0).returned (Proceeds.refl origin) (Prod.ext returned rfl)
    rw [sent] at answer
    cases answer
    exact unlisted listed

theorem command_judged (command : Command origin loud operation reply data length) (unanswered : origin.sent = []) :
    Judged (Sparing loud origin) False fun env rounds => rescue (operation env rounds >>= reply) remoteCaught origin :=
  judged_of_meets (command_meets command unanswered) (command_overruns command)

end Adiv5

section Adiv5Packets
variable {firmware : Firmware} {packetLen : Nat}

theorem parameterError_refused (received : Received firmware packetLen) : Refused (remoteParameterError firmware) :=
  refused_value received (by decide)

theorem unhexify_checks (length : Nat) :
    Checks (0 < length → 32 + 2 * length ≤ packetLen) (each (fun idx => do
      touch .received packetLen (32 + 2 * idx)
      touch .received packetLen (32 + 2 * idx + 1)) (List.range length)) := by
  apply (checks_each (fun idx => (checks_touch _ _ _).andThen (checks_touch _ _ _)) (List.range length)).of_iff
  simp only [List.mem_range]
  constructor
  · intro whole idx inside
    have enough := whole (Nat.zero_lt_of_lt inside)
    exact ⟨by omega, by omega⟩
  · intro inside positive
    have last := (inside (length - 1) (by omega)).2
    omega

theorem fits_stored {packet : Buffer} {device : Nat} :
    Fits { firmware with packet := packet } device ↔ Fits firmware device := by
  constructor <;> exact fun fits =>
    ⟨fits.listed, ⟨fits.ir.count, fits.ir.prescan, fits.ir.length, fits.ir.postscan⟩, fits.prescan, fits.postscan⟩

theorem accessible_stored {packet : Buffer} : Accessible { firmware with packet := packet } ↔ Accessible firmware :=
  forall_congr' fun _ => fits_stored

theorem sparing_loud : Accessible firmware ∧ Silent firmware ↔ Sparing True firmware :=
  ⟨fun both => ⟨both.1, fun _ => both.2⟩, fun sparing => ⟨sparing.1, sparing.2 trivial⟩⟩

theorem sparing_quiet : Sparing False firmware ↔ Accessible firmware :=
  ⟨fun sparing => sparing.1, fun accessible => ⟨accessible, fun never => never.elim⟩⟩

/-- A register that is read and sent back. -/
theorem register_judged (unanswered : firmware.sent = []) {operation : Environment → Nat → Action (BitVec 32)}
    (operates : Operates firmware operation) {run : Environment → Nat → Action Unit}
    (runs : ∀ env rounds, run env rounds firmware = (operation env rounds >>= fun data =>
      remoteAdiv5Respond (some (Lib.Words.byteOf data, 4)) 4) firmware) :
    Judged (Accessible firmware ∧ Silent firmware) False fun env rounds =>
      rescue (run env rounds) remoteCaught firmware := by
  have command : Command firmware True operation (fun data => remoteAdiv5Respond (some (Lib.Words.byteOf data, 4)) 4)
      (fun data _ => some (Lib.Words.byteOf data, 4)) 4 :=
    ⟨operates, fun _ _ => rfl, fun _ => ⟨by decide, fun _ _ => rfl⟩, fun silent => absurd trivial silent⟩
  apply ((command_judged command unanswered).of_iff sparing_loud Iff.rfl).congr
  exact fun env rounds => rescue_congr (runs env rounds)

/-- Something that is done and acknowledged. -/
theorem done_judged (unanswered : firmware.sent = []) {operation : Environment → Nat → Action Unit}
    (operates : Operates firmware operation) :
    Judged (Accessible firmware) False fun env rounds =>
      rescue (operation env rounds >>= fun _ => remoteAdiv5Respond none 0) remoteCaught firmware := by
  have command : Command firmware False operation (fun _ => remoteAdiv5Respond none 0) (fun _ _ => none) 0 :=
    ⟨operates, fun _ _ => rfl, fun never => never.elim, fun _ _ _ => rfl⟩
  exact (command_judged command unanswered).of_iff sparing_quiet.symm Iff.rfl

theorem memRead_judged (unanswered : firmware.sent = []) (ap : RemoteMemory.AccessPort) (src : Nat) {len : Nat}
    (short : len ≤ gdbPacketBufferSize) :
    Judged (0 < len → Accessible firmware ∧ Silent firmware) False fun env rounds =>
      rescue (advi5MemReadBytes env rounds ap src len >>= fun _ => read >>= fun after =>
        remoteAdiv5Respond (some (after.packet, gdbPacketBufferSize + 1)) len) remoteCaught firmware := by
  by_cases positive : 0 < len
  · have command : Command firmware True (fun env rounds => advi5MemReadBytes env rounds ap src len)
        (fun _ => read >>= fun firmware => remoteAdiv5Respond (some (firmware.packet, gdbPacketBufferSize + 1)) len)
        (fun _ firmware => some (firmware.packet, gdbPacketBufferSize + 1)) len :=
      ⟨memRead_operates ap src short positive, fun _ _ => rfl, fun _ => ⟨Nat.ne_of_gt positive, fun _ _ => rfl⟩,
        fun silent => absurd trivial silent⟩
    apply (command_judged command unanswered).of_iff _ Iff.rfl
    exact ⟨fun bounded => sparing_loud.mp (bounded positive), fun sparing _ => sparing_loud.mpr sparing⟩
  · have empty : len = 0 := Nat.eq_zero_of_not_pos positive
    subst empty
    have idle : ∀ env rounds, Meets (Proceeds firmware) (advi5MemReadBytes env rounds ap src 0)
        (fun _ => Proceeds firmware) (Excused True firmware) := fun env rounds => meets_pure fun _ holds => holds
    have met : ∀ (env : Environment) (rounds : Nat), Meets (Proceeds firmware)
        (rescue (advi5MemReadBytes env rounds ap src 0 >>= fun _ => read >>= fun firmware =>
          remoteAdiv5Respond (some (firmware.packet, gdbPacketBufferSize + 1)) 0) remoteCaught)
        (fun _ => Accepted) (Excused True firmware) := by
      intro env rounds
      apply Meets.rescue _ (caught_meets unanswered)
      apply Meets.bind (idle env rounds)
      intro _
      apply meets_reading
      intro reached holds
      apply Meets.known _ holds
      exact adiv5Respond_meets unanswered fun _ some => absurd rfl some
    apply (judged_of_meets met fun never => absurd trivial never).of_iff _ Iff.rfl
    exact iff_of_true (fun never => absurd never positive) trivial

theorem memWrite_judged (unanswered : firmware.sent = []) (ap : RemoteMemory.AccessPort) (dest : Nat) {len align : Nat}
    (short : len ≤ gdbPacketBufferSize) (small : align < 32) :
    Judged ((0 < len → 32 + 2 * len ≤ packetLen) ∧ Accessible firmware) False fun env rounds =>
      rescue (unhexify packetLen len >>= fun _ => adiv5MemWriteBytes env rounds ap dest len align >>= fun _ =>
        remoteAdiv5Respond none 0) remoteCaught firmware := by
  have checks := @unhexify_checks packetLen len
  by_cases whole : 0 < len → 32 + 2 * len ≤ packetLen
  · have decoded : unhexify packetLen len firmware =
        (.ok (), { firmware with packet := RemoteMemory.unhexifyInPlace 32 len 0 firmware.packet }) := by
      rw [unhexify, bind_returned (checks.passes whole firmware)]
      rfl
    have stored : (Firmware.sent { firmware with packet := RemoteMemory.unhexifyInPlace 32 len 0 firmware.packet }) = [] :=
      unanswered
    have judged := done_judged stored (memWrite_operates ap dest short small)
    apply (judged.of_iff _ Iff.rfl).congr
    · exact fun env rounds => rescue_congr (bind_returned decoded)
    · exact ⟨fun both => accessible_stored.mpr both.2, fun accessible => ⟨whole, accessible_stored.mp accessible⟩⟩
  · obtain ⟨place, stopped⟩ := checks.fails whole firmware
    have overran : ∀ env rounds, Overran (rescue (unhexify packetLen len >>= fun _ =>
        adiv5MemWriteBytes env rounds ap dest len align >>= fun _ => remoteAdiv5Respond none 0) remoteCaught firmware) :=
      fun env rounds => rescue_overran (bind_stopped (bind_stopped stopped))
    exact (judged_overrunning overran).of_iff (iff_of_false (fun both => whole both.1) id) Iff.rfl

/-- The access port of the packet. -/
def packetAp (firmware : Firmware) (apsel : Byte) : RemoteMemory.AccessPort :=
  ⟨apsel, (field firmware.packet 8 6).setWidth 32⟩

theorem memRead_reads (received : Received firmware packetLen) (apsel : Byte) (env : Environment) (rounds : Nat) :
    remoteAdiv5Command env rounds packetLen apsel .memRead firmware =
      (if 1024 < readLength firmware then remoteParameterError
        else advi5MemReadBytes env rounds (packetAp firmware apsel) (field firmware.packet 8 14).toNat
          (readLength firmware) >>= fun _ => read >>= fun after =>
            remoteAdiv5Respond (some (after.packet, gdbPacketBufferSize + 1)) (readLength firmware) : Action Unit)
        firmware := by
  rw [remoteAdiv5Command, bind_returned (field_eq received 8 (show 6 ≤ gdbPacketBufferSize by decide)),
    bind_returned (field_eq received 8 (show 14 ≤ gdbPacketBufferSize by decide)),
    bind_returned (field_eq received 8 (show 22 ≤ gdbPacketBufferSize by decide))]
  rfl

theorem memWrite_reads (received : Received firmware packetLen) (apsel : Byte) (env : Environment) (rounds : Nat) :
    remoteAdiv5Command env rounds packetLen apsel .memWrite firmware =
      (if 1024 < writeLength firmware then remoteParameterError
        else touch .shift 32 (writeAlign firmware) >>= fun _ =>
          if ¬ Aligned firmware then remoteParameterError
          else unhexify packetLen (writeLength firmware) >>= fun _ =>
            adiv5MemWriteBytes env rounds (packetAp firmware apsel) (field firmware.packet 8 16).toNat
              (writeLength firmware) (writeAlign firmware) >>= fun _ => remoteAdiv5Respond none 0 : Action Unit)
        firmware := by
  rw [remoteAdiv5Command, bind_returned (field_eq received 8 (show 6 ≤ gdbPacketBufferSize by decide)),
    bind_returned (field_eq received 2 (show 14 ≤ gdbPacketBufferSize by decide)),
    bind_returned (field_eq received 8 (show 16 ≤ gdbPacketBufferSize by decide)),
    bind_returned (field_eq received 8 (show 24 ≤ gdbPacketBufferSize by decide))]
  rfl

theorem adiv5Command_judged (received : Received firmware packetLen) (apsel : Byte) (command : Adiv5Command) :
    Judged (Adiv5Bounded firmware packetLen command) (Adiv5Noticed firmware command) fun env rounds =>
      rescue (remoteAdiv5Command env rounds packetLen apsel command) remoteCaught firmware := by
  have addr := field_eq received 4 (show 6 ≤ gdbPacketBufferSize by decide)
  have value := field_eq received 8 (show 10 ≤ gdbPacketBufferSize by decide)
  cases command with
  | dpRead =>
    exact register_judged received.unanswered (dpRead_operates _) fun env rounds => bind_returned addr
  | rawAccess =>
    exact register_judged received.unanswered (access_operates _ _ _) fun env rounds => by
      rw [remoteAdiv5Command, bind_returned addr, bind_returned value]
  | apRead => exact register_judged received.unanswered (apRead_operates _ _) fun env rounds => bind_returned addr
  | apWrite =>
    apply (done_judged received.unanswered (apWrite_operates _ _ _)).congr
    exact fun env rounds => rescue_congr (by rw [remoteAdiv5Command, bind_returned addr, bind_returned value])
  | memRead =>
    have reads := memRead_reads received apsel
    by_cases long : 1024 < readLength firmware
    · simp only [if_pos long] at reads
      have refused := fun env rounds => rescue_refused ((reads env rounds).symm ▸ parameterError_refused received)
      exact (judged_refusing refused).of_iff
        (iff_of_true (fun short => absurd long (Nat.not_lt.mpr short)) trivial) (iff_of_true long trivial)
    · simp only [if_neg long] at reads
      have judged := memRead_judged received.unanswered (packetAp firmware apsel) (field firmware.packet 8 14).toNat
        (Nat.le_of_not_lt long)
      apply (judged.of_iff _ (iff_of_false long id)).congr fun env rounds => rescue_congr (reads env rounds)
      exact ⟨fun bounded => bounded (Nat.le_of_not_lt long), fun bounded _ => bounded⟩
  | memWrite =>
    have reads := memWrite_reads received apsel
    by_cases long : 1024 < writeLength firmware
    · simp only [if_pos long] at reads
      have refused := fun env rounds => rescue_refused ((reads env rounds).symm ▸ parameterError_refused received)
      exact (judged_refusing refused).of_iff
        (iff_of_true (fun short => absurd long (Nat.not_lt.mpr short)) trivial) (iff_of_true (.inl long) trivial)
    have short := Nat.le_of_not_lt long
    simp only [if_neg long] at reads
    by_cases small : writeAlign firmware < 32
    · simp only [bind_returned ((checks_touch _ _ _).passes small firmware)] at reads
      by_cases aligned : Aligned firmware
      · simp only [if_neg (not_not.mpr aligned)] at reads
        have judged := @memWrite_judged firmware packetLen received.unanswered (packetAp firmware apsel)
          (field firmware.packet 8 16).toNat _ _ short small
        apply (judged.of_iff _ _).congr fun env rounds => rescue_congr (reads env rounds)
        · exact ⟨fun bounded => (bounded short).2 aligned, fun both _ => ⟨small, fun _ => both⟩⟩
        · exact iff_of_false (fun noticed => noticed.elim long fun misaligned => misaligned.2 aligned) id
      · simp only [if_pos aligned] at reads
        have refused := fun env rounds => rescue_refused ((reads env rounds).symm ▸ parameterError_refused received)
        exact (judged_refusing refused).of_iff (iff_of_true (fun _ => ⟨small, fun same => absurd same aligned⟩) trivial)
          (iff_of_true (.inr ⟨small, aligned⟩) trivial)
    · obtain ⟨place, stopped⟩ := (checks_touch .shift 32 (writeAlign firmware)).fails small firmware
      have overran := fun env rounds => rescue_overran ((reads env rounds).trans (bind_stopped stopped))
      apply (judged_overrunning overran).of_iff (iff_of_false (fun bounded => small (bounded short).1) id)
      exact iff_of_false (fun noticed => noticed.elim long fun misaligned => small misaligned.1) id

theorem addressed_received (received : Received firmware packetLen) : Received (addressed firmware) packetLen :=
  ⟨received.short, received.terminated, received.sealed, received.unanswered⟩

theorem adiv5_reads (received : Received firmware packetLen) (long : ¬ packetLen < 8) (env : Environment) (rounds : Nat) :
    remotePacketProcessAdiv5 env rounds packetLen firmware =
      (match adiv5Command (firmware.packet 1) with
        | some command => remoteAdiv5Command env rounds packetLen ((field firmware.packet 2 4).setWidth 8) command
        | none => remoteUnrecognised) (addressed firmware) := by
  have apsel := field_eq (addressed_received received) 2 (show 4 ≤ gdbPacketBufferSize by decide)
  have letter : packetByte 1 (addressed firmware) = (.ok ((addressed firmware).packet 1), addressed firmware) :=
    packetByte_eq (by decide)
  rw [remotePacketProcessAdiv5, if_neg long, bind_returned (field_eq received 2 (show 2 ≤ gdbPacketBufferSize by decide))]
  show (remoteHexStringToNum 2 4 >>= _) (addressed firmware) = _
  rw [bind_returned apsel, bind_returned letter]
  rfl

theorem adiv5_judged (received : Received firmware packetLen) :
    Judged (8 ≤ packetLen → IfKnown (Adiv5Bounded (addressed firmware) packetLen) (adiv5Command (firmware.packet 1)))
      (packetLen < 8 ∨ IfKnown (Adiv5Noticed firmware) (adiv5Command (firmware.packet 1))) fun env rounds =>
        rescue (remotePacketProcessAdiv5 env rounds packetLen) remoteCaught firmware := by
  by_cases short : packetLen < 8
  · have refused : ∀ env rounds, Refused (rescue (remotePacketProcessAdiv5 env rounds packetLen) remoteCaught firmware) := by
      intro env rounds
      apply rescue_refused
      rw [remotePacketProcessAdiv5, if_pos short]
      exact parameterError_refused received
    exact (judged_refusing refused).of_iff
      (iff_of_true (fun long => absurd short (Nat.not_lt.mpr long)) trivial) (iff_of_true (.inl short) trivial)
  have reads := adiv5_reads received short
  have long := Nat.le_of_not_lt short
  cases selected : adiv5Command (firmware.packet 1) with
  | none =>
    simp only [selected] at reads
    have refused : ∀ env rounds, Refused (rescue (remotePacketProcessAdiv5 env rounds packetLen) remoteCaught firmware) := by
      intro env rounds
      rw [rescue_congr (reads env rounds)]
      exact rescue_refused (unrecognised_refused (addressed_received received))
    exact (judged_refusing refused).of_iff (iff_of_true (fun _ => trivial) trivial) (iff_of_true (.inr trivial) trivial)
  | some command =>
    simp only [selected] at reads
    have judged := adiv5Command_judged (addressed_received received) ((field firmware.packet 2 4).setWidth 8) command
    apply (judged.of_iff _ _).congr fun env rounds => rescue_congr (reads env rounds)
    · exact ⟨fun bounded => bounded long, fun bounded _ => bounded⟩
    · exact ⟨fun noticed => noticed.resolve_left short, .inr⟩

end Adiv5Packets

section Packets
variable {firmware : Firmware} {packetLen : Nat}

/-- The letters of the groups choose what is judged. -/
theorem known_judged {α : Type} {bounded noticed : α → Prop} {run : Environment → Nat → Outcome} {command : Option α}
    (judged : ∀ selected, command = some selected → Judged (bounded selected) (noticed selected) run)
    (refused : command = none → ∀ env rounds, Refused (run env rounds)) :
    Judged (IfKnown bounded command) (IfKnown noticed command) run := by
  cases command with
  | none => exact judged_refusing (refused rfl)
  | some selected => exact judged selected rfl

theorem judged (received : Received firmware packetLen) :
    Judged (Bounded firmware packetLen) (Noticed firmware packetLen) fun env rounds =>
      remotePacketProcess env rounds packetLen firmware := by
  have letter : packetByte 0 firmware = (.ok (firmware.packet 0), firmware) := packetByte_eq (by decide)
  have second : packetByte 1 firmware = (.ok (firmware.packet 1), firmware) := packetByte_eq (by decide)
  simp only [remotePacketProcess, bind_returned letter, Bounded, Noticed]
  cases group (firmware.packet 0) with
  | none => exact judged_refusing fun _ _ => unrecognised_refused received
  | some group =>
    cases group with
    | swd =>
      apply known_judged (swd_judged received)
      intro unknown env rounds
      rw [remotePacketProcessSwd, bind_returned second, unknown]
      exact unrecognised_refused received
    | jtag =>
      apply known_judged (jtag_judged received)
      intro unknown env rounds
      rw [remotePacketProcessJtag, bind_returned second, unknown]
      exact unrecognised_refused received
    | general =>
      apply known_judged (general_judged received)
      intro unknown env rounds
      rw [remotePacketProcessGeneral, bind_returned second, unknown]
      exact unrecognised_refused received
    | highLevel =>
      apply known_judged (highLevel_judged received)
      intro unknown env rounds
      rw [remotePacketProcessHighLevel, bind_returned second, unknown]
      exact unrecognised_refused received
    | adiv5 => exact adiv5_judged received
    | spi =>
      constructor
      · rintro _ env rounds ⟨place, stopped⟩
        cases stopped
      · exact fun never => absurd trivial never
      · exact fun never => never.elim
      · intro _
        refine ⟨acknowledging, 0, ?_⟩
        rintro ⟨_, refusal, _, sent⟩
        have unanswered : firmware.sent = [refusal] := sent
        rw [received.unanswered] at unanswered
        cases unanswered

/-- Nothing is used out of bounds and no malformed packet is taken for another, exactly if the numbers in the packet fit
and a form that is wrong is one that the code looks for. -/
theorem remotePacket_handled_iff (received : Received firmware packetLen) :
    Handled firmware packetLen ↔
      Bounded firmware packetLen ∧ (WellFormed firmware.packet packetLen ∨ Noticed firmware packetLen) :=
  (judged received).handled (WellFormed firmware.packet packetLen)

/-- A probe with its SWD port in use and a packet. -/
def probing (packet : List Byte) : Firmware where
  packet place := packet[place]?.getD 0#8
  swdProc := true
  jtagProc := false
  remoteDp := ⟨some .swd, 0, 0⟩
  jtagDevs _ := ⟨0, 0, 0, 0, 0, 0, 0⟩
  jtagDevCount := 0
  transactions := 0
  sent := []

theorem versionCheck_handled :
    Received (probing (ascii "HC")) 2 ∧ Handled (probing (ascii "HC")) 2 := by
  have received : Received (probing (ascii "HC")) 2 := ⟨by decide, by decide, by decide, rfl⟩
  refine ⟨received, (remotePacket_handled_iff received).mpr ⟨trivial, .inl ⟨⟨0, 0, false⟩, rfl, ?_⟩⟩⟩
  constructor <;> decide

/-- The packet that `remote.h` gives as the example for bits with a parity bit: a word has 32 bits, and it asks for 33. -/
theorem parityBits_overrun :
    Received (probing (ascii "SI21")) 4 ∧ WellFormed (probing (ascii "SI21")).packet 4 ∧
      ¬ Handled (probing (ascii "SI21")) 4 := by
  refine ⟨⟨by decide, by decide, by decide, rfl⟩, ⟨⟨0, 2, false⟩, rfl, ?_⟩, fun handled => ?_⟩
  · constructor <;> decide
  · exact (handled waiting 0).1 ⟨.shift, by decide +kernel⟩

end Packets

end BlackMagic.Proofs.RemoteBounds
