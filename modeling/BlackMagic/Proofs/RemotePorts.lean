import BlackMagic.Proofs.RemoteScans

/-! When the commands of the remote protocol for the ports and the probe are handled inside all bounds, and when a packet is
refused. -/

namespace BlackMagic.Proofs.RemotePorts
open RemotePacket Lib Lib.Program RemoteAccesses RemoteScans
open Jtag (jtagMaxDevs)
open RemoteMemory (isHex hton)
open RemoteResponse (hexNumber responseDigits)

section Forms

/-- The number in a field of a packet, which ends at the first character that is no digit. -/
def field (packet : Buffer) (max place : Nat) : BitVec 64 := hexNumber packet max place 0

/-- The text behind the two letters of a packet: flags, and digits of which there may be more. -/
structure Format where
  flags : Nat
  digits : Nat
  more : Bool

def swdFormat : SwdCommand → Format
  | .init => ⟨0, 0, false⟩
  | .inPar | .inBits => ⟨0, 2, false⟩
  | .out | .outPar => ⟨0, 3, true⟩

def jtagFormat : JtagCommand → Format
  | .init | .reset => ⟨0, 0, false⟩
  | .tms | .tditdo => ⟨0, 3, true⟩
  | .cycle => ⟨2, 8, false⟩
  | .next => ⟨2, 0, false⟩

def generalFormat : GeneralCommand → Format
  | .nrstSet | .pwrSet | .targetClkOe => ⟨1, 0, false⟩
  | .freqSet => ⟨0, 8, false⟩
  | _ => ⟨0, 0, false⟩

def highLevelFormat : HighLevelCommand → Format
  | .check => ⟨0, 0, false⟩
  | .addJtagDev => ⟨0, 20, false⟩

def adiv5Format (packet : Buffer) : Adiv5Command → Format
  | .dpRead | .apRead => ⟨0, 8, false⟩
  | .rawAccess | .apWrite => ⟨0, 16, false⟩
  | .memRead => ⟨0, 28, false⟩
  | .memWrite => ⟨0, 30 + 2 * (field packet 8 24).toNat, false⟩

def spiFormat (packet : Buffer) : Option Format :=
  let letter := packet 1
  if letter = chr 'B' ∨ letter = chr 'E' ∨ letter = chr 'C' then some ⟨0, 2, false⟩
  else if letter = chr 'X' ∨ letter = chr 'I' then some ⟨0, 4, false⟩
  else if letter = chr 'r' then some ⟨0, 18, false⟩
  else if letter = chr 'w' then some ⟨0, 18 + 2 * (field packet 4 16).toNat, false⟩
  else if letter = chr 'c' then some ⟨0, 14, false⟩
  else none

/-- The forms of `remote.h`. -/
def format (packet : Buffer) : Option Format :=
  match group (packet 0) with
  | some .swd => (swdCommand (packet 1)).map swdFormat
  | some .jtag => (jtagCommand (packet 1)).map jtagFormat
  | some .general => (generalCommand (packet 1)).map generalFormat
  | some .highLevel => (highLevelCommand (packet 1)).map highLevelFormat
  | some .adiv5 => (adiv5Command (packet 1)).map (adiv5Format packet)
  | some .spi => spiFormat packet
  | none => none

structure Format.Matches (format : Format) (packet : Buffer) (packetLen : Nat) : Prop where
  long : 2 + format.flags + format.digits ≤ packetLen
  exact : format.more = false → packetLen = 2 + format.flags + format.digits
  flags : ∀ i < format.flags, packet (2 + i) = chr '0' ∨ packet (2 + i) = chr '1'
  digits : ∀ i < packetLen, 2 + format.flags ≤ i → isHex (packet i) = true

def WellFormed (packet : Buffer) (packetLen : Nat) : Prop :=
  ∃ form, format packet = some form ∧ form.Matches packet packetLen

end Forms

section Property

/-- What a run ends with. -/
abbrev Outcome := Except Halt Unit × Firmware

def Overran (outcome : Outcome) : Prop := ∃ place, outcome.1 = .error (.outOfBounds place)

/-- The error responses that are about the packet and not about the target. -/
def refusals : List Response :=
  [.value remoteRespErr remoteErrorUnrecognised, .value remoteRespErr remoteErrorWronglen, .value remoteRespParerr 0]

def Refused (outcome : Outcome) : Prop := outcome.1 = .ok () ∧ ∃ refusal ∈ refusals, outcome.2.sent = [refusal]

/-- A packet in the packet buffer. Only terminators are stored in the last byte of the buffer. -/
structure Received (firmware : Firmware) (packetLen : Nat) : Prop where
  short : packetLen ≤ gdbPacketBufferSize
  terminated : firmware.packet packetLen = 0#8
  sealed : isHex (firmware.packet gdbPacketBufferSize) = false
  unanswered : firmware.sent = []

/-- Whatever the target does, the packet is processed inside all bounds, and refused if it is malformed. -/
def Handled (firmware : Firmware) (packetLen : Nat) : Prop :=
  ∀ env rounds, ¬ Overran (remotePacketProcess env rounds packetLen firmware) ∧
    (¬ WellFormed firmware.packet packetLen → Refused (remotePacketProcess env rounds packetLen firmware))

end Property

section Conditions
variable (firmware : Firmware) (packetLen : Nat)

def clockCycles : Nat := (field firmware.packet 2 2).toNat

def SwdBounded : SwdCommand → Prop
  | .init => True
  | _ => firmware.swdProc = true → clockCycles firmware ≤ 32

def JtagBounded : JtagCommand → Prop
  | .tditdo => 5 ≤ packetLen → firmware.jtagProc = true → clockCycles firmware ≤ 64
  | _ => True

def GeneralBounded : GeneralCommand → Prop
  | .freqGet => False
  | _ => True

def HighLevelBounded : HighLevelCommand → Prop
  | .check => True
  | .addJtagDev => 22 ≤ packetLen → (field firmware.packet 2 2).toNat < jtagMaxDevs

/-- The firmware with the device that the packet names. -/
def addressed : Firmware :=
  { firmware with remoteDp := { firmware.remoteDp with devIndex := (field firmware.packet 2 2).setWidth 8 } }

/-- No data are sent back: there is no debug port, or a fault is told instead. -/
def Silent : Prop := firmware.remoteDp.functions = none ∨ firmware.remoteDp.fault ≠ 0

def readLength : Nat := (field firmware.packet 8 22).toNat
def writeLength : Nat := (field firmware.packet 8 24).toNat
def writeAlign : Nat := (field firmware.packet 2 14).toNat

def Aligned : Prop := writeLength firmware &&& (1 <<< writeAlign firmware - 1) = 0

instance : Decidable (Aligned firmware) := inferInstanceAs (Decidable (_ = 0))

def Adiv5Bounded : Adiv5Command → Prop
  | .dpRead | .rawAccess | .apRead => Accessible firmware ∧ Silent firmware
  | .apWrite => Accessible firmware
  | .memRead => readLength firmware ≤ 1024 → 0 < readLength firmware → Accessible firmware ∧ Silent firmware
  | .memWrite =>
    writeLength firmware ≤ 1024 → writeAlign firmware < 32 ∧
      (Aligned firmware → (0 < writeLength firmware → 32 + 2 * writeLength firmware ≤ packetLen) ∧
        Accessible firmware)

/-- A command of a group, if there is one with the letter. -/
def IfKnown {α : Type} (condition : α → Prop) : Option α → Prop
  | some command => condition command
  | none => True

def Bounded : Prop :=
  match group (firmware.packet 0) with
  | some .swd => IfKnown (SwdBounded firmware) (swdCommand (firmware.packet 1))
  | some .jtag => IfKnown (JtagBounded firmware packetLen) (jtagCommand (firmware.packet 1))
  | some .general => IfKnown GeneralBounded (generalCommand (firmware.packet 1))
  | some .highLevel => IfKnown (HighLevelBounded firmware packetLen) (highLevelCommand (firmware.packet 1))
  | some .adiv5 => 8 ≤ packetLen → IfKnown (Adiv5Bounded (addressed firmware) packetLen) (adiv5Command (firmware.packet 1))
  | some .spi | none => True

def SwdNoticed : SwdCommand → Prop
  | .init => packetLen ≠ 2
  | _ => False

def JtagNoticed : JtagCommand → Prop
  | .tms => packetLen < 4
  | .tditdo => packetLen < 5
  | .next => packetLen ≠ 4
  | _ => False

def HighLevelNoticed : HighLevelCommand → Prop
  | .check => False
  | .addJtagDev => packetLen < 22

def Adiv5Noticed : Adiv5Command → Prop
  | .memRead => 1024 < readLength firmware
  | .memWrite => 1024 < writeLength firmware ∨ (writeAlign firmware < 32 ∧ ¬ Aligned firmware)
  | _ => False

/-- The packets that the code takes for malformed. -/
def Noticed : Prop :=
  match group (firmware.packet 0) with
  | some .swd => IfKnown (SwdNoticed packetLen) (swdCommand (firmware.packet 1))
  | some .jtag => IfKnown (JtagNoticed packetLen) (jtagCommand (firmware.packet 1))
  | some .general => IfKnown (fun _ => False) (generalCommand (firmware.packet 1))
  | some .highLevel => IfKnown (HighLevelNoticed packetLen) (highLevelCommand (firmware.packet 1))
  | some .adiv5 => packetLen < 8 ∨ IfKnown (Adiv5Noticed firmware) (adiv5Command (firmware.packet 1))
  | some .spi => False
  | none => True

end Conditions

section Fields
variable {firmware : Firmware}

theorem packetByte_eq {place : Nat} (inside : place ≤ gdbPacketBufferSize) :
    packetByte place firmware = (.ok (firmware.packet place), firmware) := by
  rw [packetByte, bind_returned ((checks_touch _ _ _).passes (Nat.lt_succ_of_le inside) firmware)]
  rfl

theorem readDigits_eq (sealed : isHex (firmware.packet gdbPacketBufferSize) = false) {max place : Nat} {ret : BitVec 64}
    (inside : place ≤ gdbPacketBufferSize) :
    readDigits max place ret firmware = (.ok (hexNumber firmware.packet max place ret), firmware) := by
  induction max generalizing place ret with
  | zero => rfl
  | succ max ih =>
    rw [readDigits, bind_returned (packetByte_eq inside), hexNumber]
    split
    next digit =>
      have here : place ≠ gdbPacketBufferSize := by
        rintro rfl
        exact absurd digit (by rw [sealed]; decide)
      exact ih (Nat.lt_of_le_of_ne inside here)
    next => rfl

theorem collectDigits_length (room : Nat) (param : BitVec 64) : (RemoteResponse.collectDigits room param).length ≤ room := by
  induction room generalizing param with
  | zero => exact Nat.le_refl 0
  | succ room ih =>
    rw [RemoteResponse.collectDigits]
    split
    next => exact Nat.zero_le _
    next => exact Nat.succ_le_succ (ih _)

theorem responseDigits_length (param : BitVec 64) : (responseDigits param).length ≤ 16 := by
  rw [responseDigits, List.length_reverse]
  split
  next => decide
  next => exact collectDigits_length 16 param

def answered (response : Response) (firmware : Firmware) : Firmware :=
  { firmware with sent := firmware.sent ++ [response] }

theorem remoteRespond_eq (code : Byte) (param : BitVec 64) :
    remoteRespond code param firmware = (.ok (), answered (.value code param) firmware) := by
  have inside : ∀ idx ∈ List.range (responseDigits param).length, idx < 16 := fun idx listed =>
    Nat.lt_of_lt_of_le (List.mem_range.mp listed) (responseDigits_length param)
  rw [remoteRespond, bind_returned ((checks_each (checks_touch _ _) _).passes inside firmware)]
  rfl

end Fields

section Judgements

/-- When a run over all environments stays inside all bounds, and when it refuses the packet. -/
structure Judged (bounded noticed : Prop) (run : Environment → Nat → Outcome) : Prop where
  inside : bounded → ∀ env rounds, ¬ Overran (run env rounds)
  outside : ¬ bounded → ∃ env rounds, Overran (run env rounds)
  refuses : noticed → ∀ env rounds, Refused (run env rounds)
  accepts : ¬ noticed → ∃ env rounds, ¬ Refused (run env rounds)

variable {bounded noticed : Prop} {run : Environment → Nat → Outcome}

theorem Judged.of_iff {bound notice : Prop} (judged : Judged bounded noticed run) (bounds : bound ↔ bounded)
    (notices : notice ↔ noticed) : Judged bound notice run := by
  rw [propext bounds, propext notices]
  exact judged

theorem Judged.congr {other : Environment → Nat → Outcome} (judged : Judged bounded noticed other)
    (same : ∀ env rounds, run env rounds = other env rounds) : Judged bounded noticed run := by
  rw [show run = other from funext fun env => funext fun rounds => same env rounds]
  exact judged

theorem Judged.handled (judged : Judged bounded noticed run) (wellFormed : Prop) :
    (∀ env rounds, ¬ Overran (run env rounds) ∧ (¬ wellFormed → Refused (run env rounds))) ↔
      bounded ∧ (wellFormed ∨ noticed) := by
  constructor
  · intro handled
    constructor
    · by_contra outside
      obtain ⟨env, rounds, overran⟩ := judged.outside outside
      exact (handled env rounds).1 overran
    · by_contra unnoticed
      obtain ⟨malformed, missed⟩ := not_or.mp unnoticed
      obtain ⟨env, rounds, accepted⟩ := judged.accepts missed
      exact accepted ((handled env rounds).2 malformed)
  · rintro ⟨inside, form⟩ env rounds
    exact ⟨judged.inside inside env rounds, fun malformed => judged.refuses (form.resolve_left malformed) env rounds⟩

theorem Refused.not_overran {outcome : Outcome} (refused : Refused outcome) : ¬ Overran outcome := by
  rintro ⟨place, stopped⟩
  rw [refused.1] at stopped
  cases stopped

theorem judged_refusing (refused : ∀ env rounds, Refused (run env rounds)) : Judged True True run :=
  ⟨fun _ env rounds => (refused env rounds).not_overran, fun never => absurd trivial never, fun _ => refused,
    fun never => absurd trivial never⟩

/-- How a command is processed that does not look for an error: with functions that may not be set, and a check of what
it uses. -/
structure Guarded (ready : Prop) (condition : Environment → Prop) (answer : Environment → Response)
    (run : Environment → Nat → Outcome) : Prop where
  crashes : ¬ ready → ∀ env rounds, (run env rounds).1 = .error .nullPointer
  overruns : ready → ∀ env rounds, ¬ condition env → Overran (run env rounds)
  answers : ready → ∀ env rounds, condition env →
    (run env rounds).1 = .ok () ∧ (run env rounds).2.sent = [answer env]

theorem Guarded.judged {ready : Prop} {condition : Environment → Prop} {answer : Environment → Response}
    (guarded : Guarded ready condition answer run) (accepted : ∃ env, answer env ∉ refusals) :
    Judged (ready → ∀ env, condition env) False run := by
  constructor
  · rintro inside env rounds ⟨place, stopped⟩
    by_cases set : ready
    · rw [(guarded.answers set env rounds (inside set env)).1] at stopped
      cases stopped
    · rw [guarded.crashes set env rounds] at stopped
      cases stopped
  · intro outside
    obtain ⟨set, misses⟩ := Classical.not_imp.mp outside
    obtain ⟨env, missed⟩ := not_forall.mp misses
    exact ⟨env, 0, guarded.overruns set env 0 missed⟩
  · exact fun never => never.elim
  · intro _
    obtain ⟨env, unlisted⟩ := accepted
    refine ⟨env, 0, fun refused => ?_⟩
    by_cases set : ready
    · by_cases met : condition env
      · obtain ⟨refusal, listed, sent⟩ := refused.2
        rw [(guarded.answers set env 0 met).2] at sent
        cases sent
        exact unlisted listed
      · exact refused.not_overran (guarded.overruns set env 0 met)
    · have returned := refused.1
      rw [guarded.crashes set env 0] at returned
      cases returned

end Judgements

section Ports
variable {firmware : Firmware} {packetLen : Nat}

theorem field_eq (received : Received firmware packetLen) (max : Nat) {place : Nat} (inside : place ≤ gdbPacketBufferSize) :
    remoteHexStringToNum max place firmware = (.ok (field firmware.packet max place), firmware) :=
  readDigits_eq received.sealed inside

theorem sent_answered (received : Received firmware packetLen) (response : Response) :
    (answered response firmware).sent = [response] := by
  rw [answered, received.unanswered]
  rfl

theorem refused_value (received : Received firmware packetLen) {code : Byte} {param : BitVec 64}
    (listed : .value code param ∈ refusals) : Refused (remoteRespond code param firmware) := by
  rw [remoteRespond_eq]
  exact ⟨rfl, _, listed, sent_answered received _⟩

theorem unrecognised_refused (received : Received firmware packetLen) : Refused (remoteUnrecognised firmware) :=
  refused_value received (by decide)

theorem wronglen_refused (received : Received firmware packetLen) : Refused (remoteWronglen firmware) :=
  refused_value received (by decide)

/-- A table of functions that is set or not. -/
structure Tables (ready : Prop) (table : Action Unit) (firmware : Firmware) : Prop where
  set : ready → table firmware = (.ok (), firmware)
  unset : ¬ ready → table firmware = (.error .nullPointer, firmware)

theorem swdProc_tables : Tables (firmware.swdProc = true) swdProc firmware := by
  constructor
  · intro set
    rw [swdProc, read_bind, if_pos set]
    rfl
  · intro unset
    rw [swdProc, read_bind, if_neg unset]
    rfl

theorem jtagProc_tables : Tables (firmware.jtagProc = true) jtagProc firmware := by
  constructor
  · intro set
    rw [jtagProc, read_bind, if_pos set]
    rfl
  · intro unset
    rw [jtagProc, read_bind, if_neg unset]
    rfl

/-- A command that looks for its functions, checks what it uses, and answers. -/
theorem guarded_checks {ready : Prop} {table : Action Unit} {condition : Environment → Prop}
    {check last : Environment → Action Unit} {answer : Environment → Response} (tables : Tables ready table firmware)
    (checks : ∀ env, Checks (condition env) (check env))
    (answers : ∀ env, (last env firmware).1 = .ok () ∧ (last env firmware).2.sent = [answer env]) :
    Guarded ready condition answer fun env _ => (table >>= fun _ => check env >>= fun _ => last env) firmware := by
  constructor
  · intro unset env _
    rw [bind_stopped (tables.unset unset)]
  · intro set env _ misses
    obtain ⟨place, stopped⟩ := (checks env).fails misses firmware
    rw [bind_returned (tables.set set), bind_stopped stopped]
    exact ⟨place, rfl⟩
  · intro set env _ met
    rw [bind_returned (tables.set set), bind_returned ((checks env).passes met firmware)]
    exact answers env

/-- The answer after changes that leave the responses alone. -/
theorem answers_after (received : Received firmware packetLen) (after : Firmware) (unsent : after.sent = firmware.sent)
    (code : Byte) (param : BitVec 64) :
    (remoteRespond code param after).1 = .ok () ∧ (remoteRespond code param after).2.sent = [.value code param] := by
  rw [remoteRespond_eq]
  refine ⟨rfl, ?_⟩
  rw [answered, unsent, received.unanswered]
  rfl

theorem answers_value (received : Received firmware packetLen) (code : Byte) (param : BitVec 64) :
    (remoteRespond code param firmware).1 = .ok () ∧ (remoteRespond code param firmware).2.sent = [.value code param] :=
  answers_after received firmware rfl code param

theorem ok_unlisted (param : BitVec 64) : Response.value remoteRespOk param ∉ refusals := by
  intro listed
  have codes : remoteRespOk ≠ remoteRespErr ∧ remoteRespOk ≠ remoteRespParerr := by decide
  simp [refusals, codes] at listed

theorem judged_answering {run : Environment → Nat → Outcome}
    (answers : ∀ env rounds, ∃ response, response ∉ refusals ∧ (run env rounds).1 = .ok () ∧
      (run env rounds).2.sent = [response]) : Judged True False run := by
  constructor
  · rintro _ env rounds ⟨place, stopped⟩
    obtain ⟨response, _, returned, _⟩ := answers env rounds
    rw [returned] at stopped
    cases stopped
  · exact fun never => absurd trivial never
  · exact fun never => never.elim
  · intro _
    refine ⟨acknowledging, 0, ?_⟩
    rintro ⟨_, refusal, listed, sent⟩
    obtain ⟨response, unlisted, _, answer⟩ := answers acknowledging 0
    rw [answer] at sent
    cases sent
    exact unlisted listed

end Ports

section Swd
variable {firmware : Firmware} {packetLen : Nat}

theorem swdBits_checks (env : Environment) (clockCycles : Nat) :
    Checks (∀ cycle ∈ List.range clockCycles, env.swdio cycle = true → cycle < 32)
      (each (fun cycle => onlyIf (env.swdio cycle = true) (touch .shift 32 cycle)) (List.range clockCycles)) :=
  checks_each (fun _ => (checks_touch _ _ _).onlyIf) _

/-- Whatever comes in, at most a word of it is shifted. -/
theorem all_bits_iff (clockCycles : Nat) :
    (∀ env : Environment, ∀ cycle ∈ List.range clockCycles, env.swdio cycle = true → cycle < 32) ↔ clockCycles ≤ 32 := by
  constructor
  · intro all
    by_contra many
    exact Nat.lt_irrefl 32 (all waiting 32 (List.mem_range.mpr (Nat.lt_of_not_le many)) rfl)
  · intro few env cycle listed _
    exact Nat.lt_of_lt_of_le (List.mem_range.mp listed) few

theorem acknowledging_value (clockCycles : Nat) : swdValue acknowledging clockCycles = 0 := by
  rw [swdValue]
  induction List.range clockCycles with
  | nil => rfl
  | cons cycle rest ih => exact ih

theorem swd_judged (received : Received firmware packetLen) (command : SwdCommand)
    (selected : swdCommand (firmware.packet 1) = some command) :
    Judged (SwdBounded firmware command) (SwdNoticed packetLen command) fun env _ =>
      remotePacketProcessSwd env packetLen firmware := by
  have letter : packetByte 1 firmware = (.ok (firmware.packet 1), firmware) := packetByte_eq (by decide)
  have cycles := field_eq received 2 (show 2 ≤ gdbPacketBufferSize by decide)
  simp only [remotePacketProcessSwd, bind_returned letter, selected]
  cases command with
  | init =>
    by_cases exact : packetLen = 2
    · simp only [if_pos exact]
      refine (judged_answering fun _ _ => ⟨_, ok_unlisted 0, ?_⟩).of_iff Iff.rfl
        (iff_of_false (fun different => different exact) id)
      apply answers_after received
      rfl
    · simp only [if_neg exact]
      exact (judged_refusing fun _ _ => wronglen_refused received).of_iff Iff.rfl (iff_of_true exact trivial)
  | inPar =>
    simp only [bind_returned cycles, swdptapSeqInParity, swdptapSeqIn, bind_bind]
    refine ((guarded_checks swdProc_tables (fun env => swdBits_checks env _) fun env =>
      answers_value received _ _).judged ⟨acknowledging, ?_⟩).of_iff ?_ Iff.rfl
    · rw [acknowledging_value]
      exact ok_unlisted _
    · exact forall_congr' fun _ => (all_bits_iff _).symm
  | inBits =>
    simp only [bind_returned cycles, swdptapSeqIn, bind_bind]
    refine ((guarded_checks swdProc_tables (fun env => swdBits_checks env _) fun env =>
      answers_value received _ _).judged ⟨acknowledging, ok_unlisted _⟩).of_iff ?_ Iff.rfl
    exact forall_congr' fun _ => (all_bits_iff _).symm
  | out | outPar =>
    have data := field_eq received 0xffffffff (show 4 ≤ gdbPacketBufferSize by decide)
    simp only [bind_returned cycles, bind_returned data]
    refine ((guarded_checks swdProc_tables (fun _ => swdptapSeqOut_checks _) fun _ =>
      answers_value received _ _).judged ⟨acknowledging, ok_unlisted _⟩).of_iff ?_ Iff.rfl
    exact forall_congr' fun _ => ⟨fun few _ => few, fun few => few acknowledging⟩

end Swd

section Jtag
variable {firmware : Firmware} {packetLen : Nat}

/-- A command that uses nothing but its functions. -/
theorem judged_plain {ready : Prop} {table : Action Unit} {last : Environment → Action Unit}
    (tables : Tables ready table firmware)
    (answers : ∀ env, ∃ param, (last env firmware).1 = .ok () ∧ (last env firmware).2.sent = [.value remoteRespOk param]) :
    Judged True False fun env _ => (table >>= fun _ => last env) firmware := by
  have chosen := fun env => (answers env).choose_spec
  have guarded := guarded_checks tables (fun _ => checks_none) chosen
  exact (guarded.judged ⟨acknowledging, ok_unlisted _⟩).of_iff (iff_of_true trivial fun _ _ => trivial) Iff.rfl

theorem jtag_judged (received : Received firmware packetLen) (command : JtagCommand)
    (selected : jtagCommand (firmware.packet 1) = some command) :
    Judged (JtagBounded firmware packetLen command) (JtagNoticed packetLen command) fun env _ =>
      remotePacketProcessJtag env packetLen firmware := by
  have byte : ∀ {place}, place ≤ gdbPacketBufferSize → packetByte place firmware = (.ok (firmware.packet place), firmware) :=
    packetByte_eq
  have number : ∀ max {place}, place ≤ gdbPacketBufferSize →
      remoteHexStringToNum max place firmware = (.ok (field firmware.packet max place), firmware) :=
    fun max _ inside => field_eq received max inside
  simp only [remotePacketProcessJtag, bind_returned (byte (show 1 ≤ gdbPacketBufferSize by decide)), selected]
  cases command with
  | init =>
    refine judged_answering fun _ _ => ⟨_, ok_unlisted 0, ?_⟩
    apply answers_after received
    rfl
  | reset => exact judged_plain jtagProc_tables fun _ => ⟨0, answers_value received _ _⟩
  | tms =>
    simp only [bind_returned (number 2 (show 2 ≤ gdbPacketBufferSize by decide)),
      bind_returned (number 2 (show 4 ≤ gdbPacketBufferSize by decide))]
    by_cases short : packetLen < 4
    · simp only [if_pos short]
      exact (judged_refusing fun _ _ => wronglen_refused received).of_iff Iff.rfl (iff_of_true short trivial)
    · simp only [if_neg short]
      exact (judged_plain jtagProc_tables fun _ => ⟨0, answers_value received _ _⟩).of_iff Iff.rfl (iff_of_false short id)
  | cycle =>
    simp only [bind_returned (number 8 (show 4 ≤ gdbPacketBufferSize by decide)),
      bind_returned (byte (show 2 ≤ gdbPacketBufferSize by decide)),
      bind_returned (byte (show 3 ≤ gdbPacketBufferSize by decide))]
    exact judged_plain jtagProc_tables fun _ => ⟨0, answers_value received _ _⟩
  | tditdo =>
    by_cases short : packetLen < 5
    · simp only [if_pos short]
      exact (judged_refusing fun _ _ => wronglen_refused received).of_iff
        (iff_of_true (fun long => absurd short (Nat.not_lt.mpr long)) trivial) (iff_of_true short trivial)
    · simp only [if_neg short, bind_returned (number 2 (show 2 ≤ gdbPacketBufferSize by decide)),
        bind_returned (number 0xffffffff (show 4 ≤ gdbPacketBufferSize by decide)), jtagtapTdiTdoSeq, bind_bind]
      let dataOut := fun env : Environment => env.tdo firmware.transactions &&& (1#64 <<< clockCycles firmware - 1)
      refine ((@guarded_checks firmware _ _ _ _ _ (fun env => .value remoteRespOk (dataOut env)) jtagProc_tables
        (fun _ => scanBytes_checks _) fun env => ?_).judged ⟨acknowledging, ok_unlisted _⟩).of_iff ?_
          (iff_of_false short id)
      · exact answers_after received { firmware with transactions := firmware.transactions + 1 } rfl _ _
      · exact ⟨fun few set _ => few (Nat.le_of_not_lt short) set, fun few _ set => few set acknowledging⟩
  | next =>
    by_cases exact : packetLen = 4
    · simp only [if_neg (not_not.mpr exact), bind_returned (byte (show 2 ≤ gdbPacketBufferSize by decide)),
        bind_returned (byte (show 3 ≤ gdbPacketBufferSize by decide))]
      let tdo := fun env : Environment => (env.tdo firmware.transactions).getLsbD 0
      refine (judged_plain jtagProc_tables fun env => ⟨if tdo env then 1 else 0, ?_⟩).of_iff
        Iff.rfl (iff_of_false (not_not.mpr exact) id)
      exact answers_value received _ _
    · simp only [if_pos (show packetLen ≠ 4 from exact)]
      exact (judged_refusing fun _ _ => wronglen_refused received).of_iff Iff.rfl (iff_of_true exact trivial)

end Jtag

section Others
variable {firmware : Firmware} {packetLen : Nat}

theorem judged_overrunning {run : Environment → Nat → Outcome} (overran : ∀ env rounds, Overran (run env rounds)) :
    Judged False False run :=
  ⟨fun never => never.elim, fun _ => ⟨acknowledging, 0, overran _ _⟩, fun never => never.elim,
    fun _ => ⟨acknowledging, 0, fun refused => refused.not_overran (overran _ _)⟩⟩

theorem respondBuf_overruns {data : Buffer} {size len : Nat} (some : len ≠ 0) (after : Firmware) :
    ∃ place, remoteRespondBuf remoteRespOk data size len after = (.error (.outOfBounds place), after) := by
  obtain ⟨place, stopped⟩ := (remoteSendBuf_checks size len).fails some after
  exact ⟨place, bind_stopped stopped⟩

theorem overran_of_eq {outcome : Outcome} {place : Place} {final : Firmware}
    (stopped : outcome = (.error (.outOfBounds place), final)) : Overran outcome := ⟨place, by rw [stopped]⟩

theorem general_judged (received : Received firmware packetLen) (command : GeneralCommand)
    (selected : generalCommand (firmware.packet 1) = some command) :
    Judged (GeneralBounded command) False fun env _ => remotePacketProcessGeneral env firmware := by
  have byte : ∀ {place}, place ≤ gdbPacketBufferSize → packetByte place firmware = (.ok (firmware.packet place), firmware) :=
    packetByte_eq
  have text : ∀ code str, (remoteRespondString code str firmware).2.sent = [_] := fun _ _ => sent_answered received _
  have number := field_eq received 8 (show 2 ≤ gdbPacketBufferSize by decide)
  simp only [remotePacketProcessGeneral, bind_returned (byte (show 1 ≤ gdbPacketBufferSize by decide)), selected]
  cases command with
  | voltage | start => exact judged_answering fun _ _ => ⟨_, by decide, rfl, text _ _⟩
  | nrstSet | targetClkOe =>
    simp only [bind_returned (byte (show 2 ≤ gdbPacketBufferSize by decide))]
    exact judged_answering fun _ _ => ⟨_, ok_unlisted _, answers_value received _ _⟩
  | nrstGet => exact judged_answering fun _ _ => ⟨_, ok_unlisted _, answers_value received _ _⟩
  | freqSet =>
    simp only [bind_returned number]
    exact judged_answering fun _ _ => ⟨_, ok_unlisted _, answers_value received _ _⟩
  | freqGet =>
    obtain ⟨place, stopped⟩ := respondBuf_overruns (show 4 ≠ 0 by decide) firmware
    exact judged_overrunning fun _ _ => overran_of_eq stopped
  | pwrSet | pwrGet => exact judged_answering fun _ _ => ⟨_, by decide, answers_value received _ _⟩

theorem addDevice_adds {index : Nat} (listed : index < jtagMaxDevs) (dev : Jtag.JtagDev) (before : Firmware) :
    ∃ after, jtagAddDevice index dev before = (.ok (), after) ∧ after.sent = before.sent := by
  have set : ∀ state : Firmware, ∃ after, (do
      setDev index fun _ => dev
      change fun firmware => { firmware with jtagDevCount := index + 1 } : Action Unit) state = (.ok (), after) ∧
        after.sent = state.sent := by
    intro state
    rw [setDev, bind_bind, bind_returned ((checks_touch _ _ _).passes listed state)]
    exact ⟨_, rfl, rfl⟩
  rw [jtagAddDevice]
  by_cases first : index = 0
  · rw [onlyIf_taken first]
    obtain ⟨after, added, sent⟩ := set _
    exact ⟨after, added, sent⟩
  · rw [bind_returned (onlyIf_skipped first)]
    exact set before

theorem addDevice_overruns {index : Nat} (unlisted : ¬ index < jtagMaxDevs) (dev : Jtag.JtagDev) (before : Firmware) :
    ∃ place, jtagAddDevice index dev before = (.error (.outOfBounds place), before) := by
  have later : index ≠ 0 := fun first => unlisted (by rw [first]; decide)
  obtain ⟨place, stopped⟩ := (checks_touch .jtagDevs jtagMaxDevs index).fails unlisted before
  rw [jtagAddDevice, bind_returned (onlyIf_skipped later), setDev, bind_bind, bind_stopped stopped]
  exact ⟨place, rfl⟩

theorem highLevel_judged (received : Received firmware packetLen) (command : HighLevelCommand)
    (selected : highLevelCommand (firmware.packet 1) = some command) :
    Judged (HighLevelBounded firmware packetLen command) (HighLevelNoticed packetLen command) fun _ _ =>
      remotePacketProcessHighLevel packetLen firmware := by
  have letter : packetByte 1 firmware = (.ok (firmware.packet 1), firmware) := packetByte_eq (by decide)
  have number : ∀ max {place}, place ≤ gdbPacketBufferSize →
      remoteHexStringToNum max place firmware = (.ok (field firmware.packet max place), firmware) :=
    fun max _ inside => field_eq received max inside
  simp only [remotePacketProcessHighLevel, bind_returned letter, selected]
  cases command with
  | check => exact judged_answering fun _ _ => ⟨_, ok_unlisted _, answers_value received _ _⟩
  | addJtagDev =>
    by_cases short : packetLen < 22
    · simp only [if_pos short]
      exact (judged_refusing fun _ _ => wronglen_refused received).of_iff
        (iff_of_true (fun long => absurd short (Nat.not_lt.mpr long)) trivial) (iff_of_true short trivial)
    · simp only [if_neg short, bind_returned (number 2 (show 2 ≤ gdbPacketBufferSize by decide)),
        bind_returned (number 2 (show 4 ≤ gdbPacketBufferSize by decide)),
        bind_returned (number 2 (show 6 ≤ gdbPacketBufferSize by decide)),
        bind_returned (number 2 (show 8 ≤ gdbPacketBufferSize by decide)),
        bind_returned (number 2 (show 10 ≤ gdbPacketBufferSize by decide)),
        bind_returned (number 2 (show 12 ≤ gdbPacketBufferSize by decide)),
        bind_returned (number 8 (show 14 ≤ gdbPacketBufferSize by decide))]
      by_cases listed : (field firmware.packet 2 2).toNat < jtagMaxDevs
      · refine Judged.of_iff (judged_answering fun _ _ => ?_) (iff_of_true (fun _ => listed) trivial) (iff_of_false short id)
        obtain ⟨after, added, sent⟩ := addDevice_adds listed _ firmware
        rw [bind_returned added]
        exact ⟨_, ok_unlisted _, answers_after received after sent _ _⟩
      · refine Judged.of_iff (judged_overrunning fun _ _ => ?_)
          (iff_of_false (fun bounded => listed (bounded (Nat.le_of_not_lt short))) id) (iff_of_false short id)
        obtain ⟨place, stopped⟩ := addDevice_overruns listed _ firmware
        rw [bind_stopped stopped]
        exact ⟨place, rfl⟩

end Others

end BlackMagic.Proofs.RemotePorts
