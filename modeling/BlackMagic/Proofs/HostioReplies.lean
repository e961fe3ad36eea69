import BlackMagic.Hostio
import BlackMagic.Proofs.ServerTargets
import Mathlib.Data.List.TakeWhile

/-! What a call to the host returns, for every reply of GDB and whatever comes before it. -/

namespace BlackMagic.Proofs.HostioReplies
open Lib Lib.Program Lib.Scan Targets Commands Server Hostio
open ServerTargets (calm)

section Grammar

/-- A hexadecimal field of an `F` packet. -/
structure HexField where
  digits : Text
  some : digits ≠ []
  hex : ∀ c ∈ digits, (digit 16 c).isSome
  fits : (digitValues 16 digits).foldl (fun total value => total * 16 + value) 0 < 2 ^ 32

def HexField.value (field : HexField) : Nat :=
  (digitValues 16 field.digits).foldl (fun total value => total * 16 + value) 0

/-- What may follow the return value: the errno, and behind it the mark of a break. -/
inductive Addition where
  | nothing
  | errno (field : HexField)
  | ctrlC (field : HexField)

def Addition.text : Addition → Text
  | .nothing => []
  | .errno field => chr ',' :: field.digits
  | .ctrlC field => chr ',' :: field.digits ++ ascii ",C"

def Addition.controller : Addition → TargetController
  | .nothing => ⟨0, false⟩
  | .errno field => ⟨field.value, false⟩
  | .ctrlC field => ⟨field.value, true⟩

/-- The reply of GDB to a request, with a return value that fits an `int`. -/
structure Reply where
  negative : Bool
  retcode : HexField
  addition : Addition
  fits : if negative then retcode.value ≤ 2 ^ 31 else retcode.value < 2 ^ 31

def Reply.text (reply : Reply) : Text :=
  chr 'F' :: (if reply.negative then [chr '-'] else []) ++ (reply.retcode.digits ++ reply.addition.text)

def Reply.result (reply : Reply) : Int := if reply.negative then -reply.retcode.value else reply.retcode.value

/-- The packet holds the reply. -/
def Carries (packet : Incoming) (reply : Reply) : Prop := packet.pbuf.take packet.size = reply.text

instance (packet : Incoming) (reply : Reply) : Decidable (Carries packet reply) :=
  inferInstanceAs (Decidable (packet.pbuf.take packet.size = reply.text))

end Grammar

section Parsing

private theorem strtoul_value (field : HexField) : strtoul 16 false (digitValues 16 field.digits) = field.value := by
  have fits := field.fits
  simp only [strtoul, HexField.value]
  rw [if_neg (by omega)]
  rfl

theorem scan_field (field : HexField) {rest : Text} (delimited : Delimited 16 rest)
    (unmarked : ∀ c more, rest = c :: more → c ≠ chr 'x' ∧ c ≠ chr 'X') (length : Nat) (format : List Directive) :
    scanFrom length (.hex none :: format) (field.digits ++ rest) = (scanFrom length format rest).assigned field.value := by
  simp only [scanFrom, integer_hex field.some field.hex delimited unmarked, strtoul_value]

/-- The fields of an `F` packet behind the sign. -/
def replyFormat : List Directive := [.hex none] ++ text "," ++ [.hex none] ++ text "," ++ [.character]

def Addition.values : Addition → List Nat
  | .nothing => []
  | .errno field => [field.value]
  | .ctrlC field => [field.value, (chr 'C').toNat]

theorem scan_reply (retcode : HexField) (addition : Addition) :
    sscanf (retcode.digits ++ addition.text) replyFormat
      = ⟨1 + addition.values.length, retcode.value :: addition.values⟩ := by
  have format : replyFormat = .hex none :: .literal (chr ',') :: .hex none :: .literal (chr ',') :: [.character] := rfl
  rw [sscanf, format]
  cases addition with
  | nothing =>
    rw [show Addition.nothing.text = [] from rfl, scan_field retcode (delimited_nil 16) unmarked_nil]
    rfl
  | errno field =>
    rw [show (Addition.errno field).text = chr ',' :: field.digits from rfl,
      scan_field retcode (delimited_comma _) (unmarked_comma _), scanFrom, if_pos rfl]
    rw [← List.append_nil field.digits, scan_field field (delimited_nil 16) unmarked_nil]
    rfl
  | ctrlC field =>
    rw [show (Addition.ctrlC field).text = chr ',' :: (field.digits ++ ascii ",C") from rfl,
      scan_field retcode (delimited_comma _) (unmarked_comma _), scanFrom, if_pos rfl]
    rw [show ascii ",C" = chr ',' :: [chr 'C'] by decide, scan_field field (delimited_comma _) (unmarked_comma _)]
    rfl

private theorem digit_char : ∀ c : Byte, (digit 16 c).isSome → c ≠ 0#8 ∧ c ≠ chr '-' := by decide +kernel

private theorem text_printable (reply : Reply) : ∀ c ∈ reply.text, c ≠ 0#8 := by
  have field (field : HexField) : ∀ c ∈ field.digits, c ≠ 0#8 := fun c listed => (digit_char c (field.hex c listed)).1
  have addition : ∀ c ∈ reply.addition.text, c ≠ 0#8 := by
    intro c listed
    cases same : reply.addition with
    | nothing =>
      rw [same] at listed
      cases listed
    | errno value =>
      rw [same] at listed
      rcases List.mem_cons.mp listed with rfl | listed
      · decide
      · exact field value c listed
    | ctrlC value =>
      rw [same] at listed
      rcases List.mem_append.mp listed with listed | listed
      · rcases List.mem_cons.mp listed with rfl | listed
        · decide
        · exact field value c listed
      · have printable : ∀ c ∈ ascii ",C", c ≠ 0#8 := by decide
        exact printable c listed
  intro c listed
  simp only [Reply.text, List.mem_append, List.mem_cons] at listed
  rcases listed with (rfl | sign) | listed | listed
  · decide
  · split at sign
    · rw [List.mem_singleton.mp sign]
      decide
    · cases sign
  · exact field reply.retcode c listed
  · exact addition c listed

variable {packet : Incoming} {reply : Reply}

theorem Carries.string (carries : Carries packet reply) : packetString packet.pbuf packet.size = reply.text := by
  rw [packetString, carries, cString, List.takeWhile_eq_self_iff]
  intro c listed
  simpa using text_printable reply c listed

/-- A character of the packet in the buffer. -/
theorem Carries.at (carries : Carries packet reply) {i : Nat} {c : Byte} (there : reply.text[i]? = some c) :
    packet.pbuf i = c := by
  rw [← carries, Buffer.take, List.getElem?_map, Option.map_eq_some_iff] at there
  obtain ⟨j, found, rfl⟩ := there
  rw [List.getElem?_eq_some_iff] at found
  obtain ⟨_, same⟩ := found
  rw [List.getElem_range] at same
  rw [same]

theorem Carries.kind (carries : Carries packet reply) : packetKind (packet.pbuf 0) = .fileIo := by
  rw [carries.at (show reply.text[0]? = some (chr 'F') from rfl)]
  decide

theorem Carries.sign (carries : Carries packet reply) : packet.pbuf 1 = chr '-' ↔ reply.negative = true := by
  cases sign : reply.negative with
  | true =>
    have there : reply.text[1]? = some (chr '-') := by simp [Reply.text, sign]
    simp [carries.at there]
  | false =>
    cases spelled : reply.retcode.digits with
    | nil => exact absurd spelled reply.retcode.some
    | cons c rest =>
      have there : reply.text[1]? = some c := by simp [Reply.text, sign, spelled]
      rw [carries.at there]
      have digit := reply.retcode.hex c (by simp [spelled])
      simp [(digit_char c digit).2]

private theorem result_of_retcode (reply : Reply) :
    (if reply.negative then toInt (2 ^ 32 - reply.retcode.value) else toInt reply.retcode.value) = reply.result := by
  have fits := reply.fits
  simp only [Reply.result, toInt, BitVec.toInt_eq_toNat_cond, BitVec.toNat_ofNat]
  split
  next negative =>
    rw [if_pos negative] at fits
    split <;> omega
  next positive =>
    rw [if_neg positive] at fits
    split <;> omega

/-- The end of a reply in the controller, by the number of fields that have been stored. -/
private theorem controller_of_values (addition : Addition) (retcode : Nat) :
    (⟨if 2 ≤ 1 + addition.values.length then ((retcode :: addition.values)[1]?).getD 0 else 0,
      1 + addition.values.length = 3 ∧ ((retcode :: addition.values)[2]?).getD 0 = (chr 'C').toNat⟩ : TargetController)
      = addition.controller := by
  cases addition with
  | nothing => rfl
  | errno field => simp [Addition.values, Addition.controller]
  | ctrlC field => simp [Addition.values, Addition.controller]

/-- A reply returns its value and leaves its errno and its break in the controller. -/
theorem hostioReply_spec (carries : Carries packet reply) (session : Session) :
    hostioReply packet.pbuf packet.size session
      = (.ok reply.result, { session with tc := reply.addition.controller }) := by
  have fields : sscanf ((packetString packet.pbuf packet.size).drop (if packet.pbuf 1 = chr '-' then 2 else 1)) replyFormat
      = ⟨1 + reply.addition.values.length, reply.retcode.value :: reply.addition.values⟩ := by
    rw [carries.string, ← scan_reply]
    congr 1
    simp only [carries.sign, Reply.text]
    cases reply.negative with
    | true => rfl
    | false => rfl
  simp only [hostioReply]
  rw [show ([.hex none] ++ text "," ++ [.hex none] ++ text "," ++ [.character]) = replyFormat from rfl, fields]
  rw [if_neg (by simp)]
  simp only [carries.sign]
  rw [controller_of_values]
  show (Except.ok _, _) = _
  simp only [List.getElem?_cons_zero, Option.getD_some, result_of_retcode]

end Parsing

section Calls

/-- The packets that read or write memory. -/
def MemoryPacket (packet : Incoming) : Prop :=
  packetKind (packet.pbuf 0) = .readMemory ∨ packetKind (packet.pbuf 0) = .writeMemory ∨
    packetKind (packet.pbuf 0) = .writeBinary

/-- What the main loop does with packets that come one after another. -/
def service (packets : List Incoming) : Targets.Action Unit :=
  each (fun packet => gdbMainLoop packet.answers packet.pbuf packet.size) packets

/-- The call handles the memory packets and the reply behind them, and returns what the reply says. -/
def Transparent (answers : Answers) (request : Request) (session : Session) (memory : List Incoming) (reply : Reply)
    (rest : List Incoming) : Prop :=
  ∃ body server, hostio answers request = ask answers body ∧
    (do gdbPutpacketF answers body; service memory) session.server = (.ok (), server) ∧
    hostio answers request session = (.ok reply.result, ⟨server, reply.addition.controller, rest⟩)

theorem hostio_asks (answers : Answers) (request : Request) : ∃ body, hostio answers request = ask answers body := by
  cases request <;> exact ⟨_, rfl⟩

theorem gdbPutpacketF_returns (answers : Answers) (body : Text) (server : Server) :
    ∃ sent, gdbPutpacketF answers body server = (.ok (), sent) := by
  rw [gdbPutpacketF, onlyIf]
  split
  · exact ⟨_, rfl⟩
  · exact ⟨_, rfl⟩

/-- A call handles the first packet that comes, and no other. -/
theorem ask_handles_one (answers : Answers) (body : Text) {session : Session} {packet : Incoming} {rest : List Incoming}
    (incoming : session.incoming = packet :: rest) {sent : Server}
    (asked : gdbPutpacketF answers body session.server = (.ok (), sent)) :
    ask answers body session = gdbMainLoopInSyscall packet { session with server := sent, incoming := rest } := by
  have sends : onServer (gdbPutpacketF answers body) session = (.ok (), { session with server := sent }) := by
    rw [onServer, asked]
  have takes : gdbGetpacket { session with server := sent }
      = (.ok packet, { session with server := sent, incoming := rest }) := by
    rw [gdbGetpacket, bind_returned (show read _ = (.ok _, _) from rfl)]
    simp only [incoming]
    rfl
  rw [ask, bind_returned sends, hostioGetResponse, bind_returned takes]

theorem onServer_keeps_incoming (action : Targets.Action α) (session : Session) :
    (onServer action session).2.incoming = session.incoming := by
  rw [onServer]
  split <;> rfl

/-- A packet other than a reply leaves the packets behind it alone. -/
theorem syscall_keeps_incoming {packet : Incoming} (other : packetKind (packet.pbuf 0) ≠ .fileIo) (session : Session) :
    (gdbMainLoopInSyscall packet session).2.incoming = session.incoming := by
  have kept := onServer_keeps_incoming (gdbMainLoop packet.answers packet.pbuf packet.size) session
  simp only [gdbMainLoopInSyscall]
  rw [if_neg other]
  cases ending : onServer (gdbMainLoop packet.answers packet.pbuf packet.size) session with
  | mk result after =>
    rw [ending] at kept
    cases result with
    | ok value =>
      rw [bind_returned ending]
      exact kept
    | error reason =>
      rw [bind_stopped ending]
      exact kept

theorem memory_not_reply {packet : Incoming} (memory : MemoryPacket packet) : packetKind (packet.pbuf 0) ≠ .fileIo := by
  rcases memory with kind | kind | kind <;> rw [kind] <;> decide

/-- After a memory packet the call is over, and the reply is still to come. -/
theorem reply_left {session : Session} {packet : Incoming} {rest : List Incoming} (answers : Answers) (request : Request)
    (incoming : session.incoming = packet :: rest) (memory : MemoryPacket packet) :
    (hostio answers request session).2.incoming = rest := by
  obtain ⟨body, asks⟩ := hostio_asks answers request
  obtain ⟨sent, asked⟩ := gdbPutpacketF_returns answers body session.server
  rw [asks, ask_handles_one answers body incoming asked, syscall_keeps_incoming (memory_not_reply memory)]

/-- A call is transparent just if its reply is the first packet. -/
theorem hostio_transparent_iff (answers : Answers) (request : Request) (session : Session) (memory rest : List Incoming)
    (packet : Incoming) (reply : Reply) (accesses : ∀ access ∈ memory, MemoryPacket access)
    (carries : Carries packet reply) (incoming : session.incoming = memory ++ packet :: rest) :
    Transparent answers request session memory reply rest ↔ memory = [] := by
  constructor
  · rintro ⟨body, server, _, _, returned⟩
    cases memory with
    | nil => rfl
    | cons access more =>
      have left : (hostio answers request session).2.incoming = more ++ packet :: rest :=
        reply_left answers request incoming (accesses access List.mem_cons_self)
      rw [returned] at left
      have shorter := congrArg List.length left
      simp only [List.length_append, List.length_cons] at shorter
      omega
  · rintro rfl
    obtain ⟨body, asks⟩ := hostio_asks answers request
    obtain ⟨sent, asked⟩ := gdbPutpacketF_returns answers body session.server
    refine ⟨body, sent, asks, ?_, ?_⟩
    · rw [bind_returned asked]
      rfl
    · rw [asks, ask_handles_one answers body incoming asked, gdbMainLoopInSyscall, if_pos carries.kind,
        hostioReply_spec carries]

/-- The packet with this text. -/
def packetOf (packet : String) : Incoming := ⟨fun i => (ascii packet).getD i 0#8, (ascii packet).length, calm⟩

/-- A target is attached and waits for its call. -/
def calling (incoming : List Incoming) : Session :=
  ⟨{ initial with targetList := [0], allocated := 1, curTarget := some 0 }, ⟨0, false⟩, incoming⟩

/-- The call failed with `EBADF`, and the user pressed ctrl-C. -/
def interruptedReply : Reply where
  negative := true
  retcode := ⟨ascii "1", by decide, by decide, by decide⟩
  addition := .ctrlC ⟨ascii "9", by decide, by decide, by decide⟩
  fits := by decide

theorem interrupted_call_transparent :
    Transparent calm (.read 3 0x20000000 16) (calling [packetOf "F-1,9,C"]) [] interruptedReply [] ∧
      interruptedReply.result = -1 ∧ interruptedReply.addition.controller = ⟨9, true⟩ := by
  refine ⟨?_, by decide, by decide⟩
  apply (hostio_transparent_iff calm (.read 3 0x20000000 16) (calling [packetOf "F-1,9,C"]) [] [] (packetOf "F-1,9,C")
    interruptedReply (fun _ none => by cases none) (by decide) rfl).mpr
  rfl

/-- One byte has been read. -/
def oneByteReply : Reply where
  negative := false
  retcode := ⟨ascii "1", by decide, by decide, by decide⟩
  addition := .nothing
  fits := by decide

/-- GDB writes the byte that it has read and then replies: the call returns zero, before the reply. -/
theorem written_buffer_ends_call :
    Carries (packetOf "F1") oneByteReply ∧ oneByteReply.result = 1 ∧ MemoryPacket (packetOf "M20000000,1:41") ∧
      (hostio calm (.read 3 0x20000000 1) (calling [packetOf "M20000000,1:41", packetOf "F1"])).1 = .ok 0 ∧
      ¬ Transparent calm (.read 3 0x20000000 1) (calling [packetOf "M20000000,1:41", packetOf "F1"])
        [packetOf "M20000000,1:41"] oneByteReply [] := by
  have memory : MemoryPacket (packetOf "M20000000,1:41") := .inr (.inl (by decide))
  refine ⟨by decide, by decide, memory, rfl, ?_⟩
  rintro ⟨_, _, _, _, returned⟩
  have left : (hostio calm (.read 3 0x20000000 1) (calling [packetOf "M20000000,1:41", packetOf "F1"])).2.incoming
      = [packetOf "F1"] := reply_left calm (.read 3 0x20000000 1) rfl memory
  rw [returned] at left
  cases left

end Calls

end BlackMagic.Proofs.HostioReplies
