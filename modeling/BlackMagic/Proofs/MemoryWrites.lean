import BlackMagic.Proofs.ServerTargets
import Mathlib.Data.List.TakeWhile

/-! The packets that write memory, from hex digits (`M`) or binary data (`X`): they do what they say
exactly if they have the form that they should have, or are rejected for their length. -/

namespace BlackMagic.Proofs.MemoryWrites
open Lib Lib.Program Lib.Scan Lib.Words Hex Targets Commands Server
open ServerTargets (calm)

/-- A packet as it was received. -/
structure Packet where
  pbuf : Buffer
  size : Nat
  fits : size ≤ gdbPacketBufferSize

def Packet.bytes (packet : Packet) : Text := packet.pbuf.take packet.size

inductive Coding where
  | hexadecimal
  | binary
  deriving DecidableEq, Repr

namespace Coding

def head : Coding → Byte
  | .hexadecimal => chr 'M'
  | .binary => chr 'X'

/-- How many characters of a packet stand for so many bytes. -/
def width : Coding → Nat
  | .hexadecimal => 2
  | .binary => 1

def decode : Coding → Text → Nat → Text
  | .hexadecimal, field, len => unhexify field len
  | .binary, field, _ => field

/-- The characters that data may consist of. -/
def Carries : Coding → Text → Prop
  | .hexadecimal, field => ∀ c ∈ field, (digit 16 c).isSome
  | .binary, _ => True

def format (coding : Coding) : List Directive :=
  .literal coding.head :: .hex none :: text "," ++ .hex none :: text ":" ++ [.position]

end Coding

/-- A number of 32 bits in hexadecimal digits. -/
structure Numeral (digits : Text) (n : Nat) : Prop where
  some : digits ≠ []
  hex : ∀ c ∈ digits, (digit 16 c).isSome
  value : digitsValue 16 0 (digitValues 16 digits) = n
  small : n < 2 ^ 32

/-- The packet is an address, a length and at least so much data. -/
inductive Asks (coding : Coding) : Text → Nat → Text → Prop
  | intro {first second field rest : Text} {addr len : Nat} (address : Numeral first addr) (length : Numeral second len)
      (whole : field.length = coding.width * len) (carried : coding.Carries field) :
      Asks coding (coding.head :: first ++ chr ',' :: second ++ chr ':' :: (field ++ rest)) addr (coding.decode field len)

section Packets
variable (answers : Answers) (coding : Coding) (packet : Packet)

def scanned : Scanned := sscanf (packetString packet.pbuf packet.size) coding.format

/-- What the locals hold after the scan; an `M` packet starts with zeros. -/
def addrOf : Nat :=
  match coding with
  | .hexadecimal => ((scanned coding packet).values[0]?).getD 0
  | .binary => stored answers (scanned coding packet) 0

def lenOf : Nat :=
  match coding with
  | .hexadecimal => ((scanned coding packet).values[1]?).getD 0
  | .binary => stored answers (scanned coding packet) 1

def positionOf : Nat := stored answers (scanned coding packet) 2

/-- The check of the length. -/
def Accepted : Prop :=
  lenOf answers coding packet ≤ sub32 packet.size (positionOf answers coding packet % 2 ^ 32) / coding.width

instance : Decidable (Accepted answers coding packet) := inferInstanceAs (Decidable (_ ≤ _))

/-- What is written if the packet is accepted. -/
def dataOf : Text :=
  let len := lenOf answers coding packet
  coding.decode (slice packet.pbuf (positionOf answers coding packet) (coding.width * len)) len

private theorem gdbMainLoop_writes (starts : packet.pbuf 0 = coding.head) :
    gdbMainLoop answers packet.pbuf packet.size
      = errorIfNoTarget (if Accepted answers coding packet
          then writeMemory answers (addrOf answers coding packet) (dataOf answers coding packet) else gdbPutpacketz "E02") := by
  have turned : ∀ {len room : Nat} {first second : Action Unit},
      (if len > room then second else first) = if len ≤ room then first else second := by
    intro len room first second
    by_cases fits : len ≤ room
    · rw [if_neg (Nat.not_lt.mpr fits), if_pos fits]
    · rw [if_pos (Nat.lt_of_not_le fits), if_neg fits]
  cases coding with
  | hexadecimal =>
    have kind : packetKind (packet.pbuf 0) = .writeMemory := by rw [starts]; decide
    rw [gdbMainLoop, kind]
    dsimp only
    rw [handleWriteM, turned]
    rfl
  | binary =>
    have kind : packetKind (packet.pbuf 0) = .writeBinary := by rw [starts]; decide
    rw [gdbMainLoop, kind]
    dsimp only
    rw [handleX, turned]
    simp only [Accepted, dataOf, lenOf, addrOf, positionOf, Coding.width, Coding.decode, Nat.div_one, Nat.one_mul]
    rfl

end Packets

section Forms
variable {coding : Coding} {first second field rest : Text} {addr len : Nat}

private theorem Numeral.integer (numeral : Numeral first addr) {behind : Text} (delimited : Delimited 16 behind)
    (unmarked : ∀ c more, behind = c :: more → c ≠ chr 'x' ∧ c ≠ chr 'X') :
    integer 16 none (first ++ behind) = .some (addr, behind) := by
  have value := numeral.value
  rw [integer_hex numeral.some numeral.hex delimited unmarked, strtoul_digits (value ▸ numeral.small), value]

private theorem delimited_colon (behind : Text) : Delimited 16 (chr ':' :: behind) := by
  rintro _ _ ⟨⟩
  decide

private theorem unmarked_colon (behind : Text) : ∀ c more, chr ':' :: behind = c :: more → c ≠ chr 'x' ∧ c ≠ chr 'X' := by
  rintro _ _ ⟨⟩
  decide

private theorem scan_form (address : Numeral first addr) (length : Numeral second len) (behind : Text) :
    sscanf (coding.head :: first ++ chr ',' :: second ++ chr ':' :: behind) coding.format
      = ⟨2, [addr, len, first.length + second.length + 3]⟩ := by
  have format : coding.format = [.literal coding.head, .hex none, .literal (chr ','), .hex none, .literal (chr ':'), .position] := rfl
  have input : coding.head :: first ++ chr ',' :: second ++ chr ':' :: behind
      = coding.head :: (first ++ chr ',' :: (second ++ chr ':' :: behind)) := by simp
  rw [sscanf, format, input, scanFrom, if_pos rfl, scanFrom, address.integer (delimited_comma _) (unmarked_comma _)]
  simp only [scanFrom, if_true, length.integer (delimited_colon behind) (unmarked_colon behind), Scanned.assigned,
    List.length_cons, List.length_append]
  rw [show first.length + (second.length + (behind.length + 1) + 1) + 1 - behind.length = first.length + second.length + 3
    by omega]

private theorem Numeral.plain (numeral : Numeral first addr) : ∀ c ∈ first, c ≠ 0#8 := by
  rintro c listed rfl
  have hex := numeral.hex _ listed
  revert hex
  decide

private theorem cString_form (address : Numeral first addr) (length : Numeral second len) (behind : Text) :
    cString (coding.head :: first ++ chr ',' :: second ++ chr ':' :: behind)
      = coding.head :: first ++ chr ',' :: second ++ chr ':' :: cString behind := by
  have printable : ∀ c ∈ coding.head :: first ++ chr ',' :: second ++ [chr ':'], decide (c ≠ 0#8) = true := by
    intro c listed
    simp only [List.mem_append, List.mem_cons, List.not_mem_nil, or_false] at listed
    rw [decide_eq_true_iff]
    obtain ((rfl | listed) | rfl | listed) | rfl := listed
    · cases coding <;> decide
    · exact address.plain c listed
    · decide
    · exact length.plain c listed
    · decide
  have split : ∀ behind, coding.head :: first ++ chr ',' :: second ++ chr ':' :: behind
      = (coding.head :: first ++ chr ',' :: second ++ [chr ':']) ++ behind := by simp
  rw [split behind, split (cString behind)]
  exact List.takeWhile_append_of_pos printable

private theorem slice_take (pbuf : Buffer) {offset count size : Nat} (inside : offset + count ≤ size) :
    slice pbuf offset count = ((pbuf.take size).drop offset).take count := by
  apply List.ext_getElem
  · simp only [slice, List.length_map, List.length_range, List.length_take, List.length_drop, Buffer.take_length]
    omega
  · intro i left right
    simp [slice, Buffer.take]

/-- A packet of the form is accepted and stands for what it asks. -/
theorem asks_taken (answers : Answers) (packet : Packet) {data : Text} (asks : Asks coding packet.bytes addr data) :
    Accepted answers coding packet ∧ addrOf answers coding packet = addr ∧ dataOf answers coding packet = data := by
  generalize same : packet.bytes = bytes at asks
  cases asks with
  | @intro first second field rest _ len address length whole carried =>
    have size : packet.size = first.length + second.length + 3 + (field.length + rest.length) := by
      have counted := congrArg List.length same
      rw [Packet.bytes, Buffer.take_length] at counted
      rw [counted]
      simp only [List.length_append, List.length_cons]
      omega
    have found : scanned coding packet = ⟨2, [addr, len, first.length + second.length + 3]⟩ := by
      rw [scanned, packetString, ← Packet.bytes, same, cString_form address length, scan_form address length]
    have room := packet.fits
    have known : gdbPacketBufferSize = 1024 := rfl
    have position : positionOf answers coding packet = first.length + second.length + 3 := by
      rw [positionOf, found]
      rfl
    have count : lenOf answers coding packet = len := by
      cases coding <;> rw [lenOf, found] <;> rfl
    refine ⟨?_, ?_, ?_⟩
    · rw [Accepted, count, position, Nat.mod_eq_of_lt (by omega), sub32_of_le (by omega) (by omega),
        Nat.le_div_iff_mul_le (by cases coding <;> decide), Nat.mul_comm, ← whole]
      omega
    · cases coding <;> rw [addrOf, found] <;> rfl
    · have front : (coding.head :: first ++ chr ',' :: second ++ [chr ':']).length = first.length + second.length + 3 := by
        simp only [List.length_append, List.length_cons, List.length_nil]
        omega
      rw [dataOf, count, position, ← whole, slice_take _ (show _ ≤ packet.size by omega), ← Packet.bytes, same,
        show coding.head :: first ++ chr ',' :: second ++ chr ':' :: (field ++ rest)
          = (coding.head :: first ++ chr ',' :: second ++ [chr ':']) ++ (field ++ rest) by simp, ← front, List.drop_left,
        List.take_left]

end Forms

section Runs
variable (answers : Answers) (coding : Coding) (packet : Packet) {server : Server} {id : Nat}

/-- The target is written as the packet asks, once, or the packet gets an error and the target stays
untouched. -/
inductive Handled (server : Server) (id : Nat) (after : Server) : Prop
  | written {addr : Nat} {data : Text} (asks : Asks coding packet.bytes addr data)
      (calls : after.calls = server.calls ++ [(id, .memWrite addr data)])
  | rejected (malformed : ∀ addr data, ¬ Asks coding packet.bytes addr data) (calls : after.calls = server.calls)
      (error : String) (code : (ascii error).head? = some (chr 'E'))
      (reply : after.output = server.output ++ [.reply (ascii error)])

private theorem perform_calls {α : Type} (outcome : Outcome α) (calls : List (Nat × Call)) :
    Keeps (fun server : Server => server.calls = calls) (perform outcome) := by
  apply Keeps.bind
  · apply keeps_each
    intro text
    exact keeps_change fun _ same => same
  · intro _
    cases outcome.result with
    | ok value => exact keeps_pure value
    | error exception => exact keeps_stop _

private theorem gdbPutpacketz_calls (body : String) (calls : List (Nat × Call)) :
    Keeps (fun server : Server => server.calls = calls) (gdbPutpacketz body) :=
  keeps_change fun _ same => same

private theorem onCurrent_calls (call : Call) (calls : List (Nat × Call)) :
    Meets (fun server => server.curTarget = some id ∧ server.calls = calls) (onCurrent call)
      (fun _ server => server.calls = calls ++ [(id, call)]) fun _ _ => False := by
  apply meets_reading
  rintro server ⟨current, rfl⟩
  rw [current]
  rintro state rfl
  rfl

private theorem writeMemory_calls (current : server.curTarget = some id) (addr : Nat) (data : Text) :
    (writeMemory answers addr data server).2.calls = server.calls ++ [(id, .memWrite addr data)] := by
  have met : Meets (fun state => state.curTarget = some id ∧ state.calls = server.calls) (writeMemory answers addr data)
      (fun _ state => state.calls = server.calls ++ [(id, .memWrite addr data)])
      fun _ state => state.calls = server.calls ++ [(id, .memWrite addr data)] := by
    apply (onCurrent_calls (.memWrite addr data) server.calls).unstopped.bind
    intro _
    apply Keeps.bind (perform_calls answers.memWrite _)
    intro failed
    exact keeps_ite (gdbPutpacketz_calls "E01" _) (gdbPutpacketz_calls "OK" _)
  have result := met server ⟨current, rfl⟩
  revert result
  cases writeMemory answers addr data server with
  | mk ending final => cases ending <;> exact fun result => result

private theorem gdbMainLoop_current (starts : packet.pbuf 0 = coding.head) (current : server.curTarget = some id) :
    gdbMainLoop answers packet.pbuf packet.size server
      = (if Accepted answers coding packet
          then writeMemory answers (addrOf answers coding packet) (dataOf answers coding packet)
          else gdbPutpacketz "E02") server := by
  rw [gdbMainLoop_writes answers coding packet starts, errorIfNoTarget, read_bind, current, if_neg (Option.some_ne_none id)]

private theorem accepted_unhandled (starts : packet.pbuf 0 = coding.head) (current : server.curTarget = some id)
    (malformed : ∀ addr data, ¬ Asks coding packet.bytes addr data) (accepted : Accepted answers coding packet) :
    ¬ Handled coding packet server id (gdbMainLoop answers packet.pbuf packet.size server).2 := by
  intro handled
  cases handled with
  | written asks => exact malformed _ _ asks
  | rejected _ calls =>
    rw [gdbMainLoop_current answers coding packet starts current, if_pos accepted,
      writeMemory_calls answers current] at calls
    have lengths := congrArg List.length calls
    rw [List.length_append] at lengths
    exact absurd lengths (Nat.succ_ne_self _)

/-- A packet that writes memory does what it says, or is answered with an error, exactly if it has
the form that it should have or its length check fails. -/
theorem memory_write_handled_iff (starts : packet.pbuf 0 = coding.head) (current : server.curTarget = some id) :
    Handled coding packet server id (gdbMainLoop answers packet.pbuf packet.size server).2 ↔
      (∃ addr data, Asks coding packet.bytes addr data) ∨ ¬ Accepted answers coding packet := by
  constructor
  · intro handled
    by_contra neither
    rw [not_or, not_exists, Classical.not_not] at neither
    obtain ⟨malformed, accepted⟩ := neither
    have malformed : ∀ addr data, ¬ Asks coding packet.bytes addr data := fun addr => not_exists.mp (malformed addr)
    exact accepted_unhandled answers coding packet starts current malformed accepted handled
  · intro good
    rw [gdbMainLoop_current answers coding packet starts current]
    by_cases asked : ∃ addr data, Asks coding packet.bytes addr data
    · obtain ⟨addr, data, asks⟩ := asked
      obtain ⟨accepted, address, content⟩ := asks_taken answers packet asks
      rw [if_pos accepted, address, content]
      exact .written asks (writeMemory_calls answers current addr data)
    · rw [if_neg (good.resolve_left asked)]
      exact .rejected (fun addr data asks => asked ⟨addr, data, asks⟩) rfl "E02" (by decide) rfl

end Runs

section Examples

/-- A packet that is in the buffer with a terminator behind it. -/
def received (text : Text) (fits : text.length ≤ gdbPacketBufferSize) : Packet :=
  ⟨fun i => (text[i]?).getD 0#8, text.length, fits⟩

def attached : Server := { initial with curTarget := some 0 }

def oneByte : Packet := received (ascii "M20000000,1:41") (by decide)

/-- There is no colon, so nothing says where the data is. -/
def noData : Packet := received (ascii "M20000000,1") (by decide)

private theorem oneByte_asks : Asks .hexadecimal oneByte.bytes 0x20000000 (ascii "A") := by
  have carried : ∀ c ∈ ascii "41", (digit 16 c).isSome := by decide
  have form := @Asks.intro .hexadecimal (ascii "20000000") (ascii "1") (ascii "41") [] 0x20000000 1
    ⟨by decide, by decide, by decide, by decide⟩ ⟨by decide, by decide, by decide, by decide⟩ rfl carried
  exact form

theorem one_byte_handled :
    Handled .hexadecimal oneByte attached 0 (gdbMainLoop calm oneByte.pbuf oneByte.size attached).2 :=
  (memory_write_handled_iff calm .hexadecimal oneByte rfl rfl).mpr (.inl ⟨_, _, oneByte_asks⟩)

theorem no_data_unhandled :
    ¬ Handled .hexadecimal noData attached 0 (gdbMainLoop calm noData.pbuf noData.size attached).2 := by
  apply accepted_unhandled calm .hexadecimal noData rfl rfl
  · intro addr data asks
    generalize same : noData.bytes = bytes at asks
    cases asks with
    | intro address length whole carried =>
      have colon : chr ':' ∈ noData.bytes := by
        rw [same]
        exact List.mem_append_right _ List.mem_cons_self
      revert colon
      decide
  · decide +kernel

end Examples

end BlackMagic.Proofs.MemoryWrites
