import BlackMagic.Proofs.ServerTargets
import Mathlib.Data.List.TakeWhile

/-! Objects that GDB reads in chunks (`qXfer`). The server keeps nothing from one request to the
next; whatever the chunks, a client that asks for each at the total of what it has received puts
the object together. -/

namespace BlackMagic.Proofs.XferReplies
open Lib Lib.Program Lib.Scan Targets Commands Server
open ServerTargets (calm)

section Fields

/-- A number in hexadecimal digits: at most as many as a field takes, or without a leading zero. -/
structure Spelled (n : Nat) where
  digits : Text
  some : digits ≠ []
  hex : ∀ c ∈ digits, (digit 16 c).isSome
  value : digitsValue 16 0 (digitValues 16 digits) = n
  leading : digits.length ≤ 8 ∨ digits.head? ≠ .some (chr '0')

private theorem digitValues_length {digits : Text} (hex : ∀ c ∈ digits, (digit 16 c).isSome) :
    (digitValues 16 digits).length = digits.length := by
  induction digits with
  | nil => rfl
  | cons c rest ih =>
    obtain ⟨value, found⟩ := Option.isSome_iff_exists.mp (hex c List.mem_cons_self)
    rw [digitValues, List.filterMap_cons_some found, List.length_cons, List.length_cons]
    exact congrArg (· + 1) (ih fun other listed => hex other (List.mem_cons_of_mem c listed))

private theorem digitValues_small (digits : Text) : ∀ value ∈ digitValues 16 digits, value < 16 := by
  intro value listed
  obtain ⟨c, -, found⟩ := List.mem_filterMap.mp listed
  exact (hex_digit_value c value found).1

/-- Digits without a leading zero are those of a large number. -/
private theorem digitsValue_leading {digits : Text} (hex : ∀ c ∈ digits, (digit 16 c).isSome)
    (leading : digits.head? ≠ .some (chr '0')) (some : digits ≠ []) :
    16 ^ (digits.length - 1) ≤ digitsValue 16 0 (digitValues 16 digits) := by
  cases digits with
  | nil => exact absurd rfl some
  | cons c rest =>
    obtain ⟨value, found⟩ := Option.isSome_iff_exists.mp (hex c List.mem_cons_self)
    have positive : 1 ≤ value := by
      by_contra zero
      exact leading (congrArg Option.some ((hex_digit_value c value found).2 (by omega)))
    have others := digitValues_length fun other listed => hex other (List.mem_cons_of_mem c listed)
    have bound := digitsValue_ge 16 value (digitValues 16 rest)
    rw [others] at bound
    rw [digitValues, List.filterMap_cons_some found, digitsValue, List.foldl_cons, Nat.zero_mul, Nat.zero_add]
    apply le_trans _ bound
    exact Nat.le_mul_of_pos_left _ positive

private theorem digitsValue_short {digits : Text} (hex : ∀ c ∈ digits, (digit 16 c).isSome) (short : digits.length ≤ 8) :
    digitsValue 16 0 (digitValues 16 digits) < 2 ^ 32 := by
  have bound : digitsValue 16 0 (digitValues 16 digits) < (0 + 1) * 16 ^ (digitValues 16 digits).length :=
    digitsValue_lt (digitValues_small digits)
  rw [digitValues_length hex] at bound
  have most : 16 ^ digits.length ≤ 16 ^ 8 := Nat.pow_le_pow_right (by decide) short
  omega

/-- A number that fits a word takes at most eight digits, any other one more. -/
theorem Spelled.short_iff {n : Nat} (spelled : Spelled n) : spelled.digits.length ≤ 8 ↔ n < 2 ^ 32 := by
  constructor
  · intro short
    rw [← spelled.value]
    exact digitsValue_short spelled.hex short
  · intro small
    by_contra long
    have leading := spelled.leading.resolve_left long
    have large := digitsValue_leading spelled.hex leading spelled.some
    have most : 16 ^ 8 ≤ 16 ^ (spelled.digits.length - 1) := Nat.pow_le_pow_right (by decide) (by omega)
    rw [spelled.value] at large
    omega

/-- What a field takes of a number is its value if it fits, and never nothing of something. -/
def Spelled.taken {n : Nat} (spelled : Spelled n) : Nat := strtoul 16 false (digitValues 16 (spelled.digits.take 8))

private theorem Spelled.hex_taken {n : Nat} (spelled : Spelled n) : ∀ c ∈ spelled.digits.take 8, (digit 16 c).isSome :=
  fun c listed => spelled.hex c (List.mem_of_mem_take listed)

theorem Spelled.taken_value {n : Nat} (spelled : Spelled n) :
    spelled.taken = digitsValue 16 0 (digitValues 16 (spelled.digits.take 8)) :=
  strtoul_digits (digitsValue_short spelled.hex_taken (by simp))

theorem Spelled.taken_small {n : Nat} (spelled : Spelled n) (small : n < 2 ^ 32) : spelled.taken = n := by
  rw [spelled.taken_value, List.take_of_length_le (spelled.short_iff.mpr small), spelled.value]

theorem Spelled.taken_positive {n : Nat} (spelled : Spelled n) (positive : 0 < n) : 0 < spelled.taken := by
  by_cases small : n < 2 ^ 32
  · rw [spelled.taken_small small]
    exact positive
  · have long : ¬ spelled.digits.length ≤ 8 := mt spelled.short_iff.mp small
    have leading := spelled.leading.resolve_left long
    rw [spelled.taken_value]
    have large := digitsValue_leading spelled.hex_taken (by
      cases same : spelled.digits with
      | nil => exact absurd same spelled.some
      | cons c rest =>
        rw [same] at leading
        exact leading) (by
      intro none
      have length := congrArg List.length none
      rw [List.length_take, List.length_nil] at length
      omega)
    exact (Nat.pow_pos (by decide)).trans_le large

/-- A field of eight digits. -/
theorem Spelled.integer {n : Nat} (spelled : Spelled n) {rest : Text} (delimited : Delimited 16 rest)
    (unmarked : ∀ c more, rest = c :: more → c ≠ chr 'x' ∧ c ≠ chr 'X') :
    integer 16 (.some 8) (spelled.digits ++ rest) = .some (spelled.taken, spelled.digits.drop 8 ++ rest) :=
  integer_limited spelled.some spelled.hex (Nat.succ_pos 7) (fun _ => delimited) unmarked

/-- The two fields of a request: both are there exactly if the first one fits. -/
theorem scan_request {offset length : Nat} (first : Spelled offset) (second : Spelled length) :
    sscanf (first.digits ++ chr ',' :: second.digits) ([.hex (.some 8)] ++ text "," ++ [.hex (.some 8)])
      = if offset < 2 ^ 32 then ⟨2, [offset, second.taken]⟩ else ⟨1, [first.taken]⟩ := by
  have format : ([.hex (.some 8)] ++ text "," ++ [.hex (.some 8)] : List Directive)
      = [.hex (.some 8), .literal (chr ','), .hex (.some 8)] := rfl
  rw [sscanf, format, scanFrom, first.integer (delimited_comma _) (unmarked_comma _)]
  by_cases small : offset < 2 ^ 32
  · rw [if_pos small]
    have whole : first.digits.drop 8 = [] := List.drop_of_length_le (first.short_iff.mpr small)
    have last := second.integer (delimited_nil 16) unmarked_nil
    rw [List.append_nil] at last
    simp only [whole, List.nil_append, scanFrom, if_true, last, Scanned.assigned, first.taken_small small]
  · rw [if_neg small]
    have more : first.digits.drop 8 ≠ [] := by
      rw [ne_eq, List.drop_eq_nil_iff]
      exact mt first.short_iff.mp small
    obtain ⟨c, rest, behind⟩ := List.exists_cons_of_ne_nil more
    have plain : c ≠ chr ',' := by
      rintro rfl
      have hex := first.hex _ (List.mem_of_mem_drop (behind ▸ List.mem_cons_self))
      revert hex
      decide
    simp only [behind, List.cons_append, scanFrom, if_neg plain]
    rfl

end Fields

section Requests

/-- What can be read in chunks. -/
inductive Object where
  | memoryMap
  | features
  deriving DecidableEq, Repr

def Object.name : Object → Text
  | .memoryMap => ascii "qXfer:memory-map:read::"
  | .features => ascii "qXfer:features:read:target.xml:"

/-- The call that makes the document. -/
def Object.described : Object → Call
  | .memoryMap => .memMap
  | .features => .regsDescription

def Object.content (answers : Answers) : Object → Text
  | .memoryMap => answers.memMap
  | .features => answers.regsDescription.getD []

/-- The packets of a client, for an offset and the length of a chunk, as they are received. -/
structure Client (object : Object) where
  pbuf : Nat → Nat → Buffer
  size : Nat → Nat → Nat
  offset : (n : Nat) → Spelled n
  length : (n : Nat) → Spelled n
  packet : ∀ o l, packetString (pbuf o l) (size o l) = object.name ++ ((offset o).digits ++ chr ',' :: (length l).digits)

variable {answers : Answers} {object : Object}

/-- The answer to a request. -/
def body (content : Text) (offset taken : Nat) : Text :=
  if content.length < offset then ascii "E01"
  else if offset = content.length then ascii "l"
  else chr 'm' :: (content.drop offset).take taken

/-- The state differs in what has been sent and in the calls of targets only. -/
structure Sent (server after : Server) (sent : Text) : Prop where
  output : after.output = server.output ++ [.reply sent]
  curTarget : after.curTarget = server.curTarget
  lastTarget : after.lastTarget = server.lastTarget

private theorem gdbPutpacket_sent (sent : Text) (server : Server) :
    ∃ after, gdbPutpacket sent server = (.ok (), after) ∧ Sent server after sent := ⟨_, rfl, rfl, rfl, rfl⟩

theorem handleQStringReply_sent {offset length : Nat} (content : Text) (addressable : content.length < 2 ^ 32)
    (first : Spelled offset) (second : Spelled length) (server : Server) :
    ∃ after, handleQStringReply content (first.digits ++ chr ',' :: second.digits) server = (.ok (), after) ∧
      Sent server after (body content offset second.taken) := by
  rw [handleQStringReply, scan_request, body]
  by_cases small : offset < 2 ^ 32
  · simp only [if_pos small, ne_eq, not_true_eq_false, if_false]
    show ∃ after, (if content.length < offset then gdbPutpacketz "E01" else if offset = content.length then gdbPutpacketz "l"
      else gdbPutpacket (ascii "m" ++ (content.drop offset).take second.taken)) server = _ ∧ _
    split
    · exact gdbPutpacket_sent _ server
    · split
      · exact gdbPutpacket_sent _ server
      · exact gdbPutpacket_sent _ server
  · have beyond : content.length < offset := by omega
    rw [if_pos beyond]
    simp only [if_neg small]
    exact gdbPutpacket_sent _ server

/-- A request finds the command that it names. -/
private theorem execCommand_request (object : Object) (param : Text) :
    execCommand (object.name ++ param)
      = some (match object with | .memoryMap => .memoryMap | .features => .featureRead, param) := by
  cases object with
  | memoryMap => rfl
  | features => rfl

/-- There is a target whose description is asked for. -/
def Described (server : Server) : Prop := server.curTarget ≠ none ∨ server.lastTarget ≠ none

private theorem describedTarget_some {server : Server} (described : Described server) :
    ∃ id, describedTarget server = (.ok (some id), server) := by
  rw [Described, Option.ne_none_iff_exists', Option.ne_none_iff_exists'] at described
  have reading : describedTarget server
      = (.ok (if server.curTarget = none then server.lastTarget else server.curTarget), server) := rfl
  rw [reading]
  cases current : server.curTarget with
  | some id => exact ⟨id, rfl⟩
  | none =>
    obtain ⟨id, same⟩ | ⟨id, same⟩ := described
    · rw [current] at same
      cases same
    · exact ⟨id, by rw [if_pos rfl, same]⟩

/-- A request on the level of packets. -/
theorem gdbMainLoop_sent (client : Client object) (addressable : (object.content answers).length < 2 ^ 32)
    (offset length : Nat) {server : Server} (described : Described server) :
    ∃ after, gdbMainLoop answers (client.pbuf offset length) (client.size offset length) server = (.ok (), after) ∧
      Sent server after (body (object.content answers) offset (client.length length).taken) := by
  have head : client.pbuf offset length 0 = chr 'q' := by
    have packet := client.packet offset length
    have first : ∀ param, object.name ++ param = chr 'q' :: (object.name.tail ++ param) := by cases object <;> exact fun _ => rfl
    rw [first, packetString, cString, Buffer.take] at packet
    cases size : client.size offset length with
    | zero =>
      rw [size] at packet
      cases packet
    | succ size' =>
      rw [size, List.range_succ_eq_map, List.map_cons, List.takeWhile_cons] at packet
      split at packet
      · exact (List.cons.inj packet).1
      · cases packet
  have kind : packetKind (client.pbuf offset length 0) = .query := by
    rw [head]
    decide
  obtain ⟨id, describing⟩ := describedTarget_some described
  obtain ⟨after, running, sent⟩ := handleQStringReply_sent (object.content answers) addressable (client.offset offset)
    (client.length length) { server with calls := server.calls ++ [(id, object.described)] }
  refine ⟨after, ?_, sent.output, sent.curTarget, sent.lastTarget⟩
  rw [gdbMainLoop, kind]
  show handleQPacket answers _ _ server = _
  rw [handleQPacket, client.packet, execCommand_request]
  cases object with
  | memoryMap =>
    show execQMemoryMap answers _ server = _
    rw [execQMemoryMap, bind_returned describing]
    exact running
  | features =>
    show execQFeatureRead answers _ server = _
    rw [execQFeatureRead, bind_returned describing]
    exact running

/-- What is new in the output behind a step. -/
def replies (server after : Server) : List Output := after.output.drop server.output.length

theorem Sent.replies {server after : Server} {sent : Text} (step : Sent server after sent) :
    replies server after = [.reply sent] := by
  rw [XferReplies.replies, step.output, List.drop_left]

/-- The server after a request of the client. -/
def serve (answers : Answers) (client : Client object) (offset length : Nat) (server : Server) : Server :=
  (gdbMainLoop answers (client.pbuf offset length) (client.size offset length) server).2

/-- The replies to a client that asks for one chunk after the other, each at the total of what it
has received, until a reply is no chunk. -/
def fetch (answers : Answers) (client : Client object) : List Nat → Text → Server → List Output
  | [], _, _ => []
  | length :: rest, received, server =>
    let after := serve answers client received.length length server
    match replies server after with
    | [.reply (kind :: chunk)] =>
      if kind = chr 'm' then .reply (kind :: chunk) :: fetch answers client rest (received ++ chunk) after
      else [.reply (kind :: chunk)]
    | other => other

/-- The replies put the object together: chunks of something, which make up the object if they are
followed by the mark of its end, and the beginning of it if the client has stopped. -/
structure Reassembled (content : Text) (requests : Nat) (sent : List Output) : Prop where
  chunked : ∃ (chunks : List Text) (ending : List Output), sent = chunks.map (fun chunk => .reply (chr 'm' :: chunk)) ++ ending ∧
    (∀ chunk ∈ chunks, chunk ≠ []) ∧
    (ending = [.reply (ascii "l")] ∧ chunks.flatten = content ∨
      ending = [] ∧ chunks.length = requests ∧ chunks.flatten <+: content)
  complete : content.length < requests → sent.getLast? = some (.reply (ascii "l"))

private theorem fetch_reassembles (client : Client object) (addressable : (object.content answers).length < 2 ^ 32)
    (lengths : List Nat) (positive : ∀ length ∈ lengths, 0 < length) {received rest : Text}
    (here : received ++ rest = object.content answers) {server : Server} (described : Described server) :
    ∃ (chunks : List Text) (ending : List Output),
      fetch answers client lengths received server = chunks.map (fun chunk => .reply (chr 'm' :: chunk)) ++ ending ∧
      (∀ chunk ∈ chunks, chunk ≠ []) ∧
      (ending = [.reply (ascii "l")] ∧ chunks.flatten = rest ∨
        ending = [] ∧ chunks.length = lengths.length ∧ chunks.flatten <+: rest) := by
  induction lengths generalizing received rest server with
  | nil => exact ⟨[], [], rfl, (fun _ never => by cases never), .inr ⟨rfl, rfl, List.nil_prefix⟩⟩
  | cons length lengths ih =>
    obtain ⟨after, running, sent⟩ := gdbMainLoop_sent client addressable received.length length described
    have served : serve answers client received.length length server = after := congrArg Prod.snd running
    have inside : ¬ (object.content answers).length < received.length := by
      rw [← here, List.length_append]
      omega
    rw [fetch, served, sent.replies, body, if_neg inside]
    by_cases whole : rest = []
    · have last : received.length = (object.content answers).length := by rw [← here, whole, List.append_nil]
      rw [if_pos last]
      exact ⟨[], _, rfl, (fun _ never => by cases never), .inl ⟨rfl, whole.symm⟩⟩
    · have more : received.length ≠ (object.content answers).length := by
        rw [← here, List.length_append]
        have := List.length_pos_of_ne_nil whole
        omega
      have taken : 0 < (client.length length).taken := (client.length length).taken_positive (positive length List.mem_cons_self)
      generalize (client.length length).taken = taken_ at taken
      have chunk : ((object.content answers).drop received.length).take taken_ = rest.take taken_ := by
        rw [← here, List.drop_left]
      have still : Described after := by
        rw [Described, sent.curTarget, sent.lastTarget]
        exact described
      obtain ⟨chunks, ending, fetched, some, outcome⟩ :=
        @ih (fun other listed => positive other (List.mem_cons_of_mem _ listed)) (received ++ rest.take taken_)
          (rest.drop taken_) (by rw [List.append_assoc, List.take_append_drop]; exact here) _ still
      rw [if_neg more, chunk]
      simp only [if_true, fetched]
      refine ⟨rest.take taken_ :: chunks, ending, rfl, ?_, ?_⟩
      · intro other listed
        cases List.mem_cons.mp listed with
        | inl same =>
          rw [same, ne_eq, List.take_eq_nil_iff, not_or]
          exact ⟨Nat.ne_of_gt taken, whole⟩
        | inr later => exact some other later
      · rw [List.flatten_cons]
        cases outcome with
        | inl finished =>
          refine .inl ⟨finished.1, ?_⟩
          rw [finished.2, List.take_append_drop]
        | inr stopped =>
          refine .inr ⟨stopped.1, congrArg (· + 1) stopped.2.1, ?_⟩
          obtain ⟨behind, same⟩ := stopped.2.2
          refine ⟨behind, ?_⟩
          rw [List.append_assoc, same, List.take_append_drop]

private theorem length_le_flatten {chunks : List Text} (some : ∀ chunk ∈ chunks, chunk ≠ []) :
    chunks.length ≤ chunks.flatten.length := by
  induction chunks with
  | nil => exact Nat.le_refl 0
  | cons chunk rest ih =>
    have first := List.length_pos_of_ne_nil (some chunk List.mem_cons_self)
    have others := ih fun other listed => some other (List.mem_cons_of_mem _ listed)
    rw [List.flatten_cons, List.length_append, List.length_cons]
    omega

/-- Whatever the chunks, a client puts the object together, and gets nothing from beyond it. -/
theorem object_reassembled (answers : Answers) (client : Client object) (addressable : (object.content answers).length < 2 ^ 32)
    (lengths : List Nat) (positive : ∀ length ∈ lengths, 0 < length) (server : Server) (described : Described server) :
    Reassembled (object.content answers) lengths.length (fetch answers client lengths [] server) ∧
      ∀ offset length, (object.content answers).length < offset →
        replies server (serve answers client offset length server) = [.reply (ascii "E01")] := by
  constructor
  · obtain ⟨chunks, ending, fetched, some, outcome⟩ :=
      fetch_reassembles client addressable lengths positive (List.nil_append _) described
    refine ⟨⟨chunks, ending, fetched, some, outcome⟩, ?_⟩
    intro enough
    obtain ⟨rfl, -⟩ | ⟨-, count, front⟩ := outcome
    · rw [fetched, List.getLast?_concat]
    · have few := length_le_flatten some
      have fits := front.length_le
      omega
  · intro offset length beyond
    obtain ⟨after, running, sent⟩ := gdbMainLoop_sent client addressable offset length described
    have served : serve answers client offset length server = after := congrArg Prod.snd running
    rw [served, sent.replies, body, if_pos beyond]

end Requests

section Printing

private theorem digitChar_hex : ∀ n < 16, digit 16 (chr n.digitChar) = some n := by decide +kernel

/-- What `%x` prints. -/
private theorem toDigits_spells (n : Nat) :
    (∀ c ∈ printHexLower n, (digit 16 c).isSome) ∧ digitsValue 16 0 (digitValues 16 (printHexLower n)) = n ∧
      printHexLower n ≠ [] ∧ (0 < n → (printHexLower n).head? ≠ some (chr '0')) := by
  induction n using Nat.strongRecOn with
  | ind n ih =>
    have last : n % 16 < 16 := Nat.mod_lt n (by decide)
    have digit := digitChar_hex (n % 16) last
    by_cases small : n < 16
    · have same : printHexLower n = [chr (n % 16).digitChar] := by
        rw [printHexLower, Nat.toDigits_of_lt_base small, Nat.mod_eq_of_lt small]
        rfl
      rw [same]
      refine ⟨?_, ?_, (fun never => by cases never), ?_⟩
      · intro c listed
        rw [List.mem_singleton.mp listed, digit]
        rfl
      · simp only [digitValues, digitsValue, List.filterMap_cons, digit, List.filterMap_nil, List.foldl_cons, List.foldl_nil]
        omega
      · intro positive zero
        rw [List.head?_cons, Option.some.injEq] at zero
        rw [zero] at digit
        have none := Option.some.inj (digit.symm.trans (show Scan.digit 16 (chr '0') = some 0 by decide))
        omega
    · obtain ⟨hex, value, some, leading⟩ := ih (n / 16) (by omega)
      have split : printHexLower n = printHexLower (n / 16) ++ [chr (n % 16).digitChar] := by
        rw [printHexLower, Nat.toDigits_of_base_le (by decide) (by omega), List.map_append]
        rfl
      rw [split]
      refine ⟨?_, ?_, by simp, ?_⟩
      · intro c listed
        cases List.mem_append.mp listed with
        | inl before => exact hex c before
        | inr behind =>
          rw [List.mem_singleton.mp behind, digit]
          rfl
      · rw [digitsValue] at value
        simp only [digitsValue, digitValues, List.filterMap_append, List.foldl_append] at value ⊢
        rw [value]
        simp only [List.filterMap_cons, digit, List.filterMap_nil, List.foldl_cons, List.foldl_nil]
        omega
      · intro _
        rw [List.head?_append_of_ne_nil _ some]
        exact leading (by omega)

/-- A number as GDB prints it. -/
def printed (n : Nat) : Spelled n where
  digits := printHexLower n
  some := (toDigits_spells n).2.2.1
  hex := (toDigits_spells n).1
  value := (toDigits_spells n).2.1
  leading := by
    by_cases zero : n = 0
    · subst zero
      exact .inl (by decide)
    · exact .inr ((toDigits_spells n).2.2.2 (Nat.pos_of_ne_zero zero))

/-- The packet of GDB for a request. -/
def request (object : Object) (offset length : Nat) : Text :=
  object.name ++ ((printed offset).digits ++ chr ',' :: (printed length).digits)

private theorem request_printable (object : Object) (offset length : Nat) : ∀ c ∈ request object offset length, c ≠ 0#8 := by
  have hex : ∀ c : Byte, (digit 16 c).isSome → c ≠ 0#8 := by decide +kernel
  have name : ∀ c ∈ object.name, c ≠ 0#8 := by cases object <;> decide
  intro c listed
  rw [request, List.mem_append, List.mem_append, List.mem_cons] at listed
  obtain named | first | rfl | second := listed
  · exact name c named
  · exact hex c ((printed offset).hex c first)
  · decide
  · exact hex c ((printed length).hex c second)

/-- GDB as a client. -/
def gdbClient (object : Object) : Client object where
  pbuf offset length := fun i => ((request object offset length)[i]?).getD 0#8
  size offset length := (request object offset length).length
  offset := printed
  length := printed
  packet offset length := by
    have whole : Buffer.take (fun i => ((request object offset length)[i]?).getD 0#8) (request object offset length).length
        = request object offset length := by
      apply List.ext_getElem (by simp)
      intro i inside there
      simp [Buffer.take, there]
    rw [packetString, whole, cString]
    apply List.takeWhile_eq_self_iff.mpr
    intro c listed
    exact decide_eq_true (request_printable object offset length c listed)

end Printing

/-- A target with a short description. -/
def shortAnswers : Answers := { calm with regsDescription := some (ascii "<target/>") }

def attached : Server := { initial with curTarget := some 0 }

/-- Three chunks are asked for; the second one is the rest. -/
theorem short_description_reassembled :
    Reassembled (ascii "<target/>") 3 (fetch shortAnswers (gdbClient .features) [4, 100, 1] [] attached) ∧
      ∀ offset length, 9 < offset →
        replies attached (serve shortAnswers (gdbClient .features) offset length attached) = [.reply (ascii "E01")] :=
  object_reassembled shortAnswers (gdbClient .features) (by decide) [4, 100, 1] (by decide) attached
    (.inl (fun never => by cases never))

end BlackMagic.Proofs.XferReplies
