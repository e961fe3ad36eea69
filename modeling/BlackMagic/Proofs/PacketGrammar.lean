import BlackMagic.Proofs.PacketBounds

/-! The streams that the receiver accepts in ack mode. It splits a stream into segments,
answers each frame that it rejects, and returns a frame whose checksum characters read as
the sum of its body. Characters that are no digits can read as a sum too. -/

namespace BlackMagic.Proofs.PacketGrammar
open BlackMagic.Packet Hex PacketRoundTrip PacketBounds

variable {σ : Type} {process : RemoteProcess σ} {size : Nat}

/-- The start of a frame, with the bodies that were given up for another start. -/
inductive Opened (size : Nat) : List Byte → Prop where
  | start : Opened size [gdbPacketStart]
  | restart {opening wire data : List Byte} (opened : Opened size opening) (body : Body wire data)
      (short : data.length < size) : Opened size (opening ++ wire ++ [gdbPacketStart])

/-- A stream of segments of which none is returned, with the answers to them. -/
inductive Segments (size : Nat) : List Byte → List Byte → Prop where
  | nil : Segments size [] []
  | junk {stream answers : List Byte} {c : Byte} (segments : Segments size stream answers) (junk : Junk c) :
      Segments size (stream ++ [c]) answers
  | overlong {stream answers opening wire data : List Byte} (segments : Segments size stream answers)
      (opened : Opened size opening) (body : Body wire data) (full : data.length = size) :
      Segments size (stream ++ opening ++ wire) answers
  | rejected {stream answers opening wire data : List Byte} {upper lower : Byte} (segments : Segments size stream answers)
      (opened : Opened size opening) (body : Body wire data) (short : data.length < size)
      (wrong : ¬ Checked wire upper lower) :
      Segments size (stream ++ opening ++ wire ++ [gdbPacketEnd, upper, lower]) (answers ++ [gdbPacketNack])

/-- A completed segment of a stream: a frame that is not too long, behind other segments. -/
structure Completed (size : Nat) (input stream answers wire data : List Byte) (upper lower : Byte) (rest : List Byte) :
    Prop where
  segments : Segments size stream answers
  opened : ∃ opening, Opened size opening ∧
    input = stream ++ opening ++ wire ++ [gdbPacketEnd, upper, lower] ++ rest
  body : Body wire data
  short : data.length < size

/-- No remote packet starts between the segments of a stream. -/
def NoRemote (size : Nat) (input : List Byte) : Prop :=
  ∀ stream answers rest, Segments size stream answers → input ≠ stream ++ remoteSom :: rest

/-- In every completed segment both checksum characters are digits, or they do not read as the sum of the body. -/
def DigitsOnly (size : Nat) (input : List Byte) : Prop :=
  ∀ stream answers wire data upper lower rest, Completed size input stream answers wire data upper lower rest →
    (hexValue upper).isSome ∧ (hexValue lower).isSome ∨ readChecksum upper lower ≠ sum wire

/-- What a stream returns: an interrupt or an end of transmission alone, or the bytes of a frame with its checksum. -/
inductive Returns (size : Nat) (input : List Byte) (length : Nat) (final : Receiver σ) (rest : List Byte) : Prop where
  | lone {stream answers : List Byte} {c : Byte} (segments : Segments size stream answers) (which : c = 3#8 ∨ c = 4#8)
      (split : input = stream ++ c :: rest) (one : length = 1) (stored : final.packet 0 = c) (sent : final.sent = answers)
  | frame {stream answers wire data : List Byte} {upper lower : Byte}
      (completed : Completed size input stream answers wire data upper lower rest) (checked : Checked wire upper lower)
      (whole : length = data.length) (stored : final.packet.take data.length = data)
      (sent : final.sent = answers ++ [gdbPacketAck])

/-- Where the receiver stands after a part of a stream. -/
inductive Stands (size : Nat) (receiver : Receiver σ) : List Byte → Prop where
  | between {stream answers : List Byte} (segments : Segments size stream answers) (waits : Waits receiver answers) :
      Stands size receiver stream
  | body {stream answers opening wire data : List Byte} (segments : Segments size stream answers)
      (opened : Opened size opening) (body : Body wire data) (short : data.length < size)
      (capturing : Capturing receiver data (sum wire) answers) : Stands size receiver (stream ++ opening ++ wire)
  | escape {stream answers opening wire data : List Byte} (segments : Segments size stream answers)
      (opened : Opened size opening) (body : Body wire data) (short : data.length < size)
      (capturing : Capturing { receiver with state := .gdbCapture } data (sum wire + gdbPacketEscape) answers)
      (state : receiver.state = .gdbEscape) : Stands size receiver (stream ++ opening ++ wire ++ [gdbPacketEscape])
  | upper {stream answers opening wire data : List Byte} (segments : Segments size stream answers)
      (opened : Opened size opening) (body : Body wire data) (short : data.length < size)
      (capturing : Capturing { receiver with state := .gdbCapture } data (sum wire) answers)
      (state : receiver.state = .gdbChecksumUpper) : Stands size receiver (stream ++ opening ++ wire ++ [gdbPacketEnd])
  | lower {stream answers opening wire data : List Byte} {upper : Byte} (segments : Segments size stream answers)
      (opened : Opened size opening) (body : Body wire data) (short : data.length < size)
      (capturing : Capturing { receiver with state := .gdbCapture } data (sum wire) answers)
      (state : receiver.state = .gdbChecksumLower) (half : receiver.rxChecksum = unhexDigit upper <<< 4) :
      Stands size receiver (stream ++ opening ++ wire ++ [gdbPacketEnd, upper])

variable {receiver : Receiver σ} {stream : List Byte}

/-- After a character the receiver stands behind it or returns what the stream so far allows. -/
def Follows (size : Nat) (stream : List Byte) (rest : List Byte) : Progress σ → Prop
  | .wait next => Stands size next stream
  | .done final length => Returns size (stream ++ rest) length final rest

theorem checked_of_digits {wire : List Byte} {upper lower : Byte} (digits : (hexValue upper).isSome ∧ (hexValue lower).isSome)
    (read : readChecksum upper lower = sum wire) : Checked wire upper lower := by
  obtain ⟨high, first⟩ := Option.isSome_iff_exists.mp digits.1
  obtain ⟨low, second⟩ := Option.isSome_iff_exists.mp digits.2
  exact ⟨high, low, first, second, by rw [← readChecksum_digits first second, read]⟩

theorem between_follows {answers : List Byte} {c : Byte} {rest : List Byte} (segments : Segments size stream answers)
    (waits : Waits receiver answers) (room : 0 < size) (notRemote : c ≠ remoteSom) :
    Follows size (stream ++ [c]) rest (receiveStep process false size receiver c) := by
  by_cases start : c = gdbPacketStart
  · subst start
    have notSpecial : gdbPacketStart ≠ 4#8 ∧ gdbPacketStart ≠ 3#8 := by decide
    simp only [receiveStep, getpacketStep, waits.waiting, waits.state, if_true, Receiver.idleExit, Buffer.set_self, notSpecial,
      or_self, if_false, Receiver.loop, Nat.not_le_of_lt room, Follows, ge_iff_le]
    have capturing : Capturing { receiver with
      waiting := .getpacket, packet := receiver.packet.set 0 gdbPacketStart, state := .gdbCapture, offset := 0, checksum := 0#8 }
        [] (sum []) answers := ⟨rfl, rfl, rfl, rfl, rfl, waits.sent⟩
    have stands := Stands.body segments .start .nil room capturing
    rwa [List.append_nil] at stands
  · by_cases special : c = 4#8 ∨ c = 3#8
    · simp only [receiveStep, getpacketStep, waits.waiting, waits.state, start, notRemote, if_false, Receiver.idleExit,
        Buffer.set_self, special, if_true, Follows]
      refine .lone segments special.symm (by simp) rfl ?_ waits.sent
      have kept : ((receiver.packet.set 0 c).set 1 0#8) 0 = c := by
        rw [Buffer.set_other _ _ (by decide), Buffer.set_self]
      exact kept
    · simp only [receiveStep, getpacketStep, waits.waiting, waits.state, start, notRemote, if_false, Receiver.idleExit,
        Buffer.set_self, special, Receiver.loop, Follows]
      have junk : Junk c := ⟨start, notRemote, fun three => special (.inr three), fun four => special (.inl four)⟩
      apply Stands.between (segments.junk junk)
      split
      · exact ⟨rfl, rfl, waits.sent⟩
      · exact ⟨rfl, rfl, waits.sent⟩

variable {answers opening wire data : List Byte} {c : Byte} {rest : List Byte}

/-- A byte that is stored: the receiver goes on inside the body or drops a packet that has filled the buffer. -/
theorem stored_follows (segments : Segments size stream answers) (opened : Opened size opening) (body : Body wire data)
    (short : data.length ≤ size) {next : Receiver σ} (capturing : Capturing next data (sum wire) answers) :
    Follows size (stream ++ opening ++ wire) rest (next.loop size) := by
  simp only [Receiver.loop, Follows]
  by_cases full : next.offset ≥ size
  · rw [if_pos full]
    have whole : data.length = size := by
      rw [capturing.offset] at full
      omega
    exact .between (segments.overlong opened body whole) ⟨capturing.waiting, rfl, capturing.sent⟩
  · rw [if_neg full]
    rw [capturing.offset] at full
    exact .body segments opened body (Nat.lt_of_not_le full) capturing

theorem body_follows (segments : Segments size stream answers) (opened : Opened size opening) (body : Body wire data)
    (short : data.length < size) (capturing : Capturing receiver data (sum wire) answers) :
    Follows size (stream ++ opening ++ wire ++ [c]) rest (receiveStep process false size receiver c) := by
  simp only [receiveStep, getpacketStep, capturing.waiting, capturing.state]
  have room : ¬ receiver.offset ≥ size := by
    rw [capturing.offset]
    omega
  split
  next start =>
    subst start
    have stands : Stands size { receiver with waiting := .getpacket, state := .gdbCapture, offset := 0, checksum := 0#8 }
        (stream ++ (opening ++ wire ++ [gdbPacketStart]) ++ []) :=
      .body segments (opened.restart body short) .nil (by rw [List.length_nil]; omega) ⟨rfl, rfl, rfl, rfl, rfl, capturing.sent⟩
    simp only [Receiver.loop, Follows, Nat.not_le_of_lt (Nat.lt_of_le_of_lt (Nat.zero_le _) short), if_false]
    simpa [capturing.waiting, capturing.state] using stands
  next notStart =>
    split
    next finish =>
      subst finish
      simp only [Receiver.loop, Follows, room, if_false]
      exact .upper segments opened body short ⟨rfl, rfl, capturing.offset, capturing.stored, capturing.checksum,
        capturing.sent⟩ rfl
    next notEnd =>
      split
      next escape =>
        subst escape
        simp only [Receiver.loop, Follows, room, if_false]
        exact .escape segments opened body short ⟨rfl, rfl, capturing.offset, capturing.stored,
          by simp [capturing.checksum], capturing.sent⟩ rfl
      next plain =>
        have longer : (data ++ [c]).length ≤ size := by
          simp only [List.length_append, List.length_singleton]
          omega
        rw [List.append_assoc (stream ++ opening)]
        apply stored_follows segments opened (body.plain c ⟨notStart, notEnd, plain⟩) longer
        refine ⟨rfl, rfl, ?_, ?_, ?_, capturing.sent⟩
        · simp [capturing.offset]
        · simp [capturing.offset, Buffer.take_succ_set, capturing.stored]
        · simp [capturing.checksum, sum_plain]

theorem escape_follows (segments : Segments size stream answers) (opened : Opened size opening) (body : Body wire data)
    (short : data.length < size)
    (capturing : Capturing { receiver with state := .gdbCapture } data (sum wire + gdbPacketEscape) answers)
    (state : receiver.state = .gdbEscape) :
    Follows size (stream ++ opening ++ wire ++ [gdbPacketEscape] ++ [c]) rest
      (receiveStep process false size receiver c) := by
  have waiting : receiver.waiting = .getpacket := capturing.waiting
  have offset : receiver.offset = data.length := capturing.offset
  have checksum : receiver.checksum = sum wire + gdbPacketEscape := capturing.checksum
  have stored : receiver.packet.take data.length = data := capturing.stored
  have longer : (data ++ [c ^^^ gdbPacketEscapeXor]).length ≤ size := by
    simp only [List.length_append, List.length_singleton]
    omega
  have shape : stream ++ opening ++ wire ++ [gdbPacketEscape] ++ [c] = stream ++ opening ++ (wire ++ [gdbPacketEscape, c]) := by
    simp
  simp only [receiveStep, getpacketStep, waiting, state]
  rw [shape]
  apply stored_follows segments opened (body.escaped c) longer
  refine ⟨rfl, rfl, ?_, ?_, ?_, capturing.sent⟩
  · simp [offset]
  · simp [offset, Buffer.take_succ_set, stored]
  · simp [checksum, sum_escaped, BitVec.add_assoc]

theorem upper_follows (segments : Segments size stream answers) (opened : Opened size opening) (body : Body wire data)
    (short : data.length < size) (capturing : Capturing { receiver with state := .gdbCapture } data (sum wire) answers)
    (state : receiver.state = .gdbChecksumUpper) :
    Follows size (stream ++ opening ++ wire ++ [gdbPacketEnd] ++ [c]) rest (receiveStep process false size receiver c) := by
  have waiting : receiver.waiting = .getpacket := capturing.waiting
  have offset : receiver.offset = data.length := capturing.offset
  have room : ¬ receiver.offset ≥ size := by omega
  have shape : stream ++ opening ++ wire ++ [gdbPacketEnd] ++ [c] = stream ++ opening ++ wire ++ [gdbPacketEnd, c] := by simp
  simp only [receiveStep, getpacketStep, waiting, state, Receiver.loop, room, Follows, if_false, Bool.false_eq_true]
  rw [shape]
  exact .lower segments opened body short ⟨rfl, rfl, offset, capturing.stored, capturing.checksum, capturing.sent⟩ rfl rfl

theorem lower_follows {upper : Byte} (segments : Segments size stream answers) (opened : Opened size opening)
    (body : Body wire data) (short : data.length < size)
    (capturing : Capturing { receiver with state := .gdbCapture } data (sum wire) answers)
    (state : receiver.state = .gdbChecksumLower) (half : receiver.rxChecksum = unhexDigit upper <<< 4)
    (digits : (hexValue upper).isSome ∧ (hexValue c).isSome ∨ readChecksum upper c ≠ sum wire) :
    Follows size (stream ++ opening ++ wire ++ [gdbPacketEnd, upper] ++ [c]) rest
      (receiveStep process false size receiver c) := by
  have waiting : receiver.waiting = .getpacket := capturing.waiting
  have offset : receiver.offset = data.length := capturing.offset
  have checksum : receiver.checksum = sum wire := capturing.checksum
  have room : ¬ receiver.offset ≥ size := by omega
  have read : unhexDigit upper <<< 4 ||| unhexDigit c = readChecksum upper c := rfl
  have shape : stream ++ opening ++ wire ++ [gdbPacketEnd, upper] ++ [c] =
      stream ++ opening ++ wire ++ [gdbPacketEnd, upper, c] := by simp
  have sent : receiver.sent = answers := capturing.sent
  simp only [receiveStep, getpacketStep, waiting, state, half, checksum, read, sent, Bool.false_eq_true, if_false, false_or]
  rw [shape]
  by_cases same : readChecksum upper c = sum wire
  · simp only [same, if_true, Follows]
    have checked := checked_of_digits (digits.resolve_right fun other => other same) same
    refine .frame ⟨segments, ⟨opening, opened, rfl⟩, body, short⟩ checked offset ?_ rfl
    have kept : (receiver.packet.set receiver.offset 0#8).take data.length = data := by
      rw [offset, Buffer.take_set_of_le _ _ (Nat.le_refl _)]
      exact capturing.stored
    exact kept
  · simp only [same, if_false, Receiver.loop, room, Follows]
    have wrong : ¬ Checked wire upper c := fun checked => same checked.read
    exact .between (segments.rejected opened body short wrong) ⟨rfl, rfl, rfl⟩

theorem stands_follows {input : List Byte} (room : 0 < size) (quiet : NoRemote size input) (digits : DigitsOnly size input)
    (stands : Stands size receiver stream) (split : input = stream ++ c :: rest) :
    Follows size (stream ++ [c]) rest (receiveStep process false size receiver c) := by
  cases stands with
  | between segments waits =>
    apply between_follows segments waits room
    rintro rfl
    exact quiet _ _ rest segments split
  | body segments opened body short capturing => exact body_follows segments opened body short capturing
  | escape segments opened body short capturing state => exact escape_follows segments opened body short capturing state
  | upper segments opened body short capturing state => exact upper_follows segments opened body short capturing state
  | lower segments opened body short capturing state half =>
    apply lower_follows segments opened body short capturing state half
    exact digits _ _ _ _ _ _ rest ⟨segments, ⟨_, opened, by rw [split]; simp⟩, body, short⟩

theorem receive_returns {input : List Byte} {length : Nat} {final : Receiver σ} {left : List Byte} (room : 0 < size)
    (quiet : NoRemote size input) (digits : DigitsOnly size input) (stands : Stands size receiver stream)
    (split : input = stream ++ rest) (returned : receive process false size receiver rest = some (length, final, left)) :
    Returns size input length final left := by
  induction rest generalizing receiver stream with
  | nil => cases returned
  | cons c rest ih =>
    have follows : Follows size (stream ++ [c]) rest (receiveStep process false size receiver c) :=
      stands_follows room quiet digits stands split
    rw [receive] at returned
    cases stepped : receiveStep process false size receiver c with
    | wait next =>
      rw [stepped] at follows returned
      exact ih follows (by simpa using split) returned
    | done last count =>
      rw [stepped] at follows returned
      cases returned
      have whole : input = stream ++ [c] ++ left := by simpa using split
      rwa [whole]

/-- The start of a frame leads into its body, whatever was given up before. -/
theorem opened_reads (room : 0 < size) (waits : Waits receiver answers) (opened : Opened size opening) :
    ∃ next, Capturing next [] 0#8 answers ∧ Reads process false size receiver opening next := by
  induction opened with
  | start => exact waits_capture waits room
  | @restart opening wire data opened body short ih =>
    obtain ⟨entered, empty, first⟩ := ih
    obtain ⟨inside, stored, second⟩ : ∃ next, _ ∧ Reads process false size entered wire next :=
      capture_body body empty short
    have listening : Listening inside := .inl ⟨stored.waiting, .inr stored.state⟩
    obtain ⟨next, again, third⟩ : ∃ next, _ ∧ Reads process false size inside [gdbPacketStart] next :=
      listening_capture listening room
    rw [stored.sent] at again
    exact ⟨next, again, (first.trans second).trans third⟩

/-- No segment is returned, and each frame among them is answered. -/
theorem segments_read {input : List Byte} (room : 0 < size) (digits : DigitsOnly size input) (packet : Buffer) (remote : σ)
    (segments : Segments size stream answers) (split : ∃ rest, input = stream ++ rest) :
    ∃ next, Waits next answers ∧ Reads process false size (.start packet remote) stream next := by
  induction segments with
  | nil => exact ⟨.start packet remote, ⟨rfl, rfl, rfl⟩, .refl _⟩
  | @junk stream answers c segments junk ih =>
    obtain ⟨rest, split⟩ := split
    obtain ⟨middle, waits, first⟩ := ih ⟨c :: rest, by simpa using split⟩
    obtain ⟨next, still, second⟩ : ∃ next, _ ∧ Reads process false size middle [c] next :=
      waits_junk waits (by simpa using junk)
    exact ⟨next, still, first.trans second⟩
  | @overlong stream answers opening wire data segments opened body full ih =>
    obtain ⟨rest, split⟩ := split
    obtain ⟨middle, waits, first⟩ := ih ⟨opening ++ wire ++ rest, by simpa using split⟩
    obtain ⟨entered, empty, second⟩ : ∃ next, _ ∧ Reads process false size middle opening next :=
      opened_reads room waits opened
    obtain ⟨next, still, third⟩ : ∃ next, _ ∧ Reads process false size entered wire next :=
      capture_overlong body empty room full
    exact ⟨next, still, (first.trans second).trans third⟩
  | @rejected stream answers opening wire data upper lower segments opened body short wrong ih =>
    obtain ⟨rest, split⟩ := split
    obtain ⟨middle, waits, first⟩ := ih ⟨opening ++ wire ++ [gdbPacketEnd, upper, lower] ++ rest, by simpa using split⟩
    obtain ⟨entered, empty, second⟩ : ∃ next, _ ∧ Reads process false size middle opening next :=
      opened_reads room waits opened
    obtain ⟨inside, stored, third⟩ : ∃ next, _ ∧ Reads process false size entered wire next :=
      capture_body body empty short
    have unequal : readChecksum upper lower ≠ sum wire := by
      rcases digits _ _ _ _ _ _ rest ⟨segments, ⟨opening, opened, split⟩, body, short⟩ with both | other
      · exact fun read => wrong (checked_of_digits both read)
      · exact other
    obtain ⟨next, still, fourth⟩ : ∃ next, _ ∧ Reads process false size inside _ next :=
      checksum_rejected stored short unequal
    exact ⟨next, still, ((first.trans second).trans third).trans fourth⟩

/-- In ack mode a stream without remote packets, whose checksum characters are digits wherever they would read as the sum of
their frame, returns frames with their checksum only and answers all others. -/
theorem stream_accepted (process : RemoteProcess σ) {input : List Byte} (room : 0 < size) (packet : Buffer) (remote : σ)
    (quiet : NoRemote size input) (digits : DigitsOnly size input) :
    (∀ length final rest, gdbGetpacket process false packet size remote input = some (length, final, rest) →
      Returns size input length final rest) ∧
    ∀ stream answers rest, Segments size stream answers → input = stream ++ rest →
      ∃ next, Waits next answers ∧ Reads process false size (.start packet remote) stream next := by
  refine ⟨fun length final rest returned => ?_, fun stream answers rest segments split => ?_⟩
  · exact receive_returns room quiet digits (.between .nil ⟨rfl, rfl, rfl⟩) rfl returned
  · exact segments_read room digits packet remote segments ⟨rest, split⟩

private theorem without_remote {input : List Byte} (free : remoteSom ∉ input) : NoRemote size input := by
  rintro stream answers rest - rfl
  exact free (List.mem_append_right _ List.mem_cons_self)

private theorem empty_digits : DigitsOnly 16 (frame [] (chr '0') (chr '0')) := by
  rintro stream answers wire data upper lower rest ⟨-, ⟨opening, -, split⟩, -, -⟩
  generalize stream ++ opening ++ wire = front at split
  left
  rcases front with _ | ⟨first, _ | ⟨second, _ | ⟨third, front⟩⟩⟩
  · exact absurd (List.cons.inj split).1 (by decide)
  · cases split
    decide
  · exact absurd (List.cons.inj (List.cons.inj (List.cons.inj split).2).2).1 (by decide)
  · have short := congrArg List.length split
    simp [frame] at short
    omega

/-- The frame of an empty body. -/
theorem empty_frame_accepted :
    (∀ length final rest, gdbGetpacket ignoring false (fun _ => 0#8) 16 () (frame [] (chr '0') (chr '0')) =
      some (length, final, rest) → Returns 16 (frame [] (chr '0') (chr '0')) length final rest) ∧
    ∀ stream answers rest, Segments 16 stream answers → frame [] (chr '0') (chr '0') = stream ++ rest →
      ∃ next, Waits next answers ∧ Reads ignoring false 16 (.start (fun _ => 0#8) ()) stream next :=
  stream_accepted ignoring (by decide) (fun _ => 0#8) () (without_remote (by decide)) empty_digits

/-- The characters `G0` read as zero, the sum of an empty body. -/
theorem alias_accepted :
    NoRemote 16 (frame [] (chr 'G') (chr '0')) ∧ ∃ final,
      gdbGetpacket ignoring false (fun _ => 0#8) 16 () (frame [] (chr 'G') (chr '0')) = some (0, final, []) ∧
        final.sent = [gdbPacketAck] ∧ ¬ Returns 16 (frame [] (chr 'G') (chr '0')) 0 final [] := by
  obtain ⟨final, received, -, -, sent⟩ : ∃ final, receive ignoring false 16 (.start (fun _ => 0#8) ())
      ([] ++ frame [] (chr 'G') (chr '0') ++ []) = some (0, final, []) ∧ _ :=
    frame_received [] ⟨rfl, rfl, rfl⟩ (fun b never => absurd never List.not_mem_nil) .nil (by decide) (.inr (by decide))
  refine ⟨without_remote (by decide), final, received, sent, fun returns => ?_⟩
  cases returns with
  | lone segments which split one stored sent => cases one
  | frame completed checked whole stored sent =>
    obtain ⟨opening, -, split⟩ := completed.opened
    rw [List.append_nil] at split
    have last : [gdbPacketEnd, chr 'G', chr '0'] = _ :=
      (List.append_inj' (split : [gdbPacketStart] ++ [gdbPacketEnd, chr 'G', chr '0'] = _) rfl).2
    obtain ⟨high, low, digit, -, -⟩ := checked
    cases last
    have none : hexValue (chr 'G') = none := by decide
    rw [none] at digit
    cases digit

end BlackMagic.Proofs.PacketGrammar
