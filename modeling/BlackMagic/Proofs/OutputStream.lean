import BlackMagic.GdbIf

/-! The characters of the output stream. They are all sent, in order and once, and the
buffer is empty after a flush; but a buffer that is full gets its terminator behind its
end. -/

namespace BlackMagic.Proofs.OutputStream
open BlackMagic.GdbIf

variable {conn : Connection}

theorem bufferSize_pos : 0 < bufferSize := by decide

/-- The characters sent and those that are still in the buffer. -/
def stream (conn : Connection) : List Byte := conn.sent ++ conn.buf.take conn.bufsize

theorem putchar_stream (c : Byte) (flush : Bool) : stream (gdbIfPutchar c flush conn) = stream conn ++ [c] := by
  have stored : (conn.buf.set conn.bufsize c).take (conn.bufsize + 1) = conn.buf.take conn.bufsize ++ [c] :=
    Buffer.take_succ_set conn.buf conn.bufsize c
  rw [gdbIfPutchar]
  dsimp only
  split
  · have kept := Buffer.take_set_of_le (conn.buf.set conn.bufsize c) 0#8 (Nat.le_refl (conn.bufsize + 1))
    simp only [stream, kept, stored, Buffer.take_zero, List.append_nil, List.append_assoc]
  · simp only [stream, stored, List.append_assoc]

theorem putchar_bufsize (c : Byte) (flush : Bool) (room : conn.bufsize < bufferSize) :
    (gdbIfPutchar c flush conn).bufsize < bufferSize ∧
      (flush = true ∨ conn.bufsize + 1 = bufferSize → (gdbIfPutchar c flush conn).bufsize = 0) := by
  rw [gdbIfPutchar]
  dsimp only
  split
  · exact ⟨bufferSize_pos, fun _ => rfl⟩
  next more =>
    refine ⟨?_, fun full => absurd full more⟩
    have notFull := (not_or.mp more).2
    dsimp only
    omega

/-- The accesses of one call are inside the buffer exactly if there is room for two more characters. -/
theorem putchar_accesses (c : Byte) (flush : Bool) (room : conn.bufsize < bufferSize) :
    (∀ index ∈ (gdbIfPutchar c flush conn).accesses, index < bufferSize) ↔
      (∀ index ∈ conn.accesses, index < bufferSize) ∧ conn.bufsize + 1 ≠ bufferSize := by
  rw [gdbIfPutchar]
  dsimp only
  split
  next ended =>
    simp only [List.forall_mem_append, List.forall_mem_singleton, List.mem_range]
    constructor
    · rintro ⟨⟨⟨old, -⟩, last⟩, -⟩
      exact ⟨old, Nat.ne_of_lt last⟩
    · rintro ⟨old, notFull⟩
      exact ⟨⟨⟨old, room⟩, by omega⟩, fun index below => by omega⟩
  next more =>
    simp only [List.forall_mem_append, List.forall_mem_singleton]
    exact ⟨fun all => ⟨all.1, fun full => more (.inr full)⟩, fun all => ⟨all.1, room⟩⟩

/-- The connection after the calls so far. -/
def after (buf : Buffer) (calls : List (Byte × Bool)) : Connection := putchars calls (.opened buf)

theorem after_snoc (buf : Buffer) (calls : List (Byte × Bool)) (call : Byte × Bool) :
    after buf (calls ++ [call]) = gdbIfPutchar call.1 call.2 (after buf calls) := by simp [after, putchars]

theorem after_bufsize (buf : Buffer) (calls : List (Byte × Bool)) : (after buf calls).bufsize < bufferSize := by
  induction calls using List.reverseRecOn with
  | nil => exact bufferSize_pos
  | append_singleton calls call ih =>
    rw [after_snoc]
    exact (putchar_bufsize call.1 call.2 ih).1

theorem after_stream (buf : Buffer) (calls : List (Byte × Bool)) : stream (after buf calls) = calls.map Prod.fst := by
  induction calls using List.reverseRecOn with
  | nil => rfl
  | append_singleton calls call ih =>
    rw [after_snoc, putchar_stream, ih]
    simp

theorem after_accesses (buf : Buffer) (calls : List (Byte × Bool)) :
    (∀ index ∈ (after buf calls).accesses, index < bufferSize) ↔
      ∀ before call rest, calls = before ++ call :: rest → (after buf before).bufsize + 1 ≠ bufferSize := by
  induction calls using List.reverseRecOn with
  | nil =>
    refine iff_of_true (fun index never => absurd never List.not_mem_nil) ?_
    intro before call rest same
    cases before <;> cases same
  | append_singleton calls call ih =>
    rw [after_snoc, putchar_accesses call.1 call.2 (after_bufsize buf calls), ih]
    constructor
    · rintro ⟨earlier, last⟩ before other rest same
      rcases List.eq_nil_or_concat rest with rfl | ⟨inner, final, rfl⟩
      · rw [(List.append_inj' same rfl).1] at last
        exact last
      · have split : calls ++ [call] = (before ++ other :: inner) ++ [final] := by simpa using same
        exact earlier before other inner (List.append_inj' split rfl).1
    · intro all
      refine ⟨fun before other rest same => ?_, all calls call [] rfl⟩
      exact all before other (rest ++ [call]) (by rw [same]; simp)

/-- What a sequence of calls on a connected client has to do. -/
structure Intact (buf : Buffer) (calls : List (Byte × Bool)) : Prop where
  inside : ∀ index ∈ (after buf calls).accesses, index < bufferSize
  stream : stream (after buf calls) = calls.map Prod.fst
  emptied : ∀ before c flush, calls = before ++ [(c, flush)] →
    flush = true ∨ (after buf before).bufsize + 1 = bufferSize → (after buf calls).bufsize = 0

/-- The output is intact exactly if no call finds all but one byte of the buffer taken. -/
theorem output_intact_iff (buf : Buffer) (calls : List (Byte × Bool)) :
    Intact buf calls ↔
      ∀ before call rest, calls = before ++ call :: rest → (after buf before).bufsize + 1 ≠ bufferSize := by
  rw [← after_accesses]
  refine ⟨fun intact => intact.inside, fun inside => ⟨inside, after_stream buf calls, ?_⟩⟩
  rintro before c flush rfl ended
  rw [after_snoc]
  exact (putchar_bufsize c flush (after_bufsize buf before)).2 ended

/-- Characters without a flush stay in the buffer while there is room. -/
theorem after_unflushed (buf : Buffer) (c : Byte) {n : Nat} (room : n < bufferSize) :
    (after buf (List.replicate n (c, false))).bufsize = n := by
  induction n with
  | zero => rfl
  | succ n ih =>
    have more : ¬ n + 1 = bufferSize := by omega
    rw [List.replicate_succ', after_snoc, gdbIfPutchar]
    simp only [ih (by omega), more, Bool.false_eq_true, or_self, if_false]

/-- A run of as many characters as the buffer has, without a flush. -/
theorem full_buffer_overrun : ¬ Intact (fun _ => 0#8) (List.replicate 2048 (chr 'a', false)) := by
  intro intact
  have room := (after_accesses _ _).mp intact.inside (List.replicate 2047 (chr 'a', false)) (chr 'a', false) []
    List.replicate_succ'
  rw [after_unflushed _ _ (by decide)] at room
  exact room rfl

end BlackMagic.Proofs.OutputStream
