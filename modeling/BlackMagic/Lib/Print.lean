import BlackMagic.Bytes

/-! `snprintf` into a buffer, and the idiom that prints one text behind another: each call is
given what is left of the buffer as an unsigned difference, and the offset grows by what the
call would have written. -/

namespace BlackMagic.Lib.Print
/-- A buffer and the indices at which it has been written. -/
structure Memory where
  buf : Buffer
  writes : List Nat

def Memory.store (memory : Memory) (index : Nat) (value : Byte) : Memory :=
  ⟨memory.buf.set index value, memory.writes ++ [index]⟩

/-- Store a text and its terminator. -/
def Memory.storeText (memory : Memory) : Nat → List Byte → Memory
  | index, [] => memory.store index 0#8
  | index, c :: rest => (memory.store index c).storeText (index + 1) rest

/-- What is printed at a place with so much room: the length of the text, whether it fits or not. -/
def snprintf (index room : Nat) (text : List Byte) (memory : Memory) : Nat × Memory :=
  (text.length, if room = 0 then memory else memory.storeText index (text.take (room - 1)))

/-- What is left of a length, as a difference of 32-bit numbers. -/
def left (len offset : Nat) : Nat := (len + (2 ^ 32 - offset % 2 ^ 32)) % 2 ^ 32

/-- One more text behind what has been printed into a buffer of the given length. -/
def printNext (len : Nat) (printed : Nat × Memory) (text : List Byte) : Nat × Memory :=
  let next := snprintf printed.1 (left len printed.1) text printed.2
  (printed.1 + next.1, next.2)

/-- Texts one behind the other. -/
def printEach (len : Nat) (texts : List (List Byte)) (printed : Nat × Memory) : Nat × Memory :=
  texts.foldl (printNext len) printed

theorem left_of_le {len offset : Nat} (fits : len < 2 ^ 32) (below : offset ≤ len) : left len offset = len - offset := by
  rw [left, Nat.mod_eq_of_lt (by omega : offset < 2 ^ 32)]
  omega

/-- Behind the end the difference wraps around. -/
theorem left_of_gt {len offset : Nat} (beyond : len < offset) (near : offset < len + 2 ^ 32) :
    left len offset = len + 2 ^ 32 - offset := by
  rw [left]
  omega

theorem left_left (len first second : Nat) : left (left len first) second = left len (first + second) := by
  simp only [left]
  omega

theorem storeText_writes (memory : Memory) (index : Nat) (text : List Byte) :
    (memory.storeText index text).writes = memory.writes ++ List.range' index (text.length + 1) := by
  induction text generalizing memory index with
  | nil => rfl
  | cons c rest ih =>
    rw [Memory.storeText, ih, Memory.store, List.append_assoc]
    rfl

section Texts
variable {len : Nat} {texts : List (List Byte)} {printed : Nat × Memory}

theorem printNext_offset (len : Nat) (printed : Nat × Memory) (text : List Byte) :
    (printNext len printed text).1 = printed.1 + text.length := rfl

theorem printNext_recorded (len : Nat) (printed : Nat × Memory) (text : List Byte) :
    printed.2.writes <+: (printNext len printed text).2.writes := by
  rw [printNext, snprintf]
  split
  · exact List.prefix_rfl
  · rw [storeText_writes]
    exact List.prefix_append _ _

theorem printEach_one (len : Nat) (text : List Byte) (printed : Nat × Memory) :
    printEach len [text] printed = printNext len printed text := rfl

theorem printEach_append (len : Nat) (first second : List (List Byte)) (printed : Nat × Memory) :
    printEach len (first ++ second) printed = printEach len second (printEach len first printed) := List.foldl_append

theorem printEach_offset (len : Nat) (texts : List (List Byte)) (printed : Nat × Memory) :
    (printEach len texts printed).1 = printed.1 + texts.flatten.length := by
  induction texts generalizing printed with
  | nil => rfl
  | cons text rest ih =>
    rw [printEach, List.foldl_cons, ← printEach, ih, printNext_offset, List.flatten_cons, List.length_append, Nat.add_assoc]

/-- What has been written stays in the record. -/
theorem printEach_recorded (len : Nat) (texts : List (List Byte)) (printed : Nat × Memory) :
    printed.2.writes <+: (printEach len texts printed).2.writes := by
  induction texts generalizing printed with
  | nil => exact List.prefix_rfl
  | cons text rest ih =>
    rw [printEach, List.foldl_cons, ← printEach]
    exact (printNext_recorded len printed text).trans (ih _)

/-- Nothing is written outside the buffer. -/
def Inside (len : Nat) (memory : Memory) : Prop := ∀ i ∈ memory.writes, i < len

theorem printNext_inside (text : List Byte) (fits : len < 2 ^ 32) (start : printed.1 ≤ len)
    (inside : Inside len printed.2) : Inside len (printNext len printed text).2 := by
  have room : left len printed.1 = len - printed.1 := left_of_le fits start
  rw [printNext, snprintf, room]
  split
  · exact inside
  · intro i written
    rw [storeText_writes, List.mem_append, List.mem_range'_1, List.length_take] at written
    obtain before | now := written
    · exact inside i before
    · omega

/-- A text that starts behind the buffer is stored there: the room that is left has wrapped around. -/
theorem printNext_overrun (text : List Byte) (start : len < printed.1)
    (near : printed.1 < len + 2 ^ 32) : ¬ Inside len (printNext len printed text).2 := by
  have room : left len printed.1 = len + 2 ^ 32 - printed.1 := left_of_gt start near
  intro inside
  have here := inside printed.1
  rw [printNext, snprintf, room, if_neg (by omega), storeText_writes, List.mem_append, List.mem_range'_1] at here
  exact absurd (here (.inr ⟨Nat.le_refl _, by omega⟩)) (by omega)

theorem printEach_inside (fits : len < 2 ^ 32) (whole : printed.1 + texts.flatten.length ≤ len)
    (inside : Inside len printed.2) : Inside len (printEach len texts printed).2 := by
  induction texts generalizing printed with
  | nil => exact inside
  | cons text rest ih =>
    rw [List.flatten_cons, List.length_append] at whole
    rw [printEach, List.foldl_cons, ← printEach]
    apply ih
    · rw [printNext_offset]
      omega
    · exact printNext_inside text fits (by omega) inside

/-- Once the offset has passed the end of the buffer, the next text is stored outside. -/
theorem printEach_overrun (next : List Byte) (short : ∀ text ∈ texts, text.length < 2 ^ 32)
    (start : printed.1 ≤ len) (beyond : len < printed.1 + texts.flatten.length) :
    ¬ Inside len (printEach len (texts ++ [next]) printed).2 := by
  induction texts generalizing printed with
  | nil => exact absurd beyond (Nat.not_lt.mpr start)
  | cons text rest ih =>
    rw [List.flatten_cons, List.length_append] at beyond
    rw [List.cons_append, printEach, List.foldl_cons, ← printEach]
    have later := printNext_offset len printed text
    by_cases past : printed.1 + text.length ≤ len
    · apply ih
      · exact fun other listed => short other (List.mem_cons_of_mem _ listed)
      · omega
      · omega
    · have small := short text List.mem_cons_self
      obtain ⟨following, others, same⟩ : ∃ following others, rest ++ [next] = following :: others := by
        cases rest with
        | nil => exact ⟨next, [], rfl⟩
        | cons following others => exact ⟨following, others ++ [next], rfl⟩
      intro inside
      have outside : ¬ Inside len (printNext len (printNext len printed text) following).2 :=
        printNext_overrun following (by omega) (by omega)
      apply outside
      rw [same, printEach, List.foldl_cons, ← printEach] at inside
      exact fun i written => inside i ((printEach_recorded len others _).mem written)

end Texts

end BlackMagic.Lib.Print
