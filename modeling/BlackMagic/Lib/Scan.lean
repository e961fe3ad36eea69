import BlackMagic.Bytes

/-! `sscanf` for the conversions that a 32-bit protocol parser needs: literals, `%x`,
`%u`, `%c`, `%n` and a suppressed `%[...]`, with field widths, signs, the optional `0x`,
and the saturation of `strtoul`. -/

namespace BlackMagic.Lib.Scan

inductive Directive where
  | literal (c : Byte)
  | hex (width : Option Nat)
  | decimal (width : Option Nat)
  | character
  | position
  | skipping (set : List Byte)
  deriving DecidableEq, Repr

/-- The literal directives of a text. -/
def text (literals : String) : List Directive := (ascii literals).map .literal

def isSpace (c : Byte) : Bool := c = chr ' ' ∨ (9#8 ≤ c ∧ c ≤ 13#8)

def digit (base : Nat) (c : Byte) : Option Nat :=
  let value :=
    if chr '0' ≤ c ∧ c ≤ chr '9' then c.toNat - (chr '0').toNat
    else if chr 'a' ≤ c ∧ c ≤ chr 'f' then c.toNat - (chr 'a').toNat + 10
    else if chr 'A' ≤ c ∧ c ≤ chr 'F' then c.toNat - (chr 'A').toNat + 10
    else base
  if value < base then some value else none

/-- The digits at the start of the input, at most `limit` of them, and what follows. -/
def digits (base : Nat) : Nat → List Byte → List Nat × List Byte
  | limit + 1, c :: rest =>
    match digit base c with
    | some value => let (more, rest) := digits base limit rest; (value :: more, rest)
    | none => ([], c :: rest)
  | _, input => ([], input)

/-- `strtoul` on the digits: saturated, then negated for a minus sign. -/
def strtoul (base : Nat) (negative : Bool) (values : List Nat) : Nat :=
  let value := values.foldl (fun total value => total * base + value) 0
  if 2 ^ 32 ≤ value then 2 ^ 32 - 1 else if negative then (2 ^ 32 - value) % 2 ^ 32 else value

/-- The sign, and how much of the field is left after it. -/
def sign (limit : Nat) (input : List Byte) : Bool × Nat × List Byte :=
  match limit, input with
  | limit + 1, c :: rest =>
    if c = chr '-' then (true, limit, rest) else if c = chr '+' then (false, limit, rest) else (false, limit + 1, c :: rest)
  | _, input => (false, limit, input)

/-- The input after a `0x` with a digit behind it, and the field that is left. -/
def hexMark (limit : Nat) (input : List Byte) : Option (Nat × List Byte) :=
  match limit, input with
  | limit + 3, zero :: x :: c :: rest =>
    if zero = chr '0' ∧ (x = chr 'x' ∨ x = chr 'X') ∧ (digit 16 c).isSome then some (limit + 1, c :: rest) else none
  | _, _ => none

/-- An integer conversion: its value and the input behind it. -/
def integer (base : Nat) (width : Option Nat) (input : List Byte) : Option (Nat × List Byte) :=
  let input := input.dropWhile isSpace
  let (negative, limit, input) := sign (width.getD input.length) input
  let (limit, input) := if base = 16 then (hexMark limit input).getD (limit, input) else (limit, input)
  match digits base limit input with
  | ([], _) => none
  | (values, rest) => some (strtoul base negative values, rest)

/-- What `sscanf` returns and what it stored, `%n` included. -/
structure Scanned where
  count : Nat
  values : List Nat
  deriving DecidableEq, Repr

def Scanned.assigned (scanned : Scanned) (value : Nat) : Scanned := ⟨scanned.count + 1, value :: scanned.values⟩

/-- The scan of an input of the given length, from a point inside it on. -/
def scanFrom (length : Nat) : List Directive → List Byte → Scanned
  | [], _ => ⟨0, []⟩
  | .literal c :: rest, input =>
    match input with
    | [] => ⟨0, []⟩
    | x :: input => if x = c then scanFrom length rest input else ⟨0, []⟩
  | .hex width :: rest, input =>
    match integer 16 width input with
    | none => ⟨0, []⟩
    | some (value, input) => (scanFrom length rest input).assigned value
  | .decimal width :: rest, input =>
    match integer 10 width input with
    | none => ⟨0, []⟩
    | some (value, input) => (scanFrom length rest input).assigned value
  | .character :: rest, input =>
    match input with
    | [] => ⟨0, []⟩
    | x :: input => (scanFrom length rest input).assigned x.toNat
  | .position :: rest, input =>
    let scanned := scanFrom length rest input
    ⟨scanned.count, (length - input.length) :: scanned.values⟩
  | .skipping set :: rest, input =>
    let behind := input.dropWhile fun c => set.contains c
    if behind.length = input.length then ⟨0, []⟩ else scanFrom length rest behind

def sscanf (input : List Byte) (format : List Directive) : Scanned := scanFrom input.length format input

section Fields

/-- The values of the digits in a text. -/
def digitValues (base : Nat) (text : List Byte) : List Nat := text.filterMap (digit base)

/-- The input ends or goes on with something else than a digit. -/
def Delimited (base : Nat) (input : List Byte) : Prop := ∀ c rest, input = c :: rest → digit base c = none

/-- A field takes the digits that are there, as many as it may. -/
theorem digits_limited {base : Nat} {text rest : List Byte} (all : ∀ c ∈ text, (digit base c).isSome) {limit : Nat}
    (delimited : text.length < limit → Delimited base rest) :
    digits base limit (text ++ rest) = (digitValues base (text.take limit), text.drop limit ++ rest) := by
  induction text generalizing limit with
  | nil =>
    cases limit with
    | zero => rfl
    | succ limit =>
      cases rest with
      | nil => rfl
      | cons c rest => simp [digits, delimited (Nat.succ_pos limit) c rest rfl, digitValues]
  | cons c text ih =>
    obtain ⟨value, found⟩ := Option.isSome_iff_exists.mp (all c List.mem_cons_self)
    cases limit with
    | zero => simp [digits, digitValues]
    | succ limit =>
      have more := ih (fun other listed => all other (List.mem_cons_of_mem c listed))
        (fun shorter => delimited (Nat.succ_lt_succ shorter))
      simp only [List.cons_append, digits, found, more]
      simp [digitValues, found]

private theorem hex_digit_plain : ∀ c : Byte, (digit 16 c).isSome →
    isSpace c = false ∧ c ≠ chr '-' ∧ c ≠ chr '+' ∧ c ≠ chr 'x' ∧ c ≠ chr 'X' := by
  decide +kernel

private theorem hexMark_plain (limit : Nat) (zero : Byte) {x : Byte} (more : List Byte) (plain : x ≠ chr 'x' ∧ x ≠ chr 'X') :
    hexMark limit (zero :: x :: more) = none := by
  rw [hexMark.eq_def]
  split
  next same =>
    cases same
    rw [if_neg]
    rintro ⟨_, marked | marked, _⟩
    · exact plain.1 marked
    · exact plain.2 marked
  next => rfl

/-- A hexadecimal field that is spelled without a sign and without `0x`. -/
theorem integer_limited {text rest : List Byte} {width : Option Nat} (some : text ≠ [])
    (all : ∀ c ∈ text, (digit 16 c).isSome) (positive : 0 < width.getD (text ++ rest).length)
    (delimited : text.length < width.getD (text ++ rest).length → Delimited 16 rest)
    (unmarked : ∀ c more, rest = c :: more → c ≠ chr 'x' ∧ c ≠ chr 'X') :
    integer 16 width (text ++ rest)
      = .some (strtoul 16 false (digitValues 16 (text.take (width.getD (text ++ rest).length))),
          text.drop (width.getD (text ++ rest).length) ++ rest) := by
  generalize limiting : width.getD (text ++ rest).length = limit at *
  cases text with
  | nil => exact absurd rfl some
  | cons c text =>
    obtain ⟨solid, plus, minus, _⟩ := hex_digit_plain c (all c List.mem_cons_self)
    have signless : sign limit (c :: text ++ rest) = (false, limit, c :: text ++ rest) := by
      cases limit with
      | zero => cases positive
      | succ limit => simp [sign, plus, minus]
    have markless : hexMark limit (c :: text ++ rest) = none := by
      cases text with
      | nil =>
        cases rest with
        | nil => exact hexMark.eq_2 _ _ (fun _ _ _ _ _ _ never => by cases never)
        | cons x rest => exact hexMark_plain _ c rest (unmarked x rest rfl)
      | cons x text =>
        obtain ⟨_, _, _, plain⟩ := hex_digit_plain x (all x (by simp))
        exact hexMark_plain _ c (text ++ rest) plain
    have begun : (c :: text ++ rest).dropWhile isSpace = c :: text ++ rest := by simp [solid]
    have counted : digitValues 16 ((c :: text).take limit) ≠ [] := by
      obtain ⟨value, found⟩ := Option.isSome_iff_exists.mp (all c List.mem_cons_self)
      cases limit with
      | zero => cases positive
      | succ limit => simp [digitValues, found]
    simp only [integer, begun, limiting, signless, markless, if_true, Option.getD_none, digits_limited all delimited]

theorem integer_hex {text rest : List Byte} (some : text ≠ []) (all : ∀ c ∈ text, (digit 16 c).isSome)
    (delimited : Delimited 16 rest) (unmarked : ∀ c more, rest = c :: more → c ≠ chr 'x' ∧ c ≠ chr 'X') :
    integer 16 none (text ++ rest) = .some (strtoul 16 false (digitValues 16 text), rest) := by
  have positive : 0 < (none : Option Nat).getD (text ++ rest).length := by
    have := List.length_pos_of_ne_nil some
    rw [Option.getD_none, List.length_append]
    omega
  rw [integer_limited some all positive (fun _ => delimited) unmarked]
  have enough : text.length ≤ (text ++ rest).length := by simp
  rw [Option.getD_none, List.take_of_length_le enough, List.drop_of_length_le enough, List.nil_append]

theorem delimited_nil (base : Nat) : Delimited base [] := by
  rintro _ _ ⟨⟩

theorem delimited_comma (rest : List Byte) : Delimited 16 (chr ',' :: rest) := by
  rintro _ _ ⟨⟩
  decide

theorem unmarked_nil : ∀ c more, ([] : List Byte) = c :: more → c ≠ chr 'x' ∧ c ≠ chr 'X' := by
  rintro _ _ ⟨⟩

theorem unmarked_comma (rest : List Byte) : ∀ c more, chr ',' :: rest = c :: more → c ≠ chr 'x' ∧ c ≠ chr 'X' := by
  rintro _ _ ⟨⟩
  decide

/-- The value of digits behind others. -/
def digitsValue (base before : Nat) (values : List Nat) : Nat := values.foldl (fun total value => total * base + value) before

theorem digitsValue_ge (base before : Nat) (values : List Nat) :
    before * base ^ values.length ≤ digitsValue base before values := by
  induction values generalizing before with
  | nil => simp [digitsValue]
  | cons value values ih =>
    have rest := ih (before * base + value)
    have shifted : before * base ^ (values.length + 1) = before * base * base ^ values.length := by
      rw [Nat.pow_succ, Nat.mul_comm (base ^ values.length) base, Nat.mul_assoc]
    have grown : before * base * base ^ values.length ≤ (before * base + value) * base ^ values.length :=
      Nat.mul_le_mul_right _ (Nat.le_add_right _ _)
    rw [List.length_cons, shifted]
    exact grown.trans rest

theorem digitsValue_lt {base before : Nat} {values : List Nat} (small : ∀ value ∈ values, value < base) :
    digitsValue base before values < (before + 1) * base ^ values.length := by
  induction values generalizing before with
  | nil => simp [digitsValue]
  | cons value values ih =>
    have rest : digitsValue base (before * base + value) values < (before * base + value + 1) * base ^ values.length :=
      ih fun other listed => small other (List.mem_cons_of_mem _ listed)
    have below : before * base + value + 1 ≤ (before + 1) * base := by
      have := small value List.mem_cons_self
      rw [Nat.add_mul, Nat.one_mul]
      omega
    apply rest.trans_le
    rw [List.length_cons, Nat.pow_succ, Nat.mul_comm (base ^ values.length) base, ← Nat.mul_assoc]
    exact Nat.mul_le_mul_right _ below

theorem strtoul_digits {base : Nat} {values : List Nat} (fits : digitsValue base 0 values < 2 ^ 32) :
    strtoul base false values = digitsValue base 0 values := by
  rw [digitsValue] at fits ⊢
  simp only [strtoul]
  rw [if_neg (by omega)]
  rfl

theorem hex_digit_value : ∀ c : Byte, ∀ value, digit 16 c = some value → value < 16 ∧ (value = 0 → c = chr '0') := by
  have all : ∀ c : Byte, ∀ value ∈ digit 16 c, value < 16 ∧ (value = 0 → c = chr '0') := by decide +kernel
  exact fun c value found => all c value found

end Fields

example : sscanf (ascii "m20000000,1f") (text "m" ++ [.hex none] ++ text "," ++ [.hex none]) = ⟨2, [0x20000000, 0x1f]⟩ := by
  decide +kernel

example : sscanf (ascii "X-1, 0x10:abc") (text "X" ++ [.hex none] ++ text "," ++ [.hex none] ++ text ":" ++ [.position]) =
    ⟨2, [0xffffffff, 0x10, 10]⟩ := by
  decide +kernel

end BlackMagic.Lib.Scan
