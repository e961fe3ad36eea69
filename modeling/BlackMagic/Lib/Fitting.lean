import Mathlib.Data.List.Basic

/-! Filling a bounded line with chunks: the longest prefix that fits, and the prefix that a writer
takes which only looks at how much it has written. -/

namespace BlackMagic.Lib

variable {α : Type}

/-- The chunks from the start that are no longer than the limit together. -/
def fitting : Nat → List (List α) → List (List α)
  | _, [] => []
  | limit, chunk :: rest => if chunk.length ≤ limit then chunk :: fitting (limit - chunk.length) rest else []

/-- The chunks that are taken until the limit is reached or passed. -/
def filling : Nat → List (List α) → List (List α)
  | _, [] => []
  | limit, chunk :: rest => if 0 < limit then chunk :: filling (limit - chunk.length) rest else []

theorem fitting_starts (limit : Nat) (chunks : List (List α)) : fitting limit chunks <+: chunks := by
  induction chunks generalizing limit with
  | nil => exact List.prefix_rfl
  | cons chunk rest ih =>
    rw [fitting]
    split
    · exact (List.prefix_cons_inj chunk).mpr (ih _)
    · exact List.nil_prefix

theorem filling_starts (limit : Nat) (chunks : List (List α)) : filling limit chunks <+: chunks := by
  induction chunks generalizing limit with
  | nil => exact List.prefix_rfl
  | cons chunk rest ih =>
    rw [filling]
    split
    · exact (List.prefix_cons_inj chunk).mpr (ih _)
    · exact List.nil_prefix

/-- Every prefix within the limit is a part of it. -/
theorem fitting_longest {limit : Nat} {chunks front : List (List α)} (taken : front <+: chunks)
    (short : front.flatten.length ≤ limit) : front <+: fitting limit chunks := by
  induction front generalizing limit chunks with
  | nil => exact List.nil_prefix
  | cons chunk more ih =>
    obtain ⟨rest, rfl⟩ := taken
    rw [List.flatten_cons, List.length_append] at short
    rw [List.cons_append, fitting, if_pos (by omega)]
    apply (List.prefix_cons_inj chunk).mpr
    exact ih (List.prefix_append more rest) (by omega)

@[simp] theorem filling_zero (chunks : List (List α)) : filling 0 chunks = [] := by cases chunks <;> rfl

/-- It passes the limit by less than a chunk. -/
theorem filling_length_le {limit size : Nat} {chunks : List (List α)} (small : ∀ chunk ∈ chunks, chunk.length ≤ size + 1) :
    (filling limit chunks).flatten.length ≤ limit + size := by
  induction chunks generalizing limit with
  | nil => exact Nat.zero_le _
  | cons chunk rest ih =>
    rw [filling]
    split
    · have width := small chunk List.mem_cons_self
      rw [List.flatten_cons, List.length_append]
      by_cases inside : chunk.length ≤ limit
      · have short := @ih (limit - chunk.length) fun other listed => small other (List.mem_cons_of_mem _ listed)
        omega
      · rw [show limit - chunk.length = 0 by omega, filling_zero, List.flatten_nil, List.length_nil]
        omega
    · exact Nat.zero_le _

/-- The chunks end by the limit, or a chunk of two passes it by one and leaves no room for what
follows. -/
def Snug (limit : Nat) (chunks : List (List α)) : Prop :=
  chunks.flatten.length ≤ limit ∨
    ∃ front double back, chunks = front ++ double :: back ∧ front.flatten.length + 1 = limit ∧ double.length = 2 ∧
      ∀ next ∈ back.head?, next.length = 2

section Doubles
variable {limit : Nat} {chunk : List α} {chunks rest : List (List α)}

private theorem snug_cons (short : chunk.length ≤ limit) :
    Snug limit (chunk :: rest) ↔ Snug (limit - chunk.length) rest := by
  rw [Snug, Snug, List.flatten_cons, List.length_append]
  constructor
  · intro snug
    cases snug with
    | inl fits => exact .inl (by omega)
    | inr passed =>
      obtain ⟨front, double, back, split, before, two, blocked⟩ := passed
      cases front with
      | nil =>
        obtain ⟨rfl, rfl⟩ := List.cons.inj split
        rw [List.flatten_nil, List.length_nil] at before
        omega
      | cons first front =>
        obtain ⟨rfl, rfl⟩ := List.cons.inj split
        rw [List.flatten_cons, List.length_append] at before
        exact .inr ⟨front, double, back, rfl, by omega, two, blocked⟩
  · intro snug
    cases snug with
    | inl fits => exact .inl (by omega)
    | inr passed =>
      obtain ⟨front, double, back, rfl, before, two, blocked⟩ := passed
      refine .inr ⟨chunk :: front, double, back, rfl, ?_, two, blocked⟩
      rw [List.flatten_cons, List.length_append]
      omega

/-- A writer that stops by what it has written so far takes all that fits into two more places
exactly if the chunks are snug. -/
theorem filling_eq_fitting_iff (small : ∀ chunk ∈ chunks, chunk.length = 1 ∨ chunk.length = 2) :
    filling limit chunks = fitting (limit + 2) chunks ↔ Snug limit chunks := by
  induction chunks generalizing limit with
  | nil => exact iff_of_true rfl (.inl (Nat.zero_le _))
  | cons chunk rest ih =>
    have size := small chunk List.mem_cons_self
    have sizes : ∀ chunk ∈ rest, chunk.length = 1 ∨ chunk.length = 2 :=
      fun other listed => small other (List.mem_cons_of_mem _ listed)
    rw [filling, fitting, if_pos (show chunk.length ≤ limit + 2 by omega)]
    by_cases short : chunk.length ≤ limit
    · rw [if_pos (by omega), snug_cons short, ← ih sizes, show limit + 2 - chunk.length = limit - chunk.length + 2 by omega,
        List.cons_inj_right]
    · by_cases empty : limit = 0
      · subst empty
        apply iff_of_false
        · simp
        · intro snug
          cases snug with
          | inl fits =>
            rw [List.flatten_cons, List.length_append] at fits
            omega
          | inr passed =>
            obtain ⟨front, double, back, split, before, rest⟩ := passed
            omega
      · obtain ⟨rfl, two⟩ : limit = 1 ∧ chunk.length = 2 := by omega
        rw [if_pos (by decide), List.cons_inj_right, two]
        cases rest with
        | nil => exact iff_of_true rfl (.inr ⟨[], chunk, [], rfl, rfl, two, fun _ none => by cases none⟩)
        | cons next later =>
          have nextSize := sizes next List.mem_cons_self
          rw [filling, if_neg (by decide), fitting]
          constructor
          · intro taken
            refine .inr ⟨[], chunk, next :: later, rfl, rfl, two, ?_⟩
            intro found first
            cases first
            by_contra single
            rw [if_pos (by omega)] at taken
            cases taken
          · intro snug
            cases snug with
            | inl fits =>
              rw [List.flatten_cons, List.length_append] at fits
              omega
            | inr passed =>
              obtain ⟨front, double, back, split, before, -, blocked⟩ := passed
              cases front with
              | nil =>
                obtain ⟨rfl, rfl⟩ := List.cons.inj split
                have blocked := blocked next rfl
                rw [if_neg (by omega)]
              | cons first front =>
                obtain ⟨rfl, -⟩ := List.cons.inj split
                rw [List.flatten_cons, List.length_append] at before
                omega

end Doubles

end BlackMagic.Lib
