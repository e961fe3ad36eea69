import Mathlib.Data.List.TakeWhile

/-! Splitting a list into tokens the way `strtok_r` does: delimiters in front of a token are skipped, and the one behind it is
used up. Empty tokens do not occur, so there is at most one token more than delimiters. -/

namespace BlackMagic.Lib.Tokens

variable {α : Type} (delimiter : α → Bool)

/-- The next token and what is left behind it. -/
def next (left : List α) : Option (List α × List α) :=
  match left.dropWhile delimiter with
  | [] => none
  | first :: rest =>
    some (first :: rest.takeWhile (fun x => !delimiter x), (rest.dropWhile fun x => !delimiter x).drop 1)

/-- All tokens, at most `fuel` of them. -/
def tokens : Nat → List α → List (List α)
  | 0, _ => []
  | fuel + 1, left =>
    match next delimiter left with
    | none => []
    | some (part, left) => part :: tokens fuel left

variable {delimiter}

theorem filter_split_dropWhile (left : List α) :
    (left.splitOnP delimiter).filter (fun part => !part.isEmpty) =
      ((left.dropWhile delimiter).splitOnP delimiter).filter fun part => !part.isEmpty := by
  induction left with
  | nil => rfl
  | cons x rest ih =>
    rw [List.dropWhile_cons]
    split
    next skipped =>
      rw [List.splitOnP_cons_eq_if_modifyHead, if_pos skipped, ← ih]
      rfl
    next => rfl

/-- What stops a token is a delimiter. -/
private theorem stopped {left rest : List α} {x : α} (stop : left.dropWhile (fun x => !delimiter x) = x :: rest) :
    delimiter x = true := by
  have found := List.head?_dropWhile_not (fun x => !delimiter x) left
  rw [stop] at found
  simpa using found

theorem tokens_eq {fuel : Nat} {left : List α} (enough : left.length ≤ fuel) :
    tokens delimiter fuel left = (left.splitOnP delimiter).filter fun part => !part.isEmpty := by
  induction fuel generalizing left with
  | zero =>
    rw [List.length_eq_zero_iff.mp (Nat.le_zero.mp enough)]
    rfl
  | succ fuel ih =>
    rw [filter_split_dropWhile, tokens, next]
    have shorter := (List.dropWhile_sublist delimiter (l := left)).length_le
    have started := List.head?_dropWhile_not delimiter left
    cases begun : left.dropWhile delimiter with
    | nil => rfl
    | cons first rest =>
      rw [begun] at shorter started
      have ordinary : ∀ x ∈ first :: rest.takeWhile (fun x => !delimiter x), delimiter x = false := by
        intro x inside
        rcases List.mem_cons.mp inside with rfl | inside
        · simpa using started
        · simpa using List.mem_takeWhile_imp inside
      have whole := List.takeWhile_append_dropWhile (p := fun x => !delimiter x) (l := rest)
      have rests := (List.dropWhile_sublist (fun x => !delimiter x) (l := rest)).length_le
      simp only [List.length_cons] at shorter
      dsimp only
      rw [ih (by rw [List.length_drop]; omega)]
      cases behind : rest.dropWhile fun x => !delimiter x with
      | nil =>
        rw [behind, List.append_nil] at whole
        rw [whole] at ordinary ⊢
        rw [List.splitOnP_eq_singleton ordinary]
        rfl
      | cons stop more =>
        have cut : first :: rest = (first :: rest.takeWhile fun x => !delimiter x) ++ stop :: more := by
          rw [List.cons_append, ← behind, whole]
        rw [cut, List.splitOnP_append_cons_of_forall_mem ordinary stop (stopped behind)]
        rfl

end BlackMagic.Lib.Tokens
