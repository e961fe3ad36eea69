import Mathlib.Data.List.Basic
import Mathlib.Data.Nat.ModEq

/-! Rings: cells that are read and written in a circle. -/

namespace BlackMagic.Lib.Ring

variable {α : Type}

/-- The items of a ring from a place on. -/
def items (cell : Nat → α) (size tail count : Nat) : List α := (List.range count).map fun k => cell ((tail + k) % size)

/-- How many items there are between the reader and the writer. -/
def unread (size head tail : Nat) : Nat := (head + size - tail) % size

@[simp] theorem length_items (cell : Nat → α) (size tail count : Nat) : (items cell size tail count).length = count := by
  simp [items]

theorem items_add (cell : Nat → α) (size tail first second : Nat) :
    items cell size tail (first + second)
      = items cell size tail first ++ items cell size ((tail + first) % size) second := by
  simp only [items, List.range_add, List.map_append, List.map_map]
  congr 1
  apply List.map_congr_left
  intro k _
  simp [Nat.add_assoc]

theorem take_items (cell : Nat → α) (size tail : Nat) {count more : Nat} (enough : count ≤ more) :
    (items cell size tail more).take count = items cell size tail count := by
  obtain ⟨rest, rfl⟩ := Nat.exists_eq_add_of_le enough
  rw [items_add, List.take_left' (length_items _ _ _ _)]

/-- Items do not change with cells that they do not reach. -/
theorem items_congr {first second : Nat → α} {size tail count : Nat}
    (same : ∀ k < count, first ((tail + k) % size) = second ((tail + k) % size)) :
    items first size tail count = items second size tail count :=
  List.map_congr_left fun k inside => same k (List.mem_range.mp inside)

section Places

variable {size head tail : Nat}

theorem unread_lt (size head tail : Nat) (some : 0 < size) : unread size head tail < size := Nat.mod_lt _ some

/-- The distance from the reader to the writer, without and with a turn. -/
theorem unread_eq (headInside : head < size) (tailInside : tail < size) :
    unread size head tail = if tail ≤ head then head - tail else head + size - tail := by
  rw [unread]
  split
  next ahead => rw [show head + size - tail = head - tail + size by omega, Nat.add_mod_right, Nat.mod_eq_of_lt (by omega)]
  next behind => exact Nat.mod_eq_of_lt (by omega)

theorem place_eq (tailInside : tail < size) {k : Nat} (near : k < size) :
    (tail + k) % size = if tail + k < size then tail + k else tail + k - size := by
  split
  next before => exact Nat.mod_eq_of_lt before
  next after => rw [Nat.mod_eq_sub_mod (by omega), Nat.mod_eq_of_lt (by omega)]

/-- The writer is behind the unread items. -/
theorem place_unread (headInside : head < size) (tailInside : tail < size) :
    (tail + unread size head tail) % size = head := by
  have near := unread_lt size head tail (by omega)
  rw [place_eq tailInside near]
  rw [unread_eq headInside tailInside] at near ⊢
  split_ifs at near ⊢ <;> omega

theorem place_ne_head (headInside : head < size) (tailInside : tail < size) {k : Nat} (inside : k < unread size head tail) :
    (tail + k) % size ≠ head := by
  have near : k < size := Nat.lt_trans inside (unread_lt size head tail (by omega))
  rw [unread_eq headInside tailInside] at inside
  rw [place_eq tailInside near]
  split_ifs at inside ⊢ <;> omega

/-- An item more, if there is room. -/
theorem unread_succ (headInside : head < size) (tailInside : tail < size) (room : (head + 1) % size ≠ tail) :
    unread size ((head + 1) % size) tail = unread size head tail + 1 := by
  have next : (head + 1) % size = if head + 1 < size then head + 1 else 0 := by
    split
    next before => exact Nat.mod_eq_of_lt before
    next after => rw [show head + 1 = size by omega, Nat.mod_self]
  have inside : (head + 1) % size < size := Nat.mod_lt _ (by omega)
  rw [unread_eq inside tailInside, unread_eq headInside tailInside]
  rw [next] at room ⊢
  split_ifs at room ⊢ <;> omega

theorem place_inj {first second : Nat} (firstInside : first < size) (secondInside : second < size)
    (same : (tail + first) % size = (tail + second) % size) : first = second := by
  have cancelled : first ≡ second [MOD size] := Nat.ModEq.add_left_cancel' tail same
  rwa [Nat.ModEq, Nat.mod_eq_of_lt firstInside, Nat.mod_eq_of_lt secondInside] at cancelled

theorem unread_place (tailInside : tail < size) {count : Nat} (near : count < size) :
    unread size ((tail + count) % size) tail = count := by
  have landed : (tail + count) % size < size := Nat.mod_lt _ (by omega)
  have place := place_eq tailInside near
  rw [unread_eq landed tailInside]
  rw [place]
  split_ifs <;> omega

/-- A place behind the writer, counted from the reader. -/
theorem place_behind (headInside : head < size) (tailInside : tail < size) (count : Nat) :
    (head + count) % size = (tail + (unread size head tail + count)) % size :=
  calc (head + count) % size
      = ((tail + unread size head tail) % size + count) % size := by rw [place_unread headInside tailInside]
    _ = (tail + (unread size head tail + count)) % size := by rw [Nat.mod_add_mod, Nat.add_assoc]

/-- The writer moves over items that it has added. -/
theorem unread_add (headInside : head < size) (tailInside : tail < size) {count : Nat}
    (near : unread size head tail + count < size) :
    unread size ((head + count) % size) tail = unread size head tail + count := by
  rw [place_behind headInside tailInside, unread_place tailInside near]

/-- A place behind the writer is none of the unread ones. -/
theorem place_free (headInside : head < size) (tailInside : tail < size) {k count : Nat}
    (inside : k < unread size head tail) (near : unread size head tail + count < size) :
    (tail + k) % size ≠ (head + count) % size := by
  intro same
  have equal := place_inj (by omega) near (same.trans (place_behind headInside tailInside count))
  omega

/-- Reading some of the items moves the reader. -/
theorem unread_sub (headInside : head < size) (tailInside : tail < size) {count : Nat} (inside : count ≤ unread size head tail) :
    unread size head ((tail + count) % size) = unread size head tail - count := by
  have near : count < size := Nat.lt_of_le_of_lt inside (unread_lt size head tail (by omega))
  have place := place_eq tailInside near
  have landed : (tail + count) % size < size := Nat.mod_lt _ (by omega)
  rw [unread_eq headInside tailInside] at inside ⊢
  rw [unread_eq headInside landed, place]
  split_ifs at inside ⊢ <;> omega

end Places

end BlackMagic.Lib.Ring
