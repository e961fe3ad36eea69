import BlackMagic.Proofs.RttDelivery
import BlackMagic.RttDown

/-! What the target gets through a down channel is what has been taken from the host, as long as no
write of the probe fails; and whatever fails, what is in the ring is not written over. -/

namespace BlackMagic.Proofs.RttDownDelivery
open Lib Lib.Program Lib.Ring RttDown
open Rtt (RttChannel RttRetval slotAddr)
open RttDelivery (Placed slotAddr_inj)

/-- The byte at a place of the ring. -/
def cell (down : Down) (index : Nat) : Byte := down.memory (slotAddr down.channel index)

/-- What the target has not read yet. -/
def pending (down : Down) : List Byte :=
  items (cell down) down.channel.bufSize down.channel.tail
    (unread down.channel.bufSize down.channel.head down.channel.tail)

/-- What the target has got: what it has read, and what it can read. -/
def history (down : Down) : List Byte := down.consumed ++ pending down

section Target

/-- What the target and the host can do on their own. -/
structure Passes (before after : Down) : Prop where
  placed : Placed after.channel
  bufAddr : after.channel.bufAddr = before.channel.bufAddr
  bufSize : after.channel.bufSize = before.channel.bufSize
  head : after.channel.head = before.channel.head
  history : history after = history before
  fewer : unread before.channel.bufSize before.channel.head after.channel.tail
    ≤ unread before.channel.bufSize before.channel.head before.channel.tail
  memory : after.memory = before.memory
  copy : after.rttChannel = before.rttChannel
  taken : after.taken = before.taken

theorem Passes.refl {down : Down} (placed : Placed down.channel) : Passes down down :=
  ⟨placed, rfl, rfl, rfl, rfl, Nat.le_refl _, rfl, rfl, rfl⟩

theorem Passes.trans {first second third : Down} (one : Passes first second) (two : Passes second third) :
    Passes first third := by
  have fewer := two.fewer
  rw [one.bufSize, one.head] at fewer
  exact ⟨two.placed, two.bufAddr.trans one.bufAddr, two.bufSize.trans one.bufSize, two.head.trans one.head,
    two.history.trans one.history, Nat.le_trans fewer one.fewer, two.memory.trans one.memory, two.copy.trans one.copy,
    two.taken.trans one.taken⟩

/-- A byte that the target reads is the first one that it has not read. -/
theorem consume_passes {down : Down} (placed : Placed down.channel) : Passes down (consume down) := by
  by_cases empty : down.channel.bufSize = 0 ∨ down.channel.head = down.channel.tail
  · have same : consume down = down := by
      simp only [consume]
      rw [if_pos empty]
    rw [same]
    exact .refl placed
  · have some : 0 < down.channel.bufSize := by omega
    have headInside := placed.head some
    have tailInside := placed.tail some
    have one : 1 ≤ unread down.channel.bufSize down.channel.head down.channel.tail := by
      rw [unread_eq headInside tailInside]
      split_ifs <;> omega
    have left := unread_sub headInside tailInside one
    have read : consume down =
        { down with
          channel := { down.channel with tail := (down.channel.tail + 1) % down.channel.bufSize }
          consumed := down.consumed ++ [down.memory (slotAddr down.channel down.channel.tail)] } := by
      simp only [consume]
      rw [if_neg empty]
    have first : pending down = down.memory (slotAddr down.channel down.channel.tail) :: pending (consume down) := by
      have split := Nat.add_sub_cancel' one
      calc pending down
          = items (cell down) down.channel.bufSize down.channel.tail
              (1 + (unread down.channel.bufSize down.channel.head down.channel.tail - 1)) := by rw [split, pending]
        _ = down.memory (slotAddr down.channel down.channel.tail) :: pending (consume down) := by
            rw [items_add, ← left, read]
            simp [items, pending, cell, slotAddr, Nat.mod_eq_of_lt tailInside]
    have kept : history (consume down) = history down := by
      have consumed : (consume down).consumed = down.consumed ++ [down.memory (slotAddr down.channel down.channel.tail)] := by
        rw [read]
      rw [history, history, first, consumed, List.append_assoc, List.singleton_append]
    have fewer : unread down.channel.bufSize down.channel.head ((down.channel.tail + 1) % down.channel.bufSize)
        ≤ unread down.channel.bufSize down.channel.head down.channel.tail := by
      rw [left]
      exact Nat.sub_le _ _
    rw [read] at kept ⊢
    exact ⟨⟨placed.fits, placed.head, fun _ => Nat.mod_lt _ some⟩, rfl, rfl, rfl, kept, fewer, rfl, rfl, rfl⟩

theorem pass_passes {down : Down} (placed : Placed down.channel) (interval : Interval) : Passes down (pass interval down) := by
  have consumed (reads : Nat) : Passes down (consume^[reads] down) := by
    induction reads with
    | zero => exact .refl placed
    | succ reads ih =>
      rw [Function.iterate_succ_apply']
      exact ih.trans (consume_passes ih.placed)
  have last := consumed interval.reads
  exact ⟨last.placed, last.bufAddr, last.bufSize, last.head, last.history, last.fewer, last.memory, last.copy, last.taken⟩

end Target

section Stores

/-- A poll that has copied the channel, stored some characters behind the head, and taken these and maybe one more
from the host. -/
structure Storing (old : Down) (stored extra : List Byte) (down : Down) : Prop where
  placed : Placed down.channel
  bufAddr : down.channel.bufAddr = old.channel.bufAddr
  bufSize : down.channel.bufSize = old.channel.bufSize
  head : down.channel.head = old.channel.head
  history : history down = history old
  fewer : unread old.channel.bufSize old.channel.head down.channel.tail
    ≤ unread old.channel.bufSize old.channel.head old.channel.tail
  copied : down.rttChannel = { old.channel with head := (old.channel.head + stored.length) % old.channel.bufSize }
  taken : down.taken = old.taken ++ stored ++ extra
  room : unread old.channel.bufSize old.channel.head old.channel.tail + stored.length < old.channel.bufSize
  cells : items (cell down) old.channel.bufSize old.channel.head stored.length = stored

variable {old down : Down} {stored extra : List Byte}

theorem Storing.passes (storing : Storing old stored extra down) {after : Down} (passes : Passes down after) :
    Storing old stored extra after := by
  have fewer := passes.fewer
  rw [storing.bufSize, storing.head] at fewer
  refine ⟨passes.placed, passes.bufAddr.trans storing.bufAddr, passes.bufSize.trans storing.bufSize,
    passes.head.trans storing.head, passes.history.trans storing.history, Nat.le_trans fewer storing.fewer,
    passes.copy.trans storing.copied, passes.taken.trans storing.taken, storing.room, ?_⟩
  have same : cell after = cell down := by
    funext index
    rw [cell, cell, passes.memory, slotAddr, slotAddr, passes.bufAddr]
  rw [same]
  exact storing.cells

theorem Storing.some (storing : Storing old stored extra down) : 0 < old.channel.bufSize :=
  Nat.zero_lt_of_lt storing.room

theorem Storing.headInside (storing : Storing old stored extra down) : old.channel.head < old.channel.bufSize := by
  have inside := storing.placed.head
  rw [storing.bufSize, storing.head] at inside
  exact inside storing.some

theorem Storing.tailInside (storing : Storing old stored extra down) : down.channel.tail < old.channel.bufSize := by
  have inside := storing.placed.tail
  rw [storing.bufSize] at inside
  exact inside storing.some

theorem Storing.slot (storing : Storing old stored extra down) :
    slotAddr down.rttChannel down.rttChannel.head
      = slotAddr old.channel ((old.channel.head + stored.length) % old.channel.bufSize) := by
  rw [storing.copied]
  rfl

/-- A store changes only the place behind the last one. -/
private theorem stored_cell (storing : Storing old stored extra down) (ch : Byte) {place : Nat}
    (inside : place < old.channel.bufSize) : (put ch down).memory (slotAddr old.channel place)
      = if place = (old.channel.head + stored.length) % old.channel.bufSize then ch
        else down.memory (slotAddr old.channel place) := by
  have fits := storing.placed.fits
  have landed : (old.channel.head + stored.length) % old.channel.bufSize < old.channel.bufSize := Nat.mod_lt _ storing.some
  rw [storing.bufSize] at fits
  simp only [put]
  rw [storing.slot]
  by_cases here : place = (old.channel.head + stored.length) % old.channel.bufSize
  · rw [if_pos (congrArg _ here), if_pos here]
  · rw [if_neg fun same => here (slotAddr_inj fits inside landed same), if_neg here]

theorem history_eq {before after : Down} (consumed : after.consumed = before.consumed) (same : pending after = pending before) :
    history after = history before := by
  rw [history, history, consumed, same]

theorem Storing.store (storing : Storing old stored [ch] down)
    (room : (old.channel.head + stored.length + 1) % old.channel.bufSize ≠ old.channel.tail)
    (tailInside : old.channel.tail < old.channel.bufSize) :
    Storing old (stored ++ [ch]) [] (put ch down) := by
  have some := storing.some
  have headInside := storing.headInside
  have currentInside := storing.tailInside
  have before := storing.room
  have fewer := storing.fewer
  have more : unread old.channel.bufSize old.channel.head old.channel.tail + (stored ++ [ch]).length < old.channel.bufSize := by
    rw [List.length_append, List.length_singleton]
    by_contra full
    apply room
    rw [Nat.add_assoc, place_behind headInside tailInside,
      show unread old.channel.bufSize old.channel.head old.channel.tail + (stored.length + 1) = old.channel.bufSize by omega,
      Nat.add_mod_right, Nat.mod_eq_of_lt tailInside]
  have address : ∀ place, slotAddr down.channel place = slotAddr old.channel place := by
    intro place
    rw [slotAddr, slotAddr, storing.bufAddr]
  have unchanged : pending (put ch down) = pending down := by
    apply items_congr
    intro k inside
    show (put ch down).memory (slotAddr down.channel ((down.channel.tail + k) % down.channel.bufSize))
      = down.memory (slotAddr down.channel ((down.channel.tail + k) % down.channel.bufSize))
    have inside : k < unread old.channel.bufSize old.channel.head down.channel.tail := by
      rw [← storing.bufSize, ← storing.head]
      exact inside
    have free := place_free headInside currentInside inside (show _ + stored.length < _ by omega)
    rw [address, storing.bufSize, stored_cell storing ch (Nat.mod_lt _ some), if_neg free]
  have kept : ∀ k < stored.length, cell (put ch down) ((old.channel.head + k) % old.channel.bufSize)
      = cell down ((old.channel.head + k) % old.channel.bufSize) := by
    intro k inside
    have different : (old.channel.head + k) % old.channel.bufSize
        ≠ (old.channel.head + stored.length) % old.channel.bufSize := by
      intro same
      exact absurd (place_inj (by omega) (by omega) same) (by omega)
    show (put ch down).memory (slotAddr down.channel _) = down.memory (slotAddr down.channel _)
    rw [address, stored_cell storing ch (Nat.mod_lt _ some), if_neg different]
  have last : cell (put ch down) ((old.channel.head + stored.length) % old.channel.bufSize) = ch := by
    show (put ch down).memory (slotAddr down.channel _) = ch
    rw [address, stored_cell storing ch (Nat.mod_lt _ some), if_pos rfl]
  refine ⟨storing.placed, storing.bufAddr, storing.bufSize, storing.head, ?_, storing.fewer, ?_, ?_, more, ?_⟩
  · exact (@history_eq down (put ch down) rfl unchanged).trans storing.history
  · simp only [put, storing.copied, List.length_append, List.length_singleton]
    rw [Nat.mod_add_mod, Nat.add_assoc]
  · show down.taken = _
    rw [storing.taken, List.append_nil, List.append_assoc]
  · rw [List.length_append, List.length_singleton, items_add, items_congr kept, storing.cells]
    congr 1
    simp only [items, List.range_one, List.map_cons, List.map_nil, Nat.add_zero, Nat.mod_mod]
    rw [last]

/-- Nothing has been given to the target; if no write fails, nothing has been taken from the host. -/
structure Halted (spared : Prop) (old down : Down) : Prop where
  placed : Placed down.channel
  bufSize : down.channel.bufSize = old.channel.bufSize
  history : history down = history old
  head : down.channel.head = old.channel.head
  untaken : spared → down.taken = old.taken

/-- All that has been taken from the host has been given to the target, and the head has moved over it. -/
structure Delivered (old down : Down) : Prop where
  placed : Placed down.channel
  bufSize : down.channel.bufSize = old.channel.bufSize
  given : ∃ stored, down.taken = old.taken ++ stored ∧ history down = history old ++ stored ∧
    down.channel.head = (old.channel.head + stored.length) % old.channel.bufSize

theorem Storing.halted (storing : Storing old stored extra down) {spared : Prop} (lost : spared → stored ++ extra = []) :
    Halted spared old down := by
  refine ⟨storing.placed, storing.bufSize, storing.history, storing.head, fun fine => ?_⟩
  rw [storing.taken, List.append_assoc, lost fine, List.append_nil]

/-- The head is written back. -/
theorem Storing.delivered (storing : Storing old stored [] down) :
    Delivered old { down with channel := { down.channel with head := down.rttChannel.head } } := by
  have headInside := storing.headInside
  have tailInside := storing.tailInside
  have room := storing.room
  have fewer := storing.fewer
  have written : { down.channel with head := down.rttChannel.head }
      = { down.channel with head := (old.channel.head + stored.length) % old.channel.bufSize } := by rw [storing.copied]
  rw [written]
  refine ⟨⟨storing.placed.fits, ?_, storing.placed.tail⟩, storing.bufSize, stored, ?_, ?_, rfl⟩
  · intro some
    show _ < down.channel.bufSize
    rw [storing.bufSize]
    exact Nat.mod_lt _ storing.some
  · show down.taken = _
    rw [storing.taken, List.append_nil]
  · have more : pending { down with
        channel := { down.channel with head := (old.channel.head + stored.length) % old.channel.bufSize } }
          = pending down ++ stored := by
      have counted := unread_add headInside tailInside (show _ + stored.length < _ by omega)
      have old_pending : pending down = items (cell down) old.channel.bufSize down.channel.tail
          (unread old.channel.bufSize old.channel.head down.channel.tail) := by
        rw [pending, storing.bufSize, storing.head]
      calc pending { down with
            channel := { down.channel with head := (old.channel.head + stored.length) % old.channel.bufSize } }
          = items (cell down) down.channel.bufSize down.channel.tail (unread down.channel.bufSize
              ((old.channel.head + stored.length) % old.channel.bufSize) down.channel.tail) := rfl
        _ = pending down ++ stored := by
            rw [storing.bufSize, counted, items_add, place_unread headInside tailInside, storing.cells, ← old_pending]
    rw [RttDownDelivery.history, more, ← storing.history, RttDownDelivery.history, List.append_assoc]

end Stores

section Polls

variable {old : Down} {spared : Prop}

/-- No write fails, but for the write of a head that has not moved. -/
structure Spared (intervals : Intervals) (down : Down) : Prop where
  characters : ∀ count, (intervals.characters count).fails = false
  head : intervals.head.fails = false ∨
    (down.channel.head + 1) % down.channel.bufSize =
      (pass intervals.table (pass intervals.header down)).channel.tail

private theorem meets_elapse_storing {stored extra : List Byte} (interval : Interval) {stopped : RttRetval → Down → Prop} :
    Meets (Storing old stored extra) (elapse interval) (fun _ => Storing old stored extra) stopped :=
  meets_change fun _ storing => storing.passes (pass_passes storing.placed interval)

theorem rttGetchar_meets {stored : List Byte} :
    Meets (Storing old stored []) rttGetchar
      (fun ch down => Storing old stored ch.toList down) (fun _ => Halted spared old) := by
  apply meets_reading
  intro down storing
  cases down.recvBuf with
  | nil =>
    apply meets_pure
    intro current same
    exact same ▸ storing
  | cons ch rest =>
    have takes : Meets (fun current => current = down)
        (change fun down => { down with recvBuf := rest, taken := down.taken ++ [ch] } : Action Unit)
        (fun _ => Storing old stored [ch]) (fun _ => Halted spared old) := by
      apply meets_change
      intro current same
      rw [same]
      refine ⟨storing.placed, storing.bufAddr, storing.bufSize, storing.head, storing.history, storing.fewer, storing.copied,
        ?_, storing.room, storing.cells⟩
      show down.taken ++ [ch] = _
      rw [storing.taken, List.append_nil]
    exact Meets.bind takes fun _ => meets_pure fun _ storing => storing

theorem storeCharacter_meets {interval : Interval} (fine : spared → interval.fails = false) {stored : List Byte} (ch : Byte)
    (room : (old.channel.head + stored.length + 1) % old.channel.bufSize ≠ old.channel.tail)
    (tailInside : old.channel.tail < old.channel.bufSize) :
    Meets (Storing old stored [ch]) (storeCharacter interval ch) (fun _ => Storing old (stored ++ [ch]) [])
      (fun _ => Halted spared old) := by
  apply Meets.bind (meets_elapse_storing interval)
  intro _
  apply meets_ite
  · intro failed
    apply meets_stop
    intro down storing
    apply storing.halted
    intro spare
    rw [fine spare] at failed
    cases failed
  · intro _
    exact meets_change fun down storing => storing.store room tailInside

theorem storeCharacters_meets {characters : Nat → Interval} (fine : spared → ∀ count, (characters count).fails = false)
    (tailInside : old.channel.tail < old.channel.bufSize) (passes count : Nat) (stored : List Byte) :
    Meets (Storing old stored []) (storeCharacters characters passes count)
      (fun _ down => ∃ more, Storing old more [] down) (fun _ => Halted spared old) := by
  induction passes generalizing count stored with
  | zero => exact meets_pure fun _ storing => ⟨stored, storing⟩
  | succ passes ih =>
    apply meets_reading
    intro down storing
    apply meets_ite
    · intro _
      apply meets_pure
      intro current same
      exact ⟨stored, same ▸ storing⟩
    · intro free
      have room : (old.channel.head + stored.length + 1) % old.channel.bufSize ≠ old.channel.tail := by
        intro full
        apply free
        rw [storing.copied]
        show old.channel.tail = ((old.channel.head + stored.length) % old.channel.bufSize + 1) % old.channel.bufSize
        rw [Nat.mod_add_mod, full]
      apply Meets.bind (rttGetchar_meets.known storing)
      intro got
      cases got with
      | none => exact meets_pure fun _ storing => ⟨stored, storing⟩
      | some ch =>
        apply Meets.bind (storeCharacter_meets (fun spare => fine spare count) ch room tailInside)
        exact fun _ => ih (count + 1) (stored ++ [ch])

/-- The loop ends before its passes are used up. -/
theorem storeCharacters_enough {characters : Nat → Interval} (tailInside : old.channel.tail < old.channel.bufSize)
    {passes count : Nat} {stored : List Byte} {down : Down} (storing : Storing old stored [] down)
    (enough : old.channel.bufSize ≤ unread old.channel.bufSize old.channel.head old.channel.tail + stored.length + passes)
    (more : Nat) : storeCharacters characters (more + passes) count down = storeCharacters characters passes count down := by
  induction passes generalizing count stored down with
  | zero => exact absurd storing.room (by omega)
  | succ passes ih =>
    have room_iff : down.rttChannel.tail = (down.rttChannel.head + 1) % down.rttChannel.bufSize ↔
        (old.channel.head + stored.length + 1) % old.channel.bufSize = old.channel.tail := by
      rw [storing.copied]
      show old.channel.tail = ((old.channel.head + stored.length) % old.channel.bufSize + 1) % old.channel.bufSize ↔ _
      rw [Nat.mod_add_mod, eq_comm]
    rw [← Nat.add_assoc, storeCharacters, storeCharacters, read_bind, read_bind]
    by_cases full : down.rttChannel.tail = (down.rttChannel.head + 1) % down.rttChannel.bufSize
    · rw [if_pos full, if_pos full]
    · rw [if_neg full, if_neg full]
      apply Meets.bind_eq (@rttGetchar_meets old False _) _ storing
      intro got current taken
      cases got with
      | none => rfl
      | some ch =>
        have room := fun wrapped => full (room_iff.mpr wrapped)
        apply Meets.bind_eq (@storeCharacter_meets old False _ False.elim _ ch room tailInside) _ taken
        intro _ next stores
        apply ih stores
        rw [List.length_append, List.length_singleton]
        omega

/-- Nothing is stored into a ring that was full when it was copied. -/
theorem Storing.full {stored extra : List Byte} {down : Down} (storing : Storing old stored extra down)
    (tailInside : old.channel.tail < old.channel.bufSize)
    (full : (old.channel.head + 1) % old.channel.bufSize = old.channel.tail) : stored = [] := by
  have room := storing.room
  have headInside := storing.headInside
  apply List.length_eq_zero_iff.mp
  rw [unread_eq headInside tailInside] at room
  by_cases last : old.channel.head + 1 < old.channel.bufSize
  · rw [Nat.mod_eq_of_lt last] at full
    rw [if_neg (by omega)] at room
    omega
  · rw [show old.channel.head + 1 = old.channel.bufSize by omega, Nat.mod_self] at full
    rw [if_pos (by omega)] at room
    omega

theorem writeHead_meets {interval : Interval} {stored : List Byte} (fine : spared → interval.fails = false ∨ stored = []) :
    Meets (Storing old stored []) (writeHead interval) (fun _ => Delivered old) (fun _ => Halted spared old) := by
  apply Meets.bind (meets_elapse_storing interval)
  intro _
  apply meets_ite
  · intro failed
    apply meets_stop
    intro down storing
    apply storing.halted
    intro spare
    rw [List.append_nil]
    exact (fine spare).resolve_left (by rw [failed]; exact Bool.noConfusion)
  · intro _
    exact meets_change fun down storing => storing.delivered

theorem Passes.halted {down after : Down} (passes : Passes down after) : Halted spared down after :=
  ⟨passes.placed, passes.bufSize, passes.history, passes.head, fun _ => passes.taken⟩

/-- A fresh copy of the channel. -/
def copied (down : Down) : Down := { down with rttChannel := down.channel }

theorem Passes.storing {down after : Down} (passes : Passes down after) (some : after.channel.bufSize ≠ 0) :
    Storing (copied after) [] [] (copied after) := by
  have headInside := passes.placed.head (Nat.pos_of_ne_zero some)
  refine ⟨passes.placed, rfl, rfl, rfl, rfl, Nat.le_refl _, ?_, ?_, ?_, rfl⟩
  · show after.channel = { after.channel with head := (after.channel.head + 0) % after.channel.bufSize }
    rw [Nat.add_zero, Nat.mod_eq_of_lt headInside]
  · show after.taken = after.taken ++ [] ++ []
    rw [List.append_nil, List.append_nil]
  · exact unread_lt _ _ _ (Nat.pos_of_ne_zero some)

theorem readRtt_meets (intervals : Intervals) {down after : Down} (passes : Passes down after)
    (characters : spared → ∀ count, (intervals.characters count).fails = false)
    (head : spared → intervals.head.fails = false ∨
      (after.channel.head + 1) % after.channel.bufSize = after.channel.tail) :
    Meets (fun current => current = copied after) (readRtt intervals) (fun _ => Delivered (copied after))
      (fun _ => Halted spared (copied after)) := by
  have unmoved : Halted spared (copied after) (copied after) := ⟨passes.placed, rfl, rfl, rfl, fun _ => rfl⟩
  have leave {after' : Down → Prop} (retval : RttRetval) :
      Meets (fun current => current = copied after) (stop retval : Action Unit) (fun _ => after')
        (fun _ => Halted spared (copied after)) := by
    apply meets_stop
    intro current same
    exact same ▸ unmoved
  apply meets_reading
  intro current same
  subst same
  apply Meets.bind (meets_onlyIf (fun _ => leave .idle) fun _ _ same => same)
  intro _
  have present : Meets (fun current => current = copied after)
      (onlyIf ((copied after).rttChannel.bufAddr = 0 ∨ (copied after).rttChannel.bufSize = 0) (stop RttRetval.idle))
      (fun _ current => after.channel.bufSize ≠ 0 ∧ current = copied after) (fun _ => Halted spared (copied after)) := by
    apply meets_onlyIf
    · exact fun _ => leave .idle
    · exact fun some current same => ⟨fun none => some (.inr none), same⟩
  apply Meets.bind present
  intro _
  apply meets_given
  intro some
  have storing := passes.storing some
  have tailInside : (copied after).channel.tail < (copied after).channel.bufSize :=
    passes.placed.tail (Nat.pos_of_ne_zero some)
  apply Meets.bind (meets_onlyIf (fun _ => leave .err) fun _ _ same => same)
  intro _
  apply Meets.bind ((storeCharacters_meets characters tailInside _ 0 []).known storing)
  intro _ current stores
  obtain ⟨stored, storing⟩ := stores
  apply writeHead_meets _ _ storing
  intro spare
  exact (head spare).imp_right (storing.full tailInside)

theorem Delivered.after {down after final : Down} (delivered : Delivered (copied after) final) (passes : Passes down after) :
    Delivered down final := by
  obtain ⟨stored, taken, history, head⟩ := delivered.given
  refine ⟨delivered.placed, delivered.bufSize.trans passes.bufSize, stored, ?_, ?_, ?_⟩
  · exact taken.trans (congrArg (· ++ stored) passes.taken)
  · exact history.trans (congrArg (· ++ stored) passes.history)
  · rw [head]
    show (after.channel.head + stored.length) % after.channel.bufSize = _
    rw [passes.head, passes.bufSize]

theorem Halted.after {down after final : Down} (halted : Halted spared (copied after) final) (passes : Passes down after) :
    Halted spared down final :=
  ⟨halted.placed, halted.bufSize.trans passes.bufSize, halted.history.trans passes.history, halted.head.trans passes.head,
    fun spare => (halted.untaken spare).trans passes.taken⟩

theorem pollRtt_meets (intervals : Intervals) {down : Down} (placed : Placed down.channel) :
    Meets (fun current => current = down) (pollRtt intervals) (fun _ => Delivered down)
      (fun _ => Halted (Spared intervals down) down) := by
  have first := pass_passes placed intervals.header
  have both := first.trans (pass_passes first.placed intervals.table)
  have waits (interval : Interval) (before : Down) :
      Meets (fun current => current = before) (elapse interval : Action Unit)
        (fun _ current => current = pass interval before)
        (fun _ => Halted (Spared intervals down) down) :=
    meets_change fun current same => congrArg (pass interval) same
  have checks {before : Down} (passes : Passes down before) (fails : Bool) (retval : RttRetval) :
      Meets (fun current => current = before) (onlyIf fails (stop retval)) (fun _ current => current = before)
        (fun _ => Halted (Spared intervals down) down) := by
    apply meets_onlyIf
    · intro _
      apply meets_stop
      intro current same
      exact same ▸ passes.halted
    · exact fun _ _ same => same
  apply Meets.bind (waits intervals.header down)
  intro _
  apply Meets.bind (checks first intervals.header.fails .idle)
  intro _
  apply Meets.bind (waits intervals.table _)
  intro _
  apply Meets.bind (checks both intervals.table.fails .err)
  intro _
  have copies : Meets (fun current => current = pass intervals.table (pass intervals.header down))
      (change fun down => { down with rttChannel := down.channel } : Action Unit)
      (fun _ current => current = copied (pass intervals.table (pass intervals.header down)))
      (fun _ => Halted (Spared intervals down) down) :=
    meets_change fun current same => congrArg copied same
  apply Meets.bind copies
  intro _
  have polled := @readRtt_meets (Spared intervals down) intervals _ _ both (fun spare => spare.characters) (fun spare => by
    rw [both.head, both.bufSize]
    exact spare.head)
  exact polled.weaken (fun _ same => same) (fun _ _ delivered => delivered.after both) fun _ _ halted => halted.after both

end Polls

section Runs

/-- Nothing that the target has got changes, and the ring stays where it is. -/
structure Grows (before after : Down) : Prop where
  placed : Placed after.channel
  bufSize : after.channel.bufSize = before.channel.bufSize
  history : history before <+: history after

theorem Delivered.grows {before after : Down} (delivered : Delivered before after) : Grows before after := by
  obtain ⟨stored, -, history, -⟩ := delivered.given
  exact ⟨delivered.placed, delivered.bufSize, stored, history.symm⟩

theorem Halted.grows {spared : Prop} {before after : Down} (halted : Halted spared before after) : Grows before after :=
  ⟨halted.placed, halted.bufSize, halted.history ▸ List.prefix_refl _⟩

theorem Halted.delivered {spared : Prop} {before after : Down} (halted : Halted spared before after) (spare : spared)
    (inside : before.channel.head % before.channel.bufSize = before.channel.head) : Delivered before after := by
  refine ⟨halted.placed, halted.bufSize, [], ?_, ?_, ?_⟩
  · rw [halted.untaken spare, List.append_nil]
  · rw [halted.history, List.append_nil]
  · rw [halted.head, List.length_nil, Nat.add_zero, inside]

theorem head_mod {channel : RttChannel} (placed : Placed channel) : channel.head % channel.bufSize = channel.head := by
  cases Nat.eq_zero_or_pos channel.bufSize with
  | inl none => rw [none, Nat.mod_zero]
  | inr some => exact Nat.mod_eq_of_lt (placed.head some)

/-- Whether a step is one of those where no write fails. -/
def StepSpared (down : Down) : Event → Prop
  | .poll intervals => Spared intervals down
  | _ => True

theorem step_spec {down : Down} (placed : Placed down.channel) (event : Event) :
    Grows down (step down event) ∧ (StepSpared down event → Delivered down (step down event)) := by
  have still {after : Down} (halted : Halted (StepSpared down event) down after) :
      Grows down after ∧ (StepSpared down event → Delivered down after) :=
    ⟨halted.grows, fun spare => halted.delivered spare (head_mod placed)⟩
  cases event with
  | consume => exact still (consume_passes placed).halted
  | type ch => exact still ⟨placed, rfl, rfl, rfl, fun _ => rfl⟩
  | poll intervals =>
    have met := pollRtt_meets intervals placed down rfl
    rw [step]
    revert met
    cases pollRtt intervals down with
    | mk ending final =>
      cases ending with
      | ok value => exact fun delivered => ⟨delivered.grows, fun _ => delivered⟩
      | error retval => exact still

theorem Delivered.trans {first second third : Down} (one : Delivered first second) (two : Delivered second third) :
    Delivered first third := by
  obtain ⟨stored, taken, history, head⟩ := one.given
  obtain ⟨more, taken', history', head'⟩ := two.given
  refine ⟨two.placed, two.bufSize.trans one.bufSize, stored ++ more, ?_, ?_, ?_⟩
  · rw [taken', taken, List.append_assoc]
  · rw [history', history, List.append_assoc]
  · rw [head', head, one.bufSize, Nat.mod_add_mod, List.length_append, Nat.add_assoc]

/-- Every step of a run is one of those where no write fails. -/
def RunSpared : Down → List Event → Prop
  | _, [] => True
  | down, event :: rest => StepSpared down event ∧ RunSpared (step down event) rest

/-- In every run what the target has got stays what it is, and if no write of the probe fails, what comes
to it is just what has been taken from the host. -/
theorem down_channel_delivers (start : Down) (placed : Placed start.channel) (events : List Event) :
    history start <+: history (events.foldl step start) ∧
      (RunSpared start events → ∃ stored, (events.foldl step start).taken = start.taken ++ stored ∧
        history (events.foldl step start) = history start ++ stored ∧
        (events.foldl step start).channel.head = (start.channel.head + stored.length) % start.channel.bufSize) := by
  have run : Grows start (events.foldl step start) ∧ (RunSpared start events → Delivered start (events.foldl step start)) := by
    induction events generalizing start with
    | nil =>
      have none : Halted True start start := ⟨placed, rfl, rfl, rfl, fun _ => rfl⟩
      exact ⟨none.grows, fun _ => none.delivered trivial (head_mod placed)⟩
    | cons event rest ih =>
      obtain ⟨grows, delivers⟩ := step_spec placed event
      obtain ⟨more, later⟩ := ih (step start event) grows.placed
      exact ⟨⟨more.placed, more.bufSize.trans grows.bufSize, grows.history.trans more.history⟩,
        fun spared => (delivers spared.1).trans (later spared.2)⟩
  exact ⟨run.1.history, fun spared => (run.2 spared).given⟩

/-- A ring of four places, with nothing in it. -/
def emptyRing : Down := ⟨fun _ => 0#8, ⟨0x20000000, 4, 0, 0⟩, [], ⟨0, 0, 0, 0⟩, [], []⟩

theorem emptyRing_placed : Placed emptyRing.channel := ⟨by decide, fun _ => by decide, fun _ => by decide⟩

def calm : Interval := ⟨0, [], false⟩

theorem empty_ring_delivers :
    history emptyRing <+: history ([.type 0x61#8, .poll ⟨calm, calm, fun _ => calm, calm⟩, .consume].foldl step emptyRing) ∧
      (RunSpared emptyRing [.type 0x61#8, .poll ⟨calm, calm, fun _ => calm, calm⟩, .consume] → ∃ stored,
        ([.type 0x61#8, .poll ⟨calm, calm, fun _ => calm, calm⟩, .consume].foldl step emptyRing).taken
          = emptyRing.taken ++ stored ∧
        history ([.type 0x61#8, .poll ⟨calm, calm, fun _ => calm, calm⟩, .consume].foldl step emptyRing)
          = history emptyRing ++ stored ∧
        ([.type 0x61#8, .poll ⟨calm, calm, fun _ => calm, calm⟩, .consume].foldl step emptyRing).channel.head
          = (emptyRing.channel.head + stored.length) % emptyRing.channel.bufSize) :=
  down_channel_delivers emptyRing emptyRing_placed [.type 0x61#8, .poll ⟨calm, calm, fun _ => calm, calm⟩, .consume]

/-- A character whose write fails is gone. -/
theorem failed_write_loses :
    ¬ ∃ stored,
      ([.type 0x61#8, .poll ⟨calm, calm, fun _ => ⟨0, [], true⟩, calm⟩].foldl step emptyRing).taken
        = emptyRing.taken ++ stored ∧
      history ([.type 0x61#8, .poll ⟨calm, calm, fun _ => ⟨0, [], true⟩, calm⟩].foldl step emptyRing)
        = history emptyRing ++ stored ∧
      ([.type 0x61#8, .poll ⟨calm, calm, fun _ => ⟨0, [], true⟩, calm⟩].foldl step emptyRing).channel.head
        = (emptyRing.channel.head + stored.length) % emptyRing.channel.bufSize := by
  have taken : ([.type 0x61#8, .poll ⟨calm, calm, fun _ => ⟨0, [], true⟩, calm⟩].foldl step emptyRing).taken = [0x61#8] := by
    decide
  have got : history ([.type 0x61#8, .poll ⟨calm, calm, fun _ => ⟨0, [], true⟩, calm⟩].foldl step emptyRing) = [] := by
    decide
  intro delivered
  obtain ⟨stored, all, given, -⟩ := delivered
  rw [taken] at all
  rw [got] at given
  have same : stored = [0x61#8] := all.symm
  have none : stored = [] := given.symm
  rw [same] at none
  cases none

end Runs

end BlackMagic.Proofs.RttDownDelivery
