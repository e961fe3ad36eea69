import BlackMagic.Rtt
import BlackMagic.Lib.Ring

/-! What the probe has passed on is always the beginning of what the target has produced, whatever the target writes
between the accesses and whichever of them fail. -/

namespace BlackMagic.Proofs.RttDelivery
open Lib Lib.Program Lib.Ring Rtt

/-- The byte at a place of the ring. -/
def cell (link : Link) (index : Nat) : Byte := link.memory (slotAddr link.channel index)

/-- What the target has produced and the probe has not taken. -/
def pending (link : Link) : List Byte :=
  items (cell link) link.channel.bufSize link.channel.tail
    (unread link.channel.bufSize link.channel.head link.channel.tail)

/-- A ring whose places lie inside. -/
structure Placed (channel : RttChannel) : Prop where
  fits : channel.bufSize < 2 ^ 32
  head : 0 < channel.bufSize → channel.head < channel.bufSize
  tail : 0 < channel.bufSize → channel.tail < channel.bufSize

/-- Every byte has been passed on or is still in the ring. -/
structure Sound (link : Link) : Prop where
  placed : Placed link.channel
  delivered : link.produced = link.written ++ pending link

/-- A channel in which the target may have produced something, and of which the probe has passed on nothing. -/
structure Fresh (link : Link) : Prop where
  placed : Placed link.channel
  unsent : link.written = []
  unread : link.produced = pending link

theorem Fresh.sound {link : Link} (fresh : Fresh link) : Sound link :=
  ⟨fresh.placed, by rw [fresh.unsent, fresh.unread, List.nil_append]⟩

section Target

/-- What the target can do on its own: it adds to what is pending. -/
structure Grows (before after : Link) : Prop where
  bufAddr : after.channel.bufAddr = before.channel.bufAddr
  bufSize : after.channel.bufSize = before.channel.bufSize
  tail : after.channel.tail = before.channel.tail
  copy : after.rttChannel = before.rttChannel
  buffer : after.xmitBuf = before.xmitBuf
  written : after.written = before.written
  more : pending before <+: pending after

theorem Grows.refl (link : Link) : Grows link link := ⟨rfl, rfl, rfl, rfl, rfl, rfl, List.prefix_refl _⟩

theorem Grows.trans {first second third : Link} (one : Grows first second) (two : Grows second third) : Grows first third :=
  ⟨two.bufAddr.trans one.bufAddr, two.bufSize.trans one.bufSize, two.tail.trans one.tail, two.copy.trans one.copy,
    two.buffer.trans one.buffer, two.written.trans one.written, one.more.trans two.more⟩

/-- Different places of a ring have different addresses. -/
theorem slotAddr_inj {channel : RttChannel} (fits : channel.bufSize < 2 ^ 32) {first second : Nat}
    (firstInside : first < channel.bufSize) (secondInside : second < channel.bufSize)
    (same : slotAddr channel first = slotAddr channel second) : first = second := by
  simp only [slotAddr] at same
  omega

/-- A byte that is written comes behind those that are pending. -/
private theorem pending_produce {link : Link} (placed : Placed link.channel) (byte : Byte) (some : 0 < link.channel.bufSize)
    (room : (link.channel.head + 1) % link.channel.bufSize ≠ link.channel.tail) :
    pending (produce link byte) = pending link ++ [byte] := by
  have headInside := placed.head some
  have tailInside := placed.tail some
  have stored : produce link byte =
      { link with
        memory := fun addr => if addr = slotAddr link.channel link.channel.head then byte else link.memory addr
        channel := { link.channel with head := (link.channel.head + 1) % link.channel.bufSize }
        produced := link.produced ++ [byte] } := by
    simp only [produce]
    rw [if_neg (by omega)]
  have kept (k : Nat) (inside : k < unread link.channel.bufSize link.channel.head link.channel.tail) :
      cell (produce link byte) ((link.channel.tail + k) % link.channel.bufSize)
        = cell link ((link.channel.tail + k) % link.channel.bufSize) := by
    have different := place_ne_head headInside tailInside inside
    rw [stored]
    simp only [cell]
    rw [if_neg]
    · rfl
    · exact fun same => different (slotAddr_inj placed.fits (Nat.mod_lt _ some) headInside same)
  have added : cell (produce link byte) link.channel.head = byte := by
    rw [stored]
    exact if_pos rfl
  have counted := unread_succ headInside tailInside room
  calc pending (produce link byte)
      = items (cell (produce link byte)) link.channel.bufSize link.channel.tail
          (unread link.channel.bufSize link.channel.head link.channel.tail + 1) := by
        rw [← counted, pending, stored]
    _ = pending link ++ [byte] := by
        rw [items_add, items_congr kept, place_unread headInside tailInside]
        simp [items, pending, Nat.mod_eq_of_lt headInside, added]

theorem produce_grows {link : Link} (sound : Sound link) (byte : Byte) :
    Grows link (produce link byte) ∧ Sound (produce link byte) := by
  by_cases full : link.channel.bufSize = 0 ∨ (link.channel.head + 1) % link.channel.bufSize = link.channel.tail
  · have same : produce link byte = link := by
      simp only [produce]
      rw [if_pos full]
    rw [same]
    exact ⟨Grows.refl link, sound⟩
  · have some : 0 < link.channel.bufSize := by omega
    have longer := pending_produce sound.placed byte some (by omega)
    have stored : produce link byte =
        { link with
          memory := (produce link byte).memory
          channel := { link.channel with head := (link.channel.head + 1) % link.channel.bufSize }
          produced := link.produced ++ [byte] } := by
      simp only [produce]
      rw [if_neg full]
    have produced : (produce link byte).produced = link.produced ++ [byte] := by rw [stored]
    have written : (produce link byte).written = link.written := by rw [stored]
    have placed : Placed (produce link byte).channel := by
      rw [stored]
      exact ⟨sound.placed.fits, fun _ => Nat.mod_lt _ some, sound.placed.tail⟩
    constructor
    · exact ⟨by rw [stored], by rw [stored], by rw [stored], by rw [stored], by rw [stored], written, [byte], longer.symm⟩
    · exact ⟨placed, by rw [produced, written, longer, sound.delivered, List.append_assoc]⟩

theorem produced_grows {link : Link} (sound : Sound link) (bytes : List Byte) :
    Grows link (bytes.foldl produce link) ∧ Sound (bytes.foldl produce link) := by
  induction bytes generalizing link with
  | nil => exact ⟨Grows.refl link, sound⟩
  | cons byte rest ih =>
    obtain ⟨first, between⟩ := produce_grows sound byte
    obtain ⟨more, last⟩ := ih between
    exact ⟨first.trans more, last⟩

end Target

section Probe

/-- A poll that has passed on nothing so far: the target's tail is where it was. -/
structure Quiet (old link : Link) : Prop where
  sound : Sound link
  bufAddr : link.channel.bufAddr = old.channel.bufAddr
  bufSize : link.channel.bufSize = old.channel.bufSize
  tail : link.channel.tail = old.channel.tail
  written : link.written = old.written

/-- A poll that has seen the head there and has the first pending bytes. -/
structure Reading (old : Link) (head count : Nat) (link : Link) : Prop extends Quiet old link where
  copied : link.rttChannel = { old.channel with head := head, tail := (old.channel.tail + count) % old.channel.bufSize }
  inside : head < old.channel.bufSize
  within : count ≤ unread old.channel.bufSize head old.channel.tail
  seen : unread old.channel.bufSize head old.channel.tail ≤ (pending link).length
  got : link.xmitBuf.take count = (pending link).take count

theorem Quiet.grows {old link after : Link} (quiet : Quiet old link) (grown : Grows link after ∧ Sound after) :
    Quiet old after :=
  ⟨grown.2, grown.1.bufAddr.trans quiet.bufAddr, grown.1.bufSize.trans quiet.bufSize, grown.1.tail.trans quiet.tail,
    grown.1.written.trans quiet.written⟩

variable {old : Link} {head count : Nat}

theorem Reading.enough {link : Link} (reading : Reading old head count link) : count ≤ (pending link).length :=
  Nat.le_trans reading.within reading.seen

theorem Reading.grows {link after : Link} (reading : Reading old head count link) (grown : Grows link after ∧ Sound after) :
    Reading old head count after := by
  obtain ⟨added, longer⟩ := grown.1.more
  refine ⟨reading.toQuiet.grows grown, ?_, reading.inside, reading.within, ?_, ?_⟩
  · rw [grown.1.copy, reading.copied]
  · rw [← longer, List.length_append]
    exact Nat.le_trans reading.seen (Nat.le_add_right _ _)
  · rw [grown.1.buffer, reading.got, ← longer, List.take_append_of_le_length reading.enough]

/-- The buffer may change behind what has been read. -/
theorem Reading.buffered {link : Link} (reading : Reading old head count link) {buffer : Buffer}
    (same : ∀ i < count, buffer i = link.xmitBuf i) : Reading old head count { link with xmitBuf := buffer } := by
  have kept : buffer.take count = link.xmitBuf.take count :=
    List.map_congr_left fun i inside => same i (List.mem_range.mp inside)
  exact ⟨⟨⟨reading.sound.placed, reading.sound.delivered⟩, reading.bufAddr, reading.bufSize, reading.tail, reading.written⟩,
    reading.copied, reading.inside, reading.within, reading.seen, kept.trans reading.got⟩

/-- The buffer holds what is in memory from there on. -/
def Loaded (dest src len : Nat) (link : Link) : Prop :=
  ∀ i < len, link.xmitBuf (dest + i) = link.memory ((src + i) % 2 ^ 32)

variable {stopped : RttRetval → Link → Prop}

theorem meets_elapse {assertion : Link → Prop} (moment : Moment)
    (kept : ∀ link after, assertion link → Grows link after ∧ Sound after → assertion after)
    (sound : ∀ link, assertion link → Sound link) :
    Meets assertion (elapse moment) (fun _ => assertion) stopped :=
  meets_change fun link holds => kept link _ holds (produced_grows (sound link holds) moment.bytes)

private theorem meets_elapse_reading (moment : Moment) :
    Meets (Reading old head count) (elapse moment) (fun _ => Reading old head count) stopped :=
  meets_elapse moment (fun _ _ reading grown => reading.grows grown) fun _ reading => reading.sound

theorem targetMemRead_meets (moment : Moment) (src len : Nat) :
    Meets (Reading old head count) (targetMemRead moment count src len)
      (fun failed link => Reading old head count link ∧ (failed = false → Loaded count src len link)) stopped := by
  apply Meets.bind (meets_elapse_reading moment)
  intro _
  have transferred : Meets (Reading old head count)
      (onlyIf (moment.fails = false) (change fun link => { link with
        xmitBuf := fun i =>
          if count ≤ i ∧ i < count + len then link.memory ((src + (i - count)) % 2 ^ 32) else link.xmitBuf i }))
      (fun _ link => Reading old head count link ∧ (moment.fails = false → Loaded count src len link)) stopped := by
    apply meets_onlyIf
    · intro _
      apply meets_change
      intro link reading
      constructor
      · apply reading.buffered
        intro i inside
        exact if_neg (by omega)
      · intro _ i inside
        show ite _ _ _ = _
        rw [if_pos (by omega), Nat.add_sub_cancel_left]
    · intro failed link reading
      exact ⟨reading, fun fine => absurd fine failed⟩
  apply Meets.bind transferred
  exact fun _ => meets_pure fun _ holds => holds

/-- The bytes are moved to where they belong. -/
theorem memmove_meets (src len : Nat) {offset more : Nat} (enough : offset + len ≤ more) (failed : Bool) :
    Meets (fun link => Reading old head count link ∧ (failed = false → Loaded count src more link))
      (memmove count (count + offset) len)
      (fun _ link => Reading old head count link ∧ (failed = false → Loaded count (src + offset) len link)) stopped := by
  apply meets_change
  intro link holds
  constructor
  · apply holds.1.buffered
    intro i inside
    exact if_neg (by omega)
  · intro fine i inside
    show ite _ _ _ = _
    rw [if_pos (by omega), Nat.add_sub_cancel_left, Nat.add_assoc count, holds.2 fine _ (by omega), Nat.add_assoc]

theorem le_alignedLength (len : Nat) : len ≤ alignedLength len := by
  rw [alignedLength]
  split <;> omega

/-- The eight bytes kept free are enough for the words that a read is widened to. -/
theorem widened_read_inside {bytesRead len : Nat} (src : Nat) (fits : bytesRead + len ≤ rttUpBufSize - 8) :
    bytesRead + alignedLength (len + src % 4) ≤ rttUpBufSize := by
  simp only [alignedLength, rttUpBufSize] at fits ⊢
  split <;> omega

theorem rttAlignedMemRead_meets (moment : Moment) (src len : Nat) :
    Meets (Reading old head count) (rttAlignedMemRead moment count src len)
      (fun failed link => Reading old head count link ∧ (failed = false → Loaded count src len link)) stopped := by
  apply meets_ite
  · exact fun _ => targetMemRead_meets moment src len
  · intro _
    apply Meets.bind (targetMemRead_meets moment (src - src % 4) (alignedLength (len + src % 4)))
    intro failed
    have enough := le_alignedLength (len + src % 4)
    apply Meets.bind (memmove_meets (src - src % 4) len (by omega) failed)
    intro _
    apply meets_pure
    rw [Nat.sub_add_cancel (Nat.mod_le src 4)]
    exact fun _ holds => holds

/-- A piece of the ring that has been loaded comes to what has been read. -/
theorem Reading.add {link : Link} {len : Nat} (reading : Reading old head count link)
    (loaded : Loaded count ((old.channel.bufAddr + (old.channel.tail + count) % old.channel.bufSize) % 2 ^ 32) len link)
    (straight : (old.channel.tail + count) % old.channel.bufSize + len ≤ old.channel.bufSize)
    (further : count + len ≤ unread old.channel.bufSize head old.channel.tail) :
    Reading old head (count + len)
      { link with
        rttChannel := { link.rttChannel with tail := (link.rttChannel.tail + len) % link.rttChannel.bufSize } } := by
  have pended : ∀ more ≤ (pending link).length,
      (pending link).take more = items (cell link) old.channel.bufSize old.channel.tail more := by
    intro more inside
    simp only [pending, length_items, reading.bufSize, reading.tail] at inside ⊢
    exact take_items _ _ _ inside
  have piece : (List.range len).map (fun i => link.xmitBuf (count + i))
      = items (cell link) old.channel.bufSize ((old.channel.tail + count) % old.channel.bufSize) len := by
    apply List.map_congr_left
    intro i inside
    have before := List.mem_range.mp inside
    have noTurn : ((old.channel.tail + count) % old.channel.bufSize + i) % old.channel.bufSize
        = (old.channel.tail + count) % old.channel.bufSize + i := Nat.mod_eq_of_lt (by omega)
    rw [loaded i before, noTurn, cell, slotAddr, reading.bufAddr, Nat.mod_add_mod, Nat.add_assoc]
  refine ⟨⟨⟨reading.sound.placed, reading.sound.delivered⟩, reading.bufAddr, reading.bufSize, reading.tail, reading.written⟩,
    ?_, reading.inside, further, reading.seen, ?_⟩
  · simp [reading.copied, Nat.add_assoc]
  · calc link.xmitBuf.take (count + len)
        = link.xmitBuf.take count ++ (List.range len).map (fun i => link.xmitBuf (count + i)) := by
          simp [Buffer.take, List.range_add, Function.comp_def]
      _ = (pending link).take (count + len) := by
          rw [reading.got, piece, pended count reading.enough, pended _ (Nat.le_trans further reading.seen), items_add]

/-- A poll ends early without having moved anything. -/
def Halted (old : Link) (_ : RttRetval) (link : Link) : Prop := Quiet old link

theorem readPiece_meets (moment : Moment) {len : Nat}
    (straight : (old.channel.tail + count) % old.channel.bufSize + len ≤ old.channel.bufSize)
    (further : count + len ≤ unread old.channel.bufSize head old.channel.tail) :
    Meets (Reading old head count) (readPiece moment count len) (fun _ => Reading old head (count + len)) (Halted old) := by
  apply meets_reading
  intro link reading
  rw [reading.copied]
  apply Meets.bind ((rttAlignedMemRead_meets moment _ len).known reading)
  intro failed
  apply meets_ite
  · intro _
    apply meets_stop
    exact fun _ holds => holds.1.toQuiet
  · intro fine
    apply meets_change
    intro link holds
    exact holds.1.add (holds.2 (by simpa using fine)) straight further

theorem Quiet.tailInside {link : Link} (quiet : Quiet old link) (some : 0 < old.channel.bufSize) :
    old.channel.tail < old.channel.bufSize := by
  have inside := quiet.sound.placed.tail
  rw [quiet.bufSize, quiet.tail] at inside
  exact inside some

theorem readWrapped_meets (moment : Moment) (bytesFree : Nat) :
    Meets (Reading old head 0) (readWrapped moment bytesFree) (fun count => Reading old head count) (Halted old) := by
  apply meets_reading
  intro link reading
  have some : 0 < old.channel.bufSize := Nat.zero_lt_of_lt reading.inside
  have tailInside := reading.tailInside some
  have ahead := unread_eq reading.inside tailInside
  rw [reading.copied, Nat.add_zero, Nat.mod_eq_of_lt tailInside]
  apply meets_ite
  · intro turned
    have behind : ¬ old.channel.tail ≤ head := Nat.not_le.mpr turned
    have piece : Meets (Reading old head 0) (readPiece moment 0 (min (old.channel.bufSize - old.channel.tail) bytesFree))
        (fun _ => Reading old head (0 + min (old.channel.bufSize - old.channel.tail) bytesFree)) (Halted old) := by
      apply readPiece_meets
      · rw [Nat.add_zero, Nat.mod_eq_of_lt tailInside]
        omega
      · rw [ahead, if_neg behind]
        omega
    apply Meets.bind (piece.known reading)
    intro _
    apply meets_pure
    rw [Nat.zero_add]
    exact fun _ holds => holds
  · intro _
    apply meets_pure
    rintro _ rfl
    exact reading

theorem readStraight_meets (moment : Moment) (bytesFree : Nat) :
    Meets (Reading old head count) (readStraight moment count bytesFree) (fun more => Reading old head more) (Halted old) := by
  apply meets_reading
  intro link reading
  have some : 0 < old.channel.bufSize := Nat.zero_lt_of_lt reading.inside
  have tailInside := reading.tailInside some
  have landed : (old.channel.tail + count) % old.channel.bufSize < old.channel.bufSize := Nat.mod_lt _ some
  have left := unread_sub reading.inside tailInside reading.within
  rw [unread_eq reading.inside landed] at left
  have within := reading.within
  have inside := reading.inside
  rw [reading.copied]
  apply meets_ite
  · intro straight
    have before : (old.channel.tail + count) % old.channel.bufSize < head := straight.1
    rw [if_pos (Nat.le_of_lt before)] at left
    have piece : ∀ len ≤ head - (old.channel.tail + count) % old.channel.bufSize,
        Meets (Reading old head count) (readPiece moment count len) (fun _ => Reading old head (count + len)) (Halted old) := by
      intro len short
      apply readPiece_meets
      · omega
      · omega
    apply Meets.bind ((piece _ (Nat.min_le_left _ _)).known reading)
    exact fun _ => meets_pure fun _ holds => holds
  · intro _
    apply meets_pure
    rintro _ rfl
    exact reading

/-- A poll that has passed bytes on and moved the target's tail over them. -/
structure Moved (old link : Link) : Prop where
  sound : Sound link
  bufSize : link.channel.bufSize = old.channel.bufSize
  forwarded : ∃ bytes, link.written = old.written ++ bytes ∧
    link.channel.tail = (old.channel.tail + bytes.length) % old.channel.bufSize

theorem Reading.handed {link : Link} (reading : Reading old head count link) :
    Moved old { link with
      channel := { link.channel with tail := link.rttChannel.tail }
      written := link.written ++ link.xmitBuf.take count } := by
  have some : 0 < old.channel.bufSize := Nat.zero_lt_of_lt reading.inside
  have tailInside := reading.tailInside some
  have headInside := reading.sound.placed.head
  rw [reading.bufSize] at headInside
  have counted : (pending link).length = unread old.channel.bufSize link.channel.head old.channel.tail := by
    simp [pending, reading.bufSize, reading.tail]
  have enough := reading.enough
  rw [counted] at enough
  have rest : pending { link with
      channel := { link.channel with tail := link.rttChannel.tail }
      written := link.written ++ link.xmitBuf.take count } = (pending link).drop count := by
    have left := unread_sub (headInside some) tailInside enough
    have split := Nat.add_sub_cancel' enough
    have whole : pending link = items (cell link) old.channel.bufSize old.channel.tail
        (count + (unread old.channel.bufSize link.channel.head old.channel.tail - count)) := by
      rw [split, pending, reading.bufSize, reading.tail]
    rw [whole, items_add, List.drop_left' (length_items _ _ _ _), ← left]
    simp only [pending, reading.bufSize, reading.copied]
    rfl
  constructor
  · constructor
    · refine ⟨reading.sound.placed.fits, reading.sound.placed.head, ?_⟩
      intro _
      show link.rttChannel.tail < link.channel.bufSize
      rw [reading.copied, reading.bufSize]
      exact Nat.mod_lt _ some
    · rw [rest]
      show link.produced = link.written ++ link.xmitBuf.take count ++ _
      rw [reading.sound.delivered, reading.got, List.append_assoc, List.take_append_drop]
  · exact reading.bufSize
  · refine ⟨link.xmitBuf.take count, ?_, ?_⟩
    · show link.written ++ _ = _
      rw [reading.written]
    · show link.rttChannel.tail = _
      rw [reading.copied, Buffer.take_length]

/-- The tail is written back, and only then are the bytes passed on. -/
theorem handOver_meets (moment : Moment) :
    Meets (Reading old head count) (do writeTail moment; rttWrite count) (fun _ => Moved old) (Halted old) := by
  have written : Meets (Reading old head count) (writeTail moment)
      (fun _ link => ∃ before, Reading old head count before ∧
        link = { before with channel := { before.channel with tail := before.rttChannel.tail } }) (Halted old) := by
    apply Meets.bind (meets_elapse_reading moment)
    intro _
    apply meets_ite
    · intro _
      apply meets_stop
      exact fun _ reading => reading.toQuiet
    · intro _
      apply meets_change
      exact fun link reading => ⟨link, reading, rfl⟩
  apply Meets.bind written
  intro _
  apply meets_change
  rintro _ ⟨link, reading, rfl⟩
  exact reading.handed

/-- A fresh copy of a channel whose places are inside has nothing read of it yet. -/
theorem Quiet.reading {link : Link} (quiet : Quiet old link) (copied : link.rttChannel = link.channel)
    (some : 0 < old.channel.bufSize) : Reading old link.channel.head 0 link := by
  have headInside := quiet.sound.placed.head
  rw [quiet.bufSize] at headInside
  refine ⟨quiet, ?_, headInside some, Nat.zero_le _, ?_, rfl⟩
  · calc link.rttChannel
        = ⟨link.channel.bufAddr, link.channel.bufSize, link.channel.head, link.channel.tail⟩ := copied
      _ = _ := by rw [quiet.bufAddr, quiet.bufSize, quiet.tail, Nat.add_zero, Nat.mod_eq_of_lt (quiet.tailInside some)]
  · simp [pending, quiet.bufSize, quiet.tail]

theorem printRtt_meets (moments : Moments) :
    Meets (fun link => Quiet old link ∧ link.rttChannel = link.channel) (printRtt moments) (fun _ => Moved old)
      (Halted old) := by
  apply meets_reading
  intro link holds
  obtain ⟨quiet, copied⟩ := holds
  have leave (after : Link → Prop) (retval : RttRetval) :
      Meets (fun current => current = link) (stop retval : Action Unit) (fun _ => after) (Halted old) := by
    apply meets_stop
    rintro _ rfl
    exact quiet
  have present : Meets (fun current => current = link)
      (onlyIf (link.rttChannel.bufAddr = 0 ∨ link.rttChannel.bufSize = 0) (stop .idle))
      (fun _ current => 0 < old.channel.bufSize ∧ current = link) (Halted old) := by
    apply meets_onlyIf
    · exact fun _ => leave _ .idle
    · intro some current same
      rw [copied, quiet.bufSize] at some
      exact ⟨by omega, same⟩
  apply Meets.bind present
  intro _
  apply meets_given
  intro some
  apply Meets.bind (meets_onlyIf (fun _ => leave _ .err) fun _ _ same => same)
  intro _
  apply Meets.bind (meets_onlyIf (fun _ => leave _ .idle) fun _ _ same => same)
  intro _
  apply Meets.bind ((readWrapped_meets moments.first _).known (quiet.reading copied some))
  intro wrapped
  apply Meets.bind (readStraight_meets moments.second _)
  intro bytesRead
  exact handOver_meets moments.tail

theorem pollRtt_meets (moments : Moments) :
    Meets (Quiet old) (pollRtt moments) (fun _ => Moved old) (Halted old) := by
  have waits (moment : Moment) : Meets (Quiet old) (elapse moment) (fun _ => Quiet old) (Halted old) :=
    meets_elapse moment (fun _ _ quiet grown => quiet.grows grown) fun _ quiet => quiet.sound
  have leave (retval : RttRetval) : Meets (Quiet old) (stop retval : Action Unit) (fun _ => Quiet old) (Halted old) :=
    meets_stop fun _ quiet => quiet
  apply Meets.bind (waits moments.header)
  intro _
  apply Meets.bind (meets_onlyIf (fun _ => leave .idle) fun _ _ quiet => quiet)
  intro _
  apply Meets.bind (waits moments.table)
  intro _
  apply Meets.bind (meets_onlyIf (fun _ => leave .err) fun _ _ quiet => quiet)
  intro _
  have copies : Meets (Quiet old) (change fun link => { link with rttChannel := link.channel } : Action Unit)
      (fun _ link => Quiet old link ∧ link.rttChannel = link.channel) (Halted old) := by
    apply meets_change
    intro link quiet
    exact ⟨⟨⟨quiet.sound.placed, quiet.sound.delivered⟩, quiet.bufAddr, quiet.bufSize, quiet.tail, quiet.written⟩, rfl⟩
  apply Meets.bind copies
  exact fun _ => printRtt_meets moments

end Probe

section Runs

/-- What a poll may do: pass bytes on and move the target's tail over them, or else nothing. -/
def Polled (old : Link) (ending : Except RttRetval Unit × Link) : Prop :=
  ∃ forwarded, ending.2.written = old.written ++ forwarded ∧
    ending.2.channel.tail = (old.channel.tail + forwarded.length) % old.channel.bufSize ∧
    (ending.1 ≠ .ok () → forwarded = [] ∧ ending.2.channel.tail = old.channel.tail)

theorem pollRtt_spec {old : Link} (sound : Sound old) (moments : Moments) :
    Sound (pollRtt moments old).2 ∧ Polled old (pollRtt moments old) := by
  have start : Quiet old old := ⟨sound, rfl, rfl, rfl, rfl⟩
  have met := pollRtt_meets moments old start
  revert met
  cases pollRtt moments old with
  | mk ending link =>
    cases ending with
    | ok value =>
      intro moved
      obtain ⟨bytes, written, tail⟩ := moved.forwarded
      exact ⟨moved.sound, bytes, written, tail, fun failed => absurd rfl failed⟩
    | error retval =>
      intro quiet
      refine ⟨quiet.sound, [], ?_, ?_, fun _ => ⟨rfl, quiet.tail⟩⟩
      · rw [quiet.written, List.append_nil]
      · show link.channel.tail = _
        rw [quiet.tail, List.length_nil, Nat.add_zero]
        rcases Nat.eq_zero_or_pos old.channel.bufSize with none | some
        · rw [none, Nat.mod_zero]
        · rw [Nat.mod_eq_of_lt (quiet.tailInside some)]

theorem step_sound {link : Link} (sound : Sound link) (event : Event) : Sound (step link event) := by
  cases event with
  | write byte => exact (produce_grows sound byte).2
  | poll moments => exact (pollRtt_spec sound moments).1

theorem run_sound {link : Link} (sound : Sound link) (events : List Event) : Sound (events.foldl step link) := by
  induction events generalizing link with
  | nil => exact sound
  | cons event rest ih => exact ih (step_sound sound event)

/-- In every run, what has been passed on is the beginning of what has been produced, and every poll moves the
target's tail over just the bytes it passes on. -/
theorem channel_delivers (start : Link) (fresh : Fresh start) (events : List Event) :
    (events.foldl step start).written <+: (events.foldl step start).produced ∧
      ∀ earlier moments later, events = earlier ++ .poll moments :: later →
        Polled (earlier.foldl step start) (pollRtt moments (earlier.foldl step start)) := by
  constructor
  · exact ⟨_, (run_sound fresh.sound events).delivered.symm⟩
  · intro earlier moments later _
    exact (pollRtt_spec (run_sound fresh.sound earlier) moments).2

/-- A ring of eight places in which the unread bytes go over the end. -/
def turnedRing : Link where
  memory := fun addr => BitVec.ofNat 8 addr
  channel := ⟨0x20000001, 8, 2, 6⟩
  produced := [7, 8, 1, 2]
  rttChannel := ⟨0, 0, 0, 0⟩
  xmitBuf := fun _ => 0
  written := []

/-- The target writes a byte before the tail is written back. -/
def writesBetween : Moments :=
  ⟨⟨[], false⟩, ⟨[], false⟩, ⟨[], false⟩, ⟨[], false⟩, ⟨[0x55], false⟩⟩

/-- The second read fails. -/
def failsBetween : Moments :=
  ⟨⟨[], false⟩, ⟨[], false⟩, ⟨[], false⟩, ⟨[], true⟩, ⟨[], false⟩⟩

theorem turnedRing_delivers :
    Fresh turnedRing ∧ (step (step turnedRing (.poll failsBetween)) (.poll writesBetween)).written = [7, 8, 1, 2] ∧
      (step (step turnedRing (.poll failsBetween)) (.poll writesBetween)).produced = [7, 8, 1, 2, 0x55] ∧
      (step (step turnedRing (.poll failsBetween)) (.poll writesBetween)).written
        <+: (step (step turnedRing (.poll failsBetween)) (.poll writesBetween)).produced := by
  have fresh : Fresh turnedRing := by
    constructor
    · exact ⟨by decide, fun _ => by decide, fun _ => by decide⟩
    · rfl
    · decide
  refine ⟨fresh, by decide +kernel, by decide +kernel, ?_⟩
  exact (channel_delivers turnedRing fresh [.poll failsBetween, .poll writesBetween]).1

end Runs

end BlackMagic.Proofs.RttDelivery
