import BlackMagic.Lib.Simulation
import BlackMagic.Stm32Flash

/-! One frame to the boot loader and its acknowledgement: both ends go on in step, whether the frame is taken or refused. -/

namespace BlackMagic.Proofs.Stm32FlashExchanges
open Lib Lib.Program Lib.Framing Stm32Flash

section Waits

/-- What may come before an acknowledgement that is waited for so long. -/
structure Bearable (time : Nat → Nat) (rounds timeout : Nat) (wait : List Reply) : Prop where
  few : wait.length < rounds
  kinds : ∀ reply ∈ wait, reply = .late ∨ reply = .byte stm32Busy
  intime : ∀ reads place, wait[place]? = some .late → timeout ≠ 0 ∧ time (reads + place + 1) < time reads + timeout

variable {time : Nat → Nat} {rounds timeout : Nat}

theorem bearable_none (positive : 0 < rounds) : Bearable time rounds timeout [] where
  few := positive
  kinds _ listed := absurd listed List.not_mem_nil
  intime _ _ late := nomatch late

theorem bearable_busy {count : Nat} (few : count < rounds) :
    Bearable time rounds timeout (List.replicate count (.byte stm32Busy)) where
  few := by rwa [List.length_replicate]
  kinds _ listed := .inr (List.eq_of_mem_replicate listed)
  intime _ _ late := nomatch List.eq_of_mem_replicate (List.mem_of_getElem? late)

theorem bearable_late (early : ∀ reads, timeout ≠ 0 ∧ time (reads + 1) < time reads + timeout) (enough : 1 < rounds) :
    Bearable time rounds timeout [.late] where
  few := enough
  kinds _ listed := .inl (List.mem_singleton.mp listed)
  intime reads place late := by
    obtain rfl : place = 0 := Nat.lt_one_iff.mp (List.getElem?_eq_some_iff.mp late).1
    exact early reads

theorem espRead_runs {line : Line} {count : Nat} {pending rest : List Reply} {bytes : Option (List Byte)}
    (there : line.pending = pending) (arrives : arrive count pending = (bytes, rest)) :
    espRead count line = (.ok bytes, { line with pending := rest, reads := line.reads + 1 }) := by
  show (Except.ok (arrive count line.pending).1, { line with pending := (arrive count line.pending).2, reads := _ }) = _
  rw [there, arrives]

/-- What is waited for comes in time. -/
theorem awaitAck_acknowledged {wait rest : List Reply} {line : Line} {t0 : Nat} (few : wait.length < rounds)
    (kinds : ∀ reply ∈ wait, reply = .late ∨ reply = .byte stm32Busy)
    (intime : ∀ place, wait[place]? = some .late → timeout ≠ 0 ∧ time (line.reads + place + 1) < t0 + timeout)
    (pending : line.pending = wait ++ .byte stm32Ack :: rest) :
    awaitAck time timeout t0 rounds line =
      (.ok (), { line with pending := rest, reads := line.reads + wait.length + 1 }) := by
  induction wait generalizing line rounds with
  | nil =>
    obtain ⟨rounds, rfl⟩ : ∃ more, rounds = more + 1 := Nat.exists_eq_succ_of_ne_zero (Nat.ne_of_gt few)
    rw [awaitAck, bind_returned (espRead_runs pending rfl)]
    rfl
  | cons reply wait ih =>
    obtain ⟨rounds, rfl⟩ : ∃ more, rounds = more + 1 := Nat.exists_eq_succ_of_ne_zero (Nat.ne_of_gt (Nat.zero_lt_of_lt few))
    have later : ∀ place, wait[place]? = some .late →
        timeout ≠ 0 ∧ time (line.reads + 1 + place + 1) < t0 + timeout := by
      intro place late
      have early := intime (place + 1) (by rwa [List.getElem?_cons_succ])
      rwa [Nat.add_comm place 1, ← Nat.add_assoc line.reads 1 place] at early
    have rest := @ih rounds { line with pending := wait ++ .byte stm32Ack :: rest, reads := line.reads + 1 }
      (Nat.lt_of_succ_lt_succ few) (fun reply listed => kinds reply (List.mem_cons_of_mem _ listed)) later rfl
    have counted : line.reads + 1 + wait.length + 1 = line.reads + (reply :: wait).length + 1 := by
      rw [List.length_cons]
      omega
    rw [counted] at rest
    rcases kinds reply List.mem_cons_self with rfl | rfl
    · rw [awaitAck, bind_returned (espRead_runs pending rfl)]
      have early : timeout ≠ 0 ∧ time (line.reads + 1) < t0 + timeout := intime 0 rfl
      show (if timeout ≠ 0 ∧ time (line.reads + 1) < t0 + timeout then awaitAck time timeout t0 rounds
        else stop .unknown : Action Unit) _ = _
      rw [if_pos early]
      exact rest
    · rw [awaitAck, bind_returned (espRead_runs pending rfl)]
      exact rest

theorem getAck_acknowledged {wait rest : List Reply} (bearable : Bearable time rounds timeout wait) {line : Line}
    (pending : line.pending = wait ++ .byte stm32Ack :: rest) :
    stm32GetAckTimeout time rounds timeout line =
      (.ok (), { line with pending := rest, reads := line.reads + wait.length + 1 }) :=
  awaitAck_acknowledged bearable.few bearable.kinds (bearable.intime line.reads) pending

theorem getAck_refused {line : Line} (positive : 0 < rounds) (pending : line.pending = nacked) :
    stm32GetAckTimeout time rounds timeout line = (.error .nack, { line with pending := [], reads := line.reads + 1 }) := by
  obtain ⟨rounds, rfl⟩ : ∃ more, rounds = more + 1 := Nat.exists_eq_succ_of_ne_zero (Nat.ne_of_gt positive)
  have refused : awaitAck time timeout (time line.reads) (rounds + 1) line =
      (.error .nack, { line with pending := [], reads := line.reads + 1 }) := by
    rw [awaitAck, bind_returned (espRead_runs pending rfl)]
    rfl
  exact refused

end Waits

section Exchanges
variable {part : Part} {time : Nat → Nat} {rounds timeout : Nat} {task next : Task} {frame : List Byte}

/-- A frame that is to be acknowledged. -/
def exchange (part : Part) (time : Nat → Nat) (rounds timeout : Nat) (frame : List Byte) : Action Unit := do
  espWrite part frame
  anyError (stm32GetAckTimeout time rounds timeout)

/-- The boot loader with this memory waits for this, and that is to be read. -/
structure At (task : Task) (pending : List Reply) (line : Line) (memory : BitVec 32 → Byte) : Prop where
  task : line.boot.expecting = task
  got : line.boot.got = []
  memory : line.boot.state.memory = memory
  pending : line.pending = pending

/-- Both ends are ready for a command. -/
def InStep : Line → (BitVec 32 → Byte) → Prop := At .command []

theorem espWrite_runs {line : Line} {memory : BitVec 32 → Byte} {pending : List Reply}
    (framed : part.protocol.Frame task frame) (there : At task pending line memory) {served : Nat} {replies : List Reply}
    {changed : BitVec 32 → Byte}
    (concluded : part.conclude task frame ⟨memory, line.boot.state.served⟩ = ((next, ⟨changed, served⟩), replies)) :
    espWrite part frame line =
      (.ok (), { line with boot := ⟨next, [], ⟨changed, served⟩⟩, pending := replies }) := by
  have receiver : line.boot = ⟨task, [], ⟨memory, line.boot.state.served⟩⟩ := by
    cases line with
    | mk boot pending reads =>
      cases boot with
      | mk expecting got state =>
        obtain ⟨rfl, rfl, rfl, _⟩ := there
        rfl
  have fed : part.protocol.feedAll frame line.boot = (⟨next, [], ⟨changed, served⟩⟩, replies) := by
    rw [receiver, Protocol.feedAll_frame framed]
    show (Receiver.mk (part.conclude task frame _).1.1 [] (part.conclude task frame _).1.2, (part.conclude task frame _).2) = _
    rw [concluded]
  show (Except.ok (), { line with boot := (part.protocol.feedAll frame line.boot).1, pending := _ }) = _
  rw [fed]

variable {f : (BitVec 32 → Byte) → BitVec 32 → Byte} {rest : (BitVec 32 → Byte) → List Reply}

theorem exchange_taken {line : Line} {memory changed : BitVec 32 → Byte} {pending wait rest : List Reply} {served : Nat}
    (framed : part.protocol.Frame task frame) (bearable : Bearable time rounds timeout wait) (there : At task pending line memory)
    (concluded : part.conclude task frame ⟨memory, line.boot.state.served⟩ =
      ((next, ⟨changed, served⟩), wait ++ acked ++ rest)) :
    ∃ final, exchange part time rounds timeout frame line = (.ok (), final) ∧ At next rest final changed := by
  have wrote := espWrite_runs framed there concluded
  rw [List.append_assoc] at wrote
  have acknowledged := @getAck_acknowledged time rounds timeout wait rest bearable
    { line with boot := ⟨next, [], ⟨changed, served⟩⟩, pending := wait ++ (acked ++ rest) } rfl
  refine ⟨{ line with boot := ⟨next, [], ⟨changed, served⟩⟩, pending := rest, reads := line.reads + wait.length + 1 }, ?_,
    ⟨rfl, rfl, rfl, rfl⟩⟩
  rw [exchange, bind_returned wrote, anyError, Program.rescue, acknowledged]

theorem exchange_refused {line : Line} {memory : BitVec 32 → Byte} {pending : List Reply} (positive : 0 < rounds)
    (framed : part.protocol.Frame task frame) (there : At task pending line memory)
    (concluded : part.conclude task frame ⟨memory, line.boot.state.served⟩ =
      ((.command, ⟨memory, line.boot.state.served⟩), nacked)) :
    ∃ final, exchange part time rounds timeout frame line = (.error .unknown, final) ∧ InStep final memory := by
  have wrote := espWrite_runs framed there concluded
  have refused := @getAck_refused time rounds timeout
    { line with boot := ⟨.command, [], ⟨memory, line.boot.state.served⟩⟩, pending := nacked } positive rfl
  refine ⟨{ line with boot := ⟨.command, [], ⟨memory, line.boot.state.served⟩⟩, pending := [], reads := line.reads + 1 }, ?_,
    ⟨rfl, rfl, rfl, rfl⟩⟩
  rw [exchange, bind_returned wrote, anyError, Program.rescue, refused]
  rfl

/-- A frame that changes nothing is taken if it meets the condition. -/
theorem exchange_follows {condition : Prop} [Decidable condition] (positive : 0 < rounds)
    (framed : part.protocol.Frame task frame)
    (concludes : ∀ boot, part.conclude task frame boot =
      if condition then ((next, boot), acked ++ rest boot.memory) else ((.command, boot), nacked)) {pending : List Reply} :
    Follows (At task pending) (exchange part time rounds timeout frame) (require condition)
      (fun _ line memory => At next (rest memory) line memory) InStep := by
  intro line memory there
  have concluded := concludes ⟨memory, line.boot.state.served⟩
  by_cases holds : condition
  · rw [if_pos holds] at concluded
    obtain ⟨final, ran, after⟩ := exchange_taken framed (bearable_none positive) there concluded
    rw [ran, require, if_pos holds]
    exact ⟨rfl, after⟩
  · rw [if_neg holds] at concluded
    obtain ⟨final, ran, after⟩ := @exchange_refused _ time _ timeout _ _ _ _ _ positive framed there concluded
    rw [ran, require, if_neg holds]
    exact ⟨rfl, after⟩

/-- A frame by which the memory is changed. -/
theorem exchange_changes (framed : part.protocol.Frame task frame) {wait : Nat → List Reply}
    (bearable : ∀ served, Bearable time rounds timeout (wait served))
    (concludes : ∀ boot, part.conclude task frame boot =
      ((.command, ⟨f boot.memory, boot.served + 1⟩), wait boot.served ++ acked)) {pending : List Reply} :
    Follows (At task pending) (exchange part time rounds timeout frame) (change f) (fun _ => InStep) InStep := by
  intro line memory there
  have concluded := concludes ⟨memory, line.boot.state.served⟩
  rw [← List.append_nil (wait _ ++ acked)] at concluded
  obtain ⟨final, ran, after⟩ := exchange_taken framed (bearable _) there concluded
  rw [ran]
  exact ⟨rfl, after⟩

def never : Stm32Err → Line → Prop := fun _ _ => False

variable {memory : Memory}

/-- A frame that is taken, and what comes after its acknowledgement. -/
theorem exchange_meets {α : Type} {rest pending : List Reply} {following : Unit → Action α} {last : α → Line → Prop}
    (positive : 0 < rounds) (framed : part.protocol.Frame task frame)
    (concludes : ∀ served, part.conclude task frame ⟨memory, served⟩ = ((next, ⟨memory, served⟩), acked ++ rest))
    (follows : ∀ done, Meets (fun line => At next rest line memory) (following done) last never) :
    Meets (fun line => At task pending line memory)
      (espWrite part frame >>= fun _ => anyError (stm32GetAckTimeout time rounds timeout) >>= following) last never := by
  have taken : Meets (fun line => At task pending line memory) (exchange part time rounds timeout frame)
      (fun _ line => At next rest line memory) never := by
    intro line there
    obtain ⟨final, ran, after⟩ := exchange_taken framed (bearable_none positive) there (concludes line.boot.state.served)
    rw [ran]
    exact after
  have together := taken.bind follows
  rwa [exchange, bind_bind] at together

theorem getAckTimeout_meets {wait rest : List Reply} (bearable : Bearable time rounds timeout wait) :
    Meets (fun line => At task (wait ++ (acked ++ rest)) line memory) (anyError (stm32GetAckTimeout time rounds timeout))
      (fun _ line => At task rest line memory) never := by
  intro line there
  have got := @getAck_acknowledged time rounds timeout wait rest bearable line there.pending
  rw [anyError, Program.rescue, got]
  exact ⟨there.task, there.got, there.memory, rfl⟩

theorem arrive_spelled (bytes : List Byte) (rest : List Reply) :
    arrive bytes.length (spelled bytes ++ rest) = (some bytes, rest) := by
  induction bytes with
  | nil => cases rest <;> rfl
  | cons byte bytes ih =>
    show ((arrive bytes.length (spelled bytes ++ rest)).1.map (byte :: ·), (arrive bytes.length (spelled bytes ++ rest)).2) = _
    rw [ih]
    rfl

theorem readAll_meets {bytes : List Byte} {rest : List Reply} {count : Nat} (counted : bytes.length = count) :
    Meets (fun line => At task (spelled bytes ++ rest) line memory) (espReadAll count)
      (fun result line => result = bytes ∧ At task rest line memory) never := by
  subst counted
  intro line there
  rw [espReadAll, bind_returned (espRead_runs there.pending (arrive_spelled bytes rest))]
  exact ⟨rfl, there.task, there.got, there.memory, rfl⟩

end Exchanges

end BlackMagic.Proofs.Stm32FlashExchanges
