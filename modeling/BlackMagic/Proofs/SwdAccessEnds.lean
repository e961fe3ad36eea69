import BlackMagic.Lib.Retry
import BlackMagic.SwdAccess

/-! When an access of the software SWD port ends. -/

namespace BlackMagic.Proofs.SwdAccessEnds
open SwdAccess Lib Lib.Program Lib.Retry

/-- The kinds of acknowledgements. -/
def answerTo (ack : BitVec 3) : Answer :=
  if ack = swdpAckWait then .wait
  else if ack = swdpAckFault then .fault
  else if ack = swdpAckNoResponse ∨ ack = swdpAckOk then .done
  else .invalid

variable (env : Environment)

def answers (n : Nat) : Answer := answerTo (env.ack n)

/-- The debug port after a request. -/
def requested (rnw : Bool) (addr : BitVec 16) (dp : DebugPort) : DebugPort :=
  { dp with transactions := dp.transactions + 1, sent := dp.sent ++ [.request (makePacketRequest rnw addr)] }

/-- How an access has ended; a read can also end with an exception of its own, for its parity. -/
def Settled (rnw : Bool) (result : Except Halt (BitVec 32) × DebugPort) (final : Nat) (raised : Bool) : Prop :=
  result.2.transactions = final ∧
    match result.1 with
    | .ok _ => raised = false
    | .error (.raised _) => raised = true ∨ rnw = true
    | .error .unfinished => False

/-- An access of an access port is not made after a fault. -/
def Refused (addr : BitVec 16) (fault : BitVec 8) : Prop := addr &&& adiv5ApnDp ≠ 0 ∧ fault ≠ 0

variable {env}

theorem answers_wait {n : Nat} (answered : answers env n = .wait) : env.ack n = swdpAckWait := by
  unfold answers answerTo at answered
  grind

theorem answers_fault {n : Nat} (answered : answers env n = .fault) : env.ack n = swdpAckFault := by
  unfold answers answerTo at answered
  grind

theorem answers_done {n : Nat} (answered : answers env n = .done) :
    env.ack n = swdpAckNoResponse ∨ env.ack n = swdpAckOk := by
  unfold answers answerTo at answered
  grind

theorem answers_invalid {n : Nat} (answered : answers env n = .invalid) :
    env.ack n ≠ swdpAckWait ∧ env.ack n ≠ swdpAckFault ∧ env.ack n ≠ swdpAckNoResponse ∧ env.ack n ≠ swdpAckOk := by
  unfold answers answerTo at answered
  grind

section Steps
variable {rounds timeout : Nat} {rnw : Bool} {addr : BitVec 16} {value : BitVec 32} {dp : DebugPort}

theorem transact_wait_early (answered : answers env dp.transactions = .wait)
    (early : env.platformTimeMs (dp.transactions + 1) ≤ timeout) :
    transact env (rounds + 1) rnw addr value timeout dp =
      transact env rounds rnw addr value timeout (requested rnw addr dp) := by
  have ack := answers_wait answered
  rw [transact]
  simp [Bind.bind, exchange, Lib.Program.read, change, Pure.pure, onlyIf, ack, platformTimeoutIsExpired, early,
    requested, swdpAckWait, swdpAckFault]

/-- An access that was made to clear up, and what follows if it returns. -/
def andThen (cleared : Except Halt (BitVec 32) × DebugPort) (next : DebugPort → Except Halt (BitVec 32) × DebugPort) :
    Except Halt (BitVec 32) × DebugPort :=
  match cleared with
  | (.ok _, dp) => next dp
  | (.error reason, dp) => (.error reason, dp)

theorem transact_wait_late (answered : answers env dp.transactions = .wait)
    (late : timeout < env.platformTimeMs (dp.transactions + 1)) :
    transact env (rounds + 1) rnw addr value timeout dp =
      andThen (firmwareSwdpLowAccess env rounds false adiv5DpAbort abortDapabort (requested rnw addr dp)) fun dp =>
        (.ok 0, { dp with fault := 2 }) := by
  have ack := answers_wait answered
  rw [transact]
  simp [Bind.bind, exchange, Lib.Program.read, change, Pure.pure, onlyIf, ack, platformTimeoutIsExpired, late,
    requested, swdpAckWait, swdpAckFault, conclude, firmwareSwdpAbort, adiv5DpWrite, andThen, setFault]
  generalize firmwareSwdpLowAccess env rounds false adiv5DpAbort abortDapabort _ = cleared
  obtain ⟨ending, after⟩ := cleared
  cases ending <;> rfl

theorem transact_fault (answered : answers env dp.transactions = .fault) :
    transact env (rounds + 1) rnw addr value timeout dp =
      andThen (firmwareSwdpLowAccess env rounds false adiv5DpAbort
        (abortOrunerrclr ||| abortWderrclr ||| abortStkerrclr ||| abortStkcmpclr) (requested rnw addr dp)) fun dp =>
          if timeout < env.platformTimeMs dp.transactions then (.ok 0, { dp with fault := 4 })
          else transact env rounds rnw addr value timeout dp := by
  have ack := answers_fault answered
  rw [transact]
  simp [Bind.bind, exchange, Lib.Program.read, change, Pure.pure, onlyIf, ack, platformTimeoutIsExpired, requested,
    swdpAckWait, swdpAckFault, conclude, adiv5DpWrite, andThen, setFault]
  generalize firmwareSwdpLowAccess env rounds false adiv5DpAbort _ _ = cleared
  obtain ⟨ending, after⟩ := cleared
  cases ending with
  | error reason => rfl
  | ok value => by_cases late : timeout < env.platformTimeMs after.transactions <;> simp [late]

theorem transact_done (answered : answers env dp.transactions = .done) :
    Settled rnw (transact env (rounds + 1) rnw addr value timeout dp) (dp.transactions + 1) false := by
  have kind := answers_done answered
  rw [transact]
  cases kind with
  | inl ack =>
    simp [Bind.bind, exchange, Lib.Program.read, change, Pure.pure, onlyIf, ack, platformTimeoutIsExpired, swdpAckWait,
      swdpAckFault, swdpAckNoResponse, conclude, setFault, Settled]
  | inr ack =>
    cases rnw with
    | false =>
      simp [Bind.bind, exchange, Lib.Program.read, change, Pure.pure, onlyIf, ack, platformTimeoutIsExpired, swdpAckWait,
        swdpAckFault, swdpAckNoResponse, swdpAckOk, conclude, seqOut, Settled]
    | true =>
      cases wrong : env.parityError dp.transactions with
      | false =>
        simp [Bind.bind, exchange, Lib.Program.read, change, Pure.pure, onlyIf, ack, platformTimeoutIsExpired,
          swdpAckWait, swdpAckFault, swdpAckNoResponse, swdpAckOk, conclude, seqInParity, wrong, Settled]
      | true =>
        simp [Bind.bind, exchange, Lib.Program.read, change, Pure.pure, onlyIf, ack, platformTimeoutIsExpired,
          swdpAckWait, swdpAckFault, swdpAckNoResponse, swdpAckOk, conclude, seqInParity, wrong, setFault, stop, Settled]

theorem transact_invalid (answered : answers env dp.transactions = .invalid) :
    Settled rnw (transact env (rounds + 1) rnw addr value timeout dp) (dp.transactions + 1) true := by
  obtain ⟨noWait, noFault, noResponse, noOk⟩ := answers_invalid answered
  rw [transact]
  simp [Bind.bind, exchange, Lib.Program.read, change, Pure.pure, onlyIf, noWait, noFault, noResponse, noOk,
    platformTimeoutIsExpired, conclude, stop, Settled]

theorem access_transacts (made : ¬ Refused addr dp.fault) :
    firmwareSwdpLowAccess env (rounds + 1) rnw addr value dp =
      transact env rounds rnw addr value (env.platformTimeMs dp.transactions + 250) dp := by
  unfold Refused at made
  rw [firmwareSwdpLowAccess, read_bind, if_neg made]
  rfl

/-- An abort is a write to the debug port itself, which no earlier fault keeps back. -/
theorem abort_transacts :
    firmwareSwdpLowAccess env (rounds + 1) false adiv5DpAbort value dp =
      transact env rounds false adiv5DpAbort value (env.platformTimeMs dp.transactions + 250) dp :=
  access_transacts fun refused => refused.1 (by decide)

end Steps

section Correspondence

variable (env) in
/-- The requests of an access as the repeated requests of the library. -/
abbrev AccessEnds := Ends (answers env) env.platformTimeMs 250

theorem returned_clearing {cleared : Except Halt (BitVec 32) × DebugPort} {middle : Nat}
    (settled : Settled false cleared middle false) :
    ∃ value after, cleared = (.ok value, after) ∧ after.transactions = middle := by
  obtain ⟨ending, after⟩ := cleared
  cases ending with
  | ok value => exact ⟨value, after, rfl, settled.1⟩
  | error reason =>
    cases reason with
    | raised message => exact absurd settled.2 (by simp)
    | unfinished => exact settled.2.elim

theorem raised_clearing {cleared : Except Halt (BitVec 32) × DebugPort} {middle : Nat}
    (settled : Settled false cleared middle true) :
    ∃ message after, cleared = (.error (.raised message), after) ∧ after.transactions = middle := by
  obtain ⟨ending, after⟩ := cleared
  cases ending with
  | ok value => exact absurd settled.2 (by simp)
  | error reason =>
    cases reason with
    | raised message => exact ⟨message, after, rfl, settled.1⟩
    | unfinished => exact settled.2.elim

variable (env) in
/-- With enough rounds the loop ends like this from so many transactions on. -/
def Settles (deadline n final : Nat) (raised : Bool) : Prop :=
  ∃ enough, ∀ rounds, enough ≤ rounds → ∀ rnw addr value dp, dp.transactions = n →
    Settled rnw (transact env rounds rnw addr value deadline dp) final raised

theorem Settles.abort {n final : Nat} {raised : Bool}
    (settles : Settles env (env.platformTimeMs n + 250) n final raised) :
    ∃ enough, ∀ rounds, enough ≤ rounds → ∀ value dp, dp.transactions = n →
      Settled false (firmwareSwdpLowAccess env rounds false adiv5DpAbort value dp) final raised := by
  obtain ⟨least, settled⟩ := settles
  refine ⟨least + 1, fun rounds enough value dp counted => ?_⟩
  obtain ⟨rounds, rfl⟩ := Nat.exists_eq_add_of_le' (Nat.le_trans (Nat.le_add_left 1 least) enough)
  rw [abort_transacts, counted]
  exact settled rounds (by omega) false adiv5DpAbort value dp counted

/-- It is enough to look at one round and what follows it. -/
theorem settles_step {deadline n final : Nat} {raised : Bool} (least : Nat)
    (step : ∀ rounds, least ≤ rounds → ∀ rnw addr value dp, dp.transactions = n →
      Settled rnw (transact env (rounds + 1) rnw addr value deadline dp) final raised) :
    Settles env deadline n final raised := by
  refine ⟨least + 1, fun rounds enough => ?_⟩
  obtain ⟨rounds, rfl⟩ := Nat.exists_eq_add_of_le' (Nat.le_trans (Nat.le_add_left 1 least) enough)
  exact step rounds (by omega)

/-- Whenever a request of the library ends, so does the loop with enough rounds. -/
theorem ends_settles {deadline n final : Nat} {raised : Bool} (ends : AccessEnds env deadline n final raised) :
    Settles env deadline n final raised := by
  induction ends with
  | done answered =>
    apply settles_step 0
    intro rounds _ rnw addr value dp counted
    subst counted
    exact transact_done answered
  | invalid answered =>
    apply settles_step 0
    intro rounds _ rnw addr value dp counted
    subst counted
    exact transact_invalid answered
  | waits answered early _ ih =>
    obtain ⟨least, settled⟩ := ih
    apply settles_step least
    intro rounds enough rnw addr value dp counted
    subst counted
    rw [transact_wait_early answered early]
    exact settled rounds enough rnw addr value _ rfl
  | @gaveUp _ _ _ raised answered late _ ih =>
    obtain ⟨least, settled⟩ := ih.abort
    apply settles_step least
    intro rounds enough rnw addr value dp counted
    subst counted
    rw [transact_wait_late answered late]
    have aborted := settled rounds enough abortDapabort (requested rnw addr dp) rfl
    cases raised with
    | false =>
      obtain ⟨_, after, cleared, counted⟩ := returned_clearing aborted
      rw [cleared]
      exact ⟨counted, rfl⟩
    | true =>
      obtain ⟨_, after, cleared, counted⟩ := raised_clearing aborted
      rw [cleared]
      exact ⟨counted, Or.inl rfl⟩
  | lost answered _ ih =>
    obtain ⟨least, settled⟩ := ih.abort
    apply settles_step least
    intro rounds enough rnw addr value dp counted
    subst counted
    rw [transact_fault answered]
    obtain ⟨_, after, cleared, counted⟩ := raised_clearing (settled rounds enough _ (requested rnw addr dp) rfl)
    rw [cleared]
    exact ⟨counted, Or.inl rfl⟩
  | retried answered _ early _ ih rest =>
    obtain ⟨least, settled⟩ := ih.abort
    obtain ⟨further, goesOn⟩ := rest
    apply settles_step (max least further)
    intro rounds enough rnw addr value dp counted
    subst counted
    rw [transact_fault answered]
    obtain ⟨_, after, cleared, counted⟩ := returned_clearing (settled rounds (by omega) _ (requested rnw addr dp) rfl)
    rw [cleared]
    simp only [andThen, counted, Nat.not_lt.mpr early, if_false]
    exact goesOn rounds (by omega) rnw addr value after counted
  | faulted answered _ late ih =>
    obtain ⟨least, settled⟩ := ih.abort
    apply settles_step least
    intro rounds enough rnw addr value dp counted
    subst counted
    rw [transact_fault answered]
    obtain ⟨_, after, cleared, counted⟩ := returned_clearing (settled rounds enough _ (requested rnw addr dp) rfl)
    rw [cleared]
    simp only [andThen, counted, late, if_true]
    exact ⟨rfl, rfl⟩

theorem Settled.done {rnw : Bool} {result : Except Halt (BitVec 32) × DebugPort} {final : Nat} {raised : Bool}
    (settled : Settled rnw result final raised) : result.1 ≠ .error .unfinished := by
  intro unfinished
  have ended := settled.2
  rw [unfinished] at ended
  exact ended

theorem clearing_done {cleared : Except Halt (BitVec 32) × DebugPort}
    {next : DebugPort → Except Halt (BitVec 32) × DebugPort} (done : (andThen cleared next).1 ≠ .error .unfinished) :
    cleared.1 ≠ .error .unfinished := by
  obtain ⟨ending, after⟩ := cleared
  intro unfinished
  simp only at unfinished
  subst unfinished
  exact done rfl

/-- If the loop is done within some rounds, the request of the library ends in the same way. -/
theorem settled_ends (rounds : Nat) : ∀ (rnw : Bool) (addr : BitVec 16) (value : BitVec 32) (deadline : Nat)
    (dp : DebugPort), (transact env rounds rnw addr value deadline dp).1 ≠ .error .unfinished →
      ∃ final raised, AccessEnds env deadline dp.transactions final raised ∧
        Settled rnw (transact env rounds rnw addr value deadline dp) final raised := by
  induction rounds using Nat.strongRecOn with
  | ind rounds ih =>
    intro rnw addr value deadline dp done
    cases rounds with
    | zero => exact absurd rfl done
    | succ rounds =>
      have aborts : ∀ value,
          (firmwareSwdpLowAccess env rounds false adiv5DpAbort value (requested rnw addr dp)).1 ≠ .error .unfinished →
          ∃ middle raised,
            AccessEnds env (env.platformTimeMs (dp.transactions + 1) + 250) (dp.transactions + 1) middle raised ∧
            Settled false (firmwareSwdpLowAccess env rounds false adiv5DpAbort value (requested rnw addr dp)) middle
              raised := by
        intro value finished
        cases rounds with
        | zero => exact absurd rfl finished
        | succ rounds =>
          rw [abort_transacts] at finished ⊢
          exact ih rounds (by omega) false adiv5DpAbort value _ _ finished
      cases answered : answers env dp.transactions with
      | done => exact ⟨_, _, .done answered, transact_done answered⟩
      | invalid => exact ⟨_, _, .invalid answered, transact_invalid answered⟩
      | wait =>
        by_cases early : env.platformTimeMs (dp.transactions + 1) ≤ deadline
        · rw [transact_wait_early answered early] at done ⊢
          obtain ⟨final, raised, ends, settled⟩ := ih rounds (by omega) rnw addr value deadline _ done
          exact ⟨final, raised, .waits answered early ends, settled⟩
        · rw [transact_wait_late answered (Nat.lt_of_not_le early)] at done ⊢
          obtain ⟨middle, raised, ends, aborted⟩ := aborts abortDapabort (clearing_done done)
          refine ⟨middle, raised, .gaveUp answered (Nat.lt_of_not_le early) ends, ?_⟩
          cases raised with
          | false =>
            obtain ⟨_, after, cleared, counted⟩ := returned_clearing aborted
            rw [cleared]
            exact ⟨counted, rfl⟩
          | true =>
            obtain ⟨_, after, cleared, counted⟩ := raised_clearing aborted
            rw [cleared]
            exact ⟨counted, Or.inl rfl⟩
      | fault =>
        rw [transact_fault answered] at done ⊢
        obtain ⟨middle, raised, ends, aborted⟩ := aborts _ (clearing_done done)
        cases raised with
        | true =>
          obtain ⟨_, after, cleared, counted⟩ := raised_clearing aborted
          rw [cleared]
          exact ⟨middle, true, .lost answered ends, counted, Or.inl rfl⟩
        | false =>
          obtain ⟨_, after, cleared, counted⟩ := returned_clearing aborted
          rw [cleared] at done ⊢
          simp only [andThen, counted] at done ⊢
          by_cases late : deadline < env.platformTimeMs middle
          · simp only [late, if_true]
            exact ⟨middle, false, .faulted answered ends late, rfl, rfl⟩
          · simp only [late, if_false] at done ⊢
            obtain ⟨final, raised, rest, settled⟩ := ih rounds (by omega) rnw addr value deadline after done
            rw [counted] at rest
            exact ⟨final, raised, .retried answered ends (Nat.le_of_not_lt late) rest, settled⟩

end Correspondence

section Endings

/-- What the target answers, apart from the time at which it does. -/
structure TargetAnswers where
  ack : Nat → BitVec 3
  response : Nat → BitVec 32
  parityError : Nat → Bool

def TargetAnswers.during (target : TargetAnswers) (now : Nat → Nat) : Environment :=
  ⟨target.ack, target.response, target.parityError, now⟩

/-- However fast the clock runs, an access returns or raises an exception after finitely many transactions. -/
def AlwaysEnds (target : TargetAnswers) (rnw : Bool) (addr : BitVec 16) (value : BitVec 32) (fault : BitVec 8) : Prop :=
  ∀ now, Runs now → ∃ rounds,
    (firmwareSwdpLowAccess (target.during now) rounds rnw addr value ⟨fault, 0, []⟩).1 ≠ .error .unfinished

def TargetAnswers.answer (target : TargetAnswers) (n : Nat) : Answer := answerTo (target.ack n)

theorem access_refused {env : Environment} {rnw : Bool} {addr : BitVec 16} {value : BitVec 32} {dp : DebugPort}
    (refused : Refused addr dp.fault) : firmwareSwdpLowAccess env 1 rnw addr value dp = (.ok 0, dp) := by
  unfold Refused at refused
  rw [firmwareSwdpLowAccess, read_bind, if_pos refused]
  rfl

/-- An access always ends exactly if it is not made at all, or some acknowledgement is invalid, or at some time there
have been more completions than faults, or the balance of the two has a lowest level where the target only answers with
faults in the end. -/
theorem access_ends_iff (target : TargetAnswers) (rnw : Bool) (addr : BitVec 16) (value : BitVec 32) (fault : BitVec 8) :
    AlwaysEnds target rnw addr value fault ↔
      Refused addr fault ∨ (∃ n, target.answer n = .invalid) ∨ (∃ n, balance target.answer n < 0) ∨
        ∃ level start, Grounded target.answer level start := by
  unfold AlwaysEnds
  by_cases refused : Refused addr fault
  · refine iff_of_true (fun now _ => ⟨1, ?_⟩) (Or.inl refused)
    rw [access_refused refused]
    simp
  simp only [refused, false_or]
  rw [← always_ends_iff target.answer 250]
  apply forall₂_congr
  intro now _
  constructor
  · intro ⟨rounds, done⟩
    cases rounds with
    | zero => exact absurd rfl done
    | succ rounds =>
      rw [access_transacts refused] at done
      obtain ⟨final, raised, ends, _⟩ := settled_ends rounds rnw addr value _ _ done
      exact ⟨final, raised, ends⟩
  · intro ⟨final, raised, ends⟩
    obtain ⟨enough, settled⟩ := @ends_settles (target.during now) _ _ _ _ ends
    refine ⟨enough + 1, ?_⟩
    rw [access_transacts refused]
    exact (settled enough (Nat.le_refl _) rnw addr value ⟨fault, 0, []⟩ rfl).done

/-- A target that answers every request with a fault. -/
def alwaysFaulting : TargetAnswers := ⟨fun _ => swdpAckFault, fun _ => 0, fun _ => false⟩

private theorem faults_never_end {now : Nat → Nat} {deadline n final : Nat} {raised : Bool}
    (ends : AccessEnds (alwaysFaulting.during now) deadline n final raised) : False := by
  have faulting : ∀ n, answers (alwaysFaulting.during now) n = .fault := fun _ => rfl
  induction ends with
  | done answered | invalid answered | waits answered | gaveUp answered =>
    exact absurd (faulting _) (by rw [answered]; simp)
  | lost _ _ ih | retried _ _ _ _ ih | faulted _ _ _ ih => exact ih

/-- Such a target is asked again and again. -/
theorem stuck_fault_never_ends : ¬ AlwaysEnds alwaysFaulting true 0x0 0 0 := by
  intro ends
  obtain ⟨rounds, done⟩ := ends id ⟨monotone_id, fun deadline => ⟨deadline + 1, Nat.lt_succ_self deadline⟩⟩
  cases rounds with
  | zero => exact done rfl
  | succ rounds =>
    rw [access_transacts fun refused => refused.2 rfl] at done
    obtain ⟨final, raised, never, _⟩ := settled_ends rounds true 0x0 0 _ _ done
    exact faults_never_end never

end Endings

end BlackMagic.Proofs.SwdAccessEnds
