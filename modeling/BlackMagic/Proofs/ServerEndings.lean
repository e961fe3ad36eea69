import BlackMagic.Proofs.ServerInvariants

/-! How the handling of a packet ends, exactly: how many replies the client gets for it,
the one for an exception included, and whether a null pointer is followed. -/

namespace BlackMagic.Proofs.ServerEndings
open BlackMagic.Targets BlackMagic.Commands BlackMagic.Server Lib Lib.Program ServerFrame TargetList ServerInvariants

/-- How an action without replies ends. -/
inductive Fate (α : Type) where
  | returned (value : α) (w : View)
  | raised
  | faulted

/-- The replies that the main loop sends for a stop. -/
def extraReplies : Stop → Nat
  | .raised _ => 1
  | _ => 0

def FollowsNull : Stop → Prop
  | .nullTarget _ => True
  | _ => False

section Fates

variable {α : Type}

def Fate.Returns (n : Nat) : Fate α → α → Server → Prop
  | .returned value w, found, server => found = value ∧ At w n server
  | .raised, _, _ => False
  | .faulted, _, _ => False

def Fate.Stops (n : Nat) : Fate α → Stop → Server → Prop
  | .returned _ _, _, _ => False
  | .raised, reason, server => Raised reason ∧ replies server = n
  | .faulted, reason, server => FollowsNull reason ∧ replies server = n

/-- From this view the action ends in this way, whatever else the state holds. -/
def Runs (v : View) (action : Action α) (fate : Fate α) : Prop :=
  ∀ n, Meets (At v n) action (fate.Returns n) (fate.Stops n)

end Fates

/-- From this view the client gets `total` replies; `null` tells whether a null pointer is
followed. -/
def Ends (v : View) (action : Action Unit) (total : Nat) (null : Prop) : Prop :=
  ∀ n, Meets (At v n) action (fun _ server => replies server = n + total ∧ ¬ null)
    (fun reason server => replies server + extraReplies reason = n + total ∧ (FollowsNull reason ↔ null))

section Rules

variable {α β : Type} {v w : View} {total : Nat} {null : Prop}

theorem runs_pure (value : α) : Runs v (pure value : Action α) (.returned value v) :=
  fun _ => meets_pure fun _ holds => ⟨rfl, holds⟩

theorem runs_change {f : Server → Server} (moved : ∀ server, view server = v → view (f server) = w ∧
    (f server).output = server.output) : Runs v (change f) (.returned () w) := by
  refine fun n => meets_change fun server holds => ⟨rfl, (moved server holds.1).1, ?_⟩
  rw [replies, (moved server holds.1).2]
  exact holds.2

theorem runs_read {next : Server → Action α} {fate : Fate α} (rest : ∀ server, view server = v → Runs v (next server) fate) :
    Runs v (read >>= next) fate :=
  fun n => meets_reading fun server holds => (rest server holds.1 n).starting fun _ same => same ▸ holds

theorem Runs.bind {action : Action α} {next : α → Action β} {value : α} {fate : Fate β}
    (first : Runs v action (.returned value w)) (rest : Runs w (next value) fate) : Runs v (action >>= next) fate :=
  fun n => Meets.bind (first n).unstopped fun _ => meets_given fun same => same ▸ rest n

theorem Runs.raise {action : Action α} {next : α → Action β} (first : Runs v action .raised) :
    Runs v (action >>= next) .raised :=
  fun n => Meets.bind (first n) fun _ _ never => never.elim

theorem Runs.fault {action : Action α} {next : α → Action β} (first : Runs v action .faulted) :
    Runs v (action >>= next) .faulted :=
  fun n => Meets.bind (first n) fun _ _ never => never.elim

theorem Runs.ends {action : Action α} {next : α → Action Unit} {value : α} (first : Runs v action (.returned value w))
    (rest : Ends w (next value) total null) : Ends v (action >>= next) total null :=
  fun n => Meets.bind (first n).unstopped fun _ => meets_given fun same => same ▸ rest n

theorem raised_replies {reason : Stop} (raised : Raised reason) : extraReplies reason = 1 ∧ ¬ FollowsNull reason := by
  obtain ⟨exception, rfl⟩ := raised
  exact ⟨rfl, id⟩

theorem followsNull_replies {reason : Stop} (follows : FollowsNull reason) : extraReplies reason = 0 := by
  cases reason with
  | nullTarget call => rfl
  | raised exception => exact follows.elim
  | overrun => rfl
  | abort => rfl

/-- An exception is answered once. -/
theorem Runs.ends_raised {action : Action Unit} (raises : Runs v action .raised) : Ends v action 1 False := by
  refine fun n => (raises n).weaken (fun _ holds => holds) (fun _ _ never => never.elim) ?_
  intro reason server stopped
  obtain ⟨extra, follows⟩ := raised_replies stopped.1
  exact ⟨by rw [stopped.2, extra], iff_false_intro follows⟩

theorem Runs.ends_faulted {action : Action Unit} (faults : Runs v action .faulted) : Ends v action 0 True := by
  refine fun n => (faults n).weaken (fun _ holds => holds) (fun _ _ never => never.elim) ?_
  intro reason server stopped
  exact ⟨by rw [stopped.2, followsNull_replies stopped.1], iff_true_intro stopped.1⟩

theorem Runs.ends_returned {action : Action Unit} (returns : Runs v action (.returned () w)) : Ends v action 0 False :=
  fun n => (returns n).weaken (fun _ holds => holds) (fun _ _ returned => ⟨returned.2.2, id⟩) fun _ _ never => never.elim

theorem ends_read {next : Server → Action Unit} (rest : ∀ server, view server = v → Ends v (next server) total null) :
    Ends v (read >>= next) total null :=
  fun n => meets_reading fun server holds => (rest server holds.1 n).starting fun _ same => same ▸ holds

/-- A handler that always replies once, or raises before. -/
theorem ends_of_serves {action : Action Unit} (serves : Serves v 1 action) : Ends v action 1 False := by
  refine fun n => (serves n).weaken (fun _ holds => holds) (fun _ _ reached => ⟨reached.2, id⟩) ?_
  intro reason server stopped
  obtain ⟨extra, follows⟩ := raised_replies stopped.1
  exact ⟨by rw [stopped.2.2, extra], iff_false_intro follows⟩

end Rules

section Actions

variable {v : View} {answers : Answers} {α : Type}

theorem dereference_runs (id : Nat) (call : Call) : Runs v (dereference (some id) call) (.returned id v) :=
  fun _ => dereference_spec id call

theorem dereference_faults (call : Call) : Runs v (dereference none call) .faulted :=
  fun _ => meets_stop fun _ holds => ⟨trivial, holds.2⟩

theorem onCurrent_runs {id : Nat} (current : v.curTarget = some id) (call : Call) :
    Runs v (onCurrent call) (.returned id v) := by
  refine runs_read fun server seen => ?_
  have same : server.curTarget = some id := (congrArg View.curTarget seen).trans current
  rw [same]
  exact dereference_runs id call

theorem perform_runs {outcome : Outcome α} {value : α} (returns : outcome.result = .ok value) :
    Runs v (perform outcome) (.returned value v) := by
  intro n
  refine Meets.bind (gdbOut_each_spec outcome.console).unstopped fun _ => ?_
  rw [returns]
  exact runs_pure value n

theorem perform_raises {outcome : Outcome α} {exception : Exception} (raises : outcome.result = .error exception) :
    Runs v (perform outcome) .raised := by
  intro n
  refine Meets.bind (gdbOut_each_spec outcome.console).unstopped fun _ => ?_
  rw [raises]
  exact meets_stop fun _ holds => ⟨⟨exception, rfl⟩, holds.2⟩

theorem performPolled_runs {polled : Polled α} {value : α} (completes : Completes answers v polled)
    (returns : polled.result = .ok value) :
    Runs v (performPolled answers polled) (.returned value (polledView v polled.frees)) := by
  refine fun n => (performPolled_spec polled).weaken (fun _ holds => holds) ?_ ?_
  · intro found server returned
    refine ⟨?_, returned.2.2⟩
    have same := returned.2.1.symm.trans returns
    cases same
    rfl
  · exact fun _ _ raised => absurd completes raised.2.1

theorem performPolled_raises {polled : Polled α} (stuck : ¬ Completes answers v polled) :
    Runs v (performPolled answers polled) .raised := by
  refine fun n => (performPolled_spec polled).weaken (fun _ holds => holds) ?_ ?_
  · exact fun _ _ returned => absurd returned.1 stuck
  · intro reason server raised
    obtain ⟨exception, -, w, -, reached⟩ := raised
    exact ⟨exception, reached.2⟩

theorem targetReset_runs (id : Nat) (completes : Completes answers v answers.reset) :
    Runs v (targetReset answers (some id)) (.returned () (polledView v answers.reset.frees)) := by
  obtain ⟨value, returns⟩ := completes.2
  exact (dereference_runs id _).bind (performPolled_runs completes returns)

theorem targetReset_raises (id : Nat) (stuck : ¬ Completes answers v answers.reset) :
    Runs v (targetReset answers (some id)) .raised :=
  (dereference_runs id _).bind (performPolled_raises stuck)

theorem targetReset_faults : Runs v (targetReset answers none) .faulted := (dereference_faults _).fault

theorem targetDetach_runs {id : Nat} (detaches : answers.detach .request id = none) :
    Runs v (targetDetach answers (some id)) (.returned () (setAttached id false v)) := by
  refine fun n => (targetDetach_spec id).weaken (fun _ holds => holds) (fun _ _ returned => ⟨rfl, returned.2⟩) ?_
  exact fun _ _ raised => absurd detaches raised.2.1

theorem targetDetach_raises {id : Nat} (stuck : answers.detach .request id ≠ none) :
    Runs v (targetDetach answers (some id)) .raised := by
  refine fun n => (targetDetach_spec id).weaken (fun _ holds => holds) (fun _ _ returned => ?_) ?_
  · exact absurd returned.1 stuck
  · exact fun _ _ raised => ⟨raised.1, raised.2.2.2⟩

theorem targetDetach_faults : Runs v (targetDetach answers none) .faulted := (dereference_faults _).fault

theorem targetAttach_runs {id : Nat} (attaches : AttachReturns answers v id true) :
    Runs v (targetAttach answers (some id))
      (.returned (some id) (setAttached id true (polledView (controlled id v) answers.attach.frees))) := by
  refine fun n => (targetAttach_spec id).weaken (fun _ holds => holds) (fun target server returned => ?_) ?_
  · obtain ⟨-, rfl, reached⟩ | ⟨attach, -, -⟩ := returned
    · exact ⟨rfl, reached⟩
    · cases attaches.result.symm.trans attach.result
  · exact fun _ _ raised => absurd attaches.completes raised.2.1

theorem targetAttach_refuses {id : Nat} (refuses : AttachReturns answers v id false) :
    Runs v (targetAttach answers (some id)) (.returned none (polledView (controlled id v) answers.attach.frees)) := by
  refine fun n => (targetAttach_spec id).weaken (fun _ holds => holds) (fun target server returned => ?_) ?_
  · obtain ⟨attach, -, -⟩ | ⟨-, rfl, reached⟩ := returned
    · cases refuses.result.symm.trans attach.result
    · exact ⟨rfl, reached⟩
  · exact fun _ _ raised => absurd refuses.completes raised.2.1

theorem targetAttach_raises {id : Nat} (stuck : ¬ Completes answers (controlled id v) answers.attach) :
    Runs v (targetAttach answers (some id)) .raised := by
  refine fun n => (targetAttach_spec id).weaken (fun _ holds => holds) (fun target server returned => ?_) ?_
  · obtain ⟨attach, -, -⟩ | ⟨attach, -, -⟩ := returned
    · exact absurd attach.completes stuck
    · exact absurd attach.completes stuck
  · intro reason server raised
    obtain ⟨exception, -, w, -, reached⟩ := raised
    exact ⟨exception, reached.2⟩

/-- What the driver's attach can do. -/
theorem attach_cases (answers : Answers) (v : View) (id : Nat) :
    AttachReturns answers v id true ∨ AttachReturns answers v id false ∨
      ¬ Completes answers (controlled id v) answers.attach := by
  by_cases completes : Completes answers (controlled id v) answers.attach
  · obtain ⟨value, result⟩ := completes.2
    cases value with
    | true => exact .inl ⟨completes, result⟩
    | false => exact .inr (.inl ⟨completes, result⟩)
  · exact .inr (.inr completes)

end Actions

/-- The client gets the expected number of replies exactly if the condition holds. -/
def Settles (v : View) (action : Action Unit) (expected : Nat) (condition null : Prop) : Prop :=
  ∃ total, Ends v action total null ∧ (total = expected ↔ condition)

section Handlers

variable {v : View} {answers : Answers}

theorem Ends.settles {action : Action Unit} {total expected : Nat} {null condition : Prop} (ends : Ends v action total null)
    (decides : total = expected ↔ condition) : Settles v action expected condition null :=
  ⟨total, ends, decides⟩

theorem settles_of_serves {action : Action Unit} (serves : Serves v 1 action) : Settles v action 1 True False :=
  (ends_of_serves serves).settles (iff_true_intro rfl)

theorem current_of_view {server : Server} (seen : view server = v) : server.curTarget = v.curTarget :=
  congrArg View.curTarget seen

theorem last_of_view {server : Server} (seen : view server = v) : server.lastTarget = v.lastTarget :=
  congrArg View.lastTarget seen

section Branches

variable {total : Nat} {null : Prop} {yes no : Action Unit} {id : Nat}

theorem ends_absent (free : v.curTarget = none) (ends : Ends v yes total null) :
    Ends v (read >>= fun server => if server.curTarget = none then yes else no) total null := by
  refine ends_read fun server seen => ?_
  rw [if_pos ((current_of_view seen).trans free)]
  exact ends

theorem ends_present (current : v.curTarget = some id) (ends : Ends v no total null) :
    Ends v (read >>= fun server => if server.curTarget = none then yes else no) total null := by
  refine ends_read fun server seen => ?_
  rw [if_neg (by simp [current_of_view seen, current])]
  exact ends

end Branches

/-- The replies to a packet that resumes the target. -/
def resumeReplies (v : View) : Nat := if v.curTarget = none then 1 else 0

theorem resumeReplies_absent (free : v.curTarget = none) : resumeReplies v = 1 := if_pos free

theorem resumeReplies_present {id : Nat} (current : v.curTarget = some id) : resumeReplies v = 0 :=
  if_neg (by simp [current])

private theorem handleHaltReason_ends : Ends v handleHaltReason (resumeReplies v) False := by
  cases current : v.curTarget with
  | none =>
    rw [resumeReplies_absent current]
    exact ends_absent current (ends_of_serves (gdbPutpacketz_serves _))
  | some id =>
    rw [resumeReplies_present current]
    exact ends_present current (runs_change fun _ seen => ⟨seen, rfl⟩).ends_returned

theorem handleHaltReason_settles : Settles v handleHaltReason (resumeReplies v) True False :=
  handleHaltReason_ends.settles (iff_true_intro rfl)

/-- Resuming the current target raises no exception. -/
def Resumes (answers : Answers) (v : View) : Prop := v.curTarget ≠ none → ∃ value, answers.haltResume.result = .ok value

theorem handleResume_settles (singleStep : Bool) :
    Settles v (handleResume answers singleStep) (resumeReplies v) (Resumes answers v) False := by
  cases current : v.curTarget with
  | none =>
    refine ⟨1, ends_absent current (ends_of_serves (gdbPutpacketz_serves _)), ?_⟩
    simp [resumeReplies_absent current, Resumes, current]
  | some id =>
    cases result : answers.haltResume.result with
    | ok value =>
      refine ⟨0, ends_present current ?_, ?_⟩
      · refine (onCurrent_runs current _).ends ((perform_runs result).ends ?_)
        have ends := handleHaltReason_ends (v := v)
        rwa [resumeReplies_present current] at ends
      · simp [resumeReplies_present current, Resumes, result]
    | error exception =>
      refine ⟨1, ends_present current ?_, ?_⟩
      · exact ((onCurrent_runs current _).bind (perform_raises result).raise).ends_raised
      · simp [resumeReplies_present current, Resumes, result, current]

/-- The driver returns a size that the eight bytes do not hold. -/
def Overruns (answers : Answers) : Prop :=
  ∃ regRead s val, answers.regRead = some regRead ∧ regRead.result = .ok (s, val) ∧ (s < 0 ∨ 8 < s)

theorem handleP_settles (packet : Text) :
    Settles v (errorIfNoTarget (handleP answers packet)) 1 (v.curTarget = none ∨ ¬ Overruns answers) False := by
  cases current : v.curTarget with
  | none => exact ⟨1, ends_absent current (ends_of_serves (gdbPutpacketz_serves _)), by simp⟩
  | some id =>
    rw [errorIfNoTarget, handleP]
    cases found : answers.regRead with
    | none =>
      exact ⟨1, ends_present current (ends_of_serves (gdbPutpacketz_serves _)), by simp [Overruns, found]⟩
    | some regRead =>
      cases result : regRead.result with
      | error exception =>
        refine ⟨1, ends_present current ?_, by simp [Overruns, found, result]⟩
        exact ((onCurrent_runs current _).bind (perform_raises result).raise).ends_raised
      | ok pair =>
        obtain ⟨s, val⟩ := pair
        by_cases past : s < 0 ∨ 8 < s
        · refine ⟨0, ends_present current ((onCurrent_runs current _).ends ((perform_runs result).ends ?_)), ?_⟩
          · show Ends v (if s < 0 ∨ 8 < s then _ else _) 0 False
            rw [if_pos past]
            exact fun n => meets_stop fun server holds => ⟨holds.2, Iff.rfl⟩
          · simp [Overruns, found, result, past]
        · refine ⟨1, ends_present current ((onCurrent_runs current _).ends ((perform_runs result).ends ?_)), ?_⟩
          · show Ends v (if s < 0 ∨ 8 < s then _ else _) 1 False
            rw [if_neg past]
            exact ends_of_serves (serves_ite (fun _ => gdbPutpacket_serves _) fun _ => gdbPutpacketz_serves _)
          · simp [Overruns, found, result, past]

/-- Detaching from the current target raises no exception. -/
def Releases (answers : Answers) (v : View) : Prop := ∀ id, v.curTarget = some id → answers.detach .request id = none

/-- The view once the current target is released. -/
def released (id : Nat) (v : View) : View := { setAttached id false v with lastTarget := v.curTarget, curTarget := none }

private theorem release_runs {id : Nat} (current : v.curTarget = some id) (detaches : answers.detach .request id = none) :
    Runs v (release answers) (.returned () (released id v)) := by
  refine runs_read fun server seen => ?_
  rw [current_of_view seen, current]
  refine (targetDetach_runs detaches).bind (runs_change fun server seen => ⟨?_, rfl⟩)
  show { view server with lastTarget := (view server).curTarget, curTarget := none } = released id v
  rw [seen]
  rfl

private theorem release_raises {id : Nat} (current : v.curTarget = some id) (stuck : answers.detach .request id ≠ none) :
    Runs v (release answers) .raised := by
  refine runs_read fun server seen => ?_
  rw [current_of_view seen, current]
  exact (targetDetach_raises stuck).raise

private theorem release_faults (free : v.curTarget = none) : Runs v (release answers) .faulted := by
  refine runs_read fun server seen => ?_
  rw [current_of_view seen, free]
  exact targetDetach_faults.fault

private theorem gdbSetNoackmode_runs (enable : Bool) : Runs v (gdbSetNoackmode enable) (.returned () v) := by
  intro n
  refine meets_reading fun server holds => ?_
  refine Meets.bind (show Meets _ _ (fun _ => At v n) _ from ?_) fun _ => meets_change fun _ holds => ⟨rfl, holds⟩
  refine meets_onlyIf (fun _ => meets_change fun state same => ?_) fun _ state same => same ▸ holds
  subst same
  exact ⟨holds.1, by simp [replies, isReply, ← holds.2]⟩

private theorem reply_ends {total : Nat} {null : Prop} {next : Unit → Action Unit} (body : String)
    (rest : Ends v (next ()) total null) : Ends v (gdbPutpacketz body >>= next) (total + 1) null := by
  intro n
  refine Meets.bind (show Meets _ _ (fun _ => At v (n + 1)) _ from ?_) fun _ => ?_
  · exact meets_change fun server holds => ⟨holds.1, by simp [replies, isReply, ← holds.2]⟩
  · rw [show n + (total + 1) = n + 1 + total by omega]
    exact rest (n + 1)

/-- The end of the two detach packets. -/
private theorem detached_ends (head : Byte) :
    Ends v (onlyIf (head = chr 'D') (gdbPutpacketz "OK") >>= fun _ => gdbSetNoackmode false)
      (if head = chr 'D' then 1 else 0) False := by
  by_cases same : head = chr 'D'
  · rw [onlyIf, if_pos same, if_pos same]
    refine reply_ends "OK" ?_
    exact (gdbSetNoackmode_runs false).ends_returned
  · rw [onlyIf, if_neg same, if_neg same]
    exact (runs_pure ()).ends (gdbSetNoackmode_runs false).ends_returned

private theorem handleD_ends (head : Byte) (releases : Releases answers v) :
    Ends v (handleD answers head) (if head = chr 'D' then 1 else 0) False := by
  refine ends_read fun server seen => ?_
  rw [current_of_view seen]
  cases current : v.curTarget with
  | none => exact (runs_pure ()).ends (detached_ends head)
  | some id =>
    rw [onlyIf, if_pos (by simp)]
    exact (release_runs current (releases id current)).ends (detached_ends head)

private theorem handleD_raises (head : Byte) (stuck : ¬ Releases answers v) : Ends v (handleD answers head) 1 False := by
  simp only [Releases, not_forall] at stuck
  obtain ⟨id, current, stuck⟩ := stuck
  refine ends_read fun server seen => ?_
  rw [current_of_view seen, onlyIf, if_pos (by simp [current])]
  exact (release_raises current stuck).raise.ends_raised

theorem handleD_settles : Settles v (handleD answers (chr 'D')) 1 True False := by
  by_cases releases : Releases answers v
  · exact (handleD_ends (chr 'D') releases).settles (iff_true_intro (if_pos rfl))
  · exact (handleD_raises (chr 'D') releases).settles (iff_true_intro rfl)

theorem endOfTransmission_settles : Settles v (handleD answers 4#8) 0 (Releases answers v) False := by
  by_cases releases : Releases answers v
  · exact (handleD_ends 4#8 releases).settles (iff_of_true (if_neg (by decide)) releases)
  · exact (handleD_raises 4#8 releases).settles (iff_of_false (by decide) releases)

end Handlers

section Kills

variable {v : View} {answers : Answers}

/-- A poll takes the current target with the list. -/
def Lost (v : View) (id : Nat) (frees : Bool) : Prop := frees = true ∧ id ∈ v.targetList ∧ (v.heap id).tc = true

theorem curTarget_lost {id : Nat} {frees : Bool} (current : v.curTarget = some id) (lost : Lost v id frees) :
    (polledView v frees).curTarget = none := by
  rw [polledView, if_pos lost.1]
  show cleared v v.targetList v.curTarget = none
  rw [current]
  exact if_pos lost.2

theorem curTarget_kept {id : Nat} {frees : Bool} (current : v.curTarget = some id) (kept : ¬ Lost v id frees) :
    (polledView v frees).curTarget = some id := by
  rw [polledView]
  split
  next yes =>
    show cleared v v.targetList v.curTarget = some id
    rw [current]
    exact if_neg fun listed => kept ⟨yes, listed⟩
  next => exact current

/-- The reset loses the target, and the detach follows the null pointer. -/
def KillFaults (answers : Answers) (v : View) : Prop :=
  ∃ id, v.curTarget = some id ∧ Completes answers v answers.reset ∧ Lost v id answers.reset.frees

/-- Killing raises no exception. -/
def KillQuiet (answers : Answers) (v : View) : Prop :=
  ∀ id, v.curTarget = some id →
    Completes answers v answers.reset ∧ (Lost v id answers.reset.frees ∨ answers.detach .request id = none)

private theorem killing_runs {id : Nat} {fate : Fate Unit} (current : v.curTarget = some id)
    (runs : Runs v (targetReset answers (some id) >>= fun _ => release answers) fate) :
    Runs v (handleKillTarget answers) fate := by
  refine runs_read fun server seen => ?_
  rw [onlyIf, if_pos (by simp [current_of_view seen, current])]
  refine runs_read fun server seen => ?_
  rw [current_of_view seen, current]
  exact runs

/-- The three ways a kill can end. -/
theorem handleKillTarget_runs (answers : Answers) (v : View) :
    KillFaults answers v ∧ KillQuiet answers v ∧ Runs v (handleKillTarget answers) .faulted ∨
      ¬ KillFaults answers v ∧ KillQuiet answers v ∧ (∃ w, Runs v (handleKillTarget answers) (.returned () w)) ∨
        ¬ KillFaults answers v ∧ ¬ KillQuiet answers v ∧ Runs v (handleKillTarget answers) .raised := by
  cases current : v.curTarget with
  | none =>
    refine .inr (.inl ⟨by simp [KillFaults, current], by simp [KillQuiet, current], v, runs_read fun server seen => ?_⟩)
    rw [onlyIf, if_neg (by simp [current_of_view seen, current])]
    exact runs_pure ()
  | some id =>
    by_cases completes : Completes answers v answers.reset
    · by_cases lost : Lost v id answers.reset.frees
      · refine .inl ⟨⟨id, current, completes, lost⟩, fun other same => ?_, killing_runs current ?_⟩
        · cases current.symm.trans same
          exact ⟨completes, .inl lost⟩
        · exact (targetReset_runs id completes).bind (release_faults (curTarget_lost current lost))
      · have faultless : ¬ KillFaults answers v := by
          rintro ⟨other, same, -, gone⟩
          cases current.symm.trans same
          exact lost gone
        by_cases detaches : answers.detach .request id = none
        · refine .inr (.inl ⟨faultless, fun other same => ?_, released id (polledView v answers.reset.frees),
            killing_runs current ?_⟩)
          · cases current.symm.trans same
            exact ⟨completes, .inr detaches⟩
          · exact (targetReset_runs id completes).bind (release_runs (curTarget_kept current lost) detaches)
        · refine .inr (.inr ⟨faultless, fun quiet => ?_, killing_runs current ?_⟩)
          · exact ((quiet id current).2.elim lost detaches)
          · exact (targetReset_runs id completes).bind (release_raises (curTarget_kept current lost) detaches)
    · refine .inr (.inr ⟨fun faults => ?_, fun quiet => completes (quiet id current).1, killing_runs current ?_⟩)
      · obtain ⟨-, -, resets, -⟩ := faults
        exact completes resets
      · exact (targetReset_raises id completes).raise

theorem handleKillTarget_settles :
    Settles v (handleKillTarget answers) 0 (KillQuiet answers v) (KillFaults answers v) := by
  obtain ⟨faults, quiet, runs⟩ | ⟨faultless, quiet, w, runs⟩ | ⟨faultless, loud, runs⟩ := handleKillTarget_runs answers v
  · rw [eq_true faults]
    exact runs.ends_faulted.settles (iff_of_true rfl quiet)
  · rw [eq_false faultless]
    exact runs.ends_returned.settles (iff_of_true rfl quiet)
  · rw [eq_false faultless]
    exact runs.ends_raised.settles (iff_of_false (by decide) loud)

/-- A handler that replies once unless it follows a null pointer. -/
theorem settles_unless {action : Action Unit} {null : Prop} (faults : null → Ends v action 0 True)
    (serves : ¬ null → Ends v action 1 False) : Settles v action 1 (¬ null) null := by
  by_cases follows : null
  · rw [eq_true follows]
    exact (faults follows).settles (by simp)
  · rw [eq_false follows]
    exact (serves follows).settles (by simp)

theorem handleVKill_settles : Settles v (handleVKill answers) 1 (¬ KillFaults answers v) (KillFaults answers v) := by
  refine settles_unless (fun faults => ?_) fun faultless => ?_
  · obtain ⟨-, -, runs⟩ | ⟨faultless, -⟩ | ⟨faultless, -⟩ := handleKillTarget_runs answers v
    · exact runs.fault.ends_faulted
    · exact absurd faults faultless
    · exact absurd faults faultless
  · obtain ⟨faults, -⟩ | ⟨-, -, w, runs⟩ | ⟨-, -, runs⟩ := handleKillTarget_runs answers v
    · exact absurd faults faultless
    · exact runs.ends (ends_of_serves (gdbPutpacketz_serves _))
    · exact runs.raise.ends_raised

end Kills

section Restarts

variable {v : View} {answers : Answers}

/-- The view after a successful attach. -/
def attachedView (answers : Answers) (v : View) (id : Nat) : View :=
  setAttached id true (polledView (controlled id v) answers.attach.frees)

/-- The attach to the last target is refused, and the reset follows the null pointer. -/
def RestartFaults (answers : Answers) (v : View) : Prop :=
  v.curTarget = none ∧ ∃ id, v.lastTarget = some id ∧ AttachReturns answers v id false

/-- A restart raises no exception. -/
def RestartQuiet (answers : Answers) (v : View) : Prop :=
  (v.curTarget ≠ none → Completes answers v answers.reset) ∧
    (v.curTarget = none → ∀ id, v.lastTarget = some id → Completes answers (controlled id v) answers.attach ∧
      (answers.attach.result = .ok true → Completes answers (attachedView answers v id) answers.reset))

private theorem setCurTarget_runs (target : Option Nat) :
    Runs v (setCurTarget target) (.returned () { v with curTarget := target }) := by
  refine runs_change fun server seen => ⟨?_, rfl⟩
  subst seen
  rfl

private theorem resetting_runs {id : Nat} (current : v.curTarget = some id) (completes : Completes answers v answers.reset) :
    Runs v (read >>= fun server => targetReset answers server.curTarget)
      (.returned () (polledView v answers.reset.frees)) := by
  refine runs_read fun server seen => ?_
  rw [current_of_view seen, current]
  exact targetReset_runs id completes

private theorem resetting_raises {id : Nat} (current : v.curTarget = some id) (stuck : ¬ Completes answers v answers.reset) :
    Runs v (read >>= fun server => targetReset answers server.curTarget) .raised := by
  refine runs_read fun server seen => ?_
  rw [current_of_view seen, current]
  exact targetReset_raises id stuck

private theorem reset_current_settles {id : Nat} (current : v.curTarget = some id) :
    Settles v (handleR answers) 0 (RestartQuiet answers v) (RestartFaults answers v) := by
  have faultless : RestartFaults answers v = False := by simp [RestartFaults, current]
  have quiet : RestartQuiet answers v ↔ Completes answers v answers.reset := by simp [RestartQuiet, current]
  have resets : ∀ fate, Runs v (read >>= fun server => targetReset answers server.curTarget) fate →
      Runs v (handleR answers) fate := fun fate runs => runs_read fun server seen => by
    rw [if_pos (by simp [current_of_view seen, current])]
    exact runs
  rw [faultless, quiet]
  by_cases completes : Completes answers v answers.reset
  · exact (resets _ (resetting_runs current completes)).ends_returned.settles (iff_of_true rfl completes)
  · exact (resets _ (resetting_raises current completes)).ends_raised.settles (iff_of_false (by decide) completes)

private theorem restart_nothing_settles (free : v.curTarget = none) (last : v.lastTarget = none) :
    Settles v (handleR answers) 0 (RestartQuiet answers v) (RestartFaults answers v) := by
  have faultless : RestartFaults answers v = False := by simp [RestartFaults, last]
  have quiet : RestartQuiet answers v := by simp [RestartQuiet, free, last]
  have idle : Runs v (handleR answers) (.returned () v) := by
    refine runs_read fun server seen => ?_
    rw [if_neg (by simp [current_of_view seen, free])]
    refine runs_read fun server seen => ?_
    rw [onlyIf, if_neg (by simp [last_of_view seen, last])]
    exact runs_pure ()
  rw [faultless]
  exact idle.ends_returned.settles (iff_of_true rfl quiet)

/-- A restart without a current target attaches to the last one. -/
private theorem restarting_runs {id : Nat} {fate : Fate Unit} (free : v.curTarget = none) (last : v.lastTarget = some id)
    (runs : Runs v (targetAttach answers (some id) >>= fun target => setCurTarget target >>= fun _ =>
      read >>= fun server => targetReset answers server.curTarget) fate) : Runs v (handleR answers) fate := by
  refine runs_read fun server seen => ?_
  rw [if_neg (by simp [current_of_view seen, free])]
  refine runs_read fun server seen => ?_
  rw [onlyIf, if_pos (by simp [last_of_view seen, last])]
  refine runs_read fun server seen => ?_
  rw [last_of_view seen, last]
  exact runs

private theorem restart_last_settles {id : Nat} (free : v.curTarget = none) (last : v.lastTarget = some id) :
    Settles v (handleR answers) 0 (RestartQuiet answers v) (RestartFaults answers v) := by
  have faulting : RestartFaults answers v ↔ AttachReturns answers v id false := by simp [RestartFaults, free, last]
  have quieting : RestartQuiet answers v ↔ Completes answers (controlled id v) answers.attach ∧
      (answers.attach.result = .ok true → Completes answers (attachedView answers v id) answers.reset) := by
    simp [RestartQuiet, free, last]
  rw [faulting, quieting]
  obtain attaches | refuses | stuck := attach_cases answers v id
  · have accepted : AttachReturns answers v id false = False := eq_false fun refuses => by
      cases attaches.result.symm.trans refuses.result
    rw [accepted]
    by_cases completes : Completes answers (attachedView answers v id) answers.reset
    · have restarts : Runs v (handleR answers)
          (.returned () (polledView { attachedView answers v id with curTarget := some id } answers.reset.frees)) :=
        restarting_runs free last
          ((targetAttach_runs attaches).bind ((setCurTarget_runs _).bind (resetting_runs rfl completes)))
      exact restarts.ends_returned.settles (iff_of_true rfl ⟨attaches.completes, fun _ => completes⟩)
    · refine (Runs.ends_raised (restarting_runs free last ?_)).settles
        (iff_of_false (by decide) fun quiet => completes (quiet.2 attaches.result))
      exact (targetAttach_runs attaches).bind ((setCurTarget_runs _).bind (resetting_raises rfl completes))
  · rw [eq_true refuses]
    refine (Runs.ends_faulted (restarting_runs free last ?_)).settles (iff_of_true rfl ⟨refuses.completes, fun accepted => ?_⟩)
    · refine (targetAttach_refuses refuses).bind ((setCurTarget_runs none).bind (runs_read fun server seen => ?_))
      rw [current_of_view seen]
      exact targetReset_faults
    · cases refuses.result.symm.trans accepted
  · have unanswered : AttachReturns answers v id false = False := eq_false fun refuses => stuck refuses.completes
    rw [unanswered]
    refine (Runs.ends_raised (restarting_runs free last ?_)).settles (iff_of_false (by decide) fun quiet => stuck quiet.1)
    exact (targetAttach_raises stuck).raise

theorem handleR_settles : Settles v (handleR answers) 0 (RestartQuiet answers v) (RestartFaults answers v) := by
  cases current : v.curTarget with
  | some id => exact reset_current_settles current
  | none =>
    cases last : v.lastTarget with
    | none => exact restart_nothing_settles current last
    | some id => exact restart_last_settles current last

/-- The answer to an attach by number, once it has returned. -/
private theorem attached_ends (target : Option Nat) :
    Ends v (setCurTarget target >>= fun _ => read >>= fun server =>
      if server.curTarget ≠ none then gdbPutpacketz "T05thread:1;" else gdbPutpacketz "E01") 1 False := by
  refine (setCurTarget_runs target).ends (ends_of_serves (serves_read fun server _ => ?_))
  exact serves_ite (fun _ => gdbPutpacketz_serves _) fun _ => gdbPutpacketz_serves _

theorem handleVAttach_settles (n : Nat) : Settles v (handleVAttach answers n) 1 True False := by
  refine Ends.settles ?_ (iff_true_intro (rfl : 1 = 1))
  have unnamed : ∀ {n}, Runs v (targetAttachN answers n) (.returned none v) → Ends v (handleVAttach answers n) 1 False :=
    fun runs => runs.ends (attached_ends none)
  cases n with
  | zero => exact unnamed (runs_pure none)
  | succ n =>
    cases found : v.targetList[n]? with
    | none =>
      refine unnamed (runs_read fun server seen => ?_)
      rw [show server.targetList[n]? = none by rw [← found, ← seen]; rfl]
      exact runs_pure none
    | some id =>
      have attaching : ∀ fate, Runs v (targetAttach answers (some id)) fate →
          Runs v (targetAttachN answers (n + 1)) fate := fun fate runs => runs_read fun server seen => by
        rw [show server.targetList[n]? = some id by rw [← found, ← seen]; rfl]
        exact runs
      obtain attaches | refuses | stuck := attach_cases answers v id
      · exact (attaching _ (targetAttach_runs attaches)).ends (attached_ends (some id))
      · exact (attaching _ (targetAttach_refuses refuses)).ends (attached_ends none)
      · exact (attaching _ (targetAttach_raises stuck)).raise.ends_raised

/-- The end of `vRun` with a current target. -/
private theorem running_ends {id : Nat} (current : v.curTarget = some id) (cmdline : Text) :
    Ends v (read >>= fun server => targetSetCmdline server.curTarget cmdline >>= fun _ => read >>= fun server =>
      targetReset answers server.curTarget >>= fun _ => gdbPutpacketz "T05") 1 False := by
  refine ends_read fun server seen => ?_
  rw [current_of_view seen, current]
  have setting : Runs v (targetSetCmdline (some id) cmdline)
      (.returned () (withTarget id (fun target => { target with cmdline := cmdline.take 80 }) v)) := fun n =>
    (targetSetCmdline_spec id cmdline).weaken (fun _ holds => holds) (fun _ _ reached => ⟨rfl, reached⟩)
      fun _ _ never => never.elim
  refine setting.ends (ends_read fun server seen => ?_)
  rw [current_of_view seen, show (withTarget id _ v).curTarget = some id from current]
  by_cases completes : Completes answers
      (withTarget id (fun target => { target with cmdline := cmdline.take 80 }) v) answers.reset
  · exact (targetReset_runs id completes).ends (ends_of_serves (gdbPutpacketz_serves _))
  · exact (targetReset_raises id completes).raise.ends_raised

theorem handleVRun_settles (packet : Text) : Settles v (handleVRun answers packet) 1 True False := by
  refine Ends.settles ?_ (iff_true_intro (rfl : 1 = 1))
  refine ends_read fun server seen => ?_
  cases current : v.curTarget with
  | some id =>
    rw [if_pos (by simp [current_of_view seen, current])]
    exact running_ends current _
  | none =>
    rw [if_neg (by simp [current_of_view seen, current])]
    refine ends_read fun server seen => ?_
    cases last : v.lastTarget with
    | none =>
      rw [if_neg (by simp [last_of_view seen, last])]
      exact ends_of_serves (gdbPutpacketz_serves _)
    | some id =>
      rw [if_pos (by simp [last_of_view seen, last])]
      refine ends_read fun server seen => ?_
      rw [last_of_view seen, last]
      obtain attaches | refuses | stuck := attach_cases answers v id
      · refine (targetAttach_runs attaches).ends ((setCurTarget_runs _).ends (ends_read fun server seen => ?_))
        rw [if_pos (by simp [current_of_view seen])]
        exact running_ends rfl _
      · refine (targetAttach_refuses refuses).ends ((setCurTarget_runs _).ends (ends_read fun server seen => ?_))
        rw [if_neg (by simp [current_of_view seen])]
        exact ends_of_serves (gdbPutpacketz_serves _)
      · exact (targetAttach_raises stuck).raise.ends_raised

end Restarts

section Flash

variable {v : View} {answers : Answers}

/-- The operation fails and has lost the target, and the end of it follows the null
pointer. -/
def FlashFaults (answers : Answers) (v : View) (polled : Polled Bool) : Prop :=
  ∃ id, v.curTarget = some id ∧ Completes answers v polled ∧ polled.result = .ok false ∧ Lost v id polled.frees

private theorem completing_ends {id : Nat} {reply : Bool → Action Unit} (current : v.curTarget = some id)
    (replies : ∀ w value, Serves w 1 (reply value)) :
    Ends v (read >>= fun server => targetFlashComplete answers server.curTarget >>= reply) 1 False := by
  refine ends_read fun server seen => ?_
  rw [current_of_view seen, current]
  by_cases completes : Completes answers v answers.flashComplete
  · obtain ⟨value, returns⟩ := completes.2
    exact ((dereference_runs id _).bind (performPolled_runs completes returns)).ends (ends_of_serves (replies _ value))
  · exact ((dereference_runs id _).bind (performPolled_raises completes)).raise.ends_raised

private theorem completing_faults {reply : Bool → Action Unit} (free : v.curTarget = none) :
    Ends v (read >>= fun server => targetFlashComplete answers server.curTarget >>= reply) 0 True := by
  refine ends_read fun server seen => ?_
  rw [current_of_view seen, free]
  exact (dereference_faults _).fault.fault.ends_faulted

private theorem endFlash_ends {id : Nat} (current : v.curTarget = some id) (succeeded : Bool) :
    Ends v (endFlash answers succeeded) 1 False := by
  cases succeeded with
  | true => exact ends_of_serves (gdbPutpacketz_serves _)
  | false => exact completing_ends current fun _ _ => gdbPutpacketz_serves _

private theorem endFlash_faults (free : v.curTarget = none) : Ends v (endFlash answers false) 0 True :=
  completing_faults free

/-- A flash operation on the current target and its end. -/
private theorem operation_settles {id : Nat} (current : v.curTarget = some id) (call : Call) (polled : Polled Bool) :
    Settles v (onCurrent call >>= fun _ => performPolled answers polled >>= endFlash answers) 1
      (¬ FlashFaults answers v polled) (FlashFaults answers v polled) := by
  refine settles_unless (fun faults => ?_) fun faultless => ?_
  · obtain ⟨other, same, completes, failed, lost⟩ := faults
    cases current.symm.trans same
    refine (onCurrent_runs current call).ends ((performPolled_runs completes failed).ends ?_)
    exact endFlash_faults (curTarget_lost current lost)
  · refine (onCurrent_runs current call).ends ?_
    by_cases completes : Completes answers v polled
    · obtain ⟨value, returns⟩ := completes.2
      refine (performPolled_runs completes returns).ends ?_
      cases value with
      | true => exact ends_of_serves (gdbPutpacketz_serves _)
      | false => exact endFlash_ends (curTarget_kept current fun lost => faultless ⟨id, current, completes, returns, lost⟩) _
    · exact (performPolled_raises completes).raise.ends_raised

theorem handleVFlashErase_settles (addr len : Nat) :
    Settles v (handleVFlashErase answers addr len) 1 (¬ FlashFaults answers v answers.flashErase)
      (FlashFaults answers v answers.flashErase) := by
  cases current : v.curTarget with
  | none =>
    have faultless : FlashFaults answers v answers.flashErase = False := by simp [FlashFaults, current]
    rw [faultless]
    exact (ends_absent current (ends_of_serves (gdbPutpacketz_serves _))).settles (by simp)
  | some id =>
    obtain ⟨total, ends, decides⟩ := operation_settles current (.flashErase addr len) answers.flashErase
    exact (ends_present current ends).settles decides

/-- Also a write without a target ends in `target_flash_complete`. -/
def WriteFaults (answers : Answers) (v : View) : Prop :=
  v.curTarget = none ∨ FlashFaults answers v answers.flashWrite

theorem handleVFlashWrite_settles (addr : Nat) (data : Text) :
    Settles v (handleVFlashWrite answers addr data) 1 (¬ WriteFaults answers v) (WriteFaults answers v) := by
  cases current : v.curTarget with
  | none =>
    have faults : WriteFaults answers v := .inl current
    rw [eq_true faults]
    exact (ends_absent current (endFlash_faults current)).settles (by simp)
  | some id =>
    have faults : WriteFaults answers v = FlashFaults answers v answers.flashWrite := by simp [WriteFaults, current]
    obtain ⟨total, ends, decides⟩ := operation_settles current (.flashWrite addr data) answers.flashWrite
    rw [faults]
    exact (ends_present current ends).settles decides

theorem handleVFlashDone_settles : Settles v (handleVFlashDone answers) 1 (¬ v.curTarget = none) (v.curTarget = none) := by
  refine settles_unless completing_faults fun present => ?_
  obtain ⟨id, current⟩ := Option.ne_none_iff_exists'.mp present
  exact completing_ends current fun _ _ => serves_ite (fun _ => gdbPutpacketz_serves _) fun _ => gdbPutpacketz_serves _

end Flash

section Queries

variable {v : View} {answers : Answers}

theorem handleVStopped_settles : Settles v handleVStopped 1 True False := by
  refine Ends.settles ?_ (iff_true_intro (rfl : 1 = 1))
  refine ends_read fun server seen => ?_
  split
  · refine reply_ends "W00" ?_
    exact (runs_change fun _ seen => ⟨seen, rfl⟩).ends_returned
  · exact ends_of_serves (gdbPutpacketz_serves _)

private theorem gdbPutpacketF_ends (body : Text) :
    Ends v (gdbPutpacketF answers body) (if answers.formatted then 1 else 0) False := by
  cases formatted : answers.formatted with
  | true => exact ends_of_serves (gdbPutpacketF_serves answers formatted body)
  | false =>
    rw [gdbPutpacketF, onlyIf, if_neg (by simp [formatted])]
    exact (runs_pure ()).ends_returned

private theorem formatted_iff : (if answers.formatted then 1 else 0) = 1 ↔ answers.formatted = true := by
  cases answers.formatted <;> simp

theorem execQSupported_settles : Settles v (execQSupported answers) 1 (answers.formatted = true) False :=
  ((gdbSetNoackmode_runs false).ends (gdbPutpacketF_ends _)).settles formatted_iff

/-- The parameters parse and the text of the answer can be made. -/
def CrcAnswered (answers : Answers) (v : View) (param : Text) : Prop :=
  (Scan.sscanf param ([.hex none] ++ Scan.text "," ++ [.hex none])).count = 2 ∧
    (v.curTarget = none ∨ (∀ crc, answers.crc32.result ≠ .ok (some crc)) ∨ answers.formatted = true)

theorem execQCrc_settles (param : Text) : Settles v (execQCrc answers param) 1 (CrcAnswered answers v param) False := by
  rw [execQCrc]
  by_cases parsed : (Scan.sscanf param ([.hex none] ++ Scan.text "," ++ [.hex none])).count = 2
  · rw [onlyIf, if_pos parsed]
    cases current : v.curTarget with
    | none =>
      exact (ends_absent current (ends_of_serves (gdbPutpacketz_serves _))).settles
        (iff_of_true (rfl : 1 = 1) ⟨parsed, .inl current⟩)
    | some id =>
      cases result : answers.crc32.result with
      | error exception =>
        refine Ends.settles (ends_present current ?_) (iff_of_true (rfl : 1 = 1) ⟨parsed, .inr (.inl (by simp [result]))⟩)
        exact ((onCurrent_runs current _).bind (perform_raises result).raise).ends_raised
      | ok value =>
        cases value with
        | none =>
          refine Ends.settles (ends_present current ?_) (iff_of_true (rfl : 1 = 1) ⟨parsed, .inr (.inl (by simp [result]))⟩)
          exact (onCurrent_runs current _).ends ((perform_runs result).ends (ends_of_serves (gdbPutpacketz_serves _)))
        | some crc =>
          refine Ends.settles (ends_present current
            ((onCurrent_runs current _).ends ((perform_runs result).ends (gdbPutpacketF_ends _)))) ?_
          rw [formatted_iff]
          refine ⟨fun formatted => ⟨parsed, .inr (.inr formatted)⟩, fun answered => ?_⟩
          obtain free | failing | formatted := answered.2
          · cases current.symm.trans free
          · exact absurd result (failing crc)
          · exact formatted
  · rw [onlyIf, if_neg parsed]
    exact (runs_pure ()).ends_returned.settles (iff_of_false (by decide) fun answered => parsed answered.1)

private theorem commandProcess_quiet (target : Option Nat) (cmdBuffer : Text) (n : Nat) :
    Meets (fun server => replies server = n) (commandProcess answers target cmdBuffer)
      (fun _ server => replies server = n) (fun reason server => Raised reason ∧ replies server = n) := by
  have quiet : ∀ {α : Type} {action : Action α}, (∀ v, Meets (At v n) action (fun _ server => replies server = n)
      (fun reason server => Raised reason ∧ replies server = n)) →
      Meets (fun server => replies server = n) action (fun _ server => replies server = n)
        (fun reason server => Raised reason ∧ replies server = n) :=
    fun met server holds => met (view server) server ⟨rfl, holds⟩
  have bears : Bears answers (fun server => replies server = n) (fun reason server => Raised reason ∧ replies server = n) :=
    { raised := fun _ _ holds => holds.2
      printing := fun text => quiet fun v => (gdbOut_serves text n).weaken (fun _ holds => holds)
        (fun _ _ reached => reached.2) fun _ _ stopped => ⟨stopped.1, stopped.2.2⟩
      following := fun id call => quiet fun v => (dereference_spec id call).weaken (fun _ holds => holds)
        (fun _ _ reached => reached.2.2) fun _ _ never => never.elim
      freeing := fun place => quiet fun v => (targetListFree_spec place).weaken (fun _ holds => holds)
        (fun _ _ reached => reached.2.2) fun _ _ ⟨raised, _, w, _, reached⟩ => ⟨raised, reached.2⟩
      polling := fun polled => quiet fun v => (performPolled_spec polled).weaken (fun _ holds => holds)
        (fun _ _ reached => reached.2.2.2) fun _ _ ⟨raised, _, w, _, reached⟩ => ⟨raised, reached.2⟩
      scanning := fun scan => quiet fun v => (runScan_spec scan).weaken (fun _ holds => holds)
        (fun _ _ reached => reached.2) fun _ _ ⟨raised, w, _, reached⟩ => ⟨raised, reached.2⟩ }
  exact bears.commandProcess target cmdBuffer

theorem execQRcmd_settles (pbuf : Buffer) (size : Nat) : Settles v (execQRcmd answers pbuf size) 1 True False := by
  refine Ends.settles ?_ (iff_true_intro (rfl : 1 = 1))
  refine ends_read fun server seen n => ?_
  refine Meets.bind ((commandProcess_quiet _ _ n).weaken (fun _ holds => holds.2) (fun _ _ quiet => quiet) ?_) fun c => ?_
  · intro reason server stopped
    obtain ⟨extra, follows⟩ := raised_replies stopped.1
    exact ⟨by rw [stopped.2, extra], iff_false_intro follows⟩
  · intro server quiet
    refine ends_of_serves ?_ n server ⟨rfl, quiet⟩
    refine serves_ite (fun _ => gdbPutpacketz_serves _) fun _ => ?_
    exact serves_ite (fun _ => gdbPutpacketz_serves _) fun _ => gdbPutpacket_serves _

end Queries

end BlackMagic.Proofs.ServerEndings
