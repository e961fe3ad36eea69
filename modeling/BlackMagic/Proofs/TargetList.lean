import BlackMagic.Proofs.ServerFrame

/-! What freeing the list, polling, attaching and scanning do to the view, exactly: the
destroy callback clears the pointers to the targets it is called for, and an exception in the
middle of freeing leaves the list as it was. -/

namespace BlackMagic.Proofs.TargetList
open BlackMagic.Targets BlackMagic.Commands BlackMagic.Server Lib Lib.Program ServerFrame

section Views

/-- A pointer after the destroy callback of a target. -/
def dropped (id : Nat) (pointer : Option Nat) : Option Nat := if pointer = some id then none else pointer

def called (id : Nat) (v : View) : View :=
  { v with curTarget := dropped id v.curTarget, lastTarget := dropped id v.lastTarget }

/-- A pointer after the targets in `done` are gone. -/
def cleared (v : View) (done : List Nat) : Option Nat → Option Nat
  | none => none
  | some id => if id ∈ done ∧ (v.heap id).tc = true then none else some id

def after (v : View) (done : List Nat) : View :=
  { v with curTarget := cleared v done v.curTarget, lastTarget := cleared v done v.lastTarget }

/-- The view once the list is freed. -/
def freed (v : View) : View := { after v v.targetList with targetList := [] }

def polledView (v : View) (frees : Bool) : View := if frees then freed v else v

def withTarget (id : Nat) (f : Target → Target) (v : View) : View :=
  { v with heap := fun other => if other = id then f (v.heap id) else v.heap other }

/-- The view in which the driver's attach is called. -/
def controlled (id : Nat) (v : View) : View :=
  withTarget id (fun target => { target with tc := true }) (if (v.heap id).tc then called id v else v)

def setAttached (id : Nat) (attached : Bool) (v : View) : View :=
  withTarget id (fun target => { target with attached := attached }) v

/-- One more target on the list. -/
def created (v : View) : View :=
  { v with
    heap := fun id => if id = v.allocated then ⟨false, false, []⟩ else v.heap id
    targetList := v.targetList ++ [v.allocated]
    allocated := v.allocated + 1 }

/-- The view after a scan that has found this many targets. -/
def scanned (v : View) (found : Nat) : View := created^[found] (freed v)

@[simp] theorem after_heap (v : View) (done : List Nat) : (after v done).heap = v.heap := rfl

@[simp] theorem after_targetList (v : View) (done : List Nat) : (after v done).targetList = v.targetList := rfl

theorem dropped_self {id : Nat} {pointer : Option Nat} (same : pointer = some id) : dropped id pointer = none := by
  rw [dropped, if_pos same]

theorem dropped_other {id : Nat} {pointer : Option Nat} (other : pointer ≠ some id) : dropped id pointer = pointer := by
  rw [dropped, if_neg other]

theorem cleared_nil (v : View) (pointer : Option Nat) : cleared v [] pointer = pointer := by
  cases pointer with
  | none => rfl
  | some id => simp [cleared]

theorem after_nil (v : View) : after v [] = v := by simp [after, cleared_nil]

private theorem cleared_snoc (v : View) (done : List Nat) (id : Nat) (pointer : Option Nat) :
    cleared v (done ++ [id]) pointer =
      if (v.heap id).tc then dropped id (cleared v done pointer) else cleared v done pointer := by
  cases pointer with
  | none => simp [cleared, dropped]
  | some other =>
    by_cases same : other = id
    · subst same
      by_cases early : other ∈ done
      · by_cases held : (v.heap other).tc <;> simp [cleared, dropped, early, held]
      · by_cases held : (v.heap other).tc <;> simp [cleared, dropped, early, held]
    · have listed : other ∈ done ++ [id] ↔ other ∈ done := by simp [same]
      by_cases early : other ∈ done ∧ (v.heap other).tc = true
      · simp [cleared, dropped, listed, early]
      · simp [cleared, dropped, listed, early, same]

theorem after_snoc (v : View) (done : List Nat) (id : Nat) :
    after v (done ++ [id]) = if (v.heap id).tc then called id (after v done) else after v done := by
  simp only [after, cleared_snoc, called]
  split <;> rfl

end Views

variable {v : View} {n : Nat} {answers : Answers}

private theorem at_heap {server : Server} (holds : At v n server) : server.heap = v.heap := congrArg View.heap holds.1

/-- Console text changes neither the view nor the replies. -/
theorem gdbOut_each_spec (texts : List Text) :
    Meets (At v n) (each gdbOut texts) (fun _ => At v n) (fun _ _ => False) :=
  meets_each fun _ _ => meets_change fun _ holds => ⟨holds.1, by simp [replies, isReply, ← holds.2]⟩

section Freeing

theorem gdbTargetDestroyCallback_spec (id : Nat) :
    Meets (At v n) (gdbTargetDestroyCallback id) (fun _ => At (called id v) n) (fun _ _ => False) := by
  refine meets_reading fun server holds => ?_
  obtain ⟨rfl, rfl⟩ := holds
  refine Meets.bind (show Meets _ _
    (fun _ => At { view server with curTarget := dropped id server.curTarget } (replies server)) _ from ?_) fun _ => ?_
  · refine meets_onlyIf (fun current => ?_) fun other => ?_
    · intro state same
      subst same
      exact ⟨by rw [dropped_self current]; rfl, by simp [replies, isReply, List.countP_append]⟩
    · intro state same
      subst same
      exact ⟨by rw [dropped_other other]; rfl, rfl⟩
  · refine meets_reading fun middle holds => ?_
    have last : (view server).lastTarget = middle.lastTarget := (congrArg View.lastTarget holds.1).symm
    refine meets_onlyIf (fun previous => ?_) fun other => ?_
    · intro state same
      subst same
      refine ⟨?_, holds.2⟩
      show { view state with lastTarget := none } = called id (view server)
      rw [holds.1, called, dropped_self (last.trans previous)]
      rfl
    · intro state same
      subst same
      refine ⟨holds.1.trans ?_, holds.2⟩
      rw [called, dropped_other (last ▸ other : (view server).lastTarget ≠ some id)]
      rfl

/-- Freeing this target raises no exception. -/
def Detaches (answers : Answers) (place : Place) (v : View) (id : Nat) : Prop :=
  (v.heap id).attached = true → answers.detach place id = none

def Detachable (answers : Answers) (place : Place) (v : View) : Prop := ∀ id ∈ v.targetList, Detaches answers place v id

/-- Freeing the list stops at a target that does not detach. -/
def Interrupted (answers : Answers) (place : Place) (v w : View) : Prop :=
  ∃ first id last, v.targetList = first ++ id :: last ∧ ¬ Detaches answers place v id ∧ w = after v first

theorem driverDetach_spec (place : Place) (id : Nat) :
    Meets (At v n) (driverDetach answers place id) (fun _ server => answers.detach place id = none ∧ At v n server)
      (fun reason server => Raised reason ∧ answers.detach place id ≠ none ∧ At v n server) := by
  rw [driverDetach]
  cases found : answers.detach place id with
  | none => exact meets_pure fun _ holds => ⟨rfl, holds⟩
  | some exception => exact meets_stop fun _ holds => ⟨⟨exception, rfl⟩, by simp, holds⟩

private theorem freeTarget_spec (place : Place) (done : List Nat) (id : Nat) :
    Meets (At (after v done) n) (freeTarget answers place id)
      (fun _ server => Detaches answers place v id ∧ At (after v (done ++ [id])) n server)
      (fun reason server => Raised reason ∧ ¬ Detaches answers place v id ∧ At (after v done) n server) := by
  refine meets_reading fun server holds => ?_
  have heap : server.heap = (after v done).heap := at_heap holds
  refine Meets.bind (show Meets _ _
    (fun _ server => Detaches answers place v id ∧ At (after v done) n server) _ from ?_) fun _ => ?_
  · rw [heap]
    refine meets_onlyIf (fun attached => ?_) fun detached state same => ?_
    · refine (driverDetach_spec place id).weaken (fun state same => same ▸ holds) ?_ ?_
      · exact fun _ state detached => ⟨fun _ => detached.1, detached.2⟩
      · exact fun _ state raised => ⟨raised.1, fun detaches => raised.2.1 (detaches attached), raised.2.2⟩
    · exact ⟨fun attached => absurd attached detached, same ▸ holds⟩
  · refine meets_given fun detaches => meets_reading fun server holds => ?_
    have heap : server.heap = (after v done).heap := at_heap holds
    rw [heap, after_heap, after_snoc]
    refine meets_onlyIf (fun controlled => ?_) fun free state same => ?_
    · rw [if_pos controlled]
      refine (gdbTargetDestroyCallback_spec id).weaken (fun state same => same ▸ holds) ?_ ?_
      · exact fun _ state called => ⟨detaches, called⟩
      · exact fun _ _ never => never.elim
    · rw [if_neg free]
      exact ⟨detaches, same ▸ holds⟩

private theorem freeTargets_spec (place : Place) (rest done : List Nat) :
    Meets (At (after v done) n) (each (freeTarget answers place) rest)
      (fun _ server => (∀ id ∈ rest, Detaches answers place v id) ∧ At (after v (done ++ rest)) n server)
      (fun reason server => Raised reason ∧ ∃ first id last,
        rest = first ++ id :: last ∧ ¬ Detaches answers place v id ∧ At (after v (done ++ first)) n server) := by
  induction rest generalizing done with
  | nil =>
    refine meets_pure fun server holds => ⟨by simp, ?_⟩
    rwa [List.append_nil]
  | cons id rest ih =>
    refine Meets.bind ((freeTarget_spec place done id).halting ?_) fun _ => ?_
    · intro reason server raised
      refine ⟨raised.1, [], id, rest, rfl, raised.2.1, ?_⟩
      rw [List.append_nil]
      exact raised.2.2
    · refine meets_given fun detaches => (ih (done ++ [id])).weaken (fun _ holds => holds) ?_ ?_
      · intro _ state finished
        rw [List.append_assoc] at finished
        refine ⟨fun other listed => ?_, finished.2⟩
        cases listed with
        | head => exact detaches
        | tail _ later => exact finished.1 other later
      · intro reason state raised
        obtain ⟨exception, first, other, last, split, stuck, reached⟩ := raised
        refine ⟨exception, id :: first, other, last, by rw [split]; rfl, stuck, ?_⟩
        rwa [List.append_assoc] at reached

theorem targetListFree_spec (place : Place) :
    Meets (At v n) (targetListFree answers place)
      (fun _ server => Detachable answers place v ∧ At (freed v) n server)
      (fun reason server => Raised reason ∧ ¬ Detachable answers place v ∧
        ∃ w, Interrupted answers place v w ∧ At w n server) := by
  refine meets_reading fun server holds => ?_
  have list : server.targetList = v.targetList := congrArg View.targetList holds.1
  rw [list]
  have freeing : Meets (At (after v []) n) (each (freeTarget answers place) v.targetList) _ _ :=
    freeTargets_spec place v.targetList []
  rw [after_nil] at freeing
  refine Meets.bind (freeing.weaken (fun state same => same ▸ holds) (fun _ _ finished => finished) ?_) fun _ => ?_
  · intro reason state raised
    obtain ⟨exception, first, id, last, split, stuck, reached⟩ := raised
    refine ⟨exception, fun all => ?_, after v first, ⟨first, id, last, split, stuck, rfl⟩, reached⟩
    exact stuck (all id (by simp [split]))
  · refine meets_change fun state finished => ⟨finished.1, ?_, finished.2.2⟩
    show { view state with targetList := [] } = freed v
    rw [finished.2.1]
    rfl

end Freeing

section Polling

/-- The call returns, with its own result. -/
def Completes {α : Type} (answers : Answers) (v : View) (polled : Polled α) : Prop :=
  (polled.frees = true → Detachable answers .listFree v) ∧ ∃ value, polled.result = .ok value

/-- Where an exception in a call that polls leaves the view. -/
def Struck (answers : Answers) (v w : View) : Prop := w = v ∨ w = freed v ∨ Interrupted answers .listFree v w

theorem performPolled_spec {α : Type} (polled : Polled α) :
    Meets (At v n) (performPolled answers polled)
      (fun value server => Completes answers v polled ∧ polled.result = .ok value ∧
        At (polledView v polled.frees) n server)
      (fun reason server => Raised reason ∧ ¬ Completes answers v polled ∧
        ∃ w, Struck answers v w ∧ At w n server) := by
  refine Meets.bind (gdbOut_each_spec polled.console).unstopped fun _ => ?_
  refine Meets.bind (show Meets _ _ (fun _ server => (polled.frees = true → Detachable answers .listFree v) ∧
    At (polledView v polled.frees) n server) _ from ?_) fun _ => meets_given fun detachable => ?_
  · refine meets_onlyIf (fun frees => ?_) fun keeps server holds => ?_
    · rw [polledView, if_pos frees]
      refine (targetListFree_spec .listFree).weaken (fun _ holds => holds) ?_ ?_
      · exact fun _ server finished => ⟨fun _ => finished.1, finished.2⟩
      · intro reason server raised
        obtain ⟨exception, stuck, w, interrupted, reached⟩ := raised
        exact ⟨exception, fun completes => stuck (completes.1 frees), w, .inr (.inr interrupted), reached⟩
    · rw [polledView, if_neg keeps]
      exact ⟨fun frees => absurd frees keeps, holds⟩
  · cases result : polled.result with
    | ok value => exact meets_pure fun server holds => ⟨⟨detachable, value, result⟩, rfl, holds⟩
    | error exception =>
      refine meets_stop fun server holds => ⟨⟨exception, rfl⟩, fun completes => ?_, polledView v polled.frees, ?_, holds⟩
      · obtain ⟨value, returned⟩ := completes.2
        rw [result] at returned
        cases returned
      · cases polled.frees with
        | true => exact .inr (.inl rfl)
        | false => exact .inl rfl

end Polling

section Targets

theorem dereference_spec (id : Nat) (call : Call) :
    Meets (At v n) (dereference (some id) call) (fun found server => found = id ∧ At v n server) (fun _ _ => False) :=
  Meets.bind (meets_change fun _ holds => holds) fun _ => meets_pure fun _ holds => ⟨rfl, holds⟩

theorem updateTarget_spec (id : Nat) (f : Target → Target) :
    Meets (At v n) (updateTarget id f) (fun _ => At (withTarget id f v) n) (fun _ _ => False) := by
  refine meets_change fun server holds => ⟨?_, holds.2⟩
  obtain ⟨rfl, -⟩ := holds
  rfl

theorem targetDetach_spec (id : Nat) :
    Meets (At v n) (targetDetach answers (some id))
      (fun _ server => answers.detach .request id = none ∧ At (setAttached id false v) n server)
      (fun reason server => Raised reason ∧ answers.detach .request id ≠ none ∧ At v n server) := by
  refine Meets.bind (dereference_spec id .detach).unstopped fun found => meets_given fun same => ?_
  subst same
  refine Meets.bind (driverDetach_spec .request found) fun _ => meets_given fun detached => ?_
  refine (updateTarget_spec found _).weaken (fun _ holds => holds) (fun _ _ holds => ⟨detached, holds⟩) ?_
  exact fun _ _ never => never.elim

/-- What the driver's attach decides. -/
structure AttachReturns (answers : Answers) (v : View) (id : Nat) (value : Bool) : Prop where
  completes : Completes answers (controlled id v) answers.attach
  result : answers.attach.result = .ok value

theorem targetAttach_spec (id : Nat) :
    Meets (At v n) (targetAttach answers (some id))
      (fun target server =>
        AttachReturns answers v id true ∧ target = some id ∧
            At (setAttached id true (polledView (controlled id v) answers.attach.frees)) n server ∨
          AttachReturns answers v id false ∧ target = none ∧
            At (polledView (controlled id v) answers.attach.frees) n server)
      (fun reason server => Raised reason ∧ ¬ Completes answers (controlled id v) answers.attach ∧
        ∃ w, Struck answers (controlled id v) w ∧ At w n server) := by
  refine Meets.bind (dereference_spec id .attach).unstopped fun found => ?_
  refine meets_given fun same => meets_reading fun server holds => ?_
  subst same
  have heap : server.heap = v.heap := at_heap holds
  refine Meets.bind (show Meets _ _ (fun _ => At (if (v.heap found).tc then called found v else v) n) _ from ?_) fun _ => ?_
  · rw [heap]
    refine meets_onlyIf (fun held => ?_) fun free state same => ?_
    · rw [if_pos held]
      refine (gdbTargetDestroyCallback_spec found).weaken (fun state same => same ▸ holds) (fun _ _ called => called) ?_
      exact fun _ _ never => never.elim
    · rw [if_neg free]
      exact same ▸ holds
  refine Meets.bind (show Meets _ _ (fun _ => At (controlled found v) n) _ from (updateTarget_spec found _).unstopped)
    fun _ => ?_
  refine Meets.bind (performPolled_spec answers.attach) fun value => ?_
  refine meets_given fun completes => meets_given fun result => ?_
  cases value with
  | false => exact meets_pure fun _ holds => .inr ⟨⟨completes, result⟩, rfl, holds⟩
  | true =>
    refine Meets.bind (updateTarget_spec found _).unstopped fun _ => ?_
    exact meets_pure fun _ holds => .inl ⟨⟨completes, result⟩, rfl, holds⟩

theorem targetSetCmdline_spec (id : Nat) (cmdline : Text) :
    Meets (At v n) (targetSetCmdline (some id) cmdline)
      (fun _ => At (withTarget id (fun target => { target with cmdline := cmdline.take 80 }) v) n) (fun _ _ => False) := by
  refine Meets.bind (dereference_spec id _) fun found => meets_given fun same => ?_
  subst same
  exact updateTarget_spec found _

theorem targetNew_spec : Meets (At v n) targetNew (fun _ => At (created v) n) (fun _ _ => False) := by
  refine meets_change fun server holds => ⟨?_, holds.2⟩
  obtain ⟨rfl, -⟩ := holds
  rfl

private theorem targetsNew_spec (list : List Nat) :
    Meets (At v n) (each (fun _ => targetNew) list) (fun _ => At (created^[list.length] v) n) (fun _ _ => False) := by
  induction list generalizing v with
  | nil => exact meets_pure fun _ holds => holds
  | cons first rest ih => exact Meets.bind targetNew_spec fun _ => ih

theorem runScan_spec (scan : Scan) :
    Meets (At v n) (runScan answers scan) (fun _ => At (scanned v scan.found) n)
      (fun reason server => Raised reason ∧
        ∃ w, (w = scanned v scan.found ∨ Interrupted answers .listFree v w) ∧ At w n server) := by
  refine Meets.bind ((targetListFree_spec .listFree).weaken (fun _ holds => holds) (fun _ _ finished => finished.2) ?_)
    fun _ => ?_
  · intro reason server raised
    obtain ⟨exception, -, w, interrupted, reached⟩ := raised
    exact ⟨exception, w, .inr interrupted, reached⟩
  refine Meets.bind (show Meets _ _ (fun _ => At (scanned v scan.found) n) _ from ?_) fun _ => ?_
  · refine (targetsNew_spec (List.range scan.found)).weaken (fun _ holds => holds) ?_ fun _ _ never => never.elim
    rw [List.length_range]
    exact fun _ _ holds => holds
  refine Meets.bind (gdbOut_each_spec scan.console).unstopped fun _ => ?_
  cases scan.result with
  | ok value => exact meets_pure fun _ holds => holds
  | error exception => exact meets_stop fun _ holds => ⟨⟨exception, rfl⟩, _, .inl rfl, holds⟩

end Targets

section Recovery

/-- What the main loop does after an exception. -/
def recovering (answers : Answers) (exception : Exception) : Action Unit := do
  gdbPutpacketz "EFF"
  rescue (targetListFree answers .recovery) fun _ => stop .abort
  gdbOut (ascii "Uncaught exception: " ++ exception.msg ++ ascii "\n")

theorem recovering_spec (exception : Exception) :
    Meets (At v n) (recovering answers exception) (fun _ => At (freed v) (n + 1))
      (fun _ server => replies server = n + 1) := by
  refine Meets.bind (show Meets _ _ (fun _ => At v (n + 1)) _ from ?_) fun _ => ?_
  · exact meets_change fun server holds => ⟨holds.1, by simp [replies, isReply, ← holds.2]⟩
  have freeing : Meets (At v (n + 1)) (targetListFree answers .recovery) (fun _ => At (freed v) (n + 1))
      (fun _ server => replies server = n + 1) := by
    refine (targetListFree_spec .recovery).weaken (fun _ holds => holds) (fun _ _ finished => finished.2) ?_
    intro reason server raised
    obtain ⟨-, -, w, -, reached⟩ := raised
    exact reached.2
  refine Meets.bind (Meets.rescue freeing fun _ => ?_) fun _ => ?_
  · exact meets_stop fun _ holds => holds
  · exact meets_change fun server holds => ⟨holds.1, by simp [replies, isReply, ← holds.2]⟩

/-- The main loop catches the exceptions of its body and nothing else. -/
theorem mainLoop_meets {body : Action Unit} {before : Server → Prop} {last : Unit → Server → Prop}
    {middle stopped : Stop → Server → Prop} (handled : Meets before body last middle)
    (recovers : ∀ exception, Meets (middle (.raised exception)) (recovering answers exception) last stopped)
    (passes : ∀ reason server, ¬ Raised reason → middle reason server → stopped reason server) :
    Meets before (mainLoop answers body) last stopped := by
  refine Meets.rescue handled fun reason => ?_
  cases reason with
  | raised exception => exact recovers exception
  | nullTarget call => exact meets_stop fun server holds => passes _ server (by simp [Raised]) holds
  | overrun => exact meets_stop fun server holds => passes _ server (by simp [Raised]) holds
  | abort => exact meets_stop fun server holds => passes _ server (by simp [Raised]) holds

end Recovery

/-- An assertion that the parts of the monitor commands keep, and what holds at their
stops. -/
structure Bears (answers : Answers) (kept : Server → Prop) (stopped : Stop → Server → Prop) : Prop where
  raised : ∀ exception server, stopped (.raised exception) server → kept server
  printing : ∀ text, Meets kept (gdbOut text) (fun _ => kept) stopped
  following : ∀ id call, Meets kept (dereference (some id) call) (fun _ => kept) stopped
  freeing : ∀ place, Meets kept (targetListFree answers place) (fun _ => kept) stopped
  polling : ∀ polled : Polled Bool, Meets kept (performPolled answers polled) (fun _ => kept) stopped
  scanning : ∀ scan, Meets kept (runScan answers scan) (fun _ => kept) stopped

section Commands

variable {kept : Server → Prop} {stopped : Stop → Server → Prop}

private theorem unchanged {α : Type} (value : α) : Meets kept (pure value : Action α) (fun _ => kept) stopped :=
  meets_pure fun _ holds => holds

variable (bears : Bears answers kept stopped)
include bears

private theorem Bears.prints {next : Action Bool} (text : Text) (rest : Meets kept next (fun _ => kept) stopped) :
    Meets kept (gdbOut text >>= fun _ => next) (fun _ => kept) stopped :=
  Meets.bind (bears.printing text) fun _ => rest

theorem Bears.cmdTargets : Meets kept (cmdTargets answers) (fun _ => kept) stopped := by
  refine bears.prints _ (bears.prints _ (Meets.bind (meets_each fun text _ => bears.printing text) fun _ => ?_))
  refine Meets.bind (meets_read fun _ holds => holds) fun _ => meets_ite (fun _ => ?_) fun _ => unchanged true
  exact bears.prints _ (unchanged false)

theorem Bears.scanCommand {scan : Action Bool} (scanning : Meets kept scan (fun _ => kept) stopped) (failure : String) :
    Meets kept (scanCommand answers scan failure) (fun _ => kept) stopped := by
  refine Meets.bind (Meets.rescue scanning fun reason => ?_) fun found => ?_
  · cases reason with
    | raised exception =>
      exact (bears.prints _ (unchanged false)).starting (bears.raised exception)
    | nullTarget call => exact meets_stop fun _ holds => holds
    | overrun => exact meets_stop fun _ holds => holds
    | abort => exact meets_stop fun _ holds => holds
  · refine meets_ite (fun _ => bears.prints _ (unchanged false)) fun _ => ?_
    exact Meets.bind bears.cmdTargets fun _ => unchanged true

private theorem Bears.cmdInform : Meets kept (cmdInform answers) (fun _ => kept) stopped :=
  Meets.bind (meets_each fun text _ => bears.printing text) fun _ => unchanged true

private theorem Bears.cmdReset : Meets kept (cmdReset answers) (fun _ => kept) stopped :=
  Meets.bind (bears.freeing _) fun _ => unchanged true

theorem Bears.handler (command : Command) : Meets kept (handler answers command) (fun _ => kept) stopped := by
  cases command with
  | jtagScan => exact bears.scanCommand (bears.scanning _) _
  | swdScan => exact bears.scanCommand (bears.scanning _) _
  | rvswdScan => exact bears.scanCommand (unchanged false) _
  | autoScan =>
    refine bears.scanCommand (Meets.bind (bears.scanning _) fun _ => meets_ite (fun _ => unchanged true) fun _ => ?_) _
    refine bears.prints _ (Meets.bind (bears.scanning _) fun _ => meets_ite (fun _ => unchanged true) fun _ => ?_)
    exact bears.prints _ (unchanged false)
  | targets => exact bears.cmdTargets
  | reset => exact bears.cmdReset
  | tdiLowReset => exact bears.cmdReset
  | uartScan => exact Meets.bind (meets_each fun text _ => bears.printing text) fun _ => unchanged _
  | version => exact bears.cmdInform
  | help => exact bears.cmdInform
  | frequency => exact bears.cmdInform
  | morse => exact bears.cmdInform
  | haltTimeout => exact bears.cmdInform
  | connectReset => exact bears.cmdInform
  | uartSend => exact bears.cmdInform
  | traceswo => exact bears.cmdInform
  | heapinfo => exact bears.cmdInform

theorem Bears.commandProcess (target : Option Nat) (cmdBuffer : Text) :
    Meets kept (commandProcess answers target cmdBuffer) (fun _ => kept) stopped := by
  rw [Commands.commandProcess]
  cases lookup (tokens (cString cmdBuffer)) with
  | some command => exact Meets.bind (bears.handler command) fun _ => unchanged _
  | none =>
    refine meets_ite (fun _ => unchanged _) fun present => ?_
    obtain ⟨id, found⟩ := Option.ne_none_iff_exists'.mp present
    rw [found]
    refine Meets.bind (bears.following id _) fun _ => ?_
    cases answers.command with
    | none => exact unchanged _
    | some handled => exact Meets.bind (bears.polling handled) fun _ => unchanged _

end Commands

end BlackMagic.Proofs.TargetList
