import Mathlib.Data.List.Basic

/-! Programs over a state that may stop early, and assertions about how they end. The
state survives a stop, as it does when C code leaves a function by `longjmp`. -/

namespace BlackMagic.Lib

/-- A program over states `σ` that returns an `α` or stops with an `ε`. -/
def Program (σ ε α : Type) := σ → Except ε α × σ

namespace Program

variable {σ ε α β : Type}

instance : Monad (Program σ ε) where
  pure value := fun state => (.ok value, state)
  bind program next := fun state =>
    match program state with
    | (.ok value, after) => next value after
    | (.error stop, after) => (.error stop, after)

def read : Program σ ε σ := fun state => (.ok state, state)

def change (f : σ → σ) : Program σ ε Unit := fun state => (.ok (), f state)

def stop (reason : ε) : Program σ ε α := fun state => (.error reason, state)

/-- Go on with `handler` after a stop. -/
def rescue (program : Program σ ε α) (handler : ε → Program σ ε α) : Program σ ε α := fun state =>
  match program state with
  | (.ok value, after) => (.ok value, after)
  | (.error reason, after) => handler reason after

/-- Run a program if a condition holds. -/
def onlyIf (condition : Prop) [Decidable condition] (program : Program σ ε Unit) : Program σ ε Unit :=
  if condition then program else pure ()

/-- Run a program for each element of a list. -/
def each (program : β → Program σ ε Unit) : List β → Program σ ε Unit
  | [] => pure ()
  | first :: rest => do
    program first
    each program rest

theorem bind_returned {program : Program σ ε α} {next : α → Program σ ε β} {state after : σ} {value : α}
    (returns : program state = (.ok value, after)) : (program >>= next) state = next value after := by
  show (match program state with
    | (.ok value, after) => next value after
    | (.error stop, after) => (.error stop, after)) = _
  rw [returns]

theorem bind_stopped {program : Program σ ε α} {next : α → Program σ ε β} {state after : σ} {reason : ε}
    (stops : program state = (.error reason, after)) : (program >>= next) state = (.error reason, after) := by
  show (match program state with
    | (.ok value, after) => next value after
    | (.error stop, after) => (.error stop, after)) = _
  rw [stops]

theorem bind_bind {γ : Type} (program : Program σ ε α) (next : α → Program σ ε β) (last : β → Program σ ε γ) :
    (program >>= next) >>= last = program >>= fun value => next value >>= last := by
  funext state
  cases running : program state with
  | mk ending middle =>
    cases ending with
    | error reason => rw [bind_stopped (bind_stopped running), bind_stopped running]
    | ok value =>
      have first : (program >>= next) state = next value middle := bind_returned running
      rw [bind_returned running]
      cases rest : next value middle with
      | mk ending final =>
        rw [rest] at first
        cases ending with
        | ok value => rw [bind_returned first, bind_returned rest]
        | error reason => rw [bind_stopped first, bind_stopped rest]

theorem read_bind {next : σ → Program σ ε α} {state : σ} : (read >>= next) state = next state state := rfl

theorem onlyIf_taken {condition : Prop} [Decidable condition] {program : Program σ ε Unit} (holds : condition) :
    onlyIf condition program = program := if_pos holds

theorem onlyIf_skipped {condition : Prop} [Decidable condition] {program : Program σ ε Unit} {state : σ}
    (fails : ¬ condition) : onlyIf condition program state = (.ok (), state) := by
  rw [onlyIf, if_neg fails]
  rfl

/-- From every state with `before`, the program returns into `after` or stops in
`stopped`. -/
def Meets (before : σ → Prop) (program : Program σ ε α) (after : α → σ → Prop) (stopped : ε → σ → Prop) : Prop :=
  ∀ state, before state →
    match program state with
    | (.ok value, final) => after value final
    | (.error reason, final) => stopped reason final

section Rules

variable {before : σ → Prop} {program : Program σ ε α} {after : α → σ → Prop} {stopped : ε → σ → Prop}

theorem Meets.returned (met : Meets before program after stopped) {state final : σ} {value : α} (holds : before state)
    (running : program state = (.ok value, final)) : after value final := by
  have result := met state holds
  rwa [running] at result

theorem Meets.halted (met : Meets before program after stopped) {state final : σ} {reason : ε} (holds : before state)
    (running : program state = (.error reason, final)) : stopped reason final := by
  have result := met state holds
  rwa [running] at result

/-- What holds at both ends holds of the last state. -/
theorem Meets.final {last : σ → Prop} (met : Meets before program (fun _ => last) fun _ => last) {state : σ}
    (holds : before state) : last (program state).2 := by
  have result := met state holds
  revert result
  cases program state with
  | mk ending final =>
    cases ending with
    | ok value => exact fun result => result
    | error reason => exact fun result => result

/-- Two specifications of one program. -/
theorem Meets.both {other : σ → Prop} {also : α → σ → Prop} {halted : ε → σ → Prop}
    (first : Meets before program after stopped) (second : Meets other program also halted) :
    Meets (fun state => before state ∧ other state) program (fun value state => after value state ∧ also value state)
      (fun reason state => stopped reason state ∧ halted reason state) := by
  intro state holds
  have one := first state holds.1
  have two := second state holds.2
  revert one two
  cases program state with
  | mk ending final =>
    cases ending with
    | ok value => exact fun one two => ⟨one, two⟩
    | error reason => exact fun one two => ⟨one, two⟩

theorem meets_pure {value : α} (holds : ∀ state, before state → after value state) :
    Meets before (pure value : Program σ ε α) after stopped := holds

theorem meets_read {after : σ → σ → Prop} (holds : ∀ state, before state → after state state) :
    Meets before (read : Program σ ε σ) after stopped := holds

/-- After a read the state is known. -/
theorem meets_reading {next : σ → Program σ ε β} {last : β → σ → Prop}
    (rest : ∀ state, before state → Meets (fun current => current = state) (next state) last stopped) :
    Meets before (read >>= next) last stopped :=
  fun state holds => rest state holds state rfl

theorem meets_change {f : σ → σ} {after : Unit → σ → Prop} (holds : ∀ state, before state → after () (f state)) :
    Meets before (change f : Program σ ε Unit) after stopped := holds

theorem meets_stop {reason : ε} (holds : ∀ state, before state → stopped reason state) :
    Meets before (stop reason : Program σ ε α) after stopped := holds

theorem Meets.bind {next : α → Program σ ε β} {last : β → σ → Prop} (first : Meets before program after stopped)
    (rest : ∀ value, Meets (after value) (next value) last stopped) : Meets before (program >>= next) last stopped := by
  intro state holds
  have result := first state holds
  show match (match program state with
    | (.ok value, after) => next value after
    | (.error stop, after) => (.error stop, after)) with
    | (.ok value, final) => last value final
    | (.error reason, final) => stopped reason final
  revert result
  cases program state with
  | mk ending final =>
    cases ending with
    | ok value => exact fun result => rest value final result
    | error reason => exact fun result => result

/-- A sequence by way of an assertion. -/
theorem Meets.via {next : α → Program σ ε β} {last : β → σ → Prop} (middle : α → σ → Prop)
    (first : Meets before program middle stopped) (rest : ∀ value, Meets (middle value) (next value) last stopped) :
    Meets before (program >>= next) last stopped :=
  first.bind rest

/-- What goes on in the same way from every state that is met there gives the same result. -/
theorem Meets.bind_eq {next other : α → Program σ ε β} (met : Meets before program after stopped)
    (same : ∀ value state, after value state → next value state = other value state) {state : σ} (holds : before state) :
    (program >>= next) state = (program >>= other) state := by
  have result := met state holds
  show (match program state with
    | (.ok value, after) => next value after
    | (.error stop, after) => (.error stop, after)) =
    (match program state with
    | (.ok value, after) => other value after
    | (.error stop, after) => (.error stop, after))
  revert result
  cases program state with
  | mk ending final =>
    cases ending with
    | ok value => exact same value final
    | error reason => exact fun _ => rfl

theorem Meets.rescue {handler : ε → Program σ ε α} {middle : ε → σ → Prop} (first : Meets before program after middle)
    (rest : ∀ reason, Meets (middle reason) (handler reason) after stopped) :
    Meets before (rescue program handler) after stopped := by
  intro state holds
  have result := first state holds
  rw [Program.rescue]
  revert result
  cases program state with
  | mk ending final =>
    cases ending with
    | ok value => exact fun result => result
    | error reason => exact fun result => rest reason final result

theorem Meets.weaken {required : σ → Prop} {weaker : α → σ → Prop} {milder : ε → σ → Prop}
    (met : Meets required program after stopped) (implies : ∀ state, before state → required state)
    (returned : ∀ value state, after value state → weaker value state)
    (halted : ∀ reason state, stopped reason state → milder reason state) : Meets before program weaker milder := by
  intro state holds
  have result := met state (implies state holds)
  revert result
  cases program state with
  | mk ending final =>
    cases ending with
    | ok value => exact returned value final
    | error reason => exact halted reason final

theorem Meets.starting {required : σ → Prop} (met : Meets required program after stopped)
    (implies : ∀ state, before state → required state) : Meets before program after stopped :=
  met.weaken implies (fun _ _ returned => returned) fun _ _ halted => halted

theorem Meets.returning {weaker : α → σ → Prop} (met : Meets before program after stopped)
    (returned : ∀ value state, after value state → weaker value state) : Meets before program weaker stopped :=
  met.weaken (fun _ holds => holds) returned fun _ _ halted => halted

theorem Meets.halting {milder : ε → σ → Prop} (met : Meets before program after stopped)
    (halted : ∀ reason state, stopped reason state → milder reason state) : Meets before program after milder :=
  met.weaken (fun _ holds => holds) (fun _ _ returned => returned) halted

/-- A known state is one of those with `before`. -/
theorem Meets.known (met : Meets before program after stopped) {state : σ} (holds : before state) :
    Meets (fun current => current = state) program after stopped := by
  rintro _ rfl
  exact met _ holds

/-- The state before may be looked at. -/
theorem meets_knowing (each : ∀ state, before state → Meets (fun current => current = state) program after stopped) :
    Meets before program after stopped :=
  fun state holds => each state holds state rfl

/-- A program that never stops meets whatever is asked of a stop. -/
theorem Meets.unstopped (met : Meets before program after fun _ _ => False) : Meets before program after stopped :=
  met.weaken (fun _ holds => holds) (fun _ _ holds => holds) fun _ _ never => never.elim

/-- A fact in the assertion before is one of the proof. -/
theorem meets_given {fact : Prop} (rest : fact → Meets before program after stopped) :
    Meets (fun state => fact ∧ before state) program after stopped :=
  fun state holds => rest holds.1 state holds.2

theorem meets_ite {condition : Prop} [Decidable condition] {other : Program σ ε α}
    (holds : condition → Meets before program after stopped) (fails : ¬ condition → Meets before other after stopped) :
    Meets before (if condition then program else other) after stopped := by
  split
  next yes => exact holds yes
  next no => exact fails no

theorem meets_onlyIf {condition : Prop} [Decidable condition] {program : Program σ ε Unit} {after : Unit → σ → Prop}
    (holds : condition → Meets before program after stopped)
    (fails : ¬ condition → ∀ state, before state → after () state) :
    Meets before (onlyIf condition program) after stopped :=
  meets_ite holds fun no => meets_pure (fails no)

/-- An invariant of each run of the body is one of the loop. -/
theorem meets_each {body : β → Program σ ε Unit} {list : List β}
    (kept : ∀ item ∈ list, Meets before (body item) (fun _ => before) stopped) :
    Meets before (each body list) (fun _ => before) stopped := by
  induction list with
  | nil => exact meets_pure fun _ holds => holds
  | cons item rest ih =>
    refine Meets.bind (kept item List.mem_cons_self) fun _ => ?_
    exact ih fun other listed => kept other (List.mem_cons_of_mem item listed)

/-- What each run of the body establishes holds of all items in the end. -/
theorem meets_each_all {body : β → Program σ ε Unit} {list : List β} {fact : β → Prop}
    (kept : ∀ item ∈ list, Meets before (body item) (fun _ state => fact item ∧ before state) stopped) :
    Meets before (each body list) (fun _ state => (∀ item ∈ list, fact item) ∧ before state) stopped := by
  induction list with
  | nil => exact meets_pure fun _ holds => ⟨fun _ never => absurd never List.not_mem_nil, holds⟩
  | cons item rest ih =>
    refine Meets.bind (kept item List.mem_cons_self) fun _ => meets_given fun first => ?_
    have later := ih fun other listed => kept other (List.mem_cons_of_mem item listed)
    apply later.returning
    exact fun _ _ result => ⟨List.forall_mem_cons.mpr ⟨first, result.1⟩, result.2⟩

end Rules

/-- `assertion` survives the program however it ends. -/
def Keeps (assertion : σ → Prop) (program : Program σ ε α) : Prop :=
  Meets assertion program (fun _ => assertion) (fun _ => assertion)

section Invariants

variable {assertion : σ → Prop}

theorem keeps_pure (value : α) : Keeps assertion (pure value : Program σ ε α) := fun _ holds => holds

theorem keeps_read : Keeps assertion (read : Program σ ε σ) := fun _ holds => holds

theorem keeps_change {f : σ → σ} (kept : ∀ state, assertion state → assertion (f state)) :
    Keeps assertion (change f : Program σ ε Unit) := kept

theorem keeps_stop (reason : ε) : Keeps assertion (stop reason : Program σ ε α) := fun _ holds => holds

theorem Keeps.bind {program : Program σ ε α} {next : α → Program σ ε β} (first : Keeps assertion program)
    (rest : ∀ value, Keeps assertion (next value)) : Keeps assertion (program >>= next) :=
  Meets.bind first rest

theorem Keeps.rescue {program : Program σ ε α} {handler : ε → Program σ ε α} (first : Keeps assertion program)
    (rest : ∀ reason, Keeps assertion (handler reason)) : Keeps assertion (rescue program handler) :=
  Meets.rescue first rest

theorem keeps_ite {condition : Prop} [Decidable condition] {program other : Program σ ε α}
    (holds : Keeps assertion program) (fails : Keeps assertion other) :
    Keeps assertion (if condition then program else other) :=
  meets_ite (fun _ => holds) (fun _ => fails)

theorem keeps_onlyIf {condition : Prop} [Decidable condition] {program : Program σ ε Unit}
    (holds : Keeps assertion program) : Keeps assertion (onlyIf condition program) :=
  keeps_ite holds (keeps_pure ())

theorem keeps_each {body : β → Program σ ε Unit} (kept : ∀ item, Keeps assertion (body item)) (list : List β) :
    Keeps assertion (each body list) :=
  meets_each fun item _ => kept item

end Invariants

/-- An assertion that is only claimed as long as the state is not lost. -/
def Unless (lost assertion : σ → Prop) (state : σ) : Prop := lost state ∨ assertion state

section Unless

variable {lost before : σ → Prop} {stopped : ε → σ → Prop}

end Unless

end Program

end BlackMagic.Lib
