import BlackMagic.Lib.Program

/-! A program that follows another one: from related states both end in the same way, in related states. -/

namespace BlackMagic.Lib.Program
variable {σ τ ε α β : Type}

/-- The runs from related states return the same value into `after`, or stop for the same reason in `stopped`. -/
def Follows (before : σ → τ → Prop) (program : Program σ ε α) (model : Program τ ε α) (after : α → σ → τ → Prop)
    (stopped : σ → τ → Prop) : Prop :=
  ∀ state other, before state other →
    match program state, model other with
    | (.ok value, final), (.ok expected, last) => value = expected ∧ after value final last
    | (.error reason, final), (.error expected, last) => reason = expected ∧ stopped final last
    | _, _ => False

section Rules
variable {before : σ → τ → Prop} {program : Program σ ε α} {model : Program τ ε α} {after : α → σ → τ → Prop}
  {stopped : σ → τ → Prop}

theorem follows_pure {value : α} (holds : ∀ state other, before state other → after value state other) :
    Follows before (pure value) (pure value : Program τ ε α) after stopped :=
  fun state other related => ⟨rfl, holds state other related⟩

theorem follows_stop {reason : ε} (holds : ∀ state other, before state other → stopped state other) :
    Follows before (stop reason : Program σ ε α) (stop reason) after stopped :=
  fun state other related => ⟨rfl, holds state other related⟩

theorem follows_change {f : σ → σ} {g : τ → τ} {after : Unit → σ → τ → Prop}
    (holds : ∀ state other, before state other → after () (f state) (g other)) :
    Follows before (change f) (change g : Program τ ε Unit) after stopped :=
  fun state other related => ⟨rfl, holds state other related⟩

theorem Follows.bind {next : α → Program σ ε β} {rest : α → Program τ ε β} {last : β → σ → τ → Prop}
    (first : Follows before program model after stopped)
    (follows : ∀ value, Follows (after value) (next value) (rest value) last stopped) :
    Follows before (program >>= next) (model >>= rest) last stopped := by
  intro state other related
  have result := first state other related
  cases running : program state with
  | mk ending final =>
    cases expected : model other with
    | mk expectedEnding expectedFinal =>
      rw [running, expected] at result
      cases ending with
      | ok value =>
        cases expectedEnding with
        | ok same =>
          obtain ⟨rfl, holds⟩ := result
          rw [bind_returned running, bind_returned expected]
          exact follows value final expectedFinal holds
        | error reason => exact result.elim
      | error reason =>
        cases expectedEnding with
        | ok same => exact result.elim
        | error same =>
          rw [bind_stopped running, bind_stopped expected]
          exact result

theorem follows_bind {next : α → Program σ ε β} {rest : α → Program τ ε β} {last : β → σ → τ → Prop}
    (middle : α → σ → τ → Prop) (first : Follows before program model middle stopped)
    (follows : ∀ value, Follows (middle value) (next value) (rest value) last stopped) :
    Follows before (program >>= next) (model >>= rest) last stopped := first.bind follows

/-- The programs may depend on what they read. -/
theorem follows_reading {next : σ → Program σ ε α} {rest : τ → Program τ ε α}
    (follows : ∀ state other, before state other →
      Follows (fun now then_ => now = state ∧ then_ = other) (next state) (rest other) after stopped) :
    Follows before (read >>= next) (read >>= rest) after stopped :=
  fun state other related => follows state other related state other ⟨rfl, rfl⟩

theorem follows_ite {condition : Prop} [Decidable condition] {program' : Program σ ε α} {model' : Program τ ε α}
    (holds : condition → Follows before program model after stopped)
    (fails : ¬ condition → Follows before program' model' after stopped) :
    Follows before (if condition then program else program') (if condition then model else model') after stopped := by
  split
  next yes => exact holds yes
  next no => exact fails no

theorem follows_onlyIf {condition : Prop} [Decidable condition] {program : Program σ ε Unit} {model : Program τ ε Unit}
    {after : Unit → σ → τ → Prop} (holds : condition → Follows before program model after stopped)
    (fails : ¬ condition → ∀ state other, before state other → after () state other) :
    Follows before (onlyIf condition program) (onlyIf condition model) after stopped :=
  follows_ite holds fun no => follows_pure (fails no)

theorem Follows.weaken {required : σ → τ → Prop} {weaker : α → σ → τ → Prop} {milder : σ → τ → Prop}
    (follows : Follows required program model after stopped)
    (implies : ∀ state other, before state other → required state other)
    (returned : ∀ value state other, after value state other → weaker value state other)
    (halted : ∀ state other, stopped state other → milder state other) :
    Follows before program model weaker milder := by
  intro state other related
  have result := follows state other (implies state other related)
  cases running : program state with
  | mk ending final =>
    cases expected : model other with
    | mk expectedEnding expectedFinal =>
      rw [running, expected] at result
      cases ending <;> cases expectedEnding
      · exact ⟨result.1, halted _ _ result.2⟩
      · exact result.elim
      · exact result.elim
      · exact ⟨result.1, returned _ _ _ result.2⟩

/-- Known states are among those with `before`. -/
theorem Follows.known (follows : Follows before program model after stopped) {state : σ} {other : τ}
    (related : before state other) :
    Follows (fun now then_ => now = state ∧ then_ = other) program model after stopped := by
  rintro _ _ ⟨rfl, rfl⟩
  exact follows _ _ related

/-- Where the run of the model is known, so is that of the program. -/
theorem Follows.meets (follows : Follows before program model after stopped) {other last : τ} {value : α}
    (known : model other = (.ok value, last)) :
    Meets (fun state => before state other) program (fun result state => result = value ∧ after value state last)
      fun _ _ => False := by
  intro state related
  have result := follows state other related
  rw [known] at result
  cases running : program state with
  | mk ending final =>
    rw [running] at result
    cases ending with
    | ok returned => exact ⟨result.1, result.1 ▸ result.2⟩
    | error reason => exact result

/-- What the model meets, the program meets in related states. -/
theorem Follows.carries {other : τ} {returned : α → τ → Prop} {halted : ε → τ → Prop}
    (follows : Follows before program model after stopped)
    (met : Meets (fun last => last = other) model returned halted) :
    Meets (fun state => before state other) program (fun value state => ∃ last, returned value last ∧ after value state last)
      fun reason state => ∃ last, halted reason last ∧ stopped state last := by
  intro state related
  have result := follows state other related
  have expected := met other rfl
  revert result expected
  rcases program state with ⟨value | reason, final⟩ <;> rcases model other with ⟨wanted | same, last⟩
  · rintro ⟨rfl, held⟩ met
    exact ⟨last, met, held⟩
  · exact fun result => result.elim
  · exact fun result => result.elim
  · rintro ⟨rfl, held⟩ met
    exact ⟨last, met, held⟩

end Rules

section Attempts
variable {relation : σ → τ → Prop}

/-- One program after the other, however each of them ends, with the ends of all. -/
def attempts (program : β → Program σ ε α) : List β → σ → List (Except ε α) × σ
  | [], state => ([], state)
  | item :: rest, state =>
    let (ending, middle) := program item state
    let (endings, final) := attempts program rest middle
    (ending :: endings, final)

theorem attempts_follow {program : β → Program σ ε α} {model : β → Program τ ε α} {items : List β}
    (follows : ∀ item ∈ items, Follows relation (program item) (model item) (fun _ => relation) relation)
    {state : σ} {other : τ} (related : relation state other) :
    (attempts program items state).1 = (attempts model items other).1 ∧
      relation (attempts program items state).2 (attempts model items other).2 := by
  induction items generalizing state other with
  | nil => exact ⟨rfl, related⟩
  | cons item rest ih =>
    have result := follows item List.mem_cons_self state other related
    have ih := fun {state other} => @ih (fun item listed => follows item (List.mem_cons_of_mem _ listed)) state other
    rw [attempts, attempts]
    revert result
    rcases program item state with ⟨value | reason, middle⟩ <;> rcases model item other with ⟨expected | same, last⟩
    · rintro ⟨rfl, held⟩
      exact ⟨congrArg (List.cons _) (ih held).1, (ih held).2⟩
    · exact fun result => result.elim
    · exact fun result => result.elim
    · rintro ⟨rfl, held⟩
      exact ⟨congrArg (List.cons _) (ih held).1, (ih held).2⟩

end Attempts

end BlackMagic.Lib.Program
