import Mathlib.Data.List.Basic
import Mathlib.Logic.Function.Basic

/-!
Contract: programs that ask an environment and go on with its replies.

Owns programs with failures and early returns, their complete executions as
traces of exchanges, rules for what every execution ensures and for which calls
it can make, and partial runs.

A program ends after finitely many calls whatever the replies are. Which replies
an environment may give is left to the user of a trace.
-/

namespace GhostArk.Lib

/-- A call and what the environment replied. -/
structure Exchange {Call : Type} (Reply : Call → Type) where
  call : Call
  reply : Reply call

/-- A program that returns an `α` or fails with an `E`, after some calls. -/
inductive Program {Call : Type} (Reply : Call → Type) (E α : Type) where
  | done (outcome : Except E α)
  | ask (call : Call) (resume : Reply call → Program Reply E α)

namespace Program

variable {Call : Type} {Reply : Call → Type} {E α β : Type}

/-- The calls and replies of a complete run, and its outcome. -/
inductive Executes : Program Reply E α → List (Exchange Reply) → Except E α → Prop
  | done (outcome : Except E α) : Executes (.done outcome) [] outcome
  | ask {call : Call} {resume : Reply call → Program Reply E α} (reply : Reply call)
      {rest : List (Exchange Reply)} {outcome : Except E α} :
      Executes (resume reply) rest outcome →
        Executes (.ask call resume) (⟨call, reply⟩ :: rest) outcome

variable {trace : List (Exchange Reply)}

theorem executes_done_iff {result outcome : Except E α} :
    Executes (.done result) trace outcome ↔ trace = [] ∧ outcome = result := by
  constructor
  · rintro ⟨⟩
    exact ⟨rfl, rfl⟩
  · rintro ⟨rfl, rfl⟩
    exact .done _

theorem executes_ask_iff {call : Call} {resume : Reply call → Program Reply E α}
    {outcome : Except E α} :
    Executes (.ask call resume) trace outcome ↔
      ∃ reply rest, trace = ⟨call, reply⟩ :: rest ∧ Executes (resume reply) rest outcome := by
  constructor
  · rintro (_ | ⟨reply, later⟩)
    exact ⟨reply, _, rfl, later⟩
  · rintro ⟨reply, rest, rfl, later⟩
    exact .ask reply later

theorem Executes.unique {program : Program Reply E α} {outcome other : Except E α}
    (executes : Executes program trace outcome) (executesOther : Executes program trace other) :
    outcome = other := by
  induction executes with
  | done outcome => exact (executes_done_iff.mp executesOther).2.symm
  | ask reply _ ih =>
    cases executesOther with
    | ask _ later => exact ih later

def bind : Program Reply E α → (α → Program Reply E β) → Program Reply E β
  | done (.ok value), next => next value
  | done (.error error), _ => done (.error error)
  | ask call resume, next => ask call fun reply => (resume reply).bind next

instance : Monad (Program Reply E) where
  pure value := done (.ok value)
  bind := bind

def perform (call : Call) : Program Reply E (Reply call) := ask call fun reply => done (.ok reply)

theorem executes_pure_iff {value : α} {outcome : Except E α} :
    Executes (pure value : Program Reply E α) trace outcome ↔ trace = [] ∧ outcome = .ok value :=
  executes_done_iff

theorem executes_bind_iff {first : Program Reply E α} {next : α → Program Reply E β}
    {outcome : Except E β} :
    Executes (first >>= next) trace outcome ↔
      (∃ error, Executes first trace (.error error) ∧ outcome = .error error) ∨
        ∃ value before after, trace = before ++ after ∧ Executes first before (.ok value) ∧
          Executes (next value) after outcome := by
  change Executes (first.bind next) trace outcome ↔ _
  induction first generalizing trace with
  | done result =>
    cases result with
    | ok value =>
      constructor
      · exact fun later => Or.inr ⟨value, [], trace, rfl, .done _, later⟩
      · rintro (⟨error, failed, -⟩ | ⟨found, before, after, rfl, isFirst, later⟩)
        · exact absurd (executes_done_iff.mp failed).2 (by simp)
        · have returned := executes_done_iff.mp isFirst
          rw [returned.1, ← Except.ok.inj returned.2]
          exact later
    | error error =>
      rw [bind, executes_done_iff]
      constructor
      · rintro ⟨rfl, rfl⟩
        exact Or.inl ⟨error, .done _, rfl⟩
      · rintro (⟨found, failed, rfl⟩ | ⟨found, before, after, -, isFirst, -⟩)
        · have raised := executes_done_iff.mp failed
          exact ⟨raised.1, by rw [Except.error.inj raised.2]⟩
        · exact absurd (executes_done_iff.mp isFirst).2 (by simp)
  | ask call resume ih =>
    rw [bind, executes_ask_iff]
    constructor
    · rintro ⟨reply, rest, rfl, later⟩
      rcases (ih reply).mp later with
        ⟨error, failed, rfl⟩ | ⟨value, before, after, rfl, isFirst, isNext⟩
      · exact Or.inl ⟨error, .ask reply failed, rfl⟩
      · exact Or.inr ⟨value, _ :: before, after, rfl, .ask reply isFirst, isNext⟩
    · rintro (⟨error, failed, rfl⟩ | ⟨value, before, after, rfl, isFirst, isNext⟩)
      · rcases executes_ask_iff.mp failed with ⟨reply, rest, rfl, later⟩
        exact ⟨reply, rest, rfl, (ih reply).mpr (Or.inl ⟨error, later, rfl⟩)⟩
      · rcases executes_ask_iff.mp isFirst with ⟨reply, rest, rfl, later⟩
        exact ⟨reply, rest ++ after, rfl, (ih reply).mpr
          (Or.inr ⟨value, rest, after, rfl, later, isNext⟩)⟩

/-- A sequence that returns splits into runs of its parts. -/
theorem executes_bind_ok {first : Program Reply E α} {next : α → Program Reply E β} {result : β}
    (executes : Executes (first >>= next) trace (.ok result)) :
    ∃ value before after, trace = before ++ after ∧ Executes first before (.ok value) ∧
      Executes (next value) after (.ok result) := by
  rcases executes_bind_iff.mp executes with ⟨error, -, absurd⟩ | found
  · cases absurd
  · exact found

theorem executes_perform_bind_iff {call : Call} {next : Reply call → Program Reply E β}
    {outcome : Except E β} :
    Executes (perform call >>= next) trace outcome ↔
      ∃ reply rest, trace = ⟨call, reply⟩ :: rest ∧ Executes (next reply) rest outcome :=
  executes_ask_iff

/-! ### Early returns -/

end Program

/-- How a function body is left before its end. -/
inductive Exit (E ρ : Type) where
  | raised (error : E)
  | returned (result : ρ)

/-- The outcome of the function that is left. -/
def Exit.outcome {E ρ : Type} : Exit E ρ → Except E ρ
  | raised error => .error error
  | returned result => .ok result

namespace Program

variable {Call : Type} {Reply : Call → Type} {E ρ α : Type}

def function : Program Reply (Exit E ρ) ρ → Program Reply E ρ
  | done (.ok result) => done (.ok result)
  | done (.error exit) => done exit.outcome
  | ask call resume => ask call fun reply => (resume reply).function

/-- A part of a body that only fails or goes on. -/
def inBody : Program Reply E α → Program Reply (Exit E ρ) α
  | done (.ok value) => done (.ok value)
  | done (.error error) => done (.error (.raised error))
  | ask call resume => ask call fun reply => (resume reply).inBody

/-- `return program;` in a body. -/
def returning : Program Reply E ρ → Program Reply (Exit E ρ) α
  | done (.ok result) => done (.error (.returned result))
  | done (.error error) => done (.error (.raised error))
  | ask call resume => ask call fun reply => (resume reply).returning

/-- `try { program }`: the failure is a value. -/
def attempt {F : Type} : Program Reply E α → Program Reply F (Except E α)
  | done outcome => done (.ok outcome)
  | ask call resume => ask call fun reply => (resume reply).attempt

def bodyOutcome : Except (Exit E ρ) ρ → Except E ρ
  | .ok result => .ok result
  | .error exit => exit.outcome

variable {trace : List (Exchange Reply)}

theorem executes_function_iff {body : Program Reply (Exit E ρ) ρ} {outcome : Except E ρ} :
    Executes body.function trace outcome ↔
      ∃ ended, Executes body trace ended ∧ bodyOutcome ended = outcome := by
  induction body generalizing trace with
  | done result =>
    have isDone : (done result : Program Reply (Exit E ρ) ρ).function =
        done (bodyOutcome result) := by
      cases result <;> rfl
    rw [isDone, executes_done_iff]
    constructor
    · rintro ⟨rfl, rfl⟩
      exact ⟨result, .done _, rfl⟩
    · rintro ⟨ended, isEnded, rfl⟩
      have same := executes_done_iff.mp isEnded
      exact ⟨same.1, by rw [same.2]⟩
  | ask call resume ih =>
    rw [function, executes_ask_iff]
    constructor
    · rintro ⟨reply, rest, rfl, later⟩
      rcases (ih reply).mp later with ⟨ended, isEnded, isOutcome⟩
      exact ⟨ended, .ask reply isEnded, isOutcome⟩
    · rintro ⟨ended, isEnded, isOutcome⟩
      rcases executes_ask_iff.mp isEnded with ⟨reply, rest, rfl, later⟩
      exact ⟨reply, rest, rfl, (ih reply).mpr ⟨ended, later, isOutcome⟩⟩

theorem executes_inBody {part : Program Reply E α} {ended : Except (Exit E ρ) α}
    (executes : Executes (part.inBody (ρ := ρ)) trace ended) :
    (∃ value, ended = .ok value ∧ Executes part trace (.ok value)) ∨
      ∃ error, ended = .error (.raised error) ∧ Executes part trace (.error error) := by
  induction part generalizing trace with
  | done result =>
    cases result with
    | ok value =>
      have same := executes_done_iff.mp executes
      rw [same.1]
      exact Or.inl ⟨value, same.2, .done _⟩
    | error error =>
      have same := executes_done_iff.mp executes
      rw [same.1]
      exact Or.inr ⟨error, same.2, .done _⟩
  | ask call resume ih =>
    rcases executes_ask_iff.mp executes with ⟨reply, rest, rfl, later⟩
    rcases ih reply later with ⟨value, isEnded, isPart⟩ | ⟨error, isEnded, isPart⟩
    · exact Or.inl ⟨value, isEnded, .ask reply isPart⟩
    · exact Or.inr ⟨error, isEnded, .ask reply isPart⟩

theorem executes_of_inBody {last : Program Reply E ρ} {ended : Except (Exit E ρ) ρ}
    (executes : Executes (last.inBody (ρ := ρ)) trace ended) :
    Executes last trace (bodyOutcome ended) := by
  rcases executes_inBody executes with ⟨value, rfl, isLast⟩ | ⟨error, rfl, isLast⟩
  · exact isLast
  · exact isLast

variable {program : Program Reply E α}

theorem executes_attempt {F : Type} {ended : Except F (Except E α)}
    (executes : Executes program.attempt trace ended) :
    ∃ outcome, ended = .ok outcome ∧ Executes program trace outcome := by
  induction program generalizing trace with
  | done result =>
    have same := executes_done_iff.mp executes
    rw [same.1]
    exact ⟨result, same.2, .done _⟩
  | ask call resume ih =>
    rcases executes_ask_iff.mp executes with ⟨reply, rest, rfl, later⟩
    rcases ih reply later with ⟨outcome, isEnded, isProgram⟩
    exact ⟨outcome, isEnded, .ask reply isProgram⟩

theorem executes_returning {program : Program Reply E ρ} {ended : Except (Exit E ρ) α}
    (executes : Executes program.returning trace ended) :
    ∃ exit, ended = .error exit ∧ Executes program trace exit.outcome := by
  induction program generalizing trace with
  | done result =>
    cases result with
    | ok result =>
      have same := executes_done_iff.mp executes
      rw [same.1]
      exact ⟨.returned result, same.2, .done _⟩
    | error error =>
      have same := executes_done_iff.mp executes
      rw [same.1]
      exact ⟨.raised error, same.2, .done _⟩
  | ask call resume ih =>
    rcases executes_ask_iff.mp executes with ⟨reply, rest, rfl, later⟩
    rcases ih reply later with ⟨exit, isEnded, isProgram⟩
    exact ⟨exit, isEnded, .ask reply isProgram⟩

theorem executes_returning_bind {β : Type} {program : Program Reply E ρ}
    {next : α → Program Reply (Exit E ρ) β} {ended : Except (Exit E ρ) β}
    (executes : Executes (program.returning >>= next) trace ended) :
    ∃ exit, ended = .error exit ∧ Executes program trace exit.outcome := by
  rcases executes_bind_iff.mp executes with ⟨exit, left, rfl⟩ | ⟨value, before, _, -, left, -⟩
  · rcases executes_returning left with ⟨found, isExit, isProgram⟩
    cases isExit
    exact ⟨exit, rfl, isProgram⟩
  · rcases executes_returning left with ⟨found, absurd, -⟩
    cases absurd

/-! ### Contracts -/

/-- What holds of the trace and the outcome of every execution. -/
def Ensures (program : Program Reply E α) (post : List (Exchange Reply) → Except E α → Prop) :
    Prop :=
  ∀ trace outcome, Executes program trace outcome → post trace outcome

section Contracts

variable {β : Type}

theorem Ensures.done {result : Except E α} {post : List (Exchange Reply) → Except E α → Prop}
    (holds : post [] result) : Ensures (.done result) post := by
  intro trace outcome executes
  have same := executes_done_iff.mp executes
  rw [same.1, same.2]
  exact holds

variable {program : Program Reply E α}

theorem Ensures.mono {post weaker : List (Exchange Reply) → Except E α → Prop}
    (ensures : Ensures program post)
    (weaken : ∀ trace outcome, post trace outcome → weaker trace outcome) :
    Ensures program weaker :=
  fun trace outcome executes => weaken trace outcome (ensures trace outcome executes)

variable {post : List (Exchange Reply) → Except E β → Prop}

theorem Ensures.perform_bind {call : Call} {next : Reply call → Program Reply E β}
    (ensures : ∀ reply, Ensures (next reply) fun rest => post (⟨call, reply⟩ :: rest)) :
    Ensures (perform call >>= next) post := by
  intro trace outcome executes
  rcases executes_perform_bind_iff.mp executes with ⟨reply, rest, rfl, later⟩
  exact ensures reply rest outcome later

/-- The sequence rule. -/
theorem Ensures.bind {first : Program Reply E α} {next : α → Program Reply E β}
    {middle : List (Exchange Reply) → Except E α → Prop} (isFirst : Ensures first middle)
    (failed : ∀ before error, middle before (.error error) → post before (.error error))
    (isNext : ∀ before value, middle before (.ok value) →
      Ensures (next value) fun after => post (before ++ after)) :
    Ensures (first >>= next) post := by
  intro trace outcome executes
  rcases executes_bind_iff.mp executes with
    ⟨error, raised, rfl⟩ | ⟨value, before, after, rfl, returned, later⟩
  · exact failed trace error (isFirst trace _ raised)
  · exact isNext before value (isFirst before _ returned) after outcome later

theorem Ensures.inBody {part : Program Reply E α}
    {post : List (Exchange Reply) → Except (Exit E ρ) α → Prop}
    (ensures : Ensures part fun trace outcome => post trace (outcome.mapError .raised)) :
    Ensures (part.inBody (ρ := ρ)) post := by
  intro trace ended executes
  rcases executes_inBody executes with ⟨value, rfl, isPart⟩ | ⟨error, rfl, isPart⟩
  · exact ensures trace _ isPart
  · exact ensures trace _ isPart

theorem Ensures.attempt {F : Type} {post : List (Exchange Reply) → Except F (Except E α) → Prop}
    (ensures : Ensures program fun trace outcome => post trace (.ok outcome)) :
    Ensures program.attempt post := by
  intro trace ended executes
  rcases executes_attempt executes with ⟨outcome, rfl, isProgram⟩
  exact ensures trace outcome isProgram

theorem Ensures.returning {program : Program Reply E ρ}
    {post : List (Exchange Reply) → Except (Exit E ρ) α → Prop}
    (ensures : Ensures program fun trace outcome =>
      ∀ exit : Exit E ρ, exit.outcome = outcome → post trace (.error exit)) :
    Ensures program.returning post := by
  intro trace ended executes
  rcases executes_returning executes with ⟨exit, rfl, isProgram⟩
  exact ensures trace _ isProgram exit rfl

/-- Every call of every execution is of the given kind. -/
def CallsOnly (allowed : Call → Prop) (program : Program Reply E α) : Prop :=
  Ensures program fun trace _ => ∀ exchange ∈ trace, allowed exchange.call

variable {allowed : Call → Prop}

theorem CallsOnly.done (result : Except E α) :
    CallsOnly allowed (.done result : Program Reply E α) :=
  Ensures.done (by simp)

theorem CallsOnly.pure (value : α) : CallsOnly allowed (pure value : Program Reply E α) :=
  CallsOnly.done (.ok value)

theorem CallsOnly.mono {allowed more : Call → Prop} (callsOnly : CallsOnly allowed program)
    (weaken : ∀ call, allowed call → more call) : CallsOnly more program :=
  Ensures.mono callsOnly fun _ _ allowedCalls exchange member =>
    weaken exchange.call (allowedCalls exchange member)

theorem CallsOnly.bind {first : Program Reply E α} {next : α → Program Reply E β}
    (isFirst : CallsOnly allowed first) (isNext : ∀ value, CallsOnly allowed (next value)) :
    CallsOnly allowed (first >>= next) := by
  refine Ensures.bind isFirst ?_ ?_
  · exact fun before error allowedBefore => allowedBefore
  · intro before value allowedBefore
    exact Ensures.mono (isNext value) fun after _ allowedAfter =>
      List.forall_mem_append.mpr ⟨allowedBefore, allowedAfter⟩

theorem CallsOnly.perform_bind {call : Call} {next : Reply call → Program Reply E β}
    (isAllowed : allowed call) (isNext : ∀ reply, CallsOnly allowed (next reply)) :
    CallsOnly allowed (perform call >>= next) := by
  refine Ensures.perform_bind ?_
  intro reply
  exact Ensures.mono (isNext reply) fun after _ allowedAfter =>
    List.forall_mem_cons.mpr ⟨isAllowed, allowedAfter⟩

end Contracts

/-- The program that is left after some replies. -/
inductive Reaches : Program Reply E α → List (Exchange Reply) → Program Reply E α → Prop
  | start (program : Program Reply E α) : Reaches program [] program
  | step {program : Program Reply E α} {trace : List (Exchange Reply)} {call : Call}
      {resume : Reply call → Program Reply E α} (reply : Reply call) :
      Reaches program trace (.ask call resume) →
        Reaches program (trace ++ [⟨call, reply⟩]) (resume reply)

theorem Reaches.executes {program left : Program Reply E α} {before after : List (Exchange Reply)}
    {outcome : Except E α} (reaches : Reaches program before left)
    (executes : Executes left after outcome) : Executes program (before ++ after) outcome := by
  induction reaches generalizing after with
  | start => exact executes
  | step reply _ ih =>
    rw [List.append_assoc]
    exact ih (.ask reply executes)

theorem Reaches.ask {call : Call} {resume : Reply call → Program Reply E α} {reply : Reply call}
    {left : Program Reply E α} (reaches : Reaches (resume reply) trace left) :
    Reaches (.ask call resume) (⟨call, reply⟩ :: trace) left := by
  induction reaches with
  | start => exact .step reply (.start _)
  | step next _ ih => exact .step next ih

theorem Executes.reaches {before after : List (Exchange Reply)} {call : Call} {reply : Reply call}
    {outcome : Except E α}
    (executes : Executes program (before ++ ⟨call, reply⟩ :: after) outcome) :
    ∃ resume, Reaches program before (.ask call resume) := by
  induction before generalizing program with
  | nil =>
    cases executes with
    | ask reply later => exact ⟨_, .start _⟩
  | cons exchange rest ih =>
    cases executes with
    | ask reply later =>
      rcases ih later with ⟨resume, reaches⟩
      exact ⟨resume, reaches.ask⟩

/-- The trace, the outcome, and the state that the environment is left in. -/
def run {σ : Type} (serve : σ → (call : Call) → Reply call × σ) :
    σ → Program Reply E α → List (Exchange Reply) × Except E α × σ
  | state, .done outcome => ([], outcome, state)
  | state, .ask call resume =>
    let served := serve state call
    let rest := run serve served.2 (resume served.1)
    (⟨call, served.1⟩ :: rest.1, rest.2)

section Run

variable {σ β : Type} (serve : σ → (call : Call) → Reply call × σ)

theorem executes_run (state : σ) (program : Program Reply E α) :
    Executes program (program.run serve state).1 (program.run serve state).2.1 := by
  induction program generalizing state with
  | done outcome => exact .done outcome
  | ask call resume ih => exact .ask _ (ih _ _)

theorem trace_run_bind {first : Program Reply E α} {next : α → Program Reply E β} {value : α}
    {state : σ} (returned : (first.run serve state).2.1 = .ok value) :
    ((first >>= next).run serve state).1 =
      (first.run serve state).1 ++
        ((next value).run serve (first.run serve state).2.2).1 := by
  change ((first.bind next).run serve state).1 = _
  induction first generalizing state with
  | done outcome =>
    have isValue : outcome = .ok value := returned
    rw [isValue]
    rfl
  | ask call resume ih =>
    exact congrArg (⟨call, (serve state call).1⟩ :: ·) (ih _ returned)

theorem run_bind (first : Program Reply E α) (next : α → Program Reply E β) (state : σ) :
    ((first >>= next).run serve state).2 =
      match (first.run serve state).2.1 with
      | .ok value => ((next value).run serve (first.run serve state).2.2).2
      | .error error => (.error error, (first.run serve state).2.2) := by
  change ((first.bind next).run serve state).2 = _
  induction first generalizing state with
  | done outcome => cases outcome <;> rfl
  | ask call resume ih => exact ih _ _

theorem run_map (change : α → β) (program : Program Reply E α) (state : σ) :
    ((change <$> program).run serve state).2 =
      ((program.run serve state).2.1.map change, (program.run serve state).2.2) := by
  change ((program >>= fun value => pure (change value)).run serve state).2 = _
  rw [run_bind]
  cases (program.run serve state).2.1 <;> rfl

theorem trace_run_function (body : Program Reply (Exit E ρ) ρ) (state : σ) :
    (body.function.run serve state).1 = (body.run serve state).1 := by
  induction body generalizing state with
  | done outcome => cases outcome <;> rfl
  | ask call resume ih =>
    exact congrArg (⟨call, (serve state call).1⟩ :: ·) (ih _ _)

end Run

theorem exists_executes [∀ call, Nonempty (Reply call)] (program : Program Reply E α) :
    ∃ trace outcome, Executes program trace outcome := by
  induction program with
  | done outcome => exact ⟨[], outcome, .done outcome⟩
  | ask call resume ih =>
    have reply : Reply call := Classical.choice inferInstance
    rcases ih reply with ⟨trace, outcome, executes⟩
    exact ⟨_, outcome, .ask reply executes⟩

theorem Reaches.exists_executes [∀ call, Nonempty (Reply call)] {program left : Program Reply E α}
    (reaches : Reaches program trace left) :
    ∃ rest outcome, Executes program (trace ++ rest) outcome := by
  rcases Program.exists_executes left with ⟨rest, outcome, executes⟩
  exact ⟨rest, outcome, reaches.executes executes⟩

/-- A program makes no call but those it is confined to. -/
theorem CallsOnly.of_reaches [∀ call, Nonempty (Reply call)] {allowed : Call → Prop} {call : Call}
    {resume : Reply call → Program Reply E α} (callsOnly : CallsOnly allowed program)
    (reaches : Reaches program trace (.ask call resume)) : allowed call := by
  have reply : Reply call := Classical.choice inferInstance
  rcases (reaches.step reply).exists_executes with ⟨rest, outcome, executes⟩
  have isCall : (⟨call, reply⟩ : Exchange Reply) ∈ trace ++ [⟨call, reply⟩] ++ rest := by simp
  exact callsOnly _ outcome executes _ isCall

end Program

end GhostArk.Lib
