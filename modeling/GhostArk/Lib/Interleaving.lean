import GhostArk.Lib.Interaction

/-!
Contract: programs that run at the same time against one shared state.

Owns configurations of any number of processes, their interleavings call by
call, the projection of an interleaving to a partial run of each process,
executable schedules, and the rule of exclusive claims: a key that only a free
slot grants, and that stays taken, is granted to one process.

A call, its effect on the shared state and its reply are one step. Fairness and
termination are not asked for.
-/

namespace GhostArk.Lib

/-- The shared state, and of each process its exchanges so far and what is left of it. -/
structure Configuration {Call : Type} (ι : Type) (Reply : Call → Type) (E α σ : Type) where
  shared : σ
  trace : ι → List (Exchange Reply)
  left : ι → Program Reply E α

section Interleaving

variable {ι Call : Type} [DecidableEq ι] {Reply : Call → Type} {E α σ : Type}

def Configuration.advance (configuration : Configuration ι Reply E α σ) (process : ι)
    (exchange : Exchange Reply) (rest : Program Reply E α) (next : σ) :
    Configuration ι Reply E α σ where
  shared := next
  trace := Function.update configuration.trace process
    (configuration.trace process ++ [exchange])
  left := Function.update configuration.left process rest

section Advance

variable (configuration : Configuration ι Reply E α σ) (process : ι) (exchange : Exchange Reply)
variable (rest : Program Reply E α) (next : σ)

theorem Configuration.trace_advance_self :
    (configuration.advance process exchange rest next).trace process =
      configuration.trace process ++ [exchange] :=
  Function.update_self ..

theorem Configuration.trace_advance_ne {other : ι} (differs : other ≠ process) :
    (configuration.advance process exchange rest next).trace other = configuration.trace other :=
  Function.update_of_ne differs ..

theorem Configuration.left_advance_self :
    (configuration.advance process exchange rest next).left process = rest :=
  Function.update_self ..

theorem Configuration.left_advance_ne {other : ι} (differs : other ≠ process) :
    (configuration.advance process exchange rest next).left other = configuration.left other :=
  Function.update_of_ne differs ..

end Advance

open Lib.Configuration

/-- The configurations that the processes can reach, in any order of their calls. -/
inductive Interleaves (serves : σ → (call : Call) → Reply call → σ → Prop)
    (programs : ι → Program Reply E α) (start : σ) : Configuration ι Reply E α σ → Prop
  | start : Interleaves serves programs start ⟨start, fun _ => [], programs⟩
  | step {configuration : Configuration ι Reply E α σ} (process : ι) {call : Call}
      {resume : Reply call → Program Reply E α} (reply : Reply call) {next : σ} :
      Interleaves serves programs start configuration →
        configuration.left process = .ask call resume →
        serves configuration.shared call reply next →
        Interleaves serves programs start
          (configuration.advance process ⟨call, reply⟩ (resume reply) next)

variable {serves : σ → (call : Call) → Reply call → σ → Prop} {programs : ι → Program Reply E α}
variable {start : σ} {configuration : Configuration ι Reply E α σ}

/-- In every interleaving each process follows its own program. -/
theorem Interleaves.reaches (interleaves : Interleaves serves programs start configuration)
    (process : ι) :
    (programs process).Reaches (configuration.trace process) (configuration.left process) := by
  induction interleaves with
  | start => exact .start _
  | step stepping reply _ asks _ ih =>
    by_cases isStepping : process = stepping
    · rw [isStepping, trace_advance_self, left_advance_self]
      rw [isStepping, asks] at ih
      exact .step reply ih
    · rw [trace_advance_ne _ _ _ _ _ isStepping, left_advance_ne _ _ _ _ _ isStepping]
      exact ih

section Schedule

variable (serve : σ → (call : Call) → Reply call × σ)

def Configuration.serveNext (configuration : Configuration ι Reply E α σ) (process : ι) :
    Configuration ι Reply E α σ :=
  match configuration.left process with
  | .done _ => configuration
  | .ask call resume =>
    let served := serve configuration.shared call
    configuration.advance process ⟨call, served.1⟩ (resume served.1) served.2

/-- The configuration after the processes have moved in the given order. -/
def Configuration.schedule (configuration : Configuration ι Reply E α σ) (order : List ι) :
    Configuration ι Reply E α σ :=
  order.foldl (serveNext serve) configuration

/-- Every call of the schedule is made in a state that permits it. -/
def Configuration.permitsSchedule (permits : σ → Call → Bool) :
    Configuration ι Reply E α σ → List ι → Bool
  | _, [] => true
  | configuration, process :: order =>
    (match configuration.left process with
      | .done _ => true
      | .ask call _ => permits configuration.shared call) &&
      permitsSchedule permits (configuration.serveNext serve process) order

theorem Interleaves.serveNext (interleaves : Interleaves serves programs start configuration)
    (process : ι)
    (complies : ∀ call resume, configuration.left process = .ask call resume →
      serves configuration.shared call (serve configuration.shared call).1
        (serve configuration.shared call).2) :
    Interleaves serves programs start (configuration.serveNext serve process) := by
  unfold Configuration.serveNext
  cases asks : configuration.left process with
  | done outcome => exact interleaves
  | ask call resume => exact .step process _ interleaves asks (complies call resume asks)

theorem Interleaves.schedule
    (complies : ∀ state call, serves state call (serve state call).1 (serve state call).2)
    (interleaves : Interleaves serves programs start configuration) (order : List ι) :
    Interleaves serves programs start (configuration.schedule serve order) := by
  unfold Configuration.schedule
  induction order generalizing configuration with
  | nil => exact interleaves
  | cons process rest ih =>
    exact ih (interleaves.serveNext serve process fun call _ _ => complies _ call)

theorem Interleaves.schedule_of_permits {permits : σ → Call → Bool}
    (complies : ∀ state call, permits state call = true →
      serves state call (serve state call).1 (serve state call).2)
    (interleaves : Interleaves serves programs start configuration) {order : List ι}
    (permitted : configuration.permitsSchedule serve permits order = true) :
    Interleaves serves programs start (configuration.schedule serve order) := by
  unfold Configuration.schedule
  induction order generalizing configuration with
  | nil => exact interleaves
  | cons process rest ih =>
    rw [permitsSchedule, Bool.and_eq_true] at permitted
    refine ih (interleaves.serveNext serve process ?_) permitted.2
    intro call resume asks
    have isPermitted := permitted.1
    rw [asks] at isPermitted
    exact complies _ call isPermitted

end Schedule

variable {κ : Type}

/-- What holds between the claims made so far and the shared state. -/
structure ClaimsExclusive (claims : Exchange Reply → κ → Prop) (taken : σ → κ → Prop)
    (configuration : Configuration ι Reply E α σ) : Prop where
  isTaken : ∀ process, ∀ exchange ∈ configuration.trace process, ∀ key,
    claims exchange key → taken configuration.shared key
  unique : ∀ first second key,
    (∃ exchange ∈ configuration.trace first, claims exchange key) →
    (∃ exchange ∈ configuration.trace second, claims exchange key) → first = second

variable {claims : Exchange Reply → κ → Prop}

/-- A process that claims keys not yet taken keeps the claims exclusive. -/
theorem ClaimsExclusive.advance {taken : σ → κ → Prop}
    (exclusive : ClaimsExclusive claims taken configuration) {process : ι}
    {exchange : Exchange Reply} {rest : Program Reply E α} {next : σ}
    (claimed : ∀ key, claims exchange key → ¬ taken configuration.shared key ∧ taken next key)
    (kept : ∀ key, taken configuration.shared key → taken next key) :
    ClaimsExclusive claims taken (configuration.advance process exchange rest next) := by
  -- a claim is an earlier one of the same process, or it is the new one
  have cases_claim : ∀ found key,
      (∃ earlier ∈ (configuration.advance process exchange rest next).trace found,
        claims earlier key) →
      (∃ earlier ∈ configuration.trace found, claims earlier key) ∨
        found = process ∧ claims exchange key := by
    intro found key isClaim
    rcases isClaim with ⟨earlier, member, isClaim⟩
    by_cases isStepping : found = process
    · rw [isStepping, trace_advance_self, List.mem_append, List.mem_singleton] at member
      rcases member with member | rfl
      · exact Or.inl ⟨earlier, by rwa [isStepping], isClaim⟩
      · exact Or.inr ⟨isStepping, isClaim⟩
    · rw [trace_advance_ne _ _ _ _ _ isStepping] at member
      exact Or.inl ⟨earlier, member, isClaim⟩
  have clash : ∀ found key, (∃ earlier ∈ configuration.trace found, claims earlier key) →
      ¬ claims exchange key := by
    intro found key isEarlier isNew
    rcases isEarlier with ⟨earlier, member, isClaim⟩
    exact (claimed key isNew).1 (exclusive.isTaken found earlier member key isClaim)
  constructor
  · intro found earlier member key isClaim
    rcases cases_claim found key ⟨earlier, member, isClaim⟩ with
      ⟨before, isMember, isBefore⟩ | ⟨-, isNew⟩
    · exact kept key (exclusive.isTaken found before isMember key isBefore)
    · exact (claimed key isNew).2
  · intro first second key isFirst isSecond
    rcases cases_claim first key isFirst with wasFirst | ⟨firstSteps, firstNew⟩
    · rcases cases_claim second key isSecond with wasSecond | ⟨-, secondNew⟩
      · exact exclusive.unique first second key wasFirst wasSecond
      · exact absurd secondNew (clash first key wasFirst)
    · rcases cases_claim second key isSecond with wasSecond | ⟨secondSteps, -⟩
      · exact absurd firstNew (clash second key wasSecond)
      · rw [firstSteps, secondSteps]

/-- **Exclusive claims.** If only a free key can be claimed, and a claimed or taken key is taken
from then on, then in every interleaving each key is claimed by at most one process. -/
theorem Interleaves.claimsExclusive {taken : σ → κ → Prop}
    (claimed : ∀ state call reply next, serves state call reply next → ∀ key,
      claims ⟨call, reply⟩ key → ¬ taken state key ∧ taken next key)
    (kept : ∀ state call reply next, serves state call reply next → ∀ key,
      taken state key → taken next key)
    (interleaves : Interleaves serves programs start configuration) :
    ClaimsExclusive claims taken configuration := by
  induction interleaves with
  | start =>
    constructor
    · intro process exchange member
      cases member
    · rintro first second key ⟨exchange, member, -⟩
      cases member
  | step process reply _ _ served ih =>
    exact ih.advance (claimed _ _ _ _ served) (kept _ _ _ _ served)

end Interleaving

end GhostArk.Lib
