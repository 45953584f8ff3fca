import GhostArk.Dab.Gateway

/-!
Contract: what the gateway keeps over every run in which no tombstone is pruned.

Owns the invariant of client runs and passes: a nonce that a run has claimed stays in the ledger
and is nobody else's, a checked body is the declared one, and a certified receipt is of an
execution that succeeded.

The spent set may not exceed its capacity: beyond it, passes remove tombstones.
-/

namespace GhostArk.Dab

open Lib

variable {ι κ : Type}

def Pass.IsQuiet : Pass → Prop
  | .measuring => False
  | .collecting _ _ => False
  | .removing _ => False
  | _ => True

section Quiet

variable {ledger : ReplayLedger} {pass : Pass}

theorem isQuiet_passStep (within : ledger.spent.card ≤ ledger.maxSpent) (quiet : pass.IsQuiet)
    (action : PassAction) : (passStep ledger pass action).2.IsQuiet := by
  have move := passMove ledger pass action
  generalize (passStep ledger pass action).1 = effect at move
  generalize (passStep ledger pass action).2 = next at move ⊢
  cases move with
  | stay => exact quiet
  | above more => exact absurd more (not_lt.mpr within)
  | measure => exact quiet.elim
  | collect excess toRemove nonce => exact quiet.elim
  | endCollect excess toRemove => exact quiet.elim
  | remove nonce rest => exact quiet.elim
  | _ => exact trivial

theorem exists_passStep (quiet : pass.IsQuiet) (action : PassAction) {nonce : String}
    (isThere : ledger.Exists nonce) :
    ((passStep ledger pass action).1.apply ledger).Exists nonce := by
  refine Effect.exists_apply (fun removes => ?_) isThere
  have move := passMove ledger pass action
  rw [removes] at move
  rcases move.removal with ⟨-, rest, rfl⟩
  exact quiet

end Quiet

/-! ### Safety -/

/-- The nonce that a run has consumed and not yet executed under. -/
def Client.claimed : Client → Option String
  | .admitted request => some request.nonce
  | .checked request _ _ => some request.nonce
  | _ => none

section Safety

variable (crates : GatewayCrates)

/-- The body is the decoded payload, and the declared digest is its digest. -/
def Declared (request : GatewayRequest) (payloadBytes : List UInt8) : Prop :=
  crates.decode request.payload = some payloadBytes ∧
    sha256Bytes crates payloadBytes = request.cI

/-- A receipt of an execution that succeeded, in the same run. -/
structure Certifies (execution : Execution κ) (client : κ) (receipt : GatewayReceipt) : Prop where
  client : execution.client = client
  succeeded : execution.succeeded = true
  declared : receipt.cI = sha256Bytes crates execution.payloadBytes
  derived : receipt.cE = sha256Bytes crates execution.payloadBytes
  nonce : receipt.nonce = execution.request.nonce

def Client.Knows (executions : List (Execution κ)) (client : κ) : Client → Prop
  | .checked request payloadBytes cE =>
    Declared crates request payloadBytes ∧ cE = request.cI
  | .executed request cE =>
    ∃ execution ∈ executions, execution.client = client ∧ execution.request = request ∧
      execution.succeeded = true ∧ sha256Bytes crates execution.payloadBytes = request.cI ∧
        cE = request.cI
  | _ => True

structure Safe (system : GatewaySystem ι κ) : Prop where
  quiet : ∀ pass, (system.ledger.passes pass).IsQuiet
  claims : ∀ client nonce, (system.clients client).claimed = some nonce →
    system.ledger.ledger.Exists nonce ∧
      ∀ execution ∈ system.executions, execution.request.nonce ≠ nonce
  exclusive : ∀ first second nonce, (system.clients first).claimed = some nonce →
    (system.clients second).claimed = some nonce → first = second
  recorded : ∀ execution ∈ system.executions,
    system.ledger.ledger.Exists execution.request.nonce
  once : (system.executions.map fun execution => execution.request.nonce).Nodup
  bodies : ∀ execution ∈ system.executions, Declared crates execution.request execution.payloadBytes
  knows : ∀ client, (system.clients client).Knows crates system.executions client
  certified : ∀ entry ∈ system.receipts, entry.2.status = "CERTIFIED" →
    ∃ execution ∈ system.executions, Certifies crates execution entry.1 entry.2

variable {crates} {system : GatewaySystem ι κ}

theorem safe_start (maxSpent ttlSeconds : ℕ) :
    Safe crates (GatewaySystem.start ι κ maxSpent ttlSeconds) := by
  refine ⟨fun _ => trivial, fun _ _ isClaim => ?_, fun _ _ _ isClaim _ => ?_,
    fun _ member => ?_, List.nodup_nil, fun _ member => ?_, fun _ => trivial, fun _ member => ?_⟩
  · cases isClaim
  · cases isClaim
  · exact absurd member List.not_mem_nil
  · exact absurd member List.not_mem_nil
  · exact absurd member List.not_mem_nil

theorem Safe.withLedger (safe : Safe crates system) {ledger : LedgerSystem ι}
    (quiet : ∀ pass, (ledger.passes pass).IsQuiet)
    (kept : ∀ nonce, system.ledger.ledger.Exists nonce → ledger.ledger.Exists nonce) :
    Safe crates { system with ledger } where
  quiet := quiet
  claims := fun client nonce isClaim =>
    ⟨kept nonce (safe.claims client nonce isClaim).1, (safe.claims client nonce isClaim).2⟩
  exclusive := safe.exclusive
  recorded := fun execution member => kept _ (safe.recorded execution member)
  once := safe.once
  bodies := safe.bodies
  knows := safe.knows
  certified := safe.certified

variable {client : κ}

theorem Safe.keepsClaim (safe : Safe crates system) {nonce : String}
    (isClaim : (system.clients client).claimed = some nonce) :
    system.ledger.ledger.Exists nonce ∧
      (∀ execution ∈ system.executions, execution.request.nonce ≠ nonce) ∧
        ∀ other, (system.clients other).claimed = some nonce → other = client :=
  ⟨(safe.claims client nonce isClaim).1, (safe.claims client nonce isClaim).2,
    fun other isOther => safe.exclusive other client nonce isOther isClaim⟩

theorem Client.Knows.cons {executions : List (Execution κ)} {phase : Client}
    (knows : phase.Knows crates executions client) (execution : Execution κ) :
    phase.Knows crates (execution :: executions) client := by
  cases phase with
  | executed request cE =>
    rcases knows with ⟨earlier, member, rest⟩
    exact ⟨earlier, List.mem_cons_of_mem _ member, rest⟩
  | _ => exact knows

/-- The run that claims a nonce executes under it. -/
theorem Safe.record (safe : Safe crates system) {execution : Execution κ}
    (isThere : system.ledger.ledger.Exists execution.request.nonce)
    (unclaimed : ∀ client, (system.clients client).claimed ≠ some execution.request.nonce)
    (isNew : ∀ earlier ∈ system.executions, earlier.request.nonce ≠ execution.request.nonce)
    (declared : Declared crates execution.request execution.payloadBytes) :
    Safe crates { system with executions := execution :: system.executions } where
  quiet := safe.quiet
  claims := by
    intro client nonce isClaim
    refine ⟨(safe.claims client nonce isClaim).1, List.forall_mem_cons.mpr ⟨?_, ?_⟩⟩
    · intro same
      rw [same] at unclaimed
      exact unclaimed client isClaim
    · exact (safe.claims client nonce isClaim).2
  exclusive := safe.exclusive
  recorded := List.forall_mem_cons.mpr ⟨isThere, safe.recorded⟩
  once := by
    refine List.nodup_cons.mpr ⟨fun member => ?_, safe.once⟩
    rcases List.mem_map.mp member with ⟨earlier, isEarlier, same⟩
    exact isNew earlier isEarlier same
  bodies := List.forall_mem_cons.mpr ⟨declared, safe.bodies⟩
  knows := fun client => (safe.knows client).cons execution
  certified := by
    intro entry member isCertified
    rcases safe.certified entry member isCertified with ⟨earlier, isEarlier, certifies⟩
    exact ⟨earlier, List.mem_cons_of_mem _ isEarlier, certifies⟩

variable [DecidableEq κ]

section Safe

variable (safe : Safe crates system)
include safe

/-- A run may go on if its new phase claims no nonce that another run holds or has used. -/
theorem Safe.advance {next : Client} {receipt : Option GatewayReceipt}
    (claim : ∀ nonce, next.claimed = some nonce → system.ledger.ledger.Exists nonce ∧
      (∀ execution ∈ system.executions, execution.request.nonce ≠ nonce) ∧
        ∀ other, (system.clients other).claimed = some nonce → other = client)
    (knows : next.Knows crates system.executions client)
    (certifies : ∀ written, receipt = some written → written.status = "CERTIFIED" →
      ∃ execution ∈ system.executions, Certifies crates execution client written) :
    Safe crates (system.advance client next receipt) where
  quiet := safe.quiet
  claims := by
    intro other nonce isClaim
    by_cases same : other = client
    · subst same
      rw [GatewaySystem.clients_advance_self] at isClaim
      exact ⟨(claim nonce isClaim).1, (claim nonce isClaim).2.1⟩
    · rw [GatewaySystem.clients_advance_ne _ same] at isClaim
      exact safe.claims other nonce isClaim
  exclusive := by
    intro first second nonce isFirst isSecond
    by_cases firstSame : first = client
    · by_cases secondSame : second = client
      · rw [firstSame, secondSame]
      · rw [firstSame, GatewaySystem.clients_advance_self] at isFirst
        rw [GatewaySystem.clients_advance_ne _ secondSame] at isSecond
        rw [firstSame, (claim nonce isFirst).2.2 second isSecond]
    · rw [GatewaySystem.clients_advance_ne _ firstSame] at isFirst
      by_cases secondSame : second = client
      · rw [secondSame, GatewaySystem.clients_advance_self] at isSecond
        rw [secondSame, (claim nonce isSecond).2.2 first isFirst]
      · rw [GatewaySystem.clients_advance_ne _ secondSame] at isSecond
        exact safe.exclusive first second nonce isFirst isSecond
  recorded := safe.recorded
  once := safe.once
  bodies := safe.bodies
  knows := by
    intro other
    by_cases same : other = client
    · subst same
      rw [GatewaySystem.clients_advance_self]
      exact knows
    · rw [GatewaySystem.clients_advance_ne _ same]
      exact safe.knows other
  certified := by
    intro entry member isCertified
    rcases List.mem_append.mp member with isNew | isOld
    · rw [Option.mem_toList, Option.map_eq_some_iff] at isNew
      rcases isNew with ⟨written, isWritten, rfl⟩
      exact certifies written isWritten isCertified
    · exact safe.certified entry isOld isCertified

theorem Safe.keep {next : Client}
    (claim : next.claimed = (system.clients client).claimed)
    (knows : next.Knows crates system.executions client) :
    Safe crates (system.advance client next none) := by
  refine safe.advance (fun nonce isClaim => ?_) knows fun written isWritten => ?_
  · rw [claim] at isClaim
    exact safe.keepsClaim isClaim
  · cases isWritten

theorem Safe.close {receipt : Option GatewayReceipt}
    (halts : ∀ written, receipt = some written → written.status ≠ "CERTIFIED") :
    Safe crates (system.advance client .closed receipt) := by
  refine safe.advance (fun nonce isClaim => ?_) trivial fun written isWritten isCertified => ?_
  · cases isClaim
  · exact absurd isCertified (halts written isWritten)

/-! ### One step -/

theorem Safe.receive (client : κ) (buffer : List UInt8) :
    Safe crates (system.advance client ((system.clients client).receive crates buffer) none) := by
  have known := safe.knows client
  cases phase : system.clients client with
  | listening =>
    have closes : Safe crates (system.advance client .closed none) :=
      safe.close fun written isWritten => by cases isWritten
    rw [Client.receive]
    split
    · exact closes
    · split
      · exact closes
      · split
        · exact closes
        · refine safe.keep ?_ trivial
          rw [phase]
          rfl
  | _ =>
    rw [phase] at known
    refine safe.keep ?_ known
    rw [phase]
    rfl

theorem Safe.check (client : κ) (now : ℕ) :
    Safe crates (system.advance client ((system.clients client).check crates now).1
      ((system.clients client).check crates now).2) := by
  have known := safe.knows client
  cases phase : system.clients client with
  | admitted request =>
    rw [Client.check]
    cases decoded : crates.decode request.payload with
    | none => exact safe.close fun written isWritten => by cases isWritten
    | some payloadBytes =>
      by_cases declared : request.cI = sha256Bytes crates payloadBytes
      · simp only [declared, ne_eq, not_true_eq_false, if_false]
        refine safe.keep ?_ ⟨⟨decoded, declared.symm⟩, declared.symm⟩
        rw [phase]
        rfl
      · simp only [ne_eq, declared, not_false_eq_true, if_true]
        refine safe.close fun written isWritten => ?_
        obtain rfl := Option.some.inj isWritten
        show "MUTATION_DETECTED_HALT" ≠ "CERTIFIED"
        decide
  | _ =>
    rw [phase] at known
    refine safe.keep ?_ known
    rw [phase]
    rfl

theorem Safe.certify (client : κ) (now : ℕ) :
    Safe crates (system.advance client ((system.clients client).certify crates now).1
      ((system.clients client).certify crates now).2) := by
  have known := safe.knows client
  cases phase : system.clients client with
  | executed request cE =>
    rw [phase] at known
    rcases known with ⟨execution, member, isClient, isRequest, succeeded, declared, derived⟩
    refine safe.advance (fun nonce isClaim => ?_) trivial fun written isWritten _ => ?_
    · cases isClaim
    · obtain rfl := Option.some.inj isWritten
      refine ⟨execution, member, isClient, succeeded, declared.symm, ?_, ?_⟩
      · exact derived.trans declared.symm
      · rw [isRequest]
        rfl
  | _ =>
    rw [phase] at known
    refine safe.keep ?_ known
    rw [phase]
    rfl

theorem Safe.consume (client : κ) (now : ℕ) :
    Safe crates (system.consume client now) := by
  rw [GatewaySystem.consume]
  cases phase : system.clients client with
  | received request =>
    cases consumed : system.ledger.ledger.consume request.nonce request.nonce request.cI now with
    | mk accepted next =>
      have isSystem : system.ledger.consume request.nonce request.nonce request.cI now =
          (accepted, { system.ledger with
            ledger := next
            admitted := if accepted then request.nonce :: system.ledger.admitted
              else system.ledger.admitted }) := by
        rw [LedgerSystem.consume, consumed]
      simp only [isSystem]
      cases accepted with
      | false =>
        obtain rfl := ReplayLedger.consume_false consumed
        have kept : Safe crates { system with ledger := { system.ledger with } } :=
          safe.withLedger safe.quiet fun _ => id
        refine kept.close fun written isWritten => ?_
        obtain rfl := Option.some.inj isWritten
        show "REPLAY_REJECTED" ≠ "CERTIFIED"
        decide
      | true =>
        have isNew := ReplayLedger.not_exists_of_consume consumed
        have kept : Safe crates { system with ledger := { system.ledger with
            ledger := next
            admitted := request.nonce :: system.ledger.admitted } } :=
          safe.withLedger safe.quiet fun nonce isThere =>
            (ReplayLedger.exists_consume consumed).mpr (Or.inl isThere)
        refine kept.advance (fun nonce isClaim => ?_) trivial fun written isWritten => ?_
        · obtain rfl := Option.some.inj isClaim
          -- a nonce that did not exist was neither claimed nor executed under
          refine ⟨(ReplayLedger.exists_consume consumed).mpr (Or.inr rfl),
            fun execution member same => ?_, fun other isOther => ?_⟩
          · exact isNew (same ▸ safe.recorded execution member)
          · exact absurd (safe.claims other _ isOther).1 isNew
        · cases isWritten
  | _ => exact safe

theorem Safe.execute (client : κ) (succeeded : Bool) :
    Safe crates (system.execute client succeeded) := by
  rw [GatewaySystem.execute]
  cases phase : system.clients client with
  | checked request payloadBytes cE =>
    have known := safe.knows client
    rw [phase] at known
    rcases known with ⟨declared, derived⟩
    have isClaim : (system.clients client).claimed = some request.nonce := by
      rw [phase]
      rfl
    rcases safe.keepsClaim isClaim with ⟨isThere, isNew, isOwn⟩
    let execution : Execution κ := ⟨client, request, payloadBytes, succeeded⟩
    -- the run gives its claim up, the call is recorded, and the run goes on
    have released : Safe crates (system.advance client .closed none) :=
      safe.close fun written isWritten => by cases isWritten
    have unclaimed (other : κ) : ((system.advance client .closed none).clients other).claimed ≠
        some request.nonce := by
      by_cases same : other = client
      · rw [same, GatewaySystem.clients_advance_self]
        intro isClosed
        cases isClosed
      · rw [GatewaySystem.clients_advance_ne _ same]
        exact fun isOther => same (isOwn other isOther)
    have recorded : Safe crates { system.advance client .closed none with
        executions := execution :: system.executions } :=
      released.record isThere unclaimed isNew declared
    have onward (next : Client) (unclaims : next.claimed = none)
        (knows : next.Knows crates (execution :: system.executions) client) :
        Safe crates (GatewaySystem.advance { system.advance client .closed none with
          executions := execution :: system.executions } client next none) := by
      refine recorded.keep ?_ knows
      rw [unclaims]
      show none = ((system.advance client .closed none).clients client).claimed
      rw [GatewaySystem.clients_advance_self]
      rfl
    simp only [GatewaySystem.advance, Function.update_idem] at onward
    cases succeeded with
    | false => exact onward .closed rfl trivial
    | true =>
      refine onward (.executed request cE) rfl ⟨execution, List.mem_cons_self, rfl, rfl, rfl, ?_⟩
      exact ⟨declared.2, derived⟩
  | _ => exact safe

/-- No step of the gateway executes a request twice or an unadmitted one. -/
theorem Safe.step [DecidableEq ι]
    (within : system.ledger.ledger.spent.card ≤ system.ledger.ledger.maxSpent)
    (action : GatewayAction ι κ) : Safe crates (gateway crates system action).2 := by
  cases action with
  | client client action =>
    cases action with
    | receive buffer => exact safe.receive client buffer
    | consume now => exact safe.consume client now
    | check now => exact safe.check client now
    | execute succeeded => exact safe.execute client succeeded
    | certify now => exact safe.certify client now
  | collector pass action =>
    refine safe.withLedger (fun other => ?_) fun nonce isThere => ?_
    · by_cases same : other = pass
      · rw [same]
        show (Function.update system.ledger.passes pass _ pass).IsQuiet
        rw [Function.update_self]
        exact isQuiet_passStep within (safe.quiet pass) action
      · show (Function.update system.ledger.passes pass _ other).IsQuiet
        rw [Function.update_of_ne same]
        exact safe.quiet other
    · exact exists_passStep (safe.quiet pass) action isThere

end Safe

end Safety

def WithinCapacity (system : GatewaySystem ι κ) (_ : GatewayAction ι κ) : Prop :=
  system.ledger.ledger.spent.card ≤ system.ledger.ledger.maxSpent

/-- Requests are executed at most once for a nonce, with the decoded payload of the declared
digest, and certified receipts are of runs whose execution succeeded, with the digest of its body
and its nonce. -/
structure GatewaySafe (crates : GatewayCrates) (system : GatewaySystem ι κ) : Prop where
  executesOnce : (system.executions.map fun execution => execution.request.nonce).Nodup
  executesDeclared : ∀ execution ∈ system.executions,
    crates.decode execution.request.payload = some execution.payloadBytes ∧
      sha256Bytes crates execution.payloadBytes = execution.request.cI
  certifiesExecuted : ∀ entry ∈ system.receipts, entry.2.status = "CERTIFIED" →
    ∃ execution ∈ system.executions, execution.client = entry.1 ∧ execution.succeeded = true ∧
      entry.2.cI = entry.2.cE ∧ entry.2.cE = sha256Bytes crates execution.payloadBytes ∧
        entry.2.nonce = execution.request.nonce

/-- Every run whose spent set stays within its capacity is safe. -/
theorem gateway_safe [DecidableEq ι] [DecidableEq κ] (crates : GatewayCrates)
    (maxSpent ttlSeconds : ℕ) (actions : List (GatewayAction ι κ))
    (within : (gateway crates).Throughout WithinCapacity
      (GatewaySystem.start ι κ maxSpent ttlSeconds) actions) :
    GatewaySafe crates
      ((gateway crates).finalState (GatewaySystem.start ι κ maxSpent ttlSeconds) actions) := by
  have safe : Safe crates
      ((gateway crates).finalState (GatewaySystem.start ι κ maxSpent ttlSeconds) actions) :=
    Machine.invariant_finalState (fun _ action safe within => safe.step within action)
      (safe_start maxSpent ttlSeconds) within
  refine ⟨safe.once, safe.bodies, fun entry member isCertified => ?_⟩
  rcases safe.certified entry member isCertified with ⟨execution, isExecution, certifies⟩
  exact ⟨execution, isExecution, certifies.client, certifies.succeeded,
    certifies.declared.trans certifies.derived.symm, certifies.derived, certifies.nonce⟩

namespace GatewaySample

def request : GatewayRequest where
  protocol := PROTOCOL_VERSION
  version := "1"
  cI := "sha256:6e340b9cffb37a989ca544e6bb780a2c78901d3fb33738768511a30617afa01d"
  nonce := "n"
  target := "http://sink"
  payloadEncoding := "base64"
  payload := "AA=="
  issuedAt := "0"

def message : List UInt8 :=
  ("\x7b\"protocol\":\"DAB-TIER0-V1\",\"version\":\"1\",\"c_i\":\"" ++ request.cI ++
    "\",\"nonce\":\"n\",\"target\":\"http://sink\",\"payload_encoding\":\"base64\"," ++
    "\"payload\":\"AA==\",\"issued_at\":\"0\"\x7d").toUTF8.toList

/-- One request, one payload, their digests and the signature of their receipt. -/
def crates : GatewayCrates where
  fromSlice := fun bytes => if bytes = message then some request else none
  decode := fun text => if text = "AA==" then some [0] else none
  sha256Hex := fun bytes =>
    if bytes = [0] then "6e340b9cffb37a989ca544e6bb780a2c78901d3fb33738768511a30617afa01d"
    else "be27d158c3f8c0fa58ba568db4ba41ca099db9d23af503958bb0a6f0fdba2405"
  sign := fun _ =>
    "9e50509877a0e3ca1b0430b8c49fe523c1de9a118afb4985c9955a01a82e7e0a" ++
      "c2fd7e3ec309084e168439f92c67ca99f9e00bcf16cf0e6dbcbf2f7cb7cec70e"

/-- Two runs with one request, the second after the first is certified and collected. -/
def actions : List (GatewayAction Unit Bool) :=
  [.client true (.receive message), .client true (.consume 0), .client true (.check 0),
    .client true (.execute true), .client true (.certify 0), .collector () (.begin 5),
    .collector () (.visit "n"), .collector () .endScan, .collector () .archive,
    .client false (.receive message), .client false (.consume 5)]

/-- Two requests of one client under the real digest and signature. -/
theorem gateway_safe_actions : GatewaySafe crates
    ((gateway crates).finalState (GatewaySystem.start Unit Bool 10 5) actions) := by
  refine gateway_safe crates 10 5 actions ?_
  simp only [actions, Machine.Throughout, WithinCapacity]
  decide +kernel

end GatewaySample

end GhostArk.Dab
