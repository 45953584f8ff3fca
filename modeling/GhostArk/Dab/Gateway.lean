import GhostArk.Dab.ReplayLedger

/-!
Contract: `handle_client` of `dab/gateway/src/main.rs`, and the signed message of a receipt.

Owns the message that gateway and verifier build, each on its own, requests and receipts, the
steps of one client run, and the gateway: any number of client runs and of garbage-collection
passes on one ledger, in any order of their steps.

Does not own: parsing, base64, digests and signatures, which are parameters, and the network: an
execution succeeds or fails as the environment says.
-/

namespace GhostArk.Dab

open Lib

def SIGNATURE_DOMAIN : String := "GHOST-ARK:DAB:RECEIPT:"

def PROTOCOL_VERSION : String := "DAB-TIER0-V1"

def POLICY_DESCRIPTOR : String :=
  "GHOST-ARK:DAB:POLICY|v1|rule=exact-byte-consistency(c_i==c_e)|replay=nonce-monotonic-set"

/-- `format!("{}{}|{}|{}|{}|{}|{}", ...)`, of both crates. -/
def canonicalMessage (protocol cI cE nonce timestamp policyDigest : String) : String :=
  SIGNATURE_DOMAIN ++ protocol ++ "|" ++ cI ++ "|" ++ cE ++ "|" ++ nonce ++ "|" ++ timestamp ++
    "|" ++ policyDigest

def MAX_REQUEST_BYTES : ℕ := 1024 * 1024

structure GatewayRequest where
  protocol : String
  version : String
  cI : String
  nonce : String
  target : String
  payloadEncoding : String
  payload : String
  issuedAt : String
deriving DecidableEq

structure GatewayReceipt where
  protocol : String
  status : String
  cI : String
  cE : String
  nonce : String
  timestamp : String
  policyDigest : String
  gatewaySignature : String
deriving DecidableEq

structure GatewayCrates where
  /-- `serde_json::from_slice`. -/
  fromSlice : List UInt8 → Option GatewayRequest
  /-- `BASE64.decode`. -/
  decode : String → Option (List UInt8)
  /-- The digest of SHA-256, in lowercase hex. -/
  sha256Hex : List UInt8 → String
  /-- The hex of the signature of a message. -/
  sign : String → String

section Receipts

variable (crates : GatewayCrates)

def sha256Bytes (bytes : List UInt8) : String := "sha256:" ++ crates.sha256Hex bytes

def policyDigest : String :=
  "sha256:" ++ crates.sha256Hex POLICY_DESCRIPTOR.toUTF8.toList

def buildCertifiedReceipt (cI cE nonce timestamp : String) : GatewayReceipt where
  protocol := PROTOCOL_VERSION
  status := "CERTIFIED"
  cI
  cE
  nonce
  timestamp
  policyDigest := policyDigest crates
  gatewaySignature :=
    crates.sign (canonicalMessage PROTOCOL_VERSION cI cE nonce timestamp (policyDigest crates))

def haltReceipt (status cI cE nonce timestamp : String) : GatewayReceipt where
  protocol := PROTOCOL_VERSION
  status
  cI
  cE
  nonce
  timestamp
  policyDigest := "NULL"
  gatewaySignature := ""

/-- Where a run is. -/
inductive Client where
  | listening
  | received (request : GatewayRequest)
  | admitted (request : GatewayRequest)
  | checked (request : GatewayRequest) (payloadBytes : List UInt8) (cE : String)
  | executed (request : GatewayRequest) (cE : String)
  | closed
deriving DecidableEq

/-- A call of `execute_request`. -/
structure Execution (κ : Type) where
  client : κ
  request : GatewayRequest
  payloadBytes : List UInt8
  succeeded : Bool

inductive ClientAction where
  /-- The bytes of the stream. -/
  | receive (buffer : List UInt8)
  | consume (now : ℕ)
  /-- Decoding, the digest, and the comparison with the declared one. -/
  | check (now : ℕ)
  | execute (succeeded : Bool)
  | certify (now : ℕ)

def Client.receive (buffer : List UInt8) : Client → Client
  | .listening =>
    if MAX_REQUEST_BYTES < buffer.length then .closed
    else
      match crates.fromSlice buffer with
      | none => .closed
      | some request => if request.protocol ≠ PROTOCOL_VERSION then .closed else .received request
  | client => client

/-- What a check leads to, with the receipt of a mutation. -/
def Client.check (now : ℕ) : Client → Client × Option GatewayReceipt
  | .admitted request =>
    match crates.decode request.payload with
    | none => (.closed, none)
    | some payloadBytes =>
      let cE := sha256Bytes crates payloadBytes
      if request.cI ≠ cE then
        (.closed, some (haltReceipt "MUTATION_DETECTED_HALT" request.cI cE request.nonce
          (toString now)))
      else (.checked request payloadBytes cE, none)
  | client => (client, none)

def Client.certify (now : ℕ) : Client → Client × Option GatewayReceipt
  | .executed request cE =>
    (.closed, some (buildCertifiedReceipt crates request.cI cE request.nonce (toString now)))
  | client => (client, none)

end Receipts

/-- Client runs `κ` and passes `ι` on one ledger. -/
structure GatewaySystem (ι κ : Type) where
  ledger : LedgerSystem ι
  clients : κ → Client
  /-- Calls of `execute_request`, the last first. Statements are about them. -/
  executions : List (Execution κ)
  /-- Receipts that runs have written, the last first. -/
  receipts : List (κ × GatewayReceipt)

inductive GatewayAction (ι κ : Type) where
  | client (client : κ) (action : ClientAction)
  | collector (pass : ι) (action : PassAction)

namespace GatewaySystem

variable {ι κ : Type} [DecidableEq κ]

def start (ι κ : Type) (maxSpent ttlSeconds : ℕ) : GatewaySystem ι κ :=
  ⟨.start ι maxSpent ttlSeconds, fun _ => .listening, [], []⟩

def advance (system : GatewaySystem ι κ) (client : κ) (next : Client)
    (receipt : Option GatewayReceipt) : GatewaySystem ι κ :=
  { system with
    clients := Function.update system.clients client next
    receipts := (receipt.map fun written => (client, written)).toList ++ system.receipts }

theorem clients_advance_self (system : GatewaySystem ι κ) (client : κ) (next : Client)
    (receipt : Option GatewayReceipt) : (system.advance client next receipt).clients client = next :=
  Function.update_self ..

theorem clients_advance_ne (system : GatewaySystem ι κ) {client other : κ}
    (different : other ≠ client) (next : Client) (receipt : Option GatewayReceipt) :
    (system.advance client next receipt).clients other = system.clients other :=
  Function.update_of_ne different ..

def consume (system : GatewaySystem ι κ) (client : κ) (now : ℕ) : GatewaySystem ι κ :=
  match system.clients client with
  | .received request =>
    match system.ledger.consume request.nonce request.nonce request.cI now with
    | (true, ledger) => { system with ledger }.advance client (.admitted request) none
    | (false, ledger) =>
      { system with ledger }.advance client .closed
        (some (haltReceipt "REPLAY_REJECTED" request.cI "NULL" request.nonce (toString now)))
  | _ => system

/-- `execute_request` with the decoded bytes. -/
def execute (system : GatewaySystem ι κ) (client : κ) (succeeded : Bool) : GatewaySystem ι κ :=
  match system.clients client with
  | .checked request payloadBytes cE =>
    { system with
      executions := ⟨client, request, payloadBytes, succeeded⟩ :: system.executions }.advance
        client (if succeeded then .executed request cE else .closed) none
  | _ => system

end GatewaySystem

def gateway {ι κ : Type} [DecidableEq ι] [DecidableEq κ] (crates : GatewayCrates) :
    Machine (GatewaySystem ι κ) (GatewayAction ι κ) Unit := fun system action =>
  ((), match action with
    | .client client (.receive buffer) =>
      system.advance client ((system.clients client).receive crates buffer) none
    | .client client (.consume now) => system.consume client now
    | .client client (.check now) =>
      let checked := (system.clients client).check crates now
      system.advance client checked.1 checked.2
    | .client client (.execute succeeded) => system.execute client succeeded
    | .client client (.certify now) =>
      let certified := (system.clients client).certify crates now
      system.advance client certified.1 certified.2
    | .collector pass action => { system with ledger := system.ledger.collector pass action })

end GhostArk.Dab
