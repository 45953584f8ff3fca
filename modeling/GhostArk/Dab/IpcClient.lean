import GhostArk.Dab.DeclarationCommitment
import GhostArk.Dab.GatewaySafety
import GhostArk.EnforcementRuntime.Receipts.LocalDevHmac

/-!
Contract: `createEnvelope` of `dab/agent-runtime/src/ipc_client.ts`, before the gateway.

Owns the envelope of a declaration, its message, and what `handle_client` does with it: the
label of the envelope is not the protocol of the gateway, and the digest that was declared is
not the digest of the payload.

Does not own the socket, its timeout, and the size limit of the client.
-/

namespace GhostArk.Dab

open Js Lib
open EnforcementRuntime.Receipts.Signer (base64)

/-- `Buffer.from(value, "utf8").toString("base64")`. -/
def encodePayload (value : JsString) : JsString := base64 (utf8 value)

structure DeclaredActionArtifact where
  version : JsString
  ci : JsString
  canonical : JsString

structure Envelope where
  protocol : JsString
  version : JsString
  cI : JsString
  nonce : JsString
  target : JsString
  issuedAt : JsString
  payloadEncoding : JsString
  payload : JsString
deriving DecidableEq

/-- `createEnvelope(artifact, target)` at a nonce and a time. -/
def createEnvelope (artifact : DeclaredActionArtifact) (target nonce issuedAt : JsString) :
    Envelope where
  protocol := js "DAB-TIER0"
  version := artifact.version
  cI := artifact.ci
  nonce
  target
  issuedAt
  payloadEncoding := js "base64"
  payload := encodePayload artifact.canonical

/-- `JSON.stringify(envelope)`. -/
def Envelope.json (envelope : Envelope) : JsString :=
  jsonObject
    [(js "protocol", quote envelope.protocol), (js "version", quote envelope.version),
      (js "c_i", quote envelope.cI), (js "nonce", quote envelope.nonce),
      (js "target", quote envelope.target), (js "issued_at", quote envelope.issuedAt),
      (js "payload_encoding", quote envelope.payloadEncoding), (js "payload", quote envelope.payload)]

def octets (bytes : List ℕ) : List UInt8 := bytes.map UInt8.ofNat

def Envelope.message (envelope : Envelope) : List UInt8 := octets (utf8 envelope.json)

def units (text : String) : JsString := text.toList.flatMap fun character => utf16 character.toNat

theorem units_append (first second : String) :
    units (first ++ second) = units first ++ units second := by
  rw [units, String.toList_append, List.flatMap_append]
  rfl

/-- The request has the fields of the envelope. -/
structure Carries (envelope : Envelope) (request : GatewayRequest) : Prop where
  protocol : units request.protocol = envelope.protocol
  version : units request.version = envelope.version
  cI : units request.cI = envelope.cI
  nonce : units request.nonce = envelope.nonce
  target : units request.target = envelope.target
  issuedAt : units request.issuedAt = envelope.issuedAt
  payloadEncoding : units request.payloadEncoding = envelope.payloadEncoding
  payload : units request.payload = envelope.payload

/-- JSON, base64 and SHA-256 are the same on both sides, for one envelope and its payload. -/
structure SharedFormats {Raw : Type} (host : DeclarationHost Raw) (crates : GatewayCrates)
    (envelope : Envelope) (canonicalPayload : JsString) : Prop where
  reads : ∀ request, crates.fromSlice envelope.message = some request → Carries envelope request
  decodes : ∀ text, units text = encodePayload canonicalPayload →
    crates.decode text = some (octets (utf8 canonicalPayload))
  digests : units (crates.sha256Hex (octets (utf8 canonicalPayload))) =
    host.sha256.sha256Hex canonicalPayload

section Gateway

/-- A request of another protocol label closes the connection. -/
theorem receive_other_protocol {crates : GatewayCrates} {buffer : List UInt8}
    (other : ∀ request, crates.fromSlice buffer = some request →
      request.protocol ≠ PROTOCOL_VERSION) :
    Client.receive crates buffer .listening = .closed := by
  simp only [Client.receive]
  split
  · rfl
  · cases parsed : crates.fromSlice buffer with
    | none => rfl
    | some request => exact if_pos (other request parsed)

variable {ι κ : Type} [DecidableEq κ]

variable {system : GatewaySystem ι κ}

theorem closed_advance {client acting : κ} (closed : system.clients client = .closed)
    {next : Client} (still : acting = client → next = .closed) (receipt : Option GatewayReceipt) :
    (system.advance acting next receipt).clients client = .closed := by
  by_cases same : client = acting
  · subst same
    rw [system.clients_advance_self]
    exact still rfl
  · exact (system.clients_advance_ne same next receipt).trans closed

theorem closed_consume {client : κ} (closed : system.clients client = .closed) (acting : κ)
    (now : ℕ) : (system.consume acting now).clients client = .closed := by
  unfold GatewaySystem.consume
  cases phase : system.clients acting with
  | received request =>
    have apart : acting ≠ client := by
      rintro rfl
      rw [closed] at phase
      cases phase
    simp only
    split
    all_goals
      apply closed_advance
      · exact closed
      · exact fun same => absurd same apart
  | _ => exact closed

theorem closed_execute {client : κ} (closed : system.clients client = .closed) (acting : κ)
    (succeeded : Bool) : (system.execute acting succeeded).clients client = .closed := by
  unfold GatewaySystem.execute
  cases phase : system.clients acting with
  | checked request payloadBytes cE =>
    have apart : acting ≠ client := by
      rintro rfl
      rw [closed] at phase
      cases phase
    apply closed_advance
    · exact closed
    · exact fun same => absurd same apart
  | _ => exact closed

variable [DecidableEq ι] {crates : GatewayCrates}

/-- A closed run stays closed. -/
theorem closed_step (system : GatewaySystem ι κ) (action : GatewayAction ι κ) {client : κ}
    (closed : system.clients client = .closed) :
    (gateway crates system action).2.clients client = .closed := by
  cases action with
  | collector pass action => exact closed
  | client acting action =>
    cases action with
    | consume now => exact closed_consume closed acting now
    | execute succeeded => exact closed_execute closed acting succeeded
    | receive buffer =>
      refine closed_advance closed (fun same => ?_) _
      rw [same, closed]
      rfl
    | check now =>
      refine closed_advance closed (fun same => ?_) _
      rw [same, closed]
      rfl
    | certify now =>
      refine closed_advance closed (fun same => ?_) _
      rw [same, closed]
      rfl

end Gateway

section Honest

variable {Raw : Type} {host : DeclarationHost Raw} {crates : GatewayCrates} {envelope : Envelope}

theorem label_ne : js "DAB-TIER0" ≠ units PROTOCOL_VERSION := by
  decide +kernel

/-- A declaration that the client encodes passes the digest check of the gateway. -/
theorem check_declared {canonicalPayload : JsString}
    (formats : SharedFormats host crates envelope canonicalPayload)
    (declares : envelope.cI = js "sha256:" ++
      host.sha256.sha256Hex (commitmentMaterial canonicalPayload))
    (encodes : envelope.payload = encodePayload canonicalPayload)
    (distinguishes : host.sha256.CollisionFreeOn
      [commitmentMaterial canonicalPayload, canonicalPayload])
    {request : GatewayRequest} (cI : units request.cI = envelope.cI)
    (payload : units request.payload = envelope.payload) (now : ℕ) :
    ((Client.admitted request).check crates now).1 = .closed := by
  have decoded := formats.decodes request.payload (payload.trans encodes)
  have apart : request.cI ≠ sha256Bytes crates (octets (utf8 canonicalPayload)) := by
    intro same
    have derived : units request.cI = js "sha256:" ++ host.sha256.sha256Hex canonicalPayload := by
      rw [same, sha256Bytes, units_append, formats.digests]
      exact congrArg (· ++ _) (by decide +kernel)
    have digests := List.append_cancel_left ((cI.trans declares).symm.trans derived)
    exact commitmentMaterial_ne canonicalPayload
      (distinguishes _ (by simp) _ (by simp) digests)
  rw [Client.check, decoded]
  exact congrArg Prod.fst (if_pos apart)

variable {ι κ : Type} [DecidableEq ι] [DecidableEq κ]

/-- The run that receives the message ends at once, and stays so whatever the gateway does next;
and with any label the digest that was declared would have stopped it. -/
structure StoppedAtGateway (host : DeclarationHost Raw) (crates : GatewayCrates)
    (envelope : Envelope) (canonicalPayload : JsString) (system : GatewaySystem ι κ) (client : κ) :
    Prop where
  dropped : ((gateway crates) system (.client client (.receive envelope.message))).2 =
    system.advance client .closed none
  never : ∀ actions, ((gateway crates).finalState system
    (.client client (.receive envelope.message) :: actions)).clients client = .closed
  digests : host.sha256.CollisionFreeOn [commitmentMaterial canonicalPayload, canonicalPayload] →
    ∀ request, units request.cI = envelope.cI → units request.payload = envelope.payload →
      ∀ now, ((Client.admitted request).check crates now).1 = .closed

/-- No declaration that was accepted is executed. -/
theorem declaration_stopped (host : DeclarationHost Raw) (crates : GatewayCrates)
    {rawAction : Raw} {now : JsNumber} {commitment : DeclarationCommitment}
    (accepted : createDeclarationCommitment host now rawAction = .ok commitment)
    (version target nonce issuedAt : JsString)
    (formats : SharedFormats host crates
      (createEnvelope ⟨version, commitment.ci, commitment.canonicalPayload⟩ target nonce issuedAt)
      commitment.canonicalPayload)
    (system : GatewaySystem ι κ) {client : κ} (listening : system.clients client = .listening) :
    StoppedAtGateway host crates
      (createEnvelope ⟨version, commitment.ci, commitment.canonicalPayload⟩ target nonce issuedAt)
      commitment.canonicalPayload system client := by
  have dropped : ((gateway crates) system (.client client (.receive (createEnvelope
      ⟨version, commitment.ci, commitment.canonicalPayload⟩ target nonce issuedAt).message))).2 =
      system.advance client .closed none := by
    show system.advance client (Client.receive crates _ (system.clients client)) none = _
    rw [listening, receive_other_protocol]
    intro request isRead same
    have label := (formats.reads request isRead).protocol
    rw [same] at label
    exact label_ne label.symm
  refine ⟨dropped, fun actions => ?_, fun distinguishes request cI payload now => ?_⟩
  · rw [Machine.finalState, dropped]
    apply Machine.preserved_finalState (fun system action closed => closed_step system action closed)
    exact system.clients_advance_self client .closed none
  · exact check_declared formats (ci_createDeclarationCommitment accepted) rfl distinguishes cI
      payload now

end Honest

namespace DeclarationSample

/-- A host whose clones are what it is given, and whose strings are all normalized. -/
def host : DeclarationHost Snapshot := ⟨.ok, id, decimalText, fips180⟩

def action : Snapshot := ⟨1, fun _ => .plain [(js "op", .string (js "pay"))], .object 0⟩

def payload : JsString := js "\x7b\"op\":\"pay\"\x7d"

def commitment : DeclarationCommitment :=
  ⟨DAB_PROTOCOL_VERSION, js "sha256:" ++ fips180.sha256Hex (commitmentMaterial payload), payload,
    action, .ofNat 0⟩

theorem serialized : canonicalSerialize decimalText (.object [(js "op", .string (js "pay"))]) =
    payload := by
  decide +kernel

theorem declared : createDeclarationCommitment host (.ofNat 0) action = .ok commitment := by
  have canonical : canonicalize host action = .ok (.object [(js "op", .string (js "pay"))]) := by
    rfl
  have snapshot : createSnapshot host action = .ok action := rfl
  rw [createDeclarationCommitment, snapshot, ok_bind, canonical, ok_bind]
  simp only [host, serialized]
  rfl

def envelope : Envelope :=
  createEnvelope ⟨js "1", commitment.ci, commitment.canonicalPayload⟩ (js "http://sink") (js "n")
    (js "0")

def request : GatewayRequest where
  protocol := "DAB-TIER0"
  version := "1"
  cI := "sha256:9f4b51b9df25ad8389218cfe0400f79344cdfc5978e2556653e67d7291911af7"
  nonce := "n"
  target := "http://sink"
  payloadEncoding := "base64"
  payload := "eyJvcCI6InBheSJ9"
  issuedAt := "0"

def crates : GatewayCrates where
  fromSlice := fun bytes => if bytes = envelope.message then some request else none
  decode := fun text =>
    if units text = encodePayload payload then some (octets (utf8 payload)) else none
  sha256Hex := fun bytes =>
    if bytes = octets (utf8 payload) then
      "348545bf54eef3fde5852ee7ea2094db4387c07e58354a2032a4a9f18f315087"
    else ""
  sign := fun _ => ""

theorem formats : SharedFormats host crates envelope payload := by
  constructor
  · intro read isRead
    have same : request = read := by simpa [crates] using isRead
    subst same
    constructor <;> decide +kernel
  · intro text isText
    exact if_pos isText
  · decide +kernel

/-- The declaration of a payment, serialised as the client writes it. -/
theorem payment_stopped : StoppedAtGateway host crates envelope payload
    (GatewaySystem.start Unit Unit 10 5) () :=
  declaration_stopped host crates declared (js "1") (js "http://sink") (js "n") (js "0") formats
    (GatewaySystem.start Unit Unit 10 5) rfl

/-- The declaration is accepted, and the run ends without a check of the digest. -/
theorem payment_not_executed : createDeclarationCommitment host (.ofNat 0) action = .ok commitment ∧
    ((gateway crates).finalState (GatewaySystem.start Unit Unit 10 5)
      [.client () (.receive envelope.message), .client () (.consume 0),
        .client () (.check 0)]).clients () = .closed := by
  refine ⟨declared, ?_⟩
  decide +kernel

end DeclarationSample

end GhostArk.Dab
