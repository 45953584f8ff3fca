import GhostArk.ResearchFrontier.Lobian.GlTableau
import GhostArk.ResearchFrontier.Occ.DriftIdentity

/-!
Contract: licence receipts, `lobian/receipt.ts`, with `canonicalModel` of `lobian/kripke.ts`.

Owns the local normal form of JSON values, the digests of descriptors and receipts, the building and
the verification of receipts, and exactly when two descriptors or two receipts of one digest are
equal up to key order: the normal form loses members named `__proto__`.

Does not own: what the normal form enumerates of host objects. It is a parameter.
-/

namespace GhostArk.ResearchFrontier.Lobian

open Js
open ReceiptSchema
open Occ (HostJson IsParsed stringify stateText written ordered)

/-! ### The normal form -/

/-- The members that the normal form takes over from a host object. -/
abbrev HostMembers := HostKind → Except JsError (List (JsString × JsValue))

def nonFiniteError : JsError := .plain (js "DANF: non-finite number")

def nonJsonError (typeText : JsString) : JsError :=
  .plain (js "DANF: non-JSON value of type " ++ typeText)

/-- The loop `out[k] = enc(o[k])`. Assigning `__proto__` makes no member. -/
def assignMembers : List (JsString × Except JsError JsValue) →
    Except JsError (List (JsString × JsValue))
  | [] => .ok []
  | (key, encoded) :: rest => do
    let value ← encoded
    let members ← assignMembers rest
    return if key = js "__proto__" then members else (key, value) :: members

section Danf

variable (hostMembers : HostMembers)

mutual

def enc : JsValue → Except JsError JsValue
  | .null => .ok .null
  | .number value => if value.isFinite then .ok (.number value) else .error nonFiniteError
  | .string value => .ok (.string value)
  | .bool value => .ok (.bool value)
  | .array items => (encItems items).map .array
  | .object entries => (assignMembers (sortEntries (encEntries entries))).map .object
  | .undefined => .error (nonJsonError (js "undefined"))
  | .hole => .error (nonJsonError (js "undefined"))
  | .host .bigint => .error (nonJsonError (js "bigint"))
  | .host .function => .error (nonJsonError (js "function"))
  | .host .symbol => .error (nonJsonError (js "symbol"))
  | .host kind => (hostMembers kind).map .object

/-- `v.map(enc)`, which keeps holes. -/
def encItems : List JsValue → Except JsError (List JsValue)
  | [] => .ok []
  | .hole :: rest => (encItems rest).map (.hole :: ·)
  | item :: rest => do
    let encoded ← enc item
    let others ← encItems rest
    return encoded :: others

def encEntries : List (JsString × JsValue) → List (JsString × Except JsError JsValue)
  | [] => []
  | (key, value) :: rest => (key, enc value) :: encEntries rest

end

variable (runtime : Runtime) (hostJson : HostJson)

/-- `danf(value)`. What `enc` returns always has a text. -/
def danf (value : JsValue) : Except JsError JsString := do
  let encoded ← enc hostMembers value
  let text ← stringify runtime hostJson .none encoded
  return text.getD (js "undefined")

/-- `sha256:${sha256(danf(value))}`. -/
def danfDigest (value : JsValue) : Except JsError JsString :=
  (danf hostMembers runtime hostJson value).map fun text => js "sha256:" ++ sha256Hex runtime text

def agentDigest (descriptor : JsValue) : Except JsError JsString :=
  danfDigest hostMembers runtime hostJson descriptor

theorem encEntries_eq_map (entries : List (JsString × JsValue)) :
    encEntries hostMembers entries = entries.map fun entry => (entry.1, enc hostMembers entry.2) := by
  induction entries with
  | nil => rfl
  | cons entry rest ih =>
    rw [encEntries, ih, List.map_cons]

theorem assignMembers_map (entries : List (JsString × JsValue)) :
    assignMembers (entries.map fun entry => (entry.1, .ok entry.2)) =
      .ok (entries.filter fun entry => entry.1 ≠ js "__proto__") := by
  induction entries with
  | nil => rfl
  | cons entry rest ih =>
    rw [List.map_cons, assignMembers, ok_bind, ih, ok_bind, List.filter_cons]
    simp only [decide_not, Bool.not_eq_true', decide_eq_false_iff_not, ite_not]
    rfl

theorem sortEntries_filter {V : Type} {entries : List (JsString × V)}
    (distinct : (entries.map Prod.fst).Nodup) (keeps : JsString × V → Bool) :
    sortEntries (entries.filter keeps) = (sortEntries entries).filter keeps := by
  have permuted : (entries.filter keeps).Perm ((sortEntries entries).filter keeps) :=
    (perm_sortEntries entries).symm.filter keeps
  rw [sortEntries_eq_of_perm ((List.filter_sublist.map Prod.fst).nodup distinct) permuted]
  have sorted : (sortEntries entries).Pairwise keyLe := List.pairwise_insertionSort keyLe entries
  exact (sorted.filter keeps).insertionSort_eq

variable {value : JsValue}

theorem enc_of_isJson (shaped : value.isJson = true) :
    enc hostMembers value = .ok (normalForm (written value)) := by
  induction value, shaped using jsonInduction with
  | null => rfl
  | bool value => rfl
  | number value finite => simp [enc, written, finite, normalForm]
  | string value => rfl
  | array items shaped ih =>
    have each : encItems hostMembers items =
        .ok (normalItems (Occ.writtenItems items)) := by
      clear shaped
      induction items with
      | nil => rfl
      | cons item rest restHypothesis =>
        rw [List.forall_mem_cons] at ih
        rcases ih with ⟨⟨itemShaped, here⟩, later⟩
        rw [encItems, here, restHypothesis later]
        · rfl
        · rintro rfl
          cases itemShaped
    rw [enc, each]
    rfl
  | object entries shaped distinct ih =>
    have encoded : encEntries hostMembers entries =
        (entries.map fun entry => (entry.1, normalForm (written entry.2))).map
          fun entry => (entry.1, .ok entry.2) := by
      rw [encEntries_eq_map, List.map_map]
      apply List.map_congr_left
      intro entry member
      rw [(ih entry member).snd]
      rfl
    have shown : normalEntries (Occ.writtenEntries entries) =
        (entries.map fun entry => (entry.1, normalForm (written entry.2))).filter
          fun entry => entry.1 ≠ js "__proto__" := by
      rw [normalEntries_eq_map, Occ.writtenEntries_eq_map, List.map_map, List.filter_map]
      rfl
    rw [enc, encoded, ← sortEntries_map fun entry : JsString × JsValue =>
      (Except.ok entry.2 : Except JsError JsValue), assignMembers_map, written, normalForm, shown,
      sortEntries_filter]
    · rfl
    · rw [Occ.map_fst_map]
      exact distinct

variable {hostMembers}

theorem ok_of_assignMembers {entries : List (JsString × Except JsError JsValue)}
    {members : List (JsString × JsValue)} (returned : assignMembers entries = .ok members) :
    ∀ entry ∈ entries, ∃ value, entry.2 = .ok value := by
  induction entries generalizing members with
  | nil => exact List.forall_mem_nil _
  | cons entry rest ih =>
    rcases bind_eq_ok.mp returned with ⟨value, encoded, later⟩
    rcases bind_eq_ok.mp later with ⟨others, assigned, -⟩
    exact List.forall_mem_cons.mpr ⟨⟨value, encoded⟩, ih assigned⟩

theorem ok_of_encItems {items encoded : List JsValue}
    (returned : encItems hostMembers items = .ok encoded) :
    ∀ item ∈ items, item = .hole ∨ ∃ value, enc hostMembers item = .ok value := by
  induction items generalizing encoded with
  | nil => exact List.forall_mem_nil _
  | cons item rest ih =>
    rw [List.forall_mem_cons]
    by_cases isHole : item = .hole
    · subst isHole
      rcases exists_map_eq_ok.mp ⟨encoded, returned⟩ with ⟨others, visited⟩
      exact ⟨Or.inl rfl, ih visited⟩
    · rw [encItems] at returned
      · rcases bind_eq_ok.mp returned with ⟨value, here, later⟩
        rcases bind_eq_ok.mp later with ⟨others, visited, -⟩
        exact ⟨Or.inr ⟨value, here⟩, ih visited⟩
      · exact isHole

theorem isJson_of_enc (parsed : IsParsed value) {encoded : JsValue}
    (returned : enc hostMembers value = .ok encoded) : value.isJson = true := by
  induction parsed generalizing encoded with
  | null => rfl
  | bool value => rfl
  | @number value isNumber =>
    rw [enc] at returned
    split at returned
    next finite => exact finite
    next => cases returned
  | string value => rfl
  | @array items parsed ih =>
    rcases exists_map_eq_ok.mp ⟨encoded, returned⟩ with ⟨others, visited⟩
    rw [isJson_array_iff]
    intro item member
    rcases ok_of_encItems visited item member with rfl | ⟨value, here⟩
    · cases parsed _ member
    · exact ih item member here
  | @object entries parsed distinct ih =>
    rcases exists_map_eq_ok.mp ⟨encoded, returned⟩ with ⟨members, assigned⟩
    rw [isJson_object_iff]
    refine ⟨fun entry member => ?_, distinct⟩
    have isMember : (entry.1, enc hostMembers entry.2) ∈
        sortEntries (encEntries hostMembers entries) := by
      rw [(perm_sortEntries _).mem_iff, encEntries_eq_map]
      exact List.mem_map.mpr ⟨entry, member, rfl⟩
    rcases ok_of_assignMembers assigned _ isMember with ⟨value, here⟩
    exact ih entry member here

theorem isParsed_of_isJson (shaped : value.isJson = true) : IsParsed value := by
  induction value, shaped using jsonInduction with
  | null => exact .null
  | bool value => exact .bool value
  | number value finite =>
    apply IsParsed.number
    rintro rfl
    cases finite
  | string value => exact .string value
  | array items shaped ih =>
    exact .array fun item member => (ih item member).snd
  | object entries shaped distinct ih =>
    exact .object (fun entry member => (ih entry member).snd) distinct

theorem stringify_normalForm (runtime : Runtime) (hostJson : HostJson)
    (shaped : value.isJson = true) :
    stringify runtime hostJson .none (normalForm value) =
      .ok (some (render runtime.numbers (ordered value))) := by
  induction value, shaped using jsonInduction with
  | null => rfl
  | bool value => cases value <;> rfl
  | number value finite => rfl
  | string value => rfl
  | array items shaped ih =>
    have texts : Occ.stringifyItems runtime hostJson .none (normalItems items) =
        .ok (renderItems runtime.numbers (Occ.orderedItems items)) := by
      clear shaped
      induction items with
      | nil => rfl
      | cons item rest restHypothesis =>
        rw [List.forall_mem_cons] at ih
        rcases ih with ⟨⟨itemShaped, here⟩, later⟩
        rw [normalItems, Occ.stringifyItems, here, restHypothesis later]
        rfl
    rw [normalForm, stringify, texts]
    rfl
  | object entries shaped distinct ih =>
    have members : Occ.stringifyEntries runtime hostJson .none
          (sortEntries (normalEntries entries)) =
        (sortEntries (Occ.orderedEntries entries)).map fun entry =>
          (entry.1, .ok (some (render runtime.numbers entry.2))) := by
      rw [Occ.stringifyEntries_eq_map, normalEntries_eq_map, Occ.orderedEntries_eq_map,
        ← sortEntries_map fun entry : JsString × JsValue => normalForm entry.2,
        ← sortEntries_map fun entry : JsString × JsValue => ordered entry.2, List.map_map,
        List.map_map]
      apply List.map_congr_left
      intro entry member
      have inEntries := (perm_sortEntries entries).mem_iff.mp member
      exact congrArg (Prod.mk entry.1) (ih entry inEntries).snd
    have inOrder : Occ.Replacer.order .none ((sortEntries (Occ.orderedEntries entries)).map
          fun entry => (entry.1, (.ok (some (render runtime.numbers entry.2)) :
            Except JsError (Option JsString)))) =
        (renderEntries runtime.numbers
          (objectOrder (sortEntries (Occ.orderedEntries entries)))).map fun entry =>
            (entry.1, .ok (some entry.2)) := by
      rw [renderEntries_eq_map, List.map_map, Occ.Replacer.order, ← objectOrder_map]
      rfl
    rw [normalForm, stringify, members, inOrder, Occ.textMembers_map]
    rfl

theorem danf_eq_ok_iff (runtime : Runtime) (hostJson : HostJson) (parsed : IsParsed value)
    {text : JsString} :
    danf hostMembers runtime hostJson value = .ok text ↔
      value.isJson = true ∧ stateText runtime value = text := by
  constructor
  · intro returned
    rcases bind_eq_ok.mp returned with ⟨encoded, isEncoded, later⟩
    have shaped := isJson_of_enc parsed isEncoded
    rw [enc_of_isJson hostMembers shaped] at isEncoded
    cases isEncoded
    rw [stringify_normalForm runtime hostJson (Occ.isJson_written parsed)] at later
    cases later
    exact ⟨shaped, rfl⟩
  · rintro ⟨shaped, rfl⟩
    rw [danf, enc_of_isJson hostMembers shaped, ok_bind,
      stringify_normalForm runtime hostJson (Occ.isJson_written parsed), ok_bind]
    rfl

end Danf

inductive ObligationKind where
  | naive_soundness
  | consistency
  | loeb_self_trust
deriving DecidableEq, Repr

def ObligationKind.text : ObligationKind → JsString
  | naive_soundness => js "naive-soundness"
  | consistency => js "consistency"
  | loeb_self_trust => js "loeb-self-trust"

structure LicensingObligation where
  kind : ObligationKind
  invariant : Formula
  formula : Formula

inductive Verdict where
  | certified (obligation : LicensingObligation) (proof : GlTableau.Proof)
  | refuted (obligation : LicensingObligation) (countermodel : KripkeModel) (root : JsString)

def Verdict.obligation : Verdict → LicensingObligation
  | certified obligation _ => obligation
  | refuted obligation _ _ => obligation

inductive LicenseStatus where
  | LICENSE_CERTIFIED
  | LICENSE_REFUTED
deriving DecidableEq, Repr

def LicenseStatus.text : LicenseStatus → JsString
  | LICENSE_CERTIFIED => js "LICENSE_CERTIFIED"
  | LICENSE_REFUTED => js "LICENSE_REFUTED"

def Verdict.status : Verdict → LicenseStatus
  | certified _ _ => .LICENSE_CERTIFIED
  | refuted _ _ _ => .LICENSE_REFUTED

/-- A model as a receipt carries it. A record has one value under each name. -/
structure CarriedModel where
  worlds : List JsString
  edges : List (JsString × JsString)
  valuation : Lib.InsertionMap JsString (List JsString)

def CarriedModel.model (carried : CarriedModel) : KripkeModel :=
  ⟨carried.worlds, carried.edges, carried.valuation.entries⟩

inductive Evidence where
  | proof (proof_digest : JsString)
  | countermodel (model : CarriedModel) (root : JsString)

/-- A receipt without its digest and signature. The protocol is constant. -/
structure UnsignedReceipt where
  status : LicenseStatus
  obligation_kind : JsString
  invariant : JsString
  obligation : Formula
  agent_digest : JsString
  evidence : Evidence
  timestamp : JsString

/-- A signed receipt. The signing mode is constant. -/
structure LobianReceipt extends UnsignedReceipt where
  content_digest : JsString
  signature : JsString

/-! ### Receipts as JSON -/

inductive LobianField where
  | protocol
  | status
  | obligation_kind
  | invariant
  | obligation
  | agent_digest
  | evidence
  | timestamp
  | content_digest
  | signature
  | signing_mode
deriving DecidableEq, Repr

namespace LobianField

def text : LobianField → JsString
  | protocol => js "protocol"
  | status => js "status"
  | obligation_kind => js "obligation_kind"
  | invariant => js "invariant"
  | obligation => js "obligation"
  | agent_digest => js "agent_digest"
  | evidence => js "evidence"
  | timestamp => js "timestamp"
  | content_digest => js "content_digest"
  | signature => js "signature"
  | signing_mode => js "signing_mode"

/-- The members that are digested. -/
def unsigned : List LobianField :=
  [protocol, status, obligation_kind, invariant, obligation, agent_digest, evidence, timestamp]

theorem nodup_unsigned : (unsigned.map text).Nodup := by
  decide +kernel

end LobianField

def textArray (texts : List JsString) : JsValue := .array (texts.map .string)

def operatorValue (kind : String) (operands : List (JsString × JsValue)) : JsValue :=
  .object ((js "k", .string (js kind)) :: operands)

def formulaValue : Formula → JsValue
  | .atom name => operatorValue "atom" [(js "name", .string name)]
  | .top => operatorValue "top" []
  | .bot => operatorValue "bot" []
  | .not a => operatorValue "not" [(js "a", formulaValue a)]
  | .and a b => operatorValue "and" [(js "a", formulaValue a), (js "b", formulaValue b)]
  | .or a b => operatorValue "or" [(js "a", formulaValue a), (js "b", formulaValue b)]
  | .imp a b => operatorValue "imp" [(js "a", formulaValue a), (js "b", formulaValue b)]
  | .iff a b => operatorValue "iff" [(js "a", formulaValue a), (js "b", formulaValue b)]
  | .box a => operatorValue "box" [(js "a", formulaValue a)]

mutual

def proofValue : GlTableau.Proof → JsValue
  | .close reason sequent =>
    .object [(js "rule", .string (js "close")), (js "reason", .string reason),
      (js "sequent", .string sequent)]
  | .alpha name sequent sub =>
    .object [(js "rule", .string (js "alpha")), (js "name", .string name),
      (js "sequent", .string sequent), (js "sub", proofValue sub)]
  | .beta name sequent subs =>
    .object [(js "rule", .string (js "beta")), (js "name", .string name),
      (js "sequent", .string sequent), (js "subs", .array (proofValues subs))]
  | .glModal sequent refuted sub =>
    .object [(js "rule", .string (js "gl-modal")), (js "sequent", .string sequent),
      (js "refuted", .string refuted), (js "sub", proofValue sub)]

def proofValues : List GlTableau.Proof → List JsValue
  | [] => []
  | proof :: rest => proofValue proof :: proofValues rest

end

def CarriedModel.value (carried : CarriedModel) : JsValue :=
  .object [(js "worlds", textArray carried.worlds),
    (js "edges", .array (carried.edges.map fun edge => textArray [edge.1, edge.2])),
    (js "valuation",
      .object (carried.valuation.entries.map fun entry => (entry.1, textArray entry.2)))]

def Evidence.value : Evidence → JsValue
  | proof proof_digest =>
    .object [(js "kind", .string (js "proof")), (js "proof_digest", .string proof_digest)]
  | countermodel model root =>
    .object [(js "kind", .string (js "countermodel")), (js "model", model.value),
      (js "root", .string root)]

def PROTOCOL : JsString := js "GHOST-LOBIAN-V1"

def UnsignedReceipt.valueWith (receipt : UnsignedReceipt) (content_digest signature : JsString) :
    LobianField → JsValue
  | .protocol => .string PROTOCOL
  | .status => .string receipt.status.text
  | .obligation_kind => .string receipt.obligation_kind
  | .invariant => .string receipt.invariant
  | .obligation => formulaValue receipt.obligation
  | .agent_digest => .string receipt.agent_digest
  | .evidence => receipt.evidence.value
  | .timestamp => .string receipt.timestamp
  | .content_digest => .string content_digest
  | .signature => .string signature
  | .signing_mode => .string (js "dev-hmac")

theorem UnsignedReceipt.valueWith_unsigned (receipt : UnsignedReceipt)
    (content_digest signature : JsString) {field : LobianField}
    (isUnsigned : field ∈ LobianField.unsigned) :
    receipt.valueWith content_digest signature field = receipt.valueWith [] [] field := by
  cases field with
  | content_digest | signature | signing_mode => exact absurd isUnsigned (by decide)
  | _ => rfl

def LobianReceipt.value (receipt : LobianReceipt) : LobianField → JsValue :=
  receipt.valueWith receipt.content_digest receipt.signature

/-- `unsigned`. -/
def UnsignedReceipt.object (receipt : UnsignedReceipt) : JsValue :=
  record LobianField.text LobianField.unsigned (receipt.valueWith [] [])

/-! ### Building and verification -/

/-- Key of the development signatures, unless another one is given. -/
def DEV_HMAC_KEY : JsString := js "ghost-ark-lobian-dev-only-hmac-vector-v1"

section CanonicalModel

variable (collation : Collation) (notIterable : JsError)

/-- `[...(m.valuation[w] ?? [])]`. What a record inherits cannot be spread. -/
def atomsOf (m : KripkeModel) (w : JsString) : Except JsError (List JsString) :=
  match m.valuation.lookup w with
  | some atoms => .ok atoms
  | none => if w ∈ objectPrototypeKeys then .error notIterable else .ok []

/-- The order of edges: by source, and from one source by target. -/
def edgePrecedes (x y : JsString × JsString) : Prop :=
  (if x.1 = y.1 then collation.le x.2 y.2 else collation.le x.1 y.1) = true

instance : DecidableRel (edgePrecedes collation) :=
  fun x y => inferInstanceAs
    (Decidable ((if x.1 = y.1 then collation.le x.2 y.2 else collation.le x.1 y.1) = true))

def assignAtoms (valuation : Lib.InsertionMap JsString (List JsString))
    (entry : JsString × List JsString) : Lib.InsertionMap JsString (List JsString) :=
  if entry.1 = js "__proto__" then valuation else valuation.set entry.1 entry.2

def canonicalModel (m : KripkeModel) : Except JsError CarriedModel := do
  let worlds := sortTexts m.worlds
  let atoms ← worlds.mapM fun w => do
    let held ← atomsOf notIterable m w
    return (w, sortTexts held)
  return {
    worlds
    edges := m.edges.insertionSort (edgePrecedes collation)
    valuation := atoms.foldl assignAtoms .empty }

end CanonicalModel

section Receipts

variable (hostMembers : HostMembers) (runtime : Runtime) (hostJson : HostJson)
  (hmacSha256 : HmacSha256)

section Building

variable (collation : Collation) (notIterable : JsError)

def evidenceOf : Verdict → Except JsError Evidence
  | .certified _ proof =>
    (danfDigest hostMembers runtime hostJson (proofValue proof)).map .proof
  | .refuted _ countermodel root =>
    (canonicalModel collation notIterable countermodel).map fun model => .countermodel model root

def buildReceipt (verdict : Verdict) (agent_digest timestamp hmacKey : JsString) :
    Except JsError LobianReceipt := do
  let evidence ← evidenceOf hostMembers runtime hostJson collation notIterable verdict
  let unsigned : UnsignedReceipt := {
    status := verdict.status
    obligation_kind := verdict.obligation.kind.text
    invariant := verdict.obligation.invariant.show
    obligation := verdict.obligation.formula
    agent_digest
    evidence
    timestamp }
  let content_digest ← danfDigest hostMembers runtime hostJson unsigned.object
  return { unsigned with content_digest, signature := hmacSha256.hmacHex hmacKey content_digest }

end Building

structure VerifyResult where
  digest_matches : Bool
  signature_matches : Bool
  evidence_replays : Bool

def VerifyResult.valid (result : VerifyResult) : Bool :=
  result.digest_matches && result.signature_matches && result.evidence_replays

/-- The countermodel is checked anew, or the obligation is decided anew. -/
def evidenceReplays (receipt : LobianReceipt) : Except JsError Bool :=
  match receipt.status, receipt.evidence with
  | .LICENSE_REFUTED, .countermodel carried root =>
    .ok (carried.model.isGLFrame && carried.model.refutes root receipt.obligation)
  | .LICENSE_CERTIFIED, _ =>
    (GlTableau.decide GlTableau.MAX_NODES receipt.obligation).map GlTableau.DecideResult.isTheorem
  | _, _ => .ok false

def verifyReceipt (receipt : LobianReceipt) (hmacKey : JsString) : Except JsError VerifyResult := do
  let digest ← danfDigest hostMembers runtime hostJson receipt.object
  let replays ← evidenceReplays receipt
  return {
    digest_matches := receipt.content_digest == digest
    signature_matches := receipt.signature == hmacSha256.hmacHex hmacKey receipt.content_digest
    evidence_replays := replays }

/-- The digest and the signature are those of the receipt. -/
structure Matches (hmacKey : JsString) (receipt : LobianReceipt) : Prop where
  digest : danfDigest hostMembers runtime hostJson receipt.object = .ok receipt.content_digest
  signature : receipt.signature = hmacSha256.hmacHex hmacKey receipt.content_digest

end Receipts

theorem isJson_textArray (texts : List JsString) : (textArray texts).isJson = true := by
  rw [textArray, isJson_array_iff]
  intro item member
  rcases List.mem_map.mp member with ⟨text, -, rfl⟩
  rfl

theorem isJson_operatorValue (kind : String) {operands : List (JsString × JsValue)}
    (distinct : (js "k" :: operands.map Prod.fst).Nodup)
    (shaped : ∀ operand ∈ operands, operand.2.isJson = true) :
    (operatorValue kind operands).isJson = true := by
  rw [operatorValue, isJson_object_iff]
  exact ⟨List.forall_mem_cons.mpr ⟨rfl, shaped⟩, distinct⟩

theorem isJson_formulaValue (f : Formula) : (formulaValue f).isJson = true := by
  have one : [js "k", js "a"].Nodup := by decide
  have two : [js "k", js "a", js "b"].Nodup := by decide
  induction f with
  | atom name =>
    have named : [js "k", js "name"].Nodup := by decide
    exact isJson_operatorValue "atom" named (List.forall_mem_singleton.mpr rfl)
  | top => rfl
  | bot => rfl
  | not a ih | box a ih =>
    exact isJson_operatorValue _ one (List.forall_mem_singleton.mpr ih)
  | and a b left right | or a b left right | imp a b left right | iff a b left right =>
    refine isJson_operatorValue _ two (List.forall_mem_cons.mpr ⟨left, ?_⟩)
    exact List.forall_mem_singleton.mpr right

theorem isJson_carriedModel (carried : CarriedModel) : carried.value.isJson = true := by
  rw [CarriedModel.value, isJson_object_iff]
  constructor
  · simp only [List.forall_mem_cons]
    refine ⟨isJson_textArray _, ?_, ?_, List.forall_mem_nil _⟩
    · rw [isJson_array_iff, List.forall_mem_map]
      exact fun edge _ => isJson_textArray _
    · rw [isJson_object_iff, Occ.map_fst_map, List.forall_mem_map]
      exact ⟨fun entry _ => isJson_textArray _, carried.valuation.nodup⟩
  · show [js "worlds", js "edges", js "valuation"].Nodup
    decide

theorem isJson_evidence (evidence : Evidence) : evidence.value.isJson = true := by
  cases evidence with
  | proof proof_digest =>
    rw [Evidence.value, isJson_object_iff]
    constructor
    · simp [JsValue.isJson]
    · show [js "kind", js "proof_digest"].Nodup
      decide
  | countermodel model root =>
    rw [Evidence.value, isJson_object_iff]
    constructor
    · simp [JsValue.isJson, isJson_carriedModel]
    · show [js "kind", js "model", js "root"].Nodup
      decide

theorem isJson_valueWith (receipt : UnsignedReceipt) (content_digest signature : JsString)
    (field : LobianField) : (receipt.valueWith content_digest signature field).isJson = true := by
  cases field with
  | obligation => exact isJson_formulaValue _
  | evidence => exact isJson_evidence _
  | _ => rfl

theorem isJson_object (receipt : UnsignedReceipt) : receipt.object.isJson = true :=
  isJson_record LobianField.nodup_unsigned fun field _ => isJson_valueWith receipt [] [] field

/-! ### What digests bind -/

theorem same_record_iff {F : Type} {name : F → JsString} {fields : List F} {left right : F → JsValue}
    (distinct : (fields.map name).Nodup) (leftShaped : ∀ field ∈ fields, (left field).isJson = true)
    (rightShaped : ∀ field ∈ fields, (right field).isJson = true) :
    SameUpToKeyOrder (record name fields left) (record name fields right) ↔
      ∀ field ∈ fields, SameUpToKeyOrder (left field) (right field) := by
  constructor
  · intro same field isField
    rw [same_iff_normalForm_eq (isJson_record distinct leftShaped)
      (isJson_record distinct rightShaped)] at same
    rw [same_iff_normalForm_eq (leftShaped field isField) (rightShaped field isField)]
    exact normalForm_record_inj distinct same field isField
  · intro each
    refine .object ?_ (.refl _)
    clear distinct leftShaped rightShaped
    induction fields with
    | nil => exact .nil
    | cons field rest ih =>
      rw [List.forall_mem_cons] at each
      exact .cons each.1 (ih each.2)

section Identity

variable {hostMembers : HostMembers} {runtime : Runtime} {hostJson : HostJson}
  {hmacSha256 : HmacSha256}

theorem danfDigest_eq_iff {left right : JsValue} (leftShaped : left.isJson = true)
    (rightShaped : right.isJson = true)
    (clean : runtime.sha256.BytesCollisionFreeOn
      [stateText runtime left, stateText runtime right]) {digest other : JsString}
    (computed : danfDigest hostMembers runtime hostJson left = .ok digest)
    (otherComputed : danfDigest hostMembers runtime hostJson right = .ok other) :
    digest = other ↔ SameUpToKeyOrder (written left) (written right) := by
  have leftParsed := isParsed_of_isJson leftShaped
  have rightParsed := isParsed_of_isJson rightShaped
  have isLeft : danf hostMembers runtime hostJson left = .ok (stateText runtime left) :=
    (danf_eq_ok_iff runtime hostJson leftParsed).mpr ⟨leftShaped, rfl⟩
  have isRight : danf hostMembers runtime hostJson right = .ok (stateText runtime right) :=
    (danf_eq_ok_iff runtime hostJson rightParsed).mpr ⟨rightShaped, rfl⟩
  rw [danfDigest, isLeft] at computed
  rw [danfDigest, isRight] at otherComputed
  cases computed
  cases otherComputed
  rw [List.append_cancel_left_eq, Occ.digest_stateText_eq_iff runtime leftParsed rightParsed clean]

/-- Descriptors of one normal form, or of one digest, are equal up to key order. -/
structure BindsDescriptors (hostMembers : HostMembers) (runtime : Runtime) (hostJson : HostJson)
    (left right : JsValue) : Prop where
  danf : ∀ text, danf hostMembers runtime hostJson left = .ok text →
    danf hostMembers runtime hostJson right = .ok text → SameUpToKeyOrder left right
  agentDigest : ∀ digest, agentDigest hostMembers runtime hostJson left = .ok digest →
    agentDigest hostMembers runtime hostJson right = .ok digest → SameUpToKeyOrder left right

/-- Receipts of one content digest do not differ in any member. -/
def BindsReceipts (receipt other : LobianReceipt) : Prop :=
  receipt.content_digest = other.content_digest →
    ∀ field, SameUpToKeyOrder (receipt.value field) (other.value field)

theorem bindsDescriptors_iff {left right : JsValue} (leftParsed : IsParsed left)
    (rightParsed : IsParsed right)
    (clean : runtime.sha256.BytesCollisionFreeOn
      [stateText runtime left, stateText runtime right]) :
    BindsDescriptors hostMembers runtime hostJson left right ↔
      (left.isJson = true → right.isJson = true →
        SameUpToKeyOrder (written left) (written right) → SameUpToKeyOrder left right) := by
  constructor
  · intro binds leftShaped rightShaped shown
    have sameText := (Occ.stateText_eq_iff runtime leftParsed rightParsed).mpr shown
    exact binds.danf (stateText runtime left)
      ((danf_eq_ok_iff runtime hostJson leftParsed).mpr ⟨leftShaped, rfl⟩)
      ((danf_eq_ok_iff runtime hostJson rightParsed).mpr ⟨rightShaped, sameText.symm⟩)
  · intro shows
    constructor
    · intro text isLeft isRight
      rw [danf_eq_ok_iff runtime hostJson leftParsed] at isLeft
      rw [danf_eq_ok_iff runtime hostJson rightParsed] at isRight
      refine shows isLeft.1 isRight.1 ?_
      exact (Occ.stateText_eq_iff runtime leftParsed rightParsed).mp (isLeft.2.trans isRight.2.symm)
    · intro digest isLeft isRight
      rcases exists_map_eq_ok.mp ⟨digest, isLeft⟩ with ⟨leftText, leftReturned⟩
      rcases exists_map_eq_ok.mp ⟨digest, isRight⟩ with ⟨rightText, rightReturned⟩
      have leftShaped := ((danf_eq_ok_iff runtime hostJson leftParsed).mp leftReturned).1
      have rightShaped := ((danf_eq_ok_iff runtime hostJson rightParsed).mp rightReturned).1
      exact shows leftShaped rightShaped
        ((danfDigest_eq_iff leftShaped rightShaped clean isLeft isRight).mp rfl)

/-- Without a collision, receipts are bound exactly if their written texts bind them. -/
theorem bindsReceipts_iff {hmacKey : JsString} {receipt other : LobianReceipt}
    (isMatch : Matches hostMembers runtime hostJson hmacSha256 hmacKey receipt)
    (otherMatch : Matches hostMembers runtime hostJson hmacSha256 hmacKey other)
    (clean : runtime.sha256.BytesCollisionFreeOn
      [stateText runtime receipt.object, stateText runtime other.object]) :
    BindsReceipts receipt other ↔
      (SameUpToKeyOrder (written receipt.object) (written other.object) →
        SameUpToKeyOrder receipt.object other.object) := by
  have digests := danfDigest_eq_iff (isJson_object receipt.toUnsignedReceipt)
    (isJson_object other.toUnsignedReceipt) clean isMatch.digest otherMatch.digest
  have members := same_record_iff LobianField.nodup_unsigned
    (fun field _ => isJson_valueWith receipt.toUnsignedReceipt [] [] field)
    (fun field _ => isJson_valueWith other.toUnsignedReceipt [] [] field)
  constructor
  · intro binds shown
    rw [UnsignedReceipt.object, UnsignedReceipt.object, members]
    intro field isUnsigned
    have same := binds (digests.mpr shown) field
    rw [LobianReceipt.value, LobianReceipt.value, receipt.valueWith_unsigned _ _ isUnsigned,
      other.valueWith_unsigned _ _ isUnsigned] at same
    exact same
  · intro shows sameDigest field
    have same := members.mp (shows (digests.mp sameDigest))
    rw [LobianReceipt.value, LobianReceipt.value, isMatch.signature, otherMatch.signature, sameDigest]
    by_cases isUnsigned : field ∈ LobianField.unsigned
    · rw [receipt.valueWith_unsigned _ _ isUnsigned, other.valueWith_unsigned _ _ isUnsigned]
      exact same field isUnsigned
    · cases field with
      | content_digest | signature | signing_mode => exact .string _
      | _ => exact absurd (by decide) isUnsigned

/-- `buildReceipt` makes receipts that match, as `licences_bind_iff` asks of its receipts. -/
theorem matches_buildReceipt {collation : Collation} {notIterable : JsError} {verdict : Verdict}
    {agent_digest timestamp hmacKey : JsString} {receipt : LobianReceipt}
    (built : buildReceipt hostMembers runtime hostJson hmacSha256 collation notIterable verdict
      agent_digest timestamp hmacKey = .ok receipt) :
    Matches hostMembers runtime hostJson hmacSha256 hmacKey receipt := by
  rcases bind_eq_ok.mp built with ⟨evidence, -, later⟩
  rcases bind_eq_ok.mp later with ⟨content_digest, computed, returned⟩
  obtain rfl := pure_eq_ok.mp returned
  exact ⟨computed, rfl⟩

/-- A receipt that `verifyReceipt` finds valid matches too, whoever made it. -/
theorem matches_verifyReceipt {receipt : LobianReceipt} {hmacKey : JsString}
    {result : VerifyResult}
    (verified : verifyReceipt hostMembers runtime hostJson hmacSha256 receipt hmacKey = .ok result)
    (valid : result.valid = true) :
    Matches hostMembers runtime hostJson hmacSha256 hmacKey receipt := by
  rcases bind_eq_ok.mp verified with ⟨digest, computed, later⟩
  rcases bind_eq_ok.mp later with ⟨replays, -, returned⟩
  obtain rfl := pure_eq_ok.mp returned
  simp only [VerifyResult.valid, Bool.and_eq_true, beq_iff_eq] at valid
  rcases valid with ⟨⟨sameDigest, sameSignature⟩, -⟩
  rw [← sameDigest] at computed
  exact ⟨computed, sameSignature⟩

/-- **Licence receipts.** Without a collision of the hashed texts, one digest means one descriptor,
and one receipt, exactly as far as two of them do not differ only in what the normal form loses. -/
theorem licences_bind_iff {left right : JsValue} (leftParsed : IsParsed left)
    (rightParsed : IsParsed right)
    (clean : runtime.sha256.BytesCollisionFreeOn
      [stateText runtime left, stateText runtime right])
    {hmacKey : JsString} {receipt other : LobianReceipt}
    (isMatch : Matches hostMembers runtime hostJson hmacSha256 hmacKey receipt)
    (otherMatch : Matches hostMembers runtime hostJson hmacSha256 hmacKey other)
    (receiptsClean : runtime.sha256.BytesCollisionFreeOn
      [stateText runtime receipt.object, stateText runtime other.object]) :
    (BindsDescriptors hostMembers runtime hostJson left right ↔
      (left.isJson = true → right.isJson = true →
        SameUpToKeyOrder (written left) (written right) → SameUpToKeyOrder left right)) ∧
    (BindsReceipts receipt other ↔
      (SameUpToKeyOrder (written receipt.object) (written other.object) →
        SameUpToKeyOrder receipt.object other.object)) :=
  ⟨bindsDescriptors_iff leftParsed rightParsed clean,
    bindsReceipts_iff isMatch otherMatch receiptsClean⟩

end Identity

namespace ReceiptSample

def runtime : Runtime where
  sha256 := fips180
  numbers := decimalText
  dates := ⟨fun _ => .nan⟩
  verifySignature := fun _ _ _ => .ok false

def hostMembers : HostMembers := fun _ => .ok []

def hostJson : HostJson := fun _ => .ok (some (js "\x7b\x7d"))

def descriptor (key : String) (policy : String) : JsValue :=
  .object [(js key, .string (js policy))]

theorem isParsed_descriptor (key policy : String) : IsParsed (descriptor key policy) := by
  refine .object ?_ (List.nodup_singleton _)
  rw [List.forall_mem_singleton]
  exact .string _

/-- `□p → p` fails where `p` holds later but not yet. -/
def unsigned (timestamp : String) : UnsignedReceipt where
  status := .LICENSE_REFUTED
  obligation_kind := js "naive_soundness"
  invariant := js "p"
  obligation := .imp (.box (.atom (js "p"))) (.atom (js "p"))
  agent_digest := js "sha256:aa"
  evidence := .countermodel ⟨[js "w0", js "w1"], [(js "w0", js "w1")],
    ((Lib.InsertionMap.empty).set (js "w0") []).set (js "w1") [js "p"]⟩ (js "w0")
  timestamp := js timestamp

def signed (timestamp : String) : LobianReceipt where
  toUnsignedReceipt := unsigned timestamp
  content_digest := js "sha256:" ++ sha256Hex runtime (stateText runtime (unsigned timestamp).object)
  signature := fips198.hmacHex DEV_HMAC_KEY
    (js "sha256:" ++ sha256Hex runtime (stateText runtime (unsigned timestamp).object))

theorem matches_signed (timestamp : String) :
    Matches hostMembers runtime hostJson fips198 DEV_HMAC_KEY (signed timestamp) where
  digest := by
    have shaped := isJson_object (unsigned timestamp)
    have text : danf hostMembers runtime hostJson (unsigned timestamp).object =
        .ok (stateText runtime (unsigned timestamp).object) :=
      (danf_eq_ok_iff runtime hostJson (isParsed_of_isJson shaped)).mpr ⟨shaped, rfl⟩
    rw [danfDigest, signed, text]
    rfl
  signature := rfl

theorem morning_bound :
    BindsDescriptors hostMembers runtime hostJson (descriptor "policy" "strict")
        (descriptor "policy" "relaxed") ∧
      BindsReceipts (signed "morning") (signed "evening") := by
  have clean : runtime.sha256.BytesCollisionFreeOn
      [stateText runtime (descriptor "policy" "strict"),
        stateText runtime (descriptor "policy" "relaxed")] := by
    have different : runtime.sha256.sha256Hex (stateText runtime (descriptor "policy" "strict")) ≠
        runtime.sha256.sha256Hex (stateText runtime (descriptor "policy" "relaxed")) := by
      decide +kernel
    exact .of_ne different
  have receiptsClean : runtime.sha256.BytesCollisionFreeOn
      [stateText runtime (signed "morning").object, stateText runtime (signed "evening").object] := by
    have different : runtime.sha256.sha256Hex (stateText runtime (signed "morning").object) ≠
        runtime.sha256.sha256Hex (stateText runtime (signed "evening").object) := by
      decide +kernel
    exact .of_ne different
  have bind := licences_bind_iff (isParsed_descriptor "policy" "strict")
    (isParsed_descriptor "policy" "relaxed") clean (matches_signed "morning")
    (matches_signed "evening") receiptsClean
  refine ⟨bind.1.mpr fun _ _ same => same, bind.2.mpr fun same => ?_⟩
  have kept (timestamp : String) :
      written (signed timestamp).object = (signed timestamp).object := rfl
  rw [kept, kept] at same
  exact same

/-- The same descriptor without its member `__proto__` has the same digest. -/
theorem proto_unbound :
    ¬ ∀ left right : JsValue, IsParsed left → IsParsed right →
      runtime.sha256.BytesCollisionFreeOn [stateText runtime left, stateText runtime right] →
        BindsDescriptors hostMembers runtime hostJson left right := by
  intro binds
  have sameText : stateText runtime (descriptor "__proto__" "strict") =
      stateText runtime (.object []) := by
    decide +kernel
  have isProto := isParsed_descriptor "__proto__" "strict"
  have isEmpty : IsParsed (.object []) := .object (List.forall_mem_nil _) List.nodup_nil
  have bound := (bindsDescriptors_iff isProto isEmpty (.of_eq sameText)).mp
    (binds _ _ isProto isEmpty (.of_eq sameText))
  have shown := (Occ.stateText_eq_iff runtime isProto isEmpty).mp sameText
  cases bound (by decide +kernel) rfl shown with
  | object entries permuted =>
    rw [List.perm_nil.mp permuted] at entries
    cases entries

end ReceiptSample

end GhostArk.ResearchFrontier.Lobian
