import GhostArk.ResearchFrontier.Lobian.GlDecision
import GhostArk.ResearchFrontier.Lobian.Receipt

/-!
Contract: licensing obligations, `lobian/lobianObstacle.ts`, and the receipts of their verdicts.

Owns the obligations of an invariant, which of them are certified, and the two directions between
verdicts and receipts: what is built from a verdict verifies, and a receipt that verifies states
the right verdict, unless a space in the name of a world misleads the frame check.
-/

namespace GhostArk.ResearchFrontier.Lobian

open Js Lib ReceiptSchema
open Occ (HostJson)

def licensingObligations (invariant : Formula) : List LicensingObligation :=
  [⟨.naive_soundness, invariant, .imp (.box invariant) invariant⟩,
    ⟨.consistency, invariant, .not (.box .bot)⟩,
    ⟨.loeb_self_trust, invariant,
      .imp (.box (.imp (.box invariant) invariant)) (.box invariant)⟩]

def evaluateObligation (o : LicensingObligation) : Except JsError Verdict := do
  let r ← GlTableau.decideChecked GlTableau.MAX_NODES o.formula
  return match r with
    | .proved proof _ => .certified o proof
    | .refuted countermodel root _ => .refuted o countermodel root

structure ObstacleReport where
  invariant : Formula
  verdicts : List Verdict
  obstacleHit : Bool

def demonstrateLobianObstacle (invariant : Formula) : Except JsError ObstacleReport := do
  let verdicts ← (licensingObligations invariant).mapM evaluateObligation
  return ⟨invariant, verdicts, verdicts.any fun v => v.status == .LICENSE_REFUTED⟩

/-! ### Verdicts -/

open GlTableau (Valid)

theorem forces_of_valid {phi : Formula} (named : phi.WellNamed) (valid : Valid phi) {W : Type}
    {sees : W → W → Prop} (frame : ProvabilityFrame sees) (holds : W → JsString → Prop) (w : W) :
    Forces sees holds phi w := by
  rcases GlTableau.exists_budget named with ⟨enough, returns⟩
  rcases returns enough le_rfl with ⟨proof | ⟨countermodel, root⟩, returned⟩
  · exact GlTableau.forces_of_proved named returned frame holds w
  · rcases GlTableau.refutes_of_refuted named returned with ⟨isModel, isWorld, refuted⟩
    rw [valid countermodel isModel root isWorld] at refuted
    cases refuted

/-- A decision that returns is a decision of validity. -/
theorem isTheorem_iff_valid {phi : Formula} (named : phi.WellNamed) {maxNodes : Nat}
    {result : GlTableau.DecideResult} (returned : GlTableau.decide maxNodes phi = .ok result) :
    result.isTheorem = true ↔ Valid phi := by
  cases result with
  | proved proof stats =>
    refine iff_of_true rfl fun m isModel w _ => ?_
    rw [m.satisfies_iff]
    exact GlTableau.forces_of_proved named returned isModel.provabilityFrame m.Holds w
  | refuted countermodel root stats =>
    rcases GlTableau.refutes_of_refuted named returned with ⟨isModel, isWorld, refuted⟩
    refine iff_of_false Bool.false_ne_true fun valid => ?_
    rw [valid countermodel isModel root isWorld] at refuted
    cases refuted

theorem status_eq_certified_iff {o : LicensingObligation} {verdict : Verdict}
    (evaluated : evaluateObligation o = .ok verdict) (named : o.formula.WellNamed) :
    verdict.status = .LICENSE_CERTIFIED ↔ Valid o.formula := by
  rw [evaluateObligation, GlTableau.decideChecked_eq _ _ named] at evaluated
  rcases bind_eq_ok.mp evaluated with ⟨result, returned, made⟩
  obtain rfl := pure_eq_ok.mp made
  rw [← isTheorem_iff_valid named returned]
  cases result with
  | proved proof stats => exact iff_of_true rfl rfl
  | refuted countermodel root stats =>
    exact iff_of_false (fun same => by cases same) Bool.false_ne_true

/-- The countermodel of a refuted obligation checks. -/
theorem refutes_of_status {o : LicensingObligation} {verdict : Verdict}
    (evaluated : evaluateObligation o = .ok verdict) (named : o.formula.WellNamed)
    (refuted : verdict.status = .LICENSE_REFUTED) :
    ∃ model root, verdict = .refuted o model root ∧ model.isGLFrame = true ∧
      model.refutes root o.formula = true := by
  rw [evaluateObligation, GlTableau.decideChecked_eq _ _ named] at evaluated
  rcases bind_eq_ok.mp evaluated with ⟨result, returned, made⟩
  obtain rfl := pure_eq_ok.mp made
  cases result with
  | proved proof stats => cases refuted
  | refuted model root stats =>
    rcases GlTableau.refutes_of_refuted named returned with ⟨isModel, isWorld, fails⟩
    refine ⟨model, root, rfl, isModel.isGLFrame, ?_⟩
    simp [KripkeModel.refutes, isModel.isGLFrame, isWorld, fails]

theorem not_valid_consistency : ¬ Valid (.not (.box .bot)) := by
  intro valid
  have isModel : KripkeModel.IsModel ⟨[js "w"], [], [(js "w", [])]⟩ :=
    { joins := fun edge => absurd edge List.not_mem_nil
      valued := fun isWorld => ⟨[], by rw [List.mem_singleton.mp isWorld]; decide⟩
      transitive := fun edge => absurd edge List.not_mem_nil
      irreflexive := fun _ => List.not_mem_nil }
  exact absurd (valid _ isModel (js "w") (List.mem_singleton_self _)) (by decide)

theorem valid_loeb (invariant : Formula) :
    Valid (.imp (.box (.imp (.box invariant) invariant)) (.box invariant)) := by
  intro m isModel w _
  rw [m.satisfies_iff]
  intro reflects
  by_contra fails
  rcases isModel.provabilityFrame.exists_last_failure fails with ⟨next, step, later, failsThere⟩
  exact failsThere (reflects next step later)

/-- Reflection is valid of valid invariants only. -/
theorem valid_reflection_iff (invariant : Formula) :
    Valid (.imp (.box invariant) invariant) ↔ Valid invariant := by
  constructor
  · intro reflects m isModel w isWorld
    have reflectsAt {w : JsString} (isWorld : w ∈ m.worlds) :=
      (m.satisfies_iff _ w).mp (reflects m isModel w isWorld)
    rw [m.satisfies_iff]
    by_contra fails
    by_cases later : Necessarily m.Sees (Forces m.Sees m.Holds invariant) w
    · exact fails (reflectsAt isWorld later)
    · rcases isModel.provabilityFrame.exists_last_failure later with
        ⟨next, step, beyond, failsThere⟩
      exact failsThere (reflectsAt (isModel.joins step).2 beyond)
  · intro valid m isModel w isWorld
    rw [m.satisfies_iff]
    exact fun _ => (m.satisfies_iff _ w).mp (valid m isModel w isWorld)

/-- **The obstacle.** Consistency is refuted, always, by a countermodel that checks, and Löb's axiom
is certified; naive soundness is certified exactly for the invariants that are theorems. -/
theorem obstacle_hit {invariant : Formula} (named : invariant.WellNamed) {report : ObstacleReport}
    (demonstrated : demonstrateLobianObstacle invariant = .ok report) :
    report.obstacleHit = true ∧ ∃ naive consistency loeb,
      report.verdicts = [naive, consistency, loeb] ∧
        (naive.status = .LICENSE_CERTIFIED ↔ Valid invariant) ∧
        (∃ model root,
          consistency = .refuted ⟨.consistency, invariant, .not (.box .bot)⟩ model root ∧
            model.isGLFrame = true ∧ model.refutes root (.not (.box .bot)) = true) ∧
        loeb.status = .LICENSE_CERTIFIED := by
  rcases bind_eq_ok.mp demonstrated with ⟨verdicts, evaluated, returned⟩
  obtain rfl := pure_eq_ok.mp returned
  have each := mapM_eq_ok_iff.mp evaluated
  simp only [licensingObligations, List.forall₂_cons_left_iff, List.forall₂_nil_left_iff] at each
  rcases each with
    ⟨naive, _, isNaive, ⟨consistency, _, isConsistency, ⟨loeb, _, isLoeb, rfl, rfl⟩, rfl⟩, rfl⟩
  have consistencyRefuted : consistency.status = .LICENSE_REFUTED := by
    have notCertified := mt (status_eq_certified_iff isConsistency trivial).mp not_valid_consistency
    cases status : consistency.status with
    | LICENSE_CERTIFIED => exact absurd status notCertified
    | LICENSE_REFUTED => rfl
  have loebCertified := (status_eq_certified_iff isLoeb ⟨⟨named, named⟩, named⟩).mpr
    (valid_loeb invariant)
  refine ⟨?_, naive, consistency, loeb, rfl, ?_, ?_, loebCertified⟩
  · rw [List.any_eq_true]
    exact ⟨consistency, List.mem_cons_of_mem _ List.mem_cons_self, beq_iff_eq.mpr consistencyRefuted⟩
  · exact (status_eq_certified_iff isNaive ⟨named, named⟩).trans (valid_reflection_iff invariant)
  · exact refutes_of_status isConsistency trivial consistencyRefuted

theorem obstacle_hit_atom :
    ∃ report, demonstrateLobianObstacle (.atom (js "p")) = .ok report ∧
      report.obstacleHit = true ∧ ∃ naive consistency loeb,
        report.verdicts = [naive, consistency, loeb] ∧
          (naive.status = .LICENSE_CERTIFIED ↔ Valid (.atom (js "p"))) ∧
          (∃ model root,
            consistency = .refuted ⟨.consistency, .atom (js "p"), .not (.box .bot)⟩ model root ∧
              model.isGLFrame = true ∧ model.refutes root (.not (.box .bot)) = true) ∧
          loeb.status = .LICENSE_CERTIFIED := by
  have returns : (demonstrateLobianObstacle (.atom (js "p"))).toOption.isSome = true := by
    decide +kernel
  rcases Option.isSome_iff_exists.mp returns with ⟨report, isReport⟩
  have named : (Formula.atom (js "p")).WellNamed := GlTableau.wellNamed_loeb.2
  exact ⟨report, eq_ok_of_toOption isReport, obstacle_hit named (eq_ok_of_toOption isReport)⟩

section Receipts

variable {hostMembers : HostMembers} {runtime : Runtime} {hostJson : HostJson}
  {hmacSha256 : HmacSha256}

/-- The frame check means what it says of worlds whose names hold no space. -/
theorem provabilityFrame_of_isGLFrame {m : KripkeModel}
    (spaceless : ∀ edge ∈ m.edges, Spaceless edge.1 ∧ Spaceless edge.2)
    (checked : m.isGLFrame = true) : ProvabilityFrame m.Sees := by
  rw [KripkeModel.isGLFrame, Bool.and_eq_true] at checked
  apply ProvabilityFrame.of_finite_successors
  · exact fun world => (m.successors world).finite_toSet.subset fun _ => m.mem_successors.mpr
  · intro a b c first second
    have joined := List.all_eq_true.mp (List.all_eq_true.mp checked.1 _ first) _ second
    simp only [beq_self_eq_true, Bool.true_and, Bool.not_not, List.contains_iff_mem,
      List.mem_map] at joined
    rcases joined with ⟨edge, isEdge, sameText⟩
    have same : edge = (a, c) := edgeText_inj (spaceless edge isEdge).1 (spaceless edge isEdge).2
      (spaceless _ first).1 (spaceless _ second).2 sameText
    rw [same] at isEdge
    exact isEdge
  · intro world edge
    have different := checked.2
    rw [KripkeModel.isIrreflexive, Bool.not_eq_true', List.any_eq_false] at different
    exact different _ edge (beq_self_eq_true _)

/-- A receipt that verifies states the right verdict, whoever made it. -/
theorem status_of_verified {receipt : LobianReceipt} {hmacKey : JsString} {result : VerifyResult}
    (named : receipt.obligation.WellNamed)
    (spaceless : ∀ carried root, receipt.evidence = .countermodel carried root →
      ∀ edge ∈ carried.edges, Spaceless edge.1 ∧ Spaceless edge.2)
    (verified : verifyReceipt hostMembers runtime hostJson hmacSha256 receipt hmacKey = .ok result)
    (valid : result.valid = true) :
    receipt.status = .LICENSE_CERTIFIED ↔ Valid receipt.obligation := by
  rcases bind_eq_ok.mp verified with ⟨digest, -, later⟩
  rcases bind_eq_ok.mp later with ⟨replays, replayed, returned⟩
  obtain rfl := pure_eq_ok.mp returned
  have isReplayed : replays = true := (Bool.and_eq_true_iff.mp valid).2
  subst isReplayed
  rw [evidenceReplays] at replayed
  cases status : receipt.status with
  | LICENSE_CERTIFIED =>
    rw [status] at replayed
    rcases exists_map_eq_ok.mp ⟨true, replayed⟩ with ⟨decided, isDecided⟩
    rw [isDecided] at replayed
    exact iff_of_true rfl ((isTheorem_iff_valid named isDecided).mp (Except.ok.inj replayed))
  | LICENSE_REFUTED =>
    refine iff_of_false (fun same => by cases same) fun isValid => ?_
    cases evidence : receipt.evidence with
    | proof proof_digest =>
      rw [status, evidence] at replayed
      cases replayed
    | countermodel carried root =>
      rw [status, evidence] at replayed
      have checked := Bool.and_eq_true_iff.mp (Except.ok.inj replayed)
      have frame := provabilityFrame_of_isGLFrame (m := carried.model)
        (spaceless carried root evidence) checked.1
      have forced := forces_of_valid named isValid frame carried.model.Holds root
      have refuted := (Bool.and_eq_true_iff.mp checked.2).2
      rw [(carried.model.satisfies_iff _ root).mpr forced] at refuted
      cases refuted

open ReceiptSample in
theorem status_of_verified_morning :
    (signed "morning").status = .LICENSE_CERTIFIED ↔ Valid (signed "morning").obligation := by
  have isMatched := matches_signed "morning"
  have replays : evidenceReplays (signed "morning") = .ok true :=
    eq_ok_of_toOption (by decide +kernel)
  have verified : verifyReceipt ReceiptSample.hostMembers ReceiptSample.runtime
      ReceiptSample.hostJson fips198 (signed "morning") DEV_HMAC_KEY = .ok ⟨true, true, true⟩ := by
    refine bind_eq_ok.mpr ⟨_, isMatched.digest, bind_eq_ok.mpr ⟨true, replays, ?_⟩⟩
    rw [← isMatched.signature, beq_self_eq_true, beq_self_eq_true]
    rfl
  have named : (signed "morning").obligation.WellNamed :=
    ⟨GlTableau.wellNamed_loeb.2, GlTableau.wellNamed_loeb.2⟩
  apply status_of_verified named _ verified rfl
  rintro carried root ⟨⟩
  rw [List.forall_mem_singleton, Spaceless, Spaceless]
  decide

/-! ### What is built verifies -/

mutual

theorem isJson_proofValue (proof : GlTableau.Proof) : (proofValue proof).isJson = true := by
  cases proof with
  | close reason sequent =>
    rw [proofValue, isJson_object_iff]
    exact ⟨by simp [JsValue.isJson], show [js "rule", js "reason", js "sequent"].Nodup by decide⟩
  | alpha name sequent sub =>
    rw [proofValue, isJson_object_iff]
    exact ⟨by simp [JsValue.isJson, isJson_proofValue sub],
      show [js "rule", js "name", js "sequent", js "sub"].Nodup by decide⟩
  | beta name sequent subs =>
    rw [proofValue, isJson_object_iff]
    exact ⟨by simp [JsValue.isJson, areJson_proofValues subs],
      show [js "rule", js "name", js "sequent", js "subs"].Nodup by decide⟩
  | glModal sequent refuted sub =>
    rw [proofValue, isJson_object_iff]
    exact ⟨by simp [JsValue.isJson, isJson_proofValue sub],
      show [js "rule", js "sequent", js "refuted", js "sub"].Nodup by decide⟩

theorem areJson_proofValues (proofs : List GlTableau.Proof) :
    JsValue.areJson (proofValues proofs) = true := by
  cases proofs with
  | nil => rfl
  | cons proof rest =>
    simp [proofValues, JsValue.areJson, isJson_proofValue proof, areJson_proofValues rest]

end

theorem exists_danfDigest {value : JsValue} (shaped : value.isJson = true) :
    ∃ digest, danfDigest hostMembers runtime hostJson value = .ok digest :=
  exists_map_eq_ok.mpr ⟨_, (danf_eq_ok_iff runtime hostJson (isParsed_of_isJson shaped)).mpr
    ⟨shaped, rfl⟩⟩

section Carried

variable {m : KripkeModel} (isModel : m.IsModel) (plain : ∀ w ∈ m.worlds, w ≠ js "__proto__")

theorem get?_foldl_assignAtoms (atoms : JsString → List JsString) (worlds : List JsString)
    (valuation : InsertionMap JsString (List JsString)) {w : JsString} (plain : w ≠ js "__proto__") :
    ((worlds.map fun w => (w, atoms w)).foldl assignAtoms valuation).get? w =
      if w ∈ worlds then some (atoms w) else valuation.get? w := by
  induction worlds generalizing valuation with
  | nil => rfl
  | cons first rest ih =>
    rw [List.map_cons, List.foldl_cons, ih]
    by_cases later : w ∈ rest
    · rw [if_pos later, if_pos (List.mem_cons_of_mem _ later)]
    · rw [if_neg later, assignAtoms]
      by_cases same : w = first
      · rw [← same, if_pos List.mem_cons_self, if_neg plain, InsertionMap.get?_set_self]
      · rw [if_neg fun member => (List.mem_cons.mp member).elim same later]
        split
        · rfl
        · rw [InsertionMap.get?_set_ne _ same]

include isModel plain

/-- The canonical form of a model is a model in which the same formulas hold. -/
theorem exists_canonicalModel (collation : Collation) (notIterable : JsError) :
    ∃ carried, canonicalModel collation notIterable m = .ok carried ∧ carried.model.IsModel ∧
      ∀ w ∈ m.worlds, w ∈ carried.worlds ∧ ∀ f, carried.model.satisfies w f = m.satisfies w f := by
  have sameWorlds {w : JsString} : w ∈ sortTexts m.worlds ↔ w ∈ m.worlds :=
    (List.perm_insertionSort _ _).mem_iff
  have assigned : ((sortTexts m.worlds).mapM fun w => do
      let held ← atomsOf notIterable m w
      return (w, sortTexts held)) =
        .ok ((sortTexts m.worlds).map fun w => (w, sortTexts (m.atomsAt w))) := by
    rw [mapM_eq_ok_iff, List.forall₂_map_right_iff, List.forall₂_same]
    intro w member
    rcases isModel.valued (sameWorlds.mp member) with ⟨atoms, found⟩
    rw [atomsOf, KripkeModel.atomsAt, found]
    rfl
  let carried : CarriedModel :=
    ⟨sortTexts m.worlds, m.edges.insertionSort (edgePrecedes collation),
      ((sortTexts m.worlds).map fun w => (w, sortTexts (m.atomsAt w))).foldl assignAtoms .empty⟩
  have sameEdges {edge : JsString × JsString} : edge ∈ carried.edges ↔ edge ∈ m.edges :=
    (List.perm_insertionSort _ _).mem_iff
  have found {w : JsString} (isWorld : w ∈ m.worlds) :
      carried.model.valuation.lookup w = some (sortTexts (m.atomsAt w)) := by
    have stored := get?_foldl_assignAtoms (fun w => sortTexts (m.atomsAt w))
      (sortTexts m.worlds) .empty (plain w isWorld)
    rw [if_pos (sameWorlds.mpr isWorld)] at stored
    exact GlTableau.lookup_of_mem carried.valuation.nodup (InsertionMap.get?_eq_some_iff.mp stored)
  have bisimulation : Bisimulation carried.model.Sees m.Sees
      fun w w' => w = w' ∧ w ∈ m.worlds :=
    { forth := fun {_ _ next} both step => by
        rcases both with ⟨rfl, -⟩
        exact ⟨next, sameEdges.mp step, rfl, (isModel.joins (sameEdges.mp step)).2⟩
      back := fun {_ _ next} both step => by
        rcases both with ⟨rfl, -⟩
        exact ⟨next, sameEdges.mpr step, rfl, (isModel.joins step).2⟩ }
  refine ⟨carried, by rw [canonicalModel, assigned]; rfl, ⟨?_, ?_, ?_, ?_⟩, ?_⟩
  · intro a b edge
    exact (isModel.joins (sameEdges.mp edge)).imp sameWorlds.mpr sameWorlds.mpr
  · exact fun isWorld => ⟨_, found (sameWorlds.mp isWorld)⟩
  · exact fun first second =>
      sameEdges.mpr (isModel.transitive (sameEdges.mp first) (sameEdges.mp second))
  · exact fun a edge => isModel.irreflexive a (sameEdges.mp edge)
  · intro w isWorld
    refine ⟨sameWorlds.mpr isWorld, fun f => Bool.eq_iff_iff.mpr ?_⟩
    rw [KripkeModel.satisfies_iff, KripkeModel.satisfies_iff]
    refine forces_iff_of_bisimulation bisimulation ?_ f ⟨rfl, isWorld⟩
    rintro w _ name ⟨rfl, isWorld⟩
    rw [KripkeModel.Holds, KripkeModel.atomsAt, found isWorld]
    exact (List.perm_insertionSort _ _).mem_iff

end Carried

/-- A countermodel of the search has no world named `__proto__`. -/
theorem plain_of_refuted {maxNodes : Nat} {phi : Formula} {countermodel : KripkeModel}
    {root : JsString} {stats : GlTableau.DecideStats}
    (returned : GlTableau.decide maxNodes phi = .ok (.refuted countermodel root stats)) :
    ∀ w ∈ countermodel.worlds, w ≠ js "__proto__" := by
  rw [GlTableau.decide] at returned
  split at returned
  · cases returned
  · cases returned
  next world _ _ =>
    simp only [Except.ok.injEq, GlTableau.DecideResult.refuted.injEq] at returned
    rcases returned with ⟨rfl, -, -⟩
    intro w isWorld
    rw [GlTableau.buildModel_eq] at isWorld
    rcases List.mem_map.mp isWorld with ⟨node, -, rfl⟩
    intro same
    have heads := congrArg (List.take 1) same
    rw [GlTableau.worldId, List.take_append_of_le_length (by decide)] at heads
    exact absurd heads (by decide)

theorem exists_evidence {o : LicensingObligation} (named : o.formula.WellNamed) {verdict : Verdict}
    (evaluated : evaluateObligation o = .ok verdict) (collation : Collation)
    (notIterable : JsError) :
    verdict.obligation = o ∧ ∃ evidence,
      evidenceOf hostMembers runtime hostJson collation notIterable verdict = .ok evidence ∧
        ∀ receipt : LobianReceipt, receipt.status = verdict.status →
          receipt.obligation = o.formula → receipt.evidence = evidence →
            evidenceReplays receipt = .ok true := by
  rw [evaluateObligation, GlTableau.decideChecked_eq _ _ named] at evaluated
  rcases bind_eq_ok.mp evaluated with ⟨result, returned, made⟩
  obtain rfl := pure_eq_ok.mp made
  cases result with
  | proved proof stats =>
    rcases exists_danfDigest (isJson_proofValue proof) with ⟨digest, isDigest⟩
    refine ⟨rfl, .proof digest, by rw [evidenceOf, isDigest]; rfl, ?_⟩
    intro receipt status obligation _
    rw [evidenceReplays, status, obligation]
    exact congrArg (Except.map GlTableau.DecideResult.isTheorem) returned
  | refuted countermodel root stats =>
    rcases GlTableau.refutes_of_refuted named returned with ⟨isModel, isWorld, refuted⟩
    rcases exists_canonicalModel isModel (plain_of_refuted returned) collation notIterable with
      ⟨carried, isCarried, carriedModel, agrees⟩
    refine ⟨rfl, .countermodel carried root, by rw [evidenceOf, isCarried]; rfl, ?_⟩
    intro receipt status obligation evidence
    rw [evidenceReplays, status, obligation, evidence]
    have carriedWorld : root ∈ carried.model.worlds := (agrees root isWorld).1
    have alsoRefuted := (agrees root isWorld).2 o.formula
    simp [Verdict.status, KripkeModel.refutes, carriedModel.isGLFrame, carriedWorld,
      alsoRefuted, refuted]

/-- **Licences verify.** The receipt of a verdict has its own digest and signature, and its
evidence replays. -/
theorem verified_of_evaluated {o : LicensingObligation} (named : o.formula.WellNamed)
    {verdict : Verdict} (evaluated : evaluateObligation o = .ok verdict) (collation : Collation)
    (notIterable : JsError) (agent_digest timestamp hmacKey : JsString) :
    ∃ receipt, buildReceipt hostMembers runtime hostJson hmacSha256 collation notIterable verdict
        agent_digest timestamp hmacKey = .ok receipt ∧
      verifyReceipt hostMembers runtime hostJson hmacSha256 receipt hmacKey =
        .ok ⟨true, true, true⟩ := by
  rcases exists_evidence named evaluated collation notIterable with
    ⟨rfl, evidence, isEvidence, replays⟩
  let unsigned : UnsignedReceipt :=
    ⟨verdict.status, verdict.obligation.kind.text, verdict.obligation.invariant.show,
      verdict.obligation.formula, agent_digest, evidence, timestamp⟩
  rcases exists_danfDigest (isJson_object unsigned) with ⟨content_digest, isDigest⟩
  let receipt : LobianReceipt :=
    { unsigned with content_digest, signature := hmacSha256.hmacHex hmacKey content_digest }
  refine ⟨receipt, bind_eq_ok.mpr ⟨evidence, isEvidence, bind_eq_ok.mpr ⟨_, isDigest, rfl⟩⟩, ?_⟩
  refine bind_eq_ok.mpr ⟨_, isDigest, bind_eq_ok.mpr ⟨_, replays receipt rfl rfl rfl, ?_⟩⟩
  simp [receipt]

end Receipts

theorem verified_of_evaluated_loeb :
    ∃ verdict, evaluateObligation ⟨.loeb_self_trust, .atom (js "p"), GlTableau.loeb⟩ = .ok verdict ∧
      ∃ receipt, buildReceipt ReceiptSample.hostMembers ReceiptSample.runtime
          ReceiptSample.hostJson fips198 codeUnitOrder nonFiniteError verdict (js "sha256:aa")
          (js "morning") DEV_HMAC_KEY = .ok receipt ∧
        verifyReceipt ReceiptSample.hostMembers ReceiptSample.runtime ReceiptSample.hostJson
          fips198 receipt DEV_HMAC_KEY = .ok ⟨true, true, true⟩ := by
  have returns : (evaluateObligation
      ⟨.loeb_self_trust, .atom (js "p"), GlTableau.loeb⟩).toOption.isSome = true := by
    decide +kernel
  rcases Option.isSome_iff_exists.mp returns with ⟨verdict, isVerdict⟩
  exact ⟨verdict, eq_ok_of_toOption isVerdict,
    verified_of_evaluated GlTableau.wellNamed_loeb (eq_ok_of_toOption isVerdict) _ _ _ _ _⟩

end GhostArk.ResearchFrontier.Lobian
