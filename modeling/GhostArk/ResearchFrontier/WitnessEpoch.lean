import GhostArk.Js.Date
import GhostArk.Js.Decimal
import GhostArk.Js.Sha256
import GhostArk.ResearchFrontier.WitnessCheckpoint

/-!
Contract: what a passed epoch check of a witness key stands for.

Owns the instants that a passed check should guarantee, exactly what
`verifyWitnessKeyManifestEpoch` passes, and the condition under which it passes
nothing else: `Date.parse` returns NaN for a limit that is not a date, and no
comparison with NaN refuses.
-/

namespace GhostArk.ResearchFrontier.Witness

open Js

section Epoch

variable (runtime : Runtime)

def IsInstantAfter (text : JsString) (instant : ℚ) : Prop :=
  ∃ limit, runtime.dates.parse text = .finite limit ∧ instant < limit

/-- The key of the entry is that of the witness, and its epoch covers the integrated time. -/
structure EpochCovers (entry : WitnessKeyManifestEntry)
    (witnessId signatureAlgorithm integratedTime : JsString) : Prop where
  witness : entry.witness_id = witnessId
  algorithm : entry.signature_algorithm = signatureAlgorithm
  instants : ∃ instant start, runtime.dates.parse integratedTime = .finite instant ∧
    runtime.dates.parse entry.valid_from = .finite start ∧ start ≤ instant ∧
      (∀ text ∈ entry.valid_until, IsInstantAfter runtime text instant) ∧
      (∀ text ∈ entry.revoked_at, IsInstantAfter runtime text instant) ∧
      (entry.status = js "REVOKED" →
        ∃ text ∈ entry.revoked_at, IsInstantAfter runtime text instant)

/-- A passed check has used an entry that covers the integrated time. -/
def FailsClosed (manifest : WitnessKeyManifest)
    (witnessId signatureAlgorithm integratedTime : JsString) : Prop :=
  (verifyWitnessKeyManifestEpoch runtime manifest witnessId signatureAlgorithm
      integratedTime).passed = true →
    ∃ entry ∈ manifest.witnesses,
      findWitnessKeyManifestEntry manifest witnessId signatureAlgorithm = some entry ∧
        EpochCovers runtime entry witnessId signatureAlgorithm integratedTime

/-! ### What passes -/

/-- A limit that is given and at or before the observed instant, or a revocation without one. -/
def IsRefused (entry : WitnessKeyManifestEntry) (observed : JsNumber) : Prop :=
  (parseOptionalDate runtime entry.valid_until).any (atOrAfter observed) = true ∨
    (parseOptionalDate runtime entry.revoked_at).any (atOrAfter observed) = true ∨
      entry.status = js "REVOKED" ∧ parseOptionalDate runtime entry.revoked_at = none

/-- The entry's limits, as far as they are dates, let the key sign at the integrated time. -/
structure IsInEpoch (entry : WitnessKeyManifestEntry) (integratedTime : JsString) : Prop where
  isInstant : (runtime.dates.parse integratedTime).isFinite = true
  notBefore : (runtime.dates.parse integratedTime).lt (runtime.dates.parse entry.valid_from) = false
  notRefused : ¬ IsRefused runtime entry (runtime.dates.parse integratedTime)

variable {runtime}

theorem atOrAfter_getD {limit : Option JsNumber} {observed : JsNumber}
    (isInstant : observed.isFinite = true) :
    atOrAfter observed (limit.getD .positiveInfinity) = limit.any (atOrAfter observed) := by
  cases limit with
  | some limit => rfl
  | none =>
    cases observed with
    | finite value => rfl
    | nan => cases isInstant
    | positiveInfinity => cases isInstant
    | negativeInfinity => cases isInstant

theorem verifyEntryEpoch_passed_iff {entry : WitnessKeyManifestEntry}
    {signatureAlgorithm integratedTime : JsString} :
    (verifyEntryEpoch runtime entry signatureAlgorithm integratedTime).passed = true ↔
      entry.signature_algorithm = signatureAlgorithm ∧ IsInEpoch runtime entry integratedTime := by
  unfold verifyEntryEpoch
  simp only []
  split
  next different => exact iff_of_false (by simp [epochCheck]) fun both => different both.1
  next same =>
    rw [ne_eq, not_not] at same
    split
    next unreadable =>
      rw [Bool.not_eq_true'] at unreadable
      refine iff_of_false (by simp [epochCheck]) fun both => ?_
      exact absurd both.2.isInstant (by simp [unreadable])
    next readable =>
      rw [Bool.not_eq_true', Bool.not_eq_false] at readable
      split
      next early =>
        refine iff_of_false (by simp [epochCheck]) fun both => ?_
        exact absurd both.2.notBefore (by simp [early])
      next notEarly =>
        rw [Bool.not_eq_true] at notEarly
        rw [atOrAfter_getD readable]
        split
        next late =>
          exact iff_of_false (by simp [epochCheck]) fun both => both.2.notRefused (Or.inl late)
        next notLate =>
          split
          next revoked =>
            refine iff_of_false (by simp [epochCheck]) fun both => ?_
            exact both.2.notRefused (Or.inr (Or.inr revoked))
          next notRevoked =>
            split
            next late =>
              refine iff_of_false (by simp [epochCheck]) fun both => ?_
              exact both.2.notRefused (Or.inr (Or.inl late))
            next notRevokedYet =>
              refine iff_of_true rfl ⟨same, readable, notEarly, ?_⟩
              rintro (late | late | revoked)
              · exact notLate late
              · exact notRevokedYet late
              · exact notRevoked revoked

variable {manifest : WitnessKeyManifest}

theorem verifyWitnessKeyManifestEpoch_passed_iff
    {witnessId signatureAlgorithm integratedTime : JsString} :
    (verifyWitnessKeyManifestEpoch runtime manifest witnessId signatureAlgorithm
        integratedTime).passed = true ↔
      validateWitnessKeyManifestSemantics runtime manifest = .ok () ∧
        ∃ entry, findWitnessKeyManifestEntry manifest witnessId signatureAlgorithm = some entry ∧
          entry.signature_algorithm = signatureAlgorithm ∧
            IsInEpoch runtime entry integratedTime := by
  unfold verifyWitnessKeyManifestEpoch
  cases validateWitnessKeyManifestSemantics runtime manifest with
  | error error => simp [epochCheck]
  | ok done =>
    cases findWitnessKeyManifestEntry manifest witnessId signatureAlgorithm with
    | none => simp [epochCheck]
    | some entry => simp [verifyEntryEpoch_passed_iff]

theorem isFinite_of_validateManifestEntry {index : Nat} {witness : WitnessKeyManifestEntry}
    (valid : validateManifestEntry runtime index witness = .ok ()) :
    (runtime.dates.parse witness.valid_from).isFinite = true := by
  unfold validateManifestEntry at valid
  -- The fifth check is that of `valid_from`.
  rcases check_eq_ok.mp valid with ⟨-, afterWitness⟩
  rcases check_eq_ok.mp afterWitness with ⟨-, afterAlgorithm⟩
  rcases check_eq_ok.mp afterAlgorithm with ⟨-, afterKey⟩
  rcases check_eq_ok.mp afterKey with ⟨-, afterStatus⟩
  rcases check_eq_ok.mp afterStatus with ⟨readable, -⟩
  simpa using readable

theorem isFinite_of_validateManifestEntries {index : Nat} {seen : List JsString}
    {witnesses : List WitnessKeyManifestEntry}
    (valid : validateManifestEntries runtime index seen witnesses = .ok ()) :
    ∀ witness ∈ witnesses, (runtime.dates.parse witness.valid_from).isFinite = true := by
  induction witnesses generalizing index seen with
  | nil => simp
  | cons witness rest ih =>
    rw [validateManifestEntries] at valid
    split at valid
    next => cases valid
    next =>
      rcases bind_eq_ok.mp valid with ⟨_, here, later⟩
      rw [List.forall_mem_cons]
      exact ⟨isFinite_of_validateManifestEntry here, ih later⟩

theorem isFinite_of_validated
    (valid : validateWitnessKeyManifestSemantics runtime manifest = .ok ()) :
    ∀ witness ∈ manifest.witnesses, (runtime.dates.parse witness.valid_from).isFinite = true := by
  unfold validateWitnessKeyManifestSemantics at valid
  rcases check_eq_ok.mp valid with ⟨-, afterVersion⟩
  rcases check_eq_ok.mp afterVersion with ⟨-, afterTime⟩
  rcases check_eq_ok.mp afterTime with ⟨-, afterCount⟩
  exact isFinite_of_validateManifestEntries afterCount

theorem mem_of_findWitnessKeyManifestEntry {witnessId signatureAlgorithm : JsString}
    {entry : WitnessKeyManifestEntry}
    (found : findWitnessKeyManifestEntry manifest witnessId signatureAlgorithm = some entry) :
    entry ∈ manifest.witnesses ∧ entry.witness_id = witnessId := by
  rcases Option.or_eq_some_iff.mp found with exact_ | ⟨-, sameId⟩
  · have both := List.find?_some exact_
    rw [decide_eq_true_eq] at both
    exact ⟨List.mem_of_find?_eq_some exact_, both.1⟩
  · have same := List.find?_some sameId
    rw [decide_eq_true_eq] at same
    exact ⟨List.mem_of_find?_eq_some sameId, same⟩

section Exactness

variable (runtime : Runtime)

/-- The limits that the entry gives are dates. -/
structure HasReadableLimits (entry : WitnessKeyManifestEntry) : Prop where
  validUntil : ∀ text ∈ entry.valid_until, (runtime.dates.parse text).isFinite = true
  revokedAt : ∀ text ∈ entry.revoked_at, (runtime.dates.parse text).isFinite = true

/-- Of a validated manifest, the entry found for the witness gives no limit that is not a date,
unless its algorithm, its other dates or its status refuse the integrated time anyway. -/
def UnreadableLimitsRefused (manifest : WitnessKeyManifest)
    (witnessId signatureAlgorithm integratedTime : JsString) : Prop :=
  validateWitnessKeyManifestSemantics runtime manifest = .ok () →
    ∀ entry, findWitnessKeyManifestEntry manifest witnessId signatureAlgorithm = some entry →
      entry.signature_algorithm = signatureAlgorithm → IsInEpoch runtime entry integratedTime →
        HasReadableLimits runtime entry

variable {runtime}

theorem IsInstantAfter.isFinite {text : JsString} {instant : ℚ}
    (later : IsInstantAfter runtime text instant) :
    (runtime.dates.parse text).isFinite = true := by
  rcases later with ⟨limit, isLimit, -⟩
  rw [isLimit]
  rfl

theorem isInstantAfter_of_readable (emptyText : runtime.dates.parse [] = .nan)
    {limit : Option JsString} {text : JsString} (given : text ∈ limit)
    (readable : (runtime.dates.parse text).isFinite = true) {instant : ℚ}
    (notRefused : (parseOptionalDate runtime limit).any (atOrAfter (.finite instant)) ≠ true) :
    IsInstantAfter runtime text instant := by
  have nonempty : text ≠ [] := by
    rintro rfl
    rw [emptyText] at readable
    cases readable
  rw [Option.mem_def.mp given, parseOptionalDate, if_neg nonempty, Option.any_some] at notRefused
  cases isLimit : runtime.dates.parse text with
  | finite value =>
    refine ⟨value, isLimit, ?_⟩
    rw [isLimit] at notRefused
    simp only [atOrAfter, JsNumber.le, JsNumber.lt, JsNumber.strictEq, ne_eq, Bool.or_eq_true,
      decide_eq_true_eq, JsNumber.finite.injEq, not_or, not_lt] at notRefused
    exact lt_of_le_of_ne notRefused.1 (Ne.symm notRefused.2)
  | nan =>
    rw [isLimit] at readable
    cases readable
  | positiveInfinity =>
    rw [isLimit] at readable
    cases readable
  | negativeInfinity =>
    rw [isLimit] at readable
    cases readable

theorem epochCovers_of_readable (emptyText : runtime.dates.parse [] = .nan)
    {entry : WitnessKeyManifestEntry} {witnessId signatureAlgorithm integratedTime : JsString}
    (witness : entry.witness_id = witnessId)
    (algorithm : entry.signature_algorithm = signatureAlgorithm)
    (starts : (runtime.dates.parse entry.valid_from).isFinite = true)
    (inEpoch : IsInEpoch runtime entry integratedTime)
    (readable : HasReadableLimits runtime entry) :
    EpochCovers runtime entry witnessId signatureAlgorithm integratedTime := by
  rcases JsNumber.exists_of_isFinite inEpoch.isInstant with ⟨instant, isInstant⟩
  rcases JsNumber.exists_of_isFinite starts with ⟨start, isStart⟩
  have notBefore := inEpoch.notBefore
  have notRefused := inEpoch.notRefused
  rw [isInstant] at notBefore notRefused
  rw [isStart] at notBefore
  have afterRevocation : ∀ text ∈ entry.revoked_at, IsInstantAfter runtime text instant :=
    fun text given => isInstantAfter_of_readable emptyText given (readable.revokedAt text given)
      fun late => notRefused (Or.inr (Or.inl late))
  refine ⟨witness, algorithm, instant, start, isInstant, isStart, ?_, ?_, afterRevocation, ?_⟩
  · simpa [JsNumber.lt] using notBefore
  · exact fun text given =>
      isInstantAfter_of_readable emptyText given (readable.validUntil text given)
        fun late => notRefused (Or.inl late)
  · intro revoked
    cases given : entry.revoked_at with
    | none =>
      refine absurd (Or.inr (Or.inr ⟨revoked, ?_⟩)) notRefused
      rw [given]
      rfl
    | some text => exact ⟨text, rfl, afterRevocation text given⟩

/-- **Fail-closed epochs.** A passed check stands for a covering epoch exactly when no limit that
is not a date has been passed over. -/
theorem failsClosed_iff (emptyText : runtime.dates.parse [] = .nan)
    (manifest : WitnessKeyManifest) (witnessId signatureAlgorithm integratedTime : JsString) :
    FailsClosed runtime manifest witnessId signatureAlgorithm integratedTime ↔
      UnreadableLimitsRefused runtime manifest witnessId signatureAlgorithm integratedTime := by
  constructor
  · intro failsClosed valid entry found algorithm inEpoch
    have passed := verifyWitnessKeyManifestEpoch_passed_iff.mpr
      ⟨valid, entry, found, algorithm, inEpoch⟩
    rcases failsClosed passed with ⟨other, -, isFound, covers⟩
    rw [found, Option.some.injEq] at isFound
    rw [← isFound] at covers
    rcases covers.instants with ⟨instant, start, -, -, -, beforeEnd, beforeRevocation, -⟩
    exact ⟨fun text given => (beforeEnd text given).isFinite,
      fun text given => (beforeRevocation text given).isFinite⟩
  · intro refused passed
    rcases verifyWitnessKeyManifestEpoch_passed_iff.mp passed with
      ⟨valid, entry, found, algorithm, inEpoch⟩
    have isEntry := mem_of_findWitnessKeyManifestEntry found
    exact ⟨entry, isEntry.1, found, epochCovers_of_readable emptyText isEntry.2 algorithm
      (isFinite_of_validated valid entry isEntry.1) inEpoch
      (refused valid entry found algorithm inEpoch)⟩

end Exactness

end Epoch

namespace EpochSample

def runtime : Runtime where
  sha256 := fips180
  numbers := decimalText
  dates := utcDates
  verifySignature := fun _ _ _ => .ok false

def entry (status : JsString) (revokedAt : JsString) : WitnessKeyManifestEntry where
  witness_id := js "witness-a"
  signature_algorithm := js "ecdsa-p256-sha256"
  public_key_pem := js "pem"
  valid_from := js "2026-01-01T00:00:00Z"
  valid_until := some (js "2027-01-01T00:00:00Z")
  status
  revoked_at := some revokedAt

def manifest (revokedAt : JsString) : WitnessKeyManifest where
  schema_version := js "ghostark.research.witness_key_manifest.v1"
  generated_at := js "2026-01-01T00:00:00Z"
  witnesses := [entry (js "REVOKED") revokedAt]

end EpochSample

/-- The key is revoked later than the integrated time, and both limits are dates. -/
theorem failsClosed_of_readable_sample :
    FailsClosed EpochSample.runtime (EpochSample.manifest (js "2026-07-01T00:00:00Z"))
      (js "witness-a") (js "ecdsa-p256-sha256") (js "2026-06-01T00:00:00Z") := by
  refine (failsClosed_iff (by decide +kernel) _ _ _ _).mpr ?_
  intro _ entry found _ _
  have isEntry : findWitnessKeyManifestEntry (EpochSample.manifest (js "2026-07-01T00:00:00Z"))
      (js "witness-a") (js "ecdsa-p256-sha256") =
        some (EpochSample.entry (js "REVOKED") (js "2026-07-01T00:00:00Z")) := by
    decide +kernel
  rw [isEntry, Option.some.injEq] at found
  subst found
  constructor
  · rintro text ⟨⟩
    decide +kernel
  · rintro text ⟨⟩
    decide +kernel

/-- A revoked key passes, at any time in its epoch, if its revocation time is not a date. -/
theorem unreadable_revocation_passes :
    ¬ FailsClosed EpochSample.runtime (EpochSample.manifest (js "yesterday"))
      (js "witness-a") (js "ecdsa-p256-sha256") (js "2026-06-01T00:00:00Z") := by
  intro failsClosed
  rcases failsClosed (by decide +kernel) with ⟨entry, isEntry, -, covers⟩
  rcases covers.instants with ⟨instant, start, -, -, -, -, beforeRevocation, -⟩
  rw [EpochSample.manifest, List.mem_singleton] at isEntry
  subst isEntry
  have readable := (beforeRevocation _ rfl).isFinite
  exact absurd readable (by decide +kernel)

end GhostArk.ResearchFrontier.Witness
