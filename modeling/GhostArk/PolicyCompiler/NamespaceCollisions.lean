import GhostArk.Lib.Framing
import GhostArk.PolicyCompiler.TenantNamespace

/-!
Contract: the names of `packages/policy-compiler/src/tenantNamespace.ts`, compared between tenants.

Owns the names as joined stages and slugs; that database names tell any two namespaces apart; and
that the other names do exactly if neither stage continues into the slug of the other namespace.
-/

namespace GhostArk.PolicyCompiler

open Js
open Lib

/-- `ghost-ark-${stage}-${tenantSlug}`. -/
def scopedName (stage tenantSlug : JsString) : JsString :=
  js "ghost-ark-" ++ (stage ++ unit '-' :: tenantSlug)

/-- The names that two tenants must not share. -/
structure ScopedNames (tenantNamespace : TenantNamespace) : Prop where
  workgroup : tenantNamespace.workgroupName =
    scopedName tenantNamespace.stage tenantNamespace.tenantSlug
  crawler : tenantNamespace.crawlerName =
    scopedName tenantNamespace.stage tenantNamespace.tenantSlug ++ js "-crawler"
  indexAlias : tenantNamespace.indexAlias =
    scopedName tenantNamespace.stage tenantNamespace.tenantSlug
  database : tenantNamespace.databaseName = js "ghost_ark_" ++
    (tenantNamespace.stage ++ unit '_' :: dashesToUnderscores tenantNamespace.tenantSlug)

section Names

variable {letters : LetterCase} {input other : TenantNamespaceInput}
  {tenantNamespace otherNamespace : TenantNamespace}

theorem scopedNames_of_compiled
    (compiled : compileTenantNamespace letters input = .ok tenantNamespace) :
    ScopedNames tenantNamespace := by
  rw [compileTenantNamespace] at compiled
  rcases bind_eq_ok.mp compiled with ⟨slug, -, rest⟩
  simp only [check_eq_ok] at rest
  rcases rest with ⟨-, rest⟩
  rcases bind_eq_ok.mp rest with ⟨_, -, rest⟩
  rcases bind_eq_ok.mp rest with ⟨_, -, rest⟩
  rcases bind_eq_ok.mp rest with ⟨_, -, rest⟩
  rcases bind_eq_ok.mp rest with ⟨_, -, rest⟩
  cases rest
  constructor <;> simp only [scopedName, List.append_assoc] <;> rfl

theorem not_mem_underscore {most : Nat} {text : JsString} (named : isName most text = true) :
    unit '_' ∉ text := by
  intro member
  have allowed := isSlugUnit_of_isName named member
  revert allowed
  decide

theorem dashesToUnderscores_inj {left right : JsString} (leftFree : unit '_' ∉ left)
    (rightFree : unit '_' ∉ right)
    (same : dashesToUnderscores left = dashesToUnderscores right) : left = right := by
  refine @map_inj_of_forall _ _ _ (fun codeUnit => codeUnit ≠ unit '_') ?_ _ _ ?_ ?_ same
  · intro first second isFirst isSecond sameUnit
    split at sameUnit <;> split at sameUnit <;> simp_all
  · exact fun codeUnit member isUnderscore => leftFree (isUnderscore ▸ member)
  · exact fun codeUnit member isUnderscore => rightFree (isUnderscore ▸ member)

/-- The name of the database shows stage and slug. -/
theorem databaseName_inj (compiled : compileTenantNamespace letters input = .ok tenantNamespace)
    (otherCompiled : compileTenantNamespace letters other = .ok otherNamespace)
    (same : tenantNamespace.databaseName = otherNamespace.databaseName) :
    tenantNamespace.stage = otherNamespace.stage ∧
      tenantNamespace.tenantSlug = otherNamespace.tenantSlug := by
  have accepted := compileTenantNamespace_accepted compiled
  have otherAccepted := compileTenantNamespace_accepted otherCompiled
  rw [(scopedNames_of_compiled compiled).database,
    (scopedNames_of_compiled otherCompiled).database] at same
  rcases firstField_inj (not_mem_underscore accepted.isStage)
    (not_mem_underscore otherAccepted.isStage) (List.append_cancel_left same) with
    ⟨sameStage, sameSlug⟩
  exact ⟨sameStage, dashesToUnderscores_inj
    (not_mem_underscore (isTenantSlug_normalize accepted.slug))
    (not_mem_underscore (isTenantSlug_normalize otherAccepted.slug)) sameSlug⟩

end Names

/-! ### Collisions -/

/-- No resource of the one namespace has the name of that resource of the other. -/
structure NamesDiffer (left right : TenantNamespace) : Prop where
  workgroup : left.workgroupName ≠ right.workgroupName
  crawler : left.crawlerName ≠ right.crawlerName
  indexAlias : left.indexAlias ≠ right.indexAlias
  database : left.databaseName ≠ right.databaseName

/-- The stage of the second namespace continues that of the first by a dash and the start of the
first one's slug, and its own slug is the rest. -/
def Continues (left right : TenantNamespace) : Prop :=
  ∃ middle, right.stage = left.stage ++ unit '-' :: middle ∧
    left.tenantSlug = middle ++ unit '-' :: right.tenantSlug

/-- One scoped name has two readings exactly if a stage continues into a slug. -/
theorem scopedName_eq_iff {left right : TenantNamespace} :
    scopedName left.stage left.tenantSlug = scopedName right.stage right.tenantSlug ↔
      left.stage = right.stage ∧ left.tenantSlug = right.tenantSlug ∨
        Continues left right ∨ Continues right left := by
  rw [scopedName, scopedName, List.append_cancel_left_eq, joined_eq_iff]
  rfl

/-- **Namespaces.** The names of two namespaces of different stages or slugs differ exactly if
neither stage continues into the slug of the other. -/
theorem namesDiffer_iff (letters : LetterCase) (input other : TenantNamespaceInput)
    (left right : TenantNamespace)
    (compiled : compileTenantNamespace letters input = .ok left)
    (otherCompiled : compileTenantNamespace letters other = .ok right)
    (different : (left.stage, left.tenantSlug) ≠ (right.stage, right.tenantSlug)) :
    NamesDiffer left right ↔ ¬ Continues left right ∧ ¬ Continues right left := by
  have names := scopedNames_of_compiled compiled
  have otherNames := scopedNames_of_compiled otherCompiled
  have notSame : ¬ (left.stage = right.stage ∧ left.tenantSlug = right.tenantSlug) := by
    rw [← Prod.mk.injEq]
    exact different
  have collide : scopedName left.stage left.tenantSlug =
      scopedName right.stage right.tenantSlug ↔ Continues left right ∨ Continues right left := by
    rw [scopedName_eq_iff]
    exact or_iff_right notSame
  rw [← not_or, ← collide]
  constructor
  · intro differ
    rw [← names.workgroup, ← otherNames.workgroup]
    exact differ.workgroup
  · intro apart
    constructor
    · rw [names.workgroup, otherNames.workgroup]
      exact apart
    · rw [names.crawler, otherNames.crawler]
      exact fun same => apart (List.append_cancel_right same)
    · rw [names.indexAlias, otherNames.indexAlias]
      exact apart
    · exact fun same => notSame (databaseName_inj compiled otherCompiled same)

namespace CollisionSample

def input (stage tenantSlug : String) : TenantNamespaceInput where
  stage := js stage
  tenantSlug := js tenantSlug
  rawBucket := js "raw"
  curatedBucket := js "curated"
  exportBucket := js "export"
  resultsBucket := js "results"
  region := js "us-east-1"

theorem exists_compiled (stage tenantSlug : String) (tenantStage slug : JsString)
    (compiled : (compileTenantNamespace asciiCase (input stage tenantSlug)).toOption.any
      (fun tenantNamespace => tenantNamespace.stage == tenantStage &&
        tenantNamespace.tenantSlug == slug) = true) :
    ∃ tenantNamespace, compileTenantNamespace asciiCase (input stage tenantSlug) =
      .ok tenantNamespace ∧ tenantNamespace.stage = tenantStage ∧
        tenantNamespace.tenantSlug = slug := by
  rcases exists_ok_of_any compiled with ⟨tenantNamespace, isCompiled, fields⟩
  rw [Bool.and_eq_true, beq_iff_eq, beq_iff_eq] at fields
  exact ⟨tenantNamespace, isCompiled, fields⟩

theorem stages_apart :
    ∃ left right, compileTenantNamespace asciiCase (input "dev" "acme") = .ok left ∧
      compileTenantNamespace asciiCase (input "prod" "acme") = .ok right ∧
        NamesDiffer left right := by
  rcases exists_compiled "dev" "acme" (js "dev") (js "acme") (by decide +kernel) with
    ⟨left, compiled, isStage, isSlug⟩
  rcases exists_compiled "prod" "acme" (js "prod") (js "acme") (by decide +kernel) with
    ⟨right, otherCompiled, isOtherStage, isOtherSlug⟩
  have noDash : unit '-' ∉ js "acme" := by decide
  refine ⟨left, right, compiled, otherCompiled,
    (namesDiffer_iff asciiCase _ _ left right compiled otherCompiled ?_).mpr ⟨?_, ?_⟩⟩
  · rw [isStage, isSlug, isOtherStage, isOtherSlug]
    decide
  · rintro ⟨middle, -, isLong⟩
    rw [isSlug] at isLong
    exact noDash (isLong ▸ List.mem_append_right _ List.mem_cons_self)
  · rintro ⟨middle, -, isLong⟩
    rw [isOtherSlug] at isLong
    exact noDash (isLong ▸ List.mem_append_right _ List.mem_cons_self)

/-- The tenant `a-bc` of `dev` and the tenant `bc` of `dev-a` share a workgroup. -/
theorem workgroup_shared :
    ¬ ∀ (letters : LetterCase) (input other : TenantNamespaceInput) (left right : TenantNamespace),
      compileTenantNamespace letters input = .ok left →
        compileTenantNamespace letters other = .ok right →
          (left.stage, left.tenantSlug) ≠ (right.stage, right.tenantSlug) →
            NamesDiffer left right := by
  intro differ
  rcases exists_compiled "dev" "a-bc" (js "dev") (js "a-bc") (by decide +kernel) with
    ⟨left, compiled, isStage, isSlug⟩
  rcases exists_compiled "dev-a" "bc" (js "dev-a") (js "bc") (by decide +kernel) with
    ⟨right, otherCompiled, isOtherStage, isOtherSlug⟩
  have apart := differ asciiCase _ _ left right compiled otherCompiled (by
    rw [isStage, isSlug, isOtherStage, isOtherSlug]
    decide)
  apply apart.workgroup
  rw [(scopedNames_of_compiled compiled).workgroup,
    (scopedNames_of_compiled otherCompiled).workgroup, scopedName_eq_iff, isStage, isSlug,
    isOtherStage, isOtherSlug]
  exact Or.inr (Or.inl ⟨js "a", by rw [isStage, isOtherStage]; decide,
    by rw [isSlug, isOtherSlug]; decide⟩)

end CollisionSample

end GhostArk.PolicyCompiler
