import GhostArk.EnforcementRuntime.Receipts.Emission

/-!
Contract: `packages/enforcement-runtime/src/identity/context.ts`.

Owns the verified identity, its resolution from an authorizer, and the search
for identity keys that a client declares in a request body.

The search enters an array only as the value of a key: an array at the top, or
directly inside another array, is not entered. So it finds a declared key exactly where one
lies outside of such arrays.
-/

namespace GhostArk.EnforcementRuntime.Identity

open Js Receipts

inductive IdentitySource where
  | jwt
  | authorizer
  | lambdaAuthorizer
  | cognito
deriving DecidableEq, Repr

/-- A verified identity: what receipts record, with the role and the source. -/
structure VerifiedIdentityContext extends Receipts.VerifiedIdentityContext where
  role : JsString
  source : IdentitySource
deriving DecidableEq, Repr

structure AuthorizerIdentity where
  tenantId : Option JsString
  userId : Option JsString
  role : Option JsString
  sessionId : Option JsString
  requestId : Option JsString
  source : Option IdentitySource
deriving DecidableEq, Repr

/-- `!value` of an optional string. -/
def isMissing (value : Option JsString) : Bool := value.getD [] == []

def resolveVerifiedIdentity (authorizer : AuthorizerIdentity) (requestId : Option JsString) :
    Except JsError VerifiedIdentityContext :=
  if isMissing authorizer.tenantId || isMissing authorizer.userId then
    .error ⟨.validationError, js "Verified tenant and user identity are required", []⟩
  else
    .ok {
      tenantId := authorizer.tenantId.getD []
      userId := authorizer.userId.getD []
      role := authorizer.role.getD (js "user")
      sessionId := authorizer.sessionId.getD (js "session-unknown")
      requestId := (authorizer.requestId.orElse fun _ => requestId).getD (js "request-unknown")
      source := authorizer.source.getD .lambdaAuthorizer }

def clientIdentityKeys : List JsString :=
  [js "tenant_id", js "tenantId", js "tenantSlug", js "tenant_slug", js "user_id", js "userId",
    js "session_id", js "sessionId"]

/-- `path ? path + "." + key : key`. -/
def extendPath (path key : JsString) : JsString :=
  if path = [] then key else path ++ js "." ++ key

mutual

def declaredIdentityKeys (recursive : Bool) (path : JsString) : JsValue → List JsString
  | .object entries =>
    (entries.filter fun entry => clientIdentityKeys.contains entry.1).map
        (fun entry => extendPath path entry.1) ++
      if recursive then declaredBelow path entries else []
  | _ => []

def declaredBelow (path : JsString) : List (JsString × JsValue) → List JsString
  | [] => []
  | (key, value) :: rest =>
    (match value with
      | .array items => declaredInItems (extendPath path key) 0 items
      | value => declaredIdentityKeys true (extendPath path key) value) ++
    declaredBelow path rest

def declaredInItems (path : JsString) (index : Nat) : List JsValue → List JsString
  | [] => []
  | item :: rest =>
    declaredIdentityKeys true (path ++ js "." ++ Decimal.natText index) item ++
      declaredInItems path (index + 1) rest

end

def assertNoClientDeclaredIdentity (value : JsValue) (recursive : Bool) : Except JsError Unit :=
  let declaredKeys := declaredIdentityKeys recursive [] value
  if declaredKeys.length > 0 then
    .error ⟨.validationError,
      js "Client-declared tenant, user, or session identity is not accepted",
      [(js "declaredKeys", stringArray (sortStrings declaredKeys))]⟩
  else .ok ()

example : declaredIdentityKeys true [] (.object [(js "a", .array [.object
    [(js "tenantId", .null)]]), (js "b", .array [.array [.object [(js "userId", .null)]]])]) =
      [js "a.0.tenantId"] := by
  decide +kernel

/-! ### Where a declared key lies -/

/-- An object with a declared key is the value, or lies inside it at any depth. -/
inductive DeclaresIdentity : JsValue → Prop where
  | key {entries : List (JsString × JsValue)} {key : JsString} {value : JsValue}
      (isEntry : (key, value) ∈ entries) (isDeclared : key ∈ clientIdentityKeys) :
      DeclaresIdentity (.object entries)
  | entry {entries : List (JsString × JsValue)} {key : JsString} {value : JsValue}
      (isEntry : (key, value) ∈ entries) (inside : DeclaresIdentity value) :
      DeclaresIdentity (.object entries)
  | item {items : List JsValue} {value : JsValue} (isItem : value ∈ items)
      (inside : DeclaresIdentity value) : DeclaresIdentity (.array items)

/-- One is the value, or lies inside it with every array on the way the value of a key. -/
inductive DeclaresInReach : JsValue → Prop where
  | key {entries : List (JsString × JsValue)} {key : JsString} {value : JsValue}
      (isEntry : (key, value) ∈ entries) (isDeclared : key ∈ clientIdentityKeys) :
      DeclaresInReach (.object entries)
  | entry {entries : List (JsString × JsValue)} {key : JsString} {value : JsValue}
      (isEntry : (key, value) ∈ entries) (inside : DeclaresInReach value) :
      DeclaresInReach (.object entries)
  | entryItem {entries : List (JsString × JsValue)} {key : JsString} {items : List JsValue}
      {value : JsValue} (isEntry : (key, .array items) ∈ entries) (isItem : value ∈ items)
      (inside : DeclaresInReach value) : DeclaresInReach (.object entries)

theorem DeclaresInReach.declaresIdentity {value : JsValue} (inReach : DeclaresInReach value) :
    DeclaresIdentity value := by
  induction inReach with
  | key isEntry isDeclared => exact .key isEntry isDeclared
  | entry isEntry _ ih => exact .entry isEntry ih
  | entryItem isEntry isItem _ ih =>
    exact .entry isEntry (.item isItem ih)

/-- What the search does with the value of a key. -/
def EntryInReach : JsValue → Prop
  | .array items => ∃ item ∈ items, DeclaresInReach item
  | value => DeclaresInReach value

theorem declaresInReach_object {entries : List (JsString × JsValue)} :
    DeclaresInReach (.object entries) ↔
      (∃ entry ∈ entries, entry.1 ∈ clientIdentityKeys) ∨
        ∃ entry ∈ entries, EntryInReach entry.2 := by
  constructor
  · intro inReach
    cases inReach with
    | key isEntry isDeclared => exact Or.inl ⟨_, isEntry, isDeclared⟩
    | @entry _ key value isEntry inside =>
      refine Or.inr ⟨_, isEntry, ?_⟩
      cases value with
      | array items => cases inside
      | _ => exact inside
    | entryItem isEntry isItem inside => exact Or.inr ⟨_, isEntry, _, isItem, inside⟩
  · rintro (⟨⟨key, value⟩, isEntry, isDeclared⟩ | ⟨⟨key, value⟩, isEntry, inside⟩)
    · exact .key isEntry isDeclared
    · cases value with
      | array items =>
        rcases inside with ⟨item, isItem, inItem⟩
        exact .entryItem isEntry isItem inItem
      | _ => exact .entry isEntry inside

mutual

theorem declaredIdentityKeys_eq_nil_iff (path : JsString) : ∀ value : JsValue,
    declaredIdentityKeys true path value = [] ↔ ¬ DeclaresInReach value
  | .object entries => by
    rw [declaredIdentityKeys, if_pos rfl, List.append_eq_nil_iff, List.map_eq_nil_iff,
      List.filter_eq_nil_iff, declaredBelow_eq_nil_iff path entries, declaresInReach_object,
      not_or]
    simp only [List.contains_iff_mem, not_exists, not_and]
  | .array _ => iff_of_true rfl fun inReach => by cases inReach
  | .undefined => iff_of_true rfl fun inReach => by cases inReach
  | .null => iff_of_true rfl fun inReach => by cases inReach
  | .bool _ => iff_of_true rfl fun inReach => by cases inReach
  | .number _ => iff_of_true rfl fun inReach => by cases inReach
  | .string _ => iff_of_true rfl fun inReach => by cases inReach
  | .hole => iff_of_true rfl fun inReach => by cases inReach
  | .host _ => iff_of_true rfl fun inReach => by cases inReach

theorem declaredBelow_eq_nil_iff (path : JsString) : ∀ entries : List (JsString × JsValue),
    declaredBelow path entries = [] ↔ ∀ entry ∈ entries, ¬ EntryInReach entry.2
  | [] => iff_of_true rfl fun _ member => absurd member List.not_mem_nil
  | (key, value) :: rest => by
    unfold declaredBelow
    rw [List.append_eq_nil_iff, declaredBelow_eq_nil_iff path rest, List.forall_mem_cons]
    apply and_congr_left'
    cases value with
    | array items =>
      rw [EntryInReach, declaredInItems_eq_nil_iff _ 0 items]
      simp only [not_exists, not_and]
    | object entries => exact declaredIdentityKeys_eq_nil_iff _ (.object entries)
    | _ => exact iff_of_true rfl fun inReach => by cases inReach

theorem declaredInItems_eq_nil_iff (path : JsString) (index : Nat) : ∀ items : List JsValue,
    declaredInItems path index items = [] ↔ ∀ item ∈ items, ¬ DeclaresInReach item
  | [] => iff_of_true rfl fun _ member => absurd member List.not_mem_nil
  | item :: rest => by
    rw [declaredInItems, List.append_eq_nil_iff, declaredIdentityKeys_eq_nil_iff _ item,
      declaredInItems_eq_nil_iff path (index + 1) rest, List.forall_mem_cons]

end

/-- The assertion passes exactly if no identity field is declared within its reach. -/
theorem assertNoClientDeclaredIdentity_iff {value : JsValue} :
    assertNoClientDeclaredIdentity value true = .ok () ↔ ¬ DeclaresInReach value := by
  rw [← declaredIdentityKeys_eq_nil_iff [] value, assertNoClientDeclaredIdentity]
  cases declaredIdentityKeys true [] value with
  | nil => exact iff_of_true rfl rfl
  | cons key rest =>
    refine iff_of_false ?_ (List.cons_ne_nil key rest)
    intro accepted
    cases accepted

/-- The assertion accepts exactly the values without a declared key, for every value that has
one in reach if it has one at all. -/
theorem noClientDeclaredIdentity_iff (value : JsValue) :
    (assertNoClientDeclaredIdentity value true = .ok () ↔ ¬ DeclaresIdentity value) ↔
      (DeclaresIdentity value → DeclaresInReach value) := by
  rw [assertNoClientDeclaredIdentity_iff, not_iff_not]
  exact ⟨fun same => same.mpr, fun found => ⟨DeclaresInReach.declaresIdentity, found⟩⟩

/-- An array at the top hides a declared key. -/
theorem topLevelArray_accepted :
    let value := JsValue.array [.object [(js "tenantId", .string (js "tenant-b"))]]
    assertNoClientDeclaredIdentity value true = .ok () ∧ DeclaresIdentity value := by
  intro value
  refine ⟨rfl, .item (List.mem_singleton_self _) (.key (List.mem_singleton_self _) ?_)⟩
  decide

end GhostArk.EnforcementRuntime.Identity
