import GhostArk.Js.Text

/-!
Contract: `text.replace(/literal/gu, replacement)`.

Owns the expansion of a replacement text, the replacement of all occurrences of a literal
that starts with a dollar sign, and texts without further dollar signs.
-/

namespace GhostArk.Js

/-- `GetSubstitution` without captures. -/
def expandReplacement (before matched after : JsString) : JsString → JsString
  | [] => []
  | [last] => [last]
  | first :: second :: rest =>
    if first = unit '$' then
      if second = unit '$' then unit '$' :: expandReplacement before matched after rest
      else if second = unit '&' then matched ++ expandReplacement before matched after rest
      else if second.val = 0x60 then before ++ expandReplacement before matched after rest
      else if second.val = 0x27 then after ++ expandReplacement before matched after rest
      else first :: expandReplacement before matched after (second :: rest)
    else first :: expandReplacement before matched after (second :: rest)

/-- Replacement from a place on, with the text before it and the units of an occurrence still
to be passed. -/
def replaceFrom (sought replacement : JsString) : JsString → Nat → JsString → JsString
  | _, _, [] => []
  | before, skipped + 1, codeUnit :: rest =>
    replaceFrom sought replacement (before ++ [codeUnit]) skipped rest
  | before, 0, codeUnit :: rest =>
    if sought.isPrefixOf (codeUnit :: rest) then
      expandReplacement before sought ((codeUnit :: rest).drop sought.length) replacement ++
        replaceFrom sought replacement (before ++ [codeUnit]) (sought.length - 1) rest
    else codeUnit :: replaceFrom sought replacement (before ++ [codeUnit]) 0 rest

@[simp] theorem replaceFrom_nil (sought replacement before : JsString) (skipped : Nat) :
    replaceFrom sought replacement before skipped [] = [] := by
  cases skipped <;> rfl

theorem replaceFrom_skipped (sought replacement before rest : JsString) (skipped : Nat)
    (codeUnit : CodeUnit) :
    replaceFrom sought replacement before (skipped + 1) (codeUnit :: rest) =
      replaceFrom sought replacement (before ++ [codeUnit]) skipped rest :=
  rfl

theorem replaceFrom_here (sought replacement before rest : JsString) (codeUnit : CodeUnit) :
    replaceFrom sought replacement before 0 (codeUnit :: rest) =
      if sought.isPrefixOf (codeUnit :: rest) then
        expandReplacement before sought ((codeUnit :: rest).drop sought.length) replacement ++
          replaceFrom sought replacement (before ++ [codeUnit]) (sought.length - 1) rest
      else codeUnit :: replaceFrom sought replacement (before ++ [codeUnit]) 0 rest :=
  rfl

def replaceLiteral (sought replacement text : JsString) : JsString :=
  replaceFrom sought replacement [] 0 text

def NoDollar (text : JsString) : Prop := ∀ codeUnit ∈ text, codeUnit ≠ unit '$'

theorem noDollar_of_all {text : JsString}
    (all : (text.all fun codeUnit => codeUnit != unit '$') = true) : NoDollar text := by
  intro codeUnit member
  exact bne_iff_ne.mp (List.all_eq_true.mp all codeUnit member)

theorem expandReplacement_of_noDollar (before matched after : JsString) {replacement : JsString}
    (plain : NoDollar replacement) :
    expandReplacement before matched after replacement = replacement := by
  induction replacement with
  | nil => rfl
  | cons first rest ih =>
    have firstPlain := plain first List.mem_cons_self
    have restPlain : NoDollar rest :=
      fun codeUnit member => plain codeUnit (List.mem_cons_of_mem _ member)
    cases rest with
    | nil => rfl
    | cons second later =>
      rw [expandReplacement, if_neg firstPlain, ih restPlain]

theorem replaceFrom_append {sought replacement plain : JsString} (noDollar : NoDollar plain)
    (dollar : sought.head? = some (unit '$')) (before rest : JsString) :
    replaceFrom sought replacement before 0 (plain ++ rest) =
      plain ++ replaceFrom sought replacement (before ++ plain) 0 rest := by
  induction plain generalizing before with
  | nil => rw [List.append_nil, List.nil_append, List.nil_append]
  | cons first later ih =>
    have elsewhere : sought.isPrefixOf (first :: (later ++ rest)) = false := by
      cases sought with
      | nil => cases dollar
      | cons head tail =>
        rw [List.head?_cons, Option.some.injEq] at dollar
        rw [List.isPrefixOf, dollar,
          beq_false_of_ne (noDollar first List.mem_cons_self).symm, Bool.false_and]
    rw [List.cons_append, replaceFrom_here, elsewhere, ih
      fun codeUnit member => noDollar codeUnit (List.mem_cons_of_mem _ member)]
    rw [List.append_assoc]
    rfl

theorem replaceFrom_skip (sought replacement before skipped rest : JsString) :
    replaceFrom sought replacement before skipped.length (skipped ++ rest) =
      replaceFrom sought replacement (before ++ skipped) 0 rest := by
  induction skipped generalizing before with
  | nil => rw [List.append_nil, List.nil_append, List.length_nil]
  | cons first later ih =>
    rw [List.cons_append, List.length_cons, replaceFrom_skipped, ih,
      List.append_assoc]
    rfl

theorem replaceLiteral_of_noDollar {sought replacement text : JsString} (noDollar : NoDollar text)
    (dollar : sought.head? = some (unit '$')) :
    replaceLiteral sought replacement text = text := by
  have kept := @replaceFrom_append sought replacement text noDollar dollar [] []
  rw [List.append_nil, replaceFrom_nil, List.append_nil] at kept
  exact kept

theorem replaceLiteral_occurrence {sought replacement first last : JsString}
    (plainFirst : NoDollar first) (plainLast : NoDollar last) (plain : NoDollar replacement)
    (dollar : sought.head? = some (unit '$')) :
    replaceLiteral sought replacement (first ++ (sought ++ last)) =
      first ++ (replacement ++ last) := by
  rw [replaceLiteral, replaceFrom_append plainFirst dollar]
  cases sought with
  | nil => cases dollar
  | cons head tail =>
    have here : (head :: tail).isPrefixOf (head :: (tail ++ last)) = true :=
      List.isPrefixOf_iff_prefix.mpr (List.prefix_append (head :: tail) last)
    have passed := replaceFrom_skip (head :: tail) replacement (first ++ [head]) tail last
    have kept := @replaceFrom_append (head :: tail) replacement last plainLast dollar
      (first ++ [head] ++ tail) []
    rw [List.append_nil, replaceFrom_nil, List.append_nil] at kept
    rw [List.cons_append, List.nil_append, replaceFrom_here, if_pos here,
      expandReplacement_of_noDollar _ _ _ plain, List.length_cons, Nat.add_sub_cancel, passed,
      kept]

end GhostArk.Js
