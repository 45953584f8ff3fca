import GhostArk.Js.Text
import Mathlib.Data.List.DropRight

/-!
Contract: regular expressions as the repository uses them.

Owns patterns over code units with greedy runs, optional parts, alternatives and
word boundaries, matching in the order of a backtracking matcher, replacement of
all matches, and trimming: what it leaves, and the replacement of a run of units
by one space.

Patterns here never match the empty text and never end inside a surrogate pair,
so replacement goes on right after a match.
-/

namespace GhostArk.Js

/-- `\s`, and what `trim` removes. -/
def isSpace (codeUnit : CodeUnit) : Bool :=
  [0x09, 0x0A, 0x0B, 0x0C, 0x0D, 0x20, 0xA0, 0x1680, 0x2028, 0x2029, 0x202F, 0x205F, 0x3000,
    0xFEFF].contains codeUnit.val || (0x2000 ≤ codeUnit.val && codeUnit.val ≤ 0x200A)

def trim (text : JsString) : JsString :=
  ((text.dropWhile isSpace).reverse.dropWhile isSpace).reverse

def isWordUnit (codeUnit : CodeUnit) : Bool := isAlphanumeric codeUnit || codeUnit == unit '_'

inductive Pattern where
  /-- One unit of a class. -/
  | one (accepts : CodeUnit → Bool)
  /-- As many units of a class as possible, possibly none. -/
  | many (accepts : CodeUnit → Bool)
  /-- `\b`, for a class of word units. -/
  | boundary (isWord : CodeUnit → Bool)
  | optional (pattern : Pattern)
  | either (first second : Pattern)
  | sequence (first second : Pattern)

/-- A position: the unit before it, and the text after it. -/
structure Position where
  before : Option CodeUnit
  rest : JsString
deriving DecidableEq, Repr

def runEnds (accepts : CodeUnit → Bool) (before : Option CodeUnit) : JsString → List Position
  | [] => [⟨before, []⟩]
  | first :: rest =>
    if accepts first then runEnds accepts (some first) rest ++ [⟨before, first :: rest⟩]
    else [⟨before, first :: rest⟩]

/-- The positions after a match, in the order a backtracking matcher tries them. -/
def Pattern.ends : Pattern → Position → List Position
  | one accepts, position =>
    match position.rest with
    | [] => []
    | first :: rest => if accepts first then [⟨some first, rest⟩] else []
  | many accepts, position => runEnds accepts position.before position.rest
  | boundary isWord, position =>
    if position.before.any isWord = position.rest.head?.any isWord then [] else [position]
  | optional pattern, position => pattern.ends position ++ [position]
  | either first second, position => first.ends position ++ second.ends position
  | sequence first second, position => (first.ends position).flatMap second.ends

namespace Pattern

def many1 (accepts : CodeUnit → Bool) : Pattern := sequence (one accepts) (many accepts)

/-- A class, `count + 1` times. -/
def times (accepts : CodeUnit → Bool) : Nat → Pattern
  | 0 => one accepts
  | count + 1 => sequence (one accepts) (times accepts count)

/-- One unit after the other. -/
def all (first : Pattern) (others : List Pattern) : Pattern := others.foldl sequence first

/-- The text of a word, after `fold` has been applied to the subject. -/
def word (fold : CodeUnit → CodeUnit) (first : Char) (letters : String) : Pattern :=
  all (one fun codeUnit => fold codeUnit == unit first)
    (letters.toList.map fun letter => one fun codeUnit => fold codeUnit == unit letter)

/-- `text.replace(/pattern/g, replacement)`, for at most `fuel` steps. -/
def replaceFrom (pattern : Pattern) (replacement : JsString) : Nat → Position → JsString
  | 0, position => position.rest
  | fuel + 1, position =>
    match (pattern.ends position).head? with
    | some next => replacement ++ replaceFrom pattern replacement fuel next
    | none =>
      match position.rest with
      | [] => []
      | first :: rest => first :: replaceFrom pattern replacement fuel ⟨some first, rest⟩

/-- `text.replace(/pattern/g, replacement)`. -/
def replaceAll (pattern : Pattern) (replacement text : JsString) : JsString :=
  replaceFrom pattern replacement (text.length + 1) ⟨none, text⟩

end Pattern

/-! ### Trimmed texts -/

def isBlank (text : JsString) : Bool := text.all isSpace

/-- No white space at either end. -/
structure IsTrimmed (text : JsString) : Prop where
  first : ∀ codeUnit ∈ text.head?, isSpace codeUnit = false
  last : ∀ codeUnit ∈ text.getLast?, isSpace codeUnit = false

theorem isBlank_append (left right : JsString) :
    isBlank (left ++ right) = (isBlank left && isBlank right) := List.all_append

theorem trim_eq_rdropWhile (text : JsString) :
    trim text = (text.dropWhile isSpace).rdropWhile isSpace := rfl

theorem isTrimmed_trim (text : JsString) : IsTrimmed (trim text) := by
  rw [trim_eq_rdropWhile]
  constructor
  · intro first isFirst
    rcases List.rdropWhile_prefix isSpace (l := text.dropWhile isSpace) with ⟨after, isSplit⟩
    have isHead : (text.dropWhile isSpace).head? = some first := by
      rw [← isSplit, List.head?_append, isFirst, Option.some_or]
    have visible := List.head?_dropWhile_not isSpace text
    rw [isHead] at visible
    exact visible
  · intro last isLast
    rcases List.getLast?_eq_some_iff.mp isLast with ⟨before, isSplit⟩
    have nonempty : (text.dropWhile isSpace).rdropWhile isSpace ≠ [] := by
      rw [isSplit]
      exact List.append_ne_nil_of_right_ne_nil _ (List.cons_ne_nil _ _)
    have visible := List.rdropWhile_last_not isSpace _ nonempty
    rw [List.getLast?_eq_some_getLast nonempty, Option.mem_some] at isLast
    rw [isLast] at visible
    exact Bool.eq_false_iff.mpr visible

theorem exists_trim_split (text : JsString) :
    ∃ before after, text = before ++ trim text ++ after ∧ isBlank before = true ∧
      isBlank after = true := by
  refine ⟨text.takeWhile isSpace, (text.dropWhile isSpace).rtakeWhile isSpace, ?_, ?_, ?_⟩
  · rw [trim_eq_rdropWhile, List.append_assoc, List.rdropWhile_append_rtakeWhile,
      List.takeWhile_append_dropWhile]
  · exact List.all_takeWhile
  · rw [isBlank, List.all_eq_true]
    intro codeUnit member
    exact List.mem_rtakeWhile_imp member

theorem trim_of_split {before middle after : JsString} (beforeBlank : isBlank before = true)
    (afterBlank : isBlank after = true) (trimmed : IsTrimmed middle) :
    trim (before ++ middle ++ after) = middle := by
  have beforeAll := List.all_eq_true.mp beforeBlank
  have afterAll := List.all_eq_true.mp afterBlank
  have backwards : ∀ codeUnit ∈ after.reverse, isSpace codeUnit = true :=
    fun codeUnit member => afterAll codeUnit (List.mem_reverse.mp member)
  rw [trim, List.append_assoc, List.dropWhile_append_of_pos beforeAll]
  cases middle with
  | nil =>
    rw [List.nil_append, List.dropWhile_eq_nil_iff.mpr afterAll]
    rfl
  | cons first rest =>
    have visible := trimmed.first first rfl
    rw [List.cons_append, List.dropWhile_cons_of_neg (by simp [visible]), ← List.cons_append,
      List.reverse_append, List.dropWhile_append_of_pos backwards]
    have isSelf : (first :: rest).reverse.dropWhile isSpace = (first :: rest).reverse := by
      cases isReversed : (first :: rest).reverse with
      | nil => rfl
      | cons last others =>
        have isLast : (first :: rest).getLast? = some last := by
          rw [List.getLast?_eq_head?_reverse, isReversed, List.head?_cons]
        exact List.dropWhile_cons_of_neg (by simp [trimmed.last last isLast])
    rw [isSelf, List.reverse_reverse]

theorem trim_between {before after : JsString} (text : JsString)
    (beforeBlank : isBlank before = true) (afterBlank : isBlank after = true) :
    trim (before ++ text ++ after) = trim text := by
  rcases exists_trim_split text with ⟨front, back, isSplit, frontBlank, backBlank⟩
  have regrouped : before ++ text ++ after =
      (before ++ front) ++ trim text ++ (back ++ after) := by
    conv_lhs => rw [isSplit]
    simp only [List.append_assoc]
  rw [regrouped]
  exact trim_of_split (by rw [isBlank_append, beforeBlank, frontBlank]; rfl)
    (by rw [isBlank_append, backBlank, afterBlank]; rfl) (isTrimmed_trim text)

theorem mem_trim {before after : JsString} (codeUnit : CodeUnit) (notBefore : isBlank before = false)
    (notAfter : isBlank after = false) : codeUnit ∈ trim (before ++ codeUnit :: after) := by
  rcases exists_trim_split (before ++ codeUnit :: after) with
    ⟨front, back, isSplit, frontBlank, backBlank⟩
  rcases List.append_eq_append_iff.mp (isSplit.trans (List.append_assoc _ _ _)) with
    ⟨late, isFront, -⟩ | ⟨inner, isBefore, isRest⟩
  · rw [isFront, isBlank_append, notBefore, Bool.false_and] at frontBlank
    cases frontBlank
  · have afterVisible : ∀ late, back = late ++ codeUnit :: after → False := by
      intro late isBack
      rw [isBack, isBlank_append, isBlank, isBlank, List.all_cons] at backBlank
      simp only [Bool.and_eq_true] at backBlank
      exact Bool.false_ne_true (notAfter.symm.trans backBlank.2.2)
    rcases List.append_eq_append_iff.mp isRest with ⟨late, -, isBack⟩ | ⟨within, isTrim, isRest⟩
    · exact (afterVisible late isBack).elim
    · cases within with
      | nil => exact (afterVisible [] isRest.symm).elim
      | cons first others =>
        rw [isTrim, (List.cons.inj isRest).1]
        exact List.mem_append_right _ List.mem_cons_self

theorem exists_split_of_mem_trim {text : JsString} {codeUnit : CodeUnit}
    (space : isSpace codeUnit = true) (member : codeUnit ∈ trim text) :
    ∃ before after, text = before ++ codeUnit :: after ∧ isBlank before = false ∧
      isBlank after = false := by
  have trimmed := isTrimmed_trim text
  rcases exists_trim_split text with ⟨front, back, isSplit, -, -⟩
  rcases List.append_of_mem member with ⟨left, right, isTrim⟩
  rw [isTrim] at trimmed
  refine ⟨front ++ left, right ++ back, ?_, ?_, ?_⟩
  · conv_lhs => rw [isSplit, isTrim]
    simp only [List.append_assoc, List.cons_append]
  · cases left with
    | nil => exact absurd space (Bool.eq_false_iff.mp (trimmed.first codeUnit rfl))
    | cons first others =>
      rw [isBlank_append, isBlank, isBlank, List.all_cons, trimmed.first first rfl]
      simp
  · rcases List.eq_nil_or_concat right with rfl | ⟨others, last, rfl⟩
    · exact absurd space (Bool.eq_false_iff.mp (trimmed.last codeUnit (by simp)))
    · have isLast : (left ++ codeUnit :: others.concat last).getLast? = some last := by
        rw [List.concat_eq_append, ← List.cons_append, ← List.append_assoc, List.getLast?_concat]
      have visible := trimmed.last last isLast
      rw [isBlank_append, isBlank, List.concat_eq_append, List.all_append, List.all_cons, visible]
      simp

section Runs

variable (separates : CodeUnit → Bool)

/-- The text with every run of separators as one space, from the right. -/
def pushSpaced (codeUnit : CodeUnit) (spaced : JsString) : JsString :=
  if separates codeUnit then
    if spaced.head? = some (unit ' ') then spaced else unit ' ' :: spaced
  else codeUnit :: spaced

def spaceRuns (text : JsString) : JsString := text.foldr (pushSpaced separates) []

theorem spaceRuns_append (left right : JsString) :
    spaceRuns separates (left ++ right) =
      left.foldr (pushSpaced separates) (spaceRuns separates right) := List.foldr_append

theorem spaceRuns_cons (codeUnit : CodeUnit) (rest : JsString) :
    spaceRuns separates (codeUnit :: rest) =
      pushSpaced separates codeUnit (spaceRuns separates rest) := rfl

variable {separates}

theorem pushSpaced_pushSpaced {first second : CodeUnit} (firstSeparates : separates first = true)
    (secondSeparates : separates second = true) (rest : JsString) :
    pushSpaced separates first (pushSpaced separates second rest) =
      pushSpaced separates second rest := by
  rw [pushSpaced, if_pos firstSeparates, pushSpaced, if_pos secondSeparates]
  by_cases starts : rest.head? = some (unit ' ')
  · rw [if_pos starts, if_pos starts]
  · rw [if_neg starts, List.head?_cons, if_pos rfl]

theorem runEnds_head? (before : Option CodeUnit) (text : JsString) :
    ∃ last, (runEnds separates before text).head? = some ⟨last, text.dropWhile separates⟩ := by
  induction text generalizing before with
  | nil => exact ⟨before, rfl⟩
  | cons first rest ih =>
    by_cases inRun : separates first = true
    · rcases ih (some first) with ⟨last, isHead⟩
      refine ⟨last, ?_⟩
      rw [runEnds, if_pos inRun, List.head?_append, isHead, List.dropWhile_cons_of_pos inRun,
        Option.some_or]
    · rw [runEnds, if_neg inRun, List.dropWhile_cons_of_neg inRun]
      exact ⟨before, rfl⟩

theorem pushSpaced_run (space : separates (unit ' ') = true) {codeUnit : CodeUnit}
    (inRun : separates codeUnit = true) (rest : JsString) :
    pushSpaced separates codeUnit (spaceRuns separates rest) =
      unit ' ' :: spaceRuns separates (rest.dropWhile separates) := by
  induction rest generalizing codeUnit with
  | nil => exact if_pos inRun
  | cons first others ih =>
    rw [spaceRuns_cons]
    by_cases firstInRun : separates first = true
    · rw [pushSpaced_pushSpaced inRun firstInRun, ih firstInRun,
        List.dropWhile_cons_of_pos firstInRun]
    · have visible : first ≠ unit ' ' := fun isSpace => firstInRun (isSpace ▸ space)
      rw [List.dropWhile_cons_of_neg firstInRun, spaceRuns_cons, pushSpaced, if_pos inRun,
        pushSpaced, if_neg firstInRun, List.head?_cons, if_neg (mt Option.some.inj visible)]

theorem pushSpaced_eq {first second : CodeUnit} (firstSeparates : separates first = true)
    (secondSeparates : separates second = true) (rest : JsString) :
    pushSpaced separates first rest = pushSpaced separates second rest := by
  rw [pushSpaced, if_pos firstSeparates, pushSpaced, if_pos secondSeparates]

theorem spaceRuns_spaceRuns {fine : CodeUnit → Bool} (space : fine (unit ' ') = true)
    (finer : ∀ codeUnit, fine codeUnit = true → separates codeUnit = true) (text : JsString) :
    spaceRuns fine (spaceRuns separates text) = spaceRuns separates text := by
  induction text with
  | nil => rfl
  | cons first rest ih =>
    rw [spaceRuns_cons, pushSpaced]
    split
    next =>
      split
      next => exact ih
      next noSpace =>
        rw [spaceRuns_cons, ih, pushSpaced, if_pos space, if_neg noSpace]
    next visible =>
      rw [spaceRuns_cons, ih, pushSpaced, if_neg (mt (finer first) visible)]

theorem exists_spaceRuns_append_left {before : JsString} (rest : JsString)
    (inRun : ∀ codeUnit ∈ before, separates codeUnit = true) :
    ∃ blank, isBlank blank = true ∧
      spaceRuns separates (before ++ rest) = blank ++ spaceRuns separates rest := by
  induction before with
  | nil => exact ⟨[], rfl, rfl⟩
  | cons first others ih =>
    rw [List.forall_mem_cons] at inRun
    rcases ih inRun.2 with ⟨blank, areSpaces, isSplit⟩
    rw [List.cons_append, spaceRuns_cons, isSplit, pushSpaced, if_pos inRun.1]
    split
    next => exact ⟨blank, areSpaces, rfl⟩
    next => exact ⟨unit ' ' :: blank, areSpaces, rfl⟩

theorem exists_spaceRuns_append_right (text : JsString) {after : JsString}
    (inRun : ∀ codeUnit ∈ after, separates codeUnit = true) :
    ∃ blank, isBlank blank = true ∧
      spaceRuns separates (text ++ after) = spaceRuns separates text ++ blank := by
  induction text with
  | nil =>
    rcases exists_spaceRuns_append_left [] inRun with ⟨blank, areSpaces, isSplit⟩
    rw [List.append_nil] at isSplit
    exact ⟨blank, areSpaces, isSplit.trans (List.append_nil blank)⟩
  | cons first others ih =>
    rcases ih with ⟨blank, areSpaces, isSplit⟩
    rw [List.cons_append, spaceRuns_cons, isSplit, spaceRuns_cons, pushSpaced, pushSpaced]
    by_cases firstInRun : separates first = true
    · rw [if_pos firstInRun, if_pos firstInRun]
      cases spaceRuns separates others with
      | cons head tail =>
        rw [List.cons_append, List.head?_cons, List.head?_cons]
        split
        next => exact ⟨blank, areSpaces, rfl⟩
        next => exact ⟨blank, areSpaces, rfl⟩
      | nil =>
        cases blank with
        | nil => exact ⟨[], rfl, rfl⟩
        | cons head tail =>
          rw [List.nil_append, List.head?_cons]
          split
          next isSpace =>
            rw [isBlank, List.all_cons, Bool.and_eq_true] at areSpaces
            exact ⟨tail, areSpaces.2, by rw [Option.some.inj isSpace]; rfl⟩
          next => exact ⟨head :: tail, areSpaces, rfl⟩
    · rw [if_neg firstInRun, if_neg firstInRun]
      exact ⟨blank, areSpaces, rfl⟩

theorem trim_spaceRuns_between {before after : JsString} (text : JsString)
    (beforeInRun : ∀ codeUnit ∈ before, separates codeUnit = true)
    (afterInRun : ∀ codeUnit ∈ after, separates codeUnit = true) :
    trim (spaceRuns separates (before ++ text ++ after)) = trim (spaceRuns separates text) := by
  rw [List.append_assoc]
  rcases exists_spaceRuns_append_left (text ++ after) beforeInRun with ⟨front, frontBlank, isFront⟩
  rcases exists_spaceRuns_append_right text afterInRun with ⟨back, backBlank, isBack⟩
  rw [isFront, isBack, ← List.append_assoc]
  exact trim_between _ frontBlank backBlank

/-- `text.replace(/[...]+/g, " ")`, for a class that the space is in. -/
theorem replaceAll_many1 (space : separates (unit ' ') = true) (text : JsString) :
    (Pattern.many1 separates).replaceAll (js " ") text = spaceRuns separates text := by
  have stepwise : ∀ (fuel : Nat) (before : Option CodeUnit) (rest : JsString),
      rest.length < fuel →
      (Pattern.many1 separates).replaceFrom (js " ") fuel ⟨before, rest⟩ =
        spaceRuns separates rest := by
    intro fuel
    induction fuel with
    | zero => exact fun _ _ short => absurd short (Nat.not_lt_zero _)
    | succ fuel ih =>
      intro before rest short
      cases rest with
      | nil => rfl
      | cons first others =>
        rw [List.length_cons] at short
        by_cases inRun : separates first = true
        · rcases @runEnds_head? separates (some first) others with ⟨last, isHead⟩
          have ends : ((Pattern.many1 separates).ends ⟨before, first :: others⟩).head? =
              some ⟨last, others.dropWhile separates⟩ := by
            simp only [Pattern.many1, Pattern.ends, if_pos inRun, List.flatMap_cons,
              List.flatMap_nil, List.append_nil, isHead]
          have shorter := List.length_dropWhile_le separates others
          rw [Pattern.replaceFrom, ends, spaceRuns_cons, pushSpaced_run space inRun]
          exact congrArg (unit ' ' :: ·) (ih last _ (by omega))
        · have ends : ((Pattern.many1 separates).ends ⟨before, first :: others⟩).head? =
              none := by
            simp only [Pattern.many1, Pattern.ends, if_neg inRun, List.flatMap_nil,
              List.head?_nil]
          rw [Pattern.replaceFrom, ends, spaceRuns_cons, pushSpaced, if_neg inRun]
          exact congrArg (first :: ·) (ih (some first) others (by omega))
  exact stepwise (text.length + 1) none text (Nat.lt_succ_self _)

end Runs

end GhostArk.Js
