import GhostArk.Js.Pattern

/-!
Contract: `toLowerCase`.

Owns lower case as a parameter with what the repository's patterns see of it: ASCII texts
are mapped letter by letter, a text whose lower case is ASCII has only ASCII letters
and the Kelvin sign, and no letter is lowered by what stands past a line break, a space
or the white space at an end of the text.
-/

namespace GhostArk.Js

def isAscii (codeUnit : CodeUnit) : Bool := codeUnit.val < 128

/-- Lower case of a code unit whose lower case is in ASCII. -/
def asciiLower (codeUnit : CodeUnit) : CodeUnit :=
  if inRange 'A' 'Z' codeUnit then codeUnit + 32
  else if codeUnit.val = 0x212A then unit 'k'
  else codeUnit

structure LetterCase where
  toLowerCase : JsString → JsString
  of_ascii : ∀ text, text.all isAscii = true → toLowerCase text = text.map asciiLower
  of_ascii_lower : ∀ text, (toLowerCase text).all isAscii = true →
    toLowerCase text = text.map asciiLower

/-- Lower case of texts without other letters. -/
def asciiCase : LetterCase where
  toLowerCase := fun text => text.map asciiLower
  of_ascii := fun _ _ => rfl
  of_ascii_lower := fun _ _ => rfl

/-- White space has no lower case. Only a final sigma looks at its neighbours, and it does not
look past a line break or a space, nor for a letter in white space. -/
structure KeepsSpace (toLowerCase : JsString → JsString) : Prop where
  of_ascii : ∀ text, text.all isAscii = true → toLowerCase text = text.map asciiLower
  at_break : ∀ (before : JsString) (codeUnit : CodeUnit) (after : JsString),
    codeUnit.val ∈ [0x0A, 0x0D, 0x20] →
      toLowerCase (before ++ codeUnit :: after) =
        toLowerCase before ++ codeUnit :: toLowerCase after
  at_ends : ∀ before text after : JsString, isBlank before = true → isBlank after = true →
    toLowerCase (before ++ text ++ after) = before ++ toLowerCase text ++ after

theorem KeepsSpace.nil {toLowerCase : JsString → JsString} (keeps : KeepsSpace toLowerCase) :
    toLowerCase [] = [] := keeps.of_ascii [] rfl

theorem isSpace_of_upper {codeUnit : CodeUnit} (upper : inRange 'A' 'Z' codeUnit = true) :
    isSpace codeUnit = false := by
  have letters : 'A'.toNat = 0x41 ∧ 'Z'.toNat = 0x5A := by decide
  rw [inRange, letters.1, letters.2, Bool.and_eq_true, decide_eq_true_eq, decide_eq_true_eq]
    at upper
  rw [isSpace, Bool.or_eq_false_iff, Bool.and_eq_false_iff, decide_eq_false_iff_not,
    decide_eq_false_iff_not, List.contains_eq_mem, decide_eq_false_iff_not]
  simp only [List.mem_cons, List.not_mem_nil, or_false]
  omega

theorem keepsSpace_map {lower : CodeUnit → CodeUnit}
    (ofAscii : ∀ codeUnit, isAscii codeUnit = true → lower codeUnit = asciiLower codeUnit)
    (ofSpace : ∀ codeUnit, isSpace codeUnit = true → lower codeUnit = codeUnit) :
    KeepsSpace (List.map lower) := by
  have ofBlank : ∀ {blank : JsString}, isBlank blank = true → blank.map lower = blank := by
    intro blank areSpaces
    have fixed : blank.map lower = blank.map id := List.map_congr_left fun codeUnit member =>
      ofSpace codeUnit (List.all_eq_true.mp areSpaces codeUnit member)
    rw [fixed, List.map_id]
  refine ⟨fun text ascii => ?_, fun before codeUnit after isBreak => ?_,
    fun before text after beforeBlank afterBlank => ?_⟩
  · exact List.map_congr_left fun codeUnit member =>
      ofAscii codeUnit (List.all_eq_true.mp ascii codeUnit member)
  · have space : isSpace codeUnit = true := by
      rw [isSpace, Bool.or_eq_true, List.contains_iff_mem]
      simp only [List.mem_cons, List.not_mem_nil, or_false] at isBreak ⊢
      omega
    rw [List.map_append, List.map_cons, ofSpace codeUnit space]
  · rw [List.map_append, List.map_append, ofBlank beforeBlank, ofBlank afterBlank]

end GhostArk.Js
