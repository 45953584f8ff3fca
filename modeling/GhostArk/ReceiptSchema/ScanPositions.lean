import GhostArk.ReceiptSchema.StrictJsonAdmission

/-!
Contract: positions of the admission scanner.

Owns that a scan which succeeds counts exactly the units that it steps over, so that its last index
is the length of the text just when no text is left.
-/

namespace GhostArk.ReceiptSchema

open Js

/-- The second cursor stands behind units of the text of the first. -/
def Cursor.Reaches (start ended : Cursor) : Prop :=
  ∃ taken, start.rest = taken ++ ended.rest ∧ ended.index = start.index + taken.length

namespace Cursor

theorem Reaches.refl (cursor : Cursor) : cursor.Reaches cursor := ⟨[], rfl, rfl⟩

theorem Reaches.trans {start middle ended : Cursor} (first : start.Reaches middle)
    (second : middle.Reaches ended) : start.Reaches ended := by
  rcases first with ⟨before, isBefore, atMiddle⟩
  rcases second with ⟨after, isAfter, atEnd⟩
  refine ⟨before ++ after, ?_, ?_⟩
  · rw [isBefore, isAfter, List.append_assoc]
  · rw [atEnd, atMiddle, List.length_append, Nat.add_assoc]

theorem reaches_skipWhile (cursor : Cursor) (test : CodeUnit → Bool) :
    cursor.Reaches (cursor.skipWhile test) :=
  ⟨cursor.rest.takeWhile test, List.takeWhile_append_dropWhile.symm, rfl⟩

variable {cursor : Cursor}

theorem reaches_advance {taken : JsString} (starts : taken.isPrefixOf cursor.rest = true) :
    cursor.Reaches (cursor.advance taken.length) := by
  rcases List.isPrefixOf_iff_prefix.mp starts with ⟨rest, isRest⟩
  refine ⟨taken, ?_, rfl⟩
  rw [← isRest]
  change _ = taken ++ cursor.rest.drop taken.length
  rw [← isRest, List.drop_left]

theorem reaches_advance_one {first : CodeUnit} (isHead : cursor.rest.head? = some first) :
    cursor.Reaches (cursor.advance 1) := by
  rcases List.head?_eq_some_iff.mp isHead with ⟨rest, isRest⟩
  refine ⟨[first], ?_, rfl⟩
  change cursor.rest = [first] ++ cursor.rest.drop 1
  rw [isRest]
  rfl

theorem reaches_of_at {character : Char} (isAt : cursor.at character = true) :
    cursor.Reaches (cursor.advance 1) :=
  reaches_advance_one (of_decide_eq_true isAt)

theorem reaches_of_any {test : CodeUnit → Bool} (holds : cursor.rest.head?.any test = true) :
    cursor.Reaches (cursor.advance 1) := by
  cases isHead : cursor.rest.head? with
  | none =>
    rw [isHead] at holds
    cases holds
  | some first => exact reaches_advance_one isHead

theorem reaches_skipOne (cursor : Cursor) (test : CodeUnit → Bool) :
    cursor.Reaches (cursor.skipOne test) := by
  unfold skipOne
  split
  next holds => exact reaches_of_any holds
  next => exact Reaches.refl cursor

end Cursor

theorem reaches_numberEnd (cursor : Cursor) :
    cursor.Reaches (exponentEnd (fractionEnd (integerEnd cursor))) := by
  have integer : cursor.Reaches (integerEnd cursor) :=
    (cursor.reaches_skipOne isSign).trans (Cursor.reaches_skipWhile _ isDigit)
  have fraction : ∀ middle : Cursor, middle.Reaches (fractionEnd middle) := by
    intro middle
    unfold fractionEnd
    split
    next isPoint => exact (Cursor.reaches_of_at isPoint).trans (Cursor.reaches_skipWhile _ isDigit)
    next => exact Cursor.Reaches.refl middle
  have exponent : ∀ middle : Cursor, middle.Reaches (exponentEnd middle) := by
    intro middle
    unfold exponentEnd
    split
    next isMark =>
      exact (Cursor.reaches_of_any isMark).trans
        ((Cursor.reaches_skipOne _ isSign).trans (Cursor.reaches_skipWhile _ isDigit))
    next => exact Cursor.Reaches.refl middle
  exact integer.trans ((fraction _).trans (exponent _))

theorem reaches_readNumber {path : JsString} {state next : ScanState}
    (scanned : readNumber path state = .ok next) : state.toCursor.Reaches next.toCursor := by
  unfold readNumber at scanned
  dsimp only at scanned
  split at scanned
  next => cases scanned
  next =>
    cases scanned
    exact reaches_numberEnd state.toCursor

theorem reaches_readChars {index : Nat} {decoded text value : JsString} {after : Cursor}
    (scanned : readChars index decoded text = .ok (value, after)) :
    (Cursor.mk index text).Reaches after := by
  have further : ∀ {index : Nat} (taken : JsString) {rest : JsString},
      (Cursor.mk (index + taken.length) rest).Reaches after →
        (Cursor.mk index (taken ++ rest)).Reaches after :=
    fun taken _ reaches => Cursor.Reaches.trans ⟨taken, rfl, rfl⟩ reaches
  fun_induction readChars index decoded text with
  | case1 => cases scanned
  | case2 index decoded rest =>
    cases scanned
    exact ⟨[unit '"'], rfl, rfl⟩
  | case3 => cases scanned
  | case4 index decoded d3 d2 d1 d0 more character isUnit _ ih =>
    exact further [unit '\\', unit 'u', d3, d2, d1, d0] (ih scanned)
  | case5 => cases scanned
  | case6 => cases scanned
  | case7 index decoded letter rest notU character isSimple _ ih =>
    exact further [unit '\\', letter] (ih scanned)
  | case8 => cases scanned
  | case9 index decoded first rest notQuote notEscape ih =>
    exact further [first] (ih scanned)

theorem reaches_readString {cursor after : Cursor} {value : JsString}
    (scanned : readString cursor = .ok (value, after)) : cursor.Reaches after := by
  unfold readString at scanned
  split at scanned
  next isQuote => exact (Cursor.reaches_of_at isQuote).trans (reaches_readChars scanned)
  next => cases scanned

theorem reaches_skipWhitespace (state : ScanState) :
    state.toCursor.Reaches state.skipWhitespace.toCursor :=
  Cursor.reaches_skipWhile _ _

/-! ### The scan -/

/-- With this fuel the scanner counts what it steps over. -/
structure CountsWhatIsScanned (fuel : Nat) : Prop where
  value : ∀ {path : JsString} {state next : ScanState}, readValue fuel path state = .ok next →
    state.toCursor.Reaches next.toCursor
  items : ∀ {path : JsString} {position : Nat} {state next : ScanState},
    readItems fuel path position state = .ok next → state.toCursor.Reaches next.toCursor
  members : ∀ {path : JsString} {seenKeys : List JsString} {state next : ScanState},
    readMembers fuel path seenKeys state = .ok next → state.toCursor.Reaches next.toCursor

section Step

variable {fuel : Nat} (counts : CountsWhatIsScanned fuel)
include counts

variable {path : JsString}

theorem reaches_readValue {state next : ScanState}
    (scanned : readValue (fuel + 1) path state = .ok next) :
    state.toCursor.Reaches next.toCursor := by
  refine (reaches_skipWhitespace state).trans ?_
  rw [readValue] at scanned
  generalize state.skipWhitespace = start at scanned
  dsimp only at scanned
  split at scanned
  next isBrace =>
    refine (Cursor.reaches_of_at isBrace).trans
      ((reaches_skipWhitespace (start.advance 1)).trans ?_)
    split at scanned
    next closes =>
      cases scanned
      exact Cursor.reaches_of_at closes
    next => exact counts.members scanned
  next =>
    split at scanned
    next isBracket =>
      refine (Cursor.reaches_of_at isBracket).trans
        ((reaches_skipWhitespace (start.advance 1)).trans ?_)
      split at scanned
      next closes =>
        cases scanned
        exact Cursor.reaches_of_at closes
      next => exact counts.items scanned
    next =>
      split at scanned
      next =>
        cases isString : readString start.toCursor with
        | error error =>
          rw [isString] at scanned
          cases scanned
        | ok read =>
          rw [isString] at scanned
          cases scanned
          exact reaches_readString isString
      next =>
        split at scanned
        next isTrue =>
          cases scanned
          exact Cursor.reaches_advance isTrue
        next =>
          split at scanned
          next isFalse =>
            cases scanned
            exact Cursor.reaches_advance isFalse
          next =>
            split at scanned
            next isNull =>
              cases scanned
              exact Cursor.reaches_advance isNull
            next => exact reaches_readNumber scanned

theorem reaches_readItems {position : Nat} {state next : ScanState}
    (scanned : readItems (fuel + 1) path position state = .ok next) :
    state.toCursor.Reaches next.toCursor := by
  rw [readItems] at scanned
  rcases bind_eq_ok.mp scanned with ⟨value, isValue, others⟩
  refine (counts.value isValue).trans ((reaches_skipWhitespace value).trans ?_)
  dsimp only at others
  split at others
  next isComma => exact (Cursor.reaches_of_at isComma).trans (counts.items others)
  next =>
    split at others
    next closes =>
      cases others
      exact Cursor.reaches_of_at closes
    next => cases others

theorem reaches_readMembers {seenKeys : List JsString} {state next : ScanState}
    (scanned : readMembers (fuel + 1) path seenKeys state = .ok next) :
    state.toCursor.Reaches next.toCursor := by
  refine (reaches_skipWhitespace state).trans ?_
  rw [readMembers] at scanned
  rcases bind_eq_ok.mp scanned with ⟨⟨key, afterKey⟩, isKey, scanned⟩
  dsimp only at scanned
  refine (reaches_readString isKey).trans ?_
  split at scanned
  next isColon =>
    rcases bind_eq_ok.mp scanned with ⟨value, isValue, others⟩
    have toValue := ((Cursor.reaches_skipWhile afterKey isWhitespace).trans
      (Cursor.reaches_of_at isColon)).trans (counts.value isValue)
    refine toValue.trans ((reaches_skipWhitespace value).trans ?_)
    split at others
    next isComma => exact (Cursor.reaches_of_at isComma).trans (counts.members others)
    next =>
      split at others
      next closes =>
        cases others
        exact Cursor.reaches_of_at closes
      next => cases others
  next => cases scanned

end Step

theorem countsWhatIsScanned (fuel : Nat) : CountsWhatIsScanned fuel := by
  induction fuel with
  | zero => exact ⟨nofun, nofun, nofun⟩
  | succ fuel ih =>
    exact ⟨reaches_readValue ih, reaches_readItems ih,
      reaches_readMembers ih⟩

theorem skipWhitespace_eq_nil_of_scan {fuel : Nat} {path text : JsString} {next : ScanState}
    (scanned : readValue fuel path ⟨⟨0, text⟩, []⟩ = .ok next)
    (atEnd : next.skipWhitespace.index = text.length) : Js.skipWhitespace next.rest = [] := by
  rcases ((countsWhatIsScanned fuel).value scanned).trans (reaches_skipWhitespace next) with
    ⟨taken, isText, isIndex⟩
  dsimp only at isText isIndex
  have isLength := congrArg List.length isText
  rw [List.length_append] at isLength
  refine List.eq_nil_of_length_eq_zero ?_
  change next.skipWhitespace.rest.length = 0
  omega

end GhostArk.ReceiptSchema
