import ParserCombinators.CharClass.Basic
import ParserCombinators.Parser.Basic

/-!
# Single characters

These parsers look at the next character alone, consume it or fail where they stand.
-/

namespace ParserCombinators.Parser

/-- Reads the character `expected`. -/
def char (expected : Char) : Parser Char := fun cursor =>
  match cursor.peek with
  | none => .mismatch cursor .endOfInput
  | some found =>
      if found = expected then .afterMove (cursor.stepOver found) fun rest => .matched found rest
      else .mismatch cursor (.otherChar expected found)

/-- Reads one character of the class `wanted`. -/
def satisfy (wanted : Char → Bool) : Parser Char := fun cursor =>
  match cursor.peek with
  | none => .mismatch cursor .endOfInput
  | some found =>
      if wanted found then .afterMove (cursor.stepOver found) fun rest => .matched found rest
      else .mismatch cursor (.rejectedChar found)

/-- Reads one character outside the class `unwanted`. -/
def satisfyNot (unwanted : Char → Bool) : Parser Char := satisfy fun c => !unwanted c

/-- Reads any one character. -/
def anyChar : Parser Char := satisfy fun _ => true

/-- Reads one letter or digit of any script. -/
def letterOrDigit : Parser Char := satisfy CharClass.isLetterOrDigit

/-- Reads the character `expected`, as a text of one character. -/
def charText (expected : Char) : Parser Text := (char expected).map fun c => [c]

/-- Matches where no input is left. -/
def endOfInput : Parser Unit := fun cursor =>
  if cursor.atEnd then .matched () cursor else .mismatch cursor .inputLeft

theorem endOfInput_eq_matched_iff {cursor rest : Cursor} {value : Unit} :
    endOfInput cursor = .matched value rest ↔ cursor.remaining = [] ∧ rest = cursor := by
  unfold endOfInput
  by_cases hend : cursor.remaining = []
  · simp [Cursor.atEnd, hend, eq_comm]
  · simp [Cursor.atEnd, hend, Reply.mismatch]

theorem char_of_peek {expected : Char} {cursor : Cursor} (h : cursor.peek = some expected) :
    char expected cursor = .matched expected (cursor.past [expected]) := by
  simp [char, h, Cursor.stepOver_eq_past h]

theorem char_eq_matched_iff {expected value : Char} {cursor rest : Cursor} :
    char expected cursor = .matched value rest ↔
      cursor.peek = some expected ∧ value = expected ∧ rest = cursor.past [expected] := by
  constructor
  · intro h
    by_cases hpeek : cursor.peek = some expected
    · rw [char_of_peek hpeek, Reply.matched.injEq] at h
      exact ⟨hpeek, h.1.symm, h.2.symm⟩
    · unfold char at h
      split at h
      · simp [Reply.mismatch] at h
      · next found hfound =>
          have hne : found ≠ expected := by
            rintro rfl
            exact hpeek hfound
          simp [hne, Reply.mismatch] at h
  · intro h
    rcases h with ⟨hpeek, rfl, rfl⟩
    exact char_of_peek hpeek

/-- Another character than the one asked for is left where it is. -/
theorem char_of_other {expected found : Char} {cursor : Cursor} (h : cursor.peek = some found)
    (hne : found ≠ expected) :
    char expected cursor = .mismatch cursor (.otherChar expected found) := by
  simp [char, h, hne]

theorem satisfy_of_peek {wanted : Char → Bool} {found : Char} {cursor : Cursor}
    (h : cursor.peek = some found) (hwanted : wanted found = true) :
    satisfy wanted cursor = .matched found (cursor.past [found]) := by
  simp [satisfy, h, hwanted, Cursor.stepOver_eq_past h]

theorem satisfy_of_other {wanted : Char → Bool} {found : Char} {cursor : Cursor}
    (h : cursor.peek = some found) (hwanted : wanted found = false) :
    satisfy wanted cursor = .mismatch cursor (.rejectedChar found) := by
  simp [satisfy, h, hwanted]

theorem satisfy_eq_matched_iff {wanted : Char → Bool} {value : Char} {cursor rest : Cursor} :
    satisfy wanted cursor = .matched value rest ↔
      cursor.peek = some value ∧ wanted value = true ∧ rest = cursor.past [value] := by
  constructor
  · intro h
    cases hpeek : cursor.peek with
    | none => simp [satisfy, hpeek, Reply.mismatch] at h
    | some found =>
        cases hwanted : wanted found with
        | false => simp [satisfy_of_other hpeek hwanted, Reply.mismatch] at h
        | true =>
            rw [satisfy_of_peek hpeek hwanted, Reply.matched.injEq] at h
            obtain ⟨rfl, rfl⟩ := h
            exact ⟨rfl, hwanted, rfl⟩
  · intro h
    rcases h with ⟨hpeek, hwanted, rfl⟩
    exact satisfy_of_peek hpeek hwanted

end ParserCombinators.Parser
