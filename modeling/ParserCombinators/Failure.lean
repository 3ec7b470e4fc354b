import ParserCombinators.Cursor

/-!
# Failures

A failure says that the input does not match, where that was noticed, and why.  The causes that
the library itself reports are the constructors of `Mismatch`, with their wording in one place;
rules written by hand bring messages of their own.

When several alternatives fail, `Failure.join` reports all their messages in order, at the place
that got furthest.  Ties go to the earlier failure, and the place where the alternatives started
wins over any failure that does not lie behind it.
-/

namespace ParserCombinators

/-- Why a parser of this library does not match. -/
inductive Mismatch where
  /-- A character is needed and none is left. -/
  | endOfInput
  /-- Another character than the one asked for. -/
  | otherChar (expected found : Char)
  /-- A character outside the wanted class. -/
  | rejectedChar (found : Char)
  /-- The input ends inside a literal. -/
  | literalCutShort (expected : Text)
  /-- The input differs from a literal of the same length. -/
  | otherText (expected found : Text)
  /-- A scan that does not even accept the empty text. -/
  | nothingMatched
  /-- Input remains where it should have ended. -/
  | inputLeft
  /-- A value that was read but is not wanted. -/
  | rejectedValue
  /-- A choice between no alternatives. -/
  | noAlternatives
  /-- A delimiter that does not occur. -/
  | missingDelimiter (delimiter : Text)
  /-- The end of a region was not found. -/
  | missingLimit
  /-- A number too large for the integer type. -/
  | numberTooLarge (digits : Text)
  deriving DecidableEq, Repr

/-- The wording of a mismatch. -/
def Mismatch.message : Mismatch → String
  | .endOfInput => "end of input"
  | .otherChar expected found => s!"expected '{expected}' but found '{found}'"
  | .rejectedChar found => s!"'{found}' does not satisfy condition"
  | .literalCutShort expected => s!"end of input while expecting '{String.ofList expected}'"
  | .otherText expected found =>
      s!"'{String.ofList expected}' not matching '{String.ofList found}'"
  | .nothingMatched => "nothing matched"
  | .inputLeft => "expected end of input"
  | .rejectedValue => "predicate not satisfied"
  | .noAlternatives => "no alternatives"
  | .missingDelimiter delimiter => s!"'{String.ofList delimiter}' not found"
  | .missingLimit => "limit parser not satisfied"
  | .numberTooLarge digits =>
      s!"invalid integer '{String.ofList digits}': number too large to fit in target type"

/-- Where matching failed, and the report of why. -/
structure Failure where
  cursor : Cursor
  message : String
  deriving DecidableEq, Repr

namespace Failure

/-- The failure that lies further into the input; the first of two at the same offset. -/
def furthest (kept other : Failure) : Failure :=
  if kept.cursor.position.offset < other.cursor.position.offset then other else kept

/-- The failure of several alternatives, all tried from `start`. -/
def join (start : Cursor) (failures : List Failure) : Failure where
  cursor := (failures.foldl furthest ⟨start, ""⟩).cursor
  message := " AND ".intercalate (failures.map message)

theorem foldl_furthest_mem (kept : Failure) (failures : List Failure) :
    failures.foldl furthest kept ∈ kept :: failures := by
  induction failures generalizing kept with
  | nil => exact List.mem_singleton_self kept
  | cons failure rest ih =>
      rcases List.mem_cons.mp (ih (kept.furthest failure)) with h | h
      · rw [List.foldl_cons, h]
        unfold furthest
        split <;> simp
      · exact List.mem_cons_of_mem _ (List.mem_cons_of_mem _ h)

/-- The joined failure points to where the alternatives started or to where one of them failed. -/
theorem cursor_join (start : Cursor) (failures : List Failure) :
    (join start failures).cursor = start ∨
      ∃ failure ∈ failures, (join start failures).cursor = failure.cursor := by
  rcases List.mem_cons.mp (foldl_furthest_mem ⟨start, ""⟩ failures) with h | h
  · exact .inl (congrArg Failure.cursor h)
  · exact .inr ⟨_, h, rfl⟩

end Failure

end ParserCombinators
