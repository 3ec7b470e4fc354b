import ParserCombinators.Text.Basic

/-!
# Positions in the input

A position counts characters from zero three ways: since the start of the input, lines, and
characters since the start of the line.  Only a line feed starts a new line.
-/

namespace ParserCombinators

/-- Where a character stands: how many come before it in the whole input, in lines, and in its own
line. -/
structure Position where
  offset : Nat := 0
  line : Nat := 0
  column : Nat := 0
  deriving DecidableEq, Repr, Inhabited

namespace Position

/-- The position of the first character of an input. -/
def start : Position := {}

/-- The position behind one character. -/
def after (position : Position) (c : Char) : Position :=
  if c = '\n' then ⟨position.offset + 1, position.line + 1, 0⟩
  else ⟨position.offset + 1, position.line, position.column + 1⟩

/-- The position behind a whole text. -/
def afterText (position : Position) (text : Text) : Position :=
  text.foldl after position

@[simp] theorem afterText_nil (position : Position) : position.afterText [] = position := rfl

@[simp] theorem afterText_cons (position : Position) (c : Char) (rest : Text) :
    position.afterText (c :: rest) = (position.after c).afterText rest := rfl

theorem afterText_append (position : Position) (front back : Text) :
    position.afterText (front ++ back) = (position.afterText front).afterText back :=
  List.foldl_append

@[simp] theorem offset_after (position : Position) (c : Char) :
    (position.after c).offset = position.offset + 1 := by
  unfold after
  split <;> rfl

@[simp] theorem offset_afterText (position : Position) (text : Text) :
    (position.afterText text).offset = position.offset + text.length := by
  induction text generalizing position with
  | nil => simp
  | cons c rest ih => simp [ih, Nat.add_comm, Nat.add_left_comm]

/-- Line and column, as they are written in error messages. -/
def render (position : Position) : String :=
  s!"{position.line}:{position.column}"

end Position

end ParserCombinators
