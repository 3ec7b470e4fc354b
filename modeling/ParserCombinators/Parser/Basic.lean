import ParserCombinators.Reply

/-!
# Parsers and their sequencing

A parser is a function from cursors to replies, so a rule can also be written by hand.  In a
sequence each part starts where the one before it stopped, and the failure of a part is the
failure of the sequence.
-/

namespace ParserCombinators

/-- Reads a value at a cursor. -/
abbrev Parser (α : Type) := Cursor → Reply α

namespace Parser

variable {α β γ : Type}

/-- Runs a parser at the start of a text. -/
def parse (p : Parser α) (text : Text) : Reply α := p (.ofText text)

/-- What a parser shows of itself, which is nothing about what it reads. -/
def describe (_ : Parser α) : String := "BoxedParser \x7b .. \x7d"

/-- Changes the value that a parser reads. -/
protected def map (p : Parser α) (f : α → β) : Parser β := fun cursor => (p cursor).map f

/-- Lets the value that was read decide how to go on. -/
protected def bind (p : Parser α) (next : α → Parser β) : Parser β := fun cursor =>
  (p cursor).andThen next

/-- Fails, without having moved, on values outside `wanted`. -/
protected def filter (p : Parser α) (wanted : α → Bool) : Parser α := fun cursor =>
  (p cursor).andThen fun value rest =>
    if wanted value then .matched value rest else .mismatch cursor .rejectedValue

/-- Reads two values in sequence. -/
def pair (first : Parser α) (second : Parser β) : Parser (α × β) := fun cursor =>
  (first cursor).andThen fun left middle =>
    (second middle).andThen fun right rest => .matched (left, right) rest

/-- Reads two values in sequence and keeps the first. -/
def keepLeft (first : Parser α) (second : Parser β) : Parser α := (first.pair second).map Prod.fst

/-- Reads two values in sequence and keeps the second. -/
def keepRight (first : Parser α) (second : Parser β) : Parser β := (first.pair second).map Prod.snd

theorem keepLeft_eq (first : Parser α) (second : Parser β) (cursor : Cursor) :
    first.keepLeft second cursor =
      (first cursor).andThen fun value middle => (second middle).map fun _ => value := by
  simp only [keepLeft, pair, Parser.map, Reply.map_andThen]
  rfl

theorem keepRight_eq (first : Parser α) (second : Parser β) (cursor : Cursor) :
    first.keepRight second cursor = (first cursor).andThen fun _ middle => second middle := by
  simp only [keepRight, pair, Parser.map, Reply.map_andThen, Reply.map_matched]
  apply Reply.andThen_congr
  intro _ middle _
  cases second middle <;> rfl

/-- Reads three values in sequence: an opening, a body and a closing. -/
def between (opening : Parser α) (body : Parser β) (closing : Parser γ) : Parser (α × β × γ) :=
  fun cursor =>
    (opening cursor).andThen fun left inside =>
      (body inside).andThen fun middle behind =>
        (closing behind).andThen fun right rest => .matched (left, middle, right) rest

theorem between_eq_matched_iff {opening : Parser α} {body : Parser β} {closing : Parser γ}
    {cursor rest : Cursor} {left : α} {middle : β} {right : γ} :
    between opening body closing cursor = .matched (left, middle, right) rest ↔
      ∃ inside behind, opening cursor = .matched left inside ∧
        body inside = .matched middle behind ∧ closing behind = .matched right rest := by
  constructor
  · intro h
    obtain ⟨left, inside, hopening, h⟩ := Reply.andThen_eq_matched_iff.mp h
    obtain ⟨middle, behind, hbody, h⟩ := Reply.andThen_eq_matched_iff.mp h
    obtain ⟨right, rest, hclosing, h⟩ := Reply.andThen_eq_matched_iff.mp h
    cases h
    exact ⟨inside, behind, hopening, hbody, hclosing⟩
  · intro h
    rcases h with ⟨inside, behind, hopening, hbody, hclosing⟩
    simp [between, hopening, hbody, hclosing]

end Parser

end ParserCombinators
