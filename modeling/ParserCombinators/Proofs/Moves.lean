import Mathlib.Data.List.DropRight
import ParserCombinators.Cursor

/-!
# Ways to move forward

A cursor moves by a count of characters, over one character, or over a text.  The three look at the
input in different ways: the first searches for the byte at which the count is reached, the other two
take the length of what they are given.

All of them lead to the same places.  A sequence of moves that are each possible where they are made
leads to where its total count leads (`moveAll_eq_past`), and what remains there and its position have
a closed form in the characters passed (`CountedTo`).  A move that is not possible is a fault.
-/

namespace ParserCombinators

/-! ## Positions in closed form -/

/-- What stands behind the last line feed of a text, all of it if there is none. -/
def Text.lastLine (text : Text) : Text := text.rtakeWhile fun c => c != '\n'

namespace Position

theorem line_afterText (position : Position) (text : Text) :
    (position.afterText text).line = position.line + text.count '\n' := by
  induction text generalizing position with
  | nil => rfl
  | cons c rest ih =>
      rw [afterText_cons, ih]
      by_cases hc : c = '\n'
      · simp [after, hc]
        omega
      · simp [after, hc]

/-- The column counts from the last line feed that has been passed, or from where the text starts. -/
theorem column_afterText (position : Position) (text : Text) :
    (position.afterText text).column =
      if '\n' ∈ text then text.lastLine.length else position.column + text.length := by
  -- the last character decides, so the text is taken apart from its end
  induction text using List.reverseRecOn with
  | nil => rfl
  | append_singleton front c ih =>
      rw [afterText_append, afterText_cons, afterText_nil, Text.lastLine, List.rtakeWhile_concat]
      by_cases hc : c = '\n'
      · simp [after, hc]
      · have hmem : '\n' ∈ front ++ [c] ↔ '\n' ∈ front := by simp [Ne.symm hc]
        simp only [after, if_neg hc, ih, hmem]
        split
        · simp [hc, Text.lastLine]
        · simp [Nat.add_assoc]

end Position

/-! ## Sequences of moves -/

/-- One way to move a cursor. -/
inductive Move where
  /-- By a number of characters. -/
  | byCount (count : Nat)
  /-- Over a single character. -/
  | overChar (c : Char)
  /-- Over a text. -/
  | overText (text : Text)
  deriving DecidableEq, Repr

namespace Move

/-- The number of characters that the move passes. -/
def length : Move → Nat
  | .byCount count => count
  | .overChar _ => 1
  | .overText text => text.length

/-- What the move passes is really there. -/
def PossibleAt (cursor : Cursor) : Move → Prop
  | .byCount count => count ≤ cursor.remaining.length
  | .overChar c => cursor.peek = some c
  | .overText text => text <+: cursor.remaining

/-- The number of characters that all the moves pass. -/
def total : List Move → Nat
  | [] => 0
  | move :: moves => move.length + total moves

@[simp] theorem total_nil : total [] = 0 := rfl

@[simp] theorem total_cons (move : Move) (moves : List Move) :
    total (move :: moves) = move.length + total moves := rfl

end Move

namespace Cursor

/-- Makes one move. -/
def move (cursor : Cursor) : Move → Except Fault Cursor
  | .byCount count => cursor.forward count
  | .overChar c => cursor.stepOver c
  | .overText text => cursor.advance text

/-- Makes one move after the other, up to the first that is a fault. -/
def moveAll : Cursor → List Move → Except Fault Cursor
  | cursor, [] => .ok cursor
  | cursor, move :: moves =>
      match cursor.move move with
      | .ok next => next.moveAll moves
      | .error cause => .error cause

/-- Each of the moves is possible where the moves before it lead. -/
def Allows : Cursor → List Move → Prop
  | _, [] => True
  | cursor, move :: moves =>
      move.PossibleAt cursor ∧ ∀ next, cursor.move move = .ok next → next.Allows moves

variable {cursor place : Cursor} {move : Move} {moves : List Move}

/-- A possible move passes the next characters, as many as it is long. -/
theorem move_eq_past (h : move.PossibleAt cursor) :
    move.length ≤ cursor.remaining.length ∧
      cursor.move move = .ok (cursor.past (cursor.remaining.take move.length)) := by
  cases move with
  | byCount count => exact ⟨h, forward_eq_past h⟩
  | overChar c =>
      have hnext : [c] <+: cursor.remaining := List.singleton_prefix_iff_head?_eq_some.mpr h
      have htake : [c] = cursor.remaining.take 1 := List.prefix_iff_eq_take.mp hnext
      refine ⟨hnext.length_le, ?_⟩
      rw [Move.length, ← htake]
      exact stepOver_eq_past h
  | overText text =>
      have htake : text = cursor.remaining.take text.length := List.prefix_iff_eq_take.mp h
      refine ⟨h.length_le, ?_⟩
      rw [Move.length, ← htake]
      exact advance_eq_past h

/-- A move that is not possible is a fault. -/
theorem move_eq_error (h : ¬ move.PossibleAt cursor) :
    ∃ cause, cursor.move move = .error cause := by
  cases move with
  | byCount count => exact ⟨_, forward_eq_tooFar (Nat.lt_of_not_le h)⟩
  | overChar c => exact ⟨.notNext c, if_neg h⟩
  | overText text => exact ⟨.notAhead text, if_neg (mt List.isPrefixOf_iff_prefix.mp h)⟩

theorem remaining_past_take (cursor : Cursor) (count : Nat) :
    (cursor.past (cursor.remaining.take count)).remaining = cursor.remaining.drop count :=
  past_remaining (List.take_append_drop count cursor.remaining).symm

/-- To pass some characters and then some more is to pass them all at once. -/
theorem past_take_add (cursor : Cursor) (first second : Nat) :
    (cursor.past (cursor.remaining.take first)).past
        ((cursor.past (cursor.remaining.take first)).remaining.take second) =
      cursor.past (cursor.remaining.take (first + second)) := by
  rw [remaining_past_take, ← past_append, List.take_add]

theorem moveAll_eq_past (h : cursor.Allows moves) :
    Move.total moves ≤ cursor.remaining.length ∧
      cursor.moveAll moves = .ok (cursor.past (cursor.remaining.take (Move.total moves))) := by
  induction moves generalizing cursor with
  | nil => simp [moveAll]
  | cons move moves ih =>
      obtain ⟨hpossible, hmoves⟩ := h
      obtain ⟨hle, hmove⟩ := move_eq_past hpossible
      obtain ⟨hrest, hall⟩ := ih (hmoves _ hmove)
      rw [remaining_past_take, List.length_drop] at hrest
      constructor
      · rw [Move.total_cons]
        omega
      · simp only [moveAll, hmove, hall, past_take_add, Move.total_cons]

/-- Moves lead somewhere exactly when each of them is possible. -/
theorem exists_moveAll_iff_allows :
    (∃ place, cursor.moveAll moves = .ok place) ↔ cursor.Allows moves := by
  constructor
  · intro h
    induction moves generalizing cursor with
    | nil => trivial
    | cons move moves ih =>
        obtain ⟨place, hplace⟩ := h
        refine ⟨?_, fun next hnext => ih ⟨place, ?_⟩⟩
        · by_contra himpossible
          obtain ⟨cause, hcause⟩ := move_eq_error himpossible
          simp [moveAll, hcause] at hplace
        · simpa [moveAll, hnext] using hplace
  · intro h
    exact ⟨_, (moveAll_eq_past h).2⟩

/-! ## Where moves lead -/

/-- The place lies `count` characters behind the cursor: this much is gone from the input, and the
position has been counted on from it. -/
structure CountedTo (cursor : Cursor) (count : Nat) (place : Cursor) : Prop where
  remaining : place.remaining = cursor.remaining.drop count
  offset : place.position.offset = cursor.position.offset + count
  line : place.position.line =
    cursor.position.line + (cursor.remaining.take count).count '\n'
  column : place.position.column =
    if '\n' ∈ cursor.remaining.take count then
      (Text.lastLine (cursor.remaining.take count)).length
    else cursor.position.column + count

theorem countedTo_past {count : Nat} (h : count ≤ cursor.remaining.length) :
    cursor.CountedTo count (cursor.past (cursor.remaining.take count)) := by
  have hlength : (cursor.remaining.take count).length = count := List.length_take_of_le h
  constructor
  · exact remaining_past_take cursor count
  · rw [past, Position.offset_afterText, hlength]
  · rw [past, Position.line_afterText]
  · rw [past, Position.column_afterText, hlength]

/-- All ways to move forward agree with the move by the total count, which counts the position on from
the characters passed, and which is possible exactly when there are that many. -/
theorem moves_agree_with_forward (cursor : Cursor) :
    (∀ moves, (∃ place, cursor.moveAll moves = .ok place) ↔ cursor.Allows moves) ∧
    (∀ moves, cursor.Allows moves →
      ∃ place, cursor.moveAll moves = .ok place ∧
        cursor.forward (Move.total moves) = .ok place ∧
        cursor.CountedTo (Move.total moves) place) ∧
    ∀ count,
      ((∃ cause, cursor.forward count = .error cause) ↔ cursor.remaining.length < count) ∧
      ∀ cause, cursor.forward count = .error cause → cause = .tooFar count cursor.position := by
  refine ⟨fun moves => exists_moveAll_iff_allows, fun moves hmoves => ?_, fun count => ?_⟩
  · obtain ⟨hle, hall⟩ := moveAll_eq_past hmoves
    exact ⟨_, hall, forward_eq_past hle, countedTo_past hle⟩
  · by_cases hle : count ≤ cursor.remaining.length
    · simp [forward_eq_past hle, hle]
    · have hlt : cursor.remaining.length < count := Nat.lt_of_not_le hle
      simp [forward_eq_tooFar hlt, hlt]

/-- Three moves, each of another kind, over the end of a line and a character of two bytes. -/
theorem moves_agree_with_forward_of_lines :
    (Cursor.mk ['a', 'é', '\n', 'b', 'c'] ⟨5, 1, 2⟩).Allows
        [.overChar 'a', .overText ['é', '\n'], .byCount 1] ∧
      ∃ place, (Cursor.mk ['a', 'é', '\n', 'b', 'c'] ⟨5, 1, 2⟩).moveAll
          [.overChar 'a', .overText ['é', '\n'], .byCount 1] = .ok place ∧
        (Cursor.mk ['a', 'é', '\n', 'b', 'c'] ⟨5, 1, 2⟩).forward 4 = .ok place ∧
        place.remaining = ['c'] ∧ place.position = ⟨9, 2, 1⟩ := by
  have hagree := moves_agree_with_forward ⟨['a', 'é', '\n', 'b', 'c'], ⟨5, 1, 2⟩⟩
  have hallows : (Cursor.mk ['a', 'é', '\n', 'b', 'c'] ⟨5, 1, 2⟩).Allows
      [.overChar 'a', .overText ['é', '\n'], .byCount 1] :=
    (hagree.1 _).mp ⟨⟨['c'], ⟨9, 2, 1⟩⟩, by decide⟩
  obtain ⟨place, hmoves, hforward, hcounted⟩ := hagree.2.1 _ hallows
  refine ⟨hallows, place, hmoves, hforward, hcounted.remaining, ?_⟩
  obtain ⟨remaining, offset, line, column⟩ := place
  rw [Position.mk.injEq]
  exact ⟨hcounted.offset, hcounted.line, hcounted.column⟩

end Cursor

end ParserCombinators
