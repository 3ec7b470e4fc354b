import ParserCombinators.Parser.Repeat

/-!
# Moving where the input starts

A text can be read from any position.  `Position.plus` turns a position within a text into the position
of the same place when the text itself starts somewhere else, and `shift` does this to cursors,
failures and replies.

The moves of a cursor, the choice among failures and the test for progress all commute with it: they
compare offsets and never read one on its own.
-/

namespace ParserCombinators

variable {α β : Type}

/-! ## Positions -/

namespace Position

/-- The position of a place that is at `inner` in a text which itself starts at `origin`.  The columns
of the first line continue those of the origin. -/
def plus (origin inner : Position) : Position where
  offset := origin.offset + inner.offset
  line := origin.line + inner.line
  column := if inner.line = 0 then origin.column + inner.column else inner.column

@[simp] theorem offset_plus (origin inner : Position) :
    (origin.plus inner).offset = origin.offset + inner.offset := rfl

@[simp] theorem plus_start (origin : Position) : origin.plus .start = origin := rfl

theorem plus_assoc (first second third : Position) :
    (first.plus second).plus third = first.plus (second.plus third) := by
  simp only [plus, mk.injEq, Nat.add_assoc, true_and]
  by_cases hthird : third.line = 0
  · by_cases hsecond : second.line = 0 <;> simp [hthird, hsecond, Nat.add_assoc]
  · simp [hthird]

theorem after_plus (origin inner : Position) (c : Char) :
    (origin.plus inner).after c = origin.plus (inner.after c) := by
  unfold after
  split
  · simp [plus, Nat.add_assoc]
  · by_cases hline : inner.line = 0 <;> simp [plus, hline, Nat.add_assoc]

theorem afterText_plus (origin inner : Position) (text : Text) :
    (origin.plus inner).afterText text = origin.plus (inner.afterText text) := by
  induction text generalizing inner with
  | nil => rfl
  | cons c rest ih => rw [afterText_cons, afterText_cons, after_plus, ih]

end Position

/-! ## Cursors -/

namespace Cursor

/-- The same place when the input starts at `origin`. -/
def shift (origin : Position) (cursor : Cursor) : Cursor :=
  ⟨cursor.remaining, origin.plus cursor.position⟩

variable (origin : Position) (cursor : Cursor)

@[simp] theorem remaining_shift : (cursor.shift origin).remaining = cursor.remaining := rfl

@[simp] theorem peek_shift : (cursor.shift origin).peek = cursor.peek := rfl

@[simp] theorem atEnd_shift : (cursor.shift origin).atEnd = cursor.atEnd := rfl

@[simp] theorem ahead_shift (bytes : Nat) :
    (cursor.shift origin).ahead bytes = cursor.ahead bytes := rfl

@[simp] theorem textUpTo_shift (later : Cursor) :
    (cursor.shift origin).textUpTo (later.shift origin) = cursor.textUpTo later := rfl

@[simp] theorem past_shift (text : Text) :
    (cursor.shift origin).past text = (cursor.past text).shift origin := by
  simp [past, shift, Position.afterText_plus]

theorem shift_shift (outer : Position) :
    (cursor.shift origin).shift outer = cursor.shift (outer.plus origin) := by
  simp [shift, Position.plus_assoc]

theorem skip_shift (bytes : Nat) (position : Position) :
    (cursor.shift origin).skip bytes (origin.plus position) =
      (cursor.skip bytes position).map (shift origin) := by
  unfold skip
  rw [remaining_shift]
  split <;> rfl

theorem stepOver_shift (c : Char) :
    (cursor.shift origin).stepOver c = (cursor.stepOver c).map (shift origin) := by
  unfold stepOver
  rw [peek_shift, shift, Position.after_plus]
  split
  · exact skip_shift origin cursor _ _
  · rfl

theorem advance_shift (text : Text) :
    (cursor.shift origin).advance text = (cursor.advance text).map (shift origin) := by
  unfold advance
  rw [remaining_shift, shift, Position.afterText_plus]
  split
  · exact skip_shift origin cursor _ _
  · rfl

/-- Of two readings of one text, the places that leave the same over are shifts of each other. -/
theorem eq_shift_of_reaches {cursor here there : Cursor} (hhere : cursor.Reaches here)
    (hthere : (ofText cursor.remaining).Reaches there)
    (hremaining : here.remaining = there.remaining) : here = there.shift cursor.position := by
  obtain ⟨text, htext, hposition⟩ := hhere
  obtain ⟨other, hother, hplace⟩ := hthere
  have hsame : text = other := by
    apply List.append_cancel_right
    rw [← htext, hremaining]
    exact hother
  obtain ⟨remaining, position⟩ := here
  simp only at hremaining hposition
  rw [shift, hplace, ← Position.afterText_plus, hremaining, hposition, hsame]
  rfl

end Cursor

/-- A match makes progress wherever the input starts. -/
@[simp] theorem Parser.stalled_shift (origin : Position) (cursor rest : Cursor) :
    Parser.stalled (cursor.shift origin) (rest.shift origin) ↔ Parser.stalled cursor rest := by
  simp [Parser.stalled, Cursor.shift]

/-! ## Failures -/

namespace Failure

/-- The same failure when the input starts at `origin`. -/
def shift (origin : Position) (failure : Failure) : Failure :=
  ⟨failure.cursor.shift origin, failure.message⟩

theorem furthest_shift (origin : Position) (kept other : Failure) :
    (kept.shift origin).furthest (other.shift origin) = (kept.furthest other).shift origin := by
  simp only [furthest, shift, Cursor.shift, Position.offset_plus, Nat.add_lt_add_iff_left]
  split <;> rfl

theorem foldl_furthest_shift (origin : Position) (kept : Failure) (failures : List Failure) :
    (failures.map (shift origin)).foldl furthest (kept.shift origin) =
      (failures.foldl furthest kept).shift origin := by
  induction failures generalizing kept with
  | nil => rfl
  | cons failure rest ih =>
      simp only [List.map_cons, List.foldl_cons, furthest_shift]
      exact ih (kept.furthest failure)

theorem join_shift (origin : Position) (start : Cursor) (failures : List Failure) :
    join (start.shift origin) (failures.map (shift origin)) = (join start failures).shift origin := by
  have hplace := foldl_furthest_shift origin ⟨start, ""⟩ failures
  have hmessages : (failures.map (shift origin)).map message = failures.map message := by
    simp only [List.map_map]
    rfl
  simp only [join, hmessages]
  exact congrArg (fun failure : Failure => (⟨failure.cursor, _⟩ : Failure)) hplace

end Failure

/-! ## Replies -/

namespace Reply

/-- The same reply when the input starts at `origin`. -/
def shift (origin : Position) : Reply α → Reply α
  | .matched value rest => .matched value (rest.shift origin)
  | .failed failure => .failed (failure.shift origin)
  | .fault cause => .fault cause

variable {origin : Position}

@[simp] theorem shift_matched (value : α) (rest : Cursor) :
    (matched value rest).shift origin = matched value (rest.shift origin) := rfl

@[simp] theorem shift_failed (failure : Failure) :
    (failed failure : Reply α).shift origin = failed (failure.shift origin) := rfl

@[simp] theorem shift_fault (cause : Fault) :
    (fault cause : Reply α).shift origin = fault cause := rfl

@[simp] theorem shift_mismatch (cursor : Cursor) (reason : Mismatch) :
    (mismatch cursor reason : Reply α).shift origin = mismatch (cursor.shift origin) reason := rfl

theorem shift_shift (reply : Reply α) (outer : Position) :
    (reply.shift origin).shift outer = reply.shift (outer.plus origin) := by
  cases reply <;> simp [shift, Failure.shift, Cursor.shift_shift]

/-- To go on from a shifted reply gives the shifted result when both ways to go on do. -/
theorem handle_shift {reply : Reply α} {onMatch onMatch' : α → Cursor → Reply β}
    {onFail onFail' : Failure → Reply β}
    (hmatch : ∀ value rest, onMatch' value (rest.shift origin) = (onMatch value rest).shift origin)
    (hfail : ∀ failure, onFail' (failure.shift origin) = (onFail failure).shift origin) :
    (reply.shift origin).handle onMatch' onFail' = (reply.handle onMatch onFail).shift origin := by
  cases reply with
  | matched value rest => exact hmatch value rest
  | failed failure => exact hfail failure
  | fault cause => rfl

theorem andThen_shift {reply : Reply α} {onMatch onMatch' : α → Cursor → Reply β}
    (hmatch : ∀ value rest, onMatch' value (rest.shift origin) = (onMatch value rest).shift origin) :
    (reply.shift origin).andThen onMatch' = (reply.andThen onMatch).shift origin :=
  handle_shift hmatch fun _ => rfl

theorem recover_shift {reply : Reply α} {onFail onFail' : Failure → Reply α}
    (hfail : ∀ failure, onFail' (failure.shift origin) = (onFail failure).shift origin) :
    (reply.shift origin).recover onFail' = (reply.recover onFail).shift origin :=
  handle_shift (fun _ _ => rfl) hfail

@[simp] theorem map_shift (reply : Reply α) (f : α → β) :
    (reply.shift origin).map f = (reply.map f).shift origin :=
  andThen_shift fun _ _ => rfl

theorem afterMove_shift {move : Except Fault Cursor} {next next' : Cursor → Reply α}
    (hnext : ∀ rest, next' (rest.shift origin) = (next rest).shift origin) :
    afterMove (move.map (Cursor.shift origin)) next' = (afterMove move next).shift origin := by
  cases move with
  | ok rest => exact hnext rest
  | error cause => rfl

/-- A result that is no place is the same for every start. -/
theorem afterMove_shift_const {γ : Type} {move : Except Fault γ} {next next' : γ → Reply α}
    (hnext : ∀ result, next' result = (next result).shift origin) :
    afterMove move next' = (afterMove move next).shift origin := by
  cases move with
  | ok result => exact hnext result
  | error cause => rfl

end Reply

end ParserCombinators
