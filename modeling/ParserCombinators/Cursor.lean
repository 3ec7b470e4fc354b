import ParserCombinators.Fault

/-!
# Cursors

A cursor is a place in the input: the text that has not been consumed and the position of its
first character.  Parsers backtrack by going back to an earlier cursor.

A cursor moves over one character, over a given text, or by a count; each move checks that what it
claims to pass is really there, and is a fault otherwise.  The input is cut at byte offsets, which is a
fault of its own where no character ends.  Every move that succeeds leads to the place behind a front
part of the remaining text (`past`), whose bytes are what it skips.
-/

namespace ParserCombinators

/-- The input not yet consumed, and where it starts. -/
structure Cursor where
  remaining : Text
  position : Position := .start
  deriving DecidableEq, Repr

namespace Cursor

/-- The start of a whole text. -/
def ofText (text : Text) : Cursor := ⟨text, .start⟩

/-- All input has been consumed. -/
def atEnd (cursor : Cursor) : Bool := cursor.remaining.isEmpty

/-- The next character. -/
def peek (cursor : Cursor) : Option Char := cursor.remaining.head?

/-! ## Stretches of input -/

/-- The next `bytes` bytes of the input. -/
def ahead (cursor : Cursor) (bytes : Nat) : Except Fault Text :=
  match Text.cut? bytes cursor.remaining with
  | some (text, _) => .ok text
  | none => .error (.badOffset bytes)

/-- The input from this cursor up to a later one, measured by what remains at each. -/
def textUpTo (cursor later : Cursor) : Except Fault Text :=
  if later.remaining.byteLength ≤ cursor.remaining.byteLength then
    cursor.ahead (cursor.remaining.byteLength - later.remaining.byteLength)
  else .error .reversed

/-- The number of bytes that the next `count` characters take up.  They end where another character
starts, or with the input. -/
def bytesOf (cursor : Cursor) (count : Nat) : Except Fault Nat :=
  if count = 0 then .ok 0
  else
    match Text.offset? count cursor.remaining with
    | some offset => .ok offset
    | none =>
        if cursor.remaining.length = count then .ok cursor.remaining.byteLength
        else .error (.tooFar count cursor.position)

/-! ## Moves -/

/-- The place behind the next `bytes` bytes, which is at the given position. -/
def skip (cursor : Cursor) (bytes : Nat) (position : Position) : Except Fault Cursor :=
  match Text.cut? bytes cursor.remaining with
  | some (_, rest) => .ok ⟨rest, position⟩
  | none => .error (.badOffset bytes)

/-- Moves past the single character `c`, which has to come next. -/
def stepOver (cursor : Cursor) (c : Char) : Except Fault Cursor :=
  if cursor.peek = some c then cursor.skip c.utf8Size (cursor.position.after c)
  else .error (.notNext c)

/-- Moves past `text`, which has to start the remaining input. -/
def advance (cursor : Cursor) (text : Text) : Except Fault Cursor :=
  if text.isPrefixOf cursor.remaining then
    cursor.skip text.byteLength (cursor.position.afterText text)
  else .error (.notAhead text)

/-- Moves past the next `count` characters, which have to exist. -/
def forward (cursor : Cursor) (count : Nat) : Except Fault Cursor := do
  let bytes ← cursor.bytesOf count
  let text ← cursor.ahead bytes
  cursor.advance text

/-- To skip the bytes of a text that comes next leaves what follows it. -/
@[simp] theorem skip_append (text rest : Text) (position after : Position) :
    (Cursor.mk (text ++ rest) position).skip text.byteLength after = .ok ⟨rest, after⟩ := by
  rw [skip, Text.cut?_byteLength_append]

@[simp] theorem stepOver_cons (c : Char) (rest : Text) (position : Position) :
    (Cursor.mk (c :: rest) position).stepOver c = .ok ⟨rest, position.after c⟩ := by
  have hpeek : (Cursor.mk (c :: rest) position).peek = some c := rfl
  rw [stepOver, if_pos hpeek]
  exact skip_append [c] rest position (position.after c)

@[simp] theorem advance_append (text rest : Text) (position : Position) :
    (Cursor.mk (text ++ rest) position).advance text = .ok ⟨rest, position.afterText text⟩ := by
  simp [advance]

theorem advance_eq_ok_iff {cursor next : Cursor} {text : Text} :
    cursor.advance text = .ok next ↔
      cursor.remaining = text ++ next.remaining ∧
        next.position = cursor.position.afterText text := by
  obtain ⟨remaining, position⟩ := cursor
  constructor
  · intro h
    by_cases hstart : text <+: remaining
    · obtain ⟨rest, rfl⟩ := hstart
      rw [advance_append] at h
      cases h
      exact ⟨rfl, rfl⟩
    · rw [advance, if_neg (mt List.isPrefixOf_iff_prefix.mp hstart)] at h
      cases h
  · rintro ⟨hremaining, hposition⟩
    obtain ⟨rest, after⟩ := next
    simp only at hremaining hposition
    rw [hremaining, hposition, advance_append]

/-! ## Places that come later -/

/-- The later cursor lies at or behind this one in the same input: some text has been consumed on
the way, and nothing else. -/
def Reaches (cursor later : Cursor) : Prop :=
  ∃ text, cursor.remaining = text ++ later.remaining ∧
    later.position = cursor.position.afterText text

theorem reaches_iff_advance {cursor later : Cursor} :
    cursor.Reaches later ↔ ∃ text, cursor.advance text = .ok later := by
  simp only [Reaches, advance_eq_ok_iff]

theorem Reaches.refl (cursor : Cursor) : cursor.Reaches cursor := ⟨[], rfl, rfl⟩

theorem Reaches.trans {first second third : Cursor} (h₁ : first.Reaches second)
    (h₂ : second.Reaches third) : first.Reaches third := by
  obtain ⟨front, hfront, hsecond⟩ := h₁
  obtain ⟨back, hback, hthird⟩ := h₂
  refine ⟨front ++ back, ?_, ?_⟩
  · rw [hfront, hback, List.append_assoc]
  · rw [hthird, hsecond, Position.afterText_append]

theorem Reaches.length_le {cursor later : Cursor} (h : cursor.Reaches later) :
    later.remaining.length ≤ cursor.remaining.length := by
  obtain ⟨text, htext, -⟩ := h
  rw [htext, List.length_append]
  exact Nat.le_add_left _ _

/-- A later place with no less input is the same place. -/
theorem Reaches.eq_of_length_le {cursor later : Cursor} (h : cursor.Reaches later)
    (hle : cursor.remaining.length ≤ later.remaining.length) : later = cursor := by
  obtain ⟨text, htext, hposition⟩ := h
  have hnil : text = [] := by
    rw [htext, List.length_append] at hle
    exact List.length_eq_zero_iff.mp (by omega)
  subst hnil
  obtain ⟨remaining, position⟩ := later
  simp only [List.nil_append, Position.afterText_nil] at htext hposition
  rw [← htext, hposition]

/-- Offsets measure how much has been consumed. -/
theorem Reaches.offset_eq {cursor later : Cursor} (h : cursor.Reaches later) :
    cursor.position.offset + cursor.remaining.length =
      later.position.offset + later.remaining.length := by
  obtain ⟨text, htext, hposition⟩ := h
  rw [htext, hposition, Position.offset_afterText, List.length_append, Nat.add_assoc]

/-! ## The place behind a text -/

/-- The place behind a text that starts the remaining input. -/
def past (cursor : Cursor) (text : Text) : Cursor :=
  ⟨cursor.remaining.drop text.length, cursor.position.afterText text⟩

@[simp] theorem past_nil (cursor : Cursor) : cursor.past [] = cursor := rfl

/-- Only the empty text leads nowhere. -/
theorem past_eq_self_iff {cursor : Cursor} {text : Text} : cursor.past text = cursor ↔ text = [] := by
  constructor
  · intro h
    have hoffset : cursor.position.offset + text.length = cursor.position.offset := by
      rw [← Position.offset_afterText]
      exact congrArg (fun place : Cursor => place.position.offset) h
    exact List.length_eq_zero_iff.mp (by omega)
  · rintro rfl
    exact past_nil cursor

theorem past_append (cursor : Cursor) (front back : Text) :
    cursor.past (front ++ back) = (cursor.past front).past back := by
  simp only [past, List.drop_drop, List.length_append, Position.afterText_append]

theorem past_remaining {cursor : Cursor} {text rest : Text}
    (h : cursor.remaining = text ++ rest) : (cursor.past text).remaining = rest := by
  simp [past, h]

theorem remaining_of_isPrefix {cursor : Cursor} {text : Text} (h : text <+: cursor.remaining) :
    cursor.remaining = text ++ (cursor.past text).remaining := by
  obtain ⟨tail, htail⟩ := h
  rw [past_remaining htail.symm, htail]

/-- What follows a text is what comes next behind it. -/
theorem isPrefix_past_iff {cursor : Cursor} {text next : Text} (h : text <+: cursor.remaining) :
    next <+: (cursor.past text).remaining ↔ text ++ next <+: cursor.remaining := by
  rw [remaining_of_isPrefix h, List.prefix_append_right_inj]

theorem isPrefix_past {cursor : Cursor} {text next : Text} (h : text ++ next <+: cursor.remaining) :
    next <+: (cursor.past text).remaining :=
  (isPrefix_past_iff ((List.prefix_append text next).trans h)).mpr h

/-- A text lies between two places exactly when the later one is the place behind it. -/
theorem eq_past_iff {cursor rest : Cursor} {text : Text} :
    text <+: cursor.remaining ∧ rest = cursor.past text ↔
      cursor.remaining = text ++ rest.remaining ∧
        rest.position = cursor.position.afterText text := by
  constructor
  · rintro ⟨hstart, rfl⟩
    exact ⟨remaining_of_isPrefix hstart, rfl⟩
  · rintro ⟨hremaining, hposition⟩
    refine ⟨⟨rest.remaining, hremaining.symm⟩, ?_⟩
    obtain ⟨remaining, position⟩ := rest
    simp only at hremaining hposition
    rw [hposition, past, hremaining, List.drop_left]

theorem reaches_past {cursor : Cursor} {text : Text} (h : text <+: cursor.remaining) :
    cursor.Reaches (cursor.past text) :=
  ⟨text, eq_past_iff.mp ⟨h, rfl⟩⟩

/-- A place is reached exactly when it lies behind some text that starts the remaining input. -/
theorem reaches_iff_past {cursor later : Cursor} :
    cursor.Reaches later ↔ ∃ text, text <+: cursor.remaining ∧ later = cursor.past text := by
  simp only [Reaches, eq_past_iff]

theorem remaining_of_peek {cursor : Cursor} {c : Char} (h : cursor.peek = some c) :
    cursor.remaining = c :: (cursor.past [c]).remaining :=
  remaining_of_isPrefix (List.singleton_prefix_iff_head?_eq_some.mpr h)

theorem peek_of_remaining {cursor : Cursor} {c : Char} {rest : Text}
    (h : cursor.remaining = c :: rest) : cursor.peek = some c := by
  rw [peek, h, List.head?_cons]

theorem stepOver_eq_past {cursor : Cursor} {c : Char} (h : cursor.peek = some c) :
    cursor.stepOver c = .ok (cursor.past [c]) := by
  obtain ⟨remaining, position⟩ := cursor
  obtain ⟨rest, rfl⟩ := List.singleton_prefix_iff_head?_eq_some.mpr h
  exact stepOver_cons c rest position

theorem advance_eq_past {cursor : Cursor} {text : Text} (h : text <+: cursor.remaining) :
    cursor.advance text = .ok (cursor.past text) :=
  advance_eq_ok_iff.mpr ⟨remaining_of_isPrefix h, rfl⟩

theorem ahead_of_isPrefix {cursor : Cursor} {text : Text} (h : text <+: cursor.remaining) :
    cursor.ahead text.byteLength = .ok text := by
  obtain ⟨rest, hrest⟩ := h
  simp [ahead, ← hrest, Text.cut?_byteLength_append]

theorem textUpTo_past {cursor : Cursor} {text : Text} (h : text <+: cursor.remaining) :
    cursor.textUpTo (cursor.past text) = .ok text := by
  have hbytes : cursor.remaining.byteLength =
      text.byteLength + (cursor.past text).remaining.byteLength := by
    rw [← Text.byteLength_append, ← remaining_of_isPrefix h]
  rw [textUpTo, if_pos (by omega), hbytes, Nat.add_sub_cancel, ahead_of_isPrefix h]

/-! ## Moves by a count -/

/-- The next characters take up the bytes of the text that they are, up to the end of the input. -/
theorem bytesOf_eq {cursor : Cursor} {count : Nat} (h : count ≤ cursor.remaining.length) :
    cursor.bytesOf count = .ok (Text.byteLength (cursor.remaining.take count)) := by
  by_cases hzero : count = 0
  · simp [bytesOf, hzero]
  · rcases Nat.lt_or_eq_of_le h with hlt | hend
    · simp [bytesOf, hzero, Text.offset?_of_lt hlt]
    · have hnone : Text.offset? count cursor.remaining = none :=
        Text.offset?_of_le (Nat.le_of_eq hend.symm)
      rw [bytesOf, if_neg hzero, hnone, hend, List.take_length]
      exact if_pos rfl

theorem forward_eq_past {cursor : Cursor} {count : Nat} (h : count ≤ cursor.remaining.length) :
    cursor.forward count = .ok (cursor.past (cursor.remaining.take count)) := by
  have hstart : cursor.remaining.take count <+: cursor.remaining := List.take_prefix _ _
  rw [forward, bytesOf_eq h]
  simp only [bind, Except.bind]
  rw [ahead_of_isPrefix hstart]
  exact advance_eq_past hstart

theorem forward_eq_tooFar {cursor : Cursor} {count : Nat} (h : cursor.remaining.length < count) :
    cursor.forward count = .error (.tooFar count cursor.position) := by
  have hzero : count ≠ 0 := by omega
  have hnone : Text.offset? count cursor.remaining = none := Text.offset?_of_le (Nat.le_of_lt h)
  have hbytes : cursor.bytesOf count = .error (.tooFar count cursor.position) := by
    simp [bytesOf, hzero, hnone, Nat.ne_of_lt h]
  rw [forward, hbytes]
  rfl

end Cursor

end ParserCombinators
