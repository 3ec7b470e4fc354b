import ParserCombinators.Parser.Alternative

/-!
# Repetition

A repetition goes on while its parser matches and moves on.  The number of its rounds has an explicit
bound, a function of the text that is left behind the first value, and running out of rounds is a
fault.  Of a parser that consumes what it matches each round but the last consumes a character, so
one round more than there are characters is enough; that is the bound that `many1` and `sepBy1` set.

A list with separators stops before a separator that no item follows, unless it is told to consume
that separator too.
-/

namespace ParserCombinators.Parser

variable {α β : Type}

/-- A match that ends at `rest` has consumed nothing since `cursor`. -/
abbrev stalled (cursor rest : Cursor) : Prop := rest.position.offset = cursor.position.offset

/-- A match that moved on has less input behind it. -/
theorem length_lt_of_not_stalled {cursor rest : Cursor} (hreach : cursor.Reaches rest)
    (hstall : ¬ stalled cursor rest) : rest.remaining.length < cursor.remaining.length := by
  have hoffset := hreach.offset_eq
  have hle := hreach.length_le
  have hne : rest.position.offset ≠ cursor.position.offset := hstall
  omega

/-- And a match that did not ends where it started. -/
theorem eq_of_stalled {cursor rest : Cursor} (hreach : cursor.Reaches rest)
    (hstall : stalled cursor rest) : rest = cursor := by
  have hoffset := hreach.offset_eq
  exact hreach.eq_of_length_le (by omega)

/-- So less input is behind a match only where it moved on. -/
theorem not_stalled_of_length_lt {cursor rest : Cursor} (hreach : cursor.Reaches rest)
    (hlt : rest.remaining.length < cursor.remaining.length) : ¬ stalled cursor rest := by
  intro hstall
  rw [eq_of_stalled hreach hstall] at hlt
  exact Nat.lt_irrefl _ hlt

/-! ## One parser again and again -/

/-- Reads values until `p` fails or stalls, in at most `rounds` rounds. -/
def moreValues (p : Parser α) : Nat → Parser (List α)
  | 0, _ => .fault .diverged
  | rounds + 1, cursor =>
      (p cursor).handle
        (fun value rest =>
          if stalled cursor rest then .matched [value] rest
          else (moreValues p rounds rest).map (value :: ·))
        (fun _ => .matched [] cursor)

/-- Reads one or more values, those behind the first in as many rounds as `rounds` allows.  A value
read without consuming anything is the last one. -/
def many1Within (p : Parser α) (rounds : Text → Nat) : Parser (List α) := fun cursor =>
  (p cursor).andThen fun value rest =>
    if stalled cursor rest then .matched [value] rest
    else (moreValues p (rounds rest.remaining) rest).map (value :: ·)

/-- Reads one or more values. -/
def many1 (p : Parser α) : Parser (List α) := p.many1Within fun text => text.length + 1

/-- Reads characters, and takes them as the text that they make up. -/
def asText (p : Parser (List Char)) : Parser Text := p.map fun characters => characters

/-! ## Items with separators between them -/

/-- Reads separators with an item behind each, in at most `rounds` rounds.  With `trailing` a
separator without an item is consumed. -/
def moreItems (item : Parser α) (separator : Parser β) (trailing : Bool) : Nat → Parser (List α)
  | 0, _ => .fault .diverged
  | rounds + 1, cursor =>
      (separator cursor).handle
        (fun _ behind =>
          (item behind).handle
            (fun value rest =>
              if stalled cursor rest then .matched [] cursor
              else (moreItems item separator trailing rounds rest).map (value :: ·))
            (fun _ => .matched [] (if trailing then behind else cursor)))
        (fun _ => .matched [] cursor)

/-- Reads one or more items with separators between them, those behind the first in as many rounds as
`rounds` allows. -/
def sepBy1Within (item : Parser α) (separator : Parser β) (trailing : Bool) (rounds : Text → Nat) :
    Parser (List α) := fun cursor =>
  (item cursor).andThen fun value rest =>
    (moreItems item separator trailing (rounds rest.remaining) rest).map (value :: ·)

/-- Reads one or more items with separators between them. -/
def sepBy1 (item : Parser α) (separator : Parser β) (trailing : Bool) : Parser (List α) :=
  item.sepBy1Within separator trailing fun text => text.length + 1

end ParserCombinators.Parser
