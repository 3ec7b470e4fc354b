import ParserCombinators.Calculator.Notation
import ParserCombinators.Proofs.Digits

/-!
# Numbers and parentheses between blanks

Blanks and digits are read greedily, and nothing that was read is ever given back.  So the text that
a part takes depends on what comes behind it: a run is read as far as it goes exactly when the rest
does not go on with it (`Text.Stops`).

For each of the two parts, a single character and a number, there is one lemma in each direction.
`exists_of_spaced_…` takes the consumed text of a match apart, and `spaced_…_of_remaining` gives the
match for a text in front of a rest that stops the last run.
-/

namespace ParserCombinators

/-! ## Where runs end -/

/-- A run of characters of the class cannot go on into the text. -/
def Text.Stops (text : Text) (wanted : Char → Bool) : Prop :=
  ∀ c, text.head? = some c → wanted c = false

instance (text : Text) (wanted : Char → Bool) : Decidable (text.Stops wanted) :=
  match text with
  | [] => .isTrue fun _ h => nomatch h
  | c :: _ => decidable_of_iff (wanted c = false) ⟨fun h _ hc => Option.some.inj hc ▸ h, (· c rfl)⟩

namespace Text

variable {wanted : Char → Bool}

theorem stops_nil : Stops [] wanted := by
  intro c h
  cases h

theorem stops_cons {c : Char} {text : Text} : Stops (c :: text) wanted ↔ wanted c = false := by
  constructor
  · intro h
    exact h c rfl
  · intro h d hhead
    cases hhead
    exact h

theorem Stops.append {text rest : Text} (htext : text.Stops wanted) (hrest : rest.Stops wanted) :
    (text ++ rest).Stops wanted := by
  cases text with
  | nil => exact hrest
  | cons c text => exact stops_cons.mpr (stops_cons.mp htext)

theorem Stops.append_of_ne_nil {text : Text} (htext : text.Stops wanted) (hne : text ≠ [])
    (rest : Text) : (text ++ rest).Stops wanted := by
  cases text with
  | nil => exact absurd rfl hne
  | cons c text => exact stops_cons.mpr (stops_cons.mp htext)

theorem Stops.of_wider {narrow : Char → Bool} {text : Text} (h : text.Stops wanted)
    (hwider : ∀ c, narrow c = true → wanted c = true) : text.Stops narrow := by
  intro c hhead
  have hout : wanted c = false := h c hhead
  apply Bool.eq_false_iff.mpr
  intro hin
  rw [hwider c hin] at hout
  cases hout

theorem stops_dropWhile (text : Text) : Stops (text.dropWhile wanted) wanted := by
  induction text with
  | nil => exact stops_nil
  | cons c text ih =>
      by_cases hc : wanted c = true
      · simpa [hc] using ih
      · simpa [hc] using stops_cons.mpr (Bool.eq_false_iff.mpr hc)

theorem takeWhile_append_of_stops {run rest : Text} (hrun : ∀ c ∈ run, wanted c = true)
    (hrest : rest.Stops wanted) : (run ++ rest).takeWhile wanted = run := by
  rw [List.takeWhile_append_of_pos hrun]
  cases rest with
  | nil => simp
  | cons c rest => simp [stops_cons.mp hrest]

theorem dropWhile_append_of_stops {run rest : Text} (hrun : ∀ c ∈ run, wanted c = true)
    (hrest : rest.Stops wanted) : (run ++ rest).dropWhile wanted = rest := by
  rw [List.dropWhile_append_of_pos hrun]
  cases rest with
  | nil => rfl
  | cons c rest => simp [stops_cons.mp hrest]

end Text

/-! ## Blanks -/

open CharClass (isBlank isBlank_eq_false_of_isDigit)

/-- The place behind the blanks that come next. -/
def Cursor.pastBlank (cursor : Cursor) : Cursor :=
  cursor.past (cursor.remaining.takeWhile isBlank)

namespace Calculator

theorem blank_nil : Blank [] := by
  intro c hc
  cases hc

theorem Blank.append {front back : Text} (hfront : Blank front) (hback : Blank back) :
    Blank (front ++ back) := by
  intro c hc
  rcases List.mem_append.mp hc with hc | hc
  · exact hfront c hc
  · exact hback c hc

theorem blank_takeWhile (text : Text) : Blank (text.takeWhile isBlank) :=
  (Text.isRun_takeWhile isBlank text).wanted_of_mem

theorem Blank.stops_isDigit {blank : Text} (h : Blank blank) : blank.Stops Char.isDigit := by
  intro c hhead
  have hblank : isBlank c = true := h c (List.mem_of_head? hhead)
  apply Bool.eq_false_iff.mpr
  intro hdigit
  rw [isBlank_eq_false_of_isDigit hdigit] at hblank
  cases hblank

theorem Numeral.stops_isBlank {digits : Text} (h : Numeral digits) : digits.Stops isBlank := by
  intro c hhead
  exact isBlank_eq_false_of_isDigit (h.isDigit c (List.mem_of_head? hhead))

end Calculator

namespace Parser

open Calculator (Blank Numeral)

variable {α : Type} {cursor rest : Cursor}

theorem exists_of_pastBlank (cursor : Cursor) :
    ∃ blank, Blank blank ∧ cursor.remaining = blank ++ cursor.pastBlank.remaining := by
  have hsplit : cursor.remaining =
      cursor.remaining.takeWhile isBlank ++ cursor.remaining.dropWhile isBlank :=
    List.takeWhile_append_dropWhile.symm
  refine ⟨cursor.remaining.takeWhile isBlank, Calculator.blank_takeWhile _, ?_⟩
  rw [Cursor.pastBlank, Cursor.past_remaining hsplit]
  exact hsplit

theorem pastBlank_of_remaining {blank behind : Text} (hremaining : cursor.remaining = blank ++ behind)
    (hblank : Blank blank) (hbehind : behind.Stops isBlank) :
    cursor.pastBlank = cursor.past blank := by
  rw [Cursor.pastBlank, hremaining, Text.takeWhile_append_of_stops hblank hbehind]

theorem skipSpaces_eq (cursor : Cursor) :
    skipSpaces cursor = .matched (cursor.remaining.takeWhile isBlank) cursor.pastBlank :=
  scan_endsIn isBlank cursor

theorem spaced_eq (p : Parser α) (cursor : Cursor) :
    p.spaced cursor =
      (p cursor.pastBlank).andThen fun value behind => .matched value behind.pastBlank := by
  simp only [spaced, keepLeft_eq, keepRight_eq, skipSpaces_eq, Reply.andThen_matched,
    Reply.map_matched]

theorem spaced_eq_matched_iff {p : Parser α} {value : α} :
    p.spaced cursor = .matched value rest ↔
      ∃ behind, p cursor.pastBlank = .matched value behind ∧ rest = behind.pastBlank := by
  rw [spaced_eq, Reply.andThen_eq_matched_iff]
  constructor
  · intro h
    rcases h with ⟨found, behind, hp, hrest⟩
    cases hrest
    exact ⟨behind, hp, rfl⟩
  · intro h
    rcases h with ⟨behind, hp, rfl⟩
    exact ⟨value, behind, hp, rfl⟩

/-- What is read between blanks, in front of a rest that does not start with one. -/
theorem spaced_of_remaining {p : Parser α} {value : α} {before core after behind : Text}
    (hremaining : cursor.remaining = before ++ (core ++ (after ++ behind)))
    (hbefore : Blank before) (hcore : (core ++ (after ++ behind)).Stops isBlank)
    (hafter : Blank after) (hbehind : behind.Stops isBlank)
    (hp : p (cursor.past before) = .matched value ((cursor.past before).past core)) :
    p.spaced cursor = .matched value (cursor.past (before ++ (core ++ after))) := by
  have hinside : (cursor.past before).remaining = core ++ (after ++ behind) :=
    Cursor.past_remaining hremaining
  have houtside : ((cursor.past before).past core).remaining = after ++ behind :=
    Cursor.past_remaining hinside
  refine spaced_eq_matched_iff.mpr ⟨(cursor.past before).past core, ?_, ?_⟩
  · rw [pastBlank_of_remaining hremaining hbefore hcore, hp]
  · rw [pastBlank_of_remaining houtside hafter hbehind, Cursor.past_append, Cursor.past_append]

/-! ## Single characters -/

theorem exists_of_spaced_char {expected value : Char}
    (hmatch : (char expected).spaced cursor = .matched value rest) :
    ∃ before after, Blank before ∧ Blank after ∧
      cursor.remaining = before ++ expected :: (after ++ rest.remaining) := by
  obtain ⟨behind, hchar, rfl⟩ := spaced_eq_matched_iff.mp hmatch
  obtain ⟨hpeek, -, rfl⟩ := char_eq_matched_iff.mp hchar
  obtain ⟨before, hbefore, hremaining⟩ := exists_of_pastBlank cursor
  obtain ⟨after, hafter, hrest⟩ := exists_of_pastBlank (cursor.pastBlank.past [expected])
  refine ⟨before, after, hbefore, hafter, ?_⟩
  rw [← hrest, ← Cursor.remaining_of_peek hpeek, hremaining]

theorem spaced_char_of_remaining {expected : Char} {before after behind : Text}
    (hremaining : cursor.remaining = before ++ expected :: (after ++ behind))
    (hbefore : Blank before) (hexpected : isBlank expected = false) (hafter : Blank after)
    (hbehind : behind.Stops isBlank) :
    (char expected).spaced cursor =
      .matched expected (cursor.past (before ++ expected :: after)) := by
  have hcore : cursor.remaining = before ++ ([expected] ++ (after ++ behind)) := hremaining
  apply spaced_of_remaining hcore hbefore (Text.stops_cons.mpr hexpected) hafter hbehind
  exact char_of_peek (Cursor.peek_of_remaining (Cursor.past_remaining hremaining))

/-- A character that is not a blank is found behind the blanks or not at all. -/
theorem spaced_char_of_other {expected found : Char} {before behind : Text}
    (hremaining : cursor.remaining = before ++ found :: behind) (hbefore : Blank before)
    (hfound : isBlank found = false) (hne : found ≠ expected) :
    ∃ failure, (char expected).spaced cursor = .failed failure := by
  have hplace : cursor.pastBlank = cursor.past before :=
    pastBlank_of_remaining hremaining hbefore (Text.stops_cons.mpr hfound)
  have hpeek : (cursor.past before).peek = some found :=
    Cursor.peek_of_remaining (Cursor.past_remaining hremaining)
  refine ⟨⟨cursor.past before, Mismatch.message (.otherChar expected found)⟩, ?_⟩
  rw [spaced_eq, hplace, char, hpeek]
  simp [hne, Reply.mismatch]

/-! ## Numbers -/

/-- The number in front of a rest that does not go on with a digit. -/
theorem integer_of_remaining {digits behind : Text} (hremaining : cursor.remaining = digits ++ behind)
    (hnumeral : Numeral digits) (hbehind : behind.Stops Char.isDigit) :
    integer cursor = .matched (Integer.ofDigits digits : Int) (cursor.past digits) := by
  refine integer_eq_matched_iff.mpr ⟨digits, ?_, hnumeral, rfl, rfl⟩
  rw [hremaining, Text.takeWhile_append_of_stops hnumeral.isDigit hbehind]

theorem exists_of_spaced_integer {value : Int}
    (hmatch : integer.spaced cursor = .matched value rest) :
    ∃ before digits after, Blank before ∧ Numeral digits ∧ Blank after ∧
      value = Integer.ofDigits digits ∧
        cursor.remaining = before ++ (digits ++ (after ++ rest.remaining)) := by
  obtain ⟨behind, hinteger, rfl⟩ := spaced_eq_matched_iff.mp hmatch
  obtain ⟨digits, hdigits, hnumeral, rfl, rfl⟩ := integer_eq_matched_iff.mp hinteger
  obtain ⟨before, hbefore, hremaining⟩ := exists_of_pastBlank cursor
  obtain ⟨after, hafter, hrest⟩ := exists_of_pastBlank (cursor.pastBlank.past digits)
  refine ⟨before, digits, after, hbefore, hnumeral, hafter, rfl, ?_⟩
  have hrun : digits <+: cursor.pastBlank.remaining := hdigits ▸ List.takeWhile_prefix _
  rw [← hrest, ← Cursor.remaining_of_isPrefix hrun, hremaining]

theorem spaced_integer_of_remaining {before digits after behind : Text}
    (hremaining : cursor.remaining = before ++ (digits ++ (after ++ behind)))
    (hbefore : Blank before) (hnumeral : Numeral digits) (hafter : Blank after)
    (hblank : behind.Stops isBlank) (hdigit : behind.Stops Char.isDigit) :
    integer.spaced cursor =
      .matched (Integer.ofDigits digits : Int) (cursor.past (before ++ (digits ++ after))) := by
  have hend : (after ++ behind).Stops Char.isDigit := hafter.stops_isDigit.append hdigit
  have hstart : (digits ++ (after ++ behind)).Stops isBlank :=
    hnumeral.stops_isBlank.append_of_ne_nil hnumeral.ne_nil _
  apply spaced_of_remaining hremaining hbefore hstart hafter hblank
  exact integer_of_remaining (Cursor.past_remaining hremaining) hnumeral hend

end Parser

end ParserCombinators
