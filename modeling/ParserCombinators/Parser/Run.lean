import ParserCombinators.Parser.Char

/-!
# Runs of characters

These parsers find out first how many bytes of the input belong to the run, and then take them in
one piece.  Three kinds of run are told apart: a fixed literal, the longest run of characters of
one class (`takeWhile1`, which does not accept an empty run), and the longest run all of whose
fronts pass a test (`scan`, which does).
-/

namespace ParserCombinators.Parser

/-! ## Lengths -/

/-- The number of bytes before the first character outside `wanted`. -/
def spanBytes (wanted : Char → Bool) : Text → Nat
  | [] => 0
  | c :: rest => if wanted c then c.utf8Size + spanBytes wanted rest else 0

theorem spanBytes_eq (wanted : Char → Bool) (text : Text) :
    spanBytes wanted text = Text.byteLength (text.takeWhile wanted) := by
  induction text with
  | nil => rfl
  | cons c rest ih => by_cases h : wanted c <;> simp [spanBytes, h, ih]

/-- The number of bytes that a scan accepts when it has accepted `accepted` of them so far and the
given text comes next.  The window that the test sees is cut out of the input for each character. -/
def scanBytes (accepts : Text → Bool) (cursor : Cursor) : Nat → Text → Except Fault Nat
  | accepted, [] => .ok accepted
  | accepted, c :: rest =>
      match cursor.ahead (accepted + c.utf8Size) with
      | .error cause => .error cause
      | .ok window =>
          if accepts window then scanBytes accepts cursor (accepted + c.utf8Size) rest
          else .ok accepted

/-- The characters themselves that a scan adds to its window. -/
def scanned (accepts : Text → Bool) (window : Text) : Text → Text
  | [] => []
  | c :: rest =>
      if accepts (window ++ [c]) then c :: scanned accepts (window ++ [c]) rest else []

theorem scanBytes_eq (accepts : Text → Bool) {cursor : Cursor} {window text : Text}
    (h : cursor.remaining = window ++ text) :
    scanBytes accepts cursor window.byteLength text =
      .ok (Text.byteLength (window ++ scanned accepts window text)) := by
  induction text generalizing window with
  | nil => simp [scanBytes, scanned]
  | cons c rest ih =>
      have hlonger : cursor.remaining = (window ++ [c]) ++ rest := by simp [h]
      have hbytes : (window ++ [c]).byteLength = window.byteLength + c.utf8Size := by simp
      -- the bytes up to the end of the next character are a front of the input
      have hwindow : cursor.ahead (window.byteLength + c.utf8Size) = .ok (window ++ [c]) := by
        rw [← hbytes]
        exact Cursor.ahead_of_isPrefix ⟨rest, hlonger.symm⟩
      rw [scanBytes, hwindow]
      by_cases haccepts : accepts (window ++ [c]) = true
      · simp only [haccepts, if_true, ← hbytes, ih hlonger]
        simp [scanned, haccepts]
      · simp [scanned, haccepts]

theorem scanned_isPrefix (accepts : Text → Bool) (window text : Text) :
    scanned accepts window text <+: text := by
  induction text generalizing window with
  | nil => exact List.prefix_rfl
  | cons c rest ih =>
      by_cases h : accepts (window ++ [c])
      · simpa [scanned, h] using ih (window ++ [c])
      · simp [scanned, h]

/-- The window is empty or its last character is of the class `wanted`. -/
def endsIn (wanted : Char → Bool) (window : Text) : Bool := window.getLast?.all wanted

/-- Such a window grows by the characters of the class that come next, whatever it already holds. -/
theorem scanned_endsIn (wanted : Char → Bool) (window text : Text) :
    scanned (endsIn wanted) window text = text.takeWhile wanted := by
  induction text generalizing window with
  | nil => rfl
  | cons c rest ih =>
      have hends : endsIn wanted (window ++ [c]) = wanted c := by simp [endsIn]
      by_cases hc : wanted c = true
      · simp [scanned, hends, hc, ih]
      · simp [scanned, hends, hc]

/-! ## Parsers -/

/-- Takes the next `bytes` bytes, whatever they are. -/
def take (bytes : Nat) : Parser Text := fun cursor =>
  .afterMove (cursor.ahead bytes) fun text =>
    .afterMove (cursor.advance text) fun rest => .matched text rest

/-- Taking the bytes of a text that starts the remaining input moves past that text. -/
theorem take_of_isPrefix {cursor : Cursor} {text : Text} (h : text <+: cursor.remaining) :
    take text.byteLength cursor = .matched text (cursor.past text) := by
  rw [take, Cursor.ahead_of_isPrefix h, Reply.afterMove_ok, Cursor.advance_eq_past h,
    Reply.afterMove_ok]

/-- Reads exactly `expected`.  A failure quotes as much input as the literal is long. -/
def literal (expected : Text) : Parser Text := fun cursor =>
  if expected.isPrefixOf cursor.remaining then take expected.byteLength cursor
  else if cursor.remaining.length < expected.length then
    .mismatch cursor (.literalCutShort expected)
  else .mismatch cursor (.otherText expected (cursor.remaining.take expected.length))

/-- Reads the longest text all of whose fronts, the empty one and itself included, pass the test.
-/
def scan (accepts : Text → Bool) : Parser Text := fun cursor =>
  if accepts [] then
    .afterMove (scanBytes accepts cursor 0 cursor.remaining) fun bytes => take bytes cursor
  else .mismatch cursor .nothingMatched

/-- Reads all the characters of the class `wanted` that come next, at least one. -/
def takeWhile1 (wanted : Char → Bool) : Parser Text := fun cursor =>
  if spanBytes wanted cursor.remaining = 0 then
    match cursor.peek with
    | some found => .mismatch cursor (.rejectedChar found)
    | none => .mismatch cursor .endOfInput
  else take (spanBytes wanted cursor.remaining) cursor

/-- Reads all the characters up to the next one of the class `unwanted`, at least one. -/
def takeUntil1 (unwanted : Char → Bool) : Parser Text := takeWhile1 fun c => !unwanted c

/-- Reads all the characters that come next and are among `chars`, at least one. -/
def takeFrom1 (chars : Text) : Parser Text := takeWhile1 fun c => chars.contains c

/-- Reads one or more letters or digits of any script. -/
def lettersOrDigits : Parser Text := takeWhile1 CharClass.isLetterOrDigit

theorem literal_of_isPrefix {expected : Text} {cursor : Cursor}
    (h : expected <+: cursor.remaining) :
    literal expected cursor = .matched expected (cursor.past expected) := by
  rw [literal, if_pos (List.isPrefixOf_iff_prefix.mpr h), take_of_isPrefix h]

/-- Where other input comes next, a literal fails without having moved. -/
theorem literal_of_other {expected : Text} {cursor : Cursor}
    (h : ¬ expected <+: cursor.remaining) :
    ∃ reason, literal expected cursor = .mismatch cursor reason := by
  rw [literal, if_neg (mt List.isPrefixOf_iff_prefix.mp h)]
  split <;> exact ⟨_, rfl⟩

theorem literal_eq_matched_iff {expected found : Text} {cursor rest : Cursor} :
    literal expected cursor = .matched found rest ↔
      expected <+: cursor.remaining ∧ found = expected ∧ rest = cursor.past expected := by
  constructor
  · intro h
    by_cases hstart : expected <+: cursor.remaining
    · rw [literal_of_isPrefix hstart, Reply.matched.injEq] at h
      exact ⟨hstart, h.1.symm, h.2.symm⟩
    · obtain ⟨reason, hother⟩ := literal_of_other hstart
      rw [hother] at h
      cases h
  · rintro ⟨hstart, rfl, rfl⟩
    exact literal_of_isPrefix hstart

/-- What a scan reads when it accepts the empty text. -/
theorem scan_eq {accepts : Text → Bool} (h : accepts [] = true) (cursor : Cursor) :
    scan accepts cursor =
      .matched (scanned accepts [] cursor.remaining)
        (cursor.past (scanned accepts [] cursor.remaining)) := by
  have hbytes : scanBytes accepts cursor 0 cursor.remaining =
      .ok (Text.byteLength (scanned accepts [] cursor.remaining)) :=
    @scanBytes_eq accepts cursor [] cursor.remaining rfl
  rw [scan, if_pos h, hbytes, Reply.afterMove_ok, take_of_isPrefix (scanned_isPrefix _ _ _)]

/-- A window that grows with the characters of a class reads all of them that come next. -/
theorem scan_endsIn (wanted : Char → Bool) (cursor : Cursor) :
    scan (endsIn wanted) cursor =
      .matched (cursor.remaining.takeWhile wanted)
        (cursor.past (cursor.remaining.takeWhile wanted)) := by
  have hempty : endsIn wanted [] = true := rfl
  rw [scan_eq hempty, scanned_endsIn]

/-- What a run of one class reads when it is not empty. -/
theorem takeWhile1_eq {wanted : Char → Bool} {cursor : Cursor}
    (h : cursor.remaining.takeWhile wanted ≠ []) :
    takeWhile1 wanted cursor =
      .matched (cursor.remaining.takeWhile wanted)
        (cursor.past (cursor.remaining.takeWhile wanted)) := by
  rw [takeWhile1, spanBytes_eq, if_neg (mt Text.byteLength_eq_zero_iff.mp h),
    take_of_isPrefix (List.takeWhile_prefix _)]

/-- Where no character of the class comes next, a run fails without having moved. -/
theorem takeWhile1_of_nil {wanted : Char → Bool} {cursor : Cursor}
    (h : cursor.remaining.takeWhile wanted = []) :
    ∃ reason, takeWhile1 wanted cursor = .mismatch cursor reason := by
  rw [takeWhile1, spanBytes_eq, if_pos (Text.byteLength_eq_zero_iff.mpr h)]
  split <;> exact ⟨_, rfl⟩

theorem takeWhile1_eq_matched_iff {wanted : Char → Bool} {cursor rest : Cursor} {run : Text} :
    takeWhile1 wanted cursor = .matched run rest ↔
      run = cursor.remaining.takeWhile wanted ∧ run ≠ [] ∧ rest = cursor.past run := by
  constructor
  · intro h
    by_cases hrun : cursor.remaining.takeWhile wanted = []
    · obtain ⟨reason, hother⟩ := takeWhile1_of_nil hrun
      rw [hother] at h
      cases h
    · rw [takeWhile1_eq hrun, Reply.matched.injEq] at h
      obtain ⟨rfl, rfl⟩ := h
      exact ⟨rfl, hrun, rfl⟩
  · intro h
    rcases h with ⟨rfl, hrun, rfl⟩
    exact takeWhile1_eq hrun

/-! ## Space -/

/-- Reads one or more blanks. -/
def spaces : Parser Text := takeWhile1 CharClass.isBlank

/-- Reads all the blanks that come next, if any. -/
def skipSpaces : Parser Text := scan (endsIn CharClass.isBlank)

/-- Reads one or more spaces and tabs. -/
def inlineSpaces : Parser Text := takeFrom1 [' ', '\t']

/-- Reads one or more line ends. -/
def lineBreaks : Parser Text := takeWhile1 CharClass.isLineBreak

/-- Reads `p` with blanks allowed on both sides of it. -/
def spaced {α : Type} (p : Parser α) : Parser α := (skipSpaces.keepRight p).keepLeft skipSpaces

end ParserCombinators.Parser
