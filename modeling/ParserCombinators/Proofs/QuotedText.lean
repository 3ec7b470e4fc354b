import ParserCombinators.Parser.Quote

/-!
# Quoted text is an exact code

Where quoted text ends is decided by a test on the end of a growing window, and its value by a
separate pass that takes escapes away.  This file proves that the two agree
(`quoted_is_an_exact_code`): quoted text is read exactly where a quote, an escaped value and a quote
stand, for every value that does not end in a backslash.

Both sides speak of one property, `Guarded`: every quote has a backslash right before it.  It is
followed from left to right and remembers the character before, which is all that the test sees of
its window apart from the new character.

* **Escapes.**  Escaped texts are guarded, and `escape` undoes `unescape` on guarded texts.
* **Scans.**  What a scan takes is guarded, and does not end in a backslash when a quote stopped it;
  a guarded text that does not end in a backslash is taken whole in front of a quote.

A value that ends in a backslash is the one that cannot be written: its closing quote would count as
escaped.
-/

namespace ParserCombinators

namespace Text.Quoted

variable {quote : Char}

/-! ## Escapes -/

/-- Every quote of the text has a backslash right before it.  `before` is the character that stands
in front of the text. -/
def Guarded (quote : Char) : Option Char → Text → Prop
  | _, [] => True
  | before, c :: rest => (c = quote → before = some '\\') ∧ Guarded quote (some c) rest

theorem guarded_escape (hquote : quote ≠ '\\') (before : Option Char) (text : Text) :
    Guarded quote before (escape quote text) := by
  induction text generalizing before with
  | nil => trivial
  | cons c rest ih =>
      by_cases hc : c = quote
      · rw [escape, if_pos hc]
        exact ⟨fun h => absurd h.symm hquote, fun _ => rfl, ih _⟩
      · rw [escape, if_neg hc]
        exact ⟨fun h => absurd h hc, ih _⟩

theorem getLast?_escape (quote : Char) (text : Text) :
    (escape quote text).getLast? = text.getLast? := by
  induction text with
  | nil => rfl
  | cons c rest ih =>
      by_cases hc : c = quote
      · simp [escape, hc, List.getLast?_cons, ih]
      · simp [escape, hc, List.getLast?_cons, ih]

/-- A backslash stands for itself in front of anything but a quote. -/
theorem unescape_backslash {text : Text} (h : text.head? ≠ some quote) :
    unescape quote ('\\' :: text) = '\\' :: unescape quote text := by
  cases text with
  | nil => rfl
  | cons c rest =>
      have hc : c ≠ quote := fun hc => h (congrArg some hc)
      rw [unescape, if_neg hc]

theorem unescape_cons {c : Char} (h : c ≠ '\\') (text : Text) :
    unescape quote (c :: text) = c :: unescape quote text := by
  rw [unescape]
  intro next rest hslash
  exact absurd hslash h

theorem unescape_escape (hquote : quote ≠ '\\') (text : Text) :
    unescape quote (escape quote text) = text := by
  induction text with
  | nil => rfl
  | cons c rest ih =>
      by_cases hc : c = quote
      · rw [escape, if_pos hc, unescape, if_pos rfl, ih, hc]
      · rw [escape, if_neg hc]
        by_cases hslash : c = '\\'
        · -- what follows the backslash is escaped, so it does not start with a quote
          have hhead : (escape quote rest).head? ≠ some quote := by
            intro hhead
            obtain ⟨tail, htail⟩ := List.head?_eq_some_iff.mp hhead
            have hguarded := guarded_escape hquote none rest
            rw [htail] at hguarded
            cases hguarded.1 rfl
          rw [hslash, unescape_backslash hhead, ih]
        · rw [unescape_cons hslash, ih]

theorem Guarded.of_head?_ne {before : Option Char} {text : Text} (h : Guarded quote before text)
    (hhead : text.head? ≠ some quote) (other : Option Char) : Guarded quote other text := by
  cases text with
  | nil => trivial
  | cons c rest => exact ⟨fun hc => absurd (congrArg some hc) hhead, h.2⟩

/-- The induction follows `unescape`: a backslash is taken together with the quote behind it. -/
theorem escape_unescape (hquote : quote ≠ '\\') {before : Option Char} {text : Text}
    (hbefore : before ≠ some '\\') (h : Guarded quote before text) :
    escape quote (unescape quote text) = text := by
  induction text using unescape.induct quote generalizing before with
  | case1 rest ih =>
      obtain ⟨-, -, hrest⟩ := h
      have hbehind : some quote ≠ some '\\' := by simpa using hquote
      rw [unescape, if_pos rfl, escape, if_pos rfl, ih hbehind hrest]
  | case2 c rest hc ih =>
      have hslash : '\\' ≠ quote := hquote.symm
      have hrest : Guarded quote none (c :: rest) :=
        h.2.of_head?_ne (by simpa using hc) none
      rw [unescape, if_neg hc, escape, if_neg hslash, ih (by simp) hrest]
  | case3 c rest hpair ih =>
      have hc : c ≠ quote := fun hc => hbefore (h.1 hc)
      have hrest : escape quote (unescape quote rest) = rest := by
        cases rest with
        | nil => rfl
        | cons d rest =>
            have hslash : c ≠ '\\' := fun hslash => hpair d rest hslash rfl
            exact ih (by simpa using hslash) h.2
      rw [unescape.eq_2 quote c rest hpair, escape, if_neg hc, hrest]
  | case4 => rfl

end Text.Quoted

namespace Parser

open Text.Quoted

variable {quote : Char}

/-! ## Scans -/

/-- A character is inside the quotes unless it is a quote without a backslash before it. -/
theorem insideQuotes_concat {window : Text} {c : Char} :
    insideQuotes quote (window ++ [c]) = true ↔ (c = quote → window.getLast? = some '\\') := by
  have hquoted : [quote] <:+ window ++ [c] ↔ c = quote := by
    rw [List.singleton_suffix_iff_getLast?_eq_some, List.getLast?_concat, Option.some.injEq]
  have hescaped : ['\\', quote] <:+ window ++ [c] ↔ c = quote ∧ window.getLast? = some '\\' := by
    rw [← List.singleton_suffix_iff_getLast?_eq_some]
    constructor
    · rintro ⟨front, hfront⟩
      have happend : (front ++ ['\\']) ++ [quote] = window ++ [c] := by
        rw [List.append_assoc]
        exact hfront
      obtain ⟨hwindow, hlast⟩ := List.append_inj' happend rfl
      exact ⟨(List.singleton_inj.mp hlast).symm, front, hwindow⟩
    · rintro ⟨rfl, front, hfront⟩
      exact ⟨front, by rw [← hfront, List.append_assoc]; rfl⟩
  simp only [insideQuotes, Bool.or_eq_true, Bool.not_eq_true', List.isSuffixOf_iff_suffix,
    Bool.eq_false_iff, ne_eq, hescaped, hquoted]
  by_cases hc : c = quote
  · simp [hc]
  · simp [hc]

theorem scanned_cons_eq_cons {window rest : Text} {c : Char}
    (h : c = quote → window.getLast? = some '\\') :
    scanned (insideQuotes quote) window (c :: rest) =
      c :: scanned (insideQuotes quote) (window ++ [c]) rest := by
  rw [scanned, if_pos (insideQuotes_concat.mpr h)]

theorem scanned_cons_eq_nil {window rest : Text} (h : window.getLast? ≠ some '\\') :
    scanned (insideQuotes quote) window (quote :: rest) = [] := by
  rw [scanned, if_neg]
  rw [insideQuotes_concat]
  exact fun hinside => h (hinside rfl)

/-- What a scan takes is guarded. -/
theorem guarded_scanned (window text : Text) :
    Guarded quote window.getLast? (scanned (insideQuotes quote) window text) := by
  induction text generalizing window with
  | nil => trivial
  | cons c rest ih =>
      by_cases hinside : insideQuotes quote (window ++ [c]) = true
      · rw [scanned, if_pos hinside]
        have hrest := ih (window ++ [c])
        rw [List.getLast?_concat] at hrest
        exact ⟨insideQuotes_concat.mp hinside, hrest⟩
      · rw [scanned, if_neg hinside]
        trivial

/-- A scan that stopped in front of a quote did not see a backslash last. -/
theorem getLast?_scanned_ne {window text rest : Text}
    (h : text = scanned (insideQuotes quote) window text ++ quote :: rest) :
    (window ++ scanned (insideQuotes quote) window text).getLast? ≠ some '\\' := by
  induction text generalizing window with
  | nil => simp [scanned] at h
  | cons c text ih =>
      by_cases hinside : insideQuotes quote (window ++ [c]) = true
      · rw [scanned, if_pos hinside] at h ⊢
        have hlast := ih (List.tail_eq_of_cons_eq h)
        rwa [List.append_assoc] at hlast
      · rw [scanned, if_neg hinside] at h ⊢
        obtain rfl : c = quote := List.head_eq_of_cons_eq h
        rw [insideQuotes_concat] at hinside
        simpa using hinside

/-- A guarded text is taken whole in front of a quote. -/
theorem scanned_guarded {window raw : Text} (hraw : Guarded quote window.getLast? raw)
    (hlast : (window ++ raw).getLast? ≠ some '\\') (rest : Text) :
    scanned (insideQuotes quote) window (raw ++ quote :: rest) = raw := by
  induction raw generalizing window with
  | nil =>
      rw [List.append_nil] at hlast
      exact scanned_cons_eq_nil hlast
  | cons c raw ih =>
      rw [List.cons_append, scanned_cons_eq_cons hraw.1, ih]
      · rw [List.getLast?_concat]
        exact hraw.2
      · rwa [List.append_assoc]

/-- The scan of quoted text stops in front of a quote exactly behind a guarded text that does not
end in a backslash. -/
theorem scanned_eq_iff_guarded {raw rest : Text} :
    scanned (insideQuotes quote) [] (raw ++ quote :: rest) = raw ↔
      Guarded quote none raw ∧ raw.getLast? ≠ some '\\' := by
  constructor
  · intro hraw
    have hguarded : Guarded quote none _ := guarded_scanned [] (raw ++ quote :: rest)
    have hlast := getLast?_scanned_ne (congrArg (· ++ quote :: rest) hraw.symm)
    rw [hraw] at hguarded hlast
    exact ⟨hguarded, hlast⟩
  · rintro ⟨hguarded, hlast⟩
    exact @scanned_guarded quote [] raw hguarded hlast rest

/-! ## Quoted text -/

theorem quoted_eq (quote : Char) (cursor : Cursor) :
    quoted quote cursor =
      (char quote cursor).andThen fun _ inside =>
        (char quote (inside.past (scanned (insideQuotes quote) [] inside.remaining))).andThen
          fun _ rest =>
            .matched (unescape quote (scanned (insideQuotes quote) [] inside.remaining)) rest := by
  have hempty : insideQuotes quote [] = true := rfl
  simp only [quoted, Parser.map, keepLeft_eq, keepRight_eq, scan_eq hempty, Reply.andThen_matched,
    Reply.map_andThen, Reply.map_map, Reply.andThen_andThen]
  rfl

/-- Quoted text is a guarded text between quotes that does not end in a backslash. -/
theorem quoted_eq_matched_iff_guarded {cursor rest : Cursor} {value : Text} :
    quoted quote cursor = .matched value rest ↔
      ∃ raw, Guarded quote none raw ∧ raw.getLast? ≠ some '\\' ∧ unescape quote raw = value ∧
        cursor.remaining = quote :: (raw ++ quote :: rest.remaining) ∧
        rest.position = cursor.position.afterText (quote :: (raw ++ [quote])) := by
  have hpast (raw : Text) : ((cursor.past [quote]).past raw).past [quote] =
      cursor.past (quote :: (raw ++ [quote])) := by
    rw [← Cursor.past_append, ← Cursor.past_append]
    rfl
  rw [quoted_eq]
  constructor
  · intro h
    obtain ⟨_, inside, hopening, h⟩ := Reply.andThen_eq_matched_iff.mp h
    obtain ⟨_, behind, hclosing, h⟩ := Reply.andThen_eq_matched_iff.mp h
    cases h
    obtain ⟨raw, hraw⟩ : ∃ raw, scanned (insideQuotes quote) [] inside.remaining = raw := ⟨_, rfl⟩
    rw [hraw] at hclosing ⊢
    obtain ⟨hopens, -, rfl⟩ := char_eq_matched_iff.mp hopening
    obtain ⟨hcloses, -, rfl⟩ := char_eq_matched_iff.mp hclosing
    have hinside : (cursor.past [quote]).remaining =
        raw ++ quote :: (((cursor.past [quote]).past raw).past [quote]).remaining := by
      rw [← Cursor.remaining_of_peek hcloses]
      apply Cursor.remaining_of_isPrefix
      rw [← hraw]
      exact scanned_isPrefix _ _ _
    rw [hinside] at hraw
    obtain ⟨hguarded, hlast⟩ := scanned_eq_iff_guarded.mp hraw
    refine ⟨raw, hguarded, hlast, rfl, ?_, ?_⟩
    · rw [Cursor.remaining_of_peek hopens, ← hinside]
    · rw [hpast]
      rfl
  · rintro ⟨raw, hguarded, hlast, rfl, hremaining, hposition⟩
    have hinside : (cursor.past [quote]).remaining = raw ++ quote :: rest.remaining :=
      Cursor.past_remaining hremaining
    have hbehind : ((cursor.past [quote]).past raw).remaining = quote :: rest.remaining :=
      Cursor.past_remaining hinside
    have hrest : rest = cursor.past (quote :: (raw ++ [quote])) :=
      (Cursor.eq_past_iff.mpr ⟨by simpa using hremaining, hposition⟩).2
    rw [char_of_peek (Cursor.peek_of_remaining hremaining), Reply.andThen_matched, hinside,
      scanned_eq_iff_guarded.mpr ⟨hguarded, hlast⟩,
      char_of_peek (Cursor.peek_of_remaining hbehind), Reply.andThen_matched, hpast, hrest]

theorem quoted_eq_matched_iff (hquote : quote ≠ '\\') {cursor rest : Cursor} {value : Text} :
    quoted quote cursor = .matched value rest ↔
      cursor.remaining = quote :: (escape quote value ++ quote :: rest.remaining) ∧
        rest.position = cursor.position.afterText (quote :: (escape quote value ++ [quote])) ∧
        value.getLast? ≠ some '\\' := by
  rw [quoted_eq_matched_iff_guarded]
  constructor
  · rintro ⟨raw, hguarded, hlast, rfl, hremaining, hposition⟩
    have hraw : escape quote (unescape quote raw) = raw := escape_unescape hquote (by simp) hguarded
    rw [← getLast?_escape quote, hraw]
    exact ⟨hremaining, hposition, hlast⟩
  · rintro ⟨hremaining, hposition, hlast⟩
    rw [← getLast?_escape quote] at hlast
    exact ⟨escape quote value, guarded_escape hquote none value, hlast,
      unescape_escape hquote value, hremaining, hposition⟩

/-- Quoted text starts with its quote. -/
theorem quoted_of_other {cursor : Cursor} {c : Char} (hpeek : cursor.peek = some c)
    (hne : c ≠ quote) : ∃ failure, quoted quote cursor = .failed failure := by
  have hopening : char quote cursor = .mismatch cursor (.otherChar quote c) := by
    simp [char, hpeek, hne]
  rw [quoted_eq, hopening]
  exact ⟨_, rfl⟩

theorem quotedString_eq_matched_iff {cursor rest : Cursor} {value : Text} :
    quotedString cursor = .matched value rest ↔
      quoted '\'' cursor = .matched value rest ∨ quoted '"' cursor = .matched value rest := by
  rw [quotedString, orElse_eq_matched_iff]
  refine or_congr_right ⟨And.right, fun hmatch => ⟨?_, hmatch⟩⟩
  -- what one kind of quote opens is not opened by the other
  obtain ⟨hremaining, -⟩ := (quoted_eq_matched_iff (by decide)).mp hmatch
  exact quoted_of_other (Cursor.peek_of_remaining hremaining) (by decide)

end Parser

/-- Quoted text is read exactly where a quote, an escaped value and a quote stand, and the value
does not end in a backslash.  So the values are coded exactly: `unescape` undoes `escape` on all of
them, `escape` undoes `unescape` on all that is accepted between the quotes, and the cursor moves
over the text as it is written. -/
theorem quoted_is_an_exact_code {quote : Char} (hquote : quote ≠ '\\') (cursor rest : Cursor)
    (value : Text) :
    (Parser.quoted quote cursor = .matched value rest ↔
      cursor.remaining =
          quote :: (Text.Quoted.escape quote value ++ quote :: rest.remaining) ∧
        rest.position =
          cursor.position.afterText (quote :: (Text.Quoted.escape quote value ++ [quote])) ∧
        value.getLast? ≠ some '\\') ∧
    Text.Quoted.unescape quote (Text.Quoted.escape quote value) = value ∧
    (Parser.quoted quote cursor = .matched value rest →
      ∀ raw, cursor.remaining = quote :: (raw ++ quote :: rest.remaining) →
        Text.Quoted.unescape quote raw = value ∧ Text.Quoted.escape quote value = raw) ∧
    (Parser.quotedString cursor = .matched value rest ↔
      Parser.quoted '\'' cursor = .matched value rest ∨
        Parser.quoted '"' cursor = .matched value rest) := by
  have hmatched := @Parser.quoted_eq_matched_iff quote hquote cursor rest value
  refine ⟨hmatched, Text.Quoted.unescape_escape hquote value, fun hmatch raw hraw => ?_,
    Parser.quotedString_eq_matched_iff⟩
  obtain ⟨hremaining, -, -⟩ := hmatched.mp hmatch
  have hescaped : Text.Quoted.escape quote value = raw := by
    rw [hraw] at hremaining
    exact (List.append_cancel_right (List.tail_eq_of_cons_eq hremaining)).symm
  exact ⟨by rw [← hescaped, Text.Quoted.unescape_escape hquote], hescaped⟩

/-- A backslash that stands for itself, an escaped quote and a quote of the other kind. -/
theorem quoted_is_an_exact_code_of_contraction :
    '\'' ≠ '\\' ∧
    Parser.quoted '\'' (.ofText ['\'', 'i', 't', '\\', '\'', 's', '\\', '"', '\'', '\'']) =
      .matched ['i', 't', '\'', 's', '\\', '"'] ⟨['\''], ⟨9, 0, 9⟩⟩ :=
  ⟨by decide, (quoted_is_an_exact_code (by decide) _ _ _).1.mpr (by decide)⟩

end ParserCombinators
