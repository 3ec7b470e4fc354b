import ParserCombinators.CharClass.Alphabetic
import ParserCombinators.CharClass.Blank
import ParserCombinators.CharClass.Extending
import ParserCombinators.CharClass.Hidden
import ParserCombinators.CharClass.Ignorable
import ParserCombinators.CharClass.Numeral

/-!
# The classes of characters that parsers ask for

Letters, digits and blanks are those of Unicode, and the ASCII classes of the core library are
contained in them.  A number is written with ASCII digits only.
-/

namespace ParserCombinators.CharClass

/-- A letter or a digit of any script. -/
def isLetterOrDigit (c : Char) : Bool := alphabetic.contains c || numeral.contains c

/-- White space of any kind. -/
def isBlank (c : Char) : Bool := blank.contains c

/-- One of the two characters that end a line. -/
def isLineBreak (c : Char) : Bool := c == '\r' || c == '\n'

/-- A character that is shown as itself in quoted output, and not by its code point: it prints as
something, is not ignored by default, and does not change the look of the character before it. -/
def isShown (c : Char) : Bool :=
  !(hidden.contains c || ignorable.contains c || extending.contains c)

/-! ## The ASCII classes -/

theorem isBlank_of_isWhitespace {c : Char} (h : c.isWhitespace = true) : isBlank c = true := by
  simp only [Char.isWhitespace, Bool.or_eq_true, decide_eq_true_eq] at h
  rcases h with ((h | h) | h) | h <;> subst h <;> rfl

theorem isBlank_eq_false_of_isDigit {c : Char} (h : c.isDigit = true) : isBlank c = false := by
  have hdigit : 48 ≤ c.toNat ∧ c.toNat ≤ 57 := by
    simpa [Char.isDigit, UInt32.le_iff_toNat_le] using h
  have hapart : ∀ range ∈ blank, range.2 < 48 ∨ 57 < range.1 := by decide
  apply Bool.eq_false_iff.mpr
  intro hblank
  obtain ⟨range, hmem, hrange⟩ := Ranges.contains_iff.mp hblank
  have := hapart range hmem
  omega

theorem isLetterOrDigit_of_isAlphanum {c : Char} (h : c.isAlphanum = true) :
    isLetterOrDigit c = true := by
  have upper : (0x41, 0x5A) ∈ alphabetic := .head _
  have lower : (0x61, 0x7A) ∈ alphabetic := .tail _ (.head _)
  have digits : (0x30, 0x39) ∈ numeral := .head _
  change (decide (65 ≤ c.val ∧ c.val ≤ 90) || decide (97 ≤ c.val) && decide (c.val ≤ 122)
    || decide (48 ≤ c.val) && decide (c.val ≤ 57)) = true at h
  simp only [Bool.or_eq_true, Bool.and_eq_true, decide_eq_true_eq, UInt32.le_iff_toNat_le] at h
  simp only [isLetterOrDigit, Bool.or_eq_true, Ranges.contains_iff]
  rcases h with (h | h) | h
  · exact .inl ⟨_, upper, h⟩
  · exact .inl ⟨_, lower, h⟩
  · exact .inr ⟨_, digits, h⟩

end ParserCombinators.CharClass
