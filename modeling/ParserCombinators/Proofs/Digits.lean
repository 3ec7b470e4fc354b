import Mathlib.Data.List.Induction
import Mathlib.Data.Nat.Digits.Defs
import ParserCombinators.Calculator.Notation
import ParserCombinators.Parser.Number

/-!
# Numbers are read from whole runs of digits

A number takes all the digits that come next, and its value is computed in 64 bits from the first of them
to the last.  The run has no bound on its length, the value has one.

* **Computing.**  A number on the way is at most the value of the whole run.  So the computation is given
  up at some digit exactly when the value of the whole run does not fit; zeros in front do not count
  (`ofDigits?_eq`).  The induction is on the run from its end, where the computation takes its last step.
* **Meaning.**  What is computed weighs every digit by its place (`ofDigits_eq_decimalValue`), and is the
  number of which these are the digits, with some zeros in front (`ofDigits_zeros_append_toDigits`).
* **Reading.**  The run is the longest one (`Text.isRun_takeWhile`).  A number that is too large is not
  read in part: the parser fails where the run starts (`Parser.integer_of_not_fits`).
-/

namespace ParserCombinators

/-! ## Runs -/

namespace Text

/-- The longest front of the text with all its characters in the class. -/
structure IsRun (wanted : Char → Bool) (text run : Text) : Prop where
  isPrefix : run <+: text
  wanted_of_mem : ∀ c ∈ run, wanted c = true
  longest : ∀ other, other <+: text → (∀ c ∈ other, wanted c = true) → other <+: run

variable {wanted : Char → Bool} {text run : Text}

theorem isRun_takeWhile (wanted : Char → Bool) (text : Text) :
    IsRun wanted text (text.takeWhile wanted) where
  isPrefix := List.takeWhile_prefix wanted
  wanted_of_mem := List.all_eq_true.mp List.all_takeWhile
  longest := by
    rintro other ⟨tail, rfl⟩ hother
    rw [List.takeWhile_append_of_pos hother]
    exact List.prefix_append _ _

theorem IsRun.unique {other : Text} (hrun : IsRun wanted text run) (hother : IsRun wanted text other) :
    run = other := by
  have hle : run <+: other := hother.longest run hrun.isPrefix hrun.wanted_of_mem
  have hge : other <+: run := hrun.longest other hother.isPrefix hother.wanted_of_mem
  exact hle.eq_of_length (Nat.le_antisymm hle.length_le hge.length_le)

end Text

/-! ## Computing in 64 bits -/

namespace Integer

theorem fits_iff_le {value : Nat} : Fits (value : Int) ↔ value ≤ 2 ^ 63 - 1 := by
  unfold Fits least greatest
  omega

/-- The sum is not less than the tenfold, so it decides alone. -/
theorem appendDigit?_eq (value : Nat) (c : Char) :
    appendDigit? value c =
      if Fits (10 * value + digitValue c : Nat) then some ((10 * value + digitValue c : Nat) : Int)
      else none := by
  have htenfold : Fits (10 * (value : Int) + digitValue c) → Fits (10 * (value : Int)) := by
    unfold Fits least greatest
    omega
  simp only [appendDigit?, and_iff_right_of_imp htenfold, Nat.cast_add, Nat.cast_mul, Nat.cast_ofNat]

/-- The value of the whole run decides whether the computation comes to its end. -/
theorem ofDigits?_eq (digits : Text) :
    ofDigits? digits =
      if Fits (ofDigits digits) then some (ofDigits digits : Int) else none := by
  induction digits using List.reverseRecOn with
  | nil => rfl
  | append_singleton digits c ih =>
      rw [ofDigits?_concat, ih, ofDigits_concat]
      by_cases hfits : Fits (ofDigits digits)
      · rw [if_pos hfits, Option.bind_some, appendDigit?_eq]
      · -- a longer run stands for no smaller number
        have hlonger : ¬ Fits (10 * ofDigits digits + digitValue c : Nat) := by
          rw [fits_iff_le] at *
          omega
        rw [if_neg hfits, Option.bind_none, if_neg hlonger]

/-! ## The number that is meant -/

/-- Every digit counts as its place says, the last one once and each one before it ten times as often. -/
def decimalValue (digits : Text) : Nat := Nat.ofDigits 10 (digits.reverse.map digitValue)

theorem ofDigits_eq_decimalValue (digits : Text) : ofDigits digits = decimalValue digits := by
  induction digits using List.reverseRecOn with
  | nil => rfl
  | append_singleton digits c ih =>
      rw [ofDigits_concat, ih, decimalValue, decimalValue, List.reverse_concat, List.map_cons,
        Nat.ofDigits_cons, Nat.add_comm]

/-- The digits of a number have its value, and zeros in front of them do not change it. -/
theorem ofDigits_zeros_append_toDigits (zeros value : Nat) :
    ofDigits (List.replicate zeros '0' ++ Nat.toDigits 10 value) = value := by
  calc ofDigits (List.replicate zeros '0' ++ Nat.toDigits 10 value)
      = Nat.ofDigitChars 10 (List.replicate zeros '0' ++ Nat.toDigits 10 value) 0 := rfl
    _ = Nat.ofDigitChars 10 (Nat.toDigits 10 value) 0 := by
          rw [Nat.ofDigitChars_append, Nat.ofDigitChars_replicate_zero, Nat.mul_zero]
    _ = value := Nat.ofDigitChars_ten_toDigits

end Integer

/-! ## Reading -/

namespace Parser

open Calculator (Numeral)

variable {cursor rest : Cursor} {value : Int}

/-- The parser without the steps of the computation. -/
theorem integer_eq (cursor : Cursor) :
    integer cursor =
      (takeWhile1 Char.isDigit cursor).andThen fun digits rest =>
        if Integer.Fits (Integer.ofDigits digits) then .matched (Integer.ofDigits digits : Int) rest
        else .mismatch cursor (.numberTooLarge digits) := by
  apply Reply.andThen_congr
  intro digits rest _
  rw [Integer.ofDigits?_eq]
  by_cases hfits : Integer.Fits (Integer.ofDigits digits)
  · rw [if_pos hfits, if_pos hfits]
  · rw [if_neg hfits, if_neg hfits]

theorem integer_eq_matched_iff :
    integer cursor = .matched value rest ↔
      ∃ digits, digits = cursor.remaining.takeWhile Char.isDigit ∧ Numeral digits ∧
        value = Integer.ofDigits digits ∧ rest = cursor.past digits := by
  rw [integer_eq, Reply.andThen_eq_matched_iff]
  constructor
  · intro h
    rcases h with ⟨digits, behind, hrun, hvalue⟩
    obtain ⟨hdigits, hne, rfl⟩ := takeWhile1_eq_matched_iff.mp hrun
    by_cases hfits : Integer.Fits (Integer.ofDigits digits)
    · rw [if_pos hfits, Reply.matched.injEq] at hvalue
      have hisDigit : ∀ c ∈ digits, c.isDigit = true := by
        rw [hdigits]
        exact (Text.isRun_takeWhile _ _).wanted_of_mem
      exact ⟨digits, hdigits, ⟨hne, hisDigit, hfits⟩, hvalue.1.symm, hvalue.2.symm⟩
    · simp [hfits, Reply.mismatch] at hvalue
  · intro h
    rcases h with ⟨digits, hdigits, hnumeral, rfl, rfl⟩
    refine ⟨digits, _, takeWhile1_eq_matched_iff.mpr ⟨hdigits, hnumeral.ne_nil, rfl⟩, ?_⟩
    rw [if_pos hnumeral.fits]

theorem integer_of_nil (h : cursor.remaining.takeWhile Char.isDigit = []) :
    ∃ reason, integer cursor = .mismatch cursor reason := by
  obtain ⟨reason, hother⟩ := takeWhile1_of_nil h
  refine ⟨reason, ?_⟩
  rw [integer_eq, hother]
  rfl

/-- The failure quotes the whole run and points to where it starts. -/
theorem integer_of_not_fits {digits : Text} (hdigits : digits = cursor.remaining.takeWhile Char.isDigit)
    (hlarge : ¬ Integer.Fits (Integer.ofDigits digits)) :
    integer cursor = .mismatch cursor (.numberTooLarge digits) := by
  have hne : digits ≠ [] := by
    rintro rfl
    exact hlarge (by decide)
  rw [integer_eq, takeWhile1_eq_matched_iff.mpr ⟨hdigits, hne, rfl⟩, Reply.andThen_matched,
    if_neg hlarge]

/-- All the digits that come next are read as one number, if there are any and their value is at most the
greatest that fits.  Otherwise nothing is consumed.  The value is that of the decimal notation. -/
theorem integer_reads_the_whole_run (cursor : Cursor) :
    ∃ digits, Text.IsRun Char.isDigit cursor.remaining digits ∧
      (∀ value rest, integer cursor = .matched value rest ↔
        digits ≠ [] ∧ Integer.decimalValue digits ≤ 2 ^ 63 - 1 ∧
          value = Integer.decimalValue digits ∧ rest = cursor.past digits) ∧
      (digits = [] → ∃ reason, integer cursor = .mismatch cursor reason) ∧
      (2 ^ 63 - 1 < Integer.decimalValue digits →
        integer cursor = .mismatch cursor (.numberTooLarge digits)) ∧
      ∀ zeros number, digits = List.replicate zeros '0' ++ Nat.toDigits 10 number →
        Integer.decimalValue digits = number := by
  obtain ⟨digits, hdigits⟩ : ∃ digits, digits = cursor.remaining.takeWhile Char.isDigit := ⟨_, rfl⟩
  have hrun : Text.IsRun Char.isDigit cursor.remaining digits := hdigits ▸ Text.isRun_takeWhile _ _
  have hvalue : Integer.decimalValue digits = Integer.ofDigits digits :=
    (Integer.ofDigits_eq_decimalValue digits).symm
  refine ⟨digits, hrun, fun value rest => ?_, fun hnil => integer_of_nil (hdigits ▸ hnil), ?_, ?_⟩
  · rw [integer_eq_matched_iff, hvalue, ← Integer.fits_iff_le]
    constructor
    · rintro ⟨other, hother, hnumeral, hmeans, hrest⟩
      obtain rfl : other = digits := hother.trans hdigits.symm
      exact ⟨hnumeral.ne_nil, hnumeral.fits, hmeans, hrest⟩
    · rintro ⟨hne, hfits, hmeans, hrest⟩
      exact ⟨digits, hdigits, ⟨hne, hrun.wanted_of_mem, hfits⟩, hmeans, hrest⟩
  · intro hlarge
    rw [hvalue] at hlarge
    exact integer_of_not_fits hdigits (mt Integer.fits_iff_le.mp (Nat.not_le_of_lt hlarge))
  · rintro zeros number rfl
    rw [hvalue, Integer.ofDigits_zeros_append_toDigits]

/-- Two zeros and the greatest number that fits are read up to the letter.  The next number is left where
it is. -/
theorem integer_reads_the_whole_run_of_limit :
    integer ⟨"009223372036854775807x".toList, ⟨5, 1, 2⟩⟩ =
        .matched 9223372036854775807 ⟨['x'], ⟨26, 1, 23⟩⟩ ∧
      integer ⟨"9223372036854775808x".toList, ⟨5, 1, 2⟩⟩ =
        .mismatch ⟨"9223372036854775808x".toList, ⟨5, 1, 2⟩⟩
          (.numberTooLarge "9223372036854775808".toList) := by
  constructor
  · obtain ⟨digits, hrun, hmatch, -, -, hwritten⟩ :=
      integer_reads_the_whole_run ⟨"009223372036854775807x".toList, ⟨5, 1, 2⟩⟩
    have hdigits : digits = List.replicate 2 '0' ++ Nat.toDigits 10 9223372036854775807 :=
      hrun.unique (Text.isRun_takeWhile _ _)
    have hvalue := hwritten 2 9223372036854775807 hdigits
    rw [hmatch, hvalue, hdigits]
    exact ⟨by decide, by decide, rfl, by decide⟩
  · obtain ⟨digits, hrun, -, -, hlarge, hwritten⟩ :=
      integer_reads_the_whole_run ⟨"9223372036854775808x".toList, ⟨5, 1, 2⟩⟩
    have hdigits : digits = "9223372036854775808".toList := hrun.unique (Text.isRun_takeWhile _ _)
    have hvalue := hwritten 0 9223372036854775808 hdigits
    rw [← hdigits]
    exact hlarge (by rw [hvalue]; decide)

end Parser

end ParserCombinators
