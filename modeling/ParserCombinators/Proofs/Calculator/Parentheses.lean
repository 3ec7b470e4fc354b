import ParserCombinators.Proofs.Calculator.Language
import ParserCombinators.Proofs.Expression.Threshold

/-!
# Parentheses around an expression

The body of a group is read with the threshold zero, whatever the least precedence of the parser
itself.  So a text that is accepted at some least precedence keeps its tree between parentheses
exactly when it is accepted at zero as well (`parentheses_start_again_at_zero`).  That is so for a
least precedence that is not negative and for every table without negative precedences.  It is not
so for `1+2` where sums have a negative precedence that the least precedence lets through
(`negative_sum_loses_parentheses`).

What has to be ruled out is that the group ends elsewhere than the text, as it does in `(1)+(2)`,
which is `1)+(2` between parentheses.  The text between is an expression of the lower threshold, and
the body is the part of it that the higher one reads (`Parser.climb_split`).  Behind the body stands
a closing parenthesis, where the lower threshold stops as well, so the part is the whole.
-/

namespace ParserCombinators.Calculator

open CharClass (isBlank)
open ParserCombinators.Parser (spaced)

variable {operators : List Operator} {level least : Int} {cursor rest : Cursor} {text : Text}
  {tree : Tree Int}

/-! ## Notations between parentheses -/

namespace Renders

theorem parenthesize (h : Renders operators 0 text tree) (level : Int) :
    Renders operators level ('(' :: text ++ [')']) tree := by
  have hgroup : Renders operators level ([] ++ '(' :: [] ++ text ++ [] ++ ')' :: []) tree :=
    .group blank_nil blank_nil h blank_nil blank_nil
  simpa using hgroup

/-- Where no operator has a negative precedence, the levels below zero are the level zero. -/
theorem at_zero (h : Renders operators level text tree)
    (hprecedence : ∀ operator ∈ operators, operator.fixity = .infixOp → 0 ≤ operator.precedence) :
    Renders operators 0 text tree := by
  cases h with
  | number hbefore hnumeral hafter => exact .number hbefore hnumeral hafter
  | group hbefore hopened hbody hclosed hafter =>
      exact .group hbefore hopened hbody hclosed hafter
  | binary hmem hfixity _ hleft hright =>
      exact .binary hmem hfixity (hprecedence _ hmem hfixity) hleft hright

end Renders

/-! ## Reading from one parenthesis to the other -/

/-- Where a parenthesis comes next, only a group can be read. -/
theorem exists_body_of_opening (hremaining : cursor.remaining = '(' :: text)
    (hmatch : (integers operators).primary cursor = .matched tree rest) :
    ∃ start stop inside behind, spaced (.char '(') cursor = .matched start inside ∧
      (integers operators).primary.climb operators 0 inside = .matched tree behind ∧
      spaced (.char ')') behind = .matched stop rest := by
  rw [primary_eq] at hmatch
  rcases Parser.groupOr_eq_matched_iff.mp hmatch with ⟨start, stop, hgroup⟩ | ⟨-, value, hvalue, -⟩
  · exact ⟨start, stop, Parser.between_eq_matched_iff.mp hgroup⟩
  · obtain ⟨before, digits, after, hbefore, hnumeral, -, -, hnumber⟩ :=
      Parser.exists_of_spaced_integer hvalue
    rw [hremaining] at hnumber
    cases before with
    | nil =>
        cases digits with
        | nil => exact absurd rfl hnumeral.ne_nil
        | cons d digits =>
            obtain ⟨rfl, -⟩ := List.cons_eq_cons.mp hnumber
            cases hnumeral.isDigit '(' List.mem_cons_self
    | cons c before =>
        obtain ⟨rfl, -⟩ := List.cons_eq_cons.mp hnumber
        cases hbefore '(' List.mem_cons_self

/-- Where a group is closed, no operator comes next. -/
theorem grow_of_closing (h : Readable operators) {stop : Char}
    (hclosing : spaced (.char ')') cursor = .matched stop rest) (left : Tree Int) :
    (integers operators).primary.grow operators least left cursor = .matched left cursor := by
  obtain ⟨before, after, hbefore, -, hremaining⟩ := Parser.exists_of_spaced_char hclosing
  have hnone : Operator.first? operators cursor.remaining = none := by
    rw [hremaining]
    cases before with
    | nil => exact h.first?_reserved rfl _
    | cons c before =>
        have hblank : isBlank c = true := hbefore c List.mem_cons_self
        exact h.first?_reserved (by simp [isReserved, hblank]) _
  apply Parser.grow_of_none
  rw [Operator.next?, hnone]
  rfl

/-- The body of a group is the whole of what stands in it, if that is an expression of a threshold
below zero. -/
theorem renders_zero_of_body (h : Readable operators) {core behind : Text} {inside place : Cursor}
    {stop : Char} {body : Tree Int} (hleast : least ≤ 0)
    (hcore : Renders operators least core tree) (hinside : inside.remaining = core ++ ')' :: behind)
    (hbody : (integers operators).primary.climb operators 0 inside = .matched body place)
    (hclosing : spaced (.char ')') place = .matched stop rest) :
    Renders operators 0 core tree := by
  have hadvancing : Advancing (integers operators).primary operators :=
    .of_symbols (conserving_primary operators) h.symbol_ne_nil
  have hwhole : (integers operators).primary.climb operators least inside =
      .matched tree (inside.past core) :=
    (covers_of_renders h hcore).climb_eq_matched (Int.le_refl least) hinside (h.follows_closing _)
  -- the lower threshold goes on where the body ends, and stops there at once
  rw [Parser.climb_split hadvancing hleast, hbody, Reply.andThen_matched,
    grow_of_closing h hclosing] at hwhole
  cases hwhole
  obtain ⟨consumed, hconsumed, hrenders⟩ := between_of_climb hbody
  rw [Cursor.past_remaining hinside, hinside] at hconsumed
  rwa [List.append_cancel_right hconsumed]

/-- A notation that is accepted with parentheses around it is one at the level zero. -/
theorem renders_zero_of_parenthesized (h : Readable operators) {found : Tree Int}
    (hbetween : Renders operators least text tree)
    (haccepted : ((integers operators).withMinPrecedence least).parser.parseComplete
      ('(' :: text ++ [')']) = .accepted found) : Renders operators 0 text tree := by
  rcases Int.le_total 0 least with hnonneg | hneg
  · exact hbetween.lower hnonneg
  obtain ⟨blank, core, rfl, hblank, hstart, hcore⟩ := hbetween.exists_core
  obtain ⟨rest, hmatch, -⟩ := Parser.parseComplete_eq_accepted_iff.mp haccepted
  obtain ⟨first, closed, hprimary, -⟩ := Reply.andThen_eq_matched_iff.mp hmatch
  have hremaining : (Cursor.ofText ('(' :: (blank ++ core) ++ [')'])).remaining =
      [] ++ '(' :: (blank ++ (core ++ [')'])) := by
    simp [Cursor.ofText]
  obtain ⟨start, stop, inside, behind, hopening, hbody, hclosing⟩ :=
    exists_body_of_opening hremaining hprimary
  rw [Parser.spaced_char_of_remaining hremaining blank_nil rfl hblank
    (hstart.append_of_ne_nil hcore.ne_nil _)] at hopening
  cases hopening
  have hinside : ((Cursor.ofText ('(' :: (blank ++ core) ++ [')'])).past
      ([] ++ '(' :: blank)).remaining = core ++ [')'] := by
    apply Cursor.past_remaining
    simp [Cursor.ofText]
  have hzero : Renders operators 0 core tree :=
    renders_zero_of_body h hneg hcore hinside hbody hclosing
  exact hzero.prepend_blank hblank

/-- Parentheses around an accepted text are read as the text is at the least precedence zero. -/
theorem parentheses_start_again_at_zero (h : Readable operators)
    (haccepted : ((integers operators).withMinPrecedence least).parser.parseComplete text =
      .accepted tree) :
    (∀ found, ((integers operators).withMinPrecedence least).parser.parseComplete
        ('(' :: text ++ [')']) = .accepted found ↔
      (integers operators).parser.parseComplete text = .accepted found) ∧
    (0 ≤ least ∨
        (∀ operator ∈ operators, operator.fixity = .infixOp → 0 ≤ operator.precedence) →
      ((integers operators).withMinPrecedence least).parser.parseComplete
        ('(' :: text ++ [')']) = .accepted tree) := by
  have hbetween : Renders operators least text tree := (accepts_iff_renders h _ _ _).mp haccepted
  constructor
  · intro found
    rw [accepts_iff_renders h, integers_accepts_iff_renders h]
    constructor
    · intro hfound
      have hzero : Renders operators 0 text tree :=
        renders_zero_of_parenthesized h hbetween ((accepts_iff_renders h _ _ _).mpr hfound)
      rwa [hfound.tree_unique h (hzero.parenthesize least)]
    · intro hzero
      exact hzero.parenthesize least
  · intro hsigns
    apply (accepts_iff_renders h _ _ _).mpr
    have hzero : Renders operators 0 text tree := by
      rcases hsigns with hnonneg | hprecedence
      · exact hbetween.lower hnonneg
      · exact hbetween.at_zero hprecedence
    exact hzero.parenthesize least

/-- Where sums have a negative precedence, `(1)*(2)` keeps its tree between parentheses. -/
theorem parentheses_start_again_at_zero_of_product :
    Readable [⟨.infixOp, ['+'], -1⟩, ⟨.infixOp, ['*'], 1⟩] ∧
      ((integers [⟨.infixOp, ['+'], -1⟩, ⟨.infixOp, ['*'], 1⟩]).withMinPrecedence
          (-1)).parser.parseComplete [' ', '(', '1', ')', '*', '(', '2', ')'] =
        .accepted (.binary (.leaf 1) ⟨.infixOp, ['*'], 1⟩ (.leaf 2)) ∧
      ((integers [⟨.infixOp, ['+'], -1⟩, ⟨.infixOp, ['*'], 1⟩]).withMinPrecedence
          (-1)).parser.parseComplete ['(', ' ', '(', '1', ')', '*', '(', '2', ')', ')'] =
        .accepted (.binary (.leaf 1) ⟨.infixOp, ['*'], 1⟩ (.leaf 2)) := by
  have hreadable : Readable [⟨.infixOp, ['+'], -1⟩, ⟨.infixOp, ['*'], 1⟩] :=
    ⟨⟨by decide, by decide⟩, by decide⟩
  have haccepted : ((integers [⟨.infixOp, ['+'], -1⟩, ⟨.infixOp, ['*'], 1⟩]).withMinPrecedence
      (-1)).parser.parseComplete [' ', '(', '1', ')', '*', '(', '2', ')'] =
        .accepted (.binary (.leaf 1) ⟨.infixOp, ['*'], 1⟩ (.leaf 2)) := by decide
  exact ⟨hreadable, haccepted,
    ((parentheses_start_again_at_zero hreadable haccepted).1 _).mpr (by decide)⟩

/-- A sum of a negative precedence is accepted where the least precedence lets it through, but not
between parentheses: its body ends in front of the operator. -/
theorem negative_sum_loses_parentheses :
    Readable [⟨.infixOp, ['+'], -1⟩] ∧
      ((integers [⟨.infixOp, ['+'], -1⟩]).withMinPrecedence (-1)).parser.parseComplete
          ['1', '+', '2'] =
        .accepted (.binary (.leaf 1) ⟨.infixOp, ['+'], -1⟩ (.leaf 2)) ∧
      ((integers [⟨.infixOp, ['+'], -1⟩]).withMinPrecedence (-1)).parser.parseComplete
          ['(', '1', '+', '2', ')'] =
        .rejected (.mismatch "expected ')' but found '+' AND '(' does not satisfy condition"
          ⟨2, 0, 2⟩) :=
  ⟨⟨⟨by decide, by decide⟩, by decide⟩, by decide, by decide⟩

end ParserCombinators.Calculator
