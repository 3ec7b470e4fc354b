import ParserCombinators.Proofs.Expression.Nesting

/-!
# Larger bounds

Loops, nested expressions and nested groups have bounds, and this file shows what a bound cannot do: it
cannot change an answer.  Of a parser that runs within one bound and within a larger one the first
`Approximates` the second, which means that they agree wherever the first has not run out.  So the answers
within all bounds fit together, and what holds of the parsers within every bound holds of each
answer that there is, however long it takes to get there.

* **Going on.**  No combinator recovers from a fault, so a combinator that goes on alike from two replies
  keeps the relation (`Reply.Approximates.handle`).
* **Loops.**  A loop with more rounds goes on alike in each round (`Parser.Approximates.moreValues` and its
  like), whatever the parser does that it repeats.
* **Groups.**  The body of a group is read by primaries that are themselves bounded, so a larger bound means
  other primaries.  For that reason the lemmas about loops let the parser vary together with the bound.

Nothing is asked of the parsers so far.  Of operands that consume what they match the bound that is set where
none is named is large enough: it finds the answer that any other bound finds
(`ExpressionParser.plain_parser_eq_of_answer`, `ExpressionParser.grouped_parser_eq_of_answer`).
-/

namespace ParserCombinators

variable {α β γ : Type}

/-! ## Replies and parsers -/

/-- The later reply is the same, unless this one has run out of a bound. -/
def Reply.Approximates (reply later : Reply α) : Prop :=
  reply ≠ .fault .diverged → later = reply

namespace Reply.Approximates

variable {reply later : Reply α}

theorem refl (reply : Reply α) : reply.Approximates reply := fun _ => rfl

theorem of_diverged (later : Reply α) : (Reply.fault .diverged).Approximates later :=
  fun hne => absurd rfl hne

theorem handle {onMatch onMatch' : α → Cursor → Reply β} {onFail onFail' : Failure → Reply β}
    (h : reply.Approximates later)
    (hmatch : ∀ value rest, (onMatch value rest).Approximates (onMatch' value rest))
    (hfail : ∀ failure, (onFail failure).Approximates (onFail' failure)) :
    (reply.handle onMatch onFail).Approximates (later.handle onMatch' onFail') := by
  intro hne
  have hsame : later = reply := h fun hdiverged => hne (by rw [hdiverged, handle_fault])
  rw [hsame]
  cases reply with
  | matched value rest => exact hmatch value rest hne
  | failed failure => exact hfail failure hne
  | fault cause => rfl

theorem andThen {onMatch onMatch' : α → Cursor → Reply β} (h : reply.Approximates later)
    (hmatch : ∀ value rest, (onMatch value rest).Approximates (onMatch' value rest)) :
    (reply.andThen onMatch).Approximates (later.andThen onMatch') :=
  h.handle hmatch fun failure => refl (.failed failure)

theorem recover {onFail onFail' : Failure → Reply α} (h : reply.Approximates later)
    (hfail : ∀ failure, (onFail failure).Approximates (onFail' failure)) :
    (reply.recover onFail).Approximates (later.recover onFail') :=
  h.handle (fun value rest => refl (.matched value rest)) hfail

theorem map (h : reply.Approximates later) (f : α → β) : (reply.map f).Approximates (later.map f) :=
  h.andThen fun _ _ => refl _

end Reply.Approximates

/-- The later parser replies the same wherever this one does not run out of a bound. -/
def Parser.Approximates (p later : Parser α) : Prop :=
  ∀ cursor, (p cursor).Approximates (later cursor)

namespace Parser.Approximates

theorem refl (p : Parser α) : p.Approximates p := fun cursor => .refl (p cursor)

/-- Two parsers that approximate a common one agree wherever both have an answer. -/
theorem eq_of_common {first second later : Parser α} (hfirst : first.Approximates later)
    (hsecond : second.Approximates later) {cursor : Cursor}
    (hanswers : first cursor ≠ .fault .diverged) (hanswers' : second cursor ≠ .fault .diverged) :
    first cursor = second cursor :=
  calc first cursor
      = later cursor := (hfirst cursor hanswers).symm
    _ = second cursor := hsecond cursor hanswers'

/-! ## Repetition -/

section Repetition

variable {p later : Parser α} {separator laterSeparator : Parser β}

theorem moreValues (h : p.Approximates later) {rounds larger : Nat} (hle : rounds ≤ larger) :
    (p.moreValues rounds).Approximates (later.moreValues larger) := by
  induction rounds generalizing larger with
  | zero => exact fun cursor => .of_diverged _
  | succ rounds ih =>
      obtain ⟨larger, rfl⟩ := Nat.exists_eq_succ_of_ne_zero (Nat.ne_zero_of_lt hle)
      have hfewer := Nat.le_of_succ_le_succ hle
      intro cursor
      refine (h cursor).handle (fun value rest => ?_) fun _ => .refl _
      split
      · exact .refl _
      · exact (ih hfewer rest).map _

theorem many1Within (h : p.Approximates later) {rounds larger : Text → Nat}
    (hle : ∀ text, rounds text ≤ larger text) :
    (p.many1Within rounds).Approximates (later.many1Within larger) := by
  intro cursor
  refine (h cursor).andThen fun value rest => ?_
  split
  · exact .refl _
  · exact (h.moreValues (hle _) rest).map _

theorem moreItems (h : p.Approximates later) (hseparator : separator.Approximates laterSeparator)
    (trailing : Bool) {rounds larger : Nat} (hle : rounds ≤ larger) :
    (p.moreItems separator trailing rounds).Approximates
      (later.moreItems laterSeparator trailing larger) := by
  induction rounds generalizing larger with
  | zero => exact fun cursor => .of_diverged _
  | succ rounds ih =>
      obtain ⟨larger, rfl⟩ := Nat.exists_eq_succ_of_ne_zero (Nat.ne_zero_of_lt hle)
      have hfewer := Nat.le_of_succ_le_succ hle
      intro cursor
      refine (hseparator cursor).handle (fun _ behind => ?_) fun _ => .refl _
      refine (h behind).handle (fun value rest => ?_) fun _ => .refl _
      split
      · exact .refl _
      · exact (ih hfewer rest).map _

theorem sepBy1Within (h : p.Approximates later)
    (hseparator : separator.Approximates laterSeparator) (trailing : Bool)
    {rounds larger : Text → Nat} (hle : ∀ text, rounds text ≤ larger text) :
    (p.sepBy1Within separator trailing rounds).Approximates
      (later.sepBy1Within laterSeparator trailing larger) :=
  fun cursor => (h cursor).andThen fun _ rest =>
    (h.moreItems hseparator trailing (hle _) rest).map _

end Repetition

/-! ## Expressions -/

section Expressions

variable {operators : List Operator}

theorem moreTokens {operand later : Parser α} (h : operand.Approximates later)
    (accepts : Operator → Bool) {rounds larger : Nat} (hle : rounds ≤ larger) :
    (operand.moreTokens accepts operators rounds).Approximates
      (later.moreTokens accepts operators larger) := by
  induction rounds generalizing larger with
  | zero => exact fun cursor => .of_diverged _
  | succ rounds ih =>
      obtain ⟨larger, rfl⟩ := Nat.exists_eq_succ_of_ne_zero (Nat.ne_zero_of_lt hle)
      have hfewer := Nat.le_of_succ_le_succ hle
      intro cursor
      rw [moreTokens_succ, moreTokens_succ]
      split
      · exact .refl _
      · next found _ =>
          exact (h _).andThen fun value rest => (ih hfewer rest).map _

theorem tokensWhileWithin {operand later : Parser α} (h : operand.Approximates later)
    (accepts : Operator → Bool) {rounds larger : Text → Nat}
    (hle : ∀ text, rounds text ≤ larger text) :
    (operand.tokensWhileWithin accepts operators rounds).Approximates
      (later.tokensWhileWithin accepts operators larger) :=
  fun cursor => (h cursor).andThen fun _ rest => (h.moreTokens accepts (hle _) rest).map _

theorem extend {primary later : Parser (Tree α)} (h : primary.Approximates later)
    {depth larger : Nat} (hle : depth ≤ larger) (least : Int) (left : Tree α) :
    (primary.extend operators depth least left).Approximates
      (later.extend operators larger least left) := by
  induction depth generalizing larger least left with
  | zero => exact fun cursor => .of_diverged _
  | succ depth ih =>
      obtain ⟨larger, rfl⟩ := Nat.exists_eq_succ_of_ne_zero (Nat.ne_zero_of_lt hle)
      have hfewer := Nat.le_of_succ_le_succ hle
      intro cursor
      rw [extend_succ, extend_succ]
      split
      · exact .refl _
      · next found _ =>
          -- first what stands to the right of the operator, then the loop behind it
          have hright := (h (cursor.past found.symbol)).andThen fun start inside =>
            ih hfewer (found.precedence + 1) start inside
          exact hright.andThen fun right rest => ih hfewer least _ rest

theorem climbWithin {primary later : Parser (Tree α)} (h : primary.Approximates later)
    (least : Int) {depth larger : Text → Nat} (hle : ∀ text, depth text ≤ larger text) :
    (primary.climbWithin operators least depth).Approximates
      (later.climbWithin operators least larger) :=
  fun cursor => (h cursor).andThen fun left rest => h.extend (hle _) least left rest

theorem groupOr (operand : Parser α) (opening : Parser β) (closing : Parser γ)
    {body later : Parser (Tree α)} (h : body.Approximates later) :
    (operand.groupOr opening body closing).Approximates
      (operand.groupOr opening later closing) := by
  intro cursor
  have hbetween : (between opening body closing cursor).Approximates
      (between opening later closing cursor) :=
    (Reply.Approximates.refl _).andThen fun _ inside => (h inside).andThen fun _ _ => .refl _
  exact (hbetween.map _).recover fun _ => .refl _

theorem nestedGroup (operand : Parser α) (opening : Parser β) (closing : Parser γ)
    {depth deeper : Text → Nat} (hdepth : ∀ text, depth text ≤ deeper text) {levels larger : Nat}
    (hle : levels ≤ larger) :
    (operand.nestedGroup opening closing operators depth levels).Approximates
      (operand.nestedGroup opening closing operators deeper larger) := by
  induction levels generalizing larger with
  | zero => exact fun cursor => .of_diverged _
  | succ levels ih =>
      obtain ⟨larger, rfl⟩ := Nat.exists_eq_succ_of_ne_zero (Nat.ne_zero_of_lt hle)
      have hfewer := Nat.le_of_succ_le_succ hle
      exact groupOr operand opening closing ((ih hfewer).climbWithin 0 hdepth)

theorem groupWithin (operand : Parser α) (opening : Parser β) (closing : Parser γ)
    {depth deeper levels larger : Text → Nat} (hdepth : ∀ text, depth text ≤ deeper text)
    (hle : ∀ text, levels text ≤ larger text) :
    (operand.groupWithin opening closing operators depth levels).Approximates
      (operand.groupWithin opening closing operators deeper larger) :=
  fun cursor => nestedGroup operand opening closing hdepth (hle _) cursor

end Expressions

end Parser.Approximates

/-! ## Expression parsers -/

namespace ExpressionParser

variable {operand : Parser α} {operators : List Operator} {least : Int}

theorem plain_approximates {depth deeper : Text → Nat} (hle : ∀ text, depth text ≤ deeper text) :
    (((plain operand operators).withMinPrecedence least).parserWithin depth).Approximates
      (((plain operand operators).withMinPrecedence least).parserWithin deeper) :=
  (Parser.Approximates.refl operand.leaf).climbWithin least hle

theorem grouped_approximates {opening : Parser β} {closing : Parser γ}
    {depth deeper inner innerDeeper levels more : Text → Nat}
    (hdepth : ∀ text, depth text ≤ deeper text) (hinner : ∀ text, inner text ≤ innerDeeper text)
    (hlevels : ∀ text, levels text ≤ more text) :
    (((groupedWithin operand opening closing operators inner levels).withMinPrecedence
        least).parserWithin depth).Approximates
      (((groupedWithin operand opening closing operators innerDeeper more).withMinPrecedence
        least).parserWithin deeper) :=
  (Parser.Approximates.groupWithin operand opening closing hinner hlevels).climbWithin least hdepth

/-- An expression has one answer, in whichever bound it is found. -/
theorem plain_answer_unique {first second : Text → Nat} {cursor : Cursor}
    (hfirst : ((plain operand operators).withMinPrecedence least).parserWithin first cursor ≠
      .fault .diverged)
    (hsecond : ((plain operand operators).withMinPrecedence least).parserWithin second cursor ≠
      .fault .diverged) :
    ((plain operand operators).withMinPrecedence least).parserWithin first cursor =
      ((plain operand operators).withMinPrecedence least).parserWithin second cursor := by
  have hleft : ∀ text, first text ≤ max (first text) (second text) :=
    fun text => Nat.le_max_left _ _
  have hright : ∀ text, second text ≤ max (first text) (second text) :=
    fun text => Nat.le_max_right _ _
  exact (plain_approximates hleft).eq_of_common (plain_approximates hright) hfirst hsecond

/-- And so has an expression with groups. -/
theorem grouped_answer_unique {opening : Parser β} {closing : Parser γ}
    {first inner levels second inner' levels' : Text → Nat} {cursor : Cursor}
    (hfirst : ((groupedWithin operand opening closing operators inner levels).withMinPrecedence
      least).parserWithin first cursor ≠ .fault .diverged)
    (hsecond : ((groupedWithin operand opening closing operators inner' levels').withMinPrecedence
      least).parserWithin second cursor ≠ .fault .diverged) :
    ((groupedWithin operand opening closing operators inner levels).withMinPrecedence
        least).parserWithin first cursor =
      ((groupedWithin operand opening closing operators inner' levels').withMinPrecedence
        least).parserWithin second cursor := by
  have hleft (a b : Text → Nat) : ∀ text, a text ≤ max (a text) (b text) :=
    fun text => Nat.le_max_left _ _
  have hright (a b : Text → Nat) : ∀ text, b text ≤ max (a text) (b text) :=
    fun text => Nat.le_max_right _ _
  exact (grouped_approximates (hleft first second) (hleft inner inner')
    (hleft levels levels')).eq_of_common (grouped_approximates (hright first second)
    (hright inner inner') (hright levels levels')) hfirst hsecond

end ExpressionParser

/-! ## The bound that is set -/

namespace Parser

variable {operand : Parser α} {opening : Parser β} {closing : Parser γ} {operators : List Operator}
  {depth deeper levels larger : Text → Nat}

theorem climbWithin_eq_of_lt {primary : Parser (Tree α)} (hprimary : Conserving primary)
    (hdepth : ∀ text : Text, text.length < depth text)
    (hdeeper : ∀ text : Text, text.length < deeper text) (least : Int) :
    primary.climbWithin operators least deeper = primary.climbWithin operators least depth := by
  funext cursor
  apply Reply.andThen_congr
  intro left rest _
  exact extend_eq_of_lt hprimary (hdepth _) (hdeeper _)

/-- Once the bound on the bodies is large enough it shows no more at any level. -/
theorem nestedGroup_eq_of_deeper (hoperand : Conserving operand) (hopening : Conserving opening)
    (hclosing : Conserving closing) (hdepth : ∀ text : Text, text.length < depth text)
    (hdeeper : ∀ text : Text, text.length < deeper text) (level : Nat) :
    operand.nestedGroup opening closing operators deeper level =
      operand.nestedGroup opening closing operators depth level := by
  induction level with
  | zero => rfl
  | succ level ih =>
      have hprimary := conserving_nestedGroup hoperand hopening hclosing operators depth level
      funext cursor
      rw [nestedGroup, nestedGroup, ih, climbWithin_eq_of_lt hprimary hdepth hdeeper]

theorem groupWithin_eq_of_lt (hoperand : Conserving operand) (hopening : Conserving opening)
    (hclosing : Conserving closing) (hdepth : ∀ text : Text, text.length < depth text)
    (hdeeper : ∀ text : Text, text.length < deeper text)
    (hlevels : ∀ text : Text, text.length < levels text)
    (hlarger : ∀ text : Text, text.length < larger text) :
    operand.groupWithin opening closing operators deeper larger =
      operand.groupWithin opening closing operators depth levels := by
  funext cursor
  rw [groupWithin, nestedGroup_eq_of_deeper hoperand hopening hclosing hdepth hdeeper]
  exact nestedGroup_eq_of_lt hoperand hopening hclosing (hlevels _) (hlarger _)

end Parser

namespace ExpressionParser

variable {operand : Parser α} {opening : Parser β} {closing : Parser γ} {operators : List Operator}
  {least : Int} {cursor : Cursor}

/-- An expression that is answered within any bound is answered within the bound that is set. -/
theorem plain_parser_eq_of_answer (hoperand : Conserving operand) {depth : Text → Nat}
    (hanswer : ((plain operand operators).withMinPrecedence least).parserWithin depth cursor ≠
      .fault .diverged) :
    ((plain operand operators).withMinPrecedence least).parser cursor =
      ((plain operand operators).withMinPrecedence least).parserWithin depth cursor := by
  have hleaf : Conserving operand.leaf :=
    ((Contract.keptBy_conservation hoperand).map Tree.leaf).conserving
  have hbound : ∀ text, depth text ≤ max (depth text) (text.length + 1) :=
    fun text => Nat.le_max_left _ _
  have hset : ∀ text : Text, text.length < max (depth text) (text.length + 1) :=
    fun text => Nat.le_max_right _ _
  calc ((plain operand operators).withMinPrecedence least).parser cursor
      = ((plain operand operators).withMinPrecedence least).parserWithin
          (fun text => max (depth text) (text.length + 1)) cursor :=
        congrFun (Parser.climbWithin_eq_of_lt hleaf hset (fun text => Nat.lt_succ_self _) least) cursor
    _ = ((plain operand operators).withMinPrecedence least).parserWithin depth cursor :=
        plain_approximates hbound cursor hanswer

/-- And so is an expression with groups. -/
theorem grouped_parser_eq_of_answer (hoperand : Conserving operand)
    (hopening : Conserving opening) (hclosing : Conserving closing)
    {depth inner levels : Text → Nat}
    (hanswer : ((groupedWithin operand opening closing operators inner levels).withMinPrecedence
      least).parserWithin depth cursor ≠ .fault .diverged) :
    ((grouped operand opening closing operators).withMinPrecedence least).parser cursor =
      ((groupedWithin operand opening closing operators inner levels).withMinPrecedence
        least).parserWithin depth cursor := by
  have hgroup : Conserving (operand.group opening closing operators) :=
    Parser.conserving_group hoperand hopening hclosing operators
  have hbound (bound : Text → Nat) : ∀ text, bound text ≤ max (bound text) (text.length + 1) :=
    fun text => Nat.le_max_left _ _
  have hset (bound : Text → Nat) : ∀ text : Text, text.length < max (bound text) (text.length + 1) :=
    fun text => Nat.le_max_right _ _
  have hdefault : ∀ text : Text, text.length < text.length + 1 := fun text => Nat.lt_succ_self _
  -- first the primaries are given the larger bounds, then the expression over them
  have hprimary : operand.group opening closing operators =
      operand.groupWithin opening closing operators (fun text => max (inner text) (text.length + 1))
        fun text => max (levels text) (text.length + 1) :=
    Parser.groupWithin_eq_of_lt hoperand hopening hclosing (hset inner) hdefault (hset levels)
      hdefault
  calc ((grouped operand opening closing operators).withMinPrecedence least).parser cursor
      = (operand.group opening closing operators).climbWithin operators least
          (fun text => max (depth text) (text.length + 1)) cursor :=
        congrFun (Parser.climbWithin_eq_of_lt hgroup (hset depth) hdefault least) cursor
    _ = ((groupedWithin operand opening closing operators
          (fun text => max (inner text) (text.length + 1))
          fun text => max (levels text) (text.length + 1)).withMinPrecedence least).parserWithin
            (fun text => max (depth text) (text.length + 1)) cursor := by
        rw [hprimary]
        rfl
    _ = ((groupedWithin operand opening closing operators inner levels).withMinPrecedence
          least).parserWithin depth cursor :=
        grouped_approximates (hbound depth) (hbound inner) (hbound levels) cursor hanswer

end ExpressionParser

end ParserCombinators
