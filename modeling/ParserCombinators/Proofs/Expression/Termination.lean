import ParserCombinators.Proofs.Expression.FlatLoop
import ParserCombinators.Proofs.Expression.Nesting

/-!
# Reading an expression ends

Token lists, expressions and expressions with groups are read in finitely many rounds, whatever the
input and however its groups are nested, closed or not (`expressions_terminate`).

* **Loops.**  Between two rounds of a loop, and between a call and the call inside it, lies an operator
  with its operand, and these consume something together (`Advancing`).  So a loop never ends for want
  of rounds: where it gives no answer, the operand gave none at a place that was reached
  (`blamesOperand_climb`).
* **Groups.**  A group is read by the same parser again, behind its opening.  The opening consumes
  something, so the measure is what remains of the input, and the places that the body of a group asks
  for its primaries all lie behind the opening.  A group that fails is tried again as an operand, which
  asks nothing but the operand itself.
-/

namespace ParserCombinators

variable {α β γ : Type}

/-- The parser gives an answer everywhere: no bound on its rounds or on its depth is ever reached. -/
def Terminating (p : Parser α) : Prop := ∀ cursor, p cursor ≠ .fault .diverged

/-! ## Replies -/

theorem Reply.handle_ne_diverged {reply : Reply α} {onMatch : α → Cursor → Reply β}
    {onFail : Failure → Reply β} (h : reply ≠ .fault .diverged)
    (hmatch : ∀ value rest, reply = .matched value rest → onMatch value rest ≠ .fault .diverged)
    (hfail : ∀ failure, reply = .failed failure → onFail failure ≠ .fault .diverged) :
    reply.handle onMatch onFail ≠ .fault .diverged := by
  cases reply with
  | matched value rest => exact hmatch value rest rfl
  | failed failure => exact hfail failure rfl
  | fault cause =>
      intro hfault
      cases hfault
      exact h rfl

theorem Reply.andThen_ne_diverged {reply : Reply α} {onMatch : α → Cursor → Reply β}
    (h : reply ≠ .fault .diverged)
    (hmatch : ∀ value rest, reply = .matched value rest → onMatch value rest ≠ .fault .diverged) :
    reply.andThen onMatch ≠ .fault .diverged :=
  Reply.handle_ne_diverged h hmatch fun _ _ hfault => by cases hfault

theorem Reply.map_ne_diverged {reply : Reply α} (h : reply ≠ .fault .diverged) (f : α → β) :
    reply.map f ≠ .fault .diverged :=
  Reply.andThen_ne_diverged h fun _ _ _ hfault => by cases hfault

theorem Reply.recover_ne_diverged {reply : Reply α} {onFail : Failure → Reply α}
    (h : reply ≠ .fault .diverged)
    (hfail : ∀ failure, reply = .failed failure → onFail failure ≠ .fault .diverged) :
    reply.recover onFail ≠ .fault .diverged :=
  Reply.handle_ne_diverged h (fun _ _ _ hfault => by cases hfault) hfail

namespace Parser

/-! ## Combinators -/

theorem orElse_ne_diverged {first second : Parser α} {cursor : Cursor}
    (hfirst : first cursor ≠ .fault .diverged) (hsecond : second cursor ≠ .fault .diverged) :
    first.orElse second cursor ≠ .fault .diverged := by
  apply Reply.recover_ne_diverged hfirst
  intro left _
  exact Reply.recover_ne_diverged hsecond fun _ _ hfault => by cases hfault

theorem optional_ne_diverged {p : Parser α} {cursor : Cursor} (h : p cursor ≠ .fault .diverged) :
    p.optional cursor ≠ .fault .diverged :=
  Reply.handle_ne_diverged h (fun _ _ _ hfault => by cases hfault) fun _ _ hfault => by cases hfault

/-- A body between an opening and a closing has to give an answer only behind an opening. -/
theorem between_ne_diverged {opening : Parser α} {body : Parser β} {closing : Parser γ}
    {cursor : Cursor} (hopening : Terminating opening) (hclosing : Terminating closing)
    (hbody : ∀ left inside, opening cursor = .matched left inside →
      body inside ≠ .fault .diverged) :
    between opening body closing cursor ≠ .fault .diverged := by
  apply Reply.andThen_ne_diverged (hopening cursor)
  intro left inside hleft
  apply Reply.andThen_ne_diverged (hbody left inside hleft)
  intro middle behind _
  exact Reply.map_ne_diverged (hclosing behind) fun right => (left, middle, right)

/-! ## Characters -/

theorem terminating_char (expected : Char) : Terminating (char expected) := by
  intro cursor hfault
  by_cases h : cursor.peek = some expected
  · simp [char_of_peek h] at hfault
  · unfold char at hfault
    split at hfault
    · simp [Reply.mismatch] at hfault
    · next found hfound =>
        rw [if_neg (by rintro rfl; exact h hfound)] at hfault
        simp [Reply.mismatch] at hfault

theorem terminating_satisfy (wanted : Char → Bool) : Terminating (satisfy wanted) := by
  intro cursor hfault
  cases hpeek : cursor.peek with
  | none => simp [satisfy, hpeek, Reply.mismatch] at hfault
  | some found =>
      cases hwanted : wanted found with
      | false => simp [satisfy_of_other hpeek hwanted, Reply.mismatch] at hfault
      | true => simp [satisfy_of_peek hpeek hwanted] at hfault

theorem consuming_char (expected : Char) : Consuming (char expected) := by
  intro cursor value rest hmatch
  obtain ⟨hpeek, -, rfl⟩ := char_eq_matched_iff.mp hmatch
  rw [Cursor.remaining_of_peek hpeek]
  exact Nat.lt_add_one _

variable {operators : List Operator}

/-! ## Loops -/

theorem BlamesOperand.ne_diverged {operand : Parser α} {start : Cursor} {reply : Reply β}
    (h : BlamesOperand operand start reply)
    (hoperand : ∀ place, start.Reaches place → operand place ≠ .fault .diverged) :
    reply ≠ .fault .diverged := by
  intro hdiverged
  rw [hdiverged] at h
  obtain ⟨place, hplace, hfault⟩ := h
  exact hoperand place hplace hfault

theorem blamesOperand_grow {primary : Parser (Tree α)} (h : Advancing primary operators)
    (least : Int) (left : Tree α) (cursor : Cursor) :
    BlamesOperand primary cursor (grow primary operators least left cursor) := by
  induction hlength : cursor.remaining.length using Nat.strongRecOn
    generalizing least left cursor with
  | ind length ih =>
      subst hlength
      rw [grow_eq h.conserving]
      cases hnext : Operator.next? (Operator.atLeast least) operators cursor.remaining with
      | none => exact .refl cursor
      | some found =>
          refine BlamesOperand.of_reaches ?_ (Contract.reaches_past_symbol hnext)
          have hright : BlamesOperand primary (cursor.past found.symbol)
              (climb primary operators (found.precedence + 1) (cursor.past found.symbol)) := by
            apply (blamesOperand_self h.conserving _).andThen
            intro start inside hstart
            exact ih _ (h.length_lt hnext hstart) _ start inside rfl
          apply hright.andThen
          intro right rest hmatch
          have hlt : rest.remaining.length < cursor.remaining.length :=
            h.length_lt_of_andThen hnext (conserving_grow h.conserving operators _) hmatch
          exact ih _ hlt least _ rest rfl

/-- Where an expression has no answer, a primary has none at a place that is reached. -/
theorem blamesOperand_climb {primary : Parser (Tree α)} (h : Advancing primary operators)
    (least : Int) (cursor : Cursor) :
    BlamesOperand primary cursor (climb primary operators least cursor) :=
  (blamesOperand_self h.conserving cursor).andThen fun left rest _ =>
    blamesOperand_grow h least left rest

theorem terminating_climb {primary : Parser (Tree α)} (h : Advancing primary operators)
    (hprimary : Terminating primary) (least : Int) :
    Terminating (primary.climb operators least) :=
  fun cursor => (blamesOperand_climb h least cursor).ne_diverged fun place _ => hprimary place

theorem terminating_tokensWhile {operand : Parser α} (h : Advancing operand operators)
    (hoperand : Terminating operand) (accepts : Operator → Bool) :
    Terminating (operand.tokensWhile accepts operators) :=
  fun cursor =>
    (blamesOperand_tokensWhile h accepts cursor).ne_diverged fun place _ => hoperand place

theorem terminating_leaf {operand : Parser α} (hoperand : Terminating operand) :
    Terminating operand.leaf :=
  fun cursor => Reply.map_ne_diverged (hoperand cursor) Tree.leaf

/-! ## Groups -/

variable {operand : Parser α} {opening : Parser β} {closing : Parser γ}

theorem consuming_group (hoperand : Conserving operand) (hopening : Conserving opening)
    (hclosing : Conserving closing) (hconsuming : Consuming operand)
    (hbegins : Consuming opening) : Consuming (operand.group opening closing operators) := by
  intro cursor tree rest hmatch
  rw [group_eq hoperand hopening hclosing] at hmatch
  rcases groupOr_eq_matched_iff.mp hmatch with ⟨start, stop, hgroup⟩ | ⟨-, value, hvalue, -⟩
  · obtain ⟨inside, behind, hstart, hbody, hstop⟩ := between_eq_matched_iff.mp hgroup
    obtain ⟨first, middle, hprimary, hgrow⟩ := Reply.andThen_eq_matched_iff.mp hbody
    have hgroup := conserving_group hoperand hopening hclosing operators
    calc rest.remaining.length
        ≤ behind.remaining.length := (hclosing _ _ _ hstop).length_le
      _ ≤ middle.remaining.length := (conserving_grow hgroup _ _ _ _ _ _ hgrow).length_le
      _ ≤ inside.remaining.length := (hgroup _ _ _ hprimary).length_le
      _ < cursor.remaining.length := hbegins _ _ _ hstart
  · exact hconsuming _ _ _ hvalue

theorem advancing_group (h : Advancing operand operators) (hopening : Conserving opening)
    (hclosing : Conserving closing) (hbegins : Consuming opening) :
    Advancing (operand.group opening closing operators) operators where
  conserving := conserving_group h.conserving hopening hclosing operators
  advances found hfound hinfix :=
    (h.advances found hfound hinfix).imp_right fun hconsuming =>
      consuming_group h.conserving hopening hclosing hconsuming hbegins

theorem groupOr_ne_diverged {body : Parser (Tree α)} {cursor : Cursor}
    (hoperand : Terminating operand) (hopening : Terminating opening)
    (hclosing : Terminating closing)
    (hbody : ∀ value inside, opening cursor = .matched value inside →
      body inside ≠ .fault .diverged) :
    operand.groupOr opening body closing cursor ≠ .fault .diverged := by
  have hgroup : between opening body closing cursor ≠ .fault .diverged :=
    between_ne_diverged hopening hclosing hbody
  -- when the group fails, the same place is read as an operand
  exact orElse_ne_diverged (Reply.map_ne_diverged hgroup _) (terminating_leaf hoperand cursor)

theorem terminating_group (h : Advancing operand operators) (hoperand : Terminating operand)
    (hopening : Conserving opening) (hclosing : Conserving closing)
    (hopens : Terminating opening) (hcloses : Terminating closing) (hbegins : Consuming opening) :
    Terminating (operand.group opening closing operators) := by
  intro cursor
  induction hlength : cursor.remaining.length using Nat.strongRecOn generalizing cursor with
  | ind length ih =>
      subst hlength
      rw [group_eq h.conserving hopening hclosing]
      refine groupOr_ne_diverged hoperand hopens hcloses fun start inside hstart => ?_
      have hlt := hbegins _ _ _ hstart
      have hblames := blamesOperand_climb (advancing_group h hopening hclosing hbegins) 0 inside
      refine hblames.ne_diverged fun place hplace => ih _ ?_ place rfl
      have hle := hplace.length_le
      omega

end Parser

/-- Tokens and expressions are read to an end when the operand gives an answer everywhere and an
operator consumes something together with its operand, and so are expressions with groups when an
opening consumes something. -/
theorem expressions_terminate {operand : Parser α} {opening : Parser β} {closing : Parser γ}
    {operators : List Operator} (hoperand : Conserving operand) (hopening : Conserving opening)
    (hclosing : Conserving closing) (hreads : Terminating operand) (hopens : Terminating opening)
    (hcloses : Terminating closing)
    (hadvances : (∀ found ∈ operators, found.fixity = .infixOp → found.symbol ≠ []) ∨
      Consuming operand) (least : Int) :
    Terminating (operand.tokenize operators) ∧
    Terminating ((ExpressionParser.plain operand operators).withMinPrecedence least).parser ∧
    (Consuming opening →
      Terminating ((ExpressionParser.grouped operand opening closing operators).withMinPrecedence
        least).parser) := by
  have h : Advancing operand operators :=
    ⟨hoperand, fun found hfound hinfix => hadvances.imp_left fun hsymbols =>
      hsymbols found hfound hinfix⟩
  refine ⟨?_, ?_, fun hbegins => ?_⟩
  · exact Parser.terminating_tokensWhile h hreads _
  · exact Parser.terminating_climb h.leaf (Parser.terminating_leaf hreads) least
  · exact Parser.terminating_climb (Parser.advancing_group h hopening hclosing hbegins)
      (Parser.terminating_group h hreads hopening hclosing hopens hcloses hbegins) least

/-- Ones side by side under an operator without a symbol, in groups of which none is closed. -/
theorem expressions_terminate_of_unclosed :
    Consuming (Parser.char '1') ∧ Consuming (Parser.char '(') ∧
    (Parser.char '1').tokenize [⟨.infixOp, [], 7⟩] (.ofText ['1', '1', '(']) ≠ .fault .diverged ∧
    ((ExpressionParser.plain (.char '1') [⟨.infixOp, [], 7⟩]).withMinPrecedence (-2)).parser
      (.ofText ['1', '1', '(']) ≠ .fault .diverged ∧
    ((ExpressionParser.grouped (.char '1') (.char '(') (.char ')')
      [⟨.infixOp, [], 7⟩]).withMinPrecedence (-2)).parser (.ofText ['(', '1', '(', '(', '1']) ≠
        .fault .diverged := by
  have hconserving (c : Char) : Conserving (Parser.char c) :=
    (Contract.conservation.keptBy_char c).conserving
  obtain ⟨htokens, hplain, hgrouped⟩ := @expressions_terminate Char Char Char (.char '1') (.char '(')
    (.char ')') [⟨.infixOp, [], 7⟩] (hconserving '1') (hconserving '(') (hconserving ')')
    (Parser.terminating_char '1') (Parser.terminating_char '(') (Parser.terminating_char ')')
    (.inr (Parser.consuming_char '1')) (-2)
  exact ⟨Parser.consuming_char '1', Parser.consuming_char '(', htokens _, hplain _,
    hgrouped (Parser.consuming_char '(') _⟩

end ParserCombinators
