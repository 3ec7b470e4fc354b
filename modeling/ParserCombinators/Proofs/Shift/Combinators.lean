import ParserCombinators.Composed
import ParserCombinators.Proofs.Shift.Basic

/-!
# Portable parsers

A parser is portable when its reply moves with the start of the input and does not change otherwise
(`Portable`).  Everything that is composed of portable rules is portable (`Composed.portable`), with
one lemma for each combinator.

Inside a region nothing has to be asked for: the region is a text of its own and is read from position
zero wherever it stands, so its parser is the same run both times.
-/

namespace ParserCombinators

variable {α β γ : Type}

/-- Where the input starts makes no difference but to the positions in the reply. -/
def Portable (p : Parser α) : Prop :=
  ∀ origin cursor, p (cursor.shift origin) = (p cursor).shift origin

namespace Parser

/-! ## Characters and runs -/

theorem portable_char (expected : Char) : Portable (char expected) := by
  intro origin cursor
  unfold char
  rw [Cursor.peek_shift]
  split
  · rfl
  · split
    · rw [Cursor.stepOver_shift]
      exact Reply.afterMove_shift fun _ => rfl
    · rfl

theorem portable_satisfy (wanted : Char → Bool) : Portable (satisfy wanted) := by
  intro origin cursor
  unfold satisfy
  rw [Cursor.peek_shift]
  split
  · rfl
  · split
    · rw [Cursor.stepOver_shift]
      exact Reply.afterMove_shift fun _ => rfl
    · rfl

theorem portable_endOfInput : Portable endOfInput := by
  intro origin cursor
  unfold endOfInput
  rw [Cursor.atEnd_shift]
  split <;> rfl

theorem portable_take (bytes : Nat) : Portable (take bytes) := by
  intro origin cursor
  unfold take
  rw [Cursor.ahead_shift]
  refine Reply.afterMove_shift_const fun text => ?_
  rw [Cursor.advance_shift]
  exact Reply.afterMove_shift fun _ => rfl

theorem portable_literal (expected : Text) : Portable (literal expected) := by
  intro origin cursor
  unfold literal
  rw [Cursor.remaining_shift]
  split
  · exact portable_take _ origin cursor
  · split <;> rfl

theorem scanBytes_shift (accepts : Text → Bool) (origin : Position) (cursor : Cursor)
    (accepted : Nat) (text : Text) :
    scanBytes accepts (cursor.shift origin) accepted text =
      scanBytes accepts cursor accepted text := by
  induction text generalizing accepted with
  | nil => rfl
  | cons c rest ih => simp only [scanBytes, Cursor.ahead_shift, ih]

theorem portable_scan (accepts : Text → Bool) : Portable (scan accepts) := by
  intro origin cursor
  unfold scan
  split
  · rw [Cursor.remaining_shift, scanBytes_shift]
    exact Reply.afterMove_shift_const fun bytes => portable_take bytes origin cursor
  · rfl

theorem portable_takeWhile1 (wanted : Char → Bool) : Portable (takeWhile1 wanted) := by
  intro origin cursor
  unfold takeWhile1
  rw [Cursor.remaining_shift, Cursor.peek_shift]
  split
  · split <;> rfl
  · exact portable_take _ origin cursor

theorem portable_integer : Portable integer := by
  intro origin cursor
  unfold integer
  rw [portable_takeWhile1 _ origin cursor]
  refine Reply.andThen_shift fun digits rest => ?_
  split <;> rfl

end Parser

namespace Portable

/-! ## Sequences -/

theorem map {p : Parser α} (hp : Portable p) (f : α → β) : Portable (p.map f) := by
  intro origin cursor
  unfold Parser.map
  rw [hp, Reply.map_shift]

theorem bind {p : Parser α} {next : α → Parser β} (hp : Portable p)
    (hnext : ∀ value, Portable (next value)) : Portable (p.bind next) := by
  intro origin cursor
  unfold Parser.bind
  rw [hp]
  exact Reply.andThen_shift fun value rest => hnext value origin rest

theorem filter {p : Parser α} (hp : Portable p) (wanted : α → Bool) : Portable (p.filter wanted) := by
  intro origin cursor
  unfold Parser.filter
  rw [hp]
  refine Reply.andThen_shift fun value rest => ?_
  split <;> rfl

theorem pair {first : Parser α} {second : Parser β} (hfirst : Portable first)
    (hsecond : Portable second) : Portable (first.pair second) := by
  intro origin cursor
  unfold Parser.pair
  rw [hfirst]
  refine Reply.andThen_shift fun left middle => ?_
  rw [hsecond]
  exact Reply.andThen_shift fun _ _ => rfl

theorem between {opening : Parser α} {body : Parser β} {closing : Parser γ}
    (hopening : Portable opening) (hbody : Portable body) (hclosing : Portable closing) :
    Portable (Parser.between opening body closing) := by
  intro origin cursor
  unfold Parser.between
  rw [hopening]
  refine Reply.andThen_shift fun left inside => ?_
  rw [hbody]
  refine Reply.andThen_shift fun middle behind => ?_
  rw [hclosing]
  exact Reply.andThen_shift fun _ _ => rfl

/-! ## Alternatives -/

theorem orElse {first second : Parser α} (hfirst : Portable first) (hsecond : Portable second) :
    Portable (first.orElse second) := by
  intro origin cursor
  unfold Parser.orElse
  rw [hfirst]
  refine Reply.recover_shift fun left => ?_
  rw [hsecond]
  refine Reply.recover_shift fun right => ?_
  exact congrArg Reply.failed (Failure.join_shift origin cursor [left, right])

theorem choiceAfter_shift {alternatives : List (Parser α)}
    (halternatives : ∀ p ∈ alternatives, Portable p) (origin : Position) (cursor : Cursor)
    (failures : List Failure) :
    Parser.choiceAfter (failures.map (Failure.shift origin)) alternatives (cursor.shift origin) =
      (Parser.choiceAfter failures alternatives cursor).shift origin := by
  induction alternatives generalizing failures with
  | nil =>
      simp only [Parser.choiceAfter, List.isEmpty_map]
      split
      · rfl
      · exact congrArg Reply.failed (Failure.join_shift origin cursor failures)
  | cons p others ih =>
      have hp : Portable p := halternatives p List.mem_cons_self
      simp only [Parser.choiceAfter]
      rw [hp]
      refine Reply.recover_shift fun failure => ?_
      have hothers := ih (fun q hq => halternatives q (List.mem_cons_of_mem _ hq))
        (failures ++ [failure])
      rwa [List.map_append] at hothers

theorem choice {alternatives : List (Parser α)} (halternatives : ∀ p ∈ alternatives, Portable p) :
    Portable (Parser.choice alternatives) :=
  fun origin cursor => choiceAfter_shift halternatives origin cursor []

theorem optional {p : Parser α} (hp : Portable p) : Portable p.optional := by
  intro origin cursor
  unfold Parser.optional
  rw [hp]
  exact Reply.handle_shift (fun _ _ => rfl) fun _ => rfl

/-! ## Repetition -/

theorem moreValues {p : Parser α} (hp : Portable p) (rounds : Nat) :
    Portable (p.moreValues rounds) := by
  induction rounds with
  | zero => exact fun _ _ => rfl
  | succ rounds ih =>
      intro origin cursor
      unfold Parser.moreValues
      rw [hp]
      refine Reply.handle_shift (fun value rest => ?_) fun _ => rfl
      simp only [Parser.stalled_shift]
      split
      · rfl
      · rw [ih, Reply.map_shift]

theorem many1Within {p : Parser α} (hp : Portable p) (rounds : Text → Nat) :
    Portable (p.many1Within rounds) := by
  intro origin cursor
  unfold Parser.many1Within
  rw [hp]
  refine Reply.andThen_shift fun value rest => ?_
  simp only [Parser.stalled_shift, Cursor.remaining_shift]
  split
  · rfl
  · rw [hp.moreValues, Reply.map_shift]

theorem moreItems {item : Parser α} {separator : Parser β} (hitem : Portable item)
    (hseparator : Portable separator) (trailing : Bool) (rounds : Nat) :
    Portable (item.moreItems separator trailing rounds) := by
  induction rounds with
  | zero => exact fun _ _ => rfl
  | succ rounds ih =>
      intro origin cursor
      unfold Parser.moreItems
      rw [hseparator]
      refine Reply.handle_shift (fun _ behind => ?_) fun _ => rfl
      rw [hitem]
      refine Reply.handle_shift (fun value rest => ?_) fun _ => ?_
      · simp only [Parser.stalled_shift]
        split
        · rfl
        · rw [ih, Reply.map_shift]
      · cases trailing <;> rfl

theorem sepBy1Within {item : Parser α} {separator : Parser β} (hitem : Portable item)
    (hseparator : Portable separator) (trailing : Bool) (rounds : Text → Nat) :
    Portable (item.sepBy1Within separator trailing rounds) := by
  intro origin cursor
  unfold Parser.sepBy1Within
  rw [hitem]
  refine Reply.andThen_shift fun value rest => ?_
  rw [hitem.moreItems hseparator, Reply.map_shift]
  rfl

/-! ## Regions -/

theorem inRegion (p : Parser α) (region : Text) : Portable (p.inRegion region) := by
  intro origin outer
  unfold Parser.inRegion
  cases p.parse region with
  | matched value rest => rfl
  | fault cause => rfl
  | failed inner =>
      refine Reply.afterMove_shift_const fun front => ?_
      rw [Cursor.advance_shift]
      exact Reply.afterMove_shift fun _ => rfl

theorem upToText (p : Parser α) (delimiter : Text) (skip : Bool) :
    Portable (p.upToText delimiter skip) := by
  intro origin cursor
  unfold Parser.upToText
  rw [Cursor.remaining_shift]
  split
  · rfl
  · rw [Cursor.ahead_shift]
    refine Reply.afterMove_shift_const fun region => ?_
    rw [inRegion p region]
    refine Reply.andThen_shift fun value _ => ?_
    rw [Cursor.advance_shift]
    refine Reply.afterMove_shift fun behind => ?_
    cases skip
    · rfl
    · simp only [if_true, Parser.portable_take _ origin behind, Reply.map_shift]

/-- A search meets the same places, each shifted. -/
theorem seek {limit : Parser β} (hlimit : Portable limit) (origin : Position) (start : Cursor)
    (places : Nat) (cursor : Cursor) :
    limit.seek (start.shift origin) places (cursor.shift origin) =
      ((limit.seek start places cursor).map fun found => (found.1.shift origin, found.2)).shift
        origin := by
  induction places generalizing cursor with
  | zero => rfl
  | succ places ih =>
      unfold Parser.seek
      rw [hlimit, Cursor.peek_shift]
      cases limit cursor with
      | matched value rest => rfl
      | fault cause => rfl
      | failed failure =>
          cases cursor.peek with
          | none => rfl
          | some c =>
              simp only [Reply.shift_failed, Reply.handle_failed, Cursor.stepOver_shift]
              cases cursor.stepOver c with
              | ok next => exact ih next
              | error cause => rfl

theorem upTo (p : Parser α) {limit : Parser β} (hlimit : Portable limit) :
    Portable (p.upTo limit) := by
  intro origin cursor
  unfold Parser.upTo
  rw [Cursor.remaining_shift, hlimit.seek, ← Reply.map_shift, Reply.andThen_map]
  refine Reply.andThen_shift fun found rest => ?_
  rw [Cursor.textUpTo_shift]
  refine Reply.afterMove_shift_const fun region => ?_
  rw [inRegion p region]
  exact Reply.andThen_shift fun _ _ => rfl

/-! ## Expressions -/

theorem moreTokens {operand : Parser α} (hoperand : Portable operand) (accepts : Operator → Bool)
    (operators : List Operator) (rounds : Nat) :
    Portable (operand.moreTokens accepts operators rounds) := by
  induction rounds with
  | zero => exact fun _ _ => rfl
  | succ rounds ih =>
      intro origin cursor
      rw [Parser.moreTokens_succ, Parser.moreTokens_succ, Cursor.remaining_shift]
      split
      · rfl
      · rw [Cursor.past_shift, hoperand]
        refine Reply.andThen_shift fun value rest => ?_
        rw [ih, Reply.map_shift]

theorem tokensWhileWithin {operand : Parser α} (hoperand : Portable operand)
    (accepts : Operator → Bool) (operators : List Operator) (rounds : Text → Nat) :
    Portable (operand.tokensWhileWithin accepts operators rounds) := by
  intro origin cursor
  unfold Parser.tokensWhileWithin
  rw [hoperand]
  refine Reply.andThen_shift fun value rest => ?_
  rw [Cursor.remaining_shift, hoperand.moreTokens, Reply.map_shift]

theorem extend {primary : Parser (Tree α)} (hprimary : Portable primary)
    (operators : List Operator) (depth : Nat) (least : Int) (left : Tree α) :
    Portable (primary.extend operators depth least left) := by
  induction depth generalizing least left with
  | zero => exact fun _ _ => rfl
  | succ depth ih =>
      intro origin cursor
      rw [Parser.extend_succ, Parser.extend_succ, Cursor.remaining_shift]
      split
      · rfl
      · next found _ =>
          -- first what stands to the right of the operator, then the loop behind it
          rw [Cursor.past_shift, hprimary, Reply.andThen_shift fun start inside =>
            ih (found.precedence + 1) start origin inside]
          exact Reply.andThen_shift fun right rest => ih least _ origin rest

theorem climbWithin {primary : Parser (Tree α)} (hprimary : Portable primary)
    (operators : List Operator) (least : Int) (depth : Text → Nat) :
    Portable (primary.climbWithin operators least depth) := by
  intro origin cursor
  unfold Parser.climbWithin
  rw [hprimary]
  exact Reply.andThen_shift fun left rest => hprimary.extend operators _ least left origin rest

theorem groupOr {operand : Parser α} {opening : Parser β} {body : Parser (Tree α)}
    {closing : Parser γ} (hoperand : Portable operand) (hopening : Portable opening)
    (hbody : Portable body) (hclosing : Portable closing) :
    Portable (operand.groupOr opening body closing) :=
  ((hopening.between hbody hclosing).map _).orElse (hoperand.map _)

theorem nestedGroup {operand : Parser α} {opening : Parser β} {closing : Parser γ}
    (hoperand : Portable operand) (hopening : Portable opening) (hclosing : Portable closing)
    (operators : List Operator) (depth : Text → Nat) (levels : Nat) :
    Portable (operand.nestedGroup opening closing operators depth levels) := by
  induction levels with
  | zero => exact fun _ _ => rfl
  | succ levels ih => exact hoperand.groupOr hopening (ih.climbWithin operators 0 depth) hclosing

theorem groupWithin {operand : Parser α} {opening : Parser β} {closing : Parser γ}
    (hoperand : Portable operand) (hopening : Portable opening) (hclosing : Portable closing)
    (operators : List Operator) (depth levels : Text → Nat) :
    Portable (operand.groupWithin opening closing operators depth levels) :=
  fun origin cursor => hoperand.nestedGroup hopening hclosing operators depth _ origin cursor

/-! ## Recursive rules -/

theorem unfold {ι : Type} {τ : ι → Type} {rules : Rules ι τ}
    (hbody : ∀ env : ∀ r, Parser (τ r), (∀ r, Portable (env r)) →
      ∀ r, Portable (rules.body env r)) (depth : Nat) (r : ι) :
    Portable (rules.unfold depth r) := by
  induction depth generalizing r with
  | zero => exact fun _ _ => rfl
  | succ depth ih => exact hbody (rules.unfold depth) ih r

end Portable

/-! ## Everything that can be built -/

theorem Composed.portable {outside inside : Given}
    (houtside : ∀ (β : Type) (q : Parser β), outside β q → Portable q)
    {p : Parser α} (hp : Composed outside inside p) : Portable p := by
  induction hp with
  | given h => exact houtside _ _ h
  | char expected => exact Parser.portable_char expected
  | satisfy wanted => exact Parser.portable_satisfy wanted
  | endOfInput => exact Parser.portable_endOfInput
  | literal expected => exact Parser.portable_literal expected
  | scan accepts => exact Parser.portable_scan accepts
  | takeWhile1 wanted => exact Parser.portable_takeWhile1 wanted
  | integer => exact Parser.portable_integer
  | map f _ ih => exact (ih houtside).map f
  | bind _ _ ih ihnext => exact (ih houtside).bind fun value => ihnext value houtside
  | filter wanted _ ih => exact (ih houtside).filter wanted
  | pair _ _ ihfirst ihsecond => exact (ihfirst houtside).pair (ihsecond houtside)
  | between _ _ _ ihopening ihbody ihclosing =>
      exact (ihopening houtside).between (ihbody houtside) (ihclosing houtside)
  | orElse _ _ ihfirst ihsecond => exact (ihfirst houtside).orElse (ihsecond houtside)
  | choice _ ih => exact Portable.choice fun p hp => ih p hp houtside
  | optional _ ih => exact (ih houtside).optional
  | many1Within rounds _ ih => exact (ih houtside).many1Within rounds
  | sepBy1Within trailing rounds _ _ ihitem ihseparator =>
      exact (ihitem houtside).sepBy1Within (ihseparator houtside) trailing rounds
  | upToText delimiter skip _ _ => exact Portable.upToText _ delimiter skip
  | upTo _ _ _ ihlimit => exact Portable.upTo _ (ihlimit houtside)
  | tokensWhileWithin accepts operators rounds _ ih =>
      exact (ih houtside).tokensWhileWithin accepts operators rounds
  | climbWithin operators least depth _ ih =>
      exact (ih houtside).climbWithin operators least depth
  | groupWithin operators depth levels _ _ _ ihoperand ihopening ihclosing =>
      exact (ihoperand houtside).groupWithin (ihopening houtside) (ihclosing houtside) operators depth
        levels
  | recursive rules depth r _ ih =>
      intro origin cursor
      refine Portable.unfold (fun env henv r => ih env r ?_) _ r origin cursor
      rintro β q (hq | ⟨name, heq⟩)
      · exact houtside β q hq
      · cases heq
        exact henv name

end ParserCombinators
