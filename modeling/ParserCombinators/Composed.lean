import ParserCombinators.Deferred.Basic
import ParserCombinators.Expression.Climb
import ParserCombinators.Expression.Tokens
import ParserCombinators.Parser.Number
import ParserCombinators.Parser.Quote
import ParserCombinators.Parser.Recursion
import ParserCombinators.Parser.Region
import ParserCombinators.Parser.Repeat

/-!
# The parsers that can be built

`Composed outside inside p` says that `p` is put together by the combinators of this library from
rules written by hand, `inside` being those that may be used within a region and `outside` those
that may be used elsewhere.  A law of all parsers is an induction on this relation: it is enough
that the rules written by hand obey it and that every combinator keeps it.

In the body of a recursive rule the references count as rules written by hand.  The body has to be
composed for whatever parsers the references stand for, so it cannot look inside them.

Loops, nested expressions and references go on as long as a bound allows that may be any function of the
text.  So a law of composed parsers is about every run that ends, however many rounds it takes, of
rules that consume what they match and of others.  The parsers that set a bound of their own, such as
`Parser.many1` and `Rules.parser`, are cases of these (`Composed.many1`, `Composed.rule`).
-/

namespace ParserCombinators

/-- A collection of parsers of any type, such as the rules that are written by hand. -/
abbrev Given := ∀ α : Type, Parser α → Prop

/-- The collection together with the parsers that stand for references to rules. -/
def Given.withReferences (given : Given) {ι : Type} {τ : ι → Type} (env : ∀ r, Parser (τ r)) :
    Given := fun α p => given α p ∨ ∃ r, (⟨α, p⟩ : (α : Type) × Parser α) = ⟨τ r, env r⟩

/-- The parser is built by the combinators of this library from the given ones. -/
inductive Composed : Given → Given → {α : Type} → Parser α → Prop
  | given {outside inside : Given} {α : Type} {p : Parser α} :
      outside α p → Composed outside inside p
  | char {outside inside : Given} (expected : Char) :
      Composed outside inside (Parser.char expected)
  | satisfy {outside inside : Given} (wanted : Char → Bool) :
      Composed outside inside (Parser.satisfy wanted)
  | endOfInput {outside inside : Given} : Composed outside inside Parser.endOfInput
  | literal {outside inside : Given} (expected : Text) :
      Composed outside inside (Parser.literal expected)
  | scan {outside inside : Given} (accepts : Text → Bool) :
      Composed outside inside (Parser.scan accepts)
  | takeWhile1 {outside inside : Given} (wanted : Char → Bool) :
      Composed outside inside (Parser.takeWhile1 wanted)
  | integer {outside inside : Given} : Composed outside inside Parser.integer
  | map {outside inside : Given} {α β : Type} {p : Parser α} (f : α → β) :
      Composed outside inside p → Composed outside inside (p.map f)
  | bind {outside inside : Given} {α β : Type} {p : Parser α} {next : α → Parser β} :
      Composed outside inside p → (∀ value, Composed outside inside (next value)) →
        Composed outside inside (p.bind next)
  | filter {outside inside : Given} {α : Type} {p : Parser α} (wanted : α → Bool) :
      Composed outside inside p → Composed outside inside (p.filter wanted)
  | pair {outside inside : Given} {α β : Type} {first : Parser α} {second : Parser β} :
      Composed outside inside first → Composed outside inside second →
        Composed outside inside (first.pair second)
  | between {outside inside : Given} {α β γ : Type} {opening : Parser α} {body : Parser β}
      {closing : Parser γ} :
      Composed outside inside opening → Composed outside inside body →
        Composed outside inside closing →
          Composed outside inside (Parser.between opening body closing)
  | orElse {outside inside : Given} {α : Type} {first second : Parser α} :
      Composed outside inside first → Composed outside inside second →
        Composed outside inside (first.orElse second)
  | choice {outside inside : Given} {α : Type} {alternatives : List (Parser α)} :
      (∀ p ∈ alternatives, Composed outside inside p) →
        Composed outside inside (Parser.choice alternatives)
  | optional {outside inside : Given} {α : Type} {p : Parser α} :
      Composed outside inside p → Composed outside inside p.optional
  | many1Within {outside inside : Given} {α : Type} {p : Parser α} (rounds : Text → Nat) :
      Composed outside inside p → Composed outside inside (p.many1Within rounds)
  | sepBy1Within {outside inside : Given} {α β : Type} {item : Parser α} {separator : Parser β}
      (trailing : Bool) (rounds : Text → Nat) :
      Composed outside inside item → Composed outside inside separator →
        Composed outside inside (item.sepBy1Within separator trailing rounds)
  | upToText {outside inside : Given} {α : Type} {p : Parser α} (delimiter : Text) (skip : Bool) :
      Composed inside inside p → Composed outside inside (p.upToText delimiter skip)
  | upTo {outside inside : Given} {α β : Type} {p : Parser α} {limit : Parser β} :
      Composed inside inside p → Composed outside inside limit →
        Composed outside inside (p.upTo limit)
  | tokensWhileWithin {outside inside : Given} {α : Type} {operand : Parser α}
      (accepts : Operator → Bool) (operators : List Operator) (rounds : Text → Nat) :
      Composed outside inside operand →
        Composed outside inside (Parser.tokensWhileWithin accepts operand operators rounds)
  | climbWithin {outside inside : Given} {α : Type} {primary : Parser (Tree α)}
      (operators : List Operator) (least : Int) (depth : Text → Nat) :
      Composed outside inside primary →
        Composed outside inside (primary.climbWithin operators least depth)
  | groupWithin {outside inside : Given} {α β γ : Type} {operand : Parser α} {opening : Parser β}
      {closing : Parser γ} (operators : List Operator) (depth levels : Text → Nat) :
      Composed outside inside operand → Composed outside inside opening →
        Composed outside inside closing →
          Composed outside inside (operand.groupWithin opening closing operators depth levels)
  | recursive {outside inside : Given} {ι : Type} {τ : ι → Type} (rules : Rules ι τ)
      (depth : Text → Nat) (r : ι) :
      (∀ (env : ∀ r, Parser (τ r)) (r : ι),
        Composed (outside.withReferences env) (inside.withReferences env) (rules.body env r)) →
        Composed outside inside fun cursor => rules.unfold (depth cursor.remaining) r cursor

namespace Composed

variable {outside inside : Given} {α β γ : Type}

theorem keepLeft {first : Parser α} {second : Parser β} (hfirst : Composed outside inside first)
    (hsecond : Composed outside inside second) :
    Composed outside inside (first.keepLeft second) :=
  .map _ (.pair hfirst hsecond)

theorem keepRight {first : Parser α} {second : Parser β} (hfirst : Composed outside inside first)
    (hsecond : Composed outside inside second) :
    Composed outside inside (first.keepRight second) :=
  .map _ (.pair hfirst hsecond)

theorem skipSpaces : Composed outside inside Parser.skipSpaces := .scan _

theorem spaced {p : Parser α} (hp : Composed outside inside p) :
    Composed outside inside p.spaced :=
  keepLeft (keepRight skipSpaces hp) skipSpaces

theorem quoted (quote : Char) : Composed outside inside (Parser.quoted quote) :=
  .map _ (keepLeft (keepRight (.char quote) (.scan _)) (.char quote))

theorem deferred {σ : Type} (factory : σ → Parser α × σ) (state : σ)
    (hp : Composed outside inside (factory state).1) :
    Composed outside inside (Deferred.parser { factory } state) := hp

theorem rule {ι : Type} {τ : ι → Type} (rules : Rules ι τ) (r : ι)
    (hbody : ∀ (env : ∀ r, Parser (τ r)) (r : ι),
      Composed (outside.withReferences env) (inside.withReferences env) (rules.body env r)) :
    Composed outside inside (rules.parser r) :=
  .recursive rules (fun text => rules.depthFor text.length) r hbody

theorem many1 {p : Parser α} (hp : Composed outside inside p) : Composed outside inside p.many1 :=
  .many1Within _ hp

theorem sepBy1 {item : Parser α} {separator : Parser β} (trailing : Bool)
    (hitem : Composed outside inside item) (hseparator : Composed outside inside separator) :
    Composed outside inside (item.sepBy1 separator trailing) :=
  .sepBy1Within trailing _ hitem hseparator

theorem tokensWhile {operand : Parser α} (accepts : Operator → Bool) (operators : List Operator)
    (hoperand : Composed outside inside operand) :
    Composed outside inside (operand.tokensWhile accepts operators) :=
  .tokensWhileWithin accepts operators _ hoperand

theorem tokenize {operand : Parser α} (operators : List Operator)
    (hoperand : Composed outside inside operand) :
    Composed outside inside (operand.tokenize operators) :=
  tokensWhile _ operators hoperand

theorem climb {primary : Parser (Tree α)} (operators : List Operator) (least : Int)
    (hprimary : Composed outside inside primary) :
    Composed outside inside (primary.climb operators least) :=
  .climbWithin operators least _ hprimary

theorem group {operand : Parser α} {opening : Parser β} {closing : Parser γ}
    (operators : List Operator) (hoperand : Composed outside inside operand)
    (hopening : Composed outside inside opening) (hclosing : Composed outside inside closing) :
    Composed outside inside (operand.group opening closing operators) :=
  .groupWithin operators _ _ hoperand hopening hclosing

theorem plain {operand : Parser α} (operators : List Operator) (least : Int)
    (hoperand : Composed outside inside operand) :
    Composed outside inside
      ((ExpressionParser.plain operand operators).withMinPrecedence least).parser :=
  climb operators least (.map _ hoperand)

theorem grouped {operand : Parser α} {opening : Parser β} {closing : Parser γ}
    (operators : List Operator) (least : Int) (hoperand : Composed outside inside operand)
    (hopening : Composed outside inside opening) (hclosing : Composed outside inside closing) :
    Composed outside inside
      ((ExpressionParser.grouped operand opening closing operators).withMinPrecedence
        least).parser :=
  climb operators least (group operators hoperand hopening hclosing)

end Composed

end ParserCombinators
