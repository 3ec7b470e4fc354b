import ParserCombinators.Expression.Climb
import ParserCombinators.Expression.Tokens
import ParserCombinators.Parser.Number

/-!
# The order of an operator table

The first operator of a table whose symbol matches is taken, so the order of a table matters where
symbols overlap.  This file proves that it matters no more once longer symbols come first
(`declaration_order_is_harmless`).

* **One lookup.**  In such a table the operator that is found has the longest of the infix symbols
  that start the text (`LongestFirst.first?_eq_some_iff`), which says nothing about the order any
  more.
* **Expressions.**  Loops, groups and the bodies of groups read their table through `first?` only,
  so tables with the same lookup give the same parsers (`ReadAlike`).  That is true round by round:
  `ReadAlike` asks for it within all bounds on the rounds and on the nesting, so nothing is asked of
  the operands, and a run that ends is the same with both tables however long it takes.
-/

namespace ParserCombinators

/-! ## The longest symbol -/

/-- No two infix operators of the table have one symbol, and none stands before another one whose
symbol is longer and starts with its own. -/
structure LongestFirst (operators : List Operator) : Prop where
  eq_of_symbol_eq : ∀ first ∈ operators, ∀ second ∈ operators, first.fixity = .infixOp →
    second.fixity = .infixOp → first.symbol = second.symbol → first = second
  longer_first : operators.Pairwise fun earlier later => earlier.fixity = .infixOp →
    later.fixity = .infixOp → earlier.symbol <+: later.symbol → earlier.symbol = later.symbol

/-- The operator is one of the table, and its symbol is the longest of the infix symbols that start
the text. -/
def Operator.IsLongest (operators : List Operator) (text : Text) (found : Operator) : Prop :=
  found ∈ operators ∧ found.fixity = .infixOp ∧ found.symbol <+: text ∧
    ∀ other ∈ operators, other.fixity = .infixOp → other.symbol <+: text →
      other.symbol.length ≤ found.symbol.length

theorem Operator.starts_iff {operator : Operator} {text : Text} :
    operator.starts text = true ↔ operator.fixity = .infixOp ∧ operator.symbol <+: text := by
  simp [starts]

namespace LongestFirst

variable {operators : List Operator}

/-- A table without overlaps may be declared in any order. -/
theorem of_perm {permuted : List Operator} (hperm : permuted.Perm operators)
    (hfree : ∀ first ∈ operators, ∀ second ∈ operators, first.fixity = .infixOp →
      second.fixity = .infixOp → first.symbol <+: second.symbol → first = second) :
    LongestFirst permuted where
  eq_of_symbol_eq first hfirst second hsecond hfixity hfixity' hsymbol :=
    hfree first (hperm.mem_iff.mp hfirst) second (hperm.mem_iff.mp hsecond) hfixity hfixity'
      (hsymbol ▸ List.prefix_rfl)
  longer_first := by
    apply List.pairwise_of_forall_mem_list
    intro earlier hearlier later hlater hfixity hfixity' hstarts
    rw [hfree earlier (hperm.mem_iff.mp hearlier) later (hperm.mem_iff.mp hlater) hfixity hfixity'
      hstarts]

theorem isLongest_of_first? (h : LongestFirst operators) {text : Text} {found : Operator}
    (hfound : Operator.first? operators text = some found) :
    Operator.IsLongest operators text found := by
  obtain ⟨hmem, hfixity, hsymbol⟩ := Operator.first?_eq_some hfound
  refine ⟨hmem, hfixity, hsymbol, fun other hother hfixity' hsymbol' => ?_⟩
  obtain ⟨-, before, after, rfl, hbefore⟩ := List.find?_eq_some_iff_append.mp hfound
  have hstarts : other.starts text = true := Operator.starts_iff.mpr ⟨hfixity', hsymbol'⟩
  rcases List.mem_append.mp hother with hother | hother
  · -- an operator before the one that was found does not start the text
    have := hbefore other hother
    rw [hstarts] at this
    cases this
  · rcases List.mem_cons.mp hother with rfl | hother
    · exact Nat.le_refl _
    · obtain ⟨-, hlater, -⟩ := List.pairwise_append.mp h.longer_first
      have hpair := (List.pairwise_cons.mp hlater).1 other hother
      rcases List.prefix_or_prefix_of_prefix hsymbol hsymbol' with hle | hle
      · exact Nat.le_of_eq (by rw [hpair hfixity hfixity' hle])
      · exact hle.length_le

theorem first?_eq_some_iff (h : LongestFirst operators) {text : Text} {found : Operator} :
    Operator.first? operators text = some found ↔ Operator.IsLongest operators text found := by
  refine ⟨h.isLongest_of_first?, ?_⟩
  rintro ⟨hmem, hfixity, hsymbol, hlongest⟩
  cases hfirst : Operator.first? operators text with
  | none =>
      have hnone := List.find?_eq_none.mp hfirst found hmem
      exact absurd (Operator.starts_iff.mpr ⟨hfixity, hsymbol⟩) hnone
  | some other =>
      obtain ⟨hother, hfixity', hsymbol', hlongest'⟩ := h.isLongest_of_first? hfirst
      have hlength : found.symbol.length = other.symbol.length := by
        have := hlongest other hother hfixity' hsymbol'
        have := hlongest' found hmem hfixity hsymbol
        omega
      have heq : found.symbol = other.symbol :=
        (List.prefix_of_prefix_length_le hsymbol hsymbol' (by omega)).eq_of_length hlength
      rw [h.eq_of_symbol_eq found hmem other hother hfixity hfixity' heq]

end LongestFirst

/-- Tables with the same infix operators, both with longer symbols first, find the same operator. -/
theorem Operator.first?_eq_of_longestFirst {first second : List Operator}
    (hfirst : LongestFirst first) (hsecond : LongestFirst second)
    (hsame : ∀ operator : Operator, operator.fixity = .infixOp →
      (operator ∈ first ↔ operator ∈ second)) :
    Operator.first? first = Operator.first? second := by
  funext text
  apply Option.ext
  intro found
  rw [hfirst.first?_eq_some_iff, hsecond.first?_eq_some_iff]
  constructor
  · rintro ⟨hmem, hfixity, hsymbol, hlongest⟩
    exact ⟨(hsame found hfixity).mp hmem, hfixity, hsymbol, fun other hother hfixity' =>
      hlongest other ((hsame other hfixity').mpr hother) hfixity'⟩
  · rintro ⟨hmem, hfixity, hsymbol, hlongest⟩
    exact ⟨(hsame found hfixity).mpr hmem, hfixity, hsymbol, fun other hother hfixity' =>
      hlongest other ((hsame other hfixity').mp hother) hfixity'⟩

/-! ## Expressions read a table through its lookup -/

namespace Parser

variable {α β γ : Type} {first second : List Operator}

theorem moreTokens_congr_table (hlookup : Operator.first? first = Operator.first? second)
    (accepts : Operator → Bool) (operand : Parser α) (rounds : Nat) :
    moreTokens accepts operand first rounds = moreTokens accepts operand second rounds := by
  induction rounds with
  | zero => rfl
  | succ rounds ih =>
      funext cursor
      rw [moreTokens_succ, moreTokens_succ, Operator.next?, Operator.next?, hlookup, ih]

theorem tokenizeWithin_congr_table (hlookup : Operator.first? first = Operator.first? second)
    (operand : Parser α) (rounds : Text → Nat) :
    operand.tokenizeWithin first rounds = operand.tokenizeWithin second rounds := by
  funext cursor
  simp only [tokenizeWithin, tokensWhileWithin, moreTokens_congr_table hlookup]

theorem extend_congr_table (hlookup : Operator.first? first = Operator.first? second)
    (primary : Parser (Tree α)) (depth : Nat) :
    extend primary first depth = extend primary second depth := by
  induction depth with
  | zero => rfl
  | succ depth ih =>
      funext least left cursor
      rw [extend_succ, extend_succ, Operator.next?, Operator.next?, hlookup, ih]

theorem climbWithin_congr_table (hlookup : Operator.first? first = Operator.first? second)
    (primary : Parser (Tree α)) (least : Int) (depth : Text → Nat) :
    primary.climbWithin first least depth = primary.climbWithin second least depth := by
  funext cursor
  simp only [climbWithin, extend_congr_table hlookup]

theorem nestedGroup_congr_table (hlookup : Operator.first? first = Operator.first? second)
    (operand : Parser α) (opening : Parser β) (closing : Parser γ) (depth : Text → Nat)
    (levels : Nat) :
    operand.nestedGroup opening closing first depth levels =
      operand.nestedGroup opening closing second depth levels := by
  induction levels with
  | zero => rfl
  | succ levels ih =>
      funext cursor
      rw [nestedGroup, nestedGroup, ih, climbWithin_congr_table hlookup]

theorem groupWithin_congr_table (hlookup : Operator.first? first = Operator.first? second)
    (operand : Parser α) (opening : Parser β) (closing : Parser γ) (depth levels : Text → Nat) :
    operand.groupWithin opening closing first depth levels =
      operand.groupWithin opening closing second depth levels := by
  funext cursor
  rw [groupWithin, groupWithin, nestedGroup_congr_table hlookup]

end Parser

/-- The two tables make the same parsers within all bounds: token lists, expressions and expressions
with groups. -/
structure ReadAlike (first second : List Operator) : Prop where
  tokenize : ∀ {α : Type} (operand : Parser α) (rounds : Text → Nat),
    operand.tokenizeWithin first rounds = operand.tokenizeWithin second rounds
  plain : ∀ {α : Type} (operand : Parser α) (least : Int) (depth : Text → Nat),
    ((ExpressionParser.plain operand first).withMinPrecedence least).parserWithin depth =
      ((ExpressionParser.plain operand second).withMinPrecedence least).parserWithin depth
  grouped : ∀ {α β γ : Type} (operand : Parser α) (opening : Parser β) (closing : Parser γ)
    (least : Int) (depth inner levels : Text → Nat),
    ((ExpressionParser.groupedWithin operand opening closing first inner levels).withMinPrecedence
        least).parserWithin depth =
      ((ExpressionParser.groupedWithin operand opening closing second inner
        levels).withMinPrecedence least).parserWithin depth

theorem ReadAlike.of_lookup {first second : List Operator}
    (hlookup : Operator.first? first = Operator.first? second) : ReadAlike first second where
  tokenize operand rounds := Parser.tokenizeWithin_congr_table hlookup operand rounds
  plain operand least depth := Parser.climbWithin_congr_table hlookup operand.leaf least depth
  grouped operand opening closing least depth inner levels := by
    have hgroup := Parser.groupWithin_congr_table hlookup operand opening closing inner levels
    show (operand.groupWithin opening closing first inner levels).climbWithin first least depth =
      (operand.groupWithin opening closing second inner levels).climbWithin second least depth
    rw [hgroup, Parser.climbWithin_congr_table hlookup]

/-- Of two tables with the same infix operators, in both of which longer symbols come first, each
finds the operator with the longest symbol, and both make the same parsers.  Where no symbol starts
another one that is so for any order. -/
theorem declaration_order_is_harmless {first second : List Operator}
    (hfirst : LongestFirst first) (hsecond : LongestFirst second)
    (hsame : ∀ operator : Operator, operator.fixity = .infixOp →
      (operator ∈ first ↔ operator ∈ second)) :
    (∀ text, Operator.first? first text = Operator.first? second text ∧
      ∀ found, Operator.first? first text = some found ↔ Operator.IsLongest first text found) ∧
    ReadAlike first second ∧
    (∀ operators permuted : List Operator,
      (∀ a ∈ operators, ∀ b ∈ operators, a.fixity = .infixOp → b.fixity = .infixOp →
        a.symbol <+: b.symbol → a = b) →
      permuted.Perm operators → ReadAlike operators permuted) := by
  have hlookup := Operator.first?_eq_of_longestFirst hfirst hsecond hsame
  refine ⟨fun text => ⟨congrFun hlookup text, fun found => hfirst.first?_eq_some_iff⟩,
    .of_lookup hlookup, fun operators permuted hfree hperm => .of_lookup ?_⟩
  apply Operator.first?_eq_of_longestFirst (.of_perm (.refl _) hfree) (.of_perm hperm hfree)
  exact fun operator _ => hperm.mem_iff.symm

/-- `-`, `->` and `->>`, a longer symbol before a shorter one, with `+` and with an entry that is no infix
operator. -/
def arrows : List Operator :=
  [⟨.infixOp, ['-', '>', '>'], 1⟩, ⟨.infixOp, ['-', '>'], -5⟩, ⟨.prefixOp, ['-'], 30⟩,
    ⟨.infixOp, ['-'], 10⟩, ⟨.infixOp, ['+'], 10⟩]

/-- The same infix operators in another order, with another entry that is none. -/
def arrowsReordered : List Operator :=
  [⟨.postfixOp, ['-'], 0⟩, ⟨.infixOp, ['+'], 10⟩, ⟨.infixOp, ['-', '>', '>'], 1⟩,
    ⟨.infixOp, ['-', '>'], -5⟩, ⟨.infixOp, ['-'], 10⟩]

/-- With both tables `1 ->> 2 - 3 -> 4` is read alike, although all its symbols start with `-`. -/
theorem declaration_order_is_harmless_of_arrows :
    LongestFirst arrows ∧ LongestFirst arrowsReordered ∧ ReadAlike arrows arrowsReordered ∧
    ((ExpressionParser.plain .integer arrows).withMinPrecedence (-5)).parser
        (.ofText ['1', '-', '>', '>', '2', '-', '3', '-', '>', '4', '!']) =
      .matched (.binary (.binary (.leaf 1) ⟨.infixOp, ['-', '>', '>'], 1⟩
          (.binary (.leaf 2) ⟨.infixOp, ['-'], 10⟩ (.leaf 3))) ⟨.infixOp, ['-', '>'], -5⟩ (.leaf 4))
        ⟨['!'], ⟨10, 0, 10⟩⟩ ∧
    ((ExpressionParser.plain .integer arrowsReordered).withMinPrecedence (-5)).parser
        (.ofText ['1', '-', '>', '>', '2', '-', '3', '-', '>', '4', '!']) =
      .matched (.binary (.binary (.leaf 1) ⟨.infixOp, ['-', '>', '>'], 1⟩
          (.binary (.leaf 2) ⟨.infixOp, ['-'], 10⟩ (.leaf 3))) ⟨.infixOp, ['-', '>'], -5⟩ (.leaf 4))
        ⟨['!'], ⟨10, 0, 10⟩⟩ := by
  have hfirst : LongestFirst arrows := ⟨by decide, by decide⟩
  have hsecond : LongestFirst arrowsReordered := ⟨by decide, by decide⟩
  have halike : ReadAlike arrows arrowsReordered := by
    refine (declaration_order_is_harmless hfirst hsecond fun operator hfixity => ?_).2.1
    constructor
    · intro hmem
      simp only [arrows, arrowsReordered, List.mem_cons, List.not_mem_nil, or_false] at hmem ⊢
      rcases hmem with rfl | rfl | rfl | rfl | rfl <;> simp at hfixity ⊢
    · intro hmem
      simp only [arrows, arrowsReordered, List.mem_cons, List.not_mem_nil, or_false] at hmem ⊢
      rcases hmem with rfl | rfl | rfl | rfl | rfl <;> simp at hfixity ⊢
  have hrun : ((ExpressionParser.plain .integer arrows).withMinPrecedence (-5)).parser
        (.ofText ['1', '-', '>', '>', '2', '-', '3', '-', '>', '4', '!']) =
      .matched (.binary (.binary (.leaf 1) ⟨.infixOp, ['-', '>', '>'], 1⟩
          (.binary (.leaf 2) ⟨.infixOp, ['-'], 10⟩ (.leaf 3))) ⟨.infixOp, ['-', '>'], -5⟩ (.leaf 4))
        ⟨['!'], ⟨10, 0, 10⟩⟩ := by decide
  have hsame := halike.plain Parser.integer (-5) fun text => text.length + 1
  exact ⟨hfirst, hsecond, halike, hrun, (congrFun hsame _).symm.trans hrun⟩

end ParserCombinators
