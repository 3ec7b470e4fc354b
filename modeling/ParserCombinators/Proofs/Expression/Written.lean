import ParserCombinators.Expression.Tokens
import ParserCombinators.Parser.Complete
import ParserCombinators.Proofs.Calculator.Lexical
import ParserCombinators.Proofs.Expression.Progress
import ParserCombinators.Proofs.Expression.Symbols

/-!
# Tokens are found again without separators

A chain of numbers and infix operators is written without anything between its parts, and every
number with as many zeros in front of it as one likes.  Reading it as tokens gives the chain back.

Three kinds of boundaries have to be found again.

* **Behind a number** a symbol begins, and no symbol begins with a digit.  So the run of digits, which
  is read as far as it goes, is the number (`Parser.integer_of_remaining`).
* **Behind a symbol** a number begins.  A symbol may itself end with digits, but since no symbol starts
  another one the table finds the one that was written, whatever digits follow it
  (`PrefixFree.first?_append`).
* **At the end** no symbol matches, since none is empty (`Operator.first?_nil`).

The induction is on the chain.  It is carried out in front of any rest that continues neither the last
number nor the chain, since a number inside the chain is read in front of what follows it.
-/

namespace ParserCombinators

/-- No infix symbol of the table is empty, starts another one or could continue a number. -/
structure Separable (operators : List Operator) : Prop extends PrefixFree operators where
  symbol_stops : ∀ operator ∈ operators, operator.fixity = .infixOp →
    operator.symbol.Stops Char.isDigit

/-! ## Numbers in decimal -/

/-- A number of 64 bits that is not negative, written with some zeros in front. -/
structure WrittenNumber where
  zeros : Nat
  value : Nat
  fits : Integer.Fits value

namespace WrittenNumber

open Calculator (Numeral)

def text (number : WrittenNumber) : Text :=
  List.replicate number.zeros '0' ++ Nat.toDigits 10 number.value

theorem ofDigits_text (number : WrittenNumber) : Integer.ofDigits number.text = number.value :=
  Integer.ofDigits_zeros_append_toDigits number.zeros number.value

theorem numeral_text (number : WrittenNumber) : Numeral number.text where
  ne_nil := List.append_ne_nil_of_right_ne_nil _ Nat.toDigits_ne_nil
  isDigit := by
    intro c hc
    rcases List.mem_append.mp hc with hzero | hdigit
    · rw [List.eq_of_mem_replicate hzero]
      rfl
    · exact Nat.isDigit_of_mem_toDigits (by decide) (by decide) hdigit
  fits := by
    rw [ofDigits_text]
    exact number.fits

end WrittenNumber

/-! ## Chains -/

/-- Numbers with operators between them, as they are written. -/
inductive Chain where
  | last (number : WrittenNumber)
  | more (number : WrittenNumber) (operator : Operator) (rest : Chain)

namespace Chain

/-- The chain without anything between its parts. -/
def text : Chain → Text
  | .last number => number.text
  | .more number operator rest => number.text ++ (operator.symbol ++ rest.text)

def tokens : Chain → List (Token Int)
  | .last number => [.operand number.value]
  | .more number operator rest => .operand number.value :: .operator operator :: rest.tokens

/-- All operators of the chain are infix operators of the table. -/
def Over (operators : List Operator) : Chain → Prop
  | .last _ => True
  | .more _ operator rest =>
      operator ∈ operators ∧ operator.fixity = .infixOp ∧ rest.Over operators

end Chain

/-! ## Reading -/

namespace Parser

variable {α : Type} {operators : List Operator}

/-- Reading tokens without a bound: an operand, and behind an operator the same once more. -/
theorem tokenize_eq {operand : Parser α} (hoperand : Conserving operand) (cursor : Cursor) :
    tokenize operand operators cursor =
      (operand cursor).andThen fun value rest =>
        match Operator.first? operators rest.remaining with
        | none => .matched [.operand value] rest
        | some found =>
            (tokenize operand operators (rest.past found.symbol)).map fun tokens =>
              .operand value :: .operator found :: tokens := by
  rw [tokenize, tokensWhile_eq]
  apply Reply.andThen_congr
  intro value rest _
  rw [tokensAfter_eq hoperand, Operator.next?]
  cases Operator.first? operators rest.remaining with
  | none => rfl
  | some found =>
      simp only [Option.filter_some, if_true, tokensWhile_eq, Reply.map_andThen, Reply.map_map]

/-- The chain in front of a rest with which neither its last number nor the chain goes on. -/
theorem tokenize_of_remaining (h : Separable operators) {chain : Chain}
    (hchain : chain.Over operators) {cursor : Cursor} {behind : Text}
    (hremaining : cursor.remaining = chain.text ++ behind)
    (hdigit : behind.Stops Char.isDigit) (hfirst : Operator.first? operators behind = none) :
    integer.tokenize operators cursor = .matched chain.tokens (cursor.past chain.text) := by
  induction chain generalizing cursor with
  | last number =>
      have hlast : cursor.remaining = number.text ++ behind := hremaining
      have hnumber := integer_of_remaining hlast number.numeral_text hdigit
      rw [tokenize_eq Contract.conserving_integer, hnumber, Reply.andThen_matched,
        Cursor.past_remaining hlast, hfirst, number.ofDigits_text]
      rfl
  | more number operator rest ih =>
      obtain ⟨hmem, hfixity, hrest⟩ := hchain
      have hsplit : cursor.remaining =
          number.text ++ (operator.symbol ++ (rest.text ++ behind)) := by
        rw [hremaining, Chain.text, List.append_assoc, List.append_assoc]
      have hsymbol : (operator.symbol ++ (rest.text ++ behind)).Stops Char.isDigit :=
        (h.symbol_stops operator hmem hfixity).append_of_ne_nil
          (h.symbol_ne_nil operator hmem hfixity) _
      have hnumber := integer_of_remaining hsplit number.numeral_text hsymbol
      have hinside : (cursor.past number.text).remaining =
          operator.symbol ++ (rest.text ++ behind) := Cursor.past_remaining hsplit
      have hfound := h.first?_append hmem hfixity (rest.text ++ behind)
      rw [tokenize_eq Contract.conserving_integer, hnumber, Reply.andThen_matched, hinside, hfound,
        number.ofDigits_text]
      simp only [ih hrest (Cursor.past_remaining hinside), Reply.map_matched, Chain.tokens,
        Chain.text, Cursor.past_append]

end Parser

namespace Chain

variable {operators : List Operator}

/-- The text of a chain is accepted as the tokens of the chain. -/
theorem tokenize_reads_back (h : Separable operators) {chain : Chain}
    (hchain : chain.Over operators) :
    (Parser.integer.tokenize operators).parseComplete chain.text = .accepted chain.tokens := by
  apply Parser.parseComplete_eq_accepted_iff.mpr
  have hstart : (Cursor.ofText chain.text).remaining = chain.text ++ [] :=
    (List.append_nil _).symm
  refine ⟨(Cursor.ofText chain.text).past chain.text, ?_, Cursor.past_remaining hstart⟩
  exact Parser.tokenize_of_remaining h hchain hstart Text.stops_nil
    (Operator.first?_nil h.symbol_ne_nil)

/-- A table whose symbols contain each other and end with digits: `007-70+-712` is read as the
number 7, `-7`, the number 0, `+-7` and the number 12. -/
theorem tokenize_reads_back_of_digits :
    let minusSeven : Operator := { symbol := "-7".toList, precedence := -1 }
    let plusMinusSeven : Operator := { symbol := "+-7".toList, precedence := 0 }
    let one : Operator := { fixity := .prefixOp, symbol := "1".toList, precedence := 5 }
    let operators := [one, minusSeven, plusMinusSeven]
    let chain : Chain := .more ⟨2, 7, by decide⟩ minusSeven
      (.more ⟨0, 0, by decide⟩ plusMinusSeven (.last ⟨0, 12, by decide⟩))
    Separable operators ∧ chain.Over operators ∧ chain.text = "007-70+-712".toList ∧
      (Parser.integer.tokenize operators).parseComplete "007-70+-712".toList =
        .accepted [.operand 7, .operator minusSeven, .operand 0, .operator plusMinusSeven,
          .operand 12] := by
  intro minusSeven plusMinusSeven one operators chain
  have hoperators : Separable operators := ⟨⟨by decide, by decide⟩, by decide⟩
  have hchain : chain.Over operators := ⟨by decide, rfl, by decide, rfl, trivial⟩
  have htext : chain.text = "007-70+-712".toList := by decide
  refine ⟨hoperators, hchain, htext, ?_⟩
  rw [← htext]
  exact tokenize_reads_back hoperators hchain

end Chain

end ParserCombinators
