import Mathlib.Tactic.MkIffOfInductiveProp
import ParserCombinators.Proofs.Calculator.Language

/-!
# The arithmetic of the calculator is exact

The meaning of an expression is a computation with integers that have no bound (`exactValue`).  An
operation of it can be carried out when it is not a division by zero, when its result fits into 64
bits, and when it is not the one remainder whose quotient does not fit (`Defined`).

* **One operation.**  Applied to values that fit, it gives the exact result where it is defined and the
  error of the operation where it is not (`applySymbol_eq`).
* **A tree.**  Its value is the exact one when all of its operations are defined; otherwise its error is
  that of the first one that is not, in the order in which operands come before their operator
  (`evaluate_cases`, by induction on the tree).
* **A text.**  The trees that are read from texts have unsigned numbers for leaves and no operators but
  those of the calculator, so nothing else can go wrong with them.
-/

namespace ParserCombinators

/-! ## Operations of a tree -/

namespace Tree

variable {α : Type}

/-- An operator in a tree, with its operands. -/
structure Node (α : Type) where
  left : Tree α
  operator : Operator
  right : Tree α
  deriving DecidableEq, Repr

/-- The operators with their operands, those inside an operand first and those on the left first. -/
def nodes : Tree α → List (Node α)
  | .leaf _ => []
  | .binary left operator right => left.nodes ++ right.nodes ++ [⟨left, operator, right⟩]

end Tree

/-! ## Quotients and remainders of 64 bits -/

namespace Integer

/-- Only the quotient of the least integer by minus one is too large. -/
theorem fits_tdiv_iff {left right : Int} (hleft : Fits left) (hright : right ≠ 0) :
    Fits (left.tdiv right) ↔ ¬ (left = least ∧ right = -1) := by
  constructor
  · rintro hfits ⟨rfl, rfl⟩
    exact absurd hfits (by decide)
  · intro hcorner
    unfold Fits least greatest at *
    by_cases hone : right = 1
    · rw [hone, Int.tdiv_one]
      exact hleft
    · by_cases hminus : right = -1
      · rw [hminus, Int.tdiv_neg, Int.tdiv_one]
        omega
      · have hhalf : (left.tdiv right).natAbs ≤ left.natAbs / 2 := by
          rw [Int.natAbs_tdiv]
          exact Nat.div_le_div_left (by omega) (by decide)
        omega

theorem fits_tmod {left right : Int} (hright : Fits right) (hne : right ≠ 0) :
    Fits (left.tmod right) := by
  have hlt : (left.tmod right).natAbs < right.natAbs := by
    rw [Int.natAbs_tmod]
    exact Nat.mod_lt _ (Int.natAbs_pos.mpr hne)
  unfold Fits least greatest at *
  omega

end Integer

namespace Calculator

/-! ## One operation -/

/-- The symbols of the operators that have a meaning. -/
def symbols : List Text := [['+'], ['-'], ['*'], ['/'], ['%']]

/-- The symbol is one of the two that have a divisor. -/
def Divides (symbol : Text) : Prop := symbol = ['/'] ∨ symbol = ['%']

instance (symbol : Text) : Decidable (Divides symbol) := inferInstanceAs (Decidable (_ ∨ _))

/-- The result of an operation on integers without bound.  Division truncates toward zero, and a
remainder has the sign of the dividend. -/
def exactResult : Text → Int → Int → Int
  | ['+'], left, right => left + right
  | ['-'], left, right => left - right
  | ['*'], left, right => left * right
  | ['/'], left, right => left.tdiv right
  | ['%'], left, right => left.tmod right
  | _, _, _ => 0

/-- The operation can be carried out in 64 bits. -/
@[mk_iff]
structure Defined (symbol : Text) (left right : Int) : Prop where
  divisor_ne_zero : Divides symbol → right ≠ 0
  fits : Integer.Fits (exactResult symbol left right)
  quotient : symbol = ['%'] → ¬ (left = Integer.least ∧ right = -1)

instance (symbol : Text) (left right : Int) : Decidable (Defined symbol left right) :=
  decidable_of_iff' _ (defined_iff symbol left right)

/-- The error of an operation that cannot be carried out. -/
def arithmeticError (symbol : Text) (left right : Int) : CalcError :=
  if Divides symbol ∧ right = 0 then .divisionByZero else .overflow left symbol right

section Applied

variable {symbol : Text} {operation : Operation} {left right : Int}

theorem defined_iff_fits (hsymbol : ¬ Divides symbol) :
    Defined symbol left right ↔ Integer.Fits (exactResult symbol left right) := by
  have hremainder : symbol ≠ ['%'] := fun h => hsymbol (.inr h)
  simp [defined_iff, hsymbol, hremainder]

theorem defined_quotient_iff (hright : right ≠ 0) :
    Defined ['/'] left right ↔ Integer.Fits (left.tdiv right) := by
  simp [defined_iff, exactResult, hright]

/-- A remainder fits together with its divisor; what may not fit is the quotient. -/
theorem defined_remainder_iff (hfits : Integer.Fits left) (hdivisor : Integer.Fits right)
    (hright : right ≠ 0) : Defined ['%'] left right ↔ Integer.Fits (left.tdiv right) := by
  have hresult : Integer.Fits (exactResult ['%'] left right) := Integer.fits_tmod hdivisor hright
  rw [defined_iff, Integer.fits_tdiv_iff hfits hright]
  simp [hresult, hright]

theorem fit?_eq {result : Int} {p : Prop} [Decidable p] (h : p ↔ Integer.Fits result) :
    fit? result = if p then some result else none := by
  simp only [fit?, h]

/-- Division by zero is told apart first, and the rest is left to the checked operation. -/
theorem applySymbol_of_checked (hof : Operation.ofSymbol? symbol = some operation)
    (hdivides : operation.divides = true ↔ Divides symbol)
    (hchecked : ¬ (Divides symbol ∧ right = 0) → operation.checked left right =
      if Defined symbol left right then some (exactResult symbol left right) else none) :
    applySymbol symbol left right =
      if Defined symbol left right then .ok (exactResult symbol left right)
      else .error (arithmeticError symbol left right) := by
  simp only [applySymbol, hof, hdivides]
  by_cases hzero : Divides symbol ∧ right = 0
  · have hundefined : ¬ Defined symbol left right := fun h => h.divisor_ne_zero hzero.1 hzero.2
    rw [if_pos hzero, if_neg hundefined, arithmeticError, if_pos hzero]
  · rw [if_neg hzero, hchecked hzero, arithmeticError, if_neg hzero]
    by_cases hdefined : Defined symbol left right
    · rw [if_pos hdefined, if_pos hdefined]
    · rw [if_neg hdefined, if_neg hdefined]

/-- An operation on integers that fit gives its exact result where it is defined, and its error
elsewhere. -/
theorem applySymbol_eq (hsymbol : symbol ∈ symbols) (hleft : Integer.Fits left)
    (hright : Integer.Fits right) :
    applySymbol symbol left right =
      if Defined symbol left right then .ok (exactResult symbol left right)
      else .error (arithmeticError symbol left right) := by
  simp only [symbols, List.mem_cons, List.not_mem_nil, or_false] at hsymbol
  rcases hsymbol with rfl | rfl | rfl | rfl | rfl
  · exact applySymbol_of_checked rfl (by decide) fun _ => fit?_eq (defined_iff_fits (by decide))
  · exact applySymbol_of_checked rfl (by decide) fun _ => fit?_eq (defined_iff_fits (by decide))
  · exact applySymbol_of_checked rfl (by decide) fun _ => fit?_eq (defined_iff_fits (by decide))
  · refine applySymbol_of_checked rfl (by decide) fun hzero => ?_
    have hne : right ≠ 0 := fun h => hzero ⟨.inl rfl, h⟩
    exact fit?_eq (defined_quotient_iff hne)
  · refine applySymbol_of_checked rfl (by decide) fun hzero => ?_
    have hne : right ≠ 0 := fun h => hzero ⟨.inr rfl, h⟩
    rw [Operation.checked, fit?_eq (defined_remainder_iff hleft hright hne)]
    split <;> rfl

end Applied

/-! ## Trees -/

/-- The value of an expression in integers without bound. -/
def exactValue : Tree Int → Int
  | .leaf value => value
  | .binary left operator right =>
      exactResult operator.symbol (exactValue left) (exactValue right)

/-- The operation at a node can be carried out on the values of its operands. -/
abbrev DefinedAt (node : Tree.Node Int) : Prop :=
  Defined node.operator.symbol (exactValue node.left) (exactValue node.right)

/-- The error of a node whose operation cannot be carried out. -/
def errorAt (node : Tree.Node Int) : CalcError :=
  arithmeticError node.operator.symbol (exactValue node.left) (exactValue node.right)

/-- The first node of a tree whose operation cannot be carried out. -/
def firstUndefined? (tree : Tree Int) : Option (Tree.Node Int) :=
  tree.nodes.find? fun node => ¬ DefinedAt node

/-- The tree has integers of 64 bits for leaves, and no operators but the five. -/
structure Arithmetic (tree : Tree Int) : Prop where
  fits : ∀ value ∈ tree.leaves, Integer.Fits value
  symbol_mem : ∀ operator ∈ tree.operators, operator.symbol ∈ symbols

/-- The node is the first one that cannot be carried out, and its operands have their values. -/
structure FailsAt (tree : Tree Int) (node : Tree.Node Int) : Prop where
  first : firstUndefined? tree = some node
  left : evaluate node.left = .ok (exactValue node.left)
  right : evaluate node.right = .ok (exactValue node.right)

section Binary

variable {first second : Tree Int} {operator : Operator}

theorem Arithmetic.left (h : Arithmetic (.binary first operator second)) : Arithmetic first where
  fits value hvalue := h.fits value (List.mem_append_left _ hvalue)
  symbol_mem inner hinner := h.symbol_mem inner (List.mem_append_left _ hinner)

theorem Arithmetic.right (h : Arithmetic (.binary first operator second)) : Arithmetic second where
  fits value hvalue := h.fits value (List.mem_append_right _ hvalue)
  symbol_mem inner hinner :=
    h.symbol_mem inner (List.mem_append_right _ (List.mem_cons_of_mem _ hinner))

theorem Arithmetic.root (h : Arithmetic (.binary first operator second)) :
    operator.symbol ∈ symbols :=
  h.symbol_mem operator (List.mem_append_right _ List.mem_cons_self)

/-- The left operand comes first, then the right one, then the node itself. -/
theorem firstUndefined?_binary :
    firstUndefined? (.binary first operator second) =
      ((firstUndefined? first).or (firstUndefined? second)).or
        (if DefinedAt ⟨first, operator, second⟩ then none else some ⟨first, operator, second⟩) := by
  unfold firstUndefined?
  rw [Tree.nodes, List.find?_append, List.find?_append, List.find?_singleton]
  by_cases hdefined : DefinedAt ⟨first, operator, second⟩ <;> simp [hdefined]

theorem FailsAt.of_left {node : Tree.Node Int} (h : FailsAt first node) :
    FailsAt (.binary first operator second) node where
  first := by
    rw [firstUndefined?_binary, h.first]
    rfl
  left := h.left
  right := h.right

theorem FailsAt.of_right {node : Tree.Node Int} (hfirst : firstUndefined? first = none)
    (h : FailsAt second node) : FailsAt (.binary first operator second) node where
  first := by
    rw [firstUndefined?_binary, hfirst, h.first]
    rfl
  left := h.left
  right := h.right

end Binary

/-- A tree has its exact value, which fits, or the error of its first node that has none. -/
theorem evaluate_cases {tree : Tree Int} (h : Arithmetic tree) :
    (firstUndefined? tree = none ∧ evaluate tree = .ok (exactValue tree) ∧
        Integer.Fits (exactValue tree)) ∨
      ∃ node, FailsAt tree node ∧ evaluate tree = .error (errorAt node) := by
  induction tree with
  | leaf value => exact .inl ⟨rfl, rfl, h.fits value List.mem_cons_self⟩
  | binary first operator second ihfirst ihsecond =>
      rcases ihfirst h.left with ⟨hfirst, hleft, hleftFits⟩ | ⟨node, hfails, herror⟩
      · rcases ihsecond h.right with ⟨hsecond, hright, hrightFits⟩ | ⟨node, hfails, herror⟩
        · have happly := applySymbol_eq h.root hleftFits hrightFits
          by_cases hdefined : DefinedAt ⟨first, operator, second⟩
          · left
            refine ⟨?_, ?_, hdefined.fits⟩
            · rw [firstUndefined?_binary, hfirst, hsecond, if_pos hdefined]
              rfl
            · simp only [evaluate, hleft, hright, happly, if_pos hdefined]
              rfl
          · refine .inr ⟨⟨first, operator, second⟩, ⟨?_, hleft, hright⟩, ?_⟩
            · rw [firstUndefined?_binary, hfirst, hsecond, if_neg hdefined]
              rfl
            · simp only [evaluate, hleft, hright, happly, if_neg hdefined]
              rfl
        · refine .inr ⟨node, hfails.of_right hfirst, ?_⟩
          simp only [evaluate, hleft, herror]
      · refine .inr ⟨node, hfails.of_left, ?_⟩
        simp only [evaluate, herror]

theorem firstUndefined?_eq_none_iff {tree : Tree Int} :
    firstUndefined? tree = none ↔ ∀ node ∈ tree.nodes, DefinedAt node := by
  simp [firstUndefined?, List.find?_eq_none]

theorem evaluate_eq_ok_iff {tree : Tree Int} (h : Arithmetic tree) {value : Int} :
    evaluate tree = .ok value ↔
      (∀ node ∈ tree.nodes, DefinedAt node) ∧ value = exactValue tree := by
  rw [← firstUndefined?_eq_none_iff]
  rcases evaluate_cases h with ⟨hnone, hvalue, -⟩ | ⟨node, hfails, herror⟩
  · rw [hvalue, Except.ok.injEq, and_iff_right hnone, eq_comm]
  · simp [hfails.first, herror]

theorem evaluate_eq_error_iff {tree : Tree Int} (h : Arithmetic tree) {error : CalcError} :
    evaluate tree = .error error ↔ ∃ node, FailsAt tree node ∧ error = errorAt node := by
  constructor
  · intro hevaluate
    rcases evaluate_cases h with ⟨-, hvalue, -⟩ | ⟨node, hfails, herror⟩
    · rw [hvalue] at hevaluate
      cases hevaluate
    · rw [herror, Except.error.injEq] at hevaluate
      exact ⟨node, hfails, hevaluate.symm⟩
  · rintro ⟨node, hfails, rfl⟩
    rcases evaluate_cases h with ⟨hnone, -, -⟩ | ⟨other, hother, herror⟩
    · rw [hfails.first] at hnone
      cases hnone
    · -- there is one first node only
      have hsame : other = node := Option.some.inj (hother.first.symm.trans hfails.first)
      rw [herror, hsame]

theorem errorAt_ne_unknownOperator (node : Tree.Node Int) (symbol : Text) :
    errorAt node ≠ .unknownOperator symbol := by
  unfold errorAt arithmeticError
  split <;> simp

/-! ## Texts -/

theorem Renders.range_of_mem_leaves {operators : List Operator} {level : Int} {text : Text}
    {tree : Tree Int} (h : Renders operators level text tree) :
    ∀ value ∈ tree.leaves, 0 ≤ value ∧ value ≤ Integer.greatest := by
  induction h with
  | number _ hnumeral _ =>
      intro value hvalue
      rw [Tree.leaves, List.mem_singleton] at hvalue
      subst hvalue
      exact ⟨Int.natCast_nonneg _, hnumeral.fits.2⟩
  | group _ _ _ _ _ ih => exact ih
  | binary _ _ _ _ _ ihleft ihright =>
      intro value hvalue
      rcases List.mem_append.mp hvalue with hvalue | hvalue
      · exact ihleft value hvalue
      · exact ihright value hvalue

theorem Renders.mem_of_mem_operators {operators : List Operator} {level : Int} {text : Text}
    {tree : Tree Int} (h : Renders operators level text tree) :
    ∀ operator ∈ tree.operators, operator ∈ operators := by
  induction h with
  | number _ _ _ =>
      intro operator hoperator
      cases hoperator
  | group _ _ _ _ _ ih => exact ih
  | binary hmem _ _ _ _ ihleft ihright =>
      intro operator hoperator
      rcases List.mem_append.mp hoperator with hoperator | hoperator
      · exact ihleft operator hoperator
      · rcases List.mem_cons.mp hoperator with rfl | hoperator
        · exact hmem
        · exact ihright operator hoperator

section Accepted

variable {text : Text} {tree : Tree Int}

theorem renders_of_accepted (h : expression.parser.parseComplete text = .accepted tree) :
    Renders operators 0 text tree :=
  (accepts_iff_renders readable_operators 0 text tree).mp h

theorem arithmetic_of_accepted (h : expression.parser.parseComplete text = .accepted tree) :
    Arithmetic tree where
  fits value hvalue := by
    obtain ⟨hzero, hgreatest⟩ := (renders_of_accepted h).range_of_mem_leaves value hvalue
    have hleast : Integer.least ≤ 0 := by decide
    exact ⟨Int.le_trans hleast hzero, hgreatest⟩
  symbol_mem operator hoperator := by
    have hsymbols : ∀ operator ∈ operators, operator.symbol ∈ symbols := by decide
    exact hsymbols operator ((renders_of_accepted h).mem_of_mem_operators operator hoperator)

end Accepted

/-- A text has the value of the tree that it is read to. -/
theorem calculate_eq_ok_iff {text : Text} {value : Int} :
    calculate text = .ok value ↔
      ∃ tree, expression.parser.parseComplete text = .accepted tree ∧
        evaluate tree = .ok value := by
  unfold calculate
  cases expression.parser.parseComplete text with
  | accepted tree => simp
  | rejected error => simp
  | fault cause => simp

/-- And it has the error of that tree, or the one for which it is not read to a tree. -/
theorem calculate_eq_error_iff {text : Text} {error : CalcError} :
    calculate text = .error error ↔
      (∃ tree, expression.parser.parseComplete text = .accepted tree ∧
        evaluate tree = .error error) ∨
      (∃ reason, expression.parser.parseComplete text = .rejected reason ∧
        error = .parse reason) ∨
      ∃ cause, expression.parser.parseComplete text = .fault cause ∧ error = .fault cause := by
  unfold calculate
  cases expression.parser.parseComplete text with
  | accepted tree => simp
  | rejected reason => simp [eq_comm]
  | fault cause => simp [eq_comm]

theorem calculate_ne_unknownOperator (text symbol : Text) :
    calculate text ≠ .error (.unknownOperator symbol) := by
  intro herror
  rcases calculate_eq_error_iff.mp herror with
    ⟨tree, haccepted, hevaluate⟩ | ⟨reason, -, hreason⟩ | ⟨cause, -, hcause⟩
  · obtain ⟨node, -, hnode⟩ :=
      (evaluate_eq_error_iff (arithmetic_of_accepted haccepted)).mp hevaluate
    exact errorAt_ne_unknownOperator node symbol hnode.symm
  · cases hreason
  · cases hcause

/-- What is read from a text has unsigned leaves and the operators of the calculator, and is never of an
unknown operator.  Any tree of 64-bit integers is evaluated as if they had no bound, when each operation
in it can be carried out, and otherwise to the error of the first one that cannot. -/
theorem arithmetic_is_exact :
    (∀ text tree, expression.parser.parseComplete text = .accepted tree →
      (∀ value ∈ tree.leaves, 0 ≤ value ∧ value ≤ Integer.greatest) ∧
        ∀ operator ∈ tree.operators, operator ∈ operators) ∧
    (∀ text symbol, calculate text ≠ .error (.unknownOperator symbol)) ∧
    ∀ tree, Arithmetic tree →
      (∀ value, evaluate tree = .ok value ↔
        (∀ node ∈ tree.nodes, DefinedAt node) ∧ value = exactValue tree) ∧
      ∀ error, evaluate tree = .error error ↔ ∃ node, FailsAt tree node ∧ error = errorAt node := by
  refine ⟨fun text tree haccepted => ?_, calculate_ne_unknownOperator, fun tree h => ?_⟩
  · have hrenders := renders_of_accepted haccepted
    exact ⟨hrenders.range_of_mem_leaves, hrenders.mem_of_mem_operators⟩
  · exact ⟨fun value => evaluate_eq_ok_iff h, fun error => evaluate_eq_error_iff h⟩

/-- A text is read to a division by a difference.  In a tree that no text is read to, a remainder whose
quotient does not fit comes before a division by zero. -/
theorem arithmetic_is_exact_of_corner :
    (expression.parser.parseComplete ['7', '/', '(', '3', '-', '2', ')'] =
        .accepted (.binary (.leaf 7) ⟨.infixOp, ['/'], 20⟩
          (.binary (.leaf 3) ⟨.infixOp, ['-'], 10⟩ (.leaf 2))) ∧
      (∀ value ∈ [(7 : Int), 3, 2], 0 ≤ value ∧ value ≤ Integer.greatest) ∧
      evaluate (.binary (.leaf 7) ⟨.infixOp, ['/'], 20⟩
        (.binary (.leaf 3) ⟨.infixOp, ['-'], 10⟩ (.leaf 2))) = .ok 7) ∧
    Arithmetic (.binary (.binary (.leaf Integer.least) ⟨.infixOp, ['%'], 20⟩ (.leaf (-1)))
        ⟨.infixOp, ['/'], 20⟩ (.leaf 0)) ∧
      evaluate (.binary (.binary (.leaf Integer.least) ⟨.infixOp, ['%'], 20⟩ (.leaf (-1)))
        ⟨.infixOp, ['/'], 20⟩ (.leaf 0)) = .error (.overflow Integer.least ['%'] (-1)) := by
  obtain ⟨hread, -, hexact⟩ := arithmetic_is_exact
  have haccepted : expression.parser.parseComplete ['7', '/', '(', '3', '-', '2', ')'] =
      .accepted (.binary (.leaf 7) ⟨.infixOp, ['/'], 20⟩
        (.binary (.leaf 3) ⟨.infixOp, ['-'], 10⟩ (.leaf 2))) := by decide
  have hquotient : Arithmetic (.binary (.leaf 7) ⟨.infixOp, ['/'], 20⟩
      (.binary (.leaf 3) ⟨.infixOp, ['-'], 10⟩ (.leaf 2))) := ⟨by decide, by decide⟩
  have hcorner : Arithmetic
      (.binary (.binary (.leaf Integer.least) ⟨.infixOp, ['%'], 20⟩ (.leaf (-1)))
        ⟨.infixOp, ['/'], 20⟩ (.leaf 0)) := ⟨by decide, by decide⟩
  refine ⟨⟨haccepted, (hread _ _ haccepted).1, ?_⟩, hcorner, ?_⟩
  · exact ((hexact _ hquotient).1 7).mpr ⟨by decide, rfl⟩
  · exact ((hexact _ hcorner).2 _).mpr
      ⟨⟨.leaf Integer.least, ⟨.infixOp, ['%'], 20⟩, .leaf (-1)⟩, ⟨by decide, rfl, rfl⟩, by decide⟩

end Calculator

end ParserCombinators
