import ParserCombinators.Calculator.Basic
import ParserCombinators.Proofs.Calculator.Notation
import ParserCombinators.Proofs.Expression.Grouping
import ParserCombinators.Proofs.Expression.Nesting
import ParserCombinators.Proofs.Expression.Symbols

/-!
# The language of the calculator

A text is accepted with a tree exactly when it is a notation of that tree
(`integers_accepts_iff_renders`), for every table whose symbols can be told from each other and from
numbers, blanks and parentheses.

* **What is read is a notation.** This needs no assumption on the table.  `Between` is a property of
  the kind that expression parsers keep (`ClimbInvariant`), and groups are an induction on how deep
  they are nested.
* **Every notation is read.** `Covers` says of a notation that the parser gets to its end and leaves
  to its loop only what comes behind, whatever that is.  There is one lemma for each way to write a
  tree.  The induction is on the length of the notation and not on how it is made, because the
  parser takes the blanks around the body of a group in other parts than the grammar does.
-/

namespace ParserCombinators.Calculator

open CharClass (isBlank)
open ParserCombinators.Parser (spaced)

variable {operators : List Operator} {level least : Int} {cursor rest : Cursor} {tree : Tree Int}

/-! ## What is read is a notation -/

/-- The input between two places is a notation of the tree. -/
def Between (operators : List Operator) (level : Int) (cursor : Cursor) (tree : Tree Int)
    (rest : Cursor) : Prop :=
  ∃ text, cursor.remaining = text ++ rest.remaining ∧ Renders operators level text tree

theorem climbInvariant_between {primary : Parser (Tree Int)}
    (hprimary : ∀ cursor tree rest, primary cursor = .matched tree rest →
      ∀ level, Between operators level cursor tree rest) :
    ClimbInvariant primary operators (Between operators) where
  primary := hprimary _ _ _
  weaken := by
    intro lower level cursor tree rest hle hbetween
    rcases hbetween with ⟨text, hremaining, hrenders⟩
    exact ⟨text, hremaining, hrenders.lower hle⟩
  binary := by
    intro cursor left middle found right rest hfirst hbefore hbehind
    rcases hbefore with ⟨front, hfront, hleft⟩
    rcases hbehind with ⟨back, hback, hright⟩
    obtain ⟨hmem, hfixity, hsymbol⟩ := Operator.first?_eq_some hfirst
    have hmiddle : middle.remaining = found.symbol ++ (back ++ rest.remaining) := by
      rw [← hback]
      exact Cursor.remaining_of_isPrefix hsymbol
    refine ⟨front ++ found.symbol ++ back, ?_, .binary hmem hfixity (Int.le_refl _) hleft hright⟩
    rw [hfront, hmiddle, List.append_assoc, List.append_assoc]

/-- A group is a notation of its body, whatever the level. -/
theorem between_of_groupOr {body : Parser (Tree Int)}
    (hbody : ∀ cursor tree rest, body cursor = .matched tree rest →
      Between operators 0 cursor tree rest)
    (hmatch : (spaced .integer).groupOr (spaced (.char '(')) body (spaced (.char ')')) cursor =
      .matched tree rest) : Between operators level cursor tree rest := by
  rcases Parser.groupOr_eq_matched_iff.mp hmatch with ⟨start, stop, hgroup⟩ | ⟨-, value, hvalue, rfl⟩
  · obtain ⟨inside, behind, hopening, hinside, hclosing⟩ := Parser.between_eq_matched_iff.mp hgroup
    obtain ⟨before, opened, hbefore, hopened, hcursor⟩ := Parser.exists_of_spaced_char hopening
    obtain ⟨closed, after, hclosed, hafter, hbehind⟩ := Parser.exists_of_spaced_char hclosing
    obtain ⟨text, htext, hrenders⟩ := hbody _ _ _ hinside
    refine ⟨_, ?_, .group hbefore hopened hrenders hclosed hafter⟩
    rw [hcursor, htext, hbehind]
    simp
  · obtain ⟨before, digits, after, hbefore, hnumeral, hafter, rfl, hcursor⟩ :=
      Parser.exists_of_spaced_integer hvalue
    refine ⟨_, ?_, .number hbefore hnumeral hafter⟩
    rw [hcursor, List.append_assoc, List.append_assoc]

theorem between_of_nestedGroup {depth : Text → Nat} {levels : Nat}
    (hmatch : Parser.nestedGroup (spaced .integer) (spaced (.char '(')) (spaced (.char ')'))
      operators depth levels cursor = .matched tree rest) :
    Between operators level cursor tree rest := by
  induction levels generalizing level cursor tree rest with
  | zero => simp [Parser.nestedGroup] at hmatch
  | succ levels ih =>
      refine between_of_groupOr (fun place found behind hbody => ?_) hmatch
      -- the primaries of the body are nested one less deep
      have hinvariant := climbInvariant_between fun _ _ _ hprimary _ => ih hprimary
      exact (hinvariant.climbWithin hbody).1

theorem between_of_climb
    (hmatch : (integers operators).primary.climb operators least cursor = .matched tree rest) :
    Between operators least cursor tree rest := by
  have hinvariant : ClimbInvariant (integers operators).primary operators (Between operators) :=
    climbInvariant_between fun _ _ _ hprimary _ => between_of_nestedGroup hprimary
  exact (hinvariant.climbWithin hmatch).1

/-! ## Tables with readable symbols -/

/-- The character may start a number, stand around one, or start or end a group. -/
def isReserved (c : Char) : Bool := c.isDigit || isBlank c || c == '(' || c == ')'

/-- Infix symbols are told apart from each other and from everything else in an expression. -/
structure Readable (operators : List Operator) : Prop extends PrefixFree operators where
  symbol_stops : ∀ operator ∈ operators, operator.fixity = .infixOp →
    operator.symbol.Stops isReserved

theorem readable_operators : Readable Calculator.operators where
  symbol_ne_nil := by decide
  eq_of_isPrefix := by decide
  symbol_stops := by decide

/-- The text may stand behind an expression of the level. -/
structure Follows (operators : List Operator) (level : Int) (text : Text) : Prop where
  blank : text.Stops isBlank
  digit : text.Stops Char.isDigit
  precedence_le : ∀ next, Operator.first? operators text = some next → next.precedence ≤ level

theorem Follows.mono {higher : Int} {text : Text} (h : Follows operators level text)
    (hle : level ≤ higher) : Follows operators higher text where
  blank := h.blank
  digit := h.digit
  precedence_le next hnext := Int.le_trans (h.precedence_le next hnext) hle

namespace Readable

variable (h : Readable operators)

include h

theorem first?_reserved {c : Char} (hc : isReserved c = true) (text : Text) :
    Operator.first? operators (c :: text) = none := by
  cases hfirst : Operator.first? operators (c :: text) with
  | none => rfl
  | some found =>
      obtain ⟨hmem, hfixity, tail, htail⟩ := Operator.first?_eq_some hfirst
      have hstops : Text.Stops (c :: text) isReserved := by
        rw [← htail]
        exact (h.symbol_stops found hmem hfixity).append_of_ne_nil
          (h.symbol_ne_nil found hmem hfixity) tail
      rw [Text.stops_cons.mp hstops] at hc
      cases hc

theorem follows_nil : Follows operators level [] where
  blank := Text.stops_nil
  digit := Text.stops_nil
  precedence_le next hnext := by
    rw [Operator.first?_nil h.symbol_ne_nil] at hnext
    cases hnext

theorem follows_closing (text : Text) : Follows operators level (')' :: text) where
  blank := Text.stops_cons.mpr rfl
  digit := Text.stops_cons.mpr rfl
  precedence_le next hnext := by
    rw [h.first?_reserved rfl] at hnext
    cases hnext

theorem follows_symbol {operator : Operator} (hmem : operator ∈ operators)
    (hfixity : operator.fixity = .infixOp) (text : Text) :
    Follows operators operator.precedence (operator.symbol ++ text) := by
  have hstops : (operator.symbol ++ text).Stops isReserved :=
    (h.symbol_stops operator hmem hfixity).append_of_ne_nil
      (h.symbol_ne_nil operator hmem hfixity) text
  constructor
  · exact hstops.of_wider fun c hc => by simp [isReserved, hc]
  · exact hstops.of_wider fun c hc => by simp [isReserved, hc]
  · intro next hnext
    rw [h.first?_append hmem hfixity] at hnext
    cases hnext
    exact Int.le_refl _

end Readable

/-! ## Every notation is read -/

theorem conserving_spaced {α : Type} {p : Parser α} (hp : Conserving p) : Conserving p.spaced :=
  (Contract.keptBy_conservation hp).spaced.conserving

theorem conserving_spaced_char (expected : Char) : Conserving (Parser.char expected).spaced :=
  conserving_spaced (Contract.conservation.keptBy_char expected).conserving

theorem conserving_spaced_integer : Conserving (spaced .integer) :=
  conserving_spaced Contract.conserving_integer

/-- A number or a group, without the bound on the nesting of groups. -/
theorem primary_eq (operators : List Operator) (cursor : Cursor) :
    (integers operators).primary cursor =
      (spaced .integer).groupOr (spaced (.char '(')) ((integers operators).primary.climb operators 0)
        (spaced (.char ')')) cursor :=
  Parser.group_eq conserving_spaced_integer (conserving_spaced_char _) (conserving_spaced_char _)
    cursor

theorem conserving_primary (operators : List Operator) :
    Conserving (integers operators).primary :=
  Parser.conserving_group conserving_spaced_integer (conserving_spaced_char _)
    (conserving_spaced_char _) operators

/-- A number is read as far as it is written. -/
theorem primary_number {before digits after behind : Text}
    (hremaining : cursor.remaining = before ++ (digits ++ (after ++ behind)))
    (hbefore : Blank before) (hnumeral : Numeral digits) (hafter : Blank after)
    (hbehind : Follows operators level behind) :
    (integers operators).primary cursor =
      .matched (.leaf (Integer.ofDigits digits)) (cursor.past (before ++ (digits ++ after))) := by
  have hinteger := Parser.spaced_integer_of_remaining hremaining hbefore hnumeral hafter
    hbehind.blank hbehind.digit
  obtain ⟨failure, hopening⟩ : ∃ failure, (spaced (.char '(')) cursor = .failed failure := by
    cases digits with
    | nil => exact absurd rfl hnumeral.ne_nil
    | cons d digits =>
        have hdigit : d.isDigit = true := hnumeral.isDigit d List.mem_cons_self
        have hne : d ≠ '(' := by
          rintro rfl
          cases hdigit
        exact Parser.spaced_char_of_other hremaining hbefore
          (CharClass.isBlank_eq_false_of_isDigit hdigit) hne
  rw [primary_eq]
  refine Parser.groupOr_eq_matched_iff.mpr (.inr ⟨⟨failure, ?_⟩, _, hinteger, rfl⟩)
  rw [Parser.between, hopening, Reply.andThen_failed]

/-- A group is read when its body is, once the blanks in front of the body are gone. -/
theorem primary_group {before opened body after behind : Text} {inside : Cursor}
    (hremaining : cursor.remaining =
      before ++ '(' :: (opened ++ (body ++ ')' :: (after ++ behind))))
    (hbefore : Blank before) (hopened : Blank opened)
    (hstart : (body ++ ')' :: (after ++ behind)).Stops isBlank) (hafter : Blank after)
    (hbehind : behind.Stops isBlank) (hinside : inside = cursor.past (before ++ '(' :: opened))
    (hbody : (integers operators).primary.climb operators 0 inside =
      .matched tree (inside.past body))
    (hend : (inside.past body).remaining = ')' :: (after ++ behind)) :
    (integers operators).primary cursor =
      .matched tree (cursor.past (before ++ '(' :: opened ++ body ++ ')' :: after)) := by
  subst hinside
  have hopening := Parser.spaced_char_of_remaining hremaining hbefore rfl hopened hstart
  have hclosing := Parser.spaced_char_of_remaining hend blank_nil rfl hafter hbehind
  rw [primary_eq]
  refine Parser.groupOr_eq_matched_iff.mpr (.inl ⟨'(', ')', ?_⟩)
  refine Parser.between_eq_matched_iff.mpr ⟨_, _, hopening, hbody, ?_⟩
  rw [hclosing, Cursor.past_append _ (_ ++ body), Cursor.past_append _ _ body]
  rfl

theorem grow_of_follows {left : Tree Int} (hfollows : Follows operators level cursor.remaining)
    (hlevel : level < least) :
    (integers operators).primary.grow operators least left cursor = .matched left cursor := by
  apply Parser.grow_of_none
  cases hnext : Operator.next? (Operator.atLeast least) operators cursor.remaining with
  | none => rfl
  | some next =>
      obtain ⟨hfirst, haccepts⟩ := Operator.next?_eq_some_iff.mp hnext
      have hle : next.precedence ≤ level := hfollows.precedence_le next hfirst
      have hleast : least ≤ next.precedence := of_decide_eq_true haccepts
      omega

/-- The parser gets over the text, and what follows is left to its loop. -/
def Covers (operators : List Operator) (level : Int) (text : Text) (tree : Tree Int) : Prop :=
  ∀ (least : Int) (cursor : Cursor) (behind : Text), least ≤ level →
    cursor.remaining = text ++ behind → Follows operators level behind →
      (integers operators).primary.climb operators least cursor =
        (integers operators).primary.grow operators least tree (cursor.past text)

/-- In front of something that stops the loop, what is covered is all that is read. -/
theorem Covers.climb_eq_matched {text behind : Text} (h : Covers operators level text tree)
    (hleast : least ≤ level) (hremaining : cursor.remaining = text ++ behind)
    (hstop : Follows operators (least - 1) behind) :
    (integers operators).primary.climb operators least cursor =
      .matched tree (cursor.past text) := by
  have hfollows : Follows operators level behind := hstop.mono (by omega)
  have hend : Follows operators (least - 1) (cursor.past text).remaining := by
    rwa [Cursor.past_remaining hremaining]
  rw [h least cursor behind hleast hremaining hfollows, grow_of_follows hend (by omega)]

theorem covers_number {before digits after : Text} (hbefore : Blank before)
    (hnumeral : Numeral digits) (hafter : Blank after) :
    Covers operators level (before ++ digits ++ after) (.leaf (Integer.ofDigits digits)) := by
  intro least cursor behind hleast hremaining hfollows
  simp only [List.append_assoc] at hremaining ⊢
  rw [Parser.climb_eq, primary_number hremaining hbefore hnumeral hafter hfollows,
    Reply.andThen_matched]

theorem covers_group (h : Readable operators) {before opened core after : Text}
    (hbefore : Blank before) (hopened : Blank opened) (hstart : core.Stops isBlank)
    (hne : core ≠ []) (hcore : Covers operators 0 core tree) (hafter : Blank after) :
    Covers operators level (before ++ '(' :: opened ++ core ++ ')' :: after) tree := by
  intro least cursor behind hleast hremaining hfollows
  have houter : cursor.remaining =
      before ++ '(' :: (opened ++ (core ++ ')' :: (after ++ behind))) := by
    rw [hremaining]
    simp
  obtain ⟨inside, hinside⟩ : ∃ inside, inside = cursor.past (before ++ '(' :: opened) := ⟨_, rfl⟩
  have hcursor : inside.remaining = core ++ ')' :: (after ++ behind) := by
    rw [hinside]
    apply Cursor.past_remaining
    rw [houter]
    simp
  have hend : (inside.past core).remaining = ')' :: (after ++ behind) :=
    Cursor.past_remaining hcursor
  -- no operator starts with a parenthesis, so the body ends where it is closed
  have hbody : (integers operators).primary.climb operators 0 inside =
      .matched tree (inside.past core) :=
    hcore.climb_eq_matched (Int.le_refl 0) hcursor (h.follows_closing _)
  rw [Parser.climb_eq, primary_group houter hbefore hopened (hstart.append_of_ne_nil hne _) hafter
    hfollows.blank hinside hbody hend, Reply.andThen_matched]

theorem covers_binary (h : Readable operators) {left right : Text} {leftTree rightTree : Tree Int}
    {operator : Operator} (hmem : operator ∈ operators) (hfixity : operator.fixity = .infixOp)
    (hlevel : level ≤ operator.precedence)
    (hleft : Covers operators operator.precedence left leftTree)
    (hright : Covers operators (operator.precedence + 1) right rightTree) :
    Covers operators level (left ++ operator.symbol ++ right)
      (.binary leftTree operator rightTree) := by
  intro least cursor behind hleast hremaining hfollows
  simp only [List.append_assoc] at hremaining
  have hmiddle : (cursor.past left).remaining = operator.symbol ++ (right ++ behind) :=
    Cursor.past_remaining hremaining
  have hlast : ((cursor.past left).past operator.symbol).remaining = right ++ behind :=
    Cursor.past_remaining hmiddle
  have hnext : Operator.next? (Operator.atLeast least) operators (cursor.past left).remaining =
      some operator := by
    rw [hmiddle]
    refine Operator.next?_eq_some_iff.mpr ⟨h.first?_append hmem hfixity _, decide_eq_true ?_⟩
    omega
  -- nothing that may follow the whole binds as tightly as its right side does
  have hrightside := hright.climb_eq_matched (Int.le_refl _) hlast (hfollows.mono (by omega))
  rw [hleft _ _ _ (by omega) hremaining (h.follows_symbol hmem hfixity _),
    Parser.grow_eq (conserving_primary operators), hnext]
  simp only [hrightside, Reply.andThen_matched, Cursor.past_append]

/-- The notation of a tree is read up to its end, wherever it may stand. -/
theorem covers_of_renders (h : Readable operators) {text : Text}
    (hrenders : Renders operators level text tree) : Covers operators level text tree := by
  induction hlength : text.length using Nat.strongRecOn generalizing level text tree with
  | ind length ih =>
      subst hlength
      cases hrenders with
      | number hbefore hnumeral hafter => exact covers_number hbefore hnumeral hafter
      | @group _ before opened body closed after _ hbefore hopened hbody hclosed hafter =>
          -- the blanks in front of the body are read with the parenthesis, those behind it with
          -- the body
          obtain ⟨blank, core, rfl, hblank, hstart, hcore⟩ := hbody.exists_core
          have hcovers : Covers operators 0 (core ++ closed) tree := by
            refine ih (core ++ closed).length ?_ (hcore.append_blank hclosed) rfl
            simp
            omega
          have hgroup : Covers operators level
              (before ++ '(' :: (opened ++ blank) ++ (core ++ closed) ++ ')' :: after) tree :=
            covers_group h hbefore (hopened.append hblank)
              (hstart.append_of_ne_nil hcore.ne_nil closed) (by simp [hcore.ne_nil]) hcovers hafter
          simpa using hgroup
      | @binary _ left right leftTree rightTree operator hmem hfixity hlevel hleft hright =>
          have hsymbol : 0 < operator.symbol.length :=
            List.length_pos_iff.mpr (h.symbol_ne_nil operator hmem hfixity)
          refine covers_binary h hmem hfixity hlevel (ih left.length ?_ hleft rfl)
            (ih right.length ?_ hright rfl)
          · simp
            omega
          · simp
            omega

/-! ## The language -/

/-- Whatever the least precedence, a text is accepted exactly when it is a notation at that level,
and the value is the tree that it writes. -/
theorem accepts_iff_renders (h : Readable operators) (least : Int) (text : Text) (tree : Tree Int) :
    ((integers operators).withMinPrecedence least).parser.parseComplete text = .accepted tree ↔
      Renders operators least text tree := by
  rw [Parser.parseComplete_eq_accepted_iff]
  constructor
  · intro haccepted
    rcases haccepted with ⟨rest, hmatch, hrest⟩
    obtain ⟨consumed, hremaining, hrenders⟩ := between_of_climb hmatch
    rw [hrest, List.append_nil] at hremaining
    rwa [← hremaining] at hrenders
  · intro hrenders
    have hremaining : (Cursor.ofText text).remaining = text ++ [] := (List.append_nil text).symm
    have hend : ((Cursor.ofText text).past text).remaining = [] :=
      Cursor.past_remaining hremaining
    exact ⟨_, (covers_of_renders h hrenders).climb_eq_matched (Int.le_refl least) hremaining
      h.follows_nil, hend⟩

/-- The calculator's grammar accepts the notations of trees, with the trees that they write. -/
theorem integers_accepts_iff_renders (h : Readable operators) (text : Text) (tree : Tree Int) :
    (integers operators).parser.parseComplete text = .accepted tree ↔
      Renders operators 0 text tree :=
  accepts_iff_renders h 0 text tree

theorem integers_accepts_iff_renders_of_group :
    Readable Calculator.operators ∧
      Renders Calculator.operators 0 "2* ( 3-\t04 ) %5 ".toList
        (.binary (.binary (.leaf 2) ⟨.infixOp, ['*'], 20⟩
          (.binary (.leaf 3) ⟨.infixOp, ['-'], 10⟩ (.leaf 4))) ⟨.infixOp, ['%'], 20⟩ (.leaf 5)) :=
  ⟨readable_operators,
    (integers_accepts_iff_renders readable_operators _ _).mp (by decide)⟩

/-- A text is a notation of one tree at most. -/
theorem Renders.tree_unique (h : Readable operators) {text : Text} {first second : Tree Int}
    (hfirst : Renders operators level text first) (hsecond : Renders operators level text second) :
    first = second := by
  have haccepts := (accepts_iff_renders h level text first).mpr hfirst
  rw [(accepts_iff_renders h level text second).mpr hsecond] at haccepts
  cases haccepts
  rfl

end ParserCombinators.Calculator
