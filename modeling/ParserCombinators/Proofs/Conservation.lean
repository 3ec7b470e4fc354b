import ParserCombinators.Proofs.Contract.Composed

/-!
# Conservation

Conservation is the contract that asks of a match to end at a place that is reached from where the
parser started, and for nothing else.  Whatever a composed parser matches, there is a text that it
consumed: the input is that text followed by what remains, and the position has advanced over exactly
its characters (`Composed.exists_consumed_text`).
-/

namespace ParserCombinators

/-- Nothing is invented, duplicated or dropped by a match, and the position keeps up with it, for
every parser composed of rules of which this holds and that may fail in any way they like. -/
theorem Composed.exists_consumed_text {outside inside : Given}
    (houtside : ∀ (β : Type) (q : Parser β), outside β q → Conserving q)
    (hinside : ∀ (β : Type) (q : Parser β), inside β q → Conserving q)
    {α : Type} {p : Parser α} (hp : Composed outside inside p) (cursor : Cursor) {value : α}
    {rest : Cursor} (hmatch : p cursor = .matched value rest) :
    ∃ text, cursor.remaining = text ++ rest.remaining ∧
      rest.position = cursor.position.afterText text := by
  have hkept : Contract.conservation.KeptBy p :=
    hp.keptBy (fun β q hq => Contract.keptBy_conservation (houtside β q hq))
      fun β q hq => Contract.keptBy_conservation (hinside β q hq)
  exact hkept.conserving cursor value rest hmatch

/-! ## A grammar with a rule written by hand -/

/-- The one parser that is given. -/
def Given.only {β : Type} (q : Parser β) : Given := fun α p =>
  (⟨α, p⟩ : (α : Type) × Parser α) = ⟨β, q⟩

/-- A rule written by hand that fails over a text of its own. -/
def elsewhere : Parser Int := fun _ => .failed ⟨.ofText ['?'], "not here"⟩

/-- Numbers with blanks around them and a semicolon behind each. -/
def fields : Parser (List Int) :=
  ((elsewhere.orElse (Parser.spaced .integer)).upToText [';'] true).many1

theorem composed_fields : Composed (.only elsewhere) (.only elsewhere) fields :=
  .many1 (.upToText _ _ (.orElse (.given rfl) (Composed.spaced .integer)))

theorem exists_consumed_text_of_fields :
    fields ⟨['1', '2', ';', '\n', '7', ';', 'x'], ⟨5, 1, 2⟩⟩ =
        .matched [12, 7] ⟨['x'], ⟨11, 2, 2⟩⟩ ∧
      ∃ text, ['1', '2', ';', '\n', '7', ';', 'x'] = text ++ ['x'] ∧
        (⟨11, 2, 2⟩ : Position) = (⟨5, 1, 2⟩ : Position).afterText text := by
  have hgiven : ∀ (β : Type) (q : Parser β), Given.only elsewhere β q → Conserving q := by
    intro β q hq cursor value rest hmatch
    cases hq
    simp [elsewhere] at hmatch
  have hmatch : fields ⟨['1', '2', ';', '\n', '7', ';', 'x'], ⟨5, 1, 2⟩⟩ =
      .matched [12, 7] ⟨['x'], ⟨11, 2, 2⟩⟩ := by decide
  exact ⟨hmatch, composed_fields.exists_consumed_text hgiven hgiven _ hmatch⟩

end ParserCombinators
