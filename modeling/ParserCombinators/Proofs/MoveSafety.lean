import ParserCombinators.Proofs.Conservation

/-!
# Moves are never faults

A composed parser never steps over a character that does not come next, never passes text that is not
ahead, never cuts its input or a region past the end or inside a character, and never measures a
stretch of input backwards (`Composed.movesInBounds`).

Every offset that a parser computes is the length of a front part of the text that it cuts: this is
what the lemmas on runs and regions say (`scanBytes_eq`, `spanBytes_eq`, `Text.find?_eq_some_iff`,
`Cursor.textUpTo_past`, `ahead_bytesConsumedAt`).  So each part of a parser adds no faults of its own
to those of the rules written by hand, and nothing has to be known about where these rules end or what
their failures point to.

The one fault that is left is to run out of a bound, and no number of rounds or depth of recursion
turns it into another one: the bounds of the lemmas behind `Composed.keptBy_of_keep` are arbitrary.
-/

namespace ParserCombinators

variable {α : Type}

/-- No move of the parser is a fault; at most it runs out of a bound. -/
def MovesInBounds (p : Parser α) : Prop :=
  ∀ cursor cause, cause ≠ .diverged → p cursor ≠ .fault cause

namespace Contract

/-- The contract that allows no fault of a move and asks for nothing else. -/
def inBounds : Contract := .onlyFaults (· = .diverged) rfl

theorem keptBy_inBounds_iff {p : Parser α} : inBounds.KeptBy p ↔ MovesInBounds p := by
  constructor
  · intro hp cursor cause hcause hfault
    have hallows := hp cursor
    rw [hfault] at hallows
    exact hcause hallows
  · intro hp cursor
    cases h : p cursor with
    | matched value rest => trivial
    | failed failure => trivial
    | fault cause =>
        by_cases hcause : cause = .diverged
        · exact hcause
        · exact absurd h (hp cursor cause hcause)

end Contract

/-- Whatever is composed of rules whose own moves are no faults has no fault in any move, on every
input and from every place in it. -/
theorem Composed.movesInBounds {outside inside : Given}
    (houtside : ∀ (β : Type) (q : Parser β), outside β q → MovesInBounds q)
    (hinside : ∀ (β : Type) (q : Parser β), inside β q → MovesInBounds q)
    {p : Parser α} (hp : Composed outside inside p) : MovesInBounds p := by
  have hkept : Contract.inBounds.KeptBy p :=
    hp.keptBy (fun β q hq => Contract.keptBy_inBounds_iff.mpr (houtside β q hq))
      fun β q hq => Contract.keptBy_inBounds_iff.mpr (hinside β q hq)
  exact Contract.keptBy_inBounds_iff.mp hkept

/-- The lengths of the texts that are quoted in front of arrows, where quotes and arrows take several
bytes and a rule written by hand fails over a text of its own. -/
def lengthsBeforeArrows : Parser (List (Int × Text)) :=
  ((((Parser.quoted '«').map fun text => (text.length : Int)).orElse elsewhere).upTo
    (.literal ['→'])).many1

theorem composed_lengthsBeforeArrows :
    Composed (.only elsewhere) (.only elsewhere) lengthsBeforeArrows :=
  .many1 (.upTo (.orElse (.map _ (Composed.quoted '«')) (.given rfl)) (.literal _))

theorem movesInBounds_of_lengthsBeforeArrows :
    MovesInBounds elsewhere ∧ MovesInBounds lengthsBeforeArrows ∧
      lengthsBeforeArrows (.ofText ['«', 'ß', '«', '→', '«', '→']) ≠ .fault (.badOffset 1) := by
  have helsewhere : MovesInBounds elsewhere := by
    intro cursor cause _ hfault
    simp [elsewhere] at hfault
  have hgiven (β : Type) (q : Parser β) (hq : Given.only elsewhere β q) : MovesInBounds q := by
    cases hq
    exact helsewhere
  have hmoves := composed_lengthsBeforeArrows.movesInBounds hgiven hgiven
  exact ⟨helsewhere, hmoves, hmoves _ _ (by decide)⟩

end ParserCombinators
