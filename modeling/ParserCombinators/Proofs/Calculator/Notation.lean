import ParserCombinators.Proofs.Calculator.Lexical

/-!
# Notations of a tree

How the notations of a tree vary: what is written at a level is written at every lower one, and
blanks may be put behind a notation or dropped from its front.  A parser reads all blanks that it
meets, so these are the steps between the text that the grammar takes for a part and the text that
the parser takes for it.
-/

namespace ParserCombinators.Calculator

open CharClass (isBlank)

variable {operators : List Operator} {level : Int} {text : Text} {tree : Tree Int}

namespace Renders

theorem ne_nil (h : Renders operators level text tree) : text ≠ [] := by
  induction h with
  | number _ hnumeral _ => simp [hnumeral.ne_nil]
  | group => simp
  | binary _ _ _ _ _ ihleft _ => simp [ihleft]

theorem lower {least : Int} (h : Renders operators level text tree) (hle : least ≤ level) :
    Renders operators least text tree := by
  cases h with
  | number hbefore hnumeral hafter => exact .number hbefore hnumeral hafter
  | group hbefore hopened hbody hclosed hafter =>
      exact .group hbefore hopened hbody hclosed hafter
  | binary hmem hfixity hlevel hleft hright =>
      exact .binary hmem hfixity (Int.le_trans hle hlevel) hleft hright

theorem prepend_blank (h : Renders operators level text tree) {blank : Text}
    (hblank : Blank blank) : Renders operators level (blank ++ text) tree := by
  induction h with
  | number hbefore hnumeral hafter =>
      simp only [← List.append_assoc]
      exact .number (hblank.append hbefore) hnumeral hafter
  | group hbefore hopened hbody hclosed hafter _ =>
      simp only [← List.append_assoc]
      exact .group (hblank.append hbefore) hopened hbody hclosed hafter
  | binary hmem hfixity hlevel _ hright ihleft _ =>
      simp only [← List.append_assoc]
      exact .binary hmem hfixity hlevel ihleft hright

theorem append_blank (h : Renders operators level text tree) {blank : Text}
    (hblank : Blank blank) : Renders operators level (text ++ blank) tree := by
  induction h with
  | number hbefore hnumeral hafter =>
      rw [List.append_assoc]
      exact .number hbefore hnumeral (hafter.append hblank)
  | group hbefore hopened hbody hclosed hafter _ =>
      rw [List.append_assoc]
      exact .group hbefore hopened hbody hclosed (hafter.append hblank)
  | binary hmem hfixity hlevel hleft _ _ ihright =>
      rw [List.append_assoc]
      exact .binary hmem hfixity hlevel hleft ihright

theorem dropWhile_blank (h : Renders operators level text tree) :
    Renders operators level (text.dropWhile isBlank) tree := by
  induction h with
  | number hbefore hnumeral hafter =>
      have hstart := hnumeral.stops_isBlank.append_of_ne_nil hnumeral.ne_nil
      rw [List.append_assoc, Text.dropWhile_append_of_stops hbefore (hstart _)]
      simpa using Renders.number blank_nil hnumeral hafter
  | group hbefore hopened hbody hclosed hafter _ =>
      simp only [List.append_assoc, List.cons_append]
      rw [Text.dropWhile_append_of_stops hbefore (Text.stops_cons.mpr rfl)]
      simpa using Renders.group blank_nil hopened hbody hclosed hafter
  | binary hmem hfixity hlevel _ hright ihleft _ =>
      -- the left operand is not all blank, so the blanks that are dropped are its own
      rw [List.append_assoc, List.dropWhile_append, if_neg, ← List.append_assoc]
      · exact .binary hmem hfixity hlevel ihleft hright
      · simpa using ihleft.ne_nil

/-- The blanks in front of a notation can be told from the notation itself. -/
theorem exists_core (h : Renders operators level text tree) :
    ∃ blank core, text = blank ++ core ∧ Blank blank ∧ core.Stops isBlank ∧
      Renders operators level core tree := by
  refine ⟨text.takeWhile isBlank, text.dropWhile isBlank, ?_, blank_takeWhile text, ?_, ?_⟩
  · exact List.takeWhile_append_dropWhile.symm
  · exact Text.stops_dropWhile text
  · exact h.dropWhile_blank

end Renders

end ParserCombinators.Calculator
