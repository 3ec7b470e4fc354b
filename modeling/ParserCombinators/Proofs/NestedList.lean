import ParserCombinators.NestedList
import ParserCombinators.Proofs.MoveSafety
import ParserCombinators.Proofs.Recursion
import ParserCombinators.Proofs.Repetition.Items

/-!
# The language of nested lists

A text is accepted with a tree exactly when the leaves of the tree are letters and digits and the
text is what the tree prints, and every text is read to an end (`accepts_iff_print`).

* **Recursion.**  An element refers to elements only behind an opening bracket, so the grammar is
  productive and the parser is the element of which it is the parser of the elements (`parser_eq`).
* **What is read is printed.**  This holds to any depth of recursion and for any number of rounds of
  the list, so it is an induction on both and needs no bound.
* **What is printed is read**, in front of any text whatever: a leaf is one character, and a list
  ends with its closing bracket.  The induction is on the tree, with one on the elements of a list
  inside it.  Behind an element stands a comma or the bracket, and neither starts an element.
-/

namespace ParserCombinators.NestedList

open ParserCombinators.Parser

variable {nested : Parser NestedList} {cursor rest : Cursor} {tree : NestedList}

/-! ## Trees and how they are printed -/

/-- Induction over a tree, with the elements of a list taken together. -/
@[elab_as_elim]
theorem induction {motive : NestedList → Prop} (leaf : ∀ c, motive (.leaf c))
    (list : ∀ items, (∀ item ∈ items, motive item) → motive (.list items))
    (tree : NestedList) : motive tree :=
  tree.rec (motive_2 := fun items => ∀ item ∈ items, motive item) leaf list (by simp)
    fun first others hfirst hothers => by simpa using ⟨hfirst, hothers⟩

theorem plainItems_iff {items : List NestedList} :
    PlainItems items ↔ ∀ item ∈ items, item.Plain := by
  induction items with
  | nil => simp [PlainItems]
  | cons item items ih => simp [PlainItems, ih]

/-- How the elements behind the first one are written, each behind a comma. -/
def printBehind (items : List NestedList) : Text := items.flatMap fun item => ',' :: item.print

@[simp] theorem printBehind_nil : printBehind [] = [] := rfl

@[simp] theorem printBehind_cons (item : NestedList) (items : List NestedList) :
    printBehind (item :: items) = ',' :: (item.print ++ printBehind items) := rfl

theorem printItems_cons (item : NestedList) (items : List NestedList) :
    printItems (item :: items) = item.print ++ printBehind items := by
  induction items generalizing item with
  | nil => simp [printItems]
  | cons next items ih => rw [printItems, ih, printBehind_cons]

/-! ## Recursion -/

theorem keptBy_element {contract : Contract} (hnested : contract.KeptBy nested) :
    contract.KeptBy (element nested) := by
  have hitems : contract.KeptBy (nested.sepBy1 (.char ',') false).optional :=
    (hnested.sepBy1Within (contract.keptBy_char ',') false _).optional
  have hlist := (contract.keptBy_char '[').between hitems (contract.keptBy_char ']')
  exact ((contract.keptBy_satisfy _).map _).orElse (hlist.map _)

theorem conserving_char (expected : Char) : Conserving (char expected) :=
  (Contract.conservation.keptBy_char expected).conserving

theorem productive_rules : rules.Productive where
  count_pos := Nat.one_pos
  conserving env henv _ := (keptBy_element (Contract.keptBy_conservation (henv ()))).conserving
  body_congr first second hfirst cursor hagree _ := by
    have hlist : between (.char '[') ((first ()).sepBy1 (.char ',') false).optional (.char ']')
          cursor =
        between (.char '[') ((second ()).sepBy1 (.char ',') false).optional (.char ']') cursor := by
      apply Reply.andThen_congr
      intro opening inside hopening
      -- the elements stand behind the bracket, where there is less input
      have hlt : inside.remaining.length < cursor.remaining.length :=
        consuming_char '[' _ _ _ hopening
      have hitems : (first ()).sepBy1 (.char ',') false inside =
          (second ()).sepBy1 (.char ',') false inside := by
        apply sepBy1_congr (hfirst ()) (conserving_char ',')
        exact fun place hle => hagree () place (by omega)
      simp only [Parser.optional, hitems]
    show element (first ()) cursor = element (second ()) cursor
    simp only [element, Parser.orElse, Parser.map, hlist]

/-- An element is a letter, a digit or a list of elements, to any depth. -/
theorem parser_eq (cursor : Cursor) : parser cursor = element parser cursor :=
  productive_rules.parser_eq () cursor

theorem conserving_nested : Conserving parser := productive_rules.conserving_rule ()

theorem terminating_nested : Terminating parser := by
  refine productive_rules.terminating_rule (fun cursor hreads _ => ?_) ()
  have hleaf : letterOrDigit.map NestedList.leaf cursor ≠ .fault .diverged :=
    Reply.map_ne_diverged (terminating_satisfy _ cursor) _
  apply orElse_ne_diverged hleaf
  apply Reply.map_ne_diverged
  apply between_ne_diverged (terminating_char '[') (terminating_char ']')
  intro opening inside hopening
  have hlt : inside.remaining.length < cursor.remaining.length :=
    consuming_char '[' _ _ _ hopening
  apply optional_ne_diverged
  apply sepBy1_ne_diverged conserving_nested (conserving_char ',')
  · exact fun place _ => terminating_char ',' place
  · exact fun place hplace => hreads () place (Nat.lt_of_le_of_lt hplace.length_le hlt)

theorem movesInBounds_nested : MovesInBounds parser := by
  apply Contract.keptBy_inBounds_iff.mp
  exact fun cursor => Contract.keptBy_unfold (fun _ henv _ => keptBy_element (henv ())) _ () cursor

/-! ## What is read is printed -/

/-- The input between two places is what the tree prints, and its leaves are letters and digits. -/
def Between (cursor : Cursor) (tree : NestedList) (rest : Cursor) : Prop :=
  tree.Plain ∧ cursor.remaining = tree.print ++ rest.remaining

theorem between_of_moreItems
    (hnested : ∀ cursor tree rest, nested cursor = .matched tree rest → Between cursor tree rest)
    {rounds : Nat} {items : List NestedList}
    (hmatch : moreItems nested (.char ',') false rounds cursor = .matched items rest) :
    (∀ item ∈ items, item.Plain) ∧ cursor.remaining = printBehind items ++ rest.remaining := by
  induction rounds generalizing cursor items with
  | zero => simp [moreItems] at hmatch
  | succ rounds ih =>
      rw [moreItems_succ] at hmatch
      rcases itemsRound_eq_matched_cases hmatch with
        ⟨rfl, hend⟩ | ⟨mark, behind, item, middle, more, hcomma, hitem, -, hmore, rfl⟩
      · obtain rfl : rest = cursor := by simpa using hend
        simp
      · obtain ⟨hpeek, -, rfl⟩ := char_eq_matched_iff.mp hcomma
        obtain ⟨hplain, hprinted⟩ := hnested _ _ _ hitem
        obtain ⟨hothers, hbehind⟩ := ih hmore
        refine ⟨by simpa using ⟨hplain, hothers⟩, ?_⟩
        rw [Cursor.remaining_of_peek hpeek, hprinted, hbehind]
        simp

theorem between_of_element
    (hnested : ∀ cursor tree rest, nested cursor = .matched tree rest → Between cursor tree rest)
    (hmatch : element nested cursor = .matched tree rest) : Between cursor tree rest := by
  rcases orElse_eq_matched_iff.mp hmatch with hleaf | ⟨-, hlist⟩
  · obtain ⟨c, hc, rfl⟩ := Reply.map_eq_matched_iff.mp hleaf
    obtain ⟨hpeek, hplain, rfl⟩ := satisfy_eq_matched_iff.mp hc
    exact ⟨hplain, Cursor.remaining_of_peek hpeek⟩
  · obtain ⟨⟨opening, items?, closing⟩, hparts, rfl⟩ := Reply.map_eq_matched_iff.mp hlist
    obtain ⟨inside, behind, hopening, hitems, hclosing⟩ := between_eq_matched_iff.mp hparts
    obtain ⟨hopens, -, rfl⟩ := char_eq_matched_iff.mp hopening
    obtain ⟨hcloses, -, rfl⟩ := char_eq_matched_iff.mp hclosing
    -- what stands between the brackets is what the elements print
    have hbody : PlainItems (items?.getD []) ∧
        (cursor.past ['[']).remaining = printItems (items?.getD []) ++ behind.remaining := by
      rcases Reply.handle_eq_matched_iff.mp hitems with
        ⟨items, middle, hsome, heq⟩ | ⟨failure, -, heq⟩
      · cases heq
        obtain ⟨first, place, hfirst, hmore⟩ := Reply.andThen_eq_matched_iff.mp hsome
        obtain ⟨others, hothers, rfl⟩ := Reply.map_eq_matched_iff.mp hmore
        obtain ⟨hplain, hprinted⟩ := hnested _ _ _ hfirst
        obtain ⟨hplains, hbehind⟩ := between_of_moreItems hnested hothers
        refine ⟨⟨hplain, plainItems_iff.mpr hplains⟩, ?_⟩
        rw [Option.getD_some, printItems_cons, hprinted, hbehind, List.append_assoc]
      · cases heq
        exact ⟨trivial, rfl⟩
    refine ⟨hbody.1, ?_⟩
    rw [Cursor.remaining_of_peek hopens, hbody.2, Cursor.remaining_of_peek hcloses]
    simp [print]

theorem between_of_unfold {depth : Nat}
    (hmatch : rules.unfold depth () cursor = .matched tree rest) : Between cursor tree rest := by
  induction depth generalizing cursor tree rest with
  | zero => simp [Rules.unfold] at hmatch
  | succ depth ih => exact between_of_element (fun _ _ _ hinner => ih hinner) hmatch

/-! ## What is printed is read -/

/-- The parser gets over what the tree prints and stops behind it, whatever comes next. -/
def Reads (nested : Parser NestedList) (tree : NestedList) : Prop :=
  ∀ (cursor : Cursor) (behind : Text), cursor.remaining = tree.print ++ behind →
    nested cursor = .matched tree (cursor.past tree.print)

theorem reads_leaf {c : Char} (hc : CharClass.isLetterOrDigit c = true) :
    Reads parser (.leaf c) := by
  intro cursor behind hremaining
  have hleaf : letterOrDigit cursor = .matched c (cursor.past [c]) :=
    satisfy_of_peek (Cursor.peek_of_remaining hremaining) hc
  rw [parser_eq]
  exact orElse_eq_matched_iff.mpr (.inl (Reply.map_eq_matched_iff.mpr ⟨c, hleaf, rfl⟩))

/-- What is no letter or digit is no leaf. -/
theorem leaf_of_other {c : Char} (hpeek : cursor.peek = some c)
    (hc : CharClass.isLetterOrDigit c = false) :
    letterOrDigit.map NestedList.leaf cursor = .mismatch cursor (.rejectedChar c) := by
  rw [Parser.map, letterOrDigit, satisfy_of_other hpeek hc]
  rfl

/-- No element starts with a closing bracket. -/
theorem exists_failure_of_closing {behind : Text} (hremaining : cursor.remaining = ']' :: behind) :
    ∃ failure, parser cursor = .failed failure := by
  have hpeek : cursor.peek = some ']' := Cursor.peek_of_remaining hremaining
  have hleaf := leaf_of_other hpeek (by decide +kernel)
  have hopening : char '[' cursor = .mismatch cursor (.otherChar '[' ']') :=
    char_of_other hpeek (by decide)
  rw [parser_eq, element, Parser.orElse, hleaf]
  simp only [Parser.map, between, hopening]
  exact ⟨_, rfl⟩

theorem itemsAfter_of_printed {items : List NestedList} (hitems : ∀ item ∈ items, Reads parser item)
    {behind : Text} (hremaining : cursor.remaining = printBehind items ++ ']' :: behind) :
    itemsAfter parser (.char ',') false cursor =
      .matched items (cursor.past (printBehind items)) := by
  induction items generalizing cursor with
  | nil =>
      have hend : char ',' cursor = .mismatch cursor (.otherChar ',' ']') :=
        char_of_other (Cursor.peek_of_remaining hremaining) (by decide)
      rw [itemsAfter_eq conserving_nested (conserving_char ','), itemsRound, hend]
      rfl
  | cons item items ih =>
      have hcomma : char ',' cursor = .matched ',' (cursor.past [',']) :=
        char_of_peek (Cursor.peek_of_remaining hremaining)
      have hinside : (cursor.past [',']).remaining =
          item.print ++ (printBehind items ++ ']' :: behind) := by
        apply Cursor.past_remaining
        simpa using hremaining
      have hitem : parser (cursor.past [',']) =
          .matched item ((cursor.past [',']).past item.print) :=
        hitems item List.mem_cons_self _ _ hinside
      have hmoves : ¬ stalled cursor ((cursor.past [',']).past item.print) := by
        simp [stalled, Cursor.past]
        omega
      have hothers := ih (fun other hother => hitems other (List.mem_cons_of_mem _ hother))
        (Cursor.past_remaining hinside)
      rw [itemsAfter_eq conserving_nested (conserving_char ','), itemsRound, hcomma,
        Reply.handle_matched, hitem, Reply.handle_matched, if_neg hmoves, hothers,
        Reply.map_matched, ← Cursor.past_append, ← Cursor.past_append]
      simp

/-- The elements of a list are read up to its closing bracket, if there are any. -/
theorem optional_of_printed {items : List NestedList} (hitems : ∀ item ∈ items, Reads parser item)
    {behind : Text} (hremaining : cursor.remaining = printItems items ++ ']' :: behind) :
    ∃ items?, (parser.sepBy1 (.char ',') false).optional cursor =
      .matched items? (cursor.past (printItems items)) ∧ items?.getD [] = items := by
  cases items with
  | nil =>
      obtain ⟨failure, hfailed⟩ := exists_failure_of_closing hremaining
      refine ⟨none, ?_, rfl⟩
      simp [Parser.optional, sepBy1_eq, hfailed, printItems]
  | cons item items =>
      rw [printItems_cons, List.append_assoc] at hremaining
      have hfirst : parser cursor = .matched item (cursor.past item.print) :=
        hitems item List.mem_cons_self _ _ hremaining
      have hothers := itemsAfter_of_printed
        (fun other hother => hitems other (List.mem_cons_of_mem _ hother))
        (Cursor.past_remaining hremaining)
      refine ⟨some (item :: items), ?_, rfl⟩
      rw [Parser.optional, sepBy1_eq, hfirst, Reply.andThen_matched, hothers, Reply.map_matched,
        Reply.handle_matched, printItems_cons, Cursor.past_append]

theorem reads_list {items : List NestedList} (hitems : ∀ item ∈ items, Reads parser item) :
    Reads parser (.list items) := by
  intro cursor behind hremaining
  have hbody : cursor.remaining = '[' :: (printItems items ++ ']' :: behind) := by
    rw [hremaining]
    simp [print]
  have hpeek : cursor.peek = some '[' := Cursor.peek_of_remaining hbody
  have hleaf := leaf_of_other hpeek (by decide +kernel)
  have hinside : (cursor.past ['[']).remaining = printItems items ++ ']' :: behind :=
    Cursor.past_remaining hbody
  obtain ⟨items?, hoptional, hitems?⟩ := optional_of_printed hitems hinside
  have hclosing := char_of_peek (Cursor.peek_of_remaining (Cursor.past_remaining hinside))
  have hplace : ((cursor.past ['[']).past (printItems items)).past [']'] =
      cursor.past (print (.list items)) := by
    rw [← Cursor.past_append, ← Cursor.past_append]
    simp [print]
  have hlist := between_eq_matched_iff.mpr ⟨_, _, char_of_peek hpeek, hoptional, hclosing⟩
  rw [hplace] at hlist
  rw [parser_eq]
  refine orElse_eq_matched_iff.mpr (.inr ⟨⟨_, hleaf⟩, ?_⟩)
  exact Reply.map_eq_matched_iff.mpr ⟨_, hlist, congrArg NestedList.list hitems?⟩

theorem reads_of_plain (hplain : tree.Plain) : Reads parser tree := by
  induction tree using induction with
  | leaf c => exact reads_leaf hplain
  | list items ih =>
      have hitems : ∀ item ∈ items, item.Plain := plainItems_iff.mp hplain
      exact reads_list fun item hitem => ih item hitem (hitems item hitem)

/-! ## The language -/

/-- Every text is read to an end, and it is accepted exactly when it is what a tree of letters and
digits prints, with that tree. -/
theorem accepts_iff_print (text : Text) :
    (∀ cause, parser.parseComplete text ≠ .fault cause) ∧
    ∀ tree, parser.parseComplete text = .accepted tree ↔ tree.Plain ∧ text = tree.print := by
  constructor
  · intro cause hverdict
    have hreply : parser (.ofText text) = .fault cause := parseComplete_eq_fault_iff.mp hverdict
    by_cases hcause : cause = .diverged
    · subst hcause
      exact terminating_nested _ hreply
    · exact movesInBounds_nested _ cause hcause hreply
  · intro tree
    rw [parseComplete_eq_accepted_iff]
    constructor
    · rintro ⟨rest, hmatch, hrest⟩
      obtain ⟨hplain, hprinted⟩ := between_of_unfold hmatch
      rw [hrest, List.append_nil] at hprinted
      exact ⟨hplain, hprinted⟩
    · rintro ⟨hplain, rfl⟩
      have hremaining : (Cursor.ofText tree.print).remaining = tree.print ++ [] :=
        (List.append_nil _).symm
      exact ⟨_, reads_of_plain hplain _ _ hremaining, Cursor.past_remaining hremaining⟩

end ParserCombinators.NestedList
