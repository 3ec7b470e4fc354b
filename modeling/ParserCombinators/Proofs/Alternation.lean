import ParserCombinators.Parser.Alternative

/-!
# Alternatives in any nesting

Alternatives can be put together two at a time or many at a time, and the result can be an
alternative again.  How they are nested does not matter (`alternation_has_one_normal_form`): only
the parsers at the leaves count, from left to right.

The reason is a law of joined failures.  Two joins that started at the same cursor can be joined
again as if they were single failures, because the place of a join is the furthest one that
`further` finds, and `further` is associative (`Failure.join_append`).  The start of all
alternatives takes part in every join, so it takes part several times; that does no harm, since no
place that was found lies before it.

From there on it is algebra of parsers: `choice` of two lists behind each other is `orElse` of their
choices (`Parser.choice_append`), and so every nesting is the choice between its leaves
(`Alternation.parser_eq_choice`).  Nothing is assumed about the places that failures point to: they
may lie behind the start, before it, or in another text.
-/

namespace ParserCombinators

variable {α : Type}

/-! ## The furthest place -/

namespace Cursor

/-- The further of two places, and the first one when none is. -/
def further (kept other : Cursor) : Cursor :=
  if kept.position.offset < other.position.offset then other else kept

theorem further_eq_left {kept other : Cursor}
    (h : other.position.offset ≤ kept.position.offset) : kept.further other = kept :=
  if_neg (Nat.not_lt.mpr h)

theorem further_eq_right {kept other : Cursor}
    (h : kept.position.offset < other.position.offset) : kept.further other = other :=
  if_pos h

theorem further_self (cursor : Cursor) : cursor.further cursor = cursor :=
  further_eq_left (Nat.le_refl _)

theorem le_offset_further (kept other : Cursor) :
    kept.position.offset ≤ (kept.further other).position.offset := by
  rcases Nat.lt_or_ge kept.position.offset other.position.offset with h | h
  · rw [further_eq_right h]
    exact Nat.le_of_lt h
  · exact Nat.le_of_eq (by rw [further_eq_left h])

theorem further_assoc (first second third : Cursor) :
    (first.further second).further third = first.further (second.further third) := by
  rcases Nat.lt_or_ge first.position.offset second.position.offset with hfirst | hfirst
  · rw [further_eq_right hfirst]
    rcases Nat.lt_or_ge second.position.offset third.position.offset with hsecond | hsecond
    · rw [further_eq_right hsecond, further_eq_right (by omega)]
    · rw [further_eq_left hsecond, further_eq_right hfirst]
  · rw [further_eq_left hfirst]
    rcases Nat.lt_or_ge second.position.offset third.position.offset with hsecond | hsecond
    · rw [further_eq_right hsecond]
    · rw [further_eq_left hsecond, further_eq_left hfirst, further_eq_left (by omega)]

instance : Std.Associative further := ⟨further_assoc⟩

/-- The start takes part in what is found from it, so that it may take part again. -/
theorem further_foldl (start : Cursor) (places : List Cursor) :
    start.further (places.foldl further start) = places.foldl further start :=
  calc start.further (places.foldl further start)
      = places.foldl further (start.further start) := List.foldl_assoc.symm
    _ = places.foldl further start := by rw [further_self]

theorem le_offset_foldl_further (start : Cursor) (places : List Cursor) :
    start.position.offset ≤ (places.foldl further start).position.offset := by
  rw [← further_foldl]
  exact le_offset_further start _

theorem foldl_further_append (start : Cursor) (front back : List Cursor) :
    (front ++ back).foldl further start =
      (front.foldl further start).further (back.foldl further start) := by
  have hstart : (front.foldl further start).further start = front.foldl further start :=
    further_eq_left (le_offset_foldl_further start front)
  calc (front ++ back).foldl further start
      = back.foldl further ((front.foldl further start).further start) := by
        rw [List.foldl_append, hstart]
    _ = (front.foldl further start).further (back.foldl further start) := List.foldl_assoc

/-- The place is the first of the furthest ones among `places`, or else `start` when none lies
further than that. -/
def Furthest (start : Cursor) (places : List Cursor) (place : Cursor) : Prop :=
  (place = start ∧ ∀ other ∈ places, other.position.offset ≤ start.position.offset) ∨
    ∃ before after, places = before ++ place :: after ∧
      start.position.offset < place.position.offset ∧
      (∀ other ∈ before, other.position.offset < place.position.offset) ∧
      ∀ other ∈ after, other.position.offset ≤ place.position.offset

theorem furthest_foldl_further (start : Cursor) (places : List Cursor) :
    start.Furthest places (places.foldl further start) := by
  induction places generalizing start with
  | nil => exact .inl ⟨rfl, by simp⟩
  | cons place places ih =>
      rw [List.foldl_cons]
      rcases Nat.lt_or_ge start.position.offset place.position.offset with hplace | hplace
      · rw [further_eq_right hplace]
        rcases ih place with ⟨hresult, hothers⟩ | ⟨before, after, hplaces, hlt, hbefore, hafter⟩
        · rw [hresult]
          exact .inr ⟨[], places, rfl, hplace, by simp, hothers⟩
        · refine .inr ⟨place :: before, after, congrArg (place :: ·) hplaces, by omega, ?_, hafter⟩
          intro other hother
          rcases List.mem_cons.mp hother with rfl | hother
          · exact hlt
          · exact hbefore other hother
      · rw [further_eq_left hplace]
        rcases ih start with ⟨hresult, hothers⟩ | ⟨before, after, hplaces, hlt, hbefore, hafter⟩
        · refine .inl ⟨hresult, fun other hother => ?_⟩
          rcases List.mem_cons.mp hother with rfl | hother
          · exact hplace
          · exact hothers other hother
        · refine .inr ⟨place :: before, after, congrArg (place :: ·) hplaces, hlt, ?_, hafter⟩
          intro other hother
          rcases List.mem_cons.mp hother with rfl | hother
          · omega
          · exact hbefore other hother

end Cursor

/-! ## Joined failures -/

namespace Failure

theorem cursor_furthest (kept other : Failure) :
    (kept.furthest other).cursor = kept.cursor.further other.cursor := by
  unfold furthest Cursor.further
  split <;> rfl

theorem cursor_foldl_furthest (kept : Failure) (failures : List Failure) :
    (failures.foldl furthest kept).cursor =
      (failures.map cursor).foldl Cursor.further kept.cursor := by
  induction failures generalizing kept with
  | nil => rfl
  | cons failure rest ih =>
      rw [List.foldl_cons, ih, cursor_furthest]
      rfl

theorem join_eq (start : Cursor) (failures : List Failure) :
    join start failures =
      ⟨(failures.map cursor).foldl Cursor.further start,
        " AND ".intercalate (failures.map message)⟩ := by
  rw [join, cursor_foldl_furthest]

theorem join_join (start : Cursor) (failures : List Failure) :
    join start [join start failures] = join start failures := by
  rw [join_eq, join_eq]
  simp [Cursor.further_foldl]

theorem join_append (start : Cursor) {front back : List Failure} (hfront : front ≠ [])
    (hback : back ≠ []) :
    join start (front ++ back) = join start [join start front, join start back] := by
  have hmessage : " AND ".intercalate (front.map message ++ back.map message) =
      " AND ".intercalate (front.map message) ++ " AND " ++
        " AND ".intercalate (back.map message) :=
    String.intercalate_append_of_ne_nil (by simpa using hfront) (by simpa using hback)
  simp only [join_eq, hmessage, List.map_append, Cursor.foldl_further_append, List.map_cons,
    List.map_nil, List.foldl_cons, List.foldl_nil, Cursor.further_foldl,
    String.intercalate_cons_cons, String.intercalate_singleton]

end Failure

/-! ## The choice between parsers -/

/-- A reply that is no failure stands. -/
theorem Reply.recover_of_ne_failed {reply : Reply α} (h : ∀ failure, reply ≠ .failed failure)
    (onFail : Failure → Reply α) : reply.recover onFail = reply := by
  cases reply with
  | matched value rest => rfl
  | failed failure => exact absurd rfl (h failure)
  | fault cause => rfl

namespace Parser

variable {alternatives : List (Parser α)} {cursor : Cursor}

/-- Either all alternatives fail, or a first one does not. -/
theorem all_fail_or_first_answer (alternatives : List (Parser α)) (cursor : Cursor) :
    (∃ failures : List Failure, alternatives.map (· cursor) = failures.map .failed) ∨
      ∃ (before : List (Parser α)) (p : Parser α) (after : List (Parser α))
        (failures : List Failure), alternatives = before ++ p :: after ∧
          before.map (· cursor) = failures.map .failed ∧
            ∀ failure, p cursor ≠ .failed failure := by
  induction alternatives with
  | nil => exact .inl ⟨[], rfl⟩
  | cons p others ih =>
      by_cases hp : ∃ failure, p cursor = .failed failure
      · obtain ⟨failure, hp⟩ := hp
        rcases ih with ⟨failures, hall⟩ | ⟨before, q, after, failures, rfl, hbefore, hq⟩
        · exact .inl ⟨failure :: failures, by simp [hp, hall]⟩
        · exact .inr ⟨p :: before, q, after, failure :: failures, rfl, by simp [hp, hbefore], hq⟩
      · exact .inr ⟨[], p, others, [], rfl, rfl, fun failure hfailure => hp ⟨failure, hfailure⟩⟩

theorem exists_failures {alternatives : List (Parser α)}
    (h : ∀ p ∈ alternatives, ∃ failure, p cursor = .failed failure) :
    ∃ failures : List Failure, alternatives.map (· cursor) = failures.map .failed := by
  rcases all_fail_or_first_answer alternatives cursor with
    hall | ⟨before, p, after, failures, rfl, -, hp⟩
  · exact hall
  · obtain ⟨failure, hfailure⟩ := h p (List.mem_append_right _ List.mem_cons_self)
    exact absurd hfailure (hp failure)

theorem choiceAfter_append {front : List (Parser α)} {failures : List Failure}
    (hfront : front.map (· cursor) = failures.map .failed) (earlier : List Failure)
    (back : List (Parser α)) :
    choiceAfter earlier (front ++ back) cursor = choiceAfter (earlier ++ failures) back cursor := by
  induction front generalizing earlier failures with
  | nil =>
      have hnil : failures = [] := by simpa using hfront.symm
      rw [hnil, List.append_nil, List.nil_append]
  | cons p front ih =>
      cases failures with
      | nil => simp at hfront
      | cons failure failures =>
          obtain ⟨hp, hrest⟩ := List.cons_eq_cons.mp hfront
          simp only at hp
          rw [List.cons_append, choiceAfter, hp, Reply.recover_failed, ih hrest, List.append_assoc]
          rfl

/-- When all alternatives fail, so does the choice. -/
theorem choice_of_failed (hne : alternatives ≠ []) {failures : List Failure}
    (hall : alternatives.map (· cursor) = failures.map .failed) :
    choice alternatives cursor = .failed (.join cursor failures) := by
  have hfailures : failures ≠ [] := by
    rintro rfl
    exact hne (by simpa using hall)
  have happend := choiceAfter_append hall [] []
  rw [List.append_nil] at happend
  rw [choice, happend, choiceAfter, List.nil_append, if_neg (by simpa using hfailures)]

/-- The first alternative that does not fail decides. -/
theorem choice_of_answer {before after : List (Parser α)} {p : Parser α} {failures : List Failure}
    (hbefore : before.map (· cursor) = failures.map .failed)
    (hp : ∀ failure, p cursor ≠ .failed failure) :
    choice (before ++ p :: after) cursor = p cursor := by
  rw [choice, choiceAfter_append hbefore, choiceAfter]
  exact Reply.recover_of_ne_failed hp _

theorem choice_append {front back : List (Parser α)} (hfront : front ≠ []) (hback : back ≠ []) :
    choice (front ++ back) = (choice front).orElse (choice back) := by
  funext cursor
  rcases all_fail_or_first_answer front cursor with
    ⟨failures, hall⟩ | ⟨before, p, after, failures, rfl, hbefore, hp⟩
  · have hchoice : choice front cursor = .failed (.join cursor failures) :=
      choice_of_failed hfront hall
    rw [Parser.orElse, hchoice, Reply.recover_failed]
    rcases all_fail_or_first_answer back cursor with
      ⟨failures', hall'⟩ | ⟨before, p, after, failures', rfl, hbefore, hp⟩
    · have happend : (front ++ back).map (· cursor) = (failures ++ failures').map .failed := by
        rw [List.map_append, List.map_append, hall, hall']
      have hne : front ++ back ≠ [] := by simp [hfront]
      have hfailures : failures ≠ [] := by
        rintro rfl
        exact hfront (by simpa using hall)
      have hfailures' : failures' ≠ [] := by
        rintro rfl
        exact hback (by simpa using hall')
      rw [choice_of_failed hne happend, choice_of_failed hback hall', Reply.recover_failed,
        Failure.join_append cursor hfailures hfailures']
    · have happend : (front ++ before).map (· cursor) = (failures ++ failures').map .failed := by
        rw [List.map_append, List.map_append, hall, hbefore]
      rw [choice_of_answer hbefore hp, Reply.recover_of_ne_failed hp, ← List.append_assoc,
        choice_of_answer happend hp]
  · rw [List.append_assoc, List.cons_append, choice_of_answer hbefore hp, Parser.orElse,
      choice_of_answer hbefore hp, Reply.recover_of_ne_failed hp]

theorem orElse_eq_choice (first second : Parser α) :
    first.orElse second = choice [first, second] := by
  funext cursor
  simp [Parser.orElse, choice, choiceAfter]

theorem choice_choice (hne : alternatives ≠ []) :
    choice [choice alternatives] = choice alternatives := by
  funext cursor
  rcases all_fail_or_first_answer alternatives cursor with
    ⟨failures, hall⟩ | ⟨before, p, after, failures, rfl, hbefore, hp⟩
  · have hchoice : [choice alternatives].map (· cursor) =
        [Failure.join cursor failures].map .failed :=
      congrArg (fun reply => [reply]) (choice_of_failed hne hall)
    rw [choice_of_failed (by simp) hchoice, choice_of_failed hne hall, Failure.join_join]
  · have hanswer : ∀ failure, choice (before ++ p :: after) cursor ≠ .failed failure := by
      rw [choice_of_answer hbefore hp]
      exact hp
    exact @choice_of_answer α cursor [] [] _ [] rfl hanswer

end Parser

/-! ## Nested alternatives -/

/-- Alternatives that are put together two at a time or many at a time, in any nesting. -/
inductive Alternation (α : Type) where
  | leaf (p : Parser α)
  | either (first second : Alternation α)
  | oneOf (first : Alternation α) (others : List (Alternation α))

namespace Alternation

mutual

/-- The parser that is put together. -/
def parser : Alternation α → Parser α
  | .leaf p => p
  | .either first second => first.parser.orElse second.parser
  | .oneOf first others => .choice (first.parser :: parsers others)

/-- The parsers of several alternations. -/
def parsers : List (Alternation α) → List (Parser α)
  | [] => []
  | tree :: others => tree.parser :: parsers others

end

mutual

/-- The parsers at the leaves, from left to right. -/
def leaves : Alternation α → List (Parser α)
  | .leaf p => [p]
  | .either first second => first.leaves ++ second.leaves
  | .oneOf first others => first.leaves ++ leavesOf others

/-- The parsers at the leaves of several alternations. -/
def leavesOf : List (Alternation α) → List (Parser α)
  | [] => []
  | tree :: others => tree.leaves ++ leavesOf others

end

/-- Nothing is put together. -/
def isLeaf : Alternation α → Bool
  | .leaf _ => true
  | .either _ _ => false
  | .oneOf _ _ => false

theorem parsers_eq (trees : List (Alternation α)) : parsers trees = trees.map parser := by
  induction trees with
  | nil => rfl
  | cons tree trees ih => rw [parsers, ih, List.map_cons]

theorem leavesOf_eq (trees : List (Alternation α)) : leavesOf trees = trees.flatMap leaves := by
  induction trees with
  | nil => rfl
  | cons tree trees ih => rw [leavesOf, ih, List.flatMap_cons]

/-- Induction with a hypothesis for each of the alternations that are put together. -/
@[elab_as_elim]
theorem induction {motive : Alternation α → Prop} (leaf : ∀ p, motive (.leaf p))
    (either : ∀ first second, motive first → motive second → motive (.either first second))
    (oneOf : ∀ first others, motive first → (∀ tree ∈ others, motive tree) →
      motive (.oneOf first others)) : ∀ tree, motive tree
  | .leaf p => leaf p
  | .either first second =>
      either first second (induction leaf either oneOf first) (induction leaf either oneOf second)
  | .oneOf first others =>
      oneOf first others (induction leaf either oneOf first) fun tree _ =>
        induction leaf either oneOf tree

theorem leaves_ne_nil (tree : Alternation α) : tree.leaves ≠ [] := by
  induction tree using Alternation.induction with
  | leaf p => simp [leaves]
  | either first second hfirst _ => simp [leaves, hfirst]
  | oneOf first others hfirst _ => simp [leaves, hfirst]

theorem choice_map_eq_choice_flatMap {trees : List (Alternation α)}
    (h : ∀ tree ∈ trees, Parser.choice [tree.parser] = .choice tree.leaves) :
    Parser.choice (trees.map parser) = .choice (trees.flatMap leaves) := by
  induction trees with
  | nil => rfl
  | cons tree trees ih =>
      have htree := h tree List.mem_cons_self
      cases trees with
      | nil => simpa using htree
      | cons next trees =>
          have hne : (next :: trees).flatMap leaves ≠ [] := by simp [leaves_ne_nil]
          calc Parser.choice ((tree :: next :: trees).map parser)
              = (Parser.choice [tree.parser]).orElse (.choice ((next :: trees).map parser)) :=
                @Parser.choice_append α [tree.parser] _ (by simp) (by simp)
            _ = (Parser.choice tree.leaves).orElse (.choice ((next :: trees).flatMap leaves)) := by
                rw [htree, ih fun other hother => h other (List.mem_cons_of_mem _ hother)]
            _ = .choice ((tree :: next :: trees).flatMap leaves) :=
                (Parser.choice_append tree.leaves_ne_nil hne).symm

/-- As an alternative among others an alternation counts as its leaves. -/
theorem choice_singleton_eq_choice_leaves (tree : Alternation α) :
    Parser.choice [tree.parser] = .choice tree.leaves := by
  induction tree using Alternation.induction with
  | leaf p => rfl
  | either first second hfirst hsecond =>
      have hpair := @choice_map_eq_choice_flatMap α [first, second] (by simp [hfirst, hsecond])
      rw [parser, Parser.orElse_eq_choice, Parser.choice_choice (by simp), leaves]
      simpa using hpair
  | oneOf first others hfirst hothers =>
      have hall := @choice_map_eq_choice_flatMap α (first :: others)
        (by simpa using ⟨hfirst, hothers⟩)
      rw [parser, Parser.choice_choice (by simp), parsers_eq, leaves, leavesOf_eq]
      exact hall

/-- An alternation is the choice between its leaves. -/
theorem parser_eq_choice {tree : Alternation α} (h : tree.isLeaf = false) :
    tree.parser = .choice tree.leaves := by
  rw [← choice_singleton_eq_choice_leaves]
  cases tree with
  | leaf p => cases h
  | either first second => rw [parser, Parser.orElse_eq_choice, Parser.choice_choice (by simp)]
  | oneOf first others => rw [parser, Parser.choice_choice (by simp)]

end Alternation

/-- However alternatives are nested, the first leaf that does not fail decides, run where all of
them start.  When all leaves fail, their messages are joined in order and the place is the first of
the furthest ones, or the start when none is further.  So leaves and their order are all that
counts. -/
theorem alternation_has_one_normal_form {tree : Alternation α} (htree : tree.isLeaf = false)
    (cursor : Cursor) :
    (∀ before p after, tree.leaves = before ++ p :: after →
      (∀ earlier ∈ before, ∃ failure, earlier cursor = .failed failure) →
      (∀ failure, p cursor ≠ .failed failure) → tree.parser cursor = p cursor) ∧
    (∀ failures : List Failure, tree.leaves.map (· cursor) = failures.map .failed →
      ∃ failure, tree.parser cursor = .failed failure ∧
        failure.message = " AND ".intercalate (failures.map Failure.message) ∧
        cursor.Furthest (failures.map Failure.cursor) failure.cursor) ∧
    (∀ other : Alternation α, other.isLeaf = false → other.leaves = tree.leaves →
      other.parser cursor = tree.parser cursor) ∧
    (∀ p q r : Parser α,
      (p.orElse q).orElse r cursor = p.orElse (q.orElse r) cursor ∧
      p.orElse (q.orElse r) cursor = Parser.choice [p, q, r] cursor) := by
  have hparser := tree.parser_eq_choice htree
  refine ⟨?_, ?_, ?_, ?_⟩
  · intro before p after hleaves hbefore hp
    obtain ⟨failures, hfailures⟩ := Parser.exists_failures hbefore
    rw [hparser, hleaves]
    exact Parser.choice_of_answer hfailures hp
  · intro failures hfailures
    refine ⟨.join cursor failures, ?_, rfl, ?_⟩
    · rw [hparser, Parser.choice_of_failed tree.leaves_ne_nil hfailures]
    · rw [Failure.join_eq]
      exact cursor.furthest_foldl_further _
  · intro other hother hleaves
    rw [hparser, other.parser_eq_choice hother, hleaves]
  · intro p q r
    have hleft : (p.orElse q).orElse r = .choice [p, q, r] :=
      @Alternation.parser_eq_choice α (.either (.either (.leaf p) (.leaf q)) (.leaf r)) rfl
    have hright : p.orElse (q.orElse r) = .choice [p, q, r] :=
      @Alternation.parser_eq_choice α (.either (.leaf p) (.either (.leaf q) (.leaf r))) rfl
    rw [hleft, hright]
    exact ⟨rfl, rfl⟩

/-- Three leaves that fail, two of them equally far and one before the start in another text, under
an alternation of two inside one of many. -/
theorem alternation_has_one_normal_form_of_tie :
    (Alternation.oneOf (.either
        (.leaf fun _ => (.failed ⟨⟨['?'], ⟨0, 0, 0⟩⟩, "p"⟩ : Reply Char))
        (.leaf fun _ => .failed ⟨⟨['b'], ⟨5, 1, 1⟩⟩, "q"⟩))
      [.leaf fun _ => .failed ⟨⟨['c'], ⟨5, 0, 5⟩⟩, "r"⟩]).isLeaf = false ∧
    ∃ failure, (Alternation.oneOf (.either
        (.leaf fun _ => (.failed ⟨⟨['?'], ⟨0, 0, 0⟩⟩, "p"⟩ : Reply Char))
        (.leaf fun _ => .failed ⟨⟨['b'], ⟨5, 1, 1⟩⟩, "q"⟩))
      [.leaf fun _ => .failed ⟨⟨['c'], ⟨5, 0, 5⟩⟩, "r"⟩]).parser ⟨['a'], ⟨3, 0, 3⟩⟩ =
        .failed failure ∧
      failure.message = "p AND q AND r" ∧
      Cursor.Furthest ⟨['a'], ⟨3, 0, 3⟩⟩
        [⟨['?'], ⟨0, 0, 0⟩⟩, ⟨['b'], ⟨5, 1, 1⟩⟩, ⟨['c'], ⟨5, 0, 5⟩⟩] failure.cursor :=
  ⟨rfl, (alternation_has_one_normal_form rfl _).2.1
    [⟨⟨['?'], ⟨0, 0, 0⟩⟩, "p"⟩, ⟨⟨['b'], ⟨5, 1, 1⟩⟩, "q"⟩, ⟨⟨['c'], ⟨5, 0, 5⟩⟩, "r"⟩] rfl⟩

end ParserCombinators
