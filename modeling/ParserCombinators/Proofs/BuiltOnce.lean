import Mathlib.Data.Finset.Card
import ParserCombinators.Deferred.Pool
import ParserCombinators.Parser.Char

/-!
# Deferred parsers are built once

What is done with a pool can be written down without looking at a parser: how many members there are,
which one is in use, and whose parser has been asked for.  A `Ledger` keeps these three, and the pool
is compared with the ledger of the same uses.

* `Tracks` is the comparison: every member holds the parser exactly when it is on the list of those
  asked, and the factory has run once for each of them.
* One use keeps it (`Tracks.step`): a member that is asked for its parser enters the list, a copy is a
  member that is not on it, and nothing else changes.
* So it holds after any uses (`Tracks.run`), and `BuiltOnce` reads off it what users of a pool see.
-/

namespace ParserCombinators.Deferred

variable {σ α : Type}

/-! ## Factories -/

/-- The factory gives the parser `p` on each of its runs, whatever else it does. -/
def Builds (factory : σ → Parser α × σ) (p : Parser α) : Prop := ∀ state, (factory state).1 = p

/-- The same factory, which counts its runs in addition. -/
def counting (factory : σ → Parser α × σ) (state : σ × Nat) : Parser α × (σ × Nat) :=
  ((factory state.1).1, (factory state.1).2, state.2 + 1)

/-! ## What has been asked of a pool -/

/-- The uses of a pool as they are seen from outside: the number of members, the one in use, and those
whose parser has been asked for. -/
structure Ledger where
  members : Nat := 1
  current : Nat := 0
  asked : Finset Nat := ∅

namespace Ledger

/-- The parser of the current member is asked for, if there is such a member. -/
def ask (ledger : Ledger) : Ledger :=
  if ledger.current < ledger.members then
    { ledger with asked := insert ledger.current ledger.asked }
  else ledger

/-- One use of a pool. -/
def after (ledger : Ledger) : Use → Ledger
  | .get | .parse _ | .parseComplete _ => ledger.ask
  | .copy =>
      if ledger.current < ledger.members then
        { ledger with members := ledger.members + 1, current := ledger.members }
      else ledger
  | .select member => { ledger with current := member }
  | .isBuilt | .describe => ledger

/-- The ledger of a list of uses of a pool that starts with a single member. -/
def ofUses (uses : List Use) : Ledger := uses.foldl after {}

/-- Who has been asked stays on the list. -/
theorem asked_subset_after (ledger : Ledger) (use : Use) :
    ledger.asked ⊆ (ledger.after use).asked := by
  have hask : ledger.asked ⊆ ledger.ask.asked := by
    unfold ask
    split
    · exact Finset.subset_insert _ _
    · exact Finset.Subset.refl _
  cases use with
  | get => exact hask
  | parse text => exact hask
  | parseComplete text => exact hask
  | copy =>
      rw [after]
      split <;> exact Finset.Subset.refl _
  | select member => exact Finset.Subset.refl _
  | isBuilt => exact Finset.Subset.refl _
  | describe => exact Finset.Subset.refl _

theorem asked_subset_foldl (ledger : Ledger) (uses : List Use) :
    ledger.asked ⊆ (uses.foldl after ledger).asked := by
  induction uses generalizing ledger with
  | nil => exact Finset.Subset.refl _
  | cons use uses ih => exact (ledger.asked_subset_after use).trans (ih _)

end Ledger

/-! ## Pools and their ledgers -/

/-- The pool is as its ledger says: a member is built exactly when it has been asked, and the factory
has run once for each member that has. -/
structure Tracks (factory : σ → Parser α × σ) (p : Parser α) (pool : Pool (σ × Nat) α)
    (ledger : Ledger) : Prop where
  length : pool.members.length = ledger.members
  current : pool.current = ledger.current
  asked_lt : ∀ i ∈ ledger.asked, i < ledger.members
  members : ∀ i < ledger.members,
    pool.members[i]? = some ⟨counting factory, if i ∈ ledger.asked then some p else none⟩
  runs : pool.state.2 = ledger.asked.card

namespace Tracks

variable {factory : σ → Parser α × σ} {p : Parser α} {pool : Pool (σ × Nat) α} {ledger : Ledger}

theorem single (factory : σ → Parser α × σ) (p : Parser α) (state : σ) :
    Tracks factory p (.single { factory := counting factory } (state, 0)) {} where
  length := rfl
  current := rfl
  asked_lt i hi := by simp at hi
  members i hi := by
    have hzero : i = 0 := Nat.lt_one_iff.mp hi
    subst hzero
    rfl
  runs := rfl

/-- Whose number is not on the ledger is no member. -/
theorem getElem?_eq_none (h : Tracks factory p pool ledger) {i : Nat} (hi : ¬ i < ledger.members) :
    pool.members[i]? = none := by
  rw [List.getElem?_eq_none_iff, h.length]
  exact Nat.le_of_not_lt hi

/-- When the current member has been given its parser, it has been asked and the others are as
before. -/
theorem setCurrent (h : Tracks factory p pool ledger) (hcurrent : ledger.current < ledger.members)
    {state : σ × Nat} (hruns : state.2 = (insert ledger.current ledger.asked).card) :
    Tracks factory p
      { pool with members := pool.members.set pool.current ⟨counting factory, some p⟩, state }
      ledger.ask := by
  rw [Ledger.ask, if_pos hcurrent]
  constructor
  · rw [List.length_set]
    exact h.length
  · exact h.current
  · intro i hi
    rcases Finset.mem_insert.mp hi with rfl | hi
    · exact hcurrent
    · exact h.asked_lt i hi
  · intro i hi
    rw [List.getElem?_set, h.current]
    by_cases hsame : ledger.current = i
    · subst hsame
      simp [h.length, hcurrent]
    · simp [hsame, Ne.symm hsame, h.members i hi]
  · exact hruns

/-- To ask the current member for its parser gives `p`, and builds the member if it was not. -/
theorem getCurrent (h : Tracks factory p pool ledger) (hfactory : Builds factory p)
    (hcurrent : ledger.current < ledger.members) :
    ∃ after, pool.getCurrent = some (p, after) ∧ Tracks factory p after ledger.ask := by
  have hmember := h.members _ hcurrent
  rw [← h.current] at hmember
  rw [Pool.getCurrent, hmember, Option.map_some]
  by_cases hasked : pool.current ∈ ledger.asked
  · rw [if_pos hasked]
    refine ⟨_, rfl, h.setCurrent hcurrent ?_⟩
    rw [← h.current, Finset.insert_eq_of_mem hasked]
    exact h.runs
  · rw [if_neg hasked]
    have hp : (counting factory pool.state).1 = p := hfactory pool.state.1
    refine ⟨{ pool with members := pool.members.set pool.current ⟨counting factory, some p⟩
                        state := (counting factory pool.state).2 }, ?_, ?_⟩
    · simp only [Deferred.get, hp]
    · refine h.setCurrent hcurrent ?_
      rw [← h.current, Finset.card_insert_of_notMem hasked, ← h.runs]
      rfl

/-- A use that asks for the parser of the current member shows what `p` shows. -/
theorem showCurrent (h : Tracks factory p pool ledger) (hfactory : Builds factory p)
    (view : Parser α → Shown α) :
    Tracks factory p (pool.showCurrent view).1 ledger.ask ∧
      (ledger.current < ledger.members → (pool.showCurrent view).2 = view p) := by
  by_cases hcurrent : ledger.current < ledger.members
  · obtain ⟨after, hget, htracks⟩ := h.getCurrent hfactory hcurrent
    rw [Pool.showCurrent, hget]
    exact ⟨htracks, fun _ => rfl⟩
  · have hnone : pool.getCurrent = none := by
      rw [Pool.getCurrent, h.current, h.getElem?_eq_none hcurrent, Option.map_none]
    rw [Pool.showCurrent, hnone, Ledger.ask, if_neg hcurrent]
    exact ⟨h, fun hlt => absurd hlt hcurrent⟩

/-- A copy is the last member and has not been asked. -/
theorem copy (h : Tracks factory p pool ledger) :
    Tracks factory p (pool.step .copy).1 (ledger.after .copy) := by
  by_cases hcurrent : ledger.current < ledger.members
  · have hmember := h.members _ hcurrent
    have hfresh : ledger.members ∉ ledger.asked := fun hasked =>
      absurd (h.asked_lt _ hasked) (Nat.lt_irrefl _)
    rw [Pool.step, h.current, hmember, Ledger.after, if_pos hcurrent]
    constructor
    · simp [h.length]
    · exact h.length
    · intro i hi
      exact Nat.lt_succ_of_lt (h.asked_lt i hi)
    · intro i hi
      rcases Nat.lt_succ_iff_lt_or_eq.mp hi with hlt | rfl
      · rw [List.getElem?_append_left (by rw [h.length]; exact hlt)]
        exact h.members i hlt
      · rw [← h.length, List.getElem?_concat_length, h.length, if_neg hfresh]
        rfl
    · exact h.runs
  · rw [Pool.step, h.current, h.getElem?_eq_none hcurrent, Ledger.after, if_neg hcurrent]
    exact h

theorem step (h : Tracks factory p pool ledger) (hfactory : Builds factory p) (use : Use) :
    Tracks factory p (pool.step use).1 (ledger.after use) := by
  cases use with
  | isBuilt => rwa [Pool.step, Pool.lookAtCurrent_fst]
  | get => exact (h.showCurrent hfactory _).1
  | parse text => exact (h.showCurrent hfactory _).1
  | parseComplete text => exact (h.showCurrent hfactory _).1
  | copy => exact h.copy
  | select member => exact ⟨h.length, rfl, h.asked_lt, h.members, h.runs⟩
  | describe => rwa [Pool.step, Pool.lookAtCurrent_fst]

theorem run (h : Tracks factory p pool ledger) (hfactory : Builds factory p) (uses : List Use) :
    Tracks factory p (pool.run uses) (uses.foldl Ledger.after ledger) := by
  induction uses generalizing pool ledger with
  | nil => exact h
  | cons use uses ih => exact ih (h.step hfactory use)

end Tracks

/-! ## What users of a pool see -/

namespace Pool

/-- The member with this number exists and is built. -/
def isBuilt (pool : Pool σ α) (i : Nat) : Bool := pool.members[i]?.any Deferred.isBuilt

end Pool

variable {factory : σ → Parser α × σ} {p : Parser α} {pool : Pool (σ × Nat) α}

theorem Tracks.isBuilt_iff {ledger : Ledger} (h : Tracks factory p pool ledger) {i : Nat} :
    pool.isBuilt i = true ↔ i ∈ ledger.asked := by
  by_cases hi : i < ledger.members
  · by_cases hasked : i ∈ ledger.asked <;>
      simp [Pool.isBuilt, Deferred.isBuilt, h.members i hi, hasked]
  · have hnot : i ∉ ledger.asked := fun hasked => hi (h.asked_lt i hasked)
    simp [Pool.isBuilt, h.getElem?_eq_none hi, hnot]

theorem Pool.step_isBuilt (pool : Pool σ α) (hcurrent : pool.current < pool.members.length) :
    (pool.step .isBuilt).2 = .built (pool.isBuilt pool.current) := by
  rw [step, lookAtCurrent, isBuilt, List.getElem?_eq_getElem hcurrent, Option.any_some]

/-- A use of a pool leaves all members but the current one as they are. -/
theorem Pool.getElem?_step (pool : Pool σ α) (use : Use) {i : Nat} (hi : i < pool.members.length)
    (hne : i ≠ pool.current) : (pool.step use).1.members[i]? = pool.members[i]? := by
  have hshow (view : Parser α → Shown α) :
      (pool.showCurrent view).1.members[i]? = pool.members[i]? := by
    unfold showCurrent getCurrent
    cases pool.members[pool.current]? with
    | none => rfl
    | some deferred => simp [Ne.symm hne]
  cases use with
  | isBuilt => rw [step, lookAtCurrent_fst]
  | get => exact hshow _
  | parse text => exact hshow _
  | parseComplete text => exact hshow _
  | copy =>
      rw [step]
      cases pool.members[pool.current]? with
      | none => rfl
      | some deferred => exact List.getElem?_append_left hi
  | select member => rfl
  | describe => rw [step, lookAtCurrent_fst]

/-- The factory has run once for each member that has been asked, and those are the members that are
built, say so and stay so.  A copy is not built, and using a member changes no other.  What is parsed
is parsed as by `p`. -/
structure BuiltOnce (p : Parser α) (pool : Pool (σ × Nat) α) (asked : Finset Nat) : Prop where
  runs : pool.state.2 = asked.card
  isBuilt_iff : ∀ i, pool.isBuilt i = true ↔ i ∈ asked
  isBuilt_shown : pool.current < pool.members.length →
    (pool.step .isBuilt).2 = .built (pool.isBuilt pool.current)
  isBuilt_run : ∀ i uses, pool.isBuilt i = true → (pool.run uses).isBuilt i = true
  copy : pool.current < pool.members.length →
    ∃ member, (pool.step .copy).1.members = pool.members ++ [member] ∧ member.isBuilt = false ∧
      (pool.step .copy).1.current = pool.members.length
  others : ∀ use i, i < pool.members.length → i ≠ pool.current →
    (pool.step use).1.members[i]? = pool.members[i]?
  parse : pool.current < pool.members.length →
    ∀ text, (pool.step (.parse text)).2 = .reply (p.parse text)
  parseComplete : pool.current < pool.members.length →
    ∀ text, (pool.step (.parseComplete text)).2 = .verdict (p.parseComplete text)

theorem Tracks.builtOnce {ledger : Ledger} (h : Tracks factory p pool ledger)
    (hfactory : Builds factory p) : BuiltOnce p pool ledger.asked where
  runs := h.runs
  isBuilt_iff i := h.isBuilt_iff
  isBuilt_shown hcurrent := pool.step_isBuilt hcurrent
  isBuilt_run i uses hbuilt :=
    (h.run hfactory uses).isBuilt_iff.mpr (ledger.asked_subset_foldl uses (h.isBuilt_iff.mp hbuilt))
  copy hcurrent := by
    rw [h.length, h.current] at hcurrent
    rw [Pool.step, h.current, h.members _ hcurrent]
    exact ⟨_, rfl, rfl, rfl⟩
  others use i hi hne := pool.getElem?_step use hi hne
  parse hcurrent text := by
    rw [h.length, h.current] at hcurrent
    exact (h.showCurrent hfactory _).2 hcurrent
  parseComplete hcurrent text := by
    rw [h.length, h.current] at hcurrent
    exact (h.showCurrent hfactory _).2 hcurrent

/-- After any uses of a deferred parser and its copies, each of them has been built once if its parser
has been asked for and not at all otherwise, and none of it shows in what is parsed. -/
theorem built_once_where_asked (hfactory : Builds factory p) (state : σ) (uses : List Use) :
    BuiltOnce p ((Pool.single { factory := counting factory } (state, 0)).run uses)
      (Ledger.ofUses uses).asked :=
  ((Tracks.single factory p state).run hfactory uses).builtOnce hfactory

/-- Of three members two have been asked, the first of them again after it was copied. -/
theorem built_once_where_asked_of_copies :
    Builds (fun log : Text => (Parser.char 'x', 'b' :: log)) (Parser.char 'x') ∧
      ∃ pool, pool = (Pool.single
          { factory := counting fun log : Text => (Parser.char 'x', 'b' :: log) } ([], 0)).run
            [.parse ['x'], .copy, .describe, .parseComplete ['y'], .copy, .isBuilt, .select 0,
              .get] ∧
        pool.state.2 = 2 ∧ pool.isBuilt 0 = true ∧ pool.isBuilt 1 = true ∧ ¬ pool.isBuilt 2 = true ∧
        (pool.step (.parse ['x', 'y'])).2 = .reply (.matched 'x' ⟨['y'], ⟨1, 0, 1⟩⟩) := by
  have hfactory : Builds (fun log : Text => (Parser.char 'x', 'b' :: log)) (Parser.char 'x') :=
    fun _ => rfl
  have hbuilt := built_once_where_asked hfactory []
    [.parse ['x'], .copy, .describe, .parseComplete ['y'], .copy, .isBuilt, .select 0, .get]
  refine ⟨hfactory, _, rfl, hbuilt.runs, (hbuilt.isBuilt_iff 0).mpr ?_,
    (hbuilt.isBuilt_iff 1).mpr ?_, mt (hbuilt.isBuilt_iff 2).mp ?_, hbuilt.parse ?_ ['x', 'y']⟩
  · decide
  · decide
  · decide
  · decide

end ParserCombinators.Deferred
