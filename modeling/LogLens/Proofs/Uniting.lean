/-
Module: LogLens.Proofs.Uniting
Purpose: Marks of several categories.  What is done to one of them leaves the others as they are, so
  that each holds the set which its own calls describe; and the ways across several categories are
  those through one index that holds the lines of all.
Main exports: Bookmarks.Call, Bookmarks.run, Bookmarks.callsOn, Bookmarks.union,
  Bookmarks.Holds, Bookmarks.run_unites
-/
import Mathlib.Data.Finset.Union
import LogLens.Bookmark.Store
import LogLens.Proofs.Navigating

namespace LogLens

open LineId

/-! ### Which of several lines is come to first -/

namespace Way

variable {α : Type} [LineId α] {way : Way} {a b c : α}

theorem not_leads_trans (first : way.leads a b = false) (second : way.leads b c = false) :
    way.leads a c = false := by
  cases way <;> simp only [leads, isBefore, decide_eq_false_iff_not] at * <;> omega

theorem first_eq_or (way : Way) (a b : α) : way.first a b = a ∨ way.first a b = b := by
  unfold first
  split
  · exact Or.inr rfl
  · exact Or.inl rfl

/-- Neither of two lines leads to the one that is come to first. -/
theorem not_leads_first (way : Way) (a b : α) :
    way.leads a (way.first a b) = false ∧ way.leads b (way.first a b) = false := by
  unfold first
  cases leads : way.leads b a with
  | true =>
      rw [if_pos rfl]
      exact ⟨not_leads_of_leads leads, not_leads_self way b⟩
  | false =>
      rw [if_neg Bool.false_ne_true]
      exact ⟨not_leads_self way a, leads⟩

/-- Of several lines one is found that none of them leads to. -/
theorem foldl_first (way : Way) (line : α) (rest : List α) :
    rest.foldl way.first line ∈ line :: rest ∧
      ∀ other ∈ line :: rest, way.leads other (rest.foldl way.first line) = false := by
  induction rest generalizing line with
  | nil => simp [not_leads_self]
  | cons x rest ih =>
      obtain ⟨member, foremost⟩ := ih (way.first line x)
      obtain ⟨notLine, notX⟩ := way.not_leads_first line x
      rw [List.forall_mem_cons] at foremost
      obtain ⟨notFirst, notRest⟩ := foremost
      rw [List.foldl_cons]
      constructor
      · rcases List.mem_cons.1 member with isFirst | inRest
        · rw [isFirst]
          rcases way.first_eq_or line x with same | same <;> simp [same]
        · simp [inRest]
      · intro other inLines
        rcases List.mem_cons.1 inLines with rfl | inLines
        · exact not_leads_trans notLine notFirst
        · rcases List.mem_cons.1 inLines with rfl | inRest
          · exact not_leads_trans notX notFirst
          · exact notRest other inRest

/-- The nearest line of several sets is nearest in their union if no nearest line of another set leads
to it. -/
theorem isNearest_biUnion [DecidableEq α] {categories : List CategoryId}
    {marks : CategoryId → Finset α} {start line : α}
    (inOne : ∃ category ∈ categories, way.IsNearest (marks category) start line)
    (foremost : ∀ category ∈ categories, ∀ other, way.IsNearest (marks category) start other →
      way.leads other line = false)
    (reached : ∀ category ∈ categories, ∀ other ∈ marks category, way.leads start other = true →
      ∃ nearest, way.IsNearest (marks category) start nearest) :
    way.IsNearest (categories.toFinset.biUnion marks) start line := by
  obtain ⟨category, member, nearest⟩ := inOne
  constructor
  case mem =>
    rw [Finset.mem_biUnion]
    exact ⟨category, List.mem_toFinset.2 member, nearest.mem⟩
  case ahead => exact nearest.ahead
  case nearest =>
    intro other isMarked isAhead
    obtain ⟨own, isGiven, isOwn⟩ := Finset.mem_biUnion.1 isMarked
    have isGiven := List.mem_toFinset.1 isGiven
    obtain ⟨between, isBetween⟩ := reached own isGiven other isOwn isAhead
    have notNearer := foremost own isGiven between isBetween
    exact not_leads_trans (isBetween.nearest other isOwn isAhead) notNearer

end Way

namespace Bookmarks

/-! ### Putting and getting -/

section Put

variable {α : Type} {category other : CategoryId}

/-- The index put under a category is the one found there. -/
theorem lookup_putSorted (category : CategoryId) (index : BookmarkIndex α)
    (indices : List (CategoryId × BookmarkIndex α)) :
    (putSorted category index indices).lookup category = some index := by
  induction indices with
  | nil => rw [putSorted, List.lookup_cons_self]
  | cons first rest ih =>
      obtain ⟨other, stored⟩ := first
      rw [putSorted]
      split
      next before =>
        have apart : (category == other) = false := by
          rw [beq_eq_false_iff_ne]
          rintro rfl
          exact lt_irrefl _ before
        rw [List.lookup_cons, apart]
        exact ih
      next => split <;> rw [List.lookup_cons_self]

theorem lookup_putSorted_of_ne (apart : other ≠ category) (index : BookmarkIndex α)
    (indices : List (CategoryId × BookmarkIndex α)) :
    (putSorted category index indices).lookup other = indices.lookup other := by
  have notThere : (other == category) = false := beq_eq_false_iff_ne.2 apart
  induction indices with
  | nil => simp [putSorted, List.lookup_cons, notThere]
  | cons first rest ih =>
      obtain ⟨stored, marks⟩ := first
      rw [putSorted]
      split
      · rw [List.lookup_cons, List.lookup_cons, ih]
      · split
        next same =>
          subst same
          simp [List.lookup_cons, notThere]
        next => rw [List.lookup_cons, notThere]

theorem get?_put (bookmarks : Bookmarks α) (category : CategoryId) (index : BookmarkIndex α) :
    (bookmarks.put category index).get? category = some index :=
  lookup_putSorted category index bookmarks.indices

theorem get?_put_of_ne (bookmarks : Bookmarks α) (index : BookmarkIndex α) (apart : other ≠ category) :
    (bookmarks.put category index).get? other = bookmarks.get? other :=
  lookup_putSorted_of_ne apart index bookmarks.indices

theorem index_put (bookmarks : Bookmarks α) (category : CategoryId) (index : BookmarkIndex α) :
    (bookmarks.put category index).index category = index := by
  rw [Bookmarks.index, get?_put]
  rfl

theorem index_put_of_ne (bookmarks : Bookmarks α) (index : BookmarkIndex α)
    (apart : other ≠ category) :
    (bookmarks.put category index).index other = bookmarks.index other := by
  rw [Bookmarks.index, get?_put_of_ne bookmarks index apart]
  rfl

/-- What was put last stands. -/
theorem putSorted_putSorted (category : CategoryId) (index later : BookmarkIndex α)
    (indices : List (CategoryId × BookmarkIndex α)) :
    putSorted category later (putSorted category index indices) =
      putSorted category later indices := by
  have here : ∀ rest, putSorted category later ((category, index) :: rest) =
      (category, later) :: rest := by
    intro rest
    rw [putSorted, if_neg (lt_irrefl _), if_pos rfl]
  induction indices with
  | nil => exact here []
  | cons first rest ih =>
      obtain ⟨other, stored⟩ := first
      simp only [putSorted]
      split
      next before => rw [putSorted, if_pos before, ih]
      next => split <;> exact here _

theorem put_put (bookmarks : Bookmarks α) (category : CategoryId) (index later : BookmarkIndex α) :
    (bookmarks.put category index).put category later = bookmarks.put category later :=
  congrArg Bookmarks.mk (putSorted_putSorted category index later bookmarks.indices)

theorem get?_clear_of_ne (bookmarks : Bookmarks α) (apart : other ≠ category) :
    (bookmarks.clear category).get? other = bookmarks.get? other := by
  unfold clear
  split
  · exact get?_put_of_ne bookmarks {} apart
  · rfl

/-- A category that is cleared has no marked lines, whether or not it was used. -/
theorem index_clear (bookmarks : Bookmarks α) (category : CategoryId) :
    (bookmarks.clear category).index category = {} := by
  unfold clear
  split
  next => exact index_put bookmarks category {}
  next unused =>
    rw [Bookmarks.index, Option.not_isSome_iff_eq_none.1 unused]
    rfl

end Put

/-! ### Calls on several categories -/

section Calls

variable {α : Type}

/-- A call on the marks of one category. -/
inductive Call (α : Type) where
  /-- The category comes into use, and nothing is done to its lines. -/
  | touch (category : CategoryId)
  | within (category : CategoryId) (call : BookmarkIndex.Call α)
  /-- The lines of a category are unmarked.  One that was never used stays so. -/
  | clear (category : CategoryId)

namespace Call

def category : Call α → CategoryId
  | touch category | within category _ | clear category => category

def line? : Call α → Option α
  | within _ call => call.line?
  | touch _ | clear _ => none

/-- What a call does to the lines of a category, if it does anything to them. -/
def on? (category : CategoryId) : Call α → Option (BookmarkIndex.Call α)
  | touch _ => none
  | within own call => if own = category then some call else none
  | clear own => if own = category then some .clear else none

/-- What a call does to the sets of lines of all categories. -/
def onSets [DecidableEq α] (marks : CategoryId → Finset α) (call : Call α) (category : CategoryId) :
    Finset α :=
  (call.on? category).elim (marks category) (BookmarkIndex.Call.onSet (marks category))

theorem on?_of_ne {call : Call α} {other : CategoryId} (apart : other ≠ call.category) :
    call.on? other = none := by
  cases call with
  | touch _ => rfl
  | within own call => exact if_neg apart.symm
  | clear own => exact if_neg apart.symm

end Call

def callsOn (category : CategoryId) (calls : List (Call α)) : List (BookmarkIndex.Call α) :=
  calls.filterMap (Call.on? category)

variable [DecidableEq α]

/-- The lines that calls describe for a category. -/
def described (calls : List (Call α)) (category : CategoryId) : Finset α :=
  BookmarkIndex.described (callsOn category calls)

/-- The lines that calls describe for any of the given categories. -/
def union (calls : List (Call α)) (categories : List CategoryId) : Finset α :=
  categories.toFinset.biUnion (described calls)

/-- The last call acts on what the earlier calls describe. -/
theorem described_concat (calls : List (Call α)) (call : Call α) :
    described (calls ++ [call]) = call.onSets (described calls) := by
  funext category
  rw [described, callsOn, List.filterMap_append, Call.onSets, described, callsOn]
  cases on : call.on? category with
  | none => simp [on]
  | some own => simp [on, BookmarkIndex.described]

end Calls

variable {α : Type} [LineId α] [DecidableEq α]

/-- Make a call, whatever it answers. -/
def perform (bookmarks : Bookmarks α) : Call α → Except Fault (Bookmarks α)
  | .touch category => .ok (bookmarks.put category (bookmarks.index category))
  | .within category call =>
    (bookmarks.update category fun index => (index.perform call).map fun after => ((), after)).map
      Prod.snd
  | .clear category => .ok (bookmarks.clear category)

def run (calls : List (Call α)) : Except Fault (Bookmarks α) := calls.foldlM perform {}

/-- Each category holds a set of lines. -/
def Holds (bookmarks : Bookmarks α) (marks : CategoryId → Finset α) : Prop :=
  ∀ category, (bookmarks.index category).Marks (marks category)

variable {bookmarks after : Bookmarks α} {call : Call α} {marks : CategoryId → Finset α}

/-- A call on one category leaves the others as they are. -/
theorem perform_other (performs : bookmarks.perform call = .ok after) {other : CategoryId}
    (apart : other ≠ call.category) : after.get? other = bookmarks.get? other := by
  cases call with
  | touch category =>
      cases performs
      exact get?_put_of_ne bookmarks _ apart
  | within category call =>
      obtain ⟨_, updates, rfl⟩ := ok_of_map performs
      obtain ⟨_, _, rfl⟩ := ok_of_map updates
      exact get?_put_of_ne bookmarks _ apart
  | clear category =>
      cases performs
      exact get?_clear_of_ne bookmarks apart

/-- A call that is not refused does to the set of a category what it does to its index. -/
theorem perform_marks {category : CategoryId} {own : Finset α}
    (holds : (bookmarks.index category).Marks own) (performs : bookmarks.perform call = .ok after) :
    (after.index category).Marks ((call.on? category).elim own (BookmarkIndex.Call.onSet own)) := by
  by_cases same : category = call.category
  · subst same
    cases call with
    | touch category =>
        cases performs
        rw [Call.category, index_put]
        exact holds
    | within category call =>
        obtain ⟨_, updates, rfl⟩ := ok_of_map performs
        obtain ⟨_, acts, rfl⟩ := ok_of_map updates
        obtain ⟨index, performsOwn, rfl⟩ := ok_of_map acts
        rw [Call.category, index_put, Call.on?, if_pos rfl]
        exact holds.perform performsOwn
    | clear category =>
        cases performs
        rw [Call.category, index_clear, Call.on?, if_pos rfl]
        exact BookmarkIndex.marks_empty
  · rw [Call.on?_of_ne same, Bookmarks.index, perform_other performs same]
    exact holds

/-- No call is refused that passes a line. -/
theorem exists_perform (bookmarks : Bookmarks α) (isLine : call.line? ≠ some noLine) :
    ∃ after, bookmarks.perform call = .ok after := by
  cases call with
  | touch category => exact ⟨_, rfl⟩
  | within category call =>
      obtain ⟨index, performs⟩ := (bookmarks.index category).exists_perform isLine
      refine ⟨bookmarks.put category index, ?_⟩
      simp [perform, update, performs, Except.map]
  | clear category => exact ⟨_, rfl⟩

/-- A call on any line but the missing one succeeds and acts on the described sets. -/
theorem Holds.step (holds : bookmarks.Holds marks) (isLine : call.line? ≠ some noLine) :
    ∃ after, bookmarks.perform call = .ok after ∧ after.Holds (call.onSets marks) := by
  obtain ⟨after, performs⟩ := bookmarks.exists_perform isLine
  exact ⟨after, performs, fun category => perform_marks (holds category) performs⟩

/-- After any calls that pass lines only, each category holds what its own calls describe. -/
theorem exists_holds {calls : List (Call α)} (areLines : ∀ call ∈ calls, call.line? ≠ some noLine) :
    ∃ bookmarks, run calls = .ok bookmarks ∧ bookmarks.Holds (described calls) := by
  induction calls using List.reverseRecOn with
  | nil => exact ⟨{}, rfl, fun _ => BookmarkIndex.marks_empty⟩
  | append_singleton calls call ih =>
      rw [List.forall_mem_append] at areLines
      obtain ⟨bookmarks, runs, holds⟩ := ih areLines.1
      have isLine := areLines.2 call (List.mem_singleton_self call)
      obtain ⟨after, performs, holdsAfter⟩ := holds.step isLine
      refine ⟨after, ?_, ?_⟩
      · rw [run, List.foldlM_append, ← run, runs]
        exact (bind_pure _).trans performs
      · rw [described_concat]
        exact holdsAfter

/-! ### Ways across categories -/

variable {way : Way} {categories : List CategoryId} {start line : α}

/-- Told are the nearest lines of the categories, those without a line ahead passed over. -/
theorem Holds.mem_told (holds : bookmarks.Holds marks) :
    line ∈ told way bookmarks categories start ↔
      ∃ category ∈ categories, way.IsNearest (marks category) start line := by
  simp only [told, List.mem_filter, List.mem_map, List.mem_filterMap, LineId.isLine,
    decide_eq_true_iff]
  constructor
  · rintro ⟨⟨index, ⟨category, member, used⟩, rfl⟩, isLine⟩
    have isIndex : bookmarks.index category = index := by
      rw [Bookmarks.index, used]
      rfl
    exact ⟨category, member, ((isIndex ▸ holds category).step_eq_iff way start isLine).1 rfl⟩
  · rintro ⟨category, member, nearest⟩
    have isLine := (holds category).ne_noLine nearest.mem
    have steps := ((holds category).step_eq_iff way start isLine).2 nearest
    refine ⟨⟨bookmarks.index category, ⟨category, member, ?_⟩, steps⟩, isLine⟩
    cases used : bookmarks.get? category with
    | some index =>
        rw [Bookmarks.index, used]
        rfl
    | none =>
        -- A category that was never used has no marked lines.
        have empty : bookmarks.index category = {} := by
          rw [Bookmarks.index, used]
          rfl
        have isMarked := ((holds category).mem line).2 nearest.mem
        rw [empty] at isMarked
        cases isMarked

/-- Across several categories a way leads where it leads through one index of all their lines. -/
theorem Holds.stepIn_eq (holds : bookmarks.Holds marks) {single : BookmarkIndex α}
    (unites : single.Marks (categories.toFinset.biUnion marks)) (way : Way) (start : α) :
    stepIn way bookmarks categories start = way.step single start := by
  have reached : ∀ category ∈ categories, ∀ other ∈ marks category, way.leads start other = true →
      ∃ nearest, way.IsNearest (marks category) start nearest := by
    intro category _ other isMarked isAhead
    have isLine : way.step (bookmarks.index category) start ≠ noLine := by
      rw [Ne, (holds category).step_eq_noLine_iff]
      intro noneAhead
      rw [noneAhead other isMarked] at isAhead
      cases isAhead
    exact ⟨_, ((holds category).step_eq_iff way start isLine).1 rfl⟩
  unfold stepIn
  cases tells : told way bookmarks categories start with
  | nil =>
      symm
      rw [unites.step_eq_noLine_iff]
      intro line isMarked
      obtain ⟨category, member, isOwn⟩ := Finset.mem_biUnion.1 isMarked
      cases leads : way.leads start line with
      | false => rfl
      | true =>
          obtain ⟨nearest, isNearest⟩ := reached category (List.mem_toFinset.1 member) line isOwn leads
          have isTold := (holds.mem_told).2 ⟨category, List.mem_toFinset.1 member, isNearest⟩
          rw [tells] at isTold
          cases isTold
  | cons line rest =>
      obtain ⟨isTold, foremost⟩ := way.foldl_first line rest
      rw [← tells] at isTold foremost
      have nearest : way.IsNearest (categories.toFinset.biUnion marks) start
          (rest.foldl way.first line) := by
        apply Way.isNearest_biUnion (holds.mem_told.1 isTold) _ reached
        intro category member other isNearest
        exact foremost other (holds.mem_told.2 ⟨category, member, isNearest⟩)
      exact ((unites.step_eq_iff way start (unites.ne_noLine nearest.mem)).2 nearest).symm

/-- The lines of several categories can be marked in one index. -/
theorem Holds.exists_single (holds : bookmarks.Holds marks) (categories : List CategoryId) :
    ∃ single : BookmarkIndex α, single.Marks (categories.toFinset.biUnion marks) := by
  let lines := categories.flatMap fun category => (bookmarks.index category).values
  have areLines : ∀ call ∈ lines.map BookmarkIndex.Call.insert, call.line? ≠ some noLine := by
    intro call isInsertion none
    obtain ⟨line, inLines, rfl⟩ := List.mem_map.1 isInsertion
    cases none
    obtain ⟨category, _, isMarked⟩ := List.mem_flatMap.1 inLines
    exact (holds category).areLines isMarked
  obtain ⟨single, _, holdsAll⟩ := BookmarkIndex.exists_marks areLines
  have same : BookmarkIndex.described (lines.map .insert) = categories.toFinset.biUnion marks := by
    ext line
    rw [BookmarkIndex.described_insert, List.mem_toFinset, List.mem_flatMap, Finset.mem_biUnion]
    simp only [(holds _).mem, List.mem_toFinset]
  exact ⟨single, same ▸ holdsAll⟩

/-- After any calls that pass lines only, each category holds what its own calls describe; the ways
across any categories, given more than once or never used, are those through one index of all their
lines; and a further call changes its own category alone. -/
theorem run_unites (calls : List (Call α)) (areLines : ∀ call ∈ calls, call.line? ≠ some noLine) :
    ∃ bookmarks, run calls = .ok bookmarks ∧ bookmarks.Holds (described calls) ∧
      (∀ categories, ∃ single : BookmarkIndex α, single.Marks (union calls categories) ∧
        ∀ start, bookmarks.nextIn categories start = single.next start ∧
          bookmarks.prevIn categories start = single.prev start) ∧
      ∀ call after, bookmarks.perform call = .ok after →
        ∀ other, other ≠ call.category → after.get? other = bookmarks.get? other := by
  obtain ⟨bookmarks, runs, holds⟩ := exists_holds areLines
  refine ⟨bookmarks, runs, holds, ?_, ?_⟩
  · intro categories
    obtain ⟨single, unites⟩ := holds.exists_single categories
    refine ⟨single, unites, fun start => ⟨?_, ?_⟩⟩
    · exact holds.stepIn_eq unites .forward start
    · exact holds.stepIn_eq unites .back start
  · exact fun _ _ performs _ apart => perform_other performs apart

/-- Minus one names no line, and lines on both sides of it are marked.  A category is given twice,
another one was emptied and a third one never used. -/
theorem run_unites_signed :
    let calls : List (Call Int32) := [.within ⟨0⟩ (.insert 5), .within ⟨3⟩ (.toggle (-7)),
      .within ⟨2⟩ (.insert 4), .within ⟨3⟩ (.insert 9), .touch ⟨1⟩, .clear ⟨2⟩,
      .within ⟨0⟩ (.insert (-7))]
    let categories : List CategoryId := [⟨3⟩, ⟨2⟩, ⟨0⟩, ⟨3⟩, ⟨8⟩, ⟨1⟩]
    (∀ call ∈ calls, call.line? ≠ some noLine) ∧
      ∃ (bookmarks : Bookmarks Int32) (single : BookmarkIndex Int32), run calls = .ok bookmarks ∧
        bookmarks.Holds (described calls) ∧ single.Marks (union calls categories) ∧
        bookmarks.prevIn categories (-1) = single.prev (-1) ∧ single.values = [-7, 5, 9] ∧
        (bookmarks.nextIn categories (-1), bookmarks.prevIn categories (-1),
          bookmarks.nextIn categories 9) = (5, -7, -1) := by
  intro calls categories
  have areLines : ∀ call ∈ calls, call.line? ≠ some noLine := by decide
  obtain ⟨bookmarks, runs, holds, unites, _⟩ := run_unites calls areLines
  obtain ⟨single, holdsAll, steps⟩ := unites categories
  refine ⟨areLines, bookmarks, single, runs, holds, holdsAll, (steps (-1)).2, ?_, ?_⟩
  · have all : union calls categories = {-7, 5, 9} := by decide
    have marked : (⟨[-7, 5, 9]⟩ : BookmarkIndex Int32).Marks (union calls categories) :=
      ⟨by decide, by decide, fun line => by simp [all]⟩
    exact congrArg BookmarkIndex.values (holdsAll.eq marked)
  · have isRun : run calls = .ok ⟨[(⟨0⟩, ⟨[-7, 5]⟩), (⟨1⟩, {}), (⟨2⟩, {}), (⟨3⟩, ⟨[-7, 9]⟩)]⟩ := rfl
    rw [isRun] at runs
    cases runs
    rfl

end Bookmarks

end LogLens
