/-
Module: LogLens.Proofs.Searching
Purpose: Searching a view and reading the marks back by name.  A search puts the lines that are seen and
  match in the place of earlier hits and changes nothing else.  The categories keep their names, so that
  a line bears the name of a category if and only if it is marked in it.
Main exports: CategoryRegistry.WellFormed, LogView.mem_marksFor_iff, Desk.Served.marks,
  Desk.serveAll_searched
-/
import LogLens.Proofs.Bookmarking
import LogLens.Regex.Compile

namespace LogLens

/-! ### Names of categories -/

namespace CategoryRegistry

/-- The names of a view's categories: those that every view has stand in front, and no name stands
twice. -/
structure WellFormed (registry : CategoryRegistry) : Prop where
  defaults : withDefaults.names <+: registry.names
  distinct : registry.names.Nodup

theorem wellFormed_withDefaults : withDefaults.WellFormed where
  defaults := List.prefix_refl _
  distinct := by decide

variable {registry : CategoryRegistry}

theorem not_mem_of_find? {name : String} (unknown : registry.find? name = none) :
    name ∉ registry.names := by
  intro member
  have none := List.findIdx?_eq_none_iff.1 (Option.map_eq_none_iff.1 unknown) name member
  have same : sameName name name = true := beq_self_eq_true _
  rw [same] at none
  cases none

theorem WellFormed.register (wellFormed : registry.WellFormed) (name : String) :
    (registry.register name).2.WellFormed := by
  unfold CategoryRegistry.register
  cases unknown : registry.find? name with
  | some id => exact wellFormed
  | none =>
      constructor
      case defaults => exact wellFormed.defaults.trans (List.prefix_append _ _)
      case distinct =>
        have distinct := wellFormed.distinct.concat (not_mem_of_find? unknown)
        rw [List.concat_eq_append] at distinct
        exact distinct

/-- A category keeps its name where names are only added behind it. -/
theorem name?_of_prefix {later : CategoryRegistry} (added : registry.names <+: later.names)
    {category : CategoryId} {name : String} (named : registry.name? category = some name) :
    later.name? category = some name := by
  obtain ⟨rest, whole⟩ := added
  unfold name? at named ⊢
  rw [← whole]
  exact List.getElem?_append_left (List.getElem?_eq_some_iff.1 named).1 |>.trans named

/-- The categories that every view has keep their names. -/
theorem WellFormed.name?_eq (wellFormed : registry.WellFormed) {category : CategoryId} {name : String}
    (named : withDefaults.name? category = some name) : registry.name? category = some name :=
  name?_of_prefix wellFormed.defaults named

theorem name?_user : withDefaults.name? LogView.userCategory = some "user" := by decide

theorem name?_search : withDefaults.name? LogView.searchCategory = some "search" := by decide

/-- Different categories have different names. -/
theorem eq_of_name? (distinct : registry.names.Nodup) {category other : CategoryId} {name : String}
    (named : registry.name? category = some name) (named' : registry.name? other = some name) :
    other = category := by
  have isThere := (List.getElem?_eq_some_iff.1 named').1
  have same := (List.getElem?_inj isThere distinct).1 (named'.trans named.symm)
  exact congrArg CategoryId.mk same

theorem mem_ids {category : CategoryId} {name : String} (named : registry.name? category = some name) :
    category ∈ registry.ids := by
  refine List.mem_map.2 ⟨category.number, List.mem_range.2 ?_, rfl⟩
  exact (List.getElem?_eq_some_iff.1 named).1

end CategoryRegistry

namespace LogView

variable {view : LogView} {category : CategoryId}

theorem any_contains_iff {line : Nat} :
    (view.bookmarks.get? category).any (·.contains line) = true ↔
      line ∈ (view.bookmarks.index category).values := by
  unfold Bookmarks.index
  cases view.bookmarks.get? category with
  | none => simp
  | some index => exact BookmarkIndex.contains_iff

/-- Where no name stands twice, a line bears the name of a category if it is marked in it. -/
theorem mem_marksFor_of_distinct (distinct : view.categories.names.Nodup) {name : String}
    (named : view.categories.name? category = some name) (line : Nat) :
    name ∈ view.marksFor line ↔ line ∈ (view.bookmarks.index category).values := by
  simp only [marksFor, Bookmarks.categoriesOf, List.mem_filterMap, List.mem_filter, any_contains_iff]
  constructor
  · rintro ⟨other, ⟨_, isMarked⟩, named'⟩
    rw [CategoryRegistry.eq_of_name? distinct named named'] at isMarked
    exact isMarked
  · exact fun isMarked => ⟨category, ⟨CategoryRegistry.mem_ids named, isMarked⟩, named⟩

/-- A line bears the name of a category if it is marked in it. -/
theorem mem_marksFor_iff (wellFormed : view.categories.WellFormed) {name : String}
    (named : view.categories.name? category = some name) (line : Nat) :
    name ∈ view.marksFor line ↔ line ∈ (view.bookmarks.index category).values :=
  mem_marksFor_of_distinct wellFormed.distinct named line

/-- What a search for a pattern comes to. -/
structure Found (view : LogView) (pattern : Pattern) (after : LogView) : Prop where
  ascending : after.searchHits.values.Pairwise (· < ·)
  /-- The hits are the lines that are seen and whose text matches. -/
  mem : ∀ line, line ∈ after.searchHits.values ↔ line ∈ view.visibleLines ∧
    ∃ text, view.buffer.text line = .ok text ∧ pattern.isMatch (Utf8.encode text) = true
  /-- The marks of other categories are left as they are. -/
  others : ∀ category, category ≠ searchCategory →
    after.bookmarks.get? category = view.bookmarks.get? category
  /-- Nothing else than marks is changed. -/
  rest : { after with bookmarks := view.bookmarks } = view

/-- The matching lines are the visible ones on whose text the pattern matches. -/
theorem mem_matchingLines {pattern : Pattern} {line : Nat} :
    line ∈ view.matchingLines pattern ↔ line ∈ view.visibleLines ∧
      ∃ text, view.buffer.text line = .ok text ∧ pattern.isMatch (Utf8.encode text) = true := by
  rw [matchingLines, List.mem_filter]
  apply and_congr_right
  intro _
  unfold LineBuffer.text
  cases view.buffer.lines[line]? with
  | none => simp
  | some stored => simp [Line.raw]

/-- Writing the matching lines as hits is finding the pattern. -/
theorem found_withHits (ascending : view.visibleLines.Pairwise (· < ·)) (pattern : Pattern) :
    view.Found pattern (view.withHits ⟨view.matchingLines pattern⟩) where
  ascending := by
    rw [searchHits_withHits]
    exact ascending.sublist List.filter_sublist
  mem line := by
    rw [searchHits_withHits]
    exact mem_matchingLines
  others category apart := Bookmarks.get?_put_of_ne _ _ apart
  rest := rfl

end LogView

/-! ### Requests -/

namespace Desk

open LogView (userCategory searchCategory searchInPlace)

variable {desk after : Desk}

section

variable [PatternCompiler]

theorem Served.wellFormed {request : Request} (served : desk.Served request after)
    (wellFormed : desk.view.categories.WellFormed) : after.view.categories.WellFormed := by
  cases served with
  | works _ categories =>
      rw [categories]
      exact wellFormed
  | calls _ _ => exact wellFormed
  | searches _ => exact wellFormed
  | registers => exact wellFormed.register _
  | leaves _ same =>
      rw [same]
      exact wellFormed

/-- What a request does to the set of lines that are marked in a category other than that of the
search hits. -/
def Request.onMarks (category : CategoryId) (marks : Finset Nat) (request : Request) : Finset Nat :=
  (request.call?.bind (Bookmarks.Call.on? category)).elim marks (BookmarkIndex.Call.onSet marks)

/-- A request changes a category's marks as it says, and leaves the other categories. -/
theorem Served.marks {request : Request} (served : desk.Served request after) {category : CategoryId}
    (apart : category ≠ searchCategory) {marks : Finset Nat}
    (holds : (desk.view.bookmarks.index category).Marks marks) :
    (after.view.bookmarks.index category).Marks (request.onMarks category marks) := by
  cases served with
  | works same _ =>
      rw [same]
      exact holds
  | calls isCall performs =>
      rw [Request.onMarks, isCall]
      exact Bookmarks.perform_marks holds performs
  | searches _ =>
      change ((desk.view.bookmarks.put _ _).index category).Marks _
      rw [Bookmarks.index_put_of_ne _ _ apart]
      exact holds
  | registers => exact holds
  | leaves noCall same =>
      rw [Request.onMarks, noCall, same]
      exact holds

theorem wellFormed_serveAll {requests : List Request} (inStep : desk.view.InStep)
    (wellFormed : desk.view.categories.WellFormed) (serves : desk.serveAll requests = .ok after) :
    after.view.categories.WellFormed := by
  let Good (desk : Desk) : Prop := desk.view.categories.WellFormed
  have good : Good desk := wellFormed
  exact serveAll_keeps (fun _ _ _ _ _ served => served.wellFormed) inStep good serves

/-- In a category other than that of the search hits those lines are marked that the calls on it
describe. -/
theorem marks_serveAll {requests : List Request} (inStep : desk.view.InStep) {category : CategoryId}
    (apart : category ≠ searchCategory) (unmarked : desk.view.bookmarks.index category = {})
    (serves : desk.serveAll requests = .ok after) :
    (after.view.bookmarks.index category).Marks
      (Bookmarks.described (requests.filterMap Request.call?) category) := by
  let Tracks (desk : Desk) (marks : Finset Nat) : Prop :=
    desk.view.InStep ∧ (desk.view.bookmarks.index category).Marks marks
  have tracks : Tracks desk ∅ := by
    refine ⟨inStep, ?_⟩
    rw [unmarked]
    exact BookmarkIndex.marks_empty
  have tracked : Tracks after (requests.foldl (Request.onMarks category) ∅) := by
    refine foldlM_follows (Request.onMarks category) ?_ tracks serves
    rintro desk marks request next ⟨inStep, holds⟩ serves
    exact ⟨inStep_serve inStep serves, (serve_served inStep serves).marks apart holds⟩
  have described : Bookmarks.described (requests.filterMap Request.call?) category =
      requests.foldl (Request.onMarks category) ∅ := by
    rw [Bookmarks.described, Bookmarks.callsOn, BookmarkIndex.described, List.filterMap_filterMap,
      List.foldl_filterMap]
    congr 1
    funext marks request
    rw [Request.onMarks]
    cases request.call?.bind (Bookmarks.Call.on? category) <;> rfl
  rw [described]
  exact tracked.2

/-- Whatever a view was asked before, a search in place comes to an end as it is said to.  The hits are
the lines that are seen and match, whatever the hits were before; their number is told, and nothing else
is changed.  As long as no request is on the hits, a line bears their name if it is one of them.  If
nothing was done to the user's marks but to toggle them, a line bears their name if its mark was toggled
an odd number of times. -/
theorem serveAll_searched {name : String} {messageStart : Option String} {caseSensitive : Bool}
    {view : LogView} (isNew : LogView.new name messageStart caseSensitive = .ok view)
    {requests : List Request} {desk : Desk}
    (serves : (Desk.mk view []).serveAll requests = .ok desk) {text : String} {pattern : Pattern}
    (compiles : Pattern.compile text desk.view.caseSensitive = .ok pattern) :
    ∃ found, (searchInPlace text).exec desk.view = .ok (.ok found.searchHits.size, found) ∧
      desk.view.search text = .ok (found.searchHits.size, found) ∧ desk.view.Found pattern found ∧
      ∀ more last, ({ desk with view := found } : Desk).serveAll more = .ok last →
        ((∀ request ∈ more, request.category? ≠ some searchCategory) →
          ∀ line, "search" ∈ last.view.marksFor line ↔ line ∈ found.searchHits.values) ∧
        ∀ toggled : List Nat, Bookmarks.callsOn userCategory
            ((requests ++ more).filterMap Request.call?) = toggled.map .toggle →
          ∀ line, "user" ∈ last.view.marksFor line ↔ Odd (toggled.count line) := by
  have starting : (Desk.mk view []).view.InStep := LogView.inStep_new isNew
  have inStep := inStep_serveAll starting serves
  let found := desk.view.withHits ⟨desk.view.matchingLines pattern⟩
  have searches : desk.view.search text = .ok (found.searchHits.size, found) := by
    rw [LogView.search_ok inStep.ascending compiles, LogView.searchHits_withHits]
    rfl
  have carries := LogView.searchInPlace_carriesOut inStep.orderly.seen text
  unfold InPlace.CarriesOut at carries
  rw [searches] at carries
  refine ⟨found, carries, searches, LogView.found_withHits inStep.ascending pattern, ?_⟩
  intro more last servesMore
  -- The search is a request among the others, and it is no call on the user's marks.
  have servesAll : (Desk.mk view []).serveAll (requests ++ .search text :: more) = .ok last := by
    rw [serveAll, List.foldlM_append, ← serveAll, serves]
    change Except.bind (desk.serve (.search text)) _ = _
    rw [serve_of_check rfl, handle, searches]
    exact servesMore
  have wellFormed : last.view.categories.WellFormed := by
    apply wellFormed_serveAll starting _ servesAll
    rw [(LogView.marks_new isNew).2]
    exact CategoryRegistry.wellFormed_withDefaults
  constructor
  · intro spared line
    have named := wellFormed.name?_eq CategoryRegistry.name?_search
    have inStepFound : ({ desk with view := found } : Desk).view.InStep := inStep
    rw [LogView.mem_marksFor_iff wellFormed named, Bookmarks.index,
      get?_serveAll inStepFound spared servesMore]
    rfl
  · intro toggled onlyToggles line
    have unmarked : (Desk.mk view []).view.bookmarks.index userCategory = {} := by
      rw [(LogView.marks_new isNew).1]
      rfl
    have calls : (requests ++ .search text :: more).filterMap Request.call? =
        (requests ++ more).filterMap Request.call? := by
      rw [List.filterMap_append, List.filterMap_append]
      rfl
    have marks := marks_serveAll starting (by decide) unmarked servesAll
    rw [calls, Bookmarks.described, onlyToggles] at marks
    have named := wellFormed.name?_eq CategoryRegistry.name?_user
    rw [LogView.mem_marksFor_iff wellFormed named, marks.mem]
    exact BookmarkIndex.mem_described_toggle toggled line

end

/-- After an earlier search and a filter that hides one of its hits, other lines are found.  Later the
user's mark on one of them is taken away, and another one is hidden. -/
theorem serveAll_searched_again :
    let requests : List Request := [.work (.appendText "E a\n b\nE c\nE b"), .toggleMark 3,
      .search "E", .work (.apply (.add .hide "c")), .register "Search", .toggleMark 0]
    let more : List Request := [.toggleMark 3, .mark ⟨4⟩ 1, .work (.apply (.add .hide "a"))]
    ∃ desk pattern found last, (Desk.mk .sample []).serveAll requests = .ok desk ∧
      Pattern.compile "b" desk.view.caseSensitive = .ok pattern ∧ desk.view.Found pattern found ∧
      found.searchHits.values = [1, 3] ∧ ({ desk with view := found } : Desk).serveAll more = .ok last ∧
      "search" ∈ last.view.marksFor 1 ∧ "user" ∈ last.view.marksFor 0 ∧
      "user" ∉ last.view.marksFor 3 := by
  intro requests more
  have comesTo : ((Desk.mk .sample []).serveAll requests).toOption.map (fun desk =>
      (desk.view.caseSensitive, (desk.view.search "b").toOption.bind fun answer =>
        (({ desk with view := answer.2 } : Desk).serveAll more).toOption.map fun _ =>
          answer.2.searchHits.values)) = some (false, some [1, 3]) := by
    decide +kernel
  obtain ⟨desk, isServed, seen⟩ := Option.map_eq_some_iff.1 comesTo
  obtain ⟨caseless, finds⟩ := Prod.ext_iff.1 seen
  dsimp only at caseless finds
  have serves := ok_of_toOption isServed
  obtain ⟨pattern, compiles⟩ : ∃ pattern, Pattern.compile "b" false = .ok pattern := ⟨_, rfl⟩
  rw [← caseless] at compiles
  obtain ⟨found, _, searches, isFound, reads⟩ :=
    serveAll_searched LogView.new_sample serves compiles
  rw [searches] at finds
  obtain ⟨last, isServedMore, hits⟩ := Option.map_eq_some_iff.1 finds
  have servesMore := ok_of_toOption isServedMore
  obtain ⟨hit, user⟩ := reads more last servesMore
  have spared : ∀ request ∈ more, request.category? ≠ some searchCategory := by
    simp only [more]
    decide
  refine ⟨desk, pattern, found, last, serves, compiles, isFound, hits, servesMore, ?_, ?_, ?_⟩
  · rw [hit spared, hits]
    decide
  · rw [user [3, 0, 3] rfl]
    decide
  · rw [user [3, 0, 3] rfl]
    decide

end Desk

end LogLens
