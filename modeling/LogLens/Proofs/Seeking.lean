/-
Module: LogLens.Proofs.Seeking
Purpose: Going from mark to mark up to one that is seen.  Hidden marks are passed over by further
  steps, each of which leads closer to the end of the way; what is come to at last is the nearest mark
  among the lines that are seen, as they were listed at the last refresh.
Main exports: Way.Reaches, BookmarkIndex.Marks.seek_reaches, LogView.seenMarks, Desk.serveAll_seeks
-/
import Mathlib.Order.Bounds.Basic
import LogLens.Proofs.Bookmarking
import LogLens.Regex.Compile

namespace LogLens

open LineId

/-! ### The nearest line that is wanted -/

namespace Way

variable {α : Type} [LineId α] {way : Way} {marks : Finset α} {start line : α}

/-- What is come to on a way: the nearest line of a set, or nothing if no line lies ahead. -/
def Reaches (way : Way) (marks : Finset α) (start : α) : Option α → Prop
  | some line => way.IsNearest marks start line
  | none => ∀ line ∈ marks, way.leads start line = false

/-- The answer is a line exactly when that is the nearest mark that way. -/
theorem Reaches.eq_some_iff {found : Option α} (reaches : way.Reaches marks start found) :
    found = some line ↔ way.IsNearest marks start line := by
  constructor
  · rintro rfl
    exact reaches
  · intro nearest
    cases found with
    | some other => exact congrArg some (nearest.unique reaches)
    | none =>
        have notAhead := reaches line nearest.mem
        rw [nearest.ahead] at notAhead
        cases notAhead

/-- There is no answer exactly when no mark lies that way. -/
theorem Reaches.eq_none_iff {found : Option α} (reaches : way.Reaches marks start found) :
    found = none ↔ ∀ line ∈ marks, way.leads start line = false := by
  constructor
  · rintro rfl
    exact reaches
  · intro noneAhead
    cases found with
    | none => rfl
    | some line =>
        have ahead := reaches.ahead
        rw [noneAhead line reaches.mem] at ahead
        cases ahead

end Way

namespace BookmarkIndex

variable {α : Type} [LineId α] {index : BookmarkIndex α} {marks : Finset α}

/-- A line that is not wanted may be passed over: what lies ahead of it is what lies ahead of the line
before. -/
theorem reaches_of_passed {way : Way} {start line : α} {wanted : α → Bool} {found : Option α}
    (nearest : way.IsNearest marks start line) (notWanted : wanted line = false)
    (reaches : way.Reaches (marks.filter fun x => wanted x = true) line found) :
    way.Reaches (marks.filter fun x => wanted x = true) start found := by
  -- Whatever is wanted and ahead of the start is marked, so it is not nearer than the line.
  have ahead_iff : ∀ other ∈ marks.filter fun x => wanted x = true,
      way.leads start other = way.leads line other := by
    intro other isWanted
    obtain ⟨isMarked, isWanted⟩ := Finset.mem_filter.1 isWanted
    have apart : line ≠ other := by
      rintro rfl
      rw [notWanted] at isWanted
      cases isWanted
    cases leads : way.leads line other with
    | true => exact Way.leads_trans nearest.ahead leads
    | false =>
        cases ahead : way.leads start other with
        | false => rfl
        | true =>
            exact absurd (Way.eq_of_not_leads leads (nearest.nearest other isMarked ahead)) apart
  cases found with
  | none => exact fun other isWanted => (ahead_iff other isWanted).trans (reaches other isWanted)
  | some next =>
      refine ⟨reaches.mem, (ahead_iff next reaches.mem).trans reaches.ahead, ?_⟩
      intro other isWanted ahead
      exact reaches.nearest other isWanted ((ahead_iff other isWanted).symm.trans ahead)

/-- Step by step the nearest marked line is come to that is wanted, if there is one ahead. -/
theorem Marks.seek_reaches [DecidableEq α] (holds : index.Marks marks) (way : Way)
    (wanted : α → Bool) (start : α) :
    way.Reaches (marks.filter fun line => wanted line = true) start
      (way.seek index wanted start) := by
  fun_induction Way.seek way index wanted start with
  | case1 start line isLine isWanted =>
      have nearest := (holds.step_eq_iff way start (of_decide_eq_true isLine)).1 rfl
      refine ⟨Finset.mem_filter.2 ⟨nearest.mem, isWanted⟩, nearest.ahead, ?_⟩
      intro other member
      exact nearest.nearest other (Finset.mem_filter.1 member).1
  | case2 start line isLine notWanted reaches =>
      have nearest := (holds.step_eq_iff way start (of_decide_eq_true isLine)).1 rfl
      exact reaches_of_passed nearest (Bool.eq_false_iff.2 notWanted) reaches
  | case3 start line noLine =>
      have ends : way.step index start = LineId.noLine :=
        of_not_not fun isLine => noLine (decide_eq_true isLine)
      intro other member
      exact (holds.step_eq_noLine_iff way start).1 ends other (Finset.mem_filter.1 member).1

end BookmarkIndex

/-! ### Numbers of lines -/

namespace Way

variable {marks : Finset Nat} {start line : Nat}

theorem leads_forward_iff : forward.leads start line = true ↔ start < line :=
  isBefore_iff.trans Int.ofNat_lt

theorem leads_back_iff : back.leads start line = true ↔ line < start :=
  isBefore_iff.trans Int.ofNat_lt

theorem not_leads_forward_iff : forward.leads start line = false ↔ line ≤ start := by
  rw [← Bool.not_eq_true, leads_forward_iff, Nat.not_lt]

theorem not_leads_back_iff : back.leads start line = false ↔ start ≤ line := by
  rw [← Bool.not_eq_true, leads_back_iff, Nat.not_lt]

/-- The nearest mark forward is the least one behind the start. -/
theorem isNearest_iff_isLeast :
    forward.IsNearest marks start line ↔ IsLeast {x | x ∈ marks ∧ start < x} line := by
  constructor
  · rintro ⟨isMarked, ahead, nearest⟩
    refine ⟨⟨isMarked, leads_forward_iff.1 ahead⟩, ?_⟩
    rintro other ⟨isMarked', ahead'⟩
    exact not_leads_forward_iff.1 (nearest other isMarked' (leads_forward_iff.2 ahead'))
  · rintro ⟨⟨isMarked, ahead⟩, least⟩
    refine ⟨isMarked, leads_forward_iff.2 ahead, ?_⟩
    intro other isMarked' ahead'
    exact not_leads_forward_iff.2 (least ⟨isMarked', leads_forward_iff.1 ahead'⟩)

/-- The nearest mark back is the greatest one before the start. -/
theorem isNearest_iff_isGreatest :
    back.IsNearest marks start line ↔ IsGreatest {x | x ∈ marks ∧ x < start} line := by
  constructor
  · rintro ⟨isMarked, ahead, nearest⟩
    refine ⟨⟨isMarked, leads_back_iff.1 ahead⟩, ?_⟩
    rintro other ⟨isMarked', ahead'⟩
    exact not_leads_back_iff.1 (nearest other isMarked' (leads_back_iff.2 ahead'))
  · rintro ⟨⟨isMarked, ahead⟩, greatest⟩
    refine ⟨isMarked, leads_back_iff.2 ahead, ?_⟩
    intro other isMarked' ahead'
    exact not_leads_back_iff.2 (greatest ⟨isMarked', leads_back_iff.1 ahead'⟩)

end Way

/-! ### Marks that are seen -/

namespace LogView

/-- The lines that are marked in a category and stand among those that are seen. -/
def seenMarks (view : LogView) (category : CategoryId) : Finset Nat :=
  (view.bookmarks.index category).values.toFinset.filter (· ∈ view.visibleLines)

variable {view : LogView} {category : CategoryId}

/-- In a category that was never used nothing is come to. -/
theorem seekMark?_eq (way : Way) (view : LogView) (category : CategoryId) (start : Nat) :
    seekMark? way view category start =
      way.seek (view.bookmarks.index category) view.engine.sees start := by
  unfold seekMark? Bookmarks.index
  cases view.bookmarks.get? category with
  | some index => rfl
  | none =>
      have reaches := BookmarkIndex.marks_empty.seek_reaches way view.engine.sees start
      exact (reaches.eq_none_iff.2 (by simp)).symm

/-- Right after a refresh a line is seen by the masks if and only if it is listed as one. -/
theorem Settled.sees_iff (settled : view.Settled) {line : Nat} (isThere : line < view.lineCount) :
    view.engine.sees line = true ↔ line ∈ view.visibleLines := by
  rw [visibleLines, settled.shown, length_source, Engine.rebuild, List.mem_filter, List.mem_range]
  exact (and_iff_right isThere).symm

/-- The way through the marks of a category comes to the nearest one that is seen. -/
theorem Settled.seekMark?_reaches (settled : view.Settled) (inOrder : view.bookmarks.InOrder)
    (fits : view.lineCount < UInt64.size)
    (areLines : ∀ line ∈ (view.bookmarks.index category).values, line < view.lineCount)
    (way : Way) (start : Nat) :
    way.Reaches (view.seenMarks category) start (seekMark? way view category start) := by
  let marks := (view.bookmarks.index category).values.toFinset
  have holds : (view.bookmarks.index category).Marks marks := by
    constructor
    case ascending => exact inOrder category
    case areLines =>
      -- The value that names no line is the greatest number of 64 bits.
      intro isMarked
      have isThere : UInt64.size - 1 < view.lineCount := areLines _ isMarked
      omega
    case mem => exact fun line => List.mem_toFinset.symm
  have seen : view.seenMarks category =
      marks.filter fun line => view.engine.sees line = true := by
    apply Finset.filter_congr
    intro line isMarked
    exact (settled.sees_iff (areLines line (List.mem_toFinset.1 isMarked))).symm
  rw [seen, seekMark?_eq]
  exact holds.seek_reaches way view.engine.sees start

end LogView

namespace Desk

open LogView

theorem settled_serveAll [PatternCompiler] {desk after : Desk} (settled : desk.view.Settled)
    {requests : List Request} (noWork : ∀ request ∈ requests, ∀ action, request ≠ .work action)
    (serves : desk.serveAll requests = .ok after) : after.view.Settled := by
  let Good (desk : Desk) : Prop := desk.view.Settled
  have good : Good desk := settled
  have step : ∀ request ∈ requests, ∀ desk next : Desk, desk.view.InStep →
      desk.Served request next → Good desk → Good next := by
    intro request member desk next _ served settled
    obtain ⟨_, _, frame⟩ := served.frame (noWork request member)
    change next.view.Settled
    rw [frame]
    exact settled
  exact serveAll_keeps step settled.inStep good serves

/-- Whatever a view was asked, as long as there was no work on it behind a refresh, the ways through
the marks of a category end.  They come to the least marked line behind the start that is seen, and to
the greatest one before it, and to none only if there is none.  The lines are numbered in 64 bits, and
no mark is on a line that is not there. -/
theorem serveAll_seeks [PatternCompiler] {name : String} {messageStart : Option String}
    {caseSensitive : Bool} {view : LogView}
    (isNew : LogView.new name messageStart caseSensitive = .ok view)
    {before behind : List Request} {desk refreshed last : Desk}
    (serves : (Desk.mk view []).serveAll before = .ok desk) {action : Action}
    (refreshes : desk.perform action = .ok (true, refreshed))
    (servesMore : refreshed.serveAll behind = .ok last)
    (noWork : ∀ request ∈ behind, ∀ action, request ≠ .work action)
    (fits : last.view.lineCount < UInt64.size) {category : CategoryId}
    (areLines : ∀ line ∈ (last.view.bookmarks.index category).values, line < last.view.lineCount)
    (start : Nat) :
    let marks := last.view.seenMarks category
    (∀ line, last.view.nextMark? category start = some line ↔
        IsLeast {x | x ∈ marks ∧ start < x} line) ∧
      (∀ line, last.view.prevMark? category start = some line ↔
        IsGreatest {x | x ∈ marks ∧ x < start} line) ∧
      (last.view.nextMark? category start = none ↔ ∀ line ∈ marks, line ≤ start) ∧
      (last.view.prevMark? category start = none ↔ ∀ line ∈ marks, start ≤ line) := by
  have starting : (Desk.mk view []).view.InStep := inStep_new isNew
  have inStep := inStep_serveAll starting serves
  have unmarked : view.bookmarks.InOrder := by
    rw [(marks_new isNew).1]
    exact fun _ => List.Pairwise.nil
  have inOrder : refreshed.view.bookmarks.InOrder := by
    rw [(marks_perform inStep refreshes).1]
    exact inOrder_serveAll starting unmarked serves
  have settled : refreshed.view.Settled := by
    obtain ⟨after, performs, kept, _⟩ := perform_kept inStep action
    rw [refreshes] at performs
    obtain ⟨isRefreshed, rfl⟩ := Prod.ext_iff.1 (Except.ok.inj performs)
    exact kept.settled isRefreshed.symm
  have inOrderLast := inOrder_serveAll settled.inStep inOrder servesMore
  have settledLast := settled_serveAll settled noWork servesMore
  have next := settledLast.seekMark?_reaches inOrderLast fits areLines .forward start
  have prev := settledLast.seekMark?_reaches inOrderLast fits areLines .back start
  have nextEnds := next.eq_none_iff
  have prevEnds := prev.eq_none_iff
  simp only [Way.not_leads_forward_iff] at nextEnds
  simp only [Way.not_leads_back_iff] at prevEnds
  refine ⟨fun line => ?_, fun line => ?_, nextEnds, prevEnds⟩
  · exact next.eq_some_iff.trans Way.isNearest_iff_isLeast
  · exact prev.eq_some_iff.trans Way.isNearest_iff_isGreatest

/-- A mark on a hidden line is passed over on the way to one behind it, which was set later. -/
theorem serveAll_seeks_hidden :
    let before : List Request :=
      [.work (.appendText "E a\n b\nE c\nE b"), .toggleMark 3, .toggleMark 2, .toggleMark 0]
    ∃ desk refreshed last, (Desk.mk .sample []).serveAll before = .ok desk ∧
      desk.perform (.apply (.add .hide "c")) = .ok (true, refreshed) ∧
      refreshed.serveAll [.toggleMark 0] = .ok last ∧
      (last.view.bookmarks.index userCategory).values = [2, 3] ∧
      IsLeast {x | x ∈ last.view.seenMarks userCategory ∧ 0 < x} 3 := by
  intro before
  let outcome := ((Desk.mk .sample []).serveAll before).bind fun desk =>
    (desk.perform (.apply (.add .hide "c"))).bind fun (isRefreshed, refreshed) =>
      (refreshed.serveAll [.toggleMark 0]).map fun last =>
        (isRefreshed, last.view.lineCount, (last.view.bookmarks.index userCategory).values,
          last.view.nextMark? userCategory 0)
  have comesTo : outcome.toOption = some (true, 4, [2, 3], some 3) := by decide +kernel
  obtain ⟨desk, serves, performs⟩ := ok_of_bind (ok_of_toOption comesTo)
  obtain ⟨⟨isRefreshed, refreshed⟩, refreshes, marks⟩ := ok_of_bind performs
  obtain ⟨last, servesMore, found⟩ := ok_of_map marks
  obtain ⟨rfl, lines, marks, next⟩ : isRefreshed = true ∧ last.view.lineCount = 4 ∧
      (last.view.bookmarks.index userCategory).values = [2, 3] ∧
      last.view.nextMark? userCategory 0 = some 3 := by
    simpa using found
  refine ⟨desk, refreshed, last, serves, refreshes, servesMore, marks, ?_⟩
  have areLines : ∀ line ∈ (last.view.bookmarks.index userCategory).values,
      line < last.view.lineCount := by
    rw [marks, lines]
    decide
  have fits : last.view.lineCount < UInt64.size := by
    rw [lines]
    decide
  obtain ⟨least, _⟩ := serveAll_seeks new_sample serves refreshes servesMore
    (by simp) fits areLines 0
  exact (least 3).1 next

end Desk

end LogLens
