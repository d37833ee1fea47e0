/-
Module: LogLens.Bookmark.Store
Purpose: The marked lines of all categories, and the way from line to line across several of them.
Main exports: Bookmarks, Bookmarks.update, Bookmarks.nextIn, Bookmarks.prevIn
-/
import LogLens.Bookmark.Category
import LogLens.Bookmark.Index

namespace LogLens

open LineId

/-- The marked lines of each category that was used, in the order of the categories. -/
structure Bookmarks (α : Type) where
  indices : List (CategoryId × BookmarkIndex α) := []
deriving Repr, Inhabited

namespace Bookmarks

variable {α : Type} [LineId α] [DecidableEq α]

/-- The marked lines of a category; none if it was never used. -/
def get? (bookmarks : Bookmarks α) (category : CategoryId) : Option (BookmarkIndex α) :=
  bookmarks.indices.lookup category

/-- The marked lines of a category, which has none as long as it was never used. -/
def index (bookmarks : Bookmarks α) (category : CategoryId) : BookmarkIndex α :=
  (bookmarks.get? category).getD {}

/-- Put the marked lines of a category in its place. -/
def putSorted (category : CategoryId) (index : BookmarkIndex α) :
    List (CategoryId × BookmarkIndex α) → List (CategoryId × BookmarkIndex α)
  | [] => [(category, index)]
  | (c, x) :: rest =>
    if c.number < category.number then (c, x) :: putSorted category index rest
    else if c = category then (category, index) :: rest
    else (category, index) :: (c, x) :: rest

/-- Replace the marked lines of a category, which is used from now on. -/
def put (bookmarks : Bookmarks α) (category : CategoryId) (index : BookmarkIndex α) :
    Bookmarks α := ⟨putSorted category index bookmarks.indices⟩

/-- Let an operation act on the marked lines of a category, which is used from now on. -/
def update {β : Type} (bookmarks : Bookmarks α) (category : CategoryId)
    (act : BookmarkIndex α → Except Fault (β × BookmarkIndex α)) :
    Except Fault (β × Bookmarks α) :=
  (act (bookmarks.index category)).map fun (answer, index) =>
    (answer, bookmarks.put category index)

/-- Unmark all lines of a category.  A category never used stays so. -/
def clear (bookmarks : Bookmarks α) (category : CategoryId) : Bookmarks α :=
  if (bookmarks.get? category).isSome then bookmarks.put category {} else bookmarks

/-- Those of the given categories in which a line is marked. -/
def categoriesOf (bookmarks : Bookmarks α) (categories : List CategoryId) (line : α) :
    List CategoryId :=
  categories.filter fun c => (bookmarks.get? c).any (·.contains line)

/-- What is told on a way by each of the given categories that was used, if it tells a line. -/
def told (way : Way) (bookmarks : Bookmarks α) (categories : List CategoryId) (start : α) : List α :=
  ((categories.filterMap bookmarks.get?).map (way.step · start)).filter isLine

/-- The line that is come to first on a way among all that are marked in any of the given
categories, or the value that names no line. -/
def stepIn (way : Way) (bookmarks : Bookmarks α) (categories : List CategoryId) (start : α) : α :=
  match told way bookmarks categories start with
  | [] => noLine
  | line :: rest => rest.foldl way.first line

/-- The first line behind a line that is marked in any of the given categories, or the value that
names no line. -/
def nextIn (bookmarks : Bookmarks α) : List CategoryId → α → α := stepIn .forward bookmarks

/-- The last line before a line that is marked in any of the given categories, or the value that
names no line. -/
def prevIn (bookmarks : Bookmarks α) : List CategoryId → α → α := stepIn .back bookmarks

end Bookmarks

end LogLens
