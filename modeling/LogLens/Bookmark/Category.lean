/-
Module: LogLens.Bookmark.Category
Purpose: The categories of bookmarks, numbered in the order in which their names are registered.
Main exports: CategoryId, CategoryRegistry
-/

namespace LogLens

/-- A category of bookmarks. -/
structure CategoryId where
  number : Nat
deriving Repr, DecidableEq, Inhabited

/-- The names of the categories, the first of which has number 0. -/
structure CategoryRegistry where
  names : List String := []
deriving Repr, DecidableEq, Inhabited

namespace CategoryRegistry

/-- The category of marks that the user sets. -/
def user : String := "user"

/-- The category of search hits. -/
def search : String := "search"

/-- Whether two names differ at most in the case of ASCII letters. -/
def sameName (a b : String) : Bool := a.toList.map Char.toLower == b.toList.map Char.toLower

def find? (registry : CategoryRegistry) (name : String) : Option CategoryId :=
  (registry.names.findIdx? (sameName · name)).map CategoryId.mk

/-- Register a name, unless there is one that differs in letter case only. -/
def register (registry : CategoryRegistry) (name : String) : CategoryId × CategoryRegistry :=
  match registry.find? name with
  | some id => (id, registry)
  | none => (⟨registry.names.length⟩, ⟨registry.names ++ [name]⟩)

/-- The categories that every view has. -/
def withDefaults : CategoryRegistry :=
  [user, search, "query", "meta"].foldl (fun registry name => (registry.register name).2) {}

def name? (registry : CategoryRegistry) (id : CategoryId) : Option String :=
  registry.names[id.number]?

def ids (registry : CategoryRegistry) : List CategoryId :=
  (List.range registry.names.length).map CategoryId.mk

end CategoryRegistry

end LogLens
