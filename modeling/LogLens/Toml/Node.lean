/-
Module: LogLens.Toml.Node
Purpose: What a TOML document holds, and how the statements of a document add to it.  A table may be
  opened by one header only and a key set once; dotted keys and inner headers open tables on the
  way, which can still be added to.
Main exports: Node, Entries, Entries.assign, Entries.openTable, Entries.appendTable
-/

namespace LogLens.Toml

/-- A value of a document. -/
inductive Node where
  | text (s : String)
  | integer (n : Int)
  | float
  | flag (b : Bool)
  /-- A date, a time or both. -/
  | moment
  | list (items : List Node)
  /-- A table written in braces, which cannot be added to. -/
  | inlined (entries : List (String × Node))
  /-- A table that headers or dotted keys opened.  It is implicit if no header names it itself, and
  dotted if a dotted key opened it. -/
  | table (implicit dotted : Bool) (entries : List (String × Node))
  /-- The tables of a header in double brackets, in order. -/
  | tables (items : List (List (String × Node)))
deriving Repr, Inhabited

/-- The entries of a table in order. -/
abbrev Entries : Type := List (String × Node)

namespace Entries

def get? (entries : Entries) (key : String) : Option Node := entries.lookup key

/-- Set the value of a key, which keeps its place if it is there. -/
def put (entries : Entries) (key : String) (value : Node) : Entries :=
  if (entries.lookup key).isSome then
    entries.map fun (k, v) => if k = key then (k, value) else (k, v)
  else entries ++ [(key, value)]

/-- Change the last element of a list; none if there is none. -/
def changeLast? {α : Type} (change : α → Option α) : List α → Option (List α)
  | [] => none
  | [a] => (change a).map ([·])
  | a :: rest => (changeLast? change rest).map (a :: ·)

/-- Set a dotted key.  Tables on the way must be implicit, and the one that gets the value must have
been opened by a dotted key, unless the key is set in the current table itself.  A key cannot be set
twice. -/
def assign (path : List String) (key : String) (value : Node) (entries : Entries) :
    Option Entries :=
  match path with
  | [] => if (entries.lookup key).isSome then none else some (entries ++ [(key, value)])
  | k :: rest =>
    match entries.lookup k with
    | none => (assign rest key value []).map fun inner => entries.put k (.table true true inner)
    | some (.table implicit dotted inner) =>
      if !implicit || (rest.isEmpty && !dotted) then none
      else (assign rest key value inner).map fun inner =>
        entries.put k (.table implicit dotted inner)
    | some (.tables items) =>
      if rest.isEmpty then none
      else (changeLast? (assign rest key value) items).map fun items =>
        entries.put k (.tables items)
    | some _ => none

/-- Let a header act on the table at a path.  Missing tables are opened on the way, and of several
tables the last one is meant. -/
def within (act : Entries → Option Entries) : List String → Entries → Option Entries
  | [], entries => act entries
  | k :: rest, entries =>
    match entries.lookup k with
    | none => (within act rest []).map fun inner => entries.put k (.table true false inner)
    | some (.table implicit dotted inner) =>
      (within act rest inner).map fun inner => entries.put k (.table implicit dotted inner)
    | some (.tables items) =>
      (changeLast? (within act rest) items).map fun items => entries.put k (.tables items)
    | some _ => none

/-- An assignment: the path of a dotted key, its last part, and the value. -/
structure Assignment where
  path : List String
  key : String
  value : Node
deriving Repr

def assignAll (body : List Assignment) (entries : Entries) : Option Entries :=
  body.foldlM (fun entries a => entries.assign a.path a.key a.value) entries

/-- The table that a header names, with its body.  It must be new, or opened only on the way to
another table. -/
def openTable (path : List String) (key : String) (body : List Assignment) :
    Entries → Option Entries :=
  within (fun entries =>
    match entries.lookup key with
    | none => (assignAll body []).map fun inner => entries.put key (.table false false inner)
    | some (.table true false inner) =>
      (assignAll body inner).map fun inner => entries.put key (.table false false inner)
    | some _ => none) path

/-- One more table of a header in double brackets, with its body. -/
def appendTable (path : List String) (key : String) (body : List Assignment) :
    Entries → Option Entries :=
  within (fun entries =>
    match entries.lookup key with
    | none => (assignAll body []).map fun inner => entries.put key (.tables [inner])
    | some (.tables items) =>
      (assignAll body []).map fun inner => entries.put key (.tables (items ++ [inner]))
    | some _ => none) path

end Entries

end LogLens.Toml
