/-
Module: LogLens.Unicode.Class
Purpose: Looking up a set of characters by the name of a property, a category or a script, as
  patterns write it.  Names are compared loosely: letter case, blanks, hyphens and underscores do
  not count, nor does an `is` in front.
Main exports: classNamed?, classOfValue?
-/
import LogLens.Unicode.CodeSet
import LogLens.Unicode.Category
import LogLens.Unicode.Script
import LogLens.Unicode.ScriptExtension
import LogLens.Unicode.Property
import LogLens.Unicode.Age
import LogLens.Unicode.Segment

namespace LogLens.Unicode

/-- Leave out what does not count in a name. -/
def significant (name : List Char) : List Char :=
  (name.filter fun c => c.toNat < 0x80 && c != ' ' && c != '_' && c != '-').map Char.toLower

/-- The form in which names are compared.  `isc` is a name of its own and not `c` behind an `is`. -/
def looseName (name : List Char) : String :=
  match name with
  | a :: b :: rest =>
    if a.toLower = 'i' ∧ b.toLower = 's' then
      let tail := significant rest
      String.ofList (if tail = ['c'] then ['i', 's', 'c'] else tail)
    else String.ofList (significant name)
  | _ => String.ofList (significant name)

def lookup? {α : Type} (table : List (List String × α)) (name : String) : Option α :=
  (table.find? (·.1.contains name)).map Prod.snd

def set? (table : List (List String × String)) (name : String) : Option CodeSet :=
  (lookup? table name).map CodeSet.ofText

/-- The characters of a category, of a group of categories, or of one of three further sets that
are named like categories. -/
def category? (name : String) : Option CodeSet :=
  match name with
  | "any" => some (CodeSet.range 0 CodeSet.lastCode)
  | "ascii" => some (CodeSet.range 0 0x7F)
  | "assigned" => (set? categories "cn").map (CodeSet.compl CodeSet.lastCode)
  | _ =>
    match lookup? categoryGroups name with
    | some members => some ((members.filterMap (set? categories)).foldl CodeSet.union CodeSet.empty)
    | none => set? categories name

def age? (version : String) : Option CodeSet :=
  let sofar := ages.takeWhile fun e => !e.1.contains version
  match ages.drop sofar.length with
  | [] => none
  | e :: _ =>
    let sets := (sofar ++ [e]).map fun e => CodeSet.ofText e.2
    some (sets.foldl CodeSet.union CodeSet.empty)

/-- The class that a single name stands for: a binary property, a category or a script, looked for
in this order.  Three short names belong to categories although properties have them too. -/
def classNamed? (name : List Char) : Option CodeSet :=
  let name := looseName name
  let property := if ["cf", "sc", "lc"].contains name then none else set? properties name
  (property.or (category? name)).or (set? scripts name)

/-- The class of the characters for which a property has the given value. -/
def classOfValue? (property value : List Char) : Option CodeSet :=
  let value := looseName value
  match looseName property with
  | "gc" | "generalcategory" => category? value
  | "sc" | "script" => set? scripts value
  | "scx" | "scriptextensions" => set? scriptExtensions value
  | "age" => age? value
  | "gcb" | "graphemeclusterbreak" => set? graphemeBreaks value
  | "wb" | "wordbreak" => set? wordBreaks value
  | "sb" | "sentencebreak" => set? sentenceBreaks value
  | _ => none

def isAlphabetic (c : Char) : Bool :=
  if c.toNat < 0x80 then c.isAlpha
  else (set? properties "alphabetic").any (·.contains c.toNat)

def isNumeric (c : Char) : Bool :=
  if c.toNat < 0x80 then c.isDigit else (category? "n").any (·.contains c.toNat)

end LogLens.Unicode
