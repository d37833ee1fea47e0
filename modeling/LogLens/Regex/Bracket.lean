/-
Module: LogLens.Regex.Bracket
Purpose: Reading a class in brackets: characters, ranges, named classes, nested classes and the set
  operations `&&`, `--` and `~~`, which bind less than juxtaposition and group to the left.
Main exports: Part, readBracket
-/
import LogLens.Regex.Escape

namespace LogLens.Regex

open Text

/-- A part of a class: its members and how deeply it is nested. -/
structure Part where
  set : CodeSet
  depth : Nat
deriving Repr, Inhabited

/-- The operations on sets that a class may use. -/
inductive SetOp where
  | inter
  | diff
  | symmDiff
deriving Repr, DecidableEq

/-- What is known of a class while its text is being read. -/
structure Level where
  negated : Bool
  /-- The parts read since the last operation, last first. -/
  parts : List Part
  /-- The last operation and what stands in front of it. -/
  pending : Option (SetOp × Part)
deriving Repr

/-- The ASCII classes that are written as `[:name:]`. -/
def asciiClass? (name : List Char) : Option CodeSet :=
  match String.ofList name with
  | "alnum" => some (.ofText "30-39 41-5A 61-7A")
  | "alpha" => some (.ofText "41-5A 61-7A")
  | "ascii" => some (.ofText "0-7F")
  | "blank" => some (.ofText "9 20")
  | "cntrl" => some (.ofText "0-1F 7F")
  | "digit" => some (.ofText "30-39")
  | "graph" => some (.ofText "21-7E")
  | "lower" => some (.ofText "61-7A")
  | "print" => some (.ofText "20-7E")
  | "punct" => some (.ofText "21-2F 3A-40 5B-60 7B-7E")
  | "space" => some (.ofText "9-D 20")
  | "upper" => some (.ofText "41-5A")
  | "word" => some (.ofText "30-39 41-5A 5F 61-7A")
  | "xdigit" => some (.ofText "30-39 41-46 61-66")
  | _ => none

/-- Read the rest of a named ASCII class behind its opening bracket.  Where this fails the bracket
opens a nested class. -/
def readAsciiClass? (flags : Flags) : List Char → Option (Part × List Char)
  | ':' :: text =>
    let (negated, text) := match text with
      | '^' :: rest => (true, rest)
      | _ => (false, text)
    match text.dropWhile (· != ':') with
    | ':' :: ']' :: rest =>
      (asciiClass? (text.takeWhile (· != ':'))).map fun s => (⟨flags.close negated s, 0⟩, rest)
    | _ => none
  | _ => none

def joinParts : List Part → Part
  | [] => ⟨.empty, 0⟩
  | [p] => p
  | p :: ps =>
    ⟨ps.foldl (fun s q => s.union q.set) p.set, (ps.foldl (fun d q => max d q.depth) p.depth) + 1⟩

/-- Everything read in a class so far as one part. -/
def Level.total (flags : Flags) (level : Level) : Part :=
  let right := joinParts level.parts
  match level.pending with
  | none => right
  | some (op, left) =>
    let a := flags.fold left.set
    let b := flags.fold right.set
    let set := match op with
      | .inter => CodeSet.inter flags.limit a b
      | .diff => CodeSet.diff flags.limit a b
      | .symmDiff => CodeSet.symmDiff flags.limit a b
    ⟨set, max left.depth right.depth + 1⟩

/-- Start a new operand. -/
def Level.operate (flags : Flags) (op : SetOp) (level : Level) : Level :=
  { level with parts := [], pending := some (op, level.total flags) }

def Level.add (level : Level) (part : Part) : Level := { level with parts := part :: level.parts }

def Level.close (flags : Flags) (level : Level) : Part :=
  let part := level.total flags
  ⟨flags.close level.negated part.set, part.depth + 1⟩

/-- Take hyphens at the start of a class for themselves.  Text must follow. -/
def readHyphens (flags : Flags) : Nat → List Char → List Part → Option (List Part × List Char)
  | 0, _, _ => none
  | fuel + 1, text, parts =>
    match text with
    | [] => none
    | '-' :: rest => readHyphens flags fuel (flags.skip rest) (⟨.single '-'.toNat, 0⟩ :: parts)
    | _ => some (parts, text)

/-- Read the start of a class behind its bracket: a caret negates it, and hyphens, or else a closing
bracket, stand for themselves there. -/
def openLevel (flags : Flags) (text : List Char) : Option (Level × List Char) := do
  let text := flags.skip text
  let (negated, text) := match text with
    | '^' :: rest => (true, flags.skip rest)
    | _ => (false, text)
  let (parts, text) ← readHyphens flags (text.length + 1) text []
  match parts, text with
  | [], ']' :: rest =>
    let rest := flags.skip rest
    if rest.isEmpty then none
    else some (⟨negated, [⟨.single ']'.toNat, 0⟩], none⟩, rest)
  | _, _ => some (⟨negated, parts, none⟩, text)

/-- The character that comes after the current one once blanks are skipped.  A comment is looked
into: its first character that is not blank counts. -/
def peekPast (flags : Flags) (rest : List Char) : Option Char :=
  let rec look : Bool → List Char → Option Char
    | _, [] => rest.head?
    | inComment, c :: cs =>
      if isBlank c then look inComment cs
      else if !inComment && c == '#' then look true cs
      else some c
  if flags.extended then look false rest else rest.head?

def readMember (flags : Flags) : List Char → Option (Atom × List Char)
  | [] => none
  | '\\' :: rest => readEscape flags rest
  | c :: rest => some (.literal c false, rest)

/-- The number of a literal in the unit in force.  Where octets are the unit a character outside
ASCII is none, unless it was written as an octet. -/
def Atom.code? (flags : Flags) : Atom → Option Nat
  | .literal c asOctet =>
    if flags.unicode || asOctet || c.toNat < 0x80 then some c.toNat else none
  | _ => none

def readRange (flags : Flags) (text : List Char) : Option (Part × List Char) := do
  let (first, rest) ← readMember flags text
  let rest := flags.skip rest
  let alone : Option (Part × List Char) := do
    let s ← match first with
      | .set s => some s
      | _ => (first.code? flags).map .single
    some (⟨s, 0⟩, rest)
  match rest with
  | [] => none
  | '-' :: behind =>
    if peekPast flags behind = some ']' ∨ peekPast flags behind = some '-' then alone
    else
      let (last, rest) ← readMember flags (flags.skip behind)
      let a ← first.code? flags
      let b ← last.code? flags
      if a ≤ b then some (⟨.range a b, 0⟩, rest) else none
  | _ => alone

/-- Read a class from inside its brackets to its end, given the level being read and the enclosing
ones.  Every step reads a character, so the length of the text bounds the number of steps. -/
def readLevels (flags : Flags) : Nat → List Char → Level → List Level → Option (Part × List Char)
  | 0, _, _, _ => none
  | fuel + 1, text, level, outer =>
    match flags.skip text with
    | [] => none
    | '[' :: rest =>
      match readAsciiClass? flags rest with
      | some (part, rest) => readLevels flags fuel rest (level.add part) outer
      | none =>
        match openLevel flags rest with
        | none => none
        | some (inner, rest) => readLevels flags fuel rest inner (level :: outer)
    | ']' :: rest =>
      let part := level.close flags
      match outer with
      | [] => some (part, rest)
      | parent :: outer => readLevels flags fuel rest (parent.add part) outer
    | '&' :: '&' :: rest => readLevels flags fuel rest (level.operate flags .inter) outer
    | '-' :: '-' :: rest => readLevels flags fuel rest (level.operate flags .diff) outer
    | '~' :: '~' :: rest => readLevels flags fuel rest (level.operate flags .symmDiff) outer
    | text =>
      match readRange flags text with
      | none => none
      | some (part, rest) => readLevels flags fuel rest (level.add part) outer

/-- Read a class, the opening bracket of which has been read already. -/
def readBracket (flags : Flags) (text : List Char) : Option (Part × List Char) := do
  let (level, rest) ← openLevel flags text
  readLevels flags (rest.length + 1) rest level []

end LogLens.Regex
