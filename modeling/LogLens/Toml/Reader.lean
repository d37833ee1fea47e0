/-
Module: LogLens.Toml.Reader
Purpose: Reading TOML documents (version 1.0).
Main exports: depthLimit, parse?
-/
import LogLens.Toml.Number
import LogLens.Toml.Quoted

namespace LogLens.Toml

/-- Values are nested, and dotted keys are long, less than so many times. -/
def depthLimit : Nat := 80

def skipGap (text : List Char) : List Char := text.dropWhile isGap

/-- Skip blanks, line ends and comments; `inComment` tells whether a comment is open.  None where a
character stands that a comment or a line end must not have. -/
def skipLines : Bool → List Char → Option (List Char)
  | _, [] => some []
  | inComment, '\r' :: rest =>
    match rest with
    | '\n' :: _ => skipLines inComment rest
    | _ => none
  | inComment, c :: rest =>
    if c = '\n' then skipLines false rest
    else if inComment then if isPlain c then skipLines true rest else none
    else if isGap c then skipLines false rest
    else if c = '#' then skipLines true rest
    else some (c :: rest)

def readComment : List Char → Option (List Char)
  | [] => some []
  | '\n' :: rest => some rest
  | '\r' :: '\n' :: rest => some rest
  | c :: rest => if isPlain c then readComment rest else none

/-- Read the end of a line: blanks, perhaps a comment, and the line end or the end of the text. -/
def readLineEnd (text : List Char) : Option (List Char) :=
  match skipGap text with
  | [] => some []
  | '\n' :: rest => some rest
  | '\r' :: '\n' :: rest => some rest
  | '#' :: rest => readComment rest
  | _ => none

/-- Whether a character may stand in a key without quotation marks. -/
def isBare (c : Char) : Bool := c.isAlphanum || c == '_' || c == '-'

def readKeyPart : List Char → Option (String × List Char)
  | '"' :: rest => (readBasic rest).map fun (k, rest) => (String.ofList k, rest)
  | '\'' :: rest => (readLiteral rest).map fun (k, rest) => (String.ofList k, rest)
  | text =>
    let part := text.takeWhile isBare
    if part.isEmpty then none else some (String.ofList part, text.dropWhile isBare)

/-- Read the parts of a key, with dots between them.  `fuel` bounds the number of parts. -/
def readKeyParts : Nat → List Char → Option (List String × List Char)
  | 0, _ => none
  | fuel + 1, text => do
    let (part, rest) ← readKeyPart (skipGap text)
    match skipGap rest with
    | '.' :: rest => do
      let (parts, rest) ← readKeyParts fuel rest
      some (part :: parts, rest)
    | rest => some ([part], rest)

/-- Read a key: the path in front of its last part, and that part. -/
def readKey (text : List Char) : Option (List String × String × List Char) := do
  let (parts, rest) ← readKeyParts (depthLimit - 1) text
  some (parts.dropLast, ← parts.getLast?, rest)

def isWordChar (c : Char) : Bool :=
  c.isAlphanum || c == '_' || c == '-' || c == '+' || c == '.' || c == ':'

/-- Read a word.  A date and a time may be two words with one blank between them. -/
def readWord (text : List Char) : Option (Node × List Char) :=
  let word := text.takeWhile isWordChar
  let rest := text.dropWhile isWordChar
  match rest with
  | ' ' :: behind =>
    if isDate word && behind.head?.any Char.isDigit then
      if isOffsetTime (behind.takeWhile isWordChar) then some (.moment, behind.dropWhile isWordChar)
      else none
    else (wordValue? word).map fun v => (v, rest)
  | _ => (wordValue? word).map fun v => (v, rest)

mutual

/-- Read a value.  `depth` counts the lists and tables around it, and `fuel` bounds the number of
steps. -/
def readValue (fuel depth : Nat) (text : List Char) : Option (Node × List Char) :=
  match fuel with
  | 0 => none
  | fuel + 1 =>
    match text with
    | '"' :: _ | '\'' :: _ =>
      (readQuoted text).map fun (s, rest) => (.text (String.ofList s), rest)
    | '[' :: rest =>
      if depth + 1 < depthLimit then do
        let (items, rest) ← readItems fuel (depth + 1) rest
        some (.list items, rest)
      else none
    | '\x7b' :: rest =>
      if depth + 1 < depthLimit then
        match skipGap rest with
        | '\x7d' :: rest => some (.inlined [], rest)
        | rest => do
          let (body, rest) ← readPairs fuel (depth + 1) rest
          some (.inlined (← Entries.assignAll body []), rest)
      else none
    | _ => readWord text

/-- Read the items of a list up to its closing bracket. -/
def readItems (fuel depth : Nat) (text : List Char) : Option (List Node × List Char) :=
  match fuel with
  | 0 => none
  | fuel + 1 => do
    match ← skipLines false text with
    | ']' :: rest => some ([], rest)
    | text => do
      let (item, rest) ← readValue fuel depth text
      match ← skipLines false rest with
      | ']' :: rest => some ([item], rest)
      | ',' :: rest => do
        let (items, rest) ← readItems fuel depth rest
        some (item :: items, rest)
      | _ => none

/-- Read the assignments of a table in braces up to its closing brace. -/
def readPairs (fuel depth : Nat) (text : List Char) :
    Option (List Entries.Assignment × List Char) :=
  match fuel with
  | 0 => none
  | fuel + 1 => do
    let (path, key, rest) ← readKey text
    let '=' :: rest := rest | none
    let (value, rest) ← readValue fuel depth (skipGap rest)
    match skipGap rest with
    | '\x7d' :: rest => some ([⟨path, key, value⟩], rest)
    | ',' :: rest => do
      let (pairs, rest) ← readPairs fuel depth rest
      some (⟨path, key, value⟩ :: pairs, rest)
    | _ => none

end

/-- A header: whether it is in double brackets, the path, and its last part. -/
structure Header where
  isList : Bool
  path : List String
  key : String
deriving Repr

/-- A header, missing for the start of the document, and the assignments below it. -/
structure Section where
  header : Option Header
  body : List Entries.Assignment
deriving Repr

/-- Read a header behind its first bracket. -/
def readHeader : List Char → Option (Header × List Char)
  | '[' :: text => do
    let (path, key, rest) ← readKey text
    let ']' :: ']' :: rest := rest | none
    some (⟨true, path, key⟩, ← readLineEnd rest)
  | text => do
    let (path, key, rest) ← readKey text
    let ']' :: rest := rest | none
    some (⟨false, path, key⟩, ← readLineEnd rest)

/-- Read the sections of a document.  `current` is the one being read, with its assignments last
first.  Every step reads a line, so the length of the text bounds the number of steps. -/
def readSections : Nat → Section → List Char → Option (List Section)
  | 0, _, _ => none
  | fuel + 1, current, text =>
    let finished : Section := { current with body := current.body.reverse }
    match skipGap text with
    | [] => some [finished]
    | '\n' :: rest => readSections fuel current rest
    | '\r' :: '\n' :: rest => readSections fuel current rest
    | '#' :: rest => (readComment rest).bind (readSections fuel current)
    | '[' :: rest => do
      let (header, rest) ← readHeader rest
      (readSections fuel ⟨some header, []⟩ rest).map (finished :: ·)
    | text => do
      let (path, key, rest) ← readKey text
      let '=' :: rest := rest | none
      let (value, rest) ← readValue (2 * rest.length + 2) 0 (skipGap rest)
      let rest ← readLineEnd rest
      readSections fuel { current with body := ⟨path, key, value⟩ :: current.body } rest

def addSection (root : Entries) (part : Section) : Option Entries :=
  match part.header with
  | none => root.assignAll part.body
  | some ⟨true, path, key⟩ => root.appendTable path key part.body
  | some ⟨false, path, key⟩ => root.openTable path key part.body

/-- The entries of a document; none if the text is no document.  A byte order mark in front is
skipped. -/
def parse? (text : String) : Option Entries := do
  let chars := match text.toList with
    | '\ufeff' :: rest => rest
    | chars => chars
  let sections ← readSections (chars.length + 1) ⟨none, []⟩ chars
  sections.foldlM addSection []

end LogLens.Toml
