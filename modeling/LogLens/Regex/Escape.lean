/-
Module: LogLens.Regex.Escape
Purpose: Reading what stands for a single unit or condition in a pattern: escapes, hexadecimal
  characters, named classes and special word boundaries.
Main exports: Atom, Flags.skip, gatherBraced, readEscape
-/
import LogLens.Regex.Flags
import LogLens.Text.Blank
import LogLens.Unicode.Class

namespace LogLens.Regex

open Text

/-- What a character or an escape of a pattern stands for. -/
inductive Atom where
  /-- A character.  `asOctet` says that it was written with two hexadecimal digits, which name an
  octet where octets are the unit. -/
  | literal (c : Char) (asOctet : Bool)
  /-- A class, already closed under the flags. -/
  | set (s : CodeSet)
  /-- A condition. -/
  | look (condition : Look)
deriving Repr

/-- Skip blanks and comments; `inComment` tells whether a comment is open. -/
def skipBlanks : Bool → List Char → List Char
  | _, [] => []
  | true, c :: rest => skipBlanks (c != '\n') rest
  | false, c :: rest =>
    if isBlank c then skipBlanks false rest
    else if c = '#' then skipBlanks true rest
    else c :: rest

/-- Skip blanks and comments where the flag `x` asks for it. -/
def Flags.skip (flags : Flags) (text : List Char) : List Char :=
  if flags.extended then skipBlanks false text else text

/-- The text up to the next closing brace and the text behind that.  Under the flag `x` blanks and
comments are left out. -/
def gatherBraced (flags : Flags) : Bool → List Char → Option (List Char × List Char)
  | _, [] => none
  | inComment, c :: rest =>
    if inComment then gatherBraced flags (c != '\n') rest
    else if flags.extended && isBlank c then gatherBraced flags false rest
    else if flags.extended && c == '#' then gatherBraced flags true rest
    else if c = '\x7d' then some ([], rest)
    else (gatherBraced flags false rest).map fun (text, rest) => (c :: text, rest)

def charOfCode? (n : Nat) : Option Char :=
  if n < 0xD800 ∨ (0xDFFF < n ∧ n < 0x110000) then some (Char.ofNat n) else none

def readHexDigits (flags : Flags) : Nat → Nat → List Char → Option (Nat × List Char)
  | 0, value, text => some (value, text)
  | _ + 1, _, [] => none
  | n + 1, value, c :: rest =>
    match CodeSet.hexDigit? c with
    | some d => readHexDigits flags n (value * 16 + d) (flags.skip rest)
    | none => none

def hexValue? (digits : List Char) : Option Nat :=
  if digits.isEmpty then none
  else digits.foldlM (fun value c => (CodeSet.hexDigit? c).map (value * 16 + ·)) 0

/-- Read a character given by its number: in braces, or with the given count of digits. -/
def readHex (flags : Flags) (digits : Nat) (text : List Char) : Option (Atom × List Char) :=
  match flags.skip text with
  | '\x7b' :: rest => do
    let (body, rest) ← gatherBraced flags false rest
    let c ← charOfCode? (← hexValue? body)
    some (.literal c false, rest)
  | text => do
    let (value, rest) ← readHexDigits flags digits 0 text
    some (.literal (← charOfCode? value) (digits = 2), rest)

/-- Split a text at the first place where the given text stands. -/
def splitAt? (mark : List Char) : List Char → Option (List Char × List Char)
  | [] => none
  | c :: rest =>
    if mark.isPrefixOf (c :: rest) then some ([], (c :: rest).drop mark.length)
    else (splitAt? mark rest).map fun (before, behind) => (c :: before, behind)

/-- The class with the given name, or with the value of a property given as `name!=value`,
`name:value` or `name=value`.  All three forms say that the value is the given one. -/
def classWritten? (body : List Char) : Option CodeSet :=
  match ((splitAt? ['!', '='] body).or (splitAt? [':'] body)).or (splitAt? ['='] body) with
  | some (property, value) => Unicode.classOfValue? property value
  | none => Unicode.classNamed? body

/-- Read the name of a class: one letter, or a text in braces. -/
def readClassName (flags : Flags) (negated : Bool) (text : List Char) :
    Option (Atom × List Char) := do
  let (name, rest) ←
    match flags.skip text with
    | [] => none
    | '\\' :: _ => none
    | '\x7b' :: rest => gatherBraced flags false rest
    | c :: rest => some ([c], rest)
  if !flags.unicode then none
  let s ← classWritten? name
  some (.set (flags.close negated s), rest)

/-- The special word boundary of a name in braces. -/
def specialBoundary? (alphabet : Alphabet) (name : List Char) : Option Look :=
  match String.ofList name with
  | "start" => some (.wordStart alphabet)
  | "end" => some (.wordFinish alphabet)
  | "start-half" => some (.wordStartHalf alphabet)
  | "end-half" => some (.wordFinishHalf alphabet)
  | _ => none

/-- Read a word boundary and the name in braces that may follow.  Braces that do not start with a
letter or a hyphen are a counted repetition and left alone. -/
def readBoundary (flags : Flags) (text : List Char) : Option (Atom × List Char) :=
  match text with
  | '\x7b' :: rest =>
    match flags.skip rest with
    | [] => none
    | c :: _ =>
      if c.isAlpha || c == '-' then do
        let (name, rest) ← gatherBraced flags false rest
        some (.look (← specialBoundary? flags.alphabet name), rest)
      else some (.look (.wordBoundary flags.alphabet), text)
  | _ => some (.look (.wordBoundary flags.alphabet), text)

/-- Whether a character may be escaped to stand for itself: any ASCII character but letters, digits
and the two angle brackets. -/
def isEscapable (c : Char) : Bool :=
  c.toNat < 0x80 && !c.isAlphanum && c != '<' && c != '>'

/-- Read an escape, the backslash of which has been read already. -/
def readEscape (flags : Flags) : List Char → Option (Atom × List Char)
  | [] => none
  | c :: rest =>
    let literal (c : Char) := some (Atom.literal c false, rest)
    let set (negated : Bool) (s : CodeSet) :=
      some (Atom.set (if negated then s.compl flags.limit else s), rest)
    let look (l : Look) := some (Atom.look l, rest)
    match c with
    | 'x' => readHex flags 2 rest
    | 'u' => readHex flags 4 rest
    | 'U' => readHex flags 8 rest
    | 'p' => readClassName flags false rest
    | 'P' => readClassName flags true rest
    | 'd' => set false flags.digits
    | 'D' => set true flags.digits
    | 's' => set false flags.spaces
    | 'S' => set true flags.spaces
    | 'w' => set false flags.words
    | 'W' => set true flags.words
    | 'a' => literal '\x07'
    | 'f' => literal '\x0c'
    | 't' => literal '\t'
    | 'n' => literal '\n'
    | 'r' => literal '\r'
    | 'v' => literal '\x0b'
    | 'A' => look .start
    | 'z' => look .finish
    | 'b' => readBoundary flags rest
    | 'B' => look (.noWordBoundary flags.alphabet)
    | '<' => look (.wordStart flags.alphabet)
    | '>' => look (.wordFinish flags.alphabet)
    | _ => if isEscapable c then literal c else none

end LogLens.Regex
