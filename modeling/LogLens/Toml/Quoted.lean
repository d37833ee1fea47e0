/-
Module: LogLens.Toml.Quoted
Purpose: Texts in quotation marks: basic ones, in which a backslash escapes, and literal ones, each
  on one line or, behind three marks, on several.
Main exports: readQuoted
-/
import LogLens.Unicode.CodeSet

namespace LogLens.Toml

/-- Whether a character may stand in a text or a comment: a tab, or no control character. -/
def isPlain (c : Char) : Bool := c == '\t' || (0x20 ≤ c.toNat && c.toNat != 0x7F)

def isGap (c : Char) : Bool := c == ' ' || c == '\t'

/-- The character of a hexadecimal number; none for a number that no character has. -/
def scalar? (digits : List Char) : Option Char := do
  let n ← digits.foldlM (fun n c => (CodeSet.hexDigit? c).map (n * 16 + ·)) 0
  if n < 0xD800 ∨ (0xDFFF < n ∧ n < 0x110000) then some (Char.ofNat n) else none

/-- What a backslash and one more character stand for. -/
def escape? : Char → Option Char
  | 'b' => some '\x08'
  | 't' => some '\t'
  | 'n' => some '\n'
  | 'f' => some '\x0c'
  | 'r' => some '\r'
  | '"' => some '"'
  | '\\' => some '\\'
  | _ => none

/-- Put a character in front of a text that was read. -/
def consText (c : Char) : Option (List Char × List Char) → Option (List Char × List Char) :=
  Option.map fun (text, rest) => (c :: text, rest)

/-- Read a basic text on one line, behind its opening mark. -/
def readBasic : List Char → Option (List Char × List Char)
  | [] => none
  | '"' :: rest => some ([], rest)
  | '\\' :: 'u' :: a :: b :: c :: d :: rest =>
    (scalar? [a, b, c, d]).bind fun x => consText x (readBasic rest)
  | '\\' :: 'U' :: a :: b :: c :: d :: e :: f :: g :: h :: rest =>
    (scalar? [a, b, c, d, e, f, g, h]).bind fun x => consText x (readBasic rest)
  | '\\' :: c :: rest => (escape? c).bind fun x => consText x (readBasic rest)
  | c :: rest => if isPlain c then consText c (readBasic rest) else none

/-- Read a literal text on one line, behind its opening mark. -/
def readLiteral : List Char → Option (List Char × List Char)
  | [] => none
  | '\'' :: rest => some ([], rest)
  | c :: rest => if isPlain c then consText c (readLiteral rest) else none

def atLineEnd : List Char → Bool
  | '\n' :: _ => true
  | '\r' :: '\n' :: _ => true
  | _ => false

/-- The closing of a text of several lines at its closing marks: up to two more marks belong to the
text. -/
def closing? (mark : Char) (text : List Char) : Option (List Char × List Char) :=
  let marks := (text.takeWhile (· == mark)).length
  if marks < 3 ∨ 5 < marks then none
  else some (List.replicate (marks - 3) mark, text.drop marks)

/-- Whether three marks come next. -/
def atClosing (mark : Char) (text : List Char) : Bool :=
  [mark, mark, mark].isPrefixOf text

/-- Read a basic text of several lines.  A backslash at the end of a line joins it to the next text
that is not blank; `joining` says that such blanks are being skipped. -/
def readLongBasic (joining : Bool) (text : List Char) : Option (List Char × List Char) :=
  match text with
  | [] => none
  | '\r' :: '\n' :: rest =>
    if joining then readLongBasic true rest else consText '\n' (readLongBasic false rest)
  | '\n' :: rest =>
    if joining then readLongBasic true rest else consText '\n' (readLongBasic false rest)
  | '\\' :: 'u' :: a :: b :: c :: d :: rest =>
    (scalar? [a, b, c, d]).bind fun x => consText x (readLongBasic false rest)
  | '\\' :: 'U' :: a :: b :: c :: d :: e :: f :: g :: h :: rest =>
    (scalar? [a, b, c, d, e, f, g, h]).bind fun x => consText x (readLongBasic false rest)
  | '\\' :: c :: rest =>
    if atLineEnd ((c :: rest).dropWhile isGap) then readLongBasic true rest
    else (escape? c).bind fun x => consText x (readLongBasic false rest)
  | c :: rest =>
    if joining && isGap c then readLongBasic true rest
    else if atClosing '"' text then closing? '"' text
    else if isPlain c then consText c (readLongBasic false rest)
    else none

/-- Read a literal text of several lines. -/
def readLongLiteral (text : List Char) : Option (List Char × List Char) :=
  match text with
  | [] => none
  | '\r' :: '\n' :: rest => consText '\n' (readLongLiteral rest)
  | '\n' :: rest => consText '\n' (readLongLiteral rest)
  | c :: rest =>
    if atClosing '\'' text then closing? '\'' text
    else if isPlain c then consText c (readLongLiteral rest)
    else none

/-- A text without the line end that may follow its opening marks. -/
def dropLineEnd : List Char → List Char
  | '\n' :: rest => rest
  | '\r' :: '\n' :: rest => rest
  | text => text

def readQuoted : List Char → Option (List Char × List Char)
  | '"' :: '"' :: '"' :: rest => readLongBasic false (dropLineEnd rest)
  | '"' :: rest => readBasic rest
  | '\'' :: '\'' :: '\'' :: rest => readLongLiteral (dropLineEnd rest)
  | '\'' :: rest => readLiteral rest
  | _ => none

end LogLens.Toml
