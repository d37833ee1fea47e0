/-
Module: LogLens.Text.Document
Purpose: JSON documents and their indented form: two blanks for each level, one item a line.
Main exports: Document, Document.render
-/

namespace LogLens.Text

/-- A JSON document. -/
inductive Document where
  | number (n : Nat)
  | flag (b : Bool)
  | text (s : String)
  | list (items : List Document)
  | record (fields : List (String × Document))
deriving Repr, Inhabited

namespace Document

def hexDigit (n : Nat) : Char := if n < 10 then Char.ofNat (0x30 + n) else Char.ofNat (0x57 + n)

/-- A character inside quotation marks.  Only the quotation mark, the backslash and the control
characters below U+0020 are escaped. -/
def escape (c : Char) : List Char :=
  match c with
  | '"' => ['\\', '"']
  | '\\' => ['\\', '\\']
  | '\x08' => ['\\', 'b']
  | '\x0c' => ['\\', 'f']
  | '\n' => ['\\', 'n']
  | '\r' => ['\\', 'r']
  | '\t' => ['\\', 't']
  | _ =>
    if c.toNat < 0x20 then ['\\', 'u', '0', '0', hexDigit (c.toNat / 16), hexDigit (c.toNat % 16)]
    else [c]

def quote (s : String) : String := String.ofList ('"' :: s.toList.flatMap escape ++ ['"'])

/-- The start of a line at the given level. -/
def indent (level : Nat) : String := String.ofList (List.replicate (2 * level) ' ')

/-- Items between brackets, each on a line of its own; nothing between the brackets if there is no
item. -/
def enclose (opening closing : String) (level : Nat) (items : List String) : String :=
  match items with
  | [] => opening ++ closing
  | _ =>
    opening ++ "\n" ++ ",\n".intercalate (items.map (indent (level + 1) ++ ·)) ++ "\n" ++
      indent level ++ closing

mutual

/-- A document at the given level, without the blanks in front of its first line. -/
def renderAt (level : Nat) : Document → String
  | number n => toString n
  | flag b => if b then "true" else "false"
  | text s => quote s
  | list items => enclose "[" "]" level (renderItems (level + 1) items)
  | record fields => enclose "\x7b" "\x7d" level (renderFields (level + 1) fields)

def renderItems (level : Nat) : List Document → List String
  | [] => []
  | item :: rest => renderAt level item :: renderItems level rest

def renderFields (level : Nat) : List (String × Document) → List String
  | [] => []
  | (key, value) :: rest => (quote key ++ ": " ++ renderAt level value) :: renderFields level rest

end

/-- The indented form of a document. -/
def render (document : Document) : String := renderAt 0 document

end Document

end LogLens.Text
