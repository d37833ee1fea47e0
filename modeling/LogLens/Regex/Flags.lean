/-
Module: LogLens.Regex.Flags
Purpose: The flags under which a part of a pattern is read, and the sets that depend on them.
Main exports: Flag, Flags, Flags.close, Flags.dot, Flags.literal
-/
import LogLens.Regex.Expr
import LogLens.Text.Utf8
import LogLens.Unicode.CaseOrbit
import LogLens.Unicode.Word

namespace LogLens.Regex

inductive Flag where
  /-- `i`: letter case does not count. -/
  | insensitive
  /-- `m`: `^` and `$` match at lines. -/
  | multiline
  /-- `s`: the dot matches line ends. -/
  | dotAll
  /-- `U`: repetitions are lazy by default. -/
  | swapGreed
  /-- `u`: the unit is a character and not an octet. -/
  | unicode
  /-- `R`: a carriage return ends a line too. -/
  | crlf
  /-- `x`: blanks and comments are skipped. -/
  | extended
deriving Repr, DecidableEq

def Flag.ofLetter? : Char → Option Flag
  | 'i' => some .insensitive
  | 'm' => some .multiline
  | 's' => some .dotAll
  | 'U' => some .swapGreed
  | 'u' => some .unicode
  | 'R' => some .crlf
  | 'x' => some .extended
  | _ => none

structure Flags where
  insensitive : Bool := false
  multiline : Bool := false
  dotAll : Bool := false
  swapGreed : Bool := false
  unicode : Bool := true
  crlf : Bool := false
  extended : Bool := false
deriving Repr, DecidableEq, Inhabited

namespace Flags

def set (flags : Flags) (value : Bool) : Flag → Flags
  | .insensitive => { flags with insensitive := value }
  | .multiline => { flags with multiline := value }
  | .dotAll => { flags with dotAll := value }
  | .swapGreed => { flags with swapGreed := value }
  | .unicode => { flags with unicode := value }
  | .crlf => { flags with crlf := value }
  | .extended => { flags with extended := value }

def alphabet (flags : Flags) : Alphabet := if flags.unicode then .unicode else .ascii

def limit (flags : Flags) : Nat := if flags.unicode then CodeSet.lastCode else CodeSet.lastOctet

/-- Close a set under letter case if letter case does not count. -/
def fold (flags : Flags) (s : CodeSet) : CodeSet :=
  if !flags.insensitive then s
  else if flags.unicode then Unicode.fold s
  else Unicode.foldAscii s

/-- Finish a class: first letter case, then the complement if it is negated. -/
def close (flags : Flags) (negated : Bool) (s : CodeSet) : CodeSet :=
  let s := flags.fold s
  if negated then s.compl flags.limit else s

/-- A set of the unit in force as an expression. -/
def unit (flags : Flags) (s : CodeSet) : Expr := if flags.unicode then .char s else .octet s

def octets : Bytes → Expr
  | [] => .empty
  | [b] => .octet (CodeSet.single b.toNat)
  | b :: rest => .seq (.octet (CodeSet.single b.toNat)) (octets rest)

/-- A character that stands for itself.  Without the flag `u` only ASCII letters have a case. -/
def literal (flags : Flags) (c : Char) : Expr :=
  if flags.unicode then .char (flags.fold (CodeSet.single c.toNat))
  else if c.toNat < 0x80 then .octet (flags.fold (CodeSet.single c.toNat))
  else octets (Utf8.encodeChar c)

/-- The dot: any unit but a line end, or any unit at all. -/
def dot (flags : Flags) : Expr :=
  let ends :=
    if flags.dotAll then CodeSet.empty
    else if flags.crlf then CodeSet.ofRanges [⟨0x0A, 0x0A⟩, ⟨0x0D, 0x0D⟩]
    else CodeSet.single 0x0A
  flags.unit (ends.compl flags.limit)

/-- The condition that `^` stands for. -/
def lineStart (flags : Flags) : Look :=
  if flags.multiline then (if flags.crlf then .lineStartCrlf else .lineStart) else .start

/-- The condition that `$` stands for. -/
def lineFinish (flags : Flags) : Look :=
  if flags.multiline then (if flags.crlf then .lineFinishCrlf else .lineFinish) else .finish

def digits (flags : Flags) : CodeSet :=
  if flags.unicode then Unicode.digits else CodeSet.range 0x30 0x39

def spaces (flags : Flags) : CodeSet :=
  if flags.unicode then Unicode.spaces else CodeSet.ofRanges [⟨9, 0xD⟩, ⟨0x20, 0x20⟩]

def words (flags : Flags) : CodeSet :=
  if flags.unicode then Unicode.wordCharacters
  else CodeSet.ofRanges [⟨0x30, 0x39⟩, ⟨0x41, 0x5A⟩, ⟨0x5F, 0x5F⟩, ⟨0x61, 0x7A⟩]

end Flags

end LogLens.Regex
