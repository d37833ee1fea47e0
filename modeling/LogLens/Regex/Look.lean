/-
Module: LogLens.Regex.Look
Purpose: A position in a byte string, and the conditions that a pattern can put on one.
Main exports: Cursor, Look.holds
-/
import LogLens.Regex.Expr
import LogLens.Text.Utf8
import LogLens.Unicode.Word

namespace LogLens.Regex

/-- A position in a byte string. -/
structure Cursor where
  /-- What comes before the position, last octet first. -/
  before : Bytes
  /-- What comes behind the position. -/
  after : Bytes
  /-- The number of octets before the position. -/
  offset : Nat
deriving Repr

namespace Cursor

def start (bytes : Bytes) : Cursor := ⟨[], bytes, 0⟩

/-- The position behind the given octet, which comes next. -/
def step (b : UInt8) (rest : Bytes) (cursor : Cursor) : Cursor :=
  ⟨b :: cursor.before, rest, cursor.offset + 1⟩

/-- The position a number of octets further, or the end. -/
def advance : Nat → Cursor → Cursor
  | 0, cursor => cursor
  | n + 1, cursor =>
    match cursor.after with
    | [] => cursor
    | b :: rest => advance n (cursor.step b rest)

def left? (cursor : Cursor) : Option Char := Utf8.decodeLast? cursor.before

def right? (cursor : Cursor) : Option Char := (Utf8.decodeFirst? cursor.after).map Prod.fst

def wordLeft (alphabet : Alphabet) (cursor : Cursor) : Bool :=
  match alphabet with
  | .ascii => cursor.before.head?.any fun b => Unicode.isAsciiWord b.toNat
  | .unicode => cursor.left?.any Unicode.isWordCharacter

def wordRight (alphabet : Alphabet) (cursor : Cursor) : Bool :=
  match alphabet with
  | .ascii => cursor.after.head?.any fun b => Unicode.isAsciiWord b.toNat
  | .unicode => cursor.right?.any Unicode.isWordCharacter

/-- Whether the left side can be judged: it ends the text, or is not ill-formed where characters
count. -/
def clearLeft (alphabet : Alphabet) (cursor : Cursor) : Bool :=
  alphabet == .ascii || cursor.before.isEmpty || cursor.left?.isSome

/-- As `clearLeft`, for the right side. -/
def clearRight (alphabet : Alphabet) (cursor : Cursor) : Bool :=
  alphabet == .ascii || cursor.after.isEmpty || cursor.right?.isSome

end Cursor

/-- Whether a condition holds at a position.  Conditions that a missing word character satisfies do
not hold next to octets that are no text. -/
def Look.holds (cursor : Cursor) : Look → Bool
  | start => cursor.before.isEmpty
  | finish => cursor.after.isEmpty
  | lineStart => cursor.before.isEmpty || cursor.before.head? == some 0x0A
  | lineFinish => cursor.after.isEmpty || cursor.after.head? == some 0x0A
  | lineStartCrlf =>
    cursor.before.isEmpty || cursor.before.head? == some 0x0A
      || (cursor.before.head? == some 0x0D && cursor.after.head? != some 0x0A)
  | lineFinishCrlf =>
    cursor.after.isEmpty || cursor.after.head? == some 0x0D
      || (cursor.after.head? == some 0x0A && cursor.before.head? != some 0x0D)
  | wordBoundary a => cursor.wordLeft a != cursor.wordRight a
  | noWordBoundary a =>
    cursor.clearLeft a && cursor.clearRight a && cursor.wordLeft a == cursor.wordRight a
  | wordStart a => !cursor.wordLeft a && cursor.wordRight a
  | wordFinish a => cursor.wordLeft a && !cursor.wordRight a
  | wordStartHalf a => cursor.clearLeft a && !cursor.wordLeft a
  | wordFinishHalf a => cursor.clearRight a && !cursor.wordRight a

end LogLens.Regex
