/-
Module: LogLens.Regex.Expr
Purpose: Regular expressions over byte strings, after all flags have been applied.
Main exports: Look, Expr, Expr.append, Expr.times
-/
import LogLens.Unicode.CodeSet

namespace LogLens.Regex

/-- Whether words are made of ASCII word characters or of those of all scripts. -/
inductive Alphabet where
  | ascii
  | unicode
deriving Repr, DecidableEq, Inhabited

/-- A condition on a position between two octets. -/
inductive Look where
  /-- The start of the text. -/
  | start
  /-- The end of the text. -/
  | finish
  /-- The start of the text or behind a line feed. -/
  | lineStart
  /-- The end of the text or before a line feed. -/
  | lineFinish
  /-- The start of a line where a carriage return, a line feed or both in a row end a line. -/
  | lineStartCrlf
  /-- The end of a line where a carriage return, a line feed or both in a row end a line. -/
  | lineFinishCrlf
  /-- A word character on exactly one side. -/
  | wordBoundary (alphabet : Alphabet)
  /-- A word character on both sides or on neither. -/
  | noWordBoundary (alphabet : Alphabet)
  /-- A word character on the right side only. -/
  | wordStart (alphabet : Alphabet)
  /-- A word character on the left side only. -/
  | wordFinish (alphabet : Alphabet)
  /-- No word character on the left side. -/
  | wordStartHalf (alphabet : Alphabet)
  /-- No word character on the right side. -/
  | wordFinishHalf (alphabet : Alphabet)
deriving Repr, DecidableEq, Inhabited

/-- A regular expression.  Among the ways to match, earlier alternatives come first, and a
repetition prefers more rounds if it is greedy and fewer if it is not. -/
inductive Expr where
  /-- The empty text. -/
  | empty
  /-- One well-formed character of the set. -/
  | char (set : CodeSet)
  /-- One octet of the set. -/
  | octet (set : CodeSet)
  /-- No text, where the condition holds. -/
  | look (condition : Look)
  /-- One expression after the other. -/
  | seq (first second : Expr)
  /-- One expression or else the other. -/
  | alt (first second : Expr)
  /-- From `min` to `max` rounds of the expression, without end if `max` is missing. -/
  | repeat (body : Expr) (min : Nat) (max : Option Nat) (greedy : Bool)
  /-- A group that records what it matches. -/
  | capture (body : Expr)
deriving Repr, Inhabited

namespace Expr

/-- Whether the expression matches no text but the empty one. -/
def isWeightless : Expr → Bool
  | empty => true
  | char _ => false
  | octet _ => false
  | look _ => true
  | seq a b => a.isWeightless && b.isWeightless
  | alt a b => a.isWeightless && b.isWeightless
  | .repeat e _ max _ => e.isWeightless && max.isSome
  | capture e => e.isWeightless

/-- One expression after the other; an empty one is left out. -/
def append : Expr → Expr → Expr
  | empty, b => b
  | a, empty => a
  | a, b => seq a b

/-- A repetition.  More than one round of an expression without weight changes nothing, no round at
all is the empty text, and a single round is the expression itself. -/
def times (body : Expr) (min : Nat) (max : Option Nat) (greedy : Bool) : Expr :=
  let (min, max) :=
    if body.isWeightless then (Nat.min min 1, some (Nat.min (max.getD 1) 1)) else (min, max)
  if max = some 0 then empty
  else if min = 1 ∧ max = some 1 then body
  else .repeat body min max greedy

def isNullable : Expr → Bool
  | empty => true
  | char _ => false
  | octet _ => false
  | look _ => true
  | seq a b => a.isNullable && b.isNullable
  | alt a b => a.isNullable || b.isNullable
  | .repeat e min _ _ => min == 0 || e.isNullable
  | capture e => e.isNullable

end Expr

end LogLens.Regex
