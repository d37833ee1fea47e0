/-
Module: LogLens.Filter.Pattern
Purpose: Patterns compiled once, when they are entered, and used on raw lines ever after.  What they
  are written in and how they are searched for is left open.
Main exports: Matcher, PatternCompiler, Pattern, Pattern.compile
-/
import LogLens.Filter.Error
import LogLens.Text.Utf8

namespace LogLens

/-- What a pattern is compiled to. -/
structure Matcher where
  /-- Whether a line holds a match. -/
  isMatch : Bytes → Bool
  /-- The byte ranges of all matches in a line, from start to end. -/
  findAll : Bytes → List (Nat × Nat)
deriving Inhabited

/-- A way to compile the text of a pattern, with letter case ignored or not.  Where it cannot, it says
why in words. -/
class PatternCompiler where
  compile (source : String) (insensitive : Bool) : Except String Matcher

/-- A pattern together with what searches for it. -/
structure Pattern where
  /-- The text as it was entered. -/
  source : String
  matcher : Matcher
deriving Inhabited

instance : Repr Pattern where
  reprPrec pattern := reprPrec pattern.source

namespace Pattern

/-- Compile a pattern; letter case counts only if asked for. -/
def compile [PatternCompiler] (source : String) (caseSensitive : Bool) :
    Except FilterError Pattern :=
  match PatternCompiler.compile source (!caseSensitive) with
  | .ok matcher => .ok ⟨source, matcher⟩
  | .error cause => .error (.invalidPattern source cause)

/-- Whether a line holds a match. -/
def isMatch (pattern : Pattern) (line : Bytes) : Bool := pattern.matcher.isMatch line

/-- The byte ranges of all matches in a line, from start to end. -/
def findAll (pattern : Pattern) (line : Bytes) : List (Nat × Nat) := pattern.matcher.findAll line

/-- A pattern keeps the text it was compiled from. -/
theorem source_of_compile [PatternCompiler] {source : String} {caseSensitive : Bool}
    {pattern : Pattern} (h : compile source caseSensitive = .ok pattern) :
    pattern.source = source := by
  unfold compile at h
  split at h
  · cases h
    rfl
  · cases h

end Pattern

end LogLens
