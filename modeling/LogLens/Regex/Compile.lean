/-
Module: LogLens.Regex.Compile
Purpose: From the text of a pattern to a program that searches, and with it a compiler of patterns.
Main exports: Refusal, compile
-/
import LogLens.Filter.Pattern
import LogLens.Regex.Parser
import LogLens.Regex.Size
import LogLens.Regex.Search

namespace LogLens.Regex

/-- Why a text cannot be used as a pattern. -/
inductive Refusal where
  /-- The text is no pattern. -/
  | malformed
  /-- The automaton of the pattern would be too large. -/
  | tooLarge
deriving Repr, DecidableEq

/-- The first line of what is said of a refusal. -/
def Refusal.message : Refusal → String
  | malformed => "regex parse error:"
  | tooLarge => "Compiled regex exceeds size limit of " ++ toString sizeLimit ++ " bytes."

/-- The program of a pattern. -/
def compile (pattern : String) (insensitive : Bool) : Except Refusal Program :=
  match parse? pattern.toList insensitive with
  | none => .error .malformed
  | some e => if e.fits then .ok (Program.ofExpr e) else .error .tooLarge

/-- Patterns are regular expressions. -/
instance : PatternCompiler where
  compile source insensitive :=
    match compile source insensitive with
    | .ok program => .ok ⟨program.isMatch, program.findAll⟩
    | .error refusal => .error refusal.message

end LogLens.Regex
