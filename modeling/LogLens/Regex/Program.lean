/-
Module: LogLens.Regex.Program
Purpose: Expressions as programs for a machine that follows many threads at once.  An instruction
  reads a unit, tests a condition, or splits a thread into a preferred one and another.
Main exports: Instr, Program, Program.ofExpr
-/
import LogLens.Regex.Expr

namespace LogLens.Regex

/-- A step of a thread.  Numbers are the places of instructions in the program. -/
inductive Instr where
  /-- Read a well-formed character of the set. -/
  | char (set : CodeTable) (next : Nat)
  /-- Read an octet of the set. -/
  | octet (set : CodeTable) (next : Nat)
  /-- Go on where the condition holds. -/
  | look (condition : Look) (next : Nat)
  /-- Go on in two ways, the first of which is preferred. -/
  | split (first second : Nat)
  /-- The end of a match. -/
  | done
deriving Repr, Inhabited

/-- Instructions and the place of the first one. -/
structure Program where
  code : Array Instr
  entry : Nat
deriving Repr, Inhabited

namespace Program

/-- Code under construction.  Code is laid out from the end of an expression to its start, so that
the place to go on at is known when an instruction is written. -/
abbrev Code := Array Instr

/-- Write an instruction; answers its place. -/
def put (i : Instr) (code : Code) : Nat × Code := (code.size, code.push i)

/-- A split that prefers to enter a body if greedy and to leave otherwise. -/
def choice (greedy : Bool) (body leave : Nat) : Instr :=
  if greedy then .split body leave else .split leave body

/-- Write the same expression a number of times in a row. -/
def times (write : Nat → Code → Nat × Code) : Nat → Nat → Code → Nat × Code
  | 0, next, code => (next, code)
  | n + 1, next, code =>
    let (next, code) := write next code
    times write n next code

/-- Write an expression that may be left out, nested the given number of times. -/
def options (write : Nat → Code → Nat × Code) (greedy : Bool) (leave : Nat) :
    Nat → Nat → Code → Nat × Code
  | 0, next, code => (next, code)
  | n + 1, next, code =>
    let (body, code) := write next code
    let (next, code) := put (choice greedy body leave) code
    options write greedy leave n next code

/-- Write an expression that is matched once or more.  Answers the place of the first round and
that of the split behind each round. -/
def loop (write : Nat → Code → Nat × Code) (greedy : Bool) (next : Nat) (code : Code) :
    Nat × Nat × Code :=
  let (back, code) := put .done code
  let (body, code) := write back code
  (body, back, code.setIfInBounds back (choice greedy body next))

/-- Write an expression in front of the given place; answers where it starts. -/
def write : Expr → Nat → Code → Nat × Code
  | .empty, next, code => (next, code)
  | .char s, next, code => put (.char (.ofSet s) next) code
  | .octet s, next, code => put (.octet (.ofSet s) next) code
  | .look l, next, code => put (.look l next) code
  | .seq a b, next, code =>
    let (middle, code) := write b next code
    write a middle code
  | .alt a b, next, code =>
    let (first, code) := write a next code
    let (second, code) := write b next code
    put (.split first second) code
  | .capture e, next, code => write e next code
  | .repeat e min (some max) greedy, next, code =>
    let (next, code) := options (write e) greedy next (max - min) next code
    times (write e) min next code
  | .repeat e 0 none greedy, next, code =>
    let (body, back, code) := loop (write e) greedy next code
    if e.isNullable then put (choice greedy body next) code else (back, code)
  | .repeat e (min + 1) none greedy, next, code =>
    let (body, _, code) := loop (write e) greedy next code
    times (write e) min body code

def ofExpr (e : Expr) : Program :=
  let (entry, code) := write e 0 #[.done]
  ⟨code, entry⟩

end Program

end LogLens.Regex
