/-
Module: LogLens.Regex.Parser
Purpose: Reading a pattern.  One pass over the text keeps a stack of the groups that are open;
  flags hold from where they are set to the end of their group.
Main exports: nestingLimit, parse?
-/
import LogLens.Regex.Bracket

namespace LogLens.Regex

/-- A piece of a pattern: its expression, how deeply it is nested, and whether it only sets flags,
which nothing can repeat. -/
structure Node where
  expr : Expr
  depth : Nat
  isFlags : Bool := false
deriving Repr, Inhabited

/-- How deeply groups, classes, repetitions, sequences and alternatives may be nested. -/
def nestingLimit : Nat := 250

def countLimit : Nat := 4294967295

/-- A group that is still open: what comes before it, the flags in force outside, and whether it
records what it matches. -/
structure OpenGroup where
  flags : Flags
  items : List Node
  branches : List Node
  records : Bool

/-- A pattern as read so far. -/
structure Reader where
  flags : Flags
  /-- The pieces of the current sequence, last first. -/
  items : List Node := []
  /-- The finished alternatives of the current group, last first. -/
  branches : List Node := []
  /-- The enclosing groups, innermost first. -/
  groups : List OpenGroup := []
  /-- The names of groups in use. -/
  names : List (List Char) := []

def deepest (nodes : List Node) : Nat := nodes.foldl (fun d n => max d n.depth) 0

/-- Pieces, last first, in sequence. -/
def sequence : List Node → Node
  | [] => ⟨.empty, 0, false⟩
  | [n] => n
  | n :: ns => ⟨ns.foldl (fun e m => m.expr.append e) n.expr, deepest (n :: ns) + 1, false⟩

/-- Alternatives, last first. -/
def alternatives : List Node → Node
  | [] => ⟨.empty, 0, false⟩
  | [n] => n
  | n :: ns => ⟨ns.foldl (fun e m => .alt m.expr e) n.expr, deepest (n :: ns) + 1, false⟩

def Reader.content (r : Reader) : Node := alternatives (sequence r.items :: r.branches)

def Reader.add (r : Reader) (node : Node) : Reader := { r with items := node :: r.items }

def Reader.repeat (r : Reader) (min : Nat) (max : Option Nat) (greedy : Bool) : Option Reader :=
  match r.items with
  | [] => none
  | n :: rest =>
    if n.isFlags then none
    else
      let e := n.expr.times min max (greedy != r.flags.swapGreed)
      some { r with items := ⟨e, n.depth + 1, false⟩ :: rest }

/-- Open a group whose content has the given flags. -/
def Reader.openGroup (r : Reader) (inside : Flags) (records : Bool) : Reader :=
  { r with
    flags := inside
    items := []
    branches := []
    groups := ⟨r.flags, r.items, r.branches, records⟩ :: r.groups }

def Reader.closeGroup (r : Reader) : Option Reader :=
  match r.groups with
  | [] => none
  | g :: groups =>
    let content := r.content
    let e := if g.records then .capture content.expr else content.expr
    some { r with
      flags := g.flags
      items := ⟨e, content.depth + 1, false⟩ :: g.items
      branches := g.branches
      groups := groups }

def Reader.alternate (r : Reader) : Reader :=
  { r with items := [], branches := sequence r.items :: r.branches }

/-- Read flags up to a colon or closing parenthesis, which is answered too.  A hyphen turns off the
flags behind it, and no letter and no hyphen may come twice. -/
def readFlags (seen : List Flag) (off dangling : Bool) (flags : Flags) :
    List Char → Option (Flags × Bool × Char × List Char)
  | [] => none
  | c :: rest =>
    if c = ':' ∨ c = ')' then
      if dangling then none else some (flags, seen.isEmpty, c, rest)
    else if c = '-' then
      if off then none else readFlags seen true true flags rest
    else
      match Flag.ofLetter? c with
      | none => none
      | some f =>
        if seen.contains f then none
        else readFlags (f :: seen) off false (flags.set (!off) f) rest

/-- Whether a character may stand in the name of a group, at its start or behind it. -/
def isNameChar (first : Bool) (c : Char) : Bool :=
  if first then c == '_' || Unicode.isAlphabetic c
  else c == '_' || c == '.' || c == '[' || c == ']' || Unicode.isAlphabetic c || Unicode.isNumeric c

/-- Read the name of a group up to its closing angle bracket. -/
def readName (text : List Char) : Option (List Char × List Char) :=
  match text.takeWhile (· != '>'), text.dropWhile (· != '>') with
  | c :: cs, _ :: rest =>
    if isNameChar true c && cs.all (isNameChar false) then some (c :: cs, rest) else none
  | _, _ => none

def Reader.openNamed (r : Reader) (text : List Char) : Option (Reader × List Char) := do
  let (name, rest) ← readName text
  if r.names.contains name then none
  some ({ r with names := name :: r.names }.openGroup r.flags true, rest)

/-- Read what follows an opening parenthesis: a group, a named group, flags for a group, or flags
for the rest of the enclosing group.  Looking around is not supported. -/
def Reader.readGroup (r : Reader) (text : List Char) : Option (Reader × List Char) :=
  match r.flags.skip text with
  | '?' :: '=' :: _ | '?' :: '!' :: _ | '?' :: '<' :: '=' :: _ | '?' :: '<' :: '!' :: _ => none
  | '?' :: 'P' :: '<' :: rest => r.openNamed rest
  | '?' :: '<' :: rest => r.openNamed rest
  | '?' :: rest =>
    match readFlags [] false false r.flags rest with
    | none => none
    | some (flags, isBare, stop, rest) =>
      if stop = ':' then some (r.openGroup flags false, rest)
      else if isBare then none
      else some ({ r.add ⟨.empty, 0, true⟩ with flags := flags }, rest)
  | rest => some (r.openGroup r.flags true, rest)

/-- Take the question mark that makes a repetition lazy. -/
def readGreed : List Char → Bool × List Char
  | '?' :: rest => (false, rest)
  | rest => (true, rest)

/-- A count of a repetition, with blanks around it. -/
def readCount? (text : List Char) : Option Nat :=
  let digits := Text.trim text
  if digits.isEmpty || !digits.all Char.isDigit then none
  else
    let n := digits.foldl (fun n c => n * 10 + (c.toNat - '0'.toNat)) 0
    if n ≤ countLimit then some n else none

/-- The bounds of a counted repetition: `n`, `n,` or `n,m`. -/
def readBounds? (body : List Char) : Option (Nat × Option Nat) :=
  match splitAt? [','] body with
  | none => (readCount? body).map fun n => (n, some n)
  | some (low, []) => (readCount? low).map fun n => (n, none)
  | some (low, high) => do
    let n ← readCount? low
    let m ← readCount? high
    if n ≤ m then some (n, some m) else none

/-- Read one piece of a pattern at a character that is neither blank nor part of a comment. -/
def Reader.step (r : Reader) (c : Char) (rest : List Char) : Option (Reader × List Char) :=
  let single (e : Expr) := some (r.add ⟨e, 0, false⟩, rest)
  let repeated (min : Nat) (max : Option Nat) :=
    let (greedy, rest) := readGreed rest
    (r.repeat min max greedy).map fun r => (r, rest)
  match c with
  | '(' => r.readGroup rest
  | ')' => r.closeGroup.map fun r => (r, rest)
  | '|' => some (r.alternate, rest)
  | '[' => (readBracket r.flags rest).map fun (part, rest) =>
      (r.add ⟨r.flags.unit part.set, part.depth, false⟩, rest)
  | '?' => repeated 0 (some 1)
  | '*' => repeated 0 none
  | '+' => repeated 1 none
  | '\x7b' => do
    let (body, rest) ← gatherBraced r.flags false rest
    let (min, max) ← readBounds? body
    let (greedy, rest) := readGreed (r.flags.skip rest)
    some (← r.repeat min max greedy, rest)
  | '\\' => do
    let (atom, rest) ← readEscape r.flags rest
    let e := match atom with
      | .literal c asOctet =>
        if asOctet && !r.flags.unicode && 0x80 ≤ c.toNat then .octet (.single c.toNat)
        else r.flags.literal c
      | .set s => r.flags.unit s
      | .look l => .look l
    some (r.add ⟨e, 0, false⟩, rest)
  | '.' => single r.flags.dot
  | '^' => single (.look r.flags.lineStart)
  | '$' => single (.look r.flags.lineFinish)
  | c => single (r.flags.literal c)

/-- Read a pattern to its end.  Every step reads a character, so the length of the text bounds the
number of steps. -/
def Reader.run : Nat → Reader → List Char → Option Reader
  | 0, _, _ => none
  | fuel + 1, r, text =>
    match r.flags.skip text with
    | [] => some r
    | c :: rest =>
      match r.step c rest with
      | none => none
      | some (r, rest) => r.run fuel rest

/-- The expression of a pattern; none if the text is no pattern or is nested too deeply. -/
def parse? (pattern : List Char) (insensitive : Bool) : Option Expr := do
  let r ← Reader.run (pattern.length + 1) { flags := { insensitive } } pattern
  if !r.groups.isEmpty then none
  let node := r.content
  if node.depth ≤ nestingLimit then some node.expr else none

end LogLens.Regex
