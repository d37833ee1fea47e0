/-
Module: LogLens.Regex.Size
Purpose: The size of an expression and the limit on it.  The size is that of two automata over
  octets, one that reads forwards and shares common suffixes of characters, and one that reads
  backwards and shares common prefixes; counted repetitions copy their body.
Main exports: Size, sizeLimit, Expr.fits
-/
import LogLens.Regex.Expr
import LogLens.Text.Utf8

namespace LogLens.Regex

/-- The memory that the two automata of an expression take, in octets. -/
structure Size where
  forward : Nat
  backward : Nat
deriving Repr, DecidableEq

namespace Size

def both (n : Nat) : Size := ⟨n, n⟩

/-- The size of two automata side by side. -/
def add (a b : Size) : Size := ⟨a.forward + b.forward, a.backward + b.backward⟩

def scale (n : Nat) (a : Size) : Size := ⟨n * a.forward, n * a.backward⟩

def state : Nat := 32

/-- The memory of a transition of a state with several labels. -/
def transition : Nat := 8

/-- The memory of an unlabelled transition. -/
def branch : Nat := 4

end Size

def sizeLimit : Nat := 10 * 1024 * 1024

/-! ### Sets of characters as automata over octets -/

/-- Where a range of characters has to be cut so that the octets of its members vary independently:
the least member of the second part. -/
def cutPoint? (first last : Nat) : Option Nat :=
  [64, 4096, 262144].findSome? fun m =>
    if first / m = last / m then none
    else if first % m ≠ 0 then some ((first / m + 1) * m)
    else if last % m ≠ m - 1 then some (last / m * m)
    else none

/-- The pieces of a range whose octets vary independently.  `fuel` bounds the depth of cuts. -/
def pieces : Nat → Nat → Nat → List CodeRange
  | 0, first, last => [⟨first, last⟩]
  | fuel + 1, first, last =>
    match cutPoint? first last with
    | none => [⟨first, last⟩]
    | some c => pieces fuel first (c - 1) ++ pieces fuel c last

/-- The ranges of characters whose encodings have equal length. -/
def lengthClasses : List CodeRange :=
  [⟨0, 0x7F⟩, ⟨0x80, 0x7FF⟩, ⟨0x800, 0xD7FF⟩, ⟨0xE000, 0xFFFF⟩, ⟨0x10000, 0x10FFFF⟩]

def octetRanges (r : CodeRange) : List CodeRange :=
  List.zipWith (fun a b => ⟨a.toNat, b.toNat⟩) (Utf8.encodeChar (Char.ofNat r.first))
    (Utf8.encodeChar (Char.ofNat r.last))

/-- The members of a set as sequences of octet ranges, in order. -/
def octetSequences (s : CodeSet) : List (List CodeRange) :=
  s.ranges.flatMap fun r => lengthClasses.flatMap fun c =>
    let first := max r.first c.first
    let last := min r.last c.last
    if first ≤ last then (pieces 16 first last).map octetRanges else []

def commonLength : List CodeRange → List CodeRange → Nat
  | a :: as, b :: bs => if a = b then commonLength as bs + 1 else 0
  | _, _ => 0

/-- How many states it takes to spell the sequences when each shares the front of the last one. -/
def spellingStates : List CodeRange → List (List CodeRange) → Nat
  | _, [] => 0
  | last, s :: rest => s.length - commonLength last s + spellingStates s rest

/-- A state that reads octets: its transitions, each to the state of the given number. -/
abbrev OctetState := List (CodeRange × Nat)

/-- The number of a state among those known, which it joins if it is new.  Numbers count from 1, and
0 is the end of all sequences. -/
def intern (s : OctetState) (known : Array OctetState) : Nat × Array OctetState :=
  match known.findIdx? (· == s) with
  | some i => (i + 1, known)
  | none => (known.size + 1, known.push s)

/-- Sequences with equal first ranges put together. -/
def groupByFirst : List (List CodeRange) → List (CodeRange × List (List CodeRange))
  | [] => []
  | [] :: rest => groupByFirst rest
  | (r :: tail) :: rest =>
    match groupByFirst rest with
    | (r', tails) :: groups =>
      if r = r' then (r, tail :: tails) :: groups else (r, [tail]) :: (r', tails) :: groups
    | [] => [(r, [tail])]

/-- Build the states that read the sequences; equal states are built once.  `fuel` bounds the length
of the sequences. -/
def buildStates : Nat → List (List CodeRange) → Array OctetState → Nat × Array OctetState
  | 0, _, known => (0, known)
  | fuel + 1, sequences, known =>
    match groupByFirst sequences with
    | [] => (0, known)
    | groups =>
      let (edges, known) := groups.foldl
        (fun (edges, known) (r, tails) =>
          let (target, known) := buildStates fuel tails known
          ((r, target) :: edges, known))
        ([], known)
      intern edges.reverse known

/-- The size of a state with one transition for each of a number of ranges, and of its end. -/
def flatSize (ranges : Nat) : Size := .both (2 * Size.state + ranges * Size.transition)

def charSetSize (s : CodeSet) : Size :=
  match s.ranges with
  | [] => .both Size.state
  | [r] =>
    if r.first = r.last then .both ((octetRanges r).length * Size.state)
    else if s.isAscii then flatSize 1
    else exact
  | ranges => if s.isAscii then flatSize ranges.length else exact
where
  exact : Size :=
    let sequences := octetSequences s
    let states := (buildStates 5 sequences #[]).2
    ⟨states.foldl (fun n t => n + Size.state + t.length * Size.transition) Size.state,
      (2 + spellingStates [] sequences) * Size.state + sequences.length * Size.branch⟩

/-- A bound on the size of a set of characters that is quick to find. -/
def charSetBound (s : CodeSet) : Size :=
  if s.isAscii then flatSize s.ranges.length else .both (64 + 3000 * s.ranges.length)

def octetSetSize (s : CodeSet) : Size :=
  match s.ranges with
  | [r] => if r.first = r.last then .both Size.state else flatSize 1
  | ranges => flatSize ranges.length

/-! ### Expressions -/

namespace Expr

def isAlt : Expr → Bool
  | alt _ _ => true
  | _ => false

def size (charSize : CodeSet → Size) : Expr → Size
  | empty => .both Size.state
  | char s => charSize s
  | octet s => octetSetSize s
  | look _ => .both Size.state
  | seq a b => (size charSize a).add (size charSize b)
  | alt a b =>
    let joint := if b.isAlt then Size.branch else 2 * (Size.state + Size.branch)
    ((size charSize a).add (size charSize b)).add (.both joint)
  | capture e => (size charSize e).add ⟨2 * Size.state, 0⟩
  | .repeat e min max _ =>
    let once := size charSize e
    let split := Size.both (Size.state + 2 * Size.branch)
    let stop := Size.both Size.state
    match max with
    | some max =>
      if max = 0 then stop
      else if max = min then once.scale min
      else ((once.scale min).add stop).add ((once.add split).scale (max - min))
    | none =>
      if min = 0 then
        if e.isNullable then (once.add (split.scale 2)).add stop else once.add split
      else (once.scale min).add split

/-- Whether an expression keeps to the limit.  The exact size is found only where the quick bound is
above the limit. -/
def fits (e : Expr) : Bool :=
  let within (s : Size) : Bool := s.forward ≤ sizeLimit && s.backward ≤ sizeLimit
  within (e.size charSetBound) || within (e.size charSetSize)

end Expr

end LogLens.Regex
