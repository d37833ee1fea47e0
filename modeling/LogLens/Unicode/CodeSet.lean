/-
Module: LogLens.Unicode.CodeSet
Purpose: Sets of code points (or of octets) as ascending lists of ranges that neither overlap nor
  touch, the set operations on them, and a table form for fast lookup.
Main exports: CodeRange, CodeSet, CodeSet.contains, CodeSet.ofText, CodeTable
-/

namespace LogLens

/-- All numbers from `first` to `last`. -/
structure CodeRange where
  first : Nat
  last : Nat
deriving Repr, DecidableEq, Inhabited

/-- A set of code points, as ascending ranges with a gap between each and the next. -/
structure CodeSet where
  ranges : List CodeRange
deriving Repr, DecidableEq, Inhabited

namespace CodeSet

def lastCode : Nat := 0x10FFFF

def lastOctet : Nat := 0xFF

def empty : CodeSet := ⟨[]⟩

def contains (s : CodeSet) (n : Nat) : Bool := s.ranges.any fun r => r.first ≤ n && n ≤ r.last

/-- Add a range to ascending ranges, melting it with those it meets. -/
def insertRange (r : CodeRange) : List CodeRange → List CodeRange
  | [] => [r]
  | x :: xs =>
    if r.last + 1 < x.first then r :: x :: xs
    else if x.last + 1 < r.first then x :: insertRange r xs
    else insertRange ⟨min r.first x.first, max r.last x.last⟩ xs

/-- The set of all members of the given ranges, in whatever order they come. -/
def ofRanges (ranges : List CodeRange) : CodeSet := ⟨ranges.foldr insertRange []⟩

def range (first last : Nat) : CodeSet := if first ≤ last then ⟨[⟨first, last⟩]⟩ else empty

def single (n : Nat) : CodeSet := ⟨[⟨n, n⟩]⟩

def union (a b : CodeSet) : CodeSet := ⟨b.ranges.foldr insertRange a.ranges⟩

/-- The gaps of ascending ranges, from `next` up to `limit`. -/
def gaps (next limit : Nat) : List CodeRange → List CodeRange
  | [] => if next ≤ limit then [⟨next, limit⟩] else []
  | r :: rs =>
    if next < r.first then ⟨next, r.first - 1⟩ :: gaps (r.last + 1) limit rs
    else gaps (r.last + 1) limit rs

/-- The numbers up to `limit` that are no members. -/
def compl (limit : Nat) (s : CodeSet) : CodeSet := ⟨gaps 0 limit s.ranges⟩

/-- The common members of two sets below a limit. -/
def inter (limit : Nat) (a b : CodeSet) : CodeSet :=
  compl limit (union (compl limit a) (compl limit b))

def diff (limit : Nat) (a b : CodeSet) : CodeSet := inter limit a (compl limit b)

def symmDiff (limit : Nat) (a b : CodeSet) : CodeSet :=
  union (diff limit a b) (diff limit b a)

def isAscii (s : CodeSet) : Bool := s.ranges.all (·.last < 0x80)

/-! ### Ranges written as text

Tables of ranges are written as hexadecimal numbers, `41-5A` for a range and `AA` for one code
point, with blanks between them.
-/

/-- A text of ranges as read so far: the number in front of a dash, the number being read, and the
ranges already finished, last first. -/
structure Reading where
  first : Option Nat
  current : Option Nat
  done : List CodeRange

def hexDigit? (c : Char) : Option Nat :=
  if '0' ≤ c ∧ c ≤ '9' then some (c.toNat - '0'.toNat)
  else if 'A' ≤ c ∧ c ≤ 'F' then some (c.toNat - 'A'.toNat + 10)
  else if 'a' ≤ c ∧ c ≤ 'f' then some (c.toNat - 'a'.toNat + 10)
  else none

def Reading.close (r : Reading) : Reading :=
  match r.first, r.current with
  | some a, some b => ⟨none, none, ⟨a, b⟩ :: r.done⟩
  | none, some b => ⟨none, none, ⟨b, b⟩ :: r.done⟩
  | _, none => ⟨none, none, r.done⟩

def Reading.next (r : Reading) (c : Char) : Reading :=
  if c = '-' then ⟨r.current, none, r.done⟩
  else match hexDigit? c with
    | some d => { r with current := some (r.current.getD 0 * 16 + d) }
    | none => r.close

/-- The set that a text of ranges describes. -/
def ofText (text : String) : CodeSet :=
  ofRanges ((text.foldl Reading.next ⟨none, none, []⟩).close.done.reverse)

end CodeSet

/-- A set prepared for lookup. -/
structure CodeTable where
  ranges : Array CodeRange
deriving Repr, DecidableEq, Inhabited

namespace CodeTable

def ofSet (s : CodeSet) : CodeTable := ⟨s.ranges.toArray⟩

/-- Search the ranges from `low` up to but not including `high`, halving the interval each time;
`fuel` bounds the number of halvings. -/
def search (ranges : Array CodeRange) (n : Nat) : Nat → Nat → Nat → Bool
  | 0, _, _ => false
  | fuel + 1, low, high =>
    if h : low < high then
      let middle := (low + high) / 2
      if hm : middle < ranges.size then
        let r := ranges[middle]
        if n < r.first then search ranges n fuel low middle
        else if r.last < n then search ranges n fuel (middle + 1) high
        else true
      else false
    else false

def contains (t : CodeTable) (n : Nat) : Bool := search t.ranges n t.ranges.size 0 t.ranges.size

end CodeTable

end LogLens
