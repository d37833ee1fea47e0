/-
Module: LogLens.Regex.Search
Purpose: Running a program over a byte string.  All threads advance together, one octet at a time
  and in order of preference, so that the time is bounded by the product of program and text.
Main exports: Program.find?, Program.findAll
-/
import LogLens.Regex.Program
import LogLens.Regex.Look

namespace LogLens.Regex

/-- A thread: the instruction to run, the offset at which its match starts, and the number of
octets it has read ahead, which pass before it runs on. -/
structure Thread where
  place : Nat
  start : Nat
  ahead : Nat
deriving Repr, Inhabited

/-- The threads for one position, last first, and for each instruction the last position, counted
from 1, at which a thread reached it. -/
structure Crew where
  threads : List Thread
  visited : Array Nat

namespace Program

/-- Follow splits and conditions from the instructions on the stack, and enlist a thread for every
other instruction found that no preferred thread has reached at this position.  `fuel` bounds the
number of instructions taken from the stack; each one visited adds at most two. -/
def follow (code : Array Instr) (cursor : Cursor) (start : Nat) :
    Nat → List Nat → Crew → Crew
  | 0, _, crew => crew
  | _ + 1, [], crew => crew
  | fuel + 1, place :: stack, crew =>
    if crew.visited.getD place 0 = cursor.offset + 1 then follow code cursor start fuel stack crew
    else
      let crew := { crew with visited := crew.visited.setIfInBounds place (cursor.offset + 1) }
      match code[place]? with
      | some (.split a b) => follow code cursor start fuel (a :: b :: stack) crew
      | some (.look l next) =>
        let stack := if l.holds cursor then next :: stack else stack
        follow code cursor start fuel stack crew
      | some _ =>
        let threads := ⟨place, start, 0⟩ :: crew.threads
        follow code cursor start fuel stack { crew with threads }
      | none => follow code cursor start fuel stack crew

/-- Enlist the threads that start at one instruction. -/
def enlist (p : Program) (cursor : Cursor) (start place : Nat) (crew : Crew) : Crew :=
  follow p.code cursor start (2 * p.code.size + 2) [place] crew

/-- The threads up to the first one that has matched, and where that one started. -/
def cut (code : Array Instr) : List Thread → List Thread × Option Nat
  | [] => ([], none)
  | t :: rest =>
    match t.ahead, code[t.place]? with
    | 0, some .done => ([], some t.start)
    | _, _ => let (kept, found) := cut code rest; (t :: kept, found)

/-- Let a thread read the octet in front of the new position. -/
def Thread.read (p : Program) (octet : UInt8) (char : Option (Char × Nat)) (cursor : Cursor)
    (crew : Crew) (t : Thread) : Crew :=
  match t.ahead with
  | 1 => p.enlist cursor t.start t.place crew
  | n + 2 => { crew with threads := ⟨t.place, t.start, n + 1⟩ :: crew.threads }
  | 0 =>
    match p.code[t.place]? with
    | some (.octet s next) =>
      if s.contains octet.toNat then p.enlist cursor t.start next crew else crew
    | some (.char s next) =>
      match char with
      | some (c, n) =>
        if !s.contains c.toNat then crew
        else if n ≤ 1 then p.enlist cursor t.start next crew
        else { crew with threads := ⟨next, t.start, n - 1⟩ :: crew.threads }
      | none => crew
    | _ => crew

/-- Advance all threads over the octets `after` the position, up to the end or until no thread can
improve on the match found. -/
def scan (p : Program) :
    (after : Bytes) → (before : Bytes) → Nat → List Thread → Array Nat → Option (Nat × Nat) →
      Option (Nat × Nat)
  | after, before, offset, threads, visited, found =>
    let (threads, matched) := cut p.code threads
    let found := match matched with
      | some start => some (start, offset)
      | none => found
    match after with
    | [] => found
    | b :: rest =>
      if threads.isEmpty && found.isSome then found
      else
        let char := Utf8.decodeFirst? (b :: rest)
        let cursor : Cursor := ⟨b :: before, rest, offset + 1⟩
        let crew := threads.foldl (Thread.read p b char cursor) ⟨[], visited⟩
        let crew := if found.isSome then crew else p.enlist cursor cursor.offset p.entry crew
        scan p rest cursor.before cursor.offset crew.threads.reverse crew.visited found

/-- The first match at or behind a position: where it starts and where it ends.  Of the matches
that start first, the most preferred one is taken. -/
def find? (p : Program) (cursor : Cursor) : Option (Nat × Nat) :=
  let crew := p.enlist cursor cursor.offset p.entry ⟨[], Array.replicate p.code.size 0⟩
  scan p cursor.after cursor.before cursor.offset crew.threads.reverse crew.visited none

/-- The successive matches from a position on.  A match starts at or behind the end of the last
one, and an empty match right at that end is passed over.  `fuel` bounds the number of searches. -/
def findFrom (p : Program) : Nat → Cursor → Option Nat → List (Nat × Nat)
  | 0, _, _ => []
  | fuel + 1, cursor, lastEnd =>
    match p.find? cursor with
    | none => []
    | some (s, e) =>
      if s = e ∧ lastEnd = some e then
        match cursor.after with
        | [] => []
        | b :: rest => findFrom p fuel (cursor.step b rest) none
      else (s, e) :: findFrom p fuel (cursor.advance (e - cursor.offset)) (some e)

def findAll (p : Program) (bytes : Bytes) : List (Nat × Nat) :=
  findFrom p (2 * bytes.length + 3) (Cursor.start bytes) none

def isMatch (p : Program) (bytes : Bytes) : Bool := (p.find? (Cursor.start bytes)).isSome

end Program

end LogLens.Regex
