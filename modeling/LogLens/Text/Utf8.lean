/-
Module: LogLens.Text.Utf8
Purpose: Texts as bytes and back.  A well-formed sequence is read as RFC 3629 lays down: no
  overlong form, no surrogate, nothing above U+10FFFF.  Bytes that are not text are read leniently,
  one replacement character for each longest prefix of a sequence that breaks off.
Main exports: Bytes, Utf8.encode, Utf8.decodeFirst?, Utf8.decodeLast?, Utf8.decode?,
  Utf8.decodeLossy
-/

namespace LogLens

/-- Raw octets, as a log line is stored and searched. -/
abbrev Bytes := List UInt8

namespace Utf8

def encodeChar (c : Char) : Bytes := String.utf8EncodeChar c

def encode (text : String) : Bytes := text.toList.flatMap encodeChar

/-- What must follow a first octet: the number of further octets and the bounds of the next one. -/
structure Lead where
  /-- The bits of the character that the first octet carries. -/
  bits : Nat
  /-- How many octets follow. -/
  tails : Nat
  /-- The least octet that may come second. -/
  low : UInt8
  /-- The greatest octet that may come second. -/
  high : UInt8
deriving Repr, DecidableEq

/-- The rule for a first octet above 0x7F; none where no sequence starts with it. -/
def lead? (b : UInt8) : Option Lead :=
  let n := b.toNat
  if n < 0xC2 then none
  else if n ≤ 0xDF then some ⟨n - 0xC0, 1, 0x80, 0xBF⟩
  else if n = 0xE0 then some ⟨0, 2, 0xA0, 0xBF⟩
  else if n = 0xED then some ⟨0xD, 2, 0x80, 0x9F⟩
  else if n ≤ 0xEF then some ⟨n - 0xE0, 2, 0x80, 0xBF⟩
  else if n = 0xF0 then some ⟨0, 3, 0x90, 0xBF⟩
  else if n ≤ 0xF3 then some ⟨n - 0xF0, 3, 0x80, 0xBF⟩
  else if n = 0xF4 then some ⟨4, 3, 0x80, 0x8F⟩
  else none

/-- Read `tails` further octets, the first of them within the bounds and the others any
continuation octet.  Answers the value so far and how many octets are still missing where the
sequence breaks off. -/
def readTails (value : Nat) (low high : UInt8) : Nat → Bytes → Nat × Nat
  | 0, _ => (value, 0)
  | n + 1, [] => (value, n + 1)
  | n + 1, b :: rest =>
    if low ≤ b ∧ b ≤ high then readTails (value * 64 + (b.toNat - 0x80)) 0x80 0xBF n rest
    else (value, n + 1)

/-- One reading step at the head of a non-empty text. -/
inductive Piece where
  /-- A character and the number of octets after the first that belong to it. -/
  | char (c : Char) (tails : Nat)
  /-- An ill-formed part, with the number of octets after the first that belong to it. -/
  | broken (tails : Nat)
deriving Repr, DecidableEq

/-- Read the character that starts with the octet `b`, or the longest part of one. -/
def readPiece (b : UInt8) (rest : Bytes) : Piece :=
  if b < 0x80 then .char (Char.ofNat b.toNat) 0
  else match lead? b with
    | none => .broken 0
    | some l =>
      match readTails l.bits l.low l.high l.tails rest with
      | (value, 0) => .char (Char.ofNat value) l.tails
      | (_, missing) => .broken (l.tails - missing)

/-- The first character of a byte string and its length, if the bytes start with one. -/
def decodeFirst? : Bytes → Option (Char × Nat)
  | [] => none
  | b :: rest =>
    match readPiece b rest with
    | .char c tails => some (c, tails + 1)
    | .broken _ => none

/-- Whether the octet can only stand inside a sequence. -/
def isContinuation (b : UInt8) : Bool := b &&& 0xC0 == 0x80

/-- The last character begun in a byte string given in reverse order: the one whose first octet is
the nearest octet that is no continuation, looked for among the last four.  Stray continuation
octets behind that character do not hide it. -/
def decodeLast? (before : Bytes) : Option Char :=
  let tail := (before.take 3).takeWhile isContinuation
  (decodeFirst? (before.take (tail.length + 1)).reverse).map Prod.fst

/-- Drop the octets that a piece has already used, then read the next piece. -/
def decodeFrom? : Nat → Bytes → Option (List Char)
  | _, [] => some []
  | skip + 1, _ :: rest => decodeFrom? skip rest
  | 0, b :: rest =>
    match readPiece b rest with
    | .char c tails => (decodeFrom? tails rest).map (c :: ·)
    | .broken _ => none

/-- The text of a byte string; none where some part of it is not text. -/
def decode? (bytes : Bytes) : Option String := (decodeFrom? 0 bytes).map String.ofList

/-- As `decodeFrom?`, with U+FFFD for every ill-formed part. -/
def decodeLossyFrom : Nat → Bytes → List Char
  | _, [] => []
  | skip + 1, _ :: rest => decodeLossyFrom skip rest
  | 0, b :: rest =>
    match readPiece b rest with
    | .char c tails => c :: decodeLossyFrom tails rest
    | .broken tails => '\ufffd' :: decodeLossyFrom tails rest

/-- The text of a byte string, U+FFFD standing for each ill-formed part. -/
def decodeLossy (bytes : Bytes) : String := String.ofList (decodeLossyFrom 0 bytes)

end Utf8

end LogLens
