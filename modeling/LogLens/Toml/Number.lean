/-
Module: LogLens.Toml.Number
Purpose: The words of a TOML document that are numbers, truth values, dates or times.
Main exports: wordValue?, isDate, isTime
-/
import LogLens.Toml.Node
import LogLens.Unicode.CodeSet

namespace LogLens.Toml

/-- Digits with single underscores between them. -/
def isDigits (isDigit : Char → Bool) : List Char → Bool
  | [] => false
  | [c] => isDigit c
  | c :: '_' :: rest => isDigit c && isDigits isDigit rest
  | c :: rest => isDigit c && isDigits isDigit rest

def digitsValue (base : Nat) (digits : List Char) : Nat :=
  digits.foldl (fun n c => (CodeSet.hexDigit? c).elim n (n * base + ·)) 0

/-- A sign and what follows it; the sign is true for a minus. -/
def splitSign : List Char → Bool × List Char
  | '-' :: rest => (true, rest)
  | '+' :: rest => (false, rest)
  | rest => (false, rest)

/-- Digits without a leading zero. -/
def isDecimal (digits : List Char) : Bool :=
  isDigits Char.isDigit digits && (digits.head? != some '0' || digits.length == 1)

/-- The value of a word that is an integer of 64 bits. -/
def integer? (word : List Char) : Option Int :=
  let bounded (n : Int) : Option Int :=
    if Int64.minValue.toInt ≤ n ∧ n ≤ Int64.maxValue.toInt then some n else none
  match word with
  | '0' :: 'x' :: rest =>
    if isDigits (CodeSet.hexDigit? · |>.isSome) rest then bounded (digitsValue 16 rest) else none
  | '0' :: 'o' :: rest =>
    if isDigits (fun c => '0' ≤ c && c ≤ '7') rest then bounded (digitsValue 8 rest) else none
  | '0' :: 'b' :: rest =>
    if isDigits (fun c => c == '0' || c == '1') rest then bounded (digitsValue 2 rest) else none
  | _ =>
    let (negative, digits) := splitSign word
    if isDecimal digits then
      let n : Int := digitsValue 10 digits
      bounded (if negative then -n else n)
    else none

/-- Whether `digits · 10 ^ exponent` is too large for a floating-point number of 64 bits: it is
rounded up to 2 ^ 1024 if it reaches the middle between that and the greatest one. -/
def overflows (digits : Nat) (exponent : Int) : Bool :=
  let width : Int := (toString digits).length
  if digits = 0 then false
  else if width + exponent > 400 then true
  else if width + exponent < 300 then false
  else
    let bound := Nat.pow 2 1024 - Nat.pow 2 970
    if exponent ≥ 0 then digits * Nat.pow 10 exponent.toNat ≥ bound
    else digits ≥ bound * Nat.pow 10 (-exponent).toNat

/-- Whether a word is a floating-point number that is not too large.  A fraction or an exponent must
be there. -/
def isFloat (word : List Char) : Bool :=
  let (negative, rest) := splitSign word
  if rest = "inf".toList ∨ rest = "nan".toList then true
  else
    let isMark (c : Char) : Bool := c == 'e' || c == 'E'
    let mantissa := rest.takeWhile (!isMark ·)
    let exponentPart := rest.dropWhile (!isMark ·)
    let whole := mantissa.takeWhile (· != '.')
    let fractionPart := mantissa.dropWhile (· != '.')
    let fraction := fractionPart.drop 1
    let (exponentNegative, exponent) := splitSign (exponentPart.drop 1)
    isDecimal whole
      && (fractionPart.isEmpty || isDigits Char.isDigit fraction)
      && (exponentPart.isEmpty || isDigits Char.isDigit exponent)
      && (!fractionPart.isEmpty || !exponentPart.isEmpty)
      && (negative ||
        let e : Int := digitsValue 10 exponent
        let places : Int := (fraction.filter Char.isDigit).length
        let scale : Int := if exponentNegative then -e else e
        !overflows (digitsValue 10 (whole ++ fraction)) (scale - places))

/-- The value of exactly so many digits at the start of a text, and the rest. -/
def fixedDigits (count : Nat) (text : List Char) : Option (Nat × List Char) :=
  let digits := text.take count
  if digits.length = count ∧ digits.all Char.isDigit then
    some (digitsValue 10 digits, text.drop count)
  else none

def daysOfMonth (year month : Nat) : Nat :=
  if month = 2 then
    if year % 4 = 0 ∧ (year % 100 ≠ 0 ∨ year % 400 = 0) then 29 else 28
  else if month = 4 ∨ month = 6 ∨ month = 9 ∨ month = 11 then 30
  else 31

def readDate (text : List Char) : Option (List Char) := do
  let (year, text) ← fixedDigits 4 text
  let '-' :: text := text | none
  let (month, text) ← fixedDigits 2 text
  let '-' :: text := text | none
  let (day, text) ← fixedDigits 2 text
  if 1 ≤ month ∧ month ≤ 12 ∧ 1 ≤ day ∧ day ≤ daysOfMonth year month then some text else none

def readHourMinute (text : List Char) : Option (List Char) := do
  let (hour, text) ← fixedDigits 2 text
  let ':' :: text := text | none
  let (minute, text) ← fixedDigits 2 text
  if hour ≤ 23 ∧ minute ≤ 59 then some text else none

/-- Read a time of the day, up to leap seconds. -/
def readTime (text : List Char) : Option (List Char) := do
  let text ← readHourMinute text
  let ':' :: text := text | none
  let (second, text) ← fixedDigits 2 text
  if second > 60 then none
  else match text with
    | '.' :: rest =>
      if (rest.head?.any Char.isDigit) then some (rest.dropWhile Char.isDigit) else none
    | _ => some text

/-- Whether a text is a distance from universal time, or nothing. -/
def isOffset (text : List Char) : Bool :=
  match text with
  | [] => true
  | ['Z'] | ['z'] => true
  | c :: rest => (c == '+' || c == '-') && readHourMinute rest == some []

def isTime (word : List Char) : Bool := readTime word == some []

/-- Whether a word is a time of the day, perhaps with its distance from universal time. -/
def isOffsetTime (word : List Char) : Bool := (readTime word).any isOffset

def isDate (word : List Char) : Bool := readDate word == some []

/-- Whether a word is a date, a time, or a date and a time. -/
def isMoment (word : List Char) : Bool :=
  isTime word ||
    match readDate word with
    | none => false
    | some [] => true
    | some (c :: rest) => (c == 'T' || c == 't') && isOffsetTime rest

def wordValue? (word : List Char) : Option Node :=
  if word = "true".toList then some (.flag true)
  else if word = "false".toList then some (.flag false)
  else match integer? word with
    | some n => some (.integer n)
    | none =>
      if isFloat word then some .float
      else if isMoment word then some .moment
      else none

end LogLens.Toml
