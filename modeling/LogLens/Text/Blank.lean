/-
Module: LogLens.Text.Blank
Purpose: White space as the Unicode property White_Space has it, and the trimming that goes by it.
Main exports: isBlank, trim
-/

namespace LogLens.Text

/-- The Unicode property White_Space.  Zero-width spaces, the byte order mark and the information
separators U+001C to U+001F do not have it. -/
def isBlank (c : Char) : Bool :=
  let n := c.toNat
  (9 ≤ n && n ≤ 13) || n == 0x20 || n == 0x85 || n == 0xA0 || n == 0x1680
    || (0x2000 ≤ n && n ≤ 0x200A) || n == 0x2028 || n == 0x2029 || n == 0x202F || n == 0x205F
    || n == 0x3000

def trimStart (s : List Char) : List Char := s.dropWhile isBlank

def trimEnd (s : List Char) : List Char := (s.reverse.dropWhile isBlank).reverse

def trim (s : List Char) : List Char := trimEnd (trimStart s)

end LogLens.Text
