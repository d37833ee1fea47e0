/-
Module: LogLens.Bookmark.LineId
Purpose: Types whose values name lines, with one value set aside to name none.
Main exports: LineId
-/

namespace LogLens

/-- A type of line numbers.  Lines are ordered as the integers that they stand for. -/
class LineId (α : Type) where
  /-- The integer that a value stands for. -/
  toInt : α → Int
  /-- Different values stand for different integers. -/
  toInt_inj : ∀ {a b : α}, toInt a = toInt b → a = b
  /-- The value that names no line. -/
  noLine : α

namespace LineId

variable {α : Type} [LineId α]

/-- Whether a line comes before another. -/
def isBefore (a b : α) : Bool := toInt a < toInt b

/-- Whether a value names a line. -/
def isLine [DecidableEq α] (a : α) : Bool := a ≠ noLine

/-! ### The order of lines -/

section Order

variable {a b c : α}

/-- The order of lines is the order of the integers their types stand for. -/
theorem isBefore_iff : isBefore a b = true ↔ toInt a < toInt b := by
  rw [isBefore, decide_eq_true_iff]

theorem not_isBefore_self (a : α) : isBefore a a = false := by
  rw [Bool.eq_false_iff, Ne, isBefore_iff]
  exact Int.lt_irrefl _

theorem isBefore_trans (first : isBefore a b = true) (second : isBefore b c = true) :
    isBefore a c = true := by
  rw [isBefore_iff] at *
  exact Int.lt_trans first second

theorem not_isBefore_of_isBefore (before : isBefore a b = true) : isBefore b a = false := by
  rw [Bool.eq_false_iff, Ne, isBefore_iff]
  rw [isBefore_iff] at before
  omega

theorem ne_of_isBefore (before : isBefore a b = true) : a ≠ b := by
  rintro rfl
  rw [not_isBefore_self] at before
  exact Bool.false_ne_true before

theorem isBefore_or_eq_or_isBefore (a b : α) :
    isBefore a b = true ∨ a = b ∨ isBefore b a = true := by
  rw [isBefore_iff, isBefore_iff]
  exact (Int.lt_trichotomy (toInt a) (toInt b)).imp_right (Or.imp_left toInt_inj)

end Order

/-! ### Numbers -/

/-- Natural numbers of 64 bits; the greatest one names no line. -/
instance : LineId Nat where
  toInt n := n
  toInt_inj h := Int.ofNat.inj h
  noLine := UInt64.size - 1

/-- Words of 32 bits; the greatest one names no line. -/
instance : LineId UInt32 where
  toInt n := n.toNat
  toInt_inj h := UInt32.toNat.inj (Int.ofNat.inj h)
  noLine := 0xFFFFFFFF

/-- Words of 64 bits; the greatest one names no line. -/
instance : LineId UInt64 where
  toInt n := n.toNat
  toInt_inj h := UInt64.toNat.inj (Int.ofNat.inj h)
  noLine := 0xFFFFFFFFFFFFFFFF

/-- Signed words of 32 bits; minus one names no line. -/
instance : LineId Int32 where
  toInt n := n.toInt
  toInt_inj h := Int32.toInt_inj.1 h
  noLine := -1

/-- Signed words of 64 bits; minus one names no line. -/
instance : LineId Int64 where
  toInt n := n.toInt
  toInt_inj h := Int64.toInt_inj.1 h
  noLine := -1

end LineId

end LogLens
