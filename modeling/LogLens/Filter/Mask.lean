/-
Module: LogLens.Filter.Mask
Purpose: The places that filters take, sets of places as bit masks, and when the filters of a
  line's mask let it be seen.
Main exports: maxFilters, Slot, Mask, Slot.bit, isVisible
-/

namespace LogLens

/-- How many filters there can be at a time. -/
abbrev maxFilters : Nat := 32

/-- The place of a filter, which is its bit in the mask of every line. -/
abbrev Slot : Type := Fin maxFilters

/-- One bit for each place. -/
abbrev Mask : Type := BitVec maxFilters

/-- All places in order. -/
def Slot.all : List Slot := List.finRange maxFilters

/-- The mask that holds one place alone. -/
def Slot.bit (slot : Slot) : Mask := 1#32 <<< slot.val

namespace Mask

/-- Whether a mask holds a place. -/
def has (mask : Mask) (slot : Slot) : Bool := mask.getLsbD slot.val

end Mask

/-- Whether a line with the given mask is seen: an enabled filter keeps it, or there is none that
keeps, and no enabled filter hides it. -/
def isVisible (mask kept hidden : Mask) : Bool :=
  (mask &&& kept != 0 || kept == 0) && mask &&& hidden == 0

namespace Mask

@[simp] theorem has_zero (slot : Slot) : has 0 slot = false := BitVec.getLsbD_zero

@[simp] theorem has_bit (slot other : Slot) : slot.bit.has other = decide (slot = other) := by
  simp only [has, Slot.bit, BitVec.getLsbD_shiftLeft, BitVec.getLsbD_one]
  grind

@[simp] theorem has_and (a b : Mask) (slot : Slot) : (a &&& b).has slot = (a.has slot && b.has slot) :=
  BitVec.getLsbD_and

@[simp] theorem has_or (a b : Mask) (slot : Slot) : (a ||| b).has slot = (a.has slot || b.has slot) :=
  BitVec.getLsbD_or

@[simp] theorem has_not (mask : Mask) (slot : Slot) : (~~~mask).has slot = !mask.has slot := by
  simp [has, slot.isLt]

/-- Masks that hold the same places are the same. -/
theorem ext_has {a b : Mask} (same : ∀ slot, a.has slot = b.has slot) : a = b :=
  BitVec.eq_of_getLsbD_eq fun i inRange => same ⟨i, inRange⟩

/-- A mask is empty exactly when no slot is in it. -/
theorem eq_zero_iff {mask : Mask} : mask = 0 ↔ ∀ slot, mask.has slot = false := by
  constructor
  · rintro rfl slot
    exact has_zero slot
  · intro empty
    exact ext_has fun slot => by rw [empty slot, has_zero]

end Mask

end LogLens
