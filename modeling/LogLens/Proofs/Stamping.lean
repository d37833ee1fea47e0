/-
Module: LogLens.Proofs.Stamping
Purpose: What every operation on the results of the filters does to the columns.  The loops that
  stamp and take back never leave the masks, whatever the numbers are, as long as no place counts
  more lines than have a mask.
Main exports: FilterState.column_forget, FilterState.stampLines_alters, FilterState.takeBack_alters
-/
import LogLens.Proofs.Column

namespace LogLens.FilterState

/-! ### A new state -/

theorem mask_new (logfile : String) (line : Nat) : (new logfile).mask line = 0 := by
  simp [new, mask]

theorem count_new (logfile : String) (slot : Slot) : (new logfile).count slot = 0 := by
  simp [new, count]

theorem hits_new (logfile : String) (slot : Slot) : (new logfile).hits slot = 0 := by
  simp [new, hits]

@[simp] theorem column_new (logfile : String) (slot : Slot) : (new logfile).column slot = {} := by
  simp [column, count_new, hits_new]

theorem bounded_new (logfile : String) : (new logfile).Bounded where
  count_le slot := by rw [count_new]; exact Nat.zero_le _
  blank slot line _ := by rw [mask_new, Mask.has_zero]

/-! ### Room -/

/-- Making room changes no mask that is there and adds empty ones. -/
@[simp] theorem mask_resize (state : FilterState) (room line : Nat) :
    (state.resize room).mask line = state.mask line := by
  simp only [mask, resize, Array.getElem?_append]
  by_cases inRange : line < state.masks.size
  · rw [if_pos inRange]
  · have beyond : state.masks[line]? = none := Array.getElem?_eq_none (by omega)
    rw [if_neg inRange, beyond, Array.getElem?_replicate]
    split <;> rfl

@[simp] theorem count_resize (state : FilterState) (room : Nat) (slot : Slot) :
    (state.resize room).count slot = state.count slot := rfl

/-- Making room never shortens the state. -/
@[simp] theorem length_resize (state : FilterState) (room : Nat) :
    (state.resize room).length = max state.length room := by
  simp only [length, resize, Array.size_append, Array.size_replicate]
  omega

/-- Where there is room enough, none is made. -/
theorem resize_of_le {state : FilterState} {room : Nat} (enough : room ≤ state.length) :
    state.resize room = state := by
  simp [resize, Nat.sub_eq_zero_of_le enough]

theorem resize_max (state : FilterState) (room : Nat) :
    state.resize (max state.length room) = state.resize room := by
  have further : max state.length room - state.length = room - state.length := by omega
  rw [resize, further, resize]

/-- Room that is made twice is made once. -/
theorem resize_resize (state : FilterState) (room more : Nat) :
    (state.resize room).resize more = state.resize (max room more) := by
  have all : room - state.masks.size + (more - (state.masks.size + (room - state.masks.size))) =
      max room more - state.masks.size := by omega
  simp only [resize, length, Array.size_append, Array.size_replicate, Array.append_assoc,
    Array.replicate_append_replicate, all]

@[simp] theorem column_resize (state : FilterState) (room : Nat) (slot : Slot) :
    (state.resize room).column slot = state.column slot :=
  column_congr rfl rfl fun line _ => by rw [mask_resize]

/-- Making room keeps the state bounded. -/
theorem Bounded.resize {state : FilterState} (bounded : state.Bounded) (room : Nat) :
    (state.resize room).Bounded where
  count_le slot := by
    have counted := bounded.count_le slot
    rw [count_resize, length_resize]
    omega
  blank slot line behind := by
    rw [mask_resize]
    exact bounded.blank slot line behind

/-! ### Forgetting -/

/-- Forgetting clears the bits of the places forgotten, on every line. -/
@[simp] theorem mask_forget (state : FilterState) (places : Mask) (line : Nat) :
    (state.forget places).mask line = state.mask line &&& ~~~places := by
  simp only [mask, forget, Array.getElem?_map]
  cases state.masks[line]? with
  | none => simp
  | some stored => simp

@[simp] theorem count_forget (state : FilterState) (places : Mask) (slot : Slot) :
    (state.forget places).count slot = if places.has slot then 0 else state.count slot := by
  simp [forget, count]

@[simp] theorem hits_forget (state : FilterState) (places : Mask) (slot : Slot) :
    (state.forget places).hits slot = if places.has slot then 0 else state.hits slot := by
  simp [forget, hits]

@[simp] theorem length_forget (state : FilterState) (places : Mask) :
    (state.forget places).length = state.length := by
  simp [forget, length]

/-- Forgetting empties the columns of the given places and keeps the others. -/
@[simp] theorem column_forget (state : FilterState) (places : Mask) (slot : Slot) :
    (state.forget places).column slot = if places.has slot then {} else state.column slot := by
  by_cases forgotten : places.has slot
  · simp [column, forgotten]
  · rw [if_neg forgotten]
    apply column_congr (by simp [forgotten]) (by simp [forgotten])
    intro line _
    simp [forgotten]

theorem Bounded.forget {state : FilterState} (bounded : state.Bounded) (places : Mask) :
    (state.forget places).Bounded where
  count_le slot := by
    have counted := bounded.count_le slot
    rw [count_forget, length_forget]
    split <;> omega
  blank slot line behind := by
    rw [mask_forget, Mask.has_and, Mask.has_not]
    by_cases forgotten : places.has slot
    · simp [forgotten]
    · rw [count_forget, if_neg forgotten] at behind
      simp [bounded.blank slot line behind]

@[simp] theorem length_retain (state : FilterState) (used : Mask) :
    (state.retain used).length = state.length := length_forget state (~~~used)

/-- Retaining keeps the columns of the given places and empties the others. -/
@[simp] theorem column_retain (state : FilterState) (used : Mask) (slot : Slot) :
    (state.retain used).column slot = if used.has slot then state.column slot else {} := by
  rw [retain, column_forget, Mask.has_not]
  cases used.has slot <;> rfl

theorem Bounded.retain {state : FilterState} (bounded : state.Bounded) (used : Mask) :
    (state.retain used).Bounded := bounded.forget (~~~used)

/-! ### Stamping line by line -/

theorem Alters.trans {slot : Slot} {middleColumn lastColumn : Column} {middleLength lastLength : Nat}
    {first middle last : FilterState} (one : Alters slot middleColumn middleLength first middle)
    (two : Alters slot lastColumn lastLength middle last) :
    Alters slot lastColumn lastLength first last where
  bounded := two.bounded
  logfile := two.logfile.trans one.logfile
  length_eq := two.length_eq
  own := two.own
  other other apart := (two.other other apart).trans (one.other other apart)

theorem Bounded.alters_refl {state : FilterState} (bounded : state.Bounded) (slot : Slot) :
    Alters slot (state.column slot) state.length state state :=
  ⟨bounded, rfl, rfl, rfl, fun _ _ => rfl⟩

theorem Bounded.alters_resize {state : FilterState} (bounded : state.Bounded) (slot : Slot)
    (room : Nat) :
    Alters slot (state.column slot) (max state.length room) state (state.resize room) where
  bounded := bounded.resize room
  logfile := rfl
  length_eq := length_resize state room
  own := column_resize state room slot
  other other _ := column_resize state room other

/-- A change is known from the counters and the bits that it leaves. -/
theorem Bounded.alters_of_bits {before after : FilterState} (bounded : before.Bounded)
    {slot : Slot} {column : Column} (room : column.count ≤ before.length)
    (logfile : after.logfile = before.logfile) (length_eq : after.length = before.length)
    (counts : ∀ other, after.count other = if other = slot then column.count else before.count other)
    (hits : ∀ other, after.hits other = if other = slot then column.hits else before.hits other)
    (bits : ∀ line other, (after.mask line).has other =
      if other = slot then column.marked line else (before.mask line).has other) :
    Alters slot column before.length before after := by
  have boundedAfter : after.Bounded := by
    constructor
    case count_le =>
      intro other
      have counted := bounded.count_le other
      rw [counts other, length_eq]
      split <;> omega
    case blank =>
      intro other line behind
      rw [counts other] at behind
      rw [bits line other]
      by_cases own : other = slot
      · rw [if_pos own] at behind ⊢
        exact Column.marked_of_count_le behind
      · rw [if_neg own] at behind ⊢
        exact bounded.blank other line behind
  refine ⟨boundedAfter, logfile, length_eq, ?_, ?_⟩
  · have marks : (after.column slot).marks = column.marks := by
      apply List.ext_getElem
      · simp [FilterState.column, counts slot, Column.count]
      · intro line inAfter inColumn
        have bit := bits line slot
        rw [if_pos rfl, Column.marked, List.getElem?_eq_getElem inColumn] at bit
        simpa [FilterState.column] using bit
    have hitsEq := hits slot
    rw [if_pos rfl] at hitsEq
    cases column
    simp_all [FilterState.column]
  · intro other apart
    apply column_congr
    · rw [counts other, if_neg apart]
    · rw [hits other, if_neg apart]
    · intro line _
      rw [bits line other, if_neg apart]

/-- Writing sets one bit and nothing else. -/
theorem write_ok {state : FilterState} {line : Nat} (inRange : line < state.length) (slot : Slot)
    (matched : Bool) :
    ∃ after, state.write line slot.bit matched = .ok after ∧ after.counts = state.counts ∧
      after.hitCounts = state.hitCounts ∧ after.logfile = state.logfile ∧
      after.length = state.length ∧
      ∀ l other, (after.mask l).has other =
        if l = line ∧ other = slot then matched else (state.mask l).has other := by
  unfold write
  rw [dif_pos (show line < state.masks.size from inRange)]
  refine ⟨_, rfl, rfl, rfl, rfl, by simp [length], ?_⟩
  intro l other
  by_cases here : l = line
  · subst here
    have stored : l < state.masks.size := inRange
    by_cases own : other = slot
    · subst own
      cases matched <;> simp [mask, stored]
    · have apart : ¬slot = other := fun same => own same.symm
      cases matched <;> simp [mask, stored, own, apart]
  · have elsewhere : ¬line = l := fun same => here same.symm
    simp [mask, here, elsewhere]

theorem entry_set (counts : Vector Nat maxFilters) (slot other : Slot) (value : Nat) :
    getElem (counts.set slot.val value slot.isLt) other.val other.isLt =
      if other = slot then value else getElem counts other.val other.isLt := by
  rw [Vector.getElem_set]
  by_cases own : other = slot
  · rw [if_pos (congrArg Fin.val own.symm), if_pos own]
  · rw [if_neg fun same => own (Fin.ext same.symm), if_neg own]

/-- Counting one line more does not touch the masks. -/
theorem advance_ok {state : FilterState} {slot : Slot} (room : state.count slot < state.length)
    (matched : Bool) :
    ∃ after, state.advance slot matched = .ok after ∧ after.masks = state.masks ∧
      after.logfile = state.logfile ∧
      (∀ other, after.count other =
        if other = slot then state.count slot + 1 else state.count other) ∧
      ∀ other, after.hits other =
        if other = slot then state.hits slot + (if matched then 1 else 0) else state.hits other := by
  unfold advance
  rw [if_pos room]
  refine ⟨_, rfl, rfl, rfl, ?_, ?_⟩
  · intro other
    exact entry_set _ _ _ _
  · intro other
    exact entry_set _ _ _ _

/-- Counting one line less does not touch the masks. -/
theorem retreat_ok {state : FilterState} {slot : Slot} {count' : Nat}
    (countEq : state.count slot = count' + 1) (matched : Bool) :
    ∃ after, state.retreat slot matched = .ok after ∧ after.masks = state.masks ∧
      after.logfile = state.logfile ∧
      (∀ other, after.count other = if other = slot then count' else state.count other) ∧
      ∀ other, after.hits other =
        if other = slot then state.hits slot - (if matched then 1 else 0) else state.hits other := by
  unfold retreat
  rw [countEq]
  refine ⟨_, rfl, rfl, rfl, ?_, ?_⟩
  · intro other
    exact entry_set _ _ _ _
  · intro other
    exact entry_set _ _ _ _

/-- One stamp more marks the line behind the stamped ones. -/
theorem Bounded.marked_stamp {state : FilterState} (bounded : state.Bounded) (slot : Slot)
    (matched : Bool) (line : Nat) :
    ((state.column slot).stamp 1 matched).marked line =
      if line = state.count slot then matched else (state.mask line).has slot := by
  rw [Column.marked_stamp, count_column, ← bounded.has_mask]
  rcases Nat.lt_trichotomy line (state.count slot) with before | rfl | behind
  · rw [if_pos before, if_neg (Nat.ne_of_lt before)]
  · simp
  · have notBefore : ¬line < state.count slot := by omega
    have notNext : ¬line < state.count slot + 1 := by omega
    have blank := bounded.blank slot line (Nat.le_of_lt behind)
    simp [notBefore, notNext, Nat.ne_of_gt behind, blank]

/-- One stamp less clears the last stamped line. -/
theorem Bounded.marked_unstamp {state : FilterState} (bounded : state.Bounded) {slot : Slot}
    {count' : Nat} (countEq : state.count slot = count' + 1) (matched : Bool) (line : Nat) :
    ((state.column slot).unstamp 1 matched).marked line =
      if line = count' then false else (state.mask line).has slot := by
  rw [Column.marked_unstamp, count_column, ← bounded.has_mask, countEq, Nat.add_sub_cancel]
  rcases Nat.lt_trichotomy line count' with before | rfl | behind
  · simp [before, Nat.ne_of_lt before]
  · simp
  · have notBefore : ¬line < count' := by omega
    have blank := bounded.blank slot line (by omega)
    simp [notBefore, Nat.ne_of_gt behind, blank]

/-- One stamp adds one mark to its own column. -/
theorem stampNext_alters {state : FilterState} (bounded : state.Bounded) {slot : Slot}
    (room : state.count slot < state.length) (matched : Bool) :
    ∃ after, state.stampNext slot matched = .ok after ∧
      Alters slot ((state.column slot).stamp 1 matched) state.length state after := by
  obtain ⟨written, writes, counts, hitCounts, logfile, length, bits⟩ :=
    write_ok room slot matched
  have countEq : ∀ other, written.count other = state.count other := fun other => by
    rw [count, counts, count]
  have hitsEq : ∀ other, written.hits other = state.hits other := fun other => by
    rw [hits, hitCounts, hits]
  have roomWritten : written.count slot < written.length := by
    rw [countEq, length]
    exact room
  obtain ⟨after, advances, masks, logfileAfter, countAfter, hitsAfter⟩ :=
    advance_ok roomWritten matched
  have stamps : state.stampNext slot matched = .ok after := by
    simp only [stampNext, writes, bind, Except.bind]
    exact advances
  have lengthAfter : after.length = state.length := by
    rw [FilterState.length, masks]
    exact length
  refine ⟨after, stamps, bounded.alters_of_bits ?_ (logfileAfter.trans logfile) lengthAfter ?_ ?_ ?_⟩
  · rw [Column.count_stamp, count_column]
    exact room
  · intro other
    rw [countAfter, countEq, countEq, Column.count_stamp, count_column]
  · intro other
    rw [hitsAfter, hitsEq, hitsEq]
    rfl
  · intro line other
    rw [mask, masks, bounded.marked_stamp]
    refine (bits line other).trans ?_
    by_cases own : other = slot
    · simp [own]
    · simp [own]

/-- One stamp taken back takes one mark from its own column. -/
theorem takeBackLast_alters {state : FilterState} (bounded : state.Bounded) {slot : Slot}
    (stamped : state.count slot ≠ 0) (matched : Bool) :
    ∃ after, state.takeBackLast slot matched = .ok after ∧
      Alters slot ((state.column slot).unstamp 1 matched) state.length state after := by
  obtain ⟨count', countEq⟩ := Nat.exists_eq_succ_of_ne_zero stamped
  obtain ⟨retreated, retreats, masks, logfile, countRetreated, hitsRetreated⟩ :=
    retreat_ok countEq matched
  have ownCount : retreated.count slot = count' := by
    rw [countRetreated, if_pos rfl]
  have inRange : count' < retreated.length := by
    have counted := bounded.count_le slot
    rw [FilterState.length, masks]
    apply Nat.lt_of_lt_of_le ?_ counted
    rw [countEq]
    exact Nat.lt_succ_self count'
  obtain ⟨after, writes, counts, hitCounts, logfileAfter, length, bits⟩ :=
    write_ok inRange slot false
  have takesBack : state.takeBackLast slot matched = .ok after := by
    simp only [takeBackLast, retreats, bind, Except.bind, ownCount]
    exact writes
  have lengthAfter : after.length = state.length := by
    rw [length, FilterState.length, masks]
    rfl
  refine ⟨after, takesBack,
    bounded.alters_of_bits ?_ (logfileAfter.trans logfile) lengthAfter ?_ ?_ ?_⟩
  · rw [Column.count_unstamp, count_column]
    exact Nat.le_trans (Nat.sub_le _ _) (bounded.count_le slot)
  · intro other
    rw [count, counts, Column.count_unstamp, count_column, countEq]
    exact countRetreated other
  · intro other
    have least : min 1 (state.count slot) = 1 := by omega
    rw [hits, hitCounts, Column.unstamp, count_column, least]
    exact hitsRetreated other
  · intro line other
    have sameMask : retreated.mask line = state.mask line := by
      rw [mask, masks, mask]
    rw [bits line other, sameMask, bounded.marked_unstamp countEq]
    by_cases own : other = slot
    · simp [own]
    · simp [own]

/-- Stamping needs room for the stamped lines and nothing else. -/
theorem stampLines_alters {state : FilterState} (bounded : state.Bounded) {slot : Slot}
    (matched : Bool) (lines : Nat) (room : state.count slot + lines ≤ state.length) :
    ∃ after, stampLines slot matched lines state = .ok after ∧
      Alters slot ((state.column slot).stamp lines matched) state.length state after := by
  induction lines generalizing state with
  | zero =>
      refine ⟨state, rfl, ?_⟩
      rw [Column.stamp_zero]
      exact bounded.alters_refl slot
  | succ lines ih =>
      have roomNext : state.count slot < state.length := by omega
      obtain ⟨next, stamps, alters⟩ := stampNext_alters bounded roomNext matched
      have countNext : next.count slot = state.count slot + 1 := by
        rw [← count_column, alters.own, Column.count_stamp, count_column]
      obtain ⟨after, stampsRest, altersRest⟩ :=
        ih alters.bounded (by rw [countNext, alters.length_eq]; omega)
      refine ⟨after, ?_, ?_⟩
      · simp only [stampLines, stamps, bind, Except.bind]
        exact stampsRest
      · have all := alters.trans altersRest
        rw [alters.own, Column.stamp_stamp, Nat.add_comm 1 lines, alters.length_eq] at all
        exact all

/-- Taking back stops where no line is stamped. -/
theorem takeBack_alters {state : FilterState} (bounded : state.Bounded) (slot : Slot)
    (matched : Bool) (lines : Nat) :
    ∃ after, takeBack slot matched lines state = .ok (min lines (state.count slot), after) ∧
      Alters slot ((state.column slot).unstamp lines matched) state.length state after := by
  induction lines generalizing state with
  | zero =>
      refine ⟨state, by rw [Nat.zero_min]; rfl, ?_⟩
      rw [Column.unstamp_zero]
      exact bounded.alters_refl slot
  | succ lines ih =>
      by_cases stamped : state.count slot = 0
      · refine ⟨state, ?_, ?_⟩
        · simp only [takeBack, stamped, if_true, Nat.min_zero]
        · rw [Column.unstamp_of_count_eq_zero (by rw [count_column, stamped])]
          exact bounded.alters_refl slot
      · obtain ⟨next, takes, alters⟩ := takeBackLast_alters bounded stamped matched
        have countNext : next.count slot = state.count slot - 1 := by
          rw [← count_column, alters.own, Column.count_unstamp, count_column]
        obtain ⟨after, takesRest, altersRest⟩ := ih alters.bounded
        refine ⟨after, ?_, ?_⟩
        · simp only [takeBack, stamped, if_false, takes, takesRest, bind, Except.bind, pure,
            Except.pure, Except.ok.injEq, Prod.mk.injEq, and_true, countNext]
          omega
        · have all := alters.trans altersRest
          rw [alters.own, Column.unstamp_unstamp, Nat.add_comm 1 lines, alters.length_eq] at all
          exact all

end LogLens.FilterState
