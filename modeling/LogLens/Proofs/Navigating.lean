/-
Module: LogLens.Proofs.Navigating
Purpose: The two ways through marked lines.  From any line, marked or not and the value that names none
  included, the way forward leads to the least marked line behind it and the way back to the greatest
  one before it.  Followed to its end, a way comes to every marked line that lies ahead, once and in
  order.
Main exports: Way.IsNearest, Way.Visits, BookmarkIndex.nextAt, BookmarkIndex.prevAt,
  BookmarkIndex.Navigates, BookmarkIndex.run_navigates
-/
import LogLens.Proofs.Marking

namespace LogLens

open LineId BookmarkIndex

namespace Way

/-- Ascending lines as they are come to on a way. -/
def listed {α : Type} : Way → List α → List α
  | forward, values => values
  | back, values => values.reverse

@[simp] theorem mem_listed {α : Type} {way : Way} {values : List α} {line : α} :
    line ∈ way.listed values ↔ line ∈ values := by
  cases way <;> simp [listed]

variable {α : Type} [LineId α]

/-- The marked line that lies ahead with no other one in between. -/
structure IsNearest (way : Way) (marks : Finset α) (start line : α) : Prop where
  mem : line ∈ marks
  ahead : way.leads start line = true
  nearest : ∀ other ∈ marks, way.leads start other = true → way.leads other line = false

/-- The lines that are come to one after the other from a line on, until no line is told. -/
inductive Visits (step : α → α) : α → List α → Prop where
  | ends {line : α} (isNone : step line = noLine) : Visits step line []
  | goesOn {line : α} {rest : List α} (isLine : step line ≠ noLine)
      (further : Visits step (step line) rest) : Visits step line (step line :: rest)

/-- Whoever follows the same steps comes to the same lines. -/
theorem Visits.unique {step : α → α} {line : α} {lines others : List α}
    (visits : Visits step line lines) (visits' : Visits step line others) : others = lines := by
  induction visits generalizing others with
  | ends isNone =>
      cases visits' with
      | ends _ => rfl
      | goesOn isLine _ => exact absurd isNone isLine
  | goesOn isLine _ ih =>
      cases visits' with
      | ends isNone => exact absurd isNone isLine
      | goesOn _ further => rw [ih further]

/-! ### Lines in the order of a way -/

variable {way : Way} {a b c : α}

theorem not_leads_of_leads (leads : way.leads a b = true) : way.leads b a = false := by
  cases way <;> exact not_isBefore_of_isBefore leads

theorem eq_of_not_leads (apart : way.leads a b = false) (apart' : way.leads b a = false) :
    a = b := by
  cases way <;> rcases isBefore_or_eq_or_isBefore a b with before | same | behind <;>
    simp_all [leads]

/-- There is one nearest line at most. -/
theorem IsNearest.unique {marks : Finset α} {start line other : α}
    (nearest : way.IsNearest marks start line) (nearest' : way.IsNearest marks start other) :
    other = line :=
  eq_of_not_leads (nearest.nearest other nearest'.mem nearest'.ahead)
    (nearest'.nearest line nearest.mem nearest.ahead)

/-- Between two marked lines the ways lead to and fro. -/
theorem isNearest_forward_iff {marks : Finset α} (isMarked : a ∈ marks) (isMarked' : b ∈ marks) :
    forward.IsNearest marks a b ↔ back.IsNearest marks b a := by
  constructor
  · rintro ⟨_, ahead, nearest⟩
    refine ⟨isMarked, ahead, ?_⟩
    intro other member before
    by_contra between
    simp_all [leads]
  · rintro ⟨_, ahead, nearest⟩
    refine ⟨isMarked', ahead, ?_⟩
    intro other member behind
    by_contra between
    simp_all [leads]

/-- Listed one way, ascending lines come in the order in which a walk meets them. -/
theorem pairwise_listed {values : List α} (ascending : Ascending values) (way : Way) :
    (way.listed values).Pairwise fun a b => way.leads a b = true := by
  cases way with
  | forward => exact ascending
  | back => exact List.pairwise_reverse.2 ascending

/-- Of lines in the order of a way, those that lie ahead of a given one come last. -/
theorem exists_ahead {values : List α} (ordered : values.Pairwise fun a b => way.leads a b = true)
    (start : α) : ∃ passed ahead, values = passed ++ ahead ∧
      (∀ line ∈ passed, way.leads start line = false) ∧
        ∀ line ∈ ahead, way.leads start line = true := by
  induction values with
  | nil => exact ⟨[], [], by simp⟩
  | cons x rest ih =>
      obtain ⟨isFirst, orderedRest⟩ := List.pairwise_cons.1 ordered
      cases isAhead : way.leads start x with
      | true =>
          refine ⟨[], x :: rest, rfl, by simp, ?_⟩
          rw [List.forall_mem_cons]
          exact ⟨isAhead, fun line inRest => leads_trans isAhead (isFirst line inRest)⟩
      | false =>
          obtain ⟨passed, ahead, rfl, notAhead, areAhead⟩ := ih orderedRest
          exact ⟨x :: passed, ahead, rfl, List.forall_mem_cons.2 ⟨isAhead, notAhead⟩, areAhead⟩

end Way

namespace BookmarkIndex

variable {α : Type} [LineId α] {index : BookmarkIndex α} {marks : Finset α} {start line : α}

/-! ### One step -/

section Sides

variable {front back : List α} (sides : Sides line front back)
  (whole : index.values = front ++ back ∨ index.values = front ++ line :: back)
include sides whole

/-- The way forward leads to the first line of the far side. -/
theorem next?_eq : index.next? line = back.head? := by
  have notInFront : front.find? (isBefore line ·) = none := by
    rw [List.find?_eq_none]
    intro x inFront
    simp [not_isBefore_of_isBefore (sides.before x inFront)]
  have inBack : back.find? (isBefore line ·) = back.head? := by
    cases back with
    | nil => rfl
    | cons x rest => simp [sides.behind x (List.mem_cons_self ..)]
  rcases whole with whole | whole <;> simp [next?, whole, notInFront, not_isBefore_self, inBack]

/-- The way back leads to the last line of the near side. -/
theorem prev?_eq : index.prev? line = front.getLast? := by
  simp [prev?, sides.takeWhile_eq whole]

/-- The previous mark is the last one before the line. -/
theorem prev?_eq_find? : index.prev? line = index.values.reverse.find? (isBefore · line) := by
  have notInBack : back.reverse.find? (isBefore · line) = none := by
    simp only [List.find?_eq_none, List.mem_reverse]
    intro x inBack
    simp [not_isBefore_of_isBefore (sides.behind x inBack)]
  have inFront : front.reverse.find? (isBefore · line) = front.getLast? := by
    rw [← List.head?_reverse]
    cases reversed : front.reverse with
    | nil => rfl
    | cons x rest =>
        have member : x ∈ front := by
          rw [← List.mem_reverse, reversed]
          exact List.mem_cons_self ..
        simp [sides.before x member]
  rw [prev?_eq sides whole]
  rcases whole with whole | whole <;> simp [whole, notInBack, not_isBefore_self, inFront]

end Sides

/-- A step leads to the first line of the way that lies ahead. -/
theorem step_eq (ascending : Ascending index.values) (way : Way) (start : α) :
    way.step index start = ((way.listed index.values).find? (way.leads start)).getD noLine := by
  cases way with
  | forward => rfl
  | back =>
      obtain ⟨front, back, sides, whole⟩ := exists_sides ascending start
      exact congrArg (·.getD noLine) (prev?_eq_find? sides whole)

namespace Marks

variable (holds : index.Marks marks)
include holds

theorem mem_listed (way : Way) : line ∈ way.listed index.values ↔ line ∈ marks := by
  rw [Way.mem_listed, holds.mem]

theorem ne_noLine (isMarked : line ∈ marks) : line ≠ noLine := by
  rintro rfl
  exact holds.areLines ((holds.mem noLine).2 isMarked)

/-- What is found first on a way is the nearest line. -/
theorem isNearest_of_find? {way : Way}
    (found : (way.listed index.values).find? (way.leads start) = some line) :
    way.IsNearest marks start line := by
  obtain ⟨ahead, passed, rest, whole, notAhead⟩ := List.find?_eq_some_iff_append.1 found
  have ordered := Way.pairwise_listed holds.ascending way
  rw [whole] at ordered
  have isFirst := (List.pairwise_cons.1 (List.pairwise_append.1 ordered).2.1).1
  have members : ∀ other, other ∈ marks ↔ other ∈ passed ++ line :: rest := by
    intro other
    rw [← holds.mem_listed way, whole]
  refine ⟨(members line).2 (by simp), ahead, ?_⟩
  intro other isMarked isAhead
  rcases List.mem_append.1 ((members other).1 isMarked) with inPassed | inRest
  · have isPassed := notAhead other inPassed
    simp [isAhead] at isPassed
  · rcases List.mem_cons.1 inRest with rfl | inRest
    · exact way.not_leads_self other
    · exact Way.not_leads_of_leads (isFirst other inRest)

/-- A step runs off the end exactly when no mark lies that way. -/
theorem step_eq_noLine_iff (way : Way) (start : α) :
    way.step index start = noLine ↔ ∀ line ∈ marks, way.leads start line = false := by
  rw [step_eq holds.ascending]
  cases found : (way.listed index.values).find? (way.leads start) with
  | none =>
      have passed : ∀ line ∈ marks, way.leads start line = false := by
        simpa [holds.mem] using found
      simpa using passed
  | some line =>
      have nearest := holds.isNearest_of_find? found
      constructor
      · exact fun isNone => absurd isNone (holds.ne_noLine nearest.mem)
      · intro passed
        have notAhead := passed line nearest.mem
        simp [nearest.ahead] at notAhead

/-- A step answers a line exactly when that line is the nearest mark that way. -/
theorem step_eq_iff (way : Way) (start : α) (isLine : line ≠ noLine) :
    way.step index start = line ↔ way.IsNearest marks start line := by
  constructor
  · intro leads
    rw [step_eq holds.ascending] at leads
    cases found : (way.listed index.values).find? (way.leads start) with
    | none =>
        simp only [found, Option.getD_none] at leads
        exact absurd leads.symm isLine
    | some other =>
        simp only [found, Option.getD_some] at leads
        exact leads ▸ holds.isNearest_of_find? found
  · intro nearest
    -- There is a line ahead, so one is found, and it is the nearest one.
    cases found : (way.listed index.values).find? (way.leads start) with
    | none =>
        have notAhead := List.find?_eq_none.1 found line
          ((holds.mem_listed way).2 nearest.mem)
        exact absurd nearest.ahead notAhead
    | some other =>
        rw [step_eq holds.ascending, found, Option.getD_some]
        exact nearest.unique (holds.isNearest_of_find? found)

/-! ### Ways followed to their ends -/

/-- The lines that lie ahead are come to one after the other. -/
theorem visits_ahead {way : Way} {passed ahead : List α}
    (whole : way.listed index.values = passed ++ ahead)
    (notAhead : ∀ line ∈ passed, way.leads start line = false)
    (areAhead : ∀ line ∈ ahead, way.leads start line = true) :
    Way.Visits (way.step index) start ahead := by
  induction ahead generalizing passed start with
  | nil =>
      apply Way.Visits.ends
      rw [holds.step_eq_noLine_iff]
      intro line isMarked
      apply notAhead
      rw [← holds.mem_listed way, whole] at isMarked
      simpa using isMarked
  | cons x rest ih =>
      have ordered := Way.pairwise_listed holds.ascending way
      rw [whole] at ordered
      obtain ⟨_, orderedRest, apart⟩ := List.pairwise_append.1 ordered
      have leads : way.step index start = x := by
        have notPassed : passed.find? (way.leads start) = none := by simpa using notAhead
        rw [step_eq holds.ascending, whole]
        simp [notPassed, areAhead x]
      have isMarked : x ∈ marks := by
        rw [← holds.mem_listed way, whole]
        simp
      have further : Way.Visits (way.step index) x rest := by
        have wholeNext : way.listed index.values = (passed ++ [x]) ++ rest := by simp [whole]
        apply ih wholeNext
        · intro line isPassed
          rcases List.mem_append.1 isPassed with inPassed | isIt
          · exact Way.not_leads_of_leads (apart line inPassed x (List.mem_cons_self ..))
          · rw [List.mem_singleton.1 isIt]
            exact way.not_leads_self x
        · exact (List.pairwise_cons.1 orderedRest).1
      have goesOn := Way.Visits.goesOn (leads ▸ holds.ne_noLine isMarked) (leads.symm ▸ further)
      rwa [leads] at goesOn

/-- Every marked line that lies ahead is come to, once and in order, and then the way ends. -/
theorem exists_visits (way : Way) (start : α) :
    ∃ lines, (∀ visited, Way.Visits (way.step index) start visited ↔ visited = lines) ∧
      (lines.Pairwise fun a b => way.leads a b = true) ∧
        ∀ line, line ∈ lines ↔ line ∈ marks ∧ way.leads start line = true := by
  have ordered := Way.pairwise_listed holds.ascending way
  obtain ⟨passed, ahead, whole, notAhead, areAhead⟩ := Way.exists_ahead ordered start
  have visits := holds.visits_ahead whole notAhead areAhead
  refine ⟨ahead, ?_, ?_, ?_⟩
  · intro visited
    constructor
    · exact visits.unique
    · rintro rfl
      exact visits
  · rw [whole] at ordered
    exact (List.pairwise_append.1 ordered).2.1
  · intro line
    rw [← holds.mem_listed way, whole, List.mem_append]
    constructor
    · exact fun inAhead => ⟨Or.inr inAhead, areAhead line inAhead⟩
    · rintro ⟨inPassed | inAhead, isAhead⟩
      · simp [notAhead line inPassed] at isAhead
      · exact inAhead

end Marks

/-! ### Steps that are looked up -/

/-- The first marked line behind a line, found at a place that parts the marked lines at it: what
stands there, or next to it if the line stands there itself. -/
def nextAt [DecidableEq α] (index : BookmarkIndex α) (line : α) (place : Nat) : α :=
  if index.values[place]? = some line then index.values[place + 1]?.getD noLine
  else index.values[place]?.getD noLine

/-- The last marked line before a line, found at a place that parts the marked lines at it. -/
def prevAt (index : BookmarkIndex α) : Nat → α
  | 0 => noLine
  | place + 1 => index.values[place]?.getD noLine

theorem next_eq_nextAt [DecidableEq α] (ascending : Ascending index.values) {place : Nat}
    (parts : PartsAt index.values line place) : index.next line = index.nextAt line place := by
  obtain ⟨front, back, sides, whole⟩ := exists_sides ascending line
  have isPlace : place = front.length :=
    parts.eq_position.trans (congrArg List.length (sides.takeWhile_eq whole))
  rw [next, next?_eq sides whole, nextAt, isPlace]
  rcases whole with whole | whole
  · have notThere : ¬index.values[front.length]? = some line := by
      intro isThere
      exact sides.not_mem (whole ▸ List.mem_of_getElem? isThere)
    rw [if_neg notThere]
    simp [whole, List.head?_eq_getElem?, List.getElem?_append_right]
  · simp [whole, List.head?_eq_getElem?, List.getElem?_append_right]

theorem prev_eq_prevAt (ascending : Ascending index.values) {place : Nat}
    (parts : PartsAt index.values line place) : index.prev line = index.prevAt place := by
  obtain ⟨front, back, sides, whole⟩ := exists_sides ascending line
  have isPlace : place = front.length :=
    parts.eq_position.trans (congrArg List.length (sides.takeWhile_eq whole))
  rw [prev, prev?_eq sides whole, isPlace, List.getLast?_eq_getElem?]
  cases counted : front.length with
  | zero => simp [prevAt, List.length_eq_zero_iff.1 counted]
  | succ count =>
      have inFront : count < front.length := by omega
      rcases whole with whole | whole <;>
        simp [prevAt, whole, List.getElem?_append_left inFront]

/-! ### Runs -/

variable [DecidableEq α]

/-- The ways through an index are those through the set that it holds. -/
structure Navigates (index : BookmarkIndex α) (marks : Finset α) : Prop where
  leads : ∀ (way : Way) start line, line ≠ noLine →
    (way.step index start = line ↔ way.IsNearest marks start line)
  ends : ∀ (way : Way) start,
    way.step index start = noLine ↔ ∀ line ∈ marks, way.leads start line = false
  /-- A way that is followed comes to all lines ahead, each of them once, and ends. -/
  visits : ∀ (way : Way) start, ∃ lines,
    (∀ visited, Way.Visits (way.step index) start visited ↔ visited = lines) ∧
      (lines.Pairwise fun a b => way.leads a b = true) ∧
        ∀ line, line ∈ lines ↔ line ∈ marks ∧ way.leads start line = true
  inverse : ∀ a ∈ marks, ∀ b ∈ marks, isBefore a b = true →
    (index.next a = b ↔ index.prev b = a)
  /-- However a line is looked up, the steps from it are the same. -/
  searched : ∀ line place, PartsAt index.values line place →
    index.next line = index.nextAt line place ∧ index.prev line = index.prevAt place

/-- The answers of an index are those of the set it holds. -/
theorem Marks.navigates (holds : index.Marks marks) : index.Navigates marks where
  leads way start _ isLine := holds.step_eq_iff way start isLine
  ends := holds.step_eq_noLine_iff
  visits := holds.exists_visits
  inverse a isMarked b isMarked' _ := by
    have next := holds.step_eq_iff .forward a (holds.ne_noLine isMarked')
    have prev := holds.step_eq_iff .back b (holds.ne_noLine isMarked)
    exact next.trans ((Way.isNearest_forward_iff isMarked isMarked').trans prev.symm)
  searched _ _ parts :=
    ⟨next_eq_nextAt holds.ascending parts, prev_eq_prevAt holds.ascending parts⟩

/-- After any calls that pass lines only, an index holds the set that they describe. -/
theorem exists_marks {calls : List (Call α)} (areLines : ∀ call ∈ calls, call.line? ≠ some noLine) :
    ∃ index, run calls = .ok index ∧ index.Marks (described calls) := by
  apply foldlM_tracks_of_mem (fun marks call => Call.onSet marks call) _ ∅ marks_empty
  intro call member index marks holds
  exact holds.step (areLines call member)

/-- After any calls that pass lines only, the ways through the marked lines are those through the set
that the calls describe. -/
theorem run_navigates (calls : List (Call α))
    (areLines : ∀ call ∈ calls, call.line? ≠ some noLine) :
    ∃ index, run calls = .ok index ∧ index.Navigates (described calls) := by
  obtain ⟨index, runs, holds⟩ := exists_marks areLines
  exact ⟨index, runs, holds.navigates⟩

/-- Minus one names no line and may still be where a way begins; the least and the greatest line are
reached like all others. -/
theorem run_navigates_signed :
    let calls : List (Call Int32) := [.insert 5, .toggle (-7), .insert 2147483647, .remove 5,
      .toggle (-2147483648), .insert 0, .insert 0]
    (∀ call ∈ calls, call.line? ≠ some noLine) ∧
      ∃ index, run calls = .ok index ∧ index.Navigates (described calls) ∧
        (index.next (-1), index.prev (-1), index.next 2147483647) = (0, -7, -1) ∧
        Way.Visits index.prev (-1) [-7, -2147483648] := by
  intro calls
  have areLines : ∀ call ∈ calls, call.line? ≠ some noLine := by decide
  obtain ⟨index, runs, navigates⟩ := run_navigates calls areLines
  refine ⟨areLines, index, runs, navigates, ?_⟩
  have isRun : run calls = .ok ⟨[-2147483648, -7, 0, 2147483647]⟩ := rfl
  rw [isRun] at runs
  cases runs
  exact ⟨rfl, .goesOn (by decide) (.goesOn (by decide) (.ends rfl))⟩

end BookmarkIndex

end LogLens
